import Mathlib.Data.List.TakeWhile
import ParseFlow.Proofs.Parser.Primitive
import ParseFlow.Proofs.Parser.Repetition
import ParseFlow.Proofs.Pipeline.Operations
import ParseFlow.Proofs.View.Reading

/-!
# Repeated items

A parser of single items makes one match for each item in front of the view that it accepts, however
wide the items are. No such match consumes nothing, so that the greedy run goes on up to the first
item that is not accepted. Repetitions of such parsers part the items of a view as the operations of
pipelines do that take or drop some of them.
-/
namespace ParseFlow.Parser

open View Pipeline

variable {α : Type} [Item α]

/-- The matches that take the items one by one, each with the view behind it. -/
def itemRun (v : View α) : List α → List (α × View α)
  | [] => []
  | x :: items => (x, v.behind [x]) :: itemRun (v.behind [x]) items

section ItemRun

variable (v : View α) (items : List α)

theorem values_itemRun : (itemRun v items).map (·.1) = items := by
  induction items generalizing v with
  | nil => rfl
  | cons x items ih => exact congrArg (List.cons x) (ih (v.behind [x]))

theorem leftBy_itemRun : leftBy v (itemRun v items) = v.behind items := by
  induction items generalizing v with
  | nil => rfl
  | cons x items ih => exact (ih (v.behind [x])).trans (v.behind_append [x] items).symm

theorem length_itemRun : (itemRun v items).length = items.length := by
  rw [← List.length_map (·.1), values_itemRun]

theorem take_itemRun (n : Nat) : (itemRun v items).take n = itemRun v (items.take n) := by
  induction n generalizing v items with
  | zero => rfl
  | succ n ih =>
    cases items with
    | nil => rfl
    | cons x items => exact congrArg (List.cons _) (ih (v.behind [x]) items)

end ItemRun

variable {v : View α} {accept : α → Bool} {reason : String} {p : Parser α α}

/-- A single item is never matched without consuming something. -/
theorem offset_behind_item_ne (v : View α) (x : α) : (v.behind [x]).offset ≠ v.offset := by
  have hw := Item.width_pos x
  simp only [behind, extent_cons, extent_nil]
  omega

theorem length_le_extent (items : List α) : items.length ≤ extent items := by
  induction items with
  | nil => exact Nat.le_refl 0
  | cons x items ih =>
    have hw := Item.width_pos x
    rw [List.length_cons, extent_cons]
    omega

namespace Recognises

variable (hp : Recognises p (findFirst accept) reason) (hv : v.Valid)

include hp hv

/-- The greedy run takes the accepted items in front and stops before the first other one. -/
theorem greedyRun {items : List α} (hw : v.window = items) :
    GreedyRun p v (itemRun v (items.takeWhile accept)) := by
  induction items generalizing v with
  | nil =>
    have hnone : findFirst accept v.window = none := by
      rw [hw]
      rfl
    exact .failed (hp.missing hv hnone)
  | cons x items ih =>
    by_cases hx : accept x = true
    · have hsome : findFirst accept v.window = some (x, [x]) := by
        rw [hw]
        exact if_pos hx
      have hfront : v.window = [x] ++ items := hw
      obtain ⟨hvalid, hrest⟩ := hv.behind_spec hfront
      rw [List.takeWhile_cons_of_pos hx]
      exact .onwards (hp.found hv hsome) (offset_behind_item_ne v x) (ih hvalid hrest)
    · have hnone : findFirst accept v.window = none := by
        rw [hw]
        exact if_neg hx
      rw [List.takeWhile_cons_of_neg hx]
      exact .failed (hp.missing hv hnone)

theorem many_parse (hlen : v.len ≤ maxIndex) : (p.many.parse v).value =
    .success (v.window.takeWhile accept) (v.behind (v.window.takeWhile accept)) := by
  have hshort : (itemRun v (v.window.takeWhile accept)).length ≤ maxIndex := by
    have htake := (List.takeWhile_prefix (l := v.window) accept).length_le
    have hextent := length_le_extent v.window
    rw [hv.extent_window] at hextent
    rw [length_itemRun]
    omega
  rw [(hp.greedyRun hv rfl).many_eq hshort, values_itemRun, leftBy_itemRun]

/-- Up to a number of times. -/
theorem repeat_parse {r : Parser α (List α)} {n : Nat} (hr : p.repeat 0 n = .ok r) :
    (r.parse v).value = .success ((v.window.takeWhile accept).take n)
      (v.behind ((v.window.takeWhile accept).take n)) := by
  have hrun := (hp.greedyRun hv rfl).repeat_eq hr (Nat.zero_le n)
  simp only [Nat.zero_le, ↓reduceIte, length_itemRun, take_itemRun, values_itemRun,
    leftBy_itemRun] at hrun
  rwa [← List.take_eq_take_min] at hrun

end Recognises

/-- Behind items in front of a view the others are read, up to its end. -/
theorem behind_taken (hv : v.Valid) {taken left : List α} (hw : v.window = taken ++ left) :
    (v.behind taken).IsSuffix v ∧ (v.behind taken).iter = left := by
  obtain ⟨-, hrest⟩ := hv.behind_spec hw
  exact ⟨hv.isSuffix_behind ⟨left, hw.symm⟩, (iter_eq_window _).trans hrest⟩

theorem behind_window (hv : v.Valid) : v.behind v.window = ⟨v.source, v.offset + v.len, 0⟩ := by
  rw [behind, hv.extent_window, Nat.sub_self]

/-- Repeated parsers of single items are the operations that take or drop items. Repeating one that
asks for a predicate takes what `takeWhile` puts out and leaves what `dropWhile` does; repeating
`any` takes everything, and up to a number of times what `take` puts out, leaving what `drop` does.
A view is no longer than the greatest index, which bounds `many`. -/
theorem repeated_items (hv : v.Valid) (hlen : v.len ≤ maxIndex) (ω : Type) :
    (∀ (name label : String) (q : α → Bool), ∃ taken rest,
      ((satisfy name q).many.parse v).value = .success taken rest ∧ rest.IsSuffix v ∧
      (Transducer.takeWhile label q : Transducer ω α α).collect v.iter = some taken ∧
      (Transducer.dropWhile label q : Transducer ω α α).collect v.iter = some rest.iter) ∧
    ((any : Parser α α).many.parse v).value =
      .success v.iter ⟨v.source, v.offset + v.len, 0⟩ ∧
    ∀ n, ∃ p, (any : Parser α α).repeat 0 n = .ok p ∧ ∃ taken rest,
      (p.parse v).value = .success taken rest ∧ rest.IsSuffix v ∧
      (Transducer.take n : Transducer ω α α).collect v.iter = some taken ∧
      (Transducer.drop n : Transducer ω α α).collect v.iter = some rest.iter := by
  have hall : v.window.takeWhile (fun _ => true) = v.window :=
    List.takeWhile_eq_self_iff.mpr fun _ _ => rfl
  simp only [iter_eq_window v]
  refine ⟨fun name label q => ?_, ?_, fun n => ?_⟩
  · obtain ⟨hsuffix, hrest⟩ := behind_taken hv (List.takeWhile_append_dropWhile (p := q)).symm
    refine ⟨_, _, (recognises_satisfy name q).many_parse hv hlen, hsuffix,
      Op.collect_eq (.takeWhile ⟨label⟩ q) v.window, ?_⟩
    rw [hrest]
    exact Op.collect_eq (.dropWhile ⟨label⟩ q) v.window
  · rw [recognises_any.many_parse hv hlen, hall, behind_window hv]
  · obtain ⟨p, hp⟩ := repeat_ok (any : Parser α α) (Nat.zero_le n)
    have hparse := recognises_any.repeat_parse hv hp
    rw [hall] at hparse
    obtain ⟨hsuffix, hrest⟩ := behind_taken hv (List.take_append_drop n v.window).symm
    refine ⟨p, hp, _, _, hparse, hsuffix, Op.collect_eq (.take n) v.window, ?_⟩
    rw [hrest]
    exact Op.collect_eq (.drop n) v.window

/-- Letters of two bytes each, in a view that ends inside its source. -/
theorem repeated_items_wide :
    let v : View Char := ⟨⟨0, ['x', 'é', 'é', 'y', 'z']⟩, 1, 5⟩
    v.Valid ∧ v.len ≤ maxIndex ∧
      (∃ rest, ((satisfy "wide" (· == 'é')).many.parse v).value = .success ['é', 'é'] rest ∧
        rest.iter = ['y']) ∧
      ((any : Parser Char Char).many.parse v).value =
        .success ['é', 'é', 'y'] ⟨v.source, 6, 0⟩ ∧
      ∃ p, (any : Parser Char Char).repeat 0 1 = .ok p ∧ ∃ rest,
        (p.parse v).value = .success ['é'] rest ∧ rest.iter = ['é', 'y'] := by
  intro v
  have hv : v.Valid := by
    constructor
    · exact ⟨['x'], ['é', 'é', 'y', 'z'], rfl, by decide⟩
    · exact ⟨['x', 'é', 'é', 'y'], ['z'], rfl, by decide⟩
  have hlen : v.len ≤ maxIndex := by decide
  have hwindow : v.window = ['é', 'é', 'y'] := by decide
  obtain ⟨hwhile, hmany, htimes⟩ := repeated_items hv hlen Unit
  obtain ⟨taken, rest, hparse, -, htaken, hrest⟩ := hwhile "wide" "wide" (· == 'é')
  obtain ⟨p, hp, first, rest', hparse', -, hfirst, hrest'⟩ := htimes 1
  rw [iter_eq_window v, hwindow] at htaken hrest hmany hfirst hrest'
  -- what the operations put out of these items
  cases htaken.symm.trans (Op.collect_eq (.takeWhile ⟨"wide"⟩ _) ['é', 'é', 'y'])
  cases hfirst.symm.trans (Op.collect_eq (.take 1) ['é', 'é', 'y'])
  have hy := hrest.symm.trans (Op.collect_eq (.dropWhile ⟨"wide"⟩ _) ['é', 'é', 'y'])
  have hey := hrest'.symm.trans (Op.collect_eq (.drop 1) ['é', 'é', 'y'])
  exact ⟨hv, hlen, ⟨rest, hparse, Option.some.inj hy⟩, hmany, p, hp, rest', hparse',
    Option.some.inj hey⟩

end ParseFlow.Parser

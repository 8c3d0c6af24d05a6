import Mathlib.Data.List.Induction
import ParseFlow.Proofs.Segment.History

/-!
# The storage of a segment

A segment is made from a view and then changed, by items that are put in front of it and by taking
its first item off. Each item that it holds has an origin: a place in the view, or the change that
put it in front. The storage handed out holds just the items of the segment. It is the source of the
view, and not a copy, exactly if the view is not empty and the whole of its source, and the items
held are all those of the view and no others; an equal item of another origin does not make up for
one that is gone.
-/
namespace ParseFlow.Segment

open View

variable {α : Type}

/-! ## Changes -/

/-- A change of a segment: an item is put in front, or the first one is taken off. -/
inductive Change (α : Type) where
  | cons (item : α)
  | tail
  deriving DecidableEq

/-- Where an item of a segment comes from. -/
inductive Origin where
  /-- A place among the items of the view that the segment was made from. -/
  | view (place : Nat)
  /-- The change that put it in front, with the number of changes before. -/
  | change (moment : Nat)
  deriving DecidableEq

namespace Change

/-- What the change makes of the origins of the items. -/
def origins (moment : Nat) (held : List Origin) : Change α → List Origin
  | cons _ => .change moment :: held
  | tail => held.tail

theorem mem_of_mem_origins {change : Change α} {moment place : Nat} {held : List Origin}
    (h : .view place ∈ change.origins moment held) : .view place ∈ held := by
  cases change with
  | cons item =>
    rcases List.mem_cons.mp h with hv | hv
    · cases hv
    · exact hv
  | tail => exact List.mem_of_mem_tail h

end Change

variable [Item α]

def Change.apply : Change α → Segment α → Segment α
  | cons item, s => .cons item s
  | tail, s => s.tail

/-- The segment after changes, one after the other. -/
def changed (s : Segment α) (changes : List (Change α)) : Segment α :=
  changes.foldl (fun s change => change.apply s) s

/-- The origins of the items that a segment made from `v` holds after changes. -/
def origins (v : View α) (changes : List (Change α)) : List Origin :=
  changes.zipIdx.foldl (fun held change => change.1.origins change.2 held)
    ((List.range v.window.length).map .view)

/-- The item with an origin. -/
def Origin.item? (v : View α) (changes : List (Change α)) : Origin → Option α
  | view place => v.window[place]?
  | change moment =>
    match changes[moment]? with
    | some (.cons item) => some item
    | _ => none

section Changes

variable {v : View α} {changes : List (Change α)}

theorem changed_concat (s : Segment α) (changes : List (Change α)) (change : Change α) :
    s.changed (changes ++ [change]) = change.apply (s.changed changes) := by
  rw [changed, List.foldl_append]
  rfl

theorem origins_concat (v : View α) (changes : List (Change α)) (change : Change α) :
    origins v (changes ++ [change]) = change.origins changes.length (origins v changes) := by
  rw [origins, List.zipIdx_append, List.foldl_append, Nat.zero_add]
  rfl

/-- An item of the view that is gone does not come back. -/
theorem mem_origins_of_append {place : Nat} {later : List (Change α)}
    (h : .view place ∈ origins v (changes ++ later)) : .view place ∈ origins v changes := by
  induction later using List.reverseRecOn with
  | nil => rwa [List.append_nil] at h
  | append_singleton later change ih =>
    rw [← List.append_assoc, origins_concat] at h
    exact ih (Change.mem_of_mem_origins h)

end Changes

theorem Sound.apply {s : Segment α} (h : s.Sound) (change : Change α) : (change.apply s).Sound := by
  cases change with
  | cons item => exact h
  | tail => exact h.tail_spec.1

theorem Sound.changed {s : Segment α} (h : s.Sound) (changes : List (Change α)) :
    (s.changed changes).Sound := by
  induction changes using List.reverseRecOn with
  | nil => exact h
  | append_singleton changes change ih =>
    rw [changed_concat]
    exact ih.apply change

/-! ## What is held -/

/-- Behind the changes, a segment made from `v` consists of cells for the items that were put in
front and are still there, and of what is left of the view behind the items that are gone. -/
structure Consists (v : View α) (changes : List (Change α)) (front : List (Nat × α))
    (gone left : List α) : Prop where
  window_eq : v.window = gone ++ left
  put : ∀ cell ∈ front, changes[cell.1]? = some (.cons cell.2)
  changed_eq : (ofView v).changed changes =
    front.foldr (fun cell s => cons cell.2 s) (ofView (v.behind gone))
  origins_eq : origins v changes =
    front.map (fun cell => .change cell.1) ++ (List.range' gone.length left.length).map .view

section Consists

variable {v : View α} {changes : List (Change α)} {front : List (Nat × α)} {gone left : List α}

theorem consists_nil (v : View α) : Consists v [] [] [] v.window where
  window_eq := rfl
  put := nofun
  changed_eq := by
    rw [behind_nil]
    rfl
  origins_eq := by
    rw [origins, List.range_eq_range']
    rfl

/-- Taking off what a view begins with leaves what is behind it. -/
theorem tail_ofView {x : α} (hv : v.Valid) (hw : v.window = x :: left) :
    (ofView v).tail = ofView (v.behind [x]) := by
  have he : v.isEmpty ≠ true := by
    rw [ne_eq, hv.isEmpty_iff, hw]
    exact List.cons_ne_nil x left
  rw [ofView, if_neg he]
  simp only [tail, peek?_cons hw, hv.advance_width hw]

theorem tail_ofView_nil (hv : v.Valid) (hw : v.window = []) : (ofView v).tail = ofView v := by
  rw [ofView, if_pos (hv.isEmpty_iff.mpr hw)]
  rfl

theorem Consists.put_concat (h : Consists v changes front gone left) (change : Change α) :
    ∀ cell ∈ front, (changes ++ [change])[cell.1]? = some (.cons cell.2) := by
  intro cell hcell
  have hput := h.put cell hcell
  obtain ⟨hlt, -⟩ := List.getElem?_eq_some_iff.mp hput
  rw [List.getElem?_append_left hlt, hput]

/-- One more change puts a cell in front, or takes one off, or else an item of the view. -/
theorem Consists.step (hv : v.Valid) (h : Consists v changes front gone left) (change : Change α) :
    ∃ front gone left, Consists v (changes ++ [change]) front gone left := by
  have hput := h.put_concat change
  have hchanged := changed_concat (ofView v) changes change
  have horigins := origins_concat v changes change
  rw [h.changed_eq] at hchanged
  rw [h.origins_eq] at horigins
  cases change with
  | cons item =>
    refine ⟨(changes.length, item) :: front, gone, left, h.window_eq, ?_, hchanged, horigins⟩
    intro cell hcell
    rcases List.mem_cons.mp hcell with rfl | hcell
    · rw [List.getElem?_concat_length]
    · exact hput cell hcell
  | tail =>
    cases front with
    | cons cell front =>
      exact ⟨front, gone, left, h.window_eq, fun c hc => hput c (List.mem_cons_of_mem _ hc),
        hchanged, horigins⟩
    | nil =>
      have hw := h.window_eq
      obtain ⟨hvalid, hleft⟩ := hv.behind_spec hw
      cases left with
      | nil =>
        refine ⟨[], gone, [], hw, nofun, ?_, horigins⟩
        rw [hchanged]
        exact tail_ofView_nil hvalid hleft
      | cons x left =>
        refine ⟨[], gone ++ [x], left, ?_, nofun, ?_, ?_⟩
        · rw [hw, List.append_assoc]
          rfl
        · rw [hchanged]
          show (ofView (v.behind gone)).tail = ofView (v.behind (gone ++ [x]))
          rw [tail_ofView hvalid hleft, behind_append]
        · rw [horigins, List.length_append]
          rfl

theorem exists_consists (hv : v.Valid) (changes : List (Change α)) :
    ∃ front gone left, Consists v changes front gone left := by
  induction changes using List.reverseRecOn with
  | nil => exact ⟨[], [], v.window, consists_nil v⟩
  | append_singleton changes change ih =>
    obtain ⟨front, gone, left, h⟩ := ih
    exact h.step hv change

end Consists

/-! ## The items and their origins -/

section Items

variable {v : View α} {changes : List (Change α)} {front : List (Nat × α)} {gone left : List α}

theorem items_foldr_cons (front : List (Nat × α)) (s : Segment α) :
    (front.foldr (fun cell s => cons cell.2 s) s).items = front.map (·.2) ++ s.items := by
  induction front with
  | nil => rfl
  | cons cell front ih => exact congrArg (List.cons cell.2) ih

omit [Item α] in
theorem getElem?_behind (gone left : List α) :
    (List.range' gone.length left.length).map ((gone ++ left)[·]?) = left.map some := by
  induction left generalizing gone with
  | nil => rfl
  | cons x left ih =>
    have hrest := ih (gone ++ [x])
    rw [List.length_append, List.length_singleton, List.append_assoc] at hrest
    have hx : (gone ++ x :: left)[gone.length]? = some x := by
      rw [List.getElem?_append_right (Nat.le_refl _), Nat.sub_self, List.getElem?_cons_zero]
    rw [List.length_cons, List.range'_succ, List.map_cons, List.map_cons, hx]
    exact congrArg (List.cons (some x)) hrest

/-- The items held are those that the origins name. -/
theorem Consists.items_eq (hv : v.Valid) (h : Consists v changes front gone left) :
    ((ofView v).changed changes).items.map some = (origins v changes).map (·.item? v changes) := by
  obtain ⟨hvalid, hleft⟩ := hv.behind_spec h.window_eq
  have hfront : front.map (fun cell => (Origin.change cell.1).item? v changes) =
      front.map fun cell => some cell.2 := by
    refine List.map_congr_left fun cell hcell => ?_
    simp only [Origin.item?, h.put cell hcell]
  have hview : (List.range' gone.length left.length).map (fun place =>
      (Origin.view place).item? v changes) = left.map some := by
    simp only [Origin.item?, h.window_eq]
    exact getElem?_behind gone left
  rw [h.changed_eq, items_foldr_cons, items_ofView hvalid, hleft, h.origins_eq, List.map_append,
    List.map_append, List.map_map, List.map_map, List.map_map]
  exact congrArg₂ (· ++ ·) hfront.symm hview.symm

/-- As soon as an item of the view is gone, so is the first one. -/
theorem Consists.gone_eq_nil (h : Consists v changes front gone left)
    (hfirst : .view 0 ∈ origins v changes) : gone = [] := by
  rw [h.origins_eq, List.mem_append] at hfirst
  rcases hfirst with hfirst | hfirst
  · obtain ⟨cell, -, hcell⟩ := List.mem_map.mp hfirst
    cases hcell
  · obtain ⟨place, hplace, heq⟩ := List.mem_map.mp hfirst
    cases heq
    have hle := (List.mem_range'_1.mp hplace).1
    exact List.eq_nil_of_length_eq_zero (Nat.le_zero.mp hle)

theorem Consists.front_eq_nil (h : Consists v changes front gone left)
    (hnone : ∀ moment, .change moment ∉ origins v changes) : front = [] := by
  cases front with
  | nil => rfl
  | cons cell front =>
    refine absurd ?_ (hnone cell.1)
    rw [h.origins_eq]
    exact List.mem_cons_self

end Items

/-! ## The storage that is handed out -/

theorem window_of_whole {v : View α} (ho : v.offset = 0) (hl : v.len = v.source.len) :
    v.window = v.source.items := by
  have hv : v = ofSource v.source := by
    rw [ofSource, ← ho, ← hl]
  rw [hv]
  exact window_ofSource v.source

theorem items_toStorage (s : Segment α) : s.toStorage.items = s.items := by
  cases s with
  | empty => rfl
  | cons item rest => rfl
  | window v =>
    rw [toStorage]
    by_cases hall : v.offset = 0 ∧ v.len = v.source.len
    · rw [if_pos hall]
      exact (window_of_whole hall.1 hall.2).symm
    · rw [if_neg hall]
      rfl

/-- A source is handed out by a window that is all of it, and otherwise there is a copy. -/
theorem toStorage_eq_shared_iff {s : Segment α} {source : Source α} :
    s.toStorage = .shared source ↔
      ∃ v, s = window v ∧ v.source = source ∧ v.offset = 0 ∧ v.len = source.len := by
  cases s with
  | empty => exact ⟨nofun, nofun⟩
  | cons item rest => exact ⟨nofun, nofun⟩
  | window v =>
    rw [toStorage]
    by_cases hall : v.offset = 0 ∧ v.len = v.source.len
    · rw [if_pos hall]
      constructor
      · intro h
        cases h
        exact ⟨v, rfl, rfl, hall⟩
      · rintro ⟨_, ⟨⟩, rfl, -⟩
        rfl
    · rw [if_neg hall]
      refine ⟨nofun, ?_⟩
      rintro ⟨_, ⟨⟩, rfl, h⟩
      exact absurd h hall

/-- Nothing is copied if the view is all of its source, and its items are held and no others. -/
theorem Consists.shared_iff {v : View α} {changes : List (Change α)} {front : List (Nat × α)}
    {gone left : List α} (h : Consists v changes front gone left) (source : Source α) :
    ((ofView v).changed changes).toStorage = .shared source ↔
      source = v.source ∧ v.isEmpty = false ∧ v.offset = 0 ∧ v.len = v.source.len ∧
        front = [] ∧ gone = [] := by
  rw [toStorage_eq_shared_iff, h.changed_eq]
  constructor
  · rintro ⟨w, hs, rfl, ho, hl⟩
    cases front with
    | cons cell front => cases hs
    | nil =>
      rw [List.foldr_nil, ofView] at hs
      by_cases he : (v.behind gone).isEmpty = true
      · rw [if_pos he] at hs
        cases hs
      · rw [if_neg he] at hs
        cases hs
        have hgone : gone = [] := by
          refine extent_eq_zero.mp ?_
          simp only [behind] at ho
          omega
        subst hgone
        exact ⟨rfl, Bool.eq_false_iff.mpr he, ho, hl, rfl, rfl⟩
  · rintro ⟨rfl, he, ho, hl, rfl, rfl⟩
    refine ⟨v, ?_, rfl, ho, hl⟩
    rw [List.foldr_nil, behind_nil, ofView, if_neg (Bool.eq_false_iff.mp he)]

/-- All items of the view have been held all the time, and nothing else is now. -/
theorem Consists.untouched_iff {v : View α} {changes : List (Change α)} {front : List (Nat × α)}
    {gone left : List α} (hne : v.window ≠ []) (h : Consists v changes front gone left) :
    (front = [] ∧ gone = []) ↔ (∀ moment, .change moment ∉ origins v changes) ∧
      ∀ n, ∀ place < v.window.length, .view place ∈ origins v (changes.take n) := by
  constructor
  · rintro ⟨rfl, rfl⟩
    have hheld : origins v changes = (List.range' 0 v.window.length).map .view := by
      rw [h.origins_eq, h.window_eq]
      rfl
    constructor
    · intro moment hmem
      rw [hheld] at hmem
      obtain ⟨place, -, heq⟩ := List.mem_map.mp hmem
      cases heq
    · intro n place hplace
      have hnow : .view place ∈ origins v (changes.take n ++ changes.drop n) := by
        rw [List.take_append_drop, hheld]
        exact List.mem_map_of_mem (List.mem_range'_1.mpr ⟨Nat.zero_le _, by omega⟩)
      exact mem_origins_of_append hnow
  · rintro ⟨hnone, hall⟩
    have hfirst := hall changes.length 0 (List.length_pos_iff.mpr hne)
    rw [List.take_length] at hfirst
    exact ⟨h.front_eq_nil hnone, h.gone_eq_nil hfirst⟩

/-- Whatever view a segment is made from and however it is changed, the storage handed out is read
as the items that a walk of the segment yields, each of which is the one its origin names. It is a
copy unless the view is not empty and the whole of its source, no item is held that was put in front
of it, and none of its own has ever been taken off; then it is that source. -/
theorem toStorage_changed (source : Source α) (narrowings : List Narrowing)
    (changes : List (Change α)) :
    let v := (View.ofSource source).narrow narrowings
    let s := (ofView v).changed changes
    s.items.map some = (origins v changes).map (·.item? v changes) ∧
      (∀ walked, Walk s walked ↔ walked = s.toStorage.items) ∧
      (∀ id, (View.ofSource ⟨id, s.toStorage.items⟩).iter = s.items) ∧
      (s.toStorage = .shared source ∨ s.toStorage = .copied s.items) ∧
      (s.toStorage = .shared source ↔
        v.isEmpty = false ∧ v.offset = 0 ∧ v.len = source.len ∧
          (∀ moment, .change moment ∉ origins v changes) ∧
          ∀ n, ∀ place < v.window.length, .view place ∈ origins v (changes.take n)) := by
  intro v s
  have hv : v.Valid := (valid_ofSource source).narrow narrowings
  have hsource : v.source = source := source_narrow (View.ofSource source) narrowings
  have hsound : s.Sound := (sound_ofView hv).changed changes
  obtain ⟨front, gone, left, h⟩ := exists_consists hv changes
  refine ⟨h.items_eq hv, fun walked => ?_, fun id => ?_, ?_, ?_⟩
  · rw [items_toStorage]
    exact hsound.walk_iff walked
  · rw [iter_eq_window, window_ofSource, items_toStorage]
  · cases hs : s.toStorage with
    | shared other =>
      obtain ⟨rfl, -⟩ := (h.shared_iff other).mp hs
      exact .inl (congrArg Storage.shared hsource)
    | copied items =>
      rw [← items_toStorage s, hs]
      exact .inr rfl
  · rw [← hsource, h.shared_iff v.source]
    constructor
    · rintro ⟨-, he, ho, hl, hrest⟩
      have hne : v.window ≠ [] := fun hw => by simp [hv.isEmpty_iff.mpr hw] at he
      exact ⟨he, ho, hl, (h.untouched_iff hne).mp hrest⟩
    · rintro ⟨he, ho, hl, hrest⟩
      have hne : v.window ≠ [] := fun hw => by simp [hv.isEmpty_iff.mpr hw] at he
      exact ⟨rfl, he, ho, hl, (h.untouched_iff hne).mpr hrest⟩

/-- The first character is taken off, and the same one is put in front again. -/
example :
    let s := (ofView (View.ofSource ⟨0, ['é', 'x']⟩)).changed [.tail, .cons 'é']
    s.items = ['é', 'x'] ∧ s.toStorage.items = ['é', 'x'] ∧
      origins (View.ofSource ⟨0, ['é', 'x']⟩) [.tail, .cons 'é'] = [.change 1, .view 1] := by
  decide

end ParseFlow.Segment

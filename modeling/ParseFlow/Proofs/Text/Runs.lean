import Mathlib.Algebra.Group.Nat.Defs
import Mathlib.Data.List.Chain
import ParseFlow.Text.Blank
import ParseFlow.Text.Category
import ParseFlow.Text.Script

/-!
# The run that holds a code point

Halving ascending rows ends at the last row that starts at or before the code point. So a row and
the start of the next one settle the value of every code point between them.
-/
namespace ParseFlow.Text

namespace Runs

variable {β : Type} {runs : Runs β} {code n i j lo hi : Nat} {row other : Nat × β}

/-- Every row starts behind the one before it. -/
def Ascends (runs : Runs β) : Prop := (runs.toList.map Prod.fst).IsChain (· < ·)

/-- Rows in ascending order, as one pass over the table finds out. -/
theorem ascends_of_all
    (h : (runs.toList.zip runs.toList.tail).all (fun pair => pair.1.1 < pair.2.1) = true) :
    runs.Ascends := by
  rw [Ascends, List.isChain_map, List.isChain_iff_getElem]
  intro i hi
  have hmem : (runs.toList[i], runs.toList[i + 1]) ∈ runs.toList.zip runs.toList.tail := by
    refine List.mem_iff_getElem.mpr ⟨i, ?_, ?_⟩
    · rw [List.length_zip, List.length_tail]
      omega
    · rw [List.getElem_zip, List.getElem_tail]
  exact of_decide_eq_true (List.all_eq_true.mp h _ hmem)

/-- The code point is in the run that row `i` starts. -/
structure Holds (runs : Runs β) (code i : Nat) (row : Nat × β) : Prop where
  held : runs[i]? = some row
  start : row.1 ≤ code
  next : ∀ other ∈ runs[i + 1]?, code < other.1

theorem Ascends.start_lt (ha : Ascends runs) (hr : runs[i]? = some row)
    (ho : runs[j]? = some other) (hij : i < j) : row.1 < other.1 := by
  obtain ⟨hi, rfl⟩ := Array.getElem?_eq_some_iff.mp hr
  obtain ⟨hj, rfl⟩ := Array.getElem?_eq_some_iff.mp ho
  have hp := List.pairwise_map.mp (List.isChain_iff_pairwise.mp ha)
  exact List.pairwise_iff_getElem.mp hp i j hi hj hij

/-- The rows up to the one that holds the code point start at or before it, and no others do. -/
theorem Ascends.start_le_iff (ha : Ascends runs) (h : runs.Holds code i row)
    (ho : runs[j]? = some other) : other.1 ≤ code ↔ j ≤ i := by
  constructor
  · intro hle
    by_contra hlt
    rcases Nat.lt_or_eq_of_le (Nat.succ_le_of_lt (Nat.lt_of_not_le hlt)) with hj | rfl
    · have hsize := (Array.getElem?_eq_some_iff.mp ho).1
      have hbetween : runs[i + 1]? = some runs[i + 1] := Array.getElem?_eq_getElem (by omega)
      have hafter := ha.start_lt hbetween ho hj
      have hbefore := h.next _ hbetween
      omega
    · exact absurd (h.next other ho) (Nat.not_lt_of_le hle)
  · intro hle
    rcases Nat.lt_or_eq_of_le hle with hj | rfl
    · exact (ha.start_lt ho h.held hj).le.trans h.start
    · obtain rfl := Option.some.inj (ho.symm.trans h.held)
      exact h.start

/-- Halving keeps the row that holds the code point between its ends. -/
theorem Ascends.bisect_eq (ha : Ascends runs) (h : runs.Holds code i row) (hlo : lo ≤ i)
    (hhi : i < hi) (hsize : hi ≤ runs.size) (hn : hi ≤ lo + 2 ^ n) :
    runs.bisect code n lo hi = i := by
  induction n generalizing lo hi with
  | zero =>
    rw [bisect]
    omega
  | succ n ih =>
    rw [pow_succ] at hn
    rw [bisect]
    split
    · omega
    · have hmiddle : runs[(lo + hi) / 2]? = some runs[(lo + hi) / 2] :=
        Array.getElem?_eq_getElem (by omega)
      have hstart := ha.start_le_iff h hmiddle
      simp only [hmiddle]
      split
      · next hle => exact ih (hstart.mp hle) hhi hsize (by omega)
      · next hgt =>
        have hlt := Nat.lt_of_not_le fun hle => hgt (hstart.mpr hle)
        exact ih hlo hlt (by omega) (by omega)

theorem Ascends.find?_eq (ha : Ascends runs) (h : runs.Holds code i row) :
    runs.find? code = some row.2 := by
  have hi : i < runs.size := (Array.getElem?_eq_some_iff.mp h.held).1
  have hlog : runs.size ≤ 0 + 2 ^ (runs.size.log2 + 1) := by
    rw [Nat.zero_add]
    exact Nat.lt_log2_self.le
  rw [find?, ha.bisect_eq h (Nat.zero_le i) hi le_rfl hlog, h.held, Option.map_some]

end Runs

namespace Category

variable {code : Nat} {c : Char}

theorem ascends_runs : Runs.Ascends runs :=
  Runs.ascends_of_all (by decide +kernel)

/-- A run of code points of one category. -/
structure Run where
  row : Nat
  start : Nat
  category : Category
  next : Nat

/-- The run is in the table, and capital and small letters do not alternate in it. -/
structure Run.Listed (run : Run) : Prop where
  held : runs.toList[run.row]? = some (run.start, run.category)
  next : (runs.toList[run.row + 1]?).map Prod.fst = some run.next
  plain : ∀ i ∈ casedPairs, run.next ≤ i.1 ∨ i.2 < run.start

theorem Run.Listed.ofCode_eq {run : Run} (h : run.Listed) (hs : run.start ≤ code)
    (hn : code < run.next) : ofCode code = run.category := by
  have hnone : casedPairs.find? (fun i => i.1 ≤ code && code ≤ i.2) = none := by
    refine List.find?_eq_none.mpr fun i hi hin => ?_
    rw [Bool.and_eq_true, decide_eq_true_eq, decide_eq_true_eq] at hin
    rcases h.plain i hi with hp | hp <;> omega
  have hheld : Runs.Holds runs code run.row (run.start, run.category) := by
    refine ⟨by rw [← Array.getElem?_toList, h.held], hs, fun other ho => ?_⟩
    have hnext := h.next
    rw [Array.getElem?_toList, ho, Option.map_some] at hnext
    rwa [Option.some.inj hnext]
  rw [ofCode, hnone, ascends_runs.find?_eq hheld, Option.getD_some]

/-- The runs that the blanks beyond ASCII are in. -/
def blankRuns : List Run :=
  [⟨28, 0x7f, .cc, 0xa0⟩, ⟨29, 0xa0, .zs, 0xa1⟩, ⟨847, 0x1680, .zs, 0x1681⟩,
    ⟨1128, 0x2000, .zs, 0x200b⟩, ⟨1140, 0x2028, .zl, 0x2029⟩, ⟨1141, 0x2029, .zp, 0x202a⟩,
    ⟨1143, 0x202f, .zs, 0x2030⟩, ⟨1158, 0x205f, .zs, 0x2060⟩, ⟨1474, 0x3000, .zs, 0x3001⟩]

theorem listed_of_mem_blankRuns : ∀ run ∈ blankRuns, run.Listed := by
  have hrows : ∀ run ∈ blankRuns, runs.toList[run.row]? = some (run.start, run.category) ∧
      (runs.toList[run.row + 1]?).map Prod.fst = some run.next ∧
      ∀ i ∈ casedPairs, run.next ≤ i.1 ∨ i.2 < run.start := by
    decide +kernel
  intro run hr
  obtain ⟨hheld, hnext, hplain⟩ := hrows run hr
  exact ⟨hheld, hnext, hplain⟩

theorem exists_blankRun (h : isBlank c = true) (ha : isAscii c = false) :
    ∃ run ∈ blankRuns, run.start ≤ c.toNat ∧ c.toNat < run.next := by
  simp [isBlank, blanks, Intervals.contains, isAscii, blankRuns] at h ha ⊢
  omega

end Category

section Scripts

theorem Script.ascends_runs : Script.runs.Ascends :=
  Runs.ascends_of_all (by decide +kernel)

/-- A character is written in the script of the run that holds it. -/
theorem script_eq {c : Char} {i : Nat} {row : Nat × Script} (h : Script.runs.Holds c.toNat i row) :
    script c = row.2 := by
  rw [script, Script.ascends_runs.find?_eq h, Option.getD_some]

end Scripts

section Blanks

variable {c : Char}

theorem category_of_isBlank (h : isBlank c = true) (ha : isAscii c = false) :
    (category c).isOther = true ∨ (category c).isSeparator = true := by
  obtain ⟨run, hr, hs, hn⟩ := Category.exists_blankRun h ha
  have hkinds : ∀ run ∈ Category.blankRuns,
      run.category.isOther = true ∨ run.category.isSeparator = true := by
    decide
  rw [category, (Category.listed_of_mem_blankRuns run hr).ofCode_eq hs hn]
  exact hkinds run hr

/-- No blank is a character of words. -/
theorem isWord_of_isBlank (h : isBlank c = true) : isWord c = false := by
  rw [isWord]
  split
  · have hline : c ≠ '_' := by
      rintro rfl
      exact absurd h (by decide)
    simp [isBlank, blanks, Intervals.contains, isAsciiWord, isAsciiLetter, isAsciiDigit, hline]
      at h ⊢
    omega
  · next ha =>
    have hkind : ∀ kind : Category, kind.isOther = true ∨ kind.isSeparator = true →
        (kind.isLetter || kind.isMark || kind == .nd || kind == .nl || kind == .pc) = false := by
      intro kind
      cases kind <;> decide
    rw [hkind _ (category_of_isBlank h (Bool.eq_false_iff.mpr ha))]
    simp [isBlank, blanks, letterSymbols, Intervals.contains] at h ⊢
    omega

end Blanks

end ParseFlow.Text

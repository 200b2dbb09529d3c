import SourceOutline.Text.Lower
import Mathlib.Data.List.Basic

/-!
# Lower case does not change a second time

No small letter is a capital, so lowering a text that has been lowered leaves it as
it is.  The capitals beyond ASCII come in runs, and the small letters of a run are
compared with the capitals of each run as a whole: they lie before it or behind it, or
both go in steps of two and never meet.  A small letter is a plain character besides,
neither one of the two that depend on their neighbours nor, with one exception, an
ASCII letter.
-/

namespace SourceOutline
namespace Text

/-! ## Runs of capitals -/

namespace CaseRun

def low (run : CaseRun) : Nat :=
  (run.first + run.shift).toNat

def high (run : CaseRun) : Nat :=
  (run.last + run.shift).toNat

/-- Whether the small letters of a run are not capitals of another. -/
def misses (run other : CaseRun) : Bool :=
  Nat.blt run.high other.first || Nat.blt other.last run.low ||
    ((run.step == 2 || run.low == run.high) && other.step == 2 &&
      (run.low + other.first) % 2 == 1)

/-- Whether a range of codes lies on one side of a code. -/
def leavesOut (run : CaseRun) (code : Nat) : Bool :=
  Nat.blt run.high code || Nat.blt code run.low

/-- Whether the small letters of a run are characters that stand for themselves.  One
run is the sign for kelvin, which has an ASCII letter. -/
def isPlain (run : CaseRun) : Bool :=
  (Nat.blt run.high 0xD800 || (Nat.ble 0xE000 run.low && Nat.blt run.high 0x110000)) &&
    (Nat.ble 0x80 run.low || (run.low == 0x6B && run.high == 0x6B)) &&
    run.leavesOut 0x130 && run.leavesOut 0x3A3

theorem between_of_contains
    {run : CaseRun} {code : Nat} (hcode : run.contains code) :
    run.low ≤ (code + run.shift).toNat ∧ (code + run.shift).toNat ≤ run.high := by
  simp only [contains, Bool.and_eq_true, decide_eq_true_eq] at hcode
  unfold low high
  omega

theorem not_contains_of_misses
    {run other : CaseRun} (hmisses : run.misses other) (hlow : 0 < run.low) {code : Nat}
    (hcode : run.contains code) : other.contains (code + run.shift).toNat = false := by
  obtain ⟨hfirst, hlast⟩ := between_of_contains hcode
  simp only [contains, misses, Nat.blt_eq, Bool.or_eq_true, Bool.and_eq_true, beq_iff_eq,
    decide_eq_true_eq] at hcode hmisses
  rw [← Bool.not_eq_true]
  intro hother
  simp only [contains, Bool.and_eq_true, beq_iff_eq, decide_eq_true_eq] at hother
  rcases hmisses with (hbefore | hbehind) | ⟨⟨hstep, htwo⟩, hodd⟩
  · omega
  · omega
  · -- Both go in steps of two, from codes of which one is even and the other odd.
    rw [htwo] at hother
    rcases hstep with hstep | hsingle
    · rw [hstep] at hcode
      unfold low at hlow hfirst hodd
      omega
    · omega

end CaseRun

theorem caseRuns_miss
    {run other : CaseRun} (hrun : run ∈ caseRuns) (hother : other ∈ caseRuns) :
    run.misses other := by
  have hall : (caseRuns.all fun run => caseRuns.all run.misses) = true := by decide +kernel
  exact List.all_eq_true.mp (List.all_eq_true.mp hall run hrun) other hother

theorem caseRuns_plain {run : CaseRun} (hrun : run ∈ caseRuns) : run.isPlain := by
  have hall : caseRuns.all CaseRun.isPlain = true := by decide +kernel
  exact List.all_eq_true.mp hall run hrun

/-! ## One character -/

/-- A character that lowering leaves alone wherever it stands. -/
def IsLow (c : Char) : Prop :=
  c.toNat ≠ 0x3A3 ∧ lowerChar c = [c]

theorem isLow_of_not_contains
    {c : Char} (hbeyond : 0x80 ≤ c.toNat) (hdotted : c.toNat ≠ 0x130) (hsigma : c.toNat ≠ 0x3A3)
    (hruns : ∀ run ∈ caseRuns, run.contains c.toNat = false) : IsLow c := by
  have hnone : (caseRuns.find? fun run => run.contains c.toNat) = none := by
    rw [List.find?_eq_none]
    intro run hrun
    simpa using hruns run hrun
  refine ⟨hsigma, ?_⟩
  unfold lowerChar
  rw [if_neg (by omega), if_neg hdotted, hnone]

/-- The small letters that a run gives are no capitals of another run. -/
theorem isLow_of_run
    {run : CaseRun} (hrun : run ∈ caseRuns) {code : Nat} (hcode : run.contains code) :
    IsLow (Char.ofNat (code + run.shift).toNat) := by
  have hplain := caseRuns_plain hrun
  have hbetween := CaseRun.between_of_contains hcode
  have hmissed (other : CaseRun) (hother : other ∈ caseRuns) (hlow : 0 < run.low) :=
    CaseRun.not_contains_of_misses (caseRuns_miss hrun hother) hlow hcode
  simp only [CaseRun.isPlain, CaseRun.leavesOut, Nat.blt_eq, Nat.ble_eq, Bool.or_eq_true,
    Bool.and_eq_true, beq_iff_eq] at hplain
  obtain ⟨⟨⟨hvalid, hascii⟩, hdotted⟩, hsigma⟩ := hplain
  generalize (code + run.shift).toNat = image at hbetween hmissed ⊢
  have himage : (Char.ofNat image).toNat = image := by
    have hchar : image.isValidChar := by
      unfold Nat.isValidChar
      omega
    rw [Char.ofNat, dif_pos hchar]
    rfl
  rcases hascii with hbeyond | ⟨hlow, hhigh⟩
  · refine isLow_of_not_contains (by omega) (by omega) (by omega) ?_
    intro other hother
    rw [himage]
    exact hmissed other hother (by omega)
  · obtain rfl : image = 0x6B := by omega
    exact ⟨by decide, by decide⟩

/-- The marks and letters that lowering gives besides those of the runs are in no run. -/
theorem isLow_special {code : Nat} (hcode : code ∈ [0x307, 0x3C2, 0x3C3]) :
    IsLow (Char.ofNat code) := by
  have hall :
      ([0x307, 0x3C2, 0x3C3].all fun code => caseRuns.all fun run =>
        Nat.blt code run.first || Nat.blt run.last code) = true := by
    decide +kernel
  have hnat : (Char.ofNat code).toNat = code ∧ 0x306 < code ∧ code ≠ 0x3A3 := by
    revert code
    decide
  refine isLow_of_not_contains (by omega) (by omega) (by omega) ?_
  intro run hrun
  have houtside := List.all_eq_true.mp (List.all_eq_true.mp hall code hcode) run hrun
  simp only [Bool.or_eq_true, Nat.blt_eq] at houtside
  rw [hnat.1, ← Bool.not_eq_true]
  intro hcontains
  simp only [CaseRun.contains, Bool.and_eq_true, decide_eq_true_eq] at hcontains
  omega

theorem isLow_of_mem_lowerChar
    {c d : Char} (hc : c.toNat ≠ 0x3A3) (hd : d ∈ lowerChar c) : IsLow d := by
  have hall : ∀ code < 0x80, IsLow (Char.ofNat code).toLower := by
    unfold IsLow
    decide +kernel
  unfold lowerChar at hd
  split at hd
  next hascii =>
    rw [List.mem_singleton.mp hd, ← c.ofNat_toNat]
    exact hall c.toNat hascii
  next hbeyond =>
    split at hd
    next hdotted =>
      rw [List.mem_cons, List.mem_singleton] at hd
      rcases hd with rfl | rfl
      · exact hall 0x69 (by decide)
      · exact isLow_special (by simp)
    next hdotted =>
      split at hd
      next run hfound =>
        have hcode := List.find?_some hfound
        rw [List.mem_singleton.mp hd]
        exact isLow_of_run (List.mem_of_find?_eq_some hfound) hcode
      next hnone =>
        rw [List.mem_singleton.mp hd]
        refine ⟨hc, ?_⟩
        unfold lowerChar
        rw [if_neg hbeyond, if_neg hdotted, hnone]

/-! ## Texts -/

theorem lowerAfter_of_isLow
    {text : List Char} (htext : ∀ c ∈ text, IsLow c) (before : List Char) :
    lowerAfter before text = text := by
  induction text generalizing before with
  | nil => rfl
  | cons c rest ih =>
      obtain ⟨hsigma, hsame⟩ := htext c List.mem_cons_self
      have hrest := ih (fun d hd => htext d (List.mem_cons_of_mem c hd)) (c :: before)
      rw [lowerAfter, if_neg hsigma, hsame, hrest, List.singleton_append]

theorem isLow_of_mem_lowerAfter
    {before text : List Char} {d : Char} (hd : d ∈ lowerAfter before text) : IsLow d := by
  induction text generalizing before with
  | nil => contradiction
  | cons c rest ih =>
      rw [lowerAfter, List.mem_append] at hd
      rcases hd with hfirst | hrest
      · split at hfirst
        next hsigma =>
          rw [List.mem_singleton.mp hfirst]
          refine isLow_special ?_
          split <;> simp
        next hother => exact isLow_of_mem_lowerChar hother hfirst
      · exact ih hrest

theorem lower_lower (text : List Char) : lower (lower text) = lower text :=
  lowerAfter_of_isLow (fun _ hd => isLow_of_mem_lowerAfter hd) []

end Text

theorem lowerCase_lowerCase (text : String) : lowerCase (lowerCase text) = lowerCase text := by
  unfold lowerCase
  rw [String.toList_ofList, Text.lower_lower]

end SourceOutline

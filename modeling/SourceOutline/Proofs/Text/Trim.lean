import SourceOutline.Text.Blank
import SourceOutline.Text.Search
import SourceOutline.Text.Word
import Mathlib.Data.List.TakeWhile

/-!
# Taking off the ends of a text

A run of characters ends where one stands that does not belong to it, so what is put in
front of such a character can be told from what follows.  A text is trimmed when it has
no blank at either end; blanks put around it are then what trimming takes off again, no
more and no less.
-/

namespace SourceOutline
namespace Text

theorem after?_eq_some_iff
    {α : Type} [BEq α] [LawfulBEq α] {needle text rest : List α} :
    after? needle text = some rest ↔ text = needle ++ rest := by
  fun_induction after? needle text with
  | case1 text => simp
  | case2 n needle => simp
  | case3 n needle c text hsame ih => simp [ih, (eq_of_beq hsame).symm]
  | case4 n needle c text hother =>
      have hne : c ≠ n := fun heq => hother (beq_iff_eq.mpr heq.symm)
      simp [hne]

theorem isWord_of_isBlank {c : Char} (hblank : isBlank c) : isWord c = false := by
  have hascii : ∀ code < 0x80, blankRanges.contains code →
      isWord (Char.ofNat code) = false := by
    decide +kernel
  have hbeyond : ∀ range ∈ blankRanges, ∀ other ∈ letterRanges,
      range.2 < other.1 ∨ other.2 < range.1 := by
    decide +kernel
  by_cases hc : c.toNat < 0x80
  · have hword := hascii c.toNat hc hblank
    rwa [Char.ofNat_toNat] at hword
  · rw [isWord, if_neg hc, ← Bool.not_eq_true, Ranges.contains_iff]
    rintro ⟨other, hother, hfirst, hlast⟩
    obtain ⟨range, hrange, hlow, hhigh⟩ := Ranges.contains_iff.mp hblank
    have hapart := hbeyond range hrange other hother
    omega

variable {p : Char → Bool} {run text : List Char}

theorem takeWhile_append_stop
    (hrun : ∀ c ∈ run, p c = true) (hstop : ∀ c ∈ text.head?, p c = false) :
    (run ++ text).takeWhile p = run := by
  rw [List.takeWhile_append_of_pos hrun]
  cases text with
  | nil => simp
  | cons c rest => simp [hstop c rfl]

theorem dropWhile_append_stop
    (hrun : ∀ c ∈ run, p c = true) (hstop : ∀ c ∈ text.head?, p c = false) :
    (run ++ text).dropWhile p = text := by
  rw [List.dropWhile_append_of_pos hrun]
  cases text with
  | nil => rfl
  | cons c rest => simp [hstop c rfl]

def Blanks (text : List Char) : Prop :=
  ∀ c ∈ text, isBlank c = true

structure Trimmed (text : List Char) : Prop where
  head : ∀ c ∈ text.head?, isBlank c = false
  last : ∀ c ∈ text.getLast?, isBlank c = false

instance : DecidablePred Blanks :=
  fun text => List.decidableBAll (fun c => isBlank c = true) text

instance : DecidablePred Trimmed := fun text =>
  have : Decidable (∀ c ∈ text.head?, isBlank c = false) := Option.decidableForallMem _
  have : Decidable (∀ c ∈ text.getLast?, isBlank c = false) := Option.decidableForallMem _
  decidable_of_iff
    ((∀ c ∈ text.head?, isBlank c = false) ∧ ∀ c ∈ text.getLast?, isBlank c = false)
    ⟨fun h => ⟨h.1, h.2⟩, fun h => ⟨h.head, h.last⟩⟩

theorem Trimmed.reverse_head (htext : Trimmed text) :
    ∀ c ∈ text.reverse.head?, isBlank c = false := by
  rw [List.head?_reverse]
  exact htext.last

theorem Trimmed.behind
    (htext : Trimmed text) (hsome : text ≠ []) {c : Char} (hc : isBlank c = false)
    (between : List Char) : Trimmed (c :: (between ++ text)) := by
  constructor
  · intro first hfirst
    cases hfirst
    exact hc
  · intro last hlast
    rw [← List.cons_append, List.getLast?_append,
      Option.or_of_isSome (List.getLast?_isSome.mpr hsome)] at hlast
    exact htext.last last hlast

/-- Trimming takes away exactly the blanks put around a text. -/
theorem trim_padded
    {front back : List Char} (hfront : Blanks front) (htext : Trimmed text) (hsome : text ≠ [])
    (hback : Blanks back) : trim (front ++ text ++ back) = text := by
  have hreversed : Blanks back.reverse := by
    intro c hc
    exact hback c (List.mem_reverse.mp hc)
  have hhead : ∀ c ∈ (text ++ back).head?, isBlank c = false := by
    rw [List.head?_append, Option.or_of_isSome (List.isSome_head?.mpr hsome)]
    exact htext.head
  have hleft : trimLeft (front ++ text ++ back) = text ++ back := by
    rw [trimLeft, List.append_assoc]
    exact dropWhile_append_stop hfront hhead
  rw [trim, hleft, trimRight, List.reverse_append,
    dropWhile_append_stop hreversed htext.reverse_head, List.reverse_reverse]

theorem trim_of_trimmed (htext : Trimmed text) : trim text = text := by
  cases text with
  | nil => rfl
  | cons c rest =>
      have hnone : Blanks [] := by simp [Blanks]
      simpa using trim_padded hnone htext (List.cons_ne_nil c rest) hnone

end Text
end SourceOutline

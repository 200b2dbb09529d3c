import SourceOutline.Comment.Index
import SourceOutline.Dependency.Infer
import SourceOutline.Proofs.Text.Utf8

/-!
# Lines of bytes and lines of text

A line number is found in three ways: by counting the newlines before an offset,
by looking the offset up among the offsets of all newlines, and, for a decoded
text, by its place in the list of offsets at which lines begin.  The two lists are
the occurrences of one character, in the bytes and in the text.

The line of an offset begins behind the last newline before it.  The bytes before
that place and the bytes from it on are decoded independently, and newlines are
neither lost nor made, so the line has the same number in the text, and it begins
there behind as many characters as the bytes before it are decoded to.
-/

namespace SourceOutline

/-! ## The two lists of newlines -/

namespace Bytes

theorem newlinesFrom_eq (offset : Nat) (found : List Nat) (bytes : Bytes) :
    newlinesFrom offset found bytes = (bytes.idxsOf newline offset).reverse ++ found := by
  induction bytes generalizing offset found with
  | nil => rfl
  | cons b rest ih =>
      rw [newlinesFrom, ih, List.idxsOf_cons]
      by_cases hb : b = newline
      · simp [hb]
      · simp [hb]

theorem newlines_eq (bytes : Bytes) : bytes.newlines = bytes.idxsOf newline := by
  simp [newlines, newlinesFrom_eq]

end Bytes

theorem takeWhile_idxsOf
    {α : Type} [BEq α] (c : α) (text : List α) (bound : Nat) :
    (text.idxsOf c).takeWhile (· < bound) = (text.take bound).idxsOf c := by
  have hsplit :
      text.idxsOf c =
        (text.take bound).idxsOf c ++ (text.drop bound).idxsOf c (text.take bound).length := by
    rw [← Nat.zero_add (text.take bound).length, ← List.idxsOf_append, List.take_append_drop]
  have hbefore : ∀ index ∈ (text.take bound).idxsOf c, decide (index < bound) = true := by
    intro index hindex
    have hlt := List.lt_add_of_mem_idxsOf index hindex
    rw [List.length_take] at hlt
    exact decide_eq_true (by omega)
  have hbehind :
      ((text.drop bound).idxsOf c (text.take bound).length).takeWhile (· < bound) = [] := by
    cases hfound : (text.drop bound).idxsOf c (text.take bound).length with
    | nil => rfl
    | cons first others =>
        have hmem : first ∈ (text.drop bound).idxsOf c (text.take bound).length := by
          rw [hfound]
          exact List.mem_cons_self
        have hge := List.ge_of_mem_idxsOf first hmem
        have hlt := List.lt_add_of_mem_idxsOf first hmem
        rw [List.length_take] at hge hlt
        rw [List.length_drop] at hlt
        exact List.takeWhile_cons_of_neg (by rw [decide_eq_true_eq]; omega)
  rw [hsplit, List.takeWhile_append_of_pos hbefore, hbehind, List.append_nil]

/-- An index counts lines as its source does. -/
theorem CommentIndex.lineOf_eq_lineAt
    {index : CommentIndex} {source : Bytes} (hindex : index.newlines = source.newlines)
    (offset : Nat) : index.lineOf offset = source.lineAt offset := by
  unfold lineOf Bytes.lineAt
  rw [hindex, Bytes.newlines_eq, takeWhile_idxsOf, List.length_idxsOf]

namespace Dependency

theorem lineStartsFrom_eq (offset : Nat) (found : List Nat) (text : List Char) :
    lineStartsFrom offset found text = (text.idxsOf '\n' (offset + 1)).reverse ++ found := by
  induction text generalizing offset found with
  | nil => rfl
  | cons c rest ih =>
      rw [lineStartsFrom, ih, List.idxsOf_cons]
      by_cases hc : c = '\n'
      · simp [hc]
      · simp [hc]

theorem lineStarts_eq (text : List Char) : lineStarts text = 0 :: text.idxsOf '\n' 1 := by
  simp [lineStarts, lineStartsFrom_eq]

/-- Complete lines in front of a text put the beginning of the next line behind
them. -/
theorem lineStarts_getElem?
    {front : List Char} (hfront : front = [] ∨ ∃ lines, front = lines ++ ['\n'])
    (rest : List Char) :
    (lineStarts (front ++ rest))[front.count '\n']? = some front.length := by
  rw [lineStarts_eq]
  rcases hfront with rfl | ⟨lines, rfl⟩
  · rfl
  · have hcount : (lines ++ ['\n']).count '\n' = (lines.idxsOf '\n' 1).length + 1 := by
      simp
    have hlast :
        (lines ++ ['\n'] ++ rest).idxsOf '\n' 1 =
          lines.idxsOf '\n' 1 ++ (lines.length + 1) :: rest.idxsOf '\n' (lines.length + 2) := by
      rw [List.append_assoc, List.idxsOf_append, List.singleton_append, List.idxsOf_cons,
        Nat.add_comm 1 lines.length]
      rfl
    rw [hcount, List.getElem?_cons_succ, hlast, List.getElem?_append_right (Nat.le_refl _),
      Nat.sub_self, List.getElem?_cons_zero, List.length_append]
    rfl

end Dependency

/-! ## Where a line begins -/

theorem take_eq_of_behind
    {α : Type} {text : List α} {start : Nat} {c : α}
    (hbehind : start = 0 ∨ text[start - 1]? = some c) :
    text.take start = [] ∨ ∃ lines, text.take start = lines ++ [c] := by
  rcases hbehind with rfl | hlast
  · exact .inl rfl
  · cases start with
    | zero => exact .inl rfl
    | succ last =>
        refine .inr ⟨text.take last, ?_⟩
        rw [Nat.add_sub_cancel] at hlast
        rw [List.take_add_one, hlast]
        rfl

namespace Bytes

/-- The line on which `offset` lies begins at `start`: behind a newline or at the
front, with no newline between the two. -/
structure BeginsLineOf (bytes : Bytes) (offset start : Nat) : Prop where
  le : start ≤ offset
  behind : start = 0 ∨ bytes[start - 1]? = some newline
  unbroken : ∀ index, start ≤ index → index < offset → bytes[index]? ≠ some newline

theorem exists_beginsLineOf (bytes : Bytes) (offset : Nat) :
    ∃ start, bytes.BeginsLineOf offset start := by
  induction offset with
  | zero => exact ⟨0, Nat.le_refl 0, .inl rfl, fun index _ hlt => by omega⟩
  | succ offset ih =>
      by_cases hnewline : bytes[offset]? = some newline
      · exact ⟨offset + 1, Nat.le_refl _, .inr hnewline, fun index hle hlt => by omega⟩
      · obtain ⟨start, hle, hbehind, hunbroken⟩ := ih
        refine ⟨start, Nat.le_succ_of_le hle, hbehind, ?_⟩
        intro index hstart hlt
        rcases Nat.lt_succ_iff_lt_or_eq.mp hlt with hbefore | rfl
        · exact hunbroken index hstart hbefore
        · exact hnewline

namespace BeginsLineOf

variable {bytes : Bytes} {offset start : Nat}

theorem unique
    (hline : bytes.BeginsLineOf offset start) {other : Nat}
    (hother : bytes.BeginsLineOf offset other) : start = other := by
  have hle : ∀ {first second : Nat}, bytes.BeginsLineOf offset first →
      bytes.BeginsLineOf offset second → second ≤ first := by
    intro first second hfirst hsecond
    by_contra hlt
    rcases hsecond.behind with rfl | hnewline
    · omega
    · have hle := hsecond.le
      exact hfirst.unbroken (second - 1) (by omega) (by omega) hnewline
  exact Nat.le_antisymm (hle hother hline) (hle hline hother)

theorem count_take (hline : bytes.BeginsLineOf offset start) :
    (bytes.take offset).count newline = (bytes.take start).count newline := by
  have hsplit :
      bytes.take offset = bytes.take start ++ (bytes.drop start).take (offset - start) := by
    rw [← List.take_add, Nat.add_sub_cancel' hline.le]
  have hnone : ((bytes.drop start).take (offset - start)).count newline = 0 := by
    rw [List.count_eq_zero]
    intro hmem
    obtain ⟨index, hindex⟩ := List.getElem?_of_mem hmem
    rw [List.getElem?_take] at hindex
    split at hindex
    next hlt =>
      rw [List.getElem?_drop] at hindex
      exact hline.unbroken (start + index) (by omega) (by omega) hindex
    next => contradiction
  rw [hsplit, List.count_append, hnone, Nat.add_zero]

theorem take_eq (hline : bytes.BeginsLineOf offset start) :
    bytes.take start = [] ∨ ∃ lines, bytes.take start = lines ++ [newline] :=
  take_eq_of_behind hline.behind

/-- Decoding can be cut where a line begins. -/
theorem decode_eq (hline : bytes.BeginsLineOf offset start) :
    Utf8.decode bytes = Utf8.decode (bytes.take start) ++ Utf8.decode (bytes.drop start) := by
  have hsplit := (List.take_append_drop start bytes).symm
  rcases hline.take_eq with hnone | ⟨lines, hlines⟩
  · rw [hnone, List.nil_append] at hsplit
    rw [hnone, ← hsplit]
    rfl
  · rw [hlines] at hsplit ⊢
    conv_lhs => rw [hsplit, List.append_assoc]
    rw [List.singleton_append, Utf8.decode_append_newline, Utf8.decode_append_newline]
    simp

theorem decode_take (hline : bytes.BeginsLineOf offset start) :
    Utf8.decode (bytes.take start) = [] ∨
      ∃ lines, Utf8.decode (bytes.take start) = lines ++ ['\n'] := by
  rcases hline.take_eq with hnone | ⟨lines, hlines⟩
  · exact .inl (by rw [hnone]; rfl)
  · exact .inr ⟨Utf8.decode lines, by rw [hlines, Utf8.decode_append_newline]; rfl⟩

/-- A line begins in the text where it begins in the bytes. -/
theorem lineStarts_decode (hline : bytes.BeginsLineOf offset start) :
    (Dependency.lineStarts (Utf8.decode bytes))[bytes.lineAt offset - 1]? =
      some (Utf8.decode (bytes.take start)).length := by
  have hnumber :
      bytes.lineAt offset - 1 = (Utf8.decode (bytes.take start)).count '\n' := by
    rw [lineAt, hline.count_take, Utf8.count_newline_decode, Nat.add_sub_cancel]
  rw [hnumber, hline.decode_eq]
  exact Dependency.lineStarts_getElem? hline.decode_take _

end BeginsLineOf
end Bytes
end SourceOutline

import SourceOutline.Language.Pack
import SourceOutline.Proofs.Comment.Reach
import Mathlib.Data.List.Infix
import Mathlib.Data.List.Pairwise

/-!
# The spans of comments

In any bytes, whatever strings and comments are left open, the comments that the
scanner finds are spans of the source.  None is empty, each begins where the one before
it has ended or later, and so no two end at the same place.

A block comment ends with the first closer behind its opener, and with the source if
there is none.  A line comment ends in front of the first byte that ends a line.  Both
are facts about how far the scanner goes from the first byte of a comment; the scan
only passes on from where the last string or comment ended.
-/

namespace SourceOutline

/-- No line mark holds the end of a line. -/
def CommentStyle.SingleLine (style : CommentStyle) : Prop :=
  ∀ mark ∈ style.lineMarks, ∀ b ∈ mark,
    b ≠ Bytes.newline ∧ b ≠ Comment.Scan.carriageReturn

namespace Comment

/-- Where a block comment ends whose opener ends at `opened`. -/
inductive EndsAtFirst (source closer : Bytes) (opened stop : Nat) : Prop
  | closed {index : Nat} (hbehind : opened ≤ index) (hcloser : closer <+: source.drop index)
      (hfirst : ∀ earlier, opened ≤ earlier → earlier < index →
        ¬ closer <+: source.drop earlier)
      (hstop : stop = index + closer.length)
  | unclosed (hnone : ∀ index, opened ≤ index → ¬ closer <+: source.drop index)
      (hstop : stop = source.length)

def EndsLine (source : Bytes) (stop : Nat) : Prop :=
  stop = source.length ∨ source[stop]? = some Bytes.newline ∨
    source[stop]? = some Scan.carriageReturn

/-- The bytes from `start` up to `stop` are a comment with the marks of a style. -/
inductive Spanned (style : CommentStyle) (source : Bytes) (start stop : Nat) : Prop
  | block {marks : BlockMarks} (hmarks : marks ∈ style.blockMarks)
      (hopener : marks.opener <+: source.slice start stop)
      (hend : EndsAtFirst source marks.closer (start + marks.opener.length) stop)
  | line {mark : Bytes} (hmark : mark ∈ style.lineMarks)
      (hbegin : mark <+: source.slice start stop)
      (hline : ∀ b ∈ source.slice start stop, b ≠ Bytes.newline ∧ b ≠ Scan.carriageReturn)
      (hend : EndsLine source stop)

/-! ## How far a comment goes -/

namespace Scan

theorem reach_add (closer : Bytes) (passed more : Nat) (rest : Bytes) :
    reach closer (passed + more) rest = passed + reach closer more rest := by
  induction rest generalizing more with
  | nil => rfl
  | cons b rest ih =>
      rw [reach, reach, Nat.add_assoc passed more 1, ih, Nat.add_assoc]
      by_cases hcloser : closer.isPrefixOf (b :: rest)
      · rw [if_pos hcloser, if_pos hcloser]
      · rw [if_neg hcloser, if_neg hcloser]

theorem reach_le (closer : Bytes) (passed : Nat) (rest : Bytes) :
    reach closer passed rest ≤ passed + rest.length := by
  induction rest generalizing passed with
  | nil => simp [reach]
  | cons b rest ih =>
      rw [reach]
      by_cases hcloser : closer.isPrefixOf (b :: rest)
      · have hlength := (List.isPrefixOf_iff_prefix.mp hcloser).length_le
        rw [if_pos hcloser]
        omega
      · have hrest := ih (passed + 1)
        rw [if_neg hcloser, List.length_cons]
        omega

theorem reach_endsAtFirst
    (source closer : Bytes) {offset : Nat} (hoffset : offset ≤ source.length) :
    EndsAtFirst source closer offset (reach closer offset (source.drop offset)) := by
  induction hrest : source.drop offset generalizing offset with
  | nil =>
      have hend : offset = source.length := by
        rw [List.drop_eq_nil_iff] at hrest
        omega
      rw [reach]
      cases closer with
      | nil => exact .closed (le_refl _) List.nil_prefix (by omega) rfl
      | cons c closer =>
          refine .unclosed ?_ hend
          intro index hindex
          rw [List.drop_eq_nil_of_le (by omega)]
          simp
  | cons b rest ih =>
      have hlt : offset < source.length := by
        have hlength := congrArg List.length hrest
        rw [List.length_drop, List.length_cons] at hlength
        omega
      have hnext : source.drop (offset + 1) = rest := by
        rw [← List.drop_drop, hrest, List.drop_one, List.tail_cons]
      rw [reach]
      by_cases hcloser : closer.isPrefixOf (b :: rest)
      · rw [if_pos hcloser]
        rw [List.isPrefixOf_iff_prefix, ← hrest] at hcloser
        exact .closed (le_refl _) hcloser (by omega) rfl
      · rw [if_neg hcloser]
        rw [List.isPrefixOf_iff_prefix, ← hrest] at hcloser
        -- No closer stands at the first place, so the search goes on behind it.
        have hhere (index : Nat) (hindex : offset ≤ index)
            (hothers : offset + 1 ≤ index → ¬ closer <+: source.drop index) :
            ¬ closer <+: source.drop index := by
          rcases Nat.eq_or_lt_of_le hindex with rfl | hbehind
          · exact hcloser
          · exact hothers hbehind
        have hbehind := ih hlt hnext
        cases hbehind with
        | closed hbehind hfound hfirst hstop =>
            refine .closed (by omega) hfound ?_ hstop
            intro earlier hle hearlier
            exact hhere earlier hle fun hbehind => hfirst earlier hbehind hearlier
        | unclosed hnone hstop =>
            refine .unclosed ?_ hstop
            intro index hindex
            exact hhere index hindex (hnone index)

theorem exists_line (rest : Bytes) :
    ∃ line back, rest = line ++ back ∧
      (∀ b ∈ line, b ≠ Bytes.newline ∧ b ≠ carriageReturn) ∧
      ∀ b ∈ back.head?, b = Bytes.newline ∨ b = carriageReturn := by
  induction rest with
  | nil => exact ⟨[], [], rfl, by simp, by simp⟩
  | cons b rest ih =>
      by_cases hb : b = Bytes.newline ∨ b = carriageReturn
      · exact ⟨[], b :: rest, rfl, by simp, by simpa using hb⟩
      · obtain ⟨line, back, hrest, hline, hback⟩ := ih
        refine ⟨b :: line, back, by rw [hrest, List.cons_append], ?_, hback⟩
        intro c hc
        rcases List.mem_cons.mp hc with rfl | hc
        · exact not_or.mp hb
        · exact hline c hc

/-! ## One comment -/

theorem lexeme?_comment
    {style : CommentStyle} {first : UInt8} {rest : Bytes} {extra : Nat}
    (hlexeme : lexeme? style first rest = some (.comment extra)) :
    (∃ marks ∈ style.blockMarks, block? first rest marks = some (.comment extra)) ∨
      ∃ mark ∈ style.lineMarks, line? first rest mark = some (.comment extra) := by
  unfold lexeme? at hlexeme
  simp only [Option.orElse_eq_orElse, Option.orElse_eq_or, Option.or_eq_some_iff] at hlexeme
  rcases hlexeme with htriple | ⟨_, hquoted | ⟨_, hblock | ⟨_, hline⟩⟩⟩
  · unfold triple? at htriple
    split_ifs at htriple
    simp at htriple
  · obtain ⟨quote, _, hquoted⟩ := List.exists_of_findSome?_eq_some hquoted
    unfold quoted? at hquoted
    split_ifs at hquoted
    · simp at hquoted
    · simp at hquoted
  · exact .inl (List.exists_of_findSome?_eq_some hblock)
  · exact .inr (List.exists_of_findSome?_eq_some hline)

/-- A span of a source that is a comment, with the marks of a style. -/
structure Found (style : CommentStyle) (source : Bytes) (span : Nat × Nat) : Prop where
  nonempty : span.1 < span.2
  within : span.2 ≤ source.length
  spanned : Spanned style source span.1 span.2

variable {style : CommentStyle} {source : Bytes} {start : Nat} {first : UInt8} {rest : Bytes}

theorem drop_succ (hrest : source.drop start = first :: rest) :
    source.drop (start + 1) = rest := by
  rw [← List.drop_drop, hrest, List.drop_one, List.tail_cons]

theorem length_of_drop (hrest : source.drop start = first :: rest) :
    source.length = start + 1 + rest.length := by
  have hlength := congrArg List.length hrest
  rw [List.length_drop, List.length_cons] at hlength
  omega

theorem slice_of_drop (hrest : source.drop start = first :: rest) (extra : Nat) :
    source.slice start (start + 1 + extra) = first :: rest.take extra := by
  unfold Bytes.slice
  rw [hrest, Nat.add_assoc, Nat.add_sub_cancel_left, Nat.add_comm 1, List.take_succ_cons]

theorem found_of_block?
    (hrest : source.drop start = first :: rest) {marks : BlockMarks}
    (hmarks : marks ∈ style.blockMarks) {extra : Nat}
    (hblock : block? first rest marks = some (.comment extra)) :
    Found style source (start, start + 1 + extra) := by
  have hlength := length_of_drop hrest
  unfold block? at hblock
  split at hblock
  next => simp at hblock
  next o opener hopener =>
    split_ifs at hblock with hbegins
    simp only [Bool.and_eq_true, decide_eq_true_eq, List.isPrefixOf_iff_prefix] at hbegins
    obtain ⟨rfl, hbegins⟩ := hbegins
    simp only [Option.some.injEq, Lexeme.comment.injEq] at hblock
    have hopened : opener.length ≤ rest.length := hbegins.length_le
    have hback : rest.drop opener.length = source.drop (start + 1 + opener.length) := by
      rw [← List.drop_drop, drop_succ hrest]
    have hstop :
        start + 1 + extra =
          reach marks.closer (start + 1 + opener.length)
            (source.drop (start + 1 + opener.length)) := by
      rw [reach_add, ← hblock, hback]
    have hleast : opener.length ≤ extra := by
      rw [← hblock, ← Nat.add_zero opener.length, reach_add]
      omega
    have hmost : extra ≤ rest.length := by
      have hreach := reach_le marks.closer opener.length (rest.drop opener.length)
      rw [hblock, List.length_drop] at hreach
      omega
    refine ⟨by simp only; omega, by simp only; omega, ?_⟩
    apply Spanned.block hmarks
    · rw [slice_of_drop hrest, hopener]
      exact (List.prefix_cons_inj first).mpr (List.prefix_take_iff.mpr ⟨hbegins, hleast⟩)
    · rw [hopener, List.length_cons, Nat.add_comm opener.length, ← Nat.add_assoc, hstop]
      exact reach_endsAtFirst source marks.closer (by omega)

theorem endsLine_of_drop
    {stop : Nat} {back : Bytes} (hback : source.drop stop = back) (hstop : stop ≤ source.length)
    (hhead : ∀ b ∈ back.head?, b = Bytes.newline ∨ b = carriageReturn) :
    EndsLine source stop := by
  rw [← hback, List.head?_drop] at hhead
  cases hnext : source[stop]? with
  | none =>
      rw [List.getElem?_eq_none_iff] at hnext
      exact .inl (by omega)
  | some b =>
      rw [hnext] at hhead
      rcases hhead b rfl with rfl | rfl
      · exact .inr (.inl hnext)
      · exact .inr (.inr hnext)

theorem found_of_line?
    (hrest : source.drop start = first :: rest) {mark : Bytes} (hmark : mark ∈ style.lineMarks)
    (hmarkLine : ∀ b ∈ mark, b ≠ Bytes.newline ∧ b ≠ carriageReturn) {extra : Nat}
    (hcomment : line? first rest mark = some (.comment extra)) :
    Found style source (start, start + 1 + extra) := by
  have hlength := length_of_drop hrest
  unfold line? at hcomment
  split at hcomment
  next => simp at hcomment
  next m tail =>
    split_ifs at hcomment with hbegins
    simp only [Bool.and_eq_true, decide_eq_true_eq, List.isPrefixOf_iff_prefix] at hbegins
    obtain ⟨rfl, others, rfl⟩ := hbegins
    obtain ⟨line, back, rfl, hline, hback⟩ := exists_line others
    rw [List.drop_left, lineReach_append hline hback] at hcomment
    simp only [Option.some.injEq, Lexeme.comment.injEq] at hcomment
    rw [← List.append_assoc] at hrest hlength
    have hextra : extra = (tail ++ line).length := by rw [← hcomment, List.length_append]
    have hslice : source.slice start (start + 1 + extra) = (first :: tail) ++ line := by
      rw [slice_of_drop hrest, hextra, List.take_left, List.cons_append]
    have hdrop : source.drop (start + 1 + extra) = back := by
      rw [← List.drop_drop, drop_succ hrest, hextra, List.drop_left]
    rw [List.length_append, ← hextra] at hlength
    refine ⟨by simp only; omega, by simp only; omega, ?_⟩
    apply Spanned.line hmark
    · rw [hslice]
      exact List.prefix_append _ _
    · intro b hb
      rw [hslice, List.mem_append] at hb
      exact hb.elim (hmarkLine b) (hline b)
    · exact endsLine_of_drop hdrop (by omega) hback

/-! ## The scan -/

/-- Spans in order, the last one first, none of which goes beyond `offset`. -/
structure InOrder (style : CommentStyle) (source : Bytes) (offset : Nat)
    (found : List (Nat × Nat)) : Prop where
  apart : found.Pairwise fun later earlier => earlier.2 ≤ later.1
  passed : ∀ span ∈ found, span.2 ≤ offset
  found : ∀ span ∈ found, Found style source span

theorem InOrder.pass
    {offset other : Nat} {found : List (Nat × Nat)} (hfound : InOrder style source offset found)
    (hle : offset ≤ other) : InOrder style source other found :=
  ⟨hfound.apart, fun span hspan => (hfound.passed span hspan).trans hle, hfound.found⟩

/-- One more span keeps the order, if it begins where the others are done. -/
theorem InOrder.add
    {offset stop : Nat} {found : List (Nat × Nat)} (hfound : InOrder style source offset found)
    (hspan : Found style source (offset, stop)) :
    InOrder style source stop ((offset, stop) :: found) := by
  have hlt : offset < stop := hspan.nonempty
  constructor
  · rw [List.pairwise_cons]
    exact ⟨hfound.passed, hfound.apart⟩
  · intro other hother
    rcases List.mem_cons.mp hother with rfl | hother
    · exact le_refl _
    · exact (hfound.passed other hother).trans hlt.le
  · intro other hother
    rcases List.mem_cons.mp hother with rfl | hother
    · exact hspan
    · exact hfound.found other hother

theorem found_of_lexeme?
    (hstyle : style.SingleLine) (hrest : source.drop start = first :: rest) {extra : Nat}
    (hlexeme : lexeme? style first rest = some (.comment extra)) :
    Found style source (start, start + 1 + extra) := by
  rcases lexeme?_comment hlexeme with ⟨marks, hmarks, hblock⟩ | ⟨mark, hmark, hline⟩
  · exact found_of_block? hrest hmarks hblock
  · exact found_of_line? hrest hmark (hstyle mark hmark) hline

/-- The scan never goes back, so its spans stay in order. -/
theorem spansFrom_inOrder
    (hstyle : style.SingleLine) {offset : Nat} {found : List (Nat × Nat)} {rest : Bytes}
    (hrest : source.drop offset = rest) (hfound : InOrder style source offset found) :
    ∃ stop, InOrder style source stop (spansFrom style offset found rest) := by
  fun_induction spansFrom style offset found rest with
  | case1 offset found => exact ⟨offset, hfound⟩
  | case2 offset found first rest hnone ih =>
      exact ih (drop_succ hrest) (hfound.pass (Nat.le_succ offset))
  | case3 offset found first rest extra hliteral ih =>
      have hback : source.drop (offset + 1 + extra) = rest.drop extra := by
        rw [← List.drop_drop, drop_succ hrest]
      exact ih hback (hfound.pass (by omega))
  | case4 offset found first rest extra hcomment ih =>
      have hback : source.drop (offset + 1 + extra) = rest.drop extra := by
        rw [← List.drop_drop, drop_succ hrest]
      exact ih hback (hfound.add (found_of_lexeme? hstyle hrest hcomment))

end Scan

theorem spans_inOrder {style : CommentStyle} (hstyle : style.SingleLine) (source : Bytes) :
    ∃ stop, Scan.InOrder style source stop (spans style source).reverse := by
  unfold spans
  split
  · rw [List.reverse_reverse]
    exact Scan.spansFrom_inOrder hstyle rfl ⟨.nil, by simp, by simp⟩
  · exact ⟨0, .nil, by simp, by simp⟩

theorem scan_apart {style : CommentStyle} (hstyle : style.SingleLine) (source : Bytes) :
    (scan style source).Pairwise fun a b => a.stop ≤ b.start := by
  obtain ⟨stop, hspans⟩ := spans_inOrder hstyle source
  have hapart := hspans.apart
  rw [List.pairwise_reverse] at hapart
  unfold scan
  rw [List.pairwise_map]
  exact hapart

theorem scan_found
    {style : CommentStyle} (hstyle : style.SingleLine) {source : Bytes} {comment : Comment}
    (hcomment : comment ∈ scan style source) :
    Scan.Found style source (comment.start, comment.stop) := by
  obtain ⟨stop, hspans⟩ := spans_inOrder hstyle source
  obtain ⟨span, hspan, rfl⟩ := List.mem_map.mp hcomment
  exact hspans.found span (List.mem_reverse.mpr hspan)

/-- No two comments that the scanner finds end at the same place. -/
theorem scan_stops_increase
    {style : CommentStyle} (hstyle : style.SingleLine) (source : Bytes) :
    (scan style source).Pairwise fun a b => a.stop < b.stop := by
  refine (scan_apart hstyle source).imp_of_mem ?_
  intro a b _ hb hapart
  exact Nat.lt_of_le_of_lt hapart (scan_found hstyle hb).nonempty

end Comment

theorem Pack.comments_singleLine {pack : Pack} (hpack : pack ∈ Pack.all) :
    pack.comments.SingleLine := by
  have hall : ∀ pack ∈ Pack.all, ∀ mark ∈ pack.comments.lineMarks, ∀ b ∈ mark,
      b ≠ Bytes.newline ∧ b ≠ Comment.Scan.carriageReturn := by
    decide +kernel
  exact hall pack hpack

/-- What the scanner finds in any bytes are spans of comments, in their order and apart from
each other. -/
theorem Comment.scan_wellPlaced (pack : Pack) (hpack : pack ∈ Pack.all) (source : Bytes) :
    let comments := Comment.scan pack.comments source
    (∀ comment ∈ comments, comment.start < comment.stop ∧ comment.stop ≤ source.length) ∧
      comments.Pairwise (fun a b => a.stop ≤ b.start) ∧
      comments.Pairwise (fun a b => a.stop < b.stop) ∧
      ∀ comment ∈ comments, Spanned pack.comments source comment.start comment.stop := by
  have hstyle := Pack.comments_singleLine hpack
  intro comments
  have hfound : ∀ comment ∈ comments,
      Scan.Found pack.comments source (comment.start, comment.stop) :=
    fun comment hcomment => scan_found hstyle hcomment
  refine ⟨?_, scan_apart hstyle source, scan_stops_increase hstyle source, ?_⟩
  · intro comment hcomment
    exact ⟨(hfound comment hcomment).nonempty, (hfound comment hcomment).within⟩
  · intro comment hcomment
    exact (hfound comment hcomment).spanned

/-- A quote that is left open hides a mark up to the end of its line, a line ends with a
carriage return, and of two blocks that touch the second one is never closed. -/
theorem Comment.scan_wellPlaced_unclosed :
    let source := ascii "it's // 1\n// 2\r\n/*3*//**4/"
    let comments := Comment.scan Pack.javascript.comments source
    Pack.javascript ∈ Pack.all ∧
      comments = [⟨10, 14, "// 2"⟩, ⟨16, 21, "/*3*/"⟩, ⟨21, 26, "/**4/"⟩] ∧
      comments.Pairwise (fun a b => a.stop ≤ b.start) ∧
      Spanned Pack.javascript.comments source 21 26 := by
  have hpack : Pack.javascript ∈ Pack.all := by decide +kernel
  intro source comments
  have hcomments : comments = [⟨10, 14, "// 2"⟩, ⟨16, 21, "/*3*/"⟩, ⟨21, 26, "/**4/"⟩] := by
    decide +kernel
  obtain ⟨_, hapart, _, hspanned⟩ := Comment.scan_wellPlaced Pack.javascript hpack source
  exact ⟨hpack, hcomments, hapart, hspanned ⟨21, 26, "/**4/"⟩ (by
    change _ ∈ comments
    simp [hcomments])⟩

end SourceOutline

import SourceOutline.Language.Pack
import SourceOutline.Proofs.Comment.Reach
import SourceOutline.Proofs.Comment.Shift
import Mathlib.Data.List.Pairwise

/-!
# Scanning a source that is made of code, strings and comments

A source whose strings and comments are all complete falls into segments.  The
scanner meets the first byte of a segment when it has passed the one before it, and
from there it goes exactly to the end of the segment: a string is not closed before
its last quote, a block comment not before its last mark, and a line comment reaches
up to the end of its line.  What looks like a delimiter inside a segment is never
looked at.

This needs that no text begins with two delimiters at once.  It holds of every pack
without triple quotes; with triple quotes an empty string in front of a quote would
be read as one of them.
-/

namespace SourceOutline

open Comment.Scan

/-- A byte of a string, or a backslash with the byte behind it. -/
inductive StringPart where
  | byte (b : UInt8)
  | escape (b : UInt8)
  deriving DecidableEq, Repr

namespace StringPart

def bytes : StringPart → Bytes
  | byte b => [b]
  | escape b => [backslash, b]

/-- Whether a part can stand between two quotes.  Only back-ticks span lines. -/
def FitsBetween (quote : UInt8) : StringPart → Prop
  | byte b => b ≠ backslash ∧ b ≠ quote ∧ (quote ≠ backtick → b ≠ Bytes.newline)
  | escape b => quote ≠ backtick → b ≠ Bytes.newline

instance (quote : UInt8) : DecidablePred (FitsBetween quote)
  | byte b =>
      inferInstanceAs
        (Decidable (b ≠ backslash ∧ b ≠ quote ∧ (quote ≠ backtick → b ≠ Bytes.newline)))
  | escape b => inferInstanceAs (Decidable (quote ≠ backtick → b ≠ Bytes.newline))

end StringPart

inductive Segment where
  | code (bytes : Bytes)
  | string (quote : UInt8) (body : List StringPart)
  | block (marks : BlockMarks) (content : Bytes)
  | line (mark content : Bytes)
  deriving DecidableEq, Repr

namespace Segment

def bytes : Segment → Bytes
  | code bytes => bytes
  | string quote body => quote :: (body.flatMap StringPart.bytes ++ [quote])
  | block marks content => marks.opener ++ (content ++ marks.closer)
  | line mark content => mark ++ content

def isComment : Segment → Bool
  | code _ | string _ _ => false
  | block _ _ | line _ _ => true

def isLine : Segment → Bool
  | code _ | string _ _ | block _ _ => false
  | line _ _ => true

/-- Whether a segment is complete, with delimiters of a style. -/
def Fits (style : CommentStyle) : Segment → Prop
  | code bytes => style.Inert bytes
  | string quote body => quote ∈ style.quotes ∧ ∀ part ∈ body, part.FitsBetween quote
  | block marks content =>
      marks ∈ style.blockMarks ∧
        ∀ index < content.length, ¬ marks.closer <+: (content ++ marks.closer).drop index
  | line mark content =>
      mark ∈ style.lineMarks ∧ ∀ b ∈ content, b ≠ Bytes.newline ∧ b ≠ carriageReturn

/-- Whether a line ends where these segments begin. -/
def EndLine : List Segment → Prop
  | [] => True
  | next :: _ => next.bytes.head? = some Bytes.newline ∨ next.bytes.head? = some carriageReturn

/-- Segments that fit, every line comment among them at the end of its line. -/
def WellFormed (style : CommentStyle) : List Segment → Prop
  | [] => True
  | segment :: rest =>
      segment.Fits style ∧ (segment.isLine → EndLine rest) ∧ WellFormed style rest

instance (style : CommentStyle) : DecidablePred (Fits style)
  | code bytes => inferInstanceAs (Decidable (∀ b ∈ bytes, b ∉ style.firstBytes))
  | string quote body =>
      inferInstanceAs (Decidable (quote ∈ style.quotes ∧ ∀ part ∈ body, part.FitsBetween quote))
  | block marks content =>
      inferInstanceAs (Decidable (marks ∈ style.blockMarks ∧
        ∀ index < content.length, ¬ marks.closer <+: (content ++ marks.closer).drop index))
  | line mark content =>
      inferInstanceAs (Decidable (mark ∈ style.lineMarks ∧
        ∀ b ∈ content, b ≠ Bytes.newline ∧ b ≠ carriageReturn))

instance : DecidablePred EndLine
  | [] => isTrue trivial
  | next :: _ =>
      inferInstanceAs (Decidable
        (next.bytes.head? = some Bytes.newline ∨ next.bytes.head? = some carriageReturn))

instance decidableWellFormed (style : CommentStyle) : DecidablePred (WellFormed style)
  | [] => isTrue trivial
  | segment :: rest =>
      have := decidableWellFormed style rest
      inferInstanceAs (Decidable
        (segment.Fits style ∧ (segment.isLine → EndLine rest) ∧ WellFormed style rest))

def source (segments : List Segment) : Bytes :=
  segments.flatMap bytes

def spansFrom (offset : Nat) : List Segment → List (Nat × Nat)
  | [] => []
  | segment :: rest =>
      let stop := offset + segment.bytes.length
      if segment.isComment then (offset, stop) :: spansFrom stop rest else spansFrom stop rest

/-- The comments among segments that begin at `offset`. -/
def commentsFrom (offset : Nat) : List Segment → List Comment
  | [] => []
  | segment :: rest =>
      let stop := offset + segment.bytes.length
      if segment.isComment then
        ⟨offset, stop, String.ofList (Utf8.decode segment.bytes)⟩ :: commentsFrom stop rest
      else commentsFrom stop rest

end Segment

/-! ## Styles whose delimiters cannot be taken for each other -/

/-- Neither of two marks begins with the other. -/
def Apart (a b : Bytes) : Prop :=
  ¬ a <+: b ∧ ¬ b <+: a

instance : DecidableRel Apart :=
  fun a b => inferInstanceAs (Decidable (¬ a <+: b ∧ ¬ b <+: a))

theorem Apart.symm {a b : Bytes} (hapart : Apart a b) : Apart b a :=
  ⟨hapart.2, hapart.1⟩

instance : Std.Symm Apart :=
  ⟨fun _ _ => Apart.symm⟩

theorem Apart.not_begins_append {a b : Bytes} (hapart : Apart a b) (rest : Bytes) :
    ¬ a <+: b ++ rest := by
  intro ha
  rcases List.prefix_or_prefix_of_prefix ha (List.prefix_append b rest) with hab | hba
  · exact hapart.1 hab
  · exact hapart.2 hba

namespace CommentStyle

/-- The marks with which comments begin. -/
def openings (style : CommentStyle) : List Bytes :=
  style.blockMarks.map BlockMarks.opener ++ style.lineMarks

/-- A style in which no text begins with two delimiters. -/
structure Unambiguous (style : CommentStyle) : Prop where
  simple : style.tripleQuoted = false
  quotes : backslash ∉ style.quotes
  openings : ∀ mark ∈ style.openings, mark ≠ [] ∧ ∀ first ∈ mark.head?, first ∉ style.quotes
  apart : style.openings.Pairwise Apart

namespace Unambiguous

variable {style : CommentStyle} (hstyle : style.Unambiguous)

include hstyle

theorem exists_first {mark : Bytes} (hmark : mark ∈ style.openings) :
    ∃ first others, mark = first :: others ∧ first ∉ style.quotes := by
  obtain ⟨hsome, hfirst⟩ := hstyle.openings mark hmark
  obtain ⟨first, others, rfl⟩ := List.exists_cons_of_ne_nil hsome
  exact ⟨first, others, rfl, hfirst first rfl⟩

theorem blocks_apart
    {marks other : BlockMarks} (hmarks : marks ∈ style.blockMarks)
    (hother : other ∈ style.blockMarks) (hne : other ≠ marks) :
    Apart other.opener marks.opener := by
  have hblocks := (List.pairwise_append.mp hstyle.apart).1
  rw [List.pairwise_map] at hblocks
  have : Std.Symm fun a b : BlockMarks => Apart a.opener b.opener := ⟨fun _ _ => Apart.symm⟩
  exact hblocks.forall hother hmarks hne

theorem lines_apart
    {mark other : Bytes} (hmark : mark ∈ style.lineMarks) (hother : other ∈ style.lineMarks)
    (hne : other ≠ mark) : Apart other mark := by
  have hlines := (List.pairwise_append.mp hstyle.apart).2.1
  exact hlines.forall hother hmark hne

theorem block_line_apart
    {marks : BlockMarks} {mark : Bytes} (hmarks : marks ∈ style.blockMarks)
    (hmark : mark ∈ style.lineMarks) : Apart marks.opener mark :=
  (List.pairwise_append.mp hstyle.apart).2.2 _ (List.mem_map_of_mem hmarks) _ hmark

end Unambiguous
end CommentStyle

/-- The languages without triple quotes have delimiters of which no two begin at one place. -/
theorem Pack.comments_unambiguous
    {pack : Pack} (hpack : pack ∈ Pack.all) (hsimple : pack.comments.tripleQuoted = false) :
    pack.comments.Unambiguous := by
  have hquotes : ∀ pack ∈ Pack.all, backslash ∉ pack.comments.quotes := by decide +kernel
  have hopenings :
      ∀ pack ∈ Pack.all, ∀ mark ∈ pack.comments.openings,
        mark ≠ [] ∧ ∀ first ∈ mark.head?, first ∉ pack.comments.quotes := by
    decide +kernel
  have hapart : ∀ pack ∈ Pack.all, pack.comments.openings.Pairwise Apart := by decide +kernel
  exact ⟨hsimple, hquotes pack hpack, hopenings pack hpack, hapart pack hpack⟩

/-! ## One segment -/

theorem findSome?_of_mem
    {α β : Type} {f : α → Option β} {xs : List α} {x : α} {y : β} (hmem : x ∈ xs)
    (hx : f x = some y) (hothers : ∀ other ∈ xs, other ≠ x → f other = none) :
    xs.findSome? f = some y := by
  cases hfound : xs.findSome? f with
  | none =>
      rw [List.findSome?_eq_none_iff] at hfound
      rw [hfound x hmem] at hx
      contradiction
  | some found =>
      obtain ⟨other, hother, hvalue⟩ := List.exists_of_findSome?_eq_some hfound
      by_cases hsame : other = x
      · rw [← hvalue, hsame, hx]
      · rw [hothers other hother hsame] at hvalue
        contradiction

namespace Comment
namespace Scan

variable {style : CommentStyle}

theorem quotedReach_append
    {quote : UInt8} (hsingle : quote ≠ backtick) {front : List StringPart}
    (hfront : ∀ part ∈ front, part.FitsBetween quote) (passed : Nat) (rest : Bytes) :
    quotedReach quote passed (front.flatMap StringPart.bytes ++ rest) =
      quotedReach quote (passed + (front.flatMap StringPart.bytes).length) rest := by
  induction front generalizing passed with
  | nil => rfl
  | cons part front ih =>
      have hothers := ih fun other hother => hfront other (List.mem_cons_of_mem part hother)
      have hpart := hfront part List.mem_cons_self
      cases part with
      | byte b =>
          obtain ⟨hb, hother, hline⟩ := hpart
          simp only [List.flatMap_cons, StringPart.bytes, List.cons_append, List.nil_append,
            quotedReach_plain hb, if_neg hother, if_neg (hline hsingle), hothers,
            List.length_cons]
          congr 1
          omega
      | escape b =>
          have hline : b ≠ Bytes.newline := hpart hsingle
          simp only [List.flatMap_cons, StringPart.bytes, List.cons_append, List.nil_append,
            quotedReach_escape, if_neg hline, hothers, List.length_cons]
          congr 1
          omega

theorem quotedReach_body
    {quote : UInt8} (hquote : quote ≠ backslash) (hsingle : quote ≠ backtick)
    {body : List StringPart} (hbody : ∀ part ∈ body, part.FitsBetween quote) (passed : Nat)
    (rest : Bytes) :
    quotedReach quote passed (body.flatMap StringPart.bytes ++ quote :: rest) =
      passed + (body.flatMap StringPart.bytes).length + 1 := by
  rw [quotedReach_append hsingle hbody, quotedReach_plain hquote, if_pos rfl]

theorem backtickReach?_body
    {body : List StringPart} (hbody : ∀ part ∈ body, part.FitsBetween backtick) (passed : Nat)
    (rest : Bytes) :
    backtickReach? passed (body.flatMap StringPart.bytes ++ backtick :: rest) =
      some (passed + (body.flatMap StringPart.bytes).length + 1) := by
  have hbacktick : backtick ≠ backslash := by decide
  induction body generalizing passed with
  | nil => simp [backtickReach?_plain hbacktick]
  | cons part body ih =>
      have hothers := ih fun other hother => hbody other (List.mem_cons_of_mem part hother)
      have hpart := hbody part List.mem_cons_self
      cases part with
      | byte b =>
          obtain ⟨hb, hother, _⟩ := hpart
          simp only [List.flatMap_cons, StringPart.bytes, List.cons_append, List.nil_append,
            backtickReach?_plain hb, if_neg hother, hothers, List.length_cons, Option.some.injEq]
          omega
      | escape b =>
          simp only [List.flatMap_cons, StringPart.bytes, List.cons_append, List.nil_append,
            backtickReach?_escape, hothers, List.length_cons, Option.some.injEq]
          omega

theorem block?_eq_none
    {first : UInt8} {rest : Bytes} {marks : BlockMarks}
    (hother : ¬ marks.opener <+: first :: rest) : block? first rest marks = none := by
  unfold block?
  cases hopener : marks.opener with
  | nil => rfl
  | cons o opener =>
      rw [hopener, List.cons_prefix_cons, eq_comm] at hother
      simpa using hother

theorem line?_eq_none
    {first : UInt8} {rest mark : Bytes} (hother : ¬ mark <+: first :: rest) :
    line? first rest mark = none := by
  unfold line?
  cases mark with
  | nil => rfl
  | cons m mark =>
      rw [List.cons_prefix_cons, eq_comm] at hother
      simpa using hother

theorem findSome?_quoted?_eq_none
    {first : UInt8} (hfirst : first ∉ style.quotes) (rest : Bytes) :
    style.quotes.findSome? (quoted? first rest) = none := by
  rw [List.findSome?_eq_none_iff]
  intro quote hquote
  have hother : first ≠ quote := fun heq => hfirst (heq ▸ hquote)
  simp [quoted?, hother]

/-- A quote that opens no triple-quoted string opens the string that it opens alone. -/
theorem lexeme?_of_quoted?
    {quote : UInt8} (hquote : quote ∈ style.quotes) {rest : Bytes}
    (htriple : (if style.tripleQuoted then triple? quote rest else none) = none)
    {lexeme : Lexeme} (hquoted : quoted? quote rest quote = some lexeme) :
    lexeme? style quote rest = some lexeme := by
  have hothers :
      ∀ other ∈ style.quotes, other ≠ quote → quoted? quote rest other = none := by
    intro other _ hne
    simp [quoted?, hne.symm]
  unfold lexeme?
  rw [htriple, findSome?_of_mem hquote hquoted hothers]
  rfl

/-- The first lexeme of a printed string is that string. -/
theorem lexeme?_string
    (hstyle : style.Unambiguous) {quote : UInt8} {body : List StringPart}
    (hfits : (Segment.string quote body).Fits style) (rest : Bytes) :
    lexeme? style quote (body.flatMap StringPart.bytes ++ quote :: rest) =
      some (.literal ((body.flatMap StringPart.bytes).length + 1)) := by
  obtain ⟨hquote, hbody⟩ := hfits
  apply lexeme?_of_quoted? hquote
  · simp [hstyle.simple]
  · unfold quoted?
    rw [if_neg (not_not.mpr rfl)]
    split
    next hbacktick =>
      subst hbacktick
      rw [backtickReach?_body hbody, Nat.zero_add]
      rfl
    next hsingle =>
      have hescape : quote ≠ backslash := fun heq => hstyle.quotes (heq ▸ hquote)
      rw [quotedReach_body hescape hsingle hbody, Nat.zero_add]

theorem lexeme?_block
    (hstyle : style.Unambiguous) {marks : BlockMarks} {content : Bytes}
    (hfits : (Segment.block marks content).Fits style) (rest : Bytes) :
    ∃ first more, (Segment.block marks content).bytes = first :: more ∧
      lexeme? style first (more ++ rest) = some (.comment more.length) := by
  obtain ⟨hmarks, hcontent⟩ := hfits
  obtain ⟨o, opener, hopener, hquote⟩ :=
    hstyle.exists_first (List.mem_append_left _ (List.mem_map_of_mem hmarks))
  have hblock :
      block? o (opener ++ (content ++ marks.closer) ++ rest) marks =
        some (.comment (opener ++ (content ++ marks.closer)).length) := by
    have hopens : opener.isPrefixOf (opener ++ (content ++ marks.closer) ++ rest) := by simp
    unfold block?
    rw [hopener]
    simp only [decide_true, Bool.true_and, if_pos hopens]
    rw [List.append_assoc, List.drop_left, reach_append hcontent]
    simp [Nat.add_assoc]
  have hothers :
      ∀ other ∈ style.blockMarks, other ≠ marks →
        block? o (opener ++ (content ++ marks.closer) ++ rest) other = none := by
    intro other hother hne
    refine block?_eq_none ?_
    have hbegins := (hstyle.blocks_apart hmarks hother hne).not_begins_append
      (content ++ marks.closer ++ rest)
    rw [hopener] at hbegins
    simpa using hbegins
  refine ⟨o, opener ++ (content ++ marks.closer), by simp [Segment.bytes, hopener], ?_⟩
  unfold lexeme?
  rw [hstyle.simple, findSome?_quoted?_eq_none hquote, findSome?_of_mem hmarks hblock hothers]
  rfl

theorem lexeme?_line
    (hstyle : style.Unambiguous) {mark content : Bytes}
    (hfits : (Segment.line mark content).Fits style) {rest : Bytes}
    (hrest : ∀ b ∈ rest.head?, b = Bytes.newline ∨ b = carriageReturn) :
    ∃ first more, (Segment.line mark content).bytes = first :: more ∧
      lexeme? style first (more ++ rest) = some (.comment more.length) := by
  obtain ⟨hmark, hcontent⟩ := hfits
  obtain ⟨m, others, rfl, hquote⟩ := hstyle.exists_first (List.mem_append_right _ hmark)
  have hbegins (other : Bytes) (hapart : Apart other (m :: others)) :
      ¬ other <+: m :: (others ++ content ++ rest) := by
    have hnot := hapart.not_begins_append (content ++ rest)
    simpa using hnot
  have hblocks :
      style.blockMarks.findSome? (block? m (others ++ content ++ rest)) = none := by
    rw [List.findSome?_eq_none_iff]
    intro marks hmarks
    exact block?_eq_none (hbegins _ (hstyle.block_line_apart hmarks hmark))
  have hline :
      line? m (others ++ content ++ rest) (m :: others) =
        some (.comment (others ++ content).length) := by
    have hopens : others.isPrefixOf (others ++ content ++ rest) := by simp
    unfold line?
    simp only [decide_true, Bool.true_and, if_pos hopens]
    rw [List.append_assoc, List.drop_left, lineReach_append hcontent hrest, List.length_append]
  have hothers :
      ∀ other ∈ style.lineMarks, other ≠ m :: others →
        line? m (others ++ content ++ rest) other = none := by
    intro other hother hne
    exact line?_eq_none (hbegins _ (hstyle.lines_apart hmark hother hne))
  refine ⟨m, others ++ content, rfl, ?_⟩
  unfold lexeme?
  rw [hstyle.simple, findSome?_quoted?_eq_none hquote, hblocks,
    findSome?_of_mem hmark hline hothers]
  rfl

/-- The scanner passes a segment as a whole and keeps it when it is a comment. -/
theorem spansFrom_segment
    (hstyle : style.Unambiguous) {segment : Segment} (hfits : segment.Fits style)
    {rest : Bytes}
    (hrest : segment.isLine → ∀ b ∈ rest.head?, b = Bytes.newline ∨ b = carriageReturn)
    (offset : Nat) (found : List (Nat × Nat)) :
    spansFrom style offset found (segment.bytes ++ rest) =
      spansFrom style (offset + segment.bytes.length)
        (if segment.isComment then (offset, offset + segment.bytes.length) :: found else found)
        rest := by
  have hcomment (first : UInt8) (more : Bytes)
      (hlexeme : lexeme? style first (more ++ rest) = some (.comment more.length)) :
      spansFrom style offset found (first :: more ++ rest) =
        spansFrom style (offset + (first :: more).length)
          ((offset, offset + (first :: more).length) :: found) rest := by
    rw [List.cons_append, spansFrom, hlexeme, List.length_cons, Nat.add_comm more.length,
      ← Nat.add_assoc]
    simp
  cases segment with
  | code bytes => exact spansFrom_append hfits offset found rest
  | string quote body =>
      have hlexeme := lexeme?_string hstyle hfits rest
      simp only [Segment.bytes, Segment.isComment, List.cons_append, List.append_assoc,
        List.nil_append, List.length_cons, List.length_append, List.length_nil, Nat.zero_add,
        Bool.false_eq_true, if_false]
      rw [spansFrom, hlexeme]
      simp only [← List.drop_drop, List.drop_left, List.drop_one, List.tail_cons]
      congr 1
      omega
  | block marks content =>
      obtain ⟨first, more, hbytes, hlexeme⟩ := lexeme?_block hstyle hfits rest
      rw [hbytes]
      exact hcomment first more hlexeme
  | line mark content =>
      obtain ⟨first, more, hbytes, hlexeme⟩ := lexeme?_line hstyle hfits (hrest rfl)
      rw [hbytes]
      exact hcomment first more hlexeme

end Scan
end Comment

/-! ## Whole sources -/

namespace Segment

variable {style : CommentStyle}

theorem source_cons (segment : Segment) (rest : List Segment) :
    source (segment :: rest) = segment.bytes ++ source rest := by
  simp [source]

theorem head?_source {segments : List Segment} (hend : EndLine segments) :
    ∀ b ∈ (source segments).head?, b = Bytes.newline ∨ b = carriageReturn := by
  intro b hb
  cases segments with
  | nil => contradiction
  | cons next rest =>
      rw [source_cons] at hb
      rcases hend with hnewline | hreturn
      · rw [List.head?_append, hnewline] at hb
        cases hb
        exact .inl rfl
      · rw [List.head?_append, hreturn] at hb
        cases hb
        exact .inr rfl

/-- Reading back what was printed, one segment after the other. -/
theorem spansFrom_source
    (hstyle : style.Unambiguous) {segments : List Segment} (hsegments : WellFormed style segments)
    (offset : Nat) (found : List (Nat × Nat)) :
    Comment.Scan.spansFrom style offset found (source segments) =
      (spansFrom offset segments).reverse ++ found := by
  induction segments generalizing offset found with
  | nil => simp [source, spansFrom, Comment.Scan.spansFrom]
  | cons segment rest ih =>
      obtain ⟨hfits, hend, hothers⟩ := hsegments
      have hsegment := Comment.Scan.spansFrom_segment hstyle hfits
        (fun hline => head?_source (hend hline)) offset found
      rw [source_cons, hsegment, ih hothers, spansFrom]
      split <;> simp

theorem ofSpan_source (front : Bytes) (segments : List Segment) :
    (spansFrom front.length segments).map
        (fun span => Comment.ofSpan (front ++ source segments) span.1 span.2) =
      commentsFrom front.length segments := by
  induction segments generalizing front with
  | nil => rfl
  | cons segment rest ih =>
      have hothers := ih (front ++ segment.bytes)
      have htext :
          (front ++ source (segment :: rest)).slice front.length
              (front.length + segment.bytes.length) = segment.bytes := by
        rw [Bytes.slice, List.drop_left, Nat.add_sub_cancel_left, source_cons, List.take_left]
      rw [List.length_append, List.append_assoc, ← source_cons] at hothers
      rw [spansFrom, commentsFrom]
      split
      · rw [List.map_cons, hothers, Comment.ofSpan, Bytes.textBetween, htext]
      · exact hothers

/-- The scanner recovers the comments of a source that is made of complete segments:
exactly the block and line comments, with their spans and their texts.  Marks inside
strings, quotes inside comments and marks inside other comments count for nothing. -/
theorem scan_source
    (pack : Pack) (hpack : pack ∈ Pack.all) (hsimple : pack.comments.tripleQuoted = false)
    (segments : List Segment) (hsegments : WellFormed pack.comments segments) :
    Comment.scan pack.comments (source segments) = commentsFrom 0 segments := by
  have hstyle := Pack.comments_unambiguous hpack hsimple
  have hcomments : ∀ pack ∈ Pack.all, pack.comments.hasComments := by decide +kernel
  rw [Comment.scan, Comment.spans, if_pos (hcomments pack hpack),
    spansFrom_source hstyle hsegments, List.append_nil, List.reverse_reverse]
  exact ofSpan_source [] segments

/-- A string with the mark of a comment and an escaped quote in it, a block comment
with a quote and another mark in it, a string over two lines, and a line comment. -/
def interleaved : List Segment :=
  [code (ascii "f("),
    string doubleQuote ((ascii "//").map .byte ++ [.escape doubleQuote]),
    code (ascii ") "),
    block ⟨ascii "/*", ascii "*/"⟩ (ascii "don't // *"),
    string backtick ((ascii "/*\n").map .byte),
    line (ascii "//") (ascii " \"*/"),
    code (ascii "\n;")]

theorem scan_source_interleaved :
    (WellFormed Pack.javascript.comments interleaved ∧
      source interleaved = ascii "f(\"//\\\"\") /*don't // **/\x60/*\n\x60// \"*/\n;") ∧
      Comment.scan Pack.javascript.comments (source interleaved) =
        [⟨10, 24, "/*don't // **/"⟩, ⟨29, 35, "// \"*/"⟩] := by
  have hsegments : WellFormed Pack.javascript.comments interleaved := by decide +kernel
  refine ⟨⟨hsegments, by decide +kernel⟩, ?_⟩
  rw [scan_source Pack.javascript (by decide +kernel) rfl interleaved hsegments]
  decide +kernel

end Segment
end SourceOutline

import SourceOutline.Proofs.Comment.Segments
import SourceOutline.Proofs.Comment.Spans
import Mathlib.Data.Nat.Find

/-!
# String literals with escapes

A literal stands between two delimiters, and a backslash in its body protects the byte
behind it.  The scanner knows three ways to read a literal, and they keep to this rule
in different measure.  In a back-tick string every escape counts.  A string between
other quotes is left before a newline even if a backslash stands in front of it.  A
triple-quoted string ends where its quote stands three times in a row, whatever stands
in front.

So a literal falls into what the scanner reads as one string and what is left of it.
Nothing is left where the last two rules take no hold, and then no comment is found.
Otherwise what is left is scanned as if it were a source of its own.
-/

namespace SourceOutline

open Comment.Scan

inductive Delimiter where
  | single (quote : UInt8)
  | triple (quote : UInt8)
  deriving DecidableEq, Repr

namespace Delimiter

def bytes : Delimiter → Bytes
  | single quote => [quote]
  | triple quote => [quote, quote, quote]

/-- Whether a literal may go over several lines. -/
def spansLines : Delimiter → Bool
  | single quote => quote == backtick
  | triple _ => true

def Of (style : CommentStyle) : Delimiter → Prop
  | single quote => quote ∈ style.quotes
  | triple quote => style.tripleQuoted ∧ (quote = doubleQuote ∨ quote = singleQuote)

instance (style : CommentStyle) : DecidablePred (Of style)
  | single quote => inferInstanceAs (Decidable (quote ∈ style.quotes))
  | triple quote =>
      inferInstanceAs
        (Decidable (style.tripleQuoted ∧ (quote = doubleQuote ∨ quote = singleQuote)))

end Delimiter

structure StringLiteral where
  delimiter : Delimiter
  body : List StringPart
  deriving DecidableEq, Repr

namespace StringLiteral

def content (literal : StringLiteral) : Bytes :=
  literal.body.flatMap StringPart.bytes

def bytes (literal : StringLiteral) : Bytes :=
  literal.delimiter.bytes ++ (literal.content ++ literal.delimiter.bytes)

/-- A literal of a style: every backslash of its body is escaping, the delimiter does
not occur among the bytes that are not escaped, and neither does a newline in a literal
of one line. -/
structure Fits (style : CommentStyle) (literal : StringLiteral) : Prop where
  delimiter : literal.delimiter.Of style
  plain : .byte backslash ∉ literal.body
  closed : ¬ literal.delimiter.bytes.map .byte <:+: literal.body
  line : literal.delimiter.spansLines ∨ .byte Bytes.newline ∉ literal.body

instance (style : CommentStyle) (literal : StringLiteral) : Decidable (literal.Fits style) :=
  decidable_of_iff
    (literal.delimiter.Of style ∧ .byte backslash ∉ literal.body ∧
      ¬ literal.delimiter.bytes.map .byte <:+: literal.body ∧
      (literal.delimiter.spansLines ∨ .byte Bytes.newline ∉ literal.body))
    ⟨fun ⟨hdelimiter, hplain, hclosed, hline⟩ => ⟨hdelimiter, hplain, hclosed, hline⟩,
      fun ⟨hdelimiter, hplain, hclosed, hline⟩ => ⟨hdelimiter, hplain, hclosed, hline⟩⟩

/-- A literal that keeps to what the scanner understands of escapes. -/
def Plainly (literal : StringLiteral) : Prop :=
  match literal.delimiter with
  | .single quote => quote = backtick ∨ .escape Bytes.newline ∉ literal.body
  | .triple quote => ¬ [quote, quote, quote] <:+: literal.content

/-- The scanner reads the bytes `read` as one string, and `left` is left of the literal. -/
inductive Read : StringLiteral → (read left : Bytes) → Prop
  /-- The whole literal is one string. -/
  | whole {quote : UInt8} {body : List StringPart}
      (hescapes : quote = backtick ∨ .escape Bytes.newline ∉ body) :
      Read ⟨.single quote, body⟩ (StringLiteral.mk (.single quote) body).bytes []
  /-- The string is left before the first escaped newline. -/
  | lineEnd {quote : UInt8} {front back : List StringPart} (hsingle : quote ≠ backtick)
      (hfirst : .escape Bytes.newline ∉ front) :
      Read ⟨.single quote, front ++ .escape Bytes.newline :: back⟩
        (quote :: front.flatMap StringPart.bytes)
        ((StringPart.escape Bytes.newline :: back).flatMap StringPart.bytes ++ [quote])
  /-- The string ends with the first three quotes in a row, whether escaped or not. -/
  | threeQuotes {quote : UInt8} {body : List StringPart} {front left : Bytes}
      (hcontent : body.flatMap StringPart.bytes ++ [quote, quote, quote] =
        front ++ [quote, quote, quote] ++ left)
      (hfirst : ∀ index < front.length,
        ¬ [quote, quote, quote] <+: (front ++ [quote, quote, quote]).drop index) :
      Read ⟨.triple quote, body⟩ ([quote, quote, quote] ++ front ++ [quote, quote, quote]) left

theorem Read.bytes_eq
    {literal : StringLiteral} {read left : Bytes} (hread : literal.Read read left) :
    literal.bytes = read ++ left := by
  cases hread with
  | whole hescapes => rw [List.append_nil]
  | lineEnd hsingle hfirst => simp [bytes, content, Delimiter.bytes]
  | threeQuotes hcontent hfirst =>
      simp only [bytes, content, Delimiter.bytes, hcontent, List.append_assoc]

variable {style : CommentStyle} {quote : UInt8} {body : List StringPart}

theorem Fits.fitsBetween
    (hfits : Fits style ⟨.single quote, body⟩) {part : StringPart} (hpart : part ∈ body)
    (hescape : quote = backtick ∨ part ≠ .escape Bytes.newline) : part.FitsBetween quote := by
  cases part with
  | byte b =>
      refine ⟨?_, ?_, ?_⟩
      · rintro rfl
        exact hfits.plain hpart
      · rintro rfl
        exact hfits.closed (List.singleton_infix_iff _ _ |>.mpr hpart)
      · rintro hsingle rfl
        rcases hfits.line with hlines | hline
        · exact hsingle (beq_iff_eq.mp hlines)
        · exact hline hpart
  | escape b =>
      rintro hsingle rfl
      exact hescape.elim hsingle (· rfl)

/-! ## One literal -/

theorem triple?_quote_eq_none
    (hfits : Fits style ⟨.single quote, body⟩) (hquote : quote ≠ backslash) :
    triple? quote (body.flatMap StringPart.bytes ++ [quote]) = none := by
  unfold triple?
  rw [if_neg]
  rw [Bool.and_eq_true, List.isPrefixOf_iff_prefix, not_and]
  intro _ hprefix
  cases body with
  | nil => simp at hprefix
  | cons part body =>
      cases part with
      | byte b =>
          have hother : b ≠ quote := by
            rintro rfl
            exact hfits.closed (List.singleton_infix_iff _ _ |>.mpr List.mem_cons_self)
          simp [StringPart.bytes, hother.symm] at hprefix
      | escape b => simp [StringPart.bytes, hquote] at hprefix

/-- How far a string goes that opens a literal between two quotes. -/
theorem exists_read_quote
    (hstyle : backslash ∉ style.quotes) (hfits : Fits style ⟨.single quote, body⟩) :
    ∃ extra read left, Read ⟨.single quote, body⟩ read left ∧ read.length = extra + 1 ∧
      lexeme? style quote (body.flatMap StringPart.bytes ++ [quote]) =
        some (.literal extra) := by
  have hquote : quote ∈ style.quotes := hfits.delimiter
  have hescape : quote ≠ backslash := fun heq => hstyle (heq ▸ hquote)
  have htriple :
      (if style.tripleQuoted then triple? quote (body.flatMap StringPart.bytes ++ [quote])
        else none) = none := by
    rw [triple?_quote_eq_none hfits hescape, ite_self]
  have hopens (lexeme : Lexeme)
      (hlexeme : quoted? quote (body.flatMap StringPart.bytes ++ [quote]) quote = some lexeme) :=
    lexeme?_of_quoted? hquote htriple hlexeme
  have hwhole :
      (StringLiteral.mk (.single quote) body).bytes.length =
        (body.flatMap StringPart.bytes).length + 1 + 1 := by
    simp [bytes, content, Delimiter.bytes]
  by_cases hbacktick : quote = backtick
  · subst hbacktick
    have hbody : ∀ part ∈ body, part.FitsBetween backtick :=
      fun part hpart => hfits.fitsBetween hpart (.inl rfl)
    refine ⟨_, _, _, .whole (.inl rfl), hwhole, hopens _ ?_⟩
    simp [quoted?, backtickReach?_body hbody]
  · have hquoted (rest : Bytes) :
        quoted? quote rest quote = some (.literal (quotedReach quote 0 rest)) := by
      simp [quoted?, hbacktick]
    by_cases hline : .escape Bytes.newline ∈ body
    · obtain ⟨front, back, rfl, hfirst⟩ := List.eq_append_cons_of_mem hline
      have hfront : ∀ part ∈ front, part.FitsBetween quote := by
        intro part hpart
        refine hfits.fitsBetween (List.mem_append_left _ hpart) (.inr ?_)
        rintro rfl
        exact hfirst hpart
      refine ⟨_, _, _, .lineEnd hbacktick hfirst, rfl, hopens _ ?_⟩
      rw [hquoted, List.flatMap_append, List.append_assoc, quotedReach_append hbacktick hfront,
        List.flatMap_cons]
      simp [StringPart.bytes, quotedReach_escape, Ne.symm hescape]
    · have hbody : ∀ part ∈ body, part.FitsBetween quote := by
        intro part hpart
        refine hfits.fitsBetween hpart (.inr ?_)
        rintro rfl
        exact hline hpart
      refine ⟨_, _, _, .whole (.inr hline), hwhole, hopens _ ?_⟩
      rw [hquoted, quotedReach_body hescape hbacktick hbody, Nat.zero_add]

theorem exists_first_division
    {mark bytes : Bytes} (hmark : mark <:+: bytes) :
    ∃ front left, bytes = front ++ mark ++ left ∧
      ∀ index < front.length, ¬ mark <+: (front ++ mark).drop index := by
  have hplace : ∃ index, mark <+: bytes.drop index := by
    obtain ⟨front, left, rfl⟩ := hmark
    refine ⟨front.length, ?_⟩
    rw [List.append_assoc, List.drop_left]
    exact List.prefix_append mark left
  obtain ⟨left, hleft⟩ := Nat.find_spec hplace
  have hbytes : bytes = bytes.take (Nat.find hplace) ++ mark ++ left := by
    rw [List.append_assoc, hleft, List.take_append_drop]
  refine ⟨bytes.take (Nat.find hplace), left, hbytes, ?_⟩
  intro index hindex hstands
  have hearlier : index < Nat.find hplace := hindex.trans_le (List.length_take_le _ _)
  have hfront : bytes.take (Nat.find hplace) ++ mark <+: bytes := ⟨left, hbytes.symm⟩
  exact Nat.find_min hplace hearlier (hstands.trans (hfront.drop index))

/-- Between triple quotes the scan reads up to the first three quotes, which need not be the
last. -/
theorem exists_read_triple
    (hfits : Fits style ⟨.triple quote, body⟩) :
    ∃ extra read left, Read ⟨.triple quote, body⟩ read left ∧ read.length = extra + 1 ∧
      lexeme? style quote
        (quote :: quote :: (body.flatMap StringPart.bytes ++ [quote, quote, quote])) =
        some (.literal extra) := by
  obtain ⟨henabled, hquote⟩ := hfits.delimiter
  obtain ⟨front, left, hcontent, hfirst⟩ :=
    exists_first_division
      (List.suffix_append (body.flatMap StringPart.bytes) [quote, quote, quote]).isInfix
  have hreach :
      reach [quote, quote, quote] 2 (body.flatMap StringPart.bytes ++ [quote, quote, quote]) =
        2 + front.length + 3 := by
    rw [hcontent]
    exact reach_append hfirst 2 left
  have htriple :
      triple? quote (quote :: quote :: (body.flatMap StringPart.bytes ++ [quote, quote, quote])) =
        some (.literal (2 + front.length + 3)) := by
    unfold triple?
    rw [if_pos (by simpa using hquote), List.drop_succ_cons, List.drop_succ_cons, List.drop_zero,
      hreach]
  refine ⟨2 + front.length + 3, _, _, .threeQuotes hcontent hfirst, ?_, ?_⟩
  · simp only [List.length_append, List.length_cons, List.length_nil]
    omega
  · unfold lexeme?
    rw [if_pos henabled, htriple]
    rfl

theorem spansFrom_string
    {first : UInt8} {rest read left : Bytes} {extra : Nat}
    (hlexeme : lexeme? style first rest = some (.literal extra))
    (hbytes : first :: rest = read ++ left) (hread : read.length = extra + 1) (offset : Nat)
    (found : List (Nat × Nat)) :
    spansFrom style offset found (first :: rest) =
      spansFrom style (offset + read.length) found left := by
  have hleft : rest.drop extra = left := by
    rw [← List.drop_succ_cons (a := first), hbytes, ← hread, List.drop_left]
  rw [spansFrom, hlexeme, hread]
  simp only [hleft]
  congr 1
  omega

/-- The scanner reads one string from a literal and goes on with what is left of it. -/
theorem exists_read
    (hstyle : backslash ∉ style.quotes) {literal : StringLiteral} (hfits : literal.Fits style) :
    ∃ read left, literal.Read read left ∧ ∀ offset found,
      spansFrom style offset found literal.bytes =
        spansFrom style (offset + read.length) found left := by
  obtain ⟨delimiter, body⟩ := literal
  cases delimiter with
  | single quote =>
      obtain ⟨extra, read, left, hread, hlength, hlexeme⟩ := exists_read_quote hstyle hfits
      exact ⟨read, left, hread, spansFrom_string hlexeme hread.bytes_eq hlength⟩
  | triple quote =>
      obtain ⟨extra, read, left, hread, hlength, hlexeme⟩ := exists_read_triple hfits
      exact ⟨read, left, hread, spansFrom_string hlexeme hread.bytes_eq hlength⟩

/-! ## What is left -/

/-- Behind the first three quotes in a row at most two more are left, if the content has
no three quotes in a row. -/
theorem left_of_plainly_triple
    {front left : Bytes} {content : Bytes}
    (hplain : ¬ [quote, quote, quote] <:+: content)
    (hcontent : content ++ [quote, quote, quote] = front ++ [quote, quote, quote] ++ left) :
    left = [] ∨ left = [quote] ∨ left = [quote, quote] := by
  have hlength := congrArg List.length hcontent
  simp only [List.length_append, List.length_cons, List.length_nil] at hlength
  have hshort : left.length < 3 := by
    by_contra hlong
    have hprefix : front ++ [quote, quote, quote] <+: content := by
      refine List.prefix_of_prefix_length_le (hcontent ▸ List.prefix_append _ left)
        (List.prefix_append content [quote, quote, quote]) ?_
      simp only [List.length_append, List.length_cons, List.length_nil]
      omega
    exact hplain ((List.suffix_append front _).isInfix.trans hprefix.isInfix)
  have hsuffix : left <:+ [quote, quote, quote] := by
    refine List.suffix_of_suffix_length_le (hcontent ▸ List.suffix_append _ left)
      (List.suffix_append content [quote, quote, quote]) ?_
    simp only [List.length_cons, List.length_nil]
    omega
  simp only [List.suffix_cons_iff, List.suffix_nil] at hsuffix
  rcases hsuffix with rfl | rfl | rfl | rfl
  · simp at hshort
  · exact .inr (.inr rfl)
  · exact .inr (.inl rfl)
  · exact .inl rfl

/-- Of a literal that keeps to what the scanner understands nothing is left in which a
comment is found. -/
theorem spans_left_of_plainly
    {pack : Pack} (hpack : pack ∈ Pack.all) {literal : StringLiteral}
    (hfits : literal.Fits pack.comments) (hplain : literal.Plainly) {read left : Bytes}
    (hread : literal.Read read left) : Comment.spans pack.comments left = [] := by
  have hnil : ∀ pack ∈ Pack.all, Comment.spans pack.comments [] = [] := by decide +kernel
  have hquotes :
      ∀ pack ∈ Pack.all, pack.comments.tripleQuoted → ∀ quote ∈ [doubleQuote, singleQuote],
        Comment.spans pack.comments [quote] = [] ∧
          Comment.spans pack.comments [quote, quote] = [] := by
    decide +kernel
  cases hread with
  | whole hescapes => exact hnil pack hpack
  | lineEnd hsingle hfirst =>
      rcases hplain with hbacktick | hline
      · exact absurd hbacktick hsingle
      · exact absurd (List.mem_append_right _ List.mem_cons_self) hline
  | threeQuotes hcontent hfirst =>
      obtain ⟨henabled, hquote⟩ := hfits.delimiter
      have hspans := hquotes pack hpack henabled _ (by simpa using hquote)
      rcases left_of_plainly_triple hplain hcontent with rfl | rfl | rfl
      · exact hnil pack hpack
      · exact hspans.1
      · exact hspans.2

end StringLiteral

/-- Where the scanner stops reading a literal decides what it finds there: the comments of
a run of code with a literal behind it are those of what is left of the literal.  So none is
found in a literal that keeps to what the scanner understands of escapes, and this is any
literal between back-ticks, one between other quotes without an escaped newline, and one
between triple quotes without three quotes in a row. -/
theorem Comment.spans_literal
    {pack : Pack} (hpack : pack ∈ Pack.all) {run : Bytes} (hrun : pack.comments.Inert run)
    {literal : StringLiteral} (hliteral : literal.Fits pack.comments) :
    ∃ read left, literal.Read read left ∧
      Comment.spans pack.comments (run ++ literal.bytes) =
        (Comment.spans pack.comments left).map
          (Comment.Scan.shiftedSpan (run ++ read).length) ∧
      (literal.Plainly → Comment.scan pack.comments (run ++ literal.bytes) = []) := by
  have hstyle : ∀ pack ∈ Pack.all, backslash ∉ pack.comments.quotes := by decide +kernel
  have hcomments : ∀ pack ∈ Pack.all, pack.comments.hasComments := by decide +kernel
  obtain ⟨read, left, hread, hscan⟩ := StringLiteral.exists_read (hstyle pack hpack) hliteral
  have hmoved := Comment.Scan.spansFrom_shifted pack.comments 0 (run ++ read).length [] left
  have hspans :
      Comment.spans pack.comments (run ++ literal.bytes) =
        (Comment.spans pack.comments left).map
          (Comment.Scan.shiftedSpan (run ++ read).length) := by
    rw [List.length_append, List.map_nil, ← Nat.add_assoc] at hmoved
    rw [Comment.spans, Comment.spans, if_pos (hcomments pack hpack),
      if_pos (hcomments pack hpack), Comment.Scan.spansFrom_append hrun, hscan, hmoved,
      List.length_append, List.map_reverse]
  refine ⟨read, left, hread, hspans, ?_⟩
  intro hplain
  rw [Comment.scan, hspans, StringLiteral.spans_left_of_plainly hpack hliteral hplain hread]
  rfl

namespace StringLiteral

/-- A string that goes on in the next line, where a comment seems to begin. -/
def continuedLine : StringLiteral :=
  ⟨.single doubleQuote,
    .byte 0x61 :: .escape Bytes.newline :: (ascii "// b").map StringPart.byte⟩

/-- A triple-quoted string that begins with three quotes, the first of them escaped. -/
def escapedQuote : StringLiteral :=
  ⟨.triple doubleQuote,
    .escape doubleQuote :: (ascii "\"\"# x").map StringPart.byte⟩

/-- A back-tick string over two lines in which a back-tick and the newline are escaped. -/
def escapedBacktick : StringLiteral :=
  ⟨.single backtick,
    .escape backtick :: .escape Bytes.newline :: (ascii "// b").map StringPart.byte⟩

/-- Not every escape protects: a comment is found behind an escaped newline, and one behind
an escaped quote that is followed by two more. -/
theorem comments_behind_escapes :
    (continuedLine.bytes = ascii "\"a\\\n// b\"" ∧
        Comment.scan Pack.javascript.comments continuedLine.bytes = [⟨4, 9, "// b\""⟩]) ∧
      (escapedQuote.bytes = ascii "\"\"\"\\\"\"\"# x\"\"\"" ∧
        Comment.scan Pack.python.comments escapedQuote.bytes = [⟨7, 13, "# x\"\"\""⟩]) ∧
      ¬ ∀ pack ∈ Pack.all, ∀ run : Bytes, pack.comments.Inert run →
          ∀ literal : StringLiteral, literal.Fits pack.comments →
            ∀ comment ∈ Comment.scan pack.comments (run ++ literal.bytes),
              comment.start < run.length := by
  have hcontinued :
      Comment.scan Pack.javascript.comments continuedLine.bytes = [⟨4, 9, "// b\""⟩] := by
    decide +kernel
  refine ⟨⟨by decide +kernel, hcontinued⟩, ⟨by decide +kernel, by decide +kernel⟩, ?_⟩
  intro hprotects
  have hstart :=
    hprotects Pack.javascript (by decide +kernel) [] (by simp [CommentStyle.Inert])
      continuedLine (by decide +kernel) ⟨4, 9, "// b\""⟩
      (by rw [List.nil_append, hcontinued]; exact List.mem_cons_self)
  simp at hstart

end StringLiteral

/-- In a back-tick string an escaped newline protects as every other escape does. -/
theorem Comment.spans_literal_backtick :
    Pack.javascript ∈ Pack.all ∧ Pack.javascript.comments.Inert (ascii "f = ") ∧
      StringLiteral.escapedBacktick.Fits Pack.javascript.comments ∧
      StringLiteral.escapedBacktick.Plainly ∧
      Comment.scan Pack.javascript.comments
        (ascii "f = " ++ StringLiteral.escapedBacktick.bytes) = [] := by
  have hpack : Pack.javascript ∈ Pack.all := by decide +kernel
  have hrun : Pack.javascript.comments.Inert (ascii "f = ") := by
    unfold CommentStyle.Inert
    decide +kernel
  have hliteral : StringLiteral.escapedBacktick.Fits Pack.javascript.comments := by
    decide +kernel
  have hplain : StringLiteral.escapedBacktick.Plainly := .inl rfl
  obtain ⟨_, _, _, _, hnone⟩ := Comment.spans_literal hpack hrun hliteral
  exact ⟨hpack, hrun, hliteral, hplain, hnone hplain⟩

end SourceOutline

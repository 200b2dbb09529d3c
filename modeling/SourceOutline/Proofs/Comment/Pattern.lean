import SourceOutline.Language.Pack
import SourceOutline.Proofs.Comment.Reach
import SourceOutline.Proofs.Text.Pattern

/-!
# Scanning as the search for a pattern

The delimiters of a style make one pattern: its strings, each as an alternative of
its own, and then its comments, which are marked.  The comments of a source are the
marked matches that a search from left to right finds.

The scanner never goes back, while the search may.  They agree because what could be
given back is of no use.  A loop over the bytes of a string is left in one way only:
each byte decides alone whether the loop goes on, and where it goes on neither a
closing quote nor the end of the input stands.  A loop up to a closing mark tries
the marks from left to right, as the scanner does.  What is left is the one way in
which a match can fail after its first byte, a back-tick string that ends with a lone
backslash, and there the scanner finds no string either.
-/

namespace SourceOutline

open Comment.Scan

namespace Pattern

def anyByte : Pattern :=
  noneOf []

/-- To the end of the first `closer`, or to the end of the input. -/
def upTo (closer : Bytes) : Pattern :=
  (star false anyByte).seq (alt (text closer) endOfInput)

/-- A backslash with the byte behind it, unless it cannot protect it, or one byte
that does not stop the string. -/
def stringByte (unprotected stops : List UInt8) : Pattern :=
  alt ((text [backslash]).seq (noneOf unprotected)) (noneOf (backslash :: stops))

def backtickTail : Pattern :=
  (star true (stringByte [] [backtick])).seq (alt (text [backtick]) endOfInput)

def quotedTail (quote : UInt8) : Pattern :=
  (star true (stringByte [Bytes.newline] [Bytes.newline, quote])).seq (optional (text [quote]))

def tripleString (quote : UInt8) : Pattern :=
  (text [quote, quote, quote]).seq (upTo [quote, quote, quote])

def quotedString (quote : UInt8) : Pattern :=
  (text [quote]).seq (if quote = backtick then backtickTail else quotedTail quote)

def blockComment (marks : BlockMarks) : Pattern :=
  (text marks.opener).seq (upTo marks.closer)

def restOfLine : Pattern :=
  star true (noneOf [carriageReturn, Bytes.newline])

def lineComment (mark : Bytes) : Pattern :=
  (text mark).seq restOfLine

end Pattern

namespace CommentStyle

def stringPatterns (style : CommentStyle) : List Pattern :=
  (if style.tripleQuoted then
      [Pattern.tripleString doubleQuote, Pattern.tripleString singleQuote]
    else []) ++
    style.quotes.map Pattern.quotedString

def commentPatterns (style : CommentStyle) : List Pattern :=
  style.blockMarks.map Pattern.blockComment ++ style.lineMarks.map Pattern.lineComment

/-- The pattern of a style: strings first, then the comments as one group. -/
def pattern (style : CommentStyle) : Pattern :=
  .anyOf (style.stringPatterns ++
    if style.commentPatterns.isEmpty then []
    else [.group (.anyOf style.commentPatterns)])

/-- The spans of the comments that the search for the pattern finds.  Without
comment delimiters there is nothing to search for. -/
def patternSpans (style : CommentStyle) (source : Bytes) : List (Nat × Nat) :=
  if style.hasComments then style.pattern.markedSpans source else []

end CommentStyle

/-! ## How far the parts go -/

namespace Pattern

variable {base : Place} {passed : Nat} {rest : Bytes}

/-- Every turn of a repetition takes a byte; otherwise the matcher would give it up. -/
theorem shorter_pass
    {b : UInt8} (hrest : (base.pass passed).rest = b :: rest) {count : Nat} (hcount : 0 < count) :
    ((base.pass passed).pass count).rest.length < (base.pass passed).rest.length := by
  rw [Place.rest_pass, hrest, List.length_drop, List.length_cons]
  omega

/-- The lazy repetition before a closer stops behind the first one. -/
theorem first?_upTo (closer : Bytes) (hrest : (base.pass passed).rest = rest) :
    (upTo closer).first? (base.pass passed) = some (base.pass (reach closer passed rest)) := by
  unfold upTo
  induction rest generalizing passed with
  | nil =>
      have hbyte : anyByte.reached (base.pass passed) = [] := noneOf_nil hrest
      rw [first?_star_stop hbyte, first?_alt, first?_text, first?_endOfInput, hrest]
      cases closer <;> rfl
  | cons b rest ih =>
      have hbyte : anyByte.reached (base.pass passed) = [(base.pass passed).pass 1] :=
        noneOf_cons hrest
      rw [first?_lazy_step hbyte (shorter_pass hrest Nat.one_pos), Place.pass_pass,
        ih (Place.rest_pass_succ hrest), first?_alt, first?_text, first?_endOfInput, hrest,
        reach, Place.pass_pass]
      split <;> rfl

theorem first?_restOfLine (hrest : (base.pass passed).rest = rest) :
    restOfLine.first? (base.pass passed) = some (base.pass (lineReach passed rest)) := by
  unfold restOfLine
  rw [first?_star]
  induction rest generalizing passed with
  | nil =>
      rw [first?_star_stop (noneOf_nil hrest)]
      rfl
  | cons b rest ih =>
      have hbyte :
          (noneOf [carriageReturn, Bytes.newline]).reached (base.pass passed) =
            if b = Bytes.newline || b = carriageReturn then []
            else [(base.pass passed).pass 1] := by
        rw [noneOf_cons hrest]
        simp [or_comm]
      rw [lineReach]
      split_ifs at hbyte with hstop
      · rw [first?_star_stop hbyte, if_pos hstop]
        rfl
      · rw [first?_eager_step hbyte (shorter_pass hrest Nat.one_pos), Place.pass_pass,
          ih (Place.rest_pass_succ hrest), if_neg hstop]
        rfl

theorem stringByte_nil (unprotected stops : List UInt8) (hrest : base.rest = []) :
    (stringByte unprotected stops).reached base = [] := by
  simp [stringByte, reached, hrest]

theorem stringByte_plain
    (unprotected stops : List UInt8) {b : UInt8} (hrest : base.rest = b :: rest)
    (hb : b ≠ backslash) :
    (stringByte unprotected stops).reached base = if b ∈ stops then [] else [base.pass 1] := by
  simp [stringByte, reached, hrest, hb, Ne.symm hb]

/-- A backslash at the end of the source protects nothing, so no string goes past it. -/
theorem stringByte_loneBackslash (unprotected stops : List UInt8) (hrest : base.rest = [backslash]) :
    (stringByte unprotected stops).reached base = [] := by
  simp [stringByte, reached, hrest, Place.rest_pass]

theorem stringByte_escape
    (unprotected stops : List UInt8) {c : UInt8} (hrest : base.rest = backslash :: c :: rest) :
    (stringByte unprotected stops).reached base =
      if c ∈ unprotected then [] else [base.pass 2] := by
  simp [stringByte, reached, hrest, Place.pass_pass, Place.rest_pass]

theorem first?_closingQuote (quote : UInt8) (place : Place) :
    (optional (text [quote])).first? place =
      some (place.pass (if place.rest.head? = some quote then 1 else 0)) := by
  rw [first?_optional, first?_text]
  cases place.rest with
  | nil => rfl
  | cons b rest =>
      by_cases hquote : b = quote
      · simp [hquote]
      · simp [hquote, Ne.symm hquote]

/-- The eager repetition inside a string, with an optional quote behind it, reaches as far as the
scan does. -/
theorem first?_quotedTail (quote : UInt8) (hrest : (base.pass passed).rest = rest) :
    (quotedTail quote).first? (base.pass passed) =
      some (base.pass (quotedReach quote passed rest)) := by
  unfold quotedTail
  induction rest using stringInduction generalizing passed with
  | nil =>
      rw [first?_star_stop (stringByte_nil _ _ hrest), first?_closingQuote, hrest]
      rfl
  | loneBackslash =>
      rw [first?_star_stop (stringByte_loneBackslash _ _ hrest), first?_closingQuote, hrest,
        quotedReach_loneBackslash, Place.pass_pass]
      simp only [List.head?_cons, Option.some.injEq]
      split <;> rfl
  | plain b rest hb ih =>
      have hbyte := stringByte_plain [Bytes.newline] [Bytes.newline, quote] hrest hb
      simp only [List.mem_cons, List.not_mem_nil, or_false] at hbyte
      rw [quotedReach_plain hb]
      split_ifs at hbyte with hstop
      · rw [first?_star_stop hbyte, first?_closingQuote, hrest, Place.pass_pass]
        simp only [List.head?_cons, Option.some.injEq]
        split_ifs
        · rfl
        · rfl
        · tauto
      · rw [not_or] at hstop
        rw [first?_eager_step hbyte (shorter_pass hrest Nat.one_pos), Place.pass_pass,
          ih (Place.rest_pass_succ hrest), if_neg hstop.2, if_neg hstop.1]
        rfl
  | escape c rest ih =>
      have hbyte := stringByte_escape [Bytes.newline] [Bytes.newline, quote] hrest
      simp only [List.mem_singleton] at hbyte
      rw [quotedReach_escape]
      split_ifs at hbyte with hstop
      · rw [first?_star_stop hbyte, first?_closingQuote, hrest, Place.pass_pass, if_pos hstop]
        simp only [List.head?_cons, Option.some.injEq]
        split <;> rfl
      · rw [first?_eager_step hbyte (shorter_pass hrest Nat.two_pos), Place.pass_pass,
          ih (Place.rest_pass_succ (Place.rest_pass_succ hrest)), if_neg hstop]
        rfl

theorem first?_backtickClosing (place : Place) :
    (alt (text [backtick]) endOfInput).first? place =
      match place.rest with
      | [] => some place
      | b :: _ => if b = backtick then some (place.pass 1) else none := by
  rw [first?_alt, first?_text, first?_endOfInput]
  cases place.rest with
  | nil => rfl
  | cons b rest =>
      by_cases hb : b = backtick
      · simp [hb]
      · simp [hb, Ne.symm hb]

/-- A back-tick string that goes on behind a byte does not end in front of it. -/
theorem first?_backtickTail (hrest : (base.pass passed).rest = rest) :
    backtickTail.first? (base.pass passed) = (backtickReach? passed rest).map base.pass := by
  unfold backtickTail
  induction rest using stringInduction generalizing passed with
  | nil =>
      rw [first?_star_stop (stringByte_nil _ _ hrest), first?_backtickClosing, hrest]
      rfl
  | loneBackslash =>
      rw [first?_star_stop (stringByte_loneBackslash _ _ hrest), first?_backtickClosing, hrest,
        backtickReach?_loneBackslash]
      rfl
  | plain b rest hb ih =>
      have hbyte := stringByte_plain [] [backtick] hrest hb
      simp only [List.mem_singleton] at hbyte
      rw [backtickReach?_plain hb]
      split_ifs at hbyte with hstop
      · rw [first?_star_stop hbyte, first?_backtickClosing, hrest, Place.pass_pass]
        simp only [if_pos hstop]
        rfl
      · rw [first?_eager_step hbyte (shorter_pass hrest Nat.one_pos), Place.pass_pass,
          ih (Place.rest_pass_succ hrest), first?_backtickClosing, hrest]
        simp only [if_neg hstop, Option.or_none]
  | escape c rest ih =>
      have hbyte := stringByte_escape [] [backtick] hrest
      rw [if_neg List.not_mem_nil] at hbyte
      rw [first?_eager_step hbyte (shorter_pass hrest Nat.two_pos), Place.pass_pass,
        ih (Place.rest_pass_succ (Place.rest_pass_succ hrest)), first?_backtickClosing, hrest,
        backtickReach?_escape]
      simp [backslash, backtick]

end Pattern

/-! ## One lexeme -/

/-- The place behind a lexeme whose first byte is in front of `base`. -/
def Comment.Scan.Lexeme.place (base : Pattern.Place) : Lexeme → Pattern.Place
  | .literal extra => base.pass extra
  | .comment extra => (base.pass extra).mark

/-- A style all of whose comments begin with a mark. -/
structure CommentStyle.Marked (style : CommentStyle) : Prop where
  blocks : ∀ marks ∈ style.blockMarks, marks.opener ≠ []
  lines : ∀ mark ∈ style.lineMarks, mark ≠ []

namespace Pattern

variable (offset : Nat) (first : UInt8) (rest : Bytes)

theorem first?_opening {bytes : Bytes} (o : UInt8) (tail : Pattern) :
    ((text (o :: bytes)).seq tail).first? { offset, rest := first :: rest } =
      if first = o && bytes.isPrefixOf rest then
        tail.first? (Place.pass { offset := offset + 1, rest } bytes.length)
      else none := by
  have hpass :
      Place.pass { offset, rest := first :: rest } (o :: bytes).length =
        Place.pass { offset := offset + 1, rest } bytes.length := by
    simp [Place.pass, Nat.add_assoc, Nat.add_comm 1]
  rw [first?_text_seq, hpass, List.isPrefixOf, BEq.comm]
  rfl

theorem first?_opening_nil {bytes : Bytes} (hbytes : bytes ≠ []) (tail : Pattern) :
    ((text bytes).seq tail).first? { offset, rest := [] } = none := by
  rw [first?_text_seq]
  cases bytes with
  | nil => contradiction
  | cons o bytes => rfl

theorem first?_tripleString (quote : UInt8) :
    (tripleString quote).first? { offset, rest := first :: rest } =
      if first = quote && [quote, quote].isPrefixOf rest then
        some (Place.pass { offset := offset + 1, rest }
          (reach [quote, quote, quote] 2 (rest.drop 2)))
      else none := by
  unfold tripleString
  rw [first?_opening, first?_upTo _ rfl]
  rfl

theorem first?_tripleStrings :
    ((tripleString doubleQuote).first? { offset, rest := first :: rest }).or
        ((tripleString singleQuote).first? { offset, rest := first :: rest }) =
      (triple? first rest).map (Lexeme.place { offset := offset + 1, rest }) := by
  rw [first?_tripleString, first?_tripleString]
  unfold triple?
  by_cases hdouble : first = doubleQuote
  · subst hdouble
    cases [doubleQuote, doubleQuote].isPrefixOf rest <;> rfl
  · by_cases hsingle : first = singleQuote
    · subst hsingle
      cases [singleQuote, singleQuote].isPrefixOf rest <;> rfl
    · simp [hdouble, hsingle]

theorem first?_quotedString (quote : UInt8) :
    (quotedString quote).first? { offset, rest := first :: rest } =
      (quoted? first rest quote).map (Lexeme.place { offset := offset + 1, rest }) := by
  unfold quotedString quoted?
  rw [first?_opening]
  by_cases hquote : first = quote
  · rw [if_neg (not_not.mpr hquote), if_pos (by simp [hquote])]
    split_ifs
    · rw [first?_backtickTail rfl, Option.map_map]
      rfl
    · rw [first?_quotedTail quote rfl]
      rfl
  · simp [hquote]

theorem first?_blockComment {marks : BlockMarks} (hopener : marks.opener ≠ []) :
    ((blockComment marks).first? { offset, rest := first :: rest }).map Place.mark =
      (block? first rest marks).map (Lexeme.place { offset := offset + 1, rest }) := by
  unfold blockComment block?
  cases hmarks : marks.opener with
  | nil => contradiction
  | cons o opener =>
      rw [first?_opening, first?_upTo _ rfl]
      simp only
      cases decide (first = o) && opener.isPrefixOf rest <;> rfl

theorem first?_lineComment {mark : Bytes} (hmark : mark ≠ []) :
    ((lineComment mark).first? { offset, rest := first :: rest }).map Place.mark =
      (line? first rest mark).map (Lexeme.place { offset := offset + 1, rest }) := by
  unfold lineComment line?
  cases mark with
  | nil => contradiction
  | cons m mark =>
      rw [first?_opening, first?_restOfLine rfl]
      simp only
      cases decide (first = m) && mark.isPrefixOf rest <;> rfl

end Pattern

namespace CommentStyle

variable {style : CommentStyle}

theorem commentPatterns_ne_nil (hcomments : style.hasComments) : style.commentPatterns ≠ [] := by
  simp [hasComments] at hcomments
  simp [commentPatterns]
  tauto

theorem first?_pattern_eq (hcomments : style.hasComments) (place : Pattern.Place) :
    style.pattern.first? place =
      (style.stringPatterns.findSome? (·.first? place)).or
        ((style.commentPatterns.findSome? (·.first? place)).map Pattern.Place.mark) := by
  have hsome := commentPatterns_ne_nil hcomments
  unfold pattern
  rw [if_neg (by simpa using hsome), Pattern.first?_anyOf (by simp), List.findSome?_append,
    List.findSome?_singleton, Pattern.first?_group, Pattern.first?_anyOf hsome]

theorem first?_pattern_nil
    (hmarked : style.Marked) (hcomments : style.hasComments) (offset : Nat) :
    style.pattern.first? { offset, rest := [] } = none := by
  have hstrings :
      style.stringPatterns.findSome? (·.first? { offset, rest := [] }) = none := by
    rw [List.findSome?_eq_none_iff]
    intro string hstring
    simp only [stringPatterns, List.mem_append, List.mem_map] at hstring
    rcases hstring with htriple | ⟨quote, _, rfl⟩
    · split at htriple
      · simp only [List.mem_cons, List.not_mem_nil, or_false] at htriple
        rcases htriple with rfl | rfl <;> exact Pattern.first?_opening_nil _ (by simp) _
      · contradiction
    · exact Pattern.first?_opening_nil _ (by simp) _
  have hblanks :
      style.commentPatterns.findSome? (·.first? { offset, rest := [] }) = none := by
    rw [List.findSome?_eq_none_iff]
    intro comment hcomment
    simp only [commentPatterns, List.mem_append, List.mem_map] at hcomment
    rcases hcomment with ⟨marks, hmarks, rfl⟩ | ⟨mark, hmark, rfl⟩
    · exact Pattern.first?_opening_nil _ (hmarked.blocks marks hmarks) _
    · exact Pattern.first?_opening_nil _ (hmarked.lines mark hmark) _
  rw [first?_pattern_eq hcomments, hstrings, hblanks]
  rfl

theorem first?_stringPatterns
    (style : CommentStyle) (offset : Nat) (first : UInt8) (rest : Bytes) :
    style.stringPatterns.findSome? (·.first? { offset, rest := first :: rest }) =
      ((if style.tripleQuoted then triple? first rest else none).or
        (style.quotes.findSome? (quoted? first rest))).map
          (Lexeme.place { offset := offset + 1, rest }) := by
  have htriple := Pattern.first?_tripleStrings offset first rest
  have hquotes :
      (fun quote => (Pattern.quotedString quote).first? { offset, rest := first :: rest }) =
        fun quote => (quoted? first rest quote).map (Lexeme.place { offset := offset + 1, rest }) :=
    funext (Pattern.first?_quotedString offset first rest)
  rw [stringPatterns, List.findSome?_append, List.findSome?_map, Option.map_or, List.map_findSome?]
  congr 1
  · split
    · rw [← htriple, List.findSome?_cons, List.findSome?_singleton]
      cases (Pattern.tripleString doubleQuote).first? { offset, rest := first :: rest } <;> rfl
    · rfl
  · exact congrArg (style.quotes.findSome? ·) hquotes

theorem findSome?_congr
    {α β : Type} {f g : α → Option β} {xs : List α} (hsame : ∀ x ∈ xs, f x = g x) :
    xs.findSome? f = xs.findSome? g := by
  induction xs with
  | nil => rfl
  | cons x xs ih =>
      rw [List.findSome?_cons, List.findSome?_cons, hsame x List.mem_cons_self,
        ih fun y hy => hsame y (List.mem_cons_of_mem x hy)]

theorem first?_commentPatterns
    (hmarked : style.Marked) (offset : Nat) (first : UInt8) (rest : Bytes) :
    (style.commentPatterns.findSome? (·.first? { offset, rest := first :: rest })).map
        Pattern.Place.mark =
      ((style.blockMarks.findSome? (block? first rest)).or
        (style.lineMarks.findSome? (line? first rest))).map
          (Lexeme.place { offset := offset + 1, rest }) := by
  rw [commentPatterns, List.findSome?_append, List.findSome?_map, List.findSome?_map,
    Option.map_or, Option.map_or, List.map_findSome?, List.map_findSome?, List.map_findSome?,
    List.map_findSome?]
  congr 1
  · refine findSome?_congr fun marks hmarks => ?_
    exact Pattern.first?_blockComment offset first rest (hmarked.blocks marks hmarks)
  · refine findSome?_congr fun mark hmark => ?_
    exact Pattern.first?_lineComment offset first rest (hmarked.lines mark hmark)

/-- At one place the whole pattern finds what the scan finds there. -/
theorem first?_pattern
    (hmarked : style.Marked) (hcomments : style.hasComments) (offset : Nat) (first : UInt8)
    (rest : Bytes) :
    style.pattern.first? { offset, rest := first :: rest } =
      (lexeme? style first rest).map (Lexeme.place { offset := offset + 1, rest }) := by
  rw [first?_pattern_eq hcomments, first?_stringPatterns, first?_commentPatterns hmarked,
    ← Option.map_or, Option.or_assoc, lexeme?]
  simp only [Option.orElse_eq_orElse, Option.orElse_eq_or]

end CommentStyle

/-! ## Whole sources -/

theorem Comment.Scan.Lexeme.place_shorter (lexeme : Lexeme) (offset : Nat) (first : UInt8)
    (rest : Bytes) :
    (lexeme.place { offset, rest }).rest.length < (first :: rest).length := by
  have hdrop (extra : Nat) : (rest.drop extra).length < (first :: rest).length := by
    rw [List.length_drop, List.length_cons]
    omega
  cases lexeme with
  | literal extra => exact hdrop extra
  | comment extra => exact hdrop extra

/-- From one match to the next, the marked matches are the spans. -/
theorem Comment.Scan.spansFrom_eq_matches
    {style : CommentStyle} (hmarked : style.Marked) (hcomments : style.hasComments)
    (offset : Nat) (found : List (Nat × Nat)) (rest : Bytes) :
    (spansFrom style offset found rest).reverse =
      found.reverse ++ ((style.pattern.matchesFrom true offset rest).filter
        Pattern.Match.marked).map fun part => (part.start, part.stop) := by
  fun_induction spansFrom style offset found rest with
  | case1 offset found =>
      rw [Pattern.matchesFrom_nil (CommentStyle.first?_pattern_nil hmarked hcomments offset)]
      simp
  | case2 offset found first rest hnone ih =>
      have hfirst := CommentStyle.first?_pattern hmarked hcomments offset first rest
      rw [hnone] at hfirst
      rw [Pattern.matchesFrom_none hfirst, ih]
  | case3 offset found first rest extra hliteral ih =>
      have hfirst := CommentStyle.first?_pattern hmarked hcomments offset first rest
      rw [hliteral, Option.map_some] at hfirst
      rw [Pattern.matchesFrom_some hfirst (Lexeme.place_shorter _ _ first rest), ih]
      rfl
  | case4 offset found first rest extra hcomment ih =>
      have hfirst := CommentStyle.first?_pattern hmarked hcomments offset first rest
      rw [hcomment, Option.map_some] at hfirst
      rw [Pattern.matchesFrom_some hfirst (Lexeme.place_shorter _ _ first rest), ih,
        List.reverse_cons, List.append_assoc]
      rfl

theorem Pack.comments_marked {pack : Pack} (hpack : pack ∈ Pack.all) : pack.comments.Marked := by
  have hblocks :
      ∀ pack ∈ Pack.all, ∀ marks ∈ pack.comments.blockMarks, marks.opener ≠ [] := by
    decide +kernel
  have hlines : ∀ pack ∈ Pack.all, ∀ mark ∈ pack.comments.lineMarks, mark ≠ [] := by
    decide +kernel
  exact ⟨hblocks pack hpack, hlines pack hpack⟩

/-- The scanner finds what the search for the pattern of its style finds, in any bytes:
it never goes back, and a search that may go back finds the same comments.  Every pack
has a style for which this holds. -/
theorem Comment.spans_eq_patternSpans :
    (∀ style : CommentStyle, style.Marked → ∀ source : Bytes,
      Comment.spans style source = style.patternSpans source) ∧
      ∀ pack ∈ Pack.all, pack.comments.Marked := by
  refine ⟨?_, fun pack hpack => Pack.comments_marked hpack⟩
  intro style hmarked source
  unfold Comment.spans CommentStyle.patternSpans
  split
  next hcomments => exact Comment.Scan.spansFrom_eq_matches hmarked hcomments 0 [] source
  next => rfl

/-- The string in front is closed, the back-tick opens no string since the source ends
with a lone backslash, and so the search finds the comment behind it. -/
theorem Comment.spans_eq_patternSpans_loneBackslash :
    Pack.javascript.comments.Marked ∧
      Pack.javascript.comments.patternSpans (ascii "'\\'' \x60// x\\") = [(6, 11)] := by
  have hmarked := Comment.spans_eq_patternSpans.2 Pack.javascript (by decide +kernel)
  refine ⟨hmarked, ?_⟩
  rw [← Comment.spans_eq_patternSpans.1 _ hmarked]
  decide +kernel

end SourceOutline

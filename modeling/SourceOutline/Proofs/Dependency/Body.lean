import SourceOutline.Dependency.Body
import Mathlib.Data.List.DropRight
import Mathlib.Order.Bounds.Basic
import Mathlib.Order.Lattice.Nat

/-!
# The extent of a declaration

An extent is told without the scan that finds it.  At each place of a text it is known
how many brackets are open there, whether something was assigned outside brackets, and
what the line holds so far; all three are read off the characters between the
declaration and the place.  They decide whether the declaration stops at the place, and
the first stop decides how far it reaches.

The scan carries these three along.  As long as nothing stops it, it stands where they
say, so at the first stop it gives the extent.  A block is left where for the first time
as many braces are closed as were opened.
-/

namespace SourceOutline
namespace Body

/-! ## Stops -/

def nest (depth : Nat) (c : Char) : Nat :=
  if c = '(' ∨ c = '[' then depth + 1
  else if c = ')' ∨ c = ']' then depth - 1
  else depth

/-- How many brackets are open behind a text.  A closing bracket with no open one before
it is passed over. -/
def nesting (read : List Char) : Nat :=
  read.foldl nest 0

def Assigns (read : List Char) : Prop :=
  ∃ front back, read = front ++ '=' :: back ∧ nesting front = 0

def lastLine (read : List Char) : List Char :=
  read.rtakeWhile (· != '\n')

/-- A line is blank or breaks off in the middle of an expression. -/
def GoesOn (line : List Char) : Prop :=
  (∀ c ∈ line, Text.isBlank c) ∨
    ∃ token ∈ continuations, token.toList <:+ Text.trimRight line

/-- A declaration that has been read so far stops at the next character. -/
inductive Stops (read : List Char) : Char → Prop where
  | brace (houtside : nesting read = 0) : Stops read '{'
  | semicolon (houtside : nesting read = 0) : Stops read ';'
  | lineEnd (houtside : nesting read = 0) (hassigns : Assigns read)
      (hline : ¬ GoesOn (lastLine read)) : Stops read '\n'

def StopsAt (text : List Char) (start place : Nat) : Prop :=
  start ≤ place ∧ ∃ c, text[place]? = some c ∧ Stops (Span.text ⟨start, place⟩ text) c

def FirstStop (text : List Char) (start place : Nat) (c : Char) : Prop :=
  text[place]? = some c ∧ IsLeast {other | StopsAt text start other} place

/-- A block that begins at `place` is closed in front of `stop`. -/
def ClosedAt (text : List Char) (place stop : Nat) : Prop :=
  place < stop ∧ stop ≤ text.length ∧
    (Span.text ⟨place, stop⟩ text).count '{' = (Span.text ⟨place, stop⟩ text).count '}'

def BeginsDef (text : List Char) : Prop :=
  ∃ blank rest, text = "def".toList ++ blank :: rest ∧ Text.isBlank blank

/-- How far the declaration that begins at `start` reaches. -/
inductive Extent (text : List Char) (start : Nat) : Span → Prop where
  | definition (hdef : BeginsDef (text.drop start)) : Extent text start ⟨start, text.length⟩
  | endless (hdef : ¬ BeginsDef (text.drop start)) (hnone : ∀ place, ¬ StopsAt text start place) :
      Extent text start ⟨start, text.length⟩
  | statement (hdef : ¬ BeginsDef (text.drop start)) {place : Nat}
      (hstop : FirstStop text start place ';') : Extent text start ⟨start, place + 1⟩
  | line (hdef : ¬ BeginsDef (text.drop start)) {place : Nat}
      (hstop : FirstStop text start place '\n') : Extent text start ⟨start, place⟩
  | block (hdef : ¬ BeginsDef (text.drop start)) {place stop : Nat}
      (hstop : FirstStop text start place '{')
      (hclosed : IsLeast {other | ClosedAt text place other} stop) :
      Extent text start ⟨place, stop⟩
  | openBlock (hdef : ¬ BeginsDef (text.drop start)) {place : Nat}
      (hstop : FirstStop text start place '{') (hopen : ∀ stop, ¬ ClosedAt text place stop) :
      Extent text start ⟨place, text.length⟩

/-! ## What the scan carries along -/

theorem nesting_concat (read : List Char) (c : Char) :
    nesting (read ++ [c]) = nest (nesting read) c := by
  rw [nesting, List.foldl_append]
  rfl

theorem assigns_concat (read : List Char) (c : Char) :
    Assigns (read ++ [c]) ↔ Assigns read ∨ nesting read = 0 ∧ c = '=' := by
  constructor
  · rintro ⟨front, back, hread, houtside⟩
    cases back using List.reverseRecOn with
    | nil =>
        obtain ⟨rfl, hc⟩ := List.append_inj' hread rfl
        exact .inr ⟨houtside, List.singleton_inj.mp hc⟩
    | append_singleton back last =>
        rw [← List.cons_append, ← List.append_assoc] at hread
        obtain ⟨rfl, _⟩ := List.append_inj' hread rfl
        exact .inl ⟨front, back, rfl, houtside⟩
  · rintro (⟨front, back, rfl, houtside⟩ | ⟨houtside, rfl⟩)
    · exact ⟨front, back ++ [c], by simp, houtside⟩
    · exact ⟨read, [], rfl, houtside⟩

theorem lastLine_concat (read : List Char) (c : Char) :
    lastLine (read ++ [c]) = if c = '\n' then [] else lastLine read ++ [c] := by
  unfold lastLine
  rw [List.rtakeWhile_concat]
  by_cases hc : c = '\n' <;> simp [hc]

theorem continues_reverse_iff (line : List Char) : continues line.reverse ↔ GoesOn line := by
  unfold continues GoesOn
  cases hkept : line.reverse.dropWhile Text.isBlank with
  | nil =>
      rw [List.dropWhile_eq_nil_iff] at hkept
      simpa using Or.inl fun c hc => hkept c (List.mem_reverse.mpr hc)
  | cons last rest =>
      have hblank : ¬ ∀ c ∈ line, Text.isBlank c := by
        intro hall
        have hnone : line.reverse.dropWhile Text.isBlank = [] := by
          rw [List.dropWhile_eq_nil_iff]
          exact fun c hc => hall c (List.mem_reverse.mp hc)
        rw [hnone] at hkept
        contradiction
      have htrimmed : Text.trimRight line = (last :: rest).reverse := by
        rw [Text.trimRight, hkept]
      simp only [List.any_eq_true, List.isPrefixOf_iff_prefix, hblank, false_or, htrimmed]
      simp only [← List.reverse_prefix, List.reverse_reverse]

/-! ## The scan up to the first stop -/

/-- A character at which nothing stops moves the scan to the state behind it. -/
theorem spanFrom_step
    {read : List Char} {c : Char} (hstop : ¬ Stops read c) {assigned : Bool}
    (hassigned : assigned ↔ Assigns read) (start offset : Nat) (rest : List Char) :
    spanFrom start (nesting read) assigned (lastLine read).reverse offset (c :: rest) =
      spanFrom start (nesting (read ++ [c])) (assigned || (nesting read = 0 && c = '='))
        (lastLine (read ++ [c])).reverse (offset + 1) rest := by
  rw [nesting_concat, lastLine_concat, nest, spanFrom]
  -- The cases follow the tests of the scan, since an earlier test hides the later ones.
  by_cases hopening : c = '(' ∨ c = '['
  · have hassign : c ≠ '=' := by rintro rfl; simp at hopening
    have hline : c ≠ '\n' := by rintro rfl; simp at hopening
    simp [hopening, hassign, hline]
  by_cases hclosing : c = ')' ∨ c = ']'
  · have hassign : c ≠ '=' := by rintro rfl; simp at hclosing
    have hline : c ≠ '\n' := by rintro rfl; simp at hclosing
    simp [hopening, hclosing, hassign, hline]
  by_cases hline : c = '\n'
  · subst hline
    have hgoes :
        (nesting read = 0 && assigned && !continues (lastLine read).reverse) = false := by
      rw [← Bool.not_eq_true]
      intro hends
      simp only [Bool.and_eq_true, decide_eq_true_eq, Bool.not_eq_true', ← Bool.not_eq_true,
        continues_reverse_iff] at hends
      exact hstop (.lineEnd hends.1.1 (hassigned.mp hends.1.2) hends.2)
    simp [hgoes]
  have hbrace : ¬ (nesting read = 0 ∧ c = '{') := by
    rintro ⟨houtside, rfl⟩
    exact hstop (.brace houtside)
  have hsemicolon : ¬ (nesting read = 0 ∧ c = ';') := by
    rintro ⟨houtside, rfl⟩
    exact hstop (.semicolon houtside)
  simp [hopening, hclosing, hline, hbrace, hsemicolon]

/-- Reading on where nothing stops keeps count of brackets, assignments and the current line. -/
theorem spanFrom_pass
    {read : List Char} (hpass : ∀ front c, front ++ [c] <+: read → ¬ Stops front c)
    (start : Nat) (rest : List Char) :
    ∃ assigned : Bool, (assigned ↔ Assigns read) ∧
      spanFrom start 0 false [] start (read ++ rest) =
        spanFrom start (nesting read) assigned (lastLine read).reverse (start + read.length)
          rest := by
  induction read using List.reverseRecOn generalizing rest with
  | nil => exact ⟨false, by simp [Assigns], rfl⟩
  | append_singleton read c ih =>
      have hbefore : ∀ front d, front ++ [d] <+: read → ¬ Stops front d :=
        fun front d hfront => hpass front d (hfront.trans (List.prefix_append read [c]))
      obtain ⟨assigned, hassigned, hread⟩ := ih hbefore (c :: rest)
      have hstep :=
        spanFrom_step (hpass read c List.prefix_rfl) hassigned start (start + read.length) rest
      refine ⟨assigned || (nesting read = 0 && c = '='), ?_, ?_⟩
      · rw [assigns_concat, ← hassigned]
        simp
      · rw [List.append_assoc, List.singleton_append, hread, hstep, List.length_append]
        rfl

/-! ## Blocks -/

/-- The first `count` characters close as many braces as they open, and `depth` more. -/
def Closes (depth : Nat) (rest : List Char) (count : Nat) : Prop :=
  count ≤ rest.length ∧ (rest.take count).count '}' = depth + (rest.take count).count '{'

def deepen (depth : Nat) (c : Char) : Nat :=
  if c = '{' then depth + 1 else if c = '}' then depth - 1 else depth

theorem closes_zero {depth : Nat} (hdepth : 0 < depth) (rest : List Char) :
    ¬ Closes depth rest 0 := by
  rintro ⟨_, hcounts⟩
  simp at hcounts
  omega

theorem closes_cons_iff
    {depth : Nat} (hdepth : 0 < depth) (c : Char) (rest : List Char) (count : Nat) :
    Closes depth (c :: rest) (count + 1) ↔ Closes (deepen depth c) rest count := by
  unfold Closes deepen
  rw [List.take_succ_cons, List.count_cons, List.count_cons, List.length_cons]
  by_cases hopen : c = '{'
  · simp only [hopen, if_true, beq_self_eq_true]
    simp
    omega
  by_cases hclose : c = '}'
  · simp [hclose]
    omega
  · simp [hopen, hclose]

theorem isLeast_succ_iff {P : Nat → Prop} (hzero : ¬ P 0) (count : Nat) :
    IsLeast {k | P k} (count + 1) ↔ IsLeast {k | P (k + 1)} count := by
  constructor
  · rintro ⟨hcount, hleast⟩
    exact ⟨hcount, fun k hk => Nat.le_of_succ_le_succ (hleast hk)⟩
  · rintro ⟨hcount, hleast⟩
    refine ⟨hcount, ?_⟩
    intro k hk
    cases k with
    | zero => exact absurd hk hzero
    | succ k => exact Nat.succ_le_succ (hleast hk)

theorem blockEnd_cons
    {depth : Nat} (hdepth : 0 < depth) (c : Char) (rest : List Char) (offset : Nat) :
    blockEnd depth offset (c :: rest) =
      if deepen depth c = 0 then offset + 1 else blockEnd (deepen depth c) (offset + 1) rest := by
  rw [blockEnd, deepen]
  by_cases hopen : c = '{'
  · simp [hopen]
  by_cases hclose : c = '}'
  · have hlast : depth ≤ 1 ↔ depth - 1 = 0 := by omega
    simp [hclose, hlast]
  · simp [hopen, hclose, Nat.pos_iff_ne_zero.mp hdepth]

/-- A block ends at the first brace that closes it. -/
theorem blockEnd_of_isLeast
    {depth : Nat} (hdepth : 0 < depth) {rest : List Char} {count : Nat}
    (hcount : IsLeast {k | Closes depth rest k} count) (offset : Nat) :
    blockEnd depth offset rest = offset + count := by
  induction rest generalizing depth count offset with
  | nil =>
      obtain ⟨hle, hcounts⟩ := hcount.1
      simp at hcounts
      omega
  | cons c rest ih =>
      cases count with
      | zero => exact absurd hcount.1 (closes_zero hdepth _)
      | succ count =>
          rw [isLeast_succ_iff (closes_zero hdepth _)] at hcount
          simp only [closes_cons_iff hdepth] at hcount
          rw [blockEnd_cons hdepth]
          by_cases hend : deepen depth c = 0
          · have hnow : Closes (deepen depth c) rest 0 := ⟨Nat.zero_le _, by simp [hend]⟩
            have hzero : count = 0 := Nat.le_zero.mp (hcount.2 hnow)
            rw [if_pos hend, hzero]
          · rw [if_neg hend, ih (Nat.pos_of_ne_zero hend) hcount]
            omega

/-- A block that nothing closes goes on to the end of the text. -/
theorem blockEnd_of_not_closes
    {depth : Nat} (hdepth : 0 < depth) {rest : List Char}
    (hopen : ∀ count, ¬ Closes depth rest count) (offset : Nat) :
    blockEnd depth offset rest = offset + rest.length := by
  induction rest generalizing depth offset with
  | nil => rfl
  | cons c rest ih =>
      have hrest : ∀ count, ¬ Closes (deepen depth c) rest count := by
        intro count
        rw [← closes_cons_iff hdepth]
        exact hopen (count + 1)
      have hend : deepen depth c ≠ 0 := by
        intro hend
        exact hrest 0 ⟨Nat.zero_le _, by simp [hend]⟩
      rw [blockEnd_cons hdepth, if_neg hend, ih (Nat.pos_of_ne_zero hend) hrest,
        List.length_cons]
      omega

theorem closedAt_iff
    {text rest : List Char} {place : Nat} (hplace : text.drop place = '{' :: rest) (stop : Nat) :
    ClosedAt text place stop ↔ ∃ count, stop = place + 1 + count ∧ Closes 1 rest count := by
  have hlength : text.length = place + 1 + rest.length := by
    have hdrop := congrArg List.length hplace
    rw [List.length_drop, List.length_cons] at hdrop
    omega
  have hspan (count : Nat) :
      Span.text ⟨place, place + 1 + count⟩ text = '{' :: rest.take count := by
    rw [Span.text, hplace, show place + 1 + count - place = count + 1 by omega,
      List.take_succ_cons]
  have hcounts (count : Nat) :
      ClosedAt text place (place + 1 + count) ↔ Closes 1 rest count := by
    unfold ClosedAt Closes
    rw [hspan, hlength, List.count_cons, List.count_cons]
    simp
    omega
  constructor
  · intro hclosed
    obtain ⟨count, rfl⟩ := Nat.exists_eq_add_of_le hclosed.1
    exact ⟨count, rfl, (hcounts count).mp hclosed⟩
  · rintro ⟨count, rfl, hcloses⟩
    exact (hcounts count).mpr hcloses

/-! ## Extents -/

theorem startsDef_iff (text : List Char) : startsDef text ↔ BeginsDef text := by
  unfold BeginsDef
  fun_cases startsDef text with
  | case1 c rest =>
      constructor
      · intro hblank
        exact ⟨c, rest, rfl, hblank⟩
      · rintro ⟨blank, others, htext, hblank⟩
        obtain ⟨rfl, _⟩ : c = blank ∧ rest = others := by simpa using htext
        exact hblank
  | case2 text hother =>
      constructor
      · intro hnever
        contradiction
      · rintro ⟨blank, rest, htext, _⟩
        exact absurd htext (hother blank rest)

theorem span_eq_of_beginsDef
    {text : List Char} {start : Nat} (hdef : BeginsDef (text.drop start)) :
    span text start = ⟨start, text.length⟩ := by
  simp [span, (startsDef_iff _).mpr hdef]

theorem stopsAt_iff
    {text front rest : List Char} {start : Nat} {c : Char}
    (hsplit : text.drop start = front ++ c :: rest) :
    StopsAt text start (start + front.length) ↔ Stops front c := by
  have hplace : text[start + front.length]? = some c := by
    rw [← List.getElem?_drop, hsplit]
    simp
  have hspan : Span.text ⟨start, start + front.length⟩ text = front := by
    rw [Span.text, hsplit]
    simp
  constructor
  · rintro ⟨_, d, hd, hstops⟩
    obtain rfl : d = c := Option.some.inj (hd.symm.trans hplace)
    rwa [hspan] at hstops
  · intro hstops
    exact ⟨Nat.le_add_right _ _, c, hplace, by rwa [hspan]⟩

theorem span_eq_spanFrom
    {text : List Char} {start : Nat} (hinside : start < text.length)
    (hdef : ¬ BeginsDef (text.drop start)) :
    span text start = spanFrom start 0 false [] start (text.drop start) := by
  have hscans : (decide (text.length ≤ start) || startsDef (text.drop start)) = false := by
    simp [hinside, ← Bool.not_eq_true, startsDef_iff, hdef]
  simp only [span]
  rw [hscans, if_neg (by decide)]

/-- What lies between a declaration and its first stop. -/
theorem FirstStop.exists_read
    {text : List Char} {start place : Nat} {c : Char} (hfirst : FirstStop text start place c) :
    ∃ read rest, text.drop start = read ++ c :: rest ∧ start + read.length = place ∧
      Stops read c ∧ ∀ front d, front ++ [d] <+: read → ¬ Stops front d := by
  obtain ⟨hplace, hstop, hleast⟩ := hfirst
  have hlength : start + (place - start) = place := Nat.add_sub_cancel' hstop.1
  have hinside : place - start < (text.drop start).length := by
    have hlt := (List.getElem?_eq_some_iff.mp hplace).1
    rw [List.length_drop]
    omega
  have hread : ((text.drop start).take (place - start)).length = place - start :=
    List.length_take_of_le hinside.le
  have hsplit :
      text.drop start =
        (text.drop start).take (place - start) ++ c :: text.drop (place + 1) := by
    have hrest : text.drop place = c :: text.drop (place + 1) := by
      rw [List.drop_eq_getElem?_toList_append, hplace]
      rfl
    conv_lhs => rw [← List.take_append_drop (place - start) (text.drop start)]
    rw [List.drop_drop, hlength, hrest]
  refine ⟨_, _, hsplit, by rw [hread, hlength], ?_, ?_⟩
  · rw [← stopsAt_iff hsplit, hread, hlength]
    exact hstop
  · intro front d hfront hstops
    obtain ⟨back, hback⟩ := hfront
    have hearlier :
        text.drop start = front ++ d :: (back ++ c :: text.drop (place + 1)) := by
      rw [hsplit, ← hback]
      simp
    have hle := hleast ((stopsAt_iff hearlier).mpr hstops)
    rw [← hback] at hread
    simp only [List.length_append, List.length_singleton] at hread
    omega

/-- The scan arrives at the first stop. -/
theorem FirstStop.span_eq
    {text : List Char} {start place : Nat} {c : Char} (hfirst : FirstStop text start place c)
    (hdef : ¬ BeginsDef (text.drop start)) :
    ∃ read rest, ∃ assigned : Bool, text.drop place = c :: rest ∧ Stops read c ∧
      (assigned ↔ Assigns read) ∧
      span text start =
        spanFrom start (nesting read) assigned (lastLine read).reverse place (c :: rest) := by
  obtain ⟨read, rest, hsplit, hplace, hstops, hpass⟩ := hfirst.exists_read
  obtain ⟨assigned, hassigned, hscan⟩ := spanFrom_pass hpass start (c :: rest)
  have hinside : start < text.length := by
    by_contra hle
    rw [List.drop_eq_nil_of_le (not_lt.mp hle)] at hsplit
    simp at hsplit
  have hrest : text.drop place = c :: rest := by
    rw [← hplace, ← List.drop_drop, hsplit, List.drop_left]
  refine ⟨read, rest, assigned, hrest, hstops, hassigned, ?_⟩
  rw [span_eq_spanFrom hinside hdef, hsplit, hscan, hplace]

theorem FirstStop.span_eq_block
    {text : List Char} {start place : Nat} (hfirst : FirstStop text start place '{')
    (hdef : ¬ BeginsDef (text.drop start)) :
    ∃ rest, text.drop place = '{' :: rest ∧
      span text start = ⟨place, blockEnd 1 (place + 1) rest⟩ := by
  obtain ⟨read, rest, assigned, hrest, hstops, _, hspan⟩ := hfirst.span_eq hdef
  cases hstops with
  | brace houtside => exact ⟨rest, hrest, by simp [hspan, spanFrom, houtside]⟩

theorem span_eq_of_no_stop
    {text : List Char} {start : Nat} (hdef : ¬ BeginsDef (text.drop start))
    (hnone : ∀ place, ¬ StopsAt text start place) : span text start = ⟨start, text.length⟩ := by
  by_cases hinside : start < text.length
  · have hpass : ∀ front d, front ++ [d] <+: text.drop start → ¬ Stops front d := by
      rintro front d ⟨back, hback⟩ hstops
      rw [List.append_assoc, List.singleton_append] at hback
      exact hnone _ ((stopsAt_iff hback.symm).mpr hstops)
    obtain ⟨assigned, _, hscan⟩ := spanFrom_pass hpass start []
    have hend : start + (text.drop start).length = text.length := by
      rw [List.length_drop]
      omega
    rw [List.append_nil, spanFrom, hend] at hscan
    rw [span_eq_spanFrom hinside hdef, hscan]
  · simp [span, not_lt.mp hinside]

/-- The reading reaches what the extent describes; that there is only one follows. -/
theorem span_eq_of_extent
    {text : List Char} {start : Nat} {extent : Span} (hextent : Extent text start extent) :
    span text start = extent := by
  cases hextent with
  | definition hdef => exact span_eq_of_beginsDef hdef
  | endless hdef hnone => exact span_eq_of_no_stop hdef hnone
  | statement hdef hstop =>
      obtain ⟨read, rest, assigned, _, hstops, _, hspan⟩ := hstop.span_eq hdef
      cases hstops with
      | semicolon houtside => simp [hspan, spanFrom, houtside]
  | line hdef hstop =>
      obtain ⟨read, rest, assigned, _, hstops, hassigned, hspan⟩ := hstop.span_eq hdef
      cases hstops with
      | lineEnd houtside hassigns hline =>
          have hends : continues (lastLine read).reverse = false := by
            rw [← Bool.not_eq_true, continues_reverse_iff]
            exact hline
          simp [hspan, spanFrom, houtside, hassigned.mpr hassigns, hends]
  | @block hdef place stop hstop hclosed =>
      obtain ⟨rest, hrest, hspan⟩ := hstop.span_eq_block hdef
      simp only [closedAt_iff hrest] at hclosed
      obtain ⟨⟨count, rfl, hcloses⟩, hleast⟩ := hclosed
      have hcount : IsLeast {k | Closes 1 rest k} count := by
        refine ⟨hcloses, ?_⟩
        intro k hk
        have hle := hleast ⟨k, rfl, hk⟩
        omega
      rw [hspan, blockEnd_of_isLeast Nat.one_pos hcount]
  | @openBlock hdef place hstop hopen =>
      obtain ⟨rest, hrest, hspan⟩ := hstop.span_eq_block hdef
      have hnever : ∀ count, ¬ Closes 1 rest count := by
        intro count hcloses
        exact hopen _ ((closedAt_iff hrest _).mpr ⟨count, rfl, hcloses⟩)
      have hend : place + 1 + rest.length = text.length := by
        have hlength := congrArg List.length hrest
        rw [List.length_drop, List.length_cons] at hlength
        omega
      rw [hspan, blockEnd_of_not_closes Nat.one_pos hnever, hend]

theorem exists_extent (text : List Char) (start : Nat) : ∃ extent, Extent text start extent := by
  by_cases hdef : BeginsDef (text.drop start)
  · exact ⟨_, .definition hdef⟩
  by_cases hnone : ∀ place, ¬ StopsAt text start place
  · exact ⟨_, .endless hdef hnone⟩
  obtain ⟨place, hleast⟩ : ∃ place, IsLeast {other | StopsAt text start other} place :=
    ⟨_, isLeast_csInf (not_forall_not.mp hnone)⟩
  obtain ⟨_, c, hc, hstops⟩ := hleast.1
  have hfirst : FirstStop text start place c := ⟨hc, hleast⟩
  cases hstops with
  | semicolon _ => exact ⟨_, .statement hdef hfirst⟩
  | lineEnd _ _ _ => exact ⟨_, .line hdef hfirst⟩
  | brace _ =>
      by_cases hopen : ∀ stop, ¬ ClosedAt text place stop
      · exact ⟨_, .openBlock hdef hfirst hopen⟩
      · exact ⟨_, .block hdef hfirst (isLeast_csInf (not_forall_not.mp hopen))⟩

theorem Extent.bounds
    {text : List Char} {start : Nat} {extent : Span} (hextent : Extent text start extent)
    (hstart : start ≤ text.length) :
    start ≤ extent.start ∧ extent.start ≤ extent.stop ∧ extent.stop ≤ text.length := by
  have hinside {place : Nat} {c : Char} (hfirst : FirstStop text start place c) :
      start ≤ place ∧ place < text.length :=
    ⟨hfirst.2.1.1, (List.getElem?_eq_some_iff.mp hfirst.1).1⟩
  cases hextent with
  | definition _ => exact ⟨le_rfl, hstart, le_rfl⟩
  | endless _ _ => exact ⟨le_rfl, hstart, le_rfl⟩
  | statement _ hstop =>
      have hplace := hinside hstop
      exact ⟨le_rfl, by simp; omega, by simp; omega⟩
  | line _ hstop =>
      have hplace := hinside hstop
      exact ⟨le_rfl, hplace.1, hplace.2.le⟩
  | block _ hstop hclosed =>
      have hplace := hinside hstop
      exact ⟨hplace.1, hclosed.1.1.le, hclosed.1.2.1⟩
  | openBlock _ hstop _ =>
      have hplace := hinside hstop
      exact ⟨hplace.1, hplace.2.le, le_rfl⟩

/-- The extent of a declaration lies in the text, behind its beginning, and it is decided
by the first stop: the text runs on to its end, or up to a line end, or through a
semicolon, or a block follows, which reaches as far as its braces do. -/
theorem span_iff_extent (text : List Char) {start : Nat} (hstart : start ≤ text.length) :
    let found := span text start
    start ≤ found.start ∧ found.start ≤ found.stop ∧ found.stop ≤ text.length ∧
      ∀ extent, found = extent ↔ Extent text start extent := by
  intro found
  obtain ⟨extent, hextent⟩ := exists_extent text start
  have hfound : found = extent := span_eq_of_extent hextent
  obtain ⟨hfront, horder, hback⟩ := hextent.bounds hstart
  rw [hfound]
  refine ⟨hfront, horder, hback, ?_⟩
  intro other
  constructor
  · rintro rfl
    exact hextent
  · intro hother
    rw [← hfound]
    exact span_eq_of_extent hother

/-- An arrow goes on behind its first line end and stops at the second. -/
theorem span_iff_extent_arrow :
    let text := "x;\nconst twice = (x) =>\n  double(x)\nclass C {}".toList
    3 ≤ text.length ∧ span text 3 = ⟨3, 35⟩ ∧ Extent text 3 ⟨3, 35⟩ := by
  intro text
  have hstart : 3 ≤ text.length := by decide +kernel
  have hspan : span text 3 = ⟨3, 35⟩ := by decide +kernel
  have hextent := (span_iff_extent text hstart).2.2.2 ⟨3, 35⟩
  exact ⟨hstart, hspan, hextent.mp hspan⟩

end Body
end SourceOutline

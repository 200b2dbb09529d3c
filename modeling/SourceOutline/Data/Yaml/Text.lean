import SourceOutline.Data.Yaml.Fault
import SourceOutline.Text.Surrogate

/-!
# Characters, lines and scalars of a settings file

A place in a text is what is left to read, with the line, the column and the
number of characters read so far.  Scalars may go over several lines: between
quotes and in plain scalars a single line break is a blank, and further breaks
stay; in a block scalar the indicator decides.
-/

namespace SourceOutline
namespace Yaml

structure Mark where
  line : Nat := 0
  column : Nat := 0
  index : Nat := 0
  deriving DecidableEq, Repr

structure Place where
  rest : List Char
  mark : Mark := {}

def byteOrderMark : Char := Char.ofNat 0xFEFF

def isBreak (c : Char) : Bool :=
  c == '\n' || c == '\r' || c.toNat == 0x85 || c.toNat == 0x2028 || c.toNat == 0x2029

/-- What a line break stands for: most of them for a newline. -/
def breakText (c : Char) : Char :=
  if c.toNat == 0x2028 || c.toNat == 0x2029 then c else '\n'

/-- Whether a text ends, or a blank, tab or line break comes next. -/
def endsWord : List Char → Bool
  | [] => true
  | c :: _ => c == ' ' || c == '\t' || isBreak c

def endsLine : List Char → Bool
  | [] => true
  | c :: _ => isBreak c

/-- Whether the name of an anchor or alias may end here. -/
def endsName (text : List Char) : Bool :=
  endsWord text || (text.head?.elim false fun c => "?:,]\x7d%@\x60".toList.contains c)

def isNameChar (c : Char) : Bool :=
  c.isAlphanum || c == '-' || c == '_'

def isMarker (c : Char) : List Char → Bool
  | a :: b :: d :: rest => a == c && b == c && d == c && endsWord rest
  | _ => false

def atMarker (text : List Char) : Bool :=
  isMarker '-' text || isMarker '.' text

/-- Whether a plain scalar may begin here.  Most marks begin no plain scalar, and
some do only in front of a character of a word. -/
def beginsPlain (inFlow : Bool) (text : List Char) : Bool :=
  match text with
  | [] => false
  | c :: rest =>
      !(endsWord text || "-?:,[]\x7b\x7d#&*!|>'\"%@\x60".toList.contains c) ||
        (!endsWord rest && (c == '-' || (!inFlow && (c == '?' || c == ':'))))

namespace Mark

def after (mark : Mark) (c : Char) : Mark :=
  if isBreak c then ⟨mark.line + 1, 0, mark.index + 1⟩
  else if c == byteOrderMark then ⟨mark.line, mark.column, mark.index + 1⟩
  else ⟨mark.line, mark.column + 1, mark.index + 1⟩

end Mark

def pass (mark : Mark) : (count : Nat) → List Char → Place
  | count + 1, c :: rest => pass (mark.after c) count rest
  | _, rest => ⟨rest, mark⟩

/-- Passes over blanks, at most up to a column if one is given. -/
def passBlanks (column : Option Nat) (mark : Mark) : List Char → Place
  | [] => ⟨[], mark⟩
  | c :: rest =>
      if c == ' ' && column.elim true (mark.column < ·) then
        passBlanks column (mark.after c) rest
      else ⟨c :: rest, mark⟩

/-- Passes over blanks, comments and line breaks, and tells whether a line ended.
A comment lasts to the end of its line. -/
def passGaps (comment newLine : Bool) (mark : Mark) : List Char → Place × Bool
  | [] => (⟨[], mark⟩, newLine)
  | c :: rest =>
      if isBreak c then passGaps false true (mark.after c) rest
      else if comment || c == ' ' then passGaps comment newLine (mark.after c) rest
      else if c == '#' then passGaps true newLine (mark.after c) rest
      else (⟨c :: rest, mark⟩, newLine)

/-- The line breaks at the front of a text, with the blanks and, if wanted, the
tabs between them.  None if a document marker begins one of the lines. -/
def breaks (tabs : Bool) (taken : List Char) (mark : Mark) :
    List Char → Option (List Char) × Place
  | [] => (some taken.reverse, ⟨[], mark⟩)
  | c :: rest =>
      if c == ' ' || (tabs && c == '\t') then breaks tabs taken (mark.after c) rest
      else if isBreak c then
        if atMarker rest then (none, ⟨rest, mark.after c⟩)
        else breaks tabs (breakText c :: taken) (mark.after c) rest
      else (some taken.reverse, ⟨c :: rest, mark⟩)

/-- What line breaks mean inside a scalar: one is a blank, and of several the
first one means nothing. -/
def fold : List Char → List Char
  | [] => []
  | first :: rest =>
      if first != '\n' then first :: rest else if rest.isEmpty then [' '] else rest

/-- The characters of a plain scalar up to a gap, the last one first. -/
def plainRun (inFlow : Bool) (taken : List Char) (mark : Mark) : List Char → List Char × Place
  | [] => (taken, ⟨[], mark⟩)
  | c :: rest =>
      let bracket (c : Char) : Bool := ",[]\x7b\x7d".toList.contains c
      let ends :=
        endsWord (c :: rest) ||
          (c == ':' && (endsWord rest || (inFlow && rest.head?.elim false bracket))) ||
          (inFlow && (c == '?' || bracket c))
      if ends then (taken, ⟨c :: rest, mark⟩)
      else plainRun inFlow (c :: taken) (mark.after c) rest

/-- The gap behind a run of a plain scalar as it would stand in the scalar, and
whether a line ended in it.  None if a document marker follows. -/
def plainGap (place : Place) : Option (List Char) × Place × Bool :=
  let blanks := place.rest.takeWhile (· == ' ')
  let place := passBlanks none place.mark place.rest
  match place.rest with
  | [] => (some blanks, place, false)
  | c :: _ =>
      if isBreak c then
        let (found, place) := breaks false [] place.mark place.rest
        (found.map fold, place, true)
      else (some blanks, place, false)

/-- A plain scalar from a run on, `taken` being what comes before with the last
character first.  Each step of `fuel` reads at least one character. -/
def plainFrom (inFlow : Bool) (indent : Int) (fuel : Nat) (taken gap : List Char)
    (newLine : Bool) (place : Place) : List Char × Place × Bool :=
  match fuel with
  | 0 => (taken.reverse, place, newLine)
  | fuel + 1 =>
      if place.rest.head? == some '#' then (taken.reverse, place, newLine)
      else
        match plainRun inFlow [] place.mark place.rest with
        | ([], _) => (taken.reverse, place, newLine)
        | (run, after) =>
            let taken := run ++ gap.reverse ++ taken
            match plainGap after with
            | (some (g :: gap), after, ended) =>
                if !inFlow && after.mark.column < indent then (taken.reverse, after, ended)
                else plainFrom inFlow indent fuel taken (g :: gap) ended after
            | (_, after, ended) => (taken.reverse, after, ended)

def escapes : List (Char × Char) :=
  [('0', '\x00'), ('a', '\x07'), ('b', '\x08'), ('t', '\t'), ('\t', '\t'), ('n', '\n'),
    ('v', '\x0b'), ('f', '\x0c'), ('r', '\r'), ('e', '\x1b'), (' ', ' '), ('\x22', '\x22'),
    ('\\', '\\'), ('/', '/'), ('N', Char.ofNat 0x85), ('_', Char.ofNat 0xA0),
    ('L', Char.ofNat 0x2028), ('P', Char.ofNat 0x2029)]

def escapeWidths : List (Char × Nat) :=
  [('x', 2), ('u', 4), ('U', 8)]

def hexValue? (c : Char) : Option Nat :=
  if c.isDigit then some (c.toNat - 0x30)
  else if 'a' ≤ c && c ≤ 'f' then some (c.toNat - 0x57)
  else if 'A' ≤ c && c ≤ 'F' then some (c.toNat - 0x37)
  else none

def hexNumber? (digits : List Char) : Option Nat :=
  digits.foldl (fun n c => n.bind fun n => (hexValue? c).map (n * 16 + ·)) (some 0)

/-- What an escape with hexadecimal digits writes: a character, or half of a
surrogate pair, which waits for the other half. -/
def pushUnit (unit : Nat) (taken : List Char) (half : Option Nat) : List Char × Option Nat :=
  match half with
  | some high =>
      if 0xDC00 ≤ unit && unit < 0xE000 then
        (Char.ofNat (0x10000 + (high - 0xD800) * 0x400 + (unit - 0xDC00)) :: taken, none)
      else if 0xD800 ≤ unit && unit < 0xDC00 then (Surrogate.char high :: taken, some unit)
      else (Char.ofNat unit :: Surrogate.char high :: taken, none)
  | none =>
      if 0xD800 ≤ unit && unit < 0xDC00 then (taken, some unit)
      else if 0xDC00 ≤ unit && unit < 0xE000 then (Surrogate.char unit :: taken, none)
      else (Char.ofNat unit :: taken, none)

/-- What is taken when no other half of a surrogate pair comes. -/
def settle (taken : List Char) (half : Option Nat) : List Char :=
  half.elim taken fun high => Surrogate.char high :: taken

/-- A scalar between quotes from behind the opening one, `taken` being what comes
before with the last character first.  Each step of `fuel` reads at least one
character. -/
def quotedFrom (double : Bool) (fuel : Nat) (taken : List Char) (half : Option Nat)
    (place : Place) : Except Fault (List Char × Place) :=
  let quote := if double then '\x22' else '\x27'
  match fuel, place.rest with
  | 0, _ => .error .malformed
  | _, [] => .error .malformed
  | fuel + 1, c :: rest =>
      let next := place.mark.after c
      if c == quote then
        if !double && rest.head? == some quote then
          quotedFrom double fuel (quote :: taken) none (pass place.mark 2 place.rest)
        else .ok ((settle taken half).reverse, ⟨rest, next⟩)
      else if double && c == '\\' then
        match rest with
        | [] => .error .malformed
        | e :: digits =>
            match escapes.lookup e, escapeWidths.lookup e with
            | some read, _ =>
                quotedFrom double fuel (read :: settle taken half) none
                  ⟨digits, next.after e⟩
            | none, some width =>
                match hexNumber? (digits.take width) with
                | none => .error .malformed
                | some unit =>
                    if digits.length < width then .error .malformed
                    else if 0x110000 ≤ unit then .error (.escape unit)
                    else
                      let (taken, half) := pushUnit unit taken half
                      quotedFrom double fuel taken half (pass (next.after e) width digits)
            | none, none =>
                if isBreak e then
                  match breaks true [] next rest with
                  | (some (_ :: kept), place) =>
                      quotedFrom double fuel (kept.reverse ++ settle taken half) none place
                  | _ => .error .malformed
                else .error .malformed
      else if c == ' ' || c == '\t' || isBreak c then
        let blank (c : Char) : Bool := c == ' ' || c == '\t'
        let blanks := place.rest.takeWhile blank
        let place := pass place.mark blanks.length place.rest
        if endsLine place.rest then
          match breaks true [] place.mark place.rest with
          | (some found, place) =>
              quotedFrom double fuel ((fold found).reverse ++ settle taken half) none place
          | (none, _) => .error .malformed
        else quotedFrom double fuel (blanks.reverse ++ settle taken half) none place
      else quotedFrom double fuel (c :: settle taken half) none ⟨rest, next⟩

/-- Whether the line breaks at the end of a block scalar are dropped, cut down to
one or kept. -/
inductive Chomping where
  | strip
  | clip
  | keep
  deriving DecidableEq, Repr

def chompingOf? (c : Char) : Option Chomping :=
  if c == '+' then some .keep else if c == '-' then some .strip else none

/-- The digit that gives the indentation of a block scalar; it is not zero. -/
def incrementOf? (c : Char) : Option Nat :=
  if '1' ≤ c && c ≤ '9' then some (c.toNat - 0x30) else none

/-- The indicators behind the mark of a block scalar, and what follows. -/
def indicators (text : List Char) : Chomping × Option Nat × List Char :=
  match text with
  | [] => (.clip, none, [])
  | a :: rest =>
      match chompingOf? a, incrementOf? a with
      | some chomping, _ =>
          match rest.head?.bind incrementOf? with
          | some n => (chomping, some n, rest.drop 1)
          | none => (chomping, none, rest)
      | none, some n =>
          match rest.head?.bind chompingOf? with
          | some chomping => (chomping, some n, rest.drop 1)
          | none => (.clip, some n, rest)
      | none, none => (.clip, none, text)

/-- What follows the first line of a block scalar, on which only a comment may
stand besides the indicators. -/
def afterHeader? (place : Place) : Option Place :=
  let inner := passBlanks none place.mark place.rest
  let comment := inner.rest.head? == some '#'
  let skipped := if comment then inner.rest.takeWhile (fun c => !isBreak c) else []
  let after := pass inner.mark skipped.length inner.rest
  if endsLine after.rest then some (pass after.mark 1 after.rest) else none

/-- The line breaks before the first line of a block scalar, and the greatest
column that blanks reach. -/
def measure (taken : List Char) (widest : Nat) (mark : Mark) :
    List Char → List Char × Nat × Place
  | [] => (taken.reverse, widest, ⟨[], mark⟩)
  | c :: rest =>
      if c == ' ' then measure taken (max widest (mark.column + 1)) (mark.after c) rest
      else if isBreak c then measure (breakText c :: taken) widest (mark.after c) rest
      else (taken.reverse, widest, ⟨c :: rest, mark⟩)

/-- The line breaks between two lines of a block scalar.  Blanks are passed over
up to the indentation. -/
def blockBreaks (indent : Nat) (taken : List Char) (mark : Mark) :
    List Char → List Char × Place
  | [] => (taken.reverse, ⟨[], mark⟩)
  | c :: rest =>
      if c == ' ' && mark.column < indent then blockBreaks indent taken (mark.after c) rest
      else if isBreak c then blockBreaks indent (breakText c :: taken) (mark.after c) rest
      else (taken.reverse, ⟨c :: rest, mark⟩)

/-- Whether a line of a block scalar begins here. -/
def atBlockLine (indent : Nat) (place : Place) : Bool :=
  place.mark.column == indent && !place.rest.isEmpty

def leadsBlank (text : List Char) : Bool :=
  text.head?.elim false fun c => c == ' ' || c == '\t'

/-- The lines of a block scalar from one on, `taken` being what comes before with
the last character first and `gap` the breaks before the line.  Each step of
`fuel` reads at least one character. -/
def blockLines (folded : Bool) (chomping : Chomping) (indent fuel : Nat)
    (taken gap : List Char) (place : Place) : List Char × Place :=
  let finish (lineBreak gap taken : List Char) : List Char :=
    let taken := if chomping = .strip then taken else lineBreak.reverse ++ taken
    (if chomping = .keep then gap.reverse ++ taken else taken).reverse
  match fuel with
  | 0 => (taken.reverse, place)
  | fuel + 1 =>
      if !atBlockLine indent place then (finish [] gap taken, place)
      else
        let line := place.rest.takeWhile fun c => !isBreak c
        let taken := line.reverse ++ gap.reverse ++ taken
        let after := pass place.mark line.length place.rest
        let lineBreak := (after.rest.take 1).map breakText
        let after := pass after.mark 1 after.rest
        let (next, after) := blockBreaks indent [] after.mark after.rest
        if atBlockLine indent after then
          if folded && lineBreak == ['\n'] && !leadsBlank line && !leadsBlank after.rest then
            let blank := if next.isEmpty then [' '] else []
            blockLines folded chomping indent fuel (blank ++ taken) next after
          else blockLines folded chomping indent fuel (lineBreak ++ taken) next after
        else (finish lineBreak next taken, after)

namespace Place

def skip (place : Place) (count : Nat) : Place :=
  pass place.mark count place.rest

def toNext (place : Place) : Place × Bool :=
  let marked := place.mark.index == 0 && place.rest.head? == some byteOrderMark
  let place := if marked then place.skip 1 else place
  passGaps false false place.mark place.rest

def plain (place : Place) (inFlow : Bool) (indent : Int) : List Char × Place × Bool :=
  plainFrom inFlow indent place.rest.length [] [] false place

def quoted (place : Place) (double : Bool) : Except Fault (List Char × Place) :=
  quotedFrom double place.rest.length [] none place

/-- The block scalar behind its mark, `least` being the smallest column at which
its lines may begin. -/
def block? (place : Place) (folded : Bool) (least : Int) : Option (List Char × Place) :=
  let (chomping, increment, rest) := indicators place.rest
  let place := place.skip (place.rest.length - rest.length)
  if !(endsWord place.rest) || place.rest.head? == some '\t' then none
  else
    (afterHeader? place).map fun place =>
      let least := max 1 least.toNat
      match increment with
      | none =>
          let (gap, widest, after) := measure [] 0 place.mark place.rest
          blockLines folded chomping (max least widest) (after.rest.length + 1) [] gap after
      | some n =>
          let indent := least + n - 1
          let (gap, after) := blockBreaks indent [] place.mark place.rest
          blockLines folded chomping indent (after.rest.length + 1) [] gap after

end Place
end Yaml
end SourceOutline

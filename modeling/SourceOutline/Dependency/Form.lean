import SourceOutline.Text.Blank
import SourceOutline.Text.Search
import SourceOutline.Text.Word

/-!
# Where a name is declared

The place of a declaration is guessed from its text alone.  Six forms count as
declarations of a name:

* `function name (`, perhaps with a star for a generator,
* `class name`,
* `const name =`, and the same with `let` or `var`,
* `name = function`, perhaps with `async`,
* `def name (`,
* a method at the start of a line: modifiers, a star or none, `name (…) … {`.

The name is taken literally, whatever characters it holds.  A form either stands
at a place or does not; that depends on the text and the name, and not on where
a search begins.

The forms are recognised by predicates that are handed what has to follow.  As a
name may itself begin with blanks, every way to divide a run of blanks is tried.
-/

namespace SourceOutline
namespace Form

/-- Zero or more characters of a class, then `next`. -/
def many (class_ : Char → Bool) (next : List Char → Bool) : List Char → Bool
  | [] => next []
  | c :: rest => next (c :: rest) || (class_ c && many class_ next rest)

def blanks (next : List Char → Bool) : List Char → Bool :=
  many Text.isBlank next

def someBlanks (next : List Char → Bool) : List Char → Bool
  | [] => false
  | c :: rest => Text.isBlank c && blanks next rest

/-- The given characters, then `next`. -/
def literal (word : List Char) (next : List Char → Bool) (text : List Char) : Bool :=
  (Text.after? word text).any next

def maybe (c : Char) (next : List Char → Bool) (text : List Char) : Bool :=
  next text || literal [c] next text

def startsWord : List Char → Bool
  | [] => false
  | c :: _ => Text.isWord c

def startsWith (c : Char) : List Char → Bool
  | [] => false
  | d :: _ => d == c

/-- Whether a name may begin after the given character. -/
def nameMayFollow (before : Option Char) : Bool :=
  !before.any Text.isNameChar

/-- Whether a line begins after the given character. -/
def lineBegins (before : Option Char) : Bool :=
  before.all (· == '\n')

/-- A word ends or begins between the last character of `name` and the text.  For
the empty name that is a blank. -/
def atWordEdge (name text : List Char) : Bool :=
  name.getLast?.any Text.isWord != startsWord text

def functionForm (name : List Char) : List Char → Bool :=
  literal "function".toList <| blanks <| maybe '*' <| blanks <| literal name <| blanks <|
    startsWith '('

def classForm (name : List Char) : List Char → Bool :=
  literal "class".toList <| someBlanks <| literal name <| atWordEdge name

def bindingForm (name : List Char) (text : List Char) : Bool :=
  ["const", "let", "var"].any fun keyword =>
    (literal keyword.toList <| someBlanks <| literal name <| blanks <| startsWith '=') text

/-- The word `function`, perhaps after `async`. -/
def functionWord (text : List Char) : Bool :=
  let word := literal "function".toList fun rest => !startsWord rest
  word text || literal "async".toList (blanks word) text

def assignmentForm (name : List Char) (before : Option Char) (text : List Char) : Bool :=
  nameMayFollow before &&
    (literal name <| blanks <| literal ['='] <| blanks functionWord) text

def defForm (name : List Char) : List Char → Bool :=
  literal "def".toList <| someBlanks <| literal name <| blanks <| startsWith '('

/-- Words that may stand before the name of a method. -/
def modifierWords : List String :=
  ["static", "async", "get", "set", "public", "private", "protected"]

/-- What follows a modifier.  No modifier is the beginning of another. -/
def afterModifier? (text : List Char) : Option (List Char) :=
  modifierWords.findSome? fun word => Text.after? word.toList text

theorem afterModifier?_length {text rest : List Char} (h : afterModifier? text = some rest) :
    rest.length < text.length := by
  obtain ⟨word, hword, hafter⟩ := List.exists_of_findSome?_eq_some h
  have hlength := Text.after?_length_le hafter
  have hpos : 0 < word.toList.length := by
    simp only [modifierWords, List.mem_cons, List.not_mem_nil, or_false] at hword
    rcases hword with rfl | rfl | rfl | rfl | rfl | rfl | rfl <;> decide
  omega

/-- Zero or more modifiers, each with blanks after it, then `next`. -/
def modifiers (next : List Char → Bool) (text : List Char) : Bool :=
  next text ||
    match _h : afterModifier? text with
    | some rest =>
        someBlanks next rest ||
          (rest.head?.any Text.isBlank && modifiers next (Text.trimLeft rest))
    | none => false
termination_by text.length
decreasing_by
  exact Nat.lt_of_le_of_lt (Text.trimLeft_length_le rest) (afterModifier?_length _h)

/-- What follows the opening parenthesis of a method: its end, then an opening
brace with no semicolon before it. -/
def methodTail (text : List Char) : Bool :=
  match text.dropWhile (· != ')') with
  | [] => false
  | _ :: rest => startsWith '{' (rest.dropWhile fun c => c != '{' && c != ';')

def methodForm (name : List Char) (before : Option Char) (text : List Char) : Bool :=
  lineBegins before &&
    (many (fun c => c == ' ' || c == '\t') <| modifiers <| maybe '*' <| literal name <| blanks <|
      literal ['('] methodTail) text

def stands (name : List Char) (before : Option Char) (text : List Char) : Bool :=
  functionForm name text || classForm name text || bindingForm name text ||
    assignmentForm name before text || defForm name text || methodForm name before text

/-- The first place at which a form stands in `text`, which begins at `offset`. -/
def findFrom (name : List Char) (before : Option Char) (offset : Nat) :
    List Char → Option Nat
  | [] => none
  | c :: rest =>
      if stands name before (c :: rest) then some offset
      else findFrom name (some c) (offset + 1) rest

/-- The first place from `start` on at which a name is declared. -/
def find (name text : List Char) (start : Nat) : Option Nat :=
  let before := if start = 0 then none else text[start - 1]?
  findFrom name before start (text.drop start)

/-- Whether the name is called somewhere in a text that follows `before`. -/
def calledFrom (name : List Char) (before : Option Char) : List Char → Bool
  | [] => false
  | c :: rest =>
      (nameMayFollow before && literal name (blanks (startsWith '(')) (c :: rest)) ||
        calledFrom name (some c) rest

/-- Whether a text holds something that looks like a call of a name. -/
def called (name text : List Char) : Bool :=
  calledFrom name none text

end Form
end SourceOutline

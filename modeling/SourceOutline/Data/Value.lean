import SourceOutline.Data.Stamp
import SourceOutline.Number.Shortest
import SourceOutline.Number.Whole
import SourceOutline.Text.Quoted
import SourceOutline.Text.Utf8

/-!
# Plain data

Settings are read from files and from the environment before anyone knows
whether they make sense, and events carry fields of many kinds.  Both are plain
data: null, truth values, numbers, texts, lists and mappings.  A mapping keeps
its entries in the order in which they were first put there.

`Entries.merge` lays one mapping over another.  Where both have a mapping under
a key the two are merged in turn, and otherwise the upper one's value is taken
whole.

A settings file can hold a few things more: dates and times, bytes, sets, pairs,
and lists and mappings that contain themselves.  No setting is made of them, but
they can be shown.
-/

namespace SourceOutline

/-- A scalar that can stand as the key of an entry. -/
inductive Key where
  | null
  | bool (b : Bool)
  | int (n : Int)
  | real (x : Binary64)
  | text (s : String)
  | stamp (stamp : Stamp)
  | bytes (content : Bytes)
  deriving DecidableEq, Repr

/-- Data that only a settings file can hold. -/
inductive Other where
  | stamp (stamp : Stamp)
  | bytes (content : Bytes)
  | set (items : List Key)
  /-- Two values by the texts that show them. -/
  | pair (first second : String)
  /-- A list or mapping inside itself, with the text that shows it by itself. -/
  | again (isMap : Bool) (alone : String)
  deriving DecidableEq, Repr

inductive Value where
  | null
  | bool (b : Bool)
  | int (n : Int)
  | real (x : Binary64)
  | text (s : String)
  | list (items : List Value)
  | map (entries : List (Key × Value))
  | other (data : Other)
  deriving Repr

/-- The entries of a mapping, each key once. -/
abbrev Entries := List (Key × Value)

namespace Entries

def get? (entries : Entries) (key : Key) : Option Value :=
  entries.lookup key

/-- Gives a key a value, at the place it has or else at the end. -/
def put (entries : Entries) (key : Key) (value : Value) : Entries :=
  match entries with
  | [] => [(key, value)]
  | entry :: rest =>
      if entry.1 = key then (entry.1, value) :: rest else entry :: put rest key value

end Entries

namespace Key

def toValue : Key → Value
  | null => .null
  | bool b => .bool b
  | int n => .int n
  | real x => .real x
  | text s => .text s
  | stamp time => .other (.stamp time)
  | bytes content => .other (.bytes content)

/-- The number that a key stands for, if it stands for one; a double that is
whole stands for the whole number. -/
def number? : Key → Option (Binary64 ⊕ Int)
  | bool b => some (.inr (if b then 1 else 0))
  | int n => some (.inr n)
  | real x => some (x.toInt?.elim (.inl x) .inr)
  | _ => none

/-- What a key means in a mapping: equal numbers are one key however they are written. -/
def meaning (key : Key) : (Binary64 ⊕ Int) ⊕ Key :=
  match key.number? with
  | some number => .inl number
  | none => .inr key

/-- Whether two keys are the same although they may be written differently. -/
def same (a b : Key) : Bool :=
  a.meaning = b.meaning

end Key

namespace Entries

/-- The value under the same key. -/
def find? (entries : Entries) (key : Key) : Option Value :=
  (List.find? (fun entry => entry.1.same key) entries).map Prod.snd

/-- Gives a key a value, at the place that the same key has, which stays as it is
written, or else at the end. -/
def write (entries : Entries) (key : Key) (value : Value) : Entries :=
  match entries with
  | [] => [(key, value)]
  | entry :: rest =>
      if entry.1.same key then (entry.1, value) :: rest else entry :: write rest key value

end Entries

mutual
/-- Lays a value over the one that is there. -/
def Value.over (current : Option Value) : Value → Value
  | .map entries =>
      match current with
      | some (.map below) => .map (Entries.merge below entries)
      | _ => .map entries
  | .null => .null
  | .bool b => .bool b
  | .int n => .int n
  | .real x => .real x
  | .text s => .text s
  | .list items => .list items
  | .other data => .other data

/-- Lays a mapping over another. -/
def Entries.merge (below : List (Key × Value)) : List (Key × Value) → List (Key × Value)
  | [] => below
  | (key, value) :: rest =>
      Entries.merge (Entries.write below key (value.over (Entries.find? below key))) rest
end

namespace Value

def record (fields : List (String × Value)) : Value :=
  .map (fields.map fun (name, value) => (.text name, value))

def texts (items : List String) : Value :=
  .list (items.map text)

def ofOption (value : Option Value) : Value :=
  value.getD .null

def field? (value : Value) (name : String) : Option Value :=
  match value with
  | .map entries => Entries.get? entries (.text name)
  | _ => none

def toKey? : Value → Option Key
  | .null => some .null
  | .bool b => some (.bool b)
  | .int n => some (.int n)
  | .real x => some (.real x)
  | .text s => some (.text s)
  | .list _ => none
  | .map _ => none
  | .other (.stamp stamp) => some (.stamp stamp)
  | .other (.bytes content) => some (.bytes content)
  | .other _ => none

def boolText (b : Bool) : String :=
  if b then "True" else "False"

/-- Bytes between quotes; those that are no printable ASCII are written as
escapes. -/
def bytesText (content : Bytes) : String :=
  let ascii := content.map fun byte => Char.ofNat byte.toNat
  let quote := Text.quoteFor ascii
  let written (c : Char) : List Char :=
    if c.toNat < 0x7F then Text.quotedChar quote c else '\\' :: 'x' :: Text.hexDigits 2 c.toNat
  "b" ++ String.ofList (quote :: (ascii.flatMap written ++ [quote]))

def shownKey : Key → String
  | .null => "None"
  | .bool b => boolText b
  | .int n => toString n
  | .real x => x.text
  | .text s => quote s
  | .stamp stamp => stamp.shown
  | .bytes content => bytesText content

/-- Data that only a settings file can hold, as it is shown inside a value. -/
def shownOther : Other → String
  | .stamp stamp => stamp.shown
  | .bytes content => bytesText content
  | .set [] => "set()"
  | .set items => "\x7b" ++ String.intercalate ", " (items.map shownKey) ++ "\x7d"
  | .pair first second => "(" ++ first ++ ", " ++ second ++ ")"
  | .again isMap _ => if isMap then "\x7b...\x7d" else "[...]"

mutual
/-- A value as it is shown inside another: texts are quoted. -/
def shown : Value → String
  | .null => "None"
  | .bool b => boolText b
  | .int n => toString n
  | .real x => x.text
  | .text s => quote s
  | .list items => "[" ++ String.intercalate ", " (shownItems items) ++ "]"
  | .map entries => "\x7b" ++ String.intercalate ", " (shownEntries entries) ++ "\x7d"
  | .other data => shownOther data

def shownItems : List Value → List String
  | [] => []
  | item :: rest => item.shown :: shownItems rest

def shownEntries : List (Key × Value) → List String
  | [] => []
  | (key, value) :: rest => (shownKey key ++ ": " ++ value.shown) :: shownEntries rest
end

/-- A value as it is shown by itself: a text stands as it is. -/
def display : Value → String
  | .text s => s
  | .other (.stamp stamp) => stamp.text
  | .other (.again _ alone) => alone
  | value => value.shown

/-- Whether a number has more digits than can be shown. -/
def isUnshowable (n : Int) : Bool :=
  Nat.pow 10 Whole.mostDigits ≤ n.natAbs

def keyUnshowable : Key → Bool
  | .int n => isUnshowable n
  | _ => false

mutual
/-- Whether a value holds a number with more digits than can be shown. -/
def hasUnshowable : Value → Bool
  | .null => false
  | .bool _ => false
  | .int n => isUnshowable n
  | .real _ => false
  | .text _ => false
  | .list items => anyUnshowable items
  | .map entries => entriesUnshowable entries
  | .other (.set items) => items.any keyUnshowable
  | .other _ => false

def anyUnshowable : List Value → Bool
  | [] => false
  | item :: rest => item.hasUnshowable || anyUnshowable rest

def entriesUnshowable : List (Key × Value) → Bool
  | [] => false
  | (key, value) :: rest =>
      keyUnshowable key || value.hasUnshowable || entriesUnshowable rest
end

end Value
end SourceOutline

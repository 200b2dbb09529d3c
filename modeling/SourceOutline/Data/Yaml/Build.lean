import SourceOutline.Data.Yaml.Node

/-!
# The data of a settings file

A tree gives plain data.  A key that comes twice has its last value at its first
place, and numbers that are equal are one key.  The key of two less-than signs
takes over the entries of the mapping, or of each mapping of the list, that is
its value; entries of the mapping itself go before entries that are taken over.

Of several faults the one that lies least deep counts, and of those the first.
-/

namespace SourceOutline
namespace Yaml

/-- A fault, and how many lists and mappings are around it. -/
structure DeepFault where
  depth : Nat := 0
  fault : Fault := .malformed
  deriving DecidableEq, Repr

/-- Data, or the fault that keeps it from being made. -/
abbrev Built (α : Type) := Except DeepFault α

namespace Built

variable {α β : Type}

def ofExcept : Except Fault α → Built α
  | .ok value => .ok value
  | .error fault => .error { fault }

def inside : Built α → Built α
  | .ok value => .ok value
  | .error deep => .error { deep with depth := deep.depth + 1 }

/-- Two parts side by side. -/
def both (first : Built α) (second : Built β) : Built (α × β) :=
  match first, second with
  | .ok a, .ok b => .ok (a, b)
  | .ok _, .error deep => .error deep
  | .error deep, .ok _ => .error deep
  | .error deep, .error other => .error (if other.depth < deep.depth then other else deep)

end Built

/-- The entries that a value lends to the mapping into which it is merged. -/
def lent? : Value → Option Entries
  | .map entries => some entries
  | .list items =>
      items.foldl
        (fun lent item =>
          match lent, item with
          | some entries, .map more => some (more ++ entries)
          | _, _ => none)
        (some [])
  | _ => none

/-- Trees that contain themselves, by the names of their anchors: whether each is
a mapping, and the text that shows it by itself. -/
abbrev Loops := List (String × Bool × String)

namespace Node

def isMap : Node → Bool
  | .map _ _ => true
  | _ => false

def isScalar (tag : Tag) : Node → Bool
  | .scalar own _ => own == tag
  | _ => false

mutual
/-- The text of a scalar, or of the default value of a mapping. -/
def text? : Node → Option String
  | .scalar _ text => some text
  | .map _ entries => defaultText? entries
  | .list _ _ => none
  | .loop _ => none
  | .anchored _ node => node.text?

/-- The text of the first default value among entries. -/
def defaultText? : List (Node × Node) → Option String
  | [] => none
  | (key, value) :: rest => if key.isScalar .default then value.text? else defaultText? rest
end

end Node

/-- The entries of a mapping: those that it takes over come first. -/
def joined (lent own : Entries) : Entries :=
  (lent ++ own).foldl (fun entries (key, value) => Entries.write entries key value) []

/-- Tags under which a mapping stands for a scalar. -/
def scalarTags : List Tag := [.null, .bool, .int, .real, .text, .stamp, .bytes]

mutual
/-- The data of a tree, inside some trees that contain themselves. -/
def Node.build (loops : Loops) : Node → Built Value
  | .scalar tag text => .ofExcept (scalarValue tag text)
  | .list tag items =>
      if tag = .list then (Built.inside (buildItems loops items)).map .list
      else if tag = .orderedMap || tag = .pairs then
        (Built.inside (buildPairs loops items)).map .list
      else .error {}
  | .map tag entries =>
      if tag = .map then
        (Built.inside (buildEntries loops entries)).map fun (lent, own) => .map (joined lent own)
      else if tag = .set then
        (Built.inside (buildEntries loops entries)).map fun (lent, own) =>
          .other (.set ((joined lent own).map Prod.fst))
      else if scalarTags.contains tag then
        match Node.defaultText? entries with
        | some text => .ofExcept (scalarValue tag text)
        | none => .error {}
      else .error {}
  | .loop anchor =>
      match loops.lookup anchor with
      | some (isMap, alone) => .ok (.other (.again isMap alone))
      | none => .error {}
  | .anchored anchor node => do
      let once ← node.build ((anchor, node.isMap, "") :: loops)
      node.build ((anchor, node.isMap, once.shown) :: loops)

def buildItems (loops : Loops) : List Node → Built (List Value)
  | [] => .ok []
  | item :: rest =>
      (Built.both (item.build loops) (buildItems loops rest)).map fun (value, values) =>
        value :: values

def buildPairs (loops : Loops) : List Node → Built (List Value)
  | [] => .ok []
  | item :: rest =>
      (Built.both (item.buildPair loops) (buildPairs loops rest)).map fun (value, values) =>
        value :: values

def Node.buildPair (loops : Loops) : Node → Built Value
  | .map _ entries => buildOnlyPair loops entries
  | _ => .error {}

def buildOnlyPair (loops : Loops) : List (Node × Node) → Built Value
  | [] => .error {}
  | (key, value) :: rest =>
      if rest.isEmpty then
        (Built.both (key.build loops) (value.build loops)).map fun (first, second) =>
          .other (.pair first.shown second.shown)
      else .error {}

/-- The entries that a mapping takes over, and its own. -/
def buildEntries (loops : Loops) : List (Node × Node) → Built (Entries × Entries)
  | [] => .ok ([], [])
  | (key, node) :: rest => do
      let (entry, lent, own) ←
        Built.both
          (Built.both (if key.isScalar .merge || key.isScalar .default then .ok .null
              else key.build loops)
            (node.build loops))
          (buildEntries loops rest)
      let (keyValue, value) := entry
      if key.isScalar .merge then
        match lent? value with
        | some entries => return (entries ++ lent, own)
        | none => throw {}
      else
        match key, keyValue.toKey? with
        | .scalar .default text, _ => return (lent, (.text text, value) :: own)
        | _, some key => return (lent, (key, value) :: own)
        | _, none => throw {}
end

def Node.value (node : Node) : Except Fault Value :=
  match node.build [] with
  | .ok value => .ok value
  | .error deep => .error deep.fault

end Yaml
end SourceOutline

import SourceOutline.Data.Yaml.Scalar
import SourceOutline.Data.Yaml.Token

/-!
# The tree of a settings file

Tokens make a tree of scalars, lists and mappings, each with its tag.  A missing
value is an empty plain scalar.  An alias stands for a copy of the tree that its
anchor marks; the anchor must come first, and only once.  Inside the tree that
its anchor marks an alias stands for that tree itself.
-/

namespace SourceOutline
namespace Yaml

inductive Node where
  | scalar (tag : Tag) (text : String)
  | list (tag : Tag) (items : List Node)
  | map (tag : Tag) (entries : List (Node × Node))
  /-- The tree around it that an anchor marks. -/
  | loop (anchor : String)
  /-- A tree that contains itself under the name of its anchor. -/
  | anchored (anchor : String) (node : Node)
  deriving Repr

namespace Node

def empty : Node := .scalar .null ""

mutual
/-- Whether a tree contains the tree that an anchor marks. -/
def mentions (anchor : String) : Node → Bool
  | .scalar _ _ => false
  | .list _ items => anyMentions anchor items
  | .map _ entries => entriesMention anchor entries
  | .loop name => name == anchor
  | .anchored _ node => node.mentions anchor

def anyMentions (anchor : String) : List Node → Bool
  | [] => false
  | item :: rest => item.mentions anchor || anyMentions anchor rest

def entriesMention (anchor : String) : List (Node × Node) → Bool
  | [] => false
  | (key, value) :: rest =>
      key.mentions anchor || value.mentions anchor || entriesMention anchor rest
end

def under (node : Node) (anchor : String) : Node :=
  if node.mentions anchor then .anchored anchor node else node

end Node

/-- The trees that anchors mark; none while a tree is being read. -/
abbrev Anchors := List (String × Option Node)

/-- Handles of tags and what they stand for. -/
abbrev Handles := List (String × String)

def defaultHandles : Handles := [("!", "!"), ("!!", Tag.lead)]

/-- What is left to read, the anchors so far and the handles of the document. -/
structure Reading where
  tokens : List Token
  anchors : Anchors := []
  handles : Handles := defaultHandles

namespace Reading

def next? (reading : Reading) : Option Token :=
  reading.tokens.head?

def drop (reading : Reading) : Reading :=
  { reading with tokens := reading.tokens.drop 1 }

def isAt (reading : Reading) (tokens : List Token) : Bool :=
  reading.next?.elim false tokens.contains

/-- What is wrong when the next token does not fit. -/
def fault (reading : Reading) : Fault :=
  match reading.next? with
  | some (.fault fault) => fault
  | _ => .malformed

/-- Begins the tree that an anchor marks. -/
def begin (reading : Reading) (name : String) : Except Fault Reading :=
  if (reading.anchors.lookup name).isSome then .error .malformed
  else .ok { reading with anchors := (name, none) :: reading.anchors }

/-- Marks a tree that has been read with its anchor. -/
def mark (reading : Reading) (name : String) (node : Node) : Reading :=
  { reading with anchors := (name, some node) :: reading.anchors }

end Reading

structure Properties where
  anchor : Option String := none
  /-- The full name of a tag; the mark by itself is its own name. -/
  tag : Option String := none

namespace Properties

def isEmpty (properties : Properties) : Bool :=
  properties.anchor.isNone && properties.tag.isNone

/-- The mark that leaves the tag to the form. -/
def openTag : String := "!"

def scalarTag (properties : Properties) (text : String) (plain : Bool) : Tag :=
  match properties.tag with
  | none => if plain then .ofPlain text else .text
  | some name => if name = openTag then .ofPlain text else .named name

def collectionTag (properties : Properties) (usual : Tag) : Tag :=
  match properties.tag with
  | none => usual
  | some name => if name = openTag then usual else .named name

def scalar (properties : Properties) (text : String) (plain : Bool) : Node :=
  .scalar (properties.scalarTag text plain) text

def list (properties : Properties) (items : List Node) : Node :=
  .list (properties.collectionTag .list) items.reverse

def map (properties : Properties) (entries : List (Node × Node)) : Node :=
  .map (properties.collectionTag .map) entries.reverse

def tagName (handles : Handles) (tag : WrittenTag) : Except Fault String :=
  match tag.handle with
  | none => .ok tag.rest
  | some handle =>
      match handles.lookup handle with
      | some lead => .ok (lead ++ tag.rest)
      | none => .error .malformed

/-- Reads an anchor and a tag, in either order; what is left are at most one of
each. -/
def read (reading : Reading) : Except Fault (Properties × Reading) := do
  match reading.tokens with
  | .anchor anchor :: .tag tag :: rest =>
      let tag ← tagName reading.handles tag
      return ({ anchor := some anchor, tag := some tag }, { reading with tokens := rest })
  | .tag tag :: .anchor anchor :: rest =>
      let tag ← tagName reading.handles tag
      return ({ anchor := some anchor, tag := some tag }, { reading with tokens := rest })
  | .anchor anchor :: rest =>
      return ({ anchor := some anchor }, { reading with tokens := rest })
  | .tag tag :: rest =>
      let tag ← tagName reading.handles tag
      return ({ tag := some tag }, { reading with tokens := rest })
  | _ => return ({}, reading)

end Properties

/-- Where a tree stands: inside brackets, in a block, or in a block mapping,
where a sequence need not be indented. -/
inductive Context where
  | flow
  | block
  | entry
  deriving DecidableEq, Repr

/-- A tree and what is left to read after it. -/
abbrev Read := Except Fault (Node × Reading)

/-- The tokens after which the item of a sequence is missing, inside a block
mapping. -/
def afterLooseItem : List Token := [.blockEntry, .key, .value, .blockEnd]

def afterItem : List Token := [.blockEntry, .blockEnd]

def afterEntry : List Token := [.key, .value, .blockEnd]

mutual
/-- Reads a tree.  Each step of `fuel` follows one call; a token is passed in
every four calls at least. -/
def readNode (fuel : Nat) (context : Context) (reading : Reading) : Read :=
  match fuel with
  | 0 => .error .malformed
  | fuel + 1 =>
      match reading.next? with
      | some (.alias name) =>
          match reading.anchors.lookup name with
          | some (some node) => .ok (node, reading.drop)
          | some none => .ok (.loop name, reading.drop)
          | none => .error .malformed
      | _ => do
          let (properties, reading) ← Properties.read reading
          match properties.anchor with
          | none => readContent fuel context properties reading
          | some name =>
              let (node, reading) ←
                readContent fuel context properties (← reading.begin name)
              let node := node.under name
              return (node, reading.mark name node)

def readContent (fuel : Nat) (context : Context) (properties : Properties)
    (reading : Reading) : Read :=
  match fuel with
  | 0 => .error .malformed
  | fuel + 1 =>
      match reading.next?, context with
      | some (.scalar text plain), _ => .ok (properties.scalar text plain, reading.drop)
      | some .openList, _ => readFlowList fuel properties [] reading.drop
      | some .openMap, _ => readFlowMap fuel properties [] reading.drop
      | some .blockEntry, .entry => readLooseItems fuel properties [] reading
      | some .blockSequence, .block => readItems fuel properties [] reading.drop
      | some .blockSequence, .entry => readItems fuel properties [] reading.drop
      | some .blockMapping, .block => readEntries fuel properties [] reading.drop
      | some .blockMapping, .entry => readEntries fuel properties [] reading.drop
      | some (.fault fault), _ => .error fault
      | _, _ =>
          if properties.isEmpty then .error .malformed
          else .ok (properties.scalar "" true, reading)

/-- Reads the tree that comes next, unless one of some tokens does. -/
def readUnless (fuel : Nat) (context : Context) (tokens : List Token) (reading : Reading) :
    Read :=
  match fuel with
  | 0 => .error .malformed
  | fuel + 1 =>
      if reading.isAt tokens then .ok (.empty, reading) else readNode fuel context reading

/-- Reads the items of a block sequence, `items` being those before with the last
one first. -/
def readItems (fuel : Nat) (properties : Properties) (items : List Node) (reading : Reading) :
    Read :=
  match fuel with
  | 0 => .error .malformed
  | fuel + 1 =>
      match reading.next? with
      | some .blockEntry => do
          let (item, reading) ← readUnless fuel .block afterItem reading.drop
          readItems fuel properties (item :: items) reading
      | some .blockEnd => .ok (properties.list items, reading.drop)
      | _ => .error reading.fault

def readLooseItems (fuel : Nat) (properties : Properties) (items : List Node)
    (reading : Reading) : Read :=
  match fuel with
  | 0 => .error .malformed
  | fuel + 1 =>
      match reading.next? with
      | some .blockEntry => do
          let (item, reading) ← readUnless fuel .block afterLooseItem reading.drop
          readLooseItems fuel properties (item :: items) reading
      | _ => .ok (properties.list items, reading)

def readEntries (fuel : Nat) (properties : Properties) (entries : List (Node × Node))
    (reading : Reading) : Read :=
  match fuel with
  | 0 => .error .malformed
  | fuel + 1 =>
      match reading.next? with
      | some .key => do
          let (key, reading) ← readUnless fuel .entry afterEntry reading.drop
          let (value, reading) ← readValue fuel .entry afterEntry reading
          readEntries fuel properties ((key, value) :: entries) reading
      | some .blockEnd => .ok (properties.map entries, reading.drop)
      | _ => .error reading.fault

/-- Reads the value of an entry, which may be missing together with its colon. -/
def readValue (fuel : Nat) (context : Context) (tokens : List Token) (reading : Reading) :
    Read :=
  match fuel with
  | 0 => .error .malformed
  | fuel + 1 =>
      match reading.next? with
      | some .value => readUnless fuel context tokens reading.drop
      | _ => .ok (.empty, reading)

/-- Reads the items of a list in brackets.  A key makes a mapping of one entry. -/
def readFlowList (fuel : Nat) (properties : Properties) (items : List Node)
    (reading : Reading) : Read :=
  match fuel with
  | 0 => .error .malformed
  | fuel + 1 =>
      match reading.next? with
      | some .closeList => .ok (properties.list items, reading.drop)
      | some .key => do
          let (key, reading) ← readUnless fuel .flow [.value, .flowEntry, .closeList] reading.drop
          let (value, reading) ← readValue fuel .flow [.flowEntry, .closeList] reading
          readFlowListRest fuel properties (.map .map [(key, value)] :: items) reading
      | _ => do
          let (item, reading) ← readNode fuel .flow reading
          readFlowListRest fuel properties (item :: items) reading

def readFlowListRest (fuel : Nat) (properties : Properties) (items : List Node)
    (reading : Reading) : Read :=
  match fuel with
  | 0 => .error .malformed
  | fuel + 1 =>
      match reading.next? with
      | some .flowEntry => readFlowList fuel properties items reading.drop
      | some .closeList => .ok (properties.list items, reading.drop)
      | _ => .error reading.fault

def readFlowMap (fuel : Nat) (properties : Properties) (entries : List (Node × Node))
    (reading : Reading) : Read :=
  match fuel with
  | 0 => .error .malformed
  | fuel + 1 =>
      match reading.next? with
      | some .closeMap => .ok (properties.map entries, reading.drop)
      | some .key => do
          let (key, reading) ← readUnless fuel .flow [.value, .flowEntry, .closeMap] reading.drop
          let (value, reading) ← readValue fuel .flow [.flowEntry, .closeMap] reading
          readFlowMapRest fuel properties ((key, value) :: entries) reading
      | _ => do
          let (key, reading) ← readNode fuel .flow reading
          readFlowMapRest fuel properties ((key, .empty) :: entries) reading

def readFlowMapRest (fuel : Nat) (properties : Properties) (entries : List (Node × Node))
    (reading : Reading) : Read :=
  match fuel with
  | 0 => .error .malformed
  | fuel + 1 =>
      match reading.next? with
      | some .flowEntry => readFlowMap fuel properties entries reading.drop
      | some .closeMap => .ok (properties.map entries, reading.drop)
      | _ => .error reading.fault
end

/-- The directives at the front of a document. -/
structure Preamble where
  hasVersion : Bool := false
  handles : Handles := []

namespace Preamble

/-- The version of the language that documents may have. -/
def majorVersion : Nat := 1

/-- Notes a directive.  A version or handle must not come twice. -/
def add? (preamble : Preamble) : Directive → Option Preamble
  | .version major =>
      if preamble.hasVersion || major != majorVersion then none
      else some { preamble with hasVersion := true }
  | .handle name lead =>
      if (preamble.handles.lookup name).isSome then none
      else some { preamble with handles := (name, lead) :: preamble.handles }
  | .ignored => some preamble

/-- Reads the directives at the front of tokens, and what follows them. -/
def read? (preamble : Preamble) : List Token → Option (Preamble × List Token)
  | .directive directive :: rest => (preamble.add? directive).bind (·.read? rest)
  | rest => some (preamble, rest)

end Preamble

namespace Node

/-- Whether an explicit document is empty before a token. -/
def endsDocument : Option Token → Bool
  | none => true
  | some .documentStart => true
  | some .documentEnd => true
  | some (.directive _) => true
  | _ => false

/-- The tree of the first document.  Before directives there must be a document
start behind them. -/
def ofDocument (fuel : Nat) (tokens : List Token) : Read :=
  let explicit (reading : Reading) : Read :=
    if endsDocument reading.next? then .ok (.empty, reading) else readNode fuel .block reading
  match tokens with
  | [] => .ok (.empty, { tokens })
  | .documentStart :: rest => explicit { tokens := rest }
  | .directive _ :: _ =>
      match Preamble.read? {} tokens with
      | some (preamble, .documentStart :: rest) =>
          explicit { tokens := rest, handles := preamble.handles ++ defaultHandles }
      | _ => .error .malformed
  | _ => readNode fuel .block { tokens }

/-- The tree that tokens make.  There must be no second document. -/
def ofTokens (tokens : List Token) : Except Fault Node := do
  let (node, reading) ← ofDocument (4 * tokens.length + 4) tokens
  if reading.tokens.all (· == .documentEnd) then return node else throw reading.fault

end Node
end Yaml
end SourceOutline

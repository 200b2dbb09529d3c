import SourceOutline.Text.Blank
import SourceOutline.Text.Search
import SourceOutline.Text.Word

/-!
# Types declared in documentation comments

A comment may give types that the code leaves out: `@param {T} name` for a
parameter and `@returns {T}` (or `@return {T}`) for the result.  The type may be
missing from a parameter tag.  Braces inside a type may nest once.  A name in
square brackets, perhaps with a default after an equals sign, is the name of an
optional parameter.  Dotted names speak of properties and are passed over.

Tags are read from the front of the comment to its end.  At each `@` at most one
tag can be read, so there is nothing to choose: reading is a function.
-/

namespace SourceOutline

/-- The types that a documentation comment declares.  No name has two. -/
structure DocTags where
  params : List (String × String) := []
  returns : Option String := none
  deriving DecidableEq, Repr

namespace DocTags

/-- The type between braces and what follows it, the opening brace being read.
`inside` tells whether a nested brace is open, and `taken` holds the characters
read with the last one first. -/
def braced? (inside : Bool) (taken : List Char) :
    List Char → Option (List Char × List Char)
  | [] => none
  | c :: rest =>
      if c = '}' then
        if inside then braced? false (c :: taken) rest else some (taken.reverse, rest)
      else if c = '{' then
        if inside then none else braced? true (c :: taken) rest
      else braced? inside (c :: taken) rest

theorem braced?_length {inside : Bool} {taken text inner rest : List Char}
    (h : braced? inside taken text = some (inner, rest)) : rest.length < text.length := by
  induction text generalizing inside taken with
  | nil => simp [braced?] at h
  | cons c text ih =>
      simp only [braced?] at h
      split at h
      · split at h
        · have := ih h
          simp only [List.length_cons]
          omega
        · simp only [Option.some.injEq, Prod.mk.injEq] at h
          simp [h.2]
      · split at h
        · split at h
          · simp at h
          · have := ih h
            simp only [List.length_cons]
            omega
        · have := ih h
          simp only [List.length_cons]
          omega

def isTagChar (c : Char) : Bool :=
  Text.isNameChar c || c == '.'

/-- A name as written, with its brackets, and what follows it. -/
def writtenName? : List Char → Option (List Char × List Char)
  | [] => none
  | c :: rest =>
      if c = '[' then
        match rest.dropWhile (· != ']') with
        | [] => none
        | close :: rest' => some (c :: (rest.takeWhile (· != ']') ++ [close]), rest')
      else if isTagChar c then
        some (c :: rest.takeWhile isTagChar, rest.dropWhile isTagChar)
      else none

theorem writtenName?_length {text name rest : List Char}
    (h : writtenName? text = some (name, rest)) : rest.length < text.length := by
  cases text with
  | nil => simp [writtenName?] at h
  | cons c text =>
      simp only [writtenName?] at h
      split at h
      · split at h
        · simp at h
        · rename_i close rest' hdrop
          simp only [Option.some.injEq, Prod.mk.injEq] at h
          have := (List.dropWhile_suffix (· != ']') (l := text)).length_le
          rw [hdrop] at this
          simp only [List.length_cons, ← h.2] at this ⊢
          omega
      · split at h
        · simp only [Option.some.injEq, Prod.mk.injEq] at h
          have := (List.dropWhile_suffix isTagChar (l := text)).length_le
          simp only [List.length_cons, ← h.2]
          omega
        · simp at h

def afterBlanks? (text : List Char) : Option (List Char) :=
  match text with
  | [] => none
  | c :: rest => if Text.isBlank c then some (Text.trimLeft rest) else none

theorem afterBlanks?_length {text rest : List Char} (h : afterBlanks? text = some rest) :
    rest.length < text.length := by
  cases text with
  | nil => simp [afterBlanks?] at h
  | cons c text =>
      simp only [afterBlanks?] at h
      split at h
      · simp only [Option.some.injEq] at h
        have := Text.trimLeft_length_le text
        simp only [List.length_cons, ← h]
        omega
      · simp at h

/-- A parameter tag: the name as written and the type, empty when there is none. -/
structure ParamTag where
  name : List Char
  type : List Char
  deriving DecidableEq, Repr

/-- The type and the name that follow `@param` and its blanks. -/
def typedName? : List Char → Option (ParamTag × List Char)
  | [] => none
  | c :: rest =>
      if c = '{' then
        (braced? false [] rest).bind fun (type, rest') =>
          (writtenName? (Text.trimLeft rest')).map fun (name, rest'') => (⟨name, type⟩, rest'')
      else (writtenName? (c :: rest)).map fun (name, rest') => (⟨name, []⟩, rest')

theorem typedName?_length {text rest : List Char} {tag : ParamTag}
    (h : typedName? text = some (tag, rest)) : rest.length < text.length := by
  cases text with
  | nil => simp [typedName?] at h
  | cons c text =>
      simp only [typedName?] at h
      split at h
      · obtain ⟨⟨type, rest'⟩, hbraced, h⟩ := Option.bind_eq_some_iff.1 h
        obtain ⟨⟨name, rest''⟩, hname, h⟩ := Option.map_eq_some_iff.1 h
        simp only [Prod.mk.injEq] at h hname
        have h1 := braced?_length hbraced
        have h2 := writtenName?_length hname
        have h3 := Text.trimLeft_length_le rest'
        simp only [List.length_cons, ← h.2]
        omega
      · obtain ⟨⟨name, rest'⟩, hname, h⟩ := Option.map_eq_some_iff.1 h
        simp only [Prod.mk.injEq] at h
        have := writtenName?_length hname
        simpa only [← h.2] using this

/-- The parameter tag at the front of a text, and what follows it. -/
def paramTag? (text : List Char) : Option (ParamTag × List Char) :=
  (Text.after? "@param".toList text).bind fun rest => (afterBlanks? rest).bind typedName?

theorem paramTag?_length {text rest : List Char} {tag : ParamTag}
    (h : paramTag? text = some (tag, rest)) : rest.length < text.length := by
  obtain ⟨rest1, hword, h⟩ := Option.bind_eq_some_iff.1 h
  obtain ⟨rest2, hblank, h⟩ := Option.bind_eq_some_iff.1 h
  have h1 := Text.after?_length_le hword
  have h2 := afterBlanks?_length hblank
  have h3 := typedName?_length h
  omega

/-- The parameter tags of a text, in order, put behind those already `found`
with the last one first. -/
def paramTagsFrom (found : List ParamTag) (text : List Char) : List ParamTag :=
  match text with
  | [] => found.reverse
  | c :: rest =>
      match _h : paramTag? (c :: rest) with
      | some (tag, rest') => paramTagsFrom (tag :: found) rest'
      | none => paramTagsFrom found rest
termination_by text.length
decreasing_by
  · exact paramTag?_length _h
  · simp

def paramTags (text : List Char) : List ParamTag :=
  paramTagsFrom [] text

/-- The type in the return tag at the front of a text. -/
def returnTag? (text : List Char) : Option (List Char) :=
  (Text.after? "@return".toList text).bind fun rest =>
    (afterBlanks? ((Text.after? ['s'] rest).getD rest)).bind fun
      | '{' :: rest' => (braced? false [] rest').map Prod.fst
      | _ => none

def firstReturn? : List Char → Option (List Char)
  | [] => none
  | c :: rest =>
      match returnTag? (c :: rest) with
      | some type => some type
      | none => firstReturn? rest

namespace ParamTag

/-- The parameter that a tag names: without brackets and without a default. -/
def parameter (tag : ParamTag) : List Char :=
  Text.trim ((Text.trimOf ['[', ']'] tag.name).takeWhile (· != '='))

end ParamTag

/-- Records a tag unless it names no parameter, names a property, or names a
parameter that has been recorded. -/
def record (params : List (String × String)) (tag : ParamTag) : List (String × String) :=
  let name := tag.parameter
  if name.isEmpty || name.contains '.' || params.any (·.1 == String.ofList name) then params
  else params ++ [(String.ofList name, String.ofList (Text.trim tag.type))]

def ofText (text : List Char) : DocTags :=
  { params := (paramTags text).foldl record []
    returns := (firstReturn? text).map fun type => String.ofList (Text.trim type) }

/-- The tags of the comment that belongs to a declaration, if it has one. -/
def ofComment (comment : Option String) : DocTags :=
  comment.elim {} fun text => ofText text.toList

def typeOf? (tags : DocTags) (name : String) : Option String :=
  tags.params.lookup name

end DocTags
end SourceOutline

import SourceOutline.Proofs.DocTags
import SourceOutline.Proofs.Text.Trim

/-!
# Comments made of tag lines

A tag line is a tag, a text that says more, and whatever stands before the next tag: the
end of the line, the sign with which the next line begins, or the end of the comment.
Only a tag has an `@`, hence a search passes over all the rest and stops at the tags.

What is written as a name ends where a character stands that no name has, or at the
closing bracket; what is written as a type ends at the brace that has no partner in it.
So a tag is read as it was written.  Recording keeps the first tag of every name.
-/

namespace SourceOutline
namespace DocTags

/-! ## Tag lines -/

def NoBraces (text : List Char) : Prop :=
  ∀ c ∈ text, c ≠ '{' ∧ c ≠ '}'

instance : DecidablePred NoBraces :=
  fun text => List.decidableBAll (fun c => c ≠ '{' ∧ c ≠ '}') text

/-- Every brace has a partner, and no pair of braces is inside another one. -/
inductive Balanced : List Char → Prop where
  | plain {text : List Char} (htext : NoBraces text) : Balanced text
  | nested {front inner back : List Char} (hfront : NoBraces front) (hinner : NoBraces inner)
      (hback : Balanced back) : Balanced (front ++ ('{' :: (inner ++ '}' :: back)))

/-- How the name of a parameter is written. -/
inductive Spelling where
  | plain
  | optional
  | withDefault (value : List Char)

namespace Spelling

def write (name : List Char) : Spelling → List Char
  | plain => name
  | optional => '[' :: (name ++ [']'])
  | withDefault value => '[' :: (name ++ '=' :: (value ++ [']']))

def WellFormed : Spelling → Prop
  | plain => True
  | optional => True
  | withDefault value => '@' ∉ value ∧ ']' ∉ value

end Spelling

structure IsName (name : List Char) : Prop where
  nonempty : name ≠ []
  chars : ∀ c ∈ name, Text.isNameChar c

inductive Tag where
  | param (type : Option (List Char)) (name : List Char) (spelling : Spelling)
  | result (plural : Bool) (type : List Char)

def writeType : Option (List Char) → List Char
  | none => []
  | some type => '{' :: (type ++ ['}', ' '])

namespace Tag

def write : Tag → List Char
  | param type name spelling => "@param ".toList ++ (writeType type ++ spelling.write name)
  | result plural type =>
      (if plural then "@returns ".toList else "@return ".toList) ++ '{' :: (type ++ ['}'])

theorem write_param (type : Option (List Char)) (name : List Char) (spelling : Spelling) :
    (param type name spelling).write =
      "@param ".toList ++ (writeType type ++ spelling.write name) := rfl

theorem write_result (plural : Bool) (type : List Char) :
    (result plural type).write =
      (if plural then "@returns ".toList else "@return ".toList) ++ '{' :: (type ++ ['}']) := rfl

def WellFormed : Tag → Prop
  | param type name spelling =>
      (∀ text ∈ type, Balanced text ∧ '@' ∉ text) ∧ IsName name ∧ spelling.WellFormed
  | result _ type => Balanced type ∧ '@' ∉ type

def entry? : Tag → Option (String × String)
  | param type name _ => some (String.ofList name, String.ofList (Text.trim (type.getD [])))
  | result _ _ => none

def result? : Tag → Option String
  | param _ _ _ => none
  | result _ type => some (String.ofList (Text.trim type))

def read? : Tag → Option ParamTag
  | param type name spelling => some ⟨spelling.write name, type.getD []⟩
  | result _ _ => none

end Tag

structure TagLine where
  tag : Tag
  /-- What the line says after the tag, with the blank before it. -/
  text : List Char
  /-- The end of the line and what stands before the next tag. -/
  behind : List Char

namespace TagLine

def write (line : TagLine) : List Char :=
  line.tag.write ++ (line.text ++ line.behind)

structure WellFormed (line : TagLine) : Prop where
  tag : line.tag.WellFormed
  text : line.text.head?.all Text.isBlank
  textPlain : '@' ∉ line.text
  behind : line.behind.head?.any isTagChar = false
  behindPlain : '@' ∉ line.behind

end TagLine

/-! ## Reading one tag -/

theorem isTagChar_of_isNameChar {c : Char} (hc : Text.isNameChar c) : isTagChar c := by
  simp [isTagChar, hc]

theorem isNameChar_ne {c d : Char} (hc : Text.isNameChar c) (hd : Text.isNameChar d = false) :
    c ≠ d := by
  rintro rfl
  rw [hc] at hd
  contradiction

theorem IsName.not_mem {name : List Char} (hname : IsName name) {c : Char}
    (hc : Text.isNameChar c = false) : c ∉ name :=
  fun hmem => isNameChar_ne (hname.chars c hmem) hc rfl

theorem isBlank_of_isNameChar {c : Char} (hc : Text.isNameChar c) : Text.isBlank c = false := by
  rw [← Bool.not_eq_true]
  intro hblank
  have hdollar : c = '$' := by
    simpa [Text.isNameChar, Text.isWord_of_isBlank hblank] using hc
  rw [hdollar] at hblank
  exact absurd hblank (by decide)

theorem isTagChar_of_isBlank {c : Char} (hc : Text.isBlank c) : isTagChar c = false := by
  rw [← Bool.not_eq_true]
  intro htag
  unfold isTagChar at htag
  rw [Bool.or_eq_true, beq_iff_eq] at htag
  rcases htag with hname | rfl
  · rw [isBlank_of_isNameChar hname] at hc
    contradiction
  · exact absurd hc (by decide)

theorem Spelling.write_head
    (spelling : Spelling) {name : List Char} (hname : IsName name) :
    ∃ c back, spelling.write name = c :: back ∧ Text.isBlank c = false ∧ c ≠ '{' := by
  cases spelling with
  | plain =>
      obtain ⟨c, back, rfl⟩ := List.exists_cons_of_ne_nil hname.nonempty
      have hc := hname.chars c List.mem_cons_self
      exact ⟨c, back, rfl, isBlank_of_isNameChar hc, isNameChar_ne hc (by decide)⟩
  | optional => exact ⟨_, _, rfl, by decide, by decide⟩
  | withDefault value => exact ⟨_, _, rfl, by decide, by decide⟩

theorem braced?_noBraces
    {run : List Char} (hrun : NoBraces run) (inside : Bool) (taken text : List Char) :
    braced? inside taken (run ++ text) = braced? inside (run.reverse ++ taken) text := by
  induction run generalizing taken with
  | nil => rfl
  | cons c run ih =>
      obtain ⟨⟨hopen, hclose⟩, hrest⟩ := List.forall_mem_cons.mp hrun
      rw [List.cons_append, braced?, if_neg hclose, if_neg hopen, ih hrest, List.reverse_cons,
        List.append_assoc, List.singleton_append]

/-- A type whose braces balance is read as a whole. -/
theorem braced?_balanced {type : List Char} (htype : Balanced type) (taken text : List Char) :
    braced? false taken (type ++ '}' :: text) = some (taken.reverse ++ type, text) := by
  induction htype generalizing taken with
  | plain htext =>
      rw [braced?_noBraces htext]
      simp [braced?]
  | @nested front inner back hfront hinner hback ih =>
      calc
        braced? false taken (front ++ '{' :: (inner ++ '}' :: back) ++ '}' :: text)
        _ = braced? false (front.reverse ++ taken)
              ('{' :: (inner ++ '}' :: (back ++ '}' :: text))) := by
          rw [List.append_assoc, braced?_noBraces hfront]
          simp
        _ = braced? true ('{' :: (front.reverse ++ taken))
              (inner ++ '}' :: (back ++ '}' :: text)) := by
          simp [braced?]
        _ = braced? false ('}' :: (inner.reverse ++ '{' :: (front.reverse ++ taken)))
              (back ++ '}' :: text) := by
          rw [braced?_noBraces hinner]
          simp [braced?]
        _ = some (taken.reverse ++ (front ++ '{' :: (inner ++ '}' :: back)), text) := by
          rw [ih]
          simp

theorem writtenName?_bracketed
    {inner : List Char} (hinner : ']' ∉ inner) (text : List Char) :
    writtenName? ('[' :: (inner ++ ']' :: text)) = some ('[' :: (inner ++ [']']), text) := by
  have hrun : ∀ c ∈ inner, (c != ']') = true := by
    rintro c hc
    rw [bne_iff_ne]
    rintro rfl
    exact hinner hc
  have hstop : ∀ c ∈ (']' :: text).head?, (c != ']') = false := by simp
  rw [writtenName?, if_pos rfl, Text.dropWhile_append_stop hrun hstop,
    Text.takeWhile_append_stop hrun hstop]

theorem writtenName?_write
    {spelling : Spelling} {name text : List Char} (hname : IsName name)
    (hspelling : spelling.WellFormed) (hstop : ∀ c ∈ text.head?, isTagChar c = false) :
    writtenName? (spelling.write name ++ text) = some (spelling.write name, text) := by
  have hclose : ']' ∉ name := hname.not_mem (by decide)
  cases spelling with
  | plain =>
      obtain ⟨c, back, rfl⟩ := List.exists_cons_of_ne_nil hname.nonempty
      obtain ⟨hc, hback⟩ := List.forall_mem_cons.mp hname.chars
      have hrun : ∀ d ∈ back, isTagChar d := fun d hd => isTagChar_of_isNameChar (hback d hd)
      rw [Spelling.write, List.cons_append, writtenName?,
        if_neg (isNameChar_ne hc (by decide)), if_pos (isTagChar_of_isNameChar hc),
        Text.takeWhile_append_stop hrun hstop, Text.dropWhile_append_stop hrun hstop]
  | optional => simpa [Spelling.write] using writtenName?_bracketed hclose text
  | withDefault value =>
      have hinner : ']' ∉ name ++ '=' :: value := by simp [hclose, hspelling.2]
      simpa [Spelling.write] using writtenName?_bracketed hinner text

theorem trimLeft_cons {c : Char} (hc : Text.isBlank c = false) (text : List Char) :
    Text.trimLeft (c :: text) = c :: text := by
  simp [Text.trimLeft, hc]

theorem afterBlanks?_space {c : Char} (hc : Text.isBlank c = false) (text : List Char) :
    afterBlanks? (' ' :: c :: text) = some (c :: text) := by
  have hspace : Text.isBlank ' ' = true := by decide
  rw [afterBlanks?, if_pos hspace, trimLeft_cons hc]

theorem paramTag?_word
    {c : Char} (hc : Text.isBlank c = false) (text : List Char) :
    paramTag? ("@param ".toList ++ c :: text) = typedName? (c :: text) := by
  have hword : "@param ".toList = "@param".toList ++ [' '] := by decide
  have hafter :
      Text.after? "@param".toList ("@param ".toList ++ c :: text) = some (' ' :: c :: text) := by
    rw [Text.after?_eq_some_iff, hword, List.append_assoc, List.singleton_append]
  rw [paramTag?, hafter, Option.bind_some, afterBlanks?_space hc, Option.bind_some]

/-- A parameter tag is read back as it was written. -/
theorem paramTag?_write
    {type : Option (List Char)} {name text : List Char} {spelling : Spelling}
    (htag : (Tag.param type name spelling).WellFormed)
    (hstop : ∀ c ∈ text.head?, isTagChar c = false) :
    paramTag? ((Tag.param type name spelling).write ++ text) =
      some (⟨spelling.write name, type.getD []⟩, text) := by
  obtain ⟨htype, hname, hspelling⟩ := htag
  have hwritten := writtenName?_write hname hspelling hstop
  obtain ⟨c, back, hwrite, hblank, hopen⟩ := spelling.write_head hname
  rw [hwrite, List.cons_append] at hwritten
  cases type with
  | none =>
      rw [Tag.write_param, writeType, List.nil_append, List.append_assoc, hwrite,
        List.cons_append, paramTag?_word hblank, typedName?, if_neg hopen, hwritten]
      rfl
  | some type =>
      obtain ⟨hbalanced, _⟩ := htype type rfl
      have hspace : Text.trimLeft (' ' :: c :: (back ++ text)) = c :: (back ++ text) := by
        have hfirst : Text.isBlank ' ' = true := by decide
        simp [Text.trimLeft, hblank, hfirst]
      rw [Tag.write_param, writeType, hwrite]
      simp only [List.append_assoc, List.cons_append, List.nil_append]
      rw [paramTag?_word (by decide), typedName?, if_pos rfl, braced?_balanced hbalanced,
        Option.bind_some]
      simp [hspace, hwritten]

theorem returnTag?_write
    (plural : Bool) {type : List Char} (htype : Balanced type) (text : List Char) :
    returnTag? ((Tag.result plural type).write ++ text) = some type := by
  have htyped (rest : List Char) (hrest : (Text.after? ['s'] rest).getD rest =
      ' ' :: '{' :: (type ++ '}' :: text)) :
      returnTag? ("@return".toList ++ rest) = some type := by
    have hafter : Text.after? "@return".toList ("@return".toList ++ rest) = some rest := by
      rw [Text.after?_eq_some_iff]
    rw [returnTag?, hafter, Option.bind_some, hrest, afterBlanks?_space (by decide),
      Option.bind_some]
    simp only [braced?_balanced htype, Option.map_some, List.reverse_nil, List.nil_append]
  rw [Tag.write_result]
  cases plural with
  | false =>
      have hword : "@return ".toList = "@return".toList ++ [' '] := by decide
      have h := htyped (' ' :: '{' :: (type ++ '}' :: text)) (by simp [Text.after?])
      simpa [hword] using h
  | true =>
      have hword : "@returns ".toList = "@return".toList ++ ['s', ' '] := by decide
      have h := htyped ('s' :: ' ' :: '{' :: (type ++ '}' :: text)) (by simp [Text.after?])
      simpa [hword] using h

theorem paramTag?_result (plural : Bool) (type text : List Char) :
    paramTag? ((Tag.result plural type).write ++ text) = none := by
  have hparam : "@param".toList = '@' :: 'p' :: "aram".toList := by decide
  have hreturn : "@return ".toList = '@' :: 'r' :: "eturn ".toList := by decide
  have hreturns : "@returns ".toList = '@' :: 'r' :: "eturns ".toList := by decide
  rw [Tag.write_result, paramTag?, hparam, hreturn, hreturns]
  cases plural <;> simp [Text.after?]

theorem returnTag?_param
    (type : Option (List Char)) (name : List Char) (spelling : Spelling) (text : List Char) :
    returnTag? ((Tag.param type name spelling).write ++ text) = none := by
  have hparam : "@param ".toList = '@' :: 'p' :: "aram ".toList := by decide
  have hreturn : "@return".toList = '@' :: 'r' :: "eturn".toList := by decide
  rw [Tag.write_param, returnTag?, hparam, hreturn]
  simp [Text.after?]

theorem Tag.write_eq
    {tag : Tag} (htag : tag.WellFormed) : ∃ back, tag.write = '@' :: back ∧ '@' ∉ back := by
  have hparam : "@param ".toList = '@' :: "param ".toList := by decide
  have hreturn : "@return ".toList = '@' :: "return ".toList := by decide
  have hreturns : "@returns ".toList = '@' :: "returns ".toList := by decide
  cases tag with
  | param type name spelling =>
      obtain ⟨htype, hname, hspelling⟩ := htag
      have hplain : '@' ∉ name := hname.not_mem (by decide)
      have hwritten : '@' ∉ spelling.write name := by
        cases spelling with
        | plain => exact hplain
        | optional => simp [Spelling.write, hplain]
        | withDefault value => simp [Spelling.write, hplain, hspelling.1]
      have htyped : '@' ∉ writeType type := by
        cases type with
        | none => simp [writeType]
        | some type => simp [writeType, (htype type rfl).2]
      refine ⟨_, by rw [write_param, hparam, List.cons_append], ?_⟩
      simp [hwritten, htyped]
  | result plural type =>
      rw [write_result]
      cases plural with
      | false => exact ⟨_, by rw [if_neg Bool.false_ne_true, hreturn, List.cons_append], by simp [htag.2]⟩
      | true => exact ⟨_, by rw [if_pos rfl, hreturns, List.cons_append], by simp [htag.2]⟩

/-! ## Finding the tags -/

theorem paramTag?_of_ne {c : Char} (hc : c ≠ '@') (rest : List Char) :
    paramTag? (c :: rest) = none := by
  have hword : "@param".toList = '@' :: "param".toList := by decide
  have hother : ('@' == c) = false := by simp [hc.symm]
  rw [paramTag?, hword, Text.after?, hother]
  rfl

theorem returnTag?_of_ne {c : Char} (hc : c ≠ '@') (rest : List Char) :
    returnTag? (c :: rest) = none := by
  have hword : "@return".toList = '@' :: "return".toList := by decide
  have hother : ('@' == c) = false := by simp [hc.symm]
  rw [returnTag?, hword, Text.after?, hother]
  rfl

theorem paramTagsFrom_of_none
    {c : Char} {rest : List Char} (hnone : paramTag? (c :: rest) = none)
    (found : List ParamTag) : paramTagsFrom found (c :: rest) = paramTagsFrom found rest := by
  rw [paramTagsFrom]
  split
  next hsome => rw [hnone] at hsome; contradiction
  next => rfl

theorem paramTagsFrom_of_some
    {text rest : List Char} {tag : ParamTag} (hsome : paramTag? text = some (tag, rest))
    (found : List ParamTag) : paramTagsFrom found text = paramTagsFrom (tag :: found) rest := by
  cases text with
  | nil => contradiction
  | cons c back =>
      rw [paramTagsFrom]
      split
      next htag =>
        rw [hsome] at htag
        cases htag
        rfl
      next hnone => rw [hsome] at hnone; contradiction

theorem paramTagsFrom_plain
    {plain : List Char} (hplain : '@' ∉ plain) (found : List ParamTag) (text : List Char) :
    paramTagsFrom found (plain ++ text) = paramTagsFrom found text := by
  induction plain with
  | nil => rfl
  | cons c plain ih =>
      rw [List.mem_cons, not_or] at hplain
      obtain ⟨hc, hrest⟩ := hplain
      rw [List.cons_append, paramTagsFrom_of_none (paramTag?_of_ne (Ne.symm hc) _), ih hrest]

theorem firstReturn?_plain
    {plain : List Char} (hplain : '@' ∉ plain) (text : List Char) :
    firstReturn? (plain ++ text) = firstReturn? text := by
  induction plain with
  | nil => rfl
  | cons c plain ih =>
      rw [List.mem_cons, not_or] at hplain
      obtain ⟨hc, hrest⟩ := hplain
      rw [List.cons_append, firstReturn?, returnTag?_of_ne (Ne.symm hc)]
      exact ih hrest

theorem TagLine.WellFormed.plain {line : TagLine} (hline : line.WellFormed) :
    '@' ∉ line.text ++ line.behind := by
  simp [hline.textPlain, hline.behindPlain]

theorem TagLine.flatMap_write_cons (line : TagLine) (others : List TagLine) :
    (line :: others).flatMap write =
      line.tag.write ++ (line.text ++ line.behind ++ others.flatMap write) := by
  rw [List.flatMap_cons, write, List.append_assoc]

/-- What follows a tag does not go on with a name. -/
theorem TagLine.WellFormed.head?_behind
    {line : TagLine} (hline : line.WellFormed) {others : List TagLine}
    (hothers : ∀ other ∈ others, other.WellFormed) :
    ∀ c ∈ (line.text ++ line.behind ++ others.flatMap write).head?, isTagChar c = false := by
  have hnext : ∀ c ∈ (others.flatMap write).head?, isTagChar c = false := by
    cases others with
    | nil => simp
    | cons other rest =>
        obtain ⟨back, hwrite, _⟩ := Tag.write_eq (hothers other List.mem_cons_self).tag
        rw [List.flatMap_cons, write, hwrite]
        simp only [List.cons_append, List.head?_cons, Option.mem_def, Option.some.injEq]
        rintro c rfl
        decide
  intro c hc
  rw [List.head?_append, List.head?_append] at hc
  rcases Option.or_eq_some_iff.mp hc with hfirst | ⟨_, hc⟩
  · rcases Option.or_eq_some_iff.mp hfirst with htext | ⟨_, hbehind⟩
    · have hblank := hline.text
      rw [htext] at hblank
      exact isTagChar_of_isBlank hblank
    · have hend := hline.behind
      rw [hbehind] at hend
      exact hend
  · exact hnext c hc

/-- The tags of a comment are those of its lines, in order. -/
theorem paramTagsFrom_lines
    {lines : List TagLine} (hlines : ∀ line ∈ lines, line.WellFormed) (found : List ParamTag) :
    paramTagsFrom found (lines.flatMap TagLine.write) =
      found.reverse ++ lines.filterMap (·.tag.read?) := by
  induction lines generalizing found with
  | nil => simp [paramTagsFrom]
  | cons line others ih =>
      obtain ⟨hline, hothers⟩ := List.forall_mem_cons.mp hlines
      have hstop := hline.head?_behind hothers
      have hrest := hline.plain
      rw [TagLine.flatMap_write_cons]
      cases htag : line.tag with
      | param type name spelling =>
          have hread := paramTag?_write (htag ▸ hline.tag) hstop
          rw [paramTagsFrom_of_some hread, paramTagsFrom_plain hrest, ih hothers]
          simp [htag, Tag.read?]
      | result plural type =>
          obtain ⟨back, hback, hplain⟩ := Tag.write_eq (htag ▸ hline.tag)
          have hnone := paramTag?_result plural type
            (line.text ++ line.behind ++ others.flatMap TagLine.write)
          rw [hback, List.cons_append] at hnone ⊢
          rw [paramTagsFrom_of_none hnone, paramTagsFrom_plain hplain, paramTagsFrom_plain hrest,
            ih hothers]
          simp [htag, Tag.read?]

theorem firstReturn?_lines
    {lines : List TagLine} (hlines : ∀ line ∈ lines, line.WellFormed) :
    (firstReturn? (lines.flatMap TagLine.write)).map (fun type => String.ofList (Text.trim type)) =
      lines.findSome? (·.tag.result?) := by
  induction lines with
  | nil => rfl
  | cons line others ih =>
      obtain ⟨hline, hothers⟩ := List.forall_mem_cons.mp hlines
      obtain ⟨back, hback, hplain⟩ := Tag.write_eq hline.tag
      have hrest := hline.plain
      rw [TagLine.flatMap_write_cons, List.findSome?_cons]
      cases htag : line.tag with
      | param type name spelling =>
          have hnone := returnTag?_param type name spelling
            (line.text ++ line.behind ++ others.flatMap TagLine.write)
          rw [htag] at hback
          rw [hback, List.cons_append] at hnone ⊢
          rw [firstReturn?, hnone]
          simp only
          rw [firstReturn?_plain hplain, firstReturn?_plain hrest, ih hothers, Tag.result?]
      | result plural type =>
          have htype : Balanced type := by
            have hwell := hline.tag
            rw [htag] at hwell
            exact hwell.1
          have hread := returnTag?_write plural htype
            (line.text ++ line.behind ++ others.flatMap TagLine.write)
          rw [htag] at hback
          rw [hback, List.cons_append] at hread ⊢
          rw [firstReturn?, hread]
          rfl

/-! ## Recording the tags -/

theorem trimOf_name
    {set name : List Char} (hname : ∀ c ∈ name, set.contains c = false) (hsome : name ≠ [])
    {front : List Char} (hfront : ∀ c ∈ front, set.contains c = true) (back : List Char) :
    Text.trimOf set (front ++ (name ++ back)) =
      name ++ (back.reverse.dropWhile set.contains).reverse := by
  have hhead : ∀ c ∈ (name ++ back).head?, set.contains c = false := by
    rw [List.head?_append, Option.or_of_isSome (List.isSome_head?.mpr hsome)]
    exact fun c hc => hname c (List.mem_of_head? hc)
  have hlast : name.reverse.dropWhile set.contains = name.reverse := by
    have hnone : ∀ c ∈ ([] : List Char), set.contains c = true := by simp
    have hstop : ∀ c ∈ name.reverse.head?, set.contains c = false :=
      fun c hc => hname c (List.mem_reverse.mp (List.mem_of_head? hc))
    exact Text.dropWhile_append_stop hnone hstop
  rw [Text.trimOf, Text.dropWhile_append_stop hfront hhead, List.reverse_append,
    List.dropWhile_append]
  split
  next hempty =>
    rw [hlast, List.reverse_reverse, List.isEmpty_iff.mp hempty]
    simp
  next => rw [List.reverse_append, List.reverse_reverse]

theorem IsName.trim_eq {name : List Char} (hname : IsName name) : Text.trim name = name := by
  apply Text.trim_of_trimmed
  constructor
  · intro c hc
    exact isBlank_of_isNameChar (hname.chars c (List.mem_of_head? hc))
  · intro c hc
    exact isBlank_of_isNameChar (hname.chars c (List.mem_of_getLast? hc))

theorem IsName.takeWhile_eq
    {name back : List Char} (hname : IsName name) (hback : ∀ c ∈ back.head?, c = '=') :
    (name ++ back).takeWhile (· != '=') = name := by
  apply Text.takeWhile_append_stop
  · intro c hc
    rw [bne_iff_ne]
    exact isNameChar_ne (hname.chars c hc) (by decide)
  · intro c hc
    rw [hback c hc]
    rfl

theorem trimOf_write
    {name : List Char} (hname : IsName name) (spelling : Spelling) :
    ∃ back, Text.trimOf ['[', ']'] (spelling.write name) = name ++ back ∧
      ∀ c ∈ back.head?, c = '=' := by
  have hplain : ∀ c ∈ name, ['[', ']'].contains c = false := by
    intro c hc
    have hopen : c ≠ '[' := isNameChar_ne (hname.chars c hc) (by decide)
    have hclose : c ≠ ']' := isNameChar_ne (hname.chars c hc) (by decide)
    simp [hopen, hclose]
  have hnone : ∀ c ∈ ([] : List Char), ['[', ']'].contains c = true := by simp
  have hopen : ∀ c ∈ ['['], ['[', ']'].contains c = true := by simp
  cases spelling with
  | plain =>
      have htrim := trimOf_name hplain hname.nonempty hnone []
      rw [List.nil_append, List.append_nil] at htrim
      exact ⟨_, htrim, by simp⟩
  | optional => exact ⟨_, trimOf_name hplain hname.nonempty hopen [']'], by simp⟩
  | withDefault value =>
      refine ⟨_, trimOf_name hplain hname.nonempty hopen ('=' :: (value ++ [']'])), ?_⟩
      -- Trimming from the end may take brackets of the default, but it stops at the sign.
      rw [List.reverse_cons, List.dropWhile_append]
      split <;> simp

theorem parameter_write
    {name : List Char} (hname : IsName name) (spelling : Spelling) (type : List Char) :
    (ParamTag.mk (spelling.write name) type).parameter = name := by
  obtain ⟨back, htrim, hback⟩ := trimOf_write hname spelling
  rw [ParamTag.parameter, htrim, hname.takeWhile_eq hback, hname.trim_eq]

/-- A tag that is recorded unless its name has been. -/
def ParamTag.Records (tag : ParamTag) : Prop :=
  (tag.parameter.isEmpty || tag.parameter.contains '.') = false

def ParamTag.entry (tag : ParamTag) : String × String :=
  (String.ofList tag.parameter, tag.typeText)

theorem record_of_records
    {tag : ParamTag} (htag : tag.Records) (params : List (String × String)) :
    record params tag =
      if tag.entry.1 ∈ params.map Prod.fst then params else params ++ [tag.entry] := by
  have hknown :
      (params.any fun entry => entry.1 == String.ofList tag.parameter) = true ↔
        tag.entry.1 ∈ params.map Prod.fst := by
    simp [ParamTag.entry]
  have hnamed : (tag.parameter.isEmpty || tag.parameter.contains '.') = false := htag
  unfold record
  simp only [hnamed, Bool.false_or, hknown]
  rfl

theorem keys_foldl_record
    {tags : List ParamTag} (htags : ∀ tag ∈ tags, tag.Records) :
    (tags.foldl record []).map Prod.fst = (tags.map fun tag => tag.entry.1).eraseDups := by
  induction tags using List.reverseRecOn with
  | nil => rfl
  | append_singleton tags tag ih =>
      have hold := ih fun other hother => htags other (List.mem_append_left _ hother)
      have htag := htags tag (by simp)
      have hmem :
          tag.entry.1 ∈ (tags.foldl record []).map Prod.fst ↔
            tag.entry.1 ∈ tags.map fun tag => tag.entry.1 := by
        rw [hold, List.mem_eraseDups]
      rw [List.foldl_append, List.foldl_cons, List.foldl_nil, record_of_records htag,
        List.map_append, List.eraseDups_append, ← hold, List.map_singleton, List.cons_removeAll]
      by_cases hknown : tag.entry.1 ∈ tags.map fun tag => tag.entry.1
      · rw [if_pos (hmem.mpr hknown), List.contains_iff_mem.mpr hknown,
          if_neg (by decide)]
        exact (List.append_nil _).symm
      · have hnew : (tags.map fun tag => tag.entry.1).contains tag.entry.1 = false := by
          rw [← Bool.not_eq_true, List.contains_iff_mem]
          exact hknown
        rw [if_neg (mt hmem.mp hknown), if_pos hnew, List.map_append]
        rfl

theorem find?_names
    {tags : List ParamTag} (htags : ∀ tag ∈ tags, tag.Records) (name : String) :
    (tags.find? (·.names name)).map ParamTag.typeText = (tags.map ParamTag.entry).lookup name := by
  induction tags with
  | nil => rfl
  | cons tag tags ih =>
      obtain ⟨htag, hrest⟩ := List.forall_mem_cons.mp htags
      have hnames : tag.names name = (name == tag.entry.1) := by
        rw [ParamTag.names, htag, BEq.comm]
        rfl
      rw [List.find?_cons, List.map_cons, List.lookup_cons, hnames]
      cases name == tag.entry.1 with
      | true => rfl
      | false => exact ih hrest

/-! ## Comments of tag lines -/

theorem Tag.WellFormed.records
    {tag : Tag} (htag : tag.WellFormed) {read : ParamTag} (hread : tag.read? = some read) :
    read.Records ∧ tag.entry? = some read.entry := by
  cases tag with
  | result plural type => contradiction
  | param type name spelling =>
      obtain ⟨_, hname, _⟩ := htag
      cases hread
      have hparameter := parameter_write hname spelling (type.getD [])
      constructor
      · have hdot : '.' ∉ name := hname.not_mem (by decide)
        rw [ParamTag.Records, hparameter]
        simp [hname.nonempty, hdot]
      · rw [Tag.entry?, ParamTag.entry, hparameter, ParamTag.typeText]

theorem filterMap_entry?
    {lines : List TagLine} (hlines : ∀ line ∈ lines, line.WellFormed) :
    lines.filterMap (·.tag.entry?) = (lines.filterMap (·.tag.read?)).map ParamTag.entry := by
  rw [List.map_filterMap]
  apply List.filterMap_congr
  intro line hline
  cases hread : line.tag.read? with
  | some read => exact ((hlines line hline).tag.records hread).2
  | none =>
      cases htag : line.tag with
      | param => simp [htag, Tag.read?] at hread
      | result => rfl

/-- The parameters are named in the order of their first tags, and the first tag of a name
gives its type. -/
theorem ofComment_lines
    {front : List Char} (hfront : '@' ∉ front) {lines : List TagLine}
    (hlines : ∀ line ∈ lines, line.WellFormed) :
    let tags := ofComment (some (String.ofList (front ++ lines.flatMap TagLine.write)))
    let entries := lines.filterMap (·.tag.entry?)
    tags.params.map Prod.fst = (entries.map Prod.fst).eraseDups ∧
      (∀ name, tags.typeOf? name = entries.lookup name) ∧
      tags.returns = lines.findSome? (·.tag.result?) := by
  let read := lines.filterMap (·.tag.read?)
  have htags : paramTags (front ++ lines.flatMap TagLine.write) = read := by
    rw [paramTags, paramTagsFrom_plain hfront, paramTagsFrom_lines hlines]
    rfl
  have hrecords : ∀ tag ∈ read, tag.Records := by
    intro tag htag
    obtain ⟨line, hline, hread⟩ := List.mem_filterMap.mp htag
    exact ((hlines line hline).tag.records hread).1
  intro tags entries
  have hentries : entries = read.map ParamTag.entry := filterMap_entry? hlines
  have hofText : tags = ofText (front ++ lines.flatMap TagLine.write) := by
    simp [tags, ofComment]
  refine ⟨?keys, ?types, ?result⟩
  case keys =>
    rw [hofText, hentries, List.map_map, ofText, htags]
    exact keys_foldl_record hrecords
  case types =>
    intro name
    rw [hofText, typeOf?_ofText, firstTypeOf?, htags, find?_names hrecords, hentries]
  case result =>
    rw [hofText, ofText, firstReturn?_plain hfront]
    exact firstReturn?_lines hlines

def sampleLines : List TagLine :=
  [⟨.param (some "{a: T}[]".toList) ['m'] .plain, " the map".toList, "\n * ".toList⟩,
    ⟨.result true "void ".toList, [], "\n * ".toList⟩,
    ⟨.param (some "int".toList) ['n'] (.withDefault ['3']), [], "\n * ".toList⟩,
    ⟨.param none ['m'] .plain, [], " */".toList⟩]

theorem sampleLines_wellFormed : ∀ line ∈ sampleLines, line.WellFormed := by
  have hm : IsName ['m'] := ⟨by decide, List.forall_mem_singleton.mpr (by decide)⟩
  have hn : IsName ['n'] := ⟨by decide, List.forall_mem_singleton.mpr (by decide)⟩
  have hpair : Balanced ([] ++ ('{' :: ("a: T".toList ++ '}' :: "[]".toList))) :=
    .nested (by decide) (by decide) (.plain (by decide))
  have hmap : (Tag.param (some "{a: T}[]".toList) ['m'] .plain).WellFormed := by
    refine ⟨?_, hm, trivial⟩
    simp only [Option.mem_some_iff, forall_eq']
    exact ⟨hpair, by decide⟩
  have hvoid : (Tag.result true "void ".toList).WellFormed := ⟨.plain (by decide), by decide⟩
  have hint : (Tag.param (some "int".toList) ['n'] (.withDefault ['3'])).WellFormed := by
    refine ⟨?_, hn, by decide, by decide⟩
    simp only [Option.mem_some_iff, forall_eq']
    exact ⟨.plain (by decide), by decide⟩
  have hagain : (Tag.param none ['m'] .plain).WellFormed := ⟨by simp, hm, trivial⟩
  unfold sampleLines
  simp only [List.forall_mem_cons, List.not_mem_nil, false_imp_iff, implies_true, and_true]
  refine ⟨⟨hmap, ?_, ?_, ?_, ?_⟩, ⟨hvoid, ?_, ?_, ?_, ?_⟩, ⟨hint, ?_, ?_, ?_, ?_⟩,
    ⟨hagain, ?_, ?_, ?_, ?_⟩⟩ <;> decide

def sampleComment : String :=
  String.ofList ("/** ".toList ++ sampleLines.flatMap TagLine.write)

theorem ofComment_lines_sample :
    (ofComment (some sampleComment)).params.map Prod.fst = ["m", "n"] ∧
      (ofComment (some sampleComment)).typeOf? "m" = some "{a: T}[]" ∧
      (ofComment (some sampleComment)).typeOf? "n" = some "int" ∧
      (ofComment (some sampleComment)).returns = some "void" := by
  have hfront : '@' ∉ "/** ".toList := by decide
  obtain ⟨hkeys, htypes, hreturns⟩ := ofComment_lines hfront sampleLines_wellFormed
  refine ⟨hkeys.trans ?_, (htypes "m").trans ?_, (htypes "n").trans ?_, hreturns.trans ?_⟩ <;>
    decide +kernel

end DocTags
end SourceOutline

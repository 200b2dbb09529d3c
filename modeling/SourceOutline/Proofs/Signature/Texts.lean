import SourceOutline.Declaration.Classify
import SourceOutline.Proofs.DocTags
import SourceOutline.Proofs.Tree.Nested

/-!
# Where the texts of a signature come from

Each way to a name or a type ends at a node below the declaration, and what is then
done to its text only takes characters off its ends.  So a name is a part of the text
of the declaration, and so is a written type, except that a spread parameter has dots
behind the type of its elements.

A tag is read from the front of what is left of a comment, and it leaves a suffix of
that.  So a type that is taken from a tag is a part of the comment.
-/

namespace SourceOutline

/-! ## Trimming -/

namespace Text

theorem dropWhile_reverse_within (p : Char → Bool) (text : List Char) :
    (text.reverse.dropWhile p).reverse <:+: text := by
  have hsuffix := List.dropWhile_suffix p (l := text.reverse)
  rw [← List.reverse_prefix, List.reverse_reverse] at hsuffix
  exact hsuffix.isInfix

theorem trim_within (text : List Char) : trim text <:+: text :=
  (dropWhile_reverse_within isBlank (trimLeft text)).trans (List.dropWhile_suffix isBlank).isInfix

theorem trimOf_within (set text : List Char) : trimOf set text <:+: text :=
  (dropWhile_reverse_within set.contains _).trans (List.dropWhile_suffix set.contains).isInfix

end Text

theorem annotation_within (text : List Char) : annotation text <:+: text := by
  have htrimmed := Text.trim_within text
  unfold annotation
  refine (Text.trim_within _).trans ?_
  split
  next type heq =>
    rw [heq] at htrimmed
    exact (List.suffix_cons ':' type).isInfix.trans htrimmed
  next type heq =>
    rw [heq] at htrimmed
    exact (List.suffix_append ['-', '>'] type).isInfix.trans htrimmed
  next => exact htrimmed

/-! ## Types in a comment -/

namespace DocTags

theorem after?_suffix
    {needle text rest : List Char} (hafter : Text.after? needle text = some rest) :
    rest <:+ text := by
  fun_induction Text.after? needle text with
  | case1 text =>
      cases hafter
      exact List.suffix_rfl
  | case2 => contradiction
  | case3 n needle c text hsame ih => exact (ih hafter).trans (List.suffix_cons c text)
  | case4 => contradiction

theorem afterBlanks?_suffix
    {text rest : List Char} (hafter : afterBlanks? text = some rest) : rest <:+ text := by
  unfold afterBlanks? at hafter
  split at hafter
  · contradiction
  next c text =>
    split at hafter
    · cases hafter
      exact (List.dropWhile_suffix Text.isBlank).trans (List.suffix_cons c text)
    · contradiction

theorem braced?_eq_some
    {inside : Bool} {taken text inner rest : List Char}
    (hbraced : braced? inside taken text = some (inner, rest)) :
    inner ++ '}' :: rest = taken.reverse ++ text := by
  fun_induction braced? inside taken text with
  | case1 => contradiction
  | case2 taken text ih => simpa using ih hbraced
  | case3 inside taken text houtside =>
      cases hbraced
      rfl
  | case4 => contradiction
  | case5 inside taken text hother houtside ih => simpa using ih hbraced
  | case6 inside taken c text hclosed hopened ih => simpa using ih hbraced

theorem writtenName?_suffix
    {text name rest : List Char} (hname : writtenName? text = some (name, rest)) :
    rest <:+ text := by
  unfold writtenName? at hname
  split at hname
  · contradiction
  next c text =>
    refine List.IsSuffix.trans ?_ (List.suffix_cons c text)
    split at hname
    · split at hname
      · contradiction
      next close others hclose =>
        cases hname
        have hothers := List.dropWhile_suffix (· != ']') (l := text)
        rw [hclose] at hothers
        exact (List.suffix_cons close rest).trans hothers
    · split at hname
      · cases hname
        exact List.dropWhile_suffix isTagChar
      · contradiction

theorem braced?_reads
    {text inner rest : List Char} (hbraced : braced? false [] text = some (inner, rest)) :
    inner <:+: text ∧ rest <:+ text := by
  have hsplit := braced?_eq_some hbraced
  rw [List.reverse_nil, List.nil_append] at hsplit
  rw [← hsplit]
  exact ⟨(List.prefix_append inner _).isInfix,
    (List.suffix_cons '}' rest).trans (List.suffix_append inner _)⟩

theorem typedName?_reads
    {text rest : List Char} {tag : ParamTag} (htag : typedName? text = some (tag, rest)) :
    tag.type <:+: text ∧ rest <:+ text := by
  unfold typedName? at htag
  split at htag
  · contradiction
  next c text =>
    split at htag
    · obtain ⟨⟨type, others⟩, hbraced, htag⟩ := Option.bind_eq_some_iff.mp htag
      obtain ⟨⟨name, left⟩, hname, htag⟩ := Option.map_eq_some_iff.mp htag
      cases htag
      obtain ⟨htype, hothers⟩ := braced?_reads hbraced
      have hleft := (writtenName?_suffix hname).trans (List.dropWhile_suffix Text.isBlank)
      exact ⟨htype.trans (List.suffix_cons c text).isInfix,
        hleft.trans (hothers.trans (List.suffix_cons c text))⟩
    · obtain ⟨⟨name, left⟩, hname, htag⟩ := Option.map_eq_some_iff.mp htag
      cases htag
      exact ⟨List.nil_infix, writtenName?_suffix hname⟩

theorem paramTag?_reads
    {text rest : List Char} {tag : ParamTag} (htag : paramTag? text = some (tag, rest)) :
    tag.type <:+: text ∧ rest <:+ text := by
  obtain ⟨word, hword, htag⟩ := Option.bind_eq_some_iff.mp htag
  obtain ⟨blank, hblank, htag⟩ := Option.bind_eq_some_iff.mp htag
  obtain ⟨htype, hrest⟩ := typedName?_reads htag
  have hfront := (afterBlanks?_suffix hblank).trans (after?_suffix hword)
  exact ⟨htype.trans hfront.isInfix, hrest.trans hfront⟩

theorem paramTagsFrom_type_within
    {found : List ParamTag} {text : List Char} {tag : ParamTag}
    (htag : tag ∈ paramTagsFrom found text) : tag ∈ found ∨ tag.type <:+: text := by
  fun_induction paramTagsFrom found text with
  | case1 found => exact .inl (List.mem_reverse.mp htag)
  | case2 found c text first rest hfirst ih =>
      obtain ⟨htype, hrest⟩ := paramTag?_reads hfirst
      rcases ih htag with hmem | hwithin
      · rcases List.mem_cons.mp hmem with rfl | hmem
        · exact .inr htype
        · exact .inl hmem
      · exact .inr (hwithin.trans hrest.isInfix)
  | case3 found c text hnone ih =>
      rcases ih htag with hmem | hwithin
      · exact .inl hmem
      · exact .inr (hwithin.trans (List.suffix_cons c text).isInfix)

theorem returnTag?_within
    {text type : List Char} (htag : returnTag? text = some type) : type <:+: text := by
  obtain ⟨word, hword, htag⟩ := Option.bind_eq_some_iff.mp htag
  obtain ⟨blank, hblank, htag⟩ := Option.bind_eq_some_iff.mp htag
  have hplural : (Text.after? ['s'] word).getD word <:+ word := by
    cases hafter : Text.after? ['s'] word with
    | none => exact List.suffix_rfl
    | some rest => exact after?_suffix hafter
  have hfront := ((afterBlanks?_suffix hblank).trans hplural).trans (after?_suffix hword)
  split at htag
  next rest =>
    obtain ⟨⟨inner, others⟩, hbraced, rfl⟩ := Option.map_eq_some_iff.mp htag
    exact ((braced?_reads hbraced).1.trans (List.suffix_cons '{' rest).isInfix).trans
      hfront.isInfix
  · contradiction

theorem firstTypeOf?_within
    {name type : String} {text : List Char} (htype : firstTypeOf? name text = some type) :
    type.toList <:+: text := by
  obtain ⟨tag, htag, rfl⟩ := Option.map_eq_some_iff.mp htype
  rcases paramTagsFrom_type_within (List.mem_of_find?_eq_some htag) with hmem | hwithin
  · contradiction
  · rw [ParamTag.typeText, String.toList_ofList]
    exact (Text.trim_within tag.type).trans hwithin

theorem firstReturnType?_within
    {type : String} {text : List Char} (htype : firstReturnType? text = some type) :
    type.toList <:+: text := by
  obtain ⟨written, hwritten, rfl⟩ := Option.map_eq_some_iff.mp htype
  obtain ⟨rest, hrest, htag⟩ := List.exists_of_findSome?_eq_some hwritten
  rw [String.toList_ofList]
  exact (Text.trim_within written).trans
    ((returnTag?_within htag).trans (List.mem_tails rest text |>.mp hrest).isInfix)

end DocTags

/-! ## Names -/

variable {source : Bytes} {whole node : Node}

namespace Node

theorem exists_boundName (node : Node) (source : Bytes) :
    ∃ inner ∈ node.preorder, node.boundName source = inner.text source := by
  have hinnermost := node.innermost_mem_preorder
  unfold boundName
  simp only
  split
  · exact ⟨node.innermost, hinnermost, rfl⟩
  · cases hfound : node.innermost.namedChildren.find? isIdentifier with
    | none => exact ⟨node.innermost, hinnermost, rfl⟩
    | some inner =>
        have hinner := mem_preorder_of_mem_namedChildren (List.mem_of_find?_eq_some hfound)
        exact ⟨inner, mem_preorder_trans hinner hinnermost, rfl⟩

section Nested

variable (hwhole : whole.Nested source) (hnode : node ∈ whole.preorder)

include hwhole hnode

theorem boundName_within : node.boundName source <:+: whole.text source := by
  obtain ⟨inner, hinner, hname⟩ := node.exists_boundName source
  rw [hname]
  exact hwhole.text_within (mem_preorder_trans hinner hnode)

theorem annotationText_within : node.annotationText source <:+: whole.text source :=
  (annotation_within _).trans (hwhole.text_within hnode)

end Nested
end Node

namespace Vocabulary

theorem nameText_within (hwhole : whole.Nested source) (hnode : node ∈ whole.preorder) :
    nameText node source <:+: whole.text source := by
  unfold nameText
  simp only
  cases hmember :
      if memberAccessKinds.contains node.kind then node.firstChild? memberNameFields else none with
  | some member =>
      split at hmember
      · exact hwhole.text_within
          (Node.mem_preorder_trans (Node.mem_preorder_of_firstChild? hmember) hnode)
      · contradiction
  | none =>
      simp only
      split
      · exact (Text.trimOf_within _ _).trans (hwhole.text_within hnode)
      · exact Node.boundName_within hwhole hnode

theorem declaredName_within (vocabulary : Vocabulary) (hnode : node.Nested source) :
    vocabulary.declaredName node source <:+: node.text source := by
  unfold declaredName
  split
  next name hname => exact nameText_within hnode (Node.mem_preorder_of_firstChild? hname)
  next => exact List.nil_infix

end Vocabulary

/-! ## Parameters -/

namespace Parameter

/-- What the type of a parameter can be, for a declaration with a text and perhaps a
comment. -/
inductive TypeFrom (text : List Char) (comment : Option String) : String → Prop where
  | unknown : TypeFrom text comment ""
  | sentinel {type : String} (htype : type ∈ [restType, objectType, arrayType]) :
      TypeFrom text comment type
  | written {type : String} (htype : type.toList <:+: text) : TypeFrom text comment type
  | spread {element : List Char} (helement : element <:+: text) :
      TypeFrom text comment (String.ofList (element ++ "...".toList))
  | documented {type tags : String} (hcomment : comment = some tags)
      (htype : type.toList <:+: tags.toList) : TypeFrom text comment type

/-- The name of a parameter is in the text of its declaration, and its type is one that
this text or the comment can give. -/
structure From (text : List Char) (comment : Option String) (parameter : Parameter) : Prop where
  name : parameter.name.toList <:+: text
  type : TypeFrom text comment parameter.type

theorem typeFrom_of_lookup
    {kind pattern : String} (hpattern : patternTypes.lookup kind = some pattern)
    (text : List Char) (comment : Option String) : TypeFrom text comment pattern := by
  refine .sentinel ?_
  simp only [patternTypes, List.lookup_cons, List.lookup_nil] at hpattern
  split at hpattern
  · cases hpattern
    decide
  · split at hpattern
    · cases hpattern
      decide
    · contradiction

theorem from_mk
    {name text : List Char} {comment : Option String} {type : String} (hname : name <:+: text)
    (htype : TypeFrom text comment type) (optional : Bool) :
    From text comment ⟨String.ofList name, type, optional⟩ := by
  refine ⟨?_, htype⟩
  rw [String.toList_ofList]
  exact hname

theorem typeFrom_orElse
    {text type : List Char} {comment : Option String}
    (htype : TypeFrom text comment (String.ofList type)) :
    TypeFrom text comment (orElse type restType) := by
  unfold orElse
  split
  · exact .sentinel (by decide)
  · exact htype

theorem mem_preorder_of_target? {target : Node} (htarget : target? node = some target) :
    target ∈ node.preorder := by
  unfold target? at htarget
  split at htarget
  next found hfound =>
    cases htarget
    exact Node.mem_preorder_of_firstChild? hfound
  next =>
    have hnamed := (List.mem_filter.mp (List.mem_of_find?_eq_some htarget)).1
    exact Node.mem_preorder_of_mem_children (List.mem_of_mem_eraseP hnamed)

variable (hwhole : whole.Nested source) (hnode : node ∈ whole.preorder)

include hwhole hnode

theorem typeFrom_writtenType (comment : Option String) :
    TypeFrom (whole.text source) comment (String.ofList (writtenType node source)) := by
  unfold writtenType
  split
  next type htype =>
    refine .written ?_
    rw [String.toList_ofList]
    exact Node.annotationText_within hwhole
      (Node.mem_preorder_trans (Node.mem_preorder_of_child? htype) hnode)
  next =>
    split
    · split
      next element helement =>
        have hbelow := Node.mem_preorder_of_mem_namedChildren (List.mem_of_find?_eq_some helement)
        exact .spread (hwhole.text_within (Node.mem_preorder_trans hbelow hnode))
      next => exact .unknown
    · exact .unknown

theorem restName_within : restName node source <:+: whole.text source := by
  unfold restName
  split
  next name hname =>
    exact Node.boundName_within hwhole
      (Node.mem_preorder_trans (Node.mem_preorder_of_child? hname) hnode)
  next =>
    simp only
    split
    next name hname =>
      obtain ⟨child, hchild, hfound⟩ := List.exists_of_findSome?_eq_some hname
      have hbelow :=
        Node.mem_preorder_trans (Node.mem_preorder_of_mem_namedChildren hchild) hnode
      split at hfound
      · cases hfound
        exact hwhole.text_within hbelow
      · split at hfound
        · cases hfound
          exact Node.boundName_within hwhole hbelow
        · contradiction
    next =>
      split
      · exact hwhole.text_within hnode
      · exact (List.dropWhile_suffix _).isInfix.trans (hwhole.text_within hnode)

theorem ofTarget_from
    {comment : Option String} {type : List Char}
    (htype : TypeFrom (whole.text source) comment (String.ofList type)) (optional : Bool) :
    From (whole.text source) comment (ofTarget node source type optional) := by
  unfold ofTarget
  split
  next pattern hpattern =>
    exact from_mk (hwhole.text_within hnode) (typeFrom_of_lookup hpattern _ _) optional
  next =>
    split
    · exact from_mk (restName_within hwhole hnode) (typeFrom_orElse htype) optional
    · exact from_mk (Node.boundName_within hwhole hnode) htype optional

theorem ofComposite_from (comment : Option String) :
    ∀ parameter ∈ ofComposite node source,
      From (whole.text source) comment parameter := by
  have htype := typeFrom_writtenType hwhole hnode comment
  intro parameter hparameter
  unfold ofComposite at hparameter
  simp only at hparameter
  split at hparameter
  next first second rest hnames =>
    obtain ⟨name, hname, rfl⟩ := List.mem_map.mp hparameter
    rw [← hnames] at hname
    have hbelow := Node.mem_preorder_of_mem_children (List.mem_filter.mp hname).1
    exact from_mk (hwhole.text_within (Node.mem_preorder_trans hbelow hnode)) htype _
  next =>
    obtain ⟨target, htarget, rfl⟩ := List.mem_map.mp hparameter
    have hbelow := mem_preorder_of_target? (Option.mem_toList.mp htarget)
    exact ofTarget_from hwhole (Node.mem_preorder_trans hbelow hnode) htype _

theorem ofNode_from (comment : Option String) :
    ∀ parameter ∈ ofNode node source, From (whole.text source) comment parameter := by
  intro parameter hparameter
  unfold ofNode at hparameter
  split at hparameter
  · contradiction
  · split at hparameter
    next pattern hpattern =>
      rw [List.mem_singleton.mp hparameter]
      exact from_mk (hwhole.text_within hnode) (typeFrom_of_lookup hpattern _ _) _
    next =>
      split at hparameter
      · rw [List.mem_singleton.mp hparameter]
        exact from_mk (restName_within hwhole hnode)
          (typeFrom_orElse (typeFrom_writtenType hwhole hnode comment)) _
      · split at hparameter
        · rw [List.mem_singleton.mp hparameter]
          exact from_mk (hwhole.text_within hnode) .unknown _
        · exact ofComposite_from hwhole hnode comment parameter hparameter

theorem writtenParameters_from (comment : Option String) :
    ∀ parameter ∈ node.writtenParameters source,
      From (whole.text source) comment parameter := by
  intro parameter hparameter
  obtain ⟨child, hchild, hof⟩ := List.mem_flatMap.mp hparameter
  have hbelow := Node.mem_preorder_trans (Node.mem_preorder_of_mem_parameterNodes hchild) hnode
  exact ofNode_from hwhole hbelow comment parameter hof

omit hwhole hnode in
theorem fill_from
    {text : List Char} {comment : Option String} {parameter : Parameter}
    (hparameter : From text comment parameter) :
    From text comment (fill (.ofComment comment) parameter) := by
  unfold fill
  split
  · rw [DocTags.typeOf?_ofComment]
    refine ⟨hparameter.name, ?_⟩
    cases htype : comment.bind fun tags => DocTags.firstTypeOf? parameter.name tags.toList with
    | none => exact hparameter.type
    | some type =>
        obtain ⟨tags, hcomment, htag⟩ := Option.bind_eq_some_iff.mp htype
        exact .documented hcomment (DocTags.firstTypeOf?_within htag)
  · exact hparameter

/-- Each parameter has its name from the code and its type from the code or the comment. -/
theorem parameters_from (comment : Option String) :
    ∀ parameter ∈ node.parameters source (.ofComment comment),
      From (whole.text source) comment parameter := by
  intro parameter hparameter
  obtain ⟨written, hwritten, rfl⟩ := List.mem_map.mp hparameter
  exact fill_from (writtenParameters_from hwhole hnode comment written hwritten)

end Parameter

/-! ## Results -/

/-- A result type comes from the code or from the comment. -/
theorem Node.returnType_from
    (hwhole : whole.Nested source) (hnode : node ∈ whole.preorder) (fields : List String)
    (comment : Option String) {type : String}
    (htype : node.returnType source fields (.ofComment comment) = some type) :
    type.toList <:+: whole.text source ∨
      ∃ tags, comment = some tags ∧ type.toList <:+: tags.toList := by
  unfold Node.returnType at htype
  split at htype
  next annotated hannotated =>
    cases htype
    rw [String.toList_ofList]
    exact .inl (Node.annotationText_within hwhole
      (Node.mem_preorder_trans (Node.mem_preorder_of_firstChild? hannotated) hnode))
  next =>
    rw [DocTags.returns_ofComment] at htype
    obtain ⟨tags, hcomment, htag⟩ := Option.bind_eq_some_iff.mp htype
    exact .inr ⟨tags, hcomment, DocTags.firstReturnType?_within htag⟩

end SourceOutline

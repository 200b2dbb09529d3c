import SourceOutline.Comment.Style
import SourceOutline.Proofs.Declaration.Documentation
import SourceOutline.Proofs.Text.Trim

/-!
# What is left of an annotated type

Some grammars put the colon or the arrow in front of a type into the node of the type,
others do not.  Whichever it is, and whatever blanks stand around, the annotation gives
back the type as it is written.  One case is lost: a type that begins with a double colon
and stands in its node alone keeps only the second colon, for the first is taken for a
separator.  Behind a separator such a type is kept.

What holds of the annotation holds of every parameter that takes its type from it, and of
the result.  A pattern has a type of its own, and a plain name takes none from the code.
-/

namespace SourceOutline

/-- What a grammar may leave in front of a type. -/
inductive Separator where
  | absent
  | colon
  | arrow
  deriving DecidableEq, Repr

namespace Separator

def mark : Separator → List Char
  | absent => []
  | colon => [':']
  | arrow => ['-', '>']

/-- A text that spells a type behind a separator, with blanks at both ends and between
the two. -/
def Spells (separator : Separator) (type text : List Char) : Prop :=
  ∃ front gap back, Text.Blanks front ∧ Text.Blanks gap ∧ Text.Blanks back ∧
    text = front ++ (separator.mark ++ gap ++ type) ++ back

/-- The part of a type that its annotation gives back. -/
def kept : Separator → List Char → List Char
  | absent, ':' :: type => type
  | _, type => type

end Separator

/-- A type that begins with no separator, unless it is a colon that another follows. -/
structure TypeText (type : List Char) : Prop where
  nonempty : type ≠ []
  trimmed : Text.Trimmed type
  noArrow : ¬ ['-', '>'] <+: type
  colons : [':'] <+: type → [':', ':'] <+: type

namespace Separator

variable {separator : Separator} {type text : List Char}

/-! ## One annotation -/

theorem kept_eq (hkept : ¬ (separator = absent ∧ [':'] <+: type)) :
    separator.kept type = type := by
  unfold kept
  split
  next rest => exact absurd ⟨rfl, List.prefix_append [':'] rest⟩ hkept
  next => rfl

/-- A type that loses its first colon begins with another one. -/
theorem kept_cases (htype : TypeText type) (separator : Separator) :
    (∃ rest, separator = absent ∧ type = ':' :: ':' :: rest ∧
        separator.kept type = ':' :: rest) ∨
      ¬ (separator = absent ∧ [':'] <+: type) ∧ separator.kept type = type := by
  by_cases hlost : separator = absent ∧ [':'] <+: type
  · obtain ⟨rfl, hcolon⟩ := hlost
    obtain ⟨rest, rfl⟩ := htype.colons hcolon
    exact .inl ⟨rest, rfl, rfl, rfl⟩
  · exact .inr ⟨hlost, kept_eq hlost⟩

theorem kept_eq_iff (htype : TypeText type) :
    separator.kept type = type ↔ ¬ (separator = absent ∧ [':'] <+: type) := by
  rcases kept_cases htype separator with ⟨rest, rfl, rfl, hkept⟩ | ⟨hwhole, hkept⟩
  · simp [hkept]
  · exact iff_of_true hkept hwhole

theorem kept_ne_nil (htype : TypeText type) : separator.kept type ≠ [] := by
  rcases kept_cases htype separator with ⟨rest, _, _, hkept⟩ | ⟨_, hkept⟩
  · rw [hkept]
    exact List.cons_ne_nil ':' rest
  · rw [hkept]
    exact htype.nonempty

theorem annotation_of_spells (htype : TypeText type) (hspells : separator.Spells type text) :
    annotation text = separator.kept type := by
  obtain ⟨front, gap, back, hfront, hgap, hback, rfl⟩ := hspells
  have hbehind : Text.trim (gap ++ type) = type := by
    simpa using Text.trim_padded hgap htype.trimmed htype.nonempty
      (show Text.Blanks [] by simp [Text.Blanks])
  cases separator with
  | absent =>
      have hfrontGap : Text.Blanks (front ++ gap) := by
        intro c hc
        rcases List.mem_append.mp hc with hc | hc
        · exact hfront c hc
        · exact hgap c hc
      have htrimmed : Text.trim (front ++ ([] ++ gap ++ type) ++ back) = type := by
        simpa using Text.trim_padded hfrontGap htype.trimmed htype.nonempty hback
      unfold annotation
      rw [mark, htrimmed]
      split
      next rest =>
        obtain ⟨others, hothers⟩ := htype.colons (List.prefix_append [':'] rest)
        obtain rfl : ':' :: others = rest := (List.cons.inj hothers).2
        apply Text.trim_of_trimmed
        refine ⟨?_, ?_⟩
        · intro c hc
          cases hc
          decide
        · intro c hc
          exact htype.trimmed.last c (by simpa using hc)
      next rest => exact absurd (List.prefix_append ['-', '>'] rest) htype.noArrow
      next hcolon _ =>
        rw [Text.trim_of_trimmed htype.trimmed, kept_eq]
        rintro ⟨_, rest, rfl⟩
        exact hcolon rest rfl
  | colon =>
      have hmarked : Text.Trimmed (':' :: (gap ++ type)) :=
        htype.trimmed.behind htype.nonempty (by decide) gap
      have htrimmed := Text.trim_padded hfront hmarked (List.cons_ne_nil ':' _) hback
      unfold annotation
      simp only [mark, List.cons_append, List.nil_append] at htrimmed ⊢
      rw [htrimmed]
      exact hbehind
  | arrow =>
      have hmarked : Text.Trimmed ('-' :: ('>' :: gap ++ type)) :=
        htype.trimmed.behind htype.nonempty (by decide) ('>' :: gap)
      have htrimmed := Text.trim_padded hfront hmarked (List.cons_ne_nil '-' _) hback
      unfold annotation
      simp only [mark, List.cons_append, List.nil_append] at htrimmed ⊢
      rw [htrimmed]
      exact hbehind

end Separator

/-! ## Parameters -/

namespace Parameter

def isPattern (node : Node) : Bool :=
  (patternTypes.lookup node.kind).isSome

/-- The parameters that one child of a parameter list gives a function. -/
def read (tags : DocTags) (source : Bytes) (node : Node) : List Parameter :=
  (ofNode node source).map (fill tags)

/-- Whether a node is a pattern or has one for its only target.  The pattern decides the
type then. -/
def Destructured (node : Node) : Prop :=
  isPattern node ∨ restKinds.contains node.kind = false ∧
    (node.childrenAt "name").length ≤ 1 ∧ ∃ target ∈ target? node, isPattern target

variable {node : Node} {source : Bytes}

theorem lookup_of_isPattern (hnode : isPattern node = false) :
    patternTypes.lookup node.kind = none :=
  Option.isNone_iff_eq_none.mp (Option.isSome_eq_false_iff.mp hnode)

theorem orElse_of_ne_nil {type : List Char} (htype : type ≠ []) (other : String) :
    orElse type other = String.ofList type := by
  simp [orElse, htype]

theorem ofTarget_type
    {target : Node} (htarget : isPattern target = false) {type : List Char} (htype : type ≠ [])
    (optional : Bool) : (ofTarget target source type optional).type = String.ofList type := by
  rw [ofTarget, lookup_of_isPattern htarget]
  simp only
  split
  · exact orElse_of_ne_nil htype restType
  · rfl

theorem ofComposite_type
    (hnode : (node.childrenAt "name").length ≤ 1 → ∀ target ∈ target? node, isPattern target = false)
    (htype : writtenType node source ≠ []) :
    ∀ declared ∈ ofComposite node source,
      declared.type = String.ofList (writtenType node source) := by
  intro declared hdeclared
  unfold ofComposite at hdeclared
  simp only at hdeclared
  split at hdeclared
  next first second rest hnames =>
    obtain ⟨name, _, rfl⟩ := List.mem_map.mp hdeclared
    rfl
  next hnames =>
    have hone : (node.childrenAt "name").length ≤ 1 := by
      match hlist : node.childrenAt "name" with
      | [] | [_] => simp
      | first :: second :: rest => exact absurd hlist (hnames first second rest)
    obtain ⟨target, htarget, rfl⟩ := List.mem_map.mp hdeclared
    exact ofTarget_type (hnode hone target (Option.mem_toList.mp htarget)) htype _

/-- Whatever a parameter declares has the type that is written at it. -/
theorem ofNode_type
    (hnode : ¬ Destructured node) (hplain : node.isIdentifier = false)
    (htype : writtenType node source ≠ []) :
    ∀ declared ∈ ofNode node source,
      declared.type = String.ofList (writtenType node source) := by
  intro declared hdeclared
  have hpattern : isPattern node = false := by
    rw [← Bool.not_eq_true]
    exact fun hpattern => hnode (.inl hpattern)
  rw [ofNode, lookup_of_isPattern hpattern] at hdeclared
  split at hdeclared
  · contradiction
  · simp only [hplain, Bool.false_eq_true, if_false] at hdeclared
    split at hdeclared
    · rw [List.mem_singleton.mp hdeclared]
      exact orElse_of_ne_nil htype restType
    next hrest =>
      refine ofComposite_type ?_ htype declared hdeclared
      intro hone target htarget
      rw [← Bool.not_eq_true]
      intro hpatterns
      exact hnode (.inr ⟨by simpa using hrest, hone, target, htarget, hpatterns⟩)

theorem writtenType_of_child?
    {annotated : Node} (hannotated : node.child? "type" = some annotated) :
    writtenType node source = annotated.annotationText source := by
  rw [writtenType, hannotated]

theorem ofNode_type_of_isIdentifier (hplain : node.isIdentifier) :
    ∀ declared ∈ ofNode node source, declared.type = "" := by
  have hkinds : ∀ kind ∈ identifierKinds,
      patternTypes.lookup kind = none ∧ restKinds.contains kind = false := by
    decide
  obtain ⟨hpattern, hrest⟩ := hkinds node.kind (List.contains_iff_mem.mp hplain)
  intro declared hdeclared
  simp only [ofNode, hpattern, hrest, hplain, Bool.false_eq_true, if_false, if_true] at hdeclared
  split at hdeclared
  · contradiction
  · rw [List.mem_singleton.mp hdeclared]

end Parameter

/-- Each child of a parameter list is read by itself. -/
theorem Node.parameters_eq_flatMap (node : Node) (source : Bytes) (tags : DocTags) :
    node.parameters source tags = node.parameterNodes.flatMap (Parameter.read tags source) := by
  rw [parameters, writtenParameters, List.map_flatMap]
  rfl

/-! ## Functions -/

open Parameter

/-- An annotation gives back its type for the parameters that read it and for the result,
except that a type which begins with a double colon and stands alone loses the first
one.  A plain name reads no annotation and a pattern has a type of its own. -/
theorem annotation_kept
    {source : Bytes} {annotated : Node} {separator : Separator} {type : List Char}
    (htype : TypeText type) (hspells : separator.Spells type (annotated.text source)) :
    (separator.kept type = type ↔ ¬ (separator = .absent ∧ [':'] <+: type)) ∧
      annotated.annotationText source = separator.kept type ∧
      (∀ (function : Node) (tags : DocTags),
        function.parameters source tags = function.parameterNodes.flatMap (read tags source)) ∧
      (∀ (parameter : Node) (tags : DocTags), parameter.child? "type" = some annotated →
        ¬ Destructured parameter → ∀ declared ∈ read tags source parameter,
          declared.type =
            if parameter.isIdentifier then (tags.typeOf? declared.name).getD ""
            else String.ofList (separator.kept type)) ∧
      ∀ (function : Node) (fields : List String) (tags : DocTags),
        function.firstChild? fields = some annotated →
          function.returnType source fields tags =
            some (String.ofList (separator.kept type)) := by
  have hkept : annotated.annotationText source = separator.kept type :=
    Separator.annotation_of_spells htype hspells
  refine ⟨Separator.kept_eq_iff htype, hkept, ?_, ?_, ?_⟩
  · intro function tags
    exact function.parameters_eq_flatMap source tags
  · intro parameter tags hannotated hnode declared hdeclared
    obtain ⟨written, hwritten, rfl⟩ := List.mem_map.mp hdeclared
    split
    next hplain =>
      have hempty : written.type = "" := ofNode_type_of_isIdentifier hplain written hwritten
      rw [fill_of_type_eq hempty]
    next hother =>
      have hread : writtenType parameter source = separator.kept type := by
        rw [writtenType_of_child? hannotated, hkept]
      have hsome : writtenType parameter source ≠ [] := by
        rw [hread]
        exact Separator.kept_ne_nil htype
      have hwrittenType : written.type = String.ofList (separator.kept type) := by
        rw [ofNode_type hnode (by simpa using hother) hsome written hwritten, hread]
      rw [fill_of_type_ne _ tags, hwrittenType]
      rw [hwrittenType]
      simpa using Separator.kept_ne_nil htype
  · intro function fields tags hfunction
    rw [Node.returnType, hfunction]
    simp only [hkept]

def argumentType : Node := .mk ⟨4, "type_annotation", 3, 8, true, some "type"⟩ []

def resultType : Node := .mk ⟨5, "type_annotation", 9, 15, true, some "return_type"⟩ []

/-- The function in `f(x: ::A)-> ::B`, with the separators inside the nodes of the types. -/
def separated : Node :=
  .mk ⟨0, "function_item", 0, 15, true, none⟩
    [.mk ⟨1, "parameters", 1, 9, true, some "parameters"⟩
        [.mk ⟨2, "parameter", 2, 8, true, none⟩
          [.mk ⟨3, "identifier", 2, 3, true, some "pattern"⟩ [], argumentType]],
      resultType]

theorem annotation_kept_separated :
    (TypeText "::A".toList ∧ TypeText "::B".toList ∧
      Separator.colon.Spells "::A".toList (argumentType.text (ascii "f(x: ::A)-> ::B")) ∧
      Separator.arrow.Spells "::B".toList (resultType.text (ascii "f(x: ::A)-> ::B"))) ∧
      argumentType.annotationText (ascii "f(x: ::A)-> ::B") = "::A".toList ∧
      separated.returnType (ascii "f(x: ::A)-> ::B") ["return_type"] {} = some "::B" := by
  have hargument : TypeText "::A".toList := ⟨by decide, by decide, by decide, by decide⟩
  have hresult : TypeText "::B".toList := ⟨by decide, by decide, by decide, by decide⟩
  have hcolon : Separator.colon.Spells "::A".toList
      (argumentType.text (ascii "f(x: ::A)-> ::B")) :=
    ⟨[], [' '], [], by decide, by decide, by decide, by decide +kernel⟩
  have harrow : Separator.arrow.Spells "::B".toList
      (resultType.text (ascii "f(x: ::A)-> ::B")) :=
    ⟨[], [' '], [], by decide, by decide, by decide, by decide +kernel⟩
  refine ⟨⟨hargument, hresult, hcolon, harrow⟩, (annotation_kept hargument hcolon).2.1, ?_⟩
  exact (annotation_kept hresult harrow).2.2.2.2 separated ["return_type"] {} rfl

def globalPath : Node := .mk ⟨2, "qualified_identifier", 0, 13, true, some "type"⟩ []

/-- A path that begins at the global scope and stands alone does not survive. -/
theorem global_path_loses_colon :
    ¬ ∀ (source : Bytes) (function annotated : Node) (separator : Separator) (type : List Char),
        TypeText type → separator.Spells type (annotated.text source) →
          function.firstChild? ["type"] = some annotated →
            annotated.annotationText source = type ∧
              function.returnType source ["type"] {} = some (String.ofList type) := by
  intro hsurvives
  have htype : TypeText "::std::string".toList := ⟨by decide, by decide, by decide, by decide⟩
  have hspells : Separator.absent.Spells "::std::string".toList
      (globalPath.text (ascii "::std::string f() {}")) :=
    ⟨[], [], [], by decide, by decide, by decide, by decide +kernel⟩
  have hpath := (hsurvives _ (.mk ⟨1, "function_definition", 0, 20, true, none⟩ [globalPath])
    globalPath .absent _ htype hspells rfl).1
  exact absurd hpath (by decide +kernel)

end SourceOutline

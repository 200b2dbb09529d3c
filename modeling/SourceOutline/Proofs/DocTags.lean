import SourceOutline.DocTags
import Mathlib.Data.List.Basic
import Mathlib.Data.List.Infix

/-!
# Which tag of a comment counts

Tags are recorded one after the other, and a name that has been recorded is not
recorded again.  So the type found for a parameter is that of the first tag that
names it, even if this tag has no type and a later one has.
-/

namespace SourceOutline
namespace DocTags

/-- Whether a tag names a parameter.  No tag names the empty name or a property. -/
def ParamTag.names (tag : ParamTag) (name : String) : Bool :=
  !(tag.parameter.isEmpty || tag.parameter.contains '.') && String.ofList tag.parameter == name

def ParamTag.typeText (tag : ParamTag) : String :=
  String.ofList (Text.trim tag.type)

def firstTypeOf? (name : String) (text : List Char) : Option String :=
  ((paramTags text).find? (·.names name)).map ParamTag.typeText

def firstReturnType? (text : List Char) : Option String :=
  (text.tails.findSome? returnTag?).map fun type => String.ofList (Text.trim type)

theorem lookup_record (params : List (String × String)) (tag : ParamTag) (name : String) :
    (record params tag).lookup name =
      (params.lookup name).or (if tag.names name then some tag.typeText else none) := by
  cases hnameless : tag.parameter.isEmpty || tag.parameter.contains '.' with
  | true =>
      simp [record, ParamTag.names, hnameless, -List.isEmpty_iff, -List.contains_eq_mem]
  | false =>
      simp only [record, ParamTag.names, ParamTag.typeText, hnameless, Bool.false_or,
        Bool.not_false, Bool.true_and, beq_iff_eq]
      split
      next hknown =>
        by_cases hname : String.ofList tag.parameter = name
        · have hfound : (params.lookup name).isSome := by
            rw [List.lookup_isSome_iff]
            obtain ⟨entry, hentry, hkey⟩ := List.any_eq_true.mp hknown
            refine ⟨entry, hentry, ?_⟩
            rw [beq_iff_eq] at hkey ⊢
            rw [hkey, hname]
          rw [Option.or_of_isSome hfound]
        · simp [hname]
      next hnew =>
        rw [List.lookup_append, List.lookup_singleton]
        simp only [beq_iff_eq, eq_comm (a := name)]

theorem lookup_foldl_record
    (params : List (String × String)) (tags : List ParamTag) (name : String) :
    (tags.foldl record params).lookup name =
      (params.lookup name).or ((tags.find? (·.names name)).map ParamTag.typeText) := by
  induction tags generalizing params with
  | nil => simp
  | cons tag tags ih =>
      rw [List.foldl_cons, ih, lookup_record, Option.or_assoc, List.find?_cons]
      cases tag.names name <;> simp

theorem typeOf?_ofText (text : List Char) (name : String) :
    (ofText text).typeOf? name = firstTypeOf? name text := by
  have hrecorded := lookup_foldl_record [] (paramTags text) name
  rw [List.lookup_nil, Option.none_or] at hrecorded
  exact hrecorded

theorem firstReturn?_eq_findSome? (text : List Char) :
    firstReturn? text = text.tails.findSome? returnTag? := by
  induction text with
  | nil => rfl
  | cons c rest ih =>
      rw [firstReturn?, List.tails, List.findSome?_cons, ← ih]
      cases returnTag? (c :: rest) <;> rfl

theorem returns_ofText (text : List Char) :
    (ofText text).returns = firstReturnType? text := by
  unfold ofText firstReturnType?
  rw [firstReturn?_eq_findSome?]

/-- The type of a parameter comes from the first tag that names it. -/
theorem typeOf?_ofComment (comment : Option String) (name : String) :
    (ofComment comment).typeOf? name =
      comment.bind fun text => firstTypeOf? name text.toList := by
  cases comment with
  | none => rfl
  | some text => exact typeOf?_ofText text.toList name

theorem returns_ofComment (comment : Option String) :
    (ofComment comment).returns = comment.bind fun text => firstReturnType? text.toList := by
  cases comment with
  | none => rfl
  | some text => exact returns_ofText text.toList

end DocTags
end SourceOutline

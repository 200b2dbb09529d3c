/-!
# Looking for a text in a text

Occurrences are literal: the characters of the needle have no special meaning.
-/

namespace SourceOutline
namespace Text

variable {α : Type} [BEq α]

/-- Whether `needle` stands somewhere in `text`. -/
def occurs (needle : List α) : List α → Bool
  | [] => needle.isEmpty
  | c :: rest => needle.isPrefixOf (c :: rest) || occurs needle rest

def after? : (needle text : List α) → Option (List α)
  | [], text => some text
  | _ :: _, [] => none
  | n :: needle, c :: text => if n == c then after? needle text else none

theorem after?_length_le {needle text rest : List α}
    (h : after? needle text = some rest) :
    rest.length + needle.length = text.length := by
  induction needle generalizing text with
  | nil => simp [after?] at h; simp [h]
  | cons n needle ih =>
      cases text with
      | nil => simp [after?] at h
      | cons c text =>
          simp only [after?] at h
          split at h
          · have := ih h
            simp only [List.length_cons]
            omega
          · simp at h

end Text
end SourceOutline

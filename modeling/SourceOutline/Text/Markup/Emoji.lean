import SourceOutline.Text.Blank
import SourceOutline.Text.Lower
import SourceOutline.Text.Markup.EmojiNames

/-!
# Emoji by name

A name between two colons, without blanks, stands for a picture.  The name may
be followed by a word that asks for the picture or for plain text.  A name that
is not known is left as it is, and its second colon does not begin another one.
-/

namespace SourceOutline
namespace Emoji

/-- Endings of a name and the selectors that they stand for. -/
def variants : List (List Char × Char) :=
  [("-emoji".toList, '\uFE0F'), ("-text".toList, '\uFE0E')]

/-- What stands between a colon and the next one, unless it holds a blank. -/
def code? (rest : List Char) : Option (List Char) :=
  let code := rest.takeWhile fun c => c ≠ ':' && !Text.isBlank c
  if (rest.drop code.length).head? == some ':' then some code else none

def picture? (code : List Char) : Option (List Char) :=
  let variant := variants.find? fun variant => variant.1.isSuffixOf code
  let name := code.take (code.length - variant.elim 0 (·.1.length))
  (names.lookup (String.ofList (Text.lower name))).map fun picture =>
    picture.toList ++ (variant.map (·.2)).toList

def replaced (text : List Char) : List Char :=
  match text with
  | [] => []
  | c :: rest =>
      if c = ':' then
        match code? rest with
        | some code =>
            (picture? code).getD (':' :: code ++ [':']) ++ replaced (rest.drop (code.length + 1))
        | none => c :: replaced rest
      else c :: replaced rest
termination_by text.length
decreasing_by
  all_goals
    simp only [List.length_drop, List.length_cons]
    omega

end Emoji
end SourceOutline

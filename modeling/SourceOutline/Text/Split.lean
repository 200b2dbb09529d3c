import SourceOutline.Text.Blank

/-!
# Parts of a text
-/

namespace SourceOutline
namespace Text

/-- The parts of a text between separators, `part` being the characters of the
first one that are already read, the last one first. -/
def splitFrom (separator : Char) (part : List Char) : List Char → List (List Char)
  | [] => [part.reverse]
  | c :: rest =>
      if c = separator then part.reverse :: splitFrom separator [] rest
      else splitFrom separator (c :: part) rest

def split (separator : Char) (text : List Char) : List (List Char) :=
  splitFrom separator [] text

/-- The words of a text, which are the parts between blanks; `word` holds the
characters of the first one that are already read, the last one first. -/
def wordListFrom (word : List Char) : List Char → List (List Char)
  | [] => if word.isEmpty then [] else [word.reverse]
  | c :: rest =>
      if !isBlank c then wordListFrom (c :: word) rest
      else if word.isEmpty then wordListFrom [] rest
      else word.reverse :: wordListFrom [] rest

def wordList (text : List Char) : List (List Char) :=
  wordListFrom [] text

end Text
end SourceOutline

import SourceOutline.Text.Ranges

/-!
# Blank characters and trimming

A character is blank when it separates words: the ASCII controls from the tab
to the carriage return, the four information separators, the space, and the
Unicode spaces and line separators.  The zero-width space and the byte order
mark are not blank.  Trimming takes blanks off the ends of a text.
-/

namespace SourceOutline
namespace Text

def blankRanges : Ranges :=
  [(0x09, 0x0D), (0x1C, 0x20), (0x85, 0x85), (0xA0, 0xA0), (0x1680, 0x1680),
   (0x2000, 0x200A), (0x2028, 0x2029), (0x202F, 0x202F), (0x205F, 0x205F),
   (0x3000, 0x3000)]

def isBlank (c : Char) : Bool :=
  blankRanges.contains c.toNat

def trimLeft (text : List Char) : List Char :=
  text.dropWhile isBlank

theorem trimLeft_length_le (text : List Char) : (trimLeft text).length ≤ text.length :=
  (List.dropWhile_suffix isBlank).length_le

def trimRight (text : List Char) : List Char :=
  (text.reverse.dropWhile isBlank).reverse

def trim (text : List Char) : List Char :=
  trimRight (trimLeft text)

/-- Takes characters of `set` off both ends. -/
def trimOf (set : List Char) (text : List Char) : List Char :=
  ((text.dropWhile set.contains).reverse.dropWhile set.contains).reverse

def trimLeftOf (set : List Char) (text : List Char) : List Char :=
  text.dropWhile set.contains

end Text
end SourceOutline

import SourceOutline.Text.Utf8

/-!
# How a language writes comments and strings

The comment scanner knows a language only through its delimiters.  Strings
matter to it because a comment marker inside a string opens no comment.
-/

namespace SourceOutline

def ascii (text : String) : Bytes :=
  text.toList.map fun c => c.toNat.toUInt8

structure BlockMarks where
  opener : Bytes
  closer : Bytes
  deriving DecidableEq, Repr

/-- The delimiters of comments and strings.  Where several could begin at one
place, triple quotes come first, then the quotes, the block comments and the
line comments, each list in its order. -/
structure CommentStyle where
  lineMarks : List Bytes := [ascii "//"]
  blockMarks : List BlockMarks := [⟨ascii "/*", ascii "*/"⟩]
  quotes : List UInt8 := ascii "\"'"
  tripleQuoted : Bool := false
  deriving DecidableEq, Repr

namespace CommentStyle

/-- A style without comment delimiters has no comments to find. -/
def hasComments (style : CommentStyle) : Bool :=
  !style.lineMarks.isEmpty || !style.blockMarks.isEmpty

end CommentStyle
end SourceOutline

import SourceOutline.Data.Yaml.Build

/-!
# Reading settings files

A settings file holds one document of nested mappings, lists and scalars.  An
empty file holds null.  Line ends of all three kinds are read as newlines, and a
character that can neither be printed nor divides lines makes the file
malformed.
-/

namespace SourceOutline
namespace Yaml

/-- Carriage returns, with or without a newline behind them, as newlines. -/
def newlines : List Char → List Char
  | '\r' :: '\n' :: rest => '\n' :: newlines rest
  | '\r' :: rest => '\n' :: newlines rest
  | c :: rest => c :: newlines rest
  | [] => []

def isAllowed (c : Char) : Bool :=
  let n := c.toNat
  n == 0x09 || n == 0x0A || n == 0x0D || (0x20 ≤ n && n ≤ 0x7E) || n == 0x85 ||
    (0xA0 ≤ n && n ≤ 0xFFFD) || 0x10000 ≤ n

def read (text : List Char) : Except Fault Value :=
  let text := newlines text
  if text.all isAllowed then
    match tokens? text with
    | some tokens => (Node.ofTokens tokens).bind Node.value
    | none => .error .malformed
  else .error .malformed

end Yaml
end SourceOutline

import SourceOutline.Text.Utf8

/-!
# Bytes written in base sixty-four

Every character of the alphabet stands for six bits.  Four characters make three
bytes; the last ones may be fewer, and then signs of equality fill them up to
four and end the text.  Other characters mean nothing.
-/

namespace SourceOutline
namespace Base64

/-- The six bits of a character. -/
def bits? (c : Char) : Option Nat :=
  if 'A' ≤ c && c ≤ 'Z' then some (c.toNat - 'A'.toNat)
  else if 'a' ≤ c && c ≤ 'z' then some (c.toNat - 'a'.toNat + 26)
  else if c.isDigit then some (c.toNat - '0'.toNat + 52)
  else if c = '+' then some 62
  else if c = '/' then some 63
  else none

/-- A text that is being read: the bytes so far with the last one first, how many
characters of a group of four have come, the bits of the last one that no byte
has taken, and the signs that fill the group. -/
structure Reading where
  written : Bytes := []
  count : Nat := 0
  left : Nat := 0
  fillers : Nat := 0
  deriving Repr

namespace Reading

def add (reading : Reading) (bits : Nat) : Reading :=
  let byte (high low : Nat) : Bytes := UInt8.ofNat (high + low) :: reading.written
  match reading.count with
  | 0 => { reading with count := 1, left := bits, fillers := 0 }
  | 1 => { written := byte (reading.left * 4) (bits / 16), count := 2, left := bits % 16 }
  | 2 => { written := byte (reading.left * 16) (bits / 4), count := 3, left := bits % 4 }
  | _ => { written := byte (reading.left * 64) bits }

/-- The bytes, if the last group is complete. -/
def finish? (reading : Reading) : Option Bytes :=
  if reading.count = 0 then some reading.written.reverse else none

def run (reading : Reading) : List Char → Option Bytes
  | [] => reading.finish?
  | c :: rest =>
      if c = '=' then
        if reading.count < 2 then reading.run rest
        else if 4 ≤ reading.count + reading.fillers + 1 then some reading.written.reverse
        else { reading with fillers := reading.fillers + 1 }.run rest
      else
        match bits? c with
        | some bits => (reading.add bits).run rest
        | none => reading.run rest

end Reading

def decode? (text : List Char) : Option Bytes :=
  if text.all (·.toNat < 0x80) then ({} : Reading).run text else none

end Base64
end SourceOutline

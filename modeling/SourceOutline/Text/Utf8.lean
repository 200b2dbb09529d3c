/-!
# Reading bytes as text

Source files are bytes; names and comments are text.  Decoding never fails:
the longest run of bytes that begins a character without finishing one is read
as a single replacement character, and so is a byte that begins no character.

The decoder is a machine that takes one byte at a time.  Between bytes it
remembers the character under construction, so decoding a concatenation is
decoding the second part from where the first part stopped.  An ASCII byte
always leaves the machine between characters.
-/

namespace SourceOutline

abbrev Bytes := List UInt8

namespace Utf8

/-- The character that stands for bytes that are no text. -/
def replacement : Char := Char.ofNat 0xFFFD

/-- A character under construction: the bits read so far, how many bytes are
still owed, and the range in which the next one must lie. -/
structure Partial where
  bits : Nat
  owed : Nat
  low : UInt8
  high : UInt8
  deriving DecidableEq, Repr

/-- The decoder between two bytes.  `written` holds the characters read so far
with the last one first. -/
structure Decoder where
  written : List Char := []
  pending : Option Partial := none
  deriving DecidableEq, Repr

namespace Decoder

def emit (decoder : Decoder) (c : Char) : Decoder :=
  { written := c :: decoder.written, pending := none }

def await (decoder : Decoder) (pending : Partial) : Decoder :=
  { decoder with pending := some pending }

/-- Takes a byte that stands where a character begins. -/
def begin (decoder : Decoder) (b : UInt8) : Decoder :=
  if b < 0x80 then decoder.emit (Char.ofNat b.toNat)
  else if b < 0xC2 then decoder.emit replacement
  else if b < 0xE0 then decoder.await ⟨b.toNat - 0xC0, 1, 0x80, 0xBF⟩
  else if b < 0xF0 then
    decoder.await ⟨b.toNat - 0xE0, 2, if b = 0xE0 then 0xA0 else 0x80,
      if b = 0xED then 0x9F else 0xBF⟩
  else if b < 0xF5 then
    decoder.await ⟨b.toNat - 0xF0, 3, if b = 0xF0 then 0x90 else 0x80,
      if b = 0xF4 then 0x8F else 0xBF⟩
  else decoder.emit replacement

/-- Takes one byte.  A byte that cannot continue the pending character closes
it as a replacement and then begins a character of its own. -/
def step (decoder : Decoder) (b : UInt8) : Decoder :=
  match decoder.pending with
  | none => decoder.begin b
  | some pending =>
      if pending.low ≤ b && b ≤ pending.high then
        let bits := pending.bits * 64 + (b.toNat - 0x80)
        if pending.owed ≤ 1 then decoder.emit (Char.ofNat bits)
        else decoder.await ⟨bits, pending.owed - 1, 0x80, 0xBF⟩
      else (decoder.emit replacement).begin b

/-- The text read, with an unfinished last character replaced. -/
def finish (decoder : Decoder) : List Char :=
  match decoder.pending with
  | none => decoder.written.reverse
  | some _ => (replacement :: decoder.written).reverse

end Decoder

def decode (bytes : Bytes) : List Char :=
  (bytes.foldl Decoder.step {}).finish

def encode (text : List Char) : Bytes :=
  text.flatMap String.utf8EncodeChar

/-- The text of bytes that hold no malformed character. -/
def decode? (bytes : Bytes) : Option (List Char) :=
  let text := decode bytes
  if encode text = bytes then some text else none

end Utf8

namespace Bytes

/-- The bytes from `start` up to `stop`; a bound past the end means the end. -/
def slice (bytes : Bytes) (start stop : Nat) : Bytes :=
  (bytes.drop start).take (stop - start)

def textBetween (bytes : Bytes) (start stop : Nat) : List Char :=
  Utf8.decode (bytes.slice start stop)

def newline : UInt8 := 0x0A

/-- The line on which `offset` lies, the first line being 1. -/
def lineAt (bytes : Bytes) (offset : Nat) : Nat :=
  (bytes.take offset).count newline + 1

def ofString (text : String) : Bytes :=
  Utf8.encode text.toList

end Bytes
end SourceOutline

import SourceOutline.Proofs.Text.Utf8
import Mathlib.Data.List.Infix

/-!
# Decoding between character boundaries

The decoder reads back what was encoded: it begins a character with its first byte,
takes the other bytes one by one, all of which lie in the range it expects, and then
writes the character.  It stands between characters again, so what follows is decoded
as if nothing were before it.

An offset is a boundary when the bytes before it are the encoding of a text.  At a
boundary decoding can be cut, as it can at an ASCII byte.  Hence a span between
boundaries that lies inside another one gives a part of the text of the other.
-/

namespace SourceOutline
namespace Utf8
namespace Decoder

theorem begin_ofNat (decoder : Decoder) {code : Nat} (hcode : code < 256) :
    decoder.begin (UInt8.ofNat code) =
      if code < 0x80 then decoder.emit (Char.ofNat code)
      else if code < 0xC2 then decoder.emit replacement
      else if code < 0xE0 then decoder.await ⟨code - 0xC0, 1, 0x80, 0xBF⟩
      else if code < 0xF0 then
        decoder.await ⟨code - 0xE0, 2, if code = 0xE0 then 0xA0 else 0x80,
          if code = 0xED then 0x9F else 0xBF⟩
      else if code < 0xF5 then
        decoder.await ⟨code - 0xF0, 3, if code = 0xF0 then 0x90 else 0x80,
          if code = 0xF4 then 0x8F else 0xBF⟩
      else decoder.emit replacement := by
  have hvalue : (UInt8.ofNat code).toNat = code := UInt8.toNat_ofNat_of_lt hcode
  simp only [begin, UInt8.lt_iff_toNat_lt, ← UInt8.toNat_inj, hvalue, UInt8.reduceToNat]

theorem continues
    {low high : UInt8} {code : Nat} (hlow : low.toNat ≤ code) (hhigh : code ≤ high.toNat) :
    (low ≤ UInt8.ofNat code && UInt8.ofNat code ≤ high) = true ∧
      (UInt8.ofNat code).toNat = code := by
  have hcode : code < 256 := Nat.lt_of_le_of_lt hhigh high.toNat_lt
  have hvalue : (UInt8.ofNat code).toNat = code := UInt8.toNat_ofNat_of_lt hcode
  simp [UInt8.le_iff_toNat_le, hvalue, hlow, hhigh]

theorem step_last
    (decoder : Decoder) (bits : Nat) {low high : UInt8} {code : Nat} (hlow : low.toNat ≤ code)
    (hhigh : code ≤ high.toNat) :
    (decoder.await ⟨bits, 1, low, high⟩).step (UInt8.ofNat code) =
      decoder.emit (Char.ofNat (bits * 64 + (code - 0x80))) := by
  obtain ⟨hcontinues, hvalue⟩ := continues hlow hhigh
  simp only [step, await, hcontinues, hvalue, if_true, le_refl]
  rfl

theorem step_more
    (decoder : Decoder) (bits owed : Nat) {low high : UInt8} {code : Nat}
    (hlow : low.toNat ≤ code) (hhigh : code ≤ high.toNat) :
    (decoder.await ⟨bits, owed + 2, low, high⟩).step (UInt8.ofNat code) =
      decoder.await ⟨bits * 64 + (code - 0x80), owed + 1, 0x80, 0xBF⟩ := by
  obtain ⟨hcontinues, hvalue⟩ := continues hlow hhigh
  have howed : ¬ owed + 2 ≤ 1 := by omega
  simp only [step, await, hcontinues, hvalue, if_true, if_neg howed]
  rfl

theorem low_le_tail (code : Nat) : (0x80 : UInt8).toNat ≤ code % 64 + 128 := by
  simp only [UInt8.reduceToNat]
  omega

theorem tail_le_high (code : Nat) : code % 64 + 128 ≤ (0xBF : UInt8).toNat := by
  simp only [UInt8.reduceToNat]
  omega

theorem foldl_step_two
    {decoder : Decoder} {code : Nat} (hmore : 0x7F < code) (hcode : code ≤ 0x7FF) :
    [UInt8.ofNat (code % 64 + 128)].foldl step
        (decoder.begin (UInt8.ofNat (code / 64 % 32 + 192))) =
      decoder.emit (Char.ofNat code) := by
  have hbits : (code / 64 % 32 + 192 - 0xC0) * 64 + (code % 64 + 128 - 0x80) = code := by omega
  rw [begin_ofNat _ (by omega), if_neg (by omega), if_neg (by omega), if_pos (by omega),
    List.foldl_cons, List.foldl_nil, step_last _ _ (low_le_tail _) (tail_le_high _), hbits]

/-- The second byte is neither so low that two bytes would do nor so high that the
character would be a surrogate. -/
theorem foldl_step_three
    {decoder : Decoder} {code : Nat} (hmore : 0x7FF < code) (hcode : code ≤ 0xFFFF)
    (hvalid : code < 0xD800 ∨ 0xDFFF < code) :
    [UInt8.ofNat (code / 64 % 64 + 128), UInt8.ofNat (code % 64 + 128)].foldl step
        (decoder.begin (UInt8.ofNat (code / 4096 % 16 + 224))) =
      decoder.emit (Char.ofNat code) := by
  have hbits :
      ((code / 4096 % 16 + 224 - 0xE0) * 64 + (code / 64 % 64 + 128 - 0x80)) * 64 +
        (code % 64 + 128 - 0x80) = code := by
    omega
  have hlow :
      (if code / 4096 % 16 + 224 = 0xE0 then 0xA0 else 0x80 : UInt8).toNat ≤
        code / 64 % 64 + 128 := by
    split <;> simp only [UInt8.reduceToNat] <;> omega
  have hhigh :
      code / 64 % 64 + 128 ≤
        (if code / 4096 % 16 + 224 = 0xED then 0x9F else 0xBF : UInt8).toNat := by
    split <;> simp only [UInt8.reduceToNat] <;> omega
  rw [begin_ofNat _ (by omega), if_neg (by omega), if_neg (by omega), if_neg (by omega),
    if_pos (by omega), List.foldl_cons, List.foldl_cons, List.foldl_nil,
    step_more _ _ 0 hlow hhigh, step_last _ _ (low_le_tail _) (tail_le_high _), hbits]

/-- The second byte is neither so low that three bytes would do nor so high that there
is no such character. -/
theorem foldl_step_four
    {decoder : Decoder} {code : Nat} (hmore : 0xFFFF < code) (hcode : code < 0x110000) :
    [UInt8.ofNat (code / 4096 % 64 + 128), UInt8.ofNat (code / 64 % 64 + 128),
        UInt8.ofNat (code % 64 + 128)].foldl step
        (decoder.begin (UInt8.ofNat (code / 262144 % 8 + 240))) =
      decoder.emit (Char.ofNat code) := by
  have hbits :
      (((code / 262144 % 8 + 240 - 0xF0) * 64 + (code / 4096 % 64 + 128 - 0x80)) * 64 +
        (code / 64 % 64 + 128 - 0x80)) * 64 + (code % 64 + 128 - 0x80) = code := by
    omega
  have hlow :
      (if code / 262144 % 8 + 240 = 0xF0 then 0x90 else 0x80 : UInt8).toNat ≤
        code / 4096 % 64 + 128 := by
    split <;> simp only [UInt8.reduceToNat] <;> omega
  have hhigh :
      code / 4096 % 64 + 128 ≤
        (if code / 262144 % 8 + 240 = 0xF4 then 0x8F else 0xBF : UInt8).toNat := by
    split <;> simp only [UInt8.reduceToNat] <;> omega
  rw [begin_ofNat _ (by omega), if_neg (by omega), if_neg (by omega), if_neg (by omega),
    if_neg (by omega), if_pos (by omega), List.foldl_cons, List.foldl_cons, List.foldl_cons,
    List.foldl_nil, step_more _ _ 1 hlow hhigh,
    step_more _ _ 0 (low_le_tail _) (tail_le_high _),
    step_last _ _ (low_le_tail _) (tail_le_high _), hbits]

/-- The bytes of a character are read as this character. -/
theorem foldl_step_encodeChar
    {decoder : Decoder} (hbetween : decoder.pending = none) (c : Char) :
    (String.utf8EncodeChar c).foldl step decoder = decoder.emit c := by
  have hbegin (b : UInt8) : decoder.step b = decoder.begin b := by
    simp [step, hbetween]
  have hc : Char.ofNat c.val.toNat = c := c.ofNat_toNat
  have hvalid : c.val.toNat < 0xD800 ∨ 0xDFFF < c.val.toNat ∧ c.val.toNat < 0x110000 := c.valid
  rw [String.utf8EncodeChar.eq_def]
  generalize c.val.toNat = code at hc hvalid
  simp only
  split_ifs with hone htwo hthree
  · rw [List.foldl_cons, List.foldl_nil, hbegin, begin_ofNat _ (by omega), if_pos (by omega), hc]
  · rw [List.foldl_cons, hbegin, foldl_step_two (by omega) htwo, hc]
  · rw [List.foldl_cons, hbegin, foldl_step_three (by omega) hthree (by omega), hc]
  · rw [List.foldl_cons, hbegin, foldl_step_four (by omega) (by omega), hc]

theorem foldl_step_encode (decoder : Decoder) (hbetween : decoder.pending = none)
    (text : List Char) :
    (encode text).foldl step decoder = ⟨text.reverse ++ decoder.written, none⟩ := by
  induction text generalizing decoder with
  | nil => simp [encode, ← hbetween]
  | cons c rest ih =>
      have hrest := ih (decoder.emit c) rfl
      rw [encode, List.flatMap_cons, List.foldl_append, foldl_step_encodeChar hbetween, ← encode,
        hrest]
      simp [emit]

end Decoder

theorem decode_encode_append (text : List Char) (back : Bytes) :
    decode (encode text ++ back) = text ++ decode back := by
  have hread : (encode text).foldl Decoder.step {} = Decoder.behind text {} := by
    rw [Decoder.foldl_step_encode _ rfl]
    simp [Decoder.behind]
  rw [decode, List.foldl_append, hread, Decoder.foldl_step_behind, Decoder.finish_behind]
  rfl

theorem decode_encode (text : List Char) : decode (encode text) = text := by
  have htext := decode_encode_append text []
  simpa using htext

theorem encode_decode_of_isSome {bytes : Bytes} (hbytes : (decode? bytes).isSome) :
    encode (decode bytes) = bytes := by
  unfold decode? at hbytes
  simp only at hbytes
  split at hbytes
  next hsame => exact hsame
  next => contradiction

end Utf8

namespace Bytes

variable {source : Bytes} {first second third fourth : Nat}

/-- Whether an offset lies between two characters: the bytes before it are a text. -/
def Boundary (source : Bytes) (offset : Nat) : Prop :=
  offset ≤ source.length ∧ (Utf8.decode? (source.take offset)).isSome

instance (source : Bytes) : DecidablePred source.Boundary :=
  fun offset => inferInstanceAs
    (Decidable (offset ≤ source.length ∧ (Utf8.decode? (source.take offset)).isSome))

/-- Where a character begins, a decoding can be cut in two. -/
theorem Boundary.decode_take
    (hfirst : source.Boundary first) (hle : first ≤ second) :
    Utf8.decode (source.take second) =
      Utf8.decode (source.take first) ++ source.textBetween first second := by
  have hbefore := Utf8.encode_decode_of_isSome hfirst.2
  have hcut : source.take second = source.take first ++ source.slice first second := by
    rw [slice, ← List.take_add, Nat.add_sub_cancel' hle]
  rw [hcut, ← hbefore, Utf8.decode_encode_append, Utf8.decode_encode, textBetween]

/-- The text between two offsets falls apart at a boundary between them. -/
theorem Boundary.textBetween_eq
    (hfirst : source.Boundary first) (hsecond : source.Boundary second) (hle : first ≤ second)
    (hlast : second ≤ third) :
    source.textBetween first third =
      source.textBetween first second ++ source.textBetween second third := by
  have hwhole := hfirst.decode_take (hle.trans hlast)
  rw [hsecond.decode_take hlast, hfirst.decode_take hle, List.append_assoc] at hwhole
  exact (List.append_cancel_left hwhole).symm

/-- Between boundaries, a part of the bytes is a part of the text. -/
theorem Boundary.textBetween_within
    (hfirst : source.Boundary first) (hsecond : source.Boundary second)
    (hthird : source.Boundary third) (hle : first ≤ second) (hspan : second ≤ third)
    (hlast : third ≤ fourth) :
    source.textBetween second third <:+: source.textBetween first fourth := by
  refine ⟨source.textBetween first second, source.textBetween third fourth, ?_⟩
  rw [← hfirst.textBetween_eq hsecond hle hspan,
    ← hfirst.textBetween_eq hthird (hle.trans hspan) hlast]

end Bytes
end SourceOutline

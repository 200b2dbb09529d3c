import SourceOutline.Text.Utf8
import Mathlib.Data.List.Basic

/-!
# Newlines in decoded text

The decoder keeps what it has written apart from the character it is building, so
the bytes that follow are decoded as if the text before them were not there.  The
character it is building is never mistaken for a newline: a byte that continues it
lies at or above `0x80`, which no ASCII byte does, and the bits read so far are
already too many for a newline when it is complete.

Hence an ASCII byte always ends the character before it, malformed or not, and is
written as itself.  Decoding can be cut there.  A newline is written for every
newline byte and for nothing else.
-/

namespace SourceOutline
namespace Utf8

/-- What holds of a character under construction: no ASCII byte continues it, and
with any byte that does its bits are more than those of a newline. -/
structure Partial.Sound (pending : Partial) : Prop where
  low : 0x80 ≤ pending.low.toNat
  bits : 16 ≤ pending.bits * 64 + (pending.low.toNat - 0x80)

namespace Decoder

def Sound (decoder : Decoder) : Prop :=
  ∀ pending ∈ decoder.pending, pending.Sound

theorem sound_empty : Sound {} := by
  intro pending hpending
  contradiction

/-- The decoder when the character under construction is given up. -/
def closed (decoder : Decoder) : Decoder :=
  match decoder.pending with
  | none => decoder
  | some _ => decoder.emit replacement

theorem finish_eq (decoder : Decoder) : decoder.finish = decoder.closed.written.reverse := by
  unfold finish closed
  cases decoder.pending <;> rfl

/-! ## What one byte does -/

/-- A character other than a newline is written, or one is awaited. -/
def GoesOn (decoder next : Decoder) : Prop :=
  (∃ c, c ≠ '\n' ∧ next = decoder.emit c) ∨ ∃ pending, pending.Sound ∧ next = decoder.await pending

theorem begin_ascii (decoder : Decoder) {b : UInt8} (hb : b.toNat < 0x80) :
    decoder.begin b = decoder.emit (Char.ofNat b.toNat) := by
  have hascii : b < 0x80 := UInt8.lt_iff_toNat_lt.mpr hb
  unfold begin
  rw [if_pos hascii]

theorem begin_goesOn (decoder : Decoder) {b : UInt8} (hb : 0x80 ≤ b.toNat) :
    decoder.GoesOn (decoder.begin b) := by
  have hreplaced : decoder.GoesOn (decoder.emit replacement) :=
    .inl ⟨replacement, by decide, rfl⟩
  unfold begin
  simp only [UInt8.lt_iff_toNat_lt, UInt8.reduceToNat]
  rw [if_neg (by omega)]
  split
  · exact hreplaced
  · split
    · exact .inr ⟨_, ⟨by simp, by simp only [UInt8.reduceToNat]; omega⟩, rfl⟩
    · split
      · refine .inr ⟨_, ?_, rfl⟩
        -- This byte brings no bits; the one after it has to bring more than others.
        by_cases hfirst : b = 0xE0
        · subst hfirst
          constructor <;> decide
        · have hnext : b.toNat ≠ 0xE0 := fun h => hfirst (UInt8.toNat_inj.mp h)
          rw [if_neg hfirst]
          exact ⟨by simp, by simp only [UInt8.reduceToNat]; omega⟩
      · split
        · refine .inr ⟨_, ?_, rfl⟩
          by_cases hfirst : b = 0xF0
          · subst hfirst
            constructor <;> decide
          · have hnext : b.toNat ≠ 0xF0 := fun h => hfirst (UInt8.toNat_inj.mp h)
            rw [if_neg hfirst]
            exact ⟨by simp, by simp only [UInt8.reduceToNat]; omega⟩
        · exact hreplaced

theorem step_ascii
    {decoder : Decoder} (hsound : decoder.Sound) {b : UInt8} (hb : b.toNat < 0x80) :
    decoder.step b = decoder.closed.emit (Char.ofNat b.toNat) := by
  unfold step closed
  cases hpending : decoder.pending with
  | none => exact decoder.begin_ascii hb
  | some pending =>
      have hlow := (hsound pending hpending).low
      have hstop : ¬ pending.low ≤ b := by
        rw [UInt8.le_iff_toNat_le]
        omega
      simp only [hstop, decide_false, Bool.false_and, Bool.false_eq_true, if_false]
      exact (decoder.emit replacement).begin_ascii hb

theorem ofNat_eq_newline_iff (code : Nat) : Char.ofNat code = '\n' ↔ code = 0x0A := by
  constructor
  · intro hnewline
    have hvalue := congrArg Char.toNat hnewline
    by_cases hvalid : code.isValidChar
    · rw [Char.ofNat, dif_pos hvalid] at hvalue
      exact hvalue
    · rw [Char.ofNat, dif_neg hvalid] at hvalue
      contradiction
  · rintro rfl
    rfl

/-- A byte that is not ASCII continues a character, or closes it and begins one. -/
theorem step_goesOn
    {decoder : Decoder} (hsound : decoder.Sound) {b : UInt8} (hb : 0x80 ≤ b.toNat) :
    decoder.GoesOn (decoder.step b) ∨ decoder.closed.GoesOn (decoder.step b) := by
  unfold step closed
  cases hpending : decoder.pending with
  | none => exact .inl (decoder.begin_goesOn hb)
  | some pending =>
      obtain ⟨hlow, hbits⟩ := hsound pending hpending
      simp only
      split
      next hinside =>
        simp only [Bool.and_eq_true, decide_eq_true_eq, UInt8.le_iff_toNat_le] at hinside
        -- The byte is not below `low`, so it brings at least the bits of `low`.
        have hmore : 16 ≤ pending.bits * 64 + (b.toNat - 0x80) := by omega
        left
        split
        · refine .inl ⟨_, ?_, rfl⟩
          rw [ne_eq, ofNat_eq_newline_iff]
          omega
        · refine .inr ⟨_, ⟨by simp, ?_⟩, rfl⟩
          simp only [UInt8.reduceToNat]
          omega
      next => exact .inr ((decoder.emit replacement).begin_goesOn hb)

theorem GoesOn.sound {decoder next : Decoder} (hnext : decoder.GoesOn next) : next.Sound := by
  intro pending hpending
  rcases hnext with ⟨c, _, rfl⟩ | ⟨awaited, hawaited, rfl⟩
  · contradiction
  · cases hpending
    exact hawaited

theorem GoesOn.count_newline {decoder next : Decoder} (hnext : decoder.GoesOn next) :
    next.written.count '\n' = decoder.written.count '\n' := by
  rcases hnext with ⟨c, hc, rfl⟩ | ⟨awaited, _, rfl⟩
  · exact List.count_cons_of_ne hc
  · rfl

theorem closed_count_newline (decoder : Decoder) :
    decoder.closed.written.count '\n' = decoder.written.count '\n' := by
  unfold closed
  cases decoder.pending with
  | none => rfl
  | some pending => exact List.count_cons_of_ne (by decide)

theorem step_sound {decoder : Decoder} (hsound : decoder.Sound) (b : UInt8) :
    (decoder.step b).Sound := by
  by_cases hb : b.toNat < 0x80
  · rw [step_ascii hsound hb]
    intro pending hpending
    contradiction
  · rcases step_goesOn hsound (Nat.le_of_not_lt hb) with hnext | hnext
    · exact hnext.sound
    · exact hnext.sound

/-- A newline is read exactly where its byte stands, whatever is malformed around it. -/
theorem step_count_newline {decoder : Decoder} (hsound : decoder.Sound) (b : UInt8) :
    (decoder.step b).written.count '\n' =
      decoder.written.count '\n' + if b = Bytes.newline then 1 else 0 := by
  by_cases hb : b.toNat < 0x80
  · have hsame : b.toNat = 0x0A ↔ b = Bytes.newline := by
      rw [← UInt8.toNat_inj]
      rfl
    rw [step_ascii hsound hb]
    simp only [emit, List.count_cons, closed_count_newline, beq_iff_eq, ofNat_eq_newline_iff,
      hsame]
  · have hother : b ≠ Bytes.newline := by
      rintro rfl
      exact hb (by decide)
    rw [if_neg hother, Nat.add_zero]
    rcases step_goesOn hsound (Nat.le_of_not_lt hb) with hnext | hnext
    · exact hnext.count_newline
    · exact hnext.count_newline.trans decoder.closed_count_newline

/-! ## Runs of bytes -/

theorem foldl_step_sound {decoder : Decoder} (hsound : decoder.Sound) (bytes : Bytes) :
    (bytes.foldl step decoder).Sound := by
  induction bytes generalizing decoder with
  | nil => exact hsound
  | cons b rest ih => exact ih (step_sound hsound b)

theorem foldl_step_count_newline {decoder : Decoder} (hsound : decoder.Sound) (bytes : Bytes) :
    (bytes.foldl step decoder).written.count '\n' =
      decoder.written.count '\n' + bytes.count Bytes.newline := by
  induction bytes generalizing decoder with
  | nil => rfl
  | cons b rest ih =>
      rw [List.foldl_cons, ih (step_sound hsound b), step_count_newline hsound, List.count_cons]
      simp only [beq_iff_eq]
      omega

def behind (text : List Char) (decoder : Decoder) : Decoder :=
  { decoder with written := decoder.written ++ text.reverse }

theorem begin_behind (text : List Char) (decoder : Decoder) (b : UInt8) :
    (decoder.behind text).begin b = (decoder.begin b).behind text := by
  unfold begin
  repeat' split
  all_goals rfl

theorem step_behind (text : List Char) (decoder : Decoder) (b : UInt8) :
    (decoder.behind text).step b = (decoder.step b).behind text := by
  obtain ⟨written, pending⟩ := decoder
  cases pending with
  | none => exact begin_behind text _ b
  | some pending =>
      simp only [step, behind]
      split
      · split <;> rfl
      · exact begin_behind text (emit ⟨written, some pending⟩ replacement) b

/-- What was read before changes nothing about what is read next. -/
theorem foldl_step_behind (text : List Char) (decoder : Decoder) (bytes : Bytes) :
    bytes.foldl step (decoder.behind text) = (bytes.foldl step decoder).behind text := by
  induction bytes generalizing decoder with
  | nil => rfl
  | cons b rest ih => rw [List.foldl_cons, step_behind, ih, List.foldl_cons]

theorem finish_behind (text : List Char) (decoder : Decoder) :
    (decoder.behind text).finish = text ++ decoder.finish := by
  obtain ⟨written, pending⟩ := decoder
  cases pending <;> simp [finish, behind]

end Decoder

/-! ## Whole texts -/

@[simp] theorem decode_nil : decode [] = [] := rfl

/-- An ASCII byte is always a boundary. -/
theorem decode_append_ascii (front : Bytes) {b : UInt8} (hb : b.toNat < 0x80) (back : Bytes) :
    decode (front ++ b :: back) = decode front ++ Char.ofNat b.toNat :: decode back := by
  have hsound : (front.foldl Decoder.step {}).Sound :=
    Decoder.foldl_step_sound Decoder.sound_empty front
  have hstep :
      (front.foldl Decoder.step {}).step b =
        Decoder.behind (decode front ++ [Char.ofNat b.toNat]) {} := by
    rw [Decoder.step_ascii hsound hb, decode, Decoder.finish_eq]
    simp [Decoder.behind, Decoder.emit]
  rw [decode, List.foldl_append, List.foldl_cons, hstep, Decoder.foldl_step_behind,
    Decoder.finish_behind, List.append_assoc]
  rfl

theorem decode_append_newline (front back : Bytes) :
    decode (front ++ Bytes.newline :: back) = decode front ++ '\n' :: decode back :=
  decode_append_ascii front (by decide) back

theorem count_newline_decode (bytes : Bytes) :
    (decode bytes).count '\n' = bytes.count Bytes.newline := by
  have hcount := Decoder.foldl_step_count_newline Decoder.sound_empty bytes
  rw [decode, Decoder.finish_eq, List.count_reverse, Decoder.closed_count_newline, hcount]
  simp

end Utf8
end SourceOutline

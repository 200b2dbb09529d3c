import SourceOutline.Comment.Scan
import Mathlib.Data.List.Basic

/-!
# How far strings and comments go

A string is read byte by byte, but for a backslash, which is read together with the
byte behind it.  A block comment goes to its first closing mark and a line comment to
the end of its line.
-/

namespace SourceOutline
namespace Comment
namespace Scan

/-- Bytes as a string reads them: a backslash goes with the byte behind it. -/
theorem stringInduction
    {motive : Bytes → Prop} (nil : motive [])
    (plain : ∀ b rest, b ≠ backslash → motive rest → motive (b :: rest))
    (loneBackslash : motive [backslash])
    (escape : ∀ c rest, motive rest → motive (backslash :: c :: rest)) :
    ∀ bytes, motive bytes
  | [] => nil
  | [b] => if hb : b = backslash then hb ▸ loneBackslash else plain b [] hb nil
  | b :: c :: rest =>
      if hb : b = backslash then
        hb ▸ escape c rest (stringInduction nil plain loneBackslash escape rest)
      else plain b (c :: rest) hb (stringInduction nil plain loneBackslash escape (c :: rest))

theorem quotedReach_plain
    {b : UInt8} (hb : b ≠ backslash) (quote : UInt8) (passed : Nat) (rest : Bytes) :
    quotedReach quote passed (b :: rest) =
      if b = quote then passed + 1
      else if b = Bytes.newline then passed
      else quotedReach quote (passed + 1) rest := by
  cases rest <;> simp [quotedReach, hb]

/-- A backslash takes the next byte with it, but for a newline: that one ends the string. -/
theorem quotedReach_escape (quote c : UInt8) (passed : Nat) (rest : Bytes) :
    quotedReach quote passed (backslash :: c :: rest) =
      if c = Bytes.newline then (if backslash = quote then passed + 1 else passed)
      else quotedReach quote (passed + 2) rest := by
  by_cases hc : c = Bytes.newline <;> simp [quotedReach, hc]

theorem quotedReach_loneBackslash (quote : UInt8) (passed : Nat) :
    quotedReach quote passed [backslash] = if backslash = quote then passed + 1 else passed := by
  simp [quotedReach]

theorem backtickReach?_plain
    {b : UInt8} (hb : b ≠ backslash) (passed : Nat) (rest : Bytes) :
    backtickReach? passed (b :: rest) =
      if b = backtick then some (passed + 1) else backtickReach? (passed + 1) rest := by
  rw [backtickReach?.eq_def]
  simp [hb]

/-- Between back-ticks a backslash takes any byte with it. -/
theorem backtickReach?_escape (c : UInt8) (passed : Nat) (rest : Bytes) :
    backtickReach? passed (backslash :: c :: rest) = backtickReach? (passed + 2) rest := by
  rw [backtickReach?.eq_def]
  simp [backslash, backtick]

theorem backtickReach?_loneBackslash (passed : Nat) :
    backtickReach? passed [backslash] = none := by
  rw [backtickReach?.eq_def]
  simp [backslash, backtick]

/-- Before its end nothing but the content can hold a closer. -/
theorem reach_append
    {closer content : Bytes}
    (hfirst : ∀ index < content.length, ¬ closer <+: (content ++ closer).drop index)
    (passed : Nat) (rest : Bytes) :
    reach closer passed (content ++ closer ++ rest) =
      passed + content.length + closer.length := by
  induction content generalizing passed with
  | nil =>
      have hcloser : closer.isPrefixOf (closer ++ rest) := by simp
      rw [List.nil_append, List.length_nil, Nat.add_zero]
      cases hbytes : closer ++ rest with
      | nil => simp_all [reach]
      | cons b others =>
          rw [hbytes] at hcloser
          rw [reach, if_pos hcloser]
  | cons b content ih =>
      have hinside : closer.length ≤ (b :: content ++ closer).length := by
        rw [List.length_append]
        omega
      have hother : ¬ closer.isPrefixOf (b :: (content ++ closer ++ rest)) := by
        intro hcloser
        rw [ List.isPrefixOf_iff_prefix] at hcloser
        refine hfirst 0 (by simp) ?_
        exact List.prefix_of_prefix_length_le hcloser ⟨rest, by simp⟩ hinside
      have hothers : ∀ index < content.length, ¬ closer <+: (content ++ closer).drop index := by
        intro index hindex
        exact hfirst (index + 1) (by simpa using hindex)
      rw [List.cons_append, List.cons_append, reach, if_neg hother, ih hothers, List.length_cons]
      omega

theorem lineReach_append
    {content rest : Bytes}
    (hcontent : ∀ b ∈ content, b ≠ Bytes.newline ∧ b ≠ carriageReturn)
    (hrest : ∀ b ∈ rest.head?, b = Bytes.newline ∨ b = carriageReturn) (passed : Nat) :
    lineReach passed (content ++ rest) = passed + content.length := by
  induction content generalizing passed with
  | nil =>
      cases rest with
      | nil => rfl
      | cons b rest =>
          have hstop := hrest b rfl
          simp [lineReach, hstop]
  | cons b content ih =>
      have hb := hcontent b List.mem_cons_self
      have hothers := ih (fun c hc => hcontent c (List.mem_cons_of_mem b hc)) (passed + 1)
      rw [List.cons_append, lineReach, if_neg (by simp [hb]), hothers, List.length_cons]
      omega

end Scan
end Comment
end SourceOutline

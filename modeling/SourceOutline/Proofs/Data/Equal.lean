import SourceOutline.Data.Value

/-!
# Whether two values are equal

Lists are compared item by item and mappings entry by entry, in the order in which they
were written.
-/

namespace SourceOutline
namespace Value

mutual
def beq : Value → Value → Bool
  | .null, .null => true
  | .bool a, .bool b => a == b
  | .int a, .int b => a == b
  | .real a, .real b => a == b
  | .text a, .text b => a == b
  | .list a, .list b => beqItems a b
  | .map a, .map b => beqEntries a b
  | .other a, .other b => a == b
  | _, _ => false

def beqItems : List Value → List Value → Bool
  | [], [] => true
  | a :: rest, b :: others => a.beq b && beqItems rest others
  | _, _ => false

def beqEntries : List (Key × Value) → List (Key × Value) → Bool
  | [], [] => true
  | (first, a) :: rest, (second, b) :: others => first == second && a.beq b && beqEntries rest others
  | _, _ => false
end

mutual
theorem beq_iff (a b : Value) : a.beq b = true ↔ a = b := by
  match a with
  | .list items =>
      cases b with
      | list others => rw [beq, beqItems_iff items others, list.injEq]
      | _ => simp [beq]
  | .map entries =>
      cases b with
      | map others => rw [beq, beqEntries_iff entries others, map.injEq]
      | _ => simp [beq]
  | .null | .bool _ | .int _ | .real _ | .text _ | .other _ => cases b <;> simp [beq]

theorem beqItems_iff (items others : List Value) : beqItems items others = true ↔ items = others := by
  match items, others with
  | [], [] => simp [beqItems]
  | [], _ :: _ => simp [beqItems]
  | _ :: _, [] => simp [beqItems]
  | a :: rest, b :: others => simp [beqItems, beq_iff a b, beqItems_iff rest others]

theorem beqEntries_iff (entries others : List (Key × Value)) :
    beqEntries entries others = true ↔ entries = others := by
  match entries, others with
  | [], [] => simp [beqEntries]
  | [], _ :: _ => simp [beqEntries]
  | _ :: _, [] => simp [beqEntries]
  | (first, a) :: rest, (second, b) :: others =>
      simp [beqEntries, beq_iff a b, beqEntries_iff rest others]
end

instance : DecidableEq Value :=
  fun a b => decidable_of_iff (a.beq b = true) (beq_iff a b)

end Value
end SourceOutline

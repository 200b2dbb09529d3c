/-!
# Totals

The total of a list of counts.
-/

namespace SourceOutline

def total : List Nat → Nat
  | [] => 0
  | n :: rest => n + total rest

@[simp] theorem total_nil : total [] = 0 := rfl

@[simp] theorem total_cons (n : Nat) (rest : List Nat) : total (n :: rest) = n + total rest := rfl

theorem total_append (front back : List Nat) :
    total (front ++ back) = total front + total back := by
  induction front with
  | nil => simp
  | cons n rest ih =>
      simp only [List.cons_append, total_cons, ih]
      omega

end SourceOutline

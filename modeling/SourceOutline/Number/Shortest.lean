import SourceOutline.Number.Binary64

/-!
# Writing floating-point numbers

A double is written with the fewest decimal digits that read back as the same
double; where two such decimals have equally few digits the nearer one is taken.
Numbers from one ten-thousandth up to ten to the sixteenth are written with a
decimal point, the others with an exponent of at least two digits.
-/

namespace SourceOutline
namespace Binary64

/-- A decimal `digits * 10 ^ exponent`. -/
structure Decimal where
  digits : Nat
  exponent : Int
  deriving DecidableEq, Repr

def tenth (num den : Nat) (power : Int) : Nat × Nat :=
  if 0 ≤ power then (num, den * Nat.pow 10 power.toNat) else (num * Nat.pow 10 (-power).toNat, den)

/-- The power of ten of the leading digit of a positive fraction. -/
def leadingPower (num den : Nat) : Int :=
  let guess : Int := digitCount num - digitCount den
  let (n, d) := tenth num den guess
  if n < d then guess - 1 else guess

/-- The decimals of `count` digits next to a positive fraction, the nearer first. -/
def neighbours (num den : Nat) (count : Nat) : List Decimal :=
  let power := leadingPower num den - count + 1
  let (n, d) := tenth num den power
  let below : Decimal := ⟨n / d, power⟩
  let above : Decimal := ⟨n / d + 1, power⟩
  let twice := 2 * (n % d)
  if twice < d then [below, above]
  else if d < twice then [above, below]
  else if n / d % 2 = 0 then [below, above]
  else [above, below]

/-- The shortest decimal that reads back as a positive double. -/
def shortest (significand : Nat) (exponent : Int) : Decimal :=
  let (num, den) := scaled significand 1 (-exponent)
  let readsBack (decimal : Decimal) : Bool :=
    ofDecimal false decimal.digits decimal.exponent == .finite false significand exponent
  let choice := (List.range 17).findSome? fun fewer =>
    (neighbours num den (fewer + 1)).find? readsBack
  choice.getD ⟨num / den, 0⟩

/-- Moves trailing zeros of the digits, at most `steps` of them, into the exponent. -/
def Decimal.stripZeros (steps : Nat) (decimal : Decimal) : Decimal :=
  match steps with
  | 0 => decimal
  | steps + 1 =>
      if decimal.digits ≠ 0 ∧ decimal.digits % 10 = 0 then
        stripZeros steps ⟨decimal.digits / 10, decimal.exponent + 1⟩
      else decimal

/-- Writes an exponent with its sign and at least two digits. -/
def exponentText (power : Int) : String :=
  let digits := toString power.natAbs
  (if power < 0 then "e-" else "e+") ++ (if digits.length < 2 then "0" ++ digits else digits)

/-- Writes digits whose first one stands for `10 ^ power`. -/
def Decimal.layOut (digits : List Char) (power : Int) : String :=
  if -4 ≤ power ∧ power < 16 then
    if power < 0 then
      "0." ++ String.ofList (List.replicate (-power - 1).toNat '0' ++ digits)
    else
      let whole := power.toNat + 1
      let padded := digits ++ List.replicate (whole - digits.length) '0'
      let fraction := padded.drop whole
      String.ofList (padded.take whole) ++ "." ++
        (if fraction.isEmpty then "0" else String.ofList fraction)
  else
    match digits with
    | [] => ""
    | first :: [] => String.singleton first ++ exponentText power
    | first :: rest => String.ofList (first :: '.' :: rest) ++ exponentText power

def Decimal.text (decimal : Decimal) : String :=
  let decimal := decimal.stripZeros 20
  let digits := Nat.toDigits 10 decimal.digits
  layOut digits (decimal.exponent + digits.length - 1)

def text : Binary64 → String
  | .notANumber => "nan"
  | .infinite negative => if negative then "-inf" else "inf"
  | .finite negative significand exponent =>
      (if negative then "-" else "") ++
        (if significand = 0 then "0.0" else (shortest significand exponent).text)

end Binary64
end SourceOutline

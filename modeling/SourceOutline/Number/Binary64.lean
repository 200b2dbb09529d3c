/-!
# Floating-point numbers

A number with a fraction is held in double precision: a sign, a significand of
at most 53 bits and a power of two.  Everything here is exact arithmetic on
natural numbers, so that reading and writing decimals can be reasoned about.

`ofDecimal` is correctly rounded: it gives the double nearest to the decimal,
and of two that are equally near the one with an even significand.
-/

namespace SourceOutline

/-- A double.  A finite one is `significand * 2 ^ exponent`, where the exponent
is as small as the format allows. -/
inductive Binary64 where
  | finite (negative : Bool) (significand : Nat) (exponent : Int)
  | infinite (negative : Bool)
  | notANumber
  deriving DecidableEq, Repr

namespace Binary64

def leastExponent : Int := -1074

def greatestExponent : Int := 971

def zero (negative : Bool) : Binary64 :=
  .finite negative 0 leastExponent

/-- The quotient to the nearest natural number, a half going to the even one. -/
def roundDiv (num den : Nat) : Nat :=
  let quotient := num / den
  let twice := 2 * (num % den)
  if twice < den then quotient
  else if den < twice then quotient + 1
  else quotient + quotient % 2

/-- `num / den * 2 ^ (-exponent)` as a fraction. -/
def scaled (num den : Nat) (exponent : Int) : Nat × Nat :=
  if 0 ≤ exponent then (num, den * Nat.pow 2 exponent.toNat)
  else (num * Nat.pow 2 (-exponent).toNat, den)

/-- The double nearest to a positive fraction. -/
def ofFraction (negative : Bool) (num den : Nat) : Binary64 :=
  let guess := max leastExponent ((num.log2 : Int) - den.log2 - 53)
  let (n, d) := scaled num den guess
  let exponent := if Nat.pow 2 53 ≤ n / d then guess + 1 else guess
  let (n, d) := scaled num den exponent
  let rounded := roundDiv n d
  let (significand, exponent) :=
    if rounded = Nat.pow 2 53 then (Nat.pow 2 52, exponent + 1) else (rounded, exponent)
  if greatestExponent < exponent then .infinite negative
  else .finite negative significand exponent

/-- The double nearest to a natural number times a power of two. -/
def ofScaled (negative : Bool) (significand : Nat) (exponent : Int) : Binary64 :=
  if significand = 0 then zero negative
  else
    let (num, den) := scaled significand 1 (-exponent)
    ofFraction negative num den

def negate : Binary64 → Binary64
  | .finite negative significand exponent => .finite (!negative) significand exponent
  | .infinite negative => .infinite (!negative)
  | .notANumber => .notANumber

/-- A significand as a signed multiple of a finer unit. -/
def units (negative : Bool) (significand : Nat) (finer : Nat) : Int :=
  let magnitude : Int := (significand * Nat.pow 2 finer : Nat)
  if negative then -magnitude else magnitude

def add (x y : Binary64) : Binary64 :=
  match x, y with
  | .notANumber, _ => .notANumber
  | _, .notANumber => .notANumber
  | .infinite a, .infinite b => if a = b then .infinite a else .notANumber
  | .infinite a, _ => .infinite a
  | _, .infinite b => .infinite b
  | .finite a m p, .finite b n q =>
      let unit := min p q
      let sum := units a m (p - unit).toNat + units b n (q - unit).toNat
      ofScaled (if sum = 0 then a && b else sum < 0) sum.natAbs unit

def scale (x : Binary64) (factor : Nat) : Binary64 :=
  match x with
  | .finite negative significand exponent => ofScaled negative (significand * factor) exponent
  | _ => x

def digitCount (n : Nat) : Nat :=
  (Nat.toDigits 10 n).length

/-- The double nearest to `digits * 10 ^ exponent`.  Decimals far out of range
are recognised by their size alone. -/
def ofDecimal (negative : Bool) (digits : Nat) (exponent : Int) : Binary64 :=
  let size : Int := digitCount digits + exponent
  if digits = 0 || size < -330 then zero negative
  else if 310 < size then .infinite negative
  else if 0 ≤ exponent then ofFraction negative (digits * Nat.pow 10 exponent.toNat) 1
  else ofFraction negative digits (Nat.pow 10 (-exponent).toNat)

/-- The integer that a double is, if it is one. -/
def toInt? : Binary64 → Option Int
  | .finite negative significand exponent =>
      let (num, den) := scaled significand 1 (-exponent)
      if num % den = 0 then
        let magnitude : Int := (num / den : Nat)
        some (if negative then -magnitude else magnitude)
      else none
  | _ => none

end Binary64
end SourceOutline

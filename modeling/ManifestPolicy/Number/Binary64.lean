/-!
# Binary floating-point numbers

The numbers of the 64-bit binary format: a sign, a significand of at most 53 bits and a power of
two, the two infinities, and the value that is no number. A finite number is kept in the one
form in which the significand has 53 bits or the exponent is the least one. Arithmetic is exact
and then rounded once, to the nearest number and to the even one of two that are equally near.
-/

namespace ManifestPolicy

/-- A number of the 64-bit binary format. -/
inductive Binary64 where
  | nan
  | infinite (negative : Bool)
  /-- The number `significand * 2 ^ exponent`, with its sign. -/
  | finite (negative : Bool) (significand : Nat) (exponent : Int)
deriving Repr, DecidableEq, Inhabited

namespace Binary64

/-- The least exponent; numbers below `2 ^ 52` times it have fewer bits. -/
def minExponent : Int := -1074

/-- The greatest exponent of a finite number. -/
def maxExponent : Int := 971

/-- A fraction scaled by a power of two, as numerator and denominator. -/
def scale (num den : Nat) (e : Int) : Nat × Nat :=
  if 0 ≤ e then (num * Nat.pow 2 e.toNat, den) else (num, den * Nat.pow 2 (-e).toNat)

/-- The integer nearest to a fraction, the even one of two that are equally near. -/
def roundHalfEven (num den : Nat) : Nat :=
  let q := num / den
  let r := num % den
  if 2 * r < den then q else if den < 2 * r then q + 1 else if q % 2 = 0 then q else q + 1

/-- The greatest `e` with `2 ^ e` at most the positive fraction. -/
def binaryOrder (num den : Nat) : Int :=
  let guess : Int := (Nat.log2 num : Int) - (Nat.log2 den : Int)
  let (n, d) := scale num den (-guess)
  if d ≤ n then guess else guess - 1

/-- The number nearest to the fraction with the sign. -/
def ofFraction (negative : Bool) (num den : Nat) : Binary64 :=
  if num = 0 then .finite negative 0 minExponent
  else
    let e := max (binaryOrder num den - 52) minExponent
    let (n, d) := scale num den (-e)
    let m := roundHalfEven n d
    let (m, e) := if m = Nat.pow 2 53 then (Nat.pow 2 52, e + 1) else (m, e)
    if maxExponent < e then .infinite negative else .finite negative m e

/-- The number nearest to `digits * 10 ^ exponent` with the sign. An exponent far outside the
format's range gives zero or infinity without the power being computed. -/
def ofDecimal (negative : Bool) (digits : Nat) (exponent : Int) : Binary64 :=
  if digits = 0 then .finite negative 0 minExponent
  else
    let order : Int := (Nat.log2 digits : Int) * 3 / 10 + exponent
    if 400 < order then .infinite negative
    else if order < -500 then .finite negative 0 minExponent
    else if 0 ≤ exponent then ofFraction negative (digits * Nat.pow 10 exponent.toNat) 1
    else ofFraction negative digits (Nat.pow 10 (-exponent).toNat)

/-- The number nearest to an integer. -/
def ofInt (n : Int) : Binary64 := ofFraction (n < 0) n.natAbs 1

/-- Positive zero. -/
def zero : Binary64 := .finite false 0 minExponent

/-- The number one. -/
def one : Binary64 := .finite false (Nat.pow 2 52) (-52)

/-- The number with the other sign. -/
def neg : Binary64 → Binary64
  | .nan => .nan
  | .infinite s => .infinite (!s)
  | .finite s m e => .finite (!s) m e

/-- The numerator of `± m * 2 ^ e` over the common denominator `2 ^ 1074`. -/
def unitsOf (s : Bool) (m : Nat) (e : Int) : Int :=
  let n : Int := m * Int.pow 2 (e + 1074).toNat
  if s then -n else n

/-- The sum. -/
def add : Binary64 → Binary64 → Binary64
  | .nan, _ => .nan
  | _, .nan => .nan
  | .infinite s, .infinite t => if s = t then .infinite s else .nan
  | .infinite s, .finite .. => .infinite s
  | .finite .., .infinite t => .infinite t
  | .finite s m e, .finite t k f =>
    let n := unitsOf s m e + unitsOf t k f
    if n = 0 then .finite (s && t) 0 minExponent
    else ofFraction (n < 0) n.natAbs (Nat.pow 2 1074)

/-- The product. -/
def mul : Binary64 → Binary64 → Binary64
  | .nan, _ => .nan
  | _, .nan => .nan
  | .infinite s, .infinite t => .infinite (s != t)
  | .infinite s, .finite t k _ => if k = 0 then .nan else .infinite (s != t)
  | .finite s m _, .infinite t => if m = 0 then .nan else .infinite (s != t)
  | .finite s m e, .finite t k f =>
    let (n, d) := scale (m * k) 1 (e + f)
    ofFraction (s != t) n d

/-- Whether the first number is less than the second; no comparison with `nan` holds. -/
def lt : Binary64 → Binary64 → Bool
  | .nan, _ => false
  | _, .nan => false
  | .infinite s, .infinite t => s && !t
  | .infinite s, .finite .. => s
  | .finite .., .infinite t => !t
  | .finite s m e, .finite t k f => unitsOf s m e < unitsOf t k f

/-- Whether the two numbers have the same value: the zeros are equal, and `nan` equals none. -/
def eqv : Binary64 → Binary64 → Bool
  | .nan, _ => false
  | _, .nan => false
  | .infinite s, .infinite t => s == t
  | .finite s m e, .finite t k f => unitsOf s m e = unitsOf t k f
  | _, _ => false

/-- Whether the first number is less than the second or has the same value. -/
def le (x y : Binary64) : Bool := lt x y || eqv x y

/-- The integer that the number equals, if it is one. -/
def toInt? : Binary64 → Option Int
  | .finite s m e =>
    if 0 ≤ e then
      let n : Int := m * Int.pow 2 e.toNat
      some (if s then -n else n)
    else
      let d := Nat.pow 2 (-e).toNat
      if m % d = 0 then
        let n : Int := (m / d : Nat)
        some (if s then -n else n)
      else none
  | _ => none

example : ofInt 1 = one := by decide
example : ofDecimal false 1 400 = .infinite false := by decide +kernel
example : add (ofDecimal false 1 (-1)) (ofDecimal false 2 (-1)) ≠ ofDecimal false 3 (-1) := by
  decide +kernel

end Binary64

end ManifestPolicy

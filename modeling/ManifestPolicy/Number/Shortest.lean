import ManifestPolicy.Number.Binary64

/-!
# The shortest decimal of a binary number

A finite number is written with the fewest digits that read back as it. Every real number in
the interval around it reads back, the ends included when the significand is even; for one,
two, … digits the two neighbours of the number on that decimal grid are tried, and the first
grid with a neighbour in the interval gives the digits. Seventeen digits always suffice.
-/

namespace ManifestPolicy

namespace Shortest

/-- A positive fraction. -/
structure Fraction where
  num : Nat
  den : Nat
deriving Repr, DecidableEq

/-- Whether the first fraction is at most the second. -/
def Fraction.le (a b : Fraction) : Bool := a.num * b.den ≤ b.num * a.den

/-- Whether the first fraction is less than the second. -/
def Fraction.lt (a b : Fraction) : Bool := a.num * b.den < b.num * a.den

/-- The fraction `n * 2 ^ e`. -/
def binary (n : Nat) (e : Int) : Fraction :=
  if 0 ≤ e then ⟨n * Nat.pow 2 e.toNat, 1⟩ else ⟨n, Nat.pow 2 (-e).toNat⟩

/-- The fraction `n * 10 ^ e`. -/
def decimal (n : Nat) (e : Int) : Fraction :=
  if 0 ≤ e then ⟨n * Nat.pow 10 e.toNat, 1⟩ else ⟨n, Nat.pow 10 (-e).toNat⟩

/-- The reals that read back as `m * 2 ^ e`: the gap below a power of two is half as wide. -/
structure Interval where
  low : Fraction
  high : Fraction
  closed : Bool

/-- The interval of a finite number. -/
def interval (m : Nat) (e : Int) : Interval :=
  { low := if m = Nat.pow 2 52 ∧ Binary64.minExponent < e then binary (4 * m - 1) (e - 2)
           else binary (4 * m - 2) (e - 2)
    high := binary (4 * m + 2) (e - 2)
    closed := m % 2 = 0 }

/-- Whether the fraction lies in the interval. -/
def Interval.has (i : Interval) (x : Fraction) : Bool :=
  if i.closed then i.low.le x && x.le i.high else i.low.lt x && x.lt i.high

/-- The `k` with `10 ^ (k - 1) ≤ x < 10 ^ k`, found from a guess by so many steps. -/
def order (x : Fraction) : Nat → Int → Int
  | 0, k => k
  | fuel + 1, k =>
    if (decimal 1 k).le x then order x fuel (k + 1)
    else if x.lt (decimal 1 (k - 1)) then order x fuel (k - 1)
    else k

/-- The neighbour of `x` on the grid `10 ^ g` that lies in the interval, the nearer of two and
the even one of two that are equally near. -/
def neighbour (i : Interval) (x : Fraction) (g : Int) : Option Nat :=
  let unit := decimal 1 g
  let below := x.num * unit.den / (x.den * unit.num)
  let lowFits := i.has (decimal below g)
  let highFits := i.has (decimal (below + 1) g)
  if lowFits && highFits then
    -- twice the remainder against the grid's step
    let rest := 2 * (x.num * unit.den % (x.den * unit.num))
    let step := x.den * unit.num
    some (if rest < step then below
      else if step < rest then below + 1
      else if below % 2 = 0 then below else below + 1)
  else if lowFits then some below
  else if highFits then some (below + 1)
  else none

/-- Tries the grids from the coarsest on. -/
def search (i : Interval) (x : Fraction) (k : Int) : List Nat → Nat × Int
  | [] => (0, 0)
  | n :: more =>
    let g := k - n
    match neighbour i x g with
    | some d => (d, g)
    | none => search i x k more

/-- The number without its trailing zeros, and the exponent raised by as many. -/
def dropZeros : Nat → Nat → Int → Nat × Int
  | 0, d, g => (d, g)
  | fuel + 1, d, g => if d ≠ 0 ∧ d % 10 = 0 then dropZeros fuel (d / 10) (g + 1) else (d, g)

/-- The shortest decimal `d * 10 ^ g` that reads back as the positive number `m * 2 ^ e`. -/
def digits (m : Nat) (e : Int) : Nat × Int :=
  let x := binary m e
  let guess := ((Nat.log2 m : Int) + e) * 1233 / 4096 + 1
  let k := order x 4 guess
  let (d, g) := search (interval m e) x k ((List.range 17).map (· + 1))
  dropZeros 18 d g

/-- How a decimal is laid out as text. -/
structure Layout where
  /-- Positional notation is used from this power of ten on … -/
  positionalFrom : Int
  /-- … and below this one. -/
  positionalBelow : Int
  infinity : String
  nan : String

/-- Notation with an exponent below `10 ^ -4` and from `10 ^ 16` on. -/
def plain : Layout := ⟨-4, 16, "inf", "nan"⟩

/-- The same notation with the names that JSON readers know. -/
def json : Layout := ⟨-4, 16, "Infinity", "NaN"⟩

/-- Lays out `d * 10 ^ g`, `d` being positive: at least one digit stands after a point, and an
exponent has a sign and at least two digits. -/
def layOut (l : Layout) (d : Nat) (g : Int) : String :=
  let ds := (toString d).toList
  let point : Int := ds.length + g
  if l.positionalFrom < point ∧ point ≤ l.positionalBelow then
    if point ≤ 0 then
      "0." ++ String.ofList (List.replicate (-point).toNat '0' ++ ds)
    else if ds.length ≤ point.toNat then
      String.ofList (ds ++ List.replicate (point.toNat - ds.length) '0') ++ ".0"
    else
      String.ofList (ds.take point.toNat ++ '.' :: ds.drop point.toNat)
  else
    let head := match ds with
      | [c] => String.ofList [c]
      | c :: cs => String.ofList (c :: '.' :: cs)
      | [] => ""
    let e := point - 1
    let size := toString e.natAbs
    head ++ (if e < 0 then "e-" else "e+") ++ (if size.length < 2 then "0" ++ size else size)

end Shortest

/-- The shortest text that reads back as the number. -/
def Binary64.write (l : Shortest.Layout) : Binary64 → String
  | .nan => l.nan
  | .infinite negative => if negative then "-" ++ l.infinity else l.infinity
  | .finite negative m e =>
    let body :=
      if m = 0 then "0.0"
      else
        let (d, g) := Shortest.digits m e
        Shortest.layOut l d g
    if negative then "-" ++ body else body

example : Binary64.one.write Shortest.plain = "1.0" := by decide +kernel
example : (Binary64.finite false 1 (-1074)).write Shortest.plain = "5e-324" := by decide +kernel
example : (Binary64.ofDecimal false 1 16).write Shortest.plain = "1e+16" := by decide +kernel

end ManifestPolicy

import Placard.Number.Double

/-! The decimal text of a double. The digits are the fewest that read back as the same number and,
of those, the nearest to it; a layout says where the point goes and when an exponent is written. -/
namespace Placard.Double

/-- Is `n * 10 ^ p` in the interval of reals that round to the double? All quantities count quarters
of the last binary place, `p` is `up - down`. -/
structure Interval where
  low : Nat
  value : Nat
  high : Nat
  closed : Bool
  /-- `value` stands for `value * num / den`. -/
  num : Nat
  den : Nat

def interval (d : Double) : Interval :=
  let m := d.significand
  let lower := if d.fractionField = 0 && d.exponentField > 1 then 4 * m - 1 else 4 * m - 2
  ⟨lower, 4 * m, 4 * m + 2, m % 2 = 0, Nat.pow 2 d.scale, Nat.pow 2 1076⟩

def Interval.holds (i : Interval) (num den : Nat) : Bool :=
  let x := num * i.den
  let low := i.low * i.num * den
  let high := i.high * i.num * den
  if i.closed then low ≤ x && x ≤ high else low < x && x < high

/-- The power of ten of a grid, as a ratio. -/
def gridRatio (p : Int) : Nat × Nat :=
  if p ≥ 0 then (Nat.pow 10 p.toNat, 1) else (1, Nat.pow 10 (-p).toNat)

/-- The value's neighbour on the grid `10 ^ p` that reads back, the nearer if both do. -/
def Interval.neighbour? (i : Interval) (p : Int) : Option Nat :=
  let (num, den) := gridRatio p
  let x := i.value * i.num * den
  let unit := num * i.den
  let below := x / unit
  let above := below + 1
  let hitBelow := below != 0 && i.holds (below * num) den
  let hitAbove := i.holds (above * num) den
  let r := x % unit
  if hitBelow && hitAbove then
    some (if 2 * r < unit || (2 * r == unit && below % 2 == 0) then below else above)
  else if hitBelow then some below
  else if hitAbove then some above
  else none

/-- Grids from coarse to fine; seventeen digits always suffice. -/
def Interval.search (i : Interval) (p : Int) : Nat → Nat × Int
  | 0 => (0, 0)
  | fuel + 1 =>
    match i.neighbour? p with
    | some n => (n, p)
    | none => i.search (p - 1) fuel

def digitCount (n : Nat) : Nat := (Nat.toDigits 10 n).length

/-- Fewest digits and their power of ten, for a finite value other than zero. -/
def shortest (d : Double) : Nat × Int :=
  let i := d.interval
  let num := i.value * i.num
  let top : Int := if num ≥ i.den then digitCount (num / i.den) else 1 - digitCount (i.den / num)
  i.search top 20

/-- How numbers are laid out. -/
structure Layout where
  /-- The powers of ten of the first digit that are written without an exponent. -/
  positional : Int → Bool
  /-- Is `.0` kept after a whole number? -/
  keepsPoint : Bool

def zeros (n : Nat) : String := String.ofList (List.replicate n '0')

def signed (negative : Bool) (s : String) : String := if negative then "-" ++ s else s

/-- `digits * 10 ^ p` without an exponent. -/
def positionalText (keepsPoint : Bool) (digits : String) (p : Int) : String :=
  if p ≥ 0 then digits ++ zeros p.toNat ++ (if keepsPoint then ".0" else "")
  else
    let places := (-p).toNat
    if digits.length > places then
      String.ofList (digits.toList.take (digits.length - places)) ++ "." ++
        String.ofList (digits.toList.drop (digits.length - places))
    else "0." ++ zeros (places - digits.length) ++ digits

def exponentText (digits : String) (p : Int) : String :=
  let e := p + (digits.length - 1 : Nat)
  let tail := digits.toList.drop 1
  String.ofList (digits.toList.take 1) ++
    (if tail.isEmpty then "" else "." ++ String.ofList tail) ++
    (if e < 0 then "e-" else "e+") ++ toString e.natAbs

/-- A decimal without trailing zeros in its digits. -/
def reduced (n : Nat) (p : Int) : Nat → Nat × Int
  | 0 => (n, p)
  | fuel + 1 => if n % 10 = 0 && n != 0 then reduced (n / 10) (p + 1) fuel else (n, p)

def written (layout : Layout) (d : Double) : String :=
  if d.isNaN then "NaN"
  else if !d.isFinite then signed d.isNegative "inf"
  else if d.isZero then signed d.isNegative (if layout.keepsPoint then "0.0" else "0")
  else
    let (n, p) := d.shortest
    let (n, p) := reduced n p 20
    let digits := toString n
    let first := p + (digits.length - 1 : Nat)
    signed d.isNegative <|
      if layout.positional first then positionalText layout.keepsPoint digits p
      else exponentText digits p

/-- In a document a float is told from an integer by its point or exponent. -/
def documentLayout : Layout := ⟨fun e => -5 ≤ e && e < 16, true⟩

/-- In running text a float never has an exponent, and a whole one looks like an integer. -/
def plainLayout : Layout := ⟨fun _ => true, false⟩

end Placard.Double

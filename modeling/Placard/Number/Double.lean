/-! Binary floating-point numbers of 64 bits, by their bits. A ratio of naturals is rounded to the
nearest one, a tie to the even neighbour; arithmetic is the machine's. -/
namespace Placard

structure Double where
  bits : UInt64
  deriving DecidableEq, Repr

namespace Double

def toFloat (d : Double) : Float := Float.ofBits d.bits
def ofFloat (f : Float) : Double := ⟨f.toBits⟩

def isNegative (d : Double) : Bool := d.bits.toNat ≥ Nat.pow 2 63
def exponentField (d : Double) : Nat := d.bits.toNat / Nat.pow 2 52 % Nat.pow 2 11
def fractionField (d : Double) : Nat := d.bits.toNat % Nat.pow 2 52

def isFinite (d : Double) : Bool := d.exponentField != 2047
def isNaN (d : Double) : Bool := d.exponentField == 2047 && d.fractionField != 0
def isZero (d : Double) : Bool := d.exponentField == 0 && d.fractionField == 0

/-- Finite, not zero, and with the full precision: not below the smallest power with a free
exponent. -/
def isNormal (d : Double) : Bool := d.exponentField != 0 && d.exponentField != 2047

/-- A finite magnitude is `significand * 2 ^ (scale - 1074)`. -/
def significand (d : Double) : Nat :=
  if d.exponentField = 0 then d.fractionField else d.fractionField + Nat.pow 2 52

def scale (d : Double) : Nat := d.exponentField - 1

def ofFields (negative : Bool) (magnitude : Nat) : Double :=
  ⟨UInt64.ofNat ((if negative then Nat.pow 2 63 else 0) + magnitude)⟩

def zero (negative : Bool) : Double := ofFields negative 0
def infinity (negative : Bool) : Double := ofFields negative (2047 * Nat.pow 2 52)

/-- Quotient to the nearest, a tie to the even neighbour. -/
def roundDiv (num den : Nat) : Nat :=
  let q := num / den
  let r := num % den
  if 2 * r < den || (2 * r == den && q % 2 == 0) then q else q + 1

def ofRatio (negative : Bool) (num den : Nat) : Double :=
  if num = 0 then zero negative
  else
    -- Working in units of 2 ^ -1074, the ratio lies between 2 ^ (top - 1) and 2 ^ (top + 1).
    let scaled := num * Nat.pow 2 1074
    let top := scaled.log2 - den.log2
    let low := top - 53
    let shift := if scaled / (den * Nat.pow 2 low) < Nat.pow 2 53 then low else low + 1
    let m := roundDiv scaled (den * Nat.pow 2 shift)
    let magnitude := if m < Nat.pow 2 52 then m else (shift + 1) * Nat.pow 2 52 + (m - Nat.pow 2 52)
    if magnitude < 2047 * Nat.pow 2 52 then ofFields negative magnitude else infinity negative

def ofNat (n : Nat) : Double := ofRatio false n 1
def ofInt (i : Int) : Double := ofRatio (i < 0) i.natAbs 1

def ofDecimal (negative : Bool) (digits : Nat) (exponent : Int) : Double :=
  if digits = 0 then zero negative
  else if exponent > 400 then infinity negative
  else if exponent + (digits.log2 : Int) < -1200 then zero negative
  else if exponent ≥ 0 then ofRatio negative (digits * Nat.pow 10 exponent.toNat) 1
  else ofRatio negative digits (Nat.pow 10 (-exponent).toNat)

def negate (d : Double) : Double := ⟨d.bits ^^^ 0x8000000000000000⟩
def abs (d : Double) : Double := ⟨d.bits &&& 0x7FFFFFFFFFFFFFFF⟩

def add (a b : Double) : Double := ofFloat (a.toFloat + b.toFloat)
def sub (a b : Double) : Double := ofFloat (a.toFloat - b.toFloat)
def mul (a b : Double) : Double := ofFloat (a.toFloat * b.toFloat)
def div (a b : Double) : Double := ofFloat (a.toFloat / b.toFloat)

/-- A power by repeated squaring, each product rounded; `fuel` bounds the binary digits of the
exponent. -/
def powerFrom (product square : Double) (exponent : Nat) : Nat → Double
  | 0 => product
  | fuel + 1 =>
    let product := if exponent % 2 = 1 then product.mul square else product
    if exponent < 2 then product else powerFrom product (square.mul square) (exponent / 2) fuel

def power (base : Double) (exponent : Nat) : Double :=
  powerFrom (ofNat 1) base exponent (exponent.log2 + 1)

/-- A finite value as a count of units of 2 ^ -1074. -/
def units (d : Double) : Int :=
  let n := d.significand * Nat.pow 2 d.scale
  if d.isNegative then -n else n

/-- What is left of a finite `a` when as many whole `b` as fit are taken away; it has `a`'s sign. -/
def remainder (a b : Double) : Double :=
  let r := a.units.tmod b.units
  ofRatio (a.isNegative) r.natAbs (Nat.pow 2 1074)

/-- Order of two numbers; none where one of them is not a number. -/
def compare? (a b : Double) : Option Ordering :=
  if a.isNaN || b.isNaN then none
  else if a.isFinite && b.isFinite then some (compare a.units b.units)
  else
    let rank (d : Double) : Int := if d.isFinite then 0 else if d.isNegative then -1 else 1
    some (compare (rank a) (rank b))

/-- Order of a whole number and a double, with neither rounded to the other's kind. -/
def compareInt? (i : Int) (d : Double) : Option Ordering :=
  if d.isNaN then none
  else if d.isFinite then some (compare (i * Int.pow 2 1074) d.units)
  else some (if d.isNegative then .gt else .lt)

def equals (a b : Double) : Bool := a.compare? b == some .eq

/-- Cut to 64 bits with a sign: what is too large stops at the end of the range. -/
def clampInt64 (i : Int) : Int := max (-Int.pow 2 63) (min (Int.pow 2 63 - 1) i)

inductive Rounding where
  | down | up | nearest

/-- To a whole number of 64 bits; the nearest takes a half away from zero. -/
def toInt64 (rounding : Rounding) (d : Double) : Int :=
  if d.isNaN then 0
  else if !d.isFinite then if d.isNegative then -Int.pow 2 63 else Int.pow 2 63 - 1
  else
    let one : Int := Int.pow 2 1074
    clampInt64 <| match rounding with
      | .down => d.units.fdiv one
      | .up => -((-d.units).fdiv one)
      | .nearest =>
        let n : Nat := (2 * d.units.natAbs + Nat.pow 2 1074) / (2 * Nat.pow 2 1074)
        if d.isNegative then -(n : Int) else (n : Int)

/-- To the nearest whole number, a half away from zero, still as a double. -/
def roundWhole (d : Double) : Double :=
  if !d.isFinite then d
  else ofRatio d.isNegative ((2 * d.units.natAbs + Nat.pow 2 1074) / (2 * Nat.pow 2 1074)) 1

end Double
end Placard

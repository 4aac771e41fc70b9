import Placard.Url.Percent

/-! Addresses of machines. The short form is four numbers with dots between them, the long form
eight hexadecimal ones with colons between them, in which two colons stand for a run of zeros. -/
namespace Placard.Url

inductive Address where
  | short (n : UInt32)
  | long (pieces : List UInt16)
  deriving DecidableEq, Repr

def decimal (n : Nat) : List Char := (toString n).toList

namespace Address

/-- A part of a short address: hexadecimal after `0x`, octal after `0`. -/
def part? : List Char → Option Nat
  | [] => none
  | '0' :: 'x' :: digits => numeral? 16 digits
  | '0' :: 'X' :: digits => numeral? 16 digits
  | '0' :: digits => numeral? 8 digits
  | digits => numeral? 10 digits

/-- The last part fills all places that are left. -/
def value? : (places : Nat) → List Nat → Option Nat
  | _, [] => none
  | 0, _ => none
  | places + 1, [n] => if n < Nat.pow 256 (places + 1) then some n else none
  | places + 1, n :: rest =>
    if n < 256 then (value? places rest).map (n * Nat.pow 256 places + ·) else none

/-- The parts of a host between its dots, the last of which may be followed by a dot. -/
def hostParts (host : List Char) : List (List Char) :=
  match (host.splitOn '.').reverse with
  | [] :: rest => if rest = [] then [[]] else rest.reverse
  | all => all.reverse

/-- A host whose last part is a number has to be an address. -/
def isMeant (host : List Char) : Bool :=
  match (hostParts host).getLast? with
  | some (c :: label) => (c :: label).all Char.isDigit || (part? (c :: label)).isSome
  | _ => false

def ofHost? (host : List Char) : Option Address :=
  ((hostParts host).mapM part? |>.bind (value? 4)).map fun n => .short (UInt32.ofNat n)

/-- A number below 256 in decimal, without zeros in front. -/
def byte? (digits : List Char) : Option Nat :=
  if digits = ['0'] ∨ (digits ≠ [] ∧ digits.length ≤ 3 ∧ digits.head? ≠ some '0') then
    (numeral? 10 digits).filter (· < 256)
  else none

/-- A number of at most four hexadecimal digits. -/
def piece? (digits : List Char) : Option UInt16 :=
  if digits ≠ [] ∧ digits.length ≤ 4 then (numeral? 16 digits).map UInt16.ofNat else none

/-- The two pieces that a short address at the end of a long one makes. -/
def tail? (s : List Char) : Option (List UInt16) :=
  match (s.splitOn '.').mapM byte? with
  | some [a, b, c, d] => some [UInt16.ofNat (a * 256 + b), UInt16.ofNat (c * 256 + d)]
  | _ => none

def lastPieces? (s : List Char) : Option (List UInt16) :=
  if s.contains '.' then tail? s else (piece? s).map ([·])

def pieces? : List (List Char) → Option (List UInt16)
  | [] => some []
  | [s] => lastPieces? s
  | s :: rest => do return (← piece? s) :: (← pieces? rest)

/-- The texts before and after the first two colons that touch. -/
def cutGap : List Char → List Char × Option (List Char)
  | ':' :: ':' :: rest => ([], some rest)
  | c :: rest => ((cutGap rest).map (c :: ·) id)
  | [] => ([], none)

def colonParts (s : List Char) : List (List Char) := if s = [] then [] else s.splitOn ':'

/-- Two colons stand for one zero or more. No short address stands before them. -/
def ofLong? (s : List Char) : Option Address :=
  match cutGap s with
  | (s, none) => do
    let pieces ← pieces? (colonParts s)
    if pieces.length = 8 then some (.long pieces) else none
  | (front, some back) => do
    let front ← (colonParts front).mapM piece?
    let back ← pieces? (colonParts back)
    let zeros := 8 - (front.length + back.length)
    if zeros > 0 then some (.long (front ++ List.replicate zeros 0 ++ back)) else none

def hex (n : UInt16) : List Char := Nat.toDigits 16 n.toNat

/-- How many zeros stand at the front. -/
def zeros (pieces : List UInt16) : Nat := (pieces.takeWhile (· = 0)).length

/-- The length of the longest run of zeros. -/
def longestZeros : List UInt16 → Nat
  | [] => 0
  | n :: rest => max (zeros (n :: rest)) (longestZeros rest)

/-- The pieces before and after the first run of so many zeros. -/
def aroundZeros (count : Nat) : List UInt16 → List UInt16 × List UInt16
  | [] => ([], [])
  | n :: rest =>
    if zeros (n :: rest) = count then ([], (n :: rest).drop count)
    else (aroundZeros count rest).map (n :: ·) id

def withColons (pieces : List UInt16) : List Char := [':'].intercalate (pieces.map hex)

/-- The first of the longest runs of zeros gives way to two colons, if it is longer than one. -/
def longText (pieces : List UInt16) : List Char :=
  let count := longestZeros pieces
  if count < 2 then withColons pieces
  else
    let (front, back) := aroundZeros count pieces
    withColons front ++ "::".toList ++ withColons back

def shortText (n : Nat) : List Char :=
  ['.'].intercalate
    [decimal (n / Nat.pow 256 3), decimal (n / Nat.pow 256 2 % 256), decimal (n / 256 % 256),
      decimal (n % 256)]

def text : Address → List Char
  | short n => shortText n.toNat
  | long pieces => '[' :: longText pieces ++ [']']

end Address
end Placard.Url

import Placard.Number.Double

/-! Reading a number from text that is not part of a document: a sign of either kind, digits with a
point anywhere among them, an exponent, or a word for what is not finite. -/
namespace Placard.Double

def splitSign : List Char → Bool × List Char
  | '-' :: rest => (true, rest)
  | '+' :: rest => (false, rest)
  | rest => (false, rest)

def digitsValue (s : List Char) : Nat := s.foldl (fun n c => n * 10 + (c.toNat - 48)) 0

def digits? (s : List Char) : Option Nat :=
  if s ≠ [] ∧ s.all Char.isDigit then some (digitsValue s) else none

/-- The digits before an exponent and after the point, and the exponent. -/
def exponent? : List Char → Option Int
  | [] => some 0
  | c :: rest =>
    if c = 'e' || c = 'E' then
      let (negative, rest) := splitSign rest
      (digits? rest).map fun n => if negative then -(n : Int) else n
    else none

def afterPoint : List Char → List Char × List Char
  | '.' :: rest => (rest.takeWhile Char.isDigit, rest.dropWhile Char.isDigit)
  | rest => ([], rest)

def word? (negative : Bool) (s : List Char) : Option Double :=
  match String.ofList (s.map Char.toLower) with
  | "inf" => some (infinity negative)
  | "infinity" => some (infinity negative)
  | "nan" => some ⟨if negative then 0xFFF8000000000000 else 0x7FF8000000000000⟩
  | _ => none

def ofText? (s : String) : Option Double :=
  let (negative, s) := splitSign s.toList
  match word? negative s with
  | some d => some d
  | none =>
    let whole := s.takeWhile Char.isDigit
    let (broken, rest) := afterPoint (s.dropWhile Char.isDigit)
    if whole = [] ∧ broken = [] then none
    else (exponent? rest).map fun e =>
      ofDecimal negative (digitsValue (whole ++ broken)) (e - broken.length)

/-- A whole number of 64 bits with a sign. -/
def int64OfText? (s : String) : Option Int :=
  let (negative, s) := splitSign s.toList
  (digits? s).bind fun n =>
    let i : Int := if negative then -n else n
    if -Int.pow 2 63 ≤ i ∧ i < Int.pow 2 63 then some i else none

end Placard.Double

/-! Percent encoding: a character that a place in a URL does not hold is written as its bytes, each
as a percent sign and two hexadecimal digits. -/
namespace Placard.Url

def hexDigit (n : Nat) : Char := if n < 10 then Char.ofNat (48 + n) else Char.ofNat (55 + n)

def digitValue? (base : Nat) (c : Char) : Option Nat :=
  let n := if c.isDigit then c.toNat - 48
    else if c.isAlpha then c.toLower.toNat - 87 else base
  if n < base then some n else none

def numeral? (base : Nat) (digits : List Char) : Option Nat :=
  digits.foldlM (fun n c => (digitValue? base c).map (n * base + ·)) 0

def encodeByte (b : UInt8) : List Char :=
  ['%', hexDigit (b.toNat / 16), hexDigit (b.toNat % 16)]

def encodeChar (kept : Char → Bool) (c : Char) : List Char :=
  if kept c then [c] else (String.utf8EncodeChar c).flatMap encodeByte

def encode (kept : Char → Bool) (s : List Char) : List Char := s.flatMap (encodeChar kept)

/-- The byte that a percent sign and the two characters after it stand for. -/
def byte? (c : Char) (high low : Char) : Option UInt8 :=
  if c = '%' then (numeral? 16 [high, low]).map UInt8.ofNat else none

/-- The bytes of a text. A percent sign without two digits stands for itself. -/
def decode : List Char → List UInt8
  | a :: b :: c :: rest =>
    match byte? a b c with
    | some byte => byte :: decode rest
    | none => String.utf8EncodeChar a ++ decode (b :: c :: rest)
  | a :: rest => String.utf8EncodeChar a ++ decode rest
  | [] => []

def decoded? (s : List Char) : Option String := String.fromUTF8? ⟨(decode s).toArray⟩

/-- What every place but an opaque path and a host leaves as it is. -/
def isGraphic (c : Char) : Bool := 0x20 < c.toNat && c.toNat < 0x7F

def keptInFragment (c : Char) : Bool :=
  isGraphic c && c ≠ '"' && c ≠ '<' && c ≠ '>' && c.toNat ≠ 0x60

def keptInPath (c : Char) : Bool :=
  keptInFragment c && c ≠ '#' && c ≠ '?' && c ≠ '\x7b' && c ≠ '\x7d'

def keptInUser (c : Char) : Bool :=
  keptInPath c && "/:;=@[\\]^|".toList.all (c ≠ ·)

def keptInQuery (c : Char) : Bool :=
  isGraphic c && c ≠ '"' && c ≠ '#' && c ≠ '<' && c ≠ '>'

/-- The query of a special scheme has no single quotes either. -/
def keptInSpecialQuery (c : Char) : Bool := keptInQuery c && c.toNat ≠ 0x27

def keptInOpaque (c : Char) : Bool := 0x20 ≤ c.toNat && c.toNat < 0x7F

def keptInForm (c : Char) : Bool :=
  c.isAlphanum || c = '*' || c = '-' || c = '.' || c = '_'

/-- The value of a form field, in which a plus sign stands for a space. -/
def encodeForm (s : List Char) : List Char :=
  s.flatMap fun c => if c = ' ' then ['+'] else encodeChar keptInForm c

end Placard.Url

import Placard.Text.Blank
import Placard.Json.Fault

/-! The lexemes of a JSON text. A text is read to its end even where a lexeme is faulty: the fault
is kept with it, because whether it matters depends on the place. A fault has two forms, one for a
value that is read and one for a value that is only passed over. -/
namespace Placard.Json

inductive Lexeme where
  | openBrace | closeBrace | openBracket | closeBracket | comma | colon
  | null
  | bool (b : Bool)
  /-- A well-formed number, which may still be out of range when it is read. -/
  | number (n : Except Fault Json)
  /-- A closed string, which may still hold half a surrogate pair when it is read. -/
  | string (s : Except Fault String)
  /-- Begins like a value, or with a quote, but is none. -/
  | broken (quoted : Bool) (read skip : Fault)
  /-- Begins no value. -/
  | stray

structure Token where
  lexeme : Lexeme
  start : Nat
  stop : Nat

def byteLength (s : List Char) : Nat := s.foldr (fun c n => c.utf8Size + n) 0

def hexValue? (c : Char) : Option Nat :=
  if c.isDigit then some (c.toNat - 48)
  else if 'a' ≤ c && c ≤ 'f' then some (c.toNat - 87)
  else if 'A' ≤ c && c ≤ 'F' then some (c.toNat - 55)
  else none

def hexCode? (a b c d : Char) : Option Nat := do
  let a ← hexValue? a
  let b ← hexValue? b
  let c ← hexValue? c
  let d ← hexValue? d
  return ((a * 16 + b) * 16 + c) * 16 + d

def plainEscape? (c : Char) : Option Char :=
  if c = '"' || c = '\\' || c = '/' then some c
  else if c = 'b' then some (Char.ofNat 8)
  else if c = 'f' then some (Char.ofNat 12)
  else if c = 'n' then some '\n'
  else if c = 'r' then some '\r'
  else if c = 't' then some '\t'
  else none

/-- A string being scanned: its text so far, last character first, a leading surrogate that waits
for its partner, and the first fault that only reading minds. -/
structure Scan where
  text : List Char
  waiting : Option Nat
  fault : Option Fault

def Scan.empty : Scan := ⟨[], none, none⟩

def Scan.blame (s : Scan) (cause : Cause) (offset : Nat) : Scan :=
  { s with waiting := none, fault := s.fault.or (some ⟨cause, offset⟩) }

/-- A character that is no `\u` escape; a waiting surrogate stays unpaired. -/
def Scan.push (s : Scan) (c : Char) (offset : Nat) : Scan :=
  let s := if s.waiting.isSome then s.blame .surrogateUnpaired offset else s
  { s with text := c :: s.text }

def Scan.pushCode (s : Scan) (n offset : Nat) : Scan :=
  match s.waiting with
  | some high =>
    if 0xDC00 ≤ n && n ≤ 0xDFFF then
      { s with
        text := Char.ofNat ((high - 0xD800) * 0x400 + (n - 0xDC00) + 0x10000) :: s.text,
        waiting := none }
    else s.blame .loneSurrogate offset
  | none =>
    if 0xDC00 ≤ n && n ≤ 0xDFFF then s.blame .loneSurrogate offset
    else if 0xD800 ≤ n && n ≤ 0xDBFF then { s with waiting := some n }
    else { s with text := Char.ofNat n :: s.text }

/-- Where the scan of a string ended: a lexeme, the offset after it and the rest. -/
structure Scanned where
  lexeme : Lexeme
  stop : Nat
  rest : List Char

def Scan.broken (s : Scan) (cause : Cause) (offset : Nat) : Scanned :=
  let fault : Fault := ⟨cause, offset⟩
  ⟨.broken true (s.fault.getD fault) fault, offset, []⟩

def Scan.closed (s : Scan) (offset : Nat) (rest : List Char) : Scanned :=
  let s := if s.waiting.isSome then s.blame .surrogateUnpaired offset else s
  ⟨.string (match s.fault with
    | some f => .error f
    | none => .ok (String.ofList s.text.reverse)), offset, rest⟩

def scanString (s : Scan) (offset : Nat) : List Char → Scanned
  | [] => s.broken .stringEnds offset
  | '"' :: rest => s.closed (offset + 1) rest
  | ['\\'] => s.broken .stringEnds (offset + 1)
  | '\\' :: 'u' :: a :: b :: c :: d :: rest =>
    match hexCode? a b c d with
    | some n => scanString (s.pushCode n (offset + 6)) (offset + 6) rest
    | none =>
      if byteLength (a :: b :: c :: d :: rest) < 4 then
        s.broken .stringEnds (offset + 2 + byteLength (a :: b :: c :: d :: rest))
      else s.broken .badEscape (offset + 6)
  | '\\' :: 'u' :: rest =>
    if byteLength rest < 4 then s.broken .stringEnds (offset + 2 + byteLength rest)
    else s.broken .badEscape (offset + 6)
  | '\\' :: c :: rest =>
    match plainEscape? c with
    | some e => scanString (s.push e (offset + 2)) (offset + 2) rest
    | none =>
      (if s.waiting.isSome then s.blame .surrogateUnpaired (offset + 2) else s).broken
        .badEscape (offset + 2)
  | c :: rest =>
    if c.toNat < 32 then
      (if s.waiting.isSome then s.blame .surrogateUnpaired (offset + 1) else s).broken
        .controlCharacter (offset + 1)
    else scanString (s.push c (offset + 1)) (offset + c.utf8Size) rest

theorem scanString_rest_le (s : Scan) (offset : Nat) (cs : List Char) :
    (scanString s offset cs).rest.length ≤ cs.length := by
  fun_induction scanString s offset cs <;>
    simp_all [Scan.broken, Scan.closed] <;> omega

def digitValue (c : Char) : Nat := c.toNat - 48

def largestWord : Nat := Nat.pow 2 64 - 1

/-- Digits are taken into the significand while it fits a word of 64 bits. -/
structure Significand where
  value : Nat
  /-- Digits that were left out once one did not fit. -/
  dropped : Nat
  full : Bool

def Significand.zero : Significand := ⟨0, 0, false⟩

def Significand.push (s : Significand) (c : Char) : Significand :=
  let next := s.value * 10 + digitValue c
  if s.full || next > largestWord then { s with dropped := s.dropped + 1, full := true }
  else { s with value := next }

/-- `value * 10 ^ exponent` by one multiplication or division with a power of ten. Zero stays what
it is, however it is scaled. -/
def scaleDouble (negative : Bool) (stop : Nat) : Nat → Double → Int → Except Fault Json
  | 0, _, _ => .ok (.float (.zero negative))
  | fuel + 1, f, exponent =>
    if f.isZero then .ok (.float (.zero negative))
    else if exponent.natAbs ≤ 308 then
      let power := Double.ofDecimal false 1 exponent.natAbs
      if exponent ≥ 0 then
        let product := f.mul power
        if product.isFinite then .ok (.float (if negative then product.negate else product))
        else .error ⟨.numberTooLarge, stop⟩
      else
        let quotient := f.div power
        .ok (.float (if negative then quotient.negate else quotient))
    else if exponent ≥ 0 then .error ⟨.numberTooLarge, stop⟩
    else scaleDouble negative stop fuel (f.div (.ofDecimal false 1 308)) (exponent + 308)

def floatValue (negative : Bool) (significand : Nat) (exponent : Int) (stop : Nat) :
    Except Fault Json :=
  scaleDouble negative stop 4 (.ofNat significand) exponent

/-- An integer that fits 64 bits stays one; a negative zero is a float. -/
def integerValue (negative : Bool) (s : Significand) (stop : Nat) : Except Fault Json :=
  if s.full then floatValue negative s.value s.dropped stop
  else if !negative then .ok (.int s.value)
  else if 0 < s.value && s.value ≤ Nat.pow 2 63 then .ok (.int (-s.value))
  else .ok (.float (Double.ofNat s.value).negate)

def exponentDigits (value offset : Nat) : List Char → Except Nat Nat
  | [] => .ok value
  | c :: rest =>
    let next := value * 10 + digitValue c
    if next > Nat.pow 2 31 - 1 then .error (offset + 1) else exponentDigits next (offset + 1) rest

def exponentValue (negative : Bool) (significand : Nat) (start : Int) (down : Bool)
    (digits : List Char) (offset : Nat) : Except Fault Json :=
  let stop := offset + digits.length
  match exponentDigits 0 offset digits with
  | .ok e => floatValue negative significand (if down then start - e else start + e) stop
  | .error here =>
    if significand ≠ 0 && !down then .error ⟨.numberTooLarge, here⟩
    else .ok (.float (.zero negative))

def splitSign : List Char → Bool × List Char
  | '-' :: rest => (true, rest)
  | '+' :: rest => (false, rest)
  | rest => (false, rest)

theorem splitSign_rest_le (cs : List Char) : (splitSign cs).2.length ≤ cs.length := by
  unfold splitSign
  split <;> simp

def scanExponentDigits (negative : Bool) (significand : Nat) (start : Int) (down : Bool)
    (offset : Nat) : List Char → Scanned
  | [] => ⟨.broken false ⟨.valueEnds, offset⟩ ⟨.badNumber, offset⟩, offset, []⟩
  | c :: rest =>
    if c.isDigit then
      let digits := c :: rest.takeWhile Char.isDigit
      ⟨.number (exponentValue negative significand start down digits offset),
        offset + digits.length, rest.dropWhile Char.isDigit⟩
    else ⟨.broken false ⟨.badNumber, offset + 1⟩ ⟨.badNumber, offset + 1⟩, offset, []⟩

/-- After the digits of the whole and the broken part: an exponent, or nothing more. -/
def scanExponent (negative : Bool) (significand : Nat) (start : Int) (plain : Except Fault Json)
    (offset : Nat) : List Char → Scanned
  | [] => ⟨.number plain, offset, []⟩
  | c :: rest =>
    if c = 'e' || c = 'E' then
      let sign := splitSign rest
      scanExponentDigits negative significand start sign.1
        (offset + 1 + (rest.length - sign.2.length)) sign.2
    else ⟨.number plain, offset, c :: rest⟩

/-- After the digits of the whole part. -/
def scanFraction (negative : Bool) (s : Significand) (offset : Nat) : List Char → Scanned
  | '.' :: rest =>
    let digits := rest.takeWhile Char.isDigit
    let after := rest.dropWhile Char.isDigit
    match digits, after with
    | [], [] => ⟨.broken false ⟨.valueEnds, offset + 1⟩ ⟨.badNumber, offset + 1⟩, offset, []⟩
    | [], _ :: _ => ⟨.broken false ⟨.badNumber, offset + 2⟩ ⟨.badNumber, offset + 2⟩, offset, []⟩
    | _ :: _, _ =>
      let t := digits.foldl Significand.push ⟨s.value, 0, false⟩
      let exponent : Int := s.dropped - (digits.length - t.dropped : Nat)
      let stop := offset + 1 + digits.length
      scanExponent negative t.value exponent (floatValue negative t.value exponent stop) stop after
  | rest =>
    scanExponent negative s.value s.dropped (integerValue negative s offset) offset rest

def scanWhole (negative : Bool) (offset : Nat) (first : Char) (rest : List Char) : Scanned :=
  if first = '0' then
    if (rest.head?.map Char.isDigit).getD false then
      ⟨.broken false ⟨.badNumber, offset + 1⟩ ⟨.badNumber, offset + 1⟩, offset, []⟩
    else scanFraction negative .zero offset rest
  else
    let digits := rest.takeWhile Char.isDigit
    scanFraction negative ((first :: digits).foldl Significand.push .zero)
      (offset + digits.length) (rest.dropWhile Char.isDigit)

def scanNegative (offset : Nat) : List Char → Scanned
  | [] => ⟨.broken false ⟨.valueEnds, offset⟩ ⟨.badNumber, offset⟩, offset, []⟩
  | c :: rest =>
    if c.isDigit then scanWhole true (offset + 1) c rest
    else ⟨.broken false ⟨.badNumber, offset + 1⟩ ⟨.badNumber, offset + 1⟩, offset, []⟩

theorem scanExponentDigits_rest_le (negative : Bool) (n : Nat) (e : Int) (down : Bool)
    (offset : Nat) (cs : List Char) :
    (scanExponentDigits negative n e down offset cs).rest.length ≤ cs.length := by
  unfold scanExponentDigits
  split
  · simp
  · split
    · exact Nat.le_trans (List.dropWhile_sublist _).length_le (by simp)
    · simp

theorem scanExponent_rest_le (negative : Bool) (n : Nat) (e : Int) (plain : Except Fault Json)
    (offset : Nat) (cs : List Char) :
    (scanExponent negative n e plain offset cs).rest.length ≤ cs.length := by
  unfold scanExponent
  split
  · simp
  · rename_i c rest
    split
    · have h := splitSign_rest_le rest
      exact Nat.le_trans (scanExponentDigits_rest_le _ _ _ _ _ _) (by simp; omega)
    · simp

theorem scanFraction_rest_le (negative : Bool) (s : Significand) (offset : Nat)
    (cs : List Char) : (scanFraction negative s offset cs).rest.length ≤ cs.length := by
  unfold scanFraction
  split
  · rename_i rest
    simp only
    split
    · simp
    · simp
    · have h := scanExponent_rest_le negative
      have h' := (List.dropWhile_sublist (l := rest) Char.isDigit).length_le
      exact Nat.le_trans (h _ _ _ _ _) (by simp; omega)
  · exact scanExponent_rest_le _ _ _ _ _ _

theorem scanWhole_rest_le (negative : Bool) (offset : Nat) (c : Char) (cs : List Char) :
    (scanWhole negative offset c cs).rest.length ≤ cs.length := by
  unfold scanWhole
  split
  · split
    · simp
    · exact scanFraction_rest_le _ _ _ _
  · exact Nat.le_trans (scanFraction_rest_le _ _ _ _) (List.dropWhile_sublist _).length_le

theorem scanNegative_rest_le (offset : Nat) (cs : List Char) :
    (scanNegative offset cs).rest.length ≤ cs.length := by
  unfold scanNegative
  split
  · simp
  · split
    · exact Nat.le_trans (scanWhole_rest_le _ _ _ _) (by simp)
    · simp

def scanWord (lexeme : Lexeme) (offset : Nat) : List Char → List Char → Scanned
  | [], rest => ⟨lexeme, offset, rest⟩
  | _ :: _, [] => ⟨.broken false ⟨.valueEnds, offset⟩ ⟨.valueEnds, offset⟩, offset, []⟩
  | e :: expected, c :: rest =>
    if c = e then scanWord lexeme (offset + 1) expected rest
    else ⟨.broken false ⟨.wordExpected, offset + 1⟩ ⟨.wordExpected, offset + 1⟩, offset, []⟩

theorem scanWord_rest_le (lexeme : Lexeme) (offset : Nat) (expected cs : List Char) :
    (scanWord lexeme offset expected cs).rest.length ≤ cs.length := by
  fun_induction scanWord lexeme offset expected cs with
  | case3 _ _ _ _ ih => exact Nat.le_succ_of_le ih
  | _ => simp_all

def mark? : Char → Option Lexeme
  | '{' => some .openBrace
  | '}' => some .closeBrace
  | '[' => some .openBracket
  | ']' => some .closeBracket
  | ',' => some .comma
  | ':' => some .colon
  | _ => none

def scan (c : Char) (offset : Nat) (rest : List Char) : Scanned :=
  match mark? c with
  | some lexeme => ⟨lexeme, offset + 1, rest⟩
  | none =>
    if c = '"' then scanString .empty (offset + 1) rest
    else if c = 'n' then scanWord .null (offset + 1) ['u', 'l', 'l'] rest
    else if c = 't' then scanWord (.bool true) (offset + 1) ['r', 'u', 'e'] rest
    else if c = 'f' then scanWord (.bool false) (offset + 1) ['a', 'l', 's', 'e'] rest
    else if c = '-' then scanNegative (offset + 1) rest
    else if c.isDigit then scanWhole false (offset + 1) c rest
    else ⟨.stray, offset + c.utf8Size, rest⟩

theorem scan_rest_le (c : Char) (offset : Nat) (rest : List Char) :
    (scan c offset rest).rest.length ≤ rest.length := by
  grind [scan, scanString_rest_le, scanWord_rest_le, scanNegative_rest_le, scanWhole_rest_le]

def tokens (offset : Nat) : List Char → List Token
  | [] => []
  | c :: rest =>
    if Text.isSpace c then tokens (offset + 1) rest
    else
      ⟨(scan c offset rest).lexeme, offset, (scan c offset rest).stop⟩ ::
        tokens (scan c offset rest).stop (scan c offset rest).rest
termination_by cs => cs.length
decreasing_by
  · simp
  · have := scan_rest_le c offset rest
    simp; omega

end Placard.Json

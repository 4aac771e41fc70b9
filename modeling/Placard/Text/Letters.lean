import Placard.Text.LetterTable
import Placard.Text.CaseTable

/-! Letters, digits and case. ASCII is decided by core's tests, the rest by the tables, so an ASCII
text never reaches a table. -/
namespace Placard.Text

def inRuns (runs : List (Nat × Nat)) (n : Nat) : Bool :=
  runs.any fun r => r.1 ≤ n && n ≤ r.2

def inSteps (runs : List (Nat × Nat × Nat)) (n : Nat) : Bool :=
  runs.any fun r => r.1 ≤ n && n ≤ r.2.1 && (n - r.1) % r.2.2 == 0

def isAscii (c : Char) : Bool := c.toNat < 128

def isAlphanumeric (c : Char) : Bool :=
  if isAscii c then c.isAlphanum else inRuns LetterTable.alphanumeric c.toNat

def isLower (c : Char) : Bool :=
  if isAscii c then c.isLower else inSteps LetterTable.lowercase c.toNat

def isUpper (c : Char) : Bool :=
  if isAscii c then c.isUpper else inSteps LetterTable.uppercase c.toNat

def shifted (runs : List (Nat × Nat × Nat × Int)) (n : Nat) : Nat :=
  match runs.find? fun r => r.1 ≤ n && n ≤ r.2.1 && (n - r.1) % r.2.2.1 == 0 with
  | some r => (n + r.2.2.2).toNat
  | none => n

def mapped (many : List (Nat × List Nat)) (runs : List (Nat × Nat × Nat × Int)) (c : Char) :
    List Char :=
  match many.lookup c.toNat with
  | some ns => ns.map Char.ofNat
  | none => [Char.ofNat (shifted runs c.toNat)]

def lowerChar (c : Char) : List Char :=
  if isAscii c then [c.toLower] else mapped CaseTable.lowerMany CaseTable.lowerRuns c

def upperChar (c : Char) : List Char :=
  if isAscii c then [c.toUpper] else mapped CaseTable.upperMany CaseTable.upperRuns c

def upper (s : List Char) : List Char := s.flatMap upperChar

def capitalSigma : Char := Char.ofNat 0x3A3
def smallSigma : Char := Char.ofNat 0x3C3
def finalSigma : Char := Char.ofNat 0x3C2

def isCased (c : Char) : Bool :=
  if isAscii c then c.isAlpha else inRuns CaseTable.cased c.toNat

def isIgnorable (c : Char) : Bool :=
  if isAscii c then [0x27, 0x2E, 0x3A, 0x5E, 0x60].contains c.toNat
  else inRuns CaseTable.ignorable c.toNat

/-- The nearest letter that counts for case is there. -/
def besideCased (s : List Char) : Bool :=
  match s.dropWhile isIgnorable with
  | [] => false
  | c :: _ => isCased c

/-- Lower case with what stands before, nearest first. A capital sigma becomes the final form where
a cased letter stands before it and none after. -/
def lowerAfter (before : List Char) : List Char → List Char
  | [] => []
  | c :: rest =>
    (if c = capitalSigma then
        [if besideCased before && !besideCased rest then finalSigma else smallSigma]
      else lowerChar c) ++ lowerAfter (c :: before) rest

def lower (s : List Char) : List Char := lowerAfter [] s

def uppercased (s : String) : String := String.ofList (upper s.toList)
def lowercased (s : String) : String := String.ofList (lower s.toList)

end Placard.Text

import Placard.Text.Compose
import Placard.Text.Letters
import Placard.Text.MarkTable
import Placard.Url.LabelTable

/-! The parts of a name between its dots, and what keeps them readable: marks have something to
stand on, joiners have something to join, and directions do not run into each other. -/
namespace Placard.Url.Label

def joiner : Char := Char.ofNat 0x200D
def nonJoiner : Char := Char.ofNat 0x200C

/-- A mark over or under a character, which takes up no room. -/
def isBare (c : Char) : Bool :=
  !Text.isAscii c && c ≠ nonJoiner && Text.inRuns Text.MarkTable.extending c.toNat &&
    !Text.inRuns LabelTable.roomy c.toNat

def isMark (c : Char) : Bool :=
  !Text.isAscii c && c ≠ nonJoiner &&
    (Text.inRuns Text.MarkTable.extending c.toNat || Text.inRuns Text.MarkTable.spacing c.toNat ||
      Text.inRuns LabelTable.loose c.toNat)

inductive Direction where
  | left | right | number | easternNumber | neutral | bare
  deriving DecidableEq, Repr

def Direction.of (c : Char) : Direction :=
  let n := c.toNat
  if Text.isAscii c then
    if c.isAlpha then .left else if c.isDigit then .number else .neutral
  else if isBare c then .bare
  else if Text.inRuns LabelTable.rightToLeft n then .right
  else if Text.inRuns LabelTable.easternNumbers n then .easternNumber
  else if Text.inRuns LabelTable.numbers n then .number
  else if Text.inRuns LabelTable.neutral n then .neutral
  else .left

/-- A name with such a character in it has to keep its directions apart. -/
def Direction.isEastern (d : Direction) : Bool := d = .right || d = .easternNumber

def hasEastern (label : List Char) : Bool := label.any fun c => (Direction.of c).isEastern

/-- A label is written in the direction of its first character, which is a letter. It holds nothing
of the other direction and not both kinds of numbers, and ends with a letter or a number, bare marks
apart. -/
def keepsDirection (label : List Char) : Bool :=
  let all := label.map Direction.of
  let last := (all.reverse.dropWhile (· = .bare)).head?
  match all.head? with
  | none => true
  | some .right =>
    !all.contains .left && !(all.contains .number && all.contains .easternNumber) &&
      (last = some .right || last = some .number || last = some .easternNumber)
  | some .left =>
    !all.any Direction.isEastern && (last = some .left || last = some .number)
  | some _ => false

/-- Marks that a joined letter sees through. -/
def isPassed (c : Char) : Bool := isBare c || c.toNat = 0x1E94B

def joinsAfter (c : Char) : Bool :=
  Text.inRuns LabelTable.joiningBoth c.toNat || Text.inRuns LabelTable.joiningAfter c.toNat

def joinsBefore (c : Char) : Bool :=
  Text.inRuns LabelTable.joiningBoth c.toNat || Text.inRuns LabelTable.joiningBefore c.toNat

def besideLetter (joins : Char → Bool) (s : List Char) : Bool :=
  match s.dropWhile isPassed with
  | [] => false
  | c :: _ => joins c

/-- The rank of the marks that take the vowel from a letter. -/
def silencing : Nat := 9

/-- Joiners follow a mark of silence. One that keeps letters apart may also stand between two that
would join. `before` is what stands before, nearest first. -/
def joinersFit (before : List Char) : List Char → Bool
  | [] => true
  | c :: rest =>
    let silenced := before.head?.any (Text.rank · = silencing)
    (if c = joiner then silenced
      else if c = nonJoiner then
        silenced || (besideLetter joinsAfter before && besideLetter joinsBefore rest)
      else true) && joinersFit (c :: before) rest

/-- What holds of every label, in whatever name it stands. -/
def isSound (label : List Char) : Bool := !label.head?.any isMark && joinersFit [] label

end Placard.Url.Label

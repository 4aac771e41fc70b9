import Placard.Url.DomainTable
import Placard.Url.Label
import Placard.Url.Punycode

/-! Names of machines in any script, and their form in ASCII: each label that has other characters
is encoded, and is marked by four characters in front. -/
namespace Placard.Url.Domain

def spelled (word : List Char) : List Char :=
  (word.splitOn '.').filterMap fun digits => (numeral? 16 digits).map Char.ofNat

/-- The word for a code point in the last run that starts at or before it. -/
def word? (n : Nat) : Option (List Char) :=
  match (DomainTable.words.takeWhile (·.1 ≤ n)).getLast? with
  | none => none
  | some (first, words) => (words.toList.splitOn ' ')[n - first]?

/-- What a character becomes: capitals are small letters, other forms of a character are that
character, and some are left out. -/
def settled? (c : Char) : Option (List Char) :=
  let n := c.toNat
  if Text.isAscii c then some [c.toLower]
  else if Text.inRuns DomainTable.refused n then none
  else if Text.inRuns DomainTable.dropped n then some []
  else
    match word? n with
    | some word => some (spelled word)
    | none => some [Char.ofNat (Text.shifted DomainTable.shifts n)]

/-- No name holds these, in whatever form they are written. -/
def isForbidden (c : Char) : Bool :=
  c.toNat ≤ 0x20 || c.toNat = 0x7F || "%#/:<>?@[\\]^|".toList.contains c

/-- The one form of all texts that differ in form alone. -/
def settledAll? (s : List Char) : Option (List Char) := do
  let parts ← s.mapM settled?
  let s := Text.composed parts.flatten
  if s.any isForbidden then none else some s

def mark : List Char := "xn--".toList

/-- A label without its mark. What follows a mark encodes a label that is settled, has no mark and
is not all ASCII. -/
def plain? (label : List Char) : Option (List Char) :=
  if mark.isPrefixOf label then
    (Punycode.decode? (label.drop mark.length)).filter fun plain =>
      settledAll? plain = some plain && !mark.isPrefixOf plain && !plain.all Text.isAscii
  else some label

def encoded (label : List Char) : List Char :=
  if label.all Text.isAscii then label else mark ++ Punycode.encode label

/-- A name in ASCII, if it is one. -/
def ascii? (name : List Char) : Option (List Char) := do
  let settled ← settledAll? name
  let labels ← (settled.splitOn '.').mapM plain?
  let kept := !labels.any Label.hasEastern || labels.all Label.keepsDirection
  if kept ∧ labels.all Label.isSound then some (['.'].intercalate (labels.map encoded)) else none

end Placard.Url.Domain

import Placard.Text.ComposeTable

/-! Text in its composed form: marks stand in the order of their ranks, and a character that can be
written as one is. -/
namespace Placard.Text

/-- The rank of a mark; what is no mark has none. -/
def rank (c : Char) : Nat :=
  if c.toNat < 0x300 then 0
  else
    match ComposeTable.ranks.find? fun r => r.1 ≤ c.toNat && c.toNat ≤ r.2.1 with
    | some r => r.2.2
    | none => 0

/-- The two characters that one is made of. A syllable is made of its open form and a closing part,
and the open form of a leading part and a vowel. -/
def halves? (c : Char) : Option (Char × Char) :=
  let n := c.toNat
  if n < 0xC0 then none
  else if 0xAC00 ≤ n ∧ n ≤ 0xD7A3 then
    let s := n - 0xAC00
    if s % 28 = 0 then
      some (Char.ofNat (0x1100 + s / 588), Char.ofNat (0x1161 + s % 588 / 28))
    else some (Char.ofNat (n - s % 28), Char.ofNat (0x11A7 + s % 28))
  else
    (ComposeTable.pairs.find? (·.1 = n)).map fun p => (Char.ofNat p.2.1, Char.ofNat p.2.2)

/-- The character that two make. -/
def whole? (a b : Char) : Option Char :=
  let m := a.toNat
  let n := b.toNat
  if n < 0x300 then none
  else if 0x1100 ≤ m ∧ m ≤ 0x1112 ∧ 0x1161 ≤ n ∧ n ≤ 0x1175 then
    some (Char.ofNat (0xAC00 + (m - 0x1100) * 588 + (n - 0x1161) * 28))
  else if 0xAC00 ≤ m ∧ m ≤ 0xD7A3 ∧ (m - 0xAC00) % 28 = 0 ∧ 0x11A8 ≤ n ∧ n ≤ 0x11C2 then
    some (Char.ofNat (m + (n - 0x11A7)))
  else
    (ComposeTable.pairs.find? fun p => p.2.1 = m && p.2.2 = n).map fun p => Char.ofNat p.1

/-- A character taken apart at most so many times. Only the first half has halves of its own. -/
def partsWithin : (depth : Nat) → Char → List Char
  | 0, c => [c]
  | depth + 1, c =>
    match halves? c with
    | some (a, b) => partsWithin depth a ++ [b]
    | none => [c]

/-- The parts of a character, none of which has halves: no character is made of more than four. -/
def parts (c : Char) : List Char := partsWithin 3 c

/-- Puts a character before text whose marks are in order. -/
def insertMark (c : Char) : List Char → List Char
  | [] => [c]
  | d :: rest => if 0 < rank d ∧ rank d < rank c then d :: insertMark c rest else c :: d :: rest

def decomposed (s : List Char) : List Char := (s.flatMap parts).foldr insertMark []

/-- Joins to a base what follows it; `held` are the marks after it that did not join, the last one
first. A mark behind one of its own rank or a higher one does not reach the base. -/
def composeOnto (base : Char) (held : List Char) : List Char → List Char
  | [] => base :: held.reverse
  | c :: rest =>
    let reaches := match held with
      | [] => true
      | h :: _ => rank h < rank c
    match if reaches then whole? base c else none with
    | some d => composeOnto d held rest
    | none =>
      if rank c = 0 then base :: held.reverse ++ composeOnto c [] rest
      else composeOnto base (c :: held) rest

def composed (s : List Char) : List Char :=
  match decomposed s with
  | [] => []
  | c :: rest => composeOnto c [] rest

end Placard.Text

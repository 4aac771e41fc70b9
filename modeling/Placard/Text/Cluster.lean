import Placard.Text.Letters
import Placard.Text.MarkTable

/-! Characters as a reader counts them: a letter with its marks, consonants that a sign ties into
one, a syllable written part by part, a joined pictograph, a flag or a line ending of two characters
is one. -/
namespace Placard.Text

/-- What a character does to its neighbours. -/
inductive Part where
  | return | newline | control
  /-- Marks: ordinary ones, ties between consonants, and one that separates them. -/
  | extending | linking | separating | joiner | spacing
  | leadingMark | joinable | regional | pictograph
  /-- Parts of a syllable, and syllables without and with a closing part. -/
  | leading | vowel | trailing | openSyllable | closedSyllable
  | other
  deriving DecidableEq, Repr

def isLeadingPart (n : Nat) : Bool := (0x1100 ≤ n && n ≤ 0x115F) || (0xA960 ≤ n && n ≤ 0xA97C)

def isVowelPart (n : Nat) : Bool :=
  (0x1160 ≤ n && n ≤ 0x11A7) || (0xD7B0 ≤ n && n ≤ 0xD7C6) || n = 0x16D63 ||
    (0x16D67 ≤ n && n ≤ 0x16D6A)

def isTrailingPart (n : Nat) : Bool := (0x11A8 ≤ n && n ≤ 0x11FF) || (0xD7CB ≤ n && n ≤ 0xD7FB)

def isSkinTone (n : Nat) : Bool := 0x1F3FB ≤ n && n ≤ 0x1F3FF

def Part.of (c : Char) : Part :=
  let n := c.toNat
  if n = 13 then .return
  else if n = 10 then .newline
  else if n < 32 || n = 127 then .control
  else if isAscii c then .other
  else if n = 0x200D then .joiner
  else if n = 0x200C then .separating
  else if inRuns MarkTable.linking n then .linking
  else if inRuns MarkTable.extending n || isSkinTone n then .extending
  else if inRuns MarkTable.controlling n then .control
  else if inRuns MarkTable.spacing n then .spacing
  else if inRuns MarkTable.leading n then .leadingMark
  else if inRuns MarkTable.joinable n then .joinable
  else if 0x1F1E6 ≤ n && n ≤ 0x1F1FF then .regional
  else if inRuns MarkTable.pictographic n then .pictograph
  else if isLeadingPart n then .leading
  else if isVowelPart n then .vowel
  else if isTrailingPart n then .trailing
  else if 0xAC00 ≤ n && n ≤ 0xD7A3 then
    if (n - 0xAC00) % 28 = 0 then .openSyllable else .closedSyllable
  else .other

/-- Whether a cluster ends with a consonant and its marks, and whether one of those ties it. -/
inductive Tie where
  | none | open | tied
  deriving DecidableEq, Repr

def Tie.push (t : Tie) : Part → Tie
  | .joinable => .open
  | .linking => if t = .none then .none else .tied
  | .extending | .joiner => t
  | _ => .none

/-- What a cluster remembers of its parts: the last one, whether a pictograph with marks leads up to
it, how many flag halves end it, and its tie. -/
structure Tail where
  last : Part
  pictograph : Bool
  flags : Nat
  tie : Tie

def Part.extends : Part → Bool
  | .extending | .linking | .separating | .joiner => true
  | _ => false

def Tail.push (t : Tail) (p : Part) : Tail where
  last := p
  pictograph := p = .pictograph || (t.pictograph && p.extends)
  flags := if p = .regional then t.flags + 1 else 0
  tie := t.tie.push p

def Tail.start (p : Part) : Tail := Tail.push ⟨.other, false, 0, .none⟩ p

def Tail.joins (t : Tail) (p : Part) : Bool :=
  if t.last = .return ∧ p = .newline then true
  else if t.last = .return || t.last = .newline || t.last = .control then false
  else if p = .return || p = .newline || p = .control then false
  else if p.extends || p = .spacing || t.last = .leadingMark then true
  else
    match p with
    | .joinable => t.tie = .tied
    | .pictograph => t.last = .joiner && t.pictograph
    | .regional => t.last = .regional && t.flags % 2 = 1
    | .leading | .openSyllable | .closedSyllable => t.last = .leading
    | .vowel => t.last = .leading || t.last = .vowel || t.last = .openSyllable
    | .trailing => t.last = .vowel || t.last = .openSyllable || t.last = .closedSyllable ||
        t.last = .trailing
    | _ => false

def clustersFrom (tail : Tail) (cluster : List Char) : List Char → List (List Char)
  | [] => [cluster.reverse]
  | c :: rest =>
    let p := Part.of c
    if tail.joins p then clustersFrom (tail.push p) (c :: cluster) rest
    else cluster.reverse :: clustersFrom (Tail.start p) [c] rest

def clusters : List Char → List (List Char)
  | [] => []
  | c :: rest => clustersFrom (Tail.start (Part.of c)) [c] rest

end Placard.Text

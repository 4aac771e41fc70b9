import Placard.Url.Percent

/-! Text in ASCII letters and digits alone: the characters that are ASCII come first, then, as
numbers of varying length, the others: where each goes in and how far it lies from the one before. -/
namespace Placard.Url.Punycode

def digit (d : Nat) : Char := if d < 26 then Char.ofNat (97 + d) else Char.ofNat (22 + d)

def digitValue? (c : Char) : Option Nat :=
  if c.isAlpha then some (c.toLower.toNat - 97)
  else if c.isDigit then some (c.toNat - 22)
  else none

/-- A digit below its threshold ends a number. -/
def threshold (place bias : Nat) : Nat :=
  if place ≤ bias then 1 else if bias + 26 ≤ place then 26 else place - bias

theorem threshold_pos (place bias : Nat) : 0 < threshold place bias := by
  unfold threshold
  split
  · omega
  · split <;> omega

def scaled (bias delta : Nat) : Nat :=
  if 455 < delta then scaled (bias + 36) (delta / 35) else bias + 36 * delta / (delta + 38)
termination_by delta
decreasing_by exact Nat.div_lt_self (by omega) (by omega)

/-- The bias for the next number, when `count` characters are in place. -/
def adapted (delta count : Nat) (first : Bool) : Nat :=
  let delta := if first then delta / 700 else delta / 2
  scaled 0 (delta + delta / count)

def number (bias place n : Nat) : List Char :=
  let t := threshold place bias
  if n < t then [digit n]
  else digit (t + (n - t) % (36 - t)) :: number bias (place + 36) ((n - t) / (36 - t))
termination_by n
decreasing_by
  have := threshold_pos place bias
  exact Nat.lt_of_le_of_lt (Nat.div_le_self ..) (by omega)

/-- What has been written, and what the next number counts from. -/
structure Writing where
  text : List Char
  delta : Nat
  bias : Nat
  /-- How many characters are in place. -/
  count : Nat

def isBasic (c : Char) : Bool := c.toNat < 128

/-- Passes one character of the text while those of one code point go in. -/
def Writing.pass (n : Nat) (w : Writing) (c : Char) : Writing :=
  if c.toNat < n then { w with delta := w.delta + 1 }
  else if c.toNat = n then
    { text := w.text ++ number w.bias 36 w.delta, delta := 0
      bias := adapted w.delta (w.count + 1) (w.text = []), count := w.count + 1 }
  else w

/-- Puts in the code points that are left, in their order, the first of which may be `next`. -/
def Writing.all (s : List Char) (next : Nat) (w : Writing) : List Nat → Writing
  | [] => w
  | n :: rest =>
    let w := s.foldl (pass n) { w with delta := w.delta + (n - next) * (w.count + 1) }
    all s (n + 1) { w with delta := w.delta + 1 } rest

/-- Each number once, in order. -/
def insertOnce (n : Nat) : List Nat → List Nat
  | [] => [n]
  | m :: rest =>
    if n < m then n :: m :: rest else if n = m then m :: rest else m :: insertOnce n rest

def encode (s : List Char) : List Char :=
  let basic := s.filter isBasic
  let others := ((s.filter (!isBasic ·)).map Char.toNat).foldr insertOnce []
  basic ++ (if basic = [] then [] else ['-']) ++
    (Writing.all s 128 ⟨[], 0, 72, basic.length⟩ others).text

/-- Adds the number at the front to `sum`; there is also the text after it. -/
def addNumber? (bias place weight sum : Nat) : List Char → Option (Nat × List Char)
  | [] => none
  | c :: rest =>
    match digitValue? c with
    | none => none
    | some d =>
      let t := threshold place bias
      if d < t then some (sum + d * weight, rest)
      else addNumber? bias (place + 36) (weight * (36 - t)) (sum + d * weight) rest

theorem addNumber?_rest_lt {bias place weight sum : Nat} {s : List Char} {r : Nat × List Char}
    (h : addNumber? bias place weight sum s = some r) : r.2.length < s.length := by
  induction s generalizing place weight sum with
  | nil => simp [addNumber?] at h
  | cons c rest ih =>
    rw [addNumber?] at h
    split at h
    · simp at h
    · simp only at h
      split at h
      · cases h
        simp
      · have := ih h
        simp only [List.length_cons]
        omega

/-- Puts characters in at the places that the numbers name. -/
def fill? (bias n place : Nat) (text : List Char) (s : List Char) : Option (List Char) :=
  if s = [] then some text
  else
    match h : addNumber? bias 36 1 place s with
    | none => none
    | some (sum, rest) =>
      have := addNumber?_rest_lt h
      let count := text.length + 1
      let n := n + sum / count
      if n.isValidChar then
        fill? (adapted (sum - place) count (place = 0)) n (sum % count + 1)
          (text.insertIdx (sum % count) (Char.ofNat n)) rest
      else none
termination_by s.length
decreasing_by assumption

/-- The text whose encoded form this is. The last hyphen ends the characters that are ASCII. -/
def decode? (s : List Char) : Option (List Char) :=
  if s.all isBasic then
    match s.reverse.dropWhile (· ≠ '-') with
    | [] => fill? 72 128 0 [] s
    | _ :: basic => fill? 72 128 0 basic.reverse (s.drop (basic.length + 1))
  else none

end Placard.Url.Punycode

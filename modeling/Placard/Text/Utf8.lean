import Placard.Text.Blank

/-! Text out of bytes that need not be well formed: each ill-formed stretch gives way to one
replacement character. -/
namespace Placard.Text

/-- How many bytes follow a first byte, and the range of the one after it. -/
def lead? (b : UInt8) : Option (Nat × UInt8 × UInt8) :=
  if 0xC2 ≤ b ∧ b ≤ 0xDF then some (1, 0x80, 0xBF)
  else if b = 0xE0 then some (2, 0xA0, 0xBF)
  else if b = 0xED then some (2, 0x80, 0x9F)
  else if 0xE1 ≤ b ∧ b ≤ 0xEF then some (2, 0x80, 0xBF)
  else if b = 0xF0 then some (3, 0x90, 0xBF)
  else if 0xF1 ≤ b ∧ b ≤ 0xF3 then some (3, 0x80, 0xBF)
  else if b = 0xF4 then some (3, 0x80, 0x8F)
  else none

/-- Reads the bytes that follow; the value is there only if none is amiss. -/
def tails (value : Nat) (low high : UInt8) : Nat → List UInt8 → Option Nat × List UInt8
  | 0, rest => (some value, rest)
  | _ + 1, [] => (none, [])
  | n + 1, b :: rest =>
    if low ≤ b ∧ b ≤ high then tails (value * 64 + (b.toNat - 0x80)) 0x80 0xBF n rest
    else (none, b :: rest)

theorem tails_rest_le (value : Nat) (low high : UInt8) (n : Nat) (s : List UInt8) :
    (tails value low high n s).2.length ≤ s.length := by
  induction n generalizing value low high s with
  | zero => simp [tails]
  | succ n ih =>
    cases s with
    | nil => simp [tails]
    | cons b rest =>
      rw [tails]
      split
      · exact Nat.le_succ_of_le (ih ..)
      · simp

/-- The bits of a first byte that belong to the character. -/
def leadBits (followers : Nat) (b : UInt8) : Nat := b.toNat % Nat.pow 2 (6 - followers)

def decode : List UInt8 → List Char
  | [] => []
  | b :: rest =>
    if b < 0x80 then Char.ofNat b.toNat :: decode rest
    else
      match lead? b with
      | none => '\uFFFD' :: decode rest
      | some (n, low, high) =>
        have := tails_rest_le (leadBits n b) low high n rest
        match (tails (leadBits n b) low high n rest).1 with
        | some value => Char.ofNat value :: decode (tails (leadBits n b) low high n rest).2
        | none => '\uFFFD' :: decode (tails (leadBits n b) low high n rest).2
termination_by s => s.length
decreasing_by all_goals (simp only [List.length_cons]; omega)

/-- Without the mark of the byte order at its front. -/
def withoutMark : List UInt8 → List UInt8
  | 0xEF :: 0xBB :: 0xBF :: rest => rest
  | bytes => bytes

end Placard.Text

import Placard.Proofs.Config.Naming

/-! How the text of a variable arrives in a setting that holds a text. A text that is taken for a flag
or for a number arrives as that flag or number is written, which need not be how it was given. -/
namespace Placard

namespace Double

theorem digitsValue_eq (s : List Char) : digitsValue s = Nat.ofDigitChars 10 s 0 := by
  simp only [digitsValue,Nat.ofDigitChars,Nat.mul_comm]
  rfl

theorem digits?_toDigits (n : Nat) : digits? (Nat.toDigits 10 n) = some n := by
  have digits : (Nat.toDigits 10 n).all Char.isDigit :=
    List.all_eq_true.mpr fun _ => Nat.isDigit_of_mem_toDigits (by decide) (by decide)
  rw [digits?,if_pos ⟨Nat.toDigits_ne_nil,digits⟩,digitsValue_eq,Nat.ofDigitChars_ten_toDigits]

theorem splitSign_toDigits (n : Nat) : splitSign (Nat.toDigits 10 n) = (false,Nat.toDigits 10 n) := by
  have digits (c : Char) (member : c ∈ Nat.toDigits 10 n) : c.isDigit :=
    Nat.isDigit_of_mem_toDigits (by decide) (by decide) member
  unfold splitSign
  split
  next rest same => exact absurd (digits '-' (same ▸ List.mem_cons_self)) (by decide)
  next rest same => exact absurd (digits '+' (same ▸ List.mem_cons_self)) (by decide)
  next => rfl

theorem toList_toString_int (i : Int) :
    (toString i).toList =
      if 0 ≤ i then Nat.toDigits 10 i.toNat else '-' :: Nat.toDigits 10 (-i).toNat := by
  have text : toString i = i.repr := rfl
  rw [text,Int.repr_eq_if]
  split <;> simp

/-- A number of 64 bits is read back from how it is written. -/
theorem int64OfText?_toString {i : Int} (low : -Int.pow 2 63 ≤ i) (high : i < Int.pow 2 63) :
    int64OfText? (toString i) = some i := by
  have range := And.intro low high
  rw [int64OfText?,toList_toString_int]
  by_cases sign : 0 ≤ i
  · have value : (i.toNat : Int) = i := Int.toNat_of_nonneg sign
    rw [if_pos sign,splitSign_toDigits]
    simp only [digits?_toDigits]
    rw [Option.bind_some]
    simp only [Bool.false_eq_true,if_false,value]
    rw [if_pos range]
  · have value : -((-i).toNat : Int) = i := by omega
    rw [if_neg sign,splitSign]
    simp only [digits?_toDigits]
    rw [Option.bind_some]
    simp only [if_true,value]
    rw [if_pos range]

theorem int64OfText?_range {s : String} {i : Int} (read : int64OfText? s = some i) :
    -Int.pow 2 63 ≤ i ∧ i < Int.pow 2 63 := by
  simp only [int64OfText?,Option.bind_eq_some_iff,Option.ite_none_right_eq_some,
    Option.some.injEq] at read
  obtain ⟨n,-,range,rfl⟩ := read
  exact range

end Double

namespace Config

open ConfigValue

def arriving (text : String) : String :=
  match Text.lowercased text with
  | "true" => "true"
  | "false" => "false"
  | _ =>
    match Double.int64OfText? text with
    | some i => toString i
    | none =>
      match Double.ofText? text with
      | some d => d.written Double.plainLayout
      | none => text

def Unflagged (text : String) : Prop :=
  Text.lowercased text ≠ "true" ∧ Text.lowercased text ≠ "false"

/-- The texts that arrive as they were given. -/
inductive Kept : String → Prop
  | yes : Kept "true"
  | no : Kept "false"
  | whole (i : Int) (low : -Int.pow 2 63 ≤ i) (high : i < Int.pow 2 63) : Kept (toString i)
  | float (text : String) (d : Double) (unflagged : Unflagged text)
      (broken : Double.int64OfText? text = none) (read : Double.ofText? text = some d)
      (written : d.written Double.plainLayout = text) : Kept text
  | plain (text : String) (unflagged : Unflagged text) (broken : Double.int64OfText? text = none)
      (unread : Double.ofText? text = none) : Kept text

theorem arriving_unflagged {text : String} (unflagged : Unflagged text) :
    arriving text =
      match Double.int64OfText? text with
      | some i => toString i
      | none =>
        match Double.ofText? text with
        | some d => d.written Double.plainLayout
        | none => text := by
  unfold arriving
  split
  next yes => exact absurd yes unflagged.1
  next no => exact absurd no unflagged.2
  next => rfl

theorem readText_variableValue {setting : String} (single : setting ≠ listSetting) (text : String) :
    readText (variableValue setting text) = .ok (arriving text) := by
  unfold variableValue
  split
  next yes => simp only [arriving,yes]; rfl
  next no => simp only [arriving,no]; rfl
  next yes no =>
    rw [arriving_unflagged ⟨yes,no⟩]
    cases Double.int64OfText? text with
    | some i => rfl
    | none =>
      cases Double.ofText? text with
      | some d => rfl
      | none => simp only [if_neg single]; rfl

theorem unflagged_toString (i : Int) : Unflagged (toString i) := by
  have marks : ∀ c ∈ (toString i).toList, c = '-' ∨ c.isDigit := by
    have digits (n : Nat) (c : Char) (member : c ∈ Nat.toDigits 10 n) : c = '-' ∨ c.isDigit :=
      .inr (Nat.isDigit_of_mem_toDigits (by decide) (by decide) member)
    rw [Double.toList_toString_int]
    split
    · exact digits _
    · exact List.forall_mem_cons.mpr ⟨.inl rfl,digits _⟩
  have same : Text.lowercased (toString i) = toString i := by
    refine Text.lowercased_uncapital fun c member => ?_
    rcases marks c member with rfl | digit
    · decide
    · exact Text.uncapital_of_isDigit digit
  rw [Unflagged,same]
  constructor
  · intro yes
    exact absurd (marks 't' (by rw [yes]; decide)) (by decide)
  · intro no
    exact absurd (marks 'f' (by rw [no]; decide)) (by decide)

/-- A text arrives unchanged just if it is written as a flag or a number would be, or is neither. -/
theorem arriving_eq_self_iff (text : String) : arriving text = text ↔ Kept text := by
  constructor
  · intro same
    by_cases unflagged : Unflagged text
    · rw [arriving_unflagged unflagged] at same
      cases whole : Double.int64OfText? text with
      | some i =>
        simp only [whole] at same
        obtain ⟨low,high⟩ := Double.int64OfText?_range whole
        exact same ▸ .whole i low high
      | none =>
        cases float : Double.ofText? text with
        | some d =>
          simp only [whole,float] at same
          exact .float text d unflagged whole float same
        | none => exact .plain text unflagged whole float
    · unfold arriving at same
      split at same
      next => exact same ▸ .yes
      next => exact same ▸ .no
      next yes no => exact absurd ⟨yes,no⟩ unflagged
  · intro kept
    cases kept with
    | yes | no => decide +kernel
    -- What is written as a whole number would be is no flag, and is read back as that number.
    | whole i low high =>
      rw [arriving_unflagged (unflagged_toString i),Double.int64OfText?_toString low high]
    | float _ d unflagged broken read written =>
      rw [arriving_unflagged unflagged,broken,read]
      exact written
    | plain _ unflagged broken unread => rw [arriving_unflagged unflagged,broken,unread]

end Config
end Placard

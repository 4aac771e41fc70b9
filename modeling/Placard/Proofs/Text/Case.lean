import Mathlib
import Placard.Text.Letters

/-! Texts in small letters, and what can be checked of a text letter by letter. -/
namespace Placard.Text

theorem forall_of_all {p : Char → Prop} [DecidablePred p] {s : List Char} (all : s.all fun c => p c) :
    ∀ c ∈ s, p c := by
  simpa using all

theorem all_of_forall {p : Char → Prop} [DecidablePred p] {s : List Char} (each : ∀ c ∈ s, p c) :
    s.all fun c => p c := by
  simpa using each

theorem lowerAfter_small {s : List Char} (small : ∀ c ∈ s, isAscii c ∧ c.toLower = c)
    (before : List Char) : lowerAfter before s = s := by
  induction s generalizing before with
  | nil => rfl
  | cons c rest ih =>
    obtain ⟨⟨ascii,same⟩,small⟩ := List.forall_mem_cons.mp small
    have other : c ≠ capitalSigma := by
      rintro rfl
      exact absurd ascii (by decide)
    simp [lowerAfter,other,lowerChar,ascii,same,ih small]

theorem lowercased_small {s : String} (small : ∀ c ∈ s.toList, isAscii c ∧ c.toLower = c) :
    lowercased s = s := by
  simp [lowercased,lower,lowerAfter_small small]

theorem lowercased_uncapital {s : String}
    (low : ∀ c ∈ s.toList, c.toNat < 128 ∧ ¬ (65 ≤ c.toNat ∧ c.toNat ≤ 90)) : lowercased s = s := by
  refine lowercased_small fun c member => ?_
  obtain ⟨ascii,small⟩ := low c member
  refine ⟨by simp [isAscii,ascii],?_⟩
  rw [Char.toLower,dif_neg]
  simpa [UInt32.le_iff_toNat_le] using small

theorem uncapital_of_isDigit {c : Char} (digit : c.isDigit) :
    c.toNat < 128 ∧ ¬ (65 ≤ c.toNat ∧ c.toNat ≤ 90) := by
  simp only [Char.isDigit,UInt32.le_iff_toNat_le,ge_iff_le,Bool.and_eq_true,
    decide_eq_true_eq] at digit
  exact ⟨Nat.lt_of_le_of_lt digit.2 (by decide),
    fun capital => absurd (Nat.le_trans capital.1 digit.2) (by decide)⟩

end Placard.Text

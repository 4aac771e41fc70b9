import Placard.Proofs.Json.Nested

/-! What printed documents look like. Control characters are escaped in strings and stand nowhere
else, so a compact document is one line, whatever its strings hold. -/
namespace Placard

def Visible (text : List Char) : Prop := ∀ c ∈ text, 32 ≤ c.toNat

instance : DecidablePred Visible := List.decidableBAll fun c : Char => 32 ≤ c.toNat

theorem visible_append {text more : List Char} :
    Visible (text ++ more) ↔ Visible text ∧ Visible more := List.forall_mem_append

theorem visible_cons {c : Char} {text : List Char} :
    Visible (c :: text) ↔ 32 ≤ c.toNat ∧ Visible text := List.forall_mem_cons

theorem Visible.sublist {text part : List Char} (visible : Visible text)
    (within : part.Sublist text) : Visible part :=
  fun c member => visible c (within.subset member)

theorem Visible.one_line {text : List Char} (visible : Visible text) : '\n' ∉ text := by
  intro member
  have above : 32 ≤ '\n'.toNat := visible '\n' member
  exact absurd above (by decide)

theorem visible_digits {digits : List Char} (all : ∀ c ∈ digits, c.isDigit) : Visible digits := by
  intro c member
  have above := (Char.isDigit_iff_toNat.mp (all c member)).1
  have zero : '0'.toNat = 48 := rfl
  omega

theorem visible_toDigits (n : Nat) : Visible (Nat.toDigits 10 n) :=
  visible_digits fun _ member => Nat.isDigit_of_mem_toDigits (by decide) (by decide) member

namespace Double

theorem visible_natural (n : Nat) : Visible (toString n).toList := by
  have digits : (toString n).toList = Nat.toDigits 10 n := by simp
  rw [digits]
  exact visible_toDigits n

theorem visible_signed {s : String} (visible : Visible s.toList) (negative : Bool) :
    Visible (signed negative s).toList := by
  cases negative with
  | false => exact visible
  | true =>
    rw [signed,if_pos rfl,String.toList_append]
    exact visible_append.mpr ⟨by decide,visible⟩

theorem visible_zeros (n : Nat) : Visible (zeros n).toList := by
  refine visible_digits fun c member => ?_
  rw [zeros,String.toList_ofList] at member
  rw [List.eq_of_mem_replicate member]
  decide

theorem visible_positionalText (keepsPoint : Bool) {digits : String}
    (visible : Visible digits.toList) (p : Int) :
    Visible (positionalText keepsPoint digits p).toList := by
  unfold positionalText
  split
  · simp only [String.toList_append,visible_append]
    exact ⟨⟨visible,visible_zeros _⟩,by cases keepsPoint <;> decide⟩
  · simp only
    split
    · simp only [String.toList_append,String.toList_ofList,visible_append]
      exact ⟨⟨visible.sublist (List.take_sublist _ _),by decide⟩,
        visible.sublist (List.drop_sublist _ _)⟩
    · simp only [String.toList_append,visible_append]
      exact ⟨⟨by decide,visible_zeros _⟩,visible⟩

theorem visible_exponentText {digits : String} (visible : Visible digits.toList) (p : Int) :
    Visible (exponentText digits p).toList := by
  simp only [exponentText,String.toList_append,String.toList_ofList,visible_append]
  refine ⟨⟨⟨visible.sublist (List.take_sublist _ _),?_⟩,?_⟩,visible_natural _⟩
  · split
    · decide
    · rw [String.toList_append]
      refine visible_append.mpr ⟨by decide,?_⟩
      rw [String.toList_ofList]
      exact visible.sublist (List.drop_sublist _ _)
  · split <;> decide

theorem visible_written (layout : Layout) (d : Double) : Visible (d.written layout).toList := by
  unfold written
  split
  · decide
  split
  · exact visible_signed (by decide) _
  split
  · exact visible_signed (by cases layout.keepsPoint <;> decide) _
  · rcases d.shortest with ⟨n,p⟩
    simp only
    rcases reduced n p 20 with ⟨n,p⟩
    refine visible_signed ?_ _
    split
    · exact visible_positionalText _ (visible_natural _) _
    · exact visible_exponentText (visible_natural _) _

end Double

namespace Json

theorem visible_numberText (i : Int) : Visible (numberText i) := by
  by_cases sign : 0 ≤ i
  · have text : numberText i = Nat.toDigits 10 i.toNat := by
      simp [numberText,Int.repr_eq_if,sign]
    rw [text]
    exact visible_toDigits _
  · have text : numberText i = '-' :: Nat.toDigits 10 (-i).toNat := by
      simp [numberText,Int.repr_eq_if,sign]
    rw [text]
    exact visible_cons.mpr ⟨by decide,visible_toDigits _⟩

theorem visible_hexDigit {n : Nat} (small : n < 16) : 32 ≤ (Text.hexDigit n).toNat := by
  have all : ∀ n < 16, 32 ≤ (Text.hexDigit n).toNat := by decide
  exact all n small

theorem visible_escapedChar (c : Char) : Visible (escapedChar c) := by
  unfold escapedChar
  -- Seven characters have a short escape of their own.
  iterate 7
    split
    · decide
  split
  next control =>
    have front : Visible ['\\','u','0','0'] := by decide
    have digits : Visible [Text.hexDigit (c.toNat / 16),Text.hexDigit (c.toNat % 16)] := by
      simp only [visible_cons]
      exact ⟨visible_hexDigit (by omega),visible_hexDigit (by omega),List.forall_mem_nil _⟩
    exact visible_append.mpr ⟨front,digits⟩
  next visible => exact List.forall_mem_singleton.mpr (Nat.not_lt.mp visible)

theorem visible_encodeString (s : String) : Visible (encodeString s) := by
  rw [encodeString,List.cons_append,visible_cons,visible_append]
  refine ⟨by decide,fun c member => ?_,by decide⟩
  obtain ⟨d,-,escaped⟩ := List.mem_flatMap.mp member
  exact visible_escapedChar d c escaped

theorem visible_printItems {items : List Json} (visible : ∀ v ∈ items, Visible v.print) :
    Visible (printItems items) := by
  induction items with
  | nil => exact List.forall_mem_nil _
  | cons v rest ih =>
    obtain ⟨here,later⟩ := List.forall_mem_cons.mp visible
    cases rest with
    | nil => exact here
    | cons u rest => exact visible_append.mpr ⟨here,visible_cons.mpr ⟨by decide,ih later⟩⟩

theorem visible_printFields {fields : List (String × Json)}
    (visible : ∀ f ∈ fields, Visible f.2.print) : Visible (printFields fields) := by
  induction fields with
  | nil => exact List.forall_mem_nil _
  | cons f rest ih =>
    obtain ⟨here,later⟩ := List.forall_mem_cons.mp visible
    have member : Visible (encodeString f.1 ++ ':' :: f.2.print) :=
      visible_append.mpr ⟨visible_encodeString f.1,visible_cons.mpr ⟨by decide,here⟩⟩
    cases rest with
    | nil => exact member
    | cons g rest => exact visible_append.mpr ⟨member,visible_cons.mpr ⟨by decide,ih later⟩⟩

/-- A document is printed without control characters. -/
theorem visible_print (v : Json) : Visible v.print := by
  induction v using nested_induction with
  | null => decide
  | bool b => cases b <;> decide
  | int i => exact visible_numberText i
  | float d => exact Double.visible_written _ d
  | str s => exact visible_encodeString s
  | arr items ih =>
    rw [print,List.cons_append,visible_cons,visible_append]
    exact ⟨by decide,visible_printItems ih,by decide⟩
  | obj fields ih =>
    rw [print,List.cons_append,visible_cons,visible_append]
    exact ⟨by decide,visible_printFields ih,by decide⟩

theorem compact_one_line (v : Json) : '\n' ∉ v.compact.toList := by
  rw [compact,String.toList_ofList]
  exact v.visible_print.one_line

end Json
end Placard

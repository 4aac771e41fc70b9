import Placard.Proofs.Text.Utf8
import Placard.Proofs.Url.Resolving

/-! Reading percent-encoded texts back. A place that keeps no percent sign loses nothing of a text, and
neither does the value of a form field; what a place does not keep, its text does not show. -/
namespace Placard.Url

theorem digitValue?_hexDigit {n : Nat} (small : n < 16) : digitValue? 16 (hexDigit n) = some n := by
  revert n
  decide

theorem byte?_hexDigits (b : UInt8) :
    byte? '%' (hexDigit (b.toNat / 16)) (hexDigit (b.toNat % 16)) = some b := by
  have high := digitValue?_hexDigit (Nat.div_lt_of_lt_mul (show b.toNat < 16 * 16 from b.toNat_lt))
  have low := digitValue?_hexDigit (Nat.mod_lt b.toNat (by decide : 0 < 16))
  have whole : b.toNat / 16 * 16 + b.toNat % 16 = b.toNat := Nat.div_add_mod' ..
  simp [byte?,numeral?,high,low,whole]

theorem decode_encodeByte (b : UInt8) (rest : List Char) :
    decode (encodeByte b ++ rest) = b :: decode rest := by
  rw [encodeByte,List.cons_append,List.cons_append,List.cons_append,List.nil_append,decode,
    byte?_hexDigits]

theorem decode_encodeBytes (bytes : List UInt8) (rest : List Char) :
    decode (bytes.flatMap encodeByte ++ rest) = bytes ++ decode rest := by
  induction bytes with
  | nil => rfl
  | cons b bytes ih => rw [List.flatMap_cons,List.append_assoc,decode_encodeByte,ih,List.cons_append]

theorem decode_cons_other {c : Char} (other : c ≠ '%') (rest : List Char) :
    decode (c :: rest) = String.utf8EncodeChar c ++ decode rest := by
  match rest with
  | [] => rfl
  | [_] => rfl
  | high :: low :: rest =>
    have none : byte? c high low = none := if_neg other
    rw [decode,none]

/-- A text is read back from what is written for it where no percent sign stands for itself. -/
theorem decode_encode {kept : Char → Bool} {s : List Char} (marked : ∀ c ∈ s, kept c → c ≠ '%') :
    decode (encode kept s) = s.flatMap String.utf8EncodeChar := by
  induction s with
  | nil => rfl
  | cons c rest ih =>
    obtain ⟨first,later⟩ := List.forall_mem_cons.mp marked
    rw [encode,List.flatMap_cons,List.flatMap_cons,← encode,encodeChar]
    by_cases stays : kept c
    · rw [if_pos stays,List.singleton_append,decode_cons_other (first stays),ih later]
    · rw [if_neg stays,decode_encodeBytes,ih later]

theorem decoded?_encode {kept : Char → Bool} {s : String}
    (marked : ∀ c ∈ s.toList, kept c → c ≠ '%') : decoded? (encode kept s.toList) = some s := by
  have bytes : (⟨(s.toList.flatMap String.utf8EncodeChar).toArray⟩ : ByteArray) = s.toUTF8 := by
    rw [String.toUTF8_eq_toByteArray,← String.ofList_toList (s := s),String.toByteArray_ofList]
    ext1
    simp [List.utf8Encode]
  rw [decoded?,decode_encode marked,bytes,Text.fromUTF8?_toUTF8]

def decodedForm? (s : List Char) : Option String := decoded? (s.map fun c => if c = '+' then ' ' else c)

/-- With its plus signs read as spaces, the value of a field is its text, but for spaces, encoded. -/
theorem map_encodeForm (s : List Char) :
    (encodeForm s).map (fun c => if c = '+' then ' ' else c) =
      encode (fun c => c = ' ' || keptInForm c) s := by
  induction s with
  | nil => rfl
  | cons c rest ih =>
    have first : (if c = ' ' then ['+'] else encodeChar keptInForm c).map
        (fun c => if c = '+' then ' ' else c) = encodeChar (fun c => c = ' ' || keptInForm c) c := by
      by_cases space : c = ' '
      · simp [space,encodeChar]
      · have single : encodeChar keptInForm c = encode keptInForm [c] := by simp [encode]
        rw [if_neg space]
        refine (List.map_congr_left fun d member => if_neg ?_).trans ?_
        · rintro rfl
          exact not_mem_encode (by decide) (by decide) (fun _ => by decide) (single ▸ member)
        · simp [encodeChar,space]
    rw [encodeForm,List.flatMap_cons,List.map_append,← encodeForm,ih,first]
    rfl

theorem decodedForm?_encodeForm (s : String) : decodedForm? (encodeForm s.toList) = some s := by
  rw [decodedForm?,map_encodeForm]
  refine decoded?_encode fun c _ kept => ?_
  rintro rfl
  exact absurd kept (by decide)

end Placard.Url

import Placard.Json.Lexeme

/-! Printed scalars read as lexemes. Each gives the one lexeme that it was printed from, wherever it
stands and whatever follows, only that a number must not be followed by what could belong to it. -/
namespace Placard.Json

/-- Nothing at the front of the text could belong to a number before it. -/
def EndsNumber (rest : List Char) : Prop :=
  ∀ c ∈ rest.head?, ¬ c.isDigit ∧ c ≠ '.' ∧ c ≠ 'e' ∧ c ≠ 'E'

theorem endsNumber_nil : EndsNumber [] := by
  intro c member
  cases member

theorem endsNumber_cons {c : Char} (ends : ¬ c.isDigit ∧ c ≠ '.' ∧ c ≠ 'e' ∧ c ≠ 'E')
    (rest : List Char) : EndsNumber (c :: rest) := by
  rintro d ⟨⟩
  exact ends

theorem endsNumber_space {c : Char} (space : Text.isSpace c) (rest : List Char) :
    EndsNumber (c :: rest) := by
  have blank : c = ' ' ∨ c = '\n' ∨ c = '\t' ∨ c = '\r' := by
    simpa [Text.isSpace,or_assoc] using space
  rcases blank with rfl | rfl | rfl | rfl <;> exact endsNumber_cons (by decide) rest

/-- The text is read as one lexeme. -/
def Lexes (text : List Char) (lexeme : Lexeme) : Prop :=
  ∀ offset rest, EndsNumber rest → ∃ stop,
    tokens offset (text ++ rest) = ⟨lexeme,offset,stop⟩ :: tokens stop rest

theorem tokens_space {c : Char} (space : Text.isSpace c) (offset : Nat) (rest : List Char) :
    tokens offset (c :: rest) = tokens (offset + 1) rest := by
  rw [tokens,if_pos space]

theorem tokens_mark {c : Char} {lexeme : Lexeme} (mark : mark? c = some lexeme)
    (visible : Text.isSpace c = false) (offset : Nat) (rest : List Char) :
    tokens offset (c :: rest) = ⟨lexeme,offset,offset + 1⟩ :: tokens (offset + 1) rest := by
  rw [tokens,if_neg (by simp [visible])]
  simp [scan,mark]

theorem lexes_of_scan {c : Char} {text : List Char} {lexeme : Lexeme}
    (visible : Text.isSpace c = false)
    (scans : ∀ offset rest, EndsNumber rest → ∃ stop,
      scan c offset (text ++ rest) = ⟨lexeme,stop,rest⟩) : Lexes (c :: text) lexeme := by
  intro offset rest ends
  obtain ⟨stop,scanned⟩ := scans offset rest ends
  refine ⟨stop,?_⟩
  rw [List.cons_append,tokens,if_neg (by simp [visible]),scanned]

theorem scanWord_append (lexeme : Lexeme) (offset : Nat) (word rest : List Char) :
    scanWord lexeme offset word (word ++ rest) = ⟨lexeme,offset + word.length,rest⟩ := by
  induction word generalizing offset with
  | nil => rfl
  | cons c word ih =>
    simp only [List.cons_append,scanWord,if_pos,ih,List.length_cons]
    congr 1
    omega

theorem lexes_null : Lexes ['n','u','l','l'] .null :=
  lexes_of_scan (by decide) fun offset rest _ =>
    ⟨_,scanWord_append .null (offset + 1) ['u','l','l'] rest⟩

theorem lexes_true : Lexes ['t','r','u','e'] (.bool true) :=
  lexes_of_scan (by decide) fun offset rest _ =>
    ⟨_,scanWord_append (.bool true) (offset + 1) ['r','u','e'] rest⟩

theorem lexes_false : Lexes ['f','a','l','s','e'] (.bool false) :=
  lexes_of_scan (by decide) fun offset rest _ =>
    ⟨_,scanWord_append (.bool false) (offset + 1) ['a','l','s','e'] rest⟩

def Scan.clean (text : List Char) : Scan := ⟨text,none,none⟩

theorem hexValue?_hexDigit {n : Nat} (small : n < 16) : hexValue? (Text.hexDigit n) = some n := by
  have all : ∀ n < 16, hexValue? (Text.hexDigit n) = some n := by decide
  exact all n small

@[simp] theorem push_clean (text : List Char) (c : Char) (offset : Nat) :
    (Scan.clean text).push c offset = .clean (c :: text) := rfl

section scan

variable (s : Scan) (offset : Nat) (rest : List Char)

theorem scanString_plainEscape {e c : Char} (escape : plainEscape? e = some c) (apart : e ≠ 'u') :
    scanString s offset ('\\' :: e :: rest) =
      scanString (s.push c (offset + 2)) (offset + 2) rest := by
  rw [scanString]
  · simp [escape]
  · exact fun _ _ _ _ _ named => absurd named apart
  · exact apart

theorem scanString_hex {a b c d : Char} {n : Nat} (code : hexCode? a b c d = some n) :
    scanString s offset ('\\' :: 'u' :: a :: b :: c :: d :: rest) =
      scanString (s.pushCode n (offset + 6)) (offset + 6) rest := by
  rw [scanString]
  simp [code]

theorem scanString_plain {c : Char} (quote : c ≠ '"') (backslash : c ≠ '\\')
    (visible : ¬ c.toNat < 32) :
    scanString s offset (c :: rest) =
      scanString (s.push c (offset + 1)) (offset + c.utf8Size) rest := by
  rw [scanString]
  · simp [visible]
  · exact quote
  all_goals
    intros
    exact backslash ‹_›

end scan

theorem scanString_code {c : Char} (control : c.toNat < 32) (text : List Char) (offset : Nat)
    (rest : List Char) :
    scanString (.clean text) offset ('\\' :: 'u' :: '0' :: '0' ::
        Text.hexDigit (c.toNat / 16) :: Text.hexDigit (c.toNat % 16) :: rest) =
      scanString (.clean (c :: text)) (offset + 6) rest := by
  have code : hexCode? '0' '0' (Text.hexDigit (c.toNat / 16)) (Text.hexDigit (c.toNat % 16)) =
      some c.toNat := by
    have zero : hexValue? '0' = some 0 := by decide
    have high := hexValue?_hexDigit (n := c.toNat / 16) (by omega)
    have low := hexValue?_hexDigit (n := c.toNat % 16) (by omega)
    simp only [hexCode?,zero,high,low,Option.bind_eq_bind,Option.bind_some,Option.pure_def]
    congr 1
    omega
  have trail : ¬ (0xDC00 ≤ c.toNat ∧ c.toNat ≤ 0xDFFF) := by omega
  have lead : ¬ (0xD800 ≤ c.toNat ∧ c.toNat ≤ 0xDBFF) := by omega
  rw [scanString_hex _ _ _ code]
  simp [Scan.pushCode,Scan.clean,trail,lead]

theorem scanString_escapedChar (text : List Char) (offset : Nat) (c : Char) (rest : List Char) :
    ∃ next, scanString (.clean text) offset (escapedChar c ++ rest) =
      scanString (.clean (c :: text)) next rest := by
  have named {n : Nat} (code : c.toNat = n) : c = Char.ofNat n := by rw [← code,Char.ofNat_toNat]
  unfold escapedChar
  split
  next quote => exact ⟨_,scanString_plainEscape _ _ _ (by rw [quote]; rfl) (by decide)⟩
  split
  next backslash =>
    exact ⟨_,scanString_plainEscape _ _ _ (by rw [backslash]; rfl) (by decide)⟩
  split
  next line => exact ⟨_,scanString_plainEscape _ _ _ (by rw [line]; rfl) (by decide)⟩
  split
  next ret => exact ⟨_,scanString_plainEscape _ _ _ (by rw [ret]; rfl) (by decide)⟩
  split
  next tab => exact ⟨_,scanString_plainEscape _ _ _ (by rw [tab]; rfl) (by decide)⟩
  split
  next back =>
    exact ⟨_,scanString_plainEscape _ _ _ (by rw [named back]; rfl) (by decide)⟩
  split
  next feed =>
    exact ⟨_,scanString_plainEscape _ _ _ (by rw [named feed]; rfl) (by decide)⟩
  split
  next control => exact ⟨_,scanString_code control text offset rest⟩
  next quote backslash _ _ _ _ _ visible =>
    exact ⟨_,scanString_plain _ _ _ quote backslash visible⟩

theorem scanString_encoded (text : List Char) (offset : Nat) (s rest : List Char) :
    ∃ stop, scanString (.clean text) offset (s.flatMap escapedChar ++ '"' :: rest) =
      ⟨.string (.ok (String.ofList (text.reverse ++ s))),stop,rest⟩ := by
  induction s generalizing text offset with
  | nil => exact ⟨offset + 1,by simp [scanString,Scan.closed,Scan.clean]⟩
  | cons c s ih =>
    obtain ⟨next,first⟩ := scanString_escapedChar text offset c (s.flatMap escapedChar ++ '"' :: rest)
    obtain ⟨stop,later⟩ := ih (c :: text) next
    refine ⟨stop,?_⟩
    rw [List.flatMap_cons,List.append_assoc,first,later]
    simp

theorem lexes_encodeString (s : String) : Lexes (encodeString s) (.string (.ok s)) := by
  refine lexes_of_scan (by decide) fun offset rest _ => ?_
  obtain ⟨stop,scanned⟩ := scanString_encoded [] (offset + 1) s.toList rest
  refine ⟨stop,?_⟩
  simpa [scan,mark?,Scan.clean,Scan.empty] using scanned

def EndsDigits (rest : List Char) : Prop := ∀ c ∈ rest.head?, ¬ c.isDigit

theorem EndsNumber.endsDigits {rest : List Char} (ends : EndsNumber rest) : EndsDigits rest :=
  fun c front => (ends c front).1

theorem takeWhile_digits {digits rest : List Char} (all : ∀ c ∈ digits, c.isDigit)
    (ends : EndsDigits rest) :
    (digits ++ rest).takeWhile Char.isDigit = digits ∧
      (digits ++ rest).dropWhile Char.isDigit = rest := by
  have none : rest.takeWhile Char.isDigit = [] ∧ rest.dropWhile Char.isDigit = rest := by
    cases rest with
    | nil => simp
    | cons c rest => simp [ends c rfl]
  rw [List.takeWhile_append_of_pos all,List.dropWhile_append_of_pos all]
  simp [none]

/-- Digits go into a significand as long as the number that they make fits a word. -/
theorem foldl_push (n : Nat) {digits : List Char}
    (fits : Nat.ofDigitChars 10 digits n ≤ largestWord) :
    digits.foldl Significand.push ⟨n,0,false⟩ = ⟨Nat.ofDigitChars 10 digits n,0,false⟩ := by
  induction digits generalizing n with
  | nil => rfl
  | cons c rest ih =>
    have grows (m : Nat) (rest : List Char) : m ≤ Nat.ofDigitChars 10 rest m := by
      induction rest generalizing m with
      | nil => simp
      | cons d rest ih =>
        rw [Nat.ofDigitChars_cons]
        exact Nat.le_trans (by omega) (ih _)
    rw [Nat.ofDigitChars_cons] at fits ⊢
    have first : Significand.push ⟨n,0,false⟩ c = ⟨10 * n + (c.toNat - '0'.toNat),0,false⟩ := by
      have small := Nat.le_trans (grows _ rest) fits
      have next : n * 10 + digitValue c = 10 * n + (c.toNat - '0'.toNat) := by
        rw [Nat.mul_comm]
        rfl
      simp only [Significand.push,next,Bool.false_or,decide_eq_true_eq,if_neg (Nat.not_lt.mpr small)]
    rw [List.foldl_cons,first]
    exact ih _ fits

theorem toDigits_zero_cons {n : Nat} {digits : List Char} (written : Nat.toDigits 10 n = '0' :: digits) :
    n = 0 ∧ digits = [] := by
  induction n using Nat.strongRecOn generalizing digits with
  | _ n ih =>
    by_cases small : n < 10
    · rw [Nat.toDigits_of_lt_base small] at written
      simpa [eq_comm] using written
    · rw [Nat.toDigits_of_base_le (by decide) (by omega)] at written
      cases front : Nat.toDigits 10 (n / 10) with
      | nil => exact absurd front Nat.toDigits_ne_nil
      | cons c rest =>
        rw [front,List.cons_append,List.cons.injEq] at written
        obtain ⟨rfl,-⟩ := written
        have := (ih (n / 10) (by omega) front).1
        omega

/-- After a number nothing more is scanned. -/
theorem scanFraction_ends (negative : Bool) (s : Significand) (offset : Nat) {rest : List Char}
    (ends : EndsNumber rest) :
    scanFraction negative s offset rest = ⟨.number (integerValue negative s offset),offset,rest⟩ := by
  cases rest with
  | nil => rfl
  | cons c rest =>
    obtain ⟨-,point,small,large⟩ := ends c rfl
    rw [scanFraction]
    · simp [scanExponent,small,large]
    · rintro _ ⟨⟩
      exact point rfl

theorem scanWhole_toDigits (negative : Bool) (offset : Nat) {n : Nat} {c : Char}
    {digits rest : List Char} (written : Nat.toDigits 10 n = c :: digits) (fits : n ≤ largestWord)
    (ends : EndsNumber rest) :
    ∃ stop, scanWhole negative offset c (digits ++ rest) =
      ⟨.number (integerValue negative ⟨n,0,false⟩ stop),stop,rest⟩ := by
  by_cases zero : c = '0'
  · subst zero
    obtain ⟨rfl,rfl⟩ := toDigits_zero_cons written
    have ended : (rest.head?.map Char.isDigit).getD false = false := by
      cases rest with
      | nil => rfl
      | cons c rest => simpa using (ends c rfl).1
    refine ⟨offset,?_⟩
    rw [scanWhole,if_pos rfl,List.nil_append,if_neg (by simp [ended])]
    exact scanFraction_ends negative .zero offset ends
  · have all : ∀ d ∈ digits, d.isDigit := fun d member =>
      Nat.isDigit_of_mem_toDigits (by decide) (by decide) (written ▸ List.mem_cons_of_mem c member)
    obtain ⟨taken,dropped⟩ := takeWhile_digits all ends.endsDigits
    have value : Nat.ofDigitChars 10 (c :: digits) 0 = n := by
      rw [← written,Nat.ofDigitChars_ten_toDigits]
    have pushed : (c :: digits).foldl Significand.push .zero = ⟨n,0,false⟩ := by
      rw [Significand.zero,foldl_push 0 (by rw [value]; exact fits),value]
    refine ⟨offset + digits.length,?_⟩
    rw [scanWhole,if_neg zero]
    simp only [taken,dropped,pushed]
    exact scanFraction_ends negative ⟨n,0,false⟩ _ ends

theorem ne_of_isDigit {c d : Char} (digit : c.isDigit) (other : d.isDigit = false) : c ≠ d := by
  rintro rfl
  simp [digit] at other

/-- A digit begins no other lexeme than a number. -/
theorem scan_digit {c : Char} (digit : c.isDigit) (offset : Nat) (rest : List Char) :
    scan c offset rest = scanWhole false (offset + 1) c rest := by
  have apart (d : Char) (other : d.isDigit = false) : c ≠ d := ne_of_isDigit digit other
  have mark : mark? c = none := by
    unfold mark?
    split <;> first | rfl | simp [Char.isDigit] at digit
  simp only [scan,mark,apart '"' rfl,apart 'n' rfl,apart 't' rfl,apart 'f' rfl,apart '-' rfl,digit,
    if_false,if_true]

theorem isSpace_digit {c : Char} (digit : c.isDigit) : Text.isSpace c = false := by
  have apart (d : Char) (other : d.isDigit = false) : c ≠ d := ne_of_isDigit digit other
  simp [Text.isSpace,apart ' ' rfl,apart '\n' rfl,apart '\t' rfl,apart '\r' rfl]

theorem toDigits_cons (n : Nat) :
    ∃ c digits, Nat.toDigits 10 n = c :: digits ∧ c.isDigit ∧ Text.isSpace c = false := by
  cases written : Nat.toDigits 10 n with
  | nil => exact absurd written Nat.toDigits_ne_nil
  | cons c digits =>
    have digit : c.isDigit :=
      Nat.isDigit_of_mem_toDigits (by decide) (by decide) (written ▸ List.mem_cons_self)
    exact ⟨c,digits,rfl,digit,isSpace_digit digit⟩

theorem lexes_natural {n : Nat} (fits : n ≤ largestWord) :
    Lexes (Nat.toDigits 10 n) (.number (.ok (.int n))) := by
  obtain ⟨c,digits,written,digit,visible⟩ := toDigits_cons n
  rw [written]
  refine lexes_of_scan visible fun offset rest ends => ?_
  obtain ⟨stop,scanned⟩ := scanWhole_toDigits false (offset + 1) written fits ends
  refine ⟨stop,?_⟩
  rw [scan_digit digit,scanned]
  simp [integerValue]

theorem lexes_negative {n : Nat} (positive : 0 < n) (fits : n ≤ Nat.pow 2 63) :
    Lexes ('-' :: Nat.toDigits 10 n) (.number (.ok (.int (-n)))) := by
  obtain ⟨c,digits,written,digit,-⟩ := toDigits_cons n
  rw [written]
  refine lexes_of_scan (by decide) fun offset rest ends => ?_
  have small : n ≤ largestWord := Nat.le_trans fits (by decide)
  obtain ⟨stop,scanned⟩ := scanWhole_toDigits true (offset + 2) written small ends
  have value : integerValue true ⟨n,0,false⟩ stop = .ok (.int (-n)) := by
    have range : (0 < n && n ≤ Nat.pow 2 63) = true := by
      simp only [Bool.and_eq_true,decide_eq_true_eq]
      exact ⟨positive,fits⟩
    simp only [integerValue,Bool.false_eq_true,if_false,Bool.not_true,range,if_true]
  refine ⟨stop,?_⟩
  rw [← value,← scanned]
  simp [scan,mark?,scanNegative,digit]

def IsWord (i : Int) : Prop := -Int.pow 2 63 ≤ i ∧ i ≤ largestWord

instance : DecidablePred IsWord := fun i =>
  inferInstanceAs (Decidable (-Int.pow 2 63 ≤ i ∧ i ≤ largestWord))

theorem lexes_numberText {i : Int} (word : IsWord i) :
    Lexes (numberText i) (.number (.ok (.int i))) := by
  obtain ⟨low,high⟩ := word
  have lowest : Int.pow 2 63 = (Nat.pow 2 63 : Nat) := rfl
  by_cases sign : 0 ≤ i
  · have text : numberText i = Nat.toDigits 10 i.toNat := by
      simp [numberText,Int.repr_eq_if,sign]
    have value : (i.toNat : Int) = i := Int.toNat_of_nonneg sign
    rw [text]
    simpa only [value] using lexes_natural (n := i.toNat) (by omega)
  · have text : numberText i = '-' :: Nat.toDigits 10 (-i).toNat := by
      simp [numberText,Int.repr_eq_if,sign]
    have value : -((-i).toNat : Int) = i := by omega
    rw [text]
    simpa only [value] using lexes_negative (n := (-i).toNat) (by omega) (by omega)

theorem floatValue_zero (negative : Bool) (exponent : Int) (stop : Nat) :
    floatValue negative 0 exponent stop = .ok (.float (.zero negative)) := by
  have zero : (Double.ofNat 0).isZero := by decide
  simp only [floatValue,scaleDouble,zero,if_true]

/-- After a whole part that is zero, a zero behind the point ends the number if nothing follows. -/
theorem scanFraction_zero (negative : Bool) (offset : Nat) {rest : List Char}
    (ends : EndsNumber rest) : ∃ stop, scanFraction negative .zero offset ('.' :: '0' :: rest) =
      ⟨.number (.ok (.float (.zero negative))),stop,rest⟩ := by
  have digit : ∀ c ∈ ['0'], c.isDigit := List.forall_mem_singleton.mpr rfl
  obtain ⟨taken,dropped⟩ := takeWhile_digits digit ends.endsDigits
  rw [List.singleton_append] at taken dropped
  have pushed : Significand.push ⟨0,0,false⟩ '0' = ⟨0,0,false⟩ := rfl
  simp only [scanFraction,taken,dropped,Significand.zero,List.foldl_cons,List.foldl_nil,pushed,
    floatValue_zero]
  cases rest with
  | nil => exact ⟨_,rfl⟩
  | cons c rest =>
    obtain ⟨-,-,small,large⟩ := ends c rfl
    simp [scanExponent,small,large]

theorem floatText_negativeZero : floatText (.zero true) = ['-','0','.','0'] := by
  decide +kernel

/-- The zero with a sign is written with a point, and read as what it is. -/
theorem lexes_negativeZero :
    Lexes (floatText (.zero true)) (.number (.ok (.float (.zero true)))) := by
  rw [floatText_negativeZero]
  refine lexes_of_scan (by decide) fun offset rest ends => ?_
  obtain ⟨stop,scanned⟩ := scanFraction_zero true (offset + 2) ends
  refine ⟨stop,?_⟩
  rw [← scanned]
  rfl

end Placard.Json

import Placard.Proofs.Json.Grammar
import Placard.Proofs.Json.Mirroring

/-! Texts read by the grammar. Every spelling of a document gives a draft that shows the document:
strings are scanned piece by piece, numbers part by part, and brackets entry by entry. -/
namespace Placard.Json

theorem IsWhite.isSpace {c : Char} (white : IsWhite c) : Text.isSpace c := by
  rcases white with rfl | rfl | rfl | rfl <;> rfl

/-- What a scan comes to if these pieces follow: no text if there is a fault, and else its characters
and those of what waits with the pieces. -/
def Scan.meaning (s : Scan) (later : List Piece) : Option (List Char) :=
  match s.fault with
  | some _ => none
  | none => (decode (s.waiting.toList.map .half ++ later)).map (s.text.reverse ++ ·)

/-- What waits is the first half of a character. -/
def Scan.Ready (s : Scan) : Prop := ∀ high ∈ s.waiting, IsFirstHalf high

theorem ready_push (s : Scan) (c : Char) (offset : Nat) : (s.push c offset).Ready := by
  obtain ⟨text,waiting,fault⟩ := s
  cases waiting <;> simp [Scan.Ready,Scan.push,Scan.blame]

theorem meaning_push (s : Scan) (c : Char) (offset : Nat) (later : List Piece) :
    (s.push c offset).meaning later = s.meaning (.char c :: later) := by
  obtain ⟨text,waiting,fault⟩ := s
  cases fault <;> cases waiting <;> simp [Scan.push,Scan.blame,Scan.meaning,decode,Function.comp_def]

theorem pushCode_char (s : Scan) {code : Nat} (whole : ¬ IsHalf code) (offset : Nat) :
    (s.pushCode code offset).Ready ∧
      ∀ later, (s.pushCode code offset).meaning later =
        s.meaning (.char (Char.ofNat code) :: later) := by
  obtain ⟨text,waiting,fault⟩ := s
  have last : ¬ (0xDC00 ≤ code ∧ code ≤ 0xDFFF) := fun range =>
    whole (.inr ⟨range.1,Nat.lt_succ_of_le range.2⟩)
  have first : ¬ (0xD800 ≤ code ∧ code ≤ 0xDBFF) := fun range =>
    whole (.inl ⟨range.1,Nat.lt_succ_of_le range.2⟩)
  cases waiting with
  | none =>
    cases fault <;>
      simp [Scan.Ready,Scan.pushCode,Scan.meaning,decode,last,first,Function.comp_def]
  | some high =>
    cases fault <;> simp [Scan.Ready,Scan.pushCode,Scan.blame,Scan.meaning,decode,last]

theorem decode_half {code : Nat} (other : ¬ IsFirstHalf code) (later : List Piece) :
    decode (.half code :: later) = none := by
  rcases later with _ | ⟨c | last,later⟩ <;> simp [decode,other]

theorem pushCode_firstHalf (s : Scan) {code : Nat} (first : IsFirstHalf code) (offset : Nat) :
    (s.pushCode code offset).Ready ∧
      ∀ later, (s.pushCode code offset).meaning later = s.meaning (.half code :: later) := by
  obtain ⟨text,waiting,fault⟩ := s
  have range : 0xD800 ≤ code ∧ code ≤ 0xDBFF := ⟨first.1,Nat.le_of_lt_succ first.2⟩
  have last : ¬ (0xDC00 ≤ code ∧ code ≤ 0xDFFF) := by omega
  have lone : ¬ IsLastHalf code := fun range => by have := range.1; omega
  cases waiting with
  | none => cases fault <;> simp [Scan.Ready,Scan.pushCode,Scan.meaning,last,range,first]
  | some high => cases fault <;> simp [Scan.Ready,Scan.pushCode,Scan.blame,Scan.meaning,decode,last,lone]

theorem pushCode_lastHalf {s : Scan} (ready : s.Ready) {code : Nat} (last : IsLastHalf code)
    (offset : Nat) : (s.pushCode code offset).Ready ∧
      ∀ later, (s.pushCode code offset).meaning later = s.meaning (.half code :: later) := by
  obtain ⟨text,waiting,fault⟩ := s
  have range : 0xDC00 ≤ code ∧ code ≤ 0xDFFF := ⟨last.1,Nat.le_of_lt_succ last.2⟩
  have lone : ¬ IsFirstHalf code := fun first => by have := first.2; omega
  cases waiting with
  | none =>
    cases fault <;>
      simp [Scan.Ready,Scan.pushCode,Scan.blame,Scan.meaning,range,decode_half lone]
  | some high =>
    have first : IsFirstHalf high := ready high rfl
    cases fault <;>
      simp [Scan.Ready,Scan.pushCode,Scan.meaning,decode,range,first,last,Function.comp_def]

theorem hexValue?_of_isHex {c : Char} {n : Nat} (digit : IsHex c n) : hexValue? c = some n := by
  have small : ∀ n < 16, ("0123456789abcdef".toList[n]?).all (hexValue? · == some n) := by decide
  have large : ∀ n < 16, ("0123456789ABCDEF".toList[n]?).all (hexValue? · == some n) := by decide
  rcases digit with found | found
  · have worth := small n (List.getElem?_eq_some_iff.mp found).1
    rw [found] at worth
    exact beq_iff_eq.mp worth
  · have worth := large n (List.getElem?_eq_some_iff.mp found).1
    rw [found] at worth
    exact beq_iff_eq.mp worth

theorem plainEscape?_of_mem {letter c : Char} (listed : (letter,c) ∈ escapes) :
    plainEscape? letter = some c ∧ letter ≠ 'u' := by
  have all : ∀ p ∈ escapes, plainEscape? p.1 = some p.2 ∧ p.1 ≠ 'u' := by decide
  exact all _ listed

theorem scanString_escapedCode {digits : List Char} {code : Nat} (written : Code digits code)
    (s : Scan) (offset : Nat) (rest : List Char) :
    scanString s offset ('\\' :: 'u' :: digits ++ rest) =
      scanString (s.pushCode code (offset + 6)) (offset + 6) rest := by
  obtain ⟨first,second,third,fourth⟩ := written
  refine scanString_hex s offset rest ?_
  simp [hexCode?,hexValue?_of_isHex first,hexValue?_of_isHex second,hexValue?_of_isHex third,
    hexValue?_of_isHex fourth]

theorem scanString_piece {text : List Char} {piece : Piece} (spells : SpellsPiece text piece)
    {s : Scan} (ready : s.Ready) (offset : Nat) (rest : List Char) :
    ∃ s' next, scanString s offset (text ++ rest) = scanString s' next rest ∧ s'.Ready ∧
      ∀ later, s'.meaning later = s.meaning (piece :: later) := by
  cases spells with
  | @plain c quote backslash visible =>
    exact ⟨_,_,scanString_plain s offset rest quote backslash (Nat.not_lt.mpr visible),
      ready_push s c _,meaning_push s c _⟩
  | @escape letter c listed =>
    obtain ⟨escape,apart⟩ := plainEscape?_of_mem listed
    exact ⟨_,_,scanString_plainEscape s offset rest escape apart,ready_push s c _,
      meaning_push s c _⟩
  | code written whole =>
    exact ⟨_,_,scanString_escapedCode written s offset rest,pushCode_char s whole _⟩
  | half written half =>
    refine ⟨_,_,scanString_escapedCode written s offset rest,?_⟩
    rcases half with first | last
    · exact pushCode_firstHalf s first _
    · exact pushCode_lastHalf ready last _

theorem scanString_pieces {body : List Char} {pieces : List Piece} (spells : SpellsPieces body pieces)
    {s : Scan} (ready : s.Ready) (offset : Nat) (rest : List Char) :
    ∃ r stop, scanString s offset (body ++ '"' :: rest) = ⟨.string r,stop,rest⟩ ∧
      r.toOption = (s.meaning pieces).map String.ofList := by
  induction spells generalizing s offset with
  | nil =>
    refine ⟨_,_,rfl,?_⟩
    obtain ⟨text,waiting,fault⟩ := s
    cases fault <;> cases waiting <;>
      simp [Scan.blame,Scan.meaning,decode,Except.toOption]
  | @cons text more piece pieces first _ ih =>
    obtain ⟨s',next,step,ready,meaning⟩ := scanString_piece first ready offset (more ++ '"' :: rest)
    obtain ⟨r,stop,scanned,means⟩ := ih ready next
    refine ⟨r,stop,?_,?_⟩
    · rw [List.append_assoc,step,scanned]
    · rw [means,meaning]

/-- A spelling of a string is read as the string, or as a faulty one if it is no text. -/
theorem SpellsString.lexes {text : List Char} {n : Option String} (spells : SpellsString text n) :
    LexesString text (fun s => s.toOption = n) := by
  induction spells with
  | @quoted body pieces spells =>
    intro offset rest _
    have ready : Scan.empty.Ready := by simp [Scan.Ready,Scan.empty]
    obtain ⟨r,stop,scanned,means⟩ := scanString_pieces spells ready (offset + 1) rest
    refine ⟨r,offset,stop,stop,?_,?_⟩
    · have visible : ¬ Text.isSpace '"' := by decide
      have scanned : scan '"' offset (body ++ '"' :: rest) = ⟨.string r,stop,rest⟩ := by
        simpa [scan,mark?] using scanned
      rw [List.cons_append,List.append_assoc,List.singleton_append,tokens,if_neg visible,scanned]
    · simpa [Scan.meaning,Scan.empty] using means
  | before white _ ih =>
    intro offset rest ends
    rw [List.cons_append,tokens_space white.isSpace]
    exact ih (offset + 1) rest ends
  | @after c text s white _ ih =>
    intro offset rest ends
    obtain ⟨r,start,stop,next,read,means⟩ := ih offset (c :: rest)
      (endsNumber_space white.isSpace rest)
    refine ⟨r,start,stop,next + 1,?_,means⟩
    rw [List.append_assoc,List.singleton_append,read,tokens_space white.isSpace]

def IsScanned (scanned : Scanned) (rest : List Char) : Prop :=
  ∃ n stop, scanned = ⟨.number n,stop,rest⟩

section numbers

variable {rest : List Char} (negative : Bool) (offset : Nat)

theorem splitSign_digits {sign digits : List Char} (signs : sign ∈ [[],['+'],['-']])
    (all : AreDigits digits) (rest : List Char) :
    ∃ down, splitSign (sign ++ (digits ++ rest)) = (down,digits ++ rest) := by
  obtain ⟨some,all⟩ := all
  simp only [List.mem_cons,List.not_mem_nil,or_false] at signs
  rcases signs with rfl | rfl | rfl
  · obtain ⟨c,digits,rfl⟩ := List.exists_cons_of_ne_nil some
    have digit := all c List.mem_cons_self
    have plus : c ≠ '+' := ne_of_isDigit digit rfl
    have minus : c ≠ '-' := ne_of_isDigit digit rfl
    exact ⟨false,by simp [splitSign,plus,minus]⟩
  · exact ⟨false,rfl⟩
  · exact ⟨true,rfl⟩

theorem scanExponentDigits_digits {digits : List Char} (all : AreDigits digits)
    (ends : EndsNumber rest) (significand : Nat) (start : Int) (down : Bool) :
    IsScanned (scanExponentDigits negative significand start down offset (digits ++ rest)) rest := by
  obtain ⟨some,all⟩ := all
  obtain ⟨c,digits,rfl⟩ := List.exists_cons_of_ne_nil some
  obtain ⟨digit,all⟩ := List.forall_mem_cons.mp all
  obtain ⟨-,dropped⟩ := takeWhile_digits all ends.endsDigits
  rw [List.cons_append,scanExponentDigits,if_pos digit,dropped]
  exact ⟨_,_,rfl⟩

theorem scanExponent_exponent {exponent : List Char} (wellFormed : IsExponent exponent)
    (ends : EndsNumber rest) (significand : Nat) (start : Int) (plain : Except Fault Json) :
    IsScanned (scanExponent negative significand start plain offset (exponent ++ rest)) rest := by
  cases wellFormed with
  | none =>
    cases rest with
    | nil => exact ⟨_,_,rfl⟩
    | cons c rest =>
      obtain ⟨-,-,small,large⟩ := ends c rfl
      exact ⟨plain,offset,by simp [scanExponent,small,large]⟩
  | @digits letter sign digits isLetter signs all =>
    obtain ⟨down,split⟩ := splitSign_digits signs all rest
    have isLetter : (letter = 'e' || letter = 'E') = true := by simpa using isLetter
    rw [List.cons_append,List.append_assoc,scanExponent,if_pos isLetter,split]
    exact scanExponentDigits_digits negative _ all ends significand start down

/-- An exponent begins with its letter. -/
theorem exponent_head {exponent : List Char} (wellFormed : IsExponent exponent)
    (ends : EndsNumber rest) : ∀ c ∈ (exponent ++ rest).head?, ¬ c.isDigit ∧ c ≠ '.' := by
  cases wellFormed with
  | none => exact fun c front => ⟨(ends c front).1,(ends c front).2.1⟩
  | digits isLetter =>
    rintro c ⟨⟩
    rcases isLetter with rfl | rfl <;> decide

theorem scanFraction_fraction {fraction exponent : List Char} (wellFormed : IsFraction fraction)
    (power : IsExponent exponent) (ends : EndsNumber rest) (s : Significand) :
    IsScanned (scanFraction negative s offset (fraction ++ (exponent ++ rest))) rest := by
  have front := exponent_head power ends
  cases wellFormed with
  | none =>
    rw [List.nil_append,scanFraction]
    · exact scanExponent_exponent negative offset power ends s.value s.dropped _
    · intro after starts
      exact (front '.' (by rw [starts]; rfl)).2 rfl
  | @digits digits all =>
    obtain ⟨some,all⟩ := all
    obtain ⟨c,digits,rfl⟩ := List.exists_cons_of_ne_nil some
    obtain ⟨taken,dropped⟩ := takeWhile_digits all fun d here => (front d here).1
    rw [List.cons_append,scanFraction]
    simp only [taken,dropped]
    exact scanExponent_exponent negative _ power ends _ _ _

theorem scanWhole_whole {c : Char} {digits fraction exponent : List Char}
    (wellFormed : IsWhole (c :: digits)) (broken : IsFraction fraction) (power : IsExponent exponent)
    (ends : EndsNumber rest) :
    IsScanned (scanWhole negative offset c (digits ++ (fraction ++ (exponent ++ rest)))) rest := by
  have front : EndsDigits (fraction ++ (exponent ++ rest)) := by
    cases broken with
    | none => exact fun d here => (exponent_head power ends d here).1
    | digits =>
      rintro d ⟨⟩
      decide
  cases wellFormed with
  | zero =>
    have last : ((fraction ++ (exponent ++ rest)).head?.map Char.isDigit).getD false = false := by
      cases first : (fraction ++ (exponent ++ rest)).head? with
      | none => rfl
      | some d => simpa using front d first
    rw [scanWhole,if_pos rfl,List.nil_append,if_neg (Bool.eq_false_iff.mp last)]
    exact scanFraction_fraction negative offset broken power ends .zero
  | digits nonzero all =>
    obtain ⟨-,all⟩ := List.forall_mem_cons.mp all.2
    obtain ⟨taken,dropped⟩ := takeWhile_digits all front
    rw [scanWhole,if_neg nonzero]
    simp only [taken,dropped]
    exact scanFraction_fraction negative _ broken power ends _

end numbers

theorem IsWhole.cons {whole : List Char} (wellFormed : IsWhole whole) :
    ∃ c digits, whole = c :: digits ∧ c.isDigit := by
  cases wellFormed with
  | zero => exact ⟨'0',[],rfl,rfl⟩
  | digits _ all => exact ⟨_,_,rfl,all.2 _ List.mem_cons_self⟩

/-- A spelling of a number is read as a number. -/
theorem IsNumeral.lexes {text : List Char} (wellFormed : IsNumeral text) (offset : Nat)
    {rest : List Char} (ends : EndsNumber rest) :
    ∃ n stop, tokens offset (text ++ rest) = ⟨.number n,offset,stop⟩ :: tokens stop rest := by
  cases wellFormed with
  | positive isWhole broken power =>
    obtain ⟨c,digits,rfl,digit⟩ := isWhole.cons
    obtain ⟨n,stop,scanned⟩ := scanWhole_whole false (offset + 1) isWhole broken power ends
    refine ⟨n,stop,?_⟩
    rw [List.append_assoc,List.append_assoc,List.cons_append,tokens,
      if_neg (by simp [isSpace_digit digit]),scan_digit digit,scanned]
  | @negative whole fraction exponent isWhole broken power =>
    obtain ⟨c,digits,rfl,digit⟩ := isWhole.cons
    obtain ⟨n,stop,scanned⟩ := scanWhole_whole true (offset + 2) isWhole broken power ends
    have visible : ¬ Text.isSpace '-' := by decide
    have scanned : scan '-' offset (c :: digits ++ (fraction ++ (exponent ++ rest))) =
        ⟨.number n,stop,rest⟩ := by
      rw [← scanned]
      simp [scan,mark?,scanNegative,digit]
    refine ⟨n,stop,?_⟩
    rw [List.cons_append,List.append_assoc,List.append_assoc,tokens,if_neg visible,scanned]

/-- The draft is whole, and shows what the document says, entry by entry. -/
inductive Shows : Draft → Document → Prop
  | null (start stop : Nat) : Shows (.null start stop) .null
  | bool (b : Bool) (start stop : Nat) : Shows (.bool b start stop) (.bool b)
  | number (n : Except Fault Json) (start stop : Nat) : Shows (.number n start stop) .number
  | string {s : Except Fault String} {n : Option String} (stop : Nat) : s.toOption = n →
    Shows (.string s stop) (.string n)
  | list {start stop : Nat} {items : List (Draft × Stand)} {vs : List Document} :
    items.Forall₂ (fun i v => Shows i.1 v) vs →
    Shows (.list start items (.closed stop)) (.list vs)
  | map {start stop : Nat} {members : List (Name × (Draft × Stand))}
    {fields : List (Option String × Document)} :
    members.Forall₂ (fun m f => m.1.text.toOption = f.1) fields →
    members.Forall₂ (fun m f => Shows m.2.1 f.2) fields →
    Shows (.map start members (.closed stop)) (.map fields)

theorem LexesString.drafts {text : List Char} {n : Option String}
    (lexes : LexesString text (fun s => s.toOption = n)) : Drafts text (Shows · (.string n)) := by
  intro length stack wanted offset rest wants ends
  obtain ⟨s,start,stop,next,read,means⟩ := lexes offset rest ends
  exact ⟨_,next,by rw [read,build_wanted wants (by simp),build_string],.string stop means⟩

theorem IsNumeral.drafts {text : List Char} (wellFormed : IsNumeral text) :
    Drafts text (Shows · .number) := by
  intro length stack wanted offset rest wants ends
  obtain ⟨n,stop,read⟩ := wellFormed.lexes offset ends
  exact ⟨_,stop,by rw [read,build_wanted wants (by simp),build_number],.number n offset stop⟩

mutual

/-- Every spelling of a document gives a draft that shows the document. -/
theorem Spells.drafts {text : List Char} {v : Document} (spells : Spells text v) :
    Drafts text (Shows · v) :=
  match spells with
  | .null => mirrored_null.imp fun d mirrors => by cases mirrors; exact .null _ _
  | .true => mirrored_true.imp fun d mirrors => by cases mirrors; exact .bool _ _ _
  | .false => mirrored_false.imp fun d mirrors => by cases mirrors; exact .bool _ _ _
  | .number numeral => numeral.drafts
  | .string string => string.lexes.drafts
  | .noItems white => drafts_noItems (fun c member => (white c member).isSpace) (.list .nil)
  | .list items => items.drafts.list .list
  | .noMembers white => drafts_noMembers (fun c member => (white c member).isSpace) (.map .nil .nil)
  | .map members => members.drafts.map fun rows => .map rows.1 rows.2
  | .before white inner => inner.drafts.space white.isSpace
  | .after white inner => inner.drafts.spaceAfter white.isSpace

theorem SpellsItems.drafts {text : List Char} {vs : List Document} (spells : SpellsItems text vs) :
    DraftsItems text (List.Forall₂ (fun i v => Shows i.1 v) · vs) :=
  match spells with
  | .last item => item.drafts.lastItem
  | .cons item more => Drafts.consItem item.drafts more.drafts

theorem SpellsMembers.drafts {text : List Char} {fields : List (Option String × Document)}
    (spells : SpellsMembers text fields) :
    DraftsMembers text (Rows (fun s n => s.toOption = n) Shows · fields) :=
  match spells with
  | .last name value =>
    LexesString.lastMember (N := fun s n => s.toOption = n) name.lexes value.drafts
  | .cons name value more =>
    LexesString.consMember (N := fun s n => s.toOption = n) name.lexes value.drafts more.drafts

end

/-- What a relation comes to may depend on the entries of the second list. -/
theorem forall₂_imp_mem {R S : α → β → Prop} {as : List α} {bs : List β} (related : as.Forall₂ R bs)
    (imp : ∀ b ∈ bs, ∀ a, R a b → S a b) : as.Forall₂ S bs := by
  induction related with
  | nil => exact .nil
  | @cons a b as bs first _ ih =>
    obtain ⟨here,later⟩ := List.forall_mem_cons.mp imp
    exact .cons (here a first) (ih later)

def document : Json → Document
  | .null => .null
  | .bool b => .bool b
  | .int _ | .float _ => .number
  | .str s => .string (some s)
  | .arr items => .list (items.map document)
  | .obj fields => .map (fields.map fun f => (some f.1,document f.2))
termination_by v => sizeOf v
decreasing_by
  · have within := List.sizeOf_lt_of_mem ‹_ ∈ items›
    simp only [Json.arr.sizeOf_spec]
    omega
  · have within := List.sizeOf_lt_of_mem ‹_ ∈ fields›
    have value : sizeOf f = 1 + sizeOf f.1 + sizeOf f.2 := rfl
    simp only [Json.obj.sizeOf_spec]
    omega

@[simp] theorem document_str (s : String) : document (.str s) = .string (some s) := by
  rw [document]

/-- A draft that mirrors a value shows what the value tells. -/
theorem Mirrors.shows {d : Draft} {v : Json} (mirrors : Mirrors d v) : Shows d v.document := by
  induction v using nested_induction generalizing d with
  | arr items ih =>
    cases mirrors with
    | arr each =>
      rw [document]
      exact .list (List.forall₂_map_right_iff.mpr (forall₂_imp_mem each fun v member i => ih v member))
  | obj fields ih =>
    cases mirrors with
    | obj names each =>
      rw [document]
      refine .map (List.forall₂_map_right_iff.mpr ?_) (List.forall₂_map_right_iff.mpr ?_)
      · exact names.imp fun m f named => by simp [named,Except.toOption]
      · exact forall₂_imp_mem each fun f member m => ih f member
  | _ =>
    cases mirrors
    rw [document]
    constructor
    try rfl

end Placard.Json

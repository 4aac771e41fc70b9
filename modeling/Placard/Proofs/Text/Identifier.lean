import Mathlib
import Placard.Text.Blank

/-! Names that are names in either template language, and rows of them with points between. -/
namespace Placard.Text

def startsIdentifier (c : Char) : Bool := c.isAlpha || c = '_'

def isIdentifierPart (c : Char) : Bool := c.isAlphanum || c = '_' || c = '-'

def isIdentifier : List Char → Bool
  | [] => false
  | c :: rest => startsIdentifier c && rest.all isIdentifierPart

/-- A name that stands before the text is no longer than it looks. -/
def endsIdentifier : List Char → Bool
  | [] => true
  | c :: _ => !isIdentifierPart c

def afterPoints (names : List (List Char)) : List Char := names.flatMap ('.' :: ·)

@[simp] theorem afterPoints_nil : afterPoints [] = [] := rfl

@[simp] theorem afterPoints_cons (name : List Char) (names : List (List Char)) :
    afterPoints (name :: names) = '.' :: (name ++ afterPoints names) := by
  simp [afterPoints]

theorem length_le_afterPoints (names : List (List Char)) :
    names.length ≤ (afterPoints names).length := by
  induction names with
  | nil => exact Nat.zero_le _
  | cons name names ih =>
    simp only [afterPoints_cons,List.length_cons,List.length_append]
    omega

theorem isIdentifierPart_of_starts {c : Char} (starts : startsIdentifier c) :
    isIdentifierPart c := by
  simp only [startsIdentifier,isIdentifierPart,Char.isAlphanum,Bool.or_eq_true] at *
  rcases starts with letter | underscore
  · exact .inl (.inl (.inl letter))
  · exact .inl (.inr underscore)

theorem ne_of_part {c d : Char} (part : isIdentifierPart c) (other : isIdentifierPart d = false) :
    c ≠ d := by
  rintro rfl
  simp [part] at other

theorem ne_of_starts {c d : Char} (starts : startsIdentifier c)
    (other : startsIdentifier d = false) : c ≠ d := by
  rintro rfl
  simp [starts] at other

theorem isSpace_of_part {c : Char} (part : isIdentifierPart c) : isSpace c = false := by
  simp only [isSpace,Bool.or_eq_false_iff,decide_eq_false_iff_not]
  exact ⟨⟨⟨ne_of_part part rfl,ne_of_part part rfl⟩,ne_of_part part rfl⟩,ne_of_part part rfl⟩

theorem isDigit_of_starts {c : Char} (starts : startsIdentifier c) : c.isDigit = false := by
  refine Bool.eq_false_iff.mpr fun digit => ?_
  simp only [startsIdentifier,Char.isAlpha,Char.isUpper,Char.isLower,Char.isDigit,Bool.or_eq_true,
    Bool.and_eq_true,decide_eq_true_eq] at starts digit
  rcases starts with (⟨low,-⟩ | ⟨low,-⟩) | rfl
  · exact absurd (UInt32.le_trans low digit.2) (by decide)
  · exact absurd (UInt32.le_trans low digit.2) (by decide)
  · exact absurd digit.2 (by decide)

theorem identifier_cons {c : Char} {rest : List Char} :
    isIdentifier (c :: rest) ↔ startsIdentifier c ∧ ∀ d ∈ rest, isIdentifierPart d := by
  simp [isIdentifier]

theorem exists_of_identifier {name : List Char} (identifier : isIdentifier name) :
    ∃ c rest, name = c :: rest ∧ startsIdentifier c ∧ ∀ d ∈ rest, isIdentifierPart d := by
  cases name with
  | nil => cases identifier
  | cons c rest => exact ⟨c,rest,rfl,identifier_cons.mp identifier⟩

theorem parts_of_identifier {name : List Char} (identifier : isIdentifier name) :
    ∀ c ∈ name, isIdentifierPart c := by
  obtain ⟨c,rest,rfl,starts,parts⟩ := exists_of_identifier identifier
  exact List.forall_mem_cons.mpr ⟨isIdentifierPart_of_starts starts,parts⟩

theorem skipSpace_identifier {name : List Char} (identifier : isIdentifier name) (s : List Char) :
    skipSpace (name ++ s) = name ++ s := by
  obtain ⟨c,rest,rfl,starts,-⟩ := exists_of_identifier identifier
  exact skipSpace_of_not_space (isSpace_of_part (isIdentifierPart_of_starts starts)) _

@[simp] theorem after?_nil (s : List Char) : after? [] s = some s := rfl

theorem after?_cons (w c : Char) (word s : List Char) :
    after? (w :: word) (c :: s) = if w = c then after? word s else none := by
  by_cases same : w = c <;> simp [after?,List.isPrefixOf?,same]

theorem after?_eq_some_iff {word s rest : List Char} : after? word s = some rest ↔ word ++ rest = s :=
  List.isPrefixOf?_eq_some_iff_append_eq

theorem after?_eq_none_iff {word s : List Char} : after? word s = none ↔ ¬ word <+: s := by
  rw [← Option.not_isSome_iff_eq_none,Option.isSome_iff_exists]
  simp only [after?_eq_some_iff]
  rfl

theorem isSome_after?_iff {word s : List Char} : (after? word s).isSome ↔ word <+: s := by
  rw [Option.isSome_iff_ne_none,Ne,after?_eq_none_iff,not_not]

/-- A word before a name that ends is one before the name alone. -/
theorem after?_identifier {word : List Char} (word_parts : word.all isIdentifierPart)
    (name : List Char) {rest : List Char} (ends : endsIdentifier rest) :
    after? word (name ++ rest) = (after? word name).map (· ++ rest) := by
  induction word generalizing name with
  | nil => rfl
  | cons w word ih =>
    rw [List.all_cons,Bool.and_eq_true] at word_parts
    obtain ⟨part,parts⟩ := word_parts
    cases name with
    | cons c name =>
      rw [List.cons_append,after?_cons,after?_cons]
      by_cases same : w = c
      · rw [if_pos same,if_pos same,ih parts]
      · rw [if_neg same,if_neg same,Option.map_none]
    | nil =>
      cases rest with
      | nil => rfl
      | cons c rest =>
        have apart : w ≠ c := ne_of_part part (by simpa [endsIdentifier] using ends)
        rw [List.nil_append,after?_cons,if_neg apart]
        rfl

/-- Where a word stands before a name that is not the word, the name goes on. -/
theorem part_after_word {word name rest after : List Char}
    (word_parts : word.all isIdentifierPart) (identifier : isIdentifier name)
    (apart : name ≠ word) (ends : endsIdentifier rest)
    (found : after? word (name ++ rest) = some after) :
    ∃ c more, after = c :: more ∧ isIdentifierPart c := by
  rw [after?_identifier word_parts name ends] at found
  obtain ⟨more,spelled,rfl⟩ := Option.map_eq_some_iff.mp found
  rw [after?_eq_some_iff] at spelled
  cases more with
  | nil => exact absurd (spelled.symm.trans (List.append_nil word)) apart
  | cons c more =>
    exact ⟨c,more ++ rest,rfl,parts_of_identifier identifier c (by simp [← spelled])⟩

end Placard.Text

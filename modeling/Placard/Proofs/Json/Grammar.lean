/-! The grammar of JSON, and the documents that texts are spellings of. It is stated without any
reader: white space, escapes and all forms of a number, whatever they may be worth. -/
namespace Placard.Json

/-- What a text says, apart from the worth of its numbers. Members stand in the order of the text. A
string is no text if half of a character in it has no partner. -/
inductive Document where
  | null
  | bool (b : Bool)
  | number
  | string (s : Option String)
  | list (items : List Document)
  | map (members : List (Option String × Document))

def IsWhite (c : Char) : Prop := c = ' ' ∨ c = '\t' ∨ c = '\n' ∨ c = '\r'

/-- What a string is put together from. A character that takes two codes has two halves. -/
inductive Piece where
  | char (c : Char)
  | half (code : Nat)

def IsFirstHalf (code : Nat) : Prop := 0xD800 ≤ code ∧ code < 0xDC00

def IsLastHalf (code : Nat) : Prop := 0xDC00 ≤ code ∧ code < 0xE000

def IsHalf (code : Nat) : Prop := IsFirstHalf code ∨ IsLastHalf code

instance : DecidablePred IsFirstHalf := fun code =>
  inferInstanceAs (Decidable (0xD800 ≤ code ∧ code < 0xDC00))

instance : DecidablePred IsLastHalf := fun code =>
  inferInstanceAs (Decidable (0xDC00 ≤ code ∧ code < 0xE000))

instance : DecidablePred IsHalf := fun code =>
  inferInstanceAs (Decidable (IsFirstHalf code ∨ IsLastHalf code))

/-- The text of the pieces, if each half stands with its partner. -/
def decode : List Piece → Option (List Char)
  | [] => some []
  | .char c :: rest => (decode rest).map (c :: ·)
  | .half first :: .half last :: rest =>
    if IsFirstHalf first ∧ IsLastHalf last then
      (decode rest).map (Char.ofNat ((first - 0xD800) * 0x400 + (last - 0xDC00) + 0x10000) :: ·)
    else none
  | .half _ :: _ => none

def escapes : List (Char × Char) :=
  [('"','"'),('\\','\\'),('/','/'),('b','\x08'),('f','\x0c'),('n','\n'),('r','\r'),('t','\t')]

def IsHex (c : Char) (n : Nat) : Prop :=
  "0123456789abcdef".toList[n]? = some c ∨ "0123456789ABCDEF".toList[n]? = some c

instance (c : Char) (n : Nat) : Decidable (IsHex c n) :=
  inferInstanceAs (Decidable ("0123456789abcdef".toList[n]? = some c ∨
    "0123456789ABCDEF".toList[n]? = some c))

inductive Code : List Char → Nat → Prop
  | digits {a b c d : Char} {k l m n : Nat} : IsHex a k → IsHex b l → IsHex c m → IsHex d n →
    Code [a,b,c,d] (((k * 16 + l) * 16 + m) * 16 + n)

inductive SpellsPiece : List Char → Piece → Prop
  | plain {c : Char} : c ≠ '"' → c ≠ '\\' → 32 ≤ c.toNat → SpellsPiece [c] (.char c)
  | escape {letter c : Char} : (letter,c) ∈ escapes → SpellsPiece ['\\',letter] (.char c)
  | code {digits : List Char} {code : Nat} : Code digits code → ¬ IsHalf code →
    SpellsPiece ('\\' :: 'u' :: digits) (.char (Char.ofNat code))
  | half {digits : List Char} {code : Nat} : Code digits code → IsHalf code →
    SpellsPiece ('\\' :: 'u' :: digits) (.half code)

inductive SpellsPieces : List Char → List Piece → Prop
  | nil : SpellsPieces [] []
  | cons {text more : List Char} {piece : Piece} {pieces : List Piece} : SpellsPiece text piece →
    SpellsPieces more pieces → SpellsPieces (text ++ more) (piece :: pieces)

inductive SpellsString : List Char → Option String → Prop
  | quoted {body : List Char} {pieces : List Piece} : SpellsPieces body pieces →
    SpellsString ('"' :: (body ++ ['"'])) ((decode pieces).map String.ofList)
  | before {c : Char} {text : List Char} {s : Option String} : IsWhite c → SpellsString text s →
    SpellsString (c :: text) s
  | after {c : Char} {text : List Char} {s : Option String} : IsWhite c → SpellsString text s →
    SpellsString (text ++ [c]) s

theorem decode_char (s : List Char) : decode (s.map .char) = some s := by
  induction s with
  | nil => rfl
  | cons c s ih => simp [decode,ih]

theorem spellsPieces_plain {s : List Char} (plain : ∀ c ∈ s, c ≠ '"' ∧ c ≠ '\\' ∧ 32 ≤ c.toNat) :
    SpellsPieces s (s.map .char) := by
  induction s with
  | nil => exact .nil
  | cons c s ih =>
    obtain ⟨⟨quote,backslash,visible⟩,later⟩ := List.forall_mem_cons.mp plain
    exact .cons (.plain quote backslash visible) (ih later)

/-- A text without quotes, backslashes and control characters is spelled by itself. -/
theorem spellsString_plain {s : String} (plain : ∀ c ∈ s.toList, c ≠ '"' ∧ c ≠ '\\' ∧ 32 ≤ c.toNat) :
    SpellsString ('"' :: (s.toList ++ ['"'])) (some s) := by
  have spells := SpellsString.quoted (spellsPieces_plain plain)
  rw [decode_char] at spells
  simpa using spells

def AreDigits (text : List Char) : Prop := text ≠ [] ∧ ∀ c ∈ text, c.isDigit

/-- No further digit stands behind a zero in front. -/
inductive IsWhole : List Char → Prop
  | zero : IsWhole ['0']
  | digits {c : Char} {rest : List Char} : c ≠ '0' → AreDigits (c :: rest) → IsWhole (c :: rest)

inductive IsFraction : List Char → Prop
  | none : IsFraction []
  | digits {digits : List Char} : AreDigits digits → IsFraction ('.' :: digits)

inductive IsExponent : List Char → Prop
  | none : IsExponent []
  | digits {letter : Char} {sign digits : List Char} : letter = 'e' ∨ letter = 'E' →
    sign ∈ [[],['+'],['-']] → AreDigits digits → IsExponent (letter :: (sign ++ digits))

inductive IsNumeral : List Char → Prop
  | positive {whole fraction exponent : List Char} : IsWhole whole → IsFraction fraction →
    IsExponent exponent → IsNumeral (whole ++ (fraction ++ exponent))
  | negative {whole fraction exponent : List Char} : IsWhole whole → IsFraction fraction →
    IsExponent exponent → IsNumeral ('-' :: (whole ++ (fraction ++ exponent)))

mutual

/-- The text is a spelling of the document. -/
inductive Spells : List Char → Document → Prop
  | null : Spells ['n','u','l','l'] .null
  | true : Spells ['t','r','u','e'] (.bool true)
  | false : Spells ['f','a','l','s','e'] (.bool false)
  | number {text : List Char} : IsNumeral text → Spells text .number
  | string {text : List Char} {s : Option String} : SpellsString text s → Spells text (.string s)
  | noItems {white : List Char} : (∀ c ∈ white, IsWhite c) → Spells ('[' :: (white ++ [']'])) (.list [])
  | list {text : List Char} {items : List Document} : SpellsItems text items →
    Spells ('[' :: (text ++ [']'])) (.list items)
  | noMembers {white : List Char} : (∀ c ∈ white, IsWhite c) →
    Spells ('{' :: (white ++ ['}'])) (.map [])
  | map {text : List Char} {members : List (Option String × Document)} :
    SpellsMembers text members → Spells ('{' :: (text ++ ['}'])) (.map members)
  | before {c : Char} {text : List Char} {v : Document} : IsWhite c → Spells text v →
    Spells (c :: text) v
  | after {c : Char} {text : List Char} {v : Document} : IsWhite c → Spells text v →
    Spells (text ++ [c]) v

inductive SpellsItems : List Char → List Document → Prop
  | last {text : List Char} {v : Document} : Spells text v → SpellsItems text [v]
  | cons {text more : List Char} {v : Document} {items : List Document} : Spells text v →
    SpellsItems more items → SpellsItems (text ++ ',' :: more) (v :: items)

inductive SpellsMembers : List Char → List (Option String × Document) → Prop
  | last {name text : List Char} {n : Option String} {v : Document} : SpellsString name n →
    Spells text v → SpellsMembers (name ++ ':' :: text) [(n,v)]
  | cons {name text more : List Char} {n : Option String} {v : Document}
    {members : List (Option String × Document)} : SpellsString name n → Spells text v →
    SpellsMembers more members →
    SpellsMembers (name ++ ':' :: (text ++ ',' :: more)) ((n,v) :: members)

end

end Placard.Json

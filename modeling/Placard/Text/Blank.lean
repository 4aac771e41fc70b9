/-! White space, and what is left of a text without it at the ends. -/
namespace Placard.Text

/-- White space is more than the ASCII blanks: it has the fixed-width spaces, the line separators
and the next-line control too. -/
def isBlank (c : Char) : Bool :=
  let n := c.toNat
  (9 ≤ n && n ≤ 13) || n == 0x20 || n == 0x85 || n == 0xA0 || n == 0x1680 ||
    (0x2000 ≤ n && n ≤ 0x200A) || n == 0x2028 || n == 0x2029 || n == 0x202F || n == 0x205F ||
    n == 0x3000

/-- The blanks that may stand between the words of a template tag or of a JSON text. -/
def isSpace (c : Char) : Bool := c = ' ' || c = '\n' || c = '\t' || c = '\r'

def skipSpace (s : List Char) : List Char := s.dropWhile isSpace

@[simp] theorem skipSpace_nil : skipSpace [] = [] := rfl

theorem skipSpace_of_not_space {c : Char} (h : isSpace c = false) (s : List Char) :
    skipSpace (c :: s) = c :: s := by
  simp [skipSpace, h]

/-- The text after `word`, if it begins with it. -/
def after? (word s : List Char) : Option (List Char) := word.isPrefixOf? s

theorem after?_append (word s : List Char) : after? word (word ++ s) = some s := by
  unfold after?
  induction word with
  | nil => rfl
  | cons w word ih =>
    have step : (w :: word).isPrefixOf? (w :: (word ++ s)) =
      if w == w then word.isPrefixOf? (word ++ s) else none := rfl
    rw [List.cons_append, step, ih]
    simp

def trimStart (s : List Char) : List Char := s.dropWhile isBlank

def trimEnd (s : List Char) : List Char := (s.reverse.dropWhile isBlank).reverse

def trim (s : List Char) : List Char := trimEnd (trimStart s)

@[simp] theorem trimStart_nil : trimStart [] = [] := rfl
@[simp] theorem trimEnd_nil : trimEnd [] = [] := rfl
@[simp] theorem trim_nil : trim [] = [] := rfl

def trimmed (s : String) : String := String.ofList (trim s.toList)

end Placard.Text

import Placard.Liquid.Expression

/-! A Liquid text as a row of elements: plain text, outputs and tags. What opens like a tag but is
none is kept character by character, because a raw block may hold it. -/
namespace Placard.Liquid

inductive Element where
  | text
  | output (c : Chain)
  | tag (name : String) (tokens : List Token)
  | invalid

/-- An element with the source it was read from. -/
structure Sourced where
  element : Element
  source : List Char

/-- After the opening of an element: blanks go before one with a dash. -/
def afterOpening? (mark s : List Char) : Option (List Char) :=
  (Text.after? (mark ++ ['-']) (skipBlanks s)).or (Text.after? mark s)

/-- After the closing of an element: blanks go after one with a dash. -/
def afterClosing? (mark s : List Char) : Option (List Char) :=
  ((Text.after? ('-' :: mark) s).map skipBlanks).or (Text.after? mark s)

def opensElement (s : List Char) : Bool :=
  (afterOpening? ['{', '{'] s).isSome || (afterOpening? ['{', '%'] s).isSome

/-- The text up to where an element opens, and the rest. -/
def splitText : List Char → List Char × List Char
  | [] => ([], [])
  | c :: rest =>
    if opensElement (c :: rest) then ([], c :: rest)
    else
      let more := splitText rest
      (c :: more.1, more.2)

def output? (s : List Char) : Option (Element × List Char) := do
  let s ← afterOpening? ['{', '{'] s
  let (c, s) ← chain? (skipBlanks s)
  let s ← afterClosing? ['}', '}'] (skipBlanks s)
  return (.output c, s)

def tag? (s : List Char) : Option (Element × List Char) := do
  let s ← afterOpening? ['{', '%'] s
  let (name, s) ← name? (skipBlanks s)
  let (ts, s) := tokens s.length s
  let s ← afterClosing? ['%', '}'] (skipBlanks s)
  return (.tag (String.ofList name) ts, s)

def element? (s : List Char) : Option (Element × List Char) := (output? s).or (tag? s)

/-- The elements of a text; each takes at least one character. -/
def elementsFrom : Nat → List Char → List Sourced
  | _, [] => []
  | 0, _ :: _ => []
  | fuel + 1, c :: s =>
    match element? (c :: s) with
    | some (e, rest) => ⟨e, (c :: s).take (s.length + 1 - rest.length)⟩ :: elementsFrom fuel rest
    | none =>
      match splitText (c :: s) with
      | ([], _) => ⟨.invalid, [c]⟩ :: elementsFrom fuel s
      | (text, rest) => ⟨.text, text⟩ :: elementsFrom fuel rest

def elements (s : List Char) : List Sourced := elementsFrom s.length s

end Placard.Liquid

import Placard.Liquid.Value

/-! Expressions of the Liquid language and how they are read. A word that begins like a literal is
that literal, so no variable begins so. -/
namespace Placard.Liquid

inductive Expression where
  | literal (v : Value)
  | variable (name : String) (steps : List Expression)
  deriving Inhabited, Repr

structure FilterCall where
  name : String
  placed : List Expression
  named : List (String × Expression)

structure Chain where
  entry : Expression
  filters : List FilterCall

inductive Token where
  | range (first last : Expression)
  | chain (c : Chain)
  | mark (s : String)

def Expression.word? : Expression → Option String
  | .variable name [] => some name
  | _ => none

def Token.value? : Token → Option Expression
  | .chain ⟨e, []⟩ => some e
  | _ => none

def Token.word? (t : Token) : Option String := t.value?.bind Expression.word?

def Token.isWord (t : Token) (w : String) : Bool := t.word? == some w

def Token.isMark : Token → String → Bool
  | .mark s, m => s = m
  | _, _ => false

/-- The blanks that may stand between the words of a tag; a tab is none of them. -/
def isBlank (c : Char) : Bool := c = ' ' || c = '\n' || c = '\r'

def skipBlanks (s : List Char) : List Char := s.dropWhile isBlank

/-- A dash that a closing tag begins with is no part of a name. -/
def isNameDash (rest : List Char) : Bool :=
  !(['}', '}'].isPrefixOf rest || ['%', '}'].isPrefixOf rest)

def isNameChar (c : Char) : Bool := c.isAlphanum || c = '_'

def nameTail : List Char → List Char × List Char
  | [] => ([], [])
  | c :: rest =>
    if isNameChar c || (c = '-' && isNameDash rest) then
      let more := nameTail rest
      (c :: more.1, more.2)
    else ([], c :: rest)

def name? : List Char → Option (List Char × List Char)
  | [] => none
  | c :: rest =>
    if c.isAlpha || c = '_' || (c = '-' && isNameDash rest) then
      let more := nameTail rest
      some (c :: more.1, more.2)
    else none

def quotedLiteral? : List Char → Option (Value × List Char)
  | [] => none
  | quote :: rest =>
    if quote = '"' || quote = '\'' then
      match rest.dropWhile (· ≠ quote) with
      | _ :: after => some (.str (String.ofList (rest.takeWhile (· ≠ quote))), after)
      | [] => none
    else none

/-- A number: with a point it is a float. -/
def numberLiteral? (s : List Char) : Option (Value × List Char) :=
  let unsigned := (Double.splitSign s).2
  let sign := s.take (s.length - unsigned.length)
  let whole := unsigned.takeWhile Char.isDigit
  let rest := unsigned.dropWhile Char.isDigit
  let (broken, after) := Double.afterPoint rest
  if whole = [] then none
  else if broken = [] then
    (Double.int64OfText? (String.ofList (sign ++ whole))).map fun i => (.int i, rest)
  else
    (Double.ofText? (String.ofList (sign ++ whole ++ '.' :: broken))).map fun d =>
      (.float d, after)

def wordLiterals : List (List Char × Value) :=
  [(['n', 'i', 'l'], .nil), (['n', 'u', 'l', 'l'], .nil),
    (['e', 'm', 'p', 't', 'y'], .lack .empty), (['b', 'l', 'a', 'n', 'k'], .lack .blank),
    (['t', 'r', 'u', 'e'], .bool true), (['f', 'a', 'l', 's', 'e'], .bool false)]

def wordLiteral? (s : List Char) : Option (Value × List Char) :=
  wordLiterals.findSome? fun w => (Text.after? w.1 s).map fun rest => (w.2, rest)

def literal? (s : List Char) : Option (Value × List Char) :=
  (wordLiteral? s).or ((quotedLiteral? s).or (numberLiteral? s))

mutual

def value? : Nat → List Char → Option (Expression × List Char)
  | 0, _ => none
  | fuel + 1, s =>
    match literal? s with
    | some (v, rest) => some (.literal v, rest)
    | none =>
      (name? s).map fun r =>
        let more := steps fuel r.2
        (.variable (String.ofList r.1) more.1, more.2)

/-- Steps of a variable: a name after a point, or a value between brackets. -/
def steps : Nat → List Char → List Expression × List Char
  | 0, s => ([], s)
  | fuel + 1, s =>
    match step? fuel s with
    | some (e, rest) =>
      let more := steps fuel rest
      (e :: more.1, more.2)
    | none => ([], s)

def step? : Nat → List Char → Option (Expression × List Char)
  | 0, _ => none
  | fuel + 1, s =>
    match s with
    | '.' :: rest => (name? rest).map fun r => (.literal (.str (String.ofList r.1)), r.2)
    | '[' :: rest => do
      let (e, rest) ← value? fuel (skipBlanks rest)
      let rest ← Text.after? [']'] (skipBlanks rest)
      return (e, rest)
    | _ => none

end

/-- Enough for any text: between two characters that are read there are at most three steps. -/
def depthOf (s : List Char) : Nat := 3 * s.length + 3

def expression? (s : List Char) : Option (Expression × List Char) := value? (depthOf s) s

inductive Argument where
  | placed (e : Expression)
  | named (name : String) (e : Expression)

def namedArgument? (s : List Char) : Option (Argument × List Char) := do
  let (name, rest) ← name? s
  let rest ← Text.after? [':'] (skipBlanks rest)
  let (e, rest) ← expression? (skipBlanks rest)
  return (.named (String.ofList name) e, rest)

def argument? (s : List Char) : Option (Argument × List Char) :=
  (namedArgument? s).or ((expression? s).map fun r => (.placed r.1, r.2))

/-- Further arguments, each after a comma. -/
def moreArguments : Nat → List Char → List Argument × List Char
  | 0, s => ([], s)
  | fuel + 1, s =>
    match (Text.after? [','] (skipBlanks s)).bind fun t => argument? (skipBlanks t) with
    | some (a, rest) =>
      let more := moreArguments fuel rest
      (a :: more.1, more.2)
    | none => ([], s)

def FilterCall.ofArguments (name : String) (arguments : List Argument) : FilterCall where
  name := name
  placed := arguments.filterMap fun
    | .placed e => some e
    | .named _ _ => none
  named := arguments.filterMap fun
    | .placed _ => none
    | .named name e => some (name, e)

/-- A filter after its bar. Without a first argument the colon is not part of it. -/
def filter? (s : List Char) : Option (FilterCall × List Char) :=
  (name? s).map fun (name, rest) =>
    match (Text.after? [':'] (skipBlanks rest)).bind fun t => argument? (skipBlanks t) with
    | some (a, rest) =>
      let more := moreArguments rest.length rest
      (.ofArguments (String.ofList name) (a :: more.1), more.2)
    | none => (.ofArguments (String.ofList name) [], rest)

def filters : Nat → List Char → List FilterCall × List Char
  | 0, s => ([], s)
  | fuel + 1, s =>
    match (Text.after? ['|'] (skipBlanks s)).bind fun t => filter? (skipBlanks t) with
    | some (f, rest) =>
      let more := filters fuel rest
      (f :: more.1, more.2)
    | none => ([], s)

def chain? (s : List Char) : Option (Chain × List Char) :=
  (expression? s).map fun r =>
    let fs := filters r.2.length r.2
    (⟨r.1, fs.1⟩, fs.2)

def range? (s : List Char) : Option (Token × List Char) := do
  let s ← Text.after? ['('] s
  let (first, s) ← expression? (skipBlanks s)
  let s ← Text.after? ['.', '.'] (skipBlanks s)
  let (last, s) ← expression? (skipBlanks s)
  let s ← Text.after? [')'] (skipBlanks s)
  return (.range first last, s)

def marks : List String := [">=", "<=", "!=", "<>", "==", ">", "<", "=", ",", ":"]

def mark? (s : List Char) : Option (Token × List Char) :=
  marks.findSome? fun m => (Text.after? m.toList s).map fun rest => (.mark m, rest)

def token? (s : List Char) : Option (Token × List Char) :=
  (range? s).or (((chain? s).map fun r => (.chain r.1, r.2)).or (mark? s))

def tokens : Nat → List Char → List Token × List Char
  | 0, s => ([], s)
  | fuel + 1, s =>
    match token? (skipBlanks s) with
    | some (t, rest) =>
      let more := tokens fuel rest
      (t :: more.1, more.2)
    | none => ([], s)

end Placard.Liquid

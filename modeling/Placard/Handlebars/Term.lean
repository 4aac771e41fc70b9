import Placard.Handlebars.Path
import Placard.Json.Reader

/-! The terms of a tag: literals, paths and calls, and how they are read. A call has arguments by
place and arguments by name. -/
namespace Placard.Handlebars

inductive Term where
  | literal (value : Json)
  | path (path : Path)
  | call (name : String) (placed : List Term) (named : List (String × Term))
  deriving Inhabited

structure Call where
  name : String
  placed : List Term
  named : List (String × Term)

inductive Argument where
  | placed (t : Term)
  | named (name : String) (t : Term)

def Argument.placed? : Argument → Option Term
  | .placed t => some t
  | .named _ _ => none

def Argument.named? : Argument → Option (String × Term)
  | .placed _ => none
  | .named name t => some (name, t)

/-- Of two arguments of one name the later counts. -/
def Call.ofArguments (name : String) (arguments : List Argument) : Call :=
  ⟨name, arguments.filterMap Argument.placed?,
    Json.fieldsOf (arguments.filterMap Argument.named?)⟩

def Call.term (c : Call) : Term := .call c.name c.placed c.named

def untilQuote (quote : Char) : List Char → Option (List Char × List Char)
  | [] => none
  | '\\' :: 'u' :: a :: b :: c :: d :: rest =>
    if (Json.hexCode? a b c d).isSome then
      (untilQuote quote rest).map fun r => ('\\' :: 'u' :: a :: b :: c :: d :: r.1, r.2)
    else none
  | '\\' :: e :: rest =>
    if e = quote || (e ≠ '"' && (Json.plainEscape? e).isSome) then
      (untilQuote quote rest).map fun r => ('\\' :: e :: r.1, r.2)
    else none
  | c :: rest =>
    if c = quote then some ([], rest)
    else (untilQuote quote rest).map fun r => (c :: r.1, r.2)

/-- A text in single quotes as one in double quotes. -/
def requote : List Char → List Char
  | [] => []
  | '\\' :: '\'' :: rest => '\'' :: requote rest
  | '"' :: rest => '\\' :: '"' :: requote rest
  | c :: rest => c :: requote rest

def stringLiteral? : List Char → Option (List Char × List Char)
  | '"' :: rest => (untilQuote '"' rest).map fun r => ('"' :: r.1 ++ ['"'], r.2)
  | '\'' :: rest => (untilQuote '\'' rest).map fun r => ('"' :: requote r.1 ++ ['"'], r.2)
  | _ => none

/-- The next character is no symbol. -/
def endsHere : List Char → Bool
  | [] => true
  | c :: _ => !isSymbol c

def wordLiteral? (word s : List Char) : Option (List Char) :=
  (Text.after? word s).filter endsHere

def afterDigits? : List Char → Option (List Char)
  | c :: rest => if c.isDigit then some (rest.dropWhile Char.isDigit) else none
  | [] => none

def afterMinus (s : List Char) : List Char := (Text.after? ['-'] s).getD s

def afterExponent (s : List Char) : List Char :=
  ((Text.after? ['E'] s).bind fun e => afterDigits? (afterMinus e)).getD s

def numberLiteral? (s : List Char) : Option (List Char) := do
  let whole ← afterDigits? (afterMinus s)
  let broken := ((Text.after? ['.'] whole).map (·.dropWhile Char.isDigit)).getD whole
  let rest := afterExponent broken
  if endsHere rest then some rest else none

mutual

def afterLiteral? : Nat → List Char → Option (List Char)
  | 0, _ => none
  | fuel + 1, s =>
    match stringLiteral? s with
    | some (_, rest) => some rest
    | none =>
      match s with
      | '[' :: rest =>
        let inside := Text.skipSpace rest
        let items := (afterLiteral? fuel inside).getD inside
        Text.after? [']'] (Text.skipSpace (afterItems fuel items))
      | '{' :: rest =>
        let inside := Text.skipSpace rest
        let members := (afterMember? fuel inside).getD inside
        Text.after? ['}'] (Text.skipSpace (afterMembers fuel members))
      | _ =>
        (numberLiteral? s).or <| (wordLiteral? ['n', 'u', 'l', 'l'] s).or <|
          (wordLiteral? ['t', 'r', 'u', 'e'] s).or (wordLiteral? ['f', 'a', 'l', 's', 'e'] s)

def afterItems : Nat → List Char → List Char
  | 0, s => s
  | fuel + 1, s =>
    match (Text.after? [','] (Text.skipSpace s)).bind fun t =>
        afterLiteral? fuel (Text.skipSpace t) with
    | some rest => afterItems fuel rest
    | none => s

def afterMember? : Nat → List Char → Option (List Char)
  | 0, _ => none
  | fuel + 1, s => do
    let (_, rest) ← stringLiteral? s
    let value ← Text.after? [':'] (Text.skipSpace rest)
    afterLiteral? fuel (Text.skipSpace value)

def afterMembers : Nat → List Char → List Char
  | 0, s => s
  | fuel + 1, s =>
    match (Text.after? [','] (Text.skipSpace s)).bind fun t =>
        afterMember? fuel (Text.skipSpace t) with
    | some rest => afterMembers fuel rest
    | none => s

end

/-- A literal that stands alone is one of JSON. -/
def literalValue? (text : List Char) : Option Json :=
  (Json.parse (String.ofList text)).toOption

/-- The words that end the arguments of a call. -/
def isReserved (s : List Char) : Bool :=
  let ended (word : List Char) : Bool :=
    ((Text.after? word s).map fun rest => endsHere (Text.skipSpace rest)).getD false
  ended ['a', 's'] || ended ['e', 'l', 's', 'e']

mutual

def term? : Nat → List Char → Option (Term × List Char)
  | 0, _ => none
  | fuel + 1, s =>
    if isReserved s then none
    else
      match stringLiteral? s with
      | some (text, rest) => (literalValue? text).map fun v => (.literal v, rest)
      | none =>
        match afterLiteral? s.length s with
        | some rest => (literalValue? (consumed s rest)).map fun v => (.literal v, rest)
        | none =>
          match path? s with
          | some (p, rest) => some (.path p, rest)
          | none => (subterm? fuel s).map fun r => (r.1.term, r.2)

/-- A call between parentheses. A path alone is a call without arguments. -/
def subterm? : Nat → List Char → Option (Call × List Char)
  | 0, _ => none
  | fuel + 1, s => do
    let inside ← (Text.after? ['('] s).map Text.skipSpace
    let (call, rest) ← (calling? fuel inside).or
      ((path? inside).map fun r => (⟨r.1.written, [], []⟩, r.2))
    let rest ← Text.after? [')'] (Text.skipSpace rest)
    return (call, rest)

def calling? : Nat → List Char → Option (Call × List Char)
  | 0, _ => none
  | fuel + 1, s => do
    let (name, rest) ← identifier? s
    match arguments fuel rest with
    | ([], _) => none
    | (first :: more, rest) => return (.ofArguments (String.ofList name) (first :: more), rest)

def arguments : Nat → List Char → List Argument × List Char
  | 0, s => ([], s)
  | fuel + 1, s =>
    match argument? fuel (Text.skipSpace s) with
    | some (a, rest) =>
      let more := arguments fuel rest
      (a :: more.1, more.2)
    | none => ([], s)

def argument? : Nat → List Char → Option (Argument × List Char)
  | 0, _ => none
  | fuel + 1, s =>
    (named? fuel s).or ((term? fuel s).map fun r => (.placed r.1, r.2))

def named? : Nat → List Char → Option (Argument × List Char)
  | 0, _ => none
  | fuel + 1, s => do
    let (name, rest) ← identifier? s
    let value ← Text.after? ['='] (Text.skipSpace rest)
    let (t, rest) ← term? fuel (Text.skipSpace value)
    return (.named (String.ofList name) t, rest)

end

/-- Enough for any text: between two characters that are read there are at most five steps. -/
def depthOf (s : List Char) : Nat := 5 * s.length + 5

end Placard.Handlebars

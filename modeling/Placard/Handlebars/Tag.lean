import Placard.Handlebars.Term

/-! A template as a row of texts and tags. A tilde at either end of a tag asks for the blanks on
that side to go. -/
namespace Placard.Handlebars

structure Position where
  line : Nat
  column : Nat
  deriving DecidableEq, Repr

def Position.first : Position := ⟨1, 1⟩

def Position.next (p : Position) (c : Char) : Position :=
  if c = '\n' then ⟨p.line + 1, 1⟩ else ⟨p.line, p.column + 1⟩

def Position.after (p : Position) (s : List Char) : Position := s.foldl Position.next p

inductive Tag where
  | value (t : Term)
  | call (c : Call)
  | openBlock (c : Call) (binders : List String)
  /-- The other branch, which may begin with a block of its own. -/
  | otherwise (chained : Option (Call × List String))
  | closeBlock (name : String)
  | comment
  | decorator (c : Call)
  /-- The template of another id stands here. -/
  | embed (name : Term) (c : Call)

inductive Piece where
  | text (s : List Char)
  /-- The body of a raw block, without the blanks skipped before it. -/
  | raw (skipped s : List Char)
  | tag (place : Position) (tag : Tag) (trimBefore trimAfter : Bool)

structure Reading where
  tag : Tag
  trimBefore : Bool
  trimAfter : Bool
  rest : List Char

/-- Does a run of backslashes lead up to a tag? -/
def guardsTag (s : List Char) : Bool :=
  ['{', '{'].isPrefixOf (s.dropWhile (· = '\\'))

/-- The text up to a tag, and the rest. A backslash before braces makes text of them; a run of
backslashes before a tag loses one. The next `literal` characters are text; `counted` says that the
run being read has lost its one. -/
def splitText (mark : List Char) (literal : Nat) (counted : Bool) :
    List Char → List Char × List Char
  | [] => ([], [])
  | c :: rest =>
    if literal ≠ 0 then
      let more := splitText mark (literal - 1) false rest
      (c :: more.1, more.2)
    else if c = '\\' && counted then
      let more := splitText mark 0 true rest
      (c :: more.1, more.2)
    else if mark.isPrefixOf (c :: rest) then ([], c :: rest)
    else if c = '\\' && ['{', '{', '{', '{'].isPrefixOf rest then splitText mark 4 false rest
    else if c = '\\' && ['{', '{'].isPrefixOf rest then splitText mark 2 false rest
    else if c = '\\' && ['\\'].isPrefixOf rest && guardsTag rest then
      splitText mark 0 true rest
    else
      let more := splitText mark 0 false rest
      (c :: more.1, more.2)

def afterNext? (mark : List Char) : List Char → Option (List Char)
  | [] => Text.after? mark []
  | c :: rest =>
    match Text.after? mark (c :: rest) with
    | some after => some after
    | none => afterNext? mark rest

def tilde (s : List Char) : Bool × List Char :=
  match Text.skipSpace s with
  | '~' :: rest => (true, rest)
  | rest => (false, rest)

def close? (braces s : List Char) : Option (Bool × List Char) :=
  let (trim, s) := tilde s
  (Text.after? braces (Text.skipSpace s)).map fun rest => (trim, rest)

def name? (s : List Char) : Option (Term × List Char) :=
  ((subterm? (depthOf s) s).map fun r => (r.1.term, r.2)).or
    ((path? s).map fun r => (.path r.1, r.2))

/-- What a tag prints: a call with arguments, or a value. -/
def content? (s : List Char) : Option (Tag × List Char) :=
  ((calling? (depthOf s) s).map fun r => (.call r.1, r.2)).or
    ((name? s).map fun r => (.value r.1, r.2))

/-- The names that a block gives to its values. -/
def binders? (s : List Char) : Option (List String × List Char) := do
  let s ← Text.after? ['a', 's'] (Text.skipSpace s)
  let s ← Text.after? ['|'] (Text.skipSpace s)
  let (first, s) ← identifier? (Text.skipSpace s)
  let (names, s) := match identifier? (Text.skipSpace s) with
    | some (second, s) => ([String.ofList first, String.ofList second], s)
    | none => ([String.ofList first], s)
  let s ← Text.after? ['|'] (Text.skipSpace s)
  return (names, s)

def opening? (s : List Char) : Option ((Call × List String) × List Char) := do
  let (name, rest) ← identifier? s
  let (given, rest) := arguments (depthOf rest) rest
  let (names, rest) := (binders? rest).getD ([], rest)
  return ((.ofArguments (String.ofList name) given, names), rest)

def isIdChar (c : Char) : Bool :=
  c.isAlphanum || c = '_' || c = '-' || c = '/' || c = '.' || 128 ≤ c.toNat

/-- The text after the closing quote of an id; a quote with a backslash before it does not close. -/
def afterQuotedId? : List Char → Option (List Char)
  | [] => none
  | '\'' :: rest => some rest
  | '\\' :: '\'' :: rest => afterQuotedId? rest
  | _ :: rest => afterQuotedId? rest

/-- The id of a template: plain, or in single quotes, which belong to it. -/
def templateId? : List Char → Option (List Char × List Char)
  | '\'' :: rest =>
    match afterQuotedId? rest with
    | some after =>
      if after.length + 1 < rest.length then some (consumed ('\'' :: rest) after, after) else none
    | none => none
  | s =>
    match s.takeWhile isIdChar with
    | [] => none
    | id => some (id, s.dropWhile isIdChar)

/-- The id of a template, or else a value that gives it. -/
def embedName? (s : List Char) : Option (Term × List Char) :=
  match templateId? s with
  | some (id, rest) => some (.literal (.str (String.ofList id)), rest)
  | none =>
    match name? s with
    | some (.path p, rest) => some (.literal (.str p.written), rest)
    | r => r

def ended (tag : Tag) (before : Bool) (braces s : List Char) : Option Reading :=
  (close? braces s).map fun r => ⟨tag, before, r.1, r.2⟩

/-- The other branch: nothing, or a block, after its word. The name of the block may touch the
word. -/
def otherwise? (before : Bool) (s : List Char) : Option Reading :=
  (ended (.otherwise none) before ['}', '}'] s).or
    ((opening? (Text.skipSpace s)).bind fun r =>
      ended (.otherwise (some r.1)) before ['}', '}'] r.2)

def afterElse? (s : List Char) : Option (List Char) := Text.after? ['e', 'l', 's', 'e'] s

def printing? (before : Bool) (braces s : List Char) : Option Reading :=
  (content? (Text.skipSpace s)).bind fun r => ended r.1 before braces r.2

/-- A tag after its two braces and its tilde. A block with a star or a greater sign after its number
sign, which would name a template or be passed to one, is refused here. -/
def inner? (before : Bool) (s : List Char) : Option Reading :=
  let braces := ['}', '}']
  match Text.skipSpace s with
  | '#' :: rest =>
    (opening? (Text.skipSpace rest)).bind fun r => ended (.openBlock r.1.1 r.1.2) before braces r.2
  | '/' :: rest =>
    (identifier? (Text.skipSpace rest)).bind fun r =>
      ended (.closeBlock (String.ofList r.1)) before braces r.2
  | '^' :: rest => otherwise? before rest
  | '{' :: rest =>
    (content? (Text.skipSpace rest)).bind fun r =>
      (Text.after? ['}'] (Text.skipSpace r.2)).bind fun rest => ended r.1 before braces rest
  | '&' :: rest =>
    (name? (Text.skipSpace rest)).bind fun r => ended (.value r.1) before braces r.2
  | '*' :: rest =>
    (opening? (Text.skipSpace rest)).bind fun r => ended (.decorator r.1.1) before braces r.2
  | '>' :: rest =>
    (embedName? (Text.skipSpace rest)).bind fun r =>
      let given := arguments (depthOf r.2) r.2
      ended (.embed r.1 (.ofArguments "" given.1)) before braces given.2
  | s =>
    match (afterElse? s).bind (otherwise? before) with
    | some r => some r
    | none => printing? before braces s

/-- A comment ends at the first braces, or where it began with two dashes at the first dashes with
braces, if there are any. -/
def afterComment? (s : List Char) : Option (List Char) :=
  ((Text.after? ['-', '-'] (Text.skipSpace s)).bind (afterNext? ['-', '-', '}', '}'])).or
    (afterNext? ['}', '}'] s)

def tag? (s : List Char) : Option Reading :=
  match s with
  | '!' :: rest => (afterComment? rest).map fun rest => ⟨.comment, false, false, rest⟩
  | '{' :: rest =>
    (printing? (tilde rest).1 ['}', '}', '}'] (tilde rest).2).or (inner? false s)
  | s => inner? (tilde s).1 (tilde s).2

/-- A raw block after its four braces: its tags and the text between them. -/
structure RawBlock where
  opened : Reading
  skipped : List Char
  text : List Char
  /-- From where the closing tag begins. -/
  closing : List Char
  closed : Reading

def rawBlock? (s : List Char) : Option RawBlock := do
  let (before, s) := tilde s
  let (line, s) ← opening? (Text.skipSpace s)
  let opened ← ended (.openBlock line.1 line.2) before ['}', '}', '}', '}'] s
  let inside := Text.skipSpace opened.rest
  let (text, closing) := splitText ['{', '{', '{', '{'] 0 false inside
  let s ← Text.after? ['{', '{', '{', '{'] closing
  let (before, s) := tilde s
  let s ← Text.after? ['/'] (Text.skipSpace s)
  let (name, s) ← identifier? (Text.skipSpace s)
  let closed ← ended (.closeBlock (String.ofList name)) before ['}', '}', '}', '}'] s
  return ⟨opened, consumed opened.rest inside, text, closing, closed⟩

def Reading.piece (r : Reading) (place : Position) : Piece :=
  .tag place r.tag r.trimBefore r.trimAfter

/-- The pieces of a text from a position on; each takes at least one character. -/
def piecesFrom : Nat → Position → List Char → Option (List Piece)
  | _, _, [] => some []
  | 0, _, _ :: _ => none
  | fuel + 1, place, s =>
    match Text.after? ['{', '{', '{', '{'] s with
    | some inside => do
      let b ← rawBlock? inside
      let closePlace := place.after (consumed s b.closing)
      let more ← piecesFrom fuel (place.after (consumed s b.closed.rest)) b.closed.rest
      return b.opened.piece place :: .raw b.skipped b.text :: b.closed.piece closePlace :: more
    | none =>
      match Text.after? ['{', '{'] s with
      | some inside => do
        let r ← tag? inside
        let more ← piecesFrom fuel (place.after (consumed s r.rest)) r.rest
        return r.piece place :: more
      | none => do
        let (text, rest) := splitText ['{', '{'] 0 false s
        let more ← piecesFrom fuel (place.after (consumed s rest)) rest
        return .text text :: more

def pieces? (s : List Char) : Option (List Piece) := piecesFrom s.length .first s

end Placard.Handlebars

import Placard.Text.Letters
import Placard.Text.Utf8

/-! Variables of the environment, and a file of them: one assignment a line, with quotes, escapes,
comments and references to other variables. -/
namespace Placard

abbrev Variables := List (String × String)

namespace VariableFile

/-- How far a line has been understood; a line that ends within quotes, or right after a blank or a
backslash, goes on in the next one. -/
inductive LineState where
  | between | blank | escape | strong | strongEscape | weak | weakEscape
  deriving DecidableEq

def isLineBlank (c : Char) : Bool := Text.isBlank c && c ≠ '\n' && c ≠ '\r'

def opening (c : Char) : LineState :=
  if c = '\\' then .escape
  else if c = '"' then .weak
  else if c.toNat = 0x27 then .strong
  else .between

def LineState.next (c : Char) : LineState → LineState
  | blank => opening c
  | between => if isLineBlank c then .blank else opening c
  | escape => .between
  | weak => if c = '\\' then .weakEscape else if c = '"' then .between else .weak
  | weakEscape => .weak
  | strong => if c = '\\' then .strongEscape else if c.toNat = 0x27 then .between else .strong
  | strongEscape => .strong

/-- The state after a line, or the text before its comment. -/
def scan (state : LineState) (before : List Char) : List Char → LineState ⊕ List Char
  | [] => .inl state
  | c :: rest =>
    if state = .blank ∧ c = '#' then .inr before
    else scan (state.next c) (before ++ [c]) rest

def withoutLineEnd (s : List Char) : List Char :=
  match s.reverse with
  | '\n' :: '\r' :: front => front.reverse
  | '\n' :: front => front.reverse
  | _ => s

/-- The lines of the file put together to assignments, up to the first that cannot be. `pending` is
what an assignment has so far. -/
def assignments (pending : List Char) (state : LineState) :
    List (Option (List Char)) → List (Option (List Char))
  | [] => if state = .between then [] else [none]
  | none :: _ => [none]
  | some line :: rest =>
    if (Text.trimStart (pending ++ line)).head? = some '#' then
      some [] :: assignments [] .between rest
    else
      match scan state [] line with
      | .inr before => some (pending ++ before) :: assignments [] .between rest
      | .inl .between => some (withoutLineEnd (pending ++ line)) :: assignments [] .between rest
      | .inl state => assignments (pending ++ line) state rest

/-- Where in a value the reader is. -/
inductive Mode where
  | plain | escaped | strong
  /-- In the name of a variable that is referred to, without or with braces. -/
  | bare (name : List Char)
  | braced (name : List Char)
  /-- After the value, where only blanks and a comment may follow. -/
  | ended
  | comment
  deriving DecidableEq

structure Reading where
  weak : Bool
  mode : Mode
  value : List Char

def Reading.push (r : Reading) (c : Char) : Reading :=
  { r with mode := .plain, value := r.value ++ [c] }

def referred (environment : Variables) (name : List Char) : List Char :=
  ((environment.lookup (String.ofList name)).getD "").toList

def Reading.refer (environment : Variables) (r : Reading) (name : List Char) : Reading :=
  { r with mode := .plain, value := r.value ++ referred environment name }

def Reading.plain (r : Reading) (c : Char) : Reading :=
  if c = '$' then { r with mode := .bare [] }
  else if c = '\\' then { r with mode := .escaped }
  else if c = '"' then { r with weak := !r.weak }
  else if r.weak then r.push c
  else if c.toNat = 0x27 then { r with mode := .strong }
  else if c = ' ' || c = '\t' then { r with mode := .ended }
  else r.push c

/-- Reads one more character, unless it may not stand there. -/
def Reading.next (environment : Variables) (r : Reading) (c : Char) : Option Reading :=
  match r.mode with
  | .comment => some r
  | .ended =>
    if c = ' ' || c = '\t' then some r
    else if c = '#' then some { r with mode := .comment }
    else none
  | .escaped =>
    if c = '\\' || c.toNat = 0x27 || c = '"' || c = '$' || c = ' ' then some (r.push c)
    else if c = 'n' then some (r.push '\n')
    else none
  | .strong =>
    if c.toNat = 0x27 then some { r with mode := .plain }
    else some { r with value := r.value ++ [c] }
  | .bare name =>
    if Text.isAlphanumeric c then some { r with mode := .bare (name ++ [c]) }
    else if c = '\x7b' ∧ name = [] then some { r with mode := .braced [] }
    else
      let r := r.refer environment name
      some (if c = '$' then { r with mode := .bare [] } else r.push c)
  | .braced name =>
    if c = '\x7d' then some (r.refer environment name)
    else some { r with mode := .braced (name ++ [c]) }
  | .plain => some (r.plain c)

def Reading.finished (environment : Variables) (r : Reading) : Option String :=
  if r.weak then none
  else
    match r.mode with
    | .braced _ => none
    | .strong => none
    | .bare name => some (String.ofList (r.value ++ referred environment name))
    | _ => some (String.ofList r.value)

def value? (environment : Variables) (s : List Char) : Option String :=
  (s.foldlM (Reading.next environment) ⟨false, .plain, []⟩).bind (Reading.finished environment)

def isNameStart (c : Char) : Bool := c.isAlpha || c = '_'
def isNameChar (c : Char) : Bool := c.isAlphanum || c = '_' || c = '.'

/-- A name and what follows it and the blanks after it. -/
def name? (s : List Char) : Option (List Char × List Char) :=
  if s.head?.any isNameStart then
    some (s.takeWhile isNameChar, Text.trimStart (s.dropWhile isNameChar))
  else none

/-- The text after an equals sign. -/
def afterEquals? : List Char → Option (List Char)
  | '=' :: rest => some rest
  | _ => none

/-- Name and value of an assignment. The word `export` may stand in front of the name. -/
def nameAndValue? (s : List Char) : Option (List Char × List Char) := do
  let (name, rest) ← name? s
  match afterEquals? rest with
  | some value => return (name, value)
  | none =>
    if name = "export".toList then
      let (name, rest) ← name? rest
      let value ← afterEquals? rest
      return (name, value)
    else none

/-- Adds what a line assigns; a variable that is set stays. `none` if the line is malformed. -/
def assign (environment : Variables) (line : List Char) : Option Variables :=
  let line := Text.trimStart (Text.trimEnd line)
  if line = [] ∨ line.head? = some '#' then some environment
  else do
    let (name, rest) ← nameAndValue? line
    let rest := Text.trimStart rest
    let value ← if rest = [] ∨ rest.head? = some '#' then some "" else value? environment rest
    let name := String.ofList name
    return if (environment.lookup name).isSome then environment else environment ++ [(name, value)]

/-- Assignments up to the first malformed one. -/
def assignAll (environment : Variables) : List (Option (List Char)) → Variables
  | some line :: rest =>
    match assign environment line with
    | some environment => assignAll environment rest
    | none => environment
  | _ => environment

/-- The bytes of each line, with the end of the line. -/
def byteLines : List UInt8 → List (List UInt8)
  | [] => []
  | b :: rest =>
    if b = 10 then [b] :: byteLines rest
    else
      match byteLines rest with
      | [] => [[b]]
      | line :: lines => (b :: line) :: lines

def lineText? (bytes : List UInt8) : Option (List Char) :=
  (String.fromUTF8? ⟨bytes.toArray⟩).map String.toList

def load (environment : Variables) (contents : ByteArray) : Variables :=
  let lines := (byteLines (Text.withoutMark contents.toList)).map lineText?
  assignAll environment (assignments [] .between lines)

end VariableFile
end Placard

import Placard.Handlebars.Page
import Placard.Handlebars.Tag

/-! A compiled template: texts and tags with their blanks settled, then nested into blocks. A block
tag or a comment that has its line to itself takes the line with it, and an embedded template is
indented by the blanks before its tag. -/
namespace Placard.Handlebars

inductive Node where
  | text (s : String)
  | value (place : Position) (t : Term)
  | call (place : Position) (c : Call)
  /-- A block that another one's branch begins with has no place of its own. One that `opensLine`
  took its line and did not ask for the blanks before it to go. -/
  | block (place : Option Position) (c : Call) (binders : List String) (opensLine : Bool)
      (body : List Node) (inverse : Option (List Node))
  | decorator (place : Position) (c : Call)
  | embed (place : Position) (name : Term) (c : Call) (opensLine : Bool) (indent : String)

abbrev Template := List Node

def isLineBlank (c : Char) : Bool := c = ' ' || c = '\t'

def trimLineEnd (s : List Char) : List Char := (s.reverse.dropWhile isLineBlank).reverse

def afterLine (s : List Char) : List Char :=
  match s.dropWhile isLineBlank with
  | '\r' :: '\n' :: rest => rest
  | '\n' :: rest => rest
  | rest => rest

/-- What the blanks of the next text depend on. -/
structure Margin where
  /-- The last tag asked for the blanks after it to go. -/
  trim : Bool
  /-- The last tag took its line with it. -/
  line : Bool
  /-- Only blanks stand between the start of the line and here. -/
  lineStart : Bool
  /-- The blanks before this point. -/
  indent : List Char

def Margin.first : Margin := ⟨false, false, true, []⟩

/-- After a text, as far as the source goes. -/
def Margin.passing (m : Margin) (s : List Char) : Margin :=
  let indent := (s.reverse.takeWhile isLineBlank).reverse
  match s.reverse.dropWhile isLineBlank with
  | [] => { m with indent := m.indent ++ indent }
  | c :: _ => { m with lineStart := isLineEnd c, indent := indent }

inductive Item where
  | text (s : List Char)
  /-- A tag, with the blanks before it unless it asked for them to go. -/
  | tag (place : Position) (tag : Tag) (opensLine : Bool) (indent : List Char)

/-- Only blanks follow on the line. -/
def endsLine : List Piece → Bool
  | [] => true
  | .text s :: rest =>
    match s.dropWhile isLineBlank with
    | [] => rest.isEmpty
    | c :: _ => isLineEnd c
  | .raw skipped s :: _ =>
    match (skipped ++ s).dropWhile isLineBlank with
    | [] => false
    | c :: _ => isLineEnd c
  | .tag _ _ _ _ :: _ => false

/-- The tags that take their line with them. -/
def Tag.takesLine : Tag → Bool
  | .value _ | .call _ => false
  | _ => true

def Tag.isComment : Tag → Bool
  | .comment => true
  | _ => false

def alone (m : Margin) (t : Tag) (rest : List Piece) : Bool :=
  t.takesLine && m.lineStart && endsLine rest

/-- A text before the next piece, with the margin at its end. -/
def closeText (m : Margin) (rest : List Piece) (s : List Char) : List Char :=
  match rest with
  | .tag _ t before _ :: after =>
    let s := if before then Text.trimEnd s else s
    if alone m t after then trimLineEnd s else s
  | _ => s

/-- A text after the last piece. -/
def openText (m : Margin) (s : List Char) : List Char :=
  if m.trim then Text.trimStart s else if m.line then afterLine s else s

/-- Blanks alone that go leave the line of the last tag to the next text. -/
def Margin.afterText (m : Margin) (s : List Char) : Margin :=
  { m.passing s with line := m.line && m.trim && s.all Text.isSpace }

def Margin.afterTag (m : Margin) (t : Tag) (trimAfter isAlone : Bool) : Margin where
  trim := if t.isComment then m.trim else trimAfter
  line := if t.takesLine then isAlone else m.line
  lineStart := false
  indent := []

def items (m : Margin) : List Piece → List Item
  | [] => []
  | .text s :: rest =>
    let next := m.afterText s
    .text (closeText next rest (openText m s)) :: items next rest
  | .raw skipped s :: rest =>
    let next := m.passing (skipped ++ s)
    .text (closeText next rest (openText m s)) :: items next rest
  | .tag place t trimBefore trimAfter :: rest =>
    let isAlone := alone m t rest
    .tag place t (isAlone && !trimBefore) (if trimBefore then [] else m.indent) ::
      items (m.afterTag t trimAfter isAlone) rest

structure Frame where
  outer : List Node
  place : Option Position
  call : Call
  binders : List String
  opensLine : Bool
  /-- The body, once the other branch has begun. -/
  body : Option (List Node)

def Frame.node (f : Frame) (nodes : List Node) : Node :=
  match f.body with
  | none => .block f.place f.call f.binders f.opensLine nodes none
  | some body => .block f.place f.call f.binders f.opensLine body (some nodes)

/-- Closes the innermost block and, where it began a branch, the blocks around it. -/
def closeFrames (name : String) (nodes : List Node) :
    List Frame → Option (List Node × List Frame)
  | [] => none
  | f :: frames =>
    if f.place.isNone then closeFrames name (f.outer ++ [f.node nodes]) frames
    else if f.call.name = name then some (f.outer ++ [f.node nodes], frames)
    else none

/-- The nodes of a row of items; `nodes` are those of the innermost open block so far. -/
def nest (frames : List Frame) (nodes : List Node) : List Item → Option (List Node)
  | [] => if frames.isEmpty then some nodes else none
  | .text s :: rest => nest frames (nodes ++ [.text (String.ofList s)]) rest
  | .tag place t opensLine indent :: rest =>
    match t with
    | .value v => nest frames (nodes ++ [.value place v]) rest
    | .call c => nest frames (nodes ++ [.call place c]) rest
    | .comment => nest frames nodes rest
    | .decorator c => nest frames (nodes ++ [.decorator place c]) rest
    | .embed name c =>
      nest frames (nodes ++ [.embed place name c opensLine (String.ofList indent)]) rest
    | .openBlock c binders =>
      nest (⟨nodes, some place, c, binders, opensLine, none⟩ :: frames) [] rest
    | .closeBlock name =>
      match closeFrames name nodes frames with
      | none => none
      | some (nodes, frames) => nest frames nodes rest
    | .otherwise chained =>
      match frames with
      | [] => none
      | f :: frames =>
        if f.body.isSome then none
        else
          let f := { f with body := some nodes }
          match chained with
          | none => nest (f :: frames) [] rest
          | some (c, binders) =>
            nest (⟨[], none, c, binders, opensLine, none⟩ :: f :: frames) [] rest

def compile? (text : String) : Option Template := do
  let ps ← pieces? text.toList
  nest [] [] (items .first ps)

end Placard.Handlebars

import Placard.Text.Blank

/-! What has been rendered of a text, and how its next line begins: the lines of an embedded
template are indented, those of its first template are not. -/
namespace Placard.Handlebars

def isLineEnd (c : Char) : Bool := c = '\n' || c = '\r'

/-- What is printed for a tag. The answer of a test stands bare: it neither begins a line nor goes
on with one. -/
inductive Printed where
  | text (s : String)
  | bare (s : String)

structure Page where
  text : String
  /-- Stands before each line. -/
  indent : String
  /-- The text that was written last ended its line. -/
  lineEnded : Bool
  /-- The indentation of the next line is still to be written. -/
  owesIndent : Bool
  /-- Something has been written for the innermost block or embedded template. -/
  grew : Bool
  /-- The id of the template, as long as no branch of a block has been rendered in it. -/
  template : Option String

namespace Page

def blank (template : String) : Page := ⟨"", "", false, false, false, some template⟩

/-- Indents what follows each line end but one at the very end. -/
def indented (indent : List Char) : List Char → List Char
  | [] => []
  | [c] => [c]
  | c :: rest =>
    if c = '\n' then c :: indent ++ indented indent rest else c :: indented indent rest

/-- Writes a text. A line end that comes first leaves its line without indentation. -/
def write (p : Page) (s : String) : Page :=
  if s = "" then p
  else
    let due := if p.owesIndent && !s.toList.head?.any isLineEnd then p.indent else ""
    let body := if p.indent = "" then s else String.ofList (indented p.indent.toList s.toList)
    let ended := s.toList.getLast?.any isLineEnd
    { p with text := p.text ++ due ++ body, lineEnded := ended, owesIndent := ended, grew := true }

def print (p : Page) : Printed → Page
  | .text s => p.write s
  | .bare s => { p with text := p.text ++ s }

def enter (p : Page) (owesIndent : Bool) : Page :=
  { p with owesIndent := owesIndent, grew := false }

/-- Leaves what was entered: the line stays as it was before if nothing was written. -/
def leave (p : Page) (owed grown : Bool) : Page :=
  if p.grew then { p with owesIndent := p.lineEnded }
  else { p with owesIndent := owed, grew := grown }

/-- The blocks of a template have no id of their own. -/
def withoutTemplate (p : Page) : Page := { p with template := none }

end Page
end Placard.Handlebars

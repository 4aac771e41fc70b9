import Placard.Handlebars.Tag
import Placard.Text.Quoted

/-! Why a template cannot be rendered, and where that happens. -/
namespace Placard.Handlebars

inductive Reason where
  /-- In strict mode; the path as written, where there is one. -/
  | missing (written : Option String)
  | badIndex (step : String)
  | unknownHelper (name : String)
  | unknownDecorator (name : String)
  | unknownEmbedded (name : String)
  | embedsItself
  | argumentAt (helper : String) (index : Nat)
  | argumentNamed (helper name : String)
  | badLevel (name : String)
  | refused (helper message : String)

def Reason.message : Reason → String
  | .missing (some written) =>
    "Failed to access variable in strict mode Some(" ++ Text.quoted written ++ ")"
  | .missing none => "Failed to access variable in strict mode None"
  | .badIndex step => "Cannot access array/vector with string index, " ++ step
  | .unknownHelper name => "Helper not found " ++ name
  | .unknownDecorator name => "Decorator not found " ++ name
  | .unknownEmbedded name => "Partial not found " ++ name
  | .embedsItself => "Can not include current template in partial"
  | .argumentAt helper index =>
    "Helper/Decorator " ++ helper ++ " param at index " ++ toString index ++
      " required but not found"
  | .argumentNamed helper name =>
    "Helper/Decorator " ++ helper ++ " param with name " ++ name ++ " required but not found"
  | .badLevel name => "Unsupported logging level " ++ name
  | .refused helper message => "helper '" ++ helper ++ "': " ++ message

/-- A reason with the innermost place and template that are known. -/
structure Failure where
  reason : Reason
  place : Option Position
  template : Option String

def Failure.of (reason : Reason) : Failure := ⟨reason, none, none⟩

/-- Only the innermost element and template are blamed. -/
def Failure.within (place : Option Position) (f : Failure) : Failure :=
  { f with place := f.place.or place }

def Failure.ofTemplate (id : String) (f : Failure) : Failure :=
  { f with template := f.template.or (some id) }

def Failure.message (f : Failure) : String :=
  let name := match f.template with
    | some id => "\"" ++ id ++ "\""
    | none => "Unnamed template"
  match f.place with
  | some p =>
    "Error rendering " ++ name ++ " line " ++ toString p.line ++ ", col " ++ toString p.column ++
      ": " ++ f.reason.message
  | none => f.reason.message

/-- What ends a rendering. Templates that embed each other without end do not fail: the engine would
not come back from them. -/
inductive Stop where
  | failed (f : Failure)
  | endless

def Stop.within (place : Option Position) : Stop → Stop
  | failed f => failed (f.within place)
  | endless => endless

def Stop.ofTemplate (id : String) : Stop → Stop
  | failed f => failed (f.ofTemplate id)
  | endless => endless

end Placard.Handlebars

import Placard.Target
import Placard.Source.Content
import Placard.Handlebars.Failure
import Placard.Liquid.Filter

/-! What can go wrong with templates, by cause; the wording is in one place. -/
namespace Placard

inductive RenderFailure where
  | handlebars (f : Handlebars.Failure)
  | liquid (r : Liquid.Reason)
  /-- Templates embed each other without end; no engine says so. -/
  | endless

def RenderFailure.message : RenderFailure → String
  | handlebars f => f.message
  | liquid r => "liquid: " ++ r.message
  | endless => "templates embed each other without end"

def RenderFailure.ofStop : Handlebars.Stop → RenderFailure
  | .failed f => handlebars f
  | .endless => endless

inductive TemplateError where
  | templateNotFound (id : String)
  | noTemplateFor (t : Target)
  | engineNotFound (l : Language)
  | renderFailed (cause : RenderFailure)
  /-- A template failed where it was applied for a target. -/
  | applying (t : Target) (cause : TemplateError)
  | compileFailed (id : String)
  | unsupported (l : Language) (c : Capability)
  | fetchFailed (path : String) (cause : FetchError)
  | invalidManifest (message : String)
  | duplicateKey (key : String)

inductive TemplateErrorKind where
  | templateNotFound | engineNotFound | renderFailed | compileFailed | unsupported | fetchFailed
  | invalidManifest | duplicateKey
  deriving DecidableEq, Repr

namespace TemplateError

def kind : TemplateError → TemplateErrorKind
  | templateNotFound _ => .templateNotFound
  | noTemplateFor _ => .templateNotFound
  | engineNotFound _ => .engineNotFound
  | renderFailed _ => .renderFailed
  | applying _ _ => .renderFailed
  | compileFailed _ => .compileFailed
  | unsupported _ _ => .unsupported
  | fetchFailed _ _ => .fetchFailed
  | invalidManifest _ => .invalidManifest
  | duplicateKey _ => .duplicateKey

/-- The cause of a compile failure is left to the reader of the template. -/
def message : TemplateError → String
  | templateNotFound id => "Template not found: " ++ id
  | noTemplateFor t => "No template found for " ++ t.description
  | engineNotFound l => "No template engine configured for template type: " ++ l.name
  | renderFailed cause => cause.message
  | applying t cause =>
    "Error applying template for " ++ t.description ++ " with error message " ++ cause.message
  | compileFailed id => "Failed to compile template '" ++ id ++ "': "
  | unsupported l c => "Template engine '" ++ l.name ++ "' does not support " ++ c.name
  | fetchFailed path cause => "Failed to fetch template '" ++ path ++ "': " ++ cause.message
  | invalidManifest message => "Invalid template manifest: " ++ message
  | duplicateKey key => "Duplicate template key in manifest: " ++ key

/-- A caller can do without a template that is not there. -/
def isRecoverable (e : TemplateError) : Bool := e.kind = .templateNotFound

/-- As seen by whoever asked for a target: a missing template is said of the target, a missing
engine stays what it is, and all else is a failure to apply the template. -/
def forTarget (t : Target) (e : TemplateError) : TemplateError :=
  match e.kind with
  | .templateNotFound => .noTemplateFor t
  | .engineNotFound => e
  | _ => .applying t e

end TemplateError

inductive RunError where
  | config (message : String)
  | invalid (message : String)
  | badData (message : String)
  | template (e : TemplateError)
  | source (e : FetchError)

namespace RunError

def message : RunError → String
  | config message => "Configuration error: " ++ message
  | invalid message => "Validation error: " ++ message
  | badData message => "Invalid event data: " ++ message
  | template e => e.message
  | source e => "Content source error: " ++ e.message

/-- Defects of the configuration, of the data, and a missing template can be told apart. -/
def exitCode : RunError → Nat
  | config _ => 2
  | invalid _ => 2
  | badData _ => 3
  | template e =>
    match e.kind with
    | .templateNotFound => 4
    | .engineNotFound => 2
    | _ => 1
  | source _ => 1

end RunError
end Placard

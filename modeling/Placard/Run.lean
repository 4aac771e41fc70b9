import Placard.Config.Layers
import Placard.Source.Remote

/-! A run: settings are loaded, templates are set up, the requested one is rendered, and what it
renders is a JSON document, written compactly. -/
namespace Placard

def Location.source [Monad m] (location : Location)
    (read : String → m (Except Obstacle ByteArray)) (send : Network m) : Source m :=
  match location with
  | .folder root => .ofFolder root fun path => return (← read path).bind Files.decoded
  | .repository r _ => .ofRepository r send

namespace Run

/-- Renders the data for a target. The payload is the compact form of what the template makes. -/
def payload (r : Registry) (request : RenderRequest) : Except RunError String := do
  let data ← (Json.parse request.data).mapError .badData
  let rendered ← ((r.render request.target data).1).mapError .template
  let document ← (Json.parse rendered).mapError fun message =>
    .invalid ("rendered template is not valid JSON: " ++ message)
  return document.compact

def withSettings [Monad m] (s : Surroundings m) (send : Network m) (settings : Settings)
    (pace : Pace := .together) : m (Except RunError String) := do
  match settings.source.location with
  | .error e => return .error e
  | .ok location =>
    let registry := Registry.standard settings.engines.strict settings.engines.enabled
    let source := location.source s.read send
    match ← registry.setup source location settings.source.manifest settings.setupOptions pace with
    | (.error e, _) => return .error (.template e)
    | (.ok _, registry) => return payload registry settings.render

end Run

/-- The payload of a run, or what went wrong. Neither files nor a network answer at once. -/
def run [Monad m] (s : Surroundings m) (send : Network m) (pace : Pace := .together) :
    m (Except RunError String) := do
  match ← Settings.load s with
  | .error e => return .error e
  | .ok settings => Run.withSettings s send settings pace

/-- What a finished run leaves: an exit code and what it printed. -/
structure Finished where
  exitCode : Nat
  printed : String
  deriving DecidableEq, Repr

/-- Only a payload is printed, on a line of its own. -/
def Finished.of : Except RunError String → Finished
  | .ok payload => ⟨0, payload ++ "\n"⟩
  | .error e => ⟨e.exitCode, ""⟩

end Placard

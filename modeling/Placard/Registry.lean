import Placard.Engine
import Placard.Counter

/-! The engines that are configured, with the keys that have been registered through the registry
and what has been counted on the way. -/
namespace Placard

structure Registry where
  handlebars : Option HandlebarsEngine
  liquid : Option LiquidEngine
  /-- The language each key was last registered for. -/
  keys : List (String × Language)
  tally : Tally

structure EngineOptions where
  language : Language
  helpers : List (String × Helper)
  tags : List (String × TagFunction)

namespace Registry

def empty : Registry := ⟨none, none, [], []⟩

def engine? (r : Registry) : Language → Option Engine
  | .handlebars => r.handlebars.map .handlebars
  | .liquid => r.liquid.map .liquid

def engine (r : Registry) (l : Language) : Except TemplateError Engine :=
  match r.engine? l with
  | some e => .ok e
  | none => .error (.engineNotFound l)

/-- An engine takes the place of the one of its language. -/
def withEngine (r : Registry) : Engine → Registry
  | .handlebars e => { r with handlebars := some e }
  | .liquid e => { r with liquid := some e }

def ofLanguages (make : Language → Engine) (languages : List Language) : Registry :=
  languages.foldl (fun r l => r.withEngine (make l)) .empty

/-- The configured engines, each with the helpers that every one starts with. -/
def standard (strict : Bool) (languages : List Language) : Registry :=
  ofLanguages (Engine.standard strict) languages

def languages (r : Registry) : List Language := Language.all.filter fun l => (r.engine? l).isSome

def isRegistered (r : Registry) (l : Language) (key : String) : Bool :=
  r.keys.lookup key == some l

def count (r : Registry) (c : Counter) : Registry := { r with tally := c :: r.tally }

/-- Changes one engine, if it is configured. -/
def change (r : Registry) (l : Language) (f : Engine → Except TemplateError Engine) :
    Except TemplateError Registry := do
  let e ← r.engine l
  let e ← f e
  return r.withEngine e

def registerHelper (r : Registry) (l : Language) (name : String) (h : Helper) :
    Except TemplateError Registry :=
  r.change l fun e => .ok (e.registerHelper name h)

def registerTag (r : Registry) (l : Language) (name : String) (f : TagFunction) :
    Except TemplateError Registry :=
  r.change l (Engine.registerTag name f)

/-- Compiles a text under a key, and notes the key. Says whether the key had been registered. -/
def registerText (r : Registry) (l : Language) (key text : String) :
    Except TemplateError (Bool × Registry) := do
  let r ← r.change l (Engine.registerTemplate key (withoutFinalNewline text))
  let again := (r.keys.lookup key).isSome
  let r := ({ r with keys := bind key l r.keys }).count (.registered l)
  return (again, if again then r.count (.overwritten l) else r)

def apply (r : Registry) (l : Language) (key : String) (data : Json) :
    Except TemplateError String := do
  let e ← r.engine l
  e.apply key data

/-- Renders the template of a target. -/
def render (r : Registry) (t : Target) (data : Json) : Except TemplateError String × Registry :=
  let result := (r.apply t.language t.key data).mapError (TemplateError.forTarget t)
  let p := Pipeline.ofTarget t
  (result, (r.count (.renders p (Outcome.of result))).count (.latency p))

/-- One registration after the other; those before one that fails stay. -/
def registerTags (r : Registry) (l : Language) :
    List (String × TagFunction) → Except TemplateError Unit × Registry
  | [] => (.ok (), r)
  | (name, f) :: rest =>
    match r.registerTag l name f with
    | .error e => (.error e, r)
    | .ok r => r.registerTags l rest

def registerHelpers (r : Registry) (l : Language) :
    List (String × Helper) → Except TemplateError Unit × Registry
  | [] => (.ok (), r)
  | (name, h) :: rest =>
    match r.registerHelper l name h with
    | .error e => (.error e, r)
    | .ok r => r.registerHelpers l rest

/-- Applies options in order: of each engine first the helpers, then the tags. -/
def applyOptions (r : Registry) : List EngineOptions → Except TemplateError Unit × Registry
  | [] => (.ok (), r)
  | o :: rest =>
    match r.engine o.language with
    | .error e => (.error e, r)
    | .ok _ =>
      match r.registerHelpers o.language o.helpers with
      | (.error e, r) => (.error e, r)
      | (.ok (), r) =>
        match r.registerTags o.language o.tags with
        | (.error e, r) => (.error e, r)
        | (.ok (), r) => r.applyOptions rest

end Registry
end Placard

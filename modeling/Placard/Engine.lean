import Placard.Error
import Placard.Handlebars.Render
import Placard.Liquid.Render

/-! Template engines. An engine keeps compiled templates by id and the extensions that have been
registered. Handlebars looks helpers up when it renders; Liquid binds them when it compiles. -/
namespace Placard

/-- Without one line end at its end. -/
def withoutFinalNewline (text : String) : String :=
  String.ofList <| match text.toList.reverse with
    | '\n' :: '\r' :: front => front.reverse
    | '\n' :: front => front.reverse
    | back => back.reverse

structure HandlebarsEngine where
  settings : Handlebars.Settings
  templates : List (String × Handlebars.Template)

structure LiquidEngine where
  extensions : Liquid.Extensions
  templates : List (String × Liquid.Template)

namespace HandlebarsEngine

def empty (strict : Bool) : HandlebarsEngine := ⟨⟨strict, []⟩, []⟩

def registerTemplate (e : HandlebarsEngine) (id text : String) :
    Except TemplateError HandlebarsEngine :=
  match Handlebars.compile? text with
  | some t => .ok { e with templates := bind id t e.templates }
  | none => .error (.compileFailed id)

def registerHelper (e : HandlebarsEngine) (name : String) (h : Helper) : HandlebarsEngine :=
  { e with settings := { e.settings with helpers := bind name h e.settings.helpers } }

def apply (e : HandlebarsEngine) (id : String) (data : Json) : Except TemplateError String :=
  match e.templates.lookup id with
  | none => .error (.templateNotFound id)
  | some _ =>
    (Handlebars.render e.settings e.templates id data).mapError fun stop =>
      .renderFailed (.ofStop stop)

end HandlebarsEngine

namespace LiquidEngine

def empty : LiquidEngine := ⟨.none, []⟩

def registerTemplate (e : LiquidEngine) (id text : String) : Except TemplateError LiquidEngine :=
  match Liquid.compile? e.extensions text with
  | some t => .ok { e with templates := bind id t e.templates }
  | none => .error (.compileFailed id)

def registerHelper (e : LiquidEngine) (name : String) (h : Helper) : LiquidEngine :=
  { e with extensions := { e.extensions with filters := bind name h e.extensions.filters } }

def registerTag (e : LiquidEngine) (name : String) (f : TagFunction) : LiquidEngine :=
  { e with extensions := { e.extensions with tags := bind name f e.extensions.tags } }

def apply (e : LiquidEngine) (id : String) (data : Json) : Except TemplateError String :=
  match e.templates.lookup id with
  | none => .error (.templateNotFound id)
  | some t => (Liquid.render t data).mapError fun r => .renderFailed (.liquid r)

end LiquidEngine

inductive Engine where
  | handlebars (e : HandlebarsEngine)
  | liquid (e : LiquidEngine)

namespace Engine

def empty (strict : Bool) : Language → Engine
  | .handlebars => .handlebars (.empty strict)
  | .liquid => .liquid .empty

def language : Engine → Language
  | handlebars _ => .handlebars
  | liquid _ => .liquid

def registerTemplate (id text : String) : Engine → Except TemplateError Engine
  | handlebars e => (e.registerTemplate id text).map handlebars
  | liquid e => (e.registerTemplate id text).map liquid

def registerHelper (name : String) (h : Helper) : Engine → Engine
  | handlebars e => handlebars (e.registerHelper name h)
  | liquid e => liquid (e.registerHelper name h)

def registerTag (name : String) (f : TagFunction) : Engine → Except TemplateError Engine
  | handlebars _ => .error (.unsupported .handlebars .tags)
  | liquid e => .ok (liquid (e.registerTag name f))

def apply (id : String) (data : Json) : Engine → Except TemplateError String
  | handlebars e => e.apply id data
  | liquid e => e.apply id data

/-- In ascending order. -/
def templateIds : Engine → List String
  | handlebars e => e.templates.map (·.1)
  | liquid e => e.templates.map (·.1)

def hasTemplate (id : String) : Engine → Bool
  | handlebars e => (e.templates.lookup id).isSome
  | liquid e => (e.templates.lookup id).isSome

def registerHelpers (e : Engine) (helpers : List (String × Helper)) : Engine :=
  helpers.foldl (fun e h => e.registerHelper h.1 h.2) e

def standard (strict : Bool) (l : Language) : Engine :=
  (empty strict l).registerHelpers Helper.builtin

end Engine
end Placard

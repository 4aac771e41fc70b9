import Placard.Engine
import Placard.Proofs.Handlebars.Standalone
import Placard.Proofs.Table

/-! What an engine keeps of a text, and what it makes of it. Compiling depends on the extensions
alone, so storing one template never changes how another text compiles. -/
namespace Placard

namespace Handlebars

/-- Tables that hold the same templates render alike; their order does not matter. -/
theorem renderIn_congr (s : Settings) {templates others : List (String × Template)}
    (same : ∀ id, templates.lookup id = others.lookup id) (fuel : Nat) :
    renderIn s templates fuel = renderIn s others fuel := by
  induction fuel with
  | zero => rfl
  | succ fuel ih =>
    funext id scope page
    simp only [renderIn,same id,ih]

theorem render_congr (s : Settings) {templates others : List (String × Template)}
    (same : ∀ id, templates.lookup id = others.lookup id) (id : String) (data : Json) :
    render s templates id data = render s others id data := by
  simp only [render,renderIn_congr s same]

end Handlebars

inductive Compiled where
  | handlebars (t : Handlebars.Template)
  | liquid (t : Liquid.Template)

/-- A compiled template embeds no other one. -/
def Compiled.Standalone : Compiled → Prop
  | handlebars t => Handlebars.embedsIn t = false
  | liquid _ => True

instance : DecidablePred Compiled.Standalone
  | .handlebars t => inferInstanceAs (Decidable (Handlebars.embedsIn t = false))
  | .liquid _ => inferInstanceAs (Decidable True)

namespace Engine

def compile? (text : String) : Engine → Option Compiled
  | handlebars _ => (Handlebars.compile? text).map .handlebars
  | liquid e => (Liquid.compile? e.extensions text).map .liquid

def compiled? (id : String) : Engine → Option Compiled
  | handlebars e => (e.templates.lookup id).map .handlebars
  | liquid e => (e.templates.lookup id).map .liquid

theorem hasTemplate_eq (e : Engine) (id : String) : e.hasTemplate id = (e.compiled? id).isSome := by
  cases e <;> simp [hasTemplate,compiled?]

/-- The engine without its templates: its helpers, tags and settings. -/
def bare : Engine → Engine
  | handlebars e => handlebars { e with templates := [] }
  | liquid e => liquid { e with templates := [] }

/-- Renders a template as if it stood under the id; what it embeds comes from the engine's table. -/
def renderCompiled (id : String) (data : Json) : Engine → Compiled → Except TemplateError String
  | handlebars e, .handlebars t =>
    (HandlebarsEngine.mk e.settings ((id,t) :: e.templates)).apply id data
  | liquid e, .liquid t => (LiquidEngine.mk e.extensions [(id,t)]).apply id data
  | _, _ => .error (.templateNotFound id)

theorem compile?_bare (text : String) (e : Engine) : e.bare.compile? text = e.compile? text := by
  cases e <;> rfl

theorem language_bare (e : Engine) : e.bare.language = e.language := by
  cases e <;> rfl

/-- Engines with the same helpers, tags and settings compile alike. -/
theorem compile?_congr {e e' : Engine} (same : e'.bare = e.bare) (text : String) :
    e'.compile? text = e.compile? text := by
  rw [← compile?_bare,same,compile?_bare]

/-- Registering compiles the text, puts it under its id and changes nothing else. -/
theorem registerTemplate_ok {e e' : Engine} {id text : String} (done : e.registerTemplate id text = .ok e') :
    ∃ c, e.compile? text = some c ∧ e'.bare = e.bare ∧
      ∀ key, e'.compiled? key = if key = id then some c else e.compiled? key := by
  cases e with
  | handlebars e =>
    cases compiles : Handlebars.compile? text with
    | none => simp [registerTemplate,HandlebarsEngine.registerTemplate,compiles,Except.map] at done
    | some t =>
      simp only [registerTemplate,HandlebarsEngine.registerTemplate,compiles,Except.map] at done
      cases done
      refine ⟨.handlebars t,by simp [compile?,compiles],rfl,fun key => ?_⟩
      by_cases h : key = id <;> simp [compiled?,lookup_bind,h]
  | liquid e =>
    cases compiles : Liquid.compile? e.extensions text with
    | none => simp [registerTemplate,LiquidEngine.registerTemplate,compiles,Except.map] at done
    | some t =>
      simp only [registerTemplate,LiquidEngine.registerTemplate,compiles,Except.map] at done
      cases done
      refine ⟨.liquid t,by simp [compile?,compiles],rfl,fun key => ?_⟩
      by_cases h : key = id <;> simp [compiled?,lookup_bind,h]

/-- A text that does not compile is the only reason not to register it. -/
theorem registerTemplate_error_iff {e : Engine} {id text : String} {err : TemplateError} :
    e.registerTemplate id text = .error err ↔
      e.compile? text = none ∧ err = .compileFailed id := by
  cases e with
  | handlebars e =>
    cases h : Handlebars.compile? text <;>
      simp [registerTemplate,HandlebarsEngine.registerTemplate,compile?,h,Except.map,eq_comm]
  | liquid e =>
    cases h : Liquid.compile? e.extensions text <;>
      simp [registerTemplate,LiquidEngine.registerTemplate,compile?,h,Except.map,eq_comm]

/-- Applying an id renders the template that the table holds under it. -/
theorem apply_eq (e : Engine) (id : String) (data : Json) :
    e.apply id data =
      match e.compiled? id with
      | none => .error (.templateNotFound id)
      | some c => e.renderCompiled id data c := by
  cases e with
  | handlebars e =>
    cases held : e.templates.lookup id with
    | none => simp [apply,HandlebarsEngine.apply,compiled?,held]
    | some t =>
      have same (key : String) : e.templates.lookup key = ((id,t) :: e.templates).lookup key := by
        by_cases h : key = id <;> simp [lookup_cons_if,h,held]
      simp [apply,HandlebarsEngine.apply,compiled?,held,renderCompiled,
        Handlebars.render_congr e.settings same]
  | liquid e =>
    cases held : e.templates.lookup id <;>
      simp [apply,LiquidEngine.apply,compiled?,held,renderCompiled]

/-- What embeds nothing renders alike in engines with the same helpers, tags and settings. -/
theorem renderCompiled_standalone {e e' : Engine} {c : Compiled} (same : e'.bare = e.bare)
    (alone : c.Standalone) (id : String) (data : Json) :
    e'.renderCompiled id data c = e.renderCompiled id data c := by
  cases e <;> cases e' <;>
    simp only [bare,handlebars.injEq,liquid.injEq,HandlebarsEngine.mk.injEq,LiquidEngine.mk.injEq,
      and_true,reduceCtorEq] at same
  next e e' =>
    cases c with
    | liquid t => rfl
    | handlebars t =>
      have held (rest : List (String × Handlebars.Template)) :
          ((id,t) :: rest).lookup id = some t := by simp
      have rendered := Handlebars.render_standalone e.settings (held e'.templates)
        (held e.templates) alone data
      simp [renderCompiled,HandlebarsEngine.apply,same,rendered]
  next e e' =>
    cases c with
    | handlebars t => rfl
    | liquid t => simp [renderCompiled,LiquidEngine.apply]

def renderText (id text : String) (data : Json) (e : Engine) : Except TemplateError String := do
  let e ← e.registerTemplate id text
  e.apply id data

/-- A text that embeds nothing renders by the engine's helpers, tags and settings alone. -/
theorem renderText_standalone {e : Engine} {text : String} {c : Compiled}
    (compiles : e.compile? text = some c) (alone : c.Standalone) (id : String) (data : Json) :
    e.renderText id text data = e.renderCompiled id data c := by
  cases registered : e.registerTemplate id text with
  | error err => simp [(registerTemplate_error_iff.mp registered).1] at compiles
  | ok e' =>
    obtain ⟨c',compiles',same,held⟩ := registerTemplate_ok registered
    cases compiles'.symm.trans compiles
    have here : e'.compiled? id = some c := by rw [held,if_pos rfl]
    have rendered := renderCompiled_standalone same alone id data
    simp [renderText,registered,apply_eq,here,rendered,Bind.bind,Except.bind]

theorem renderText_uncompiled {e : Engine} {text : String} (uncompiled : e.compile? text = none)
    (id : String) (data : Json) : e.renderText id text data = .error (.compileFailed id) := by
  rw [renderText,registerTemplate_error_iff.mpr ⟨uncompiled,rfl⟩]
  rfl

theorem renderText_handlebars (e : HandlebarsEngine) {text : String} {t : Handlebars.Template}
    (compiles : Handlebars.compile? text = some t) (alone : Handlebars.embedsIn t = false) (id : String)
    (data : Json) :
    (handlebars e).renderText id text data =
      (Handlebars.render e.settings ((id,t) :: e.templates) id data).mapError fun stop =>
        .renderFailed (.ofStop stop) := by
  have compiled : (handlebars e).compile? text = some (.handlebars t) := by
    rw [compile?,compiles,Option.map_some]
  rw [renderText_standalone compiled alone]
  simp [renderCompiled,HandlebarsEngine.apply]

theorem renderText_liquid (e : LiquidEngine) {text : String} {t : Liquid.Template}
    (compiles : Liquid.compile? e.extensions text = some t) (id : String) (data : Json) :
    (liquid e).renderText id text data =
      (Liquid.render t data).mapError fun r => .renderFailed (.liquid r) := by
  have compiled : (liquid e).compile? text = some (.liquid t) := by
    rw [compile?,compiles,Option.map_some]
  rw [renderText_standalone compiled trivial]
  simp [renderCompiled,LiquidEngine.apply]

/-- The function that templates call by a name. -/
def helper? (name : String) : Engine → Option Helper
  | handlebars e => e.settings.helpers.lookup name
  | liquid e => e.extensions.filters.lookup name

theorem helper?_congr {e e' : Engine} (same : e'.bare = e.bare) (name : String) :
    e'.helper? name = e.helper? name := by
  have bare (e : Engine) : e.bare.helper? name = e.helper? name := by cases e <;> rfl
  rw [← bare e',same,bare]

end Engine
end Placard

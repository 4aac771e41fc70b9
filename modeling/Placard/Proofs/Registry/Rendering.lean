import Placard.Proofs.Registry
import Placard.Proofs.Result

/-! Rendering for a target, and what can go wrong in it: there is no engine for the language, the
engine holds no template under the key, or the template fails. What went wrong is said anew for the
target, but it stays the same kind of failure, and the registry stays what it was. -/
namespace Placard

def failure? : Except TemplateError α → Option TemplateErrorKind
  | .ok _ => none
  | .error e => some e.kind

namespace Engine

def rendering? (id : String) (data : Json) : Engine → Option (Except RenderFailure String)
  | handlebars e => (e.templates.lookup id).map fun _ =>
    (Handlebars.render e.settings e.templates id data).mapError .ofStop
  | liquid e => (e.templates.lookup id).map fun t => (Liquid.render t data).mapError .liquid

theorem rendering?_eq_none_iff {e : Engine} {id : String} (data : Json) :
    e.rendering? id data = none ↔ ¬ e.hasTemplate id := by
  cases e <;> simp only [rendering?,hasTemplate,Option.map_eq_none_iff,Option.not_isSome_iff_eq_none]

/-- The table is looked up before anything is rendered, and whatever fails after that is of one
kind. -/
theorem apply_eq_rendering (e : Engine) (id : String) (data : Json) :
    e.apply id data =
      match e.rendering? id data with
      | none => .error (.templateNotFound id)
      | some own => own.mapError .renderFailed := by
  cases e with
  | handlebars e =>
    cases held : e.templates.lookup id with
    | none => simp [apply,HandlebarsEngine.apply,rendering?,held]
    | some t =>
      cases rendered : Handlebars.render e.settings e.templates id data <;>
        simp [apply,HandlebarsEngine.apply,rendering?,held,rendered]
  | liquid e =>
    cases held : e.templates.lookup id with
    | none => simp [apply,LiquidEngine.apply,rendering?,held]
    | some t =>
      cases rendered : Liquid.render t data <;>
        simp [apply,LiquidEngine.apply,rendering?,held,rendered]

/-- An engine misses a template only if its table holds none under the id; what fails while it
renders is another kind of failure. -/
theorem failure?_apply_eq_templateNotFound_iff {e : Engine} {id : String} {data : Json} :
    failure? (e.apply id data) = some .templateNotFound ↔ ¬ e.hasTemplate id := by
  rw [apply_eq_rendering,← rendering?_eq_none_iff data]
  rcases e.rendering? id data with _ | _ | _ <;> simp [failure?,TemplateError.kind]

end Engine

namespace Registry

variable {r : Registry} {t : Target} {data : Json} {result : Except TemplateError String}

/-- All that rendering for a target can come to. -/
inductive Renders (r : Registry) (t : Target) (data : Json) : Except TemplateError String → Prop
  | noEngine : r.engine? t.language = none → Renders r t data (.error (.engineNotFound t.language))
  | noTemplate {e : Engine} : r.engine? t.language = some e → e.rendering? t.key data = none →
    Renders r t data (.error (.noTemplateFor t))
  | text {e : Engine} {text : String} : r.engine? t.language = some e →
    e.rendering? t.key data = some (.ok text) → Renders r t data (.ok text)
  | failed {e : Engine} {f : RenderFailure} : r.engine? t.language = some e →
    e.rendering? t.key data = some (.error f) →
    Renders r t data (.error (.applying t (.renderFailed f)))

theorem apply_eq_of_engine? {l : Language} {e : Engine} (found : r.engine? l = some e)
    (key : String) (data : Json) : r.apply l key data = e.apply key data := by
  simp [apply,engine,found,Bind.bind,Except.bind]

theorem apply_eq_of_no_engine {l : Language} (missing : r.engine? l = none) (key : String)
    (data : Json) : r.apply l key data = .error (.engineNotFound l) := by
  simp [apply,engine,missing,Bind.bind,Except.bind]

theorem renders_render (r : Registry) (t : Target) (data : Json) :
    Renders r t data (r.render t data).1 := by
  cases found : r.engine? t.language with
  | none =>
    rw [render,apply_eq_of_no_engine found]
    exact .noEngine found
  | some e =>
    rw [render,apply_eq_of_engine? found,e.apply_eq_rendering]
    rcases own : e.rendering? t.key data with _ | f | text
    · exact .noTemplate found own
    · exact .failed found own
    · exact .text found own

namespace Renders

theorem eq_engineNotFound_iff (renders : r.Renders t data result) :
    result = .error (.engineNotFound t.language) ↔ r.engine? t.language = none := by
  cases renders with
  | noEngine missing => simp [missing]
  | noTemplate found | text found | failed found => simp [found]

theorem engineNotFound_iff (renders : r.Renders t data result) :
    failure? result = some .engineNotFound ↔ r.engine? t.language = none := by
  cases renders with
  | noEngine missing => simp [failure?,TemplateError.kind,missing]
  | noTemplate found | text found | failed found => simp [failure?,TemplateError.kind,found]

/-- A target is said to have no template just if its engine is there and holds none for it. -/
theorem templateNotFound_iff (renders : r.Renders t data result) :
    failure? result = some .templateNotFound ↔
      ∃ e, r.engine? t.language = some e ∧ ¬ e.hasTemplate t.key := by
  simp only [← Engine.rendering?_eq_none_iff data]
  cases renders with
  | noEngine missing => simp [failure?,TemplateError.kind,missing]
  | noTemplate found own | text found own | failed found own =>
    simp [failure?,TemplateError.kind,found,own]

theorem eq_ok_iff (renders : r.Renders t data result) (text : String) :
    result = .ok text ↔
      ∃ e, r.engine? t.language = some e ∧ e.rendering? t.key data = some (.ok text) := by
  cases renders with
  | noEngine missing => simp [missing]
  | noTemplate found own | text found own | failed found own => simp [found,own]

theorem renderFailed_iff (renders : r.Renders t data result) :
    failure? result = some .renderFailed ↔
      ∃ e f, r.engine? t.language = some e ∧ e.rendering? t.key data = some (.error f) := by
  cases renders with
  | noEngine missing => simp [failure?,TemplateError.kind,missing]
  | noTemplate found own | text found own | failed found own =>
    simp [failure?,TemplateError.kind,found,own]

theorem failure?_mem (renders : r.Renders t data result) :
    failure? result ∈
      [none,some .engineNotFound,some .templateNotFound,some .renderFailed] := by
  cases renders <;> simp [failure?,TemplateError.kind]

/-- The failure of the target is of the kind that applying its key gives. -/
theorem failure?_eq_apply (renders : r.Renders t data result) :
    failure? result = failure? (r.apply t.language t.key data) := by
  cases renders with
  | noEngine missing => rw [apply_eq_of_no_engine missing]
  | noTemplate found own | text found own | failed found own =>
    rw [apply_eq_of_engine? found,Engine.apply_eq_rendering,own]
    rfl

end Renders

/-- What goes wrong for a target is said anew, its kind is not: there is no engine, or the engine
holds no template under the key, or what the engine itself renders fails, and it is the kind that
applying the key gives. Otherwise the result is the text that the engine renders. Whatever it comes
to, engines and noted keys stay as they were. -/
theorem render_keeps_kind (r : Registry) (t : Target) (data : Json) :
    let result := (r.render t data).1
    (result = .error (.engineNotFound t.language) ↔ r.engine? t.language = none) ∧
    (failure? result = some .engineNotFound ↔ r.engine? t.language = none) ∧
    (failure? result = some .templateNotFound ↔
      ∃ e, r.engine? t.language = some e ∧ ¬ e.hasTemplate t.key) ∧
    (∀ text, result = .ok text ↔
      ∃ e, r.engine? t.language = some e ∧ e.rendering? t.key data = some (.ok text)) ∧
    (failure? result = some .renderFailed ↔
      ∃ e f, r.engine? t.language = some e ∧ e.rendering? t.key data = some (.error f)) ∧
    failure? result ∈ [none,some .engineNotFound,some .templateNotFound,some .renderFailed] ∧
    failure? result = failure? (r.apply t.language t.key data) ∧
    (∀ l, (r.render t data).2.engine? l = r.engine? l) ∧ (r.render t data).2.keys = r.keys := by
  have renders := r.renders_render t data
  have frame (l : Language) : (r.render t data).2.engine? l = r.engine? l := by cases l <;> rfl
  exact ⟨renders.eq_engineNotFound_iff,renders.engineNotFound_iff,renders.templateNotFound_iff,
    renders.eq_ok_iff,renders.renderFailed_iff,renders.failure?_mem,renders.failure?_eq_apply,frame,
    rfl⟩

end Registry
end Placard

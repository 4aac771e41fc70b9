import Mathlib.Logic.Relation
import Placard.Proofs.Setup.Registering

/-! What can be done with a registry once its engines are there. Whatever an operation comes to, it
takes the registry there by single changes: something is counted, an engine is extended, or a text
that compiles is stored under a key. -/
namespace Placard

namespace Engine

structure Extended (e e' : Engine) : Prop where
  language : e'.language = e.language
  ids : e'.templateIds = e.templateIds

theorem extended_registerHelper (e : Engine) (name : String) (h : Helper) :
    Extended e (e.registerHelper name h) := by
  cases e <;> exact ⟨rfl,rfl⟩

theorem extended_registerTag {e e' : Engine} {name : String} {f : TagFunction}
    (done : e.registerTag name f = .ok e') : Extended e e' := by
  cases e with
  | handlebars e => simp [registerTag] at done
  | liquid e =>
    cases done
    exact ⟨rfl,rfl⟩

end Engine

open Relation (ReflTransGen)

namespace Registry

/-- One change of a registry. Texts are stored under allowed keys only. -/
inductive Change (allowed : Language → String → Prop) (r : Registry) : Registry → Prop
  | counted (c : Counter) : Change allowed r (r.count c)
  | extended {l : Language} {e e' : Engine} :
    r.engine? l = some e → e.Extended e' → Change allowed r (r.withEngine e')
  | stored {l : Language} {key text : String} {again : Bool} {r' : Registry} :
    allowed l key → r.registerText l key text = .ok (again,r') → Change allowed r r'

/-- Any number of changes. -/
abbrev Changes (allowed : Language → String → Prop) : Registry → Registry → Prop :=
  ReflTransGen (Change allowed)

variable {σ : Type} {allowed : Language → String → Prop} {r r' : Registry}

theorem changes_counted (r : Registry) (c : Counter) : Changes allowed r (r.count c) :=
  ReflTransGen.single (.counted c)

def Extension (r r' : Registry) : Prop :=
  ∃ l e e', r.engine? l = some e ∧ e.Extended e' ∧ r' = r.withEngine e'

abbrev Extensions : Registry → Registry → Prop := ReflTransGen Extension

theorem Extensions.changes (extensions : Extensions r r') : Changes allowed r r' := by
  refine ReflTransGen.mono ?_ _ _ extensions
  rintro r r' ⟨l,e,e',found,grown,rfl⟩
  exact .extended found grown

structure Extends (r : Registry) (done : Except TemplateError Unit × Registry) : Prop where
  extensions : Extensions r done.2
  fails : ∀ err, done.1 = .error err → err.kind = .engineNotFound ∨ err.kind = .unsupported

theorem Extends.refl (r : Registry) : Extends r (.ok (),r) :=
  ⟨ReflTransGen.refl,fun _ fails => nomatch fails⟩

theorem Extends.of_error {err : TemplateError}
    (fails : err.kind = .engineNotFound ∨ err.kind = .unsupported) : Extends r (.error err,r) := by
  refine ⟨ReflTransGen.refl,fun _ same => ?_⟩
  cases same
  exact fails

theorem Extends.after {done : Except TemplateError Unit × Registry} (later : Extends r' done)
    (first : Extensions r r') : Extends r done :=
  ⟨first.trans later.extensions,later.fails⟩

theorem extension_change {l : Language} {f : Engine → Except TemplateError Engine}
    (grows : ∀ e e', f e = .ok e' → e.Extended e') (done : r.change l f = .ok r') :
    Extension r r' := by
  obtain ⟨e,e',found,made,rfl⟩ := change_eq_ok_iff.mp done
  exact ⟨l,e,e',found,grows e e' made,rfl⟩

theorem kind_of_change {l : Language} {f : Engine → Except TemplateError Engine}
    {err : TemplateError} (fails : r.change l f = .error err)
    (made : ∀ e, f e = .error err → err.kind = .unsupported) :
    err.kind = .engineNotFound ∨ err.kind = .unsupported := by
  rcases change_eq_error_iff.mp fails with ⟨-,rfl⟩ | ⟨e,-,refused⟩
  · exact .inl rfl
  · exact .inr (made e refused)

theorem extends_registerHelpers (r : Registry) (l : Language) (helpers : List (String × Helper)) :
    Extends r (r.registerHelpers l helpers) := by
  induction helpers generalizing r with
  | nil => exact .refl r
  | cons h rest ih =>
    obtain ⟨name,h⟩ := h
    cases step : r.registerHelper l name h with
    | error err =>
      simp only [registerHelpers,step]
      exact .of_error (kind_of_change step fun _ refused => nomatch refused)
    | ok r₁ =>
      have first : Extension r r₁ := by
        refine extension_change (fun e e' made => ?_) step
        cases made
        exact e.extended_registerHelper name h
      simp only [registerHelpers,step]
      exact (ih r₁).after (.single first)

theorem extends_registerTags (r : Registry) (l : Language) (tags : List (String × TagFunction)) :
    Extends r (r.registerTags l tags) := by
  induction tags generalizing r with
  | nil => exact .refl r
  | cons f rest ih =>
    obtain ⟨name,f⟩ := f
    cases step : r.registerTag l name f with
    | error err =>
      have refused (e : Engine) (refused : e.registerTag name f = .error err) :
          err.kind = .unsupported := by
        cases e <;> cases refused
        rfl
      simp only [registerTags,step]
      exact .of_error (kind_of_change step refused)
    | ok r₁ =>
      have first : Extension r r₁ := extension_change (fun _ _ => Engine.extended_registerTag) step
      simp only [registerTags,step]
      exact (ih r₁).after (.single first)

theorem extends_applyOptions (r : Registry) (options : List EngineOptions) :
    Extends r (r.applyOptions options) := by
  induction options generalizing r with
  | nil => exact .refl r
  | cons o rest ih =>
    cases found : r.engine? o.language with
    | none =>
      simp only [applyOptions,engine,found]
      exact .of_error (.inl rfl)
    | some e =>
      have helpers := extends_registerHelpers r o.language o.helpers
      rcases first : r.registerHelpers o.language o.helpers with ⟨_ | _,r₁⟩ <;>
        rw [first] at helpers
      · simpa only [applyOptions,engine,found,first] using helpers
      · have tags := (extends_registerTags r₁ o.language o.tags).after helpers.extensions
        rcases second : r₁.registerTags o.language o.tags with ⟨_ | _,r₂⟩ <;>
          rw [second] at tags
        · simpa only [applyOptions,engine,found,first,second] using tags
        · simpa only [applyOptions,engine,found,first,second] using (ih r₂).after tags.extensions

theorem changes_applyOptions (r : Registry) (options : List EngineOptions) :
    Changes allowed r (r.applyOptions options).2 :=
  (extends_applyOptions r options).extensions.changes

theorem changes_registerAll (pipeline : ∀ t : Target, allowed t.language t.key) (r : Registry)
    (report : Report) (pairs : List (Entry × String)) :
    Changes allowed r (Setup.registerAll r report pairs).2 := by
  induction pairs generalizing r report with
  | nil => exact ReflTransGen.refl
  | cons p rest ih =>
    cases step : r.registerText p.1.target.language p.1.target.key p.2 with
    | error err =>
      simp only [Setup.registerAll,step]
      exact ReflTransGen.refl
    | ok done =>
      obtain ⟨again,r₁⟩ := done
      have first : Change allowed r r₁ := .stored (pipeline p.1.target) step
      simp only [Setup.registerAll,step]
      exact .head first (ih r₁ _)

theorem changes_failedFetch (r : Registry) (e : TemplateError) :
    Changes allowed r (Setup.failedFetch r e) := by
  cases e with
  | fetchFailed path cause => exact changes_counted r _
  | _ => exact ReflTransGen.refl

theorem run_bind (x : StateM σ α) (f : α → StateM σ β) (w : σ) :
    (x >>= f).run w = (f (x.run w).1).run (x.run w).2 := rfl

theorem changes_setup (pipeline : ∀ t : Target, allowed t.language t.key) (r : Registry)
    (source : Source (StateM σ)) (location : Location) (manifest : String)
    (options : SetupOptions) (w : σ) :
    Changes allowed r ((r.setup source location manifest options).run w).1.2 := by
  rw [Registry.setup,run_bind]
  rcases (source.read manifest).run w with ⟨answer,w₁⟩
  cases answer with
  | error e => exact changes_failedFetch r e
  | ok text =>
    cases planned : Setup.plan r options text with
    | error e =>
      simp only [planned]
      exact ReflTransGen.refl
    | ok plan =>
      obtain ⟨kept,skipped⟩ := plan
      simp only [planned,run_bind]
      rcases (Setup.readAll source (kept.map (Entry.path location manifest))).run w₁ with
        ⟨answer,w₂⟩
      cases answer with
      | error e => exact changes_failedFetch r e
      | ok texts => exact changes_registerAll pipeline r _ _

theorem changes_readAndRegister (r : Registry) (source : Source (StateM σ)) {l : Language}
    (path : String) {key : String} (is : allowed l key) (w : σ) :
    Changes allowed r ((r.readAndRegister source l path key).run w).1.2 := by
  rw [Registry.readAndRegister]
  cases r.engine l with
  | error e => exact ReflTransGen.refl
  | ok e =>
    simp only [run_bind]
    rcases (source.read path).run w with ⟨answer,w₁⟩
    cases answer with
    | error e => exact changes_failedFetch r e
    | ok text =>
      cases step : r.registerText l key text with
      | error e =>
        simp only [step]
        exact ReflTransGen.refl
      | ok done =>
        simp only [step]
        exact ReflTransGen.single (.stored is step)

/-- What is done with a registry. A source may answer by the state of a world, which goes on from
one operation to the next. -/
inductive Operation (σ : Type) where
  | setup (source : Source (StateM σ)) (location : Location) (manifest : String)
      (options : SetupOptions)
  | applyOptions (options : List EngineOptions)
  | registerEntry (source : Source (StateM σ)) (location : Location) (manifest : String) (e : Entry)
  | readAndRegister (source : Source (StateM σ)) (l : Language) (path key : String)
  | registerText (l : Language) (key text : String)
  | render (t : Target) (data : Json)

def Operation.run (r : Registry) : Operation σ → StateM σ Registry
  | .setup source location manifest options =>
    return (← r.setup source location manifest options).2
  | .applyOptions options => return (r.applyOptions options).2
  | .registerEntry source location manifest e =>
    return (← r.registerEntry source location manifest e).2
  | .readAndRegister source l path key => return (← r.readAndRegister source l path key).2
  | .registerText l key text =>
    match r.registerText l key text with
    | .ok (_,r') => return r'
    | .error _ => return r
  | .render t data => return (r.render t data).2

def runAll (r : Registry) : List (Operation σ) → StateM σ Registry
  | [] => return r
  | op :: rest => do
    let r ← op.run r
    r.runAll rest

/-- Keys that are chosen freely are allowed ones. -/
def Operation.Within (allowed : Language → String → Prop) : Operation σ → Prop
  | .readAndRegister _ l _ key => allowed l key
  | .registerText l key _ => allowed l key
  | _ => True

theorem Operation.changes (pipeline : ∀ t : Target, allowed t.language t.key) (r : Registry)
    {op : Operation σ} (within : op.Within allowed) (w : σ) :
    Changes allowed r ((op.run r).run w).1 := by
  cases op with
  | setup source location manifest options =>
    exact changes_setup pipeline r source location manifest options w
  | applyOptions options => exact changes_applyOptions r options
  | registerEntry source location manifest e =>
    exact changes_readAndRegister r source _ (pipeline e.target) w
  | readAndRegister source l path key => exact changes_readAndRegister r source path within w
  | registerText l key text =>
    simp only [Operation.run]
    cases step : r.registerText l key text with
    | error e => exact ReflTransGen.refl
    | ok done => exact ReflTransGen.single (.stored within step)
  | render t data => exact (changes_counted r _).trans (changes_counted _ _)

/-- A row of operations goes by single changes. -/
theorem changes_runAll (pipeline : ∀ t : Target, allowed t.language t.key) (r : Registry)
    {ops : List (Operation σ)} (within : ∀ op ∈ ops, op.Within allowed) (w : σ) :
    Changes allowed r ((r.runAll ops).run w).1 := by
  induction ops generalizing r w with
  | nil => exact ReflTransGen.refl
  | cons op rest ih =>
    have first := op.changes pipeline r (within op (by simp)) w
    rw [runAll,run_bind]
    exact first.trans (ih _ (fun op member => within op (List.mem_cons_of_mem _ member)) _)

end Registry
end Placard

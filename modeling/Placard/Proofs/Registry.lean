import Placard.Registry
import Placard.Proofs.Engine

/-! One registration seen from outside: which template each engine holds under each id, which
extensions it has, which keys are noted and what has been counted. -/
namespace Placard.Registry

def compile? (r : Registry) (l : Language) (text : String) : Option Compiled :=
  (r.engine? l).bind (Engine.compile? text)

def compiled? (r : Registry) (l : Language) (id : String) : Option Compiled :=
  (r.engine? l).bind (Engine.compiled? id)

def bare? (r : Registry) (l : Language) : Option Engine := (r.engine? l).map Engine.bare

theorem engine?_withEngine (r : Registry) (e : Engine) (l : Language) :
    (r.withEngine e).engine? l = if l = e.language then some e else r.engine? l := by
  cases e <;> cases l <;> rfl

theorem language_of_engine? {r : Registry} {l : Language} {e : Engine}
    (found : r.engine? l = some e) : e.language = l := by
  cases l <;> simp only [engine?,Option.map_eq_some_iff] at found <;>
    obtain ⟨_,_,rfl⟩ := found <;> rfl

theorem isSome_engine?_of_bare {r r' : Registry} {l : Language} (same : r'.bare? l = r.bare? l) :
    (r'.engine? l).isSome = (r.engine? l).isSome := by
  have := congrArg Option.isSome same
  simpa [bare?] using this

/-- Registries with the same helpers, tags and settings compile alike. -/
theorem compile?_of_bare {r r' : Registry} {l : Language} (same : r'.bare? l = r.bare? l)
    (text : String) : r'.compile? l text = r.compile? l text := by
  cases before : r.engine? l <;> cases after : r'.engine? l <;>
    simp only [bare?,before,after,Option.map_none,Option.map_some,Option.some.injEq,
      reduceCtorEq] at same
  · simp [compile?,before,after]
  · simpa [compile?,before,after] using Engine.compile?_congr same text

theorem change_eq_ok_iff {r r' : Registry} {l : Language} {f : Engine → Except TemplateError Engine} :
    r.change l f = .ok r' ↔
      ∃ e e', r.engine? l = some e ∧ f e = .ok e' ∧ r' = r.withEngine e' := by
  cases found : r.engine? l with
  | none => simp [change,engine,found,Bind.bind,Except.bind]
  | some e =>
    cases changed : f e <;>
      simp [change,engine,found,changed,Bind.bind,Except.bind,Pure.pure,Except.pure,eq_comm]

theorem change_eq_error_iff {r : Registry} {l : Language} {f : Engine → Except TemplateError Engine}
    {err : TemplateError} :
    r.change l f = .error err ↔
      (r.engine? l = none ∧ err = .engineNotFound l) ∨
        ∃ e, r.engine? l = some e ∧ f e = .error err := by
  cases found : r.engine? l with
  | none => simp [change,engine,found,Bind.bind,Except.bind,eq_comm]
  | some e =>
    cases changed : f e <;>
      simp [change,engine,found,changed,Bind.bind,Except.bind,Pure.pure,Except.pure]

/-- What becomes of a registry when a template is stored. `again` says that the key was noted
before. -/
structure Stored (r : Registry) (l : Language) (key : String) (c : Compiled) (again : Bool)
    (r' : Registry) : Prop where
  bare : ∀ k, r'.bare? k = r.bare? k
  compiled : ∀ k id, r'.compiled? k id = if k = l ∧ id = key then some c else r.compiled? k id
  noted : again = (r.keys.lookup key).isSome
  keys : r'.keys = bind key l r.keys
  tally : r'.tally = (if again then [.overwritten l] else []) ++ .registered l :: r.tally

def note (r : Registry) (l : Language) (key : String) (again : Bool) : Registry :=
  let r := ({ r with keys := bind key l r.keys }).count (.registered l)
  if again then r.count (.overwritten l) else r

theorem engine?_note (r : Registry) (l k : Language) (key : String) (again : Bool) :
    (r.note l key again).engine? k = r.engine? k := by
  cases again <;> cases k <;> rfl

theorem stored_note {r : Registry} {l : Language} {e e' : Engine} {key : String} {c : Compiled}
    (found : r.engine? l = some e) (bare : e'.bare = e.bare)
    (holds : ∀ id, e'.compiled? id = if id = key then some c else e.compiled? id) :
    Stored r l key c (r.keys.lookup key).isSome
      ((r.withEngine e').note l key (r.keys.lookup key).isSome) := by
  have language : e'.language = l := by
    rw [← Engine.language_bare,bare,Engine.language_bare,language_of_engine? found]
  have engines (k : Language) (again : Bool) : ((r.withEngine e').note l key again).engine? k =
      if k = l then some e' else r.engine? k := by
    rw [engine?_note,engine?_withEngine,language]
  constructor
  case bare =>
    intro k
    by_cases h : k = l
    · subst h
      simp [bare?,engines,found,bare]
    · simp [bare?,engines,h]
  case compiled =>
    intro k id
    by_cases h : k = l
    · subst h
      simp [compiled?,engines,found,holds]
    · simp [compiled?,engines,h]
  case noted => rfl
  case keys => cases e' <;> cases (r.keys.lookup key).isSome <;> rfl
  case tally => cases e' <;> cases (r.keys.lookup key).isSome <;> rfl

theorem registerText_eq (r : Registry) (l : Language) (key text : String) :
    r.registerText l key text =
      (r.change l (Engine.registerTemplate key (withoutFinalNewline text))).map fun r' =>
        ((r'.keys.lookup key).isSome,r'.note l key (r'.keys.lookup key).isSome) := by
  simp only [registerText,note]
  cases r.change l (Engine.registerTemplate key (withoutFinalNewline text)) <;> rfl

/-- A registration that succeeds stores the compiled text under its key and does nothing else. -/
theorem registerText_ok {r r' : Registry} {l : Language} {key text : String} {again : Bool}
    (done : r.registerText l key text = .ok (again,r')) :
    ∃ c, r.compile? l (withoutFinalNewline text) = some c ∧ Stored r l key c again r' := by
  rw [registerText_eq] at done
  cases changed : r.change l (Engine.registerTemplate key (withoutFinalNewline text)) with
  | error err => simp [changed,Except.map] at done
  | ok r₁ =>
    obtain ⟨e,e',found,registered,rfl⟩ := change_eq_ok_iff.mp changed
    obtain ⟨c,compiles,bare,holds⟩ := Engine.registerTemplate_ok registered
    have keys : (r.withEngine e').keys = r.keys := by cases e' <;> rfl
    simp only [changed,Except.map,Except.ok.injEq,Prod.mk.injEq,keys] at done
    obtain ⟨rfl,rfl⟩ := done
    exact ⟨c,by simp [compile?,found,compiles],stored_note found bare holds⟩

/-- A registration fails for want of an engine, or because its text does not compile. -/
theorem registerText_error_iff {r : Registry} {l : Language} {key text : String}
    {err : TemplateError} :
    r.registerText l key text = .error err ↔
      (r.engine? l = none ∧ err = .engineNotFound l) ∨
        ((r.engine? l).isSome ∧ r.compile? l (withoutFinalNewline text) = none ∧
          err = .compileFailed key) := by
  have fails : r.registerText l key text = .error err ↔
      r.change l (Engine.registerTemplate key (withoutFinalNewline text)) = .error err := by
    rw [registerText_eq]
    cases r.change l (Engine.registerTemplate key (withoutFinalNewline text)) <;> simp [Except.map]
  rw [fails,change_eq_error_iff]
  cases found : r.engine? l <;> simp [compile?,found,Engine.registerTemplate_error_iff]

/-- Rendering for a target goes to the engine of its language with the key of the target. -/
theorem render_of_compiled? {r : Registry} {t : Target} {c : Compiled}
    (held : r.compiled? t.language t.key = some c) :
    ∃ e, r.engine? t.language = some e ∧ ∀ data, (r.render t data).1 =
      (e.renderCompiled t.key data c).mapError (TemplateError.forTarget t) := by
  cases found : r.engine? t.language with
  | none => simp [compiled?,found] at held
  | some e =>
    have held : e.compiled? t.key = some c := by simpa [compiled?,found] using held
    refine ⟨e,rfl,fun data => ?_⟩
    simp [render,apply,engine,found,Bind.bind,Except.bind,Engine.apply_eq,held]

/-- Registries that hold the same template for a target, one that embeds nothing, render it alike if
their engines have the same helpers, tags and settings. -/
theorem render_congr {r r' : Registry} {t : Target} (same : r'.bare? t.language = r.bare? t.language)
    (held : r'.compiled? t.language t.key = r.compiled? t.language t.key)
    (alone : ∀ c, r.compiled? t.language t.key = some c → c.Standalone) (data : Json) :
    (r'.render t data).1 = (r.render t data).1 := by
  cases before : r.engine? t.language <;> cases after : r'.engine? t.language <;>
    simp only [bare?,before,after,Option.map_none,Option.map_some,Option.some.injEq,
      reduceCtorEq] at same
  · simp [render,apply,engine,before,after]
  next e e' =>
    simp only [compiled?,before,after,Option.bind_some] at held alone
    have applied : e'.apply t.key data = e.apply t.key data := by
      rw [Engine.apply_eq,Engine.apply_eq,held]
      cases here : e.compiled? t.key with
      | none => rfl
      | some c => exact Engine.renderCompiled_standalone same (alone c here) t.key data
    simp [render,apply,engine,before,after,Bind.bind,Except.bind,applied]

theorem registerHelpers_bare (e : Engine) (helpers : List (String × Helper)) (id : String) :
    (e.registerHelpers helpers).compiled? id = e.compiled? id := by
  induction helpers generalizing e with
  | nil => rfl
  | cons h rest ih =>
    have first : (e.registerHelper h.1 h.2).compiled? id = e.compiled? id := by cases e <;> rfl
    simp only [Engine.registerHelpers,List.foldl_cons] at ih ⊢
    rw [ih,first]

theorem compiled?_standard (strict : Bool) (languages : List Language) (l : Language)
    (id : String) : (standard strict languages).compiled? l id = none := by
  have fresh (k : Language) : (Engine.standard strict k).compiled? id = none := by
    rw [Engine.standard,registerHelpers_bare]
    cases k <;> rfl
  have step (r : Registry) (none : r.compiled? l id = none) (k : Language) :
      (r.withEngine (Engine.standard strict k)).compiled? l id = .none := by
    by_cases h : l = (Engine.standard strict k).language
    · simp [compiled?,engine?_withEngine,h,fresh]
    · simpa [compiled?,engine?_withEngine,h] using none
  have all (languages : List Language) (r : Registry) (none : r.compiled? l id = none) :
      (languages.foldl (fun r k => r.withEngine (Engine.standard strict k)) r).compiled? l id =
        .none := by
    induction languages generalizing r with
    | nil => exact none
    | cons k rest ih => exact ih _ (step r none k)
  exact all languages .empty (by cases l <;> rfl)

theorem language_standard (strict : Bool) (l : Language) : (Engine.standard strict l).language = l := by
  have helpers (helpers : List (String × Helper)) (e : Engine) :
      (e.registerHelpers helpers).language = e.language := by
    induction helpers generalizing e with
    | nil => rfl
    | cons h rest ih =>
      have first : (e.registerHelper h.1 h.2).language = e.language := by cases e <;> rfl
      simp only [Engine.registerHelpers,List.foldl_cons] at ih ⊢
      rw [ih,first]
  rw [Engine.standard,helpers]
  cases l <;> rfl

theorem engine?_standard (strict : Bool) (languages : List Language) (l : Language) :
    (standard strict languages).engine? l =
      if l ∈ languages then some (Engine.standard strict l) else none := by
  have all (languages : List Language) (r : Registry) :
      (languages.foldl (fun r k => r.withEngine (Engine.standard strict k)) r).engine? l =
        if l ∈ languages then some (Engine.standard strict l) else r.engine? l := by
    induction languages generalizing r with
    | nil => simp
    | cons k rest ih =>
      rw [List.foldl_cons,ih,engine?_withEngine,language_standard]
      by_cases here : l = k <;> simp [here]
  have none : empty.engine? l = none := by cases l <;> rfl
  rw [standard,ofLanguages,all,none]

end Placard.Registry

import Placard.Proofs.Engine.Binding
import Placard.Proofs.Registry.Keys
import Placard.Proofs.Registry.Rendering

/-! The tables of both engines over any calls, whichever engine each call is made to. A table holds
an id once a registration of it has succeeded, and from then on; nothing but such a registration at
the same engine changes what it holds. -/
namespace Placard

namespace Engine

theorem language_after (e : Engine) (c : Call) : (e.after c).language = e.language :=
  language_of_origin (origin_after e c)

theorem templateIds_after {e : Engine} (sorted : e.templateIds.Pairwise (· < ·)) (c : Call) :
    (e.after c).templateIds.Pairwise (· < ·) := by
  cases c with
  | registerTemplate id text trims =>
    cases done : e.registerTemplate id (prepared text trims) with
    | error err => simpa [after,answer,done,Except.toOption] using sorted
    | ok e' =>
      have next := templateIds_registerTemplate sorted done
      simpa [after,answer,done,Except.toOption] using next
  | registerHelper name h =>
    rw [after_registerHelper,(extended_registerHelper e name h).ids]
    exact sorted
  | registerTag name f =>
    rw [after_registerTag]
    cases e <;> exact sorted
  | apply id data =>
    cases done : e.apply id data <;> simpa [after,answer,done,Except.map,Except.toOption] using sorted

/-- A call that succeeds in registering an id puts it into the table, any other call leaves alone
whether it is there. -/
theorem hasTemplate_after (e : Engine) (id : String) (c : Call) :
    (e.after c).hasTemplate id = (e.registers id c || e.hasTemplate id) := by
  rw [hasTemplate_eq,hasTemplate_eq]
  cases registers : e.registers id c with
  | false => rw [compiled?_after registers,Bool.false_or]
  | true =>
    cases c with
    | registerTemplate id' text trims =>
      obtain rfl : id' = id := by
        simp only [Engine.registers,Bool.and_eq_true,decide_eq_true_eq] at registers
        exact registers.1
      obtain ⟨c,-,held⟩ := compiled?_after_registers registers
      rw [held]
      rfl
    | _ => cases registers

end Engine

namespace Registry

structure Addressed where
  language : Language
  call : Engine.Call

def answer (r : Registry) (c : Addressed) : Except TemplateError Registry :=
  r.change c.language fun e => e.answer c.call

def after (r : Registry) (c : Addressed) : Registry := (r.answer c).toOption.getD r

def runCalls (r : Registry) (calls : List Addressed) : Registry := calls.foldl after r

structure Blank (r : Registry) : Prop where
  engines : ∀ l, (r.engine? l).isSome
  templates : ∀ l, r.templateIds l = []

def Registers (r : Registry) (l : Language) (id : String) (c : Addressed) : Prop :=
  ∃ text trims r', c = ⟨l,.registerTemplate id text trims⟩ ∧ r.answer c = .ok r'

def RegisteredIn (r : Registry) (l : Language) (id : String) (calls : List Addressed) : Prop :=
  ∃ before c later, calls = before ++ c :: later ∧ (r.runCalls before).Registers l id c

theorem engine?_after (r : Registry) (c : Addressed) (l : Language) :
    (r.after c).engine? l =
      if l = c.language then (r.engine? l).map (·.after c.call) else r.engine? l := by
  cases answered : r.answer c with
  | error err =>
    have same : r.after c = r := by simp [after,answered,Except.toOption]
    rw [same]
    split
    next here =>
      subst here
      rcases change_eq_error_iff.mp answered with ⟨missing,-⟩ | ⟨e,found,fails⟩
      · simp [missing]
      · simp [found,Engine.after,fails,Except.toOption]
    next => rfl
  | ok r' =>
    obtain ⟨e,e',found,done,rfl⟩ := change_eq_ok_iff.mp answered
    have next : e.after c.call = e' := by simp [Engine.after,done,Except.toOption]
    have language : e'.language = c.language := by
      rw [← next,Engine.language_after,language_of_engine? found]
    have after : r.after c = r.withEngine e' := by simp [after,answered,Except.toOption]
    rw [after,engine?_withEngine,language]
    split
    next here => rw [here,found,Option.map_some,next]
    next => rfl

/-- A call to one engine is none to another one. -/
theorem engine?_after_other (r : Registry) {c : Addressed} {l : Language} (other : c.language ≠ l) :
    (r.after c).engine? l = r.engine? l := by
  rw [engine?_after,if_neg (Ne.symm other)]

theorem after_of_error {r : Registry} {c : Addressed} {err : TemplateError}
    (fails : r.answer c = .error err) : r.after c = r := by
  simp [after,fails,Except.toOption]

theorem registers_iff {r : Registry} {l : Language} {e : Engine} (found : r.engine? l = some e)
    (id : String) (c : Addressed) :
    r.Registers l id c ↔ c.language = l ∧ e.registers id c.call := by
  obtain ⟨k,call⟩ := c
  constructor
  · rintro ⟨text,trims,r',⟨⟩,answered⟩
    obtain ⟨e₀,e',here,done,-⟩ := change_eq_ok_iff.mp answered
    obtain rfl : e = e₀ := Option.some.inj (found.symm.trans here)
    have done : e.registerTemplate id (Engine.prepared text trims) = .ok e' := done
    simp [Engine.registers,done,Except.isOk,Except.toBool]
  · rintro ⟨rfl,registers⟩
    cases call with
    | registerTemplate id' text trims =>
      simp only [Engine.registers,Bool.and_eq_true,decide_eq_true_eq] at registers
      obtain ⟨rfl,succeeds⟩ := registers
      cases done : e.registerTemplate id' (Engine.prepared text trims) with
      | error err => simp [done,Except.isOk,Except.toBool] at succeeds
      | ok e' => exact ⟨text,trims,_,rfl,change_eq_ok_iff.mpr ⟨e,e',found,done,rfl⟩⟩
    | _ => cases registers

theorem mem_templateIds_after (r : Registry) (l : Language) (id : String) (c : Addressed) :
    id ∈ (r.after c).templateIds l ↔ r.Registers l id c ∨ id ∈ r.templateIds l := by
  cases found : r.engine? l with
  | none =>
    have none : ¬ r.Registers l id c := by
      rintro ⟨text,trims,r',rfl,answered⟩
      obtain ⟨e,e',here,-⟩ := change_eq_ok_iff.mp answered
      rw [found] at here
      cases here
    simp [mem_templateIds,engine?_after,found,none]
  | some e =>
    rw [registers_iff found]
    by_cases here : l = c.language
    · subst here
      simp [mem_templateIds,engine?_after,found,Engine.hasTemplate_after]
    · simp [mem_templateIds,engine?_after,found,here,Ne.symm here]

theorem registeredIn_cons {r : Registry} {l : Language} {id : String} {c : Addressed}
    {rest : List Addressed} :
    r.RegisteredIn l id (c :: rest) ↔ r.Registers l id c ∨ (r.after c).RegisteredIn l id rest := by
  constructor
  · rintro ⟨before,c',later,split,registers⟩
    cases before with
    | nil =>
      obtain ⟨rfl,rfl⟩ := List.cons.inj split
      exact .inl registers
    | cons b before =>
      obtain ⟨rfl,rfl⟩ := List.cons.inj split
      exact .inr ⟨before,c',later,rfl,registers⟩
  · rintro (registers | ⟨before,c',later,rfl,registers⟩)
    · exact ⟨[],c,rest,rfl,registers⟩
    · exact ⟨c :: before,c',later,rfl,registers⟩

/-- After a row of calls a table holds what it held before and what has been registered with
success. -/
theorem mem_templateIds_runCalls (r : Registry) (l : Language) (id : String)
    (calls : List Addressed) :
    id ∈ (r.runCalls calls).templateIds l ↔ r.RegisteredIn l id calls ∨ id ∈ r.templateIds l := by
  induction calls generalizing r with
  | nil =>
    have none : ¬ r.RegisteredIn l id [] := by
      rintro ⟨before,c,later,split,-⟩
      simp at split
    simp [runCalls,none]
  | cons c rest ih =>
    have later : id ∈ (r.runCalls (c :: rest)).templateIds l ↔ _ := ih (r.after c)
    rw [later,registeredIn_cons,mem_templateIds_after]
    tauto

theorem templateIds_runCalls {r : Registry} {l : Language}
    (sorted : (r.templateIds l).Pairwise (· < ·)) (calls : List Addressed) :
    ((r.runCalls calls).templateIds l).Pairwise (· < ·) := by
  induction calls generalizing r with
  | nil => exact sorted
  | cons c rest ih =>
    refine ih (r := r.after c) ?_
    cases found : r.engine? l with
    | none => simp [templateIds,engine?_after,found]
    | some e =>
      simp only [templateIds,found,Option.map_some,Option.getD_some] at sorted
      by_cases here : l = c.language
      · subst here
        simpa [templateIds,engine?_after,found] using Engine.templateIds_after sorted c.call
      · simpa [templateIds,engine?_after,found,here] using sorted

theorem isSome_engine?_runCalls (r : Registry) (l : Language) (calls : List Addressed) :
    ((r.runCalls calls).engine? l).isSome = (r.engine? l).isSome := by
  induction calls generalizing r with
  | nil => rfl
  | cons c rest ih =>
    have first : ((r.after c).engine? l).isSome = (r.engine? l).isSome := by
      rw [engine?_after]
      split <;> simp
    exact (ih (r.after c)).trans first

/-- After any calls to two engines that were there without templates: a table holds an id just if some
registration of it at this engine has succeeded, and lists its ids in strictly ascending order; an
application misses its template just if the table does not hold the id, whatever the data; and a
call that fails, or one to the other engine, leaves the engine as it is, so each of its templates
renders as before. -/
theorem tables_after_calls {r : Registry} (blank : r.Blank) (calls : List Addressed)
    (l : Language) :
    ∃ e, (r.runCalls calls).engine? l = some e ∧
      (∀ id, e.hasTemplate id ↔ r.RegisteredIn l id calls) ∧
      (∀ id, e.hasTemplate id ↔ id ∈ e.templateIds) ∧
      e.templateIds.Pairwise (· < ·) ∧
      (∀ id data, failure? (e.apply id data) = some .templateNotFound ↔ ¬ e.hasTemplate id) ∧
      ∀ c, c.language ≠ l ∨ failure? ((r.runCalls calls).answer c) ≠ none →
        ((r.runCalls calls).after c).engine? l = some e := by
  have there := (isSome_engine?_runCalls r l calls).trans (blank.engines l)
  obtain ⟨e,found⟩ := Option.isSome_iff_exists.mp there
  have ids : (r.runCalls calls).templateIds l = e.templateIds := by simp [templateIds,found]
  have sorted : ((r.runCalls calls).templateIds l).Pairwise (· < ·) := by
    apply templateIds_runCalls
    rw [blank.templates]
    exact List.Pairwise.nil
  refine ⟨e,found,fun id => ?_,fun id => Engine.mem_templateIds.symm,ids ▸ sorted,
    fun id data => Engine.failure?_apply_eq_templateNotFound_iff,?_⟩
  · rw [← Engine.mem_templateIds,← ids,mem_templateIds_runCalls,blank.templates]
    simp
  · rintro c (other | fails)
    · rw [engine?_after_other _ other,found]
    · cases answered : (r.runCalls calls).answer c with
      | ok r' => simp [failure?,answered] at fails
      | error err => rw [after_of_error answered,found]

theorem blank_standard (strict : Bool) : (standard strict Language.all).Blank where
  engines l := by cases l <;> rfl
  templates := (fresh_standard strict Language.all).templates

def torn : Addressed := ⟨.handlebars,.registerTemplate "a" "\x7b\x7b#if" false⟩

/-- A text that is registered, one that does not compile under its id, a tag that is refused, and a
text for the other engine. -/
def retold : List Addressed :=
  [⟨.handlebars,.registerTemplate "a" "x" false⟩,torn,⟨.handlebars,.registerTag "t" fun _ => .ok []⟩,
    ⟨.liquid,.registerTemplate "b" "y" false⟩]

theorem tables_hold_compiled_alone :
    let r := standard true Language.all
    r.Blank ∧ ∃ e, (r.runCalls retold).engine? .handlebars = some e ∧ e.templateIds = ["a"] ∧
      r.RegisteredIn .handlebars "a" retold ∧ ¬ r.RegisteredIn .handlebars "b" retold ∧
      failure? ((r.runCalls retold).answer torn) = some .compileFailed ∧
      ((r.runCalls retold).after torn).engine? .handlebars = some e := by
  obtain ⟨e,found,registered,listed,-,-,kept⟩ :=
    tables_after_calls (blank_standard true) retold .handlebars
  have ids : ((standard true Language.all).runCalls retold).templateIds .handlebars = ["a"] := by
    decide +kernel
  have ids : e.templateIds = ["a"] := by simpa [templateIds,found] using ids
  have fails : failure? (((standard true Language.all).runCalls retold).answer torn) =
      some .compileFailed := by
    decide +kernel
  refine ⟨blank_standard true,e,found,ids,?_,?_,fails,kept torn (.inr (by simp [fails]))⟩
  · rw [← registered,listed,ids]
    exact List.mem_singleton.mpr rfl
  · rw [← registered,listed,ids]
    simp

end Registry
end Placard

import Placard.Proofs.Engine.HelperCall

/-! When extensions are bound. Liquid binds them as it compiles, so a template keeps those that were
there before it; Handlebars looks helpers up as it renders, so a template has those that are there
when it is applied. Either way an application depends on the history through little else. -/
namespace Placard.Engine

/-- What can be asked of an engine. -/
inductive Call where
  | registerTemplate (id text : String) (trims : Bool)
  | registerHelper (name : String) (h : Helper)
  | registerTag (name : String) (f : TagFunction)
  | apply (id : String) (data : Json)

/-- A text as it is compiled, which may lose the line end at its end. -/
def prepared (text : String) (trims : Bool) : String :=
  if trims then withoutFinalNewline text else text

def answer (e : Engine) : Call → Except TemplateError Engine
  | .registerTemplate id text trims => e.registerTemplate id (prepared text trims)
  | .registerHelper name h => .ok (e.registerHelper name h)
  | .registerTag name f => e.registerTag name f
  | .apply id data => (e.apply id data).map fun _ => e

/-- A call that fails changes nothing. -/
def after (e : Engine) (c : Call) : Engine := (e.answer c).toOption.getD e

def run (e : Engine) (calls : List Call) : Engine := calls.foldl after e

theorem run_append (e : Engine) (calls more : List Call) :
    e.run (calls ++ more) = (e.run calls).run more :=
  List.foldl_append

def Call.helper? (name : String) : Call → Option Helper
  | .registerHelper n h => if n = name then some h else none
  | _ => none

def Call.tag? (name : String) : Call → Option TagFunction
  | .registerTag n f => if n = name then some f else none
  | _ => none

def latestHelper (name : String) (calls : List Call) : Option Helper :=
  calls.findSomeRev? (Call.helper? name)

def latestTag (name : String) (calls : List Call) : Option TagFunction :=
  calls.findSomeRev? (Call.tag? name)

def registers (e : Engine) (id : String) : Call → Bool
  | .registerTemplate id' text trims =>
    id' = id && (e.registerTemplate id (prepared text trims)).isOk
  | _ => false

def neverRegisters (id : String) : Engine → List Call → Bool
  | _,[] => true
  | e,c :: rest => !e.registers id c && neverRegisters id (e.after c) rest

structure Registration where
  before : List Call
  text : String
  trims : Bool

/-- Of a history, the last registration of an id that succeeds. -/
def LastRegistered (e : Engine) (id : String) (calls : List Call) (r : Registration) : Prop :=
  let call := Call.registerTemplate id r.text r.trims
  ∃ later, calls = r.before ++ call :: later ∧ (e.run r.before).registers id call ∧
    neverRegisters id (e.run (r.before ++ [call])) later

def tag? (name : String) : Engine → Option TagFunction
  | handlebars _ => none
  | liquid e => e.extensions.tags.lookup name

def origin : Engine → Engine
  | handlebars e => empty e.settings.strict .handlebars
  | liquid _ => empty true .liquid

def Sorted : Engine → Prop
  | handlebars e => Ascending e.settings.helpers
  | liquid e => Ascending e.extensions.filters ∧ Ascending e.extensions.tags

theorem tag?_congr {e e' : Engine} (same : e'.bare = e.bare) (name : String) :
    e'.tag? name = e.tag? name := by
  have bare (e : Engine) : e.bare.tag? name = e.tag? name := by cases e <;> rfl
  rw [← bare e',same,bare]

theorem origin_congr {e e' : Engine} (same : e'.bare = e.bare) : e'.origin = e.origin := by
  have bare (e : Engine) : e.bare.origin = e.origin := by cases e <;> rfl
  rw [← bare e',same,bare]

theorem sorted_congr {e e' : Engine} (same : e'.bare = e.bare) : e'.Sorted ↔ e.Sorted := by
  have bare (e : Engine) : e.bare.Sorted ↔ e.Sorted := by cases e <;> rfl
  rw [← bare e',same,bare]

theorem bare_ext {e e' : Engine} (made : e.origin = e'.origin) (sorted : e.Sorted)
    (sorted' : e'.Sorted) (helpers : ∀ name, e.helper? name = e'.helper? name)
    (tags : ∀ name, e.tag? name = e'.tag? name) : e.bare = e'.bare := by
  -- Tables in order that bind the same are the same; all else of an engine is as it was made.
  cases e with
  | handlebars e =>
    cases e' with
    | liquid e' => cases made
    | handlebars e' =>
      have strict : e.settings.strict = e'.settings.strict := by
        simpa [origin,empty,HandlebarsEngine.empty] using made
      have helpers : e.settings.helpers = e'.settings.helpers := ascending_ext sorted sorted' helpers
      have settings : e.settings = e'.settings := by
        cases h : e.settings
        cases h' : e'.settings
        simp_all
      simp [bare,settings]
  | liquid e =>
    cases e' with
    | handlebars e' => cases made
    | liquid e' =>
      have filters : e.extensions.filters = e'.extensions.filters :=
        ascending_ext sorted.1 sorted'.1 helpers
      have tags : e.extensions.tags = e'.extensions.tags := ascending_ext sorted.2 sorted'.2 tags
      have extensions : e.extensions = e'.extensions := by
        cases h : e.extensions
        cases h' : e'.extensions
        simp_all
      simp [bare,extensions]

theorem bare_after {e : Engine} {c : Call} (helper : ∀ name h, c ≠ .registerHelper name h)
    (tag : ∀ name f, c ≠ .registerTag name f) : (e.after c).bare = e.bare := by
  cases c with
  | registerTemplate id text trims =>
    cases done : e.registerTemplate id (prepared text trims) with
    | error err => simp [after,answer,done,Except.toOption]
    | ok e' =>
      obtain ⟨-,-,same,-⟩ := registerTemplate_ok done
      simpa [after,answer,done,Except.toOption] using same
  | registerHelper name h => exact absurd rfl (helper name h)
  | registerTag name f => exact absurd rfl (tag name f)
  | apply id data =>
    cases done : e.apply id data <;> simp [after,answer,done,Except.map,Except.toOption]

theorem after_registerHelper (e : Engine) (name : String) (h : Helper) :
    e.after (.registerHelper name h) = e.registerHelper name h := rfl

/-- Handlebars refuses every tag. -/
theorem after_registerTag (e : Engine) (name : String) (f : TagFunction) :
    e.after (.registerTag name f) =
      match e with
      | handlebars e => handlebars e
      | liquid e => liquid (e.registerTag name f) := by
  cases e <;> rfl

theorem helper?_after (e : Engine) (c : Call) (name : String) :
    (e.after c).helper? name = (c.helper? name).or (e.helper? name) := by
  cases c with
  | registerTemplate | apply =>
    rw [helper?_congr (bare_after (by simp) (by simp))]
    rfl
  | registerHelper n h =>
    rw [after_registerHelper]
    cases e <;> by_cases same : name = n <;>
      simp [registerHelper,HandlebarsEngine.registerHelper,LiquidEngine.registerHelper,helper?,
        Call.helper?,lookup_bind,same,eq_comm]
  | registerTag n f =>
    rw [after_registerTag]
    cases e <;> simp [LiquidEngine.registerTag,helper?,Call.helper?]

theorem tag?_after {e : Engine} (language : e.language = .liquid) (c : Call) (name : String) :
    (e.after c).tag? name = (c.tag? name).or (e.tag? name) := by
  cases c with
  | registerTemplate | apply =>
    rw [tag?_congr (bare_after (by simp) (by simp))]
    rfl
  | registerHelper n h =>
    rw [after_registerHelper]
    cases e <;> simp [registerHelper,LiquidEngine.registerHelper,tag?,Call.tag?]
  | registerTag n f =>
    rw [after_registerTag]
    cases e with
    | handlebars e => cases language
    | liquid e =>
      by_cases same : name = n <;>
        simp [LiquidEngine.registerTag,tag?,Call.tag?,lookup_bind,same,eq_comm]

theorem origin_after (e : Engine) (c : Call) : (e.after c).origin = e.origin := by
  cases c with
  | registerTemplate | apply => exact origin_congr (bare_after (by simp) (by simp))
  | registerHelper n h =>
    rw [after_registerHelper]
    cases e <;> rfl
  | registerTag n f =>
    rw [after_registerTag]
    cases e <;> rfl

theorem sorted_after {e : Engine} (sorted : e.Sorted) (c : Call) : (e.after c).Sorted := by
  cases c with
  | registerTemplate | apply => exact (sorted_congr (bare_after (by simp) (by simp))).mpr sorted
  | registerHelper n h =>
    rw [after_registerHelper]
    cases e with
    | handlebars e => exact ascending_insertField sorted n h
    | liquid e => exact ⟨ascending_insertField sorted.1 n h,sorted.2⟩
  | registerTag n f =>
    rw [after_registerTag]
    cases e with
    | handlebars e => exact sorted
    | liquid e => exact ⟨sorted.1,ascending_insertField sorted.2 n f⟩

/-- A call that does not register an id leaves what is compiled under it. -/
theorem compiled?_after {e : Engine} {id : String} {c : Call} (other : e.registers id c = false) :
    (e.after c).compiled? id = e.compiled? id := by
  cases c with
  | registerTemplate id' text trims =>
    cases done : e.registerTemplate id' (prepared text trims) with
    | error err => simp [after,answer,done,Except.toOption]
    | ok e' =>
      obtain ⟨c,-,-,held⟩ := registerTemplate_ok done
      have apart : id ≠ id' := by
        rintro rfl
        simp [registers,done,Except.isOk,Except.toBool] at other
      simpa [after,answer,done,Except.toOption,apart] using held id
  | registerHelper n h =>
    rw [after_registerHelper]
    cases e <;> rfl
  | registerTag n f =>
    rw [after_registerTag]
    cases e <;> rfl
  | apply id' data =>
    cases done : e.apply id' data <;> simp [after,answer,done,Except.map,Except.toOption]

/-- A call that registers an id compiles its text under it. -/
theorem compiled?_after_registers {e : Engine} {id text : String} {trims : Bool}
    (registers : e.registers id (.registerTemplate id text trims)) :
    ∃ c, e.compile? (prepared text trims) = some c ∧
      (e.after (.registerTemplate id text trims)).compiled? id = some c := by
  cases done : e.registerTemplate id (prepared text trims) with
  | error err => simp [Engine.registers,done,Except.isOk,Except.toBool] at registers
  | ok e' =>
    obtain ⟨c,compiles,-,held⟩ := registerTemplate_ok done
    exact ⟨c,compiles,by simpa [after,answer,done,Except.toOption] using held id⟩

theorem findSomeRev?_cons (f : α → Option β) (a : α) (l : List α) :
    (a :: l).findSomeRev? f = (l.findSomeRev? f).or (f a) := by
  rw [List.findSomeRev?]
  cases l.findSomeRev? f <;> rfl

theorem helper?_run (e : Engine) (calls : List Call) (name : String) :
    (e.run calls).helper? name = (latestHelper name calls).or (e.helper? name) := by
  induction calls generalizing e with
  | nil => rfl
  | cons c rest ih =>
    rw [latestHelper,findSomeRev?_cons,Option.or_assoc,← helper?_after]
    exact ih (e.after c)

theorem origin_run (e : Engine) (calls : List Call) : (e.run calls).origin = e.origin := by
  induction calls generalizing e with
  | nil => rfl
  | cons c rest ih => exact (ih (e.after c)).trans (origin_after e c)

theorem language_of_origin {e e' : Engine} (made : e.origin = e'.origin) :
    e.language = e'.language := by
  cases e <;> cases e' <;> first | rfl | cases made

@[simp] theorem language_run (strict : Bool) (l : Language) (calls : List Call) :
    ((empty strict l).run calls).language = l := by
  rw [language_of_origin (origin_run (empty strict l) calls)]
  cases l <;> rfl

theorem exists_handlebars {e : Engine} (language : e.language = .handlebars) :
    ∃ e', e = handlebars e' := by
  cases e with
  | handlebars e => exact ⟨e,rfl⟩
  | liquid e => cases language

theorem exists_liquid {e : Engine} (language : e.language = .liquid) : ∃ e', e = liquid e' := by
  cases e with
  | handlebars e => cases language
  | liquid e => exact ⟨e,rfl⟩

theorem tag?_run {e : Engine} (language : e.language = .liquid) (calls : List Call) (name : String) :
    (e.run calls).tag? name = (latestTag name calls).or (e.tag? name) := by
  induction calls generalizing e with
  | nil => rfl
  | cons c rest ih =>
    rw [latestTag,findSomeRev?_cons,Option.or_assoc,← tag?_after language]
    exact ih ((language_of_origin (origin_after e c)).trans language)

theorem sorted_run {e : Engine} (sorted : e.Sorted) (calls : List Call) : (e.run calls).Sorted := by
  induction calls generalizing e with
  | nil => exact sorted
  | cons c rest ih => exact ih (sorted_after sorted c)

theorem sorted_empty (strict : Bool) (l : Language) : (empty strict l).Sorted := by
  cases l with
  | handlebars => exact ascending_nil
  | liquid => exact ⟨ascending_nil,ascending_nil⟩

theorem compiled?_run {e : Engine} {id : String} {calls : List Call}
    (never : neverRegisters id e calls) : (e.run calls).compiled? id = e.compiled? id := by
  induction calls generalizing e with
  | nil => rfl
  | cons c rest ih =>
    simp only [neverRegisters,Bool.and_eq_true,Bool.not_eq_true'] at never
    exact (ih never.2).trans (compiled?_after never.1)

/-- Histories that register the same under each name end with the same extensions. -/
theorem bare_run {strict : Bool} {l : Language} {calls calls' : List Call}
    (helpers : ∀ name, latestHelper name calls = latestHelper name calls')
    (tags : l = .liquid → ∀ name, latestTag name calls = latestTag name calls') :
    ((empty strict l).run calls).bare = ((empty strict l).run calls').bare := by
  have sorted := sorted_empty strict l
  refine bare_ext ((origin_run _ calls).trans (origin_run _ calls').symm) (sorted_run sorted calls)
    (sorted_run sorted calls') (fun name => ?_) fun name => ?_
  · rw [helper?_run,helper?_run,helpers]
  · cases l with
    | handlebars =>
      have none (calls : List Call) : ((empty strict .handlebars).run calls).tag? name = none := by
        obtain ⟨e,ended⟩ := exists_handlebars (language_run strict .handlebars calls)
        rw [ended,tag?]
      rw [none,none]
    | liquid => rw [tag?_run rfl,tag?_run rfl,tags rfl]

/-- The table holds what the last registration compiled, with the extensions of that time. -/
theorem compiled?_lastRegistered {e : Engine} {id : String} {calls : List Call} {r : Registration}
    (last : e.LastRegistered id calls r) :
    ∃ c, (e.run r.before).compile? (prepared r.text r.trims) = some c ∧
      (e.run calls).compiled? id = some c := by
  obtain ⟨later,rfl,registers,never⟩ := last
  obtain ⟨c,compiles,held⟩ := compiled?_after_registers registers
  refine ⟨c,compiles,?_⟩
  have kept := compiled?_run never
  rw [run_append] at kept ⊢
  exact kept.trans held

/-- A history registers an id with success at last once, or never. -/
theorem lastRegistered_or_never (e : Engine) (id : String) (calls : List Call) :
    (∃ r, e.LastRegistered id calls r) ∨ neverRegisters id e calls := by
  induction calls generalizing e with
  | nil => exact .inr rfl
  | cons c rest ih =>
    rcases ih (e.after c) with ⟨r,later,rfl,registers,never⟩ | never
    · exact .inl ⟨⟨c :: r.before,r.text,r.trims⟩,later,rfl,registers,never⟩
    · cases registers : e.registers id c with
      | false => exact .inr (by simp [neverRegisters,registers,never])
      | true =>
        cases c with
        | registerTemplate id' text trims =>
          obtain rfl : id' = id := by
            simp only [Engine.registers,Bool.and_eq_true,decide_eq_true_eq] at registers
            exact registers.1
          exact .inl ⟨⟨[],text,trims⟩,rest,rfl,registers,never⟩
        | _ => cases registers

theorem LastRegistered.append {e : Engine} {id : String} {calls : List Call} {r : Registration}
    (last : e.LastRegistered id calls r) {more : List Call}
    (never : neverRegisters id (e.run calls) more) : e.LastRegistered id (calls ++ more) r := by
  obtain ⟨later,rfl,registers,quiet⟩ := last
  refine ⟨later ++ more,by simp,registers,?_⟩
  have joined {e : Engine} (later : List Call) (quiet : neverRegisters id e later)
      (never : neverRegisters id (e.run later) more) : neverRegisters id e (later ++ more) := by
    induction later generalizing e with
    | nil => exact never
    | cons c later ih =>
      simp only [neverRegisters,Bool.and_eq_true,List.cons_append] at quiet ⊢
      exact ⟨quiet.1,ih quiet.2 never⟩
  refine joined later quiet ?_
  rwa [← run_append,List.append_assoc]

theorem neverRegisters_of_other {id : String} {more : List Call}
    (other : ∀ c ∈ more, ∀ text trims, c ≠ .registerTemplate id text trims) (e : Engine) :
    neverRegisters id e more := by
  induction more generalizing e with
  | nil => rfl
  | cons c rest ih =>
    obtain ⟨first,later⟩ := List.forall_mem_cons.mp other
    have quiet : e.registers id c = false := by
      cases c with
      | registerTemplate id' text trims =>
        have apart : id' ≠ id := by
          rintro rfl
          exact first text trims rfl
        simp [registers,apart]
      | _ => rfl
    simp [neverRegisters,quiet,ih later]

/-- An application in a history renders what the last registration compiled with the extensions of its
time, in an engine with the extensions of now. -/
theorem apply_lastRegistered {e : Engine} {id : String} {calls : List Call} {r : Registration}
    (last : e.LastRegistered id calls r) (data : Json) :
    ∃ c, (e.run r.before).compile? (prepared r.text r.trims) = some c ∧
      (e.run calls).apply id data = (e.run calls).renderCompiled id data c := by
  obtain ⟨c,compiles,held⟩ := compiled?_lastRegistered last
  exact ⟨c,compiles,by rw [apply_eq,held]⟩

structure SameRegistration (e : Engine) (id : String) (calls calls' : List Call)
    (r r' : Registration) : Prop where
  last : e.LastRegistered id calls r
  last' : e.LastRegistered id calls' r'
  text : r.text = r'.text
  trims : r.trims = r'.trims

theorem renderCompiled_liquid {e e' : Engine} (language : e.language = .liquid)
    (language' : e'.language = .liquid) (id : String) (data : Json) (c : Compiled) :
    e.renderCompiled id data c = e'.renderCompiled id data c := by
  obtain ⟨e,rfl⟩ := exists_liquid language
  obtain ⟨e',rfl⟩ := exists_liquid language'
  cases c <;> simp [renderCompiled,LiquidEngine.apply]

/-- On Liquid an application depends on the last registration and on the helpers and tags that had
been registered before it. -/
theorem apply_liquid {strict : Bool} {id : String} {calls calls' : List Call} {r r' : Registration}
    (same : SameRegistration (empty strict .liquid) id calls calls' r r')
    (helpers : ∀ name, latestHelper name r.before = latestHelper name r'.before)
    (tags : ∀ name, latestTag name r.before = latestTag name r'.before) (data : Json) :
    ((empty strict .liquid).run calls).apply id data =
      ((empty strict .liquid).run calls').apply id data := by
  obtain ⟨c,compiles,rendered⟩ := apply_lastRegistered same.last data
  obtain ⟨c',compiles',rendered'⟩ := apply_lastRegistered same.last' data
  have extensions : ((empty strict .liquid).run r.before).bare =
      ((empty strict .liquid).run r'.before).bare :=
    bare_run helpers fun _ => tags
  rw [compile?_congr extensions,same.text,same.trims] at compiles
  cases compiles.symm.trans compiles'
  rw [rendered,rendered']
  exact renderCompiled_liquid (language_run strict .liquid calls) (language_run strict .liquid calls')
    id data c

theorem compile?_handlebars {e : Engine} (language : e.language = .handlebars) (text : String) :
    e.compile? text = (Handlebars.compile? text).map .handlebars := by
  obtain ⟨e,rfl⟩ := exists_handlebars language
  rfl

/-- On Handlebars an application of a template that embeds nothing depends on the last registration and
on the helpers that have been registered before the application. -/
theorem apply_handlebars {strict : Bool} {id : String} {calls calls' : List Call}
    {r r' : Registration} (same : SameRegistration (empty strict .handlebars) id calls calls' r r')
    (alone : ∀ t, Handlebars.compile? (prepared r.text r.trims) = some t →
      Handlebars.embedsIn t = false)
    (helpers : ∀ name, latestHelper name calls = latestHelper name calls') (data : Json) :
    ((empty strict .handlebars).run calls).apply id data =
      ((empty strict .handlebars).run calls').apply id data := by
  obtain ⟨c,compiles,rendered⟩ := apply_lastRegistered same.last data
  obtain ⟨c',compiles',rendered'⟩ := apply_lastRegistered same.last' data
  rw [compile?_handlebars (language_run ..)] at compiles compiles'
  rw [← same.text,← same.trims] at compiles'
  cases compiles.symm.trans compiles'
  obtain ⟨t,compiled,rfl⟩ := Option.map_eq_some_iff.mp compiles
  have extensions : ((empty strict .handlebars).run calls).bare =
      ((empty strict .handlebars).run calls').bare :=
    bare_run helpers (by simp)
  have standalone : (Compiled.handlebars t).Standalone := alone t compiled
  rw [rendered,rendered',renderCompiled_standalone extensions standalone]

/-- On Handlebars a template that calls a helper calls the one that has been registered since. -/
theorem apply_replaced {strict : Bool} {id : String} {calls : List Call} {r : Registration}
    (last : (empty strict .handlebars).LastRegistered id calls r) {name : String}
    (calling : prepared r.text r.trims = callText name .handlebars)
    (identifier : Text.isIdentifier name.toList) (plain : ¬ "else".toList <+: name.toList)
    (h : Helper) {fields : List (String × Json)} {title alt : Json}
    (titled : fields.lookup "title" = some title) (found : fields.lookup "alt" = some alt) :
    ((empty strict .handlebars).run (calls ++ [.registerHelper name h])).apply id (.obj fields) =
      printAnswer id name .handlebars (h title [("key",alt)]) := by
  have quiet : neverRegisters id ((empty strict .handlebars).run calls) [.registerHelper name h] :=
    neverRegisters_of_other (by simp) _
  obtain ⟨c,compiles,rendered⟩ := apply_lastRegistered (last.append quiet) (.obj fields)
  have template := Handlebars.compile?_callText identifier plain
  rw [compile?_handlebars (language_run ..),calling,template] at compiles
  cases compiles
  have registered : ((empty strict .handlebars).run (calls ++ [.registerHelper name h])).helper? name =
      some h := by
    simp [helper?_run,latestHelper,Call.helper?]
  obtain ⟨e,ended⟩ := exists_handlebars
    (language_run strict .handlebars (calls ++ [.registerHelper name h]))
  rw [ended] at registered
  have compiled : (handlebars e).compile? (callText name .handlebars) =
      some (.handlebars [.call ⟨1,1⟩ (Handlebars.titledCall name)]) := by
    rw [compile?,template,Option.map_some]
  rw [rendered,ended,← callHelper_handlebars titled found identifier plain registered id,callHelper,
    language,renderText_standalone compiled rfl]

/-- When extensions are bound. Of any history the result of an application is determined by the data,
by the last registration of the id that succeeded, and by the helpers and tags registered last under
each name: on Liquid before that registration, so no call after it that registers another id, a helper
or a tag changes the result; on Handlebars, where templates that embed nothing are concerned, before
the application, so a helper that is registered later is the one that is called. -/
theorem binding_time (id : String) (data : Json) :
    (∀ strict l calls, (∃ r, (empty strict l).LastRegistered id calls r) ∨
      ((empty strict l).run calls).apply id data = .error (.templateNotFound id)) ∧
    (∀ strict calls calls' r r', SameRegistration (empty strict .liquid) id calls calls' r r' →
      (∀ name, latestHelper name r.before = latestHelper name r'.before) →
      (∀ name, latestTag name r.before = latestTag name r'.before) →
      ((empty strict .liquid).run calls).apply id data =
        ((empty strict .liquid).run calls').apply id data) ∧
    (∀ strict calls more, (∀ c ∈ more, ∀ text trims, c ≠ .registerTemplate id text trims) →
      ((empty strict .liquid).run (calls ++ more)).apply id data =
        ((empty strict .liquid).run calls).apply id data) ∧
    (∀ strict calls calls' r r', SameRegistration (empty strict .handlebars) id calls calls' r r' →
      (∀ t, Handlebars.compile? (prepared r.text r.trims) = some t →
        Handlebars.embedsIn t = false) →
      (∀ name, latestHelper name calls = latestHelper name calls') →
      ((empty strict .handlebars).run calls).apply id data =
        ((empty strict .handlebars).run calls').apply id data) ∧
    ∀ strict calls r name h fields title alt,
      (empty strict .handlebars).LastRegistered id calls r →
      prepared r.text r.trims = callText name .handlebars → Text.isIdentifier name.toList →
      ¬ "else".toList <+: name.toList → data = .obj fields → fields.lookup "title" = some title →
      fields.lookup "alt" = some alt →
      ((empty strict .handlebars).run (calls ++ [.registerHelper name h])).apply id data =
        printAnswer id name .handlebars (h title [("key",alt)]) := by
  have missing {strict : Bool} {l : Language} {calls : List Call}
      (never : neverRegisters id (empty strict l) calls) :
      ((empty strict l).run calls).apply id data = .error (.templateNotFound id) := by
    have none : (empty strict l).compiled? id = none := by cases l <;> rfl
    rw [apply_eq,compiled?_run never,none]
  refine ⟨fun strict l calls => ?_,fun _ _ _ _ _ same helpers tags => ?_,
    fun strict calls more other => ?_,fun _ _ _ _ _ same alone helpers => ?_,?_⟩
  · exact (lastRegistered_or_never _ id calls).imp_right missing
  · exact apply_liquid same helpers tags data
  · have quiet := neverRegisters_of_other other
    rcases lastRegistered_or_never (empty strict .liquid) id calls with ⟨r,last⟩ | never
    · exact apply_liquid ⟨last.append (quiet _),last,rfl,rfl⟩ (fun _ => rfl) (fun _ => rfl) data
    · have kept := compiled?_run (quiet ((empty strict .liquid).run calls))
      rw [apply_eq,apply_eq,run_append,kept,compiled?_run never]
      rfl
  · exact apply_handlebars same alone helpers data
  · rintro strict calls r name h fields title alt last calling identifier plain rfl titled found
    exact apply_replaced last calling identifier plain h titled found

/-- Two histories of one template: in the first its helper is replaced after it, in the second before
it there was another one. -/
def replacedAfter (l : Language) : List Call :=
  [.registerHelper "keyed" keyed,.registerTemplate "a" (callText "keyed" l) false,
    .registerHelper "keyed" Helper.json]

def replacedBefore (l : Language) : List Call :=
  [.registerHelper "keyed" Helper.json,.registerHelper "keyed" keyed,
    .registerTemplate "a" (callText "keyed" l) false]

theorem replaced_helper_kept_or_taken :
    ((empty true .liquid).run (replacedAfter .liquid)).apply "a" (.obj headline) =
      ((empty true .liquid).run (replacedBefore .liquid)).apply "a" (.obj headline) ∧
    ((empty true .handlebars).run (replacedBefore .handlebars ++ [.registerHelper "keyed" Helper.json])).apply
      "a" (.obj headline) = .ok "\"News\"" := by
  obtain ⟨-,liquid,-,-,handlebars⟩ := binding_time "a" (.obj headline)
  have last : (empty true .liquid).LastRegistered "a" (replacedAfter .liquid)
      ⟨[.registerHelper "keyed" keyed],callText "keyed" .liquid,false⟩ :=
    ⟨[.registerHelper "keyed" Helper.json],rfl,by cbv,by cbv⟩
  have last' (l : Language) : (empty true l).LastRegistered "a" (replacedBefore l)
      ⟨[.registerHelper "keyed" Helper.json,.registerHelper "keyed" keyed],callText "keyed" l,false⟩ :=
    ⟨[],rfl,by cases l <;> cbv,rfl⟩
  refine ⟨liquid true _ _ _ _ ⟨last,last' .liquid,rfl,rfl⟩ (fun name => ?_) (fun _ => rfl),?_⟩
  · by_cases same : "keyed" = name <;>
      simp [latestHelper,Call.helper?,same]
  · exact handlebars true _ _ "keyed" Helper.json headline (.str "News") (.str "<b>")
      (last' .handlebars) rfl (by decide) (by decide) rfl rfl rfl

end Placard.Engine

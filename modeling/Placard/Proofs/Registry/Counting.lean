import Mathlib.Algebra.Ring.Nat
import Placard.Proofs.Registry.Keys
import Placard.Proofs.Registry.Rendering
import Placard.Proofs.Setup.Gathering

/-! The counters against what was done. Each operation leaves books that agree with it: what it has
registered, rendered or failed to fetch is counted once, and the noted keys grow by the registrations
that replaced nothing. Books of one operation after the other are books of the row. -/
namespace Placard

def Registration.counters (x : Registration) : List Counter :=
  .registered x.language :: if x.again then [.overwritten x.language] else []

def Counter.registers : Counter → Bool
  | .registered _ => true
  | .overwritten _ => true
  | _ => false

def TemplateError.counters : TemplateError → List Counter
  | .fetchFailed _ cause => [.fetchFailures cause.kind]
  | _ => []

theorem TemplateError.counters_of_kind {e : TemplateError} (other : e.kind ≠ .fetchFailed) :
    e.counters = [] := by
  cases e with
  | fetchFailed path cause => exact absurd rfl other
  | _ => rfl

def lost : Except TemplateError α → List Counter
  | .ok _ => []
  | .error e => e.counters

theorem mem_lost {x : Except TemplateError α} {c : Counter} (member : c ∈ lost x) :
    ∃ k, c = .fetchFailures k := by
  rcases x with e | a
  · cases e with
    | fetchFailed path cause => exact ⟨_,List.mem_singleton.mp member⟩
    | _ => cases member
  · cases member

@[simp] theorem lost_map (x : Except TemplateError α) (f : α → β) : lost (x.map f) = lost x := by
  cases x <;> rfl

theorem outcome_map (x : Except TemplateError α) (f : α → β) :
    Outcome.of (x.map f) = Outcome.of x := by
  cases x <;> rfl

/-- What is counted of a rendering. -/
def rendering (p : Pipeline) (o : Outcome) : Tally := [.latency p,.renders p o]

def tallied (counters : List Counter) (t : Tally) : Nat := (counters.map t.count).sum

theorem tallied_append (counters : List Counter) (t t' : Tally) :
    tallied counters (t ++ t') = tallied counters t + tallied counters t' := by
  induction counters with
  | nil => rfl
  | cons c rest ih =>
    simp only [tallied,List.map_cons,List.sum_cons,List.count_append] at ih ⊢
    omega

theorem tallied_perm (counters : List Counter) {t t' : Tally} (same : t.Perm t') :
    tallied counters t = tallied counters t' := by
  simp only [tallied,same.count_eq]

theorem tallied_eq_zero {counters : List Counter} {t : Tally} (apart : ∀ c ∈ counters, c ∉ t) :
    tallied counters t = 0 := by
  induction counters with
  | nil => rfl
  | cons c rest ih =>
    obtain ⟨first,later⟩ := List.forall_mem_cons.mp apart
    simp only [tallied,List.map_cons,List.sum_cons] at ih ⊢
    rw [List.count_eq_zero.mpr first,ih later]

theorem tallied_lost_eq_zero {counters : List Counter} (apart : ∀ k, .fetchFailures k ∉ counters)
    (x : Except TemplateError α) : tallied counters (lost x) = 0 := by
  refine tallied_eq_zero fun c here member => ?_
  obtain ⟨k,rfl⟩ := mem_lost member
  exact apart k here

/-- Where each of a row is counted once or not at all, so many are counted as there are of the first
sort. -/
theorem tallied_flatMap {counters : List Counter} {f : α → Tally} {p : α → Bool}
    (each : ∀ a, tallied counters (f a) = (p a).toNat) (row : List α) :
    tallied counters (row.flatMap f) = row.countP p := by
  induction row with
  | nil => simp [tallied]
  | cons a rest ih =>
    rw [List.flatMap_cons,tallied_append,ih,each,List.countP_cons]
    cases p a <;> simp [Nat.add_comm]

namespace Registry

variable {σ : Type} {r r' r'' : Registry}

def gained (r r' : Registry) (counters : List Counter) : Int :=
  tallied counters r'.tally - tallied counters r.tally

/-- Registrations and what else is counted, as they account for what has become of a registry. -/
structure Books (r : Registry) (regs : List Registration) (others : Tally) (r' : Registry) :
    Prop where
  tally : ∀ counters, tallied counters r'.tally = tallied counters r.tally +
    tallied counters (regs.flatMap Registration.counters) + tallied counters others
  keys : Ascending r.keys →
    Ascending r'.keys ∧ r'.keys.length + regs.countP (·.again) = r.keys.length + regs.length

theorem Books.refl (r : Registry) : Books r [] [] r :=
  ⟨fun counters => by simp [tallied],fun sorted => ⟨sorted,rfl⟩⟩

theorem Books.trans {regs regs' : List Registration} {others others' : Tally}
    (first : Books r regs others r') (later : Books r' regs' others' r'') :
    Books r (regs ++ regs') (others ++ others') r'' := by
  constructor
  case tally =>
    intro counters
    rw [later.tally,first.tally,List.flatMap_append,tallied_append,tallied_append]
    omega
  case keys =>
    intro sorted
    obtain ⟨between,before⟩ := first.keys sorted
    obtain ⟨sorted,after⟩ := later.keys between
    rw [List.countP_append,List.length_append]
    exact ⟨sorted,by omega⟩

/-- Nothing is registered or noted, but something is counted. -/
theorem books_counted {others : Tally} (keys : r'.keys = r.keys)
    (tally : r'.tally = others ++ r.tally) : Books r [] others r' := by
  constructor
  case tally =>
    intro counters
    rw [tally,tallied_append]
    simp [tallied,Nat.add_comm]
  case keys =>
    intro sorted
    rw [keys]
    exact ⟨sorted,rfl⟩

theorem books_registerText {l : Language} {key text : String} {again : Bool}
    (done : r.registerText l key text = .ok (again,r')) : Books r [⟨l,again⟩] [] r' := by
  obtain ⟨c,-,stored⟩ := registerText_ok done
  constructor
  case tally =>
    intro counters
    have same : r'.tally.Perm (Registration.counters ⟨l,again⟩ ++ r.tally) := by
      rw [stored.tally]
      cases again with
      | false => exact .refl _
      | true => exact .swap _ _ _
    rw [tallied_perm counters same,tallied_append]
    simp [tallied,Nat.add_comm]
  case keys =>
    intro sorted
    have grown := length_insertField sorted key l
    rw [stored.keys,bind]
    refine ⟨ascending_insertField sorted key l,?_⟩
    rw [← stored.noted] at grown
    cases again <;> simpa using grown

theorem books_registerAll (r : Registry) (report : Report) (pairs : List (Entry × String)) :
    Books r (Setup.registrations r pairs) [] (Setup.registerAll r report pairs).2 := by
  induction pairs generalizing r report with
  | nil => exact .refl r
  | cons p rest ih =>
    cases step : r.registerText p.1.target.language p.1.target.key p.2 with
    | error e =>
      simp only [Setup.registrations,Setup.registerAll,step]
      exact .refl r
    | ok done =>
      simp only [Setup.registrations,Setup.registerAll,step]
      exact (books_registerText step).trans (ih done.2 _)

theorem books_failedFetch (r : Registry) (e : TemplateError) :
    Books r [] e.counters (Setup.failedFetch r e) := by
  cases e with
  | fetchFailed path cause => exact books_counted rfl rfl
  | _ => exact .refl r

theorem books_extensions (extensions : Extensions r r') : Books r [] [] r' := by
  induction extensions with
  | refl => exact .refl r
  | tail _ last ih =>
    obtain ⟨l,e,e',-,-,rfl⟩ := last
    exact ih.trans (books_counted (keys_withEngine _ e') (by cases e' <;> rfl))

inductive Reply where
  | setUp (report : Report)
  | extended
  | registered (again : Bool)
  | rendered (text : String)

def Operation.perform (r : Registry) :
    Operation σ → StateM σ (Except TemplateError Reply × Registry)
  | .setup source location manifest options => do
    let (answer,r) ← r.setup source location manifest options
    return (answer.map .setUp,r)
  | .applyOptions options =>
    return ((r.applyOptions options).1.map fun _ => .extended,(r.applyOptions options).2)
  | .registerEntry source location manifest e => do
    let (answer,r) ← r.registerEntry source location manifest e
    return (answer.map .registered,r)
  | .readAndRegister source l path key => do
    let (answer,r) ← r.readAndRegister source l path key
    return (answer.map .registered,r)
  | .registerText l key text =>
    match r.registerText l key text with
    | .ok (again,r') => return (.ok (.registered again),r')
    | .error e => return (.error e,r)
  | .render t data => return ((r.render t data).1.map .rendered,(r.render t data).2)

/-- With its answer or without, an operation does the same. -/
theorem Operation.run_eq_perform (r : Registry) (op : Operation σ) (w : σ) :
    (op.run r).run w = (((op.perform r).run w).1.2,((op.perform r).run w).2) := by
  cases op with
  | registerText l key text =>
    simp only [Operation.run,perform]
    cases r.registerText l key text <;> rfl
  | _ => rfl

def Operation.pipeline? : Operation σ → Option Pipeline
  | .render t _ => some (.ofTarget t)
  | _ => none

structure Moment (σ : Type) where
  registry : Registry
  world : σ
  operation : Operation σ

namespace Moment

def answer (m : Moment σ) : Except TemplateError Reply :=
  ((m.operation.perform m.registry).run m.world).1.1

def after (m : Moment σ) : Registry :=
  ((m.operation.perform m.registry).run m.world).1.2

end Moment

def Reply.registration (l : Language) : Except TemplateError Reply → List Registration
  | .ok (.registered again) => [⟨l,again⟩]
  | _ => []

namespace Moment

/-- The registrations that succeed, in order, also those of a setup that fails after them. -/
def registrations (m : Moment σ) : List Registration :=
  match m.operation with
  | .setup source location manifest options =>
    match ((Setup.gather m.registry source location manifest options).run m.world).1 with
    | .ok (pairs,_) => Setup.registrations m.registry pairs
    | .error _ => []
  | .registerEntry _ _ _ e => Reply.registration e.target.language m.answer
  | .readAndRegister _ l _ _ => Reply.registration l m.answer
  | .registerText l _ _ => Reply.registration l m.answer
  | .applyOptions _ => []
  | .render _ _ => []

def renderings (m : Moment σ) : Tally :=
  match m.operation.pipeline? with
  | some p => rendering p (Outcome.of m.answer)
  | none => []

def others (m : Moment σ) : Tally := m.renderings ++ lost m.answer

end Moment

theorem counters_of_registerText {l : Language} {key text : String} {e : TemplateError}
    (fails : r.registerText l key text = .error e) : e.counters = [] := by
  rcases registerText_error_iff.mp fails with ⟨-,rfl⟩ | ⟨-,-,rfl⟩ <;> rfl

theorem lost_registerAll (r : Registry) (report : Report) (pairs : List (Entry × String)) :
    lost (Setup.registerAll r report pairs).1 = [] := by
  induction pairs generalizing r report with
  | nil => rfl
  | cons p rest ih =>
    cases step : r.registerText p.1.target.language p.1.target.key p.2 with
    | error e =>
      simp only [Setup.registerAll,step]
      exact counters_of_registerText step
    | ok done =>
      simp only [Setup.registerAll,step]
      exact ih done.2 _

theorem lost_applyOptions (r : Registry) (options : List EngineOptions) :
    lost (r.applyOptions options).1 = [] := by
  cases done : (r.applyOptions options).1 with
  | ok _ => rfl
  | error e =>
    refine TemplateError.counters_of_kind fun kind => ?_
    rcases (extends_applyOptions r options).fails e done with other | other <;> simp [kind] at other

theorem lost_render (r : Registry) (t : Target) (data : Json) : lost (r.render t data).1 = [] := by
  have renders := r.renders_render t data
  generalize (r.render t data).1 = result at renders
  cases renders <;> rfl

/-- A registration that fails leaves nothing to account for. -/
theorem books_refused {l : Language} {key text : String} {e : TemplateError}
    (fails : r.registerText l key text = .error e) : Books r [] e.counters r := by
  rw [counters_of_registerText fails]
  exact .refl r

theorem books_readAndRegister (r : Registry) (source : Source (StateM σ)) (l : Language)
    (path key : String) (w : σ) :
    let done := ((r.readAndRegister source l path key).run w).1
    Books r (Reply.registration l (done.1.map .registered)) (lost (done.1.map Reply.registered))
      done.2 := by
  simp only [readAndRegister,engine,lost_map]
  cases r.engine? l with
  | none => exact .refl r
  | some e =>
    simp only [run_bind]
    rcases (source.read path).run w with ⟨e | text,w'⟩
    · exact books_failedFetch r e
    · cases done : r.registerText l key text with
      | error e =>
        simp only [done]
        exact books_refused done
      | ok done' =>
        simp only [done]
        exact books_registerText done

theorem books_setup (r : Registry) (source : Source (StateM σ)) (location : Location)
    (manifest : String) (options : SetupOptions) (w : σ) :
    let m : Moment σ := ⟨r,w,.setup source location manifest options⟩
    let done := ((r.setup source location manifest options).run w).1
    Books r m.registrations (lost (done.1.map Reply.setUp)) done.2 := by
  simp only [Moment.registrations,Setup.setup_eq_gather,lost_map]
  rcases ((Setup.gather r source location manifest options).run w).1 with e | ⟨pairs,skipped⟩
  · exact books_failedFetch r e
  · have registers := books_registerAll r ⟨0,0,0,skipped⟩ pairs
    simpa only [Setup.settle,lost_registerAll] using registers

theorem Moment.books (m : Moment σ) : Books m.registry m.registrations m.others m.after := by
  obtain ⟨r,w,op⟩ := m
  cases op with
  | setup source location manifest options =>
    exact books_setup r source location manifest options w
  | applyOptions options =>
    have none : others ⟨r,w,.applyOptions options⟩ = [] :=
      (lost_map _ _).trans (lost_applyOptions r options)
    rw [none]
    exact books_extensions (extends_applyOptions r options).extensions
  | registerEntry source location manifest e =>
    exact books_readAndRegister r source e.target.language _ _ w
  | readAndRegister source l path key => exact books_readAndRegister r source l path key w
  | registerText l key text =>
    simp only [registrations,others,answer,after,Operation.perform]
    cases done : r.registerText l key text with
    | error e => exact books_refused done
    | ok done' => exact books_registerText done
  | render t data =>
    have counted : others ⟨r,w,.render t data⟩ =
        rendering (.ofTarget t) (Outcome.of (r.render t data).1) := by
      have none : lost (answer ⟨r,w,.render t data⟩) = [] :=
        (lost_map _ _).trans (lost_render r t data)
      rw [others,none,← outcome_map _ Reply.rendered]
      rfl
    rw [counted]
    exact books_counted rfl rfl

def history (r : Registry) (w : σ) : List (Operation σ) → List (Moment σ)
  | [] => []
  | op :: rest => ⟨r,w,op⟩ :: history ((op.run r).run w).1 ((op.run r).run w).2 rest

theorem history_operations (r : Registry) (w : σ) (ops : List (Operation σ)) :
    (r.history w ops).map (·.operation) = ops := by
  induction ops generalizing r w with
  | nil => rfl
  | cons op rest ih => rw [history,List.map_cons,ih]

theorem books_history (r : Registry) (w : σ) (ops : List (Operation σ)) :
    Books r ((r.history w ops).flatMap Moment.registrations)
      ((r.history w ops).flatMap Moment.others) ((r.runAll ops).run w).1 := by
  induction ops generalizing r w with
  | nil => exact .refl r
  | cons op rest ih =>
    have first := Moment.books ⟨r,w,op⟩
    have same : ((op.run r).run w).1 = Moment.after ⟨r,w,op⟩ := by
      rw [op.run_eq_perform]
      rfl
    rw [runAll,run_bind]
    exact (same ▸ first).trans (ih _ _)

theorem tallied_registered (l : Language) (x : Registration) :
    tallied [.registered l] x.counters = (decide (x.language = l)).toNat := by
  obtain ⟨k,again⟩ := x
  cases again <;> by_cases same : k = l <;>
    simp [tallied,Registration.counters,List.count_cons,same]

theorem tallied_overwritten (l : Language) (x : Registration) :
    tallied [.overwritten l] x.counters = (decide (x = ⟨l,true⟩)).toNat := by
  obtain ⟨k,again⟩ := x
  cases again <;> by_cases same : k = l <;>
    simp [tallied,Registration.counters,List.count_cons,same]

theorem tallied_all_registered (x : Registration) :
    tallied (Language.all.map .registered) x.counters = 1 := by
  obtain ⟨k,again⟩ := x
  cases k <;> cases again <;> rfl

theorem tallied_all_overwritten (x : Registration) :
    tallied (Language.all.map .overwritten) x.counters = x.again.toNat := by
  obtain ⟨k,again⟩ := x
  cases k <;> cases again <;> rfl

theorem tallied_fetchFailures (m : Moment σ) :
    tallied (FetchErrorKind.all.map .fetchFailures) m.others =
      (decide (failure? m.answer = some .fetchFailed)).toNat := by
  have none : tallied (FetchErrorKind.all.map .fetchFailures) m.renderings = 0 := by
    unfold Moment.renderings
    split <;> rfl
  rw [Moment.others,tallied_append,none,Nat.zero_add]
  rcases m.answer with e | _
  · cases e with
    | fetchFailed path cause => cases cause <;> rfl
    | _ => rfl
  · rfl

theorem tallied_renders (p : Pipeline) (m : Moment σ) :
    tallied (Outcome.all.map (.renders p)) m.others =
      (decide (m.operation.pipeline? = some p)).toNat := by
  rw [Moment.others,tallied_append,tallied_lost_eq_zero (by simp [Outcome.all]),Moment.renderings]
  cases m.operation.pipeline? with
  | none => rfl
  | some q =>
    generalize Outcome.of m.answer = o
    cases p <;> cases q <;> cases o <;> rfl

theorem tallied_latency (p : Pipeline) (m : Moment σ) :
    tallied [.latency p] m.others = (decide (m.operation.pipeline? = some p)).toNat := by
  rw [Moment.others,tallied_append,tallied_lost_eq_zero (by simp),Moment.renderings]
  cases m.operation.pipeline? with
  | none => rfl
  | some q => cases p <;> cases q <;> rfl

theorem registers_of_mem_counters {x : Registration} {c : Counter} (member : c ∈ x.counters) :
    c.registers := by
  obtain ⟨l,again⟩ := x
  rcases List.mem_cons.mp member with rfl | replaced
  · rfl
  · cases again with
    | false => cases replaced
    | true =>
      rw [List.mem_singleton.mp replaced]
      rfl

theorem not_registers_of_mem_others {m : Moment σ} {c : Counter} (member : c ∈ m.others) :
    c.registers = false := by
  rcases List.mem_append.mp member with rendered | failed
  · unfold Moment.renderings at rendered
    split at rendered
    · rcases List.mem_pair.mp rendered with rfl | rfl <;> rfl
    · cases rendered
  · obtain ⟨k,rfl⟩ := mem_lost failed
    rfl

/-- Counters of registrations grow by what has been registered. -/
theorem gained_of_registers {counters : List Counter} (mine : ∀ c ∈ counters, c.registers)
    (r : Registry) (ops : List (Operation σ)) (w : σ) :
    gained r ((r.runAll ops).run w).1 counters = tallied counters
      (((r.history w ops).flatMap Moment.registrations).flatMap Registration.counters) := by
  have none : tallied counters ((r.history w ops).flatMap Moment.others) = 0 := by
    refine tallied_eq_zero fun c member other => ?_
    obtain ⟨m,-,other⟩ := List.mem_flatMap.mp other
    have registers := mine c member
    rw [not_registers_of_mem_others other] at registers
    cases registers
  rw [gained,(books_history r w ops).tally,none]
  omega

theorem gained_of_others {counters : List Counter} (mine : ∀ c ∈ counters, c.registers = false)
    (r : Registry) (ops : List (Operation σ)) (w : σ) :
    gained r ((r.runAll ops).run w).1 counters =
      tallied counters ((r.history w ops).flatMap Moment.others) := by
  have none : tallied counters
      (((r.history w ops).flatMap Moment.registrations).flatMap Registration.counters) = 0 := by
    refine tallied_eq_zero fun c member other => ?_
    obtain ⟨x,-,other⟩ := List.mem_flatMap.mp other
    have registers := registers_of_mem_counters other
    rw [mine c member] at registers
    cases registers
  rw [gained,(books_history r w ops).tally,none]
  omega

/-- A setup that succeeds reports what it has registered. -/
theorem Moment.report {m : Moment σ} {report : Report} (done : m.answer = .ok (.setUp report)) :
    report.cards + report.events = m.registrations.length ∧
      report.overwritten = m.registrations.countP (·.again) := by
  obtain ⟨r,w,op⟩ := m
  cases op with
  | setup source location manifest options =>
    obtain ⟨report',settled,same⟩ := map_eq_ok_iff.mp done
    cases same
    have settled : ((r.setup source location manifest options).run w).1.1 = .ok report := settled
    rw [Setup.setup_eq_gather] at settled
    obtain ⟨pairs,skipped,gathered,reported⟩ := Setup.report_of_settle (Prod.ext settled rfl)
    simpa only [registrations,gathered] using reported
  | registerText l key text =>
    simp only [answer,Operation.perform] at done
    cases registered : r.registerText l key text <;> simp only [registered] at done <;> cases done
  | applyOptions | registerEntry | readAndRegister | render =>
    obtain ⟨_,_,same⟩ := map_eq_ok_iff.mp done
    cases same

/-- After any operations on a fresh registry, whatever they came to and whatever had been counted
before: an engine's registrations are counted, and those among them that replaced one; those that did
not are as many as the noted keys. For each pipeline the outcomes together, the observed latencies and
the renderings are as many. Failures to fetch are counted once for each operation that failed so. What
a setup reports is what it has registered. -/
theorem counters_conserved (fresh : r.Fresh) (ops : List (Operation σ)) (w : σ) :
    let moments := r.history w ops
    let regs := moments.flatMap Moment.registrations
    let after := ((r.runAll ops).run w).1
    (∀ l, gained r after [.registered l] = regs.countP (·.language = l)) ∧
    (∀ l, gained r after [.overwritten l] = regs.count ⟨l,true⟩) ∧
    gained r after (Language.all.map .registered) - gained r after (Language.all.map .overwritten) =
      after.keys.length ∧
    (∀ p, gained r after (Outcome.all.map (.renders p)) = gained r after [.latency p] ∧
      gained r after [.latency p] = ops.countP fun op => op.pipeline? = some p) ∧
    (gained r after (FetchErrorKind.all.map .fetchFailures) =
      moments.countP fun m => failure? m.answer = some .fetchFailed) ∧
    ∀ m ∈ moments, ∀ report, m.answer = .ok (.setUp report) →
      report.cards + report.events = m.registrations.length ∧
        report.overwritten = m.registrations.countP (·.again) := by
  intro moments regs after
  have registering (counters : List Counter) (mine : ∀ c ∈ counters, c.registers) :=
    gained_of_registers mine r ops w
  have other (counters : List Counter) (mine : ∀ c ∈ counters, c.registers = false) :=
    gained_of_others mine r ops w
  have rendered (p : Pipeline) : moments.countP (fun m => m.operation.pipeline? = some p) =
      ops.countP fun op => op.pipeline? = some p := by
    conv_rhs => rw [← r.history_operations w ops]
    rw [List.countP_map]
    rfl
  refine ⟨fun l => ?_,fun l => ?_,?_,fun p => ⟨?_,?_⟩,?_,fun m _ report => Moment.report⟩
  · rw [registering _ (by simp [Counter.registers]),tallied_flatMap (tallied_registered l)]
  · rw [registering _ (by simp [Counter.registers]),tallied_flatMap (tallied_overwritten l)]
    rfl
  -- No key was noted to begin with, and a registration notes a new one unless it replaces one.
  · have grown : after.keys.length + regs.countP (·.again) = r.keys.length + regs.length :=
      ((books_history r w ops).keys (by simp [fresh.keys])).2
    have all (x : Registration) : tallied (Language.all.map .registered) x.counters = true.toNat :=
      tallied_all_registered x
    rw [registering _ (by decide),registering _ (by decide),tallied_flatMap all,
      tallied_flatMap (p := (·.again)) tallied_all_overwritten,List.countP_true]
    rw [fresh.keys,List.length_nil] at grown
    simp only [regs,moments] at grown
    omega
  · rw [other _ (by simp [Outcome.all,Counter.registers]),other _ (by simp [Counter.registers]),
      tallied_flatMap (tallied_renders p),tallied_flatMap (tallied_latency p)]
  · rw [other _ (by simp [Counter.registers]),tallied_flatMap (tallied_latency p)]
    exact congrArg _ (rendered p)
  · rw [other _ (by decide),tallied_flatMap tallied_fetchFailures]

theorem counters_after_failures :
    let r := standard true [.liquid]
    let after := ((r.runAll session).run []).1
    r.Fresh ∧ gained r after [.registered .liquid] = 3 ∧ gained r after [.overwritten .liquid] = 1 ∧
      gained r after (Language.all.map .registered) -
        gained r after (Language.all.map .overwritten) = after.keys.length ∧
      gained r after [.latency .event] = 1 ∧
      gained r after (FetchErrorKind.all.map .fetchFailures) = 1 := by
  have fresh := fresh_standard true [.liquid]
  obtain ⟨registered,overwritten,kept,rendered,failed,-⟩ := counters_conserved fresh session []
  have ⟨three,one,lost⟩ : (let moments := (standard true [.liquid]).history [] session
      let regs := moments.flatMap Moment.registrations
      regs.countP (·.language = .liquid) = 3 ∧ regs.count ⟨.liquid,true⟩ = 1 ∧
        moments.countP (fun m => failure? m.answer = some .fetchFailed) = 1) := by
    decide +kernel
  refine ⟨fresh,?_,?_,kept,(rendered .event).2,?_⟩
  · rw [registered,three]
    rfl
  · rw [overwritten,one]
    rfl
  · rw [failed,lost]
    rfl

end Registry
end Placard

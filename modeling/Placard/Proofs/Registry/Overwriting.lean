import Placard.Proofs.Registry.Counting

/-! What a registration says of those before it. Each engine holds what was registered through it, but
of all engines together only the language is noted for which a key was registered last. So a key that
goes through one engine is spoken of truly, and a key that another engine holds is taken for replaced. -/
namespace Placard.Registry

variable {σ : Type} {r r' : Registry} {l : Language} {key : String}

def Operation.key? : Operation σ → Option (Language × String)
  | .registerEntry _ _ _ e => some (e.target.language,e.target.key)
  | .readAndRegister _ l _ key => some (l,key)
  | .registerText l key _ => some (l,key)
  | _ => none

def Moment.registered? (m : Moment σ) : Option (Language × String) :=
  match m.answer with
  | .ok _ => m.operation.key?
  | .error _ => none

/-- The language that a key was registered for last. -/
def latest? (key : String) (done : List (Language × String)) : Option Language :=
  (done.filter (·.2 = key)).getLast?.map (·.1)

theorem latest?_append (key : String) (done : List (Language × String)) (x : Language × String) :
    latest? key (done ++ [x]) = if key = x.2 then some x.1 else latest? key done := by
  by_cases same : key = x.2 <;> simp [latest?,same,Ne.symm]

theorem isSome_latest?_iff {done : List (Language × String)} :
    (latest? key done).isSome ↔ ∃ l, (l,key) ∈ done := by
  simp [latest?]

theorem mem_of_latest? {done : List (Language × String)} (last : latest? key done = some l) :
    (l,key) ∈ done := by
  obtain ⟨⟨k,id⟩,found,rfl⟩ := Option.map_eq_some_iff.mp last
  obtain ⟨member,same⟩ := List.mem_filter.mp (List.mem_of_getLast? found)
  exact of_decide_eq_true same ▸ member

/-- What comes of a single registration. Either it fails and stores nothing, or it stores a template
and answers whether the key was noted before. -/
inductive Settled (r : Registry) (l : Language) (key : String) :
    Except TemplateError Reply → Registry → Prop
  | refused {e : TemplateError} {r' : Registry} : r'.keys = r.keys →
    (∀ k, r'.templateIds k = r.templateIds k) → Settled r l key (.error e) r'
  | stored {c : Compiled} {again : Bool} {r' : Registry} : Stored r l key c again r' →
    Settled r l key (.ok (.registered again)) r'

theorem settled_failedFetch (r : Registry) (l : Language) (key : String) (e : TemplateError) :
    Settled r l key (.error e) (Setup.failedFetch r e) := by
  cases e with
  | fetchFailed path cause => exact .refused rfl (templateIds_count r _)
  | _ => exact .refused rfl fun _ => rfl

theorem settled_readAndRegister (r : Registry) (source : Source (StateM σ)) (l : Language)
    (path key : String) (w : σ) :
    let done := ((r.readAndRegister source l path key).run w).1
    Settled r l key (done.1.map .registered) done.2 := by
  simp only [readAndRegister,engine]
  cases r.engine? l with
  | none => exact .refused rfl fun _ => rfl
  | some e =>
    simp only [run_bind]
    rcases (source.read path).run w with ⟨e | text,w'⟩
    · exact settled_failedFetch r l key e
    · cases done : r.registerText l key text with
      | error e =>
        simp only [done]
        exact .refused rfl fun _ => rfl
      | ok done' =>
        obtain ⟨c,-,stored⟩ := registerText_ok done
        simp only [done]
        exact .stored stored

theorem Moment.settled {m : Moment σ} (single : m.operation.key? = some (l,key)) :
    Settled m.registry l key m.answer m.after := by
  obtain ⟨r,w,op⟩ := m
  cases op with
  | registerEntry source location manifest e =>
    cases single
    exact settled_readAndRegister r source e.target.language _ _ w
  | readAndRegister source l path key =>
    cases single
    exact settled_readAndRegister r source l path key w
  | registerText l key text =>
    cases single
    simp only [answer,after,Operation.perform]
    cases done : r.registerText l key text with
    | error e => exact .refused rfl fun _ => rfl
    | ok done' =>
      obtain ⟨c,-,stored⟩ := registerText_ok done
      exact .stored stored
  | setup | applyOptions | render => cases single

/-- What a registry knows of the registrations that have succeeded, in order. -/
structure Knows (r : Registry) (done : List (Language × String)) : Prop where
  held : ∀ l key, key ∈ r.templateIds l ↔ (l,key) ∈ done
  noted : ∀ key, r.keys.lookup key = latest? key done

theorem Knows.of_fresh (fresh : r.Fresh) : Knows r [] := by
  constructor <;> simp [fresh.keys,fresh.templates,latest?]

theorem Knows.stored {done : List (Language × String)} {c : Compiled} {again : Bool}
    (knows : Knows r done) (stored : Stored r l key c again r') : Knows r' (done ++ [(l,key)]) := by
  constructor
  case held =>
    intro k id
    rw [mem_templateIds_iff_compiled,stored.compiled,List.mem_append,List.mem_singleton,
      Prod.mk.injEq,← knows.held,mem_templateIds_iff_compiled]
    by_cases here : k = l ∧ id = key <;> simp [here]
  case noted =>
    intro id
    rw [stored.keys,lookup_bind,latest?_append,knows.noted]

/-- A single registration adds what it has registered, and nothing if it fails. -/
theorem Moment.knows {done : List (Language × String)} (m : Moment σ) (knows : Knows m.registry done)
    (single : m.operation.key? = some (l,key)) : Knows m.after (done ++ m.registered?.toList) := by
  have step := m.settled single
  unfold registered?
  generalize m.answer = answer at step
  generalize m.after = after at step
  cases step with
  | refused keys ids =>
    constructor <;> simp only [keys,ids,Option.toList_none,List.append_nil]
    exacts [knows.held,knows.noted]
  | stored stored =>
    simp only [single,Option.toList_some]
    exact knows.stored stored

theorem Knows.runAll {done : List (Language × String)} (knows : Knows r done)
    {ops : List (Operation σ)} (single : ∀ op ∈ ops, op.key?.isSome) (w : σ) :
    Knows ((r.runAll ops).run w).1 (done ++ (r.history w ops).filterMap Moment.registered?) := by
  induction ops generalizing r w done with
  | nil =>
    rw [history,List.filterMap_nil,List.append_nil]
    exact knows
  | cons op rest ih =>
    obtain ⟨first,later⟩ := List.forall_mem_cons.mp single
    obtain ⟨⟨l,key⟩,first⟩ := Option.isSome_iff_exists.mp first
    have next := Moment.knows ⟨r,w,op⟩ knows first
    have same : ((op.run r).run w).1 = Moment.after ⟨r,w,op⟩ := by
      rw [op.run_eq_perform]
      rfl
    have done : (r.history w (op :: rest)).filterMap Moment.registered? =
        (Moment.registered? ⟨r,w,op⟩).toList ++
          (((op.run r).run w).1.history ((op.run r).run w).2 rest).filterMap Moment.registered? := by
      rw [history,List.filterMap_cons]
      cases Moment.registered? ⟨r,w,op⟩ <;> rfl
    rw [Registry.runAll,run_bind,done,← List.append_assoc]
    exact ih (same ▸ next) later _

/-- The answer of a registration that succeeds says whether its key was noted. -/
theorem Moment.replaced {m : Moment σ} {done : List (Language × String)} (knows : Knows m.registry done)
    (single : m.operation.key? = some (l,key)) {reply : Reply} (answer : m.answer = .ok reply) :
    ∃ again, reply = .registered again ∧ (again ↔ ∃ k, (k,key) ∈ done) := by
  have step := m.settled single
  rw [answer] at step
  cases step with
  | stored stored =>
    refine ⟨_,rfl,?_⟩
    rw [stored.noted,knows.noted,isSome_latest?_iff]

theorem Moment.exists_reply {m : Moment σ} (succeeds : m.registered?.isSome) :
    ∃ reply, m.answer = .ok reply := by
  unfold registered? at succeeds
  split at succeeds
  next reply answer => exact ⟨reply,answer⟩
  next => cases succeeds

/-- After any single registrations on a fresh registry, whatever they came to: an engine holds what was
registered through it, and a key counts as registered for the language that it was registered for last.
The next registration, if it succeeds, answers whether any engine holds a template under its key. For
a key that went through one engine only this is what that engine holds, and the key counts as
registered for all that it was registered for. -/
theorem replaced_iff_held (fresh : r.Fresh) {ops : List (Operation σ)}
    (single : ∀ op ∈ ops, op.key?.isSome) (w : σ) :
    let done := (r.history w ops).filterMap Moment.registered?
    let after := ((r.runAll ops).run w).1
    (∀ l key, key ∈ after.templateIds l ↔ (l,key) ∈ done) ∧
    (∀ l key, after.isRegistered l key ↔ latest? key done = some l) ∧
    (∀ (op : Operation σ) w' l key reply, op.key? = some (l,key) →
      Moment.answer ⟨after,w',op⟩ = .ok reply →
      ∃ again, reply = .registered again ∧ (again ↔ ∃ k, key ∈ after.templateIds k) ∧
        ((∀ k, (k,key) ∈ done → k = l) → (again ↔ key ∈ after.templateIds l))) ∧
    ∀ l key, (∀ k, (k,key) ∈ done → k = l) → ∀ k, after.isRegistered k key ↔ (k,key) ∈ done := by
  intro done after
  have knows : Knows after done := (Knows.of_fresh fresh).runAll single w
  refine ⟨knows.held,fun l key => ?_,fun op w' l key reply is answer => ?_,fun l key one k => ?_⟩
  · rw [isRegistered_iff,knows.noted]
  · obtain ⟨again,rfl,replaced⟩ := Moment.replaced knows is answer
    simp only [knows.held]
    refine ⟨again,rfl,replaced,fun one => replaced.trans ⟨?_,fun here => ⟨l,here⟩⟩⟩
    rintro ⟨k,here⟩
    exact one k here ▸ here
  · rw [isRegistered_iff,knows.noted]
    refine ⟨mem_of_latest?,fun here => ?_⟩
    obtain ⟨k',last⟩ := Option.isSome_iff_exists.mp (isSome_latest?_iff.mpr ⟨k,here⟩)
    rw [last,one k here,one k' (mem_of_latest? last)]

def separate : List (Operation Unit) :=
  [.registerText .handlebars "a" "x",.registerText .liquid "b" "y",
    .registerText .liquid "c" "\x7b% if %\x7d"]

theorem replaced_iff_held_of_own_engine :
    let r := standard true Language.all
    let next : Operation Unit := .registerText .liquid "b" "z"
    let done := (r.history () separate).filterMap Moment.registered?
    let after := ((r.runAll separate).run ()).1
    r.Fresh ∧ (∀ op ∈ separate, op.key?.isSome) ∧ done = [(.handlebars,"a"),(.liquid,"b")] ∧
      (∀ l key, key ∈ after.templateIds l ↔ (l,key) ∈ done) ∧
      (∀ l, after.isRegistered l "b" ↔ (l,"b") ∈ done) ∧
      ∃ again, Moment.answer ⟨after,(),next⟩ = .ok (.registered again) ∧
        (again ↔ "b" ∈ after.templateIds .liquid) := by
  intro r next done after
  have fresh : r.Fresh := fresh_standard true Language.all
  have single : ∀ op ∈ separate, op.key?.isSome := by decide
  have registered : done = [(.handlebars,"a"),(.liquid,"b")] := by decide +kernel
  have one : ∀ k, (k,"b") ∈ done → k = .liquid := by simp [registered]
  obtain ⟨held,-,answers,told⟩ := replaced_iff_held fresh single ()
  have succeeds : (Moment.registered? ⟨after,(),next⟩).isSome := by decide +kernel
  obtain ⟨reply,answer⟩ := Moment.exists_reply succeeds
  obtain ⟨again,rfl,-,own⟩ := answers next () .liquid "b" reply rfl answer
  exact ⟨fresh,single,registered,held,told .liquid "b" one,again,answer,own one⟩

/-- A key that one engine holds counts as replaced when it is registered for the other one, and no
longer as registered for the first. -/
theorem other_engine_replaced :
    let r := standard true Language.all
    let first : Operation Unit := .registerText .handlebars "k" "x"
    let second : Operation Unit := .registerText .liquid "k" "x"
    let between := ((r.runAll [first]).run ()).1
    let after := ((r.runAll [first,second]).run ()).1
    Moment.registered? ⟨r,(),first⟩ = some (.handlebars,"k") ∧ "k" ∉ between.templateIds .liquid ∧
      ((between.registerText .liquid "k" "x").map (·.1)).toOption = some true ∧
      after.isRegistered .handlebars "k" = false ∧ "k" ∈ after.templateIds .handlebars := by
  decide +kernel

end Placard.Registry

import Placard.Setup
import Placard.Proofs.Registry

/-! Registering a row of entries. A row goes through as far as its texts compile, and compiling does
not depend on what the row has registered so far; of several entries for one key the last one
stays. -/
namespace Placard.Setup

/-- The text of an entry compiles with the extensions that the registry has. -/
def Compiles (r : Registry) (p : Entry × String) : Prop :=
  (r.compile? p.1.target.language (withoutFinalNewline p.2)).isSome

/-- An entry is registered under an id of a language's engine. -/
def WritesTo (l : Language) (id : String) (e : Entry) : Prop :=
  e.target.language = l ∧ e.target.key = id

theorem compiles_of_bare {r r' : Registry} (same : ∀ l, r'.bare? l = r.bare? l) :
    Compiles r' p ↔ Compiles r p := by
  simp only [Compiles,Registry.compile?_of_bare (same _)]

theorem registerAll_cons_ok_iff {r r' : Registry} {report report' : Report} {p : Entry × String}
    {rest : List (Entry × String)} :
    registerAll r report (p :: rest) = (.ok report',r') ↔ ∃ again r₁,
      r.registerText p.1.target.language p.1.target.key p.2 = .ok (again,r₁) ∧
        registerAll r₁ (Report.counting report p.1 again) rest = (.ok report',r') := by
  constructor
  · intro done
    cases step : r.registerText p.1.target.language p.1.target.key p.2 with
    | error err => simp [registerAll,step] at done
    | ok first => exact ⟨first.1,first.2,rfl,by simpa only [registerAll,step] using done⟩
  · rintro ⟨again,r₁,step,done⟩
    simpa only [registerAll,step] using done

theorem registerAll_bare (r : Registry) (report : Report) (pairs : List (Entry × String))
    (l : Language) : (registerAll r report pairs).2.bare? l = r.bare? l := by
  induction pairs generalizing r report with
  | nil => rfl
  | cons p rest ih =>
    cases step : r.registerText p.1.target.language p.1.target.key p.2 with
    | error err => simp [registerAll,step]
    | ok done =>
      obtain ⟨again,r₁⟩ := done
      obtain ⟨c,-,stored⟩ := Registry.registerText_ok step
      simp only [registerAll,step,ih,stored.bare]

/-- A row goes through if and only if every text compiles. -/
theorem registerAll_ok_iff (r : Registry) (report : Report) (pairs : List (Entry × String)) :
    (∃ report', (registerAll r report pairs).1 = .ok report') ↔ ∀ p ∈ pairs, Compiles r p := by
  induction pairs generalizing r report with
  | nil => simp [registerAll]
  | cons p rest ih =>
    cases step : r.registerText p.1.target.language p.1.target.key p.2 with
    | error err =>
      have fails : ¬ Compiles r p := by
        rcases Registry.registerText_error_iff.mp step with ⟨missing,-⟩ | ⟨-,fails,-⟩
        · simp [Compiles,Registry.compile?,missing]
        · simp [Compiles,fails]
      simp [registerAll,step,fails]
    | ok done =>
      obtain ⟨again,r₁⟩ := done
      obtain ⟨c,compiles,stored⟩ := Registry.registerText_ok step
      have first : Compiles r p := by simp [Compiles,compiles]
      simp [registerAll,step,ih,first,compiles_of_bare stored.bare]

/-- A row goes on from where its front ends; where the front fails nothing follows. -/
theorem registerAll_append (r : Registry) (report : Report) (front back : List (Entry × String)) :
    registerAll r report (front ++ back) =
      match registerAll r report front with
      | (.error err,r') => (.error err,r')
      | (.ok report',r') => registerAll r' report' back := by
  induction front generalizing r report with
  | nil => rfl
  | cons p rest ih =>
    cases step : r.registerText p.1.target.language p.1.target.key p.2 <;>
      simp [registerAll,step,ih]

/-- A row leaves alone what none of its entries is registered under. -/
theorem registerAll_frame (r : Registry) (report : Report) {pairs : List (Entry × String)}
    {l : Language} {id : String} (apart : ∀ p ∈ pairs, ¬ WritesTo l id p.1) :
    (registerAll r report pairs).2.compiled? l id = r.compiled? l id := by
  induction pairs generalizing r report with
  | nil => rfl
  | cons p rest ih =>
    cases step : r.registerText p.1.target.language p.1.target.key p.2 with
    | error err => simp [registerAll,step]
    | ok done =>
      obtain ⟨again,r₁⟩ := done
      obtain ⟨c,-,stored⟩ := Registry.registerText_ok step
      have first : ¬ (l = p.1.target.language ∧ id = p.1.target.key) := by
        rintro ⟨rfl,rfl⟩
        exact apart p (by simp) ⟨rfl,rfl⟩
      have later := ih r₁ (Report.counting report p.1 again)
        fun q member => apart q (List.mem_cons_of_mem _ member)
      simp only [registerAll,step,later,stored.compiled,if_neg first]

/-- The last entry of a row for an id is the one whose text is found there afterwards. -/
theorem registerAll_last {r r' : Registry} {report report' : Report}
    {front back : List (Entry × String)} {p : Entry × String}
    (done : registerAll r report (front ++ p :: back) = (.ok report',r'))
    (last : ∀ q ∈ back, ¬ WritesTo p.1.target.language p.1.target.key q.1) :
    r'.compiled? p.1.target.language p.1.target.key =
      r.compile? p.1.target.language (withoutFinalNewline p.2) := by
  rw [registerAll_append] at done
  have bare := registerAll_bare r report front
  rcases before : registerAll r report front with ⟨_ | report₁,r₁⟩
  · simp [before] at done
  · simp only [before] at done bare
    obtain ⟨again,r₂,step,done⟩ := registerAll_cons_ok_iff.mp done
    obtain ⟨c,compiles,stored⟩ := Registry.registerText_ok step
    have after := registerAll_frame r₂ (Report.counting report₁ p.1 again) last
    rw [done] at after
    rw [after,stored.compiled,← Registry.compile?_of_bare (bare _),compiles]
    simp

/-- A text that does not compile stops a row where it stands. -/
theorem registerText_fails_iff {r : Registry} {p : Entry × String} {err : TemplateError}
    (engine : (r.engine? p.1.target.language).isSome) :
    r.registerText p.1.target.language p.1.target.key p.2 = .error err ↔
      ¬ Compiles r p ∧ err = .compileFailed p.1.target.key := by
  rw [Registry.registerText_error_iff]
  cases found : r.engine? p.1.target.language with
  | none => simp [found] at engine
  | some e => simp [Compiles]

/-- A row that fails has registered just the entries before the first text that does not compile. -/
theorem registerAll_error_iff {r r' : Registry} {report : Report} {pairs : List (Entry × String)}
    {err : TemplateError} (engines : ∀ p ∈ pairs, (r.engine? p.1.target.language).isSome) :
    registerAll r report pairs = (.error err,r') ↔
      ∃ front p back report', pairs = front ++ p :: back ∧
        registerAll r report front = (.ok report',r') ∧
        ¬ Compiles r p ∧ err = .compileFailed p.1.target.key := by
  constructor
  · intro fails
    induction pairs generalizing r report with
    | nil => simp [registerAll] at fails
    | cons p rest ih =>
      cases step : r.registerText p.1.target.language p.1.target.key p.2 with
      | error err' =>
        simp only [registerAll,step,Prod.mk.injEq,Except.error.injEq] at fails
        obtain ⟨rfl,rfl⟩ := fails
        exact ⟨[],p,rest,report,rfl,rfl,(registerText_fails_iff (engines p (by simp))).mp step⟩
      | ok done =>
        obtain ⟨again,r₁⟩ := done
        obtain ⟨c,-,stored⟩ := Registry.registerText_ok step
        simp only [registerAll,step] at fails
        -- A registration leaves the engines there, with the extensions that the rest compiles with.
        have later : ∀ q ∈ rest, (r₁.engine? q.1.target.language).isSome := by
          intro q member
          rw [Registry.isSome_engine?_of_bare (stored.bare _)]
          exact engines q (List.mem_cons_of_mem _ member)
        obtain ⟨front,q,back,report',rfl,before,stuck,rfl⟩ := ih later fails
        rw [compiles_of_bare stored.bare] at stuck
        exact ⟨p :: front,q,back,report',rfl,by simp [registerAll,step,before],stuck,rfl⟩
  · rintro ⟨front,p,back,report',rfl,before,stuck,rfl⟩
    have bare := registerAll_bare r report front
    simp only [before] at bare
    have engine : (r'.engine? p.1.target.language).isSome := by
      rw [Registry.isSome_engine?_of_bare (bare _)]
      exact engines p (by simp)
    have step := (registerText_fails_iff engine).mpr
      ⟨fun compiles => stuck ((compiles_of_bare bare).mp compiles),rfl⟩
    simp [registerAll_append,before,registerAll,step]

end Placard.Setup

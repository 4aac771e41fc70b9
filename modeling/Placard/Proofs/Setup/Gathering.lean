import Placard.Proofs.Registry.Operation
import Placard.Proofs.Setup.Failure
import Placard.Proofs.Setup.OneByOne

/-! Setup in two halves. All that is going to be registered is gathered first, and only this half can
fail to fetch something; then it is registered, text after text, and the report counts how often that
succeeded. -/
namespace Placard

def Source.answers (source : Source (StateM σ)) (w : σ) (path : String) : Fetched :=
  ((source.fetch path).run w).1

structure Registration where
  language : Language
  again : Bool
  deriving DecidableEq

namespace Setup

def gather [Monad m] (r : Registry) (source : Source m) (location : Location) (manifest : String)
    (options : SetupOptions) : m (Except TemplateError (List (Entry × String) × Nat)) := do
  match ← source.read manifest with
  | .error e => return .error e
  | .ok text =>
    match plan r options text with
    | .error e => return .error e
    | .ok (kept,skipped) =>
      match ← readAll source (kept.map (Entry.path location manifest)) with
      | .error e => return .error e
      | .ok texts => return .ok (kept.zip texts,skipped)

def settle (r : Registry) : Except TemplateError (List (Entry × String) × Nat) →
    Except TemplateError Report × Registry
  | .error e => (.error e,failedFetch r e)
  | .ok (pairs,skipped) => registerAll r ⟨0,0,0,skipped⟩ pairs

/-- The registrations of a row, up to the first that fails. -/
def registrations (r : Registry) : List (Entry × String) → List Registration
  | [] => []
  | (e,text) :: rest =>
    match r.registerText e.target.language e.target.key text with
    | .error _ => []
    | .ok (again,r') => ⟨e.target.language,again⟩ :: registrations r' rest

variable {σ : Type} {r r' : Registry} {source : Source (StateM σ)} {location : Location}
  {manifest : String} {options : SetupOptions}

/-- What can be checked beforehand never fails for want of a text. -/
theorem failedFetch_of_plan {options : SetupOptions} {text : String} {e : TemplateError}
    (fails : plan r options text = .error e) : failedFetch r e = r := by
  rw [plan_eq] at fails
  cases parsed : Manifest.parse text with
  | error err =>
    obtain ⟨message,rfl⟩ := invalidManifest_of_parse parsed
    simp only [parsed,Except.error.injEq] at fails
    rw [← fails]
    rfl
  | ok entries =>
    cases checked : check r options.duplicates (entries.filter options.keeps) with
    | ok _ => simp [parsed,checked,Except.map] at fails
    | error err =>
      simp only [parsed,checked,Except.map,Except.error.injEq] at fails
      subst fails
      rcases (check_eq_error_iff r _ _ err).mp checked with
        ⟨_,_,_,_,_,_,rfl⟩ | ⟨_,_,_,_,_,_,_,_,rfl⟩ <;> rfl

theorem setup_eq_gather (r : Registry) (source : Source (StateM σ)) (location : Location)
    (manifest : String) (options : SetupOptions) (w : σ) :
    (r.setup source location manifest options).run w =
      (settle r ((gather r source location manifest options).run w).1,
        ((gather r source location manifest options).run w).2) := by
  simp only [Registry.setup,gather,Registry.run_bind]
  rcases (source.read manifest).run w with ⟨_ | text,w₁⟩
  · rfl
  · cases planned : plan r options text with
    | error e =>
      simp only [planned]
      exact Prod.ext (Prod.ext rfl (failedFetch_of_plan planned).symm) rfl
    | ok plan =>
      simp only [planned,Registry.run_bind]
      rcases (readAll source (plan.1.map (Entry.path location manifest))).run w₁ with ⟨_ | _,w₂⟩ <;>
        rfl

theorem read_answers (source : Source (StateM σ)) (path : String) (w : σ) :
    ((source.read path).run w).1 = (source.answers w path).mapError (.fetchFailed path) := rfl

theorem length_readAll {paths texts : List String} {w : σ}
    (read : ((readAll source paths).run w).1 = .ok texts) : texts.length = paths.length := by
  induction paths generalizing texts w with
  | nil =>
    cases read
    rfl
  | cons path rest ih =>
    rw [readAll_cons,Registry.run_bind] at read
    cases answer : ((source.read path).run w).1 with
    | error e => simp [answer] at read
    | ok text =>
      simp only [answer,Registry.run_bind] at read
      obtain ⟨more,later,rfl⟩ := map_eq_ok_iff.mp read
      rw [List.length_cons,List.length_cons,ih later]

theorem kept_of_plan {text : String} {kept : List Entry} {skipped : Nat} {f : String → Fetched}
    (found : f manifest = .ok text) (planned : plan r options text = .ok (kept,skipped)) :
    Kept f manifest options kept skipped ∧ Checked r options.duplicates kept := by
  rw [plan_eq] at planned
  cases parsed : Manifest.parse text with
  | error e => simp [parsed] at planned
  | ok entries =>
    simp only [parsed] at planned
    obtain ⟨_,checked,same⟩ := map_eq_ok_iff.mp planned
    obtain ⟨rfl,rfl⟩ := Prod.mk.inj same
    exact ⟨⟨text,entries,found,parsed,rfl,rfl⟩,(check_eq_ok_iff r _ _).mp checked⟩

/-- What is gathered are the entries that the manifest lists and that are kept, once they have passed
the checks. -/
theorem kept_of_gather {pairs : List (Entry × String)} {skipped : Nat} {w : σ}
    (gathered : ((gather r source location manifest options).run w).1 = .ok (pairs,skipped)) :
    Kept (source.answers w) manifest options (pairs.map (·.1)) skipped ∧
      Checked r options.duplicates (pairs.map (·.1)) := by
  rw [gather,Registry.run_bind] at gathered
  cases found : source.answers w manifest with
  | error cause => simp [read_answers,found] at gathered
  | ok text =>
    simp only [read_answers,found,mapError_ok] at gathered
    cases planned : plan r options text with
    | error e => simp [planned] at gathered
    | ok plan =>
      obtain ⟨kept,skipped'⟩ := plan
      simp only [planned,Registry.run_bind] at gathered
      cases read : ((readAll source (kept.map (Entry.path location manifest))).run
          ((source.read manifest).run w).2).1 with
      | error e => simp [read] at gathered
      | ok texts =>
        have enough := length_readAll read
        simp only [read,StateT.run_pure] at gathered
        cases gathered
        rw [List.length_map] at enough
        rw [List.map_fst_zip (Nat.le_of_eq enough.symm)]
        exact kept_of_plan found planned

/-- A row that goes through is reported entry by entry, as its registrations went. -/
theorem registerAll_report {report report' : Report} {pairs : List (Entry × String)}
    (done : registerAll r report pairs = (.ok report',r')) :
    report' = report.plus (.of (pairs.map (·.1)) ((registrations r pairs).map (·.again))) ∧
      (registrations r pairs).length = pairs.length := by
  induction pairs generalizing r report with
  | nil =>
    cases done
    exact ⟨(Report.plus_of_nil report').symm,rfl⟩
  | cons p rest ih =>
    obtain ⟨again,r₁,step,done⟩ := registerAll_cons_ok_iff.mp done
    obtain ⟨reported,complete⟩ := ih done
    rw [Report.counting_plus_of] at reported
    simp [registrations,step,reported,complete]

/-- A card has a client, an event has none. -/
theorem countP_cards_add_events (entries : List Entry) :
    entries.countP (·.target.client.isSome) + entries.countP (·.target.client.isNone) =
      entries.length := by
  have either := List.length_eq_countP_add_countP (l := entries) fun e => e.target.client.isSome
  simp only [Bool.not_eq_true,Option.isSome_eq_false_iff,Bool.decide_eq_true] at either
  exact either.symm

/-- A report adds up to the registrations of its setup. -/
theorem report_of_settle {gathered : Except TemplateError (List (Entry × String) × Nat)}
    {report : Report} (done : settle r gathered = (.ok report,r')) :
    ∃ pairs skipped, gathered = .ok (pairs,skipped) ∧
      report.cards + report.events = (registrations r pairs).length ∧
      report.overwritten = (registrations r pairs).countP (·.again) := by
  cases gathered with
  | error e => simp [settle] at done
  | ok plan =>
    obtain ⟨pairs,skipped⟩ := plan
    obtain ⟨rfl,complete⟩ := registerAll_report done
    refine ⟨pairs,skipped,rfl,?_,?_⟩
    · have either := countP_cards_add_events (pairs.map (·.1))
      rw [List.length_map] at either
      simpa [Report.plus,Report.of,complete] using either
    · simp [Report.plus,Report.of,List.count,List.countP_map,Function.comp_def]

theorem registerAll_of_setup {report : Report} {w : σ}
    (done : ((r.setup source location manifest options).run w).1 = (.ok report,r')) :
    ∃ pairs skipped, Kept (source.answers w) manifest options (pairs.map (·.1)) skipped ∧
      Checked r options.duplicates (pairs.map (·.1)) ∧
      registerAll r ⟨0,0,0,skipped⟩ pairs = (.ok report,r') := by
  rw [setup_eq_gather] at done
  cases gathered : ((gather r source location manifest options).run w).1 with
  | error e => simp [gathered,settle] at done
  | ok plan =>
    obtain ⟨pairs,skipped⟩ := plan
    simp only [gathered,settle] at done
    obtain ⟨lists,checked⟩ := kept_of_gather gathered
    exact ⟨pairs,skipped,lists,checked,done⟩

end Setup
end Placard

import Placard.Proofs.Result
import Placard.Proofs.Setup.Registering

/-! Setup in stages, for sources that answer by a table. What comes of it depends on the answers
alone; a source that keeps a log is asked for the manifest and then for the templates of the entries
that are kept, as far as these are tried. -/
namespace Placard

/-- A computation gives its answer and adds to a log, whatever stands in the log before. -/
def Logs (x : StateM (List α) β) (answer : β) (added : List α) : Prop :=
  ∀ log, x.run log = pure (answer,log ++ added)

theorem Logs.pure (b : β) : Logs (α := α) (Pure.pure b) b [] := by
  intro log
  simp

theorem Logs.bind {x : StateM (List α) β} {f : β → StateM (List α) γ} (first : Logs x b l)
    (next : Logs (f b) c l') : Logs (x >>= f) c (l ++ l') := by
  intro log
  simp only [StateT.run_bind,first log,pure_bind,next (log ++ l),List.append_assoc]

namespace Setup

/-- The paths of a row that are asked for: all of them, or those up to the first whose failure is met
at once. -/
def tried (f : String → Fetched) : Pace → List String → List String
  | _,[] => []
  | pace,path :: rest =>
    match f path with
    | .ok _ => path :: tried f pace.rest rest
    | .error _ => if pace 0 = 0 then [path] else path :: tried f pace.rest rest

def asked (r : Registry) (f : String → Fetched) (pace : Pace) (location : Location)
    (manifest : String) (options : SetupOptions) : List String :=
  manifest ::
  match f manifest with
  | .error _ => []
  | .ok text =>
    match plan r options text with
    | .error _ => []
    | .ok (kept,_) => tried f pace (kept.map (Entry.path location manifest))

/-- What becomes of the entries that are kept, with a path for each. -/
def serve (r : Registry) (f : String → Fetched) (pace : Pace) (path : Entry → String)
    (policy : DuplicatePolicy) (skipped : Nat) (kept : List Entry) :
    Except TemplateError Report × Registry :=
  match check r policy kept with
  | .error e => (.error e,r)
  | .ok () =>
    match (readAll (Source.ofFunction f) (kept.map path) pace).run with
    | .error e => (.error e,failedFetch r e)
    | .ok texts => registerAll r ⟨0,0,0,skipped⟩ (kept.zip texts)

theorem read_logs {source : Source (StateM (List α))} {f : String → Fetched} {g : String → List α}
    (logs : ∀ path, Logs (source.fetch path) (f path) (g path)) (path : String) :
    Logs (source.read path) ((f path).mapError (.fetchFailed path)) (g path) := by
  intro log
  simp [Source.read,logs path log]

theorem join_ofFunction_cons (f : String → Fetched) (pace : Pace) (path : String)
    (rest : List String) :
    (join (Source.ofFunction f) pace (path :: rest)).run =
      match f path with
      | .ok text => (join (Source.ofFunction f) pace.rest rest).run.map (text :: ·)
      | .error cause =>
        if pace 0 = 0 then .error ⟨0,.fetchFailed path cause⟩
        else .error (Lapse.first ⟨pace 0,.fetchFailed path cause⟩
          (join (Source.ofFunction f) pace.rest rest).run) := by
  have first : (Source.ofFunction f).read path = pure ((f path).mapError (.fetchFailed path)) := rfl
  rw [join,first,pure_bind]
  cases f path with
  | ok text => rfl
  | error cause =>
    simp only [mapError_error]
    split <;> rfl

theorem readAll_ofFunction (f : String → Fetched) (pace : Pace) (paths : List String) :
    (readAll (Source.ofFunction f) paths pace).run =
      (join (Source.ofFunction f) pace paths).run.mapError Lapse.error := rfl

theorem readAll_ofFunction_cons (f : String → Fetched) (path : String) (rest : List String) :
    (readAll (Source.ofFunction f) (path :: rest)).run =
      match f path with
      | .error cause => .error (.fetchFailed path cause)
      | .ok text => (readAll (Source.ofFunction f) rest).run.map (text :: ·) := by
  have first : (Source.ofFunction f).read path = pure ((f path).mapError (.fetchFailed path)) := rfl
  rw [readAll_cons,first,pure_bind]
  cases f path <;> rfl

theorem join_logs {source : Source (StateM (List α))} {f : String → Fetched} {g : String → List α}
    (logs : ∀ path, Logs (source.fetch path) (f path) (g path)) (pace : Pace)
    (paths : List String) :
    Logs (join source pace paths) (join (Source.ofFunction f) pace paths).run
      ((tried f pace paths).flatMap g) := by
  induction paths generalizing pace with
  | nil => exact Logs.pure _
  | cons path rest ih =>
    intro log
    have first := read_logs logs path log
    have later := ih pace.rest (log ++ g path)
    rw [join_ofFunction_cons]
    cases answer : f path with
    | ok text =>
      simp only [answer,mapError_ok] at first
      simp [join,tried,answer,first,later]
    | error cause =>
      simp only [answer,mapError_error] at first
      by_cases once : pace 0 = 0 <;> simp [join,tried,answer,first,once,later]

theorem readAll_logs {source : Source (StateM (List α))} {f : String → Fetched}
    {g : String → List α} (logs : ∀ path, Logs (source.fetch path) (f path) (g path)) (pace : Pace)
    (paths : List String) :
    Logs (readAll source paths pace) (readAll (Source.ofFunction f) paths pace).run
      ((tried f pace paths).flatMap g) := by
  intro log
  simp [readAll,join_logs logs pace paths log]

theorem plan_eq (r : Registry) (options : SetupOptions) (text : String) :
    plan r options text =
      match Manifest.parse text with
      | .error e => .error e
      | .ok entries =>
        (check r options.duplicates (entries.filter options.keeps)).map fun _ =>
          (entries.filter options.keeps,
            entries.length - (entries.filter options.keeps).length) := by
  cases parsed : Manifest.parse text with
  | error e => simp [plan,parsed,Bind.bind,Except.bind]
  | ok entries =>
    cases checked : check r options.duplicates (entries.filter options.keeps) <;>
      simp [plan,parsed,checked,Bind.bind,Except.bind,Except.map,Pure.pure,Except.pure]

theorem recording_logs (f : String → Fetched) (path : String) :
    Logs ((Source.recording f).fetch path) (f path) [path] := by
  intro log
  rfl

/-- Setup from a table, stage by stage. -/
theorem setup_ofFunction (r : Registry) (f : String → Fetched) (location : Location)
    (manifest : String) (options : SetupOptions) (pace : Pace) :
    (r.setup (Source.ofFunction f) location manifest options pace).run =
      match f manifest with
      | .error cause => (.error (.fetchFailed manifest cause),r.count (.fetchFailures cause.kind))
      | .ok text =>
        match Manifest.parse text with
        | .error e => (.error e,r)
        | .ok entries =>
          serve r f pace (Entry.path location manifest) options.duplicates
            (entries.length - (entries.filter options.keeps).length)
            (entries.filter options.keeps) := by
  have first : (Source.ofFunction f).read manifest =
      pure ((f manifest).mapError (.fetchFailed manifest)) := rfl
  rw [Registry.setup,first,pure_bind]
  cases f manifest with
  | error cause => rfl
  | ok text =>
    simp only [mapError_ok,plan_eq]
    cases Manifest.parse text with
    | error e => rfl
    | ok entries =>
      simp only [serve]
      cases check r options.duplicates (entries.filter options.keeps) with
      | error e => rfl
      | ok _ =>
        simp only [Except.map,Id.run_bind]
        cases (readAll (Source.ofFunction f)
          ((entries.filter options.keeps).map (Entry.path location manifest)) pace).run <;> rfl

/-- A source that keeps a log is asked for what a table would be asked for, and for nothing else. -/
theorem setup_logs {source : Source (StateM (List α))} {f : String → Fetched}
    {g : String → List α} (logs : ∀ path, Logs (source.fetch path) (f path) (g path))
    (r : Registry) (location : Location) (manifest : String) (options : SetupOptions)
    (pace : Pace) :
    Logs (r.setup source location manifest options pace)
      (r.setup (Source.ofFunction f) location manifest options pace).run
      ((asked r f pace location manifest options).flatMap g) := by
  intro log
  have first := read_logs logs manifest log
  rw [setup_ofFunction]
  cases answer : f manifest with
  | error cause =>
    simp only [answer,mapError_error] at first
    simp [Registry.setup,asked,answer,first,failedFetch]
  | ok text =>
    simp only [answer,mapError_ok] at first
    cases parsed : Manifest.parse text with
    | error e => simp [Registry.setup,asked,answer,first,plan_eq,parsed]
    | ok entries =>
      cases checked : check r options.duplicates (entries.filter options.keeps) with
      | error e => simp [Registry.setup,asked,answer,first,plan_eq,parsed,checked,serve,Except.map]
      | ok _ =>
        have later := readAll_logs logs pace
          ((entries.filter options.keeps).map (Entry.path location manifest)) (log ++ g manifest)
        cases read : (readAll (Source.ofFunction f)
            ((entries.filter options.keeps).map (Entry.path location manifest)) pace).run <;>
          simp only [read] at later <;>
          simp [Registry.setup,asked,answer,first,plan_eq,parsed,checked,serve,Except.map,later,read]

end Setup
end Placard

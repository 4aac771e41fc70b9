import Placard.Manifest
import Placard.Registry
import Placard.Source.Location

/-! Setting up from a manifest. All that can fail without reading is checked before anything is
read, all is read before anything is registered, and entries are registered in the order of the
manifest. -/
namespace Placard

/-- What to do with two entries for one target. -/
inductive DuplicatePolicy where
  | overwrite | reject
  deriving DecidableEq, Repr

namespace DuplicatePolicy

def name : DuplicatePolicy → String
  | overwrite => "overwrite"
  | reject => "reject"

def choice : Choice DuplicatePolicy where
  name := "DuplicateKeyPolicy"
  expected := "`overwrite` or `reject`"
  cases := [("overwrite", .overwrite), ("reject", .reject)]

end DuplicatePolicy

structure SetupOptions where
  duplicates : DuplicatePolicy
  /-- Only entries for this target are kept. -/
  only : Option Target

def SetupOptions.keeps (o : SetupOptions) (e : Entry) : Bool :=
  match o.only with
  | some t => e.target = t
  | none => true

structure Report where
  cards : Nat
  events : Nat
  overwritten : Nat
  skipped : Nat
  deriving DecidableEq, Repr

/-- A template's text, with the path in what went wrong. -/
def Source.read [Monad m] (source : Source m) (path : String) :
    m (Except TemplateError String) := do
  let fetched ← source.fetch path
  return fetched.mapError (.fetchFailed path)

namespace Setup

/-- The first key that an earlier entry has too. -/
def repeated? (seen : List String) : List Entry → Option String
  | [] => none
  | e :: rest =>
    if seen.contains e.target.key then some e.target.key
    else repeated? (e.target.key :: seen) rest

/-- Every entry has its engine, and under the strict policy a key of its own. -/
def check (r : Registry) (policy : DuplicatePolicy) (entries : List Entry) :
    Except TemplateError Unit :=
  match entries.find? fun e => (r.engine? e.target.language).isNone with
  | some e => .error (.engineNotFound e.target.language)
  | none =>
    match policy, repeated? [] entries with
    | .reject, some key => .error (.duplicateKey key)
    | _, _ => .ok ()

/-- The failure of a fetch, and the round in which it is met. -/
structure Lapse where
  round : Nat
  error : TemplateError

/-- Of a failure and what the rest of the row comes to, the failure that is met first; of one round, the
former in the row. -/
def Lapse.first (lapse : Lapse) : Except Lapse α → Lapse
  | .ok _ => lapse
  | .error later => if later.round < lapse.round then later else lapse

/-- Fetches a row of paths together. After a failure that is met at once no more fetches are made; one
that is met later may be behind a failure further on. -/
def join [Monad m] (source : Source m) : Pace → List String → m (Except Lapse (List String))
  | _, [] => pure (.ok [])
  | pace, path :: rest => do
    match ← source.read path with
    | .ok text =>
      let more ← join source pace.rest rest
      return more.map (text :: ·)
    | .error e =>
      if pace 0 = 0 then return .error ⟨0, e⟩
      else
        let more ← join source pace.rest rest
        return .error (Lapse.first ⟨pace 0, e⟩ more)

/-- The texts of a row of paths, or the failure that is met first. -/
def readAll [Monad m] (source : Source m) (paths : List String) (pace : Pace := .prompt) :
    m (Except TemplateError (List String)) := do
  let joined ← join source pace paths
  return joined.mapError Lapse.error

theorem readAll_nil [Monad m] [LawfulMonad m] (source : Source m) (pace : Pace) :
    readAll source [] pace = pure (.ok []) := by
  simp only [readAll, join, pure_bind]
  rfl

/-- Texts that are there at once are read one after the other, up to the first that is not. -/
theorem readAll_cons [Monad m] [LawfulMonad m] (source : Source m) (path : String)
    (rest : List String) :
    readAll source (path :: rest) = do
      match ← source.read path with
      | .error e => return .error e
      | .ok text => return (← readAll source rest).map (text :: ·) := by
  simp only [readAll, join, Pace.rest_prompt, bind_assoc]
  congr 1
  funext answer
  cases answer with
  | error e =>
    simp only [Pace.prompt_apply, if_true, pure_bind]
    rfl
  | ok text =>
    simp only [bind_assoc, pure_bind]
    congr 1
    funext joined
    cases joined <;> rfl

def Report.counting (report : Report) (e : Entry) (again : Bool) : Report :=
  let report := if e.target.client.isSome then { report with cards := report.cards + 1 }
    else { report with events := report.events + 1 }
  if again then { report with overwritten := report.overwritten + 1 } else report

/-- Registers entries with their texts, up to the first that does not compile. -/
def registerAll (r : Registry) (report : Report) :
    List (Entry × String) → Except TemplateError Report × Registry
  | [] => (.ok report, r)
  | (e, text) :: rest =>
    match r.registerText e.target.language e.target.key text with
    | .error err => (.error err, r)
    | .ok (again, r) => registerAll r (Report.counting report e again) rest

/-- The entries that are kept and how many are not, once all is checked that can be. -/
def plan (r : Registry) (options : SetupOptions) (manifest : String) :
    Except TemplateError (List Entry × Nat) := do
  let entries ← Manifest.parse manifest
  let kept := entries.filter options.keeps
  check r options.duplicates kept
  return (kept, entries.length - kept.length)

def failedFetch (r : Registry) (e : TemplateError) : Registry :=
  match e with
  | .fetchFailed _ cause => r.count (.fetchFailures cause.kind)
  | _ => r

end Setup

/-- Reads a manifest and registers what it lists. Templates are fetched together, and without a pace
at once. -/
def Registry.setup [Monad m] (r : Registry) (source : Source m) (location : Location)
    (manifest : String) (options : SetupOptions) (pace : Pace := .prompt) :
    m (Except TemplateError Report × Registry) := do
  match ← source.read manifest with
  | .error e => return (.error e, Setup.failedFetch r e)
  | .ok text =>
    match Setup.plan r options text with
    | .error e => return (.error e, r)
    | .ok (kept, skipped) =>
      match ← Setup.readAll source (kept.map (Entry.path location manifest)) pace with
      | .error e => return (.error e, Setup.failedFetch r e)
      | .ok texts => return Setup.registerAll r ⟨0, 0, 0, skipped⟩ (kept.zip texts)

/-- Reads one template and registers it. The engine is looked for before anything is read. -/
def Registry.readAndRegister [Monad m] (r : Registry) (source : Source m) (l : Language)
    (path key : String) : m (Except TemplateError Bool × Registry) := do
  match r.engine l with
  | .error e => return (.error e, r)
  | .ok _ =>
    match ← source.read path with
    | .error e => return (.error e, Setup.failedFetch r e)
    | .ok text =>
      match r.registerText l key text with
      | .error e => return (.error e, r)
      | .ok (again, r) => return (.ok again, r)

/-- Reads and registers the template of an entry. -/
def Registry.registerEntry [Monad m] (r : Registry) (source : Source m) (location : Location)
    (manifest : String) (e : Entry) : m (Except TemplateError Bool × Registry) :=
  r.readAndRegister source e.target.language (e.path location manifest) e.target.key

end Placard

import Placard.Run
import Placard.Proofs.Setup.Outcomes

/-! The world around a run: its files, its network, its variables and the pace of its answers. A run
is a function of the world. Watched on its way through the world it gives the same answer and leaves a
log of what it read and requested: what loading its settings takes, and then what setup asks its
source for. -/
namespace Placard

structure World where
  /-- The bytes of a file, by a path from the working directory. -/
  files : String → Except Obstacle ByteArray
  answer : Request → Except String Response
  environment : Variables
  /-- When the answers to the fetches of templates are met. -/
  pace : Pace

/-- A file that is read, or a request that is made. -/
inductive Access where
  | file (path : String)
  | request (q : Request)
  deriving DecidableEq, Repr

namespace World

/-- A world of texts, each under its path, without a network. No text is there at once. -/
def ofTexts (texts : List (String × String)) (environment : Variables) : World where
  files path := match texts.lookup path with
    | some text => .ok text.toUTF8
    | none => .error .missing
  answer _ := .error "no network"
  environment
  pace := .together

def surroundings (w : World) : Surroundings Id := ⟨w.files,w.environment⟩

def network (w : World) : Network Id := w.answer

def settings (w : World) : Except RunError Settings := (Settings.load w.surroundings).run

def run (w : World) : Except RunError String :=
  (Placard.run w.surroundings w.network w.pace).run

def fetch (w : World) (location : Location) (path : String) : Fetched :=
  ((location.source w.surroundings.read w.network).fetch path).run

def watched (w : World) : Surroundings (StateM (List Access)) :=
  ⟨fun path => do
    modify (· ++ [.file path])
    return w.files path,w.environment⟩

end World

/-- What a source at a location accesses to answer for a path. -/
def Location.accesses (location : Location) (path : String) : List Access :=
  match location with
  | .folder root => [.file (Source.below root path)]
  | .repository r _ =>
    match r.request path with
    | .error _ => []
    | .ok q => [.request q]

namespace World

theorem read_logs (w : World) (path : String) :
    Logs (w.watched.read path) (w.files path) [.file path] := by
  intro log
  rfl

/-- A computation that gives the answer of another one, whatever it logs. -/
def Mirrors (x : StateM (List Access) β) (y : Id β) : Prop := ∃ added, Logs x y.run added

theorem Mirrors.pure (b : β) : Mirrors (Pure.pure b) (Pure.pure b) := ⟨[],Logs.pure b⟩

theorem Mirrors.bind {x : StateM (List Access) β} {y : Id β} {f : β → StateM (List Access) γ}
    {g : β → Id γ} (first : Mirrors x y) (next : ∀ b, Mirrors (f b) (g b)) :
    Mirrors (x >>= f) (y >>= g) := by
  obtain ⟨added,logs⟩ := first
  obtain ⟨more,later⟩ := next y.run
  exact ⟨added ++ more,logs.bind later⟩

def registry (settings : Settings) : Registry :=
  .standard settings.engines.strict settings.engines.enabled

def setUp (w : World) (settings : Settings) (location : Location) :
    Except TemplateError Report × Registry :=
  ((registry settings).setup (Source.ofFunction (w.fetch location)) location
    settings.source.manifest settings.setupOptions w.pace).run

def asked (w : World) (settings : Settings) (location : Location) : List String :=
  Setup.asked (registry settings) (w.fetch location) w.pace location settings.source.manifest
    settings.setupOptions

def requested? (w : World) (settings : Settings) (location : Location) : Option (List Entry) := do
  let text ← (w.fetch location settings.source.manifest).toOption
  let entries ← (Manifest.parse text).toOption
  return entries.filter fun e => e.target = settings.render.target

/-- What a run comes to once its settings are loaded. -/
def outcome (w : World) (settings : Settings) : Except RunError String :=
  match settings.source.location with
  | .error e => .error e
  | .ok location =>
    match w.setUp settings location with
    | (.error e,_) => .error (.template e)
    | (.ok _,r) => Run.payload r settings.render

def requests (w : World) (settings : Settings) : List Access :=
  match settings.source.location with
  | .error _ => []
  | .ok location => (w.asked settings location).flatMap location.accesses

theorem requested?_eq_some_iff {w : World} {settings : Settings} {location : Location}
    {kept : List Entry} :
    w.requested? settings location = some kept ↔
      ∃ text entries, w.fetch location settings.source.manifest = .ok text ∧
        Manifest.parse text = .ok entries ∧
        kept = entries.filter fun e => e.target = settings.render.target := by
  simp only [requested?,Option.bind_eq_bind,Option.bind_eq_some_iff,toOption_eq_some_iff,
    Option.pure_def,Option.some.injEq]
  constructor
  · rintro ⟨text,found,entries,parsed,rfl⟩
    exact ⟨text,entries,found,parsed,rfl⟩
  · rintro ⟨text,entries,found,parsed,rfl⟩
    exact ⟨text,found,entries,parsed,rfl⟩

theorem kept_of_requested? {w : World} {settings : Settings} {location : Location}
    {kept : List Entry} (only : settings.setup.onlyRequested = true)
    (requested : w.requested? settings location = some kept) :
    ∃ skipped, Setup.Kept (w.fetch location) settings.source.manifest settings.setupOptions kept
      skipped := by
  obtain ⟨text,entries,found,parsed,rfl⟩ := requested?_eq_some_iff.mp requested
  have keeps : settings.setupOptions.keeps = fun e => decide (e.target = settings.render.target) := by
    funext e
    simp [SetupOptions.keeps,Settings.setupOptions,only]
  exact ⟨_,text,entries,found,parsed,by rw [keeps],rfl⟩

theorem source_eq (w : World) (location : Location) :
    location.source w.surroundings.read w.network = Source.ofFunction (w.fetch location) := rfl

theorem withSettings_eq (w : World) (settings : Settings) :
    (Run.withSettings w.surroundings w.network settings w.pace).run = w.outcome settings := by
  unfold Run.withSettings outcome
  cases settings.source.location with
  | error e => rfl
  | ok location =>
    simp only [source_eq,Id.run_bind]
    change Id.run (match w.setUp settings location with
      | (.error e,_) => return .error (.template e)
      | (.ok _,r) => return Run.payload r settings.render) = _
    rcases w.setUp settings location with ⟨_ | _,r⟩ <;> rfl

theorem run_eq {w : World} {settings : Settings} (loads : w.settings = .ok settings) :
    w.run = w.outcome settings := by
  have loads : (Settings.load w.surroundings).run = .ok settings := loads
  simp only [run,Placard.run,Id.run_bind,loads]
  exact w.withSettings_eq settings

end World
end Placard

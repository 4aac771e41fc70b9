import Placard.Proofs.Registry.Rendering
import Placard.Proofs.Run.World
import Placard.Proofs.Setup.LastWrite
import Placard.Proofs.Setup.Failure

/-! The exit code that tells a missing template from everything else that can go wrong. Once setup
has gone through, the requested key holds a template just if an entry is listed for the target, so a
template is missing only where nothing is listed for a language that has an engine. -/
namespace Placard

namespace RunError

/-- One kind of failure has the code of a missing template. -/
theorem exitCode_eq_four_iff {e : RunError} :
    e.exitCode = 4 ↔ ∃ failure, e = .template failure ∧ failure.kind = .templateNotFound := by
  cases e with
  | template failure => cases kind : failure.kind <;> simp [exitCode,kind]
  | config | invalid | badData | source => simp [exitCode]

end RunError

theorem Finished.exitCode_eq_four_iff {result : Except RunError String} :
    (Finished.of result).exitCode = 4 ↔
      ∃ failure, result = .error (.template failure) ∧ failure.kind = .templateNotFound := by
  cases result with
  | error e => simp [Finished.of,RunError.exitCode_eq_four_iff]
  | ok payload => simp [Finished.of]

theorem Registry.missing_render_iff {r : Registry} {t : Target} (data : Json) :
    failure? (r.render t data).1 = some .templateNotFound ↔
      (r.engine? t.language).isSome ∧ r.compiled? t.language t.key = none := by
  rw [(r.renders_render t data).templateNotFound_iff]
  cases found : r.engine? t.language <;> simp [compiled?,found,Engine.hasTemplate_eq]

theorem Run.missing_payload_iff {r : Registry} {request : RenderRequest} :
    (∃ failure, payload r request = .error (.template failure) ∧
        failure.kind = .templateNotFound) ↔
      (∃ data, Json.parse request.data = .ok data) ∧
        (r.engine? request.target.language).isSome ∧
        r.compiled? request.target.language request.target.key = none := by
  cases parsed : Json.parse request.data with
  | error message => simp [payload,parsed,Bind.bind,Except.bind]
  | ok data =>
    rw [← Registry.missing_render_iff data]
    cases rendered : (r.render request.target data).1 with
    | error e => simp [failure?,payload,parsed,rendered,Bind.bind,Except.bind]
    | ok text =>
      cases document : Json.parse text <;>
        simp [failure?,payload,parsed,rendered,document,Bind.bind,Except.bind,Pure.pure,Except.pure]

/-- Loading the settings fails by way of the configuration. -/
theorem Settings.load_error {s : Surroundings Id} {e : RunError}
    (fails : (Settings.load s).run = .error e) : ∃ message, e = .config message := by
  simp only [load,Id.run_bind] at fails
  generalize (Config.allVariables s).run = environment at fails
  cases first : (Config.layer s.read (Config.layerName "default")).run with
  | error message => exact ⟨message,by simpa [first] using fails.symm⟩
  | ok every =>
    cases second : (Config.layer s.read (Config.layerName (Config.mode environment))).run with
    | error message => exact ⟨message,by simpa [first,second] using fails.symm⟩
    | ok forMode =>
      cases made : Config.settingsOf every forMode environment with
      | error message => exact ⟨message,by simpa [first,second,made] using fails.symm⟩
      | ok settings => simp [first,second,made] at fails

theorem SourceSettings.location_error {s : SourceSettings} {e : RunError}
    (fails : s.location = .error e) : ∃ message, e = .invalid message := by
  unfold location at fails
  split at fails
  · simp at fails
  · split at fails
    · simp at fails
    · exact ⟨_,(Except.error.inj fails).symm⟩

/-- No stage of setup fails for want of a template. -/
theorem Setup.Fails.kind_ne {r r' : Registry} {f : String → Fetched} {location : Location}
    {manifest : String} {options : SetupOptions} {err : TemplateError} {paths : List String}
    (fails : Fails r f location manifest options err r' paths) : err.kind ≠ .templateNotFound := by
  cases fails <;> simp [TemplateError.kind]

theorem Setup.kind_ne_of_setup {r r' : Registry} {f : String → Fetched} {location : Location}
    {manifest : String} {options : SetupOptions} {pace : Pace} {err : TemplateError}
    (stuck : (r.setup (Source.ofFunction f) location manifest options pace).run = (.error err,r')) :
    err.kind ≠ .templateNotFound := by
  rcases setup_cases r f location manifest options with same | missing
  · rw [same .prompt] at stuck
    exact (fails_of_setup stuck).kind_ne
  · obtain ⟨path,cause,named⟩ := missing pace
    rw [stuck,Except.error.injEq] at named
    simp [named,TemplateError.kind]

/-- Entries for the requested target are kept, whether setup is narrowed or not. -/
theorem Settings.keeps_requested (s : Settings) {e : Entry} (here : e.target = s.render.target) :
    s.setupOptions.keeps e := by
  cases narrow : s.setup.onlyRequested <;> simp [SetupOptions.keeps,setupOptions,narrow,here]

namespace World

/-- A run that gets as far as its request, and has no template for it: what is listed is set up,
nothing is listed for the requested target, whose language has an engine, and the data can be
read. -/
structure Unserved (w : World) (settings : Settings) (location : Location) : Prop where
  setUp : ∃ report r, w.setUp settings location = (.ok report,r)
  unlisted : ∃ text entries, w.fetch location settings.source.manifest = .ok text ∧
    Manifest.parse text = .ok entries ∧ ∀ e ∈ entries, e.target ≠ settings.render.target
  enabled : settings.render.target.language ∈ settings.engines.enabled
  data : ∃ data, Json.parse settings.render.data = .ok data

/-- Setup leaves an engine just for the languages that are enabled. -/
theorem isSome_engine?_setUp {w : World} {settings : Settings} {location : Location}
    {report : Report} {r : Registry} (done : w.setUp settings location = (.ok report,r))
    (l : Language) : (r.engine? l).isSome ↔ l ∈ settings.engines.enabled := by
  obtain ⟨kept,skipped,lists⟩ := Setup.kept_of_ok done
  rw [setUp,Setup.setup_of_kept lists] at done
  rw [Registry.isSome_engine?_of_bare (Setup.serve_bare done l),registry,Registry.engine?_standard]
  split <;> simp [*]

/-- Setup leaves the requested target without a template just if no entry is listed for it. -/
theorem compiled?_setUp_eq_none_iff {w : World} {settings : Settings} {location : Location}
    {report : Report} {r : Registry} (done : w.setUp settings location = (.ok report,r)) :
    r.compiled? settings.render.target.language settings.render.target.key = none ↔
      ∃ text entries, w.fetch location settings.source.manifest = .ok text ∧
        Manifest.parse text = .ok entries ∧ ∀ e ∈ entries, e.target ≠ settings.render.target := by
  obtain ⟨kept,skipped,lists⟩ := Setup.kept_of_ok done
  rw [setUp,Setup.setup_of_kept lists] at done
  have held := Setup.serve_compiled done settings.render.target
  have missing : r.compiled? settings.render.target.language settings.render.target.key = none ↔
      ∀ e ∈ kept, e.target ≠ settings.render.target := by
    rw [← Setup.last?_eq_none_iff]
    cases last : Setup.last? settings.render.target kept with
    | none => simpa [last,registry,Registry.compiled?_standard] using held
    | some e =>
      obtain ⟨front,back,rfl,here,-⟩ := Setup.last?_eq_some_iff.mp last
      have compiles := Setup.serve_compiles done e (by simp)
      simp only [last] at held
      rw [Setup.Compiles,Setup.withText,here,← held] at compiles
      simpa using Option.isSome_iff_ne_none.mp compiles
  obtain ⟨text,entries,found,parsed,rfl,rfl⟩ := lists
  rw [missing]
  -- An entry for the requested target is kept whether setup is narrowed or not.
  constructor
  · intro unlisted
    refine ⟨text,entries,found,parsed,fun e member here => ?_⟩
    exact unlisted e (List.mem_filter.mpr ⟨member,settings.keeps_requested here⟩) here
  · rintro ⟨text',entries',found',parsed',unlisted⟩ e member
    obtain rfl : text = text' := Except.ok.inj (found.symm.trans found')
    obtain rfl : entries = entries' := Except.ok.inj (parsed.symm.trans parsed')
    exact unlisted e (List.mem_filter.mp member).1

/-- Once the source is located, a run fails for want of a template just if its request is
unserved. -/
theorem missing_outcome_iff {w : World} {settings : Settings} {location : Location}
    (located : settings.source.location = .ok location) :
    (∃ failure, w.outcome settings = .error (.template failure) ∧
        failure.kind = .templateNotFound) ↔ w.Unserved settings location := by
  rcases ended : w.setUp settings location with ⟨err | report,r⟩
  · have other := Setup.kind_ne_of_setup ended
    simp only [outcome,located,ended]
    constructor
    · rintro ⟨_,⟨⟩,kind⟩
      exact absurd kind other
    · rintro ⟨⟨report,r,done⟩,-⟩
      simp [ended] at done
  · simp only [outcome,located,ended]
    rw [Run.missing_payload_iff,isSome_engine?_setUp ended,compiled?_setUp_eq_none_iff ended]
    constructor
    · rintro ⟨data,enabled,unlisted⟩
      exact ⟨⟨report,r,ended⟩,unlisted,enabled,data⟩
    · rintro ⟨-,unlisted,enabled,data⟩
      exact ⟨data,enabled,unlisted⟩

/-- A run ends with the exit code of a missing template just if it gets as far as its request and
has no template for it. -/
theorem exitCode_eq_four_iff_unserved (w : World) :
    (Finished.of w.run).exitCode = 4 ↔
      ∃ settings location, w.settings = .ok settings ∧ settings.source.location = .ok location ∧
        w.Unserved settings location := by
  rw [Finished.exitCode_eq_four_iff]
  cases loads : w.settings with
  | error e =>
    obtain ⟨message,rfl⟩ := Settings.load_error loads
    have run : w.run = .error (.config message) := by
      have loads : (Settings.load w.surroundings).run = .error (.config message) := loads
      simp only [run,Placard.run,Id.run_bind,loads]
      rfl
    simp [run]
  | ok settings =>
    rw [run_eq loads]
    cases located : settings.source.location with
    | error e =>
      obtain ⟨message,rfl⟩ := SourceSettings.location_error located
      simp [outcome,located]
    | ok location =>
      rw [missing_outcome_iff located]
      constructor
      · intro unserved
        exact ⟨settings,location,rfl,located,unserved⟩
      · rintro ⟨_,_,⟨⟩,located',unserved⟩
        obtain rfl : location = _ := Except.ok.inj (located.symm.trans located')
        exact unserved

end World
end Placard

import Placard.Proofs.Run.World
import Placard.Proofs.Setup.LastWrite

/-! Runs whose request is served from what is listed. Where all that is kept is in order and the last
entry for the requested target has a text that compiles, setup goes through, and the run comes to
what an engine of the requested language makes of that text. -/
namespace Placard.World

/-- What setup keeps can be read and registered, and of the requested target the last text, less one
line end, is the one given. Whether that text compiles is left open. -/
structure Stores (w : World) (settings : Settings) (location : Location) (kept : List Entry)
    (e : Entry) (text : String) : Prop where
  listed : ∃ skipped, Setup.Kept (w.fetch location) settings.source.manifest settings.setupOptions
    kept skipped
  checked : Setup.Checked (registry settings) settings.setup.duplicates kept
  texts : ∀ x ∈ kept, Setup.HasText (w.fetch location)
    (Entry.path location settings.source.manifest) x
  others : ∀ x ∈ kept, x ≠ e → Setup.Compiles (registry settings)
    (Setup.withText (w.fetch location) (Entry.path location settings.source.manifest) x)
  last : Setup.last? settings.render.target kept = some e
  text : withoutFinalNewline
    (Setup.textAt (w.fetch location) (e.path location settings.source.manifest)) = text

variable {w : World} {settings : Settings} {location : Location} {kept : List Entry} {e : Entry}
  {text : String} {c : Compiled}

theorem Stores.enabled (stores : w.Stores settings location kept e text) :
    settings.render.target.language ∈ settings.engines.enabled := by
  obtain ⟨front,back,rfl,here,-⟩ := Setup.last?_eq_some_iff.mp stores.last
  have engine := stores.checked.engines e (by simp)
  rw [Setup.HasEngine,here,registry,Registry.engine?_standard] at engine
  split at engine
  next enabled => exact enabled
  next => cases engine

theorem Stores.compile?_registry (stores : w.Stores settings location kept e text) (s : String) :
    (registry settings).compile? settings.render.target.language s =
      (Engine.standard settings.engines.strict settings.render.target.language).compile? s := by
  rw [Registry.compile?,registry,Registry.engine?_standard,if_pos stores.enabled,Option.bind_some]

/-- Setup goes through, and leaves an engine that has the extensions it started with and the text
compiled under the requested key. -/
theorem Stores.setUp (stores : w.Stores settings location kept e text)
    (compiles : (Engine.standard settings.engines.strict
      settings.render.target.language).compile? text = some c) :
    ∃ report r engine, w.setUp settings location = (.ok report,r) ∧
      r.engine? settings.render.target.language = some engine ∧
      engine.bare =
        (Engine.standard settings.engines.strict settings.render.target.language).bare ∧
      engine.compiled? settings.render.target.key = some c := by
  obtain ⟨skipped,listed⟩ := stores.listed
  rw [← stores.compile?_registry,← stores.text] at compiles
  have here : e.target = settings.render.target := by
    obtain ⟨front,back,-,here,-⟩ := Setup.last?_eq_some_iff.mp stores.last
    exact here
  have all : ∀ p ∈ kept.map (Setup.withText (w.fetch location)
      (Entry.path location settings.source.manifest)), Setup.Compiles (registry settings) p := by
    refine List.forall_mem_map.mpr fun x member => ?_
    by_cases last : x = e
    · subst last
      simp only [Setup.Compiles,Setup.withText,here,compiles,Option.isSome_some]
    · exact stores.others x member last
  obtain ⟨report,registered⟩ := (Setup.registerAll_ok_iff (registry settings) ⟨0,0,0,skipped⟩ _).mpr all
  have done : Setup.serve (registry settings) (w.fetch location) w.pace
      (Entry.path location settings.source.manifest) settings.setup.duplicates skipped kept =
      (.ok report,_) :=
    Setup.serve_eq_ok_iff.mpr ⟨stores.checked,stores.texts,Prod.ext registered rfl⟩
  have held := Setup.serve_compiled done settings.render.target
  simp only [stores.last,compiles] at held
  obtain ⟨engine,found,-⟩ := Registry.render_of_compiled? held
  have bare := Setup.serve_bare done settings.render.target.language
  rw [Registry.bare?,found,Registry.bare?,registry,Registry.engine?_standard,
    if_pos stores.enabled] at bare
  rw [Registry.compiled?,found] at held
  exact ⟨report,_,engine,(Setup.setup_of_kept listed _ _ _).trans done,found,
    Option.some.inj bare,held⟩

/-- A run whose request is served comes to the compact form of the document that its engine makes of
the data. -/
theorem Stores.run (stores : w.Stores settings location kept e text)
    (loads : w.settings = .ok settings) (located : settings.source.location = .ok location)
    (compiles : (Engine.standard settings.engines.strict
      settings.render.target.language).compile? text = some c)
    {data document : Json} {rendered : String}
    (parsed : Json.parse settings.render.data = .ok data)
    (applies : ∀ engine : Engine, engine.bare =
      (Engine.standard settings.engines.strict settings.render.target.language).bare →
      engine.compiled? settings.render.target.key = some c →
      engine.apply settings.render.target.key data = .ok rendered)
    (reads : Json.parse rendered = .ok document) : w.run = .ok document.compact := by
  obtain ⟨report,r,engine,done,found,bare,held⟩ := stores.setUp compiles
  have renders : (r.render settings.render.target data).1 = .ok rendered := by
    simp [Registry.render,Registry.apply,Registry.engine,found,applies engine bare held,Bind.bind,
      Except.bind]
  rw [run_eq loads]
  simp [outcome,located,done,Run.payload,parsed,renders,reads,Bind.bind,Except.bind,Pure.pure,
    Except.pure]

end Placard.World

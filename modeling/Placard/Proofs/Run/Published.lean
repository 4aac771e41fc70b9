import Placard.Proofs.Run.World
import Placard.Proofs.Setup.Agreement
import Placard.Proofs.Source.Serving
import Placard.Proofs.Text.Utf8

/-! The same templates in a folder and in a repository. A repository is read without the marks of byte
order that its texts begin with, a folder with them; setup from the one and from the other comes to the
same as far as that makes no difference. -/
namespace Placard

open Json in
theorem Manifest.parse_marked {text : String} (marked : ¬ Unmarked text) :
    ∃ message, Manifest.parse text = .error (.invalidManifest message) := by
  obtain ⟨rest,chars⟩ := List.head?_eq_some_iff.mp (Decidable.not_not.mp marked)
  have first : tokens 0 text.toList = ⟨.stray,0,3⟩ :: tokens 3 rest := by
    rw [chars,tokens]
    rfl
  have drafted : draft text.toList =
      ⟨.broken ⟨.valueExpected,1⟩ (.both .valueExpected 1),tokens 3 rest⟩ := by
    rw [draft,first,build]
    rfl
  have refused : parseAsFault (Medium.list (Medium.record Entry.shape)) text.toList =
      .error ⟨.valueExpected,1⟩ := by
    rw [parseAsFault,drafted]
    rfl
  exact ⟨_,by rw [Manifest.parse,parseAs,refused]; rfl⟩

/-- In the repository a template is asked for at the path that it has in the folder. -/
theorem Entry.path_repository (e : Entry) (r : Repository) (root manifest : String) :
    e.path (.repository r false) manifest = "/" ++ e.path (.folder root) manifest := by
  simp only [path,Location.templateRoot,Target.path]
  split <;> simp only [String.append_assoc]

theorem Entry.namePath_path {e : Entry} (plain : NamePath e.template) (root manifest : String) :
    NamePath (e.path (.folder root) manifest) := by
  have language : NamePath e.target.language.name := by
    cases e.target.language <;> (unfold NamePath; decide)
  simp only [path,Location.templateRoot,Target.path,Target.folder]
  cases e.target.client with
  | none =>
    have folder : NamePath "EventTemplate" := by unfold NamePath; decide
    exact namePath_append (namePath_append folder language) plain
  | some client =>
    have folder : NamePath "CardTemplate" := by unfold NamePath; decide
    have client : NamePath client.name := by cases client <;> (unfold NamePath; decide)
    exact namePath_append (namePath_append (namePath_append folder client) language) plain

namespace World

variable {w : World} {files : Files} {root : String} {folder : List String} {r : Repository}
  {path manifest : String}

theorem fetch_folder (w : World) (root path : String) :
    w.fetch (.folder root) path = ((w.files (Source.below root path)).bind Files.decoded).mapError
      (Source.fileError (Source.below root path)) := by
  simp only [fetch,Location.source,Source.ofFolder,surroundings]
  rfl

theorem fetch_repository {q : Request} {answer : Response} (made : r.request path = .ok q)
    (answered : w.answer q = .ok answer) (besideManifest : Bool) :
    w.fetch (.repository r besideManifest) path = answer.content path := by
  simp only [fetch,Location.source,Source.ofRepository,network,made,answered]
  rfl

/-- A tree of files is there to be read below a root, and its texts are served as the contents of a
repository. -/
structure Published (w : World) (files : Files) (root : String) (folder : List String)
    (r : Repository) : Prop where
  held : w.files = files.bytes
  rooted : Rooted files root folder
  serves : Serves r w.answer (files.textBelow? folder)

namespace Published

variable (published : w.Published files root folder r)
include published

theorem fetch_folder (plain : NamePath path) :
    (w.fetch (.folder root) path).toOption = files.textBelow? folder path := by
  rw [World.fetch_folder,toOption_mapError,published.held,← published.rooted.text_below plain]
  rfl

/-- Whatever is asked for by the request for a path is that path's text without its mark. -/
theorem fetch_repository {asked : String} (same : r.request asked = r.request path)
    (plain : NamePath path) :
    (w.fetch (.repository r false) asked).toOption =
      (files.textBelow? folder path).map unmarked := by
  obtain ⟨q,body,made,answered⟩ := published.serves path plain
  rw [World.fetch_repository (same.trans made) answered]
  cases files.textBelow? folder path <;> rfl

end Published

/-- Setup from the source at a location. -/
def setupAt (w : World) (registry : Registry) (location : Location) (manifest : String)
    (options : SetupOptions) : Except TemplateError Report × Registry :=
  (registry.setup (location.source w.surroundings.read w.network) location manifest options
    w.pace).run

theorem setupAt_eq (w : World) (registry : Registry) (location : Location) (manifest : String)
    (options : SetupOptions) : w.setupAt registry location manifest options =
      (registry.setup (Source.ofFunction (w.fetch location)) location manifest options w.pace).run := by
  rw [setupAt,source_eq]

/-- No text that setup reads from a folder begins with a mark. -/
structure ReadsUnmarked (files : Files) (root : String) (folder : List String) (manifest : String)
    (options : SetupOptions) : Prop where
  listing : ∀ text, files.textBelow? folder manifest = some text → Unmarked text
  templates : ∀ listing entries, files.textBelow? folder manifest = some listing →
    Manifest.parse listing = .ok entries → ∀ e ∈ entries, options.keeps e →
    ∀ text, files.textBelow? folder (e.path (.folder root) manifest) = some text → Unmarked text

namespace Published

open Setup

variable (published : w.Published files root folder r) (plain : NamePath manifest)
  (named : ∀ listing entries, files.textBelow? folder manifest = some listing →
    Manifest.parse (unmarked listing) = .ok entries → ∀ e ∈ entries, NamePath e.template)
include published plain named

/-- Setup from the repository comes to the same as setup from any table of its texts without their
marks, at whatever pace. -/
theorem alike_of_table (registry : Registry) (options : SetupOptions) {f : String → Fetched}
    (listed : (f manifest).toOption = (files.textBelow? folder manifest).map unmarked)
    (texts : ∀ listing entries, files.textBelow? folder manifest = some listing →
      Manifest.parse (unmarked listing) = .ok entries → ∀ e ∈ entries, options.keeps e →
      (f (e.path (.folder root) manifest)).toOption =
        (files.textBelow? folder (e.path (.folder root) manifest)).map unmarked) (pace : Pace) :
    Alike (w.setupAt registry (.repository r false) manifest options)
      (registry.setup (Source.ofFunction f) (.folder root) manifest options pace).run := by
  have fetched := published.fetch_repository rfl plain
  rw [setupAt_eq]
  refine setup_alike registry options (fetched.trans listed.symm) ?_ w.pace pace
  intro text entries found parsed e member keeps
  rw [found] at fetched
  obtain ⟨listing,there,rfl⟩ := Option.map_eq_some_iff.mp fetched.symm
  have path := e.namePath_path (named listing entries there parsed e member) root manifest
  rw [Entry.path_repository e r root,published.fetch_repository (r.request_slash _) path,
    texts listing entries there parsed e member keeps]

theorem alike_unmarked (registry : Registry) (options : SetupOptions) :
    Alike (w.setupAt registry (.repository r false) manifest options)
      (registry.setup (Source.ofFunction fun path => (w.fetch (.folder root) path).map unmarked)
        (.folder root) manifest options).run := by
  refine published.alike_of_table plain named registry options ?_ ?_ .prompt
  · rw [toOption_map,published.fetch_folder plain]
  · intro listing entries there parsed e member _
    have path := e.namePath_path (named listing entries there parsed e member) root manifest
    rw [toOption_map,published.fetch_folder path]

theorem alike_folder (registry : Registry) {options : SetupOptions}
    (reads : ReadsUnmarked files root folder manifest options) :
    Alike (w.setupAt registry (.repository r false) manifest options)
      (w.setupAt registry (.folder root) manifest options) := by
  have same {path : String} (none : ∀ text, files.textBelow? folder path = some text →
      Unmarked text) : files.textBelow? folder path =
        (files.textBelow? folder path).map unmarked := by
    cases there : files.textBelow? folder path with
    | none => rfl
    | some text => rw [Option.map_some,unmarked_eq (none text there)]
  rw [setupAt_eq w registry (.folder root)]
  refine published.alike_of_table plain named registry options ?_ ?_ w.pace
  · rw [published.fetch_folder plain]
    exact same reads.listing
  · intro listing entries there parsed e member keeps
    have path := e.namePath_path (named listing entries there parsed e member) root manifest
    rw [published.fetch_folder path]
    rw [unmarked_eq (reads.listing listing there)] at parsed
    exact same (reads.templates listing entries there parsed e member keeps)

omit named in
/-- From a folder a manifest with a mark cannot be read. -/
theorem refused_of_marked (registry : Registry) (options : SetupOptions) {text : String}
    (there : files.textBelow? folder manifest = some text) (marked : ¬ Unmarked text) :
    ∃ message, w.setupAt registry (.folder root) manifest options =
      (.error (.invalidManifest message),registry) := by
  have found := published.fetch_folder plain
  rw [there,toOption_eq_some_iff] at found
  obtain ⟨message,refused⟩ := Manifest.parse_marked marked
  rw [setupAt_eq,setup_ofFunction,found]
  simp only [refused]
  exact ⟨message,rfl⟩

/-- Setup from a repository comes to the same as setup from a folder of the same files without their
marks, and as setup from the folder itself where nothing that it reads has a mark. A manifest with a
mark cannot be read from the folder at all. -/
theorem setup_alike_unmarked (registry : Registry) (options : SetupOptions) :
    Alike (w.setupAt registry (.repository r false) manifest options)
      (registry.setup (Source.ofFunction fun path => (w.fetch (.folder root) path).map unmarked)
        (.folder root) manifest options).run ∧
    (ReadsUnmarked files root folder manifest options →
      Alike (w.setupAt registry (.repository r false) manifest options)
        (w.setupAt registry (.folder root) manifest options)) ∧
    ∀ text, files.textBelow? folder manifest = some text → ¬ Unmarked text → ∃ message,
      w.setupAt registry (.folder root) manifest options =
        (.error (.invalidManifest message),registry) :=
  ⟨published.alike_unmarked plain named registry options,
    published.alike_folder plain named registry,
    fun _ there marked => published.refused_of_marked plain registry options there marked⟩

end Published

def shelf (text : String) : Files :=
  ⟨[(["Manifest.json"],some text.toUTF8),
    (["EventTemplate","handlebars","here"],some "1".toUTF8)]⟩

def publishing (text : String) : World :=
  ⟨(shelf text).bytes,Site.templates.answers ((shelf text).textBelow? []),[],.together⟩

def copied : Repository := Site.templates.repository "main" (some "t") 0

theorem shelf_rooted (text : String) : Rooted (shelf text) "." [] where
  tree := ⟨by simp [shelf],by simp [shelf]; decide +kernel⟩
  relative := by decide
  whole := by decide
  leads := rfl
  near := by
    intro path _ contents found
    rcases List.mem_cons.mp (Files.mem_of_lookup found) with same | member
    · rw [Files.path_of_steps (Prod.mk.inj same).1]
      decide +kernel
    · rw [Files.path_of_steps (Prod.mk.inj (List.mem_singleton.mp member)).1]
      decide +kernel

theorem publishing_published (text : String) :
    (publishing text).Published (shelf text) "." [] copied where
  held := rfl
  rooted := shelf_rooted text
  serves := by
    have sent : (Site.templates.proof (some "t")).all fun value =>
        value.toList.all Request.isHeaderChar := by
      decide
    exact Site.templates.serves sent "main" 0 ((shelf text).textBelow? [])

theorem shelf_text (text : String) : (shelf text).textBelow? [] "Manifest.json" = some text :=
  Text.fromUTF8?_toUTF8 text

theorem namePath_manifest : NamePath "Manifest.json" := by unfold NamePath; decide

def announced : String := "[[\"handlebars\",\"disk\",\"here\",null]]"

theorem announced_entries {entries : List Entry} (parsed : Manifest.parse announced = .ok entries) :
    entries = [⟨⟨.handlebars,"disk",none⟩,"here"⟩] := by
  have evaluated : (Manifest.parse announced).toOption = some [⟨⟨.handlebars,"disk",none⟩,"here"⟩] := by
    decide +kernel
  rw [parsed] at evaluated
  exact Option.some.inj evaluated

theorem setup_alike_unmarked_event :
    Setup.Alike
      ((publishing announced).setupAt (.standard true [.handlebars]) (.repository copied false)
        "Manifest.json" ⟨.overwrite,none⟩)
      ((publishing announced).setupAt (.standard true [.handlebars]) (.folder ".")
        "Manifest.json" ⟨.overwrite,none⟩) ∧
    ((publishing announced).setupAt (.standard true [.handlebars]) (.folder ".")
      "Manifest.json" ⟨.overwrite,none⟩).1.toOption = some ⟨0,1,0,0⟩ := by
  have known {text : String} (there : (shelf announced).textBelow? [] "Manifest.json" = some text) :
      text = announced := Option.some.inj (there.symm.trans (shelf_text announced))
  have plain : unmarked announced = announced := unmarked_eq (by unfold Unmarked; decide)
  refine ⟨((publishing_published announced).setup_alike_unmarked namePath_manifest ?_ _ _).2.1 ?_,
    by decide +kernel⟩
  · intro text entries there parsed e member
    rw [known there,plain] at parsed
    rw [announced_entries parsed,List.mem_singleton] at member
    rw [member]
    unfold NamePath
    decide
  · refine ⟨fun text there => ?_,fun text entries there parsed e member _ text' there' => ?_⟩
    · rw [known there]
      unfold Unmarked
      decide
    · rw [known there] at parsed
      rw [announced_entries parsed,List.mem_singleton] at member
      have template : (shelf announced).textBelow? [] (e.path (.folder ".") "Manifest.json") =
          some "1" := by
        rw [member]
        decide +kernel
      rw [Option.some.inj (there'.symm.trans template)]
      unfold Unmarked
      decide

/-- A manifest of nothing behind a mark is read from the repository, and is none in the folder. -/
theorem setup_apart_of_marked_manifest :
    (publishing "\uFEFF[]").Published (shelf "\uFEFF[]") "." [] copied ∧
    NamePath "Manifest.json" ∧ Manifest.parse (unmarked "\uFEFF[]") = .ok [] ∧
    ((publishing "\uFEFF[]").setupAt (.standard true [.handlebars]) (.repository copied false)
      "Manifest.json" ⟨.overwrite,none⟩).1 = .ok ⟨0,0,0,0⟩ ∧
    ¬ Setup.Alike
      ((publishing "\uFEFF[]").setupAt (.standard true [.handlebars]) (.repository copied false)
        "Manifest.json" ⟨.overwrite,none⟩)
      ((publishing "\uFEFF[]").setupAt (.standard true [.handlebars]) (.folder ".")
        "Manifest.json" ⟨.overwrite,none⟩) := by
  have parsed : (Manifest.parse (unmarked "\uFEFF[]")).toOption = some [] := by decide +kernel
  have repository : ((publishing "\uFEFF[]").setupAt (.standard true [.handlebars])
      (.repository copied false) "Manifest.json" ⟨.overwrite,none⟩).1.toOption =
        some ⟨0,0,0,0⟩ := by
    decide +kernel
  have folder : ((publishing "\uFEFF[]").setupAt (.standard true [.handlebars]) (.folder ".")
      "Manifest.json" ⟨.overwrite,none⟩).1.toOption = none := by
    decide +kernel
  rw [toOption_eq_some_iff] at parsed repository
  refine ⟨publishing_published _,namePath_manifest,parsed,repository,fun alike => ?_⟩
  have outcome := congrArg Except.toOption alike.outcome
  rw [toOption_mapError,toOption_mapError,folder,repository] at outcome
  cases outcome

end World
end Placard

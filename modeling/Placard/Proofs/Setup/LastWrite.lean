import Placard.Proofs.Setup.Outcomes
import Placard.Proofs.Target

/-! What setup leaves in the engines: for each target the template of its last entry, and
everything else as it was. -/
namespace Placard.Setup

variable {r r' : Registry} {f : String → Fetched} {pace : Pace} {path : Entry → String}
  {policy : DuplicatePolicy} {skipped : Nat} {kept : List Entry} {report : Report}

/-- Under the key of a target only entries for that target are registered. -/
theorem writesTo_key_iff (t : Target) (e : Entry) : WritesTo t.language t.key e ↔ e.target = t := by
  constructor
  · rintro ⟨-,same⟩
    exact Target.key_injective same
  · rintro rfl
    exact ⟨rfl,rfl⟩

def last? (t : Target) (entries : List Entry) : Option Entry :=
  entries.findRev? fun e => e.target = t

theorem last?_eq_some_iff {t : Target} {entries : List Entry} {e : Entry} :
    last? t entries = some e ↔
      ∃ front back, entries = front ++ e :: back ∧ e.target = t ∧ ∀ x ∈ back, x.target ≠ t := by
  rw [last?,List.findRev?_eq_find?_reverse,List.find?_eq_some_iff_append]
  constructor
  · rintro ⟨here,back,front,split,last⟩
    refine ⟨front.reverse,back.reverse,?_,by simpa using here,?_⟩
    · rw [← List.reverse_reverse entries,split]
      simp
    · simpa using last
  · rintro ⟨front,back,rfl,here,last⟩
    exact ⟨by simpa using here,back.reverse,front.reverse,by simp,by simpa using last⟩

theorem last?_eq_none_iff {t : Target} {entries : List Entry} :
    last? t entries = none ↔ ∀ e ∈ entries, e.target ≠ t := by
  simp [last?]

theorem last?_filter {t : Target} {p : Entry → Bool} (entries : List Entry)
    (keeps : ∀ e, e.target = t → p e) : last? t (entries.filter p) = last? t entries := by
  simp only [last?,List.findRev?_eq_find?_reverse,← List.filter_reverse,List.find?_filter]
  congr 1
  funext e
  by_cases here : e.target = t
  · simp [here,keeps e here]
  · simp [here]

/-- The last entry for a target decides what is found under the key of the target. -/
theorem serve_last {front back : List Entry} {e : Entry}
    (done : serve r f pace path policy skipped (front ++ e :: back) = (.ok report,r'))
    (last : ∀ x ∈ back, x.target ≠ e.target) :
    r'.compiled? e.target.language e.target.key =
      r.compile? e.target.language (withoutFinalNewline (textAt f (path e))) := by
  obtain ⟨-,-,registered⟩ := serve_eq_ok_iff.mp done
  rw [List.map_append,List.map_cons] at registered
  refine registerAll_last registered fun q member => ?_
  obtain ⟨x,inside,rfl⟩ := List.mem_map.mp member
  exact fun writes => last x inside ((writesTo_key_iff e.target x).mp writes)

theorem serve_frame (done : serve r f pace path policy skipped kept = (.ok report,r')) {l : Language}
    {id : String} (apart : ∀ e ∈ kept, ¬ WritesTo l id e) :
    r'.compiled? l id = r.compiled? l id := by
  obtain ⟨-,-,registered⟩ := serve_eq_ok_iff.mp done
  have frame : (registerAll r ⟨0,0,0,skipped⟩ (kept.map (withText f path))).2.compiled? l id =
      r.compiled? l id := by
    refine registerAll_frame r _ fun q member => ?_
    obtain ⟨e,inside,rfl⟩ := List.mem_map.mp member
    exact apart e inside
  rwa [registered] at frame

theorem serve_compiled (done : serve r f pace path policy skipped kept = (.ok report,r'))
    (t : Target) :
    r'.compiled? t.language t.key =
      match last? t kept with
      | some e => r.compile? t.language (withoutFinalNewline (textAt f (path e)))
      | none => r.compiled? t.language t.key := by
  cases found : last? t kept with
  | some e =>
    obtain ⟨front,back,rfl,rfl,last⟩ := last?_eq_some_iff.mp found
    exact serve_last done last
  | none =>
    exact serve_frame done fun e member writes =>
      last?_eq_none_iff.mp found e member ((writesTo_key_iff t e).mp writes)

theorem serve_bare (done : serve r f pace path policy skipped kept = (.ok report,r'))
    (l : Language) : r'.bare? l = r.bare? l := by
  obtain ⟨-,-,registered⟩ := serve_eq_ok_iff.mp done
  have bare := registerAll_bare r ⟨0,0,0,skipped⟩ (kept.map (withText f path)) l
  rwa [registered] at bare

/-- All texts of a setup that succeeds compile with the extensions from before it. -/
theorem serve_compiles (done : serve r f pace path policy skipped kept = (.ok report,r')) :
    ∀ e ∈ kept, Compiles r (withText f path e) := by
  obtain ⟨-,-,registered⟩ := serve_eq_ok_iff.mp done
  have compiles := (registerAll_ok_iff r ⟨0,0,0,skipped⟩ (kept.map (withText f path))).mp
    ⟨report,by rw [registered]⟩
  simpa using compiles

/-- What setup leaves of the entries that it keeps: for each target the last text, less one line end,
compiled under the key of the target, which is what rendering renders, and everything else as it was. -/
structure LastWrites (r : Registry) (f : String → Fetched) (path : Entry → String)
    (kept : List Entry) (r' : Registry) : Prop where
  last : ∀ t e, last? t kept = some e → ∃ text c engine, f (path e) = .ok text ∧
    r.compile? t.language (withoutFinalNewline text) = some c ∧
    r'.compiled? t.language t.key = some c ∧ r'.engine? t.language = some engine ∧
    ∀ data, (r'.render t data).1 =
      (engine.renderCompiled t.key data c).mapError (TemplateError.forTarget t)
  unlisted : ∀ t, last? t kept = none →
    r'.compiled? t.language t.key = r.compiled? t.language t.key
  others : ∀ l id, (∀ e ∈ kept, ¬ WritesTo l id e) → r'.compiled? l id = r.compiled? l id
  /-- All helpers, tags and settings stay. -/
  bare : ∀ l, r'.bare? l = r.bare? l

/-- Setup is last write wins and nothing else. -/
theorem setup_last_write_wins {r r' : Registry} {f : String → Fetched} {location : Location}
    {manifest : String} {options : SetupOptions} {report : Report}
    (done : (r.setup (Source.ofFunction f) location manifest options).run = (.ok report,r')) :
    ∃ kept skipped, Kept f manifest options kept skipped ∧
      LastWrites r f (Entry.path location manifest) kept r' := by
  obtain ⟨kept,skipped,lists⟩ := kept_of_ok done
  rw [setup_of_kept lists] at done
  refine ⟨kept,skipped,lists,?_,?_,?_,serve_bare done⟩
  · intro t e found
    obtain ⟨front,back,rfl,rfl,-⟩ := last?_eq_some_iff.mp found
    obtain ⟨-,texts,-⟩ := serve_eq_ok_iff.mp done
    have compiles := serve_compiles done e (by simp)
    obtain ⟨c,compiled⟩ := Option.isSome_iff_exists.mp compiles
    have held := serve_compiled done e.target
    simp only [withText] at compiled
    simp only [found,compiled] at held
    obtain ⟨engine,engines,renders⟩ := Registry.render_of_compiled? held
    exact ⟨_,c,engine,texts e (by simp),compiled,held,engines,renders⟩
  · intro t none
    have held := serve_compiled done t
    simpa only [none] using held
  · intro l id apart
    exact serve_frame done apart

def relisted : String → Fetched
  | "Manifest.json" => .ok ("[[\"handlebars\",\"disk\",\"first\",null]," ++
      "[\"handlebars\",\"disk:full\",\"first\",null],[\"handlebars\",\"disk\",\"last\",null]]")
  | "EventTemplate/handlebars/first" => .ok "1\n"
  | "EventTemplate/handlebars/last" => .ok "2\n"
  | path => .error (.notFound path)

theorem lastWrites_listed_twice : ∃ report r',
    ((Registry.standard true [.handlebars]).setup (Source.ofFunction relisted) (.folder ".")
      "Manifest.json" ⟨.overwrite,none⟩).run = (.ok report,r') ∧ report.overwritten = 1 ∧
    ∃ kept skipped, Kept relisted "Manifest.json" ⟨.overwrite,none⟩ kept skipped ∧
      LastWrites (.standard true [.handlebars]) relisted (Entry.path (.folder ".") "Manifest.json")
        kept r' := by
  have reported : ((Registry.standard true [.handlebars]).setup (Source.ofFunction relisted)
      (.folder ".") "Manifest.json" ⟨.overwrite,none⟩).run.1.toOption = some ⟨0,3,1,0⟩ := by
    decide +kernel
  rcases done : ((Registry.standard true [.handlebars]).setup (Source.ofFunction relisted)
      (.folder ".") "Manifest.json" ⟨.overwrite,none⟩).run with ⟨_ | report,r'⟩
  · simp [done,Except.toOption] at reported
  · simp only [done,Except.toOption,Option.some.injEq] at reported
    exact ⟨report,r',rfl,by rw [reported],setup_last_write_wins done⟩

end Placard.Setup

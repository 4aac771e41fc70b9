import Placard.Proofs.Setup.LastWrite

/-! Setup against its entries one by one. Reading a template and registering it at once, entry after
entry, comes to the same as reading all of them and then registering all of them. -/
namespace Placard

def Report.of (entries : List Entry) (again : List Bool) : Report where
  cards := entries.countP fun e => e.target.client.isSome
  events := entries.countP fun e => e.target.client.isNone
  overwritten := again.count true
  skipped := 0

/-- The counts of two reports together. -/
def Report.plus (a b : Report) : Report where
  cards := a.cards + b.cards
  events := a.events + b.events
  overwritten := a.overwritten + b.overwritten
  skipped := a.skipped + b.skipped

theorem Report.plus_of_nil (report : Report) : report.plus (.of [] []) = report := rfl

theorem Report.zero_plus_of (entries : List Entry) (again : List Bool) :
    Report.plus ⟨0,0,0,0⟩ (.of entries again) = .of entries again := by
  simp [plus,of]

theorem Report.counting_plus_of (report : Report) (e : Entry) (again : Bool) (entries : List Entry)
    (more : List Bool) :
    (Setup.Report.counting report e again).plus (.of entries more) =
      report.plus (.of (e :: entries) (again :: more)) := by
  cases client : e.target.client <;> cases again <;>
    simp [Setup.Report.counting,plus,of,client,Nat.add_assoc,Nat.add_comm 1]

/-- Registers a row of entries, each on its own, whatever comes of those before it. -/
def Registry.registerEach [Monad m] (r : Registry) (source : Source m) (location : Location)
    (manifest : String) : List Entry → m (List (Except TemplateError Bool) × Registry)
  | [] => return ([],r)
  | e :: rest => do
    let (answer,r) ← r.registerEntry source location manifest e
    let (answers,r) ← r.registerEach source location manifest rest
    return (answer :: answers,r)

namespace Setup

variable {f : String → Fetched} {g : String → List α} {source : Source (StateM (List α))}
  {r r' : Registry} {location : Location} {manifest : String}

/-- An entry whose text is there is read and registered. -/
theorem registerEntry_logs (logs : ∀ path, Logs (source.fetch path) (f path) (g path)) {e : Entry}
    (found : HasText f (Entry.path location manifest) e) {again : Bool}
    (registered : r.registerText e.target.language e.target.key
      (textAt f (e.path location manifest)) = .ok (again,r')) :
    Logs (r.registerEntry source location manifest e) (.ok again,r')
      (g (e.path location manifest)) := by
  intro log
  have read := read_logs logs (e.path location manifest) log
  rw [found,mapError_ok] at read
  cases engine : r.engine e.target.language with
  | error err =>
    simp [Registry.registerText,Registry.change,engine,Bind.bind,Except.bind] at registered
  | ok _ => simp [Registry.registerEntry,Registry.readAndRegister,engine,read,registered]

/-- A row that can be registered as a whole can be registered one by one, to the same end. -/
theorem registerEach_logs (logs : ∀ path, Logs (source.fetch path) (f path) (g path))
    {report report' : Report} {entries : List Entry}
    (texts : ∀ e ∈ entries, HasText f (Entry.path location manifest) e)
    (done : registerAll r report (entries.map (withText f (Entry.path location manifest))) =
      (.ok report',r')) :
    ∃ again : List Bool,
      Logs (r.registerEach source location manifest entries) (again.map .ok,r')
        ((entries.map (Entry.path location manifest)).flatMap g) ∧
      report' = report.plus (.of entries again) := by
  induction entries generalizing r report with
  | nil =>
    simp only [List.map_nil,registerAll,Prod.mk.injEq,Except.ok.injEq] at done
    obtain ⟨rfl,rfl⟩ := done
    exact ⟨[],Logs.pure _,(Report.plus_of_nil report).symm⟩
  | cons e rest ih =>
    obtain ⟨found,texts⟩ := List.forall_mem_cons.mp texts
    obtain ⟨again,r₁,step,done⟩ := registerAll_cons_ok_iff.mp done
    obtain ⟨more,later,counted⟩ := ih texts done
    refine ⟨again :: more,?_,?_⟩
    · have here := registerEntry_logs logs found step
      intro log
      simp [Registry.registerEach,here log,later (log ++ _)]
    · rw [counted]
      exact Report.counting_plus_of ..

theorem filter_keeps_none (policy : DuplicatePolicy) (entries : List Entry) :
    entries.filter (SetupOptions.keeps ⟨policy,none⟩) = entries :=
  List.filter_eq_self.mpr fun _ _ => rfl

theorem kept_whole {policy : DuplicatePolicy} {kept : List Entry} {skipped : Nat}
    (lists : Kept f manifest ⟨policy,none⟩ kept skipped) :
    ∃ text, f manifest = .ok text ∧ Manifest.parse text = .ok kept ∧ skipped = 0 := by
  obtain ⟨text,entries,found,parsed,rfl,rfl⟩ := lists
  rw [filter_keeps_none]
  exact ⟨text,found,parsed,Nat.sub_self _⟩

/-- Where setup of a whole manifest succeeds, so does registering its entries one by one from the same
registry: every answer is a success, the same templates are read, and the registry ends the same. The
report counts the entries, and the answers that say of a key that it was there before. -/
theorem setup_one_by_one {r r' : Registry} {f : String → Fetched} {location : Location}
    {manifest : String} {report : Report} {paths : List String}
    (done : (r.setup (Source.recording f) location manifest ⟨.overwrite,none⟩).run [] =
      ((.ok report,r'),paths)) :
    ∃ text entries again, f manifest = .ok text ∧ Manifest.parse text = .ok entries ∧
      paths = manifest :: entries.map (Entry.path location manifest) ∧
      (r.registerEach (Source.recording f) location manifest entries).run [] =
        ((again.map .ok,r'),entries.map (Entry.path location manifest)) ∧
      report = .of entries again := by
  have logged := setup_logs (recording_logs f) r location manifest ⟨.overwrite,none⟩ .prompt []
  rw [done,List.nil_append,List.flatMap_singleton'] at logged
  obtain ⟨ended,rfl⟩ := Prod.mk.inj logged
  obtain ⟨kept,skipped,lists⟩ := kept_of_ok ended.symm
  have served := setup_of_kept lists r location .prompt
  rw [← ended] at served
  obtain ⟨checked,texts,registered⟩ := serve_eq_ok_iff.mp served.symm
  have asks := asked_of_kept lists r location .prompt
  simp only [(check_eq_ok_iff r .overwrite kept).mpr checked,
    tried_of_texts ((textAt_paths_iff f _ kept).mpr texts)] at asks
  obtain ⟨text,found,parsed,rfl⟩ := kept_whole lists
  obtain ⟨again,each,counted⟩ := registerEach_logs (recording_logs f) texts registered
  refine ⟨text,kept,again,found,parsed,asks,?_,counted.trans (Report.zero_plus_of kept again)⟩
  have each := each []
  rwa [List.nil_append,List.flatMap_singleton'] at each

theorem one_by_one_listed_twice : ∃ report r' paths text entries again,
    ((Registry.standard true [.handlebars]).setup (Source.recording relisted) (.folder ".")
      "Manifest.json" ⟨.overwrite,none⟩).run [] = ((.ok report,r'),paths) ∧
    relisted "Manifest.json" = .ok text ∧ Manifest.parse text = .ok entries ∧
    paths = "Manifest.json" :: entries.map (Entry.path (.folder ".") "Manifest.json") ∧
    ((Registry.standard true [.handlebars]).registerEach (Source.recording relisted) (.folder ".")
      "Manifest.json" entries).run [] =
        ((again.map .ok,r'),entries.map (Entry.path (.folder ".") "Manifest.json")) ∧
    report = .of entries again ∧ report.overwritten = 1 := by
  have reported : ((Registry.standard true [.handlebars]).setup (Source.recording relisted)
      (.folder ".") "Manifest.json" ⟨.overwrite,none⟩).run [] |>.1.1.toOption = some ⟨0,3,1,0⟩ := by
    decide +kernel
  rcases done : ((Registry.standard true [.handlebars]).setup (Source.recording relisted)
      (.folder ".") "Manifest.json" ⟨.overwrite,none⟩).run [] with ⟨⟨_ | report,r'⟩,paths⟩
  · simp [done,Except.toOption] at reported
  · simp only [done,Except.toOption,Option.some.injEq] at reported
    obtain ⟨text,entries,again,found,parsed,asked,each,counted⟩ := setup_one_by_one done
    exact ⟨report,r',paths,text,entries,again,rfl,found,parsed,asked,each,counted,by rw [reported]⟩

end Setup
end Placard

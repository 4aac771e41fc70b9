import Placard.Proofs.Registry.Storing
import Placard.Proofs.Setup.Strictness

/-! What setup does not depend on. Entries for different targets may be listed in any order, and a
setup that has succeeded may be done once more: it ends with the same templates and the same keys. -/
namespace Placard

theorem Registry.uncounted_eq_iff {r r' : Registry} : r'.uncounted = r.uncounted ↔
    r'.handlebars = r.handlebars ∧ r'.liquid = r.liquid ∧ r'.keys = r.keys := by
  simp [uncounted]

namespace Setup

variable {r r' : Registry} {f f' : String → Fetched} {path path' : Entry → String}
  {policy : DuplicatePolicy} {skipped : Nat} {kept kept' : List Entry} {report report' : Report}
  {pairs : List (Entry × String)}

def templates (r : Registry) (pairs : List (Entry × String)) : List (String × Compiled) :=
  pairs.filterMap fun p =>
    (r.compile? p.1.target.language (withoutFinalNewline p.2)).map (p.1.target.key,·)

theorem templates_of_bare (same : ∀ l, r'.bare? l = r.bare? l) (pairs : List (Entry × String)) :
    templates r' pairs = templates r pairs := by
  simp only [templates,Registry.compile?_of_bare (same _)]

theorem mem_templates {w : String × Compiled} (member : w ∈ templates r pairs) :
    ∃ p ∈ pairs, r.compile? p.1.target.language (withoutFinalNewline p.2) = some w.2 ∧
      p.1.target.key = w.1 := by
  obtain ⟨p,listed,here⟩ := List.mem_filterMap.mp member
  obtain ⟨c,compiles,rfl⟩ := Option.map_eq_some_iff.mp here
  exact ⟨p,listed,compiles,rfl⟩

theorem coherent_templates (r : Registry) (pairs : List (Entry × String)) :
    Registry.Coherent (templates r pairs) := by
  intro w here w' there same
  obtain ⟨p,-,compiles,key⟩ := mem_templates here
  obtain ⟨p',-,compiles',key'⟩ := mem_templates there
  have target : p.1.target = p'.1.target := Target.key_injective (key.trans (same.trans key'.symm))
  rw [Registry.language_of_compile? compiles,Registry.language_of_compile? compiles',target]

theorem keys_templates (r : Registry) (pairs : List (Entry × String)) :
    ((templates r pairs).map (·.1)).Sublist (keys (pairs.map (·.1))) := by
  induction pairs with
  | nil => exact List.Sublist.slnil
  | cons p rest ih =>
    cases compiles : r.compile? p.1.target.language (withoutFinalNewline p.2) with
    | none => simpa [templates,compiles,keys] using ih.cons p.1.target.key
    | some c => simpa [templates,compiles,keys] using ih

/-- A row that goes through stores its templates. -/
theorem registerAll_store (done : registerAll r report pairs = (.ok report',r')) :
    r'.uncounted = (templates r pairs).foldl Registry.store r.uncounted := by
  induction pairs generalizing r report with
  | nil =>
    cases done
    rfl
  | cons p rest ih =>
    obtain ⟨again,r₁,step,done⟩ := registerAll_cons_ok_iff.mp done
    obtain ⟨c,compiles,stores⟩ := Registry.registerText_store step
    obtain ⟨_,-,stored⟩ := Registry.registerText_ok step
    rw [ih done,templates_of_bare stored.bare,stores]
    simp [templates,compiles]

theorem exists_registerAll (compiles : ∀ p ∈ pairs, Compiles r p) (report : Report) :
    ∃ report' r', registerAll r report pairs = (.ok report',r') := by
  obtain ⟨report',done⟩ := (registerAll_ok_iff r report pairs).mpr compiles
  exact ⟨report',(registerAll r report pairs).2,Prod.ext done rfl⟩

/-- A row of entries with keys of their own is registered in any order to the same end. -/
theorem registerAll_perm {pairs' : List (Entry × String)} (order : pairs.Perm pairs')
    (apart : (keys (pairs.map (·.1))).Nodup)
    (done : registerAll r ⟨0,0,0,skipped⟩ pairs = (.ok report,r')) :
    ∃ r'', registerAll r ⟨0,0,0,skipped⟩ pairs' = (.ok report,r'') ∧
      r''.uncounted = r'.uncounted := by
  have compiles := compiles_of_registered done
  obtain ⟨report',r'',done'⟩ := exists_registerAll
    (fun p member => compiles p (order.mem_iff.mpr member)) ⟨0,0,0,skipped⟩
  have entries : (pairs.map (·.1)).Perm (pairs'.map (·.1)) := order.map _
  have apart' : (keys (pairs'.map (·.1))).Nodup := (entries.map _).nodup_iff.mp apart
  have reported : report' = report := by
    rw [report_of_registerAll done,report_of_registerAll done',replaced_of_apart apart,
      replaced_of_apart apart']
    simp only [entries.countP_eq]
  have once : ((templates r pairs).map (·.1)).Nodup := (keys_templates r pairs).nodup apart
  refine ⟨r'',reported ▸ done',?_⟩
  rw [registerAll_store done,registerAll_store done']
  exact (Registry.foldl_store_perm (order.filterMap _) once r.uncounted).symm

/-- Entries that are kept, with targets of their own, come to the same in any order, wherever the same
texts are found for them. -/
theorem serve_perm (order : kept.Perm kept') (apart : (kept.map Entry.target).Nodup)
    (same : ∀ e ∈ kept, f' (path' e) = f (path e))
    (done : serve r f .prompt path policy skipped kept = (.ok report,r')) :
    ∃ r'', serve r f' .prompt path' policy skipped kept' = (.ok report,r'') ∧
      r''.uncounted = r'.uncounted := by
  obtain ⟨checked,texts,registered⟩ := serve_eq_ok_iff.mp done
  have alike : ∀ e ∈ kept', f' (path' e) = f (path e) := fun e member =>
    same e (order.mem_iff.mpr member)
  have checked' : Checked r policy kept' := by
    refine ⟨fun e member => checked.engines e (order.mem_iff.mpr member),fun strict => ?_⟩
    exact (order.map _).nodup_iff.mp (checked.apart strict)
  have texts' : ∀ e ∈ kept', HasText f' path' e := by
    intro e member
    have found := texts e (order.mem_iff.mpr member)
    rw [HasText,textAt,alike e member]
    exact found
  have row : kept'.map (withText f' path') = kept'.map (withText f path) :=
    List.map_congr_left fun e member => by simp only [withText,textAt,alike e member]
  have keys : (keys ((kept.map (withText f path)).map (·.1))).Nodup := by
    rw [List.map_map,nodup_keys_iff]
    simpa [Function.comp_def,withText] using apart
  rw [serve_of_texts checked' texts',row]
  exact registerAll_perm (order.map _) keys registered

variable {location : Location} {manifest manifest' : String} {options : SetupOptions}

/-- Manifests that keep the same entries in different orders come to the same setup. -/
theorem setup_perm (lists : Kept f manifest options kept skipped)
    (lists' : Kept f' manifest' options kept' skipped) (order : kept.Perm kept')
    (apart : (kept.map Entry.target).Nodup)
    (same : ∀ e ∈ kept, f' (e.path location manifest') = f (e.path location manifest))
    (done : (r.setup (Source.ofFunction f) location manifest options).run = (.ok report,r')) :
    ∃ r'', (r.setup (Source.ofFunction f') location manifest' options).run = (.ok report,r'') ∧
      r''.uncounted = r'.uncounted := by
  rw [setup_of_kept lists] at done
  rw [setup_of_kept lists']
  exact serve_perm order apart same done

/-- The order of a manifest does not matter if its entries that are kept are for different targets.
Two manifests that list the same entries in different orders, where the same is found for the entries
that are kept, are both set up or both not; if they are, then with the same report, the same engines
with the same templates in them, and the same noted keys. -/
theorem setup_reordered {text text' : String} {entries entries' : List Entry}
    (found : f manifest = .ok text) (parsed : Manifest.parse text = .ok entries)
    (found' : f' manifest' = .ok text') (parsed' : Manifest.parse text' = .ok entries')
    (order : entries.Perm entries')
    (apart : ((entries.filter options.keeps).map Entry.target).Nodup)
    (same : ∀ e ∈ entries.filter options.keeps,
      f' (e.path location manifest') = f (e.path location manifest)) :
    let once := (r.setup (Source.ofFunction f) location manifest options).run
    let other := (r.setup (Source.ofFunction f') location manifest' options).run
    ((∃ report, once.1 = .ok report) ↔ ∃ report, other.1 = .ok report) ∧
      ∀ report report', once.1 = .ok report → other.1 = .ok report' →
        report' = report ∧ other.2.handlebars = once.2.handlebars ∧
          other.2.liquid = once.2.liquid ∧ other.2.keys = once.2.keys := by
  intro once other
  have kept : (entries.filter options.keeps).Perm (entries'.filter options.keeps) := order.filter _
  have skipped : entries'.length - (entries'.filter options.keeps).length =
      entries.length - (entries.filter options.keeps).length := by
    rw [order.length_eq,kept.length_eq]
  have lists : Kept f manifest options (entries.filter options.keeps) _ :=
    ⟨text,entries,found,parsed,rfl,rfl⟩
  have lists' : Kept f' manifest' options (entries'.filter options.keeps) _ :=
    ⟨text',entries',found',parsed',rfl,rfl⟩
  rw [skipped] at lists'
  -- Either order goes through if the other one does; that they end alike is shown in one direction.
  have forth (report : Report) (done : once.1 = .ok report) :
      ∃ r'', other = (.ok report,r'') ∧ r''.uncounted = once.2.uncounted :=
    setup_perm lists lists' kept apart same (Prod.ext done rfl)
  have back (report : Report) (done : other.1 = .ok report) : ∃ report, once.1 = .ok report := by
    obtain ⟨r'',ended,-⟩ := setup_perm lists' lists kept.symm
      ((kept.map _).nodup_iff.mp apart)
      (fun e member => (same e (kept.mem_iff.mpr member)).symm) (Prod.ext done rfl)
    exact ⟨report,congrArg Prod.fst ended⟩
  refine ⟨⟨?_,?_⟩,fun report report' done done' => ?_⟩
  · rintro ⟨report,done⟩
    obtain ⟨r'',ended,-⟩ := forth report done
    exact ⟨report,congrArg Prod.fst ended⟩
  · rintro ⟨report,done⟩
    exact back report done
  · obtain ⟨r'',ended,held⟩ := forth report done
    rw [ended] at done' ⊢
    exact ⟨(Except.ok.inj done').symm,Registry.uncounted_eq_iff.mp held⟩

def pair (source template source' template' : String) : String :=
  "[[\"liquid\",\"" ++ source ++ "\",\"" ++ template ++ "\",null],[\"liquid\",\"" ++ source' ++
    "\",\"" ++ template' ++ "\",null]]"

def stacked (manifest path : String) : Fetched :=
  if path = "EventTemplate/liquid/m" then .ok manifest
  else if path = "EventTemplate/liquid/t" then .ok "1"
  else .error (.notFound path)

theorem stacked_manifest (manifest : String) :
    stacked manifest "EventTemplate/liquid/m" = .ok manifest :=
  if_pos rfl

theorem stacked_templates {path : String} (apart : path ≠ "EventTemplate/liquid/m")
    (manifest manifest' : String) : stacked manifest' path = stacked manifest path := by
  simp [stacked,apart]

/-- The events stand in either order, and one of their keys has been noted before. -/
theorem setup_swapped_after_noted_key :
    let s : Entry := ⟨⟨.liquid,"s",none⟩,"t"⟩
    let u : Entry := ⟨⟨.liquid,"u",none⟩,"t"⟩
    let setup (r : Registry) manifest only := (r.setup (Source.ofFunction (stacked manifest))
      (.folder ".") "EventTemplate/liquid/m" ⟨.reject,only⟩).run
    let r := (setup (.standard true [.liquid]) (pair "s" "t" "u" "t") (some u.target)).2
    let once := setup r (pair "s" "t" "u" "t") none
    let other := setup r (pair "u" "t" "s" "t") none
    Manifest.parse (pair "s" "t" "u" "t") = .ok [s,u] ∧
      Manifest.parse (pair "u" "t" "s" "t") = .ok [u,s] ∧ once.1 = .ok ⟨0,2,1,0⟩ ∧
      other.1 = .ok ⟨0,2,1,0⟩ ∧ other.2.handlebars = once.2.handlebars ∧
      other.2.liquid = once.2.liquid ∧ other.2.keys = once.2.keys := by
  intro s u setup r once other
  have evaluated : (Manifest.parse (pair "s" "t" "u" "t")).toOption = some [s,u] ∧
      (Manifest.parse (pair "u" "t" "s" "t")).toOption = some [u,s] ∧
      once.1.toOption = some ⟨0,2,1,0⟩ := by
    decide +kernel
  simp only [toOption_eq_some_iff] at evaluated
  obtain ⟨parsed,parsed',done⟩ := evaluated
  have apart : ∀ e ∈ [s,u].filter (SetupOptions.keeps ⟨.reject,none⟩),
      e.path (.folder ".") "EventTemplate/liquid/m" ≠ "EventTemplate/liquid/m" := by
    decide +kernel
  obtain ⟨both,same⟩ := setup_reordered (r := r) (stacked_manifest _) parsed (stacked_manifest _)
    parsed' (.swap _ _ _) (by decide) fun e member => stacked_templates (apart e member) _ _
  obtain ⟨report,done'⟩ := both.mp ⟨_,done⟩
  obtain ⟨rfl,held⟩ := same _ _ done done'
  exact ⟨parsed,parsed',done,done',held⟩

/-- The texts of the entries have to be the same. An entry may have the manifest for its template, and
then the order of the manifest is compiled. -/
theorem setup_order_of_manifest_as_template :
    ¬ ∀ (r : Registry) (f f' : String → Fetched) (location : Location) (manifest : String)
      (options : SetupOptions) (text text' : String) (entries entries' : List Entry),
      f manifest = .ok text → Manifest.parse text = .ok entries →
      f' manifest = .ok text' → Manifest.parse text' = .ok entries' →
      (∀ path, path ≠ manifest → f' path = f path) → entries.Perm entries' →
      ((entries.filter options.keeps).map Entry.target).Nodup →
      let once := (r.setup (Source.ofFunction f) location manifest options).run
      let other := (r.setup (Source.ofFunction f') location manifest options).run
      ((∃ report, once.1 = .ok report) ↔ ∃ report, other.1 = .ok report) ∧
        ∀ report report', once.1 = .ok report → other.1 = .ok report' →
          report' = report ∧ (∀ l id, other.2.compiled? l id = once.2.compiled? l id) ∧
            other.2.keys = once.2.keys := by
  intro claim
  let s : Entry := ⟨⟨.liquid,"s",none⟩,"m"⟩
  let u : Entry := ⟨⟨.liquid,"u",none⟩,"t"⟩
  let setup manifest := ((Registry.standard true [.liquid]).setup
    (Source.ofFunction (stacked manifest)) (.folder ".") "EventTemplate/liquid/m"
    ⟨.overwrite,none⟩).run
  let shown (held : Option Compiled) : Option String := held.bind fun c =>
    ((Engine.standard true .liquid).renderCompiled "" (.obj []) c).toOption
  have evaluated : (Manifest.parse (pair "s" "m" "u" "t")).toOption = some [s,u] ∧
      (Manifest.parse (pair "u" "t" "s" "m")).toOption = some [u,s] ∧
      (setup (pair "s" "m" "u" "t")).1.toOption = some ⟨0,2,0,0⟩ ∧
      (setup (pair "u" "t" "s" "m")).1.toOption = some ⟨0,2,0,0⟩ ∧
      shown ((setup (pair "u" "t" "s" "m")).2.compiled? .liquid s.target.key) ≠
        shown ((setup (pair "s" "m" "u" "t")).2.compiled? .liquid s.target.key) := by
    decide +kernel
  simp only [toOption_eq_some_iff] at evaluated
  obtain ⟨parsed,parsed',done,done',apart⟩ := evaluated
  obtain ⟨-,same⟩ := claim (.standard true [.liquid]) (stacked (pair "s" "m" "u" "t"))
    (stacked (pair "u" "t" "s" "m")) (.folder ".") "EventTemplate/liquid/m" ⟨.overwrite,none⟩
    _ _ _ _ (stacked_manifest _) parsed (stacked_manifest _) parsed'
    (fun path other => stacked_templates other _ _) (.swap _ _ _) (by decide)
  obtain ⟨-,held,-⟩ := same _ _ done done'
  exact apart (congrArg shown (held _ _))

/-- A row that has gone through goes through once more, finds all its keys noted, and stores what it
has stored. -/
theorem registerAll_again (done : registerAll r ⟨0,0,0,skipped⟩ pairs = (.ok report,r')) :
    ∃ r'', registerAll r' ⟨0,0,0,skipped⟩ pairs =
        (.ok { report with overwritten := report.cards + report.events },r'') ∧
      r''.uncounted = r'.uncounted := by
  have bare (l : Language) : r'.bare? l = r.bare? l := by
    have same := registerAll_bare r ⟨0,0,0,skipped⟩ pairs l
    rwa [done] at same
  have compiles (p : Entry × String) (member : p ∈ pairs) : Compiles r' p :=
    (compiles_of_bare bare).mpr (compiles_of_registered done p member)
  obtain ⟨report',r'',done'⟩ := exists_registerAll compiles ⟨0,0,0,skipped⟩
  have noted : ∀ e ∈ pairs.map (·.1), (r'.keys.lookup e.target.key).isSome := fun e member =>
    (noted_of_registerAll done _).mpr (.inl (List.mem_map_of_mem member))
  have reported : report' = { report with overwritten := report.cards + report.events } := by
    rw [report_of_registerAll done',report_of_registerAll done,replaced_of_noted noted,
      countP_cards_add_events]
  refine ⟨r'',reported ▸ done',?_⟩
  rw [registerAll_store done',templates_of_bare bare,registerAll_store done,
    Registry.foldl_store_again (coherent_templates r pairs)]

/-- A setup that has succeeded succeeds once more if it is done again at once. The engines with their
templates and the noted keys stay as they are, and the report is the same but for this: all that is
registered has been overwritten. -/
theorem setup_again
    (done : (r.setup (Source.ofFunction f) location manifest options).run = (.ok report,r')) :
    ∃ r'', (r'.setup (Source.ofFunction f) location manifest options).run =
        (.ok { report with overwritten := report.cards + report.events },r'') ∧
      r''.handlebars = r'.handlebars ∧ r''.liquid = r'.liquid ∧ r''.keys = r'.keys := by
  obtain ⟨kept,skipped,lists⟩ := kept_of_ok done
  rw [setup_of_kept lists] at done
  obtain ⟨checked,texts,registered⟩ := serve_eq_ok_iff.mp done
  have checked' : Checked r' options.duplicates kept := by
    refine ⟨fun e member => ?_,checked.apart⟩
    rw [HasEngine,Registry.isSome_engine?_of_bare (serve_bare done _)]
    exact checked.engines e member
  obtain ⟨r'',again,held⟩ := registerAll_again registered
  refine ⟨r'',?_,Registry.uncounted_eq_iff.mp held⟩
  rw [setup_of_kept lists,serve_of_texts checked' texts,again]

/-- An event is listed twice, so its first text comes back before the last one. -/
theorem setup_again_listed_twice : ∃ r' r'',
    ((Registry.standard true [.handlebars]).setup (Source.ofFunction relisted) (.folder ".")
      "Manifest.json" ⟨.overwrite,none⟩).run = (.ok ⟨0,3,1,0⟩,r') ∧
    (r'.setup (Source.ofFunction relisted) (.folder ".") "Manifest.json" ⟨.overwrite,none⟩).run =
      (.ok ⟨0,3,3,0⟩,r'') ∧
    r''.handlebars = r'.handlebars ∧ r''.liquid = r'.liquid ∧ r''.keys = r'.keys := by
  have reported : ((Registry.standard true [.handlebars]).setup (Source.ofFunction relisted)
      (.folder ".") "Manifest.json" ⟨.overwrite,none⟩).run.1.toOption = some ⟨0,3,1,0⟩ := by
    decide +kernel
  rcases done : ((Registry.standard true [.handlebars]).setup (Source.ofFunction relisted)
      (.folder ".") "Manifest.json" ⟨.overwrite,none⟩).run with ⟨_ | report,r'⟩
  · simp [done,Except.toOption] at reported
  · simp only [done,Except.toOption,Option.some.injEq] at reported
    subst reported
    obtain ⟨r'',again,held⟩ := setup_again done
    exact ⟨r',r'',rfl,again,held⟩

end Setup
end Placard

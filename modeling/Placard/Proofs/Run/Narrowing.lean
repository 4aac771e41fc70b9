import Placard.Proofs.Run.World
import Placard.Proofs.Setup.LastWrite

/-! Setting up the requested entries only. Fewer entries are checked, read and registered, but the
last one for the requested target is the same, and that is the template that a run renders. -/
namespace Placard

namespace Setup

theorem checked_filter {r : Registry} {policy : DuplicatePolicy} {kept : List Entry}
    (checked : Checked r policy kept) (p : Entry → Bool) : Checked r policy (kept.filter p) := by
  refine ⟨fun e member => checked.engines e (List.mem_filter.mp member).1,fun strict => ?_⟩
  have fewer : (keys (kept.filter p)).Sublist (keys kept) := List.filter_sublist.map _
  exact (checked.apart strict).sublist fewer

/-- What goes through with all entries goes through with some of them, from any table that has the
same texts for those. Targets of which no entry is left out get the same templates. -/
theorem serve_filter {r r' : Registry} {f f' : String → Fetched} {pace pace' : Pace} {path : Entry → String}
    {policy : DuplicatePolicy} {skipped : Nat} {kept : List Entry} {report : Report}
    (done : serve r f pace path policy skipped kept = (.ok report,r')) (p : Entry → Bool)
    (same : ∀ e ∈ kept, p e → f' (path e) = f (path e)) (skipped' : Nat) :
    ∃ report' r'', serve r f' pace' path policy skipped' (kept.filter p) = (.ok report',r'') ∧
      (∀ l, r''.bare? l = r'.bare? l) ∧
      ∀ t, (∀ e, e.target = t → p e) →
        r''.compiled? t.language t.key = r'.compiled? t.language t.key := by
  obtain ⟨checked,texts,-⟩ := serve_eq_ok_iff.mp done
  have alike : ∀ e ∈ kept.filter p, textAt f' (path e) = textAt f (path e) := by
    intro e member
    obtain ⟨member,chosen⟩ := List.mem_filter.mp member
    rw [textAt,same e member chosen,textAt]
  have texts' : ∀ e ∈ kept.filter p, HasText f' path e := by
    intro e member
    have found := alike e member
    obtain ⟨member,chosen⟩ := List.mem_filter.mp member
    rw [HasText,same e member chosen,found]
    exact texts e member
  -- What compiles is a matter of the extensions, which no registration before it has changed.
  have compiles : ∀ q ∈ (kept.filter p).map (withText f' path), Compiles r q := by
    refine List.forall_mem_map.mpr fun e member => ?_
    have whole := serve_compiles done e (List.mem_filter.mp member).1
    simpa only [Compiles,withText,alike e member] using whole
  obtain ⟨report',registered⟩ :=
    (registerAll_ok_iff r ⟨0,0,0,skipped'⟩ ((kept.filter p).map (withText f' path))).mpr compiles
  have narrow : serve r f' pace' path policy skipped' (kept.filter p) = (.ok report',_) :=
    serve_eq_ok_iff.mpr ⟨checked_filter checked p,texts',Prod.ext registered rfl⟩
  refine ⟨report',_,narrow,fun l => ?_,fun t whole => ?_⟩
  · rw [serve_bare narrow,serve_bare done]
  · rw [serve_compiled narrow,serve_compiled done,last?_filter kept whole]
    cases found : last? t kept with
    | none => rfl
    | some e =>
      obtain ⟨front,back,rfl,here,-⟩ := last?_eq_some_iff.mp found
      have chosen : e ∈ (front ++ e :: back).filter p := by simp [whole e here]
      simp only [alike e chosen]

end Setup

namespace Settings

def narrowed (s : Settings) : Settings := { s with setup.onlyRequested := true }

theorem narrowed_keeps (s : Settings) (e : Entry) :
    s.narrowed.setupOptions.keeps e = decide (e.target = s.render.target) := rfl

theorem filter_keeps (s : Settings) (entries : List Entry) :
    (entries.filter s.setupOptions.keeps).filter s.narrowed.setupOptions.keeps =
      entries.filter s.narrowed.setupOptions.keeps := by
  rw [List.filter_filter]
  refine List.filter_congr fun e _ => ?_
  rw [narrowed_keeps]
  cases narrow : s.setup.onlyRequested <;> simp [SetupOptions.keeps,setupOptions,narrow]

end Settings

theorem Run.payload_congr {r r' : Registry} {request : RenderRequest}
    (same : ∀ data, (r'.render request.target data).1 = (r.render request.target data).1) :
    Run.payload r' request = Run.payload r request := by
  simp only [Run.payload,same]

namespace World

/-- The templates of the entries for the requested target embed no others. -/
def Standalone (w : World) (settings : Settings) (location : Location) : Prop :=
  ∀ kept, w.requested? settings location = some kept → ∀ e ∈ kept, ∀ c,
    (registry settings).compile? e.target.language (withoutFinalNewline
      (Setup.textAt (w.fetch location) (e.path location settings.source.manifest))) = some c →
    c.Standalone

instance (w : World) (settings : Settings) (location : Location) :
    Decidable (w.Standalone settings location) :=
  inferInstanceAs <| Decidable <| ∀ kept ∈ w.requested? settings location, ∀ e ∈ kept, ∀ c ∈
    (registry settings).compile? e.target.language (withoutFinalNewline
      (Setup.textAt (w.fetch location) (e.path location settings.source.manifest))), c.Standalone

theorem setUp_narrowed {w w' : World} {settings : Settings} {location : Location}
    {report : Report} {r' : Registry} (done : w.setUp settings location = (.ok report,r'))
    (same : ∀ path ∈ w.asked settings location, w'.fetch location path = w.fetch location path)
    (alone : w.Standalone settings location) :
    ∃ report' r'', w'.setUp settings.narrowed location = (.ok report',r'') ∧
      ∀ data, (r''.render settings.render.target data).1 =
        (r'.render settings.render.target data).1 := by
  obtain ⟨kept,skipped,lists⟩ := Setup.kept_of_ok done
  rw [setUp,Setup.setup_of_kept lists] at done
  obtain ⟨checked,texts,-⟩ := Setup.serve_eq_ok_iff.mp done
  have asked : w.asked settings location =
      settings.source.manifest :: kept.map (Entry.path location settings.source.manifest) := by
    rw [World.asked,Setup.asked_of_kept lists]
    simp only [(Setup.check_eq_ok_iff (registry settings) _ kept).mpr checked,
      Setup.tried_of_texts ((Setup.textAt_paths_iff (w.fetch location) _ kept).mpr texts) w.pace]
  simp only [asked,List.forall_mem_cons,List.forall_mem_map] at same
  obtain ⟨sameManifest,samePaths⟩ := same
  obtain ⟨text,entries,found,parsed,rfl,rfl⟩ := lists
  have lists' : Setup.Kept (w'.fetch location) settings.source.manifest
      settings.narrowed.setupOptions (entries.filter settings.narrowed.setupOptions.keeps) _ :=
    ⟨text,entries,sameManifest.trans found,parsed,rfl,rfl⟩
  -- The whole setup has read all that the narrowed one reads.
  obtain ⟨report',r'',narrow,bare,held⟩ := Setup.serve_filter done
    settings.narrowed.setupOptions.keeps (fun e member _ => samePaths e member) _
  rw [settings.filter_keeps] at narrow
  refine ⟨report',r'',(Setup.setup_of_kept lists' _ _ _).trans narrow,fun data => ?_⟩
  refine Registry.render_congr (bare _) (held _ fun e here => ?_) (fun c stands => ?_) data
  · simp [Settings.narrowed_keeps,here]
  · rw [Setup.serve_compiled done] at stands
    cases last : Setup.last? settings.render.target (entries.filter settings.setupOptions.keeps) with
    | none =>
      simp only [last,registry,Registry.compiled?_standard] at stands
      cases stands
    | some e =>
      obtain ⟨front,back,split,here,-⟩ := Setup.last?_eq_some_iff.mp last
      have listed : e ∈ entries.filter settings.narrowed.setupOptions.keeps := by
        rw [← settings.filter_keeps,split]
        simp [Settings.narrowed_keeps,here]
      have requested : w.requested? settings location =
          some (entries.filter settings.narrowed.setupOptions.keeps) :=
        requested?_eq_some_iff.mpr ⟨text,entries,found,parsed,rfl⟩
      simp only [last] at stands
      rw [← here] at stands
      exact alone _ requested e listed c stands

/-- Narrowing setup to the requested entries does not change what a run comes to, if it comes to a
payload and the templates for the requested target embed no others. -/
theorem run_narrowed {w w' : World} {settings : Settings} {payload : String}
    (broad : w.settings = .ok settings) (narrow : w'.settings = .ok settings.narrowed)
    (same : ∀ location, settings.source.location = .ok location →
      ∀ path ∈ w.asked settings location, w'.fetch location path = w.fetch location path)
    (alone : ∀ location, settings.source.location = .ok location → w.Standalone settings location)
    (done : w.run = .ok payload) : w'.run = .ok payload := by
  rw [run_eq broad,outcome] at done
  rw [run_eq narrow,outcome]
  have source : settings.narrowed.source = settings.source := rfl
  have render : settings.narrowed.render = settings.render := rfl
  cases located : settings.source.location with
  | error e => simp [located] at done
  | ok location =>
    rcases ended : w.setUp settings location with ⟨err | report,r'⟩
    · simp [located,ended] at done
    · simp only [located,ended] at done
      obtain ⟨report',r'',narrowed,renders⟩ :=
        setUp_narrowed ended (same location located) (alone location located)
      simp only [source,render,located,narrowed,Run.payload_congr renders,done]

/-- A world with two events; unless its mode is a broad one, only the requested one is set up. -/
def office (mode : String) : World :=
  ofTexts
    [("config/default.json","\x7b\"render\":\x7b\"template_type\":\"handlebars\"," ++
        "\"source_type\":\"disk\"\x7d\x7d"),
      ("config/broad.json","\x7b\"setup\":\x7b\"only_requested\":false\x7d\x7d"),
      ("./TransformerConfig.json",
        "[[\"handlebars\",\"disk\",\"disk\",null],[\"handlebars\",\"cpu\",\"cpu\",null]]"),
      ("./EventTemplate/handlebars/disk","1"),
      ("./EventTemplate/handlebars/cpu","2\n")]
    [("RUN_MODE",mode)]

def officeSettings : Settings :=
  ⟨.default,⟨⟨.handlebars,"disk",none⟩,"\x7b\x7d"⟩,.default,⟨.overwrite,false⟩⟩

theorem run_narrowed_same_payload : (office "broad").settings = .ok officeSettings ∧
    (office "narrow").settings = .ok officeSettings.narrowed ∧
    (office "broad").run = .ok "1" ∧ (office "narrow").run = .ok "1" := by
  have evaluated : (office "broad").settings.toOption = some officeSettings ∧
      (office "narrow").settings.toOption = some officeSettings.narrowed ∧
      ((office "broad").outcome officeSettings).toOption = some "1" ∧
      (office "broad").Standalone officeSettings (.folder ".") := by
    decide +kernel
  simp only [toOption_eq_some_iff] at evaluated
  obtain ⟨broad,narrow,done,alone⟩ := evaluated
  rw [← run_eq broad] at done
  refine ⟨broad,narrow,done,run_narrowed broad narrow (fun _ _ _ _ => rfl) ?_ done⟩
  rintro _ ⟨⟩
  exact alone

end World
end Placard

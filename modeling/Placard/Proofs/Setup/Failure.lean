import Placard.Proofs.Setup.Outcomes

/-! How setup fails. Its stages come one after the other, and the first that something is wrong with
decides the error; only where a text does not compile has anything been registered by then. -/
namespace Placard.Setup

/-- Setup ends in an error, in a registry, after it has asked for some paths. Each rule says that
the stages before its own have gone through. -/
inductive Fails (r : Registry) (f : String → Fetched) (location : Location) (manifest : String)
    (options : SetupOptions) : TemplateError → Registry → List String → Prop
  | noManifest : f manifest = .error cause →
      Fails r f location manifest options (.fetchFailed manifest cause)
        (r.count (.fetchFailures cause.kind)) [manifest]
  | badManifest : f manifest = .ok text →
      Manifest.parse text = .error (.invalidManifest message) →
      Fails r f location manifest options (.invalidManifest message) r [manifest]
  | noEngine : Kept f manifest options (front ++ e :: back) skipped →
      (∀ x ∈ front, HasEngine r x) → ¬ HasEngine r e →
      Fails r f location manifest options (.engineNotFound e.target.language) r [manifest]
  | repeatedKey : Kept f manifest options (front ++ e :: back) skipped →
      (∀ x ∈ front ++ e :: back, HasEngine r x) → options.duplicates = .reject →
      (keys front).Nodup → e.target.key ∈ keys front →
      Fails r f location manifest options (.duplicateKey e.target.key) r [manifest]
  | noText : Kept f manifest options (front ++ e :: back) skipped →
      Checked r options.duplicates (front ++ e :: back) →
      (∀ x ∈ front, HasText f (Entry.path location manifest) x) →
      f (e.path location manifest) = .error cause →
      Fails r f location manifest options (.fetchFailed (e.path location manifest) cause)
        (r.count (.fetchFailures cause.kind))
        (manifest :: (front ++ [e]).map (Entry.path location manifest))
  | notCompiled : Kept f manifest options (front ++ e :: back) skipped →
      Checked r options.duplicates (front ++ e :: back) →
      (∀ x ∈ front ++ e :: back, HasText f (Entry.path location manifest) x) →
      (∀ x ∈ front, Compiles r (withText f (Entry.path location manifest) x)) →
      ¬ Compiles r (withText f (Entry.path location manifest) e) →
      registerAll r ⟨0,0,0,skipped⟩ (front.map (withText f (Entry.path location manifest))) =
        (.ok report,r') →
      Fails r f location manifest options (.compileFailed e.target.key) r'
        (manifest :: (front ++ e :: back).map (Entry.path location manifest))

/-- Templates, keys and the counts of registrations are those of the other registry. -/
structure Unregistered (r r' : Registry) : Prop where
  handlebars : r'.handlebars = r.handlebars
  liquid : r'.liquid = r.liquid
  keys : r'.keys = r.keys
  registered : ∀ l, r'.tally.count (.registered l) = r.tally.count (.registered l)
  overwritten : ∀ l, r'.tally.count (.overwritten l) = r.tally.count (.overwritten l)

theorem unregistered_refl (r : Registry) : Unregistered r r :=
  ⟨rfl,rfl,rfl,fun _ => rfl,fun _ => rfl⟩

theorem unregistered_count (r : Registry) (k : FetchErrorKind) :
    Unregistered r (r.count (.fetchFailures k)) :=
  ⟨rfl,rfl,rfl,fun _ => List.count_cons_of_ne (by simp),fun _ => List.count_cons_of_ne (by simp)⟩

variable {r r' : Registry} {f : String → Fetched} {location : Location} {manifest : String}
  {options : SetupOptions} {err : TemplateError} {paths : List String}

theorem Fails.unregistered (fails : Fails r f location manifest options err r' paths)
    (early : err.kind ≠ .compileFailed) : Unregistered r r' := by
  cases fails with
  | noManifest | noText => exact unregistered_count r _
  | badManifest | noEngine | repeatedKey => exact unregistered_refl r
  | notCompiled => simp [TemplateError.kind] at early

theorem split_of_map {g : α → β} {l : List α} {front back : List β} {b : β}
    (split : l.map g = front ++ b :: back) :
    ∃ before a after, l = before ++ a :: after ∧ before.map g = front ∧ g a = b ∧
      after.map g = back := by
  obtain ⟨before,rest,rfl,mapped,tail⟩ := List.map_eq_append_iff.mp split
  obtain ⟨a,after,rfl,here,later⟩ := List.map_eq_cons_iff.mp tail
  exact ⟨before,a,after,rfl,mapped,here,later⟩

theorem compiles_of_registered {r r' : Registry} {report report' : Report}
    {pairs : List (Entry × String)} (done : registerAll r report pairs = (.ok report',r')) :
    ∀ p ∈ pairs, Compiles r p :=
  (registerAll_ok_iff r report pairs).mp ⟨report',by rw [done]⟩

@[simp] theorem failedFetch_fetchFailed (r : Registry) (path : String) (cause : FetchError) :
    failedFetch r (.fetchFailed path cause) = r.count (.fetchFailures cause.kind) := rfl

/-- The entries that are kept fail by one of the rules. -/
theorem fails_of_serve {kept : List Entry} {skipped : Nat}
    (lists : Kept f manifest options kept skipped)
    (stuck : serve r f .prompt (Entry.path location manifest) options.duplicates skipped kept =
      (.error err,r')) :
    Fails r f location manifest options err r' (asked r f .prompt location manifest options) := by
  rw [asked_of_kept lists]
  -- The stage at which it stops decides on the rule: the checks, the texts, or a text's compilation.
  cases checking : check r options.duplicates kept with
  | error e =>
    simp only [serve,checking,Prod.mk.injEq,Except.error.injEq] at stuck
    obtain ⟨rfl,rfl⟩ := stuck
    rcases (check_eq_error_iff r options.duplicates kept e).mp checking with
      ⟨front,x,back,rfl,present,absent,rfl⟩ |
      ⟨engines,strict,front,x,back,rfl,apart,member,rfl⟩
    · exact .noEngine lists present absent
    · exact .repeatedKey lists engines strict apart member
  | ok _ =>
    have checked := (check_eq_ok_iff r options.duplicates kept).mp checking
    cases reading :
        (readAll (Source.ofFunction f) (kept.map (Entry.path location manifest))).run with
    | error e =>
      simp only [serve,checking,reading,Prod.mk.injEq,Except.error.injEq] at stuck
      obtain ⟨rfl,rfl⟩ := stuck
      obtain ⟨_,_,_,cause,split,found,missing,rfl⟩ := (readAll_eq_error_iff f _ e).mp reading
      obtain ⟨front,x,back,rfl,rfl,rfl,rfl⟩ := split_of_map split
      have rule : Fails r f location manifest options _ _ _ :=
        .noText lists checked ((textAt_paths_iff f _ front).mp found) missing
      simpa [tried_of_missing found missing] using rule
    | ok texts =>
      obtain ⟨found,rfl⟩ := (readAll_eq_ok_iff f _ _ texts).mp reading
      simp only [serve,checking,reading,zip_texts] at stuck
      have engines : ∀ p ∈ kept.map (withText f (Entry.path location manifest)),
          (r.engine? p.1.target.language).isSome :=
        List.forall_mem_map.mpr checked.engines
      obtain ⟨_,_,_,report,split,before,notCompiled,rfl⟩ := (registerAll_error_iff engines).mp stuck
      obtain ⟨front,x,back,rfl,rfl,rfl,rfl⟩ := split_of_map split
      have rule := Fails.notCompiled lists checked ((textAt_paths_iff f _ _).mp found)
        (List.forall_mem_map.mp (compiles_of_registered before)) notCompiled before
      simp only [tried_of_texts found]
      exact rule

theorem invalidManifest_of_parse {text : String} {e : TemplateError}
    (refused : Manifest.parse text = .error e) : ∃ message, e = .invalidManifest message := by
  unfold Manifest.parse at refused
  cases read : Json.parseAs (Medium.list (Medium.record Entry.shape)) text with
  | error message =>
    simp only [read,mapError_error,Except.error.injEq] at refused
    exact ⟨message,refused.symm⟩
  | ok entries => simp [read] at refused

/-- Setup fails by one of the rules. -/
theorem fails_of_setup
    (stuck : (r.setup (Source.ofFunction f) location manifest options).run = (.error err,r')) :
    Fails r f location manifest options err r' (asked r f .prompt location manifest options) := by
  cases found : f manifest with
  | error cause =>
    simp only [setup_ofFunction,found,Prod.mk.injEq,Except.error.injEq] at stuck
    obtain ⟨rfl,rfl⟩ := stuck
    simpa [asked,found] using Fails.noManifest found
  | ok text =>
    cases parsed : Manifest.parse text with
    | error e =>
      simp only [setup_ofFunction,found,parsed,Prod.mk.injEq,Except.error.injEq] at stuck
      obtain ⟨rfl,rfl⟩ := stuck
      obtain ⟨message,rfl⟩ := invalidManifest_of_parse parsed
      simpa [asked,found,plan_eq,parsed] using Fails.badManifest found parsed
    | ok entries =>
      have lists : Kept f manifest options (entries.filter options.keeps) _ :=
        ⟨text,entries,found,parsed,rfl,rfl⟩
      rw [setup_of_kept lists] at stuck
      exact fails_of_serve lists stuck

/-- Each rule is one way that setup does fail. -/
theorem Fails.setup (fails : Fails r f location manifest options err r' paths) :
    (r.setup (Source.ofFunction f) location manifest options).run = (.error err,r') ∧
      asked r f .prompt location manifest options = paths := by
  cases fails with
  | noManifest missing => simp [setup_ofFunction,asked,missing]
  | badManifest found parsed => simp [setup_ofFunction,asked,found,parsed,plan_eq]
  | @noEngine front e back _ lists present absent =>
    have checking := (check_eq_error_iff r options.duplicates (front ++ e :: back) _).mpr
      (.inl ⟨front,e,back,rfl,present,absent,rfl⟩)
    rw [setup_of_kept lists,asked_of_kept lists]
    simp [serve,checking]
  | @repeatedKey front e back _ lists engines strict apart member =>
    have checking := (check_eq_error_iff r options.duplicates (front ++ e :: back) _).mpr
      (.inr ⟨engines,strict,front,e,back,rfl,apart,member,rfl⟩)
    rw [setup_of_kept lists,asked_of_kept lists]
    simp [serve,checking]
  | @noText front e back _ cause lists checked found missing =>
    have found := (textAt_paths_iff f (Entry.path location manifest) front).mpr found
    have reading := (readAll_eq_error_iff f ((front ++ e :: back).map (Entry.path location manifest))
      _).mpr ⟨_,_,_,cause,by rw [List.map_append,List.map_cons],found,missing,rfl⟩
    rw [setup_of_kept lists,asked_of_kept lists]
    simp only [serve,(check_eq_ok_iff r options.duplicates _).mpr checked,reading]
    simp [tried_of_missing found missing]
  | @notCompiled front e back _ _ _ lists checked found compiles stuck before =>
    rw [setup_of_kept lists,asked_of_kept lists,serve_of_texts checked found]
    have engines : ∀ p ∈ (front ++ e :: back).map (withText f (Entry.path location manifest)),
        (r.engine? p.1.target.language).isSome :=
      List.forall_mem_map.mpr checked.engines
    refine ⟨(registerAll_error_iff engines).mpr
      ⟨_,_,_,_,by rw [List.map_append,List.map_cons],before,stuck,rfl⟩,?_⟩
    simp only [(check_eq_ok_iff r options.duplicates _).mpr checked,
      tried_of_texts ((textAt_paths_iff f _ _).mpr found)]

/-- Setup fails in just these ways, by the first stage that something is wrong with, and leaves all
templates, keys and counts of registrations as they were unless a text did not compile. -/
theorem setup_fails_by_stage (r : Registry) (f : String → Fetched) (location : Location)
    (manifest : String) (options : SetupOptions) (err : TemplateError) (r' : Registry)
    (paths : List String) :
    ((r.setup (Source.recording f) location manifest options).run [] = ((.error err,r'),paths) ↔
      Fails r f location manifest options err r' paths) ∧
    (Fails r f location manifest options err r' paths → err.kind ≠ .compileFailed →
      Unregistered r r') := by
  have logged := setup_logs (recording_logs f) r location manifest options .prompt []
  rw [List.nil_append,List.flatMap_singleton'] at logged
  refine ⟨⟨fun stuck => ?_,fun fails => ?_⟩,Fails.unregistered⟩
  · rw [stuck] at logged
    obtain ⟨ended,rfl⟩ := Prod.mk.inj logged
    exact fails_of_setup ended.symm
  · obtain ⟨ended,same⟩ := fails.setup
    rw [logged,ended,same]
    rfl

def cutShort : String → Fetched
  | "Manifest.json" =>
    .ok "[[\"handlebars\",\"disk\",\"here\",null],[\"handlebars\",\"cpu\",\"gone\",null]]"
  | "EventTemplate/handlebars/here" => .ok "1"
  | path => .error (.notFound path)

theorem setup_fails_by_missing_template : ∃ err r' paths,
    ((Registry.standard true [.handlebars]).setup (Source.recording cutShort) (.folder ".")
      "Manifest.json" ⟨.overwrite,none⟩).run [] = ((.error err,r'),paths) ∧
    Fails (.standard true [.handlebars]) cutShort (.folder ".") "Manifest.json" ⟨.overwrite,none⟩
      err r' paths ∧
    err.kind ≠ .compileFailed ∧ Unregistered (.standard true [.handlebars]) r' := by
  have failed : (match ((Registry.standard true [.handlebars]).setup (Source.recording cutShort)
      (.folder ".") "Manifest.json" ⟨.overwrite,none⟩).run [] with
      | ((.error err,_),_) => some err.kind
      | ((.ok _,_),_) => none) = some .fetchFailed := by
    decide +kernel
  rcases ended : ((Registry.standard true [.handlebars]).setup (Source.recording cutShort)
      (.folder ".") "Manifest.json" ⟨.overwrite,none⟩).run [] with ⟨⟨err | report,r'⟩,paths⟩
  · simp only [ended,Option.some.injEq] at failed
    have staged := setup_fails_by_stage (.standard true [.handlebars]) cutShort (.folder ".")
      "Manifest.json" ⟨.overwrite,none⟩ err r' paths
    have early : err.kind ≠ .compileFailed := by simp [failed]
    exact ⟨err,r',paths,rfl,staged.1.mp ended,early,staged.2 (staged.1.mp ended) early⟩
  · simp [ended] at failed

end Placard.Setup

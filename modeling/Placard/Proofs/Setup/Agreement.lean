import Placard.Proofs.Setup.Failure

/-! Setups from two tables. What they come to depends on the texts that the tables have at what is
asked for; where a table has none it does not matter why. -/
namespace Placard.Setup

/-- Two setups come to the same: to the same report or to errors of the same kind, with the same
templates under the same keys. -/
structure Alike (a b : Except TemplateError Report × Registry) : Prop where
  outcome : a.1.mapError TemplateError.kind = b.1.mapError TemplateError.kind
  registry : Unregistered a.2 b.2

theorem alike_refl (a : Except TemplateError Report × Registry) : Alike a a :=
  ⟨rfl,unregistered_refl a.2⟩

theorem alike_fetchFailed (r : Registry) (path path' : String) (cause cause' : FetchError) :
    Alike (.error (.fetchFailed path cause),r.count (.fetchFailures cause.kind))
      (.error (.fetchFailed path' cause'),r.count (.fetchFailures cause'.kind)) where
  outcome := rfl
  registry := ⟨rfl,rfl,rfl,
    fun _ => (List.count_cons_of_ne (by simp)).trans (List.count_cons_of_ne (by simp)).symm,
    fun _ => (List.count_cons_of_ne (by simp)).trans (List.count_cons_of_ne (by simp)).symm⟩

variable {f f' : String → Fetched}

theorem fetched_cases {x y : Fetched} (same : x.toOption = y.toOption) :
    (∃ text, x = .ok text ∧ y = .ok text) ∨ ∃ cause cause', x = .error cause ∧ y = .error cause' := by
  cases x with
  | ok text => exact .inl ⟨text,rfl,toOption_eq_some_iff.mp same.symm⟩
  | error cause =>
    cases y with
    | ok text => exact absurd same (by simp [Except.toOption])
    | error cause' => exact .inr ⟨cause,cause',rfl,rfl⟩

/-- Two tables are read to the end with the same texts, or are both not, each at a pace of its own. -/
theorem readAll_cases {path path' : Entry → String} {entries : List Entry}
    (same : ∀ e ∈ entries, (f (path e)).toOption = (f' (path' e)).toOption) (pace pace' : Pace) :
    (∃ texts, (readAll (Source.ofFunction f) (entries.map path) pace).run = .ok texts ∧
      (readAll (Source.ofFunction f') (entries.map path') pace').run = .ok texts) ∨
    ∃ stop stop' cause cause',
      (readAll (Source.ofFunction f) (entries.map path) pace).run =
        .error (.fetchFailed stop cause) ∧
      (readAll (Source.ofFunction f') (entries.map path') pace').run =
        .error (.fetchFailed stop' cause') := by
  have alike : ∀ e ∈ entries, textAt f' (path' e) = textAt f (path e) := fun e member => by
    rw [textAt,textAt,same e member]
  have both : (∀ e ∈ entries, HasText f' path' e) ↔ ∀ e ∈ entries, HasText f path e := by
    refine forall₂_congr fun e member => ?_
    rw [HasText,HasText,← toOption_eq_some_iff,← toOption_eq_some_iff,same e member,alike e member]
  by_cases texts : ∀ e ∈ entries, HasText f path e
  · refine .inl ⟨(entries.map path).map (textAt f),?_,?_⟩
    · exact (readAll_eq_ok_iff f pace _ _).mpr ⟨(textAt_paths_iff f path _).mpr texts,rfl⟩
    · refine (readAll_eq_ok_iff f' pace' _ _).mpr
        ⟨(textAt_paths_iff f' path' _).mpr (both.mpr texts),?_⟩
      simpa using fun e member => (alike e member).symm
  · have texts' := mt both.mp texts
    rw [← textAt_paths_iff] at texts texts'
    obtain ⟨stop,-,cause,-,stuck⟩ := readAll_of_missing texts pace
    obtain ⟨stop',-,cause',-,stuck'⟩ := readAll_of_missing texts' pace'
    exact .inr ⟨stop,stop',cause,cause',stuck,stuck'⟩

/-- The entries that are kept come to the same if their texts are the same, at whatever paces. -/
theorem serve_alike (r : Registry) {path path' : Entry → String} (policy : DuplicatePolicy)
    (skipped : Nat) {kept : List Entry}
    (same : ∀ e ∈ kept, (f (path e)).toOption = (f' (path' e)).toOption) (pace pace' : Pace) :
    Alike (serve r f pace path policy skipped kept)
      (serve r f' pace' path' policy skipped kept) := by
  cases checked : check r policy kept with
  | error err =>
    simp only [serve,checked]
    exact alike_refl _
  | ok _ =>
    rcases readAll_cases same pace pace' with
      ⟨texts,read,read'⟩ | ⟨stop,stop',cause,cause',stuck,stuck'⟩
    · simp only [serve,checked,read,read']
      exact alike_refl _
    · simp only [serve,checked,stuck,stuck',failedFetch_fetchFailed]
      exact alike_fetchFailed r stop stop' cause cause'

/-- Two setups come to the same if their tables have the same text for the manifest, and for each
entry of it that is kept, each at its own path. -/
theorem setup_alike (r : Registry) {location location' : Location} {manifest : String}
    (options : SetupOptions) (listed : (f manifest).toOption = (f' manifest).toOption)
    (same : ∀ text entries, f manifest = .ok text → Manifest.parse text = .ok entries →
      ∀ e ∈ entries, options.keeps e → (f (e.path location manifest)).toOption =
        (f' (e.path location' manifest)).toOption) (pace pace' : Pace) :
    Alike (r.setup (Source.ofFunction f) location manifest options pace).run
      (r.setup (Source.ofFunction f') location' manifest options pace').run := by
  rw [setup_ofFunction,setup_ofFunction]
  rcases fetched_cases listed with ⟨text,found,found'⟩ | ⟨cause,cause',missing,missing'⟩
  · simp only [found,found']
    cases parsed : Manifest.parse text with
    | error err => exact alike_refl _
    | ok entries =>
      refine serve_alike r options.duplicates _ (fun e member => ?_) pace pace'
      obtain ⟨listed,keeps⟩ := List.mem_filter.mp member
      exact same text entries found parsed e listed keeps
  · simp only [missing,missing']
    exact alike_fetchFailed r manifest manifest cause cause'

end Placard.Setup

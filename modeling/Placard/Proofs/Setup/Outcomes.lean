import Mathlib.Data.List.Nodup
import Placard.Proofs.Setup.Stages
import Placard.Proofs.Target

/-! When each stage of setup goes through, and on which entry it stops where it does not. A stage
that stops names the first entry that it stops at: what stands before that entry is in order. -/
namespace Placard.Setup

/-- The text that a table has at a path; a path without one has the empty text. -/
def textAt (f : String → Fetched) (path : String) : String := (f path).toOption.getD ""

/-- An entry with the text at its path. -/
def withText (f : String → Fetched) (path : Entry → String) (e : Entry) : Entry × String :=
  (e,textAt f (path e))

/-- The table has a text for the entry. -/
def HasText (f : String → Fetched) (path : Entry → String) (e : Entry) : Prop :=
  f (path e) = .ok (textAt f (path e))

def HasEngine (r : Registry) (e : Entry) : Prop := (r.engine? e.target.language).isSome

theorem textAt_of_ok {f : String → Fetched} (found : f path = .ok text) : textAt f path = text := by
  simp [textAt,found,Except.toOption]

def keys (entries : List Entry) : List String := entries.map fun e => e.target.key

theorem keys_eq_map (entries : List Entry) :
    keys entries = (entries.map Entry.target).map Target.key := by
  simp [keys]

/-- Keys are apart if and only if targets are. -/
theorem nodup_keys_iff {entries : List Entry} :
    (keys entries).Nodup ↔ (entries.map Entry.target).Nodup := by
  rw [keys_eq_map,List.nodup_map_iff Target.key_injective]

theorem repeated?_eq_none_iff (seen : List String) (entries : List Entry) :
    repeated? seen entries = none ↔ (keys entries).Nodup ∧ ∀ k ∈ keys entries, k ∉ seen := by
  induction entries generalizing seen with
  | nil => simp [repeated?,keys]
  | cons e rest ih =>
    by_cases known : e.target.key ∈ seen
    · simp [repeated?,known,keys]
    · simp only [repeated?,List.contains_iff_mem,known,ite_false,ih,keys,List.map_cons,
        List.nodup_cons,List.mem_cons,not_or,forall_eq_or_imp,not_false_eq_true,true_and]
      constructor
      · rintro ⟨apart,fresh⟩
        exact ⟨⟨fun member => (fresh _ member).1 rfl,apart⟩,fun k member => (fresh k member).2⟩
      · rintro ⟨⟨first,apart⟩,fresh⟩
        refine ⟨apart,fun k member => ⟨?_,fresh k member⟩⟩
        rintro rfl
        exact first member

/-- Entries with fresh keys of their own are passed over. -/
theorem repeated?_append (seen : List String) {front : List Entry} (back : List Entry)
    (apart : (keys front).Nodup) (fresh : ∀ k ∈ keys front, k ∉ seen) :
    repeated? seen (front ++ back) = repeated? ((keys front).reverse ++ seen) back := by
  induction front generalizing seen with
  | nil => rfl
  | cons e rest ih =>
    simp only [keys,List.map_cons,List.nodup_cons,List.forall_mem_cons] at apart fresh
    have later := ih (e.target.key :: seen) apart.2 fun k member => by
      simp only [List.mem_cons,not_or]
      refine ⟨?_,fresh.2 k member⟩
      rintro rfl
      exact apart.1 member
    simp [repeated?,fresh.1,later,keys]

theorem split_of_repeated? {seen : List String} {entries : List Entry} {key : String}
    (found : repeated? seen entries = some key) :
    ∃ front e back, entries = front ++ e :: back ∧ (keys front).Nodup ∧
      (∀ k ∈ keys front, k ∉ seen) ∧ (e.target.key ∈ keys front ∨ e.target.key ∈ seen) ∧
      key = e.target.key := by
  induction entries generalizing seen with
  | nil => simp [repeated?] at found
  | cons e rest ih =>
    by_cases known : e.target.key ∈ seen
    · simp only [repeated?,List.contains_iff_mem,known,ite_true,Option.some.injEq] at found
      exact ⟨[],e,rest,rfl,by simp [keys],by simp [keys],.inr known,found.symm⟩
    · simp only [repeated?,List.contains_iff_mem,known,ite_false] at found
      obtain ⟨front,x,back,rfl,apart,fresh,again,rfl⟩ := ih found
      refine ⟨e :: front,x,back,rfl,?_,?_,?_,rfl⟩
      · exact List.nodup_cons.mpr ⟨fun member => fresh _ member (by simp),apart⟩
      · intro k member
        rcases List.mem_cons.mp member with rfl | member
        · exact known
        · exact fun old => fresh k member (List.mem_cons_of_mem _ old)
      · rcases again with member | member
        · exact .inl (List.mem_cons_of_mem _ member)
        · rcases List.mem_cons.mp member with same | old
          · exact .inl (by simp [keys,same])
          · exact .inr old

theorem repeated?_eq_some_iff (entries : List Entry) (key : String) :
    repeated? [] entries = some key ↔
      ∃ front e back, entries = front ++ e :: back ∧ (keys front).Nodup ∧
        e.target.key ∈ keys front ∧ key = e.target.key := by
  constructor
  · intro found
    obtain ⟨front,e,back,split,apart,-,again,same⟩ := split_of_repeated? found
    exact ⟨front,e,back,split,apart,by simpa using again,same⟩
  · rintro ⟨front,e,back,rfl,apart,member,rfl⟩
    rw [repeated?_append [] _ apart (by simp)]
    simp [repeated?,member]

structure Checked (r : Registry) (policy : DuplicatePolicy) (kept : List Entry) : Prop where
  engines : ∀ e ∈ kept, HasEngine r e
  apart : policy = .reject → (keys kept).Nodup

theorem find?_engine_eq_none_iff (r : Registry) (kept : List Entry) :
    (kept.find? fun e => (r.engine? e.target.language).isNone) = none ↔
      ∀ e ∈ kept, HasEngine r e := by
  simp [HasEngine,Option.isSome_iff_ne_none]

theorem check_eq_ok_iff (r : Registry) (policy : DuplicatePolicy) (kept : List Entry) :
    check r policy kept = .ok () ↔ Checked r policy kept := by
  unfold check
  cases missing : kept.find? fun e => (r.engine? e.target.language).isNone with
  | some e =>
    have none : ¬ ∀ e ∈ kept, HasEngine r e := by
      rw [← find?_engine_eq_none_iff,missing]
      simp
    simp only [reduceCtorEq,false_iff]
    exact fun checked => none checked.engines
  | none =>
    have engines := (find?_engine_eq_none_iff r kept).mp missing
    have apart := repeated?_eq_none_iff [] kept
    simp only [List.not_mem_nil,not_false_eq_true,implies_true,and_true] at apart
    cases policy with
    | overwrite => simpa using ⟨engines,by simp⟩
    | reject =>
      cases again : repeated? [] kept with
      | none => simpa using ⟨engines,fun _ => apart.mp again⟩
      | some key =>
        simp only [reduceCtorEq,false_iff]
        intro checked
        rw [apart.mpr (checked.apart rfl)] at again
        cases again

theorem find?_engine_eq_some_iff (r : Registry) (kept : List Entry) (e : Entry) :
    (kept.find? fun e => (r.engine? e.target.language).isNone) = some e ↔
      ∃ front back, kept = front ++ e :: back ∧ (∀ x ∈ front, HasEngine r x) ∧
        ¬ HasEngine r e := by
  rw [List.find?_eq_some_iff_append]
  simp only [HasEngine,Bool.not_eq_true,Option.isSome_eq_false_iff,Option.isNone_iff_eq_none,
    Bool.not_eq_eq_eq_not,Bool.not_true,Option.isNone_eq_false_iff]
  constructor
  · rintro ⟨missing,front,back,split,present⟩
    exact ⟨front,back,split,present,missing⟩
  · rintro ⟨front,back,split,present,missing⟩
    exact ⟨missing,front,back,split,present⟩

/-- The checks stop at the first entry without an engine, and under the strict policy, if there is
none, at the first entry whose key stands before it. -/
theorem check_eq_error_iff (r : Registry) (policy : DuplicatePolicy) (kept : List Entry)
    (err : TemplateError) :
    check r policy kept = .error err ↔
      (∃ front e back, kept = front ++ e :: back ∧ (∀ x ∈ front, HasEngine r x) ∧
        ¬ HasEngine r e ∧ err = .engineNotFound e.target.language) ∨
      ((∀ e ∈ kept, HasEngine r e) ∧ policy = .reject ∧
        ∃ front e back, kept = front ++ e :: back ∧ (keys front).Nodup ∧
          e.target.key ∈ keys front ∧ err = .duplicateKey e.target.key) := by
  unfold check
  cases missing : kept.find? fun e => (r.engine? e.target.language).isNone with
  | some e =>
    simp only [Except.error.injEq]
    constructor
    · rintro rfl
      obtain ⟨front,back,split,present,absent⟩ := (find?_engine_eq_some_iff r kept e).mp missing
      exact .inl ⟨front,e,back,split,present,absent,rfl⟩
    · rintro (⟨front,e',back,split,present,absent,rfl⟩ | ⟨engines,-⟩)
      · have found := (find?_engine_eq_some_iff r kept e').mpr ⟨front,back,split,present,absent⟩
        rw [missing,Option.some.injEq] at found
        rw [found]
      · rw [(find?_engine_eq_none_iff r kept).mpr engines] at missing
        cases missing
  | none =>
    have engines := (find?_engine_eq_none_iff r kept).mp missing
    have present : ¬ ∃ front e back, kept = front ++ e :: back ∧ (∀ x ∈ front, HasEngine r x) ∧
        ¬ HasEngine r e ∧ err = .engineNotFound e.target.language := by
      rintro ⟨front,e,back,rfl,-,absent,-⟩
      exact absent (engines e (by simp))
    simp only [present,false_or]
    constructor
    · intro fails
      cases policy with
      | overwrite => simp at fails
      | reject =>
        cases again : repeated? [] kept with
        | none => simp [again] at fails
        | some key =>
          simp only [again,Except.error.injEq] at fails
          obtain ⟨front,e,back,split,apart,member,rfl⟩ := (repeated?_eq_some_iff kept key).mp again
          exact ⟨engines,rfl,front,e,back,split,apart,member,fails.symm⟩
    · rintro ⟨-,rfl,front,e,back,split,apart,member,rfl⟩
      have again := (repeated?_eq_some_iff kept e.target.key).mpr ⟨front,e,back,split,apart,member,rfl⟩
      simp [again]

theorem join_eq_ok_iff (f : String → Fetched) (pace : Pace) (paths texts : List String) :
    (join (Source.ofFunction f) pace paths).run = .ok texts ↔
      (∀ path ∈ paths, f path = .ok (textAt f path)) ∧ texts = paths.map (textAt f) := by
  induction paths generalizing texts pace with
  | nil => simp [join,eq_comm]
  | cons path rest ih =>
    rw [join_ofFunction_cons]
    cases answer : f path with
    | error cause => by_cases once : pace 0 = 0 <;> simp [answer,once]
    | ok text =>
      have here := textAt_of_ok answer
      simp only [map_eq_ok_iff,ih,List.forall_mem_cons,answer,here,true_and,List.map_cons]
      constructor
      · rintro ⟨_,⟨found,rfl⟩,rfl⟩
        exact ⟨found,rfl⟩
      · rintro ⟨found,rfl⟩
        exact ⟨_,⟨found,rfl⟩,rfl⟩

theorem readAll_eq_ok_iff (f : String → Fetched) (pace : Pace) (paths texts : List String) :
    (readAll (Source.ofFunction f) paths pace).run = .ok texts ↔
      (∀ path ∈ paths, f path = .ok (textAt f path)) ∧ texts = paths.map (textAt f) := by
  rw [readAll_ofFunction,mapError_eq_ok_iff,join_eq_ok_iff]

/-- The failure that is met first is that of some path without a text. -/
theorem join_eq_error {f : String → Fetched} {pace : Pace} {paths : List String} {lapse : Lapse}
    (fails : (join (Source.ofFunction f) pace paths).run = .error lapse) :
    ∃ path ∈ paths, ∃ cause, f path = .error cause ∧ lapse.error = .fetchFailed path cause := by
  induction paths generalizing pace lapse with
  | nil => cases fails
  | cons path rest ih =>
    rw [join_ofFunction_cons] at fails
    cases answer : f path with
    | ok text =>
      simp only [answer] at fails
      cases later : (join (Source.ofFunction f) pace.rest rest).run with
      | ok texts => simp [later,Except.map] at fails
      | error lapse' =>
        obtain ⟨p,member,cause,missing,same⟩ := ih later
        simp only [later,Except.map,Except.error.injEq] at fails
        exact ⟨p,by simp [member],cause,missing,fails ▸ same⟩
    | error cause =>
      have here : ∃ p ∈ path :: rest, ∃ cause', f p = .error cause' ∧
          TemplateError.fetchFailed path cause = .fetchFailed p cause' :=
        ⟨path,by simp,cause,answer,rfl⟩
      simp only [answer] at fails
      -- A failure that is met later gives way to one further on that is met before it.
      split at fails
      · cases fails
        exact here
      · rw [Except.error.injEq] at fails
        cases later : (join (Source.ofFunction f) pace.rest rest).run with
        | ok texts =>
          simp only [later,Lapse.first] at fails
          exact fails ▸ here
        | error lapse' =>
          obtain ⟨p,member,cause',missing,same⟩ := ih later
          simp only [later,Lapse.first] at fails
          split at fails
          · exact ⟨p,by simp [member],cause',missing,fails ▸ same⟩
          · exact fails ▸ here

/-- Where a text is missing, at every pace some missing text is what reading fails by. -/
theorem readAll_of_missing {f : String → Fetched} {paths : List String}
    (missing : ¬ ∀ path ∈ paths, f path = .ok (textAt f path)) (pace : Pace) :
    ∃ path ∈ paths, ∃ cause, f path = .error cause ∧
      (readAll (Source.ofFunction f) paths pace).run = .error (.fetchFailed path cause) := by
  cases joined : (join (Source.ofFunction f) pace paths).run with
  | ok texts => exact absurd ((join_eq_ok_iff f pace paths texts).mp joined).1 missing
  | error lapse =>
    obtain ⟨path,member,cause,stuck,same⟩ := join_eq_error joined
    exact ⟨path,member,cause,stuck,by rw [readAll_ofFunction,joined,mapError_error,same]⟩

/-- Where answers are met at once, reading stops at the first path that the table has no text at. -/
theorem readAll_eq_error_iff (f : String → Fetched) (paths : List String) (err : TemplateError) :
    (readAll (Source.ofFunction f) paths).run = .error err ↔
      ∃ front path back cause, paths = front ++ path :: back ∧
        (∀ p ∈ front, f p = .ok (textAt f p)) ∧ f path = .error cause ∧
        err = .fetchFailed path cause := by
  constructor
  · intro fails
    induction paths with
    | nil => simp [readAll_nil] at fails
    | cons path rest ih =>
      rw [readAll_ofFunction_cons] at fails
      cases answer : f path with
      | error cause =>
        simp only [answer,Except.error.injEq] at fails
        exact ⟨[],path,rest,cause,rfl,by simp,answer,fails.symm⟩
      | ok text =>
        cases later : (readAll (Source.ofFunction f) rest).run with
        | ok more => simp [answer,later,Except.map] at fails
        | error e =>
          simp only [answer,later,Except.map,Except.error.injEq] at fails
          subst fails
          obtain ⟨front,q,back,cause,rfl,found,missing,same⟩ := ih later
          refine ⟨path :: front,q,back,cause,rfl,?_,missing,same⟩
          simpa [answer,textAt_of_ok answer] using found
  · rintro ⟨front,path,back,cause,rfl,found,missing,rfl⟩
    induction front with
    | nil =>
      rw [List.nil_append,readAll_ofFunction_cons]
      simp [missing]
    | cons p front ih =>
      have later := ih fun q member => found q (List.mem_cons_of_mem _ member)
      rw [List.cons_append,readAll_ofFunction_cons,found p (by simp)]
      simp [later,Except.map]

theorem tried_of_texts {f : String → Fetched} {paths : List String}
    (found : ∀ path ∈ paths, f path = .ok (textAt f path)) (pace : Pace) :
    tried f pace paths = paths := by
  induction paths generalizing pace with
  | nil => rfl
  | cons path rest ih =>
    have later := ih (fun p member => found p (List.mem_cons_of_mem _ member)) pace.rest
    simp [tried,found path (by simp),later]

theorem tried_of_missing {f : String → Fetched} {front : List String}
    (found : ∀ path ∈ front, f path = .ok (textAt f path)) (missing : f path = .error cause)
    (back : List String) : tried f .prompt (front ++ path :: back) = front ++ [path] := by
  induction front with
  | nil => simp [tried,missing]
  | cons p rest ih =>
    have later := ih fun q member => found q (List.mem_cons_of_mem _ member)
    simp [tried,found p (by simp),later]

theorem textAt_paths_iff (f : String → Fetched) (path : Entry → String) (entries : List Entry) :
    (∀ p ∈ entries.map path, f p = .ok (textAt f p)) ↔ ∀ e ∈ entries, HasText f path e :=
  List.forall_mem_map

theorem zip_texts (f : String → Fetched) (path : Entry → String) (kept : List Entry) :
    kept.zip ((kept.map path).map (textAt f)) = kept.map (withText f path) := by
  induction kept with
  | nil => rfl
  | cons e rest ih => simpa [withText] using ih

variable {r r' : Registry} {f : String → Fetched} {pace : Pace} {path : Entry → String}
  {policy : DuplicatePolicy} {location : Location} {manifest : String} {options : SetupOptions}
  {kept : List Entry} {skipped : Nat} {report : Report}

theorem serve_of_texts (checked : Checked r policy kept) (texts : ∀ e ∈ kept, HasText f path e)
    (pace : Pace) (skipped : Nat) :
    serve r f pace path policy skipped kept =
      registerAll r ⟨0,0,0,skipped⟩ (kept.map (withText f path)) := by
  have read := (readAll_eq_ok_iff f pace (kept.map path) _).mpr
    ⟨(textAt_paths_iff f path kept).mpr texts,rfl⟩
  simp only [serve,(check_eq_ok_iff r policy kept).mpr checked,read,zip_texts]

theorem serve_eq_ok_iff :
    serve r f pace path policy skipped kept = (.ok report,r') ↔
      Checked r policy kept ∧ (∀ e ∈ kept, HasText f path e) ∧
        registerAll r ⟨0,0,0,skipped⟩ (kept.map (withText f path)) = (.ok report,r') := by
  constructor
  · intro done
    have checked : Checked r policy kept := by
      rw [← check_eq_ok_iff]
      cases checked : check r policy kept with
      | error e => simp [serve,checked] at done
      | ok _ => rfl
    have texts : ∀ e ∈ kept, HasText f path e := by
      cases read : (readAll (Source.ofFunction f) (kept.map path) pace).run with
      | error e => simp [serve,(check_eq_ok_iff r policy kept).mpr checked,read] at done
      | ok texts =>
        exact (textAt_paths_iff f path kept).mp ((readAll_eq_ok_iff f pace _ texts).mp read).1
    exact ⟨checked,texts,serve_of_texts checked texts pace skipped ▸ done⟩
  · rintro ⟨checked,texts,done⟩
    rw [serve_of_texts checked texts,done]

/-- The entries that are kept come to the same at every pace, unless a text is missing; then which one
is named is a matter of the pace. -/
theorem serve_cases (r : Registry) (f : String → Fetched) (path : Entry → String)
    (policy : DuplicatePolicy) (skipped : Nat) (kept : List Entry) :
    (∀ pace pace', serve r f pace' path policy skipped kept =
      serve r f pace path policy skipped kept) ∨
    ∀ pace, ∃ e ∈ kept, ∃ cause, f (path e) = .error cause ∧
      (serve r f pace path policy skipped kept).1 = .error (.fetchFailed (path e) cause) := by
  cases checking : check r policy kept with
  | error err => exact .inl fun pace pace' => by simp only [serve,checking]
  | ok _ =>
    by_cases texts : ∀ e ∈ kept, HasText f path e
    · have checked := (check_eq_ok_iff r policy kept).mp checking
      exact .inl fun pace pace' => by rw [serve_of_texts checked texts,serve_of_texts checked texts]
    · refine .inr fun pace => ?_
      rw [← textAt_paths_iff] at texts
      obtain ⟨_,named,cause,missing,read⟩ := readAll_of_missing texts pace
      obtain ⟨e,member,rfl⟩ := List.mem_map.mp named
      exact ⟨e,member,cause,missing,by simp only [serve,checking,read]⟩

/-- The manifest can be read and lists these entries that are kept, beside some that are skipped. -/
def Kept (f : String → Fetched) (manifest : String) (options : SetupOptions) (kept : List Entry)
    (skipped : Nat) : Prop :=
  ∃ text entries, f manifest = .ok text ∧ Manifest.parse text = .ok entries ∧
    kept = entries.filter options.keeps ∧ skipped = entries.length - kept.length

theorem setup_of_kept (lists : Kept f manifest options kept skipped) (r : Registry)
    (location : Location) (pace : Pace) :
    (r.setup (Source.ofFunction f) location manifest options pace).run =
      serve r f pace (Entry.path location manifest) options.duplicates skipped kept := by
  obtain ⟨text,entries,found,parsed,rfl,rfl⟩ := lists
  rw [setup_ofFunction,found]
  simp only [parsed]

theorem asked_of_kept (lists : Kept f manifest options kept skipped) (r : Registry)
    (location : Location) (pace : Pace) :
    asked r f pace location manifest options = manifest ::
      match check r options.duplicates kept with
      | .error _ => []
      | .ok () => tried f pace (kept.map (Entry.path location manifest)) := by
  obtain ⟨text,entries,found,parsed,rfl,rfl⟩ := lists
  cases checked : check r options.duplicates (entries.filter options.keeps) <;>
    simp [asked,found,plan_eq,parsed,checked,Except.map]

theorem kept_of_ok
    (done : (r.setup (Source.ofFunction f) location manifest options pace).run = (.ok report,r')) :
    ∃ kept skipped, Kept f manifest options kept skipped := by
  rw [setup_ofFunction] at done
  cases found : f manifest with
  | error cause => simp [found] at done
  | ok text =>
    cases parsed : Manifest.parse text with
    | error e => simp [found,parsed] at done
    | ok entries => exact ⟨_,_,text,entries,found,parsed,rfl,rfl⟩

/-- Setup comes to the same at every pace, unless it fails for want of a text at every pace. -/
theorem setup_cases (r : Registry) (f : String → Fetched) (location : Location) (manifest : String)
    (options : SetupOptions) :
    (∀ pace pace', (r.setup (Source.ofFunction f) location manifest options pace').run =
      (r.setup (Source.ofFunction f) location manifest options pace).run) ∨
    ∀ pace, ∃ path cause,
      (r.setup (Source.ofFunction f) location manifest options pace).run.1 =
        .error (.fetchFailed path cause) := by
  cases found : f manifest with
  | error cause => exact .inl fun pace pace' => by simp only [setup_ofFunction,found]
  | ok text =>
    cases parsed : Manifest.parse text with
    | error e => exact .inl fun pace pace' => by simp only [setup_ofFunction,found,parsed]
    | ok entries =>
      have lists : Kept f manifest options (entries.filter options.keeps) _ :=
        ⟨text,entries,found,parsed,rfl,rfl⟩
      simp only [setup_of_kept lists]
      rcases serve_cases r f (Entry.path location manifest) options.duplicates
        (entries.length - (entries.filter options.keeps).length)
        (entries.filter options.keeps) with same | missing
      · exact .inl same
      · refine .inr fun pace => ?_
        obtain ⟨e,-,cause,-,stuck⟩ := missing pace
        exact ⟨_,cause,stuck⟩

end Placard.Setup

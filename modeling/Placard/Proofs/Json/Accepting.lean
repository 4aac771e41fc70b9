import Mathlib.Data.List.Pairwise
import Placard.Json.Medium
import Placard.Proofs.Json.Spelling

/-! What readers of a type accept. From a draft that shows a document a reader takes a value if and
only if the document says the value; for a record the members of known names decide. -/
namespace Placard.Json

/-- From drafts that show the document, exactly the values are read of which `P` holds. -/
def Accepts (read : Part → Except Refusal α) (depth : Nat) (v : Document) (P : α → Prop) : Prop :=
  ∀ ⦃d⦄, Shows d v → ∀ a, read ⟨depth,d⟩ = .ok a ↔ P a

variable {α σ : Type} {depth : Nat}

theorem accepts_text (v : Document) :
    Accepts readText depth v (fun s => v = .string (some s)) := by
  intro d shows s
  cases shows with
  | @string r n stop means =>
    subst means
    cases r <;> simp [readText,Except.toOption]
  | _ => simp [readText]

/-- A name that stands alone, or as the only name of a map, with null. -/
def Chooses (name : String) (v : Document) : Prop :=
  v = .string (some name) ∨ v = .map [(some name,.null)]

theorem chosen_eq_ok_iff {c : Choice α} {s : Except Fault String} {stop : Nat} {a : α} :
    chosen c s stop = .ok a ↔ ∃ name, s = .ok name ∧ c.cases.lookup name = some a := by
  cases s with
  | error fault => simp [chosen]
  | ok name => cases listed : c.cases.lookup name <;> simp [chosen,listed]

theorem accepts_choice (c : Choice α) (v : Document) : Accepts (readChoice c) (depth + 1) v
    (fun a => ∃ name, c.cases.lookup name = some a ∧ Chooses name v) := by
  intro d shows a
  cases shows with
  | @string r n stop means =>
    subst means
    simp [readChoice,chosen_eq_ok_iff,Chooses,toOption_eq_some_iff,and_comm]
  | @map start stop members fields names values =>
    cases names with
    | nil => simp [readChoice,Chooses]
    | @cons m f members fields named names =>
      obtain ⟨name,d,stand⟩ := m
      obtain ⟨n,v⟩ := f
      have named : name.text.toOption = n := named
      subst named
      cases values with
      | cons shows values =>
        cases shows with
        | null start stop =>
          cases names with
          | nil =>
            simp [readChoice,Chooses,bind_eq_ok_iff,chosen_eq_ok_iff,toOption_eq_some_iff,and_comm]
          | cons => simp [readChoice,Chooses,bind_eq_ok_iff]
        | _ => simp [readChoice,Chooses,bind_eq_ok_iff]
  | _ => simp [readChoice,Chooses]

theorem Accepts.ifPresent {read : Part → Except Refusal α} {v : Document} {P : α → Prop}
    (accepts : Accepts read depth v P) (proper : v = .null → ∀ a, ¬ P a) :
    Accepts (Medium.ifPresent read) depth v (fun a => a.elim (v = .null) P) := by
  intro d shows a
  have taken := accepts shows
  cases shows with
  | null start stop =>
    cases a <;> simp [Medium.ifPresent,Medium.present,presentPart,proper]
  | _ =>
    cases a <;> simp [Medium.ifPresent,Medium.present,presentPart,map_eq_ok_iff,taken]

theorem accepts_list {item : Part → Except Refusal α} {P : Document → α → Prop}
    {vs : List Document} (accepts : ∀ v ∈ vs, Accepts item depth v (P v)) :
    Accepts (readList item) (depth + 1) (.list vs) (fun as => vs.Forall₂ P as) := by
  intro d shows as
  cases shows with
  | @list start stop items _ shows =>
    have each : readEach depth item items = .ok as ↔ vs.Forall₂ P as := by
      induction shows generalizing as with
      | nil => cases as <;> simp [readEach]
      | @cons i v items vs first _ ih =>
        obtain ⟨here,later⟩ := List.forall_mem_cons.mp accepts
        cases as with
        | nil => simp [readEach,bind_eq_ok_iff]
        | cons a as => simp [readEach,bind_eq_ok_iff,mapError_eq_ok_iff,here first,ih later]
    simp [readList,bind_eq_ok_iff,each]

theorem accepts_noList (item : Part → Except Refusal α) {v : Document}
    (other : ∀ vs, v ≠ .list vs) : Accepts (readList item) depth v (fun _ => False) := by
  intro d shows as
  cases shows with
  | list => exact absurd rfl (other _)
  | _ => simp [readList]

/-- A text whose draft shows a document is read as exactly the values that are accepted for it. -/
theorem parseAs_eq_ok_iff {text : String} {v : Document} (drafts : Drafts text.toList (Shows · v))
    {read : Part → Except Refusal α} {P : α → Prop} (accepts : Accepts read deepest v P) (a : α) :
    parseAs read text = .ok a ↔ P a := by
  obtain ⟨d,drafted,shows⟩ := drafts.draft
  simp [parseAs,parseAsFault,drafted,nothingAfter,mapError_eq_ok_iff,bind_eq_ok_iff,accepts shows]

/-- What a member puts into a record: its field takes the draft, or there is no such field and the
draft is passed over. -/
def Puts (fields : List (Field Part Refusal σ)) (depth : Nat) (put : String → σ → σ) (n : String)
    (d : Draft) : Prop :=
  match fields.find? (·.name == n) with
  | some field => field.put ⟨depth,d⟩ = .ok (put n)
  | none => skip d = .ok () ∧ put n = id

/-- Members of different names are put into the record one after the other. -/
theorem readRecordMembers_ok {fields : List (Field Part Refusal σ)} {put : String → σ → σ}
    {members : List (Name × (Draft × Stand))} {names : List String}
    (named : members.Forall₂ (fun m n => m.1.text = .ok n) names)
    (puts : members.Forall₂ (fun m n => Puts fields depth put n m.2.1) names)
    (distinct : names.Nodup) {seen : List String} (new : ∀ n ∈ names, n ∉ seen) (record : σ) :
    ∃ seen', readRecordMembers depth fields seen record members =
        .ok (seen',names.foldl (fun r n => put n r) record) ∧
      ∀ field ∈ fields, field.name ∈ seen ∨ field.name ∈ names → field.name ∈ seen' := by
  induction named generalizing seen record with
  | nil => exact ⟨seen,rfl,by simp⟩
  | @cons m n members names named _ ih =>
    obtain ⟨name,d,stand⟩ := m
    cases puts with
    | cons here later =>
      obtain ⟨fresh,distinct⟩ := List.nodup_cons.mp distinct
      obtain ⟨unseen,new⟩ := List.forall_mem_cons.mp new
      have named : name.text = .ok n := named
      unfold Puts at here
      cases found : fields.find? (·.name == n) with
      | none =>
        simp only [found] at here
        obtain ⟨skipped,here⟩ := here
        obtain ⟨seen',read,noted⟩ := ih later distinct new record
        refine ⟨seen',?_,fun field among known => noted field among ?_⟩
        · simpa [readRecordMembers,named,found,skipped,here,Bind.bind,Except.bind] using read
        · -- No field has the name of a member that is passed over.
          have other : field.name ≠ n := by simpa using List.find?_eq_none.mp found field among
          simpa [other] using known
      | some field =>
        simp only [found] at here
        have further : ∀ k ∈ names, k ∉ n :: seen := fun k member => by
          simpa using ⟨fun same => fresh (same ▸ member),new k member⟩
        obtain ⟨seen',read,noted⟩ := ih later distinct further (put n record)
        refine ⟨seen',?_,fun field among known => noted field among ?_⟩
        · simpa [readRecordMembers,named,found,unseen,here,Bind.bind,Except.bind] using read
        · simpa [or_assoc,or_left_comm] using known

theorem readRecord_ok {shape : RecordShape Part Refusal σ} {put : String → σ → σ}
    {members : List (Name × (Draft × Stand))} {names : List String}
    (named : members.Forall₂ (fun m n => m.1.text = .ok n) names)
    (puts : members.Forall₂ (fun m n => Puts shape.fields depth put n m.2.1) names)
    (distinct : names.Nodup)
    (all : ∀ field ∈ shape.fields, field.required → field.name ∈ names) (start stop : Nat) :
    readRecord shape ⟨depth + 1,.map start members (.closed stop)⟩ =
      .ok (names.foldl (fun r n => put n r) shape.start) := by
  obtain ⟨seen,read,noted⟩ := readRecordMembers_ok named puts distinct
    (fun n _ => List.not_mem_nil) shape.start
  have whole : (shape.fields.find? fun f => f.required && !seen.contains f.name) = none := by
    refine List.find?_eq_none.mpr fun field among => ?_
    have seen (required : field.required) := noted field among (.inr (all field among required))
    simpa using seen
  simp only [readRecord,read,whole,Bind.bind,Except.bind]

/-- A member has a text for its name, and if there is a field of that name, it takes the value. -/
def Fits (fields : List (Field Part Refusal σ)) (depth : Nat) (f : Option String × Document) : Prop :=
  ∃ n, f.1 = some n ∧ ∀ field, fields.find? (·.name == n) = some field →
    ∃ d put, Shows d f.2 ∧ field.put ⟨depth,d⟩ = .ok put

/-- What a member that fits is read as is accepted by its field. -/
theorem Fits.accepted {fields : List (Field Part Refusal σ)} {n : String} {v : Document}
    (fits : Fits fields depth (some n,v)) {field : Field Part Refusal σ}
    (found : fields.find? (·.name == n) = some field) {read : Part → Except Refusal α}
    {set : α → σ → σ} (puts : field.put = fun p => (read p).map set) {P : α → Prop}
    (accepts : Accepts read depth v P) : ∃ a, P a := by
  obtain ⟨_,is,each⟩ := fits
  cases is
  obtain ⟨d,put,shows,taken⟩ := each field found
  rw [puts] at taken
  obtain ⟨a,read,-⟩ := map_eq_ok_iff.mp taken
  exact ⟨a,(accepts shows a).mp read⟩

/-- Members are read only if they fit, and no name is noted but theirs. -/
theorem readRecordMembers_of_ok {fields : List (Field Part Refusal σ)}
    {members : List (Name × (Draft × Stand))} {row : List (Option String × Document)}
    (names : members.Forall₂ (fun m f => m.1.text.toOption = f.1) row)
    (shows : members.Forall₂ (fun m f => Shows m.2.1 f.2) row) {seen seen' : List String}
    {record made : σ} (read : readRecordMembers depth fields seen record members = .ok (seen',made)) :
    (∀ f ∈ row, Fits fields depth f) ∧ ∀ n ∈ seen', n ∈ seen ∨ ∃ v, (some n,v) ∈ row := by
  induction shows generalizing seen record with
  | nil =>
    cases read
    exact ⟨List.forall_mem_nil _,fun n member => .inl member⟩
  | @cons m f members row first _ ih =>
    obtain ⟨name,d,stand⟩ := m
    obtain ⟨n?,v⟩ := f
    cases names with
    | cons named names =>
      obtain ⟨n,is,read⟩ := bind_eq_ok_iff.mp read
      have is : name.text = .ok n := mapError_eq_ok_iff.mp is
      have named : name.text.toOption = n? := named
      rw [is] at named
      subst named
      cases found : fields.find? (·.name == n) with
      | none =>
        rw [found] at read
        obtain ⟨-,-,read⟩ := bind_eq_ok_iff.mp read
        obtain ⟨each,noted⟩ := ih names read
        refine ⟨List.forall_mem_cons.mpr ⟨⟨n,rfl,by simp [found]⟩,each⟩,fun k member => ?_⟩
        exact (noted k member).imp_right fun ⟨v,within⟩ => ⟨v,List.mem_cons_of_mem _ within⟩
      | some field =>
        simp only [found] at read
        split at read
        · cases read
        · obtain ⟨put,taken,read⟩ := bind_eq_ok_iff.mp read
          obtain ⟨each,noted⟩ := ih names read
          have fits : Fits fields depth (some n,v) := by
            refine ⟨n,rfl,fun other is => ?_⟩
            obtain rfl : field = other := Option.some.inj (found.symm.trans is)
            exact ⟨d,put,first,mapError_eq_ok_iff.mp taken⟩
          refine ⟨List.forall_mem_cons.mpr ⟨fits,each⟩,fun k member => ?_⟩
          rcases noted k member with before | ⟨v,within⟩
          · rcases List.mem_cons.mp before with rfl | before
            · exact .inr ⟨v,List.mem_cons_self⟩
            · exact .inl before
          · exact .inr ⟨v,List.mem_cons_of_mem _ within⟩

/-- A record is read from a map only if all members fit and no field that has to be there is
missing. -/
theorem readRecord_of_ok {shape : RecordShape Part Refusal σ} {d : Draft}
    {row : List (Option String × Document)} (shows : Shows d (.map row)) {made : σ}
    (read : readRecord shape ⟨depth + 1,d⟩ = .ok made) :
    (∀ f ∈ row, Fits shape.fields depth f) ∧
      ∀ field ∈ shape.fields, field.required → ∃ v, (some field.name,v) ∈ row := by
  cases shows with
  | map names shows =>
    obtain ⟨⟨seen,record⟩,read,whole⟩ := bind_eq_ok_iff.mp read
    obtain ⟨fits,noted⟩ := readRecordMembers_of_ok names shows read
    refine ⟨fits,fun field among required => ?_⟩
    cases missing : shape.fields.find? fun f => f.required && !seen.contains f.name with
    | some f =>
      simp only [missing] at whole
      cases whole
    | none =>
      have there : field.name ∈ seen := by
        simpa [required] using List.find?_eq_none.mp missing field among
      exact (noted field.name there).resolve_left List.not_mem_nil

theorem skip_shown {d : Draft} {v : Document} (shows : Shows d v) : skip d = .ok () := by
  cases shows <;> rfl

/-- Under a name that stands only once there is one value. -/
theorem value_unique {row : List (Option String × β)} (distinct : (row.filterMap (·.1)).Nodup)
    {n : String} {v w : β} (here : (some n,v) ∈ row) (there : (some n,w) ∈ row) : v = w := by
  have apart := List.pairwise_filterMap.mp distinct
  by_contra other
  have symm : Std.Symm fun f g : Option String × β => ∀ m, f.1 = some m → ∀ k, g.1 = some k → m ≠ k :=
    ⟨fun f g apart m is k is' => (apart k is' m is).symm⟩
  exact apart.forall here there (by simp [other]) n rfl n rfl rfl

/-- Members with names that are texts. -/
theorem exists_named {row : List (Option String × β)} (texts : ∀ f ∈ row, f.1.isSome) :
    ∃ fields : List (String × β), row = fields.map fun f => (some f.1,f.2) := by
  induction row with
  | nil => exact ⟨[],rfl⟩
  | cons f row ih =>
    obtain ⟨first,later⟩ := List.forall_mem_cons.mp texts
    obtain ⟨n,is⟩ := Option.isSome_iff_exists.mp first
    obtain ⟨fields,rfl⟩ := ih later
    exact ⟨(n,f.2) :: fields,by rw [List.map_cons,← is]⟩

/-- A map is read as the record that its members make. -/
theorem readRecord_shown {shape : RecordShape Part Refusal σ} {put : String → σ → σ} {d : Draft}
    {row : List (Option String × Document)} (shows : Shows d (.map row))
    (texts : ∀ f ∈ row, f.1.isSome) (distinct : (row.filterMap (·.1)).Nodup)
    (puts : ∀ {n v}, (some n,v) ∈ row → ∀ d, Shows d v → Puts shape.fields depth put n d)
    (all : ∀ field ∈ shape.fields, field.required → ∃ v, (some field.name,v) ∈ row) :
    readRecord shape ⟨depth + 1,d⟩ =
      .ok ((row.filterMap (·.1)).foldl (fun r n => put n r) shape.start) := by
  obtain ⟨fields,rfl⟩ := exists_named texts
  have names : (fields.map fun f => (some f.1,f.2)).filterMap (·.1) = fields.map (·.1) := by
    simp [List.filterMap_map]
  rw [names] at distinct ⊢
  cases shows with
  | map named shows =>
    have named := List.forall₂_map_right_iff.mp named
    have shows := List.forall₂_map_right_iff.mp shows
    refine readRecord_ok (List.forall₂_map_right_iff.mpr ?_) (List.forall₂_map_right_iff.mpr ?_)
      distinct ?_ _ _
    · exact named.imp fun m f same => toOption_eq_some_iff.mp same
    · exact forall₂_imp_mem shows fun f member m shows => puts (List.mem_map_of_mem member) _ shows
    · intro field among required
      obtain ⟨v,member⟩ := all field among required
      simp only [List.mem_map,Prod.mk.injEq,Option.some.injEq] at member ⊢
      obtain ⟨f,member,named,-⟩ := member
      exact ⟨f,member,named⟩

/-- A part of a record that is set under one name only. -/
theorem foldl_put {part : σ → α} {put : String → σ → σ} {name : String} {a : α}
    (sets : ∀ r, part (put name r) = a) (keeps : ∀ n ≠ name, ∀ r, part (put n r) = part r)
    (names : List String) (r : σ) :
    part (names.foldl (fun r n => put n r) r) = if name ∈ names then a else part r := by
  induction names generalizing r with
  | nil => simp
  | cons n names ih =>
    rw [List.foldl_cons,ih]
    by_cases same : n = name
    · simp [same,sets]
    · simp [keeps n same,Ne.symm same]

end Placard.Json

import Placard.Proofs.Config.Reading
import Placard.Proofs.Config.Varying

/-! A field that is set has the last word, whatever is set elsewhere after it. What is read of a
record then is what was read before, but for the change that the field makes. -/
namespace Placard

namespace ConfigValue

theorem withField_same (into : ConfigValue) (name : String) (v v' : ConfigValue) :
    (into.withField name v').withField name v = into.withField name v := by
  cases into with
  | table given origin => simp only [withField,Json.insertField_same]
  | _ => simp [withField,Json.insertField]

theorem withField_comm {name other : String} (apart : name ≠ other) (into v v' : ConfigValue) :
    (into.withField name v).withField other v' = (into.withField other v').withField name v := by
  cases into with
  | table given origin => simp only [withField,Json.insertField_comm apart.symm]
  | _ => exact congrArg (table · none) (Json.insertField_comm apart.symm v' v [])

theorem putUnder_withField {name other : String} (apart : Other name other)
    (into v v' : ConfigValue) (steps : List Config.Step) :
    putUnder v' other (into.withField name v) steps =
      (putUnder v' other into steps).withField name v := by
  cases steps with
  | nil =>
    rw [putUnder,putUnder,put_eq,put_eq,lookup_withField,if_neg apart.2,withField_comm apart.2.symm]
  | cons step rest =>
    rw [putUnder,putUnder,lookup_withField,if_neg apart.1,withField_comm apart.1.symm]
    · rintro ⟨⟩
    · rintro ⟨⟩

theorem lookup_putUnder {name other : String} (apart : Other name other)
    (into v : ConfigValue) (steps : List Config.Step) :
    (putUnder v other into steps).fields.lookup name = into.fields.lookup name := by
  cases steps with
  | nil => rw [putUnder,put_eq,lookup_withField,if_neg apart.2.symm]
  | cons step rest =>
    rw [putUnder,lookup_withField,if_neg apart.1.symm]
    rintro ⟨⟩

variable {group field : String} {v : ConfigValue}

/-- A field that is set has its value whatever is set elsewhere after it. -/
theorem set_set_past (first : Config.Word group) (second : Config.Word field)
    (plain : ∀ below, v.onto below = v) {key : String}
    (past : Past group field (Config.Key.ofText key)) (v' config : ConfigValue) :
    (config.set (Config.settingName group field) v).set key v' =
      (config.set key v').set (Config.settingName group field) v := by
  rw [Config.set_settingName first second plain,Config.set_settingName first second plain,
    ConfigValue.set,ConfigValue.set]
  rcases past with apart | ⟨same,n,rest,steps,apart⟩
  · rw [putUnder_withField apart,lookup_putUnder apart]
  · have under (into : ConfigValue) : putUnder v' group into (.name n :: rest) =
        into.withField group (putUnder v' n ((into.fields.lookup group).getD unset) rest) := by
      rw [putUnder,within_name]
      rintro ⟨⟩
    rw [same,steps,under,under]
    simp only [lookup_withField,if_true,Option.getD_some,withField_same,putUnder_withField apart]

theorem assign_set_past (first : Config.Word group) (second : Config.Word field)
    (plain : ∀ below, v.onto below = v) {given : Config.Assignments}
    (past : ∀ g ∈ given, Past group field (Config.Key.ofText g.1)) (config : ConfigValue) :
    Config.assign (config.set (Config.settingName group field) v) given =
      (Config.assign config given).set (Config.settingName group field) v := by
  induction given generalizing config with
  | nil => rfl
  | cons g rest ih =>
    obtain ⟨here,later⟩ := List.forall_mem_cons.mp past
    have step := set_set_past first second plain here g.2 config
    simp only [Config.assign,List.foldl_cons] at ih ⊢
    rw [step,ih later]

variable {given given' : List (String × ConfigValue)} {fields : List (Field ConfigValue ConfigFault σ)}
  {shape : RecordShape ConfigValue ConfigFault σ} {change : σ → σ} {record : σ} {name : String}

def taken (given : List (String × ConfigValue)) (field : Field ConfigValue ConfigFault σ) :
    Except ConfigFault (σ → σ) :=
  match given.lookup field.name with
  | none => .ok id
  | some v => (field.put v).mapError (.under field.name)

theorem readFields_cons (field : Field ConfigValue ConfigFault σ) :
    readFields given record (field :: fields) =
      taken given field >>= fun put => readFields given (put record) fields := by
  rw [readFields,taken]
  cases given.lookup field.name <;> rfl

def Keeps (change : σ → σ) (field : Field ConfigValue ConfigFault σ) : Prop :=
  ∀ v put, field.put v = .ok put → ∀ record, put (change record) = change (put record)

theorem Keeps.taken {field : Field ConfigValue ConfigFault σ} (keeps : Keeps change field)
    {put : σ → σ} (takes : taken given field = .ok put) (record : σ) :
    put (change record) = change (put record) := by
  unfold ConfigValue.taken at takes
  cases found : given.lookup field.name with
  | none =>
    rw [found] at takes
    cases takes
    rfl
  | some v =>
    rw [found] at takes
    exact keeps v put (mapError_eq_ok_iff.mp takes) record

theorem readFields_changed (same : ∀ f ∈ fields, given'.lookup f.name = given.lookup f.name)
    (keeps : ∀ f ∈ fields, Keeps change f) :
    readFields given' (change record) fields = (readFields given record fields).map change := by
  induction fields generalizing record with
  | nil => rfl
  | cons field rest ih =>
    obtain ⟨here,later⟩ := List.forall_mem_cons.mp same
    obtain ⟨keep,keeps⟩ := List.forall_mem_cons.mp keeps
    have takes' : taken given' field = taken given field := by rw [taken,taken,here]
    rw [readFields_cons,readFields_cons,takes']
    cases takes : taken given field with
    | error fault => rfl
    | ok put =>
      have step := @ih (put record) later keeps
      rw [← keep.taken takes] at step
      exact step

/-- A change of records that is a matter of one field, and of no other. -/
structure Confined (fields : List (Field ConfigValue ConfigFault σ)) (name : String)
    (change : σ → σ) : Prop where
  named : name ∈ fields.map (·.name)
  single : (fields.map (·.name)).Nodup
  beside : ∀ f ∈ fields, f.name ≠ name → Keeps change f

theorem readFields_change (confined : Confined fields name change)
    (others : ∀ key, key ≠ name → given'.lookup key = given.lookup key)
    (here : ∀ f ∈ fields, f.name = name → taken given' f = (taken given f).map (change ∘ ·)) :
    readFields given' record fields = (readFields given record fields).map change := by
  obtain ⟨named,single,beside⟩ := confined
  induction fields generalizing record with
  | nil => cases named
  | cons field rest ih =>
    obtain ⟨first,here⟩ := List.forall_mem_cons.mp here
    obtain ⟨keep,beside⟩ := List.forall_mem_cons.mp beside
    obtain ⟨fresh,single⟩ := List.nodup_cons.mp single
    rw [readFields_cons,readFields_cons]
    -- No two fields share the name, so once the field is met the others read what they read before.
    by_cases same : field.name = name
    · have apart : ∀ f ∈ rest, f.name ≠ name := fun f member other =>
        fresh (List.mem_map.mpr ⟨f,member,other.trans same.symm⟩)
      rw [first same]
      cases taken given field with
      | error fault => rfl
      | ok put =>
        exact readFields_changed (fun f member => others _ (apart f member))
          fun f member => beside f member (apart f member)
    · have takes' : taken given' field = taken given field := by
        rw [taken,taken,others _ same]
      rw [takes']
      cases taken given field with
      | error fault => rfl
      | ok put =>
        exact ih here ((List.mem_cons.mp named).resolve_left (Ne.symm same)) single beside

/-- A record of which one field is read from another value. -/
theorem readRecord_change (confined : Confined shape.fields name change)
    (others : ∀ key, key ≠ name → given'.lookup key = given.lookup key)
    (here : ∀ f ∈ shape.fields, f.name = name → taken given' f = (taken given f).map (change ∘ ·))
    (there : ∀ f ∈ shape.fields, f.name = name → f.required →
      (given.lookup name).isNone = (given'.lookup name).isNone) (origin origin' : Option Origin) :
    readRecord shape (.table given' origin') = (readRecord shape (.table given origin)).map change := by
  have missing : (shape.fields.find? fun f => f.required && (given'.lookup f.name).isNone) =
      shape.fields.find? fun f => f.required && (given.lookup f.name).isNone := by
    refine List.find?_congr fun f member => ?_
    by_cases same : f.name = name
    · cases required : f.required with
      | false => rfl
      | true => rw [same,there f member same required]
    · rw [others _ same]
  simp only [readRecord]
  rw [readFields_change confined others here,missing]
  cases readFields given shape.start shape.fields with
  | error fault => rfl
  | ok record =>
    cases shape.fields.find? fun f => f.required && (given.lookup f.name).isNone <;> rfl

theorem readRecord_replaced {v v' : ConfigValue} (confined : Confined shape.fields name change)
    (found : given.lookup name = some v)
    (passes : ∀ f ∈ shape.fields, f.name = name → f.put v' = (f.put v).map (change ∘ ·))
    (origin : Option Origin) :
    readRecord shape ((table given origin).withField name v') =
      (readRecord shape (table given origin)).map change := by
  refine readRecord_change confined (fun key other => ?_) (fun f member same => ?_)
    (fun _ _ _ _ => ?_) origin origin
  · rw [Json.lookup_insertField,if_neg other]
  · rw [taken,taken,same,Json.lookup_insertField,if_pos rfl,found]
    simp only [passes f member same]
    exact mapError_map _ _ _
  · rw [Json.lookup_insertField,if_pos rfl,found]
    rfl

def Apart (f g : Field ConfigValue ConfigFault σ) : Prop :=
  ∀ u v put put', f.put u = .ok put → g.put v = .ok put' →
    ∀ record, put' (put record) = put (put' record)

instance : Std.Symm (@Apart σ) where
  symm _ _ apart u v put put' first second record :=
    (apart v u put' put second first record).symm

/-- Fields with places of their own. What one puts stays when another is put, and gives way when it is
put again itself. -/
structure Independent (fields : List (Field ConfigValue ConfigFault σ)) : Prop where
  single : (fields.map (·.name)).Nodup
  again : ∀ f ∈ fields, ∀ u v put change, f.put u = .ok put → f.put v = .ok change →
    ∀ record, change (put record) = change record
  apart : fields.Pairwise Apart

theorem Independent.confined (independent : Independent fields)
    {f : Field ConfigValue ConfigFault σ} (member : f ∈ fields) {v : ConfigValue}
    (makes : f.put v = .ok change) : Confined fields f.name change where
  named := List.mem_map_of_mem member
  single := independent.single
  beside g second other u put reads := by
    have distinct : f ≠ g := by
      rintro rfl
      exact other rfl
    exact independent.apart.forall member second distinct v u change put makes reads

/-- A field that is put makes its change, whatever it was read from before, and that is all. -/
theorem Independent.readRecord_put (independent : Independent shape.fields)
    {f : Field ConfigValue ConfigFault σ} (member : f ∈ shape.fields) {v : ConfigValue}
    (makes : f.put v = .ok change)
    (others : ∀ key, key ≠ f.name → given'.lookup key = given.lookup key)
    (found : given'.lookup f.name = some v)
    (readable : ∀ u, given.lookup f.name = some u → ∃ put, f.put u = .ok put)
    (there : f.required → (given.lookup f.name).isSome) (origin origin' : Option Origin) :
    readRecord shape (.table given' origin') = (readRecord shape (.table given origin)).map change := by
  have only : ∀ g ∈ shape.fields, g.name = f.name → g = f := fun g second same =>
    List.inj_on_of_nodup_map independent.single second member same
  refine readRecord_change (independent.confined member makes) others ?_ ?_ origin origin'
  · intro g second same
    obtain rfl := only g second same
    rw [taken,taken,found]
    cases before : given.lookup g.name with
    | none =>
      simp only [makes]
      rfl
    | some u =>
      obtain ⟨put,reads⟩ := readable u before
      simp only [makes,reads]
      exact congrArg Except.ok (funext (independent.again g member u v put change reads makes)).symm
  · intro g second same required
    obtain rfl := only g second same
    obtain ⟨u,before⟩ := Option.isSome_iff_exists.mp (there required)
    rw [before,found]
    rfl

/-- Each field of a record that can be read can be read itself. -/
theorem readable_of_readFields {result : σ} (read : readFields given record fields = .ok result) :
    ∀ f ∈ fields, ∀ u, given.lookup f.name = some u → ∃ put, f.put u = .ok put := by
  induction fields generalizing record with
  | nil => exact List.forall_mem_nil _
  | cons field rest ih =>
    rw [readFields_cons,bind_eq_ok_iff] at read
    obtain ⟨put,takes,later⟩ := read
    refine List.forall_mem_cons.mpr ⟨fun u found => ?_,ih later⟩
    simp only [taken,found,mapError_eq_ok_iff] at takes
    exact ⟨put,takes⟩

/-- A record that can be read is read with the one change if a field of it is put. -/
theorem Independent.readRecord_ok (independent : Independent shape.fields)
    {f : Field ConfigValue ConfigFault σ} (member : f ∈ shape.fields) {u v : ConfigValue}
    (makes : f.put v = .ok change)
    (others : ∀ key, key ≠ f.name → given'.lookup key = given.lookup key)
    (before : given.lookup f.name = some u) (found : given'.lookup f.name = some v)
    {origin origin' : Option Origin} (read : readRecord shape (.table given origin) = .ok record) :
    readRecord shape (.table given' origin') = .ok (change record) := by
  have readable := readable_of_readFields (readRecord_table.mp read).2 f member
  have there : f.required → (given.lookup f.name).isSome := fun _ => by rw [before]; rfl
  rw [independent.readRecord_put member makes others found readable there origin origin',read]
  rfl

def Readable (fields : List (Field ConfigValue ConfigFault σ)) (name : String) (v : ConfigValue) :
    Prop :=
  ∀ f ∈ fields, f.name = name → ∃ put, f.put v = .ok put

theorem apart_of_set {f g : Field ConfigValue ConfigFault σ}
    {read : ConfigValue → Except ConfigFault α} {set : α → σ → σ}
    {read' : ConfigValue → Except ConfigFault β} {set' : β → σ → σ}
    (puts : f.put = fun v => (read v).map set) (puts' : g.put = fun v => (read' v).map set')
    (comm : ∀ a b record, set' b (set a record) = set a (set' b record)) : Apart f g := by
  intro u v put put' first second
  rw [puts] at first
  rw [puts'] at second
  obtain ⟨a,-,rfl⟩ := map_eq_ok_iff.mp first
  obtain ⟨b,-,rfl⟩ := map_eq_ok_iff.mp second
  exact comm a b

theorem again_of_set {f : Field ConfigValue ConfigFault σ}
    {read : ConfigValue → Except ConfigFault α} {set : α → σ → σ}
    (puts : f.put = fun v => (read v).map set)
    (again : ∀ a b record, set b (set a record) = set b record) (u v : ConfigValue)
    (put change : σ → σ) (first : f.put u = .ok put) (second : f.put v = .ok change) (record : σ) :
    change (put record) = change record := by
  rw [puts] at first second
  obtain ⟨a,-,rfl⟩ := map_eq_ok_iff.mp first
  obtain ⟨b,-,rfl⟩ := map_eq_ok_iff.mp second
  exact again a b record

theorem keeps_of_set {field : Field ConfigValue ConfigFault σ} {read : ConfigValue → Except ConfigFault α}
    {set : α → σ → σ} (puts : field.put = fun v => (read v).map set)
    (comm : ∀ a record, set a (change record) = change (set a record)) : Keeps change field := by
  intro v put reads
  rw [puts] at reads
  obtain ⟨a,-,rfl⟩ := map_eq_ok_iff.mp reads
  exact comm a

theorem put_map {field : Field ConfigValue ConfigFault σ} {read : ConfigValue → Except ConfigFault α}
    {set : α → σ → σ} (puts : field.put = fun v => (read v).map set) {v v' : ConfigValue}
    {within : α → α} (reads : read v' = (read v).map within)
    (through : ∀ a record, set (within a) record = change (set a record)) :
    field.put v' = (field.put v).map (change ∘ ·) := by
  rw [puts]
  simp only [reads]
  cases read v with
  | error fault => rfl
  | ok a => exact congrArg Except.ok (funext (through a))

/-- Each field of the source has a place of its own. -/
theorem independent_source : Independent (SourceSettings.shape (V := ConfigValue)).fields where
  single := by decide
  again := by
    simp only [SourceSettings.shape,List.forall_mem_cons]
    and_intros
    any_goals exact again_of_set rfl fun _ _ _ => rfl
    exact List.forall_mem_nil _
  apart := by
    simp only [SourceSettings.shape,List.pairwise_cons,List.forall_mem_cons]
    and_intros
    any_goals exact apart_of_set rfl rfl fun _ _ _ => rfl
    all_goals first
      | exact List.forall_mem_nil _
      | exact List.Pairwise.nil

theorem independent_render : Independent (RenderRequest.shape (V := ConfigValue)).fields where
  single := by decide
  again := by
    simp only [RenderRequest.shape,List.forall_mem_cons]
    and_intros
    any_goals exact again_of_set rfl fun _ _ _ => rfl
    exact List.forall_mem_nil _
  apart := by
    simp only [RenderRequest.shape,List.pairwise_cons,List.forall_mem_cons]
    and_intros
    any_goals exact apart_of_set rfl rfl fun _ _ _ => rfl
    all_goals first
      | exact List.forall_mem_nil _
      | exact List.Pairwise.nil

end ConfigValue

end Placard

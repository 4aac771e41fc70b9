import Placard.Proofs.Config.Assigning
import Placard.Proofs.Result

/-! What settings are read from, field by field. A field is read from the value under its name, if
there is one. Without a value it stays as it is by default, unless it has to be there. -/
namespace Placard

namespace ConfigValue

/-- A field comes to `a`: it is what the value reads as, and without a value the default. -/
def Reads (read : ConfigValue → Except ConfigFault α) (default : α) (v : Option ConfigValue)
    (a : α) : Prop :=
  match v with
  | none => a = default
  | some v => read v = .ok a

def ReadsNeeded (read : ConfigValue → Except ConfigFault α) (v : Option ConfigValue) (a : α) :
    Prop :=
  ∃ u, v = some u ∧ read u = .ok a

theorem ReadsNeeded.isSome {read : ConfigValue → Except ConfigFault α} {v : Option ConfigValue}
    {a : α} (reads : ReadsNeeded read v a) : v.isSome := by
  obtain ⟨u,rfl,-⟩ := reads
  rfl

end ConfigValue

open ConfigValue

structure SourceSettings.ReadFrom (value : String → Option ConfigValue) (s : SourceSettings) :
    Prop where
  mode : Reads (readChoice SourceMode.choice) default.mode (value "mode") s.mode
  root : Reads readText default.root (value "root") s.root
  repository : Reads readFilled default.repository (value "repository") s.repository
  branch : Reads readText default.branch (value "branch") s.branch
  token : Reads readFilled default.token (value "access_token") s.token
  manifest : Reads readText default.manifest (value "manifest_path") s.manifest
  besideManifest : Reads readFlag default.besideManifest (value "same_repository") s.besideManifest
  api : Reads readText default.api (value "api_base") s.api

structure RenderRequest.ReadFrom (value : String → Option ConfigValue) (r : RenderRequest) :
    Prop where
  language : ReadsNeeded (readChoice Language.choice) (value "template_type") r.target.language
  source : ReadsNeeded readText (value "source_type") r.target.source
  client : Reads readClient none (value "client_type") r.target.client
  data : Reads readText blank.data (value "data") r.data

structure EngineSettings.ReadFrom (value : String → Option ConfigValue) (s : EngineSettings) :
    Prop where
  enabled : Reads (readList (readChoice Language.choice)) default.enabled (value "enabled") s.enabled
  strict : Reads readFlag default.strict (value "strict_mode") s.strict

structure SetupSettings.ReadFrom (value : String → Option ConfigValue) (s : SetupSettings) :
    Prop where
  duplicates : Reads (readChoice DuplicatePolicy.choice) default.duplicates (value "duplicate_keys")
    s.duplicates
  onlyRequested : Reads readFlag default.onlyRequested (value "only_requested") s.onlyRequested

namespace ConfigValue

variable {given : List (String × ConfigValue)} {origin : Option Origin}

theorem readFields_some {field : Field ConfigValue ConfigFault σ} {v : ConfigValue}
    (found : given.lookup field.name = some v) {record result : σ}
    {rest : List (Field ConfigValue ConfigFault σ)} :
    readFields given record (field :: rest) = .ok result ↔
      ∃ put, field.put v = .ok put ∧ readFields given (put record) rest = .ok result := by
  simp only [readFields,found,bind_eq_ok_iff,mapError_eq_ok_iff]

/-- A field that may be missing keeps what the record has, if that is the default. -/
theorem readFields_optional {name : String} {read : ConfigValue → Except ConfigFault α}
    {set : α → σ → σ} {default : α} {record result : σ} (keeps : set default record = record)
    {rest : List (Field ConfigValue ConfigFault σ)} :
    readFields given record (.optional name read set :: rest) = .ok result ↔
      ∃ a, Reads read default (given.lookup name) a ∧
        readFields given (set a record) rest = .ok result := by
  cases found : given.lookup name with
  | none => simp [readFields,Field.optional,found,Reads,keeps]
  | some v =>
    rw [readFields_some found]
    simp only [Field.optional,map_eq_ok_iff,Reads]
    constructor
    · rintro ⟨_,⟨a,reads,rfl⟩,later⟩
      exact ⟨a,reads,later⟩
    · rintro ⟨a,reads,later⟩
      exact ⟨_,⟨a,reads,rfl⟩,later⟩

theorem readFields_needed {name : String} {read : ConfigValue → Except ConfigFault α}
    {set : α → σ → σ} {record result : σ} (there : (given.lookup name).isSome)
    {rest : List (Field ConfigValue ConfigFault σ)} :
    readFields given record (.needed name read set :: rest) = .ok result ↔
      ∃ a, ReadsNeeded read (given.lookup name) a ∧
        readFields given (set a record) rest = .ok result := by
  obtain ⟨v,found⟩ := Option.isSome_iff_exists.mp there
  rw [readFields_some found]
  simp only [Field.needed,map_eq_ok_iff,ReadsNeeded,found,Option.some.injEq]
  constructor
  · rintro ⟨_,⟨a,reads,rfl⟩,later⟩
    exact ⟨a,⟨v,rfl,reads⟩,later⟩
  · rintro ⟨a,⟨_,rfl,reads⟩,later⟩
    exact ⟨_,⟨a,reads,rfl⟩,later⟩

def needed (shape : RecordShape ConfigValue ConfigFault σ) : List String :=
  (shape.fields.filter (·.required)).map (·.name)

/-- A record is read from a table if its fields are and those that have to be there are. -/
theorem readRecord_table {shape : RecordShape ConfigValue ConfigFault σ} {result : σ} :
    readRecord shape (.table given origin) = .ok result ↔
      (∀ name ∈ needed shape, (given.lookup name).isSome) ∧
        readFields given shape.start shape.fields = .ok result := by
  cases missing : shape.fields.find? fun f => f.required && (given.lookup f.name).isNone with
  | none =>
    have all : ∀ name ∈ needed shape, (given.lookup name).isSome := by
      rw [List.find?_eq_none] at missing
      refine List.forall_mem_map.mpr fun field member => ?_
      obtain ⟨member,required⟩ := List.mem_filter.mp member
      simpa [required] using missing field member
    simp only [readRecord,bind_eq_ok_iff,missing,iff_true_intro all,true_and]
    constructor
    · rintro ⟨_,reads,⟨⟩⟩
      exact reads
    · exact fun reads => ⟨result,reads,rfl⟩
  | some field =>
    have faulty := List.find?_some missing
    simp only [Bool.and_eq_true,Option.isNone_iff_eq_none] at faulty
    have member : field.name ∈ needed shape :=
      List.mem_map_of_mem (List.mem_filter.mpr ⟨List.mem_of_find?_eq_some missing,faulty.1⟩)
    constructor
    · intro done
      simp only [readRecord,bind_eq_ok_iff,missing] at done
      obtain ⟨_,-,⟨⟩⟩ := done
    · rintro ⟨all,-⟩
      simpa [faulty.2] using all _ member

theorem readRecord_source {s : SourceSettings} :
    readRecord SourceSettings.shape (.table given origin) = .ok s ↔ s.ReadFrom (List.lookup · given) := by
  rw [readRecord_table]
  constructor
  · rintro ⟨-,read⟩
    obtain ⟨_,mode,read⟩ := (readFields_optional rfl).mp read
    obtain ⟨_,root,read⟩ := (readFields_optional rfl).mp read
    obtain ⟨_,repository,read⟩ := (readFields_optional rfl).mp read
    obtain ⟨_,branch,read⟩ := (readFields_optional rfl).mp read
    obtain ⟨_,token,read⟩ := (readFields_optional rfl).mp read
    obtain ⟨_,manifest,read⟩ := (readFields_optional rfl).mp read
    obtain ⟨_,besideManifest,read⟩ := (readFields_optional rfl).mp read
    obtain ⟨_,api,⟨⟩⟩ := (readFields_optional rfl).mp read
    exact ⟨mode,root,repository,branch,token,manifest,besideManifest,api⟩
  · rintro ⟨mode,root,repository,branch,token,manifest,besideManifest,api⟩
    refine ⟨List.forall_mem_nil _,?_⟩
    refine (readFields_optional rfl).mpr ⟨_,mode,?_⟩
    refine (readFields_optional rfl).mpr ⟨_,root,?_⟩
    refine (readFields_optional rfl).mpr ⟨_,repository,?_⟩
    refine (readFields_optional rfl).mpr ⟨_,branch,?_⟩
    refine (readFields_optional rfl).mpr ⟨_,token,?_⟩
    refine (readFields_optional rfl).mpr ⟨_,manifest,?_⟩
    refine (readFields_optional rfl).mpr ⟨_,besideManifest,?_⟩
    exact (readFields_optional rfl).mpr ⟨_,api,rfl⟩

theorem readRecord_render {r : RenderRequest} :
    readRecord RenderRequest.shape (.table given origin) = .ok r ↔
      r.ReadFrom (List.lookup · given) := by
  rw [readRecord_table]
  constructor
  · rintro ⟨there,read⟩
    obtain ⟨language?,there⟩ := List.forall_mem_cons.mp there
    obtain ⟨source?,-⟩ := List.forall_mem_cons.mp there
    obtain ⟨_,language,read⟩ := (readFields_needed language?).mp read
    obtain ⟨_,source,read⟩ := (readFields_needed source?).mp read
    obtain ⟨_,client,read⟩ := (readFields_optional rfl).mp read
    obtain ⟨_,data,⟨⟩⟩ := (readFields_optional rfl).mp read
    exact ⟨language,source,client,data⟩
  · rintro ⟨language,source,client,data⟩
    refine ⟨List.forall_mem_cons.mpr ⟨language.isSome,List.forall_mem_singleton.mpr source.isSome⟩,?_⟩
    refine (readFields_needed language.isSome).mpr ⟨_,language,?_⟩
    refine (readFields_needed source.isSome).mpr ⟨_,source,?_⟩
    refine (readFields_optional rfl).mpr ⟨_,client,?_⟩
    exact (readFields_optional rfl).mpr ⟨_,data,rfl⟩

theorem readRecord_engines {s : EngineSettings} :
    readRecord EngineSettings.shape (.table given origin) = .ok s ↔
      s.ReadFrom (List.lookup · given) := by
  rw [readRecord_table]
  constructor
  · rintro ⟨-,read⟩
    obtain ⟨_,enabled,read⟩ := (readFields_optional rfl).mp read
    obtain ⟨_,strict,⟨⟩⟩ := (readFields_optional rfl).mp read
    exact ⟨enabled,strict⟩
  · rintro ⟨enabled,strict⟩
    refine ⟨List.forall_mem_nil _,?_⟩
    refine (readFields_optional rfl).mpr ⟨_,enabled,?_⟩
    exact (readFields_optional rfl).mpr ⟨_,strict,rfl⟩

theorem readRecord_setup {s : SetupSettings} :
    readRecord SetupSettings.shape (.table given origin) = .ok s ↔
      s.ReadFrom (List.lookup · given) := by
  rw [readRecord_table]
  constructor
  · rintro ⟨-,read⟩
    obtain ⟨_,duplicates,read⟩ := (readFields_optional rfl).mp read
    obtain ⟨_,onlyRequested,⟨⟩⟩ := (readFields_optional rfl).mp read
    exact ⟨duplicates,onlyRequested⟩
  · rintro ⟨duplicates,onlyRequested⟩
    refine ⟨List.forall_mem_nil _,?_⟩
    refine (readFields_optional rfl).mpr ⟨_,duplicates,?_⟩
    exact (readFields_optional rfl).mpr ⟨_,onlyRequested,rfl⟩

end ConfigValue

structure Settings.ReadFrom (value : String → Option ConfigValue) (s : Settings) : Prop where
  source : Reads (readRecord SourceSettings.shape) .default (value "source") s.source
  render : ReadsNeeded (readRecord RenderRequest.shape) (value "render") s.render
  engines : Reads (readRecord EngineSettings.shape) .default (value "engines") s.engines
  setup : Reads (readRecord SetupSettings.shape) .default (value "setup") s.setup

theorem ConfigValue.readRecord_settings {given : List (String × ConfigValue)}
    {origin : Option Origin} {s : Settings} :
    readRecord Settings.shape (.table given origin) = .ok s ↔
      s.ReadFrom (List.lookup · given) := by
  rw [readRecord_table]
  constructor
  · rintro ⟨there,read⟩
    obtain ⟨_,source,read⟩ := (readFields_optional rfl).mp read
    obtain ⟨render?,-⟩ := List.forall_mem_cons.mp there
    obtain ⟨_,render,read⟩ := (readFields_needed render?).mp read
    obtain ⟨_,engines,read⟩ := (readFields_optional rfl).mp read
    obtain ⟨_,setup,⟨⟩⟩ := (readFields_optional rfl).mp read
    exact ⟨source,render,engines,setup⟩
  · rintro ⟨source,render,engines,setup⟩
    refine ⟨List.forall_mem_singleton.mpr render.isSome,?_⟩
    refine (readFields_optional rfl).mpr ⟨_,source,?_⟩
    refine (readFields_needed render.isSome).mpr ⟨_,render,?_⟩
    refine (readFields_optional rfl).mpr ⟨_,engines,?_⟩
    exact (readFields_optional rfl).mpr ⟨_,setup,rfl⟩

structure Settings.ReadFields (value : String → String → Option ConfigValue) (s : Settings) :
    Prop where
  source : s.source.ReadFrom (value "source")
  render : s.render.ReadFrom (value "render")
  engines : s.engines.ReadFrom (value "engines")
  setup : s.setup.ReadFrom (value "setup")

theorem SourceSettings.readFrom_none {s : SourceSettings} :
    s.ReadFrom (fun _ => none) ↔ s = default := by
  constructor
  · cases s
    rintro ⟨⟨⟩,⟨⟩,⟨⟩,⟨⟩,⟨⟩,⟨⟩,⟨⟩,⟨⟩⟩
    rfl
  · rintro rfl
    constructor <;> rfl

theorem EngineSettings.readFrom_none {s : EngineSettings} :
    s.ReadFrom (fun _ => none) ↔ s = default := by
  constructor
  · cases s
    rintro ⟨⟨⟩,⟨⟩⟩
    rfl
  · rintro rfl
    constructor <;> rfl

theorem SetupSettings.readFrom_none {s : SetupSettings} :
    s.ReadFrom (fun _ => none) ↔ s = default := by
  constructor
  · cases s
    rintro ⟨⟨⟩,⟨⟩⟩
    rfl
  · rintro rfl
    constructor <;> rfl

namespace ConfigValue

theorem reads_fields {shape : RecordShape ConfigValue ConfigFault σ} {default : σ}
    {From : (String → Option ConfigValue) → σ → Prop}
    (table : ∀ given origin s, readRecord shape (.table given origin) = .ok s ↔
      From (List.lookup · given) s)
    (none : ∀ s, From (fun _ => .none) s ↔ s = default) {v : Option ConfigValue}
    (tables : ∀ u, v = some u → u.IsTable) (s : σ) :
    Reads (readRecord shape) default v s ↔ From (fun field => v.bind (·.fields.lookup field)) s := by
  cases v with
  | none => exact (none s).symm
  | some u =>
    obtain ⟨given,origin,rfl⟩ := tables u rfl
    exact table given origin s

theorem readsNeeded_render {v : Option ConfigValue} (tables : ∀ u, v = some u → u.IsTable)
    (r : RenderRequest) :
    ReadsNeeded (readRecord RenderRequest.shape) v r ↔
      r.ReadFrom fun field => v.bind (·.fields.lookup field) := by
  cases v with
  | none =>
    constructor
    · rintro ⟨_,⟨⟩,-⟩
    · intro read
      obtain ⟨_,⟨⟩,-⟩ := read.language
  | some u =>
    obtain ⟨given,origin,rfl⟩ := tables u rfl
    constructor
    · rintro ⟨_,⟨⟩,read⟩
      exact readRecord_render.mp read
    · exact fun read => ⟨_,rfl,readRecord_render.mpr read⟩

/-- Settings are read from a table of groups, field by field. -/
theorem readRecord_settings_fields {config : ConfigValue} (table : config.IsTable)
    (tabular : config.Tabular) {s : Settings} :
    readRecord Settings.shape config = .ok s ↔ s.ReadFields config.value? := by
  obtain ⟨given,origin,rfl⟩ := table
  have source := reads_fields (fun _ _ _ => readRecord_source)
    (fun _ => SourceSettings.readFrom_none) (tabular "source") s.source
  have render := readsNeeded_render (tabular "render") s.render
  have engines := reads_fields (fun _ _ _ => readRecord_engines)
    (fun _ => EngineSettings.readFrom_none) (tabular "engines") s.engines
  have setup := reads_fields (fun _ _ _ => readRecord_setup)
    (fun _ => SetupSettings.readFrom_none) (tabular "setup") s.setup
  rw [readRecord_settings]
  constructor
  · rintro ⟨first,second,third,fourth⟩
    exact ⟨source.mp first,render.mp second,engines.mp third,setup.mp fourth⟩
  · rintro ⟨first,second,third,fourth⟩
    exact ⟨source.mpr first,render.mpr second,engines.mpr third,setup.mpr fourth⟩

end ConfigValue
end Placard

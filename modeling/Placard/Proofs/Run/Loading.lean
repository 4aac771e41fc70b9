import Placard.Proofs.Config.Layering
import Placard.Proofs.Config.Reading
import Placard.Proofs.Run.World
import Placard.Proofs.Text.Utf8

/-! Loading settings from the layers that a world has: a file for every run, a file for the mode of
the run, and variables. Each field is read on its own from the last layer that sets it. -/
namespace Placard

open ConfigValue

namespace Config

theorem byDefault_settings : ∀ g ∈ byDefault, IsSetting g := by
  simp only [byDefault,List.forall_mem_cons]
  refine ⟨⟨"source","mode",?_,?_,rfl,fun _ => rfl⟩,⟨"source","branch",?_,?_,rfl,fun _ => rfl⟩,
    ⟨"source","manifest_path",?_,?_,rfl,fun _ => rfl⟩,⟨"engines","strict_mode",?_,?_,rfl,fun _ => rfl⟩,
    ⟨"setup","duplicate_keys",?_,?_,rfl,fun _ => rfl⟩,List.forall_mem_nil _⟩ <;> decide +kernel

def preset (group field : String) : Option ConfigValue :=
  byDefault.lookup (settingName group field)

/-- The path of a layer's file. -/
def layerPath (name : String) : String := layerName name ++ ".json"

/-- The value that a field is read from, given what the files for every run and for the mode hold. -/
def layered (every forMode : List (String × Json)) (mode : String) (environment : Variables)
    (group field : String) : Option ConfigValue :=
  (ofVariable? environment group field).or <|
    laid (.file (layerPath mode)) (fieldOf? forMode group field) <|
      laid (.file (layerPath "default")) (fieldOf? every group field) <|
        preset group field

/-- The value of the last layer that sets a field, on its own. -/
def topmost (every forMode : List (String × Json)) (mode : String) (environment : Variables)
    (group field : String) : Option ConfigValue :=
  (ofVariable? environment group field).or <|
    ((fieldOf? forMode group field).map (ofJson (.file (layerPath mode)))).or <|
      ((fieldOf? every group field).map (ofJson (.file (layerPath "default")))).or <|
        preset group field

theorem onto_ofJson {v : Json} (plain : ∀ fields, v ≠ .obj fields) (origin : Origin)
    (below : Option ConfigValue) : (ofJson origin v).onto below = ofJson origin v := by
  cases v with
  | obj fields => exact absurd rfl (plain fields)
  | int i => rw [ofJson]; split <;> rfl
  | _ => rfl

theorem laid_eq_or {set : Option Json} (plain : ∀ fields, set ≠ some (.obj fields))
    (origin : Origin) (below : Option ConfigValue) :
    laid origin set below = (set.map (ofJson origin)).or below := by
  cases set with
  | none => rfl
  | some v =>
    rw [laid,onto_ofJson fun fields same => plain fields (congrArg some same)]
    rfl

/-- A field that is no object in any file is read from the last layer that sets it. -/
theorem layered_eq_topmost {every forMode : List (String × Json)} {group field : String}
    (plain : ∀ fields, fieldOf? every group field ≠ some (.obj fields))
    (plain' : ∀ fields, fieldOf? forMode group field ≠ some (.obj fields)) (mode : String)
    (environment : Variables) :
    layered every forMode mode environment group field =
      topmost every forMode mode environment group field := by
  rw [layered,topmost,laid_eq_or plain,laid_eq_or plain']

/-- The table that the layers make up. -/
def merged (every forMode : List (String × Json)) (mode : String) (environment : Variables) :
    ConfigValue :=
  [byDefault,ofGroups (.file (layerPath "default")) every,ofGroups (.file (layerPath mode)) forMode,
    ofVariables environment].foldl assign .empty

variable {every forMode : List (String × Json)} {mode : String} {environment : Variables}

theorem value?_merged (grouped : Grouped every) (grouped' : Grouped forMode)
    (fielded : Fielded environment) {group field : String} (first : Word group)
    (second : Word field) :
    (merged every forMode mode environment).value? group field =
      layered every forMode mode environment group field := by
  have names : (byDefault.map (·.1)).Nodup := by decide
  have bare : ConfigValue.empty.value? group field = none := rfl
  simp only [merged,List.foldl_cons,List.foldl_nil,layered,preset]
  rw [value?_settings (isSetting_ofVariables fielded) (nodup_ofVariables fielded) first second,
    lookup_ofVariables fielded first second,value?_ofGroups grouped',value?_ofGroups grouped,
    value?_settings byDefault_settings names first second,bare,Option.or_none]

theorem tabular_merged (grouped : Grouped every) (grouped' : Grouped forMode)
    (fielded : Fielded environment) : (merged every forMode mode environment).Tabular := by
  have bare : ConfigValue.empty.Tabular := by
    rintro name v ⟨⟩
  exact tabular_settings (isSetting_ofVariables fielded) <| tabular_ofGroups grouped' _ <|
    tabular_ofGroups grouped _ <| tabular_settings byDefault_settings bare

theorem isTable_assign {config : ConfigValue} (table : config.IsTable) (given : Assignments) :
    (assign config given).IsTable := by
  induction given generalizing config with
  | nil => exact table
  | cons g rest ih => exact ih (isTable_set _ _)

end Config

open Config

variable {value value' : String → Option ConfigValue}

theorem SourceSettings.ReadFrom.congr {s : SourceSettings} (read : s.ReadFrom value)
    (same : ∀ field, Word field → value field = value' field) : s.ReadFrom value' where
  mode := same "mode" (by decide +kernel) ▸ read.mode
  root := same "root" (by decide +kernel) ▸ read.root
  repository := same "repository" (by decide +kernel) ▸ read.repository
  branch := same "branch" (by decide +kernel) ▸ read.branch
  token := same "access_token" (by decide +kernel) ▸ read.token
  manifest := same "manifest_path" (by decide +kernel) ▸ read.manifest
  besideManifest := same "same_repository" (by decide +kernel) ▸ read.besideManifest
  api := same "api_base" (by decide +kernel) ▸ read.api

theorem RenderRequest.ReadFrom.congr {r : RenderRequest} (read : r.ReadFrom value)
    (same : ∀ field, Word field → value field = value' field) : r.ReadFrom value' where
  language := same "template_type" (by decide +kernel) ▸ read.language
  source := same "source_type" (by decide +kernel) ▸ read.source
  client := same "client_type" (by decide +kernel) ▸ read.client
  data := same "data" (by decide +kernel) ▸ read.data

theorem EngineSettings.ReadFrom.congr {s : EngineSettings} (read : s.ReadFrom value)
    (same : ∀ field, Word field → value field = value' field) : s.ReadFrom value' where
  enabled := same "enabled" (by decide +kernel) ▸ read.enabled
  strict := same "strict_mode" (by decide +kernel) ▸ read.strict

theorem SetupSettings.ReadFrom.congr {s : SetupSettings} (read : s.ReadFrom value)
    (same : ∀ field, Word field → value field = value' field) : s.ReadFrom value' where
  duplicates := same "duplicate_keys" (by decide +kernel) ▸ read.duplicates
  onlyRequested := same "only_requested" (by decide +kernel) ▸ read.onlyRequested

theorem Settings.ReadFields.congr {s : Settings} {value value' : String → String → Option ConfigValue}
    (read : s.ReadFields value)
    (same : ∀ group field, Word group → Word field → value group field = value' group field) :
    s.ReadFields value' where
  source := read.source.congr (same "source" · (by decide +kernel))
  render := read.render.congr (same "render" · (by decide +kernel))
  engines := read.engines.congr (same "engines" · (by decide +kernel))
  setup := read.setup.congr (same "setup" · (by decide +kernel))

/-- What is preset agrees with the defaults of the fields, and of a request nothing is preset. -/
theorem presets_agree :
    SourceSettings.default.ReadFrom (preset "source") ∧
      EngineSettings.default.ReadFrom (preset "engines") ∧
      SetupSettings.default.ReadFrom (preset "setup") ∧ ∀ field, preset "render" field = none := by
  refine ⟨⟨?_,?_,?_,?_,?_,?_,?_,?_⟩,⟨?_,?_⟩,⟨?_,?_⟩,fun field => ?_⟩
  case refine_13 =>
    have other : ∀ name ∈ byDefault.map (·.1), name.toList.head? ≠ some 'r' := by decide
    rw [preset,← Option.not_isSome_iff_eq_none,lookup_isSome_iff_mem]
    exact fun member => other _ member (by simp [settingName])
  all_goals rfl

namespace Config

structure PlainName (name : String) : Prop where
  whole : '/' ∉ name.toList
  leads : name ≠ "" ∧ name ≠ "." ∧ name ≠ ".."

instance (name : String) : Decidable (PlainName name) :=
  decidable_of_iff ('/' ∉ name.toList ∧ name ≠ "" ∧ name ≠ "." ∧ name ≠ "..")
    ⟨fun h => ⟨h.1,h.2⟩,fun h => ⟨h.whole,h.leads⟩⟩

theorem pathSteps_layerName {name : String} (plain : PlainName name) :
    pathSteps (layerName name) = ["config",name] := by
  have folder : '/' ∉ "config".toList := by decide
  have text : (layerName name).toList = "config".toList ++ '/' :: name.toList := by
    simp [layerName]
  rw [pathSteps,Files.steps,text,List.splitOn_append_cons_self_of_not_mem folder,
    List.splitOn_eq_singleton plain.whole]
  simp [plain.leads]

theorem withExtension_layerName {name : String} (plain : PlainName name) :
    withExtension (pathSteps (layerName name)) = some ["config",name ++ ".json"] := by
  have last : ["config",name].getLast? = some name := rfl
  rw [pathSteps_layerName plain,withExtension,last]
  split
  next none => cases none
  next above => exact absurd (Option.some.inj above) plain.leads.2.2
  next same => rw [Option.some.inj same]; rfl

theorem pathText_layerPath (name : String) : pathText ["config",name ++ ".json"] = layerPath name := by
  simp [pathText,layerPath,layerName,String.append_assoc]

end Config

namespace World

/-- A file under `config` that is named as a layer holds groups of settings; a missing one holds
none. -/
structure Holds (w : World) (name : String) (groups : List (String × Json)) : Prop where
  bare : ∃ o, w.files (layerName name) = .error o
  held : match w.files (layerPath name) with
    | .error _ => groups = []
    | .ok contents => ∃ text, String.fromUTF8? contents = some text ∧
        Json.parse text = .ok (.obj groups)

variable {w : World} {every forMode : List (String × Json)}

theorem read_eq (w : World) (path : String) : w.surroundings.read path = pure (w.files path) := rfl

theorem layer_of_holds {name : String} {groups : List (String × Json)} (plain : PlainName name)
    (holds : w.Holds name groups) :
    (layer w.surroundings.read (layerName name)).run =
      .ok (ofGroups (.file (layerPath name)) groups) := by
  obtain ⟨⟨o,bare⟩,held⟩ := holds
  have named := withExtension_layerName plain
  cases stored : w.files (layerPath name) with
  | error o =>
    simp only [stored] at held
    simp [layer,layerFile,read_eq,bare,named,pathText_layerPath,stored,held,ofGroups]
  | ok contents =>
    simp only [stored] at held
    obtain ⟨text,decoded,parsed⟩ := held
    simp [layer,layerFile,read_eq,bare,named,pathText_layerPath,stored,decoded,Config.ofText,
      parsed,ofGroups]

/-- A world without a file of variables, with files of groups and with variables for fields. -/
structure Tabled (w : World) (every forMode : List (String × Json)) : Prop where
  unfiled : ∃ o, w.files variableFile = .error o
  plain : PlainName (mode w.environment)
  first : w.Holds "default" every
  second : w.Holds (mode w.environment) forMode
  tabled : Config.Tabled every
  tabled' : Config.Tabled forMode
  fielded : Fielded w.environment

structure Layered (w : World) (every forMode : List (String × Json)) : Prop
    extends w.Tabled every forMode where
  unindexed : ∀ g ∈ every, '[' ∉ g.1.toList
  unindexed' : ∀ g ∈ forMode, '[' ∉ g.1.toList

theorem Layered.grouped (layered : w.Layered every forMode) : Grouped every :=
  ⟨layered.tabled,layered.unindexed⟩

theorem Layered.grouped' (layered : w.Layered every forMode) : Grouped forMode :=
  ⟨layered.tabled',layered.unindexed'⟩

/-- Settings come of two files and of the variables. -/
theorem settings_eq_layers {environment : Variables}
    (found : (allVariables w.surroundings).run = environment) :
    w.settings =
      match (layer w.surroundings.read (layerName "default")).run with
      | .error message => .error (.config message)
      | .ok given =>
        match (layer w.surroundings.read (layerName (mode environment))).run with
        | .error message => .error (.config message)
        | .ok given' => (settingsOf given given' environment).mapError .config := by
  simp only [settings,Settings.load,Id.run_bind,found]
  cases (layer w.surroundings.read (layerName "default")).run with
  | error message => rfl
  | ok given =>
    simp only [Id.run_bind]
    cases (layer w.surroundings.read (layerName (mode environment))).run <;> rfl

theorem settings_eq_of_layers {given given' : Assignments} {environment : Variables}
    (found : (allVariables w.surroundings).run = environment)
    (first : (layer w.surroundings.read (layerName "default")).run = .ok given)
    (second : (layer w.surroundings.read (layerName (mode environment))).run = .ok given') :
    w.settings = (settingsOf given given' environment).mapError .config := by
  rw [settings_eq_layers found,first]
  simp only [second]

/-- Settings that load have two files to come of. -/
theorem exists_layers_of_settings {environment : Variables} {settings : Settings}
    (found : (allVariables w.surroundings).run = environment)
    (loads : w.settings = .ok settings) :
    ∃ given given', (layer w.surroundings.read (layerName "default")).run = .ok given ∧
      (layer w.surroundings.read (layerName (mode environment))).run = .ok given' := by
  rw [settings_eq_layers found] at loads
  cases first : (layer w.surroundings.read (layerName "default")).run with
  | error message =>
    rw [first] at loads
    cases loads
  | ok given =>
    rw [first] at loads
    cases second : (layer w.surroundings.read (layerName (mode environment))).run with
    | error message =>
      simp only [second] at loads
      cases loads
    | ok given' => exact ⟨given,given',rfl,rfl⟩

theorem settings_eq_merged (tabled : w.Tabled every forMode) :
    w.settings = ((readRecord Settings.shape
      (merged every forMode (mode w.environment) w.environment)).mapError
        ConfigFault.message).mapError .config := by
  obtain ⟨o,unfiled⟩ := tabled.unfiled
  have found : (allVariables w.surroundings).run = w.environment := by
    simp [allVariables,read_eq,unfiled]
    rfl
  exact settings_eq_of_layers found (layer_of_holds (by decide) tabled.first)
    (layer_of_holds tabled.plain tabled.second)

theorem settings_eq_ok_iff (layered : w.Layered every forMode) (settings : Settings) :
    w.settings = .ok settings ↔
      settings.ReadFields (Config.layered every forMode (mode w.environment) w.environment) := by
  have table : (merged every forMode (mode w.environment) w.environment).IsTable :=
    isTable_assign (isTable_assign (isTable_assign (isTable_assign ⟨_,_,rfl⟩ _) _) _) _
  have same := fun group field => @value?_merged _ _ (mode w.environment) _ layered.grouped
    layered.grouped' layered.fielded group field
  rw [settings_eq_merged layered.toTabled,mapError_eq_ok_iff,mapError_eq_ok_iff,
    readRecord_settings_fields table
      (tabular_merged layered.grouped layered.grouped' layered.fielded)]
  constructor
  · exact fun read => read.congr same
  · exact fun read => read.congr fun group field first second => (same group field first second).symm

theorem config_of_settings_error (tabled : w.Tabled every forMode) {e : RunError}
    (failed : w.settings = .error e) : ∃ message, e = .config message := by
  rw [settings_eq_merged tabled] at failed
  cases read : readRecord Settings.shape
      (merged every forMode (mode w.environment) w.environment) with
  | ok settings => simp [read] at failed
  | error fault =>
    simp only [read,mapError_error,Except.error.injEq] at failed
    exact ⟨_,failed.symm⟩

/-- Each field is read from the last layer that sets it: its variable, the file for the mode, the file
for every run, what is preset. An object in a file goes into the value below it, and all else takes
its place. What is preset agrees with the defaults. Fields that cannot be read so are a fault of the
configuration. -/
theorem settings_layered (layered : w.Layered every forMode) :
    (∀ settings : Settings, w.settings = .ok settings ↔ settings.ReadFields
      (Config.layered every forMode ((w.environment.lookup "RUN_MODE").getD "development")
        w.environment)) ∧
    (∀ e, w.settings = .error e → ∃ message, e = .config message) ∧
    (∀ group field, (∀ fields, fieldOf? every group field ≠ some (.obj fields)) →
      (∀ fields, fieldOf? forMode group field ≠ some (.obj fields)) →
      Config.layered every forMode (mode w.environment) w.environment group field =
        topmost every forMode (mode w.environment) w.environment group field) ∧
    SourceSettings.default.ReadFrom (preset "source") ∧
    EngineSettings.default.ReadFrom (preset "engines") ∧
    SetupSettings.default.ReadFrom (preset "setup") ∧ ∀ field, preset "render" field = none :=
  ⟨settings_eq_ok_iff layered,fun _ => config_of_settings_error layered.toTabled,
    fun _ _ plain plain' => layered_eq_topmost plain plain' _ _,presets_agree⟩

/-- A world with a layer for each of the fields of interest: where to look for templates comes from the
mode, and the branch from a variable. -/
def modal : World :=
  ofTexts
    [("config/default.json",
        "\x7b\"render\":\x7b\"source_type\":\"disk\",\"template_type\":\"liquid\"\x7d\x7d"),
      ("config/p.json","\x7b\"Source\":\x7b\"root\":\"a\"\x7d\x7d")]
    [("RUN_MODE","p"),("Transformer__Source__branch","b")]

def modalRequest : List (String × Json) :=
  [("render",.obj [("source_type",.str "disk"),("template_type",.str "liquid")])]

def modalSource : List (String × Json) := [("Source",.obj [("root",.str "a")])]

theorem modal_layered : modal.Layered modalRequest modalSource where
  unfiled := ⟨_,rfl⟩
  plain := (by decide : PlainName "p")
  first := ⟨⟨_,rfl⟩,_,Text.fromUTF8?_toUTF8 _,by cbv⟩
  second := ⟨⟨_,rfl⟩,_,Text.fromUTF8?_toUTF8 _,by cbv⟩
  tabled := by
    refine ⟨List.pairwise_singleton _ _,List.forall_mem_singleton.mpr (by decide),
      List.forall_mem_singleton.mpr ⟨_,rfl,List.pairwise_pair.mpr (by decide +kernel)⟩⟩
  tabled' := ⟨List.pairwise_singleton _ _,List.forall_mem_singleton.mpr (by decide),
    List.forall_mem_singleton.mpr ⟨_,rfl,List.pairwise_singleton _ _⟩⟩
  fielded := by
    refine ⟨List.forall_mem_cons.mpr ⟨?_,List.forall_mem_singleton.mpr ?_⟩,by decide +kernel⟩
    · have other : settingName? "RUN_MODE" = none := by decide +kernel
      simp [other]
    · exact fun _ => ⟨"source","branch",by decide +kernel⟩
  unindexed := List.forall_mem_singleton.mpr (by decide)
  unindexed' := List.forall_mem_singleton.mpr (by decide)

def modalSettings : Settings :=
  ⟨{ SourceSettings.default with root := "a", branch := "b" },⟨⟨.liquid,"disk",none⟩,"\x7b\x7d"⟩,
    .default,.default⟩

theorem settings_layered_by_mode : modal.settings = .ok modalSettings ∧
    modalSettings.ReadFields (Config.layered modalRequest modalSource "p" modal.environment) := by
  have evaluated : (readRecord Settings.shape
      (merged modalRequest modalSource "p" modal.environment)).toOption = some modalSettings := by
    decide +kernel
  have loads : modal.settings = .ok modalSettings := by
    rw [settings_eq_merged modal_layered.toTabled,mapError_eq_ok_iff,mapError_eq_ok_iff]
    exact toOption_eq_some_iff.mp evaluated
  exact ⟨loads,((settings_layered modal_layered).1 modalSettings).mp loads⟩

def filed (text : String) : World := ofTexts [("config/default.json",text)] []

theorem filed_tabled {text : String} (parsed : Json.parse text = .ok (.obj every))
    (tabled : Config.Tabled every) : (filed text).Tabled every [] where
  unfiled := ⟨_,rfl⟩
  plain := (by decide : PlainName "development")
  first := ⟨⟨_,rfl⟩,_,Text.fromUTF8?_toUTF8 _,parsed⟩
  second := ⟨⟨_,rfl⟩,rfl⟩
  tabled := tabled
  tabled' := ⟨List.Pairwise.nil,List.forall_mem_nil _,List.forall_mem_nil _⟩
  fielded := ⟨List.forall_mem_nil _,List.Pairwise.nil⟩

/-- A request and one more group, with a field that is an empty object. -/
def beside (name field : String) : List (String × Json) :=
  [("render",.obj [("source_type",.str "disk"),("template_type",.str "liquid")]),
    (name,.obj [(field,.obj [])])]

theorem tabled_beside {name : String} (undotted : '.' ∉ name.toList)
    (other : "render" ≠ Text.lowercased name) (field : String) :
    Config.Tabled (beside name field) := by
  have render : Text.lowercased "render" = "render" := by decide +kernel
  refine ⟨List.pairwise_pair.mpr (render ▸ other),
    List.forall_mem_cons.mpr ⟨by decide,List.forall_mem_singleton.mpr undotted⟩,
    List.forall_mem_cons.mpr ⟨⟨_,rfl,?_⟩,List.forall_mem_singleton.mpr ⟨_,rfl,?_⟩⟩⟩
  · exact List.pairwise_pair.mpr (by decide +kernel)
  · exact List.pairwise_singleton _ _

def indexed : String :=
  "\x7b\"render\":\x7b\"source_type\":\"disk\",\"template_type\":\"liquid\"\x7d," ++
    "\"source[0]\":\x7b\"remote\":\x7b\x7d\x7d\x7d"

def emptied : String :=
  "\x7b\"render\":\x7b\"source_type\":\"disk\",\"template_type\":\"liquid\"\x7d," ++
    "\"source\":\x7b\"branch\":\x7b\x7d\x7d\x7d"

def requestSettings (mode : SourceMode) : Settings :=
  ⟨{ SourceSettings.default with mode },⟨⟨.liquid,"disk",none⟩,"\x7b\x7d"⟩,.default,.default⟩

theorem layers_beyond_topmost :
    ((filed indexed).Tabled (beside "source[0]" "remote") [] ∧
      (filed indexed).settings = .ok (requestSettings .repository) ∧
      ¬ (requestSettings .repository).ReadFields
        (topmost (beside "source[0]" "remote") [] "development" [])) ∧
    (filed emptied).Tabled (beside "source" "branch") [] ∧
      (filed emptied).settings = .ok (requestSettings .folder) ∧
      ¬ (requestSettings .folder).ReadFields
        (topmost (beside "source" "branch") [] "development" []) := by
  have parsed : Json.parse indexed = .ok (.obj (beside "source[0]" "remote")) := by cbv
  have parsed' : Json.parse emptied = .ok (.obj (beside "source" "branch")) := by cbv
  have first := filed_tabled parsed (tabled_beside (by decide) (by decide +kernel) _)
  have second := filed_tabled parsed' (tabled_beside (by decide) (by decide +kernel) _)
  have evaluated :
      (readRecord Settings.shape (merged (beside "source[0]" "remote") [] "development" [])).toOption =
        some (requestSettings .repository) ∧
      (readRecord Settings.shape (merged (beside "source" "branch") [] "development" [])).toOption =
        some (requestSettings .folder) := by
    decide +kernel
  simp only [toOption_eq_some_iff] at evaluated
  refine ⟨⟨first,?_,fun read => ?_⟩,second,?_,fun read => ?_⟩
  · rw [settings_eq_merged first]
    exact mapError_eq_ok_iff.mpr (mapError_eq_ok_iff.mpr evaluated.1)
  · have mode : Except.ok SourceMode.folder = Except.ok (ε := ConfigFault) SourceMode.repository :=
      read.source.mode
    cases mode
  · rw [settings_eq_merged second]
    exact mapError_eq_ok_iff.mpr (mapError_eq_ok_iff.mpr evaluated.2)
  · cases read.source.branch

end World
end Placard

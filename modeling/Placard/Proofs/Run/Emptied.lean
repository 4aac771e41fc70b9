import Placard.Proofs.Config.Overruling
import Placard.Proofs.Config.VariableFile
import Placard.Proofs.Run.Arrival

/-! Inputs of a run that need not be given, such as the branch or the token of the source. An input
that is given empty is not as one that is not given: it has the last word on its field, which is then
empty too, or has no value if it may be left empty. -/
namespace Placard

open Config ConfigValue

namespace ConfigValue

variable {given : List (String × ConfigValue)} {shape : RecordShape ConfigValue ConfigFault σ}
  {change : σ → σ} {name : String}

/-- An optional field that is put beside the others makes its change, and that is all. -/
theorem Independent.readRecord_blank (independent : Independent shape.fields) {v : ConfigValue}
    (puts : ∃ f ∈ shape.fields, f.name = name ∧ f.required = false ∧ f.put v = .ok change)
    (readable : ∀ u, given.lookup name = some u → Readable shape.fields name u)
    (origin : Option Origin) :
    readRecord shape ((table given origin).withField name v) =
      (readRecord shape (table given origin)).map change := by
  obtain ⟨f,member,rfl,optional,makes⟩ := puts
  refine independent.readRecord_put member makes (fun key other => ?_) ?_
    (fun u found => readable u found f member rfl) (fun required => ?_) origin origin
  · rw [Json.lookup_insertField,if_neg other]
  · rw [Json.lookup_insertField,if_pos rfl]
  · rw [optional] at required
    cases required

end ConfigValue

inductive SourceInput where
  | root | repository | branch | token | manifest | api
  deriving DecidableEq

namespace SourceInput

def field : SourceInput → String
  | root => "root"
  | repository => "repository"
  | branch => "branch"
  | token => "access_token"
  | manifest => "manifest_path"
  | api => "api_base"

def blank (s : SourceSettings) : SourceInput → SourceSettings
  | root => { s with root := "" }
  | repository => { s with repository := none }
  | branch => { s with branch := "" }
  | token => { s with token := none }
  | manifest => { s with manifest := "" }
  | api => { s with api := "" }

theorem put_empty (x : SourceInput) (origin : Option Origin) :
    ∃ f ∈ (SourceSettings.shape (V := ConfigValue)).fields, f.name = x.field ∧
      f.required = false ∧ f.put (.text "" origin) = .ok x.blank := by
  cases x with
  | root => exact ⟨_,List.mem_of_getElem? (i := 1) rfl,rfl,rfl,rfl⟩
  | repository => exact ⟨_,List.mem_of_getElem? (i := 2) rfl,rfl,rfl,rfl⟩
  | branch => exact ⟨_,List.mem_of_getElem? (i := 3) rfl,rfl,rfl,rfl⟩
  | token => exact ⟨_,List.mem_of_getElem? (i := 4) rfl,rfl,rfl,rfl⟩
  | manifest => exact ⟨_,List.mem_of_getElem? (i := 5) rfl,rfl,rfl,rfl⟩
  | api => exact ⟨_,List.mem_of_getElem? (i := 7) rfl,rfl,rfl,rfl⟩

end SourceInput

inductive RenderInput where
  | client | data
  deriving DecidableEq

namespace RenderInput

def field : RenderInput → String
  | client => "client_type"
  | data => "data"

def blank (r : RenderRequest) : RenderInput → RenderRequest
  | client => { r with target := { r.target with client := none } }
  | data => { r with data := "" }

theorem put_empty (x : RenderInput) (origin : Option Origin) :
    ∃ f ∈ (RenderRequest.shape (V := ConfigValue)).fields, f.name = x.field ∧
      f.required = false ∧ f.put (.text "" origin) = .ok x.blank := by
  cases x with
  | client => exact ⟨_,List.mem_of_getElem? (i := 2) rfl,rfl,rfl,rfl⟩
  | data => exact ⟨_,List.mem_of_getElem? (i := 3) rfl,rfl,rfl,rfl⟩

end RenderInput

/-- A text that need not be given. -/
inductive OptionalInput where
  | source (x : SourceInput)
  | render (x : RenderInput)
  deriving DecidableEq

namespace OptionalInput

def group : OptionalInput → String
  | source _ => "source"
  | render _ => "render"

def field : OptionalInput → String
  | source x => x.field
  | render x => x.field

def name : OptionalInput → String
  | source .root => "TRANSFORMER__SOURCE__ROOT"
  | source .repository => "TRANSFORMER__SOURCE__REPOSITORY"
  | source .branch => "TRANSFORMER__SOURCE__BRANCH"
  | source .token => "TRANSFORMER__SOURCE__ACCESS_TOKEN"
  | source .manifest => "TRANSFORMER__SOURCE__MANIFEST_PATH"
  | source .api => "TRANSFORMER__SOURCE__API_BASE"
  | render .client => "TRANSFORMER__RENDER__CLIENT_TYPE"
  | render .data => "TRANSFORMER__RENDER__DATA"

def blank (s : Settings) : OptionalInput → Settings
  | source x => { s with source := x.blank s.source }
  | render x => { s with render := x.blank s.render }

def Reads (v : ConfigValue) : OptionalInput → Prop
  | source x => Readable SourceSettings.shape.fields x.field v
  | render x => Readable RenderRequest.shape.fields x.field v

/-- The group of the input is a table, and what stands in its field, if anything, can be read. -/
structure Sound (x : OptionalInput) (config : ConfigValue) : Prop where
  table : ∃ group, config.fields.lookup x.group = some group ∧ group.IsTable
  reads : ∀ v, config.value? x.group x.field = some v → x.Reads v

theorem word_group (x : OptionalInput) : Word x.group := by
  cases x with
  | source _ => exact (by decide +kernel : Word "source")
  | render _ => exact (by decide +kernel : Word "render")

theorem word_field (x : OptionalInput) : Word x.field := by
  cases x with
  | source x | render x => cases x <;> decide +kernel

theorem settingName?_name (x : OptionalInput) :
    settingName? x.name = some (settingName x.group x.field) := by
  refine settingName?_of_words x.word_group x.word_field ?_
  cases x with
  | source x | render x => cases x <;> decide +kernel

theorem settingName_ne_list (x : OptionalInput) : settingName x.group x.field ≠ listSetting := by
  cases x with
  | source x | render x => cases x <;> decide

theorem confined_source (within : SourceSettings → SourceSettings) :
    Confined (Settings.shape (V := ConfigValue)).fields "source"
      fun s => { s with source := within s.source } where
  named := by decide
  single := by decide
  beside := by
    simp only [Settings.shape,List.forall_mem_cons]
    refine ⟨fun other => absurd rfl other,?_,?_,?_,List.forall_mem_nil _⟩ <;>
      exact fun _ => keeps_of_set rfl fun _ _ => rfl

theorem confined_render (within : RenderRequest → RenderRequest) :
    Confined (Settings.shape (V := ConfigValue)).fields "render"
      fun s => { s with render := within s.render } where
  named := by decide
  single := by decide
  beside := by
    simp only [Settings.shape,List.forall_mem_cons]
    refine ⟨?_,fun other => absurd rfl other,?_,?_,List.forall_mem_nil _⟩ <;>
      exact fun _ => keeps_of_set rfl fun _ _ => rfl

/-- An input that is set to an empty text is read as such, and all else as if it were not set. -/
theorem readRecord_blank {x : OptionalInput} {config : ConfigValue} (sound : x.Sound config)
    (origin : Option Origin) :
    readRecord Settings.shape (config.set (settingName x.group x.field) (.text "" origin)) =
      (readRecord Settings.shape config).map x.blank := by
  obtain ⟨⟨_,found,⟨given,below,rfl⟩⟩,reads⟩ := sound
  rw [set_settingName x.word_group x.word_field fun _ => rfl,found,Option.getD_some]
  have readable : ∀ v, given.lookup x.field = some v → x.Reads v := by
    intro v there
    refine reads v ?_
    rw [value?,found]
    exact there
  cases config with
  | table groups top =>
    cases x with
    | source x =>
      have within := independent_source.readRecord_blank (x.put_empty origin) readable below
      refine readRecord_replaced (confined_source x.blank) found ?_ top
      simp only [Settings.shape,List.forall_mem_cons]
      refine ⟨fun _ => put_map rfl within fun _ _ => rfl,?_,?_,?_,List.forall_mem_nil _⟩ <;>
        exact fun same => absurd same (by decide)
    | render x =>
      have within := independent_render.readRecord_blank (x.put_empty origin) readable below
      refine readRecord_replaced (confined_render x.blank) found ?_ top
      simp only [Settings.shape,List.forall_mem_cons]
      refine ⟨?_,fun _ => put_map rfl within fun _ _ => rfl,?_,?_,List.forall_mem_nil _⟩ <;>
        exact fun same => absurd same (by decide)
  | _ => cases found

end OptionalInput

namespace World

/-- The world with other variables. -/
def having (w : World) (environment : Variables) : World := { w with environment }

/-- The variable of an input is set neither in the environment nor by the file of variables, and none
that follows its place sets its field or a table that holds it. The layers make up a table for its
group, in which its field can be read, if it is there. -/
structure Unset (w : World) (x : OptionalInput) (before after added : Variables) : Prop where
  file : (allVariables (w.having (before ++ after)).surroundings).run = before ++ (after ++ added)
  absent : (before ++ (after ++ added)).lookup x.name = none
  past : ∀ o ∈ after ++ added, ∀ setting, settingName? o.1 = some setting →
    Past x.group x.field (Key.ofText setting)
  sound : ∀ given given',
    (layer w.surroundings.read (layerName "default")).run = .ok given →
    (layer w.surroundings.read (layerName (mode (before ++ (after ++ added))))).run = .ok given' →
    x.Sound
      ([byDefault,given,given',ofVariables (before ++ (after ++ added))].foldl assign .empty)

variable {w : World} {x : OptionalInput} {before after added : Variables}

theorem allVariables_having (w : World) (environment : Variables) :
    (allVariables (w.having environment).surroundings).run =
      match w.files variableFile with
      | .ok contents => VariableFile.load environment contents
      | .error _ => environment := by
  have read : (w.having environment).surroundings.read variableFile =
      pure (w.files variableFile) := rfl
  rw [allVariables,read]
  cases w.files variableFile <;> rfl

theorem emptied_insert (absent : (before ++ after).lookup x.name = none) :
    VariableFile.Emptied x.name (before ++ after) (before ++ (x.name,"") :: after) where
  absent := absent
  empty := by
    rw [List.lookup_append,Option.or_eq_none_iff] at absent
    rw [List.lookup_append,absent.1,lookup_cons_if,if_pos rfl]
    rfl
  others other apart := by
    rw [List.lookup_append,List.lookup_append,lookup_cons_if,if_neg apart]

/-- The file of variables adds the same if the variable is empty. -/
theorem Unset.file_empty (unset : w.Unset x before after added) :
    (allVariables (w.having (before ++ (x.name,"") :: after)).surroundings).run =
      before ++ (x.name,"") :: (after ++ added) := by
  obtain ⟨file,absent,-,-⟩ := unset
  rw [allVariables_having] at file ⊢
  cases stored : w.files variableFile with
  | error o =>
    simp only [stored] at file ⊢
    have none : added = [] := by simpa using file
    rw [none,List.append_nil]
  | ok contents =>
    simp only [stored] at file ⊢
    have missing : (before ++ after).lookup x.name = none := by
      rw [← List.append_assoc,List.lookup_append,Option.or_eq_none_iff] at absent
      exact absent.1
    obtain ⟨more,loaded,loaded'⟩ := (emptied_insert missing).load (file ▸ absent)
    rw [file,← List.append_assoc,List.append_cancel_left_eq] at loaded
    rw [loaded',loaded,List.append_assoc,List.cons_append]

theorem variableValue_empty {setting : String} (single : setting ≠ listSetting) :
    variableValue setting "" = .text "" (some .environment) := by
  have small : Text.lowercased "" = "" := by decide +kernel
  have whole : Double.int64OfText? "" = none := by decide +kernel
  have float : Double.ofText? "" = none := by decide +kernel
  simp only [variableValue,small,whole,float,if_neg single]
  rfl

theorem ofVariables_empty (before after : Variables) :
    ofVariables (before ++ (x.name,"") :: after) =
      ofVariables before ++ (settingName x.group x.field,.text "" (some .environment)) ::
        ofVariables after := by
  rw [ofVariables_insert x.settingName?_name,variableValue_empty x.settingName_ne_list]

/-- An empty variable has the last word on its field. -/
theorem Unset.assign_empty (unset : w.Unset x before after added) (given given' : Assignments) :
    [byDefault,given,given',ofVariables (before ++ (x.name,"") :: (after ++ added))].foldl assign
        .empty =
      ([byDefault,given,given',ofVariables (before ++ (after ++ added))].foldl assign .empty).set
        (settingName x.group x.field) (.text "" (some .environment)) := by
  have past := past_ofVariables unset.past
  have split : ofVariables (before ++ (after ++ added)) =
      ofVariables before ++ ofVariables (after ++ added) := List.filterMap_append
  simp only [List.foldl_cons,List.foldl_nil,ofVariables_empty,split]
  rw [assign,List.foldl_append,List.foldl_cons,← assign,← assign,
    assign_set_past x.word_group x.word_field (fun _ => rfl) past]
  simp only [assign,List.foldl_append]

theorem mode_empty (before after : Variables) :
    mode (before ++ (x.name,"") :: after) = mode (before ++ after) := by
  have other : "RUN_MODE" ≠ x.name := by
    cases x with
    | source x | render x => cases x <;> decide
  exact mode_insert other before after ""

/-- With an empty variable the settings load as without it, but for the one field, and fail as
without it. -/
theorem Unset.settings_eq (unset : w.Unset x before after added) :
    (w.having (before ++ (x.name,"") :: after)).settings =
      (w.having (before ++ after)).settings.map x.blank := by
  have same (environment : Variables) :
      (w.having environment).surroundings.read = w.surroundings.read := rfl
  rw [settings_eq_layers unset.file_empty,settings_eq_layers unset.file,mode_empty,same,same]
  cases first : (layer w.surroundings.read (layerName "default")).run with
  | error message => rfl
  | ok given =>
    simp only
    cases second : (layer w.surroundings.read
        (layerName (mode (before ++ (after ++ added))))).run with
    | error message => rfl
    | ok given' =>
      have read := x.readRecord_blank (unset.sound given given' first second) (some .environment)
      rw [← unset.assign_empty] at read
      have made : settingsOf given given' (before ++ (x.name,"") :: (after ++ added)) =
          (settingsOf given given' (before ++ (after ++ added))).map x.blank :=
        (congrArg (Except.mapError ConfigFault.message) read).trans (mapError_map _ _ _)
      simp only [made,mapError_map]

/-- An input that is given empty has the last word on its field: the settings load, or fail, as if it
were not given, but the field is empty, or without a value if it may be. So the result is the same
just if the field is so without the input too. -/
theorem settings_emptied (unset : w.Unset x before after added) :
    (w.having (before ++ (x.name,"") :: after)).settings =
        (w.having (before ++ after)).settings.map x.blank ∧
      ((w.having (before ++ (x.name,"") :: after)).settings = (w.having (before ++ after)).settings ↔
        ∀ settings, (w.having (before ++ after)).settings = .ok settings →
          x.blank settings = settings) := by
  have emptied := unset.settings_eq
  refine ⟨emptied,?_⟩
  rw [emptied]
  cases (w.having (before ++ after)).settings with
  | error e => simp [Except.map]
  | ok settings => simp [Except.map]

/-- In a world of groups it is enough that some field of the group is set, and that the one of the
input can be read from the layers that set it. -/
theorem unset_of_layered {every forMode : List (String × Json)}
    (layered : (w.having (before ++ after)).Layered every forMode)
    (absent : (before ++ after).lookup x.name = none)
    (past : ∀ o ∈ after, ∀ setting, settingName? o.1 = some setting →
      Past x.group x.field (Key.ofText setting))
    {field : String} (word : Word field)
    (there : (Config.layered every forMode (mode (before ++ after)) (before ++ after)
      x.group field).isSome)
    (reads : ∀ v, Config.layered every forMode (mode (before ++ after)) (before ++ after)
      x.group x.field = some v → x.Reads v) : w.Unset x before after [] where
  file := by
    obtain ⟨o,unfiled⟩ := layered.unfiled
    have stored : w.files variableFile = .error o := unfiled
    rw [allVariables_having,stored,List.append_nil]
  absent := by rwa [List.append_nil]
  past := by rwa [List.append_nil]
  sound := by
    intro given given' first second
    rw [List.append_nil] at second ⊢
    have first' := layer_of_holds (by decide) layered.first
    have second' := layer_of_holds layered.plain layered.second
    cases first.symm.trans first'
    cases second.symm.trans second'
    have fielded : Fielded (before ++ after) := layered.fielded
    have value := fun field => @value?_merged _ _ (mode (before ++ after)) _ layered.grouped
      layered.grouped' fielded x.group field x.word_group
    have tabular := @tabular_merged _ _ (mode (before ++ after)) _ layered.grouped
      layered.grouped' fielded
    refine ⟨?_,fun v found => reads v ((value _ x.word_field).symm.trans found)⟩
    rw [← value _ word] at there
    obtain ⟨v,found⟩ := Option.isSome_iff_exists.mp there
    obtain ⟨group,here,-⟩ := Option.bind_eq_some_iff.mp found
    exact ⟨group,here,tabular _ group here⟩

theorem requested_layered : (requested.having []).Layered modalRequest [] where
  unfiled := ⟨_,rfl⟩
  plain := (by decide : PlainName "development")
  first := ⟨⟨_,rfl⟩,_,Text.fromUTF8?_toUTF8 _,by cbv⟩
  second := ⟨⟨_,rfl⟩,rfl⟩
  tabled := modal_layered.tabled
  tabled' := ⟨List.Pairwise.nil,List.forall_mem_nil _,List.forall_mem_nil _⟩
  fielded := ⟨List.forall_mem_nil _,List.Pairwise.nil⟩
  unindexed := modal_layered.unindexed
  unindexed' := List.forall_mem_nil _

theorem requested_unset : requested.Unset (.source .token) [] [] [] := by
  have there : (Config.layered modalRequest [] "development" [] "source" "mode").isSome := by
    decide +kernel
  have free : Config.layered modalRequest [] "development" [] "source" "access_token" = none :=
    Option.isNone_iff_eq_none.mp (by decide +kernel)
  refine unset_of_layered requested_layered rfl (List.forall_mem_nil _) (by decide +kernel) there ?_
  intro v found
  cases free.symm.trans found

theorem requested_loads : (requested.having []).settings = .ok (requestedSettings "main") := by
  have evaluated : (readRecord Settings.shape (merged modalRequest [] "development" [])).toOption =
      some (requestedSettings "main") := by
    decide +kernel
  rw [settings_eq_merged requested_layered.toTabled,mapError_eq_ok_iff,mapError_eq_ok_iff]
  exact toOption_eq_some_iff.mp evaluated

/-- Without a token it does not matter that its variable is empty. -/
theorem settings_same_of_empty_token :
    (requested.having [("TRANSFORMER__SOURCE__ACCESS_TOKEN","")]).settings =
      (requested.having []).settings := by
  refine (settings_emptied requested_unset).2.mpr fun settings loads => ?_
  cases requested_loads.symm.trans loads
  rfl

/-- A branch that is given empty is not the one that there is without it. -/
theorem settings_changed_by_empty_branch :
    (requested.having [("TRANSFORMER__SOURCE__BRANCH","")]).settings = .ok (requestedSettings "") ∧
      (requested.having []).settings = .ok (requestedSettings "main") ∧
      requestedSettings "" ≠ requestedSettings "main" := by
  have evaluated : (requested.having [("TRANSFORMER__SOURCE__BRANCH","")]).settings.toOption =
      some (requestedSettings "") := by
    decide +kernel
  exact ⟨toOption_eq_some_iff.mp evaluated,requested_loads,by decide⟩

end World
end Placard

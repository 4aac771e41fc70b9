import Placard.Proofs.Config.Overruling
import Placard.Proofs.Run.Loading

/-! Settings that hold a text, given through the environment. Whatever the text is, the settings load,
and nothing but that one setting depends on it. -/
namespace Placard

open Config ConfigValue

section

variable {value value' : String → Option ConfigValue} {given given' : List (String × ConfigValue)}
  {origin origin' : Option Origin} {s : Settings}

theorem Settings.ReadFrom.putSource (read : s.ReadFrom value) {source : SourceSettings}
    (others : ∀ name, name ≠ "source" → value name = value' name)
    (found : value "source" = some (.table given origin))
    (found' : value' "source" = some (.table given' origin'))
    (change : readRecord SourceSettings.shape (.table given origin) = .ok s.source →
      readRecord SourceSettings.shape (.table given' origin') = .ok source) :
    { s with source }.ReadFrom value' where
  source := by
    have before := read.source
    rw [found] at before
    rw [found']
    exact change before
  render := others "render" (by decide) ▸ read.render
  engines := others "engines" (by decide) ▸ read.engines
  setup := others "setup" (by decide) ▸ read.setup

theorem Settings.ReadFrom.putRender (read : s.ReadFrom value) {render : RenderRequest}
    (others : ∀ name, name ≠ "render" → value name = value' name)
    (found : value "render" = some (.table given origin))
    (found' : value' "render" = some (.table given' origin'))
    (change : readRecord RenderRequest.shape (.table given origin) = .ok s.render →
      readRecord RenderRequest.shape (.table given' origin') = .ok render) :
    { s with render }.ReadFrom value' where
  source := others "source" (by decide) ▸ read.source
  render := by
    obtain ⟨_,same,before⟩ := read.render
    rw [found,Option.some.injEq] at same
    subst same
    exact ⟨_,found',change before⟩
  engines := others "engines" (by decide) ▸ read.engines
  setup := others "setup" (by decide) ▸ read.setup

end

inductive TextSetting where
  | branch | root | manifest | sourceType | data
  deriving DecidableEq

namespace TextSetting

def group : TextSetting → String
  | branch | root | manifest => "source"
  | sourceType | data => "render"

def field : TextSetting → String
  | branch => "branch"
  | root => "root"
  | manifest => "manifest_path"
  | sourceType => "source_type"
  | data => "data"

def name : TextSetting → String
  | branch => "TRANSFORMER__SOURCE__BRANCH"
  | root => "TRANSFORMER__SOURCE__ROOT"
  | manifest => "TRANSFORMER__SOURCE__MANIFEST_PATH"
  | sourceType => "TRANSFORMER__RENDER__SOURCE_TYPE"
  | data => "TRANSFORMER__RENDER__DATA"

def text (s : Settings) : TextSetting → String
  | branch => s.source.branch
  | root => s.source.root
  | manifest => s.source.manifest
  | sourceType => s.render.target.source
  | data => s.render.data

def put (t : String) (s : Settings) : TextSetting → Settings
  | branch => { s with source := { s.source with branch := t } }
  | root => { s with source := { s.source with root := t } }
  | manifest => { s with source := { s.source with manifest := t } }
  | sourceType => { s with render := { s.render with target := { s.render.target with source := t } } }
  | data => { s with render := { s.render with data := t } }

@[simp] theorem text_put (x : TextSetting) (t : String) (s : Settings) : x.text (x.put t s) = t := by
  cases x <;> rfl

theorem word_group (x : TextSetting) : Word x.group := by cases x <;> decide +kernel

theorem word_field (x : TextSetting) : Word x.field := by cases x <;> decide +kernel

theorem settingName?_name (x : TextSetting) :
    settingName? x.name = some (settingName x.group x.field) := by
  refine settingName?_of_words x.word_group x.word_field ?_
  cases x <;> decide +kernel

theorem settingName_ne_list (x : TextSetting) : settingName x.group x.field ≠ listSetting := by
  cases x <;> decide

def Vary (x : TextSetting) (t : String) (u u' : ConfigValue) : Prop :=
  VaryIn x.group x.field (fun _ v => readText v = .ok t) u u'

variable {u u' : ConfigValue} {s : Settings} {t : String}

/-- Settings that are read from the one are read from the other with the text in its place. -/
theorem Vary.read {x : TextSetting} (vary : x.Vary t u u')
    (read : readRecord Settings.shape u = .ok s) :
    readRecord Settings.shape u' = .ok (x.put t s) := by
  obtain ⟨⟨_,_,rfl⟩,⟨_,_,rfl⟩,⟨v,v',found,found',inner⟩,others⟩ := vary
  obtain ⟨⟨given,_,rfl⟩,⟨given',_,rfl⟩,⟨_,w,before,there,reads⟩,beside⟩ := inner
  have beside : ∀ key, key ≠ x.field → given'.lookup key = given.lookup key := fun key other =>
    (beside key other).symm
  have puts {σ : Type} (set : String → σ → σ) : (readText w).map set = .ok (set t) := by
    rw [reads]
    rfl
  rw [readRecord_settings] at read ⊢
  cases x with
  | branch =>
    exact read.putSource others found found' <| independent_source.readRecord_ok
      (List.mem_of_getElem? (i := 3) rfl) (puts _) beside before there
  | root =>
    exact read.putSource others found found' <| independent_source.readRecord_ok
      (List.mem_of_getElem? (i := 1) rfl) (puts _) beside before there
  | manifest =>
    exact read.putSource others found found' <| independent_source.readRecord_ok
      (List.mem_of_getElem? (i := 5) rfl) (puts _) beside before there
  | sourceType =>
    exact read.putRender others found found' <| independent_render.readRecord_ok
      (List.mem_of_getElem? (i := 1) rfl) (puts _) beside before there
  | data =>
    exact read.putRender others found found' <| independent_render.readRecord_ok
      (List.mem_of_getElem? (i := 3) rfl) (puts _) beside before there

end TextSetting

namespace World

/-- The world with a text for a setting among its variables. -/
def giving (w : World) (x : TextSetting) (before after : Variables) (text : String) : World :=
  { w with environment := before ++ (x.name,text) :: after }

/-- The file of variables adds the same ones whatever the text is, and none that follows the text sets
its field or a table that holds it. -/
structure Leaves (w : World) (x : TextSetting) (before after added : Variables) : Prop where
  file : ∀ text, (allVariables (w.giving x before after text).surroundings).run =
    before ++ (x.name,text) :: (after ++ added)
  past : ∀ o ∈ after ++ added, ∀ setting, settingName? o.1 = some setting →
    Past x.group x.field (Key.ofText setting)

theorem mode_giving (x : TextSetting) (before after : Variables) (text text' : String) :
    mode (before ++ (x.name,text) :: after) = mode (before ++ (x.name,text') :: after) := by
  have other : "RUN_MODE" ≠ x.name := by cases x <;> decide
  rw [mode_insert other,mode_insert other]

theorem ofVariables_giving (x : TextSetting) (before after : Variables) (text : String) :
    ofVariables (before ++ (x.name,text) :: after) =
      ofVariables before ++ (settingName x.group x.field,
        variableValue (settingName x.group x.field) text) :: ofVariables after :=
  ofVariables_insert x.settingName?_name before after text

variable {w : World} {x : TextSetting} {before after added : Variables} {text : String}
  {settings : Settings}

theorem vary_assign (leaves : w.Leaves x before after added) (given given' : Assignments)
    (text text' : String) :
    x.Vary (arriving text')
      ([byDefault,given,given',ofVariables (before ++ (x.name,text) :: (after ++ added))].foldl assign
        .empty)
      ([byDefault,given,given',ofVariables (before ++ (x.name,text') :: (after ++ added))].foldl assign
        .empty) := by
  have past := past_ofVariables leaves.past
  simp only [List.foldl_cons,List.foldl_nil,ofVariables_giving]
  simp only [assign,List.foldl_append,List.foldl_cons]
  refine VaryIn.assign (varyIn_set x.word_group x.word_field (onto_variableValue _ _)
    (onto_variableValue _ _) ?_ _) past
  exact readText_variableValue x.settingName_ne_list text'

/-- Whatever text is given to a setting, the settings load, and that one setting is the text as it
arrives. -/
theorem settings_giving (leaves : w.Leaves x before after added)
    (loads : (w.giving x before after text).settings = .ok settings) (text' : String) :
    (w.giving x before after text').settings = .ok (x.put (arriving text') settings) := by
  obtain ⟨given,given',first,second⟩ := exists_layers_of_settings (leaves.file text) loads
  rw [settings_eq_of_layers (leaves.file text) first second,settingsOf,mapError_eq_ok_iff,
    mapError_eq_ok_iff] at loads
  rw [mode_giving x before _ text text'] at second
  rw [settings_eq_of_layers (leaves.file text') first second,settingsOf,mapError_eq_ok_iff,
    mapError_eq_ok_iff]
  exact (vary_assign leaves given given' text text').read loads

/-- Whatever text is given to a setting, the settings load, and that one setting is the text as it
arrives: the text itself just if it is written as a flag or a number would be, or is neither. -/
theorem settings_text (leaves : w.Leaves x before after added)
    (loads : (w.giving x before after text).settings = .ok settings) (text' : String) :
    ∃ settings', (w.giving x before after text').settings = .ok settings' ∧
      settings' = x.put (arriving text') settings ∧
      (x.text settings' = text' ↔ Kept text') := by
  refine ⟨_,settings_giving leaves loads text',rfl,?_⟩
  rw [TextSetting.text_put]
  exact arriving_eq_self_iff text'

theorem leaves_of_unfiled {o : Obstacle} (unfiled : w.files variableFile = .error o)
    (past : ∀ o ∈ after, ∀ setting, settingName? o.1 = some setting →
      Past x.group x.field (Key.ofText setting)) : w.Leaves x before after [] where
  file text := by
    simp [allVariables,giving,surroundings,unfiled]
    rfl
  past := by simpa using past

def requested : World :=
  ofTexts [("config/default.json",
    "\x7b\"render\":\x7b\"source_type\":\"disk\",\"template_type\":\"liquid\"\x7d\x7d")] []

def requestedSettings (branch : String) : Settings :=
  ⟨{ SourceSettings.default with branch },⟨⟨.liquid,"disk",none⟩,"\x7b\x7d"⟩,.default,.default⟩

theorem requested_leaves : requested.Leaves .branch [] [] [] :=
  leaves_of_unfiled rfl (List.forall_mem_nil _)

theorem requested_settings :
    (requested.giving .branch [] [] "main").settings = .ok (requestedSettings "main") := by
  have evaluated : (requested.giving .branch [] [] "main").settings.toOption =
      some (requestedSettings "main") := by
    decide +kernel
  exact toOption_eq_some_iff.mp evaluated

/-- The name of a version that begins with a letter arrives. -/
theorem branch_with_letter_arrives :
    ∃ settings, (requested.giving .branch [] [] "v1.10").settings = .ok settings ∧
      settings.source.branch = "v1.10" := by
  obtain ⟨settings,loads,-,kept⟩ := settings_text requested_leaves requested_settings "v1.10"
  exact ⟨settings,loads,kept.mpr (.plain _ ⟨by decide +kernel,by decide +kernel⟩
    (by decide +kernel) (by decide +kernel))⟩

/-- The name of a version that is also a number loses its last digit. -/
theorem branch_like_number_shortened :
    (requested.giving .branch [] [] "1.10").settings = .ok (requestedSettings "1.1") ∧
      (requestedSettings "1.1").source.branch ≠ "1.10" := by
  have arrives : arriving "1.10" = "1.1" := by decide +kernel
  have loads := settings_giving requested_leaves requested_settings "1.10"
  rw [arrives] at loads
  exact ⟨loads,by decide⟩

end World
end Placard

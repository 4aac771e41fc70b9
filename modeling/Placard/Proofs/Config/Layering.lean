import Placard.Proofs.Config.Assigning
import Placard.Proofs.Config.Naming
import Placard.Proofs.Config.Reading

/-! Layers of settings. A field is read from its variable; without one from the file for the mode,
if that sets it; else from the file for every run; else it has its default. Each field goes its own
way: what a layer says of one field of a group leaves the others as they are. -/
namespace Placard

open ConfigValue

namespace Config

/-- The groups of a file: tables of fields, under names without dots. -/
structure Tabled (groups : List (String × Json)) : Prop where
  apart : Apart groups
  undotted : ∀ g ∈ groups, '.' ∉ g.1.toList
  tables : ∀ g ∈ groups, ∃ fields, g.2 = .obj fields ∧ Apart fields

/-- Groups under names that have no index either, and so lead nowhere else. -/
structure Grouped (groups : List (String × Json)) : Prop extends Tabled groups where
  unindexed : ∀ g ∈ groups, '[' ∉ g.1.toList

def fieldOf? (groups : List (String × Json)) (group field : String) : Option Json :=
  match lookupAnyCase group groups with
  | some (.obj fields) => lookupAnyCase field fields
  | _ => none

def laid (origin : Origin) (set : Option Json) (below : Option ConfigValue) : Option ConfigValue :=
  match set with
  | some v => some ((ConfigValue.ofJson origin v).onto below)
  | none => below

theorem apart_map {fields : List (String × α)} (apart : Apart fields) (f : α → β) :
    Apart (fields.map fun field => (field.1,f field.2)) :=
  List.pairwise_map.mpr apart

theorem ofFields_eq_map (origin : Origin) (fields : List (String × Json)) :
    ofFields origin fields = fields.map fun field => (field.1,ofJson origin field.2) := by
  induction fields with
  | nil => rfl
  | cons field rest ih =>
    obtain ⟨name,v⟩ := field
    rw [ofFields,ih]
    rfl

/-- Values under names that lead nowhere else are put one after the other. -/
theorem assign_whole {given : Assignments}
    (whole : ∀ g ∈ given, '.' ∉ g.1.toList ∧ '[' ∉ g.1.toList) (config : ConfigValue) :
    assign config given = config.putAll given := by
  induction given generalizing config with
  | nil => rw [putAll]; rfl
  | cons g rest ih =>
    obtain ⟨⟨dot,bracket⟩,later⟩ := List.forall_mem_cons.mp whole
    have first : config.set g.1 g.2 = config.put g.1 g.2 := by
      rw [ConfigValue.set,Key.ofText_whole dot bracket]
      rfl
    rw [putAll,← first]
    exact ih later _

theorem mem_of_lookupAnyCase {name : String} {v : α} {fields : List (String × α)}
    (found : lookupAnyCase name fields = some v) : ∃ field ∈ fields, field.2 = v := by
  obtain ⟨field,first,rfl⟩ := Option.map_eq_some_iff.mp found
  exact ⟨field,List.mem_of_find?_eq_some first,rfl⟩

variable {groups : List (String × Json)}

/-- The values that the groups of a file stand for. -/
def ofGroups (origin : Origin) (groups : List (String × Json)) : Assignments :=
  groups.map fun g => (g.1,ofJson origin g.2)

theorem lookup_ofGroups (grouped : Grouped groups) (origin : Origin) (config : ConfigValue)
    (group : String) :
    (assign config (ofGroups origin groups)).fields.lookup group =
      match lookupAnyCase group groups with
      | some v => some ((ofJson origin v).onto (config.fields.lookup group))
      | none => config.fields.lookup group := by
  rw [ofGroups,assign_whole,lookup_putAll (apart_map grouped.apart _),lookupAnyCase_map]
  · cases lookupAnyCase group groups <;> rfl
  · exact List.forall_mem_map.mpr fun g member =>
      ⟨grouped.undotted g member,grouped.unindexed g member⟩

theorem value?_ofGroups (grouped : Grouped groups) (origin : Origin) (config : ConfigValue)
    (group field : String) :
    (assign config (ofGroups origin groups)).value? group field =
      laid origin (fieldOf? groups group field) (config.value? group field) := by
  rw [value?,lookup_ofGroups grouped,fieldOf?]
  cases found : lookupAnyCase group groups with
  | none => rfl
  | some v =>
    obtain ⟨g,member,rfl⟩ := mem_of_lookupAnyCase found
    obtain ⟨fields,table,apart⟩ := grouped.tables g member
    have below : ((config.fields.lookup group).getD empty).fields.lookup field =
        config.value? group field := by
      rw [value?]
      cases config.fields.lookup group <;> rfl
    simp only [table,ofJson,onto,ofFields_eq_map,Option.bind_some,lookup_putAll (apart_map apart _),
      lookupAnyCase_map,below]
    cases lookupAnyCase field fields <;> rfl

theorem tabular_ofGroups (grouped : Grouped groups) (origin : Origin) {config : ConfigValue}
    (tabular : config.Tabular) : (assign config (ofGroups origin groups)).Tabular := by
  intro name v found
  rw [lookup_ofGroups grouped] at found
  cases here : lookupAnyCase name groups with
  | none =>
    rw [here] at found
    exact tabular name v found
  | some u =>
    obtain ⟨g,member,rfl⟩ := mem_of_lookupAnyCase here
    obtain ⟨fields,table,-⟩ := grouped.tables g member
    simp only [here,table,ofJson,Option.some.injEq] at found
    subst found
    exact isTable_onto_table (tabular name) _ _

def IsSetting (g : String × ConfigValue) : Prop :=
  ∃ group field, Word group ∧ Word field ∧ g.1 = settingName group field ∧
    ∀ below, g.2.onto below = g.2

theorem settingName_injective {group group' field field' : String} (first : Word group)
    (second : Word field) (first' : Word group') (second' : Word field')
    (same : settingName group field = settingName group' field') :
    group = group' ∧ field = field' := by
  have keys := congrArg Key.ofText same
  rw [Key.ofText_settingName first second,Key.ofText_settingName first' second'] at keys
  simpa using keys

theorem set_settingName {group field : String} (first : Word group) (second : Word field)
    {v : ConfigValue} (plain : ∀ below, v.onto below = v) (config : ConfigValue) :
    config.set (settingName group field) v = config.withField group
      (((config.fields.lookup group).getD unset).withField field v) := by
  rw [ConfigValue.set,Key.ofText_settingName first second]
  simp only [putUnder,putUnder.within,put_eq,second.lowercased,plain]

/-- One setting at a time: the field has the value given, and all others stay. -/
theorem value?_set {group field : String} (first : Word group) (second : Word field)
    {v : ConfigValue} (plain : ∀ below, v.onto below = v) (config : ConfigValue)
    (group' field' : String) :
    (config.set (settingName group field) v).value? group' field' =
      if group' = group ∧ field' = field then some v else config.value? group' field' := by
  rw [set_settingName first second plain,value?,value?,lookup_withField]
  by_cases here : group' = group
  · subst here
    have bare : unset.fields = [] := rfl
    cases config.fields.lookup group' <;>
      by_cases there : field' = field <;> simp [lookup_withField,there,bare]
  · simp [here]

theorem tabular_set {group field : String} (first : Word group) (second : Word field)
    {v : ConfigValue} (plain : ∀ below, v.onto below = v) {config : ConfigValue}
    (tabular : config.Tabular) : (config.set (settingName group field) v).Tabular := by
  intro name u found
  rw [set_settingName first second plain,lookup_withField] at found
  split at found
  · cases found
    exact isTable_withField _ _ _
  · exact tabular name u found

variable {given : Assignments}

/-- A row of settings: each field has its value, and without one what it had. -/
theorem value?_settings (all : ∀ g ∈ given, IsSetting g) (apart : (given.map (·.1)).Nodup)
    {group field : String} (first : Word group) (second : Word field) (config : ConfigValue) :
    (assign config given).value? group field =
      (given.lookup (settingName group field)).or (config.value? group field) := by
  induction given generalizing config with
  | nil => rfl
  | cons g rest ih =>
    obtain ⟨⟨group',field',first',second',named,plain⟩,later⟩ := List.forall_mem_cons.mp all
    obtain ⟨other,apart⟩ := List.nodup_cons.mp apart
    have step := ih later apart (config.set g.1 g.2)
    rw [assign,List.foldl_cons,← assign,step,named,value?_set first' second' plain]
    have head : (g :: rest).lookup (settingName group field) =
        if settingName group field = settingName group' field' then some g.2
        else rest.lookup (settingName group field) := by
      rw [← named]
      exact lookup_cons_if _ _ _ _
    rw [head]
    by_cases here : settingName group field = settingName group' field'
    · have none : rest.lookup (settingName group field) = none := by
        rw [← Option.not_isSome_iff_eq_none,lookup_isSome_iff_mem,here,← named]
        exact other
      rw [none,if_pos here,if_pos (settingName_injective first second first' second' here)]
      rfl
    · rw [if_neg here,if_neg]
      rintro ⟨rfl,rfl⟩
      exact here rfl

theorem tabular_settings (all : ∀ g ∈ given, IsSetting g) {config : ConfigValue}
    (tabular : config.Tabular) : (assign config given).Tabular := by
  induction given generalizing config with
  | nil => exact tabular
  | cons g rest ih =>
    obtain ⟨⟨group,field,first,second,named,plain⟩,later⟩ := List.forall_mem_cons.mp all
    rw [assign,List.foldl_cons,← assign,named]
    exact ih later (tabular_set first second plain tabular)

/-- Every variable that sets anything names a field of a group, and no two of them the same one. -/
structure Fielded (environment : Variables) : Prop where
  form : ∀ v ∈ environment, (settingName? v.1).isSome → ∃ group field,
    Word group ∧ Word field ∧ Text.lowercased v.1 = variableName group field
  apart : environment.Pairwise fun a b =>
    (settingName? a.1).isSome → Text.lowercased a.1 ≠ Text.lowercased b.1

def ofVariable? (environment : Variables) (group field : String) : Option ConfigValue :=
  (lookupAnyCase (variableName group field) environment).map
    (variableValue (settingName group field))

theorem onto_variableValue (setting text : String) (below : Option ConfigValue) :
    (variableValue setting text).onto below = variableValue setting text := by
  unfold variableValue
  split
  · rfl
  · rfl
  · split
    · rfl
    · split
      · rfl
      · split <;> rfl

/-- The variable of a field, and no other that names a field, sets that field. -/
theorem settingName?_eq_iff {name group field : String} (first : Word group) (second : Word field)
    (form : (settingName? name).isSome → ∃ group field,
      Word group ∧ Word field ∧ Text.lowercased name = variableName group field) :
    settingName? name = some (settingName group field) ↔
      Text.lowercased name = variableName group field := by
  constructor
  · intro sets
    obtain ⟨group',field',first',second',named⟩ := form (by rw [sets]; rfl)
    rw [settingName?_of_words first' second' named,Option.some.injEq] at sets
    obtain ⟨rfl,rfl⟩ := settingName_injective first' second' first second sets
    exact named
  · exact settingName?_of_words first second

theorem ofVariables_cons (name text : String) (rest : Variables) :
    ofVariables ((name,text) :: rest) =
      match settingName? name with
      | some setting => (setting,variableValue setting text) :: ofVariables rest
      | none => ofVariables rest := by
  cases named : settingName? name <;> simp [ofVariables,named]

theorem ofVariables_insert {name setting : String} (named : settingName? name = some setting)
    (before after : Variables) (text : String) :
    ofVariables (before ++ (name,text) :: after) =
      ofVariables before ++ (setting,variableValue setting text) :: ofVariables after := by
  simp [ofVariables,List.filterMap_append,named]

/-- The mode of a run is not a matter of other variables. -/
theorem mode_insert {name : String} (other : "RUN_MODE" ≠ name) (before after : Variables)
    (text : String) : mode (before ++ (name,text) :: after) = mode (before ++ after) := by
  simp only [mode,List.lookup_append,lookup_cons_if,if_neg other]

variable {environment : Variables}

theorem lookup_ofVariables (fielded : Fielded environment) {group field : String}
    (first : Word group) (second : Word field) :
    (ofVariables environment).lookup (settingName group field) =
      ofVariable? environment group field := by
  obtain ⟨form,-⟩ := fielded
  induction environment with
  | nil => rfl
  | cons v rest ih =>
    obtain ⟨name,text⟩ := v
    obtain ⟨here,later⟩ := List.forall_mem_cons.mp form
    have sets := settingName?_eq_iff first second here
    rw [ofVariables_cons,ofVariable?,lookupAnyCase_cons,apply_ite (Option.map _),← ofVariable?,
      ← ih later]
    cases named : settingName? name with
    | none =>
      rw [if_neg fun same => by simp [sets.mpr same] at named]
    | some setting =>
      rw [named,Option.some.injEq] at sets
      simp only [lookup_cons_if,@eq_comm _ _ setting,sets]
      split
      next same => rw [sets.mpr same]; rfl
      next => rfl

theorem isSetting_ofVariables (fielded : Fielded environment) :
    ∀ g ∈ ofVariables environment, IsSetting g := by
  intro g member
  obtain ⟨v,among,made⟩ := List.mem_filterMap.mp member
  obtain ⟨setting,named,rfl⟩ := Option.map_eq_some_iff.mp made
  obtain ⟨group,field,first,second,same⟩ := fielded.form v among (by rw [named]; rfl)
  rw [settingName?_of_words first second same,Option.some.injEq] at named
  exact ⟨group,field,first,second,named.symm,onto_variableValue _ _⟩

theorem nodup_ofVariables (fielded : Fielded environment) :
    ((ofVariables environment).map (·.1)).Nodup := by
  rw [ofVariables,List.map_filterMap,List.Nodup,List.pairwise_filterMap]
  refine fielded.apart.imp_of_mem fun {a b} first second apart => ?_
  rintro _ sets _ sets' rfl
  simp only [Option.map_map,Option.map_eq_some_iff,Function.comp] at sets sets'
  obtain ⟨setting,named,rfl⟩ := sets
  obtain ⟨_,named',rfl⟩ := sets'
  obtain ⟨group,field,word,word',same⟩ := fielded.form a first (by rw [named]; rfl)
  have sets := settingName?_of_words word word' same
  rw [named,← named'] at sets
  have same' := (settingName?_eq_iff word word' (fielded.form b second)).mp sets
  exact apart (by rw [named]; rfl) (same.trans same'.symm)

end Config
end Placard

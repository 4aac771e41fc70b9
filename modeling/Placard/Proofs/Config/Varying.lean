import Placard.Proofs.Config.Arriving
import Placard.Proofs.Config.Layering

/-! Configurations that differ in a single field. They keep to that field whatever is set elsewhere,
and settings that are read from one of them are read from the other with that field changed. -/
namespace Placard

namespace ConfigValue

/-- Tables that differ in what stands under one name; those values are related. -/
structure Vary (name : String) (Related : ConfigValue → ConfigValue → Prop) (u u' : ConfigValue) :
    Prop where
  table : u.IsTable
  table' : u'.IsTable
  here : ∃ v v', u.fields.lookup name = some v ∧ u'.fields.lookup name = some v' ∧ Related v v'
  others : ∀ key, key ≠ name → u.fields.lookup key = u'.fields.lookup key

variable {Related : ConfigValue → ConfigValue → Prop} {u u' : ConfigValue} {group field : String}

theorem vary_withField {name : String} {v v' : ConfigValue} (related : Related v v')
    (others : ∀ key, key ≠ name → u.fields.lookup key = u'.fields.lookup key) :
    Vary name Related (u.withField name v) (u'.withField name v') where
  table := isTable_withField _ _ _
  table' := isTable_withField _ _ _
  here := ⟨v,v',by rw [lookup_withField,if_pos rfl],by rw [lookup_withField,if_pos rfl],related⟩
  others key other := by
    rw [lookup_withField,lookup_withField,if_neg other,if_neg other]
    exact others key other

theorem Vary.withField {name other : String} (vary : Vary name Related u u') (apart : other ≠ name)
    (v : ConfigValue) : Vary name Related (u.withField other v) (u'.withField other v) where
  table := isTable_withField _ _ _
  table' := isTable_withField _ _ _
  here := by
    obtain ⟨a,a',found,found',related⟩ := vary.here
    exact ⟨a,a',by rw [lookup_withField,if_neg apart.symm,found],
      by rw [lookup_withField,if_neg apart.symm,found'],related⟩
  others key beside := by
    rw [lookup_withField,lookup_withField]
    split
    · rfl
    · exact vary.others key beside

theorem Vary.put {name other : String} (vary : Vary name Related u u')
    (apart : Text.lowercased other ≠ name) (v : ConfigValue) :
    Vary name Related (u.put other v) (u'.put other v) := by
  rw [put_eq,put_eq,vary.others _ apart]
  exact vary.withField apart _

def Other (name other : String) : Prop := other ≠ name ∧ Text.lowercased other ≠ name

instance (name other : String) : Decidable (Other name other) :=
  inferInstanceAs (Decidable (_ ∧ _))

theorem Vary.putUnder {name other : String} (vary : Vary name Related u u')
    (apart : Other name other) (v : ConfigValue) (steps : List Config.Step) :
    Vary name Related (putUnder v other u steps) (putUnder v other u' steps) := by
  cases steps with
  | nil => exact vary.put apart.2 v
  | cons step rest =>
    rw [ConfigValue.putUnder,ConfigValue.putUnder,vary.others _ apart.1]
    · exact vary.withField apart.1 _
    · rintro ⟨⟩
    · rintro ⟨⟩

theorem within_name (v : ConfigValue) (name : String) (rest : List Config.Step)
    (into : ConfigValue) : putUnder.within v (.name name :: rest) into = putUnder v name into rest := by
  cases rest <;> rfl

/-- A key leads past a field of a group. -/
def Past (group field : String) (key : Config.Key) : Prop :=
  Other group key.name ∨
    key.name = group ∧ ∃ n rest, key.steps = .name n :: rest ∧ Other field n

def VaryIn (group field : String) (Related : ConfigValue → ConfigValue → Prop) :
    ConfigValue → ConfigValue → Prop :=
  Vary group (Vary field Related)

theorem VaryIn.set (vary : VaryIn group field Related u u') {key : String}
    (past : Past group field (Config.Key.ofText key)) (v : ConfigValue) :
    VaryIn group field Related (u.set key v) (u'.set key v) := by
  rw [ConfigValue.set,ConfigValue.set]
  rcases past with apart | ⟨same,n,rest,steps,apart⟩
  · exact Vary.putUnder vary apart v _
  · obtain ⟨t,t',found,found',related⟩ := vary.here
    rw [same,steps,putUnder,putUnder,found,found',within_name,within_name]
    · exact vary_withField (related.putUnder apart v rest) vary.others
    · rintro ⟨⟩
    · rintro ⟨⟩

theorem varyIn_set (first : Config.Word group) (second : Config.Word field)
    {v v' : ConfigValue} (plain : ∀ below, v.onto below = v) (plain' : ∀ below, v'.onto below = v')
    (related : Related v v') (config : ConfigValue) :
    VaryIn group field Related (config.set (Config.settingName group field) v)
      (config.set (Config.settingName group field) v') := by
  rw [Config.set_settingName first second plain,Config.set_settingName first second plain']
  exact vary_withField (vary_withField related fun _ _ => rfl) fun _ _ => rfl

theorem past_ofVariables {environment : Variables}
    (past : ∀ o ∈ environment, ∀ setting, Config.settingName? o.1 = some setting →
      Past group field (Config.Key.ofText setting)) :
    ∀ g ∈ Config.ofVariables environment, Past group field (Config.Key.ofText g.1) := by
  intro g member
  obtain ⟨o,among,made⟩ := List.mem_filterMap.mp member
  obtain ⟨setting,named,rfl⟩ := Option.map_eq_some_iff.mp made
  exact past o among setting named

theorem VaryIn.assign (vary : VaryIn group field Related u u') {given : Config.Assignments}
    (past : ∀ g ∈ given, Past group field (Config.Key.ofText g.1)) :
    VaryIn group field Related (Config.assign u given) (Config.assign u' given) := by
  induction given generalizing u u' with
  | nil => exact vary
  | cons g rest ih =>
    obtain ⟨first,later⟩ := List.forall_mem_cons.mp past
    exact ih (vary.set first g.2) later

end ConfigValue
end Placard

import Placard.Config.Layers
import Placard.Proofs.Table

/-! What stands in a table of configured values after a value has been put there. A value that is a
table itself goes into what stands under its name; any other takes that place. Names count without
regard to case, and what is put under one name leaves all others alone. -/
namespace Placard

def lookupAnyCase (name : String) (fields : List (String × α)) : Option α :=
  (fields.find? fun field => Text.lowercased field.1 = name).map (·.2)

def Apart (fields : List (String × α)) : Prop :=
  fields.Pairwise fun a b => Text.lowercased a.1 ≠ Text.lowercased b.1

theorem lookupAnyCase_cons (name : String) (field : String × α) (rest : List (String × α)) :
    lookupAnyCase name (field :: rest) =
      if Text.lowercased field.1 = name then some field.2 else lookupAnyCase name rest := by
  by_cases here : Text.lowercased field.1 = name <;> simp [lookupAnyCase,here]

theorem lookupAnyCase_map (name : String) (f : α → β) (fields : List (String × α)) :
    lookupAnyCase name (fields.map fun field => (field.1,f field.2)) =
      (lookupAnyCase name fields).map f := by
  induction fields with
  | nil => rfl
  | cons field rest ih =>
    rw [List.map_cons,lookupAnyCase_cons,lookupAnyCase_cons,ih]
    split <;> rfl

theorem lookupAnyCase_of_apart {field : String × α} {rest : List (String × α)}
    (apart : Apart (field :: rest)) : lookupAnyCase (Text.lowercased field.1) rest = none := by
  have others := (List.pairwise_cons.mp apart).1
  simp only [lookupAnyCase,Option.map_eq_none_iff,List.find?_eq_none,decide_eq_true_eq]
  exact fun other member same => others other member same.symm

namespace ConfigValue

/-- A value laid over the one that stands below it, if there is one. The fields of a table go into
it one by one, anything else takes its place. -/
def onto (below : Option ConfigValue) : ConfigValue → ConfigValue
  | table fields _ => putAll (below.getD empty) fields
  | v => v

def IsTable (v : ConfigValue) : Prop := ∃ fields origin, v = .table fields origin

def value? (config : ConfigValue) (group field : String) : Option ConfigValue :=
  (config.fields.lookup group).bind (·.fields.lookup field)

def Tabular (config : ConfigValue) : Prop :=
  ∀ name v, config.fields.lookup name = some v → v.IsTable

theorem isTable_withField (into : ConfigValue) (name : String) (v : ConfigValue) :
    (into.withField name v).IsTable := by
  cases into <;> exact ⟨_,_,rfl⟩

theorem lookup_withField (into : ConfigValue) (name key : String) (v : ConfigValue) :
    (into.withField name v).fields.lookup key =
      if key = name then some v else into.fields.lookup key := by
  cases into <;> simp [withField,fields,lookup_cons_if,Json.lookup_insertField]

theorem put_eq (into : ConfigValue) (name : String) (v : ConfigValue) :
    into.put name v = into.withField (Text.lowercased name)
      (v.onto (into.fields.lookup (Text.lowercased name))) := by
  cases v <;> simp [put,onto]

theorem isTable_set {config : ConfigValue} (key : String) (v : ConfigValue) :
    (config.set key v).IsTable := by
  rw [set]
  obtain ⟨name,steps⟩ := Config.Key.ofText key
  cases steps with
  | nil =>
    rw [putUnder,put_eq]
    exact isTable_withField _ _ _
  | cons step rest => exact isTable_withField _ _ _

theorem lookup_put (into : ConfigValue) (name key : String) (v : ConfigValue) :
    (into.put name v).fields.lookup key =
      if key = Text.lowercased name then some (v.onto (into.fields.lookup key))
      else into.fields.lookup key := by
  rw [put_eq,lookup_withField]
  split
  next same => rw [same]
  next => rfl

theorem isTable_putAll {into : ConfigValue} (table : into.IsTable)
    (fields : List (String × ConfigValue)) : (into.putAll fields).IsTable := by
  induction fields generalizing into with
  | nil => rwa [putAll]
  | cons field rest ih =>
    rw [putAll,put_eq]
    exact ih (isTable_withField _ _ _)

/-- Each field goes over what stands under its name. -/
theorem lookup_putAll {fields : List (String × ConfigValue)} (apart : Apart fields)
    (into : ConfigValue) (key : String) :
    (into.putAll fields).fields.lookup key =
      match lookupAnyCase key fields with
      | some v => some (v.onto (into.fields.lookup key))
      | none => into.fields.lookup key := by
  induction fields generalizing into with
  | nil => rw [putAll]; rfl
  | cons field rest ih =>
    have none := lookupAnyCase_of_apart apart
    rw [putAll,ih (List.pairwise_cons.mp apart).2,lookup_put,lookupAnyCase_cons]
    by_cases here : Text.lowercased field.1 = key
    · subst here
      simp [none]
    · simp [here,Ne.symm here]

theorem isTable_onto_table {below : Option ConfigValue} (table : ∀ v, below = some v → v.IsTable)
    (fields : List (String × ConfigValue)) (origin : Option Origin) :
    ((ConfigValue.table fields origin).onto below).IsTable := by
  rw [onto]
  cases below with
  | none => exact isTable_putAll ⟨_,_,rfl⟩ fields
  | some v => exact isTable_putAll (table v rfl) fields

end ConfigValue
end Placard

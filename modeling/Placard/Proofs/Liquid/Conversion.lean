import Placard.Liquid.Value
import Placard.Proofs.Json.Nested

/-! Values taken over into the Liquid language and given back. A value is taken over just if no
number inside of it is too large, and then nothing of it is lost on the way back. -/
namespace Placard.Liquid

def Fits : Json → Prop
  | .int i => i ≤ largest
  | _ => True

def IsFinite : Json → Prop
  | .float d => d.isFinite
  | _ => True

theorem fits_of_isInt64 {v : Json} (small : v.IsInt64) : Fits v := by
  cases v with
  | int i =>
    obtain ⟨-,high⟩ := small
    exact Int.le_sub_one_of_lt high
  | _ => trivial

theorem isFinite_of_isInt64 {v : Json} (small : v.IsInt64) : IsFinite v := by
  cases v with
  | float d => cases small
  | _ => trivial

namespace Value

theorem isSome_ofItems?_iff (items : List Json) :
    (ofItems? items).isSome ↔ ∀ v ∈ items, (ofJson? v).isSome := by
  induction items with
  | nil => simp [ofItems?]
  | cons v rest ih =>
    rw [List.forall_mem_cons,← ih]
    cases here : ofJson? v <;> cases later : ofItems? rest <;> simp [ofItems?,here,later]

theorem isSome_ofFields?_iff (fields : List (String × Json)) :
    (ofFields? fields).isSome ↔ ∀ f ∈ fields, (ofJson? f.2).isSome := by
  induction fields with
  | nil => simp [ofFields?]
  | cons f rest ih =>
    rw [List.forall_mem_cons,← ih]
    cases here : ofJson? f.2 <;> cases later : ofFields? rest <;> simp [ofFields?,here,later]

/-- A value is taken over just if no whole number inside is too large. -/
theorem isSome_ofJson?_iff (v : Json) : (ofJson? v).isSome ↔ v.Each Fits := by
  induction v using Json.nested_induction with
  | null | bool | float | str =>
    rw [ofJson?,Json.each_leaf_iff (by trivial)]
    simp [Fits]
  | int i =>
    rw [ofJson?,Json.each_leaf_iff (by trivial),Fits]
    split <;> simp [*]
  | arr items ih =>
    rw [ofJson?,Option.isSome_map,isSome_ofItems?_iff,Json.each_arr_iff]
    simp +contextual [Fits,ih]
  | obj fields ih =>
    rw [ofJson?,Option.isSome_map,isSome_ofFields?_iff,Json.each_obj_iff]
    simp +contextual [Fits,ih]

theorem exists_ofFields? {fields : List (String × Json)} (numbers : Json.Each Fits (.obj fields)) :
    ∃ taken, ofFields? fields = some taken := by
  have whole := (isSome_ofJson?_iff (.obj fields)).mpr numbers
  rw [ofJson?,Option.isSome_map] at whole
  exact Option.isSome_iff_exists.mp whole

theorem toJsonItems_of_ofItems? {items : List Json} {taken : List Value}
    (back : ∀ v ∈ items, ∀ u, ofJson? v = some u → u.toJson = v)
    (made : ofItems? items = some taken) : toJsonItems taken = items := by
  induction items generalizing taken with
  | nil =>
    cases made
    rfl
  | cons v rest ih =>
    simp only [ofItems?,Option.bind_eq_bind,Option.bind_eq_some_iff,Option.pure_def,
      Option.some.injEq] at made
    obtain ⟨u,here,us,later,rfl⟩ := made
    obtain ⟨first,others⟩ := List.forall_mem_cons.mp back
    rw [toJsonItems,first u here,ih others later]

theorem toJsonFields_of_ofFields? {fields : List (String × Json)} {taken : List (String × Value)}
    (back : ∀ f ∈ fields, ∀ u, ofJson? f.2 = some u → u.toJson = f.2)
    (made : ofFields? fields = some taken) : toJsonFields taken = fields := by
  induction fields generalizing taken with
  | nil =>
    cases made
    rfl
  | cons f rest ih =>
    simp only [ofFields?,Option.bind_eq_bind,Option.bind_eq_some_iff,Option.pure_def,
      Option.some.injEq] at made
    obtain ⟨u,here,us,later,rfl⟩ := made
    obtain ⟨first,others⟩ := List.forall_mem_cons.mp back
    rw [toJsonFields,first u here,ih others later]

/-- What is taken over is given back as it was, if it has no infinite numbers. -/
theorem toJson_of_ofJson? {v : Json} {u : Value} (finite : v.Each IsFinite)
    (made : ofJson? v = some u) : u.toJson = v := by
  induction v using Json.nested_induction generalizing u with
  | null | bool | str =>
    cases made
    rfl
  | int i =>
    rw [ofJson?] at made
    split at made <;> cases made
    rfl
  | float d =>
    cases made
    exact if_pos finite.self
  | arr items ih =>
    obtain ⟨taken,within,rfl⟩ := Option.map_eq_some_iff.mp made
    obtain ⟨-,finite⟩ := Json.each_arr_iff.mp finite
    rw [toJson,toJsonItems_of_ofItems? (fun v member u => ih v member (finite v member)) within]
  | obj fields ih =>
    obtain ⟨taken,within,rfl⟩ := Option.map_eq_some_iff.mp made
    obtain ⟨-,finite⟩ := Json.each_obj_iff.mp finite
    rw [toJson,toJsonFields_of_ofFields? (fun f member u => ih f member (finite f member)) within]

theorem lookup_ofFields? {fields : List (String × Json)} {taken : List (String × Value)}
    (made : ofFields? fields = some taken) (name : String) :
    taken.lookup name = (fields.lookup name).bind ofJson? := by
  induction fields generalizing taken with
  | nil =>
    cases made
    rfl
  | cons f rest ih =>
    simp only [ofFields?,Option.bind_eq_bind,Option.bind_eq_some_iff,Option.pure_def,
      Option.some.injEq] at made
    obtain ⟨u,here,us,later,rfl⟩ := made
    obtain ⟨n,v⟩ := f
    by_cases same : name = n
    · simp [same,here]
    · simp [lookup_cons_if,same,ih later]

end Value
end Placard.Liquid

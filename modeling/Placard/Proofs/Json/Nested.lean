import Placard.Proofs.Json.Lexing
import Placard.Proofs.Table

/-! Values within values: what is said of every value inside of one, how deep brackets are nested,
and induction from the inside out. -/
namespace Placard.Json

/-- Induction over a value by what its brackets hold. -/
@[elab_as_elim]
theorem nested_induction {motive : Json → Prop} (null : motive .null)
    (bool : ∀ b, motive (.bool b)) (int : ∀ i, motive (.int i)) (float : ∀ d, motive (.float d))
    (str : ∀ s, motive (.str s)) (arr : ∀ items, (∀ v ∈ items, motive v) → motive (.arr items))
    (obj : ∀ fields, (∀ f ∈ fields, motive f.2) → motive (.obj fields)) (v : Json) : motive v := by
  refine @Json.rec motive (fun items => ∀ v ∈ items, motive v)
    (fun fields => ∀ f ∈ fields, motive f.2) (fun f => motive f.2) null bool int float str arr obj
    ?noItem ?item ?noField ?field (fun _ _ here => here) v
  case noItem => exact List.forall_mem_nil _
  case item =>
    intro v items here later
    exact List.forall_mem_cons.mpr ⟨here,later⟩
  case noField => exact List.forall_mem_nil _
  case field =>
    intro f fields here later
    exact List.forall_mem_cons.mpr ⟨here,later⟩

/-- A value is itself, or stands in the brackets of the other one. -/
inductive Inside : Json → Json → Prop
  | self (v : Json) : Inside v v
  | item {u v : Json} {items : List Json} : v ∈ items → Inside u v → Inside u (.arr items)
  | field {u : Json} {f : String × Json} {fields : List (String × Json)} :
    f ∈ fields → Inside u f.2 → Inside u (.obj fields)

def Each (P : Json → Prop) (v : Json) : Prop := ∀ u, Inside u v → P u

variable {P Q : Json → Prop}

theorem Each.self {v : Json} (each : Each P v) : P v := each v (.self v)

theorem Each.imp {v : Json} (each : Each P v) (h : ∀ u, P u → Q u) : Each Q v :=
  fun u inside => h u (each u inside)

theorem each_arr_iff {items : List Json} :
    Each P (.arr items) ↔ P (.arr items) ∧ ∀ v ∈ items, Each P v := by
  constructor
  · intro each
    exact ⟨each.self,fun v member u inside => each u (.item member inside)⟩
  · rintro ⟨here,within⟩ u inside
    cases inside with
    | self => exact here
    | item member inside => exact within _ member u inside

theorem each_obj_iff {fields : List (String × Json)} :
    Each P (.obj fields) ↔ P (.obj fields) ∧ ∀ f ∈ fields, Each P f.2 := by
  constructor
  · intro each
    exact ⟨each.self,fun f member u inside => each u (.field member inside)⟩
  · rintro ⟨here,within⟩ u inside
    cases inside with
    | self => exact here
    | field member inside => exact within _ member u inside

def IsLeaf : Json → Prop
  | .arr _ | .obj _ => False
  | _ => True

theorem each_leaf_iff {v : Json} (leaf : IsLeaf v) : Each P v ↔ P v := by
  refine ⟨Each.self,fun here u inside => ?_⟩
  cases inside with
  | self => exact here
  | item | field => cases leaf

theorem Each.field {fields : List (String × Json)} (each : Each P (.obj fields)) {name : String}
    {v : Json} (found : fields.lookup name = some v) : Each P v :=
  (each_obj_iff.mp each).2 _ (mem_of_lookup found)

/-- Brackets are nested at most so deep. -/
inductive Shallow : Nat → Json → Prop
  | null : Shallow depth .null
  | bool (b : Bool) : Shallow depth (.bool b)
  | int (i : Int) : Shallow depth (.int i)
  | float (d : Double) : Shallow depth (.float d)
  | str (s : String) : Shallow depth (.str s)
  | arr {items : List Json} : (∀ v ∈ items, Shallow depth v) → Shallow (depth + 1) (.arr items)
  | obj {fields : List (String × Json)} :
    (∀ f ∈ fields, Shallow depth f.2) → Shallow (depth + 1) (.obj fields)

/-- A field can stand in an object of its own. -/
theorem Shallow.only {depth : Nat} {fields : List (String × Json)}
    (shallow : Shallow depth (.obj fields)) {name : String} {v : Json}
    (found : fields.lookup name = some v) (other : String) : Shallow depth (.obj [(other,v)]) := by
  cases shallow with
  | obj within =>
    have here : Shallow _ v := within _ (mem_of_lookup found)
    exact .obj (List.forall_mem_singleton.mpr here)

def IsOrdered : Json → Prop
  | .obj fields => Ascending fields
  | _ => True

/-- A number is a whole one that a word holds, or a zero with a minus sign, which is no word. -/
def IsExact : Json → Prop
  | .int i => IsWord i
  | .float d => d = .zero true
  | _ => True

def IsInt64 : Json → Prop
  | .int i => -Int.pow 2 63 ≤ i ∧ i < Int.pow 2 63
  | .float _ => False
  | _ => True

theorem IsInt64.isExact {v : Json} (small : v.IsInt64) : v.IsExact := by
  cases v with
  | int i =>
    obtain ⟨low,high⟩ := small
    have bound : Int.pow 2 63 ≤ largestWord := by decide
    exact ⟨low,by omega⟩
  | float d => exact absurd small id
  | _ => trivial

end Placard.Json

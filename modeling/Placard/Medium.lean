/-! What a record is read from. A medium knows how its values give texts, flags, lists, choices and
records; the records themselves are described once for every medium. -/
namespace Placard

/-- One field of a record that is being read: a field that is not required keeps what the record has
at the start. -/
structure Field (V E σ : Type) where
  name : String
  required : Bool
  put : V → Except E (σ → σ)

/-- Names that choose a value, with the name of the choice for messages. -/
structure Choice (α : Type) where
  name : String
  /-- The names as a message lists them. -/
  expected : String
  cases : List (String × α)

/-- The name of a record type, its fields in order, and its values where a field is missing. -/
structure RecordShape (V E σ : Type) where
  name : String
  fields : List (Field V E σ)
  start : σ

namespace Field

/-- A field that has to be there. -/
def needed (name : String) (read : V → Except E α) (set : α → σ → σ) : Field V E σ :=
  ⟨name, true, fun v => (read v).map set⟩

def optional (name : String) (read : V → Except E α) (set : α → σ → σ) : Field V E σ :=
  ⟨name, false, fun v => (read v).map set⟩

end Field

class Medium (V : Type) (E : outParam Type) where
  text : V → Except E String
  flag : V → Except E Bool
  /-- The value, unless it is the empty one. -/
  present : V → Option V
  choice : {α : Type} → Choice α → V → Except E α
  list : {α : Type} → (V → Except E α) → V → Except E (List α)
  record : {σ : Type} → RecordShape V E σ → V → Except E σ
  reject : String → E

/-- The value, if it is not the empty one. -/
def Medium.ifPresent [Medium V E] (read : V → Except E α) (v : V) : Except E (Option α) :=
  match Medium.present v with
  | none => .ok none
  | some v => (read v).map some

end Placard

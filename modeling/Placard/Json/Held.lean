import Placard.Medium
import Placard.Json.Fault

/-! Records from JSON values that have been read already. What is wrong has no place in a text. -/
namespace Placard.Json

def Found.of : Json → Found
  | .null => .null
  | .bool b => .bool b
  | .int i => .int i
  | .float d => .float d
  | .str s => .str s
  | .arr _ => .list
  | .obj _ => .map

def unexpected (expected : String) (v : Json) : String :=
  (Cause.wrongType (.of v) expected).message

def heldChoice (c : Choice α) (name : String) : Except String α :=
  match c.cases.lookup name with
  | some a => .ok a
  | none => .error (Cause.unknownVariant name c.expected).message

/-- A name stands alone or as the only field of an object, with the empty value. -/
def chooseHeld (c : Choice α) : Json → Except String α
  | .str s => heldChoice c s
  | .obj [(name, v)] => do
    let a ← heldChoice c name
    match v with
    | .null => return a
    | v => throw (unexpected "unit" v)
  | .obj _ => .error "invalid value: map, expected map with a single key"
  | v => .error (unexpected "string or map" v)

def heldList (item : Json → Except String α) : Json → Except String (List α)
  | .arr items => items.mapM item
  | v => .error (unexpected "a sequence" v)

def heldMembers (fields : List (Field Json String σ)) (record : σ) :
    List (String × Json) → Except String σ
  | [] => .ok record
  | (name, v) :: rest =>
    match fields.find? (·.name == name) with
    | none => heldMembers fields record rest
    | some field => do
      let put ← field.put v
      heldMembers fields (put record) rest

def heldItems (expected : String) (read : Nat) (record : σ) :
    List (Field Json String σ) → List Json → Except String σ
  | [], [] => .ok record
  | [], extra => .error (Cause.wrongLength (read + extra.length) "fewer elements in array").message
  | field :: fields, [] =>
    if field.required then .error (Cause.wrongLength read expected).message
    else heldItems expected (read + 1) record fields []
  | field :: fields, v :: rest => do
    let put ← field.put v
    heldItems expected (read + 1) (put record) fields rest

def heldRecord (shape : RecordShape Json String σ) : Json → Except String σ
  | .obj members => do
    let record ← heldMembers shape.fields shape.start members
    match shape.fields.find? fun f => f.required && !members.any (·.1 == f.name) with
    | some f => throw (Cause.missingField f.name).message
    | none => return record
  | .arr items =>
    heldItems ("struct " ++ shape.name ++ " with " ++ toString shape.fields.length ++ " elements") 0
      shape.start shape.fields items
  | v => .error (unexpected ("struct " ++ shape.name) v)

instance : Medium Json String where
  text
    | .str s => .ok s
    | v => .error (unexpected "a string" v)
  flag
    | .bool b => .ok b
    | v => .error (unexpected "a boolean" v)
  present
    | .null => none
    | v => some v
  choice := chooseHeld
  list := heldList
  record := heldRecord
  reject := id

end Placard.Json

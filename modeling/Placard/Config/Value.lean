import Placard.Json.Value
import Placard.Text.Letters

/-! Configured values, and putting one into another: tables are merged field by field, anything else
gives way. The name under which a value is put counts without regard to case. -/
namespace Placard

/-- Where a configured value was set. -/
inductive Origin where
  | environment
  | file (path : String)
  deriving DecidableEq, Repr

def Origin.text : Origin → String
  | environment => "the environment"
  | file path => path

/-- A value knows where it was set, unless it was made to hold others. -/
inductive ConfigValue where
  | null (origin : Option Origin)
  | bool (b : Bool) (origin : Option Origin)
  | int (i : Int) (origin : Option Origin)
  | float (d : Double) (origin : Option Origin)
  | text (s : String) (origin : Option Origin)
  | list (items : List ConfigValue) (origin : Option Origin)
  | table (fields : List (String × ConfigValue)) (origin : Option Origin)

namespace ConfigValue

def empty : ConfigValue := .table [] none

/-- The value of a place that has been made and not been filled. -/
def unset : ConfigValue := .null none

def fields : ConfigValue → List (String × ConfigValue)
  | table fields _ => fields
  | _ => []

/-- Gives a field its value. What is no table becomes one. -/
def withField (into : ConfigValue) (name : String) (v : ConfigValue) : ConfigValue :=
  match into with
  | table fields origin => .table (Json.insertField name v fields) origin
  | _ => .table [(name, v)] none

mutual

/-- Puts a value under a name. The fields of a table go one by one into what stands there. -/
def put (into : ConfigValue) (name : String) : ConfigValue → ConfigValue
  | table fields _ =>
    let name := Text.lowercased name
    into.withField name (putAll ((into.fields.lookup name).getD empty) fields)
  | v => into.withField (Text.lowercased name) v

def putAll (into : ConfigValue) : List (String × ConfigValue) → ConfigValue
  | [] => into
  | (name, v) :: rest => putAll (put into name v) rest

end

def items : ConfigValue → List ConfigValue
  | list items _ => items
  | _ => []

/-- A list of at least so many items; those that it lacks are unset. -/
def padded (count : Nat) (items : List ConfigValue) : List ConfigValue :=
  items ++ List.replicate (count - items.length) unset

/-- A list in which an index leads somewhere, and the place that it leads to. A negative index
counts from the end, and beyond the front unset items are put there. -/
def reaching (i : Int) (items : List ConfigValue) : List ConfigValue × Nat :=
  if 0 ≤ i then (padded (i.toNat + 1) items, i.toNat)
  else
    let back := i.natAbs
    if back ≤ items.length then (items, items.length - back)
    else (List.replicate (back - items.length) unset ++ items, 0)

/-- Changes the item that an index leads to. What is no list becomes one. -/
def withItem (i : Int) (change : ConfigValue → ConfigValue) (v : ConfigValue) : ConfigValue :=
  let (items, place) := reaching i v.items
  .list (items.modify place change) (match v with
    | list _ origin => origin
    | _ => none)

mutual

/-- A JSON value that a file holds. An integer too large for 64 bits with a sign is taken as a
float. -/
def ofJson (origin : Origin) : Json → ConfigValue
  | .null => .null (some origin)
  | .bool b => .bool b (some origin)
  | .int i => if i < Int.pow 2 63 then .int i (some origin) else .float (.ofInt i) (some origin)
  | .float d => .float d (some origin)
  | .str s => .text s (some origin)
  | .arr items => .list (ofItems origin items) (some origin)
  | .obj fields => .table (ofFields origin fields) (some origin)

def ofItems (origin : Origin) : List Json → List ConfigValue
  | [] => []
  | v :: rest => ofJson origin v :: ofItems origin rest

def ofFields (origin : Origin) : List (String × Json) → List (String × ConfigValue)
  | [] => []
  | (name, v) :: rest => (name, ofJson origin v) :: ofFields origin rest

end

end ConfigValue
end Placard

import Placard.Config.Value
import Placard.Json.Fault
import Placard.Medium

/-! Configured values as a medium for records. They are read leniently: texts are taken from numbers
and flags, flags from numbers and from words for yes and no, names of choices in any case. -/
namespace Placard

/-- Why configured values do not make up a record. -/
inductive ConfigFault where
  | plain (message : String)
  /-- A value of another kind, with the path of names to it and where it was set. -/
  | wrongKind (found expected : String) (key : Option String) (origin : Option Origin)
  deriving DecidableEq, Repr

namespace ConfigFault

def message : ConfigFault → String
  | plain message => message
  | wrongKind found expected key origin =>
    "invalid type: " ++ found ++ ", expected " ++ expected ++
      (match key with
        | some key => " for key `" ++ key ++ "`"
        | none => "") ++
      (match origin with
        | some origin => " in " ++ origin.text
        | none => "")

/-- A name in front of a path of names and indices. -/
def keyUnder (name : String) (path : Option String) : String :=
  match path with
  | none => name
  | some path =>
    match path.toList with
    | [] => name
    | '[' :: _ => name ++ path
    | _ => name ++ "." ++ path

/-- The fault, seen from the table in which the faulty value has a name. -/
def under (name : String) : ConfigFault → ConfigFault
  | plain message => .plain message
  | wrongKind found expected key origin =>
    .wrongKind found expected (some (keyUnder name key)) origin

/-- The fault, seen from the list in which the faulty value has an index. -/
def underIndex (i : Nat) : ConfigFault → ConfigFault
  | plain message => .plain message
  | wrongKind found expected key origin =>
    .wrongKind found expected (some ("[" ++ toString i ++ "]" ++ key.getD "")) origin

end ConfigFault

namespace ConfigValue

/-- In a message every float has a point. -/
def messageLayout : Double.Layout := ⟨fun _ => true, true⟩

def kind : ConfigValue → String
  | null _ => "unit value"
  | bool b _ => "boolean `" ++ toString b ++ "`"
  | int i _ => "integer `" ++ toString i ++ "`"
  | float d _ => "floating point `" ++ d.written messageLayout ++ "`"
  | text s _ => "string " ++ Text.quoted s
  | list _ _ => "sequence"
  | table _ _ => "map"

def unexpected (v : ConfigValue) (expected : String) : ConfigFault :=
  .plain ("invalid type: " ++ v.kind ++ ", expected " ++ expected)

def origin? : ConfigValue → Option Origin
  | null o | bool _ o | int _ o | float _ o | text _ o | list _ o | table _ o => o

def readText : ConfigValue → Except ConfigFault String
  | text s _ => .ok s
  | bool b _ => .ok (toString b)
  | int i _ => .ok (toString i)
  | float d _ => .ok (d.written Double.plainLayout)
  | v => .error (.wrongKind v.kind "a string" none v.origin?)

def yesWords : List String := ["1", "true", "on", "yes"]
def noWords : List String := ["0", "false", "off", "no"]

def readFlag : ConfigValue → Except ConfigFault Bool
  | bool b _ => .ok b
  | int i _ => .ok (i ≠ 0)
  | float d _ => .ok !d.isZero
  | text s origin =>
    let word := Text.lowercased s
    if yesWords.contains word then .ok true
    else if noWords.contains word then .ok false
    else .error (.wrongKind ("string " ++ Text.quoted word) "a boolean" none origin)
  | v => .error (.wrongKind v.kind "a boolean" none v.origin?)

def chosen (c : Choice α) (name : String) : Except ConfigFault α :=
  match c.cases.find? fun k => Text.lowercased k.1 == Text.lowercased name with
  | some (_, a) => .ok a
  | none => .error (.plain ("enum " ++ c.name ++ " does not have variant constructor " ++ name))

/-- A name stands alone or as the only name in a table. -/
def readChoice (c : Choice α) : ConfigValue → Except ConfigFault α
  | text s _ => chosen c s
  | table [(name, _)] _ => chosen c name
  | _ => .error (.plain ("value of enum " ++ c.name ++
      " should be represented by either string or table with exactly one key"))

def readEach (item : ConfigValue → Except ConfigFault α) (i : Nat) :
    List ConfigValue → Except ConfigFault (List α)
  | [] => .ok []
  | v :: rest => do
    let a ← (item v).mapError (.underIndex i)
    let as ← readEach item (i + 1) rest
    return a :: as

def readList (item : ConfigValue → Except ConfigFault α) :
    ConfigValue → Except ConfigFault (List α)
  | list items _ => readEach item 0 items
  | v => .error (v.unexpected "a sequence")

/-- The fields that are set, one after the other. -/
def readFields (given : List (String × ConfigValue)) (record : σ) :
    List (Field ConfigValue ConfigFault σ) → Except ConfigFault σ
  | [] => .ok record
  | field :: rest =>
    match given.lookup field.name with
    | none => readFields given record rest
    | some v => do
      let put ← (field.put v).mapError (.under field.name)
      readFields given (put record) rest

/-- Items as fields in order; what is left over does not matter. -/
def readItems (expected : String) (i : Nat) (record : σ) :
    List (Field ConfigValue ConfigFault σ) → List ConfigValue → Except ConfigFault σ
  | [], _ => .ok record
  | field :: fields, [] =>
    if field.required then .error (.plain (Json.Cause.wrongLength i expected).message)
    else readItems expected (i + 1) record fields []
  | field :: fields, v :: rest => do
    let put ← (field.put v).mapError (.underIndex i)
    readItems expected (i + 1) (put record) fields rest

def readRecord (shape : RecordShape ConfigValue ConfigFault σ) :
    ConfigValue → Except ConfigFault σ
  | table given _ => do
    let record ← readFields given shape.start shape.fields
    match shape.fields.find? fun f => f.required && (given.lookup f.name).isNone with
    | some f => throw (.plain (Json.Cause.missingField f.name).message)
    | none => return record
  | list items _ =>
    readItems ("struct " ++ shape.name ++ " with " ++ toString shape.fields.length ++ " elements")
      0 shape.start shape.fields items
  | v => .error (v.unexpected ("struct " ++ shape.name))

instance : Medium ConfigValue ConfigFault where
  text := readText
  flag := readFlag
  present
    | null _ => none
    | v => some v
  choice := readChoice
  list := readList
  record := readRecord
  reject := .plain

end ConfigValue
end Placard

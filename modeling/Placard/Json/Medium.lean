import Placard.Json.Reader
import Placard.Medium

/-! JSON as a medium for records. A record is an object, whose unknown members are passed over, or
the list of its fields in order. -/
namespace Placard.Json

/-- A value with the depth of nesting that is left to it. -/
structure Part where
  depth : Nat
  draft : Draft

/-- A fault, or a cause whose place is where the reader stands after the value. -/
inductive Refusal where
  | at (fault : Fault)
  | here (cause : Cause)

def Refusal.place (reached : Nat) : Refusal → Fault
  | .at fault => fault
  | .here cause => ⟨cause, reached⟩

/-- Another kind of value stands where `expected` should. -/
def mismatch (expected : String) : Draft → Fault
  | .null _ stop => ⟨.wrongType .null expected, stop⟩
  | .bool b _ stop => ⟨.wrongType (.bool b) expected, stop⟩
  | .number (.ok (.float d)) _ stop => ⟨.wrongType (.float d) expected, stop⟩
  | .number (.ok (.int i)) _ stop => ⟨.wrongType (.int i) expected, stop⟩
  | .number (.ok _) _ stop => ⟨.wrongType .null expected, stop⟩
  | .number (.error fault) _ _ => fault
  | .string (.ok s) stop => ⟨.wrongType (.str s) expected, stop⟩
  | .string (.error fault) _ => fault
  | .list start _ _ => ⟨.wrongType .list expected, start⟩
  | .map start _ _ => ⟨.wrongType .map expected, start⟩
  | .broken _ flaw => flaw.read

def readText (p : Part) : Except Refusal String :=
  match p.draft with
  | .string (.ok s) _ => .ok s
  | d => .error (.at (mismatch "a string" d))

def readFlag (p : Part) : Except Refusal Bool :=
  match p.draft with
  | .bool b _ _ => .ok b
  | d => .error (.at (mismatch "a boolean" d))

def presentPart (p : Part) : Option Part :=
  match p.draft with
  | .null _ _ => none
  | _ => some p

def chosen (c : Choice α) (name : Except Fault String) (stop : Nat) : Except Refusal α :=
  match name with
  | .error fault => .error (.at fault)
  | .ok s =>
    match c.cases.lookup s with
    | some a => .ok a
    | none => .error (.at ⟨.unknownVariant s c.expected, stop⟩)

/-- A name stands alone or as the only member of an object, with the empty value. -/
def readChoice (c : Choice α) (p : Part) : Except Refusal α :=
  match p.draft with
  | .string s stop => chosen c s stop
  | .broken choice _ => .error (.at choice)
  | .null start _ | .bool _ start _ | .number _ start _ | .list start _ _ =>
    .error (.at ⟨.valueExpected, start + 1⟩)
  | .map start members ending =>
    if p.depth = 0 then .error (.at ⟨.tooDeep, start + 1⟩)
    else
      match members, ending with
      | [], .closed stop => .error (.at ⟨.valueExpected, stop⟩)
      | [], .torn flaw => .error (.at flaw.read)
      | (name, (value, stand)) :: rest, ending => do
        let a ← chosen c name.text name.stop
        match value with
        | .null _ _ => pure ()
        | d => .error (.at (mismatch "unit" d))
        match rest, ending with
        | [], .closed _ => .ok a
        | [], .torn ⟨⟨.objectEnds, offset⟩, _⟩ => .error (.at ⟨.objectEnds, offset⟩)
        | _, _ => .error (.at ⟨.valueExpected, stand.reached⟩)

def readEach (depth : Nat) (item : Part → Except Refusal α) :
    List (Draft × Stand) → Except Refusal (List α)
  | [] => .ok []
  | (d, stand) :: rest => do
    let a ← (item ⟨depth, d⟩).mapError fun r => .at (r.place stand.reached)
    let as ← readEach depth item rest
    .ok (a :: as)

def readList (item : Part → Except Refusal α) (p : Part) : Except Refusal (List α) :=
  match p.draft with
  | .list start items ending =>
    match p.depth with
    | 0 => .error (.at ⟨.tooDeep, start + 1⟩)
    | depth + 1 => do
      let as ← readEach depth item items
      match ending with
      | .closed _ => .ok as
      | .torn flaw => .error (.at flaw.read)
  | d => .error (.at (mismatch "a sequence" d))

/-- Members in the order of the text; `seen` holds the names of the fields met so far. -/
def readRecordMembers (depth : Nat) (fields : List (Field Part Refusal σ)) (seen : List String)
    (record : σ) : List (Name × (Draft × Stand)) → Except Refusal (List String × σ)
  | [] => .ok (seen, record)
  | (name, (d, stand)) :: rest => do
    let n ← name.text.mapError Refusal.at
    match fields.find? (·.name == n) with
    | none => do
      (skip d).mapError Refusal.at
      readRecordMembers depth fields seen record rest
    | some field =>
      if seen.contains n then .error (.at ⟨.duplicateField n, name.reached⟩)
      else do
        let put ← (field.put ⟨depth, d⟩).mapError fun r => .at (r.place stand.reached)
        readRecordMembers depth fields (n :: seen) (put record) rest

/-- Items as fields in order. After the last field the list has to end. -/
def readRecordItems (depth : Nat) (expected : String) (read : Nat) (record : σ) (ending : Ending)
    (last : Option Stand) :
    List (Field Part Refusal σ) → List (Draft × Stand) → Except Refusal σ
  | [], _ =>
    match last.bind Stand.fault with
    | some fault => .error (.at fault)
    | none => .ok record
  | field :: fields, [] =>
    match ending with
    | .torn flaw => .error (.at flaw.read)
    | .closed stop =>
      if field.required then .error (.at ⟨.wrongLength read expected, stop⟩)
      else readRecordItems depth expected (read + 1) record ending none fields []
  | field :: fields, (d, stand) :: rest => do
    let put ← (field.put ⟨depth, d⟩).mapError fun r => .at (r.place stand.reached)
    readRecordItems depth expected (read + 1) (put record) ending (some stand) fields rest

def readRecord (shape : RecordShape Part Refusal σ) (p : Part) : Except Refusal σ :=
  match p.draft with
  | .map start members ending =>
    match p.depth with
    | 0 => .error (.at ⟨.tooDeep, start + 1⟩)
    | depth + 1 => do
      let (seen, record) ← readRecordMembers depth shape.fields [] shape.start members
      match ending with
      | .torn flaw => .error (.at flaw.read)
      | .closed stop =>
        match shape.fields.find? fun f => f.required && !seen.contains f.name with
        | some f => .error (.at ⟨.missingField f.name, stop⟩)
        | none => .ok record
  | .list start items ending =>
    match p.depth with
    | 0 => .error (.at ⟨.tooDeep, start + 1⟩)
    | depth + 1 =>
      readRecordItems depth
        ("struct " ++ shape.name ++ " with " ++ toString shape.fields.length ++ " elements") 0
        shape.start ending none shape.fields items
  | d => .error (.at (mismatch ("struct " ++ shape.name) d))

instance : Medium Part Refusal where
  text := readText
  flag := readFlag
  present := presentPart
  choice := readChoice
  list := readList
  record := readRecord
  reject := fun message => .here (.rejected message)

/-- A whole text as one value of a type. -/
def parseAsFault (read : Part → Except Refusal α) (text : List Char) : Except Fault α := do
  let d := draft text
  let a ← (read ⟨deepest, d.draft⟩).mapError fun r => r.place (byteLength text)
  nothingAfter d.rest
  .ok a

def parseAs (read : Part → Except Refusal α) (text : String) : Except String α :=
  (parseAsFault read text.toList).mapError (Fault.message text.toList)

end Placard.Json

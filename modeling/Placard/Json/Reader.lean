import Placard.Json.Draft

/-! Reading values out of a draft: whole JSON values, or the types that a document should hold. The
first fault in the order of the text is the one that is reported. -/
namespace Placard.Json

/-- Brackets may be nested this deep. -/
def deepest : Nat := 127

mutual

def readDraft (depth : Nat) : Draft → Except Fault Json
  | .null _ _ => .ok .null
  | .bool b _ _ => .ok (.bool b)
  | .number n _ _ => n
  | .string s _ => s.map .str
  | .broken _ flaw => .error flaw.read
  | .list start items ending =>
    match depth with
    | 0 => .error ⟨.tooDeep, start + 1⟩
    | depth + 1 => do
      let vs ← readItems depth items
      match ending with
      | .closed _ => .ok (.arr vs)
      | .torn flaw => .error flaw.read
  | .map start members ending =>
    match depth with
    | 0 => .error ⟨.tooDeep, start + 1⟩
    | depth + 1 => do
      let fields ← readMembers depth [] members
      match ending with
      | .closed _ => .ok (.obj fields)
      | .torn flaw => .error flaw.read

def readItems (depth : Nat) : List (Draft × Stand) → Except Fault (List Json)
  | [] => .ok []
  | (d, _) :: rest => do
    let v ← readDraft depth d
    let vs ← readItems depth rest
    .ok (v :: vs)

def readMembers (depth : Nat) (fields : List (String × Json)) :
    List (Name × (Draft × Stand)) → Except Fault (List (String × Json))
  | [] => .ok fields
  | (name, (d, _)) :: rest => do
    let n ← name.text
    let v ← readDraft depth d
    readMembers depth (insertField n v fields) rest

end

/-- A value nobody asks for has only to be well formed. -/
def skip : Draft → Except Fault Unit
  | .null _ _ | .bool _ _ _ | .number _ _ _ | .string _ _ => .ok ()
  | .broken _ flaw => .error flaw.skip
  | .list _ _ ending | .map _ _ ending =>
    match ending with
    | .closed _ => .ok ()
    | .torn flaw => .error flaw.skip

/-- Nothing but white space may follow the document. -/
def nothingAfter : List Token → Except Fault Unit
  | [] => .ok ()
  | t :: _ => .error ⟨.trailingCharacters, t.start + 1⟩

def parseFault (text : List Char) : Except Fault Json := do
  let d := draft text
  let v ← readDraft deepest d.draft
  nothingAfter d.rest
  .ok v

def parse (text : String) : Except String Json :=
  (parseFault text.toList).mapError (Fault.message text.toList)

end Placard.Json

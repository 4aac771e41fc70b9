import Placard.Json.Lexeme

/-! A JSON text as far as it can be read: a tree that ends in a flaw where the text stops being
JSON. Everything a reader may have to say about a place is noted there, so that reading a type out
of the tree reports the first fault in the order of the text. -/
namespace Placard.Json

/-- A fault in its two forms: for a reader, and for one who only passes over the value. -/
structure Flaw where
  read : Fault
  skip : Fault

def Flaw.both (cause : Cause) (offset : Nat) : Flaw := ⟨⟨cause, offset⟩, ⟨cause, offset⟩⟩

inductive Ending where
  | closed (stop : Nat)
  | torn (flaw : Flaw)

/-- What a reader who wants nothing more finds after an entry: how far it gets in looking for the
closing bracket, and its fault unless the bracket is there. -/
structure Stand where
  reached : Nat
  fault : Option Fault

/-- The name of a member: where it ends, and how far a reader gets who stops there. -/
structure Name where
  text : Except Fault String
  stop : Nat
  reached : Nat

inductive Draft where
  | null (start stop : Nat)
  | bool (b : Bool) (start stop : Nat)
  | number (n : Except Fault Json) (start stop : Nat)
  | string (s : Except Fault String) (stop : Nat)
  | list (start : Nat) (items : List (Draft × Stand)) (ending : Ending)
  | map (start : Nat) (members : List (Name × (Draft × Stand))) (ending : Ending)
  /-- `choice` is the fault for a reader that wants one of several names here. -/
  | broken (choice : Fault) (flaw : Flaw)

/-- After an item: a closing bracket, or a comma, which is taken, and what follows it. -/
def standInList (length : Nat) : List Token → Stand
  | [] => ⟨length, some ⟨.listEnds, length⟩⟩
  | t :: rest =>
    match t.lexeme, rest with
    | .closeBracket, _ => ⟨t.stop, none⟩
    | .comma, [] => ⟨length, some ⟨.trailingCharacters, length⟩⟩
    | .comma, u :: _ =>
      match u.lexeme with
      | .closeBracket => ⟨u.start, some ⟨.trailingComma, u.start + 1⟩⟩
      | _ => ⟨u.start, some ⟨.trailingCharacters, u.start + 1⟩⟩
    | _, _ => ⟨t.start, some ⟨.trailingCharacters, t.start + 1⟩⟩

/-- After a member, or after a name. -/
def standInMap (length : Nat) : List Token → Stand
  | [] => ⟨length, some ⟨.objectEnds, length⟩⟩
  | t :: _ =>
    match t.lexeme with
    | .closeBrace => ⟨t.stop, none⟩
    | .comma => ⟨t.start, some ⟨.trailingComma, t.start + 1⟩⟩
    | _ => ⟨t.start, some ⟨.trailingCharacters, t.start + 1⟩⟩

/-- A bracket that is open, with its entries so far, last first. -/
inductive Frame where
  | list (start : Nat) (items : List (Draft × Stand))
  | map (start : Nat) (members : List (Name × (Draft × Stand)))
  | member (start : Nat) (members : List (Name × (Draft × Stand)))
      (name : Name)

/-- The flaw at one place, seen from all brackets around it. -/
def tear (flaw : Flaw) : List Frame → Draft → Draft
  | [], d => d
  | .list start items :: stack, d =>
    tear flaw stack (.list start (items.reverse ++ [(d, ⟨0, none⟩)]) (.torn flaw))
  | .map start members :: stack, _ =>
    tear flaw stack (.map start members.reverse (.torn flaw))
  | .member start members name :: stack, d =>
    tear flaw stack (.map start (members.reverse ++ [(name, (d, ⟨0, none⟩))]) (.torn flaw))

/-- The innermost bracket is torn between two entries. -/
def tearHere (flaw : Flaw) : List Frame → Draft
  | [] => .broken flaw.read flaw
  | .list start items :: stack => tear flaw stack (.list start items.reverse (.torn flaw))
  | .map start members :: stack => tear flaw stack (.map start members.reverse (.torn flaw))
  | .member start members name :: stack =>
    tear flaw (.member start members name :: stack) (.broken flaw.read flaw)

/-- What the next lexeme should be. -/
inductive Wanted where
  | value
  | firstItem
  | item
  | firstName
  | name
  | colon
  | separator

/-- Where a finished value goes. -/
def place? (length : Nat) (d : Draft) (rest : List Token) : List Frame → Option (List Frame)
  | [] => none
  | .list start items :: stack =>
    some (.list start ((d, standInList length rest) :: items) :: stack)
  | .map start members :: stack => some (.map start members :: stack)
  | .member start members name :: stack =>
    some (.map start ((name, (d, standInMap length rest)) :: members) :: stack)

structure Drafted where
  draft : Draft
  rest : List Token

def build (length : Nat) : List Frame → Wanted → List Token → Drafted
  | stack, wanted, [] =>
    let cause : Cause × Cause := match wanted, stack with
      | .value, _ => (.valueEnds, .valueEnds)
      | .item, _ => (.valueEnds, .valueEnds)
      | .firstItem, _ => (.listEnds, .listEnds)
      | .name, _ => (.valueEnds, .objectEnds)
      | .firstName, _ => (.objectEnds, .objectEnds)
      | .colon, _ => (.objectEnds, .objectEnds)
      | .separator, .list _ _ :: _ => (.listEnds, .listEnds)
      | .separator, _ => (.objectEnds, .objectEnds)
    ⟨tearHere ⟨⟨cause.1, length⟩, ⟨cause.2, length⟩⟩ stack, []⟩
  | stack, wanted, t :: rest =>
    let torn (read skip : Cause) : Drafted :=
      ⟨tearHere ⟨⟨read, t.start + 1⟩, ⟨skip, t.start + 1⟩⟩ stack, rest⟩
    let finish (d : Draft) (stack : List Frame) : Drafted :=
      match place? length d rest stack with
      | none => ⟨d, rest⟩
      | some stack => build length stack .separator rest
    let value : Drafted :=
      match t.lexeme with
      | .null => finish (.null t.start t.stop) stack
      | .bool b => finish (.bool b t.start t.stop) stack
      | .number n => finish (.number n t.start t.stop) stack
      | .string s => finish (.string s t.stop) stack
      | .openBracket => build length (.list t.start [] :: stack) .firstItem rest
      | .openBrace => build length (.map t.start [] :: stack) .firstName rest
      | .broken quoted read skip =>
        let choice := if quoted then read else ⟨.valueExpected, t.start + 1⟩
        ⟨tear ⟨read, skip⟩ stack (.broken choice ⟨read, skip⟩), rest⟩
      | _ =>
        let flaw := Flaw.both .valueExpected (t.start + 1)
        ⟨tear flaw stack (.broken flaw.read flaw), rest⟩
    let name : Drafted :=
      match t.lexeme, stack with
      | .string s, .map start members :: stack =>
        build length
          (.member start members ⟨s, t.stop, (standInMap length rest).reached⟩ :: stack) .colon rest
      | .broken true read skip, _ => ⟨tearHere ⟨read, skip⟩ stack, rest⟩
      | _, _ => torn .keyNotString .keyNotString
    match wanted, t.lexeme, stack with
    | .value, _, _ => value
    | .firstItem, .closeBracket, .list start items :: stack =>
      finish (.list start items.reverse (.closed t.stop)) stack
    | .firstItem, _, _ => value
    | .item, .closeBracket, _ => torn .trailingComma .valueExpected
    | .item, _, _ => value
    | .firstName, .closeBrace, .map start members :: stack =>
      finish (.map start members.reverse (.closed t.stop)) stack
    | .firstName, _, _ => name
    | .name, .closeBrace, _ => torn .trailingComma .keyNotString
    | .name, _, _ => name
    | .colon, .colon, _ => build length stack .value rest
    | .colon, _, _ => torn .colonExpected .colonExpected
    | .separator, .closeBracket, .list start items :: stack =>
      finish (.list start items.reverse (.closed t.stop)) stack
    | .separator, .closeBrace, .map start members :: stack =>
      finish (.map start members.reverse (.closed t.stop)) stack
    | .separator, .comma, .list start items :: stack =>
      build length (.list start items :: stack) .item rest
    | .separator, .comma, stack => build length stack .name rest
    | .separator, _, .list _ _ :: _ => torn .listCommaExpected .listCommaExpected
    | .separator, _, _ => torn .objectCommaExpected .objectCommaExpected

def draft (text : List Char) : Drafted :=
  build (byteLength text) [] .value (tokens 0 text)

end Placard.Json

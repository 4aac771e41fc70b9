import Placard.Number.Written
import Placard.Text.Quoted

/-! JSON values and their compact text. The fields of an object stand in the order of their names,
each name once. -/
namespace Placard

inductive Json where
  | null
  | bool (b : Bool)
  | int (i : Int)
  | float (d : Double)
  | str (s : String)
  | arr (items : List Json)
  | obj (fields : List (String × Json))
  deriving Inhabited, Repr

namespace Json

/-- A later field of the same name replaces the earlier one. -/
def insertField (name : String) (value : α) : List (String × α) → List (String × α)
  | [] => [(name, value)]
  | (n, v) :: rest =>
    if name = n then (name, value) :: rest
    else if name < n then (name, value) :: (n, v) :: rest
    else (n, v) :: insertField name value rest

def fieldsOf (pairs : List (String × α)) : List (String × α) :=
  pairs.foldl (fun fields p => insertField p.1 p.2 fields) []

def object (pairs : List (String × Json)) : Json := .obj (fieldsOf pairs)

def field? (name : String) : Json → Option Json
  | .obj fields => fields.lookup name
  | _ => none

mutual

/-- An integer is never the same number as a float; zeros of both signs are. -/
def same : Json → Json → Bool
  | .null, .null => true
  | .bool a, .bool b => a == b
  | .int a, .int b => a == b
  | .float a, .float b => a.equals b
  | .str a, .str b => a == b
  | .arr a, .arr b => sameItems a b
  | .obj a, .obj b => sameFields a b
  | _, _ => false

def sameItems : List Json → List Json → Bool
  | [], [] => true
  | a :: as, b :: bs => same a b && sameItems as bs
  | _, _ => false

def sameFields : List (String × Json) → List (String × Json) → Bool
  | [], [] => true
  | (m, a) :: as, (n, b) :: bs => m == n && same a b && sameFields as bs
  | _, _ => false

end

def escapedChar (c : Char) : List Char :=
  if c = '"' then ['\\', '"']
  else if c = '\\' then ['\\', '\\']
  else if c = '\n' then ['\\', 'n']
  else if c = '\r' then ['\\', 'r']
  else if c = '\t' then ['\\', 't']
  else if c.toNat = 8 then ['\\', 'b']
  else if c.toNat = 12 then ['\\', 'f']
  else if c.toNat < 32 then
    ['\\', 'u', '0', '0', Text.hexDigit (c.toNat / 16), Text.hexDigit (c.toNat % 16)]
  else [c]

/-- A string between quotes; only quotes, backslashes and control characters are escaped. -/
def encodeString (s : String) : List Char := '"' :: s.toList.flatMap escapedChar ++ ['"']

def numberText (i : Int) : List Char := (toString i).toList

def floatText (d : Double) : List Char := (d.written Double.documentLayout).toList

mutual

def print : Json → List Char
  | .null => ['n', 'u', 'l', 'l']
  | .bool true => ['t', 'r', 'u', 'e']
  | .bool false => ['f', 'a', 'l', 's', 'e']
  | .int i => numberText i
  | .float d => floatText d
  | .str s => encodeString s
  | .arr items => '[' :: printItems items ++ [']']
  | .obj fields => '{' :: printFields fields ++ ['}']

def printItems : List Json → List Char
  | [] => []
  | [v] => print v
  | v :: rest => print v ++ ',' :: printItems rest

def printFields : List (String × Json) → List Char
  | [] => []
  | [(n, v)] => encodeString n ++ ':' :: print v
  | (n, v) :: rest => encodeString n ++ ':' :: print v ++ ',' :: printFields rest

end

def compact (v : Json) : String := String.ofList v.print

end Json
end Placard

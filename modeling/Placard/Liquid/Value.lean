import Placard.Json.Value
import Placard.Number.Decimal
import Placard.Text.Blank

/-! Values of the Liquid language. They are JSON values with whole numbers of 64 bits only, and two
more: the words `empty` and `blank`, which equal whatever is so. -/
namespace Placard.Liquid

inductive Lack where
  | empty
  | blank
  deriving DecidableEq, Repr

inductive Value where
  | nil
  | lack (l : Lack)
  | bool (b : Bool)
  | int (i : Int)
  | float (d : Double)
  | str (s : String)
  | arr (items : List Value)
  | obj (fields : List (String × Value))
  deriving Inhabited, Repr

def largest : Int := Int.pow 2 63 - 1

namespace Value

mutual

/-- A JSON value as a Liquid value, if no number is too large. -/
def ofJson? : Json → Option Value
  | .null => some .nil
  | .bool b => some (.bool b)
  | .int i => if i ≤ largest then some (.int i) else none
  | .float d => some (.float d)
  | .str s => some (.str s)
  | .arr items => (ofItems? items).map .arr
  | .obj fields => (ofFields? fields).map .obj

def ofItems? : List Json → Option (List Value)
  | [] => some []
  | v :: rest => do
    let v ← ofJson? v
    let rest ← ofItems? rest
    return v :: rest

def ofFields? : List (String × Json) → Option (List (String × Value))
  | [] => some []
  | (n, v) :: rest => do
    let v ← ofJson? v
    let rest ← ofFields? rest
    return (n, v) :: rest

end

mutual

/-- What is no finite number becomes nothing. -/
def toJson : Value → Json
  | .nil => .null
  | .lack .empty => .str "Empty"
  | .lack .blank => .str "Blank"
  | .bool b => .bool b
  | .int i => .int i
  | .float d => if d.isFinite then .float d else .null
  | .str s => .str s
  | .arr items => .arr (toJsonItems items)
  | .obj fields => .obj (toJsonFields fields)

def toJsonItems : List Value → List Json
  | [] => []
  | v :: rest => toJson v :: toJsonItems rest

def toJsonFields : List (String × Value) → List (String × Json)
  | [] => []
  | (n, v) :: rest => (n, toJson v) :: toJsonFields rest

end

mutual

def printed : Value → String
  | .nil | .lack _ => ""
  | .bool b => toString b
  | .int i => toString i
  | .float d => d.written Double.plainLayout
  | .str s => s
  | .arr items => printedItems items
  | .obj fields => printedFields fields

def printedItems : List Value → String
  | [] => ""
  | v :: rest => printed v ++ printedItems rest

def printedFields : List (String × Value) → String
  | [] => ""
  | (n, v) :: rest => n ++ printed v ++ printedFields rest

end

mutual

/-- As a template would spell the value. -/
def spelled : Value → String
  | .nil => "nil"
  | .lack .empty => "empty"
  | .lack .blank => "blank"
  | .str s => "\"" ++ s ++ "\""
  | .arr items => "[" ++ spelledItems items ++ "]"
  | .obj fields => "\x7b" ++ spelledFields fields ++ "\x7d"
  | v => v.printed

def spelledItems : List Value → String
  | [] => ""
  | v :: rest => spelled v ++ ", " ++ spelledItems rest

def spelledFields : List (String × Value) → String
  | [] => ""
  | (n, v) :: rest => "\"" ++ n ++ "\": " ++ spelled v ++ ", " ++ spelledFields rest

end

/-- What a message calls the kind of a value. -/
def kind : Value → String
  | .nil => "nil"
  | .lack .empty => "empty"
  | .lack .blank => "blank"
  | .bool _ => "boolean"
  | .int _ => "whole number"
  | .float _ => "fractional number"
  | .str _ => "string"
  | .arr _ => "array"
  | .obj _ => "object"

def isScalar : Value → Bool
  | .bool _ | .int _ | .float _ | .str _ => true
  | _ => false

def isNil : Value → Bool
  | .nil => true
  | _ => false

/-- Only nothing and false are not true. -/
def isTrue : Value → Bool
  | .nil | .lack _ => false
  | .bool b => b
  | _ => true

/-- The values that a default replaces. -/
def isReplaceable : Value → Bool
  | .nil | .lack _ => true
  | .bool b => !b
  | .int _ | .float _ => false
  | .str s => s = ""
  | .arr items => items.isEmpty
  | .obj fields => fields.isEmpty

def lacks : Lack → Value → Bool
  | _, .nil => true
  | _, .lack _ => true
  | .empty, .bool _ => false
  | .blank, .bool b => !b
  | _, .int _ => false
  | _, .float _ => false
  | .empty, .str s => s = ""
  | .blank, .str s => (Text.trim s.toList).isEmpty
  | _, .arr items => items.isEmpty
  | _, .obj fields => fields.isEmpty

/-- A whole number, or a text that is one. -/
def toInt? : Value → Option Int
  | .int i => some i
  | .str s => Double.int64OfText? s
  | _ => none

def toDouble? : Value → Option Double
  | .int i => some (.ofInt i)
  | .float d => some d
  | .str s => Double.ofText? s
  | _ => none

/-- A truth value equals all that is as true. -/
def sameScalar : Value → Value → Bool
  | .int a, .int b => a == b
  | .int a, .float b => (Double.ofInt a).equals b
  | .float a, .int b => a.equals (.ofInt b)
  | .float a, .float b => a.equals b
  | .bool a, .bool b => a == b
  | .str a, .str b => a == b
  | _, .bool b => b
  | .bool a, _ => a
  | _, _ => false

/-- A scalar against a value that is none. -/
def sameAsOther (scalar other : Value) : Bool :=
  match scalar, other with
  | .bool b, .nil => !b
  | .bool b, _ => b
  | _, _ => false

mutual

def same : Value → Value → Bool
  | .arr a, .arr b => sameItems a b
  | .obj a, .obj b => sameFields a b
  | .nil, .nil => true
  | .lack l, v => lacks l v
  | v, .lack l => lacks l v
  | a, b =>
    if a.isScalar then if b.isScalar then sameScalar a b else sameAsOther a b
    else if b.isScalar then sameAsOther b a
    else false

def sameItems : List Value → List Value → Bool
  | [], [] => true
  | a :: as, b :: bs => same a b && sameItems as bs
  | _, _ => false

def sameFields : List (String × Value) → List (String × Value) → Bool
  | [], [] => true
  | (m, a) :: as, (n, b) :: bs => m == n && same a b && sameFields as bs
  | _, _ => false

end

def orderScalar? : Value → Value → Option Ordering
  | .int a, .int b => some (compare a b)
  | .int a, .float b => (Double.ofInt a).compare? b
  | .float a, .int b => a.compare? (.ofInt b)
  | .float a, .float b => a.compare? b
  | .bool a, .bool b => some (compare a.toNat b.toNat)
  | .str a, .str b => some (if a < b then .lt else if a = b then .eq else .gt)
  | _, _ => none

mutual

/-- The order of two values, where they have one; lists compare item by item. -/
def order? : Value → Value → Option Ordering
  | .arr a, .arr b => orderItems? a b
  | .obj a, .obj b => orderFields? a b
  | a, b => orderScalar? a b

def orderItems? : List Value → List Value → Option Ordering
  | [], [] => some .eq
  | [], _ :: _ => some .lt
  | _ :: _, [] => some .gt
  | a :: as, b :: bs =>
    match order? a b with
    | some .eq => orderItems? as bs
    | r => r

def orderFields? : List (String × Value) → List (String × Value) → Option Ordering
  | [], [] => some .eq
  | [], _ :: _ => some .lt
  | _ :: _, [] => some .gt
  | (m, a) :: as, (n, b) :: bs =>
    if m < n then some .lt
    else if m = n then
      match order? a b with
      | some .eq => orderFields? as bs
      | r => r
    else some .gt

end

/-- One step into a value. Lists count from either end; every value but nothing has a size. -/
def step? (v index : Value) : Option Value :=
  match v with
  | .arr items =>
    match index.toInt? with
    | some i =>
      let place := if i < 0 then i + items.length else i
      if place < 0 then none else items[place.toNat]?
    | none =>
      match index.printed with
      | "first" => items.head?
      | "last" => items.getLast?
      | "size" => some (.int items.length)
      | _ => none
  | .obj fields =>
    match fields.lookup index.printed with
    | some v => some v
    | none => if index.printed = "size" then some (.int fields.length) else none
  | .nil | .lack _ => none
  | v => if index.printed = "size" then some (.int v.printed.utf8ByteSize) else none

def follow? (v : Value) : List Value → Option Value
  | [] => some v
  | index :: rest => (v.step? index).bind (follow? · rest)

end Value
end Placard.Liquid

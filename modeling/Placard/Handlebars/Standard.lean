import Placard.Handlebars.Scope
import Placard.Number.Decimal

/-! The helpers that belong to the language: functions, which give a value, and controls, which say
what becomes of the body of a block. -/
namespace Placard.Handlebars

/-- An argument that has been looked up: its value, unless there is none, and the path that led
there. -/
structure Found where
  value : Option Json
  written : Option String

def Found.here (v : Json) : Found := ⟨some v, none⟩

/-- What is missing counts as the empty value. -/
def Found.get (f : Found) : Json := f.value.getD .null

/-- A call with its arguments looked up. -/
structure Applied where
  name : String
  placed : List Found
  named : List (String × Json)

inductive Function where
  | eq | ne | gt | gte | lt | lte | and | or | not | len | lookup
  deriving DecidableEq, Repr

inductive Control where
  | if | unless | each | with | raw | log
  deriving DecidableEq, Repr

inductive Standard where
  | function (f : Function)
  | control (c : Control)

def Standard.named? (name : String) : Option Standard :=
  ([("if", .control .if), ("unless", .control .unless), ("each", .control .each),
    ("with", .control .with), ("raw", .control .raw), ("log", .control .log),
    ("lookup", .function .lookup), ("eq", .function .eq), ("ne", .function .ne),
    ("gt", .function .gt), ("gte", .function .gte), ("lt", .function .lt),
    ("lte", .function .lte), ("and", .function .and), ("or", .function .or),
    ("not", .function .not), ("len", .function .len)] : List (String × Standard)).lookup name

/-- The order of two numbers, whatever their kinds. -/
def orderNumbers? : Json → Json → Option Ordering
  | .int a, .int b => some (compare a b)
  | .int a, .float b => Double.compareInt? a b
  | .float a, .int b => (Double.compareInt? b a).map Ordering.swap
  | .float a, .float b => a.compare? b
  | _, _ => none

/-- The number that a text is, written as in a JSON text. -/
def numberOf? (s : String) : Option Json :=
  let starts (c : Char) : Bool := c = '-' || c.isDigit
  if s.toList.head?.any starts && s.toList.getLast?.any Char.isDigit then literalValue? s.toList
  else none

/-- The order of two values, where they have one. A text counts as a number beside a number. -/
def order? : Json → Json → Option Ordering
  | .str a, .str b => some (compare a b)
  | .bool a, .bool b => some (compare a.toNat b.toNat)
  | .str a, b => (numberOf? a).bind (orderNumbers? · b)
  | a, .str b => (numberOf? b).bind (orderNumbers? a)
  | a, b => orderNumbers? a b

def size : Json → Nat
  | .str s => s.utf8ByteSize
  | .arr items => items.length
  | .obj fields => fields.length
  | _ => 0

/-- An item of a list by its index, or a field of an object by its name. -/
def item? : Json → Json → Option Json
  | .arr items, .int i => if 0 ≤ i then items[i.toNat]? else none
  | .obj fields, .str name => fields.lookup name
  | _, _ => none

def Function.name : Function → String
  | .eq => "eq"
  | .ne => "ne"
  | .gt => "gt"
  | .gte => "gte"
  | .lt => "lt"
  | .lte => "lte"
  | .and => "and"
  | .or => "or"
  | .not => "not"
  | .len => "len"
  | .lookup => "lookup"

/-- An argument that a function insists on; a missing value will not do in strict mode. -/
def required (strict : Bool) (placed : List Found) (i : Nat) (blame : Reason) :
    Except Reason Json :=
  match placed[i]? with
  | none => .error blame
  | some found => if strict && found.value.isNone then .error blame else .ok found.get

def onOne (strict : Bool) (f : Function) (placed : List Found) (g : Json → Bool) :
    Except Reason (Option Json) := do
  let x ← required strict placed 0 (.argumentAt f.name 0)
  return some (.bool (g x))

def onTwo (strict : Bool) (f : Function) (placed : List Found) (g : Json → Json → Bool) :
    Except Reason (Option Json) := do
  let x ← required strict placed 0 (.argumentAt f.name 0)
  let y ← required strict placed 1 (.argumentAt f.name 1)
  return some (.bool (g x y))

def ordered (test : Ordering → Bool) (a b : Json) : Bool := (order? a b).any test

/-- The value of a function, unless there is none. The two that join any number of truths take what
is missing for false. -/
def Function.apply (strict : Bool) (placed : List Found) : Function → Except Reason (Option Json)
  | .eq => onTwo strict .eq placed Json.same
  | .ne => onTwo strict .ne placed fun a b => !Json.same a b
  | .gt => onTwo strict .gt placed (ordered Ordering.isGT)
  | .gte => onTwo strict .gte placed (ordered Ordering.isGE)
  | .lt => onTwo strict .lt placed (ordered Ordering.isLT)
  | .lte => onTwo strict .lte placed (ordered Ordering.isLE)
  | .and => .ok (some (.bool (placed.all fun f => isTrue false f.get)))
  | .or => .ok (some (.bool (placed.any fun f => isTrue false f.get)))
  | .not => onOne strict .not placed fun a => !(isTrue false a)
  | .len => (required strict placed 0 (.argumentNamed "len" "x")).map fun a => some (.int (size a))
  | .lookup =>
    match placed with
    | [] => .error (.argumentAt "lookup" 0)
    | [_] => .error (.argumentAt "lookup" 1)
    | collection :: index :: _ =>
      match item? collection.get index.get with
      | some v => .ok (some v)
      | none => if strict then .error (.missing none) else .ok none

/-- A test answers yes or no, so a block of its name can choose a branch by it. -/
def Function.isTest : Function → Bool
  | .len | .lookup => false
  | _ => true

/-- What is rendered of a block: its body once in each scope, its other branch, or nothing. -/
inductive Plan where
  | body (scopes : List Scope)
  | inverse
  | nothing

/-- Whether the block has a body and another branch. -/
structure Shape where
  body : Bool
  inverse : Bool

/-- The other branch, if there is one; else strict mode blames the argument. -/
def inverseOrBlame (strict : Bool) (shape : Shape) (argument : Found) : Except Reason Plan :=
  if shape.inverse then .ok .inverse
  else if strict then .error (.missing argument.written)
  else .ok .nothing

def firstArgument (helper : String) (placed : List Found) : Except Reason Found :=
  match placed with
  | [] => .error (.argumentAt helper 0)
  | found :: _ => .ok found

/-- Of two binders of one name that of the key counts. -/
def bindNames : List String → Json → Json → List (String × Json)
  | [value], v, _ => [(value, v)]
  | [value, key], v, k => [(key, k), (value, v)]
  | _, _, _ => []

def loopCounters (last i : Nat) : List (String × Json) :=
  [("first", .bool (i == 0)), ("last", .bool (i == last)), ("index", .int i)]

def itemScopes (scope : Scope) (binders : List String) (items : List Json) : List Scope :=
  items.mapIdx fun i v =>
    scope.push ⟨v, loopCounters (items.length - 1) i, bindNames binders v (.int i)⟩

/-- One scope for each field, with its place in the row and its name. -/
def fieldScopes (scope : Scope) (binders : List String) (fields : List (String × Json)) :
    List Scope :=
  fields.mapIdx fun i f =>
    scope.push ⟨f.2, ("key", .str f.1) :: loopCounters (fields.length - 1) i,
      bindNames binders f.2 (.str f.1)⟩

def planEach (strict : Bool) (scope : Scope) (binders : List String) (shape : Shape)
    (argument : Found) : Except Reason Plan :=
  if !shape.body then .ok .nothing
  else
    match argument.get with
    | .arr (v :: items) => .ok (.body (itemScopes scope binders (v :: items)))
    | .obj (f :: fields) => .ok (.body (fieldScopes scope binders (f :: fields)))
    | .arr [] | .obj [] => .ok (if shape.inverse then .inverse else .nothing)
    | _ => inverseOrBlame strict shape argument

def planWith (strict : Bool) (scope : Scope) (binders : List String) (shape : Shape)
    (argument : Found) : Except Reason Plan :=
  let v := argument.get
  if isTrue false v then
    .ok (.body [scope.push ⟨v, scope.counters, match binders with
      | [name] => [(name, v)]
      | _ => []⟩])
  else inverseOrBlame strict shape argument

def zeroIsTrue (named : List (String × Json)) : Bool :=
  match named.lookup "includeZero" with
  | some (.bool b) => b
  | _ => false

def planIf (scope : Scope) (wanted : Bool) (named : List (String × Json)) (argument : Found) :
    Plan :=
  if isTrue (zeroIsTrue named) argument.get == wanted then .body [scope] else .inverse

/-- The levels that a log may have; nothing is rendered of it. -/
def planLog (named : List (String × Json)) : Except Reason Plan :=
  match named.lookup "level" with
  | some (.str level) =>
    if ["error", "warn", "info", "debug", "trace"].contains (Text.lowercased level) then
      .ok .nothing
    else .error (.badLevel level)
  | _ => .ok .nothing

def Control.plan (strict : Bool) (scope : Scope) (binders : List String) (shape : Shape)
    (call : Applied) : Control → Except Reason Plan
  | .if => (firstArgument "if" call.placed).map (planIf scope true call.named)
  | .unless => (firstArgument "if" call.placed).map (planIf scope false call.named)
  | .each => (firstArgument "each" call.placed).bind (planEach strict scope binders shape)
  | .with => (firstArgument "with" call.placed).bind (planWith strict scope binders shape)
  | .raw => .ok (.body [scope])
  | .log => planLog call.named

end Placard.Handlebars

import Placard.Liquid.Template

/-! Rendering. A name is looked up in the loops around it, then among the variables the template has
set, then in the data, and last among the counters. -/
namespace Placard.Liquid

abbrev Fields := List (String × Value)

/-- What a template changes while it is rendered. -/
structure Store where
  assigned : Fields
  counters : Fields
  cycles : List (String × Nat)

def Store.empty : Store := ⟨[], [], []⟩

def Store.set (s : Store) (name : String) (v : Value) : Store :=
  { s with assigned := Json.insertField name v s.assigned }

/-- What a place in a template can see: the loops around it, innermost first, and the data. -/
structure Scope where
  extensions : Extensions
  loops : List Fields
  data : Fields

/-- Does rendering go on after a node, or is a loop to be left or continued? -/
inductive Signal where
  | none | leave | next
  deriving DecidableEq, Repr

structure Rendered where
  text : String
  store : Store
  signal : Signal

/-- The value of a name, where it has one. -/
def Scope.root? (scope : Scope) (store : Store) (name : String) : Option Value :=
  (scope.loops.findSome? fun fields => fields.lookup name).or <|
    (store.assigned.lookup name).or <|
      (scope.data.lookup name).or (store.counters.lookup name)

def Scope.find (scope : Scope) (store : Store) (name : String) (steps : List Value) :
    Except Reason Value :=
  match scope.root? store name with
  | none => .error .unknownVariable
  | some v =>
    match v.follow? steps with
    | some v => .ok v
    | none => .error .unknownIndex

mutual

def Expression.eval (scope : Scope) (store : Store) : Expression → Except Reason Value
  | .literal v => .ok v
  | .variable name steps => do
    let steps ← evalSteps scope store steps
    scope.find store name steps

def evalSteps (scope : Scope) (store : Store) : List Expression → Except Reason (List Value)
  | [] => .ok []
  | e :: rest => do
    let v ← e.eval scope store
    if v.isScalar then
      let vs ← evalSteps scope store rest
      return v :: vs
    else throw (.badIndex v)

end

def evalAll (scope : Scope) (store : Store) : List Expression → Except Reason (List Value)
  | [] => .ok []
  | e :: rest => do
    let v ← e.eval scope store
    let vs ← evalAll scope store rest
    return v :: vs

/-- Named values for a registered function; of two alike the later counts. -/
def evalNamed (scope : Scope) (store : Store) (named : List (String × Expression)) :
    Except Reason Arguments := do
  let values ← evalAll scope store (named.map (·.2))
  return Json.fieldsOf ((named.map (·.1)).zip (values.map Value.toJson))

/-- A JSON value that comes back from a registered function. -/
def accepted (v : Json) : Except Reason Value :=
  match Value.ofJson? v with
  | some v => .ok v
  | none => .error .numberTooLarge

/-- The arguments of a standard filter. Each is checked before the next one is looked at, and all of
them before the input is. -/
def evalPlaced (scope : Scope) (store : Store) :
    List Kind → List Expression → Except Reason (List Value)
  | kind :: kinds, e :: rest => do
    let v ← e.eval scope store
    if kind = .whole then
      let _ ← asWhole v
    let vs ← evalPlaced scope store kinds rest
    return v :: vs
  | _, _ => .ok []

def FilterCall.apply (scope : Scope) (store : Store) (f : FilterCall) (input : Value) :
    Except Reason Value :=
  match scope.extensions.filters.lookup f.name with
  | some h => do
    let named ← evalNamed scope store f.named
    let v ← (h input.toJson named).mapError (.filterRefused f.name)
    accepted v
  | none =>
    match standardFilter? f.name with
    | some standard => do
      let kinds := standard.signature.needed ++ standard.signature.allowed
      let placed ← evalPlaced scope store kinds f.placed
      standard.apply input placed
    | none => .error .badInput

def applyFilters (scope : Scope) (store : Store) : List FilterCall → Value → Except Reason Value
  | [], v => .ok v
  | f :: rest, v => do
    let v ← f.apply scope store v
    applyFilters scope store rest v

def Chain.eval (scope : Scope) (store : Store) (c : Chain) : Except Reason Value := do
  let v ← c.entry.eval scope store
  applyFilters scope store c.filters v

def containsText (part s : List Char) : Bool := (splitFirst part s).isSome

def isWithin (b a : Value) : Except Reason Bool :=
  match a with
  | .arr items => .ok (items.any (·.same b))
  | .obj fields => .ok (b.isScalar && (fields.lookup b.printed).isSome)
  | a =>
    if a.isScalar then .ok (containsText b.printed.toList a.printed.toList)
    else .error (.expected "string | array | object" a)

def Comparison.test (a b : Value) : Comparison → Except Reason Bool
  | .eq => .ok (a.same b)
  | .ne => .ok !(a.same b)
  | .lt => .ok ((a.order? b).any Ordering.isLT)
  | .gt => .ok ((a.order? b).any Ordering.isGT)
  | .le => .ok ((a.order? b).any Ordering.isLE)
  | .ge => .ok ((a.order? b).any Ordering.isGE)
  | .contains => isWithin b a

/-- A value alone that cannot be found is not true. -/
def Condition.test (scope : Scope) (store : Store) : Condition → Except Reason Bool
  | .holds e =>
    match e.eval scope store with
    | .ok v => .ok v.isTrue
    | .error _ => .ok false
  | .compare c a b => do
    let a ← a.eval scope store
    let b ← b.eval scope store
    c.test a b
  | .both a b => do
    let left ← a.test scope store
    if left then b.test scope store else return false
  | .either a b => do
    let left ← a.test scope store
    if left then return true else b.test scope store

def itemsOf (v : Value) : Except Reason (List Value) :=
  match v with
  | .arr items => .ok items
  | .obj fields => .ok (fields.map fun f => .arr [.str f.1, f.2])
  | .nil | .lack _ => .ok []
  | v => .error (.expected "array" v)

def wholeOf (v : Value) : Except Reason Int :=
  match v.toInt? with
  | some i => .ok i
  | none => .error (.expected "whole number" v)

/-- All whole numbers from one to another. -/
def counting (first last : Int) : List Value :=
  (List.range (last - first + 1).toNat).map fun (i : Nat) => .int (first + i)

def Range.eval (scope : Scope) (store : Store) : Range → Except Reason (List Value)
  | .items e => do
    let v ← e.eval scope store
    itemsOf v
  | .count first last => do
    let first ← (← first.eval scope store) |> wholeOf
    let last ← (← last.eval scope store) |> wholeOf
    return counting first last

/-- A count that is asked for, up to that of all items; a negative one is past them. -/
def countOf (scope : Scope) (store : Store) (items : Nat) (e : Expression) : Except Reason Nat := do
  let i ← (← e.eval scope store) |> wholeOf
  return if i < 0 then items else min i.toNat items

/-- The count that is asked for, if one is. -/
def countOf? (scope : Scope) (store : Store) (items : Nat) :
    Option Expression → Except Reason (Option Nat)
  | none => .ok none
  | some e => (countOf scope store items e).map some

/-- So many items from an offset on; where they run out, nothings fill the row. -/
def stretch (items : List Value) (offset count : Nat) : List Value :=
  let kept := (items.drop offset).take count
  kept ++ List.replicate (count - kept.length) .nil

def Course.items (scope : Scope) (store : Store) (c : Course) : Except Reason (List Value) := do
  let items ← c.range.eval scope store
  let limit ← countOf? scope store items.length c.limit
  let offset := (← countOf? scope store items.length c.offset).getD 0
  let kept := stretch items offset (limit.getD (items.length - offset))
  return if c.reversed then kept.reverse else kept

/-- What a loop tells of itself: its length, where it is, and the loop around it. -/
def loopFields (outer : Value) (count i : Nat) : Fields :=
  [("first", .bool (i = 0)), ("index", .int (i + 1)), ("index0", .int i),
    ("last", .bool (i + 1 = count)), ("length", .int count), ("parentloop", outer),
    ("rindex", .int (count - i : Nat)), ("rindex0", .int (count - i - 1 : Nat))]

/-- One turn after the other, until one leaves the loop. -/
def turns (turn : Fields → Store → Except Reason Rendered) :
    List Fields → Store → Except Reason Rendered
  | [], store => .ok ⟨"", store, .none⟩
  | frame :: rest, store => do
    let r ← turn frame store
    if r.signal = .leave then return ⟨r.text, r.store, .none⟩
    else
      let more ← turns turn rest r.store
      return ⟨r.text ++ more.text, more.store, .none⟩

def frames (outer : Value) (name : String) (items : List Value) : List Fields :=
  items.mapIdx fun i v => [(name, v), ("forloop", .obj (loopFields outer items.length i))]

/-- The values that a template's variables get from a custom tag. -/
def setAll (store : Store) : Arguments → Except Reason Store
  | [] => .ok store
  | (name, v) :: rest => do
    let v ← accepted v
    setAll (store.set name v) rest

def runTag (scope : Scope) (store : Store) (name : String) (given : List (String × Expression)) :
    Except Reason Store := do
  let named ← evalNamed scope store given
  match scope.extensions.tags.lookup name with
  | some f => do
    let set ← (f named).mapError (.tagRefused name)
    setAll store set
  | none => return store

def counterOf (store : Store) (name : String) : Int :=
  ((store.counters.lookup name).bind Value.toInt?).getD 0

def Store.count (s : Store) (name : String) (i : Int) : Store :=
  { s with counters := Json.insertField name (.int i) s.counters }

/-- The next value of a cycle; groups of one name take turns together. -/
def nextOf (scope : Scope) (store : Store) (group : String) (values : List Expression) :
    Except Reason (Value × Store) := do
  let i := (store.cycles.lookup group).getD 0
  let cycles := Json.insertField group ((i + 1) % values.length) store.cycles
  let store := { store with cycles := cycles }
  match values[i]? with
  | some e => return (← e.eval scope store, store)
  | none => throw .cycleEnds

/-- The first case with a value that equals the target. -/
def caseHolds (scope : Scope) (store : Store) (target : Value) :
    List Expression → Except Reason Bool
  | [] => .ok false
  | e :: rest => do
    let v ← e.eval scope store
    if v.same target then return true else caseHolds scope store target rest

/-- No template can be embedded, so only what is looked at before it decides. -/
def embedded (scope : Scope) (store : Store) (tag : String) (name : Expression)
    (range : Option Range) (values : List Expression) : Except Reason Rendered := do
  let v ← name.eval scope store
  if !v.isScalar then throw (.embedsOther tag)
  if let some range := range then
    let _ ← range.eval scope store
  let _ ← (evalAll scope store values).mapError fun _ => .lostValue
  throw .noEmbedded

mutual

def renderNode (scope : Scope) (store : Store) : Node → Except Reason Rendered
  | .text s => .ok ⟨s, store, .none⟩
  | .output c => do
    let v ← c.eval scope store
    return ⟨v.printed, store, .none⟩
  | .custom name given => do
    let store ← runTag scope store name given
    return ⟨"", store, .none⟩
  | .assign name c => do
    let v ← c.eval scope store
    return ⟨"", store.set name v, .none⟩
  | .capture name body => do
    let r ← renderNodes scope store body
    return ⟨"", r.store.set name (.str r.text), r.signal⟩
  | .branch c body otherwise => do
    let holds ← c.test scope store
    if holds then renderNodes scope store body else renderNodes scope store otherwise
  | .select target cases otherwise => do
    let v ← target.eval scope store
    match ← renderCases scope store v cases with
    | some r => return r
    | none => renderNodes scope store otherwise
  | .loop c body otherwise => do
    let items ← c.items scope store
    if items.isEmpty then renderNodes scope store otherwise
    else
      let outer := (scope.root? store "forloop").getD .nil
      turns (fun frame store => renderNodes { scope with loops := frame :: scope.loops } store body)
        (frames outer c.item items) store
  | .increment name =>
    let i := counterOf store name
    .ok ⟨toString i, store.count name (i + 1), .none⟩
  | .decrement name =>
    let i := counterOf store name - 1
    .ok ⟨toString i, store.count name i, .none⟩
  | .cycle group values => do
    let (v, store) ← nextOf scope store group values
    return ⟨v.printed, store, .none⟩
  | .embed tag name range values => embedded scope store tag name range values
  | .interrupt ends => .ok ⟨"", store, if ends then .leave else .next⟩

def renderNodes (scope : Scope) (store : Store) : List Node → Except Reason Rendered
  | [] => .ok ⟨"", store, .none⟩
  | n :: rest => do
    let r ← renderNode scope store n
    if r.signal = .none then
      let more ← renderNodes scope r.store rest
      return ⟨r.text ++ more.text, more.store, more.signal⟩
    else return r

def renderCases (scope : Scope) (store : Store) (target : Value) :
    List (List Expression × List Node) → Except Reason (Option Rendered)
  | [] => .ok none
  | (values, body) :: rest => do
    let holds ← caseHolds scope store target values
    if holds then
      let r ← renderNodes scope store body
      return some r
    else renderCases scope store target rest

end

/-- The data of a template: an object without numbers that are too large. -/
def dataFields : Json → Except Reason Fields
  | .obj fields =>
    match Value.ofFields? fields with
    | some fields => .ok fields
    | none => .error .numberTooLarge
  | .arr _ => .error .rootList
  | _ => .error .rootScalar

def render (t : Template) (data : Json) : Except Reason String := do
  let fields ← dataFields data
  let r ← renderNodes ⟨t.extensions, [], fields⟩ .empty t.nodes
  return r.text

end Placard.Liquid

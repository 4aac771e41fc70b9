import Placard.Handlebars.Failure
import Placard.Json.Value

/-! What paths are looked up in: the blocks around a place, innermost first, and the whole data. -/
namespace Placard.Handlebars

structure Block where
  base : Json
  /-- The counters of the loop around. -/
  counters : List (String × Json)
  /-- Values that the block's binders name. -/
  bound : List (String × Json)

structure Scope where
  root : Json
  blocks : List Block

def Scope.ofData (data : Json) : Scope := ⟨data, [⟨data, [], []⟩]⟩

def Scope.push (s : Scope) (b : Block) : Scope := { s with blocks := b :: s.blocks }

def Scope.counters (s : Scope) : List (String × Json) :=
  (s.blocks.head?.map Block.counters).getD []

def index? (step : String) : Option Nat :=
  let digits := (Text.after? ['+'] step.toList).getD step.toList
  if digits ≠ [] ∧ digits.all Char.isDigit then
    let n := digits.foldl (fun n c => n * 10 + (c.toNat - 48)) 0
    if n < Nat.pow 2 64 then some n else none
  else none

/-- One step into a value. -/
def stepInto (step : String) : Json → Except Reason (Option Json)
  | .arr items =>
    match index? step with
    | some i => .ok items[i]?
    | none => .error (.badIndex step)
  | v => .ok (v.field? step)

def follow : List String → Json → Except Reason (Option Json)
  | [], v => .ok (some v)
  | step :: steps, v =>
    match stepInto step v with
    | .ok (some next) => follow steps next
    | .ok none => .ok none
    | .error e => .error e

/-- The value of a binder, of the innermost block that has it. -/
def Scope.bound? (s : Scope) (name : String) : Option Json :=
  s.blocks.findSome? fun b => b.bound.lookup name

/-- The block so far out, or the innermost one where there are not so many. -/
def Scope.base (s : Scope) (outward : Nat) : Json :=
  match (s.blocks[outward]?).or s.blocks.head? with
  | some b => b.base
  | none => s.root

def Scope.find (s : Scope) (p : Path) : Except Reason (Option Json) :=
  match p.start with
  | .variable outward name => .ok ((s.blocks[outward]?).bind fun b => b.counters.lookup name)
  | .root => follow p.steps s.root
  | .block outward =>
    match p.steps with
    | [] => .ok (some (s.base outward))
    | first :: rest =>
      match s.bound? first with
      | some v => follow rest v
      | none => follow p.steps (s.base outward)

def printed : Json → String
  | .str s => s
  | .null => ""
  | .arr items => "[" ++ printedItems items ++ "]"
  | .obj _ => "[object]"
  | v => v.compact
where
  printedItems : List Json → String
    | [] => ""
    | [v] => printed v
    | v :: rest => printed v ++ ", " ++ printedItems rest

/-- Zero counts as false unless `zeroIsTrue`, and so does all that is empty. -/
def isTrue (zeroIsTrue : Bool) : Json → Bool
  | .null => false
  | .bool b => b
  | .int i => zeroIsTrue || i ≠ 0
  | .float d => if zeroIsTrue then !d.isNaN else d.isNormal
  | .str s => s ≠ ""
  | .arr items => !items.isEmpty
  | .obj fields => !fields.isEmpty

end Placard.Handlebars

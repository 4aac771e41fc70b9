import Placard.Liquid.Element
import Placard.Liquid.Filter
import Placard.Extension

/-! A compiled Liquid template: its nodes, and the extensions that were registered when it was
compiled. A filter or tag that nobody knows then does not compile. -/
namespace Placard.Liquid

structure Extensions where
  filters : List (String × Helper)
  tags : List (String × TagFunction)

def Extensions.none : Extensions := ⟨[], []⟩

inductive Comparison where
  | eq | ne | lt | gt | le | ge | contains
  deriving DecidableEq, Repr

inductive Condition where
  | holds (e : Expression)
  | compare (c : Comparison) (a b : Expression)
  | both (a b : Condition)
  | either (a b : Condition)

inductive Range where
  | items (e : Expression)
  | count (first last : Expression)

structure Course where
  item : String
  range : Range
  limit : Option Expression
  offset : Option Expression
  reversed : Bool

inductive Node where
  | text (s : String)
  | output (c : Chain)
  | custom (name : String) (arguments : List (String × Expression))
  | assign (name : String) (c : Chain)
  | capture (name : String) (body : List Node)
  | branch (c : Condition) (body otherwise : List Node)
  | select (target : Expression) (cases : List (List Expression × List Node))
      (otherwise : List Node)
  | loop (c : Course) (body otherwise : List Node)
  | increment (name : String)
  | decrement (name : String)
  | cycle (group : String) (values : List Expression)
  /-- The template of a name, once for each item of the range if there is one, with values. -/
  | embed (tag : String) (name : Expression) (range : Option Range) (values : List Expression)
  /-- Ends the loop around it, or only this turn of it. -/
  | interrupt (ends : Bool)

structure Template where
  extensions : Extensions
  nodes : List Node

/-- A registered filter takes named arguments only, a standard one no named ones. -/
def FilterCall.known (x : Extensions) (f : FilterCall) : Bool :=
  match x.filters.lookup f.name with
  | some _ => f.placed.isEmpty
  | none =>
    match standardFilter? f.name with
    | some standard => f.named.isEmpty && standard.signature.accepts f.placed.length
    | none => false

def Chain.known? (x : Extensions) (c : Chain) : Option Chain :=
  if c.filters.all (FilterCall.known x) then some c else none

def comparison? : Token → Option Comparison
  | .mark "==" => some .eq
  | .mark "!=" => some .ne
  | .mark "<>" => some .ne
  | .mark "<" => some .lt
  | .mark ">" => some .gt
  | .mark "<=" => some .le
  | .mark ">=" => some .ge
  | t => if t.isWord "contains" then some .contains else none

def atom? : List Token → Option (Condition × List Token)
  | [] => none
  | t :: rest => do
    let a ← t.value?
    match rest with
    | [] => return (.holds a, [])
    | op :: after =>
      match comparison? op, after with
      | none, _ => return (.holds a, rest)
      | some _, [] => none
      | some c, u :: after =>
        let b ← u.value?
        return (.compare c a b, after)

theorem atom?_shorter {ts rest : List Token} {c : Condition} (h : atom? ts = some (c, rest)) :
    rest.length < ts.length := by
  unfold atom? at h
  split at h
  · cases h
  · rename_i t rest'
    cases hv : t.value? with
    | none => simp [hv] at h
    | some a =>
      simp only [hv, Option.bind_eq_bind, Option.bind_some] at h
      split at h
      · simp_all
      · rename_i op after
        split at h
        · simp_all
        · simp at h
        · rename_i u after' _
          cases hu : u.value? with
          | none => simp [hu] at h
          | some b => simp [hu] at h; simp [← h.2]; omega

/-- Comparisons joined by `and`. -/
def conjunction? (a : Condition) (ts : List Token) : Option (Condition × List Token) :=
  match ts with
  | [] => some (a, [])
  | t :: rest =>
    if t.isWord "and" then
      match _h : atom? rest with
      | none => none
      | some (b, rest) => conjunction? (.both a b) rest
    else some (a, t :: rest)
termination_by ts.length
decreasing_by have := atom?_shorter _h; simp; omega

def conjunctions? (ts : List Token) : Option (Condition × List Token) :=
  (atom? ts).bind fun r => conjunction? r.1 r.2

/-- Conjunctions joined by `or`; nothing else may follow. -/
def disjunction? : Nat → Condition → List Token → Option Condition
  | _, a, [] => some a
  | 0, _, _ :: _ => none
  | fuel + 1, a, t :: rest =>
    if t.isWord "or" then
      (conjunctions? rest).bind fun r => disjunction? fuel (.either a r.1) r.2
    else none

def condition? (ts : List Token) : Option Condition :=
  (conjunctions? ts).bind fun r => disjunction? r.2.length r.1 r.2

/-- Values of a case, each after `or` or a comma. -/
def alternatives? : List Token → Option (List Expression)
  | [] => none
  | [t] => t.value?.map ([·])
  | t :: separator :: rest =>
    if separator.isWord "or" || separator.isMark "," then do
      let e ← t.value?
      let es ← alternatives? rest
      return e :: es
    else none

/-- The settings of a loop, in any order; of two alike the later counts. -/
def courseSettings? (c : Course) : List Token → Option Course
  | [] => some c
  | t :: rest =>
    if t.isWord "reversed" then courseSettings? { c with reversed := true } rest
    else
      match rest with
      | colon :: value :: rest =>
        if colon.isMark ":" then
          if t.isWord "limit" then do
            courseSettings? { c with limit := some (← value.value?) } rest
          else if t.isWord "offset" then do
            courseSettings? { c with offset := some (← value.value?) } rest
          else none
        else none
      | _ => none

def rangeOf? : Token → Option Range
  | .range a b => some (.count a b)
  | t => t.value?.map .items

def course? : List Token → Option Course
  | name :: preposition :: range :: rest =>
    if preposition.isWord "in" then do
      let name ← name.word?
      let range ← rangeOf? range
      courseSettings? ⟨name, range, none, none, false⟩ rest
    else none
  | _ => none

/-- Arguments of a custom tag: names, each with `=` and a value. -/
def assignments? : List Token → Option (List (String × Expression))
  | [] => some []
  | name :: equals :: value :: rest =>
    if equals.isMark "=" then do
      let name ← name.word?
      let value ← value.value?
      let more ← assignments? rest
      return (name, value) :: more
    else none
  | _ => none

def assign? (x : Extensions) : List Token → Option Node
  | [name, equals, .chain c] =>
    if equals.isMark "=" then do
      let name ← name.word?
      let c ← c.known? x
      return .assign name c
    else none
  | _ => none

/-- As a cycle's values name it when nothing else does. -/
def Expression.label : Expression → String
  | .literal (.str s) => "\"" ++ s ++ "\""
  | .literal v => v.printed
  | .variable name steps => name ++ stepLabels steps
where
  stepLabels : List Expression → String
    | [] => ""
    | e :: rest => "[" ++ e.label ++ "]" ++ stepLabels rest

/-- Values of a cycle, each but the last with a comma. -/
def cycleValues? : List Token → Option (List Expression)
  | [] => some []
  | [t] => t.value?.map ([·])
  | t :: comma :: rest =>
    if comma.isMark "," then do
      let e ← t.value?
      let es ← cycleValues? rest
      return e :: es
    else none

/-- A group is named by a word or a literal. -/
def groupName? (t : Token) : Option String :=
  match t.value? with
  | some (.variable name []) => some name
  | some (.literal v) => some v.printed
  | _ => none

def cycle? (ts : List Token) : Option Node :=
  let named (group : String) (values : List Expression) : Node :=
    .cycle (if group = "" then "-".intercalate (values.map Expression.label) else group) values
  match ts with
  | [] => none
  | first :: colon :: rest =>
    if colon.isMark ":" then do
      let group ← groupName? first
      return named group (← cycleValues? rest)
    else (cycleValues? (first :: colon :: rest)).map (named "")
  | rest => (cycleValues? rest).map (named "")

/-- Values handed to an embedded template: names, each with a colon, and commas between. One more
token may stand at the end. -/
def handed? : List Token → Option (List Expression)
  | [] => some []
  | name :: colon :: value :: rest =>
    if name.word?.isSome && colon.isMark ":" then do
      let e ← value.value?
      match rest with
      | [] => return [e]
      | comma :: rest =>
        if comma.isMark "," then return e :: (← handed? rest)
        else if rest.isEmpty then return [e]
        else none
    else none
  | _ => none

def afterComma (ts : List Token) : List Token :=
  match ts with
  | comma :: rest => if comma.isMark "," then rest else ts
  | [] => []

def include? : List Token → Option Node
  | name :: rest => do return .embed "include" (← name.value?) none (← handed? rest)
  | [] => none

/-- An embedding with a scope of its own, into which one value goes under a name, or each item of a
range. -/
def render? : List Token → Option Node
  | name :: how :: value :: as :: item :: rest =>
    if (how.isWord "with" || how.isWord "for") && as.isWord "as" then do
      let name ← name.value?
      let _ ← item.word?
      let values ← handed? (afterComma rest)
      if how.isWord "with" then return .embed "render" name none ((← value.value?) :: values)
      else return .embed "render" name (some (← rangeOf? value)) values
    else plain (name :: how :: value :: as :: item :: rest)
  | ts => plain ts
where
  plain : List Token → Option Node
    | name :: rest => do
      return .embed "render" (← name.value?) none (← handed? (afterComma rest))
    | [] => none

def nameAlone? : List Token → Option String
  | [t] => t.word?
  | _ => none

def valueAlone? : List Token → Option Expression
  | [t] => t.value?
  | _ => none

def simpleTag? (x : Extensions) (name : String) (ts : List Token) : Option Node :=
  match name with
  | "assign" => assign? x ts
  | "increment" => (nameAlone? ts).map .increment
  | "decrement" => (nameAlone? ts).map .decrement
  | "cycle" => cycle? ts
  | "include" => include? ts
  | "render" => render? ts
  | "break" => if ts.isEmpty then some (.interrupt true) else none
  | "continue" => if ts.isEmpty then some (.interrupt false) else none
  | _ => none

def plainNode? (x : Extensions) (e : Element) (source : List Char) : Option Node :=
  match e with
  | .text => some (.text (String.ofList source))
  | .output c => (c.known? x).map .output
  | _ => none

/-- What is compiled of a row of elements comes with those that are left after it. Where that fails,
those that are left count still: a comment goes on with them. -/
abbrev Leaving := Except (List Sourced)

/-- What fails without regard to the elements after it. -/
def orLeave (rest : List Sourced) : Option α → Leaving α
  | some a => .ok a
  | none => .error rest

/-- A tag that opened another part of a block, or ended it. -/
inductive Stop where
  | part (name : String) (tokens : List Token)
  | ending

/-- The tag ends the block of a name. With arguments it is no such tag. -/
def endsBlock (block name : String) (ts : List Token) : Bool :=
  name = "end" ++ block && ts.isEmpty

/-- The source up to the end of a raw block. -/
def verbatim : List Sourced → Leaving (List Char × List Sourced)
  | [] => .error []
  | ⟨.tag name ts, source⟩ :: rest =>
    if endsBlock "raw" name ts then .ok ([], rest)
    else (verbatim rest).map fun r => (source ++ r.1, r.2)
  | ⟨_, source⟩ :: rest => (verbatim rest).map fun r => (source ++ r.1, r.2)

mutual

def body (x : Extensions) (block : String) (parts : List String) :
    Nat → List Sourced → Leaving ((List Node × Stop) × List Sourced)
  | 0, rest => .error rest
  | _ + 1, [] => .error []
  | fuel + 1, ⟨e, source⟩ :: rest =>
    match e with
    | .tag name ts =>
      if endsBlock block name ts then .ok (([], .ending), rest)
      else if parts.contains name then .ok (([], .part name ts), rest)
      else do
        let (n, rest) ← tagNode x fuel name ts rest
        let ((nodes, stop), rest) ← body x block parts fuel rest
        return ((n.toList ++ nodes, stop), rest)
    | e => do
      let n ← orLeave rest (plainNode? x e source)
      let ((nodes, stop), rest) ← body x block parts fuel rest
      return ((n :: nodes, stop), rest)

/-- A tag with its block, if it opens one. A comment gives no node. -/
def tagNode (x : Extensions) :
    Nat → String → List Token → List Sourced → Leaving (Option Node × List Sourced)
  | 0, _, _, rest => .error rest
  | fuel + 1, name, ts, rest =>
    if (x.tags.lookup name).isSome then do
      let given ← orLeave rest (assignments? ts)
      return (some (.custom name given), rest)
    else
      match simpleTag? x name ts with
      | some n => .ok (some n, rest)
      | none => blockNode x fuel name ts rest

/-- All blocks of the language but `tablerow` and `ifchanged`, which count as unknown here. -/
def blockNode (x : Extensions) :
    Nat → String → List Token → List Sourced → Leaving (Option Node × List Sourced)
  | 0, _, _, rest => .error rest
  | fuel + 1, name, ts, rest =>
    match name with
    | "raw" =>
      if ts.isEmpty then (verbatim rest).map fun r => (some (.text (String.ofList r.1)), r.2)
      else .error rest
    | "comment" =>
      if ts.isEmpty then (comment x fuel rest).map fun rest => (none, rest) else .error rest
    | "if" => (branch x fuel ts rest).map fun r => (some r.1, r.2)
    | "unless" => do
      let c ← orLeave rest (condition? ts)
      let ((nodes, stop), rest) ← body x "unless" ["else"] fuel rest
      let (otherwise, rest) ← otherwise x "unless" fuel stop rest
      return (some (.branch c otherwise nodes), rest)
    | "case" => do
      let target ← orLeave rest (valueAlone? ts)
      let ((_, stop), rest) ← body x "case" ["when", "else"] fuel rest
      let ((cases, otherwise), rest) ← cases x fuel stop rest
      return (some (.select target cases otherwise), rest)
    | "for" => do
      let c ← orLeave rest (course? ts)
      let ((nodes, stop), rest) ← body x "for" ["else"] fuel rest
      let (otherwise, rest) ← otherwise x "for" fuel stop rest
      return (some (.loop c nodes otherwise), rest)
    | "capture" => do
      let name ← orLeave rest (nameAlone? ts)
      let ((nodes, _), rest) ← body x "capture" [] fuel rest
      return (some (.capture name nodes), rest)
    | _ => .error rest

/-- A condition with its body and what follows where it does not hold. -/
def branch (x : Extensions) : Nat → List Token → List Sourced → Leaving (Node × List Sourced)
  | 0, _, rest => .error rest
  | fuel + 1, ts, rest => do
    let c ← orLeave rest (condition? ts)
    let ((nodes, stop), rest) ← body x "if" ["elsif", "else"] fuel rest
    match stop with
    | .part "elsif" ts =>
      let (n, rest) ← branch x fuel ts rest
      return (.branch c nodes [n], rest)
    | stop =>
      let (otherwise, rest) ← otherwise x "if" fuel stop rest
      return (.branch c nodes otherwise, rest)

/-- The other branch, unless the block has ended. What stands after its word does not matter. -/
def otherwise (x : Extensions) (block : String) :
    Nat → Stop → List Sourced → Leaving (List Node × List Sourced)
  | 0, _, rest => .error rest
  | _ + 1, .ending, rest => .ok ([], rest)
  | fuel + 1, .part _ _, rest => do
    let ((nodes, _), rest) ← body x block [] fuel rest
    return (nodes, rest)

def cases (x : Extensions) :
    Nat → Stop → List Sourced →
      Leaving ((List (List Expression × List Node) × List Node) × List Sourced)
  | 0, _, rest => .error rest
  | fuel + 1, .part "when" ts, rest => do
    let values ← orLeave rest (alternatives? ts)
    let ((nodes, stop), rest) ← body x "case" ["when", "else"] fuel rest
    let ((more, otherwise), rest) ← cases x fuel stop rest
    return (((values, nodes) :: more, otherwise), rest)
  | fuel + 1, stop, rest => do
    let (nodes, rest) ← otherwise x "case" fuel stop rest
    return (([], nodes), rest)

/-- The tags within a comment are read, so that one in a raw block does not end it, but they need
not compile. -/
def comment (x : Extensions) : Nat → List Sourced → Leaving (List Sourced)
  | 0, rest => .error rest
  | _ + 1, [] => .error []
  | fuel + 1, ⟨.tag name ts, _⟩ :: rest =>
    if endsBlock "comment" name ts then .ok rest
    else
      match tagNode x fuel name ts rest with
      | .ok (_, rest) => comment x fuel rest
      | .error rest => comment x fuel rest
  | fuel + 1, _ :: rest => comment x fuel rest

end

/-- The nodes of a whole text. -/
def wholeBody (x : Extensions) (depth : Nat) : Nat → List Sourced → Option (List Node)
  | _, [] => some []
  | 0, _ :: _ => none
  | fuel + 1, ⟨.tag name ts, _⟩ :: rest =>
    match tagNode x depth name ts rest with
    | .ok (n, rest) => (wholeBody x depth fuel rest).map (n.toList ++ ·)
    | .error _ => none
  | fuel + 1, ⟨e, source⟩ :: rest => do
    let n ← plainNode? x e source
    let nodes ← wholeBody x depth fuel rest
    return n :: nodes

def compile? (x : Extensions) (text : String) : Option Template :=
  let es := elements text.toList
  (wholeBody x (5 * es.length + 5) es.length es).map fun nodes => ⟨x, nodes⟩

end Placard.Liquid

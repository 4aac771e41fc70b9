import Placard.Liquid.Expression
import Placard.Text.Cluster
import Placard.Url.Percent

/-! The filters that belong to the language. -/
namespace Placard.Liquid

inductive Reason where
  | unknownVariable
  | unknownIndex
  | badArgument
  | badInput
  | expected (what : String) (found : Value)
  | badIndex (found : Value)
  | cycleEnds
  | lostValue
  | noEmbedded
  | embedsOther (tag : String)
  | filterRefused (name message : String)
  | tagRefused (name message : String)
  | numberTooLarge
  | rootList
  | rootScalar

def Reason.message : Reason → String
  | .unknownVariable => "Unknown variable"
  | .unknownIndex => "Unknown index"
  | .badArgument => "Invalid argument"
  | .badInput => "Invalid input"
  | .expected what found => "Expected " ++ what ++ ", found `" ++ found.kind ++ "`"
  | .badIndex found => "Expected scalar, found `" ++ found.spelled ++ "`"
  | .cycleEnds => "cycle index out of bounds, most likely from mismatched cycles"
  | .lostValue => "failed to evaluate value"
  | .noEmbedded => "Partial does not exist"
  | .embedsOther tag => "Can only `" ++ tag ++ "` strings"
  | .filterRefused name message => "filter '" ++ name ++ "': " ++ message
  | .tagRefused name message => "tag '" ++ name ++ "': " ++ message
  | .numberTooLarge => "Cannot fit number"
  | .rootList => "Object cannot be an array."
  | .rootScalar => "Object cannot be a scalar."

/-- What a filter asks of an argument. -/
inductive Kind where
  | any | text | whole
  deriving DecidableEq, Repr

/-- The arguments of a filter: those it needs and those it may have. -/
structure Signature where
  needed : List Kind
  allowed : List Kind

def Signature.accepts (s : Signature) (count : Nat) : Bool :=
  s.needed.length ≤ count && count ≤ s.needed.length + s.allowed.length

def asWhole (v : Value) : Except Reason Int :=
  match v.toInt? with
  | some i => .ok i
  | none => .error .badArgument

/-- A number as a filter's input. -/
def inputScalar (v : Value) : Except Reason Unit := if v.isScalar then .ok () else .error .badInput

def argumentScalar (v : Value) : Except Reason Unit :=
  if v.isScalar then .ok () else .error .badArgument

/-- Whole numbers wrap around at 64 bits. -/
def wrap (i : Int) : Value := .int (i.bmod (Nat.pow 2 64))

/-- Two numbers: as whole ones if both are, else as floats. -/
def onNumbers (whole : Int → Int → Value) (float : Double → Double → Double)
    (input operand : Value) : Except Reason Value := do
  inputScalar input
  argumentScalar operand
  match input.toInt?, operand.toInt? with
  | some a, some b => return whole a b
  | _, _ =>
    match input.toDouble?, operand.toDouble? with
    | some a, some b => return .float (float a b)
    | _, _ => throw .badArgument

def isZero (v : Value) : Bool :=
  match v.toInt?, v.toDouble? with
  | some i, _ => i = 0
  | none, some d => d.isZero
  | none, none => false

def dividing (whole : Int → Int → Value) (float : Double → Double → Double)
    (input operand : Value) : Except Reason Value := do
  inputScalar input
  argumentScalar operand
  if isZero operand then throw .badArgument
  onNumbers whole float input operand

def floatRemainder (a b : Double) : Double :=
  if !a.isFinite || b.isNaN then ⟨0x7FF8000000000000⟩
  else if !b.isFinite then a
  else a.remainder b

def larger (a b : Double) : Double :=
  if a.isNaN then b else if b.isNaN then a else if a.compare? b = some .lt then b else a

def smaller (a b : Double) : Double :=
  if a.isNaN then b else if b.isNaN then a else if a.compare? b = some .gt then b else a

def absolute (input : Value) : Except Reason Value :=
  match input.toInt?, input.toDouble? with
  | some i, _ => .ok (wrap i.natAbs)
  | none, some d => .ok (.float d.abs)
  | none, none => .error .badInput

def toDouble (input : Value) : Except Reason Double :=
  match input.toDouble? with
  | some d => .ok d
  | none => .error .badInput

def rounded (rounding : Double.Rounding) (input : Value) : Except Reason Value :=
  (toDouble input).map fun d => .int (d.toInt64 rounding)

/-- Ten to a power of 32 bits with a sign. -/
def scaleOf (places : Int) : Double :=
  let exponent := places.bmod (Nat.pow 2 32)
  let scale := (Double.ofNat 10).power exponent.natAbs
  if exponent < 0 then (Double.ofNat 1).div scale else scale

/-- To so many places after the point; without any, to a whole number. -/
def roundedTo (input : Value) (places : Int) : Except Reason Value := do
  let d ← toDouble input
  if places ≤ 0 then return .int (d.toInt64 .nearest)
  else return .float ((d.mul (scaleOf places)).roundWhole.div (scaleOf places))

/-- The parts of a text between separators. The empty separator stands between all characters and at
both ends. -/
def splitOn (separator : List Char) (part : List Char) : List Char → List (List Char)
  | [] => [part.reverse]
  | c :: rest =>
    match Text.after? separator (c :: rest) with
    | some after =>
      if after.length < rest.length + 1 then part.reverse :: splitOn separator [] after
      else splitOn separator (c :: part) rest
    | none => splitOn separator (c :: part) rest
termination_by s => s.length

def parts (separator s : List Char) : List (List Char) :=
  if separator = [] then [] :: s.map ([·]) ++ [[]] else splitOn separator [] s

/-- The first separator divides a text in two. -/
def splitFirst (separator : List Char) : List Char → Option (List Char × List Char)
  | [] => (Text.after? separator []).map ([], ·)
  | c :: rest =>
    match Text.after? separator (c :: rest) with
    | some after => some ([], after)
    | none => (splitFirst separator rest).map fun r => (c :: r.1, r.2)

def joined (separator : List Char) (items : List (List Char)) : List Char :=
  (items.intersperse separator).flatten

def replaceAll (search replacement s : String) : String :=
  String.ofList (joined replacement.toList (parts search.toList s.toList))

def replaceFirst (search replacement s : String) : String :=
  match splitFirst search.toList s.toList with
  | some (before, after) => String.ofList before ++ replacement ++ String.ofList after
  | none => s

def capitalized (s : String) : String :=
  match s.toList with
  | [] => ""
  | c :: rest => String.ofList (Text.upperChar c ++ rest)

def escapedChar (c : Char) : List Char :=
  if c = '<' then "&lt;".toList
  else if c = '>' then "&gt;".toList
  else if c = '\'' then "&#39;".toList
  else if c = '"' then "&quot;".toList
  else if c = '&' then "&amp;".toList
  else [c]

def keptInUrl (c : Char) : Bool := c.isAlphanum || c = '-' || c = '_' || c = '.'

/-- Where a slice starts and how long it is. -/
def sliceBounds (offset length size : Int) : Int × Int :=
  let start := min offset size
  let start := if start < 0 then start + size else start
  (start, if start + length > size then size - start else length)

def sliceOf (offset length : Int) (items : List α) (size : Nat) : List α :=
  let (start, count) := sliceBounds offset length size
  if start < 0 then [] else (items.drop start.toNat).take count.toNat

def slice (input : Value) (offset length : Int) : Except Reason Value :=
  if length < 1 then .error .badArgument
  else
    match input with
    | .arr items => .ok (.arr (sliceOf offset length items items.length))
    | v =>
      let s := v.printed
      .ok (.str (String.ofList (sliceOf offset length s.toList s.utf8ByteSize)))

/-- A text that is too long is cut to whole clusters, so that it fits with the mark after it. -/
def truncated (input : Value) (length : Int) (mark : String) : Value :=
  let s := input.printed
  if 0 ≤ length ∧ length < s.utf8ByteSize then
    let kept := (Text.clusters s.toList).take (length.toNat - mark.utf8ByteSize)
    .str (String.ofList kept.flatten ++ mark)
  else input

def truncatedWords (input : Value) (length : Int) (mark : String) : Value :=
  let words := parts [' '] input.printed.toList
  if 0 ≤ length ∧ length < words.length then
    .str (String.ofList (joined [' '] (words.take length.toNat)) ++ mark)
  else input

def asList : Value → List Value
  | .arr items => items
  | .nil => []
  | v => [v]

def inputList (v : Value) : Except Reason (List Value) :=
  match v with
  | .arr items => .ok items
  | _ => .error .badInput

def fieldsOf? : Value → Option (List (String × Value))
  | .obj fields => some fields
  | _ => none

def Expression.literal? : Expression → Option Value
  | .literal v => some v
  | .variable _ _ => none

def propertySteps? (property : String) : Option (List Value) := do
  let (name, rest) ← name? property.toList
  let inner ← (steps (depthOf rest) rest).1.mapM Expression.literal?
  return .str (String.ofList name) :: inner

def property (name : String) (v : Value) : Value :=
  ((propertySteps? name).bind v.follow?).getD .nil

/-- Nothing comes last; of values without an order neither comes first. -/
def comesBefore (a b : Value) : Bool :=
  if a.isNil then false
  else if b.isNil then true
  else a.order? b == some .lt

def comesBeforeIgnoringCase (a b : Value) : Bool :=
  if a.isNil then false
  else if b.isNil then true
  else Text.lowercased a.printed < Text.lowercased b.printed

/-- Puts an item into a sorted list that stands in reverse: it passes what it comes before. -/
def place (before : Value → Value → Bool) (v : Value) : List Value → List Value
  | [] => [v]
  | last :: rest => if before v last then last :: place before v rest else v :: last :: rest

/-- Takes the items in order. Where some have no order among them, that decides what comes out. -/
def arranged (before : Value → Value → Bool) (items : List Value) : List Value :=
  (items.foldl (fun done v => place before v done) []).reverse

def sorted (before : Value → Value → Bool) (input : Value) (name : Option String) :
    Except Reason Value :=
  let items := asList input
  match name with
  | none => .ok (.arr (arranged before items))
  | some name =>
    if items.all fun v => (fieldsOf? v).isSome then
      .ok (.arr (arranged (fun a b => before (property name a) (property name b)) items))
    else .error .badInput

def distinct (seen : List Value) : List Value → List Value
  | [] => seen.reverse
  | v :: rest => if seen.any (·.same v) then distinct seen rest else distinct (v :: seen) rest

/-- Objects whose property is true, or equals the wanted value. -/
def selected (input : Value) (name : String) (wanted : Option Value) : Except Reason Value :=
  let test (v : Value) : Bool :=
    match (fieldsOf? v).bind fun fields => fields.lookup name with
    | none => false
    | some p =>
      match wanted with
      | none => p.isTrue
      | some w => w.same p
  match input with
  | .arr items =>
    if items.all fun v => (fieldsOf? v).isSome then .ok (.arr (items.filter test)) else .ok .nil
  | .obj fields => .ok (.arr ([Value.obj fields].filter test))
  | _ => .error .badInput

def ends (item : List Value → Option Value) (char : List Char → Option Char) (input : Value) :
    Except Reason Value :=
  match input with
  | .arr items => .ok ((item items).getD .nil)
  | v =>
    if v.isScalar then
      .ok (.str (((char v.printed.toList).map Char.toString).getD ""))
    else .error .badInput

def sizeOfValue : Value → Int
  | .arr items => items.length
  | .obj fields => fields.length
  | v => if v.isScalar then v.printed.utf8ByteSize else 0

structure Filter where
  signature : Signature
  apply : Value → List Value → Except Reason Value

def onText (f : String → String) : Filter :=
  ⟨⟨[], []⟩, fun v _ => .ok (.str (f v.printed))⟩

/-- Nothing stays nothing. -/
def onSomeText (f : List Char → List Char) : Filter :=
  ⟨⟨[], []⟩, fun v _ =>
    if v.isNil then .ok .nil else .ok (.str (String.ofList (f v.printed.toList)))⟩

def withText (f : String → String → String) : Filter :=
  ⟨⟨[.text], []⟩, fun v args => .ok (.str (f v.printed ((args.headD .nil).printed)))⟩

def withOperand (f : Value → Value → Except Reason Value) : Filter :=
  ⟨⟨[.any], []⟩, fun v args => f v (args.headD .nil)⟩

def simple (f : Value → Except Reason Value) : Filter := ⟨⟨[], []⟩, fun v _ => f v⟩

def textAt (args : List Value) (i : Nat) (default : String) : String :=
  (args[i]?.map Value.printed).getD default

def wholeAt (args : List Value) (i : Nat) (default : Int) : Except Reason Int :=
  match args[i]? with
  | some v => asWhole v
  | none => .ok default

def joinFilter : Filter :=
  ⟨⟨[], [.text]⟩, fun v args => (inputList v).map fun items =>
    .str (String.ofList (joined (textAt args 0 " ").toList (items.map (·.printed.toList))))⟩

def splitFilter : Filter :=
  ⟨⟨[.text], []⟩, fun v args =>
    let s := v.printed
    if s = "" then .ok (.arr [])
    else .ok (.arr ((parts (textAt args 0 "").toList s.toList).map fun p =>
      .str (String.ofList p)))⟩

def sortFilter (before : Value → Value → Bool) : Filter :=
  ⟨⟨[], [.text]⟩, fun v args => sorted before v (args.head?.map Value.printed)⟩

/-- All filters of the language but `date`, `url_decode`, `strip_html`, `escape_once`, `compact` and
`concat`, which count as unknown here. -/
def standardFilters : List (String × Filter) :=
  [("upcase", onText Text.uppercased),
    ("downcase", onText Text.lowercased),
    ("capitalize", onText capitalized),
    ("append", withText fun s t => s ++ t),
    ("prepend", withText fun s t => t ++ s),
    ("size", simple fun v => .ok (.int (sizeOfValue v))),
    ("join", joinFilter),
    ("split", splitFilter),
    ("first", simple (ends List.head? List.head?)),
    ("last", simple (ends List.getLast? List.getLast?)),
    ("reverse", simple fun v => (inputList v).map fun items => .arr items.reverse),
    ("strip", onText fun s => String.ofList (Text.trim s.toList)),
    ("lstrip", onText fun s => String.ofList (Text.trimStart s.toList)),
    ("rstrip", onText fun s => String.ofList (Text.trimEnd s.toList)),
    ("replace", ⟨⟨[.text], [.text]⟩, fun v args =>
      .ok (.str (replaceAll (textAt args 0 "") (textAt args 1 "") v.printed))⟩),
    ("replace_first", ⟨⟨[.text], [.text]⟩, fun v args =>
      .ok (.str (replaceFirst (textAt args 0 "") (textAt args 1 "") v.printed))⟩),
    ("remove", withText fun s t => replaceAll t "" s),
    ("remove_first", withText fun s t => replaceFirst t "" s),
    ("plus", withOperand (onNumbers (fun a b => wrap (a + b)) Double.add)),
    ("minus", withOperand (onNumbers (fun a b => wrap (a - b)) Double.sub)),
    ("times", withOperand (onNumbers (fun a b => wrap (a * b)) Double.mul)),
    ("divided_by", withOperand (dividing (fun a b => wrap (a.tdiv b)) Double.div)),
    ("modulo", withOperand (dividing (fun a b => wrap (a.tmod b)) floatRemainder)),
    ("abs", simple absolute),
    ("ceil", simple (rounded .up)),
    ("floor", simple (rounded .down)),
    ("round", ⟨⟨[], [.whole]⟩, fun v args => (wholeAt args 0 0).bind (roundedTo v)⟩),
    ("at_least", withOperand (onNumbers (fun a b => .int (max a b)) larger)),
    ("at_most", withOperand (onNumbers (fun a b => .int (min a b)) smaller)),
    ("default", withOperand fun v d => .ok (if v.isReplaceable then d else v)),
    ("slice", ⟨⟨[.whole], [.whole]⟩, fun v args => do
      slice v (← wholeAt args 0 0) (← wholeAt args 1 1)⟩),
    ("truncate", ⟨⟨[], [.whole, .text]⟩, fun v args =>
      (wholeAt args 0 50).map fun n => truncated v n (textAt args 1 "...")⟩),
    ("truncatewords", ⟨⟨[], [.whole, .text]⟩, fun v args =>
      (wholeAt args 0 50).map fun n => truncatedWords v n (textAt args 1 "...")⟩),
    ("escape", onSomeText fun s => s.flatMap escapedChar),
    ("url_encode", onSomeText (Url.encode keptInUrl)),
    ("map", ⟨⟨[.text], []⟩, fun v args => (inputList v).map fun items =>
      .arr (items.filterMap fun item =>
        (fieldsOf? item).bind fun fields => fields.lookup (textAt args 0 ""))⟩),
    ("sort", sortFilter comesBefore),
    ("sort_natural", sortFilter comesBeforeIgnoringCase),
    ("uniq", simple fun v => (inputList v).map fun items => .arr (distinct [] items)),
    ("where", ⟨⟨[.text], [.any]⟩, fun v args =>
      selected v (textAt args 0 "") args[1]?⟩),
    ("newline_to_br", onText fun s => replaceAll "\n" "<br />\n" s),
    ("strip_newlines", onText fun s =>
      String.ofList (s.toList.filter fun c => c ≠ '\n' ∧ c ≠ '\r'))]

def standardFilter? (name : String) : Option Filter := standardFilters.lookup name

end Placard.Liquid

import Placard.Text.Blank

/-! Paths of a template: where they start and which steps they take from there, and how they are
read. A step is a name or, between brackets, any text. -/
namespace Placard.Handlebars

def isSymbol (c : Char) : Bool :=
  c.isAlphanum || c = '_' || c = '-' || c = ':' || c = '$' || 128 ≤ c.toNat

/-- Where a path starts. Blocks are counted from the innermost one. -/
inductive Start where
  | block (outward : Nat)
  | root
  | variable (outward : Nat) (name : String)
  deriving DecidableEq, Repr

structure Path where
  /-- As it stands in the template. -/
  written : String
  start : Start
  steps : List String
  deriving DecidableEq, Repr

def identifier? (s : List Char) : Option (List Char × List Char) :=
  match s.takeWhile isSymbol with
  | [] => none
  | c :: name => some (c :: name, s.dropWhile isSymbol)

def separator? : List Char → Option (List Char)
  | '.' :: rest => some rest
  | '/' :: rest => some rest
  | _ => none

def step? : List Char → Option (List Char × List Char)
  | '[' :: rest =>
    match rest.dropWhile (· ≠ ']') with
    | _ :: after => some (rest.takeWhile (· ≠ ']'), after)
    | [] => none
  | s => identifier? s

theorem identifier?_shorter {s name rest : List Char} (h : identifier? s = some (name, rest)) :
    rest.length < s.length := by
  unfold identifier? at h
  split at h
  · cases h
  · rename_i c' name' hs
    cases s with
    | nil => simp at hs
    | cons c s =>
      simp only [Option.some.injEq, Prod.mk.injEq] at h
      by_cases hc : isSymbol c = true
      · have hd : (c :: s).dropWhile isSymbol = s.dropWhile isSymbol := by simp [hc]
        rw [← h.2, hd]
        exact Nat.lt_succ_of_le (List.dropWhile_sublist _).length_le
      · simp [hc] at hs

theorem separator?_shorter {s rest : List Char} (h : separator? s = some rest) :
    rest.length < s.length := by
  unfold separator? at h
  split at h <;> simp_all

theorem step?_shorter {s name rest : List Char} (h : step? s = some (name, rest)) :
    rest.length < s.length := by
  unfold step? at h
  split at h
  · rename_i r
    split at h
    · rename_i c after hd
      have hle := (List.dropWhile_sublist (l := r) fun x => decide (x ≠ ']')).length_le
      simp_all
      omega
    · simp at h
  · exact identifier?_shorter h

def moreSteps (s : List Char) : List (List Char) × List Char :=
  match _hs : separator? s with
  | none => ([], s)
  | some next =>
    match _hn : step? next with
    | none => ([], s)
    | some (name, rest) =>
      let more := moreSteps rest
      (name :: more.1, more.2)
termination_by s.length
decreasing_by all_goals exact Nat.lt_trans (step?_shorter _hn) (separator?_shorter _hs)

/-- The way out of blocks: how often, and the rest. -/
def outward : List Char → Nat × List Char
  | '.' :: '.' :: '.' :: rest =>
    let more := outward rest
    (more.1 + 1, more.2)
  | '.' :: '.' :: '/' :: rest =>
    let more := outward rest
    (more.1 + 1, more.2)
  | s => (0, s)

/-- A path may begin by saying that it starts here. -/
def afterHere (s : List Char) : List Char :=
  match s with
  | '.' :: '/' :: rest => rest
  | _ => ((Text.after? ['t', 'h', 'i', 's'] s).bind separator?).getD s

def afterRoot? (s : List Char) : Option (List Char) :=
  (Text.after? ['@', 'r', 'o', 'o', 't'] s).bind separator?

def afterMark? : List Char → Option (List Char)
  | '@' :: rest => some rest
  | _ => none

/-- The step `this` leads nowhere. -/
def realSteps (names : List (List Char)) : List String :=
  (names.map String.ofList).filter (· ≠ "this")

/-- The marks before the first step decide where a path starts. -/
def startOf (root marked : Bool) (out : Nat) (steps : List String) : Start :=
  if root then .root
  else if marked then
    match steps with
    | name :: _ => .variable out name
    | [] => .block 0
  else .block out

def consumed (s rest : List Char) : List Char := s.take (s.length - rest.length)

def path? (s : List Char) : Option (Path × List Char) :=
  let here := afterHere s
  let root := afterRoot? here
  let inside := root.getD here
  let marked := afterMark? inside
  let (out, first) := outward (marked.getD inside)
  match step? first with
  | none => none
  | some (name, next) =>
    let (names, rest) := moreSteps next
    let steps := realSteps (name :: names)
    let start := startOf root.isSome marked.isSome out steps
    some (⟨String.ofList (consumed s rest), start, steps⟩, rest)

end Placard.Handlebars

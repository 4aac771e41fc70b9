import Placard.Config.Value
import Placard.Number.Decimal

/-! The key of a setting: a name, and steps into what it names. A step is a name after a dot or an
index between brackets. -/
namespace Placard.Config

inductive Step where
  | name (s : String)
  | index (i : Int)
  deriving DecidableEq, Repr

structure Key where
  name : String
  steps : List Step
  deriving DecidableEq, Repr

namespace Key

def isNameChar (c : Char) : Bool := c.isAlphanum || c = '_' || c = '-' || c = ' '

def isBlank (c : Char) : Bool := c = ' ' || c = '\t'

/-- A whole number of 64 bits, with an optional minus sign and blanks around it. -/
def index? (s : List Char) : Option Int :=
  let s := ((s.dropWhile isBlank).reverse.dropWhile isBlank).reverse
  match s with
  | '+' :: _ => none
  | s => Double.int64OfText? (String.ofList s)

theorem dropWhile_length_le (p : Char → Bool) (s : List Char) :
    (s.dropWhile p).length ≤ s.length :=
  (List.dropWhile_sublist p).length_le

/-- The steps that a text takes, if it is made of steps. -/
def steps? : List Char → Option (List Step)
  | [] => some []
  | c :: rest =>
    if c = '.' then
      match rest.takeWhile isNameChar with
      | [] => none
      | name => (steps? (rest.dropWhile isNameChar)).map (.name (String.ofList name) :: ·)
    else if c = '[' then
      match _h : rest.dropWhile (· ≠ ']') with
      | [] => none
      | _ :: after => do
        let i ← index? (rest.takeWhile (· ≠ ']'))
        return .index i :: (← steps? after)
    else none
termination_by s => s.length
decreasing_by
  · have := dropWhile_length_le isNameChar rest
    simp; omega
  · have := dropWhile_length_le (· ≠ ']') rest
    simp_all; omega

/-- A text that is no name with steps is a name as a whole. -/
def ofText (s : String) : Key :=
  match s.toList.takeWhile isNameChar, steps? (s.toList.dropWhile isNameChar) with
  | c :: name, some steps => ⟨String.ofList (c :: name), steps⟩
  | _, _ => ⟨s, []⟩

end Key
end Placard.Config

namespace Placard.ConfigValue

/-- Puts a value where a name and steps lead. On the way what is no table or no list, as the step
has it, becomes one. At an index the value replaces what stands there. -/
def putUnder (v : ConfigValue) (name : String) (into : ConfigValue) :
    List Config.Step → ConfigValue
  | [] => into.put name v
  | steps => into.withField name (within steps ((into.fields.lookup name).getD unset))
where
  within : List Config.Step → ConfigValue → ConfigValue
    | [], _ => v
    | [.name n], into => into.put n v
    | .name n :: rest, into => into.withField n (within rest ((into.fields.lookup n).getD unset))
    | .index i :: rest, into => into.withItem i (within rest)

/-- Gives a setting its value. -/
def set (config : ConfigValue) (key : String) (v : ConfigValue) : ConfigValue :=
  let key := Config.Key.ofText key
  putUnder v key.name config key.steps

end Placard.ConfigValue

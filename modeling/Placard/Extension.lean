import Placard.Json.Value
import Placard.Text.Words

/-! Functions that templates can call. A helper turns a value and named arguments into a value; a
tag turns named arguments into variables. Either may refuse with a message. -/
namespace Placard

/-- Named values in the order of their names, each name once. -/
abbrev Arguments := List (String × Json)

abbrev Helper := Json → Arguments → Except String Json

abbrev TagFunction := Arguments → Except String Arguments

namespace Helper

def onText (name : String) (f : String → String) : Helper := fun value _ =>
  match value with
  | .str s => .ok (.str (f s))
  | _ => .error (name ++ " expects a string")

/-- The value as JSON text. -/
def json : Helper := fun value _ => .ok (.str value.compact)

/-- A missing or empty value gives way to the argument `value`, or to the empty text. -/
def orDefault : Helper := fun value arguments =>
  let substitute := (arguments.lookup "value").getD (.str "")
  match value with
  | .null => .ok substitute
  | .str "" => .ok substitute
  | v => .ok v

/-- The helpers that every engine starts with. -/
def builtin : List (String × Helper) :=
  [("uppercase", onText "uppercase" Text.uppercased),
    ("lowercase", onText "lowercase" Text.lowercased),
    ("snake_case", onText "snake_case" Text.snakeCased),
    ("kebab_case", onText "kebab_case" Text.kebabCased),
    ("json", json),
    ("or_default", orDefault)]

end Helper

/-- A later function of the same name replaces the earlier one. -/
def bind (name : String) (f : α) (table : List (String × α)) : List (String × α) :=
  Json.insertField name f table

end Placard

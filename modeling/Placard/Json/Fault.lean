import Placard.Json.Value

/-! What can be wrong with a JSON text: a cause, and how far the text had been read when it
was noticed. -/
namespace Placard.Json

/-- The kind of value that stands where another one was expected. -/
inductive Found where
  | null
  | bool (b : Bool)
  | int (i : Int)
  | float (d : Double)
  | str (s : String)
  | list
  | map

def Found.message : Found → String
  | .null => "null"
  | .bool b => "boolean `" ++ toString b ++ "`"
  | .int i => "integer `" ++ toString i ++ "`"
  | .float d => "floating point `" ++ d.written Double.documentLayout ++ "`"
  | .str s => "string " ++ Text.quoted s
  | .list => "sequence"
  | .map => "map"

inductive Cause where
  | listEnds | objectEnds | stringEnds | valueEnds
  | colonExpected | listCommaExpected | objectCommaExpected | wordExpected | valueExpected
  | badEscape | badNumber | numberTooLarge | controlCharacter | keyNotString
  | loneSurrogate | surrogateUnpaired | trailingComma | trailingCharacters | tooDeep
  | wrongType (found : Found) (expected : String)
  | wrongLength (length : Nat) (expected : String)
  | missingField (name : String)
  | duplicateField (name : String)
  | unknownVariant (name expected : String)
  | rejected (message : String)

def Cause.message : Cause → String
  | .listEnds => "EOF while parsing a list"
  | .objectEnds => "EOF while parsing an object"
  | .stringEnds => "EOF while parsing a string"
  | .valueEnds => "EOF while parsing a value"
  | .colonExpected => "expected `:`"
  | .listCommaExpected => "expected `,` or `]`"
  | .objectCommaExpected => "expected `,` or `\x7d`"
  | .wordExpected => "expected ident"
  | .valueExpected => "expected value"
  | .badEscape => "invalid escape"
  | .badNumber => "invalid number"
  | .numberTooLarge => "number out of range"
  | .controlCharacter => "control character (\\u0000-\\u001F) found while parsing a string"
  | .keyNotString => "key must be a string"
  | .loneSurrogate => "lone leading surrogate in hex escape"
  | .surrogateUnpaired => "unexpected end of hex escape"
  | .trailingComma => "trailing comma"
  | .trailingCharacters => "trailing characters"
  | .tooDeep => "recursion limit exceeded"
  | .wrongType found expected => "invalid type: " ++ found.message ++ ", expected " ++ expected
  | .wrongLength length expected =>
    "invalid length " ++ toString length ++ ", expected " ++ expected
  | .missingField name => "missing field `" ++ name ++ "`"
  | .duplicateField name => "duplicate field `" ++ name ++ "`"
  | .unknownVariant name expected =>
    "unknown variant `" ++ name ++ "`, expected " ++ expected
  | .rejected message => message

/-- `offset` counts bytes. -/
structure Fault where
  cause : Cause
  offset : Nat

/-- Line and column after `offset` bytes; the column counts bytes since the line began. -/
def place (line column offset : Nat) : List Char → Nat × Nat
  | [] => (line, column)
  | c :: rest =>
    if offset < c.utf8Size then (line, column + offset)
    else if c = '\n' then place (line + 1) 0 (offset - 1) rest
    else place line (column + c.utf8Size) (offset - c.utf8Size) rest

def Fault.message (text : List Char) (f : Fault) : String :=
  let (line, column) := place 1 0 f.offset text
  f.cause.message ++ " at line " ++ toString line ++ " column " ++ toString column

end Placard.Json

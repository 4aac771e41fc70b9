import Placard.Text.Letters
import Placard.Text.MarkTable

/-! A text between double quotes for a message: what cannot be seen is written as an escape. -/
namespace Placard.Text

def hexDigit (n : Nat) : Char := if n < 10 then Char.ofNat (48 + n) else Char.ofNat (87 + n)

/-- Lower-case hexadecimal, at least one digit. -/
def hex (n : Nat) : List Char :=
  if n < 16 then [hexDigit n] else hex (n / 16) ++ [hexDigit (n % 16)]

def isHidden (c : Char) : Bool :=
  let n := c.toNat
  n < 32 || n == 127 ||
    (!isAscii c && (inRuns MarkTable.hidden n || inRuns MarkTable.extending n))

def codeEscape (c : Char) : List Char :=
  '\\' :: 'u' :: '{' :: hex c.toNat ++ ['}']

def quotedChar (c : Char) : List Char :=
  if c = '\x00' then ['\\', '0']
  else if c = '\t' then ['\\', 't']
  else if c = '\r' then ['\\', 'r']
  else if c = '\n' then ['\\', 'n']
  else if c = '"' then ['\\', '"']
  else if c = '\\' then ['\\', '\\']
  else if isHidden c then codeEscape c
  else [c]

def quoted (s : String) : String :=
  String.ofList ('"' :: s.toList.flatMap quotedChar ++ ['"'])

end Placard.Text

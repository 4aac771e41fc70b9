import Placard.Url.Address
import Placard.Url.Domain

/-! The part of a URL that names a machine: an account on it, the host and a port. -/
namespace Placard.Url

inductive Fault where
  | noScheme | emptyHost | badDomain | badHostCharacter | badPort | badAddress | badLongAddress
  deriving DecidableEq, Repr

def Fault.message : Fault → String
  | noScheme => "relative URL without a base"
  | emptyHost => "empty host"
  | badDomain => "invalid international domain name"
  | badHostCharacter => "invalid domain character"
  | badPort => "invalid port number"
  | badAddress => "invalid IPv4 address"
  | badLongAddress => "invalid IPv6 address"

inductive Host where
  | named (name : List Char)
  | addressed (a : Address)
  deriving DecidableEq, Repr

namespace Host

/-- A URL of a scheme that has no machines may leave the host out. -/
def blank : Host := named []

def text : Host → List Char
  | named name => name
  | addressed a => a.text

/-- An address of the long form, in brackets. -/
def readBracketed (s : List Char) : Except Fault Host :=
  if s.getLast? = some ']' then
    match Address.ofLong? (s.drop 1).dropLast with
    | some a => .ok (addressed a)
    | none => .error .badLongAddress
  else .error .badLongAddress

/-- A machine goes by an address or a name in any script; either may be percent-encoded. -/
def readMachine (s : List Char) : Except Fault Host :=
  if s.head? = some '[' then readBracketed s
  else
    match (decoded? s).bind fun name => Domain.ascii? name.toList with
    | some [] => .error .emptyHost
    | some name =>
      if Address.isMeant name then
        match Address.ofHost? name with
        | some a => .ok (addressed a)
        | none => .error .badAddress
      else .ok (named name)
    | none => .error .badDomain

def isForbidden (c : Char) : Bool :=
  c.toNat = 0 || c = '\t' || c = '\n' || c = '\r' || " #/:<>?@[\\]^|".toList.contains c

/-- A host that is no machine is not looked into. -/
def readOpaque (s : List Char) : Except Fault Host :=
  if s.head? = some '[' then readBracketed s
  else if s.any isForbidden then .error .badHostCharacter
  else .ok (named (encode keptInOpaque s))

end Host

/-- A name and a password, as they are written in a URL. A password is not empty. -/
structure Account where
  name : List Char
  password : Option (List Char)
  deriving DecidableEq, Repr

namespace Account

def nobody : Account := ⟨[], none⟩

def read (s : List Char) : Account :=
  let password := (s.dropWhile (· ≠ ':')).drop 1
  ⟨encode keptInUser (s.takeWhile (· ≠ ':')),
    if password = [] then none else some (encode keptInUser password)⟩

/-- An account is written only if there is something to write. -/
def text (a : Account) : List Char :=
  if a = nobody then []
  else
    a.name ++ (match a.password with
      | none => []
      | some password => ':' :: password) ++ ['@']

def credentials? (a : Account) : Option (String × Option String) :=
  match decoded? a.name with
  | none => none
  | some name =>
    match name, a.password.bind decoded? with
    | "", none => none
    | _, password => some (name, password)

end Account

/-- Who is asked at which host and which port. A port that is the usual one is left out. -/
structure Authority where
  account : Account
  host : Host
  port : Option Nat
  deriving DecidableEq, Repr

namespace Authority

/-- The authority of a URL that names nobody and no host. -/
def empty : Authority := ⟨.nobody, .blank, none⟩

def text (a : Authority) : List Char :=
  a.account.text ++ a.host.text ++
    match a.port with
    | none => []
    | some port => ':' :: decimal port

/-- The text up to the last mark and the text after it. -/
def cutLast (mark : Char) (s : List Char) : Option (List Char) × List Char :=
  match s.reverse.dropWhile (· ≠ mark) with
  | [] => (none, s)
  | _ :: front => (some front.reverse, s.drop (front.length + 1))

/-- Host and the text after it, which begins with a colon or is empty. A colon in brackets belongs
to the host. -/
def cutHost (inBrackets : Bool) : List Char → List Char × List Char
  | [] => ([], [])
  | c :: rest =>
    if c = ':' ∧ !inBrackets then ([], c :: rest)
    else (cutHost (c = '[' || (inBrackets && c ≠ ']')) rest).map (c :: ·) id

def readPort (usual : Option Nat) (digits : List Char) : Except Fault (Option Nat) :=
  if digits = [] then .ok none
  else if digits.all Char.isDigit then
    match (numeral? 10 digits).filter (· < Nat.pow 2 16) with
    | some port => .ok (if some port = usual then none else some port)
    | none => .error .badPort
  else .error .badPort

/-- Reads the text between the slashes of a URL. Only a host that is no machine may be empty, and
only if it stands alone. A backslash after a port begins the path, with all that follows it. -/
def read (special : Bool) (usual : Option Nat) (s : List Char) :
    Except Fault (Authority × List Char) := do
  let (account, rest) := cutLast '@' s
  let (host, port) := cutHost false rest
  if host = [] then
    if !special && port = [] && account.all (· = [':']) then return (empty, [])
    else throw .emptyHost
  let host ← if special then Host.readMachine host else Host.readOpaque host
  let port := port.drop 1
  let number ← readPort usual (port.takeWhile (· ≠ '\\'))
  let account := (account.map Account.read).getD .nobody
  return (⟨account, host, number⟩, port.dropWhile (· ≠ '\\'))

end Authority
end Placard.Url

import Placard.Url.Host
import Placard.Url.Path

/-! URLs: reading them from text, which puts them into one normal form, and writing them. -/
namespace Placard

inductive UrlPath where
  /-- Segments, each after a slash. -/
  | steps (segments : List (List Char))
  | text (t : List Char)

structure Url where
  scheme : List Char
  authority : Option Url.Authority
  path : UrlPath
  query : Option (List Char)
  fragment : Option (List Char)

namespace Url

def isControlOrSpace (c : Char) : Bool := c.toNat ≤ 0x20

/-- Blanks and controls at the ends do not count, nor do tabs and line ends anywhere. -/
def cleaned (s : List Char) : List Char :=
  let inner := ((s.dropWhile isControlOrSpace).reverse.dropWhile isControlOrSpace).reverse
  inner.filter fun c => c ≠ '\t' && c ≠ '\n' && c ≠ '\r'

def isSchemeChar (c : Char) : Bool := c.isAlphanum || c = '+' || c = '-' || c = '.'

/-- The scheme and what follows its colon. -/
def cutScheme (s : List Char) : Option (List Char × List Char) :=
  match s.head?, s.dropWhile isSchemeChar with
  | some c, ':' :: rest =>
    if c.isAlpha then some ((s.takeWhile isSchemeChar).map Char.toLower, rest) else none
  | _, _ => none

/-- The text before the first mark and the text after it. -/
def cutFirst (mark : Char) (s : List Char) : List Char × Option (List Char) :=
  match s.dropWhile (· ≠ mark) with
  | [] => (s, none)
  | _ :: rest => (s.takeWhile (· ≠ mark), some rest)

/-- The machine of a file goes without saying if it is the one at hand, and a drive has none. -/
def fileAt (host : Host) (s : List Char) : Authority × UrlPath :=
  let steps := segments "file".toList s
  let unsaid := host = .named "localhost".toList || steps.head?.any isDrive
  (⟨.nobody, if unsaid then .blank else host, none⟩, .steps (withoutEmpty steps))

/-- Authority and path of a file. Its machine stands after two slashes, unless a drive does. -/
def readFile (front : List Char) : Except Fault (Authority × UrlPath) :=
  match front with
  | a :: b :: rest =>
    let host := rest.takeWhile fun c => !isSlash true c
    if !(isSlash true a && isSlash true b) then .ok (fileAt .blank front)
    else if isDrive host then .ok (fileAt .blank rest)
    else if host = [] then .ok (fileAt .blank rest)
    else do
      let host ← Host.readMachine host
      return fileAt host (rest.dropWhile fun c => !isSlash true c)
  | _ => .ok (fileAt .blank front)

/-- Authority and path of the text after the slashes. -/
def readPlace (scheme s : List Char) : Except Fault (Option Authority × UrlPath) := do
  let special := isSpecial scheme
  let (authority, rest) ←
    Authority.read special (usualPort scheme) (s.takeWhile fun c => !isSlash special c)
  let steps := segments scheme (rest ++ s.dropWhile fun c => !isSlash special c)
  return (some authority, .steps steps)

/-- Authority and path of the text after a scheme. A special scheme has an authority after any
number of slashes, any other scheme after two. -/
def readFront (scheme front : List Char) : Except Fault (Option Authority × UrlPath) :=
  if isFile scheme then (readFile front).map fun (authority, path) => (some authority, path)
  else if isSpecial scheme then readPlace scheme (front.dropWhile (isSlash true))
  else
    match front with
    | '/' :: '/' :: rest => readPlace scheme rest
    | '/' :: rest => .ok (none, .steps (segments scheme ('/' :: rest)))
    | rest => .ok (none, .text (encode keptInOpaque rest))

def parse (s : String) : Except Fault Url :=
  match cutScheme (cleaned s.toList) with
  | none => .error .noScheme
  | some (scheme, rest) => do
    let (rest, fragment) := cutFirst '#' rest
    let (front, query) := cutFirst '?' rest
    let (authority, path) ← readFront scheme front
    let kept := if isSpecial scheme then keptInSpecialQuery else keptInQuery
    return ⟨scheme, authority, path, query.map (encode kept), fragment.map (encode keptInFragment)⟩

def hasHost (u : Url) : Bool := u.authority.any (·.host ≠ .blank)

/-- The account that the URL names, and the URL without it. An account whose name spells nothing
stays where it is. -/
def withoutAccount (u : Url) : Option (String × Option String) × Url :=
  match u.authority.bind (·.account.credentials?) with
  | none => (none, u)
  | some credentials =>
    (some credentials,
      { u with authority := u.authority.map fun a => { a with account := .nobody } })

/-- One more field at the end of the query. -/
def withField (u : Url) (name value : String) : Url :=
  let field := encodeForm name.toList ++ '=' :: encodeForm value.toList
  { u with query := match u.query with
    | none => some field
    | some [] => some field
    | some fields => some (fields ++ '&' :: field) }

def pathText (u : Url) : List Char :=
  match u.path with
  | .steps segments => segments.flatMap fun s => '/' :: s
  | .text t => t

def queryText (u : Url) : List Char :=
  match u.query with
  | none => []
  | some q => '?' :: q

/-- What a request asks a machine for. -/
def target (u : Url) : String := String.ofList (u.pathText ++ u.queryText)

/-- Where no authority is written, a dot keeps two slashes at the front of a path from beginning
one. -/
def frontText (u : Url) : List Char :=
  match u.authority, u.path with
  | some a, _ => '/' :: '/' :: a.text
  | none, .steps ([] :: _ :: _) => ['/', '.']
  | none, _ => []

def text (u : Url) : String :=
  String.ofList <| u.scheme ++ ':' :: u.frontText ++ u.pathText ++ u.queryText ++
    match u.fragment with
    | none => []
    | some f => '#' :: f

end Url
end Placard

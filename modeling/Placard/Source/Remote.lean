import Placard.Source.Location
import Placard.Text.Base64
import Placard.Url.Basic

/-! A repository as a source: each path is asked for over HTTP, at the branch of the repository. -/
namespace Placard

/-- A request for the raw contents of a file. -/
structure Request where
  /-- Path and query. -/
  target : String
  authorization : Option String
  deriving DecidableEq, Repr

structure Response where
  status : Nat
  body : String
  deriving DecidableEq, Repr

/-- Sends requests, each of which is answered or fails for a reason. -/
abbrev Network (m : Type → Type) := Request → m (Except String Response)

/-- Why no request can be made. -/
inductive RequestFault where
  | badUrl (f : Url.Fault)
  | badHeader
  | schemeRefused (url : String)

def RequestFault.message : RequestFault → String
  | badUrl f => "builder error: " ++ f.message
  | badHeader => "builder error: failed to parse header value"
  | schemeRefused url => "builder error for url (" ++ url ++ "): URL scheme is not allowed"

namespace Request

def accept : String := "application/vnd.github.raw"

def method : String := "GET"

def line (q : Request) : String := method ++ " " ++ q.target ++ " HTTP/1.1"

/-- A header's value has no controls but tabs. -/
def isHeaderChar (c : Char) : Bool := (c.toNat ≥ 32 && c.toNat ≠ 127) || c = '\t'

def isHeaderBlank (c : Char) : Bool := c = ' ' || c = '\t'

/-- A header's value is sent without the blanks at its ends. -/
def sent (value : String) : String :=
  String.ofList
    ((value.toList.dropWhile isHeaderBlank).reverse.dropWhile isHeaderBlank).reverse

end Request

namespace Repository

def withoutTrailingSlashes (s : List Char) : List Char :=
  (s.reverse.dropWhile (· = '/')).reverse

def contentsUrl (r : Repository) (path : String) : String :=
  String.ofList (withoutTrailingSlashes r.api.toList) ++ "/repos/" ++ r.name ++ "/contents/" ++
    String.ofList (withoutLeadingSlashes path.toList)

/-- The value that proves who asks: the token, or else the account that the URL names. An empty
token proves nothing. -/
def authorization (r : Repository) (account : Option (String × Option String)) : Option String :=
  match r.token, account with
  | some "", none | none, none => none
  | some "", some (name, password) | none, some (name, password) =>
    let pair := name ++ ":" ++ password.getD ""
    some ("Basic " ++ String.ofList (Text.Base64.encode pair.toUTF8.toList))
  | some token, _ => some ("Bearer " ++ token)

def request (r : Repository) (path : String) : Except RequestFault Request := do
  let url ← (Url.parse (r.contentsUrl path)).mapError .badUrl
  if !url.hasHost then throw (.schemeRefused url.text)
  let (account, url) := url.withoutAccount
  let url := url.withField "ref" r.branch
  let authorization := r.authorization account
  if authorization.any fun value => !value.toList.all Request.isHeaderChar then throw .badHeader
  if url.scheme ≠ "http".toList ∧ url.scheme ≠ "https".toList then
    throw (.schemeRefused url.text)
  return ⟨url.target, authorization.map Request.sent⟩

def describe (r : Repository) : String := "remote:" ++ r.name ++ "@" ++ r.branch

end Repository

namespace Response

/-- A body without the mark of its byte order; an answer of no content has none. -/
def text (a : Response) : String :=
  if a.status = 204 then ""
  else
    match a.body.toList with
    | '\uFEFF' :: rest => String.ofList rest
    | _ => a.body

def content (path : String) (a : Response) : Fetched :=
  if 200 ≤ a.status ∧ a.status < 300 then .ok a.text
  else
    match a.status with
    | 404 => .error (.notFound path)
    | 401 => .error (.accessDenied (path ++ " (401 Unauthorized)"))
    | 403 => .error (.accessDenied (path ++ " (403 Forbidden)"))
    | code => .error (.status code path)

end Response

/-- The files of a repository, read over a network. -/
def Source.ofRepository [Monad m] (r : Repository) (send : Network m) : Source m :=
  ⟨fun path =>
    match r.request path with
    | .error f => return .error (.http f.message)
    | .ok q => do
      match ← send q with
      | .error reason => return .error (.http reason)
      | .ok answer => return answer.content path⟩

end Placard

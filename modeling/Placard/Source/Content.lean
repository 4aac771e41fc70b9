/-! Where texts are read from. A source answers each path with a text or with what went wrong. -/
namespace Placard

inductive FetchError where
  | notFound (path : String)
  | accessDenied (path : String)
  | status (code : Nat) (path : String)
  /-- The file system refused. -/
  | io (message : String)
  /-- The request could not be made or answered. -/
  | http (message : String)
  deriving DecidableEq, Repr

inductive FetchErrorKind where
  | notFound | accessDenied | status | io | http
  deriving DecidableEq, Repr

namespace FetchError

def kind : FetchError → FetchErrorKind
  | notFound _ => .notFound
  | accessDenied _ => .accessDenied
  | status _ _ => .status
  | io _ => .io
  | http _ => .http

def message : FetchError → String
  | notFound path => "Not found: " ++ path
  | accessDenied path => "Access denied: " ++ path
  | status code path => "Unexpected status " ++ toString code ++ " fetching " ++ path
  | io message => "IO error: " ++ message
  | http message => "HTTP error: " ++ message

end FetchError

abbrev Fetched := Except FetchError String

/-- A source of texts by path, in the monad of whatever it takes to read them. -/
structure Source (m : Type → Type) where
  fetch : String → m Fetched

/-- When the answers to a row of fetches that are made together are met: for each place of the row a
round. Round 0 is the one in which the fetches are made, one after the other. -/
abbrev Pace := Nat → Nat

namespace Pace

/-- Every answer is met as soon as its fetch is made. -/
def prompt : Pace := fun _ => 0

/-- All fetches are made before an answer is met. -/
def together : Pace := fun _ => 1

/-- The pace of a row without its first fetch. -/
def rest (pace : Pace) : Pace := fun place => pace (place + 1)

@[simp] theorem prompt_apply (place : Nat) : prompt place = 0 := rfl

@[simp] theorem rest_prompt : prompt.rest = prompt := rfl

end Pace

/-- Answers at once, by a fixed table. -/
def Source.ofFunction (f : String → Fetched) : Source Id := ⟨f⟩

/-- Answers by a fixed table and keeps the paths it was asked for, first one first. -/
def Source.recording (f : String → Fetched) : Source (StateM (List String)) :=
  ⟨fun path => do
    modify (· ++ [path])
    return f path⟩

/-- Without the slashes at its front. -/
def withoutLeadingSlashes (path : List Char) : List Char := path.dropWhile (· = '/')

theorem withoutLeadingSlashes_of_head {path : List Char} (first : path.head? ≠ some '/') :
    withoutLeadingSlashes path = path := by
  cases path with
  | nil => rfl
  | cons c rest =>
    have other : c ≠ '/' := fun slash => first (slash ▸ rfl)
    simp [withoutLeadingSlashes, other]

end Placard

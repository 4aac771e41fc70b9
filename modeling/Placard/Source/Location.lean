import Placard.Source.Content

/-! Where a content source is, and where it keeps the templates of a kind. -/
namespace Placard

/-- A branch of a repository behind an interface for contents. -/
structure Repository where
  name : String
  branch : String
  token : Option String
  api : String
  deriving DecidableEq, Repr

inductive Location where
  | folder (root : String)
  /-- The templates stand either at the top of the repository or beside the manifest. -/
  | repository (r : Repository) (besideManifest : Bool)
  deriving DecidableEq, Repr

namespace Location

def isRemote : Location → Bool
  | folder _ => false
  | repository _ _ => true

def parent? (path : List Char) : Option (List Char) :=
  match path.reverse.dropWhile (· ≠ '/') with
  | [] => none
  | _ :: front => some front.reverse

/-- The folder of a kind of templates: beside the manifest or at the top. -/
def templateRoot (location : Location) (folder manifest : String) : String :=
  match location with
  | .folder _ => folder
  | .repository _ false => "/" ++ folder
  | .repository _ true =>
    match parent? (withoutLeadingSlashes manifest.toList) with
    | some front => String.ofList front ++ "/" ++ folder
    | none => folder

end Location
end Placard

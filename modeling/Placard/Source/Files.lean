import Placard.Source.Content

/-! A folder of files, and reading them by path. A path is walked step by step, as a file system
does it: every step but the last has to lead into a folder. -/
namespace Placard

/-- The files below a folder, each by the names that lead to it. An entry without contents stands
for a folder that may be empty. -/
structure Files where
  entries : List (List String × Option ByteArray)

/-- Why a path cannot be read. -/
inductive Obstacle where
  | missing | denied | notFolder | isFolder | longName | zeroByte | notText
  | other (message : String)
  deriving DecidableEq, Repr

def Obstacle.message : Obstacle → String
  | missing => "No such file or directory (os error 2)"
  | denied => "Permission denied (os error 13)"
  | notFolder => "Not a directory (os error 20)"
  | isFolder => "Is a directory (os error 21)"
  | longName => "File name too long (os error 36)"
  | zeroByte => "file name contained an unexpected NUL byte"
  | notText => "stream did not contain valid UTF-8"
  | other message => message

/-- What stands at a path. -/
inductive FileNode where
  | folder
  | file (contents : ByteArray)

namespace Files

def empty : Files := ⟨[]⟩

def steps (path : String) : List String := (path.toList.splitOn '/').map String.ofList

def ofPaths (files : List (String × Option ByteArray)) : Files :=
  ⟨files.map fun f => ((steps f.1).filter (· ≠ ""), f.2)⟩

/-- What stands at the end of names. Above the top there are folders only. -/
def node? (files : Files) (names : List String) : Option FileNode :=
  match files.entries.lookup names with
  | some (some contents) => some (.file contents)
  | some none => some .folder
  | none =>
    if names.all (· = "..") || files.entries.any (fun e => names.isPrefixOf e.1) then some .folder
    else none

/-- The names that lead to the folder above. -/
def above (names : List String) : List String :=
  if names.all (· = "..") then ".." :: names else names.dropLast

def longestName : Nat := 255

/-- Walks on from the node that `names` lead to. -/
def walk (files : Files) (names : List String) (node : FileNode) :
    List String → Except Obstacle FileNode
  | [] => .ok node
  | step :: rest =>
    match node with
    | .file _ => .error .notFolder
    | .folder =>
      if step = "" ∨ step = "." then files.walk names node rest
      else if step = ".." then files.walk (above names) .folder rest
      else if step.utf8ByteSize > longestName then .error .longName
      else
        match files.node? (names ++ [step]) with
        | some next => files.walk (names ++ [step]) next rest
        | none => .error .missing

def longestPath : Nat := 4095

def find (files : Files) (path : String) : Except Obstacle FileNode :=
  if path = "" then .error .missing
  else if path.toList.contains '\x00' then .error .zeroByte
  else if path.utf8ByteSize > longestPath then .error .longName
  else if path.toList.head? = some '/' then Files.empty.walk [] .folder (steps path)
  else files.walk [] .folder (steps path)

def bytes (files : Files) (path : String) : Except Obstacle ByteArray :=
  match files.find path with
  | .ok (.file contents) => .ok contents
  | .ok .folder => .error .isFolder
  | .error o => .error o

/-- The contents of a file as text. -/
def decoded (contents : ByteArray) : Except Obstacle String :=
  match String.fromUTF8? contents with
  | some s => .ok s
  | none => .error .notText

def text (files : Files) (path : String) : Except Obstacle String :=
  (files.bytes path).bind decoded

end Files

namespace Source

/-- A path below a folder; slashes at its front do not make it leave the folder. -/
def below (root path : String) : String :=
  let path := String.ofList (withoutLeadingSlashes path.toList)
  match root.toList.getLast? with
  | none | some '/' => root ++ path
  | some _ => root ++ "/" ++ path

def fileError (path : String) : Obstacle → FetchError
  | .missing => .notFound path
  | .denied => .accessDenied path
  | o => .io o.message

def ofFolder [Monad m] (root : String) (read : String → m (Except Obstacle String)) : Source m :=
  ⟨fun path => do
    let result ← read (below root path)
    return result.mapError (fileError (below root path))⟩

def describeFolder (root : String) : String := "local:" ++ root

end Source
end Placard

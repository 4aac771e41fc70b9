import Placard.Url.Percent

/-! The path of a URL as segments. What a segment means depends on the scheme: a special one knows
two kinds of slashes, and that of files knows drives. -/
namespace Placard.Url

/-- The special schemes with their usual ports. Their hosts are machines, and a backslash in them is
a slash. -/
def specialSchemes : List (String × Option Nat) :=
  [("http", some 80), ("https", some 443), ("ws", some 80), ("wss", some 443), ("ftp", some 21),
    ("file", none)]

def isSpecial (scheme : List Char) : Bool :=
  specialSchemes.any fun s => s.1.toList = scheme

def usualPort (scheme : List Char) : Option Nat :=
  (specialSchemes.lookup (String.ofList scheme)).getD none

/-- A segment with its encoded dots read as dots. -/
def plainDots : List Char → List Char
  | '%' :: '2' :: 'e' :: rest => '.' :: plainDots rest
  | '%' :: '2' :: 'E' :: rest => '.' :: plainDots rest
  | c :: rest => c :: plainDots rest
  | [] => []

def isHere (segment : List Char) : Bool := plainDots segment = ['.']

def isAbove (segment : List Char) : Bool := plainDots segment = ['.', '.']

/-- The name of a drive: a letter and a mark, alone or before a backslash. -/
def namesDrive : List Char → Bool
  | c :: mark :: rest =>
    c.isAlpha && (mark = ':' || mark = '|') && (rest = [] || rest.head? = some '\\')
  | _ => false

def isDrive (segment : List Char) : Bool := segment.length = 2 && namesDrive segment

/-- One step back, which does not leave a drive. -/
def stepBack (done : List (List Char)) : List (List Char) :=
  if done.getLast?.any namesDrive then done else done.dropLast

/-- One more segment. The drive of a file has a colon for its mark. -/
def stepInto (isFile : Bool) (done : List (List Char)) (segment : List Char) : List (List Char) :=
  if isFile && done.isEmpty && isDrive segment then [segment.take 1 ++ [':']]
  else done ++ [encode keptInPath segment]

/-- Walks the segments of a path: one dot stays, two dots take a step back. A path that ends with
such a segment ends with a slash. -/
def resolve (isFile : Bool) (done : List (List Char)) : List (List Char) → List (List Char)
  | [] => done
  | segment :: rest =>
    let next :=
      if isAbove segment then stepBack done
      else if isHere segment then done
      else stepInto isFile done segment
    match rest with
    | [] => if isAbove segment || isHere segment then next ++ [[]] else next
    | more :: others => resolve isFile next (more :: others)

def isFile (scheme : List Char) : Bool := scheme = "file".toList

/-- The segments of the text after an authority. -/
def segments (scheme s : List Char) : List (List Char) :=
  let special := isSpecial scheme
  let s := if special then s.map fun c => if c = '\\' then '/' else c else s
  match s with
  | '/' :: rest => resolve (isFile scheme) [] (rest.splitOn '/')
  | rest => if rest = [] && !special then [] else resolve (isFile scheme) [] (rest.splitOn '/')

def isSlash (special : Bool) (c : Char) : Bool := c = '/' || (special && c = '\\')

/-- The path of a file has no empty segments at its front. -/
def withoutEmpty (steps : List (List Char)) : List (List Char) :=
  match steps.dropWhile (·.isEmpty) with
  | [] => [[]]
  | rest => rest

end Placard.Url

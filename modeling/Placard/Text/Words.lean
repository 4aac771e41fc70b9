import Placard.Text.Letters

/-! Words of an identifier. A word ends at a character that is neither letter nor digit, after a
lower-case letter that a capital follows, and before the last capital of a run that a lower-case
letter follows. -/
namespace Placard.Text

/-- The case of the last cased letter of the word being read, if it has one. -/
inductive Mode where
  | none
  | lower
  | upper
  deriving DecidableEq, Repr

def Mode.after (mode : Mode) (c : Char) : Mode :=
  if isLower c then .lower else if isUpper c then .upper else mode

/-- Words of a run of letters and digits; `word` holds the word being read, last character first. -/
def wordsOfRun (mode : Mode) (word : List Char) : List Char → List (List Char)
  | [] => if word.isEmpty then [] else [word.reverse]
  | [c] => [(c :: word).reverse]
  | c :: next :: rest =>
    let mode' := mode.after c
    if mode' = .lower ∧ isUpper next then
      (c :: word).reverse :: wordsOfRun .none [] (next :: rest)
    else if mode = .upper ∧ isUpper c ∧ isLower next then
      word.reverse :: wordsOfRun .none [c] (next :: rest)
    else wordsOfRun mode' (c :: word) (next :: rest)

def runs (run : List Char) : List Char → List (List Char)
  | [] => [run.reverse]
  | c :: rest => if isAlphanumeric c then runs (c :: run) rest else run.reverse :: runs [] rest

def words (s : List Char) : List (List Char) := (runs [] s).flatMap (wordsOfRun .none [])

def lowerWord : List Char → List Char
  | [] => []
  | [c] => if c = capitalSigma then [finalSigma] else lowerChar c
  | c :: rest => lowerChar c ++ lowerWord rest

def joinWords (separator : Char) (s : List Char) : List Char :=
  (words s).map lowerWord |>.intersperse [separator] |>.flatten

def snakeCased (s : String) : String := String.ofList (joinWords '_' s.toList)
def kebabCased (s : String) : String := String.ofList (joinWords '-' s.toList)

end Placard.Text

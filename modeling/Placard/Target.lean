import Placard.Language

/-! What a template is for: a language, a kind of event, and a client if it makes a card. The key of
a target names its template in the engine, its path the file that holds it. -/
namespace Placard

/-- A head and fields, each after a colon; an absent field is written as the empty one. -/
def joinKey (head : String) (fields : List (Option String)) : String :=
  fields.foldl (fun key field => key ++ ":" ++ field.getD "") head

structure Target where
  language : Language
  source : String
  client : Option Client
  deriving DecidableEq, Repr

namespace Target

def cardKey (language : Language) (source : String) (client : Client) : String :=
  joinKey "card" [some language.name, some source, some client.name]

def eventKey (language : Language) (source : String) : String :=
  joinKey "event" [some language.name, some source]

/-- Without a client the target is an event. -/
def key (t : Target) : String :=
  match t.client with
  | some client => cardKey t.language t.source client
  | none => eventKey t.language t.source

/-- The folder of all templates of the kind. -/
def folder (t : Target) : String :=
  match t.client with
  | some _ => "CardTemplate"
  | none => "EventTemplate"

/-- The path of a template below the root of its kind. -/
def path (t : Target) (root template : String) : String :=
  match t.client with
  | some client => root ++ "/" ++ client.name ++ "/" ++ t.language.name ++ "/" ++ template
  | none => root ++ "/" ++ t.language.name ++ "/" ++ template

def description (t : Target) : String :=
  match t.client with
  | some client =>
    "Template Type: " ++ t.language.name ++ ", Source Type: " ++ t.source ++
      " and Client Type: " ++ client.name
  | none => "Template Type: " ++ t.language.name ++ " and Source Type: " ++ t.source

end Target
end Placard

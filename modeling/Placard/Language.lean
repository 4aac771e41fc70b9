import Placard.Medium
import Placard.Text.Blank
import Placard.Text.Letters

/-! The template languages, the clients that cards are for, and what a language can be extended
with. -/
namespace Placard

inductive Language where
  | handlebars
  | liquid
  deriving DecidableEq, Repr, Inhabited

/-- A messaging client. -/
inductive Client where
  | slack
  | teams
  deriving DecidableEq, Repr, Inhabited

inductive Capability where
  | helpers
  | tags
  deriving DecidableEq, Repr

namespace Language

def all : List Language := [.handlebars, .liquid]

def name : Language → String
  | .handlebars => "handlebars"
  | .liquid => "liquid"

def cases : List (String × Language) :=
  [("HandleBars", .handlebars), ("Handlebars", .handlebars), ("handlebars", .handlebars),
    ("Liquid", .liquid), ("liquid", .liquid)]

def choice : Choice Language where
  name := "TemplateType"
  expected := "one of `HandleBars`, `Handlebars`, `handlebars`, `Liquid`, `liquid`"
  cases := cases

/-- Free spelling: blanks at the ends and case do not matter. -/
def ofText? (s : String) : Option Language :=
  match Text.lowercased (Text.trimmed s) with
  | "handlebars" => some .handlebars
  | "hbs" => some .handlebars
  | "liquid" => some .liquid
  | _ => none

def supports : Language → Capability → Bool
  | _, .helpers => true
  | .handlebars, .tags => false
  | .liquid, .tags => true

end Language

namespace Client

def all : List Client := [.slack, .teams]

def name : Client → String
  | .slack => "slack"
  | .teams => "teams"

def choice : Choice Client where
  name := "ClientType"
  expected := "`slack` or `teams`"
  cases := [("slack", .slack), ("teams", .teams)]

def ofText? (s : String) : Option Client :=
  match Text.lowercased (Text.trimmed s) with
  | "slack" => some .slack
  | "teams" => some .teams
  | "msteams" => some .teams
  | _ => none

end Client

def Capability.all : List Capability := [.helpers, .tags]

def Capability.name : Capability → String
  | .helpers => "custom helpers"
  | .tags => "custom tags"

/-- What is said of a text that names no member of a kind. -/
def unknownName (kind text : String) : String := "unknown " ++ kind ++ ": '" ++ text ++ "'"

end Placard

import Placard.Error

/-! What is counted: renderings by pipeline and outcome, registrations by engine, and failures to
fetch by kind. -/
namespace Placard

inductive Pipeline where
  | card | event
  deriving DecidableEq, Repr

inductive Outcome where
  | success | templateNotFound | engineNotFound | renderError
  deriving DecidableEq, Repr

inductive Counter where
  | renders (p : Pipeline) (o : Outcome)
  /-- One observation of how long a rendering took. -/
  | latency (p : Pipeline)
  | registered (l : Language)
  | overwritten (l : Language)
  | fetchFailures (k : FetchErrorKind)
  deriving DecidableEq, Repr

namespace Pipeline

def all : List Pipeline := [.card, .event]

def name : Pipeline → String
  | card => "card"
  | event => "event"

def ofTarget (t : Target) : Pipeline := if t.client.isSome then .card else .event

end Pipeline

namespace Outcome

def all : List Outcome := [.success, .templateNotFound, .engineNotFound, .renderError]

def name : Outcome → String
  | success => "success"
  | templateNotFound => "template_not_found"
  | engineNotFound => "engine_not_found"
  | renderError => "render_error"

def of : Except TemplateError α → Outcome
  | .ok _ => .success
  | .error e =>
    match e.kind with
    | .templateNotFound => .templateNotFound
    | .engineNotFound => .engineNotFound
    | _ => .renderError

end Outcome

def FetchErrorKind.all : List FetchErrorKind :=
  [.notFound, .accessDenied, .status, .io, .http]

def FetchErrorKind.name : FetchErrorKind → String
  | notFound => "not_found"
  | accessDenied => "access_denied"
  | status => "status"
  | io => "io"
  | http => "http"

namespace Counter

def all : List Counter :=
  (Pipeline.all.flatMap fun p => Counter.latency p :: Outcome.all.map (renders p)) ++
    Language.all.map registered ++ Language.all.map overwritten ++
      FetchErrorKind.all.map fetchFailures

def label (name value : String) : String := name ++ "=\"" ++ value ++ "\""

def labelled (name : String) (labels : List String) : String :=
  name ++ "\x7b" ++ ",".intercalate labels ++ "\x7d"

def text : Counter → String
  | renders p o => labelled "renders_total" [label "outcome" o.name, label "pipeline" p.name]
  | latency p => labelled "render_latency_seconds_count" [label "pipeline" p.name]
  | registered l => labelled "templates_registered_total" [label "engine" l.name]
  | overwritten l => labelled "templates_overwritten_total" [label "engine" l.name]
  | fetchFailures k => labelled "fetch_failures_total" [label "kind" k.name]

end Counter

/-- All that has been counted so far. -/
abbrev Tally := List Counter

end Placard

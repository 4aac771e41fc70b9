import Placard.Setup

/-! What a run is to do: where the templates are, what to render, and how to go about it. Each group
of settings has a shape, by which it is read from any medium, and values for what is not set. -/
namespace Placard

inductive SourceMode where
  | folder | repository
  deriving DecidableEq, Repr

structure SourceSettings where
  mode : SourceMode
  root : String
  repository : Option String
  branch : String
  token : Option String
  manifest : String
  besideManifest : Bool
  api : String
  deriving DecidableEq, Repr

/-- The one rendering that a run asks for. -/
structure RenderRequest where
  target : Target
  /-- The data as JSON text. -/
  data : String
  deriving DecidableEq, Repr

structure EngineSettings where
  enabled : List Language
  strict : Bool
  deriving DecidableEq, Repr

structure SetupSettings where
  duplicates : DuplicatePolicy
  /-- Only the entries for the requested target are set up. -/
  onlyRequested : Bool
  deriving DecidableEq, Repr

structure Settings where
  source : SourceSettings
  render : RenderRequest
  engines : EngineSettings
  setup : SetupSettings
  deriving DecidableEq, Repr

/-- A text without the blanks at its ends, unless nothing is left of it. -/
def filled? (s : String) : Option String :=
  match Text.trimmed s with
  | "" => none
  | t => some t

/-- A text that may be left empty. -/
def readFilled [Medium V E] (v : V) : Except E (Option String) :=
  (Medium.ifPresent Medium.text v).map (·.bind filled?)

/-- A client in free spelling, or none. -/
def readClient [Medium V E] (v : V) : Except E (Option Client) := do
  match ← readFilled v with
  | none => return none
  | some s =>
    match Client.ofText? s with
    | some c => return some c
    | none => throw (Medium.reject V (unknownName "client type" s))

namespace SourceMode

def name : SourceMode → String
  | folder => "local"
  | repository => "remote"

def choice : Choice SourceMode where
  name := "SourceMode"
  expected := "`local` or `remote`"
  cases := [("local", .folder), ("remote", .repository)]

end SourceMode

namespace SourceSettings

def default : SourceSettings where
  mode := .folder
  root := "."
  repository := none
  branch := "main"
  token := none
  manifest := "TransformerConfig.json"
  besideManifest := false
  api := "https://api.github.com"

def shape [Medium V E] : RecordShape V E SourceSettings where
  name := "SourceConfig"
  start := default
  fields :=
    [.optional "mode" (Medium.choice SourceMode.choice) fun m s => { s with mode := m },
      .optional "root" Medium.text fun t s => { s with root := t },
      .optional "repository" readFilled fun t s => { s with repository := t },
      .optional "branch" Medium.text fun t s => { s with branch := t },
      .optional "access_token" readFilled fun t s => { s with token := t },
      .optional "manifest_path" Medium.text fun t s => { s with manifest := t },
      .optional "same_repository" Medium.flag fun b s => { s with besideManifest := b },
      .optional "api_base" Medium.text fun t s => { s with api := t }]

/-- Where the source is; the mode that needs a repository insists on one. -/
def location (s : SourceSettings) : Except RunError Location :=
  match s.mode with
  | .folder => .ok (.folder s.root)
  | .repository =>
    match s.repository with
    | some name => .ok (.repository ⟨name, s.branch, s.token, s.api⟩ s.besideManifest)
    | none => .error (.invalid "source.repository is required in remote mode")

end SourceSettings

namespace RenderRequest

def blank : RenderRequest := ⟨⟨.handlebars, "", none⟩, "\x7b\x7d"⟩

def shape [Medium V E] : RecordShape V E RenderRequest where
  name := "RenderConfig"
  start := blank
  fields :=
    [.needed "template_type" (Medium.choice Language.choice) fun l r =>
        { r with target := { r.target with language := l } },
      .needed "source_type" Medium.text fun t r =>
        { r with target := { r.target with source := t } },
      .optional "client_type" readClient fun c r =>
        { r with target := { r.target with client := c } },
      .optional "data" Medium.text fun t r => { r with data := t }]

end RenderRequest

namespace EngineSettings

def default : EngineSettings := ⟨Language.all, true⟩

def shape [Medium V E] : RecordShape V E EngineSettings where
  name := "EngineConfig"
  start := default
  fields :=
    [.optional "enabled" (Medium.list (Medium.choice Language.choice)) fun l s =>
        { s with enabled := l },
      .optional "strict_mode" Medium.flag fun b s => { s with strict := b }]

end EngineSettings

namespace SetupSettings

def default : SetupSettings := ⟨.overwrite, true⟩

def shape [Medium V E] : RecordShape V E SetupSettings where
  name := "SetupConfig"
  start := default
  fields :=
    [.optional "duplicate_keys" (Medium.choice DuplicatePolicy.choice) fun p s =>
        { s with duplicates := p },
      .optional "only_requested" Medium.flag fun b s => { s with onlyRequested := b }]

end SetupSettings

namespace Settings

def blank : Settings := ⟨.default, .blank, .default, .default⟩

/-- Only the request has to be there. -/
def shape [Medium V E] : RecordShape V E Settings where
  name := "Settings"
  start := blank
  fields :=
    [.optional "source" (Medium.record SourceSettings.shape) fun x s => { s with source := x },
      .needed "render" (Medium.record RenderRequest.shape) fun x s => { s with render := x },
      .optional "engines" (Medium.record EngineSettings.shape) fun x s => { s with engines := x },
      .optional "setup" (Medium.record SetupSettings.shape) fun x s => { s with setup := x }]

def setupOptions (s : Settings) : SetupOptions :=
  ⟨s.setup.duplicates, if s.setup.onlyRequested then some s.render.target else none⟩

end Settings
end Placard

import Placard.Error
import Placard.Json.Medium
import Placard.Source.Location

/-! The manifest: a list of entries, each a template's file and the target that it is for. -/
namespace Placard

structure Entry where
  target : Target
  template : String
  deriving DecidableEq, Repr

namespace Entry

def blank : Entry := ⟨⟨.handlebars, "", none⟩, ""⟩

/-- The fields of an entry in order; only the client may be missing. -/
def shape [Medium V E] : RecordShape V E Entry where
  name := "ConfigEntry"
  start := blank
  fields :=
    [.needed "TemplateType" (Medium.choice Language.choice) fun l e =>
        { e with target := { e.target with language := l } },
      .needed "SourceType" Medium.text fun s e =>
        { e with target := { e.target with source := s } },
      .needed "TemplateName" Medium.text fun s e => { e with template := s },
      .optional "ClientType" (Medium.ifPresent (Medium.choice Client.choice)) fun c e =>
        { e with target := { e.target with client := c } }]

/-- An entry without a client does not mention one. -/
def toJson (e : Entry) : Json :=
  .object <|
    [("TemplateType", .str e.target.language.name), ("SourceType", .str e.target.source),
      ("TemplateName", .str e.template)] ++
    match e.target.client with
    | some c => [("ClientType", .str c.name)]
    | none => []

/-- The path of an entry's template. -/
def path (location : Location) (manifest : String) (e : Entry) : String :=
  e.target.path (location.templateRoot e.target.folder manifest) e.template

end Entry

namespace Manifest

def parse (text : String) : Except TemplateError (List Entry) :=
  (Json.parseAs (Medium.list (Medium.record Entry.shape)) text).mapError .invalidManifest

def print (entries : List Entry) : String := (Json.arr (entries.map Entry.toJson)).compact

end Manifest
end Placard

import Placard.Proofs.Run.World

/-! Entries that are not requested. Under narrowed setup a run sees of the manifest nothing but the
requested entries: whatever else is listed, it checks, asks for, registers and renders the same. -/
namespace Placard

namespace Setup

/-- What setup comes to, its report aside. -/
def ended (x : Except TemplateError Report × Registry) : Except TemplateError Unit × Registry :=
  (x.1.map fun _ => (),x.2)

end Setup

namespace World

/-- Worlds whose manifests list the same requested entries, with the same texts for them. What else
the manifests list, and what there is to it, does not matter. -/
structure Alike (w w' : World) (settings : Settings) (location : Location) (kept : List Entry) :
    Prop where
  requested : w.requested? settings location = some kept
  requested' : w'.requested? settings location = some kept
  texts : ∀ e ∈ kept, w'.fetch location (e.path location settings.source.manifest) =
    w.fetch location (e.path location settings.source.manifest)

variable {w w' : World} {settings : Settings} {location : Location} {kept : List Entry}

/-- A world with a liquid event, which the manifest lists. Its manifest stands among the templates. -/
def listing (engines manifest : String) : World :=
  ofTexts
    [("./EventTemplate/liquid/m",manifest),
      ("config/default.json","\x7b" ++ engines ++
        "\"source\":\x7b\"manifest_path\":\"EventTemplate/liquid/m\"\x7d," ++
        "\"render\":\x7b\"template_type\":\"liquid\",\"source_type\":\"s\"\x7d\x7d"),
      ("./EventTemplate/liquid/t","1")]
    []

def listed (source template : String) : String :=
  "[\"liquid\",\"" ++ source ++ "\",\"" ++ template ++ "\",null]"

end World
end Placard

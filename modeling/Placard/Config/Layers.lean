import Placard.Config.Key
import Placard.Config.Medium
import Placard.Config.Variables
import Placard.Json.Reader
import Placard.Number.Decimal
import Placard.Settings
import Placard.Source.Files

/-! Where settings come from: what holds by default, a file for every run, a file for the mode of
the run, and the variables of the environment. What each layer sets goes into what the ones before
it make up. -/
namespace Placard

/-- What a run finds around it. -/
structure Surroundings (m : Type → Type) where
  /-- The bytes of a file, by a path from the working directory. -/
  read : String → m (Except Obstacle ByteArray)
  environment : Variables

namespace Config

abbrev Assignments := List (String × ConfigValue)

def assign (config : ConfigValue) (given : Assignments) : ConfigValue :=
  given.foldl (fun config g => config.set g.1 g.2) config

/-- What holds unless a layer says otherwise. -/
def byDefault : Assignments :=
  [("source.mode", .text "local" none),
    ("source.branch", .text "main" none),
    ("source.manifest_path", .text "TransformerConfig.json" none),
    ("engines.strict_mode", .bool true none),
    ("setup.duplicate_keys", .text "overwrite" none)]

def variablePrefix : String := "transformer__"

/-- Each double underscore as a dot. -/
def dotted : List Char → List Char
  | '_' :: '_' :: rest => '.' :: dotted rest
  | c :: rest => c :: dotted rest
  | [] => []

/-- The name of the setting that a variable sets, if it sets one. -/
def settingName? (name : String) : Option String :=
  (Text.after? variablePrefix.toList (Text.lowercased name).toList).map fun rest =>
    String.ofList (dotted rest)

/-- The one setting whose variable holds a list. -/
def listSetting : String := "engines.enabled"

/-- The text of a variable is taken for a flag, else for a number, else for a list with commas where
one is due, else for itself. -/
def variableValue (setting text : String) : ConfigValue :=
  match Text.lowercased text with
  | "true" => .bool true (some .environment)
  | "false" => .bool false (some .environment)
  | _ =>
    match Double.int64OfText? text with
    | some i => .int i (some .environment)
    | none =>
      match Double.ofText? text with
      | some d => .float d (some .environment)
      | none =>
        if setting = listSetting then
          .list ((text.toList.splitOn ',').map fun item =>
            .text (String.ofList item) (some .environment)) (some .environment)
        else .text text (some .environment)

def ofVariables (environment : Variables) : Assignments :=
  environment.filterMap fun (name, text) =>
    (settingName? name).map fun setting => (setting, variableValue setting text)

/-- The steps of a path that lead anywhere. -/
def pathSteps (path : String) : List String :=
  (Files.steps path).filter fun s => s ≠ "" ∧ s ≠ "."

def pathText (steps : List String) : String := "/".intercalate steps

/-- The part of a file's name after its last dot, unless the name has no other. -/
def extension? (name : String) : Option String :=
  match name.toList.reverse.dropWhile (· ≠ '.') with
  | [] => none
  | [_] => none
  | _ => some (String.ofList (name.toList.reverse.takeWhile (· ≠ '.')).reverse)

/-- The path with the extension of a JSON file after its name. -/
def withExtension (steps : List String) : Option (List String) :=
  match steps.getLast? with
  | none => none
  | some ".." => none
  | some name => some (steps.dropLast ++ [name ++ ".json"])

/-- The file of a layer, with its path. A file that has the layer's very name goes first, and is of
use only if it is a JSON file. Files in other formats (TOML, YAML, INI, RON and JSON5), which would
go by their extensions, are not looked for here. -/
def layerFile [Monad m] (read : String → m (Except Obstacle ByteArray)) (name : String) :
    m (Option (String × ByteArray)) := do
  let steps := pathSteps name
  match ← read name with
  | .ok contents =>
    return if steps.getLast?.bind extension? = some "json" then some (pathText steps, contents)
      else none
  | .error _ =>
    match withExtension steps with
    | none => return none
    | some steps =>
      match ← read (pathText steps) with
      | .ok contents => return some (pathText steps, contents)
      | .error _ => return none

/-- The kind of a value that stands for a whole file, in words. -/
def rootKind : Json → String
  | .null => "unit value"
  | .int i => if i < Int.pow 2 63 then "64-bit integer `" ++ toString i ++ "`"
    else "floating point `" ++ (Double.ofInt i).written Double.plainLayout ++ "`"
  | .float d => "floating point `" ++ d.written Double.plainLayout ++ "`"
  | v => (ConfigValue.ofJson .environment v).kind

/-- What a JSON text sets; `path` is that of its file. -/
def ofText (path text : String) : Except String Assignments :=
  let place (message : String) : String := message ++ " in " ++ path
  match Json.parse text with
  | .error message => .error (place message)
  | .ok (.obj fields) =>
    .ok (fields.map fun (name, v) => (name, ConfigValue.ofJson (.file path) v))
  | .ok v =>
    .error (place (ConfigFault.wrongKind (rootKind v) "a map" none (some (.file path))).message)

/-- What a file sets. One that is not well-formed text counts as missing. -/
def layer [Monad m] (read : String → m (Except Obstacle ByteArray)) (name : String) :
    m (Except String Assignments) := do
  match ← layerFile read name with
  | none => return .ok []
  | some (path, contents) =>
    match String.fromUTF8? contents with
    | none => return .ok []
    | some text => return ofText path text

def variableFile : String := ".env"

/-- The variables, with those of the file of variables. That is looked for in the working directory,
and here not in the directories above it. -/
def allVariables [Monad m] (s : Surroundings m) : m Variables := do
  match ← s.read variableFile with
  | .ok contents => return VariableFile.load s.environment contents
  | .error _ => return s.environment

def mode (environment : Variables) : String := (environment.lookup "RUN_MODE").getD "development"

def layerName (mode : String) : String := "config/" ++ mode

/-- The settings that the layers make up. -/
def settingsOf (every forMode : Assignments) (environment : Variables) : Except String Settings :=
  let config := [byDefault, every, forMode, ofVariables environment].foldl assign .empty
  (Medium.record Settings.shape config).mapError ConfigFault.message

end Config

def Settings.load [Monad m] (s : Surroundings m) : m (Except RunError Settings) := do
  let environment ← Config.allVariables s
  match ← Config.layer s.read (Config.layerName "default") with
  | .error message => return .error (.config message)
  | .ok every =>
    match ← Config.layer s.read (Config.layerName (Config.mode environment)) with
    | .error message => return .error (.config message)
    | .ok forMode =>
      return (Config.settingsOf every forMode environment).mapError .config

end Placard

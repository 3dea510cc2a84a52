import PipelineManifest.Error
import PipelineManifest.Files.Path
import PipelineManifest.Json.Parser
import PipelineManifest.Json.Printer
import PipelineManifest.Yaml.Printer
import PipelineManifest.Yaml.Value

/-!
The formats of manifest files. The extension of a file says which one it is written in.
-/

namespace PipelineManifest

inductive ManifestFormat
  /-- JSON with a line for each item and member. -/
  | json
  /-- YAML in blocks. -/
  | yaml
deriving DecidableEq, Repr

namespace ManifestFormat

def name : ManifestFormat → String
  | .json => "json"
  | .yaml => "yaml"

def ofExtension? : String → Option ManifestFormat
  | "json" => some .json
  | "yaml" | "yml" => some .yaml
  | _ => none

/-- The format of the file that a path leads to. -/
def ofPath (path : String) : Except CompileError ManifestFormat :=
  match (Path.ofText path).extension? >>= ofExtension? with
  | some format => .ok format
  | none => .error (.unsupportedFormat path)

def write : ManifestFormat → Json → String
  | .json => Json.documentText
  | .yaml => Yaml.documentText

def readText : ManifestFormat → String → Option Json
  | .json => Json.read
  | .yaml => Yaml.readJson

/-- The document of a file, which must be text. -/
def read (format : ManifestFormat) (contents : ByteArray) : Option Json := do
  format.readText (← String.fromUTF8? contents)

end ManifestFormat

end PipelineManifest

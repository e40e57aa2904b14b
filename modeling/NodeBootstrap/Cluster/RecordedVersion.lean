import NodeBootstrap.Cluster.ConfigMap
import NodeBootstrap.Command.Tools
import NodeBootstrap.Yaml.Read

/-!
# The version that a cluster records

The configuration that a cluster keeps is a document of its own inside a stored object.

* `RecordedVersion.ofDocument`: the version text of such a document;
* `RecordedVersion.read`: the version that an object records.
-/

namespace NodeBootstrap.RecordedVersion

/-- The field of the document that names the version. -/
def field : String := "kubernetesVersion"

/-- The texts of the keys of fields, if each is a text. -/
def keys : List (YamlValue × YamlValue) → Option (List String)
  | [] => some []
  | (.text k, _) :: fs => (keys fs).map (k :: ·)
  | _ => none

/-- The value of the first field with a key. -/
def valueOf (k : String) : List (YamlValue × YamlValue) → Option YamlValue
  | [] => none
  | (.text l, v) :: fs => if l = k then some v else valueOf k fs
  | _ :: fs => valueOf k fs

/-- The version text of a document: that of its one field for it, or its one item. -/
def ofValue : YamlValue → Data.Typed String
  | .record fields =>
    match keys fields, valueOf field fields with
    | some ks, some (.text s) => if ks.count field = 1 then .ok s else .error .mistyped
    | _, _ => .error .mistyped
  | .list [.text s] => .ok s
  | _ => .error .mistyped

/-- The version text of a written document. -/
def ofDocument (document : String) : Data.Typed String :=
  match Yaml.parse document with
  | some v => ofValue v
  | none => .error .malformed

/-- The document that an object holds. -/
def document (m : ConfigMap) : Except Failure String :=
  let place := Kubectl.storedConfig
  match m.entry? place.entry with
  | some d => .ok d
  | none =>
    .error (.validation (.recordMissing (place.nameSpace ++ "/" ++ place.name) place.entry))

/-- The version that an object records. -/
def read (json : String) : Except Failure Version := do
  let m ← ((Json.parse json).bind ConfigMap.ofData).mapError (.unreadable .json)
  let d ← document m
  let text ← (ofDocument d).mapError (.unreadable .yaml)
  Version.read text

end NodeBootstrap.RecordedVersion

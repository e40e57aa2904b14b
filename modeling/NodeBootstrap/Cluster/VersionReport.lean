import NodeBootstrap.Json.Read

/-!
# The versions that a cluster reports

The client answers with a record that names its own version and, when it reaches the server, the
server's.

* `VersionReport.ofData`: the two version texts of an answer;
* `VersionReport.read`: the two versions.
-/

namespace NodeBootstrap

/-- The version texts in an answer of the client. -/
structure VersionReport where
  client : Option String := none
  server : Option String := none
deriving DecidableEq, Repr, Inhabited

/-- The versions of the client and the server. -/
structure ReportedVersions where
  client : Version
  server : Version
deriving DecidableEq, Repr, Inhabited

namespace VersionReport

/-- The version text in a description of a build. -/
def gitVersion (d : Data) : Data.Typed String := do
  let readers := [FieldReader.of "gitVersion" Data.asText fun v _ => some v]
  match ← Data.readStrict readers (α := Option String) none d with
  | some v => return v
  | none => throw .mistyped

/-- The version texts of an answer. -/
def ofData (d : Data) : Data.Typed VersionReport :=
  Data.readStrict
    [FieldReader.of "clientVersion" (Data.asOptional gitVersion) fun v r => { r with client := v },
     FieldReader.of "serverVersion" (Data.asOptional gitVersion) fun v r => { r with server := v }]
    {} d

/-- The versions of an answer that names both. -/
def versions (r : VersionReport) : Except Failure ReportedVersions :=
  match r.client, r.server with
  | none, _ => .error (.validation .clientVersionMissing)
  | some _, none => .error (.validation .serverVersionMissing)
  | some c, some s => do
    let client ← Version.read c
    let server ← Version.read s
    return ⟨client, server⟩

/-- The versions that an answer of the client reports. -/
def read (json : String) : Except Failure ReportedVersions := do
  let r ← ((Json.parse json).bind ofData).mapError (.unreadable .json)
  r.versions

end VersionReport

end NodeBootstrap

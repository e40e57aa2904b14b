import NodeBootstrap.Version.Grammar
import NodeBootstrap.Generation.Basic
import NodeBootstrap.Text.OsText

/-!
# What can go wrong

Every operation fails with a `Failure`, which names the cause and carries what the message needs.

* `OsFault`: what the operating system answers to a call on a path or a program;
* `ConfigFault`, `ValidationFault`: settings that cannot be used;
* `Failure.message`: the one place where causes become words.
-/

namespace NodeBootstrap

/-- What the operating system answers when a call fails. -/
inductive OsFault where
  | notFound
  | denied
  | alreadyExists
  | notDirectory
  | isDirectory
  | nameTooLong
  | notText
  | nulInPath
  | nulInArgument
  | other (words : String)
deriving DecidableEq, Repr

namespace OsFault

/-- The fault in words. -/
def message : OsFault → String
  | notFound => "No such file or directory (os error 2)"
  | denied => "Permission denied (os error 13)"
  | alreadyExists => "File exists (os error 17)"
  | notDirectory => "Not a directory (os error 20)"
  | isDirectory => "Is a directory (os error 21)"
  | nameTooLong => "File name too long (os error 36)"
  | notText => "stream did not contain valid UTF-8"
  | nulInPath => "file name contained an unexpected NUL byte"
  | nulInArgument => "nul byte found in provided data"
  | other words => words

end OsFault

/-- Why an address is not `host` or `host:port`. -/
inductive AddressFault where
  | emptyAddress
  | openBracket
  | missingPort
  | emptyHost
  | badPort
deriving DecidableEq, Repr

namespace AddressFault

/-- The fault in words. -/
def message : AddressFault → String
  | emptyAddress => "empty address"
  | openBracket => "unterminated '['"
  | missingPort => "missing port"
  | emptyHost => "empty host"
  | badPort => "port is not a number in 0-65535"

end AddressFault

/-- A setting that cannot be used at all. -/
inductive ConfigFault where
  | noPackageManagerSet
  | noPackageManagerFound
  | unknownProperty (key : String)
  | notBoolean (key value : String)
  | badAddress (address : String) (fault : AddressFault)
  | unreadableParameters (path : String) (fault : OsFault)
  | badAddonPath (path : OsText)
deriving DecidableEq, Repr

namespace ConfigFault

/-- The fault in words. -/
def message : ConfigFault → String
  | noPackageManagerSet => "no package manager configured for upgrade"
  | noPackageManagerFound => "no supported package manager found (looked for dnf, yum, apt-get)"
  | unknownProperty key => "Unknown dynamic property: " ++ key
  | notBoolean key value => key ++ " expects true or false, got '" ++ value ++ "'"
  | badAddress address fault => "Invalid address '" ++ address ++ "': " ++ fault.message
  | unreadableParameters path fault =>
    "Failed to read parameter file " ++ path ++ ": " ++ fault.message
  | badAddonPath path => "Invalid add-on path: " ++ path.shown

end ConfigFault

/-- A setting or an answer that is well formed but not acceptable. -/
inductive ValidationFault where
  | advertiseAddressMissing
  | badToken (field token : String)
  | joinEndpointMissing
  | joinTokenMissing
  | clientVersionMissing
  | serverVersionMissing
  | recordMissing (object key : String)
  | notConvergent (current target : Version) (step : String)
  | reported (text : String)
deriving DecidableEq, Repr

namespace ValidationFault

/-- The fault in words. -/
def message : ValidationFault → String
  | advertiseAddressMissing => "advertise_address is required"
  | badToken field token =>
    field ++ " '" ++ token ++ "' is not of the form [a-z0-9]\x7b6\x7d.[a-z0-9]\x7b16\x7d"
  | joinEndpointMissing => "join requires join.api_server_endpoint or control_plane_endpoint"
  | joinTokenMissing => "join requires join.token"
  | clientVersionMissing => "kubectl did not report a client version"
  | serverVersionMissing => "kubectl did not report a server version"
  | recordMissing object key => "ConfigMap " ++ object ++ " has no " ++ key ++ " entry"
  | notConvergent current target step =>
    "patch convergence from " ++ current.text ++ " to " ++ target.text ++ " is a " ++ step ++
      " transition"
  | reported text => text

end ValidationFault

/-- The formats that settings and answers are read from. -/
inductive DataFormat where
  | yaml
  | toml
  | json
deriving DecidableEq, Repr

namespace DataFormat

/-- The name of the format. -/
def name : DataFormat → String
  | yaml => "YAML"
  | toml => "TOML"
  | json => "JSON"

end DataFormat

/-- Why a text could not be read in its format. -/
inductive ReadFault where
  | malformed
  | mistyped
deriving DecidableEq, Repr

namespace ReadFault

/-- The fault in words. -/
def message : ReadFault → String
  | malformed => "the text is not well formed"
  | mistyped => "a value is not of the kind its place needs"

end ReadFault

/-- Why a template could not be rendered. -/
inductive TemplateFault where
  | malformed
  | undefinedName
  | unknownName
  | unsupportedOperation
deriving DecidableEq, Repr

namespace TemplateFault

/-- The fault in words. -/
def message : TemplateFault → String
  | malformed => "the template is not well formed"
  | undefinedName => "a value is undefined"
  | unknownName => "a filter, test, function or template is unknown"
  | unsupportedOperation => "an operation does not apply to its values"

end TemplateFault

/-- The cause for which an operation failed. -/
inductive Failure where
  | malformedVersion (input : String) (fault : VersionFault)
  | unsupportedVersion (version : Version)
  | majorUpgrade (current target : Version)
  | downgrade (current target : Version)
  | skewTooLarge (current target : Version) (limit gap : UInt64)
  | invalidTaint (spec : String)
  | template (fault : TemplateFault)
  | command (program : String) (args : List String) (status : Option Int) (output : String)
  | filesystem (path : OsText) (fault : OsFault)
  | config (fault : ConfigFault)
  | validation (fault : ValidationFault)
  | timeout (line limit : String)
  | unreadable (format : DataFormat) (fault : ReadFault)
deriving DecidableEq, Repr

namespace Failure

/-- How a command ended, in words. -/
def statusText : Option Int → String
  | some code => "exit status " ++ toString code
  | none => "no exit status (terminated by signal)"

/-- The cause in words. -/
def message : Failure → String
  | malformedVersion input fault => "Malformed version '" ++ input ++ "': " ++ fault.message
  | unsupportedVersion version =>
    "Unsupported version " ++ version.text ++ ": supported minor versions are " ++
      Generation.supportedText
  | majorUpgrade current target =>
    "Major version upgrade from " ++ current.text ++ " to " ++ target.text ++ " is not supported"
  | downgrade current target =>
    "Downgrade from " ++ current.text ++ " to " ++ target.text ++ " is not supported"
  | skewTooLarge current target limit gap =>
    "Upgrade from " ++ current.text ++ " to " ++ target.text ++ " spans " ++
      Decimal.render gap.toNat ++ " minor versions, the maximum allowed skew is " ++
      Decimal.render limit.toNat
  | invalidTaint spec =>
    "Invalid taint spec '" ++ spec ++ "': expected key=value:effect, key:effect or key-"
  | template fault => "Template render error: " ++ fault.message
  | command program args status output =>
    "Command '" ++ program ++ " " ++ Text.glue " " args ++ "' failed with " ++
      statusText status ++ ":\n" ++ output
  | filesystem path fault => "Filesystem error at " ++ path.shown ++ ": " ++ fault.message
  | config fault => "Configuration error: " ++ fault.message
  | validation fault => "Validation error: " ++ fault.message
  | timeout line limit =>
    "Timeout error: '" ++ line ++ "' did not finish within " ++ limit
  | unreadable format fault => format.name ++ " parse error: " ++ fault.message

/-- Whether the failure is that no host may be upgraded like this. -/
def forbidsUpgrade : Failure → Bool
  | majorUpgrade .. => true
  | downgrade .. => true
  | skewTooLarge .. => true
  | unsupportedVersion .. => true
  | _ => false

end Failure

/-- Reads a version that a failure should name. -/
def Version.read (s : String) : Except Failure Version :=
  (Version.parse s).mapError (.malformedVersion s)

/-- The selection of a version, or a failure that names the supported lines. -/
def Selection.of (v : Version) : Except Failure Selection :=
  match Selection.of? v with
  | some s => .ok s
  | none => .error (.unsupportedVersion v)

end NodeBootstrap

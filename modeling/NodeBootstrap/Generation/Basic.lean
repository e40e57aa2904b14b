import NodeBootstrap.Version.Basic
import NodeBootstrap.Text.Cut

/-!
# Generations of the configuration interface

The node tool reads its configuration in one of three generations; which one it understands
depends on its minor release.

* `Generation`: the generations, with the name each document carries;
* `Generation.lines`: the supported minor lines and the generation of each;
* `Selection`: a version together with its generation and its spelling of the encryption flag.
-/

namespace NodeBootstrap

/-- A generation of the configuration interface. -/
inductive Generation where
  | v1alpha3
  | v1beta1
  | v1beta2
deriving DecidableEq, Repr

namespace Generation

/-- The name that documents of the generation carry. -/
def apiVersion : Generation → String
  | v1alpha3 => "kubeadm.k8s.io/v1alpha3"
  | v1beta1 => "kubeadm.k8s.io/v1beta1"
  | v1beta2 => "kubeadm.k8s.io/v1beta2"

/-- Only the first generation keeps the settings of components as fields of the cluster
document itself. -/
def flatComponents : Generation → Bool
  | v1alpha3 => true
  | _ => false

/-- Only the last generation has a field for the key of uploaded certificates. -/
def certificateKeys : Generation → Bool
  | v1beta2 => true
  | _ => false

/-- The major release that all supported lines belong to. -/
def supportedMajor : UInt64 := 1

/-- The supported minor lines and the generation of each. -/
def lines : List (UInt64 × Generation) :=
  [(12, v1alpha3), (13, v1beta1), (14, v1beta1), (15, v1beta2), (16, v1beta2), (17, v1beta2),
   (18, v1beta2)]

/-- The generation of a minor line. -/
def ofMinor? (minor : UInt64) : Option Generation :=
  (lines.find? fun l => l.1 == minor).map (·.2)

/-- The supported lines in words. -/
def supportedText : String :=
  Text.glue ", " (lines.map fun l =>
    Decimal.render supportedMajor.toNat ++ "." ++ Decimal.render l.1.toNat)

end Generation

/-- A supported version and what follows from it for its documents. -/
structure Selection where
  version : Version
  generation : Generation
  legacyEncryptionFlag : Bool
deriving DecidableEq, Repr

namespace Selection

/-- Releases before this one know only the longer spelling of the encryption flag. -/
def encryptionFlagChange : Version := ⟨1, 13, 0⟩

/-- The argument that names the encryption settings of the API server. -/
def encryptionFlag (s : Selection) : String :=
  if s.legacyEncryptionFlag then "experimental-encryption-provider-config"
  else "encryption-provider-config"

/-- The selection of a supported version. -/
def of? (v : Version) : Option Selection :=
  if v.major = Generation.supportedMajor then
    (Generation.ofMinor? v.minor).map fun g => ⟨v, g, decide (v < encryptionFlagChange)⟩
  else none

end Selection

end NodeBootstrap

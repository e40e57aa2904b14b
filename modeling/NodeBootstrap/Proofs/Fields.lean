import NodeBootstrap.Parameters.Property
import Mathlib.Data.List.Nodup
import Mathlib.Logic.Function.Basic

/-!
# Parameters field by field

Parameters are nothing but the values of their properties: a value for each property makes
parameters, and these have the values again.

* `Parameters.ofValues`, `Property.get_ofValues`: parameters with given values in their fields;
* **`Property.get_set_self`**, **`Property.get_set_of_ne`**: setting a property sets its own field
  and no other;
* `Parameters.ext_get`: parameters with the same fields are the same;
* `Property.key_injective`, `Property.ofKey?_eq_some_iff`: every key is the key of one property.
-/

namespace NodeBootstrap

namespace Parameters

/-- The parameters with given values in their fields. -/
def ofValues (values : (q : Property) → q.Value) : Parameters where
  advertiseAddress := values .advertiseAddress
  controlPlaneEndpoint := values .controlPlaneEndpoint
  clusterName := values .clusterName
  nodeName := values .nodeName
  criSocket := values .criSocket
  networking := ⟨values .serviceSubnet, values .podSubnet, values .dnsDomain⟩
  cloudProvider := values .cloudProvider
  nodePool := values .nodePool
  imageRepository := values .imageRepository
  certSans := values .certSans
  taints := values .taints
  apiServer :=
    ⟨values .oidcIssuerUrl, values .oidcClientId, values .kubeletCertificateAuthority,
      values .enableAdmissionPlugins, values .disableAdmissionPlugins, values .auditLogDir,
      values .encryptionProviderConfig⟩
  controllerManager := ⟨values .signingCertFile, values .signingKeyFile⟩
  kubelet := ⟨values .reservedCpu, values .reservedMemory, values .cgroupDriver⟩
  etcd :=
    ⟨values .etcdEndpoints, values .etcdCaFile, values .etcdCertFile, values .etcdKeyFile,
      values .etcdDataDir⟩
  bootstrapToken := values .bootstrapToken
  certificateKey := values .certificateKey
  join :=
    ⟨values .joinEndpoint, values .joinToken, values .caCertHashes,
      values .unsafeSkipCaVerification, values .controlPlane⟩

/-- Parameters with the same fields are the same. -/
theorem ext_get {a b : Parameters} (h : ∀ q : Property, q.get a = q.get b) : a = b := by
  have hvalues : (fun q : Property => q.get a) = fun q => q.get b := funext h
  change ofValues (fun q => q.get a) = ofValues fun q => q.get b
  rw [hvalues]

end Parameters

namespace Property

/-! ## Fields -/

theorem get_ofValues (q : Property) (values : (q : Property) → q.Value) :
    q.get (.ofValues values) = values q := by
  cases q <;> rfl

theorem set_eq (q : Property) (v : q.Value) (ps : Parameters) :
    q.set v ps = .ofValues (Function.update (fun q => q.get ps) q v) := by
  cases q <;> rfl

/-- Setting a property sets its own field. -/
theorem get_set_self (q : Property) (v : q.Value) (ps : Parameters) : q.get (q.set v ps) = v := by
  rw [set_eq, get_ofValues, Function.update_self]

/-- Setting a property leaves the other fields as they are. -/
theorem get_set_of_ne {p q : Property} (h : q ≠ p) (v : p.Value) (ps : Parameters) :
    q.get (p.set v ps) = q.get ps := by
  rw [set_eq, get_ofValues, Function.update_of_ne h]

/-! ## Keys -/

theorem mem_all (q : Property) : q ∈ all := by cases q <;> decide

theorem key_injective : Function.Injective key := fun p q h =>
  List.inj_on_of_nodup_map (f := key) (by decide) p.mem_all q.mem_all h

theorem ofKey?_key (q : Property) : ofKey? q.key = some q := by
  have hsome : (ofKey? q.key).isSome = true :=
    List.find?_isSome.mpr ⟨q, q.mem_all, beq_self_eq_true _⟩
  obtain ⟨p, hp⟩ := Option.isSome_iff_exists.mp hsome
  have hkey : p.key = q.key := by simpa using List.find?_some hp
  rw [hp, key_injective hkey]

theorem ofKey?_eq_some_iff {k : String} {q : Property} : ofKey? k = some q ↔ q.key = k := by
  refine ⟨fun h => by simpa using List.find?_some h, ?_⟩
  rintro rfl
  exact q.ofKey?_key

theorem ofKey?_eq_none_iff {k : String} : ofKey? k = none ↔ ∀ q : Property, q.key ≠ k := by
  simp [ofKey?, mem_all]

end Property

end NodeBootstrap

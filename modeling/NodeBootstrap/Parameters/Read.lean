import NodeBootstrap.Parameters.Basic
import NodeBootstrap.Data.Basic

/-!
# Parameters from data

A parameter file, or any other source of data, gives parameters by name; what it does not name
keeps its default, and names that mean nothing are left out.

* `Parameters.readers`: the fields by name, in their order;
* `Parameters.ofData`: parameters from data.
-/

namespace NodeBootstrap

/-- A taint written as a text, read without the blanks around it. -/
def Taint.ofData : Data → Data.Typed Taint
  | .text s =>
    match Taint.parseTrimmed s with
    | .ok t => .ok t
    | .error _ => .error .mistyped
  | _ => .error .mistyped

namespace Parameters

open Data FieldReader

/-- The fields of the network settings. -/
def networkingReaders : List (FieldReader NetworkingParameters) :=
  [of "service_subnet" asOptionalText fun v p => { p with serviceSubnet := v },
   of "pod_subnet" asOptionalText fun v p => { p with podSubnet := v },
   of "dns_domain" asOptionalText fun v p => { p with dnsDomain := v }]

/-- The fields of the API server settings. -/
def apiServerReaders : List (FieldReader ApiServerParameters) :=
  [of "oidc_issuer_url" asOptionalText fun v p => { p with oidcIssuerUrl := v },
   of "oidc_client_id" asOptionalText fun v p => { p with oidcClientId := v },
   of "kubelet_certificate_authority" asOptionalText fun v p =>
     { p with kubeletCertificateAuthority := v },
   of "enable_admission_plugins" (asListOf asText) fun v p =>
     { p with enableAdmissionPlugins := v },
   of "disable_admission_plugins" (asListOf asText) fun v p =>
     { p with disableAdmissionPlugins := v },
   of "audit_log_dir" asOptionalText fun v p => { p with auditLogDir := v },
   of "encryption_provider_config" asOptionalText fun v p =>
     { p with encryptionProviderConfig := v }]

/-- The fields of the controller manager settings. -/
def controllerManagerReaders : List (FieldReader ControllerManagerParameters) :=
  [of "signing_cert_file" asOptionalText fun v p => { p with signingCertFile := v },
   of "signing_key_file" asOptionalText fun v p => { p with signingKeyFile := v }]

/-- The fields of the node agent settings. -/
def kubeletReaders : List (FieldReader KubeletParameters) :=
  [of "reserved_cpu" asOptionalText fun v p => { p with reservedCpu := v },
   of "reserved_memory" asOptionalText fun v p => { p with reservedMemory := v },
   of "cgroup_driver" asOptionalText fun v p => { p with cgroupDriver := v }]

/-- The fields of the store settings. -/
def etcdReaders : List (FieldReader EtcdParameters) :=
  [of "endpoints" (asListOf asText) fun v p => { p with endpoints := v },
   of "ca_file" asOptionalText fun v p => { p with caFile := v },
   of "cert_file" asOptionalText fun v p => { p with certFile := v },
   of "key_file" asOptionalText fun v p => { p with keyFile := v },
   of "data_dir" asOptionalText fun v p => { p with dataDir := v }]

/-- The fields of the settings for joining. -/
def joinReaders : List (FieldReader JoinParameters) :=
  [of "api_server_endpoint" asOptionalText fun v p => { p with apiServerEndpoint := v },
   of "token" asOptionalText fun v p => { p with token := v },
   of "ca_cert_hashes" (asListOf asText) fun v p => { p with caCertHashes := v },
   of "unsafe_skip_ca_verification" asFlag fun v p => { p with unsafeSkipCaVerification := v },
   of "control_plane" asFlag fun v p => { p with controlPlane := v }]

/-- All fields by name, in their order. Whether a group given as a list may have more items than
fields is up to the format. -/
def readers (extra : Bool) : List (FieldReader Parameters) :=
  [of "advertise_address" asText fun v p => { p with advertiseAddress := v },
   of "control_plane_endpoint" asOptionalText fun v p => { p with controlPlaneEndpoint := v },
   of "cluster_name" asOptionalText fun v p => { p with clusterName := v },
   of "node_name" asOptionalText fun v p => { p with nodeName := v },
   of "cri_socket" asOptionalText fun v p => { p with criSocket := v },
   of "networking" (readRecord networkingReaders extra {}) fun v p => { p with networking := v },
   of "cloud_provider" asOptionalText fun v p => { p with cloudProvider := v },
   of "node_pool" asOptionalText fun v p => { p with nodePool := v },
   of "image_repository" asOptionalText fun v p => { p with imageRepository := v },
   of "cert_sans" (asListOf asText) fun v p => { p with certSans := v },
   of "taints" (asListOf Taint.ofData) fun v p => { p with taints := v },
   of "api_server" (readRecord apiServerReaders extra {}) fun v p => { p with apiServer := v },
   of "controller_manager" (readRecord controllerManagerReaders extra {}) fun v p =>
     { p with controllerManager := v },
   of "kubelet" (readRecord kubeletReaders extra {}) fun v p => { p with kubelet := v },
   of "etcd" (readRecord etcdReaders extra {}) fun v p => { p with etcd := v },
   of "bootstrap_token" asOptionalText fun v p => { p with bootstrapToken := v },
   of "certificate_key" asOptionalText fun v p => { p with certificateKey := v },
   of "join" (readRecord joinReaders extra {}) fun v p => { p with join := v }]

/-- Parameters from data; what the data does not name keeps its default. -/
def ofData (extra : Bool) (d : Data) : Data.Typed Parameters :=
  readRecord (readers extra) extra {} d

end Parameters

end NodeBootstrap

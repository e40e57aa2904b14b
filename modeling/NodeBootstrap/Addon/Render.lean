import NodeBootstrap.Addon.Basic
import NodeBootstrap.Document.Content
import NodeBootstrap.Template.Render

/-!
# Manifests of add-ons

* `Addon.values`: what the templates of a cluster's add-ons may refer to;
* `Addon.render`: the manifest of an add-on for a cluster.
-/

namespace NodeBootstrap.Addon

/-- The name of a cluster that is given none. -/
def defaultClusterName : String := "kubernetes"

/-- The addresses of services where none are given. -/
def defaultServiceSubnet : String := "10.96.0.0/12"

/-- The domain of services where none is given. -/
def defaultDnsDomain : String := "cluster.local"

/-- A setting as it is written, or a default where it is absent or blank. -/
def setting (s : Option String) (default : String) : String :=
  (s.filter fun t => !Text.blank t).getD default

/-- What templates may refer to, and the text for each name. -/
def settings (v : Version) (p : Parameters) : List (String × String) :=
  [("kubernetes_version", v.tag), ("cluster_name", setting p.clusterName defaultClusterName),
   ("advertise_address", p.advertiseAddress), ("pod_subnet", setting p.networking.podSubnet ""),
   ("service_subnet", setting p.networking.serviceSubnet defaultServiceSubnet),
   ("dns_domain", setting p.networking.dnsDomain defaultDnsDomain),
   ("image_repository", setting p.imageRepository ""),
   ("cloud_provider", p.provider.getD "")]

/-- The values of a cluster that templates may refer to. -/
def values (v : Version) (p : Parameters) : List (String × Template.Value) :=
  (settings v p).map fun (name, s) => (name, .plain s)

/-- The manifest of an add-on. -/
def render (a : Addon) (values : List (String × Template.Value)) : Except Failure String :=
  (Template.render a.name a.template values).mapError .template

end NodeBootstrap.Addon

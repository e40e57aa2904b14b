import NodeBootstrap.Proofs.Contents
import NodeBootstrap.Proofs.Documents

/-!
# Looking fields up

The value of a field is found among the fields that a record is put together from, and the value
of an argument among those that were given.

* `Yaml.at?`: the value at the end of a path of fields;
* `Yaml.field?_append`, `Yaml.field?_optional`, `Yaml.field?_unlessEmpty`: fields of a record of
  several parts;
* `Arguments.field?_insert`, `Arguments.field?_ofList_append`: arguments of a table;
* `ClusterDocument.field?_clusterName`, `ClusterDocument.at?_network`,
  `ClusterDocument.at?_arguments`, `ClusterDocument.at?_mounts`, …: what a cluster document has
  where;
* `JoinDocument.at?_server`: the address in the document of a further node.
-/

namespace NodeBootstrap

/-! ## Fields of a record -/

namespace Yaml

/-- The value at the end of a path of fields. -/
def at? : List String → Yaml → Option Yaml
  | [], y => some y
  | key :: path, y => (y.field? key).bind (at? path)

section Fields

variable {α : Type} (key name : String)

theorem at?_cons (path : List String) (y : Yaml) :
    y.at? (key :: path) = (y.field? key).bind (at? path) := rfl

theorem at?_append (path path' : List String) (y : Yaml) :
    y.at? (path ++ path') = (y.at? path).bind (at? path') := by
  induction path generalizing y with
  | nil => rfl
  | cons key path ih =>
    rw [List.cons_append, at?_cons, at?_cons, Option.bind_assoc]
    exact congrArg _ (funext ih)

theorem at?_singleton (y : Yaml) : y.at? [key] = y.field? key := Option.bind_fun_some _

@[simp] theorem field?_nil : (record []).field? key = none := rfl

@[simp] theorem field?_cons (f : String × Yaml) (fs : List (String × Yaml)) :
    (record (f :: fs)).field? key = if f.1 = key then some f.2 else (record fs).field? key := by
  unfold field?
  by_cases h : f.1 = key <;> simp [h]

@[simp] theorem field?_append (fs gs : List (String × Yaml)) :
    (record (fs ++ gs)).field? key = ((record fs).field? key).or ((record gs).field? key) := by
  simp [field?, List.find?_append, Option.map_or]

@[simp] theorem field?_optional (value : Option Yaml) :
    (record (optional name value)).field? key = if name = key then value else none := by
  rcases value with _ | y
  · simp [optional]
  · simp [optional]

@[simp] theorem field?_optionalText (value : Option String) :
    (record (optionalText name value)).field? key = if name = key then value.map text else none :=
  field?_optional key name _

@[simp] theorem field?_unlessEmpty (values : List α) (tree : List α → Yaml) :
    (record (unlessEmpty name values tree)).field? key =
      if name = key ∧ values ≠ [] then some (tree values) else none := by
  rcases values with _ | ⟨v, vs⟩
  · simp [unlessEmpty]
  · simp [unlessEmpty]

/-- Nothing is found in what is left out. -/
theorem bind_unlessEmpty {values : List α} {tree : List α → Yaml} {f : Yaml → Option Yaml}
    (hnone : f (tree []) = none) :
    (if values ≠ [] then some (tree values) else none).bind f = f (tree values) := by
  rcases values with _ | ⟨v, vs⟩
  · simp [hnone]
  · simp

end Fields

end Yaml

/-! ## Arguments of a table -/

namespace Arguments

open Yaml

variable {key : String}

@[simp] theorem field?_table_cons (name value : String) (m : Arguments) :
    (table ((name, value) :: m)).field? key =
      if name = key then some (text value) else (table m).field? key := field?_cons key _ _

theorem field?_insert (name value : String) (m : Arguments) :
    (table (insert name value m)).field? key =
      if name = key then some (text value) else (table m).field? key := by
  induction m with
  | nil => exact field?_table_cons name value []
  | cons first m ih =>
    obtain ⟨k, v⟩ := first
    rw [insert]
    split
    · rw [field?_table_cons]
    · split
      next hsame =>
        subst hsame
        by_cases hname : name = key <;> simp [hname]
      next hother =>
        rw [field?_table_cons, ih]
        by_cases hname : name = key
        · subst hname
          simp [Ne.symm hother]
        · simp [hname]

/-- What comes later under other names leaves an argument as it is. -/
theorem field?_ofList_append {pairs more : List (String × String)}
    (h : key ∉ more.map (·.1)) :
    (table (ofList (pairs ++ more))).field? key = (table (ofList pairs)).field? key := by
  unfold ofList
  rw [List.foldl_append]
  generalize pairs.foldl (fun m p => insert p.1 p.2 m) [] = m
  induction more generalizing m with
  | nil => rfl
  | cons pair more ih =>
    obtain ⟨hne, hrest⟩ := not_or.mp (mt List.mem_cons.mpr h)
    rw [List.foldl_cons, ih hrest, field?_insert, if_neg (Ne.symm hne)]

end Arguments

/-! ## Cluster documents -/

/-- A component of the control plane that has arguments and mounts of its own. -/
inductive ControlComponent where
  | apiServer
  | controllerManager
deriving DecidableEq, Repr

namespace ControlComponent

/-- The group of a component, in the generations that have one. -/
def group : ControlComponent → String
  | apiServer => "apiServer"
  | controllerManager => "controllerManager"

/-- The field for the arguments of a component, in the generation without groups. -/
def argumentsField : ControlComponent → String
  | apiServer => "apiServerExtraArgs"
  | controllerManager => "controllerManagerExtraArgs"

/-- The field for the mounts of a component, in the generation without groups. -/
def mountsField : ControlComponent → String
  | apiServer => "apiServerExtraVolumes"
  | controllerManager => "controllerManagerExtraVolumes"

end ControlComponent

namespace Generation

/-- Where a generation keeps the arguments of a component. -/
def argumentsPath (g : Generation) (c : ControlComponent) : List String :=
  if g.flatComponents then [c.argumentsField] else [c.group, "extraArgs"]

/-- Where a generation keeps the mounts of a component. -/
def mountsPath (g : Generation) (c : ControlComponent) : List String :=
  if g.flatComponents then [c.mountsField] else [c.group, "extraVolumes"]

/-- Where a generation keeps the arguments of the API server. -/
def apiServerArguments (g : Generation) : List String :=
  if g.flatComponents then ["apiServerExtraArgs"] else ["apiServer", "extraArgs"]

end Generation

namespace ClusterDocument

open Yaml

variable (g : Generation) (d : ClusterDocument)

theorem field?_version : (d.tree g).field? "kubernetesVersion" = some (text d.version.tag) := by
  simp [tree, heading]

theorem field?_clusterName : (d.tree g).field? "clusterName" = d.clusterName.map text := by
  cases g <;> simp [tree, heading, Generation.flatComponents, flatFields, groupedFields]

theorem field?_imageRepository :
    (d.tree g).field? "imageRepository" = d.imageRepository.map text := by
  cases g <;> simp [tree, heading, Generation.flatComponents, flatFields, groupedFields]

theorem field?_controlPlaneEndpoint :
    (d.tree g).field? "controlPlaneEndpoint" = d.controlPlaneEndpoint.map text := by
  cases g <;> simp [tree, heading, Generation.flatComponents, flatFields, groupedFields]

/-- The networks are a group of their own. -/
theorem at?_network (key : String) :
    (d.tree g).at? ["networking", key] = (record d.networkFields).field? key := by
  have hfield : (d.tree g).field? "networking" =
      if d.networkFields ≠ [] then some (record d.networkFields) else none := by
    cases g <;> simp [tree, heading, Generation.flatComponents, flatFields, groupedFields]
  rw [at?_cons, hfield, bind_unlessEmpty rfl, at?_singleton]

/-- The settings of a component. -/
def component : ControlComponent → Component
  | .apiServer => d.apiServer
  | .controllerManager => d.controllerManager

/-- What the group of a component has besides arguments and mounts. -/
def ownFields : ControlComponent → List (String × Yaml)
  | .apiServer => unlessEmpty "certSANs" d.certSans texts
  | .controllerManager => []

/-- The group of a component, in the generations that have one. -/
def groupFields (c : ControlComponent) : List (String × Yaml) :=
  d.ownFields c ++ unlessEmpty "extraArgs" (d.component c).arguments table ++
    unlessEmpty "extraVolumes" (d.component c).mounts (mountsTree g)

theorem field?_group (hg : g.flatComponents = false) (c : ControlComponent) :
    (d.tree g).field? c.group =
      if d.groupFields g c ≠ [] then some (record (d.groupFields g c)) else none := by
  cases c <;>
    simp [tree, heading, hg, groupedFields, groupFields, ownFields, component,
      ControlComponent.group]

/-- The arguments of a component are where its generation keeps them. -/
theorem at?_arguments (c : ControlComponent) : (d.tree g).at? (g.argumentsPath c) =
    if (d.component c).arguments ≠ [] then some (table (d.component c).arguments) else none := by
  cases hg : g.flatComponents with
  | true =>
    rw [Generation.argumentsPath, if_pos hg, at?_singleton]
    cases c with
    | apiServer =>
      change (d.tree g).field? "apiServerExtraArgs" = if d.apiServer.arguments ≠ [] then _ else _
      simp [tree, heading, hg, flatFields, component]
    | controllerManager =>
      change (d.tree g).field? "controllerManagerExtraArgs" =
        if d.controllerManager.arguments ≠ [] then _ else _
      simp [tree, heading, hg, flatFields, component]
  | false =>
    rw [Generation.argumentsPath, if_neg (by simp [hg]), at?_cons, field?_group g d hg,
      bind_unlessEmpty rfl, at?_singleton]
    cases c <;> simp [groupFields, ownFields]

/-- So are its mounts. -/
theorem at?_mounts (c : ControlComponent) : (d.tree g).at? (g.mountsPath c) =
    if (d.component c).mounts ≠ [] then some (mountsTree g (d.component c).mounts) else none := by
  cases hg : g.flatComponents with
  | true =>
    rw [Generation.mountsPath, if_pos hg, at?_singleton]
    cases c with
    | apiServer =>
      change (d.tree g).field? "apiServerExtraVolumes" = if d.apiServer.mounts ≠ [] then _ else _
      simp [tree, heading, hg, flatFields, component]
    | controllerManager =>
      change (d.tree g).field? "controllerManagerExtraVolumes" =
        if d.controllerManager.mounts ≠ [] then _ else _
      simp [tree, heading, hg, flatFields, component]
  | false =>
    rw [Generation.mountsPath, if_neg (by simp [hg]), at?_cons, field?_group g d hg,
      bind_unlessEmpty rfl, at?_singleton]
    cases c <;> simp [groupFields, ownFields]

/-- An argument of the API server is looked up among its arguments. -/
theorem at?_argument (key : String) :
    (d.tree g).at? (g.apiServerArguments ++ [key]) = (table d.apiServer.arguments).field? key := by
  change (d.tree g).at? (g.argumentsPath .apiServer ++ [key]) = _
  rw [at?_append, at?_arguments, bind_unlessEmpty rfl, at?_singleton]
  rfl

end ClusterDocument

/-! ## Documents of further nodes -/

/-- Where a generation keeps the address at which a node joins. -/
def Generation.serverPath (g : Generation) : List String :=
  if g.flatComponents then ["discoveryTokenAPIServers"]
  else ["discovery", "bootstrapToken", "apiServerEndpoint"]

/-- How a generation keeps the address at which a node joins. -/
def Generation.serverTree (g : Generation) (address : String) : Yaml :=
  if g.flatComponents then .texts [address] else .text address

namespace JoinDocument

theorem at?_server (g : Generation) (d : JoinDocument) :
    (d.tree g).at? g.serverPath = some (g.serverTree d.endpoint) := by
  unfold Generation.serverPath Generation.serverTree
  split
  next hg =>
    rw [Yaml.at?_singleton]
    simp [tree, heading, hg, flatFields]
  next hg =>
    have hfield : (d.tree g).field? "discovery" =
        some (.record [("bootstrapToken", .record d.discoveryFields)]) := by
      simp [tree, heading, hg, groupedFields_eq]
    rw [Yaml.at?_cons, hfield, Option.bind_some, Yaml.at?_cons, Yaml.field?_cons, if_pos rfl,
      Option.bind_some, Yaml.at?_singleton]
    simp [discoveryFields]

end JoinDocument

end NodeBootstrap

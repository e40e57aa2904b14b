import NodeBootstrap.Document.Render
import NodeBootstrap.Proofs.Results

/-!
# What documents hold

* `Yaml.field?`: the value of a field of a record;
* `Rendering.initTrees_eq`, `Rendering.joinTrees_eq`, `Rendering.initTrees_eq_ok_iff`,
  `Rendering.joinTrees_eq_ok_iff`: which documents a configuration has;
* **`Rendering.criSocket_init`**, **`Rendering.criSocket_join`**: the socket that a rendered
  configuration registers a node with.
-/

namespace NodeBootstrap

/-- The value of the first field with a key. -/
def Yaml.field? (key : String) : Yaml → Option Yaml
  | .record fields => (fields.find? fun f => f.1 == key).map (·.2)
  | _ => none

/-- The socket that a document registers a node with. -/
def Yaml.criSocket? (y : Yaml) : Option Yaml :=
  (y.field? "nodeRegistration").bind (Yaml.field? "criSocket")

theorem NodeRegistration.field?_criSocket (r : NodeRegistration) :
    r.tree.field? "criSocket" = some (.text r.criSocket) := by
  rcases h : r.name with _ | name
  · simp [tree, h, Yaml.field?, Yaml.optionalText, Yaml.optional]
  · simp [tree, h, Yaml.field?, Yaml.optionalText, Yaml.optional]

/-! ## The registration of a node -/

theorem InitDocument.field?_registration (g : Generation) (d : InitDocument) :
    (d.tree g).field? "nodeRegistration" = some d.registration.tree := by
  rcases d with ⟨_ | token, advertised, registration, key⟩
  · cases g <;> rfl
  · cases g <;> rfl

theorem JoinDocument.field?_registration (g : Generation) (d : JoinDocument) :
    (d.tree g).field? "nodeRegistration" = some d.registration.tree := by
  rcases d with ⟨endpoint, token, _ | ⟨hash, hashes⟩, skip, _ | control, registration⟩
  · cases g <;> rfl
  · cases g <;> rfl
  · cases g <;> rfl
  · cases g <;> rfl

theorem InitDocument.criSocket?_tree (g : Generation) (d : InitDocument) :
    (d.tree g).criSocket? = some (.text d.registration.criSocket) := by
  rw [Yaml.criSocket?, d.field?_registration]
  exact d.registration.field?_criSocket

theorem JoinDocument.criSocket?_tree (g : Generation) (d : JoinDocument) :
    (d.tree g).criSocket? = some (.text d.registration.criSocket) := by
  rw [Yaml.criSocket?, d.field?_registration]
  exact d.registration.field?_criSocket

theorem InitDocument.registration_of {g : Generation} {p : Parameters} {d : InitDocument}
    (h : InitDocument.of g p = .ok d) : d.registration = NodeRegistration.of p := by
  obtain ⟨advertised, -, h⟩ := Results.bind_eq_ok_iff.mp h
  obtain ⟨token, -, h⟩ := Results.bind_eq_ok_iff.mp h
  cases h
  rfl

theorem JoinDocument.registration_of {g : Generation} {p : Parameters} {d : JoinDocument}
    (h : JoinDocument.of g p = .ok d) : d.registration = NodeRegistration.of p := by
  obtain ⟨endpoint, -, h⟩ := Results.bind_eq_ok_iff.mp h
  obtain ⟨token, -, h⟩ := Results.bind_eq_ok_iff.mp h
  obtain ⟨control, -, h⟩ := Results.bind_eq_ok_iff.mp h
  cases h
  rfl

namespace Rendering

variable {s : Selection} {p : Parameters} {r : Rendering}

/-- The document of the node agent, if there is one. -/
def agentPart (p : Parameters) : List Yaml :=
  ((KubeletDocument.of? p).map KubeletDocument.tree).toList

/-- A first node has its own document, the one that all nodes share and the node agent's. -/
theorem initTrees_eq (s : Selection) (p : Parameters) : initTrees s p =
    (InitDocument.of s.generation p >>= fun first => (ClusterDocument.of s p).map fun cluster =>
      first.tree s.generation :: cluster.tree s.generation :: agentPart p) := by
  unfold initTrees
  rcases InitDocument.of s.generation p with e | first
  · rfl
  · rcases ClusterDocument.of s p with e | cluster
    · rfl
    · rfl

/-- A further node has its own document and the node agent's. -/
theorem joinTrees_eq (s : Selection) (p : Parameters) : joinTrees s p =
    (JoinDocument.of s.generation p).map fun further =>
      further.tree s.generation :: agentPart p := by
  unfold joinTrees
  rcases JoinDocument.of s.generation p with e | further
  · rfl
  · rfl

theorem initTrees_eq_ok_iff {ys : List Yaml} : initTrees s p = .ok ys ↔ ∃ first cluster,
    InitDocument.of s.generation p = .ok first ∧ ClusterDocument.of s p = .ok cluster ∧
      ys = first.tree s.generation :: cluster.tree s.generation :: agentPart p := by
  simp only [initTrees_eq, Results.bind_eq_ok_iff, Results.map_eq_ok_iff, exists_and_left,
    @eq_comm _ ys]

theorem joinTrees_eq_ok_iff {ys : List Yaml} : joinTrees s p = .ok ys ↔ ∃ further,
    JoinDocument.of s.generation p = .ok further ∧
      ys = further.tree s.generation :: agentPart p := by
  simp only [joinTrees_eq, Results.map_eq_ok_iff, @eq_comm _ ys]

/-- **The socket in the configuration of a first node.** -/
theorem criSocket_init (h : init s p = .ok r) : ∃ document more,
    initTrees s p = .ok (document :: more) ∧ r.text = assemble (document :: more) ∧
      document.criSocket? = some (.text p.effectiveCriSocket) := by
  obtain ⟨trees, htrees, rfl⟩ := Results.map_eq_ok_iff.mp h
  obtain ⟨first, cluster, hfirst, -, rfl⟩ := initTrees_eq_ok_iff.mp htrees
  refine ⟨_, _, htrees, rfl, ?_⟩
  rw [InitDocument.criSocket?_tree, InitDocument.registration_of hfirst]
  rfl

/-- **The socket in the configuration of a further node.** -/
theorem criSocket_join (h : join s p = .ok r) : ∃ document more,
    joinTrees s p = .ok (document :: more) ∧ r.text = assemble (document :: more) ∧
      document.criSocket? = some (.text p.effectiveCriSocket) := by
  obtain ⟨trees, htrees, rfl⟩ := Results.map_eq_ok_iff.mp h
  obtain ⟨d, hd, rfl⟩ := joinTrees_eq_ok_iff.mp htrees
  refine ⟨_, _, htrees, rfl, ?_⟩
  rw [JoinDocument.criSocket?_tree, JoinDocument.registration_of hd]
  rfl

end Rendering

end NodeBootstrap

import NodeBootstrap.Proofs.Conformance
import NodeBootstrap.Proofs.Errands
import NodeBootstrap.Proofs.PrivateFiles

/-!
# Setting a node up, and undoing it

Until the command that sets a node up has succeeded, any failure is followed by a reset; after it,
none is.

* `SetUp`, `SetUp.act`: the two ways to set a node up;
* `SetUp.exec_act`: first the errands that a failure undoes, then the others;
* **`SetUp.failure_resets_once`**: what is run and what is returned, for every behaviour of the
  commands.
-/

namespace NodeBootstrap

/-- The two ways to set a node up: as the first of a cluster, or as a further one. -/
inductive SetUp where
  | first (addons : List Addon)
  | further

namespace SetUp

variable {k : SetUp} {n : Node} {x y : Executor} {v : Version} {p : Parameters} {s t : Session}

/-- Sets a node up. -/
def act (n : Node) (x : Executor) (v : Version) (p : Parameters) : SetUp → Act Session Unit
  | first addons => n.install x v p addons
  | further => n.join x v p

/-- The configuration that a node is set up with. -/
def rendering (v : Version) (p : Parameters) : SetUp → Except Failure Rendering
  | first _ => Node.initRendering v p
  | further => Node.joinRendering v p

/-- The command that sets a node up. -/
def command (n : Node) : SetUp → Command
  | first _ => n.kubeadm.init n.configPath
  | further => n.kubeadm.join n.configPath

/-- The add-ons that are applied to the node. -/
def addons : SetUp → List Addon
  | first addons => addons
  | further => []

/-- What undoes it all. -/
def reset (n : Node) (p : Parameters) : Command := n.kubeadm.reset (NodeRegistration.of p).criSocket

/-- The errands of setting up that a failure undoes. -/
def enterErrands (n : Node) (v : Version) (p : Parameters) (k : SetUp) : List Errand :=
  match k.rendering v p with
  | .error e => [.check (.error e)]
  | .ok r => [.write n.configPath r.text, .perform (k.command n)]

/-- Has the node agent run. -/
def agentErrands (n : Node) : List Errand :=
  [.perform (n.systemctl.enable Systemctl.nodeAgent),
    .perform (n.systemctl.start Systemctl.nodeAgent)]

/-- Writes and applies add-ons, up to the first that cannot be rendered. -/
def addonErrands (n : Node) (values : List (String × Template.Value)) : List Addon → List Errand
  | [] => []
  | a :: as =>
    match a.render values with
    | .error e => [.check (.error e)]
    | .ok manifest =>
      .write (a.targetPath n.addonDir) manifest ::
        .perform (n.kubectl.apply (a.targetPath n.addonDir)) :: addonErrands n values as

/-- The errands that no failure undoes. -/
def laterErrands (n : Node) (v : Version) (p : Parameters) (k : SetUp) : List Errand :=
  agentErrands n ++ addonErrands n (Addon.values v p) k.addons

/-! ## As errands -/

theorem enter_eq_inOrder (k : SetUp) (n : Node) (x : Executor) (v : Version) (p : Parameters) :
    n.enter x (k.rendering v p) (k.command n) = Errand.inOrder x (k.enterErrands n v p) := by
  unfold Node.enter enterErrands
  rcases k.rendering v p with e | r
  · rfl
  · simp [Errand.inOrder, Node.store]

theorem startAgent_eq_inOrder (n : Node) (x : Executor) :
    n.startAgent x = Errand.inOrder x (agentErrands n) := by
  simp [Node.startAgent, agentErrands, Errand.inOrder]

theorem applyAddons_eq_inOrder (n : Node) (x : Executor)
    (values : List (String × Template.Value)) (addons : List Addon) :
    n.applyAddons x values addons = Errand.inOrder x (addonErrands n values addons) := by
  induction addons with
  | nil => rfl
  | cons a as ih =>
    rw [Node.applyAddons, Node.applyAddon, addonErrands, ih]
    rcases a.render values with e | manifest
    · rfl
    · simp [Errand.inOrder]

/-- What a failure before the end of the first steps leads to: a reset, whatever comes of it. -/
theorem exec_compensated (n : Node) (x : Executor) (p : Parameters) (steps : Act Session Unit)
    (s : Session) : (n.compensated x p steps).exec s =
      match steps.exec s with
      | (.ok (), t) => (.ok (), t)
      | (.error e, t) => (.error e, t.called (reset n p)) := by
  rw [Node.compensated, Act.exec_bind, Act.exec_attempt]
  rcases steps.exec s with ⟨e | _, t⟩
  · have hreset : (n.reset x p.effectiveCriSocket).exec t = (_, t.called (reset n p)) :=
      Errand.exec_perform x (reset n p) t
    dsimp only
    rw [Act.exec_bind, Act.exec_attempt, hreset]
    rfl
  · rfl

/-- **Setting up is two courses of errands**, and a failure of the first leads to a reset. -/
theorem exec_act (k : SetUp) (n : Node) (x : Executor) (v : Version) (p : Parameters)
    (s : Session) : (k.act n x v p).exec s =
      match (Errand.inOrder x (k.enterErrands n v p)).exec s with
      | (.ok (), t) => (Errand.inOrder x (k.laterErrands n v p)).exec t
      | (.error e, t) => (.error e, t.called (reset n p)) := by
  have hlater : ∀ t, (Errand.inOrder x (k.laterErrands n v p)).exec t =
      (do n.startAgent x; n.applyAddons x (Addon.values v p) k.addons : Act Session Unit).exec t :=
    fun t => by rw [laterErrands, Errand.inOrder_append, startAgent_eq_inOrder,
      applyAddons_eq_inOrder]
  have hact : k.act n x v p = (do
      n.compensated x p (Errand.inOrder x (k.enterErrands n v p))
      n.startAgent x
      n.applyAddons x (Addon.values v p) k.addons) := by
    rw [← enter_eq_inOrder]
    rcases k with addons | _
    · rfl
    · change _ = (do _; n.startAgent x; return ())
      rw [bind_pure_unit]
      rfl
  rw [hact, Act.exec_bind, exec_compensated]
  rcases (Errand.inOrder x (k.enterErrands n v p)).exec s with ⟨e | _, t⟩
  · rfl
  · exact (hlater t).symm

/-! ## The first errands -/

/-- **The socket of a reset is the one in the configuration**, in the document that its text begins
with. -/
theorem criSocket_rendering {r : Rendering} (h : k.rendering v p = .ok r) : ∃ document more,
    r.text.toList = "---\n".toList.intercalate ((document :: more).map Yaml.write) ∧
      Yaml.parse (String.ofList document.write) = some document.value ∧
      document.criSocket? = some (.text p.effectiveCriSocket) := by
  have hclosing := Rendering.closing_isBreak p
  rcases k with addons | _
  · obtain ⟨selection, -, hr⟩ := Results.bind_eq_ok_iff.mp h
    obtain ⟨document, more, htrees, htext, hsocket⟩ := Rendering.criSocket_init hr
    have htidy := Rendering.tidy_initTrees hclosing htrees document (by simp)
    exact ⟨document, more, htext ▸ Rendering.toList_assemble _, htidy.parse_write, hsocket⟩
  · obtain ⟨selection, -, hr⟩ := Results.bind_eq_ok_iff.mp h
    obtain ⟨document, more, htrees, htext, hsocket⟩ := Rendering.criSocket_join hr
    have htidy := Rendering.tidy_joinTrees hclosing htrees document (by simp)
    exact ⟨document, more, htext ▸ Rendering.toList_assemble _, htidy.parse_write, hsocket⟩

/-- The trimmed setting, unless nothing is left of it. -/
theorem effectiveCriSocket_eq (p : Parameters) : p.effectiveCriSocket =
    match p.criSocket with
    | none => defaultCriSocket
    | some given => if Text.trim given = "" then defaultCriSocket else Text.trim given := by
  unfold Parameters.effectiveCriSocket Text.nonBlank
  rcases p.criSocket with _ | given
  · rfl
  · by_cases hblank : Text.trim given = "" <;> simp [Option.filter, hblank]

theorem exec_enter_of_unrendered {e : Failure} (h : k.rendering v p = .error e) :
    (Errand.inOrder x (k.enterErrands n v p)).exec s = (.error e, s) := by
  rw [enterErrands, h]
  rfl

/-- With a rendering, the first command finds it written. -/
theorem exec_enter {r : Rendering} (h : k.rendering v p = .ok r) :
    (Errand.inOrder x (k.enterErrands n v p)).exec s =
      match (PrivateFile.write n.configPath r.text).exec s.tree with
      | (.error e, tree) => (.error e, { s with tree })
      | (.ok (), tree) =>
        ((x s.commands (k.command n)).map fun _ => (), ({ s with tree }).called (k.command n)) := by
  rw [enterErrands, h]
  dsimp only
  rcases hwrite : (PrivateFile.write n.configPath r.text).exec s.tree with ⟨e | _, tree⟩
  · exact Errand.inOrder_cons_error (by simp [hwrite])
  · rw [Errand.inOrder_cons_ok (t := { s with tree }) (by simp [hwrite])]
    rcases hx : x s.commands (k.command n) with e | output
    · exact Errand.inOrder_perform_error hx
    · exact Errand.inOrder_perform_ok hx

/-! ## The later errands -/

/-- The commands of a running node agent and of its add-ons. -/
def laterCommands (n : Node) (k : SetUp) : List Command :=
  n.systemctl.enable Systemctl.nodeAgent :: n.systemctl.start Systemctl.nodeAgent ::
    k.addons.map fun a => n.kubectl.apply (a.targetPath n.addonDir)

theorem commands_addonErrands (n : Node) (values : List (String × Template.Value))
    (addons : List Addon) : Errand.commands (addonErrands n values addons) <+:
      addons.map fun a => n.kubectl.apply (a.targetPath n.addonDir) := by
  induction addons with
  | nil => simp [addonErrands]
  | cons a as ih =>
    rw [addonErrands]
    rcases a.render values with e | manifest
    · simp [Errand.command?]
    · simpa [Errand.command?, Errand.perform] using ih

theorem commands_laterErrands (k : SetUp) (n : Node) (v : Version) (p : Parameters) :
    Errand.commands (k.laterErrands n v p) <+: k.laterCommands n := by
  rw [laterErrands, Errand.commands_append]
  exact (List.prefix_append_right_inj _).mpr (commands_addonErrands ..)

theorem laterCommands_ne_reset {c : Command} (h : c ∈ k.laterCommands n) (socket : String) :
    c ≠ n.kubeadm.reset socket := by
  have harguments : c.arguments.head? ≠ some "reset" := by
    simp only [laterCommands, List.mem_cons, List.mem_map] at h
    rcases h with rfl | rfl | ⟨a, -, rfl⟩
    · simp [Systemctl.enable, Systemctl.command]
    · simp [Systemctl.start, Systemctl.command]
    · simp [Kubectl.apply, Kubectl.command]
  intro heq
  exact harguments (heq ▸ rfl)

theorem command_ne_reset (k : SetUp) (n : Node) (socket : String) :
    k.command n ≠ n.kubeadm.reset socket := by
  intro heq
  have harguments := congrArg (fun c => c.arguments.head?) heq
  rcases k with addons | _
  · simp [command, Kubeadm.init, Kubeadm.reset, Kubeadm.command] at harguments
  · simp [command, Kubeadm.join, Kubeadm.reset, Kubeadm.command] at harguments

/-- What is run once a node is up: the node agent first, and never a reset. -/
theorem exec_laterErrands (k : SetUp) (n : Node) (x : Executor) (v : Version) (p : Parameters)
    (t : Session) :
    let enable := n.systemctl.enable Systemctl.nodeAgent
    let start := n.systemctl.start Systemctl.nodeAgent
    let run := (Errand.inOrder x (k.laterErrands n v p)).exec t
    ∃ later : List Call, run.2.calls = t.calls ++ later ∧
      (∀ c ∈ later, ∀ socket, c.command ≠ n.kubeadm.reset socket) ∧
      match x t.commands enable with
      | .error e => run.1 = .error e ∧ later.map Call.command = [enable]
      | .ok _ =>
        match x (t.commands ++ [enable]) start with
        | .error e => run.1 = .error e ∧ later.map Call.command = [enable, start]
        | .ok _ => run = (n.applyAddons x (Addon.values v p) k.addons).exec
            ((t.called enable).called start) ∧
          ∃ applied, later.map Call.command = enable :: start :: applied ∧
            applied <+: k.addons.map fun a => n.kubectl.apply (a.targetPath n.addonDir) := by
  intro enable start run
  obtain ⟨later, hlater⟩ := Errand.exists_calls_inOrder x (k.laterErrands n v p) t
  obtain ⟨new, hnew, hbegin⟩ := Errand.exists_commands_inOrder x (k.laterErrands n v p) t
  have hcommands : run.2.commands = t.commands ++ later.map Call.command := by
    rw [Session.commands, hlater, List.map_append]
    rfl
  obtain rfl : later.map Call.command = new := List.append_cancel_left (hcommands.symm.trans hnew)
  refine ⟨later, hlater, fun c hc => laterCommands_ne_reset
    ((hbegin.trans (commands_laterErrands k n v p)).subset (List.mem_map_of_mem hc)), ?_⟩
  rcases hx : x t.commands enable with e | output
  · have hrun : run = (.error e, t.called enable) := Errand.inOrder_perform_error hx
    rw [hrun, Session.commands_called] at hcommands
    exact ⟨by rw [hrun], (List.append_cancel_left hcommands).symm⟩
  have hrun : run = (Errand.inOrder x (.perform start ::
      addonErrands n (Addon.values v p) k.addons)).exec (t.called enable) :=
    Errand.inOrder_perform_ok hx
  dsimp only
  rw [← Session.commands_called t enable]
  rcases hx' : x (t.called enable).commands start with e | output
  · rw [Errand.inOrder_perform_error hx'] at hrun
    rw [hrun, Session.commands_called, Session.commands_called, List.append_assoc] at hcommands
    exact ⟨by rw [hrun], (List.append_cancel_left hcommands).symm⟩
  · rw [Errand.inOrder_perform_ok hx'] at hrun
    obtain ⟨applied, happlied, happlies⟩ := Errand.exists_commands_inOrder x
      (addonErrands n (Addon.values v p) k.addons) ((t.called enable).called start)
    rw [← hrun, hcommands, Session.commands_called, Session.commands_called, List.append_assoc,
      List.append_assoc] at happlied
    exact ⟨by rw [hrun, applyAddons_eq_inOrder], applied, List.append_cancel_left happlied,
      happlies.trans (commands_addonErrands ..)⟩

/-! ## Both -/

/-- What the reset answers counts nothing. -/
theorem exec_act_congr (k : SetUp) (n : Node) (v : Version) (s : Session)
    (h : ∀ past c, c ≠ reset n p → y past c = x past c) :
    (k.act n y v p).exec s = (k.act n x v p).exec s := by
  have henter : (Errand.inOrder y (k.enterErrands n v p)).exec s =
      (Errand.inOrder x (k.enterErrands n v p)).exec s := by
    refine Errand.inOrder_congr s fun past c hc => h past c ?_
    unfold enterErrands at hc
    rcases hr : k.rendering v p with e | r
    · simp [hr, Errand.command?] at hc
    · obtain rfl : c = k.command n := by
        simpa [hr, Errand.command?, Errand.perform] using hc
      exact command_ne_reset k n _
  have hlater : ∀ t, (Errand.inOrder y (k.laterErrands n v p)).exec t =
      (Errand.inOrder x (k.laterErrands n v p)).exec t := fun t =>
    Errand.inOrder_congr t fun past c hc => h past c
      (laterCommands_ne_reset ((commands_laterErrands k n v p).subset hc) _)
  rw [exec_act, exec_act, henter]
  simp only [hlater]

/-- **A failure before the node is up leads to one reset, the last command, and is returned**;
whatever the reset answers, and on the socket of the configuration. Once the node is up there is no
reset. -/
theorem failure_resets_once (k : SetUp) (n : Node) (x : Executor) (v : Version) (p : Parameters)
    (s : Session) :
    let socket := match p.criSocket with
      | none => "/var/run/dockershim.sock"
      | some given => if Text.trim given = "" then "/var/run/dockershim.sock" else Text.trim given
    let resetOn (socket : String) : Command :=
      ⟨n.kubeadm.program, ["reset", "--force", "--cri-socket=" ++ socket], [], false⟩
    let reset := resetOn socket
    let word := match k with
      | first _ => "init"
      | further => "join"
    let enter : Command :=
      ⟨n.kubeadm.program, [word, "--config=" ++ n.configPath.shown], [], false⟩
    let enable : Command := ⟨n.systemctl.program, ["enable", "kubelet"], [], false⟩
    let start : Command := ⟨n.systemctl.program, ["start", "kubelet"], [], false⟩
    let apply (a : Addon) : Command :=
      ⟨n.kubectl.program, ["apply", "-f", (Path.join n.addonDir a.name).shown],
        [("KUBECONFIG", n.kubectl.kubeconfig)], false⟩
    let run := (k.act n x v p).exec s
    (∀ y : Executor, (∀ past c, c ≠ reset → y past c = x past c) → (k.act n y v p).exec s = run) ∧
    match k.rendering v p with
    | .error e => run = (.error e, s.called reset)
    | .ok r =>
      (∃ document more,
        r.text.toList = "---\n".toList.intercalate ((document :: more).map Yaml.write) ∧
        Yaml.parse (String.ofList document.write) = some document.value ∧
        document.criSocket? = some (.text socket)) ∧
      match (PrivateFile.write n.configPath r.text).exec s.tree with
      | (.error e, tree) => run = (.error e, ({ s with tree }).called reset)
      | (.ok (), tree) => tree.entry? n.configPath = some (.file 0o600 (.text r.text)) ∧
        match x s.commands enter with
        | .error e => run = (.error e, (({ s with tree }).called enter).called reset)
        | .ok _ => ∃ later : List Call, run.2.calls = s.calls ++ ⟨enter, tree⟩ :: later ∧
          (∀ c ∈ later, ∀ other, c.command ≠ resetOn other) ∧
          match x (s.commands ++ [enter]) enable with
          | .error e => run.1 = .error e ∧ later.map Call.command = [enable]
          | .ok _ =>
            match x (s.commands ++ [enter, enable]) start with
            | .error e => run.1 = .error e ∧ later.map Call.command = [enable, start]
            | .ok _ => run = (n.applyAddons x (Addon.values v p) k.addons).exec
                (((({ s with tree }).called enter).called enable).called start) ∧
              ∃ applied, later.map Call.command = enable :: start :: applied ∧
                applied <+: k.addons.map apply := by
  intro socket resetOn reset word enter enable start apply run
  have hsocket : p.effectiveCriSocket = socket := effectiveCriSocket_eq p
  have hreset : SetUp.reset n p = reset := congrArg n.kubeadm.reset hsocket
  have hword : k.command n = enter := by cases k <;> rfl
  have hact := exec_act k n x v p s
  rw [hreset] at hact
  refine ⟨fun y h => exec_act_congr k n v s (hreset ▸ h), ?_⟩
  rcases hr : k.rendering v p with e | r
  · rw [exec_enter_of_unrendered hr] at hact
    exact hact
  have henter := exec_enter (n := n) (x := x) (s := s) hr
  rw [hword] at henter
  refine ⟨hsocket ▸ criSocket_rendering hr, ?_⟩
  rcases hwrite : (PrivateFile.write n.configPath r.text).exec s.tree with ⟨e | _, tree⟩
  · rw [hwrite] at henter
    rw [henter] at hact
    exact hact
  refine ⟨PrivateFile.entry?_write hwrite, ?_⟩
  rw [hwrite] at henter
  rcases hx : x s.commands enter with e | output
  · rw [hx] at henter
    rw [henter] at hact
    exact hact
  · rw [hx] at henter
    rw [henter] at hact
    obtain ⟨later, hlater, hnone, hagent⟩ :=
      exec_laterErrands k n x v p (({ s with tree }).called enter)
    have hrun : run = (Errand.inOrder x (k.laterErrands n v p)).exec
        (({ s with tree }).called enter) := hact
    rw [← hrun, Session.calls_called, List.append_assoc] at hlater
    rw [← hrun, Session.commands_called, List.append_assoc] at hagent
    exact ⟨later, hlater, hnone, hagent⟩

end SetUp

end NodeBootstrap

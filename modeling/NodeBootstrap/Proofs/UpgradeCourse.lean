import NodeBootstrap.Node.Upgrade
import NodeBootstrap.Proofs.Errands
import NodeBootstrap.Proofs.Governing
import NodeBootstrap.Proofs.WrittenVersions

/-!
# The course of an upgrade

An upgrade asks the cluster two questions, plans, and runs one routine for each step of the plan.

* `Node.planFor`: the plan that the answers to the questions lead to;
* `Node.routineErrands`, `Node.course`: the errands of a routine, and those of an upgrade;
* `Node.exec_upgrade`: an upgrade is its course;
* `Node.storedFor_eq`, `Node.plannedCommands_planFor`: the configuration that is stored, and the
  commands of a plan with their arguments;
* **`Node.upgrade_stops_at_first_failure`**: what an upgrade runs, and what it returns, for every
  behaviour of the commands.
-/

namespace NodeBootstrap.Node

variable {n : Node} {x : Executor} {role : Role} {target : Version} {stored : Option Rendering}
  {past : List Command} {s t : Session}

/-! ## Questions -/

/-- The questions to the cluster. -/
def queries (n : Node) : List Command := [n.kubectl.version, n.kubectl.config]

/-- The questions, with what has to be readable in the answers. -/
def queryErrands (n : Node) : List Errand :=
  [.call n.kubectl.version fun output => (VersionReport.read output.stdout).map fun _ => (),
   .call n.kubectl.config fun output => (RecordedVersion.read output.stdout).map fun _ => ()]

/-- The versions in the answers, when the questions are asked after some commands. -/
def reading (n : Node) (x : Executor) (past : List Command) : Except Failure Observation := do
  let versions ← x past n.kubectl.version
  let reported ← VersionReport.read versions.stdout
  let config ← x (past ++ [n.kubectl.version]) n.kubectl.config
  let recorded ← RecordedVersion.read config.stdout
  return ⟨reported.client, reported.server, recorded⟩

/-- The plan that the answers lead to. -/
def planFor (n : Node) (x : Executor) (past : List Command) (target : Version) :
    Except Failure Plan := do
  Plan.of (← n.reading x past) target

theorem exec_observe (n : Node) (x : Executor) (s : Session) :
    (n.observe x).exec s =
        (n.reading x s.commands, ((Errand.inOrder x n.queryErrands).exec s).2) ∧
      ((Errand.inOrder x n.queryErrands).exec s).1 =
        (n.reading x s.commands).map fun _ => () := by
  simp only [observe, reading, queryErrands, Errand.inOrder, Errand.act, Act.exec_bind,
    Session.exec_run, Act.exec_ofExcept]
  rcases x s.commands n.kubectl.version with e | versions
  · exact ⟨rfl, rfl⟩
  · dsimp only [bind, Except.bind]
    rcases VersionReport.read versions.stdout with e | reported
    · exact ⟨rfl, rfl⟩
    · simp only [Except.map, Session.commands_called]
      rcases x (s.commands ++ [n.kubectl.version]) n.kubectl.config with e | config
      · exact ⟨rfl, rfl⟩
      · dsimp only
        rcases RecordedVersion.read config.stdout with e | recorded
        · exact ⟨rfl, rfl⟩
        · exact ⟨rfl, rfl⟩

/-! ## Routines -/

/-- The commands that bring a node to a version. -/
def routineCommands (n : Node) (m : PackageManager) (role : Role) (v : Version) : List Command :=
  [m.install PackageManager.nodePackages v, n.kubeadm.upgrade role v, n.systemctl.daemonReload,
    n.systemctl.restart Systemctl.nodeAgent]

/-- Stores a configuration where there is one. -/
def storeErrands (n : Node) (stored : Option Rendering) : List Errand :=
  (stored.map fun r => Errand.write n.configPath r.text).toList

/-- Brings a node with its packages installed to their version. -/
def settleErrands (n : Node) (role : Role) (v : Version) : List Errand :=
  [.perform (n.kubeadm.upgrade role v), .perform n.systemctl.daemonReload,
    .perform (n.systemctl.restart Systemctl.nodeAgent)]

/-- Brings a node to a version, and stores a configuration in between if there is one. -/
def routineErrands (n : Node) (role : Role) (stored : Option Rendering) (v : Version) :
    List Errand :=
  match n.packages with
  | none => [.check (.error (.config .noPackageManagerSet))]
  | some m =>
    .perform (m.install PackageManager.nodePackages v) ::
      (n.storeErrands stored ++ n.settleErrands role v)

theorem converge_eq_inOrder (n : Node) (x : Executor) (role : Role) (stored : Option Rendering)
    (v : Version) :
    n.converge x role stored v = Errand.inOrder x (n.routineErrands role stored v) := by
  unfold converge routineErrands packageManager
  rcases n.packages with _ | m
  · rfl
  · rcases stored with _ | r
    · simp [storeErrands, settleErrands, Errand.inOrder]
    · simp [storeErrands, settleErrands, Errand.inOrder, store]

/-! ## The whole course -/

/-- What a routine stores: only the last one stores the configuration. -/
def storedBy (stored : Option Rendering) : Move → Option Rendering
  | .minor => none
  | .patch => stored

/-- The errands of some steps. -/
def stepErrands (n : Node) (role : Role) (stored : Option Rendering)
    (steps : List (Move × Version)) : List Errand :=
  steps.flatMap fun step => n.routineErrands role (storedBy stored step.1) step.2

/-- The errands of a plan, or the reason why there is none. -/
def plannedErrands (n : Node) (role : Role) (stored : Option Rendering) :
    Except Failure Plan → List Errand
  | .error e => [.check (.error e)]
  | .ok p => n.stepErrands role stored p.steps

/-- The errands of an upgrade that begins after some commands. -/
def course (n : Node) (x : Executor) (past : List Command) (role : Role) (target : Version)
    (stored : Option Rendering) : List Errand :=
  n.queryErrands ++ n.plannedErrands role stored (n.planFor x past target)

/-- The commands that a plan asks for, with the package manager that there is. -/
def plannedCommands (n : Node) (role : Role) : Except Failure Plan → List Command
  | .error _ => []
  | .ok p =>
    match n.packages with
    | none => []
    | some m => p.steps.flatMap fun step => n.routineCommands m role step.2

theorem runAll_eq_inOrder (n : Node) (x : Executor) (role : Role) (stored : Option Rendering)
    (steps : List (Move × Version)) (s : Session) :
    ((n.routines x role stored).runAll steps).exec s =
      (Errand.inOrder x (n.stepErrands role stored steps)).exec s := by
  induction steps generalizing s with
  | nil => rfl
  | cons step steps ih =>
    have hstep : (n.routines x role stored).run step.1 step.2 =
        Errand.inOrder x (n.routineErrands role (storedBy stored step.1) step.2) := by
      rw [← converge_eq_inOrder]
      rcases step with ⟨_ | _, v⟩ <;> rfl
    simp only [Routines.runAll, stepErrands, List.flatMap_cons, Errand.inOrder_append, hstep,
      Act.exec_bind] at ih ⊢
    simp only [ih]

/-- **An upgrade is its course.** -/
theorem exec_upgrade {p : Option Parameters} (h : storedFor target role p = .ok stored) :
    (n.upgrade x target role p).exec s =
      match (Errand.inOrder x (n.course x s.commands role target stored)).exec s with
      | (.ok (), t) => ((n.planFor x s.commands target).map Plan.report, t)
      | (.error e, t) => (.error e, t) := by
  obtain ⟨hobserve, hasked⟩ := exec_observe n x s
  rw [upgrade, h, Act.ofExcept_ok_bind, course, Errand.inOrder_append, Act.exec_bind]
  rcases hq : (Errand.inOrder x n.queryErrands).exec s with ⟨answered, t⟩
  rw [hq] at hobserve hasked
  rcases hr : n.reading x s.commands with e | o
  · have hplan : (Governor.plan (n.routines x role stored) target).exec s = (.error e, t) :=
      Governor.exec_plan_of_error (hobserve.trans (by rw [hr]))
    obtain rfl : answered = .error e := hasked.trans (by rw [hr]; rfl)
    rw [Governor.exec_upgrade_of_refusal hplan]
  · have hplan : (Governor.plan (n.routines x role stored) target).exec s =
        (Plan.of o target, t) := Governor.exec_plan_of_ok (hobserve.trans (by rw [hr]))
    have hfor : n.planFor x s.commands target = Plan.of o target := by
      rw [planFor, hr]
      rfl
    obtain rfl : answered = .ok () := hasked.trans (by rw [hr]; rfl)
    rw [hfor]
    rcases hp : Plan.of o target with e | p
    · rw [Governor.exec_upgrade_of_refusal (hplan.trans (by rw [hp]))]
      rfl
    · rw [Governor.exec_upgrade_of_plan (hplan.trans (by rw [hp])), Act.exec_bind,
        runAll_eq_inOrder, plannedErrands]
      dsimp only
      rcases (Errand.inOrder x (n.stepErrands role stored p.steps)).exec t with ⟨_ | _, u⟩
      · rfl
      · rfl

/-- Parameters that cannot be rendered stop an upgrade before anything is run. -/
theorem exec_upgrade_of_unrendered {p : Option Parameters} {e : Failure}
    (h : storedFor target role p = .error e) :
    (n.upgrade x target role p).exec s = (.error e, s) := by
  rw [upgrade, h]
  rfl

theorem exec_upgrade_of_error {p : Option Parameters} {e : Failure}
    (h : storedFor target role p = .ok stored)
    (hrun : (Errand.inOrder x (n.course x s.commands role target stored)).exec s = (.error e, t)) :
    (n.upgrade x target role p).exec s = (.error e, t) := by
  rw [exec_upgrade h, hrun]

/-- An upgrade leaves what its course leaves. -/
theorem session_upgrade {p : Option Parameters} (h : storedFor target role p = .ok stored) :
    ((n.upgrade x target role p).exec s).2 =
      ((Errand.inOrder x (n.course x s.commands role target stored)).exec s).2 := by
  rw [exec_upgrade h]
  rcases (Errand.inOrder x (n.course x s.commands role target stored)).exec s with ⟨_ | _, u⟩
  · rfl
  · rfl

/-! ## Its commands -/

theorem commands_routineErrands {m : PackageManager} (h : n.packages = some m) (v : Version) :
    Errand.commands (n.routineErrands role stored v) = n.routineCommands m role v := by
  rw [routineErrands, h]
  rcases stored with _ | r <;> rfl

theorem commands_stepErrands {m : PackageManager} (h : n.packages = some m)
    (steps : List (Move × Version)) : Errand.commands (n.stepErrands role stored steps) =
      steps.flatMap fun step => n.routineCommands m role step.2 := by
  induction steps with
  | nil => rfl
  | cons step steps ih =>
    simp only [stepErrands, List.flatMap_cons, Errand.commands_append,
      commands_routineErrands h] at ih ⊢
    rw [ih]

/-- Without a package manager the routines run nothing. -/
theorem commands_stepErrands_of_none (h : n.packages = none) (steps : List (Move × Version)) :
    Errand.commands (n.stepErrands role stored steps) = [] := by
  induction steps with
  | nil => rfl
  | cons step steps ih =>
    simp only [stepErrands, List.flatMap_cons, Errand.commands_append, routineErrands, h] at ih ⊢
    rw [ih]
    rfl

/-- The commands of the whole course: the questions, then those of the plan. -/
theorem commands_course (n : Node) (x : Executor) (past : List Command) (role : Role)
    (target : Version) (stored : Option Rendering) :
    Errand.commands (n.course x past role target stored) =
      n.queries ++ n.plannedCommands role (n.planFor x past target) := by
  rw [course, Errand.commands_append]
  congr 1
  rcases n.planFor x past target with e | p
  · rfl
  · rw [plannedErrands, plannedCommands]
    rcases h : n.packages with _ | m
    · exact commands_stepErrands_of_none h p.steps
    · exact commands_stepErrands h p.steps

/-! ## Its commands, spelled out -/

/-- Only the first node keeps the configuration of a first node. -/
theorem storedFor_eq (target : Version) (role : Role) (p : Option Parameters) :
    storedFor target role p = (match p with
      | none => .ok none
      | some p => do
        let selection ← Selection.of target
        some <$> if role = .primary then Rendering.init selection p
          else Rendering.join selection p) := by
  rcases p with _ | p
  · rfl
  unfold storedFor renderingFor initRendering joinRendering
  rcases Selection.of target with e | selection
  · cases role with
    | primary => rfl
    | controlPlane => rfl
    | worker => rfl
  · cases role with
    | primary => rfl
    | controlPlane => rfl
    | worker => rfl

/-- The packages of a node at a version, as each package manager is asked for them. -/
theorem install_eq (m : PackageManager) (v : Version) :
    m.install PackageManager.nodePackages v =
      match m with
      | .dnf => ⟨"dnf", ["install", "-y", "kubeadm-" ++ v.text, "kubelet-" ++ v.text,
          "kubectl-" ++ v.text], [], false⟩
      | .yum => ⟨"yum", ["install", "-y", "kubeadm-" ++ v.text, "kubelet-" ++ v.text,
          "kubectl-" ++ v.text], [], false⟩
      | .aptGet => ⟨"apt-get", ["install", "-y", "--allow-downgrades",
          "kubeadm=" ++ v.text ++ "-00", "kubelet=" ++ v.text ++ "-00",
          "kubectl=" ++ v.text ++ "-00"], [], false⟩ := by
  cases m with
  | dnf => rfl
  | yum => rfl
  | aptGet => rfl

/-- What moves a cluster, by the answers to the questions. -/
theorem map_move_planFor (n : Node) (x : Executor) (past : List Command) (target : Version) :
    (n.planFor x past target).map Plan.move = (do
      let o ← n.reading x past
      let move ← (if o.recorded < o.server then o.recorded else o.server).move target
      let _ ← Selection.of target
      return move) := by
  unfold planFor Plan.of Observation.current
  rcases n.reading x past with e | o
  · rfl
  dsimp only [bind, Except.bind]
  rcases (if o.recorded < o.server then o.recorded else o.server).move target with e | move
  · rfl
  · rcases Selection.of target with e | selection <;> rfl

/-- A move to the next line goes by the first release of that line. -/
theorem plannedCommands_planFor (n : Node) (x : Executor) (past : List Command) (role : Role)
    (target : Version) : n.plannedCommands role (n.planFor x past target) =
      match n.packages, (n.planFor x past target).map Plan.move with
      | some m, .ok .minor =>
        n.routineCommands m role ⟨target.major, target.minor, 0⟩ ++ n.routineCommands m role target
      | some m, .ok .patch => n.routineCommands m role target
      | _, _ => [] := by
  rcases hplan : n.planFor x past target with e | plan
  · rcases n.packages with _ | m <;> rfl
  rcases hm : n.packages with _ | m
  · simp [plannedCommands, hm]
  obtain ⟨o, -, hof⟩ := Results.bind_eq_ok_iff.mp hplan
  obtain ⟨move, selection, -, -, rfl⟩ := Plan.of_eq_ok_iff.mp hof
  cases move with
  | minor => simp [plannedCommands, hm, Plan.steps, Plan.stagingOf, Except.map, Version.minorBase]
  | patch => simp [plannedCommands, hm, Plan.steps, Plan.stagingOf, Except.map]

/-- **An upgrade stops at its first failure.** Without a rendering nothing is run. Otherwise the
commands are a beginning of two questions and, for each version on the way, the packages, the
upgrade of the role and the restart of the node agent: all errands of the course up to the first
that fails, whose failure is returned. Only when none fails is there a report. -/
theorem upgrade_stops_at_first_failure (n : Node) (x : Executor) (role : Role) (target : Version)
    (p : Option Parameters) (s : Session) :
    let rendered : Except Failure (Option Rendering) :=
      match p with
      | none => .ok none
      | some p => do
        let selection ← Selection.of target
        some <$> if role = .primary then Rendering.init selection p
          else Rendering.join selection p
    let number (v : Version) : String :=
      toString v.major ++ "." ++ toString v.minor ++ "." ++ toString v.patch
    let ask (arguments : List String) : Command :=
      ⟨n.kubectl.program, arguments, [("KUBECONFIG", n.kubectl.kubeconfig)], true⟩
    let packages (m : PackageManager) (v : Version) : Command :=
      match m with
      | .dnf => ⟨"dnf", ["install", "-y", "kubeadm-" ++ number v, "kubelet-" ++ number v,
          "kubectl-" ++ number v], [], false⟩
      | .yum => ⟨"yum", ["install", "-y", "kubeadm-" ++ number v, "kubelet-" ++ number v,
          "kubectl-" ++ number v], [], false⟩
      | .aptGet => ⟨"apt-get", ["install", "-y", "--allow-downgrades",
          "kubeadm=" ++ number v ++ "-00", "kubelet=" ++ number v ++ "-00",
          "kubectl=" ++ number v ++ "-00"], [], false⟩
    let raise (v : Version) : Command :=
      match role with
      | .primary => ⟨n.kubeadm.program, ["upgrade", "apply", "-f", "v" ++ number v], [], false⟩
      | .controlPlane => ⟨n.kubeadm.program,
          ["upgrade", "node", "experimental-control-plane", "v" ++ number v], [], false⟩
      | .worker => ⟨n.kubeadm.program,
          ["upgrade", "node", "config", "--kubelet-version", "v" ++ number v], [], false⟩
    let step (m : PackageManager) (v : Version) : List Command :=
      [packages m v, raise v, ⟨n.systemctl.program, ["daemon-reload"], [], false⟩,
        ⟨n.systemctl.program, ["restart", "kubelet"], [], false⟩]
    let verdict : Except Failure Move := do
      let o ← n.reading x s.commands
      let move ← (if o.recorded < o.server then o.recorded else o.server).move target
      let _ ← Selection.of target
      return move
    let sequence : List Command :=
      [ask ["version", "-o", "json"],
        ask ["get", "configmap", "kubeadm-config", "-n", "kube-system", "-o", "json"]] ++
      match n.packages, verdict with
      | some m, .ok .minor => step m ⟨target.major, target.minor, 0⟩ ++ step m target
      | some m, .ok .patch => step m target
      | _, _ => []
    match rendered with
    | .error e => (n.upgrade x target role p).exec s = (.error e, s)
    | .ok stored => ∃ result t done rest,
      (n.upgrade x target role p).exec s = (result, t) ∧
      n.course x s.commands role target stored = done ++ rest ∧
      Errand.commands (done ++ rest) = sequence ∧
      t.commands = s.commands ++ Errand.commands done ∧ Errand.commands done <+: sequence ∧
      ((∃ plan, n.planFor x s.commands target = .ok plan ∧ verdict = .ok plan.move ∧
          result = .ok plan.report ∧ rest = [] ∧ (Errand.inOrder x done).exec s = (.ok (), t)) ∨
        ∃ e, result = .error e ∧ Errand.BreaksOff x done s e t) := by
  intro rendered number ask packages raise step verdict sequence
  have hrendered : storedFor target role p = rendered := storedFor_eq target role p
  rcases h : rendered with e | stored
  · exact exec_upgrade_of_unrendered (hrendered.trans h)
  dsimp only
  have hverdict : (n.planFor x s.commands target).map Plan.move = verdict :=
    map_move_planFor n x s.commands target
  have hstep (m : PackageManager) (v : Version) : n.routineCommands m role v = step m v := by
    have hnumber : v.text = number v := v.text_eq
    have hraise : n.kubeadm.upgrade role v = raise v := by
      cases role <;> simp [Kubeadm.upgrade, Kubeadm.command, v.tag_eq, hnumber, raise]
    rw [routineCommands, install_eq, hnumber, hraise]
    rfl
  have hcommands : Errand.commands (n.course x s.commands role target stored) = sequence := by
    rw [commands_course, plannedCommands_planFor, hverdict]
    simp only [hstep]
    rfl
  rw [exec_upgrade (hrendered.trans h)]
  rcases hrun : (Errand.inOrder x (n.course x s.commands role target stored)).exec s with
    ⟨e | _, t⟩
  · obtain ⟨done, rest, hsplit, hbreak⟩ := Errand.inOrder_breaksOff hrun
    rw [hsplit] at hcommands
    exact ⟨_, t, done, rest, rfl, hsplit, hcommands, hbreak.commands,
      ⟨_, (Errand.commands_append).symm.trans hcommands⟩, Or.inr ⟨e, rfl, hbreak⟩⟩
  · refine ⟨_, t, _, [], rfl, (List.append_nil _).symm, ?_, Errand.commands_inOrder hrun,
      hcommands ▸ List.prefix_refl _, Or.inl ?_⟩
    · rw [List.append_nil, hcommands]
    rcases hplan : n.planFor x s.commands target with e | plan
    · rw [course, hplan] at hrun
      obtain ⟨u, -, hcheck⟩ := Errand.inOrder_append_eq_ok_iff.mp hrun
      cases hcheck
    · exact ⟨plan, rfl, by rw [← hverdict, hplan]; rfl, rfl, rfl, hrun⟩

end NodeBootstrap.Node

import NodeBootstrap.Proofs.PrivateFiles
import NodeBootstrap.Proofs.UpgradeCourse

/-!
# The files of an upgrade

An upgrade that is given parameters stores a configuration once, in the middle of its last routine.

* `Node.leadIn`: the errands of an upgrade up to the last installation of packages;
* `Node.exists_course_eq`: what comes after it;
* **`Node.upgrade_stores_only_the_target`**: which files an upgrade changes, and when.
-/

namespace NodeBootstrap.Node

variable {n : Node} {x : Executor} {role : Role} {target : Version} {stored : Option Rendering}
  {past : List Command} {s t : Session}

/-- Installs the packages of a version. -/
def installErrands (n : Node) (v : Version) : List Errand :=
  match n.packages with
  | none => [.check (.error (.config .noPackageManagerSet))]
  | some m => [.perform (m.install PackageManager.nodePackages v)]

/-- The errands of a plan up to the installation in its last routine. -/
def plannedLeadIn (n : Node) (role : Role) (target : Version) : Except Failure Plan → List Errand
  | .error e => [.check (.error e)]
  | .ok p => n.stepErrands role none p.steps.dropLast ++ n.installErrands target

/-- The errands of an upgrade up to the installation in its last routine. -/
def leadIn (n : Node) (x : Executor) (past : List Command) (role : Role) (target : Version) :
    List Errand :=
  n.queryErrands ++ n.plannedLeadIn role target (n.planFor x past target)

/-! ## Before the configuration -/

theorem still_settleErrands (n : Node) (role : Role) (v : Version) :
    ∀ errand ∈ n.settleErrands role v, errand.Still := by
  simp [settleErrands, Errand.perform, Errand.Still]

theorem still_installErrands (n : Node) (v : Version) :
    ∀ errand ∈ n.installErrands v, errand.Still := by
  unfold installErrands
  rcases n.packages with _ | m
  · simp [Errand.Still]
  · simp [Errand.perform, Errand.Still]

theorem still_routineErrands_none (n : Node) (role : Role) (v : Version) :
    ∀ errand ∈ n.routineErrands role none v, errand.Still := by
  unfold routineErrands
  rcases n.packages with _ | m
  · simp [Errand.Still]
  · intro errand h
    rcases List.mem_cons.mp h with rfl | h
    · trivial
    · exact still_settleErrands n role v errand h

theorem still_stepErrands_none (n : Node) (role : Role) (steps : List (Move × Version)) :
    ∀ errand ∈ n.stepErrands role none steps, errand.Still := by
  intro errand h
  obtain ⟨⟨move, v⟩, -, h⟩ := List.mem_flatMap.mp h
  cases move with
  | patch => exact still_routineErrands_none n role v errand h
  | minor => exact still_routineErrands_none n role v errand h

theorem still_queryErrands (n : Node) : ∀ errand ∈ n.queryErrands, errand.Still := by
  simp [queryErrands, Errand.Still]

theorem still_plannedErrands_none (n : Node) (role : Role) (plan : Except Failure Plan) :
    ∀ errand ∈ n.plannedErrands role none plan, errand.Still := by
  rcases plan with e | p
  · simp [plannedErrands, Errand.Still]
  · exact still_stepErrands_none n role p.steps

theorem still_course_none (n : Node) (x : Executor) (past : List Command) (role : Role)
    (target : Version) : ∀ errand ∈ n.course x past role target none, errand.Still := by
  intro errand h
  rcases List.mem_append.mp h with h | h
  · exact still_queryErrands n errand h
  · exact still_plannedErrands_none n role _ errand h

theorem still_leadIn (n : Node) (x : Executor) (past : List Command) (role : Role)
    (target : Version) : ∀ errand ∈ n.leadIn x past role target, errand.Still := by
  intro errand h
  rcases List.mem_append.mp h with h | h
  · exact still_queryErrands n errand h
  · rcases hplan : n.planFor x past target with e | p
    · rw [hplan] at h
      simp only [plannedLeadIn, List.mem_singleton] at h
      simp [h, Errand.Still]
    · rw [hplan] at h
      rcases List.mem_append.mp h with h | h
      · exact still_stepErrands_none n role _ errand h
      · exact still_installErrands n target errand h

/-! ## The configuration and what comes after it -/

theorem target_of_planFor {p : Plan} (h : n.planFor x past target = .ok p) :
    p.target = target := by
  obtain ⟨o, -, hplan⟩ := Results.bind_eq_ok_iff.mp h
  exact Plan.target_of hplan

/-- The errands of a plan: those of the way into the minor line, and the last routine. -/
theorem stepErrands_steps (n : Node) (role : Role) (stored : Option Rendering) (p : Plan) :
    n.stepErrands role stored p.steps =
      n.stepErrands role none p.steps.dropLast ++ n.routineErrands role stored p.target := by
  rw [Plan.steps, List.dropLast_concat]
  rcases p.staging with _ | v
  · simp [stepErrands, storedBy]
  · simp [stepErrands, storedBy]

/-- After the last installation come the configuration, if there is one, and the rest of the
routine. -/
theorem exists_course_eq (n : Node) (x : Executor) (past : List Command) (role : Role)
    (target : Version) (stored : Option Rendering) : ∃ rest,
      n.course x past role target stored = n.leadIn x past role target ++ rest ∧
        ∀ s t, (Errand.inOrder x (n.leadIn x past role target)).exec s = (.ok (), t) →
          rest = n.storeErrands stored ++ n.settleErrands role target := by
  rw [course, leadIn]
  rcases hplan : n.planFor x past target with e | p
  · refine ⟨[], by simp [plannedErrands, plannedLeadIn], fun s t h => ?_⟩
    obtain ⟨u, -, hcheck⟩ := Errand.inOrder_append_eq_ok_iff.mp h
    cases hcheck
  · rw [plannedErrands, plannedLeadIn, stepErrands_steps, target_of_planFor hplan, routineErrands,
      installErrands]
    rcases n.packages with _ | m
    · refine ⟨[], by simp, fun s t h => ?_⟩
      obtain ⟨u, -, hplanned⟩ := Errand.inOrder_append_eq_ok_iff.mp h
      obtain ⟨v, -, hcheck⟩ := Errand.inOrder_append_eq_ok_iff.mp hplanned
      cases hcheck
    · exact ⟨_, by simp, fun _ _ _ => rfl⟩

/-- Storing a text and settling: the trees that the commands see, and the one that stays. -/
theorem exec_write_settle (n : Node) (x : Executor) (role : Role) (v : Version) (text : String)
    (t : Session) :
    let run := (Errand.inOrder x (.write n.configPath text :: n.settleErrands role v)).exec t
    PrivateFile.Confined n.configPath t.tree run.2.tree ∧
      ∃ late : List Call, run.2.calls = t.calls ++ late ∧
        late.map Call.command <+: Errand.commands (n.settleErrands role v) ∧
        (∀ c ∈ late, c.tree = run.2.tree ∧ c.tree.entry? n.configPath =
          some (.file PrivateFile.fileMode (.text text))) ∧
        (late = [] → ∃ e, run.1 = .error e ∧
          (PrivateFile.write n.configPath text).exec t.tree = (.error e, run.2.tree)) := by
  intro run
  have hconfined := PrivateFile.confined_write n.configPath text t.tree
  rcases hwrite : (PrivateFile.write n.configPath text).exec t.tree with ⟨e | _, tree⟩
  · rw [hwrite] at hconfined
    have hrun : run = (.error e, { t with tree }) := Errand.inOrder_cons_error (by simp [hwrite])
    rw [hrun]
    exact ⟨hconfined, [], by simp, by simp, by simp, fun _ => ⟨e, rfl, rfl⟩⟩
  · rw [hwrite] at hconfined
    have hrun : run = (Errand.inOrder x (n.settleErrands role v)).exec { t with tree } :=
      Errand.inOrder_cons_ok (by simp [hwrite])
    obtain ⟨htree, late, hlate, hold⟩ :=
      Errand.inOrder_still x { t with tree } (still_settleErrands n role v)
    obtain ⟨new, hnew, hprefix⟩ :=
      Errand.exists_commands_inOrder x (n.settleErrands role v) { t with tree }
    obtain ⟨more, hmore⟩ : ∃ more, run.2.calls = t.calls ++ ⟨n.kubeadm.upgrade role v, tree⟩ ::
        more := by
      rw [hrun, settleErrands]
      exact Errand.calls_inOrder_perform ..
    rw [← hrun] at htree hlate hnew
    refine ⟨htree ▸ hconfined, late, hlate, ?_, fun c hc => ?_, fun hempty => ?_⟩
    · rw [Session.commands, hlate, List.map_append] at hnew
      rw [List.append_cancel_left hnew]
      exact hprefix
    · rw [hold c hc, htree]
      exact ⟨rfl, PrivateFile.entry?_write hwrite⟩
    · rw [hlate, hempty] at hmore
      simp at hmore

/-- **An upgrade stores only the configuration of its target**, and only once the packages of the
target are installed. -/
theorem upgrade_stores_only_the_target (n : Node) (x : Executor) (role : Role) (target : Version)
    (p : Option Parameters) (s : Session) :
    let run := (n.upgrade x target role p).exec s
    match p with
    | none => s.SameFiles run.2
    | some q =>
      match (match role with
        | .primary => initRendering target q
        | .controlPlane | .worker => joinRendering target q) with
      | .error e => run = (.error e, s)
      | .ok r =>
        match (Errand.inOrder x (n.leadIn x s.commands role target)).exec s with
        | (.error e, t) => run = (.error e, t) ∧ s.SameFiles t
        | (.ok (), t) => s.SameFiles t ∧
          PrivateFile.Confined n.configPath s.tree run.2.tree ∧
          ∃ late : List Call, run.2.calls = t.calls ++ late ∧
            late.map Call.command <+: [n.kubeadm.upgrade role target, n.systemctl.daemonReload,
              n.systemctl.restart Systemctl.nodeAgent] ∧
            (∀ c ∈ late, c.tree = run.2.tree ∧
              c.tree.entry? n.configPath = some (.file 0o600 (.text r.text))) ∧
            (late = [] → ∃ e, run.1 = .error e ∧
              (PrivateFile.write n.configPath r.text).exec s.tree = (.error e, run.2.tree)) := by
  intro run
  rcases p with _ | q
  · have hstill := Errand.inOrder_still x s (still_course_none n x s.commands role target)
    rw [← session_upgrade (p := none) rfl] at hstill
    exact hstill
  have hfor : (match role with
      | .primary => initRendering target q
      | .controlPlane | .worker => joinRendering target q) = renderingFor target role q := by
    cases role <;> rfl
  dsimp only
  rw [hfor]
  rcases hr : renderingFor target role q with e | r
  · have hstored : storedFor target role (some q) = .error e := by rw [storedFor, hr]; rfl
    exact exec_upgrade_of_unrendered hstored
  have hstored : storedFor target role (some q) = .ok (some r) := by rw [storedFor, hr]; rfl
  obtain ⟨rest, hcourse, hrest⟩ := exists_course_eq n x s.commands role target (some r)
  have hstill := Errand.inOrder_still x s (still_leadIn n x s.commands role target)
  dsimp only
  rcases hlead : (Errand.inOrder x (n.leadIn x s.commands role target)).exec s with ⟨e | _, t⟩
  · rw [hlead] at hstill
    have hrun : run = (.error e, t) := exec_upgrade_of_error hstored
      (by rw [hcourse, Errand.inOrder_append_error hlead])
    exact ⟨hrun, hstill⟩
  · rw [hlead] at hstill
    have hsettle := exec_write_settle n x role target r.text t
    have hall : (Errand.inOrder x (n.course x s.commands role target (some r))).exec s =
        (Errand.inOrder x (.write n.configPath r.text :: n.settleErrands role target)).exec t := by
      rw [hcourse, Errand.inOrder_append_ok hlead, hrest s t hlead]
      rfl
    have hsession : run.2 = ((Errand.inOrder x
        (.write n.configPath r.text :: n.settleErrands role target)).exec t).2 := by
      rw [← hall]
      exact session_upgrade hstored
    obtain ⟨hconfined, late, hlate, hprefix, hfile, hempty⟩ := hsettle
    rw [← hsession] at hconfined hlate hfile hempty
    rw [hstill.tree] at hconfined hempty
    refine ⟨hstill, hconfined, late, hlate, hprefix, hfile, fun hnone => ?_⟩
    obtain ⟨e, herror, hwrite⟩ := hempty hnone
    refine ⟨e, ?_, hwrite⟩
    have hrun : run = (.error e, run.2) :=
      exec_upgrade_of_error hstored (hall.trans (Prod.ext herror hsession.symm))
    rw [hrun]

end NodeBootstrap.Node

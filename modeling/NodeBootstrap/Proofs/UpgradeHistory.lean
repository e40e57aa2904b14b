import NodeBootstrap.Proofs.Governing

/-!
# Upgrades over time

A cluster is asked for upgrades, one request after another, and each routine may fail on its way.

* `Standing`, `Standing.after`: the two versions that count, and what a routine makes of them;
* `World`, `World.routines`: a host whose routines end in any way, as its past may decide;
* `serve`: requests one after another;
* `Standing.current_le_after`, `Standing.current_after_le`: a routine leads to a version in
  between, however it ends;
* `History.Later`: what a run leaves behind it;
* **`upgrades_only_rise`**: over any run versions rise line by line, and an upgrade that failed may
  be asked for again.
-/

namespace NodeBootstrap

/-- The versions of a cluster that count for an upgrade. -/
structure Standing where
  server : Version
  recorded : Version

/-- How a routine ends. When it fails, it has brought the server to its version or not, and
likewise the record. -/
inductive Ending where
  | success
  | failure (e : Failure) (server recorded : Bool)

/-- The result of a routine. -/
def Ending.result : Ending → Except Failure Unit
  | success => .ok ()
  | failure e _ _ => .error e

namespace Standing

/-- What is observed, together with a client. -/
def observed (s : Standing) (client : Version) : Observation := ⟨client, s.server, s.recorded⟩

/-- The version that a cluster counts as running. -/
def current (s : Standing) : Version := if s.recorded < s.server then s.recorded else s.server

/-- The versions after a routine. -/
def after (s : Standing) (v : Version) : Ending → Standing
  | .success => ⟨v, v⟩
  | .failure _ server recorded =>
    ⟨if server then v else s.server, if recorded then v else s.recorded⟩

end Standing

/-- A routine that was run. -/
structure Visit where
  move : Move
  version : Version
  before : Standing
  after : Standing

/-- The versions of a cluster and the routines run on it so far, the first one first. -/
structure History where
  standing : Standing
  visits : List Visit

/-- The history after one more routine. -/
def History.visited (h : History) (move : Move) (v : Version) (ending : Ending) : History :=
  ⟨h.standing.after v ending, h.visits ++ [⟨move, v, h.standing, h.standing.after v ending⟩]⟩

/-- What decides over the client and over how routines end: anything that the past may decide. -/
structure World where
  client : History → Except Failure Version
  ending : History → Move → Version → Ending

namespace World

/-- Runs a routine. -/
def routine (w : World) (move : Move) (v : Version) : Act History Unit :=
  Act.of fun h => ((w.ending h move v).result, h.visited move v (w.ending h move v))

/-- What the governor works with. -/
def routines (w : World) : Routines History where
  observe := Act.of fun h => ((w.client h).map h.standing.observed, h)
  minor := w.routine .minor
  patch := w.routine .patch

end World

/-- Serves requests one after another, whether they succeed or not. -/
def serve : List (World × Version) → History → History
  | [], h => h
  | (w, target) :: rest, h => serve rest ((Governor.upgrade w.routines target).exec h).2

variable {w : World} {h h' : History} {s t u : Standing} {v target top : Version} {move : Move}

/-! ## One routine -/

namespace Standing

theorem le_current_iff : v ≤ s.current ↔ v ≤ s.server ∧ v ≤ s.recorded := by
  unfold current
  split_ifs with hlt <;> simp only [Version.lt_iff, Version.le_iff] at hlt ⊢ <;> omega

theorem current_le_iff : s.current ≤ v ↔ s.server ≤ v ∨ s.recorded ≤ v := by
  unfold current
  split_ifs with hlt <;> simp only [Version.lt_iff, Version.le_iff] at hlt ⊢ <;> omega

@[simp] theorem current_success (s : Standing) (v : Version) :
    (s.after v .success).current = v := ite_self v

/-- A routine never leads back, however it ends. -/
theorem current_le_after (h : s.current ≤ v) (ending : Ending) :
    s.current ≤ (s.after v ending).current := by
  obtain ⟨hserver, hrecorded⟩ := le_current_iff.mp (Version.le_refl s.current)
  cases ending with
  | success => rwa [current_success]
  | failure e server recorded =>
    rw [le_current_iff]
    cases server <;> cases recorded <;> exact ⟨by assumption, by assumption⟩

/-- A routine never leads beyond its version, however it ends. -/
theorem current_after_le (h : s.current ≤ v) (ending : Ending) :
    (s.after v ending).current ≤ v := by
  cases ending with
  | success =>
    rw [current_success]
    exact Version.le_refl v
  | failure e server recorded =>
    cases server with
    | true => exact current_le_iff.mpr (Or.inl (Version.le_refl v))
    | false =>
      cases recorded with
      | true => exact current_le_iff.mpr (Or.inr (Version.le_refl v))
      | false => exact h

end Standing

/-- A routine at a supported version that leads forward, and into the next minor line at most. -/
structure Visit.Sound (visit : Visit) : Prop where
  rises : visit.before.current ≤ visit.after.current
  major : visit.after.current.major = visit.before.current.major
  minor : visit.after.current.minor.toNat ≤ visit.before.current.minor.toNat + 1
  supported : ∃ selection, Selection.of visit.version = .ok selection

theorem Visit.sound (move : Move) (hreach : s.current.Reaches v)
    (hsupported : ∃ selection, Selection.of v = .ok selection) (ending : Ending) :
    (⟨move, v, s, s.after v ending⟩ : Visit).Sound := by
  obtain ⟨hle, hmajor, hminor⟩ := (hreach.between (Standing.current_le_after hreach.le ending)
    (Standing.current_after_le hreach.le ending)).1
  exact ⟨hle, hmajor, hminor, hsupported⟩

/-! ## What a run leaves behind -/

/-- Routines each of which begins where the one before it ended. -/
def Linked (s t : Standing) : List Visit → Prop
  | [] => s = t
  | visit :: rest => visit.before = s ∧ Linked visit.after t rest

theorem Linked.append {l k : List Visit} (hl : Linked s t l) (hk : Linked t u k) :
    Linked s u (l ++ k) := by
  induction l generalizing s with
  | nil =>
    obtain rfl : s = t := hl
    exact hk
  | cons visit l ih => exact ⟨hl.1, ih hl.2⟩

theorem Linked.current {l : List Visit} (hl : Linked s t l) (hsound : ∀ visit ∈ l, visit.Sound) :
    s.current ≤ t.current ∧ t.current.major = s.current.major := by
  induction l generalizing s with
  | nil =>
    obtain rfl : s = t := hl
    exact ⟨Version.le_refl _, rfl⟩
  | cons visit l ih =>
    obtain ⟨rfl, hrest⟩ := hl
    obtain ⟨hrises, hmajor, -, -⟩ := hsound visit (List.mem_cons_self ..)
    obtain ⟨hle, heq⟩ := ih hrest fun other hmem => hsound other (List.mem_cons_of_mem _ hmem)
    exact ⟨Version.le_trans hrises hle, heq.trans hmajor⟩

/-- A later history, after sound routines only. -/
def History.Later (h h' : History) : Prop :=
  ∃ new, h'.visits = h.visits ++ new ∧ Linked h.standing h'.standing new ∧
    ∀ visit ∈ new, visit.Sound

namespace History

theorem Later.refl (h : History) : h.Later h := ⟨[], by simp, rfl, by simp⟩

theorem Later.trans {h'' : History} (hl : h.Later h') (hk : h'.Later h'') : h.Later h'' := by
  obtain ⟨l, hvisits, hlinked, hsound⟩ := hl
  obtain ⟨k, hvisits', hlinked', hsound'⟩ := hk
  refine ⟨l ++ k, by rw [hvisits', hvisits, List.append_assoc], hlinked.append hlinked',
    fun visit hmem => ?_⟩
  rcases List.mem_append.mp hmem with hmem | hmem
  · exact hsound visit hmem
  · exact hsound' visit hmem

theorem later_visited (move : Move) (hreach : h.standing.current.Reaches v)
    (hsupported : ∃ selection, Selection.of v = .ok selection) (ending : Ending) :
    h.Later (h.visited move v ending) := by
  refine ⟨_, rfl, ⟨rfl, rfl⟩, fun visit hmem => ?_⟩
  obtain rfl := List.mem_singleton.mp hmem
  exact Visit.sound move hreach hsupported ending

end History

/-! ## The steps of a plan -/

/-- Steps that lead from a version up to another, each of them an allowed move to a supported
version. -/
def Climbs (top : Version) : Version → List (Move × Version) → Prop
  | v, [] => v ≤ top
  | v, step :: rest => v.Reaches step.2 ∧ (∃ selection, Selection.of step.2 = .ok selection) ∧
    Climbs top step.2 rest

theorem Climbs.le {steps : List (Move × Version)} (hc : Climbs top v steps) : v ≤ top := by
  induction steps generalizing v with
  | nil => exact hc
  | cons step steps ih =>
    obtain ⟨hreach, -, hrest⟩ := hc
    exact Version.le_trans hreach.le (ih hrest)

/-- The steps of a plan climb. -/
theorem Plan.climbs_steps {o : Observation} {p : Plan} (hp : Plan.of o target = .ok p) :
    Climbs target o.current p.steps := by
  obtain ⟨move, selection, hmove, hselection, rfl⟩ := Plan.of_eq_ok_iff.mp hp
  have hreach : o.current.Reaches target := Version.reaches_iff.mpr ⟨move, hmove⟩
  have hlast : Climbs target target [] := Version.le_refl target
  cases move with
  | patch => exact ⟨hreach, ⟨selection, hselection⟩, hlast⟩
  | minor =>
    have hbase : target.minorBase.Reaches target :=
      Version.reaches_iff.mpr ⟨_, Version.move_minorBase target⟩
    have henter : o.current.Reaches target.minorBase := by
      rw [Version.move_eq_minor_iff] at hmove
      exact Version.reaches_iff.mpr ⟨.minor, Version.move_eq_minor_iff.mpr hmove⟩
    exact ⟨henter, Selection.exists_of_minorBase hselection, hbase, ⟨selection, hselection⟩, hlast⟩

/-- Every plan ends with the routine at the target. -/
theorem Plan.exists_steps_eq {o : Observation} {p : Plan} (hp : Plan.of o target = .ok p) :
    ∃ before, p.steps = before ++ [(.patch, target)] := by
  obtain ⟨move, selection, -, -, rfl⟩ := Plan.of_eq_ok_iff.mp hp
  exact ⟨_, rfl⟩

/-- A routine that succeeds is followed by the other steps; one that fails is the last. -/
theorem World.exec_runAll_cons (w : World) (step : Move × Version) (steps : List (Move × Version))
    (h : History) : (w.routines.runAll (step :: steps)).exec h =
      match w.ending h step.1 step.2 with
      | .success => (w.routines.runAll steps).exec (h.visited step.1 step.2 .success)
      | .failure e server recorded =>
        (.error e, h.visited step.1 step.2 (.failure e server recorded)) := by
  have hrun : (w.routines.run step.1 step.2).exec h = ((w.ending h step.1 step.2).result,
      h.visited step.1 step.2 (w.ending h step.1 step.2)) := by
    rcases step with ⟨_ | _, v⟩ <;> rfl
  rw [Routines.runAll]
  cases hending : w.ending h step.1 step.2 with
  | success =>
    rw [hending] at hrun
    rw [Act.exec_bind_ok hrun]
  | failure e server recorded =>
    rw [hending] at hrun
    rw [Act.exec_bind_error hrun]

/-- **Steps that climb only climb**, also when one of them fails. -/
theorem World.later_runAll (w : World) {steps : List (Move × Version)}
    (hc : Climbs top h.standing.current steps) :
    h.Later ((w.routines.runAll steps).exec h).2 ∧
      ((w.routines.runAll steps).exec h).2.standing.current ≤ top := by
  induction steps generalizing h with
  | nil => exact ⟨History.Later.refl h, hc⟩
  | cons step steps ih =>
    obtain ⟨hreach, hsupported, hrest⟩ := hc
    have hlater := History.later_visited step.1 hreach hsupported (w.ending h step.1 step.2)
    rw [w.exec_runAll_cons]
    cases hending : w.ending h step.1 step.2 with
    | success =>
      -- both sources are now at the version of the step, so the others climb from there
      rw [hending] at hlater
      obtain ⟨hafter, htop⟩ := ih (h := h.visited step.1 step.2 .success)
        (by simpa [History.visited] using hrest)
      exact ⟨hlater.trans hafter, htop⟩
    | failure e server recorded =>
      rw [hending] at hlater
      exact ⟨hlater, Version.le_trans (Standing.current_after_le hreach.le _) hrest.le⟩

/-- Steps that all succeed end at the version of the last one. -/
theorem World.standing_runAll (w : World) {before : List (Move × Version)}
    (hrun : (w.routines.runAll (before ++ [(move, v)])).exec h = (.ok (), h')) :
    h'.standing = ⟨v, v⟩ := by
  induction before generalizing h with
  | nil =>
    rw [List.nil_append, w.exec_runAll_cons] at hrun
    cases hending : w.ending h move v with
    | success =>
      rw [hending] at hrun
      cases hrun
      rfl
    | failure e server recorded =>
      rw [hending] at hrun
      cases hrun
  | cons step before ih =>
    rw [List.cons_append, w.exec_runAll_cons] at hrun
    cases hending : w.ending h step.1 step.2 with
    | success =>
      rw [hending] at hrun
      exact ih hrun
    | failure e server recorded =>
      rw [hending] at hrun
      cases hrun

/-! ## Requests -/

theorem World.exec_plan (w : World) (target : Version) (h : History) :
    (Governor.plan w.routines target).exec h =
      match w.client h with
      | .error e => (.error e, h)
      | .ok client => (Plan.of (h.standing.observed client) target, h) := by
  rcases hclient : w.client h with e | client
  · exact Governor.exec_plan_of_error (by simp [routines, hclient, Except.map])
  · exact Governor.exec_plan_of_ok (by simp [routines, hclient, Except.map])

/-- A request is refused and changes nothing, or the steps of its plan are run. -/
theorem World.exec_upgrade (w : World) (target : Version) (h : History) :
    (∃ e, (Governor.plan w.routines target).exec h = (.error e, h) ∧
        (Governor.upgrade w.routines target).exec h = (.error e, h)) ∨
      ∃ client p, (Governor.plan w.routines target).exec h = (.ok p, h) ∧
        Plan.of (h.standing.observed client) target = .ok p ∧
        (Governor.upgrade w.routines target).exec h =
          (((w.routines.runAll p.steps).exec h).1.map fun _ => p.report,
            ((w.routines.runAll p.steps).exec h).2) := by
  have hplan := w.exec_plan target h
  rcases hclient : w.client h with e | client
  · rw [hclient] at hplan
    exact Or.inl ⟨e, hplan, Governor.exec_upgrade_of_refusal hplan⟩
  rw [hclient] at hplan
  dsimp only at hplan
  rcases hp : Plan.of (h.standing.observed client) target with e | p
  · rw [hp] at hplan
    exact Or.inl ⟨e, hplan, Governor.exec_upgrade_of_refusal hplan⟩
  · rw [hp] at hplan
    refine Or.inr ⟨client, p, hplan, hp, ?_⟩
    rw [Governor.exec_upgrade_of_plan hplan, Act.exec_bind]
    rcases (w.routines.runAll p.steps).exec h with ⟨_ | _, t⟩ <;> rfl

theorem World.later_upgrade (w : World) (target : Version) (h : History) :
    h.Later ((Governor.upgrade w.routines target).exec h).2 := by
  rcases w.exec_upgrade target h with ⟨e, -, hrun⟩ | ⟨client, p, -, hp, hrun⟩
  · rw [hrun]
    exact History.Later.refl h
  · rw [hrun]
    exact (w.later_runAll (Plan.climbs_steps hp)).1

theorem later_serve (requests : List (World × Version)) (h : History) :
    h.Later (serve requests h) := by
  induction requests generalizing h with
  | nil => exact History.Later.refl h
  | cons request rest ih => exact (request.1.later_upgrade request.2 h).trans (ih _)

/-- **Wherever the steps of a plan end, there is a plan to the same target from there.** -/
theorem Plan.exists_again (w : World) {client : Version} {p : Plan}
    (hp : Plan.of (h.standing.observed client) target = .ok p) (client' : Version) :
    ∃ again, Plan.of (((w.routines.runAll p.steps).exec h).2.standing.observed client') target =
      .ok again := by
  obtain ⟨move, selection, hmove, hselection, -⟩ := Plan.of_eq_ok_iff.mp hp
  obtain ⟨⟨new, -, hlinked, hsound⟩, htop⟩ := w.later_runAll (Plan.climbs_steps hp)
  have hreach : h.standing.current.Reaches target := Version.reaches_iff.mpr ⟨move, hmove⟩
  obtain ⟨again, hagain⟩ := Version.reaches_iff.mp
    (hreach.between (hlinked.current hsound).1 htop).2
  exact ⟨_, Plan.of_eq_ok_iff.mpr ⟨again, selection, hagain, hselection, rfl⟩⟩

/-- **Upgrades only rise, and may be asked for again.** Over requests of any number and in any
order, every routine begins where the one before it ended, runs at a supported version and leads
forward within the major line, by one minor line at most. A request that is accepted then leads to
its target or fails, and after a failure it is accepted again and ends with the routine at the
target. -/
theorem upgrades_only_rise (requests : List (World × Version)) (h : History) :
    let last := serve requests h
    (∃ new, last.visits = h.visits ++ new ∧ Linked h.standing last.standing new ∧
      ∀ visit ∈ new, visit.Sound) ∧
    h.standing.current ≤ last.standing.current ∧
    last.standing.current.major = h.standing.current.major ∧
    ∀ (w : World) (target : Version),
      match (Governor.plan w.routines target).exec last,
        (Governor.upgrade w.routines target).exec last with
      | (.error e, _), run => run = (.error e, last)
      | (.ok _, _), (.ok _, done) => done.standing = ⟨target, target⟩
      | (.ok _, _), (.error _, after) => ∀ w' : World,
        match w'.client after with
        | .error e => (Governor.plan w'.routines target).exec after = (.error e, after)
        | .ok _ => ∃ again before, (Governor.plan w'.routines target).exec after =
          (.ok again, after) ∧ again.steps = before ++ [(.patch, target)] := by
  intro last
  obtain ⟨new, hvisits, hlinked, hsound⟩ := later_serve requests h
  obtain ⟨hle, hmajor⟩ := hlinked.current hsound
  refine ⟨⟨new, hvisits, hlinked, hsound⟩, hle, hmajor, fun w target => ?_⟩
  rcases w.exec_upgrade target last with ⟨e, hplan, hrun⟩ | ⟨client, p, hplan, hp, hrun⟩
  · rw [hplan, hrun]
  have hagain := Plan.exists_again w hp
  rw [hplan, hrun]
  rcases hsteps : (w.routines.runAll p.steps).exec last with ⟨e | _, after⟩
  · rw [hsteps] at hagain
    intro w'
    have hplan' := w'.exec_plan target after
    rcases hclient : w'.client after with e | client'
    · rw [hclient] at hplan'
      exact hplan'
    · obtain ⟨again, hof⟩ := hagain client'
      obtain ⟨before, hsteps'⟩ := Plan.exists_steps_eq hof
      rw [hclient] at hplan'
      dsimp only at hplan'
      rw [hof] at hplan'
      exact ⟨again, before, hplan', hsteps'⟩
  · obtain ⟨before, hbefore⟩ := Plan.exists_steps_eq hp
    rw [hbefore] at hsteps
    exact w.standing_runAll hsteps

/-- An upgrade that has moved the server only is finished by the same request. -/
example :
    let stuck : World := ⟨fun _ => .ok ⟨1, 13, 5⟩,
      fun _ _ _ => .failure (.config .noPackageManagerSet) true false⟩
    let willing : World := ⟨fun _ => .ok ⟨1, 13, 5⟩, fun _ _ _ => .success⟩
    let last := serve [(stuck, ⟨1, 14, 3⟩), (willing, ⟨1, 14, 3⟩)]
      ⟨⟨⟨1, 13, 5⟩, ⟨1, 13, 5⟩⟩, []⟩
    last.visits.map (fun visit => (visit.version, visit.after.current)) =
      [(⟨1, 14, 0⟩, ⟨1, 13, 5⟩), (⟨1, 14, 0⟩, ⟨1, 14, 0⟩), (⟨1, 14, 3⟩, ⟨1, 14, 3⟩)] := by
  decide

end NodeBootstrap

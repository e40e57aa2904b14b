import NodeBootstrap.Node.Basic
import NodeBootstrap.Proofs.Act

/-!
# Errands

What a node does is one errand after another, up to the first that fails.

* `Errand`, `Errand.act`: a command whose answer has to pass a reading, a check, or a private file;
* `Errand.inOrder`: errands in order;
* `Errand.BreaksOff`: errands of which only the last fails, with the session it leaves;
* **`Errand.inOrder_breaksOff`**: errands that do not all succeed break off at the first failure;
* `Session.SameFiles`, `Errand.inOrder_still`: errands without files leave the files alone.
-/

namespace NodeBootstrap

namespace Session

/-- A later session with the same files, which all commands in between have found so. -/
structure SameFiles (s t : Session) : Prop where
  tree : t.tree = s.tree
  calls : ∃ new : List Call, t.calls = s.calls ++ new ∧ ∀ c ∈ new, c.tree = s.tree

theorem SameFiles.refl (s : Session) : SameFiles s s := ⟨rfl, [], by simp, by simp⟩

theorem SameFiles.trans {s t u : Session} (h : SameFiles s t) (h' : SameFiles t u) :
    SameFiles s u := by
  obtain ⟨htree, new, hnew, hold⟩ := h
  obtain ⟨htree', new', hnew', hold'⟩ := h'
  refine ⟨htree'.trans htree, new ++ new', by rw [hnew', hnew, List.append_assoc], fun c hc => ?_⟩
  rcases List.mem_append.mp hc with hc | hc
  · exact hold c hc
  · exact (hold' c hc).trans htree

end Session

/-- One thing that is done to a host. -/
inductive Errand where
  /-- A command, and what is read from its answer. -/
  | call (command : Command) (reading : Output → Except Failure Unit)
  /-- Something that is decided without the host. -/
  | check (verdict : Except Failure Unit)
  /-- A private file. -/
  | write (path : OsText) (text : String)

namespace Errand

/-- A command of which only its success counts. -/
def perform (c : Command) : Errand := call c fun _ => .ok ()

/-- The errand as an action. -/
def act (x : Executor) : Errand → Act Session Unit
  | call c reading => do Act.ofExcept (reading (← Session.run x c))
  | check verdict => Act.ofExcept verdict
  | write path text => Session.onFiles (PrivateFile.write path text)

/-- The command of an errand. -/
def command? : Errand → Option Command
  | call c _ => some c
  | check _ => none
  | write .. => none

/-- The commands of errands in order. -/
def commands (l : List Errand) : List Command := l.filterMap command?

/-- An errand that leaves the files alone. -/
def Still : Errand → Prop
  | write .. => False
  | _ => True

/-- Errands in order, up to the first that fails. -/
def inOrder (x : Executor) : List Errand → Act Session Unit
  | [] => return ()
  | errand :: rest => do
    errand.act x
    inOrder x rest

/-- The last one of some errands fails and all before it succeed. -/
def BreaksOff (x : Executor) (done : List Errand) (s : Session) (e : Failure) (t : Session) :
    Prop :=
  ∃ before last u, done = before ++ [last] ∧ (inOrder x before).exec s = (.ok (), u) ∧
    (last.act x).exec u = (.error e, t)

variable {x : Executor} {s t : Session} {errand : Errand} {l k : List Errand}

@[simp] theorem act_perform (c : Command) : (perform c).act x = Node.perform x c := rfl

@[simp] theorem act_check (verdict : Except Failure Unit) :
    (check verdict).act x = Act.ofExcept verdict := rfl

@[simp] theorem act_write (path : OsText) (text : String) :
    (write path text).act x = Session.onFiles (PrivateFile.write path text) := rfl

@[simp] theorem commands_nil : commands [] = [] := rfl

@[simp] theorem commands_cons : commands (errand :: l) = errand.command?.toList ++ commands l := by
  unfold commands
  cases h : errand.command? <;> simp [h]

@[simp] theorem commands_append : commands (l ++ k) = commands l ++ commands k :=
  List.filterMap_append

/-! ## One errand -/

theorem exec_perform (x : Executor) (c : Command) (s : Session) :
    ((perform c).act x).exec s = ((x s.commands c).map fun _ => (), s.called c) := by
  rw [act_perform, Node.perform, Act.exec_bind, Session.exec_run]
  cases x s.commands c <;> rfl

/-- An errand runs its command, whether it succeeds or not, on the files it finds. -/
theorem calls_act (x : Executor) (errand : Errand) (s : Session) :
    ((errand.act x).exec s).2.calls =
      s.calls ++ errand.command?.toList.map fun c => ⟨c, s.tree⟩ := by
  cases errand with
  | call c reading =>
    rw [act, Act.exec_bind, Session.exec_run]
    cases x s.commands c <;> rfl
  | check verdict => simp [act, command?]
  | write path text => simp [act, command?]

theorem commands_act (x : Executor) (errand : Errand) (s : Session) :
    ((errand.act x).exec s).2.commands = s.commands ++ errand.command?.toList := by
  have := congrArg (List.map Call.command) (calls_act x errand s)
  simpa [Session.commands, Function.comp_def] using this

/-- An errand without a file leaves the files alone. -/
theorem act_still (x : Executor) (s : Session) (h : errand.Still) :
    s.SameFiles ((errand.act x).exec s).2 := by
  have hcalls := calls_act x errand s
  cases errand with
  | call c reading =>
    refine ⟨?_, _, hcalls, by simp [command?]⟩
    rw [act, Act.exec_bind, Session.exec_run]
    cases x s.commands c <;> rfl
  | check verdict => exact Session.SameFiles.refl s
  | write path text => exact h.elim

/-! ## Errands in order -/

@[simp] theorem inOrder_nil : (inOrder x []).exec s = (.ok (), s) := rfl

theorem inOrder_cons_ok (h : (errand.act x).exec s = (.ok (), t)) :
    (inOrder x (errand :: l)).exec s = (inOrder x l).exec t := by
  rw [inOrder, Act.exec_bind_ok h]

theorem inOrder_cons_error {e : Failure} (h : (errand.act x).exec s = (.error e, t)) :
    (inOrder x (errand :: l)).exec s = (.error e, t) := by
  rw [inOrder, Act.exec_bind_error h]

theorem inOrder_perform_ok {c : Command} {output : Output} (h : x s.commands c = .ok output) :
    (inOrder x (perform c :: l)).exec s = (inOrder x l).exec (s.called c) :=
  inOrder_cons_ok (by rw [exec_perform, h]; rfl)

theorem inOrder_perform_error {c : Command} {e : Failure} (h : x s.commands c = .error e) :
    (inOrder x (perform c :: l)).exec s = (.error e, s.called c) :=
  inOrder_cons_error (by rw [exec_perform, h]; rfl)

theorem inOrder_append (x : Executor) (l k : List Errand) (s : Session) :
    (inOrder x (l ++ k)).exec s = (do inOrder x l; inOrder x k : Act Session Unit).exec s := by
  induction l generalizing s with
  | nil => rw [List.nil_append, Act.exec_bind_ok inOrder_nil]
  | cons errand l ih =>
    rw [List.cons_append, Act.exec_bind]
    rcases h : (errand.act x).exec s with ⟨_ | _, t⟩
    · rw [inOrder_cons_error h, inOrder_cons_error h]
    · rw [inOrder_cons_ok h, inOrder_cons_ok h, ih, Act.exec_bind]

theorem inOrder_append_ok (h : (inOrder x l).exec s = (.ok (), t)) :
    (inOrder x (l ++ k)).exec s = (inOrder x k).exec t := by
  rw [inOrder_append, Act.exec_bind_ok h]

theorem inOrder_append_error {e : Failure} (h : (inOrder x l).exec s = (.error e, t)) :
    (inOrder x (l ++ k)).exec s = (.error e, t) := by
  rw [inOrder_append, Act.exec_bind_error h]

theorem inOrder_append_eq_ok_iff : (inOrder x (l ++ k)).exec s = (.ok (), t) ↔
    ∃ u, (inOrder x l).exec s = (.ok (), u) ∧ (inOrder x k).exec u = (.ok (), t) := by
  rcases h : (inOrder x l).exec s with ⟨e | _, u⟩
  · simp [inOrder_append_error h]
  · simp [inOrder_append_ok h]

/-- **Errands that do not all succeed break off**: all errands before the first failure have
succeeded, and no errand after it is begun. -/
theorem inOrder_breaksOff {e : Failure} (h : (inOrder x l).exec s = (.error e, t)) :
    ∃ done rest, l = done ++ rest ∧ BreaksOff x done s e t := by
  induction l generalizing s with
  | nil => simp at h
  | cons errand l ih =>
    rcases hs : (errand.act x).exec s with ⟨e' | _, u⟩
    · rw [inOrder_cons_error hs] at h
      obtain ⟨⟨rfl⟩, rfl⟩ := Prod.mk.inj h
      exact ⟨[errand], l, rfl, [], errand, s, rfl, rfl, hs⟩
    · rw [inOrder_cons_ok hs] at h
      obtain ⟨done, rest, rfl, before, last, v, rfl, hb, hl⟩ := ih h
      exact ⟨errand :: (before ++ [last]), rest, rfl, errand :: before, last, v, rfl,
        by rw [inOrder_cons_ok hs, hb], hl⟩

/-- Only the answers to its own commands count for an errand. -/
theorem exec_act_congr {y : Executor} (s : Session)
    (h : ∀ past, ∀ c ∈ errand.command?, y past c = x past c) :
    (errand.act y).exec s = (errand.act x).exec s := by
  cases errand with
  | call c reading =>
    rw [act, act, Act.exec_bind, Act.exec_bind, Session.exec_run, Session.exec_run,
      h s.commands c rfl]
  | check verdict => rfl
  | write path text => rfl

/-- Only the answers to their own commands count for errands. -/
theorem inOrder_congr {y : Executor} (s : Session)
    (h : ∀ past, ∀ c ∈ commands l, y past c = x past c) :
    (inOrder y l).exec s = (inOrder x l).exec s := by
  induction l generalizing s with
  | nil => rfl
  | cons errand l ih =>
    have hact : (errand.act y).exec s = (errand.act x).exec s :=
      exec_act_congr s fun past c hc => h past c (by simp [Option.mem_def.mp hc])
    have hrest : ∀ t, (inOrder y l).exec t = (inOrder x l).exec t := fun t =>
      ih t fun past c hc => h past c (by simp [hc])
    rw [inOrder, inOrder, Act.exec_bind, Act.exec_bind, hact]
    simp only [hrest]

theorem commands_inOrder (h : (inOrder x l).exec s = (.ok (), t)) :
    t.commands = s.commands ++ commands l := by
  induction l generalizing s with
  | nil => cases h; simp
  | cons errand l ih =>
    have hc := commands_act x errand s
    rcases hs : (errand.act x).exec s with ⟨_ | _, u⟩
    · rw [inOrder_cons_error hs] at h; cases h
    · rw [inOrder_cons_ok hs] at h
      rw [hs] at hc
      rw [ih h, hc, commands_cons, List.append_assoc]

theorem BreaksOff.commands {done : List Errand} {e : Failure} (h : BreaksOff x done s e t) :
    t.commands = s.commands ++ Errand.commands done := by
  obtain ⟨before, last, u, rfl, hb, hl⟩ := h
  have hc := commands_act x last u
  rw [hl] at hc
  rw [hc, commands_inOrder hb, commands_append, commands_cons, commands_nil]
  simp

/-- The commands of errands in order are those of a beginning of them. -/
theorem exists_commands_inOrder (x : Executor) (l : List Errand) (s : Session) :
    ∃ new, ((inOrder x l).exec s).2.commands = s.commands ++ new ∧ new <+: commands l := by
  rcases h : (inOrder x l).exec s with ⟨e | _, t⟩
  · obtain ⟨done, rest, rfl, hbreak⟩ := inOrder_breaksOff h
    exact ⟨_, hbreak.commands, by simp⟩
  · exact ⟨_, commands_inOrder h, List.prefix_refl _⟩

/-- What has been run stays run. -/
theorem exists_calls_inOrder (x : Executor) (l : List Errand) (s : Session) :
    ∃ new, ((inOrder x l).exec s).2.calls = s.calls ++ new := by
  induction l generalizing s with
  | nil => exact ⟨[], by simp⟩
  | cons errand l ih =>
    have hact := calls_act x errand s
    rcases hs : (errand.act x).exec s with ⟨_ | _, u⟩
    · rw [hs] at hact
      rw [inOrder_cons_error hs]
      exact ⟨_, hact⟩
    · rw [hs] at hact
      rw [inOrder_cons_ok hs]
      obtain ⟨new, hnew⟩ := ih u
      exact ⟨_, by rw [hnew, hact, List.append_assoc]⟩

/-- The first command is run in any case, on the files that are there. -/
theorem calls_inOrder_perform (x : Executor) (c : Command) (l : List Errand) (s : Session) :
    ∃ more, ((inOrder x (perform c :: l)).exec s).2.calls = s.calls ++ ⟨c, s.tree⟩ :: more := by
  have hact : (((perform c).act x).exec s).2.calls = s.calls ++ [⟨c, s.tree⟩] :=
    calls_act x (perform c) s
  rcases hs : ((perform c).act x).exec s with ⟨_ | _, u⟩
  · rw [hs] at hact
    rw [inOrder_cons_error hs]
    exact ⟨[], hact⟩
  · rw [hs] at hact
    rw [inOrder_cons_ok hs]
    obtain ⟨new, hnew⟩ := exists_calls_inOrder x l u
    exact ⟨new, by rw [hnew, hact, List.append_assoc, List.singleton_append]⟩

/-- **Errands without files leave the files alone.** -/
theorem inOrder_still (x : Executor) (s : Session) (hl : ∀ errand ∈ l, errand.Still) :
    s.SameFiles ((inOrder x l).exec s).2 := by
  induction l generalizing s with
  | nil => exact Session.SameFiles.refl s
  | cons errand l ih =>
    have hact := act_still x s (hl errand (by simp))
    rcases hs : (errand.act x).exec s with ⟨_ | _, u⟩
    · rw [hs] at hact
      rw [inOrder_cons_error hs]
      exact hact
    · rw [hs] at hact
      rw [inOrder_cons_ok hs]
      exact hact.trans (ih u fun errand h => hl errand (List.mem_cons_of_mem _ h))

end Errand

end NodeBootstrap

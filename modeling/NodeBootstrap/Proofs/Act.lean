import NodeBootstrap.Execution.Basic

/-!
# What actions do

* `Act.exec_bind`, `Act.exec_bind_ok`, `Act.exec_bind_error`: one action after another;
* `Act.exec_attempt`: an action whose failure is only a result;
* `Session.exec_run`, `Session.exec_onFiles`: the two things that a session can do.
-/

namespace NodeBootstrap

variable {σ α β : Type}

namespace Act

@[simp] theorem exec_of (f : σ → Except Failure α × σ) (s : σ) : (Act.of f).exec s = f s := rfl

@[simp] theorem exec_pure (v : α) (s : σ) : (pure v : Act σ α).exec s = (.ok v, s) := rfl

@[simp] theorem exec_throw (e : Failure) (s : σ) : (throw e : Act σ α).exec s = (.error e, s) := rfl

@[simp] theorem exec_ofExcept (r : Except Failure α) (s : σ) : (Act.ofExcept r).exec s = (r, s) :=
  rfl

@[simp] theorem exec_attempt (a : Act σ α) (s : σ) :
    a.attempt.exec s = (.ok (a.exec s).1, (a.exec s).2) := rfl

theorem exec_bind (a : Act σ α) (f : α → Act σ β) (s : σ) :
    (a >>= f).exec s = match a.exec s with
      | (.ok v, t) => (f v).exec t
      | (.error e, t) => (.error e, t) := by
  change (ExceptT.bindCont f (a.exec s).1 : StateM σ _) (a.exec s).2 = _
  rcases a.exec s with ⟨_ | _, t⟩ <;> rfl

@[simp] theorem ofExcept_ok_bind (v : α) (f : α → Act σ β) : Act.ofExcept (.ok v) >>= f = f v :=
  rfl

theorem exec_bind_ok {a : Act σ α} {s t : σ} {v : α} (h : a.exec s = (.ok v, t))
    (f : α → Act σ β) : (a >>= f).exec s = (f v).exec t := by
  rw [exec_bind, h]

theorem exec_bind_error {a : Act σ α} {s t : σ} {e : Failure} (h : a.exec s = (.error e, t))
    (f : α → Act σ β) : (a >>= f).exec s = (.error e, t) := by
  rw [exec_bind, h]

theorem exec_eq_of_fst {a : Act σ α} {s : σ} {r : Except Failure α} (h : (a.exec s).1 = r) :
    a.exec s = (r, (a.exec s).2) :=
  Prod.ext h rfl

end Act

namespace Session

@[simp] theorem exec_run (x : Executor) (c : Command) (s : Session) :
    (run x c).exec s = (x s.commands c, s.called c) := rfl

@[simp] theorem exec_onFiles (a : Act FileTree α) (s : Session) :
    (onFiles a).exec s = ((a.exec s.tree).1, { s with tree := (a.exec s.tree).2 }) := rfl

@[simp] theorem commands_called (s : Session) (c : Command) :
    (s.called c).commands = s.commands ++ [c] := by
  simp [commands, called]

@[simp] theorem tree_called (s : Session) (c : Command) : (s.called c).tree = s.tree := rfl

@[simp] theorem calls_called (s : Session) (c : Command) :
    (s.called c).calls = s.calls ++ [⟨c, s.tree⟩] := rfl

end Session

end NodeBootstrap

import NodeBootstrap.Failure

/-!
# Actions

* `Act`: an action that may fail and whose effects on a state stay also when it fails;
* `Act.exec`: its result and the state after it;
* `Act.ofExcept`: a result as an action that changes nothing;
* `Act.attempt`: an action whose failure is only a result.
-/

namespace NodeBootstrap

/-- An action that may fail; its effects on the state stay also when it fails. -/
abbrev Act (σ : Type) := ExceptT Failure (StateM σ)

namespace Act

/-- The result of an action and the state after it. -/
def exec (a : Act σ α) (s : σ) : Except Failure α × σ := (ExceptT.run a).run s

/-- An action by its result and the state after it. -/
def of (f : σ → Except Failure α × σ) : Act σ α := ExceptT.mk f

/-- A result as an action that changes nothing. -/
def ofExcept (x : Except Failure α) : Act σ α := of fun s => (x, s)

/-- An action whose failure is only a result. -/
def attempt (a : Act σ α) : Act σ (Except Failure α) := of fun s =>
  (.ok (a.exec s).1, (a.exec s).2)

end Act

end NodeBootstrap

/-!
# Results of steps

* `Results.bind_eq_ok_iff`, `Results.map_eq_ok_iff`: two steps succeed when both do;
* `Results.bind_eq_error_iff`, `Results.map_eq_error_iff`: two steps fail when either does;
* `Results.mapError_eq_ok_iff`: how a failure is reported does not matter for success;
* `Results.exists_eq_ok_iff`: there is a result when the step says so.
-/

namespace NodeBootstrap.Results

variable {ε α β : Type}

theorem bind_eq_ok_iff {r : Except ε α} {f : α → Except ε β} {b : β} :
    (r >>= f) = .ok b ↔ ∃ a, r = .ok a ∧ f a = .ok b := by
  rcases r with e | a
  · simp [bind, Except.bind]
  · simp [bind, Except.bind]

theorem bind_eq_error_iff {r : Except ε α} {f : α → Except ε β} {e : ε} :
    (r >>= f) = .error e ↔ r = .error e ∨ ∃ a, r = .ok a ∧ f a = .error e := by
  rcases r with e' | a
  · simp [bind, Except.bind]
  · simp [bind, Except.bind]

theorem map_eq_ok_iff {r : Except ε α} {f : α → β} {b : β} :
    r.map f = .ok b ↔ ∃ a, r = .ok a ∧ f a = b := by
  rcases r with e | a
  · simp [Except.map]
  · simp [Except.map]

theorem map_eq_error_iff {r : Except ε α} {f : α → β} {e : ε} :
    r.map f = .error e ↔ r = .error e := by
  rcases r with e' | a
  · simp [Except.map]
  · simp [Except.map]

theorem mapError_eq_ok_iff {δ : Type} {r : Except ε α} {f : ε → δ} {a : α} :
    r.mapError f = .ok a ↔ r = .ok a := by
  rcases r with e | a'
  · exact ⟨fun h => (nomatch h), fun h => (nomatch h)⟩
  · exact ⟨fun h => congrArg _ (Except.ok.inj h), fun h => congrArg _ (Except.ok.inj h)⟩

theorem exists_eq_ok_iff {r : Except ε α} : (∃ a, r = .ok a) ↔ r.isOk = true := by
  rcases r with e | a
  · simp [Except.isOk, Except.toBool]
  · simp [Except.isOk, Except.toBool]

end NodeBootstrap.Results

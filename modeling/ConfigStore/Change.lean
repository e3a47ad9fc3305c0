/-!
# Changes in place

What is left by a change that is made step by step and may fail on the way.

* `Change.committed` keeps the state of a change that succeeded and drops any other.
* `Change.staged` is a change that was prepared on a copy.
-/

namespace ConfigStore

/-- How a change went, and the state after it, be it that it failed. -/
structure Change (ε σ : Type) where
  outcome : Except ε Unit
  state : σ

namespace Change

variable {ε σ : Type}

/-- The state after a change that succeeded. -/
def committed (change : Change ε σ) : Except ε σ := change.outcome.map fun _ => change.state

/-- The change that puts a prepared state in place of the one before. -/
def staged (before : σ) : Except ε σ → Change ε σ
  | .ok state => ⟨.ok (), state⟩
  | .error error => ⟨.error error, before⟩

end Change

end ConfigStore

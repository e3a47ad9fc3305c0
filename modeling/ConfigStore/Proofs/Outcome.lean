import ConfigStore.Change

/-!
# Outcomes

* `Except.bind_eq_ok_iff`, `Except.map_eq_ok_iff`, `Except.mapError_eq_ok_iff`: what an outcome
  that succeeded consists of. `Except.map_eq_error_iff`, `Except.mapError_eq_error_iff` are for one
  that failed, and `Except.toOption_eq_some_iff` forgets its reason.
* `Except.mapM_cases`, `Option.exists_mem_of_mapM`: the outcome for a list. `Except.check_cases`
  finds the first item that does not pass a check.
* `Except.verdict` is what is left of an outcome without its value; `Except.verdict_bind_congr`
  compares two runs step by step.
* `Change.Atomic`: a change that fails leaves the state as it was, as if it had been prepared on
  a copy (`Change.Atomic.eq_staged`).
-/

namespace Except

variable {ε δ α β : Type}

@[simp] theorem ok_bind (a : α) (next : α → Except ε β) : (ok a >>= next) = next a := rfl

@[simp] theorem error_bind (e : ε) (next : α → Except ε β) :
    ((error e : Except ε α) >>= next) = error e := rfl

@[simp] theorem bind_ok (a : α) (next : α → Except ε β) : (ok a).bind next = next a := rfl

@[simp] theorem ok_map (a : α) (f : α → β) : (ok a : Except ε α).map f = ok (f a) := rfl

@[simp] theorem error_map (e : ε) (f : α → β) : (error e : Except ε α).map f = error e := rfl

@[simp] theorem ok_mapError (a : α) (f : ε → δ) : (ok a).mapError f = ok a := rfl

@[simp] theorem error_mapError (e : ε) (f : ε → δ) :
    (error e : Except ε α).mapError f = error (f e) := rfl

theorem bind_eq_ok_iff {first : Except ε α} {next : α → Except ε β} {b : β} :
    first >>= next = ok b ↔ ∃ a, first = ok a ∧ next a = ok b := by
  cases first <;> simp

theorem map_eq_ok_iff {first : Except ε α} {f : α → β} {b : β} :
    first.map f = ok b ↔ ∃ a, first = ok a ∧ f a = b := by
  cases first <;> simp

theorem map_eq_error_iff {first : Except ε α} {f : α → β} {e : ε} :
    first.map f = error e ↔ first = error e := by
  cases first <;> simp

theorem toOption_eq_some_iff {outcome : Except ε α} {a : α} :
    outcome.toOption = some a ↔ outcome = ok a := by
  cases outcome <;> simp [Except.toOption]

/-- What an outcome comes to, if that much of it can be computed. -/
theorem exists_of_toOption_map {outcome : Except ε α} {f : α → β} {b : β}
    (h : (outcome.map f).toOption = some b) : ∃ a, outcome = ok a ∧ f a = b :=
  map_eq_ok_iff.mp (toOption_eq_some_iff.mp h)

theorem mapError_eq_ok_iff {first : Except ε α} {f : ε → δ} {a : α} :
    first.mapError f = ok a ↔ first = ok a := by
  cases first <;> simp

theorem mapError_eq_error_iff {first : Except ε α} {f : ε → δ} {e : δ} :
    first.mapError f = error e ↔ ∃ reason, first = error reason ∧ f reason = e := by
  cases first <;> simp

/-- Either every item has a result, or the error of one of them is that of the whole list. -/
theorem mapM_cases (f : α → Except ε β) (items : List α) :
    (∃ results, items.mapM f = .ok results ∧ items.map f = results.map .ok) ∨
      ∃ item ∈ items, ∃ error, f item = .error error ∧ items.mapM f = .error error := by
  induction items with
  | nil => exact .inl ⟨[], rfl, rfl⟩
  | cons item rest ih =>
    rw [List.mapM_cons]
    cases hItem : f item with
    | error error => exact .inr ⟨item, List.mem_cons_self, error, hItem, rfl⟩
    | ok result =>
      rcases ih with ⟨results, hResults, hMap⟩ | ⟨other, hOther, error, hError, hRest⟩
      · exact .inl ⟨result :: results, by rw [hResults]; rfl, by
          rw [List.map_cons, hItem, hMap, List.map_cons]⟩
      · exact .inr ⟨other, List.mem_cons_of_mem _ hOther, error, hError, by rw [hRest]; rfl⟩

theorem exists_of_mem_mapM {f : α → Except ε β} {items : List α} {results : List β}
    (h : items.mapM f = ok results) {result : β} (hResult : result ∈ results) :
    ∃ item ∈ items, f item = ok result := by
  rcases mapM_cases f items with ⟨others, hOthers, hMap⟩ | ⟨-, -, error, -, hError⟩
  · cases h.symm.trans hOthers
    exact List.mem_map.mp (hMap ▸ List.mem_map_of_mem hResult)
  · cases h.symm.trans hError

/-- Either all items pass a check, or there is a first one that does not. -/
theorem check_cases (check : α → Except ε Unit) (items : List α) :
    (∀ item ∈ items, check item = ok ()) ∨
      ∃ accepted first behind reason, items = accepted ++ first :: behind ∧
        (∀ item ∈ accepted, check item = ok ()) ∧ check first = error reason := by
  induction items with
  | nil => exact .inl (by simp)
  | cons item rest ih =>
    cases hItem : check item with
    | error reason => exact .inr ⟨[], item, rest, reason, rfl, by simp, hItem⟩
    | ok done =>
      rcases ih with hAll | ⟨accepted, first, behind, reason, rfl, hAccepted, hFirst⟩
      · exact .inl (List.forall_mem_cons.mpr ⟨hItem, hAll⟩)
      · exact .inr ⟨item :: accepted, first, behind, reason, rfl,
          List.forall_mem_cons.mpr ⟨hItem, hAccepted⟩, hFirst⟩

/-! ## Verdicts -/

/-- Whether an outcome is a failure, and for which reason. -/
def verdict (outcome : Except ε α) : Except ε Unit := outcome.map fun _ => ()

theorem verdict_map (outcome : Except ε α) (f : α → β) :
    (outcome.map f).verdict = outcome.verdict := by
  cases outcome <;> rfl

theorem verdict_mapError (outcome : Except ε α) (f : ε → δ) :
    (outcome.mapError f).verdict = outcome.verdict.mapError f := by
  cases outcome <;> rfl

/-- Steps that go the same way one by one go the same way together. -/
theorem verdict_bind_congr {first second : Except ε α} {next other : α → Except ε β}
    (h : first.verdict = second.verdict)
    (hNext : ∀ a b, first = ok a → second = ok b → (next a).verdict = (other b).verdict) :
    (first >>= next).verdict = (second >>= other).verdict := by
  cases first with
  | ok a =>
    cases second with
    | ok b => exact hNext a b rfl rfl
    | error e => cases h
  | error e =>
    cases second with
    | ok b => cases h
    | error e =>
      cases h
      rfl

end Except

theorem Option.exists_mem_of_mapM {α β : Type} {f : α → Option β} {items : List α}
    {results : List β} (h : items.mapM f = some results) {item : α} (hItem : item ∈ items) :
    ∃ result ∈ results, f item = some result := by
  induction items generalizing results with
  | nil => cases hItem
  | cons first rest ih =>
    rw [List.mapM_cons] at h
    obtain ⟨result, hResult, h⟩ := Option.bind_eq_some_iff.mp h
    obtain ⟨others, hOthers, hResults⟩ := Option.bind_eq_some_iff.mp h
    cases hResults
    rcases List.mem_cons.mp hItem with rfl | hItem
    · exact ⟨result, List.mem_cons_self, hResult⟩
    · obtain ⟨other, hOther, hEq⟩ := ih hOthers hItem
      exact ⟨other, List.mem_cons_of_mem _ hOther, hEq⟩

namespace ConfigStore.Change

variable {ε σ : Type}

/-- If the change fails, the state is the one before. -/
def Atomic (change : Change ε σ) (before : σ) : Prop :=
  ∀ error, change.outcome = .error error → change.state = before

theorem atomic_staged (before : σ) (prepared : Except ε σ) :
    (staged before prepared).Atomic before := by
  intro error h
  cases prepared with
  | ok state => cases h
  | error reason => rfl

theorem verdict_committed (change : Change ε σ) :
    change.committed.verdict = change.outcome := by
  obtain ⟨outcome, state⟩ := change
  cases outcome <;> rfl

@[simp] theorem committed_staged (before : σ) (prepared : Except ε σ) :
    (staged before prepared).committed = prepared := by
  cases prepared <;> rfl

theorem Atomic.eq_staged {change : Change ε σ} {before : σ} (h : change.Atomic before) :
    change = staged before change.committed := by
  obtain ⟨outcome, state⟩ := change
  cases outcome with
  | ok done => rfl
  | error error =>
    obtain rfl : state = before := h error rfl
    rfl

end ConfigStore.Change

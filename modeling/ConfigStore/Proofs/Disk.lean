import ConfigStore.Disk
import ConfigStore.Proofs.Outcome
import Mathlib.Logic.Basic

/-!
# Reading what was written

* `Disk.read_write`: the text written to a file is read back.
* `Disk.Writable`: whatever the text, it can be written to a file. A file that was written
  once stays so (`Disk.writable_write`).
-/

namespace ConfigStore.Disk

variable {disk changed : Disk} {path content : String}

/-- Putting an entry where no directory is turns no path aside. -/
theorem follow_put {target place last : List String} {names : List String} {entry : DiskEntry}
    (hTarget : disk.held? target ≠ some .directory) (h : disk.follow place names = .ok last) :
    (disk.put target entry).follow place names = .ok last := by
  induction names generalizing place with
  | nil => exact h
  | cons name rest ih =>
    rw [follow] at h
    split at h
    · cases h
    next hDirectory =>
      have hNe : place ≠ target := by
        rintro rfl
        exact hTarget hDirectory
      rw [follow, held?_put_of_ne hNe, hDirectory]
      dsimp only
      split at h
      next hDot => rw [if_pos hDot]; exact ih h
      next hDot =>
        rw [if_neg hDot]
        split at h
        next hUp => rw [if_pos hUp]; exact ih h
        next hUp =>
          rw [if_neg hUp]
          split at h
          · cases h
          next hLong => rw [if_neg hLong]; exact ih h
    · cases h

theorem locate_put {target place : List String} {entry : DiskEntry}
    (hTarget : disk.held? target ≠ some .directory) (h : disk.locate path = .ok place) :
    (disk.put target entry).locate path = .ok place := by
  rw [locate] at h ⊢
  split at h
  · cases h
  next hNul =>
    rw [if_neg hNul]
    split at h
    · cases h
    next hEmpty =>
      rw [if_neg hEmpty]
      split at h
      · cases h
      next hLong =>
        rw [if_neg hLong]
        exact follow_put hTarget h

/-- What a write that succeeds has found and done. -/
theorem write_eq_ok_iff :
    disk.write path content = .ok changed ↔
      ∃ place, disk.locate path = .ok place ∧ endsWithSlash path = false ∧
        disk.held? place ≠ some .directory ∧ disk.refusal = none ∧
        changed = disk.put place (.text content) := by
  have hBlocked : ∀ place, (endsWithSlash path = true ∨ disk.held? place = some .directory) ↔
      ¬ (endsWithSlash path = false ∧ disk.held? place ≠ some .directory) := by
    intro place
    rw [not_and_or, Bool.not_eq_false, not_not]
  rw [write, Except.bind_eq_ok_iff]
  refine exists_congr fun place => and_congr_right ?_
  intro _
  rw [if_congr (hBlocked place) rfl rfl, ite_not, ← and_assoc]
  split
  next hFree =>
    rw [and_iff_right hFree]
    cases hRefusal : disk.refusal with
    | none => simp [pure, Except.pure, eq_comm]
    | some reason => simp [throw, throwThe, MonadExceptOf.throw]
  next hFree => simp [hFree, throw, throwThe, MonadExceptOf.throw]

/-- The text written to a file is read back. -/
theorem read_write (h : disk.write path content = .ok changed) :
    changed.read path = .ok content := by
  obtain ⟨place, hPlace, hSlash, hHeld, -, rfl⟩ := write_eq_ok_iff.mp h
  have hNe : place ≠ [] := by
    rintro rfl
    exact hHeld (if_pos rfl)
  rw [read, locate_put hHeld hPlace]
  simp [bind, Except.bind, held?_put_self hNe, hSlash, pure, Except.pure]

/-- Whatever the text, it can be written to the file. -/
def Writable (disk : Disk) (path : String) : Prop :=
  ∀ content, ∃ changed, disk.write path content = .ok changed

theorem writable_of_locate {place : List String} (hPlace : disk.locate path = .ok place)
    (hSlash : endsWithSlash path = false) (hHeld : disk.held? place ≠ some .directory)
    (hRefusal : disk.refusal = none) : disk.Writable path := fun _ =>
  ⟨_, write_eq_ok_iff.mpr ⟨place, hPlace, hSlash, hHeld, hRefusal, rfl⟩⟩

/-- Whether a file can be written does not depend on the text. -/
theorem writable_of_write (h : disk.write path content = .ok changed) : disk.Writable path := by
  obtain ⟨place, hPlace, hSlash, hHeld, hRefusal, -⟩ := write_eq_ok_iff.mp h
  exact writable_of_locate hPlace hSlash hHeld hRefusal

theorem writable_write (h : disk.write path content = .ok changed) :
    changed.Writable path := by
  obtain ⟨place, hPlace, hSlash, hHeld, hRefusal, rfl⟩ := write_eq_ok_iff.mp h
  have hNe : place ≠ [] := by
    rintro rfl
    exact hHeld (if_pos rfl)
  refine writable_of_locate (locate_put hHeld hPlace) hSlash ?_ hRefusal
  rw [held?_put_self hNe]
  simp

end ConfigStore.Disk

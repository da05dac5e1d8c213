import Mathlib.Data.List.Nodup
import Mathlib.Data.List.Perm.Subperm

/-!
# Jobs that may be lost

A ledger of jobs: which have come in, which wait and which have ended. In a step new jobs come in and
some end; of the others, some may be lost.

`Sound` is what every step keeps: only jobs that have come in wait or end, and none ends twice. A job
that has come in and does not wait is out of reach (`Gone`): it ends in no later step.
-/

set_option autoImplicit false

namespace Cuse2Net.Lib

universe u

/-- The jobs that have come in, the waiting ones and the ended ones. -/
structure Ledger (α : Type u) where
  entered : α → Prop
  waiting : List α
  ended : List α

namespace Ledger

variable {α : Type u} {s t : Ledger α}

/-- `new` come in and `done` end. What ends or waits on has waited or is new; the rest is lost. -/
structure Step (s t : Ledger α) (new done : List α) : Prop where
  new_nodup : new.Nodup
  new_entered : ∀ x ∈ new, ¬s.entered x ∧ t.entered x
  entered : ∀ x, s.entered x → t.entered x
  ended : t.ended = s.ended ++ done
  waiting : (done ++ t.waiting).Subperm (new ++ s.waiting)

/-- A step in which no job comes in or ends. -/
theorem Step.quiet (hentered : ∀ x, s.entered x → t.entered x) (hended : t.ended = s.ended)
    (hwaiting : t.waiting.Subperm s.waiting) : Step s t [] [] where
  new_nodup := List.nodup_nil
  new_entered := by
    intro x hx
    cases hx
  entered := hentered
  ended := by rw [hended, List.append_nil]
  waiting := hwaiting

/-- Jobs wait or end only after they have come in, and end at most once. -/
structure Sound (s : Ledger α) : Prop where
  nodup : (s.ended ++ s.waiting).Nodup
  entered : ∀ x ∈ s.ended ++ s.waiting, s.entered x

/-- The jobs that are ended or wait after a step. -/
theorem Step.subperm {new done : List α} (h : Step s t new done) :
    (t.ended ++ t.waiting).Subperm (new ++ (s.ended ++ s.waiting)) := by
  rw [h.ended, List.append_assoc]
  refine ((List.subperm_append_left s.ended).2 h.waiting).trans (List.Perm.subperm ?_)
  rw [← List.append_assoc, ← List.append_assoc]
  exact List.perm_append_comm.append_right _

/-- **A step keeps the ledger sound.** -/
theorem Step.sound {new done : List α} (h : Step s t new done) (hs : s.Sound) : t.Sound := by
  obtain ⟨kept, hperm, hsub⟩ := h.subperm
  constructor
  · refine hperm.nodup_iff.1 (hsub.nodup (List.nodup_append.2 ⟨h.new_nodup, hs.nodup, ?_⟩))
    -- a new job was not known before
    rintro x hx y hy rfl
    exact (h.new_entered x hx).1 (hs.entered x hy)
  · intro x hx
    rcases List.mem_append.1 (h.subperm.subset hx) with hnew | hold
    · exact (h.new_entered x hnew).2
    · exact h.entered x (hs.entered x hold)

/-- A waiting job has not ended. -/
theorem Sound.notMem_ended (hs : s.Sound) {x : α} (hx : x ∈ s.waiting) : x ∉ s.ended := by
  intro hended
  exact (List.nodup_append.1 hs.nodup).2.2 x hended x hx rfl

/-- A job that has come in and does not wait. -/
structure Gone (s : Ledger α) (x : α) : Prop where
  entered : s.entered x
  notMem : x ∉ s.waiting

/-- **What is gone stays gone**, and does not end. -/
theorem Step.gone {new done : List α} (h : Step s t new done) {x : α} (hx : s.Gone x) :
    t.Gone x ∧ (x ∈ t.ended ↔ x ∈ s.ended) := by
  have hnot : x ∉ done ++ t.waiting := by
    intro hmem
    rcases List.mem_append.1 (h.waiting.subset hmem) with hnew | hold
    · exact (h.new_entered x hnew).1 hx.entered
    · exact hx.notMem hold
  rw [List.mem_append, not_or] at hnot
  refine ⟨⟨h.entered x hx.entered, hnot.2⟩, ?_⟩
  rw [h.ended, List.mem_append]
  exact or_iff_left hnot.1

end Ledger

end Cuse2Net.Lib

import Cuse2Net.Lib.Transition
import Mathlib.Data.List.Nodup

/-!
# A service that takes jobs in order

Jobs are handed in one by one and wait in a queue. The oldest waiting job can be served and any
waiting job can be cancelled; both end it. No job is handed in twice.

`Fifo.Sound` is what holds of every reachable state: the waiting jobs are exactly the jobs that have
been handed in and not ended, in the order in which they were handed in, and no job ends twice. A
program that implements such a service is related to it by simulation.
-/

set_option autoImplicit false

namespace Cuse2Net.Lib

universe u

/-- State of the service: the jobs handed in, the waiting ones and the ended ones. -/
structure Fifo (α : Type u) where
  pushed : List α
  waiting : List α
  ended : List α

namespace Fifo

variable {α : Type u}

/-- What can happen to the service. -/
inductive Op (α : Type u) where
  | push (x : α)
  | serve (x : α)
  | cancel (x : α)

variable [DecidableEq α]

/-- The state after an operation, if it is possible. -/
def step (s : Fifo α) : Op α → Option (Fifo α)
  | .push x =>
      if x ∈ s.pushed then none
      else some { s with pushed := s.pushed ++ [x], waiting := s.waiting ++ [x] }
  | .serve x =>
      if s.waiting.head? = some x then
        some { s with waiting := s.waiting.tail, ended := s.ended ++ [x] }
      else none
  | .cancel x =>
      if x ∈ s.waiting then
        some { s with waiting := s.waiting.erase x, ended := s.ended ++ [x] }
      else none

/-- The service, which starts without jobs. -/
def system : System (Fifo α) (Op α) where
  init s := s = ⟨[], [], []⟩
  step := step

/-- The waiting jobs are the jobs not ended, in order, and every job ends at most once. -/
structure Sound (s : Fifo α) : Prop where
  nodup : s.pushed.Nodup
  ended_nodup : s.ended.Nodup
  ended_subset : s.ended ⊆ s.pushed
  waiting_eq : s.waiting = s.pushed.filter fun x => x ∉ s.ended

namespace Sound

variable {s : Fifo α}

theorem mem_waiting (h : s.Sound) {x : α} : x ∈ s.waiting ↔ x ∈ s.pushed ∧ x ∉ s.ended := by
  rw [h.waiting_eq, List.mem_filter, decide_eq_true_iff]

theorem waiting_sublist (h : s.Sound) : s.waiting.Sublist s.pushed := by
  rw [h.waiting_eq]
  exact List.filter_sublist

theorem waiting_nodup (h : s.Sound) : s.waiting.Nodup := h.waiting_sublist.nodup h.nodup

/-- The queue without a job is the queue of the jobs not ended, when this job has ended too. -/
theorem erase_eq_filter (h : s.Sound) (x : α) :
    s.waiting.erase x = s.pushed.filter fun y => y ∉ s.ended ++ [x] := by
  rw [h.waiting_nodup.erase_eq_filter, h.waiting_eq, List.filter_filter]
  apply List.filter_congr
  intro y _
  by_cases hyx : y = x
  · simp [hyx]
  · simp [hyx]

/-- Ending a waiting job keeps the state sound. -/
theorem end_job (h : s.Sound) {x : α} (hx : x ∈ s.waiting) :
    Sound { s with waiting := s.waiting.erase x, ended := s.ended ++ [x] } := by
  obtain ⟨hpushed, hended⟩ := h.mem_waiting.1 hx
  refine ⟨h.nodup, ?_, ?_, h.erase_eq_filter x⟩
  · rw [List.nodup_append]
    refine ⟨h.ended_nodup, List.nodup_singleton x, ?_⟩
    rintro y hy z hz rfl
    rw [List.mem_singleton] at hz
    exact hended (hz ▸ hy)
  · intro y hy
    rcases List.mem_append.1 hy with hy | hy
    · exact h.ended_subset hy
    · rw [List.mem_singleton.1 hy]
      exact hpushed

theorem push_job (h : s.Sound) {x : α} (hx : x ∉ s.pushed) :
    Sound { s with pushed := s.pushed ++ [x], waiting := s.waiting ++ [x] } := by
  refine ⟨?_, h.ended_nodup, fun y hy => List.mem_append_left _ (h.ended_subset hy), ?_⟩
  · rw [List.nodup_append]
    refine ⟨h.nodup, List.nodup_singleton x, ?_⟩
    rintro y hy z hz rfl
    rw [List.mem_singleton] at hz
    exact hx (hz ▸ hy)
  · have hnew : x ∉ s.ended := fun hmem => hx (h.ended_subset hmem)
    show s.waiting ++ [x] = (s.pushed ++ [x]).filter fun y => y ∉ s.ended
    rw [List.filter_append, h.waiting_eq, List.filter_cons_of_pos (by simpa using hnew),
      List.filter_nil]

end Sound

theorem step_sound {s t : Fifo α} {op : Op α} (h : s.Sound) (hstep : step s op = some t) :
    t.Sound := by
  cases op with
  | push x =>
      simp only [step, Option.ite_none_left_eq_some, Option.some.injEq] at hstep
      obtain ⟨hx, rfl⟩ := hstep
      exact h.push_job hx
  | serve x =>
      simp only [step, Option.ite_none_right_eq_some, Option.some.injEq] at hstep
      obtain ⟨hhead, rfl⟩ := hstep
      -- for the oldest job, taking the tail is erasing the job
      obtain ⟨xs, hxs⟩ : ∃ xs, s.waiting = x :: xs := List.head?_eq_some_iff.1 hhead
      have hend := h.end_job (x := x) (hxs ▸ List.mem_cons_self)
      rw [hxs, List.erase_cons_head] at hend
      rw [hxs]
      exact hend
  | cancel x =>
      simp only [step, Option.ite_none_right_eq_some, Option.some.injEq] at hstep
      obtain ⟨hx, rfl⟩ := hstep
      exact h.end_job hx

/-- **The service loses and repeats nothing and keeps the order.** -/
theorem reachable_sound {s : Fifo α} (h : (system (α := α)).Reachable always s) : s.Sound :=
  h.invariant (fun _ hs => hs ▸ ⟨List.nodup_nil, List.nodup_nil, fun _ hx => hx, rfl⟩)
    (fun _ _ _ hsound _ hstep => step_sound hsound hstep)

/-! ## Runs for the simulation of programs -/

section Runs

variable {s : Fifo α}

theorem reaches_push {x : α} (hx : x ∉ s.pushed) :
    system.Reaches always s
      { s with pushed := s.pushed ++ [x], waiting := s.waiting ++ [x] } :=
  Relation.ReflTransGen.single ⟨.push x, trivial, if_neg hx⟩

theorem reaches_serve {x : α} {xs : List α} (hx : s.waiting = x :: xs) :
    system.Reaches always s { s with waiting := xs, ended := s.ended ++ [x] } := by
  refine Relation.ReflTransGen.single ⟨.serve x, trivial, ?_⟩
  show step s (.serve x) = _
  rw [step, hx]
  exact if_pos rfl

theorem reaches_cancel {x : α} (hx : x ∈ s.waiting) :
    system.Reaches always s { s with waiting := s.waiting.erase x, ended := s.ended ++ [x] } :=
  Relation.ReflTransGen.single ⟨.cancel x, trivial, if_pos hx⟩

/-- Any set of waiting jobs can be cancelled, in any order. -/
theorem reaches_cancels {xs : List α} (hnodup : xs.Nodup) (hsub : xs ⊆ s.waiting)
    (hwaiting : s.waiting.Nodup) :
    system.Reaches always s
      { s with waiting := s.waiting.filter fun y => y ∉ xs, ended := s.ended ++ xs } := by
  -- on the jobs to cancel; after the first one the others are still waiting
  induction xs generalizing s with
  | nil =>
      have hall : (s.waiting.filter fun y => y ∉ ([] : List α)) = s.waiting := by simp
      rw [hall, List.append_nil]
  | cons x xs ih =>
      obtain ⟨hx, hxs⟩ := List.nodup_cons.1 hnodup
      have hrest : xs ⊆ s.waiting.erase x := by
        intro y hy
        rw [hwaiting.mem_erase_iff]
        refine ⟨?_, hsub (List.mem_cons_of_mem x hy)⟩
        rintro rfl
        exact hx hy
      have hfilter : (s.waiting.erase x).filter (fun y => y ∉ xs) =
          s.waiting.filter fun y => y ∉ x :: xs := by
        rw [hwaiting.erase_eq_filter, List.filter_filter]
        apply List.filter_congr
        intro y _
        by_cases hyx : y = x
        · simp [hyx]
        · simp [hyx]
      have hrun := ih (s := ⟨s.pushed, s.waiting.erase x, s.ended ++ [x]⟩) hxs hrest
        (hwaiting.erase x)
      rw [List.append_assoc, hfilter] at hrun
      exact (reaches_cancel (hsub List.mem_cons_self)).trans hrun

end Runs

end Fifo

end Cuse2Net.Lib

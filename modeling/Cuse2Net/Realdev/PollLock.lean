import Cuse2Net.Realdev.Session

/-!
# The lock of the poll worker

Who waits for the lock around `PollInner`, and who holds it meanwhile. The lock is used by the poll
worker and, for poll requests, by the main thread. The worker's first line takes a read guard that
lives as long as the worker, and its second line asks for the write guard. It is a lock of
`parking_lot`, which lets no thread read while another one waits for the write guard.

`poll_lock_discipline` says for every state of every run when a thread waits for the write guard while
it holds a read guard itself, and when both threads wait for ever.
-/

set_option autoImplicit false

namespace Cuse2Net.Realdev

open Cuse2Net.Lib
open Cuse2Net.Proto

/-- The two sides of the lock. -/
inductive Side where
  | read
  | write
  deriving DecidableEq

/-- The other one of the two threads that use the lock. -/
def Thread.other : Thread → Thread
  | .main => .poll
  | .poll => .main

namespace Session

/-- The side of the lock that a thread asks for in its next step, if it does. -/
def asks (s : Session) : Thread → Option Side
  | .poll =>
      match s.poll.worker with
      | .borrow | .addSer | .check => some .read
      | .takeRx | .handle (.TOK_SER :: _) => some .write
      | _ => none
  | .main =>
      match s.main with
      | .polling true => some .write
      | .polling false => some .read
      | _ => none

/-- A thread asks for the write guard and does not get it. -/
def WaitsWrite (s : Session) (t : Thread) : Prop :=
  s.asks t = some .write ∧ s.poll.lock.tryWrite t = none

instance (s : Session) (t : Thread) : Decidable (s.WaitsWrite t) :=
  inferInstanceAs (Decidable (_ ∧ _))

/-- A thread asks for a read guard and does not get it: somebody has the write guard, or the other
thread waits for it. -/
def WaitsRead (s : Session) (t : Thread) : Prop :=
  s.asks t = some .read ∧ (s.poll.lock.tryRead t = none ∨ s.WaitsWrite t.other)

/-- A thread asks for a side of the lock that it does not get now. -/
def Waits (s : Session) (t : Thread) : Side → Prop
  | .read => s.WaitsRead t
  | .write => s.WaitsWrite t

/-- The thread that takes a read guard in a step. -/
def reads (s : Session) : SessionLabel → Option Thread
  | .poll .borrow | .poll (.addSer _) | .poll .check => some .poll
  | .pollAnswer => if s.main = .polling false then some .main else none
  | _ => none

/-- The lock admits no reader while the other thread waits for the write guard. -/
def Admitted (s : Session) (l : SessionLabel) : Prop :=
  match s.reads l with
  | some t => ¬s.WaitsWrite t.other
  | none => True

instance (s : Session) (l : SessionLabel) : Decidable (s.Admitted l) := by
  unfold Admitted
  split <;> infer_instance

/-- A thread waits for the write guard while it holds a read guard. -/
def SelfBlocked (s : Session) : Prop := ∃ t, s.Waits t .write ∧ t ∈ s.poll.lock.readers

/-- Both threads wait for the lock, and will for ever. -/
def AllBlocked (s : Session) : Prop :=
  ∀ s', system.Reaches Admitted s s' → ∀ t, ∃ side, s'.Waits t side

/-! ## The guards -/

/-- The guards that are held between two steps: none before the worker's first line, and the worker's
read guard from then on. -/
inductive Guards (s : Session) : Prop where
  | none (hpc : s.poll.worker = .borrow) (hlock : s.poll.lock = .free)
  | held (hpc : s.poll.worker = .takeRx) (hlock : s.poll.lock = ⟨[.poll], Option.none⟩)

/-- The worker and the lock change only by steps of the worker: the main thread leaves the lock as it
found it. -/
theorem step_poll {s t : Session} {l : SessionLabel} (h : step s l = some t) :
    t.poll = s.poll ∨ ∃ l', s.poll.step l' = some t.poll := by
  cases step_move h with
  | poll l p hp => exact .inr ⟨l, hp⟩
  | _ => exact .inl rfl

theorem step_guards {s t : Session} {l : SessionLabel} (hs : s.Guards) (h : step s l = some t) :
    t.Guards := by
  cases hs with
  | none hpc hlock =>
      rcases step_poll h with hsame | ⟨l', hstep⟩
      · exact .none (by rw [hsame, hpc]) (by rw [hsame, hlock])
      · obtain ⟨lock, hread, ht⟩ := PollState.step_borrow hpc hstep
        rw [hlock] at hread
        obtain rfl : RwLock.mk [Thread.poll] Option.none = lock := Option.some.inj hread
        exact .held (by rw [ht]) (by rw [ht])
  | held hpc hlock =>
      rcases step_poll h with hsame | ⟨l', hstep⟩
      · exact .held (by rw [hsame, hpc]) (by rw [hsame, hlock])
      · rw [PollState.step_takeRx_eq_none hpc (by rw [hlock]; exact List.mem_cons_self)] at hstep
        cases hstep

theorem reachable_guards {s : Session} (h : system.Reachable always s) : s.Guards := by
  refine h.invariant (P := Guards) ?_ ?_
  · rintro s rfl
    exact .none rfl rfl
  · intro s l t hs _ hstep
    exact step_guards hs hstep

/-! ## Waiting for ever -/

/-- The worker holds its read guard and asks for the write guard, and the main thread is in `poll` or
`poll_once`. -/
structure Deadlock (s : Session) : Prop where
  worker : s.poll.worker = .takeRx
  lock : s.poll.lock = ⟨[.poll], none⟩
  main : ∃ schedule, s.main = .polling schedule

theorem Deadlock.tryWrite {s : Session} (h : s.Deadlock) (t : Thread) :
    s.poll.lock.tryWrite t = none := by
  rw [h.lock]
  rfl

theorem Deadlock.worker_waits {s : Session} (h : s.Deadlock) : s.WaitsWrite .poll :=
  ⟨by rw [asks, h.worker], h.tryWrite .poll⟩

/-- A `poll` waits for the worker's read guard, and a `poll_once` because the worker waits. -/
theorem Deadlock.waits {s : Session} (h : s.Deadlock) (t : Thread) : ∃ side, s.Waits t side := by
  cases t with
  | poll => exact ⟨.write, h.worker_waits⟩
  | main =>
      obtain ⟨schedule, hmain⟩ := h.main
      cases schedule with
      | true => exact ⟨.write, by rw [asks, hmain], h.tryWrite .main⟩
      | false => exact ⟨.read, by rw [asks, hmain], .inr h.worker_waits⟩

theorem Deadlock.guard {s : Session} (h : s.Deadlock) : .poll ∈ s.poll.lock.readers := by
  rw [h.lock]
  exact List.mem_cons_self

/-- The main thread gets neither guard. -/
theorem Deadlock.step_main {s t : Session} {l : SessionLabel} (hs : s.Deadlock)
    (hadmitted : s.Admitted l) (h : Session.step s l = some t) :
    ∃ schedule, t.main = .polling schedule := by
  obtain ⟨schedule, hpolling⟩ := hs.main
  cases step_move h with
  | read | poll | endScope => exact hs.main
  | pollRequest schedule hmain | ret how hmain =>
      rw [hpolling] at hmain
      cases hmain
  | pollAnswer schedule hmain hlock =>
      cases schedule with
      | true =>
          rw [if_pos rfl, RwLock.writeSection_eq_none hs.guard] at hlock
          cases hlock
      | false =>
          -- the worker comes first
          rw [Admitted, reads, if_pos hmain] at hadmitted
          exact absurd hs.worker_waits hadmitted

/-- Nobody leaves the deadlock. -/
theorem Deadlock.step {s t : Session} {l : SessionLabel} (hs : s.Deadlock)
    (hadmitted : s.Admitted l) (h : Session.step s l = some t) : t.Deadlock := by
  rcases step_poll h with hsame | ⟨l', hstep⟩
  · exact ⟨by rw [hsame, hs.worker], by rw [hsame, hs.lock], hs.step_main hadmitted h⟩
  · rw [PollState.step_takeRx_eq_none hs.worker hs.guard] at hstep
    cases hstep

theorem Deadlock.allBlocked {s : Session} (h : s.Deadlock) : s.AllBlocked := by
  intro s' hrun t
  have hs' : s'.Deadlock := System.Reaches.induct (P := Deadlock) hrun h
    fun _ _ _ hs hadmitted hstep => Deadlock.step hs hadmitted hstep
  exact hs'.waits t

/-- Only a worker that has run its first line holds a guard, and its next line asks for the other
side. -/
theorem Guards.selfBlocked_iff {s : Session} (hs : s.Guards) :
    s.SelfBlocked ↔ s.poll.worker ≠ .borrow := by
  cases hs with
  | none hpc hlock =>
      refine ⟨?_, fun hne => absurd hpc hne⟩
      rintro ⟨t, -, hheld⟩
      rw [hlock] at hheld
      cases hheld
  | held hpc hlock =>
      refine iff_of_true ⟨.poll, ⟨?_, ?_⟩, ?_⟩ ?_
      · rw [asks, hpc]
      · rw [hlock]
        rfl
      · rw [hlock]
        exact List.mem_cons_self
      · rw [hpc]
        intro h
        cases h

/-- A main thread that waits for the lock is in `poll` or `poll_once`. -/
theorem main_of_waits {s : Session} {side : Side} (h : s.Waits .main side) :
    ∃ schedule, s.main = .polling schedule := by
  have hasks : s.asks .main = some side := by
    cases side with
    | read => exact h.1
    | write => exact h.1
  cases hmain : s.main with
  | polling schedule => exact ⟨schedule, rfl⟩
  | receiving | returned =>
      rw [asks, hmain] at hasks
      cases hasks

/-- While nobody holds a guard, the worker gets the one that it asks for first. -/
theorem borrow_admitted {s : Session} (hpc : s.poll.worker = .borrow) (hlock : s.poll.lock = .free)
    (side : Side) : ¬s.Waits .poll side := by
  intro h
  cases side with
  | write =>
      have hasks := h.1
      rw [asks, hpc] at hasks
      cases hasks
  | read =>
      rcases h.2 with hread | ⟨-, hwrite⟩
      · rw [hlock] at hread
        cases hread
      · rw [hlock] at hwrite
        cases hwrite

theorem Guards.allBlocked_iff {s : Session} (hs : s.Guards) :
    s.AllBlocked ↔ s.poll.worker ≠ .borrow ∧ ∃ schedule, s.main = .polling schedule := by
  constructor
  · intro hall
    have hnow := hall s Relation.ReflTransGen.refl
    obtain ⟨side, hmain⟩ := hnow .main
    refine ⟨?_, main_of_waits hmain⟩
    cases hs with
    | none hpc hlock =>
        obtain ⟨side, hpoll⟩ := hnow .poll
        exact absurd hpoll (borrow_admitted hpc hlock side)
    | held hpc hlock =>
        rw [hpc]
        intro h
        cases h
  · rintro ⟨hne, hmain⟩
    cases hs with
    | none hpc hlock => exact absurd hpc hne
    | held hpc hlock => exact Deadlock.allBlocked ⟨hpc, hlock, hmain⟩

/-- **Lock discipline of the poll worker.** In every state of every run, a thread waits for the write
guard while it holds a read guard itself exactly when the worker has run its first line, and the two
threads that use the lock wait for ever exactly when, besides, the main thread is in a call of
`Poll::poll` or `Poll::poll_once`. -/
theorem poll_lock_discipline (s : Session) (h : system.Reachable always s) :
    (s.SelfBlocked ↔ s.poll.worker ≠ .borrow) ∧
      (s.AllBlocked ↔ s.poll.worker ≠ .borrow ∧ ∃ schedule, s.main = .polling schedule) := by
  have hs := reachable_guards h
  exact ⟨hs.selfBlocked_iff, hs.allBlocked_iff⟩

/-- The main thread is inside `Poll::poll` before the worker's first line: neither of them is stuck. -/
theorem poll_lock_discipline_polling :
    ∃ s, system.exec always start [.pollRequest true] = some s ∧ s.main = .polling true ∧
      ¬s.SelfBlocked ∧ ¬s.AllBlocked := by
  have hrun : system.exec always start [.pollRequest true] =
      some { start with main := .polling true } := rfl
  have h := poll_lock_discipline _ (System.reachable_of_exec rfl hrun)
  exact ⟨_, hrun, rfl, fun hself => h.1.1 hself rfl, fun hall => (h.2.1 hall).1 rfl⟩

/-- The worker runs its first line and the client sends a poll request: the worker waits for the write
guard while it holds a read guard, the main thread waits for the write guard or, without the notify
flag, for a read guard, and no step of the session changes that. -/
theorem poll_lock_deadlock :
    (∃ s, system.exec Admitted start [.poll .borrow, .pollRequest true] = some s ∧
      s.SelfBlocked ∧ s.AllBlocked) ∧
    ∃ s, system.exec Admitted start [.poll .borrow, .pollRequest false] = some s ∧
      s.SelfBlocked ∧ s.AllBlocked := by
  have hdead : ∀ schedule, Deadlock
      ⟨.start, ⟨⟨[.poll], none⟩, true, true, .takeRx⟩, .polling schedule, false⟩ :=
    fun schedule => ⟨rfl, rfl, schedule, rfl⟩
  have hself : ∀ schedule, SelfBlocked
      ⟨.start, ⟨⟨[.poll], none⟩, true, true, .takeRx⟩, .polling schedule, false⟩ :=
    fun schedule => ⟨.poll, (hdead schedule).worker_waits, List.mem_cons_self⟩
  exact ⟨⟨_, rfl, hself true, (hdead true).allBlocked⟩,
    ⟨_, rfl, hself false, (hdead false).allBlocked⟩⟩

end Session

end Cuse2Net.Realdev

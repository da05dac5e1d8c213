import Cuse2Net.Realdev.PollWorker
import Cuse2Net.Realdev.ReadProgress

/-!
# A session of the server

Model of `Device::run`: the main thread (`Device::main`), the reader (`Read::run`) and the poll
worker (`Poll::run`) inside one `thread::scope`. When `main` has returned, the scope waits for both
workers; only after that `read` is dropped, and only its destructor clears `fd_tx`, which is what the
reader's loop looks at. So the reader waits for the destructor and the destructor for the reader.
The poll worker cannot get past its second line (`PollState.step_stuck`).

Requests that `main` answers without the queue and the lock of `Poll` (open, write, ioctl,
non-blocking read) change nothing in this model and have no step.

`session_never_released` draws the conclusion for every run: from no state after the return of `main`
can the session end, and the reader goes on to serve the requests that are left.
-/

set_option autoImplicit false

namespace Cuse2Net.Realdev

open Cuse2Net.Lib
open Cuse2Net.Proto

/-- The ways in which `Device::main` returns. -/
inductive Ending where
  /-- A release request has been answered. -/
  | release
  /-- `recv` or a send failed. -/
  | connection
  /-- `recv` found a malformed request. -/
  | protocol
  /-- `encode` or `decode` of an ioctl failed. -/
  | ioctl
  deriving DecidableEq

/-- Where the main thread is. -/
inductive MainPc where
  /-- In the loop of `main`, outside the calls of `poll`. -/
  | receiving
  /-- In `Device::poll`, before the lock; the flag tells `poll` from `poll_once`. -/
  | polling (schedule : Bool)
  /-- `main` has returned. -/
  | returned (how : Ending)
  deriving DecidableEq

/-- A session. -/
structure Session where
  read : ReadState
  poll : PollState
  main : MainPc
  scopeEnded : Bool
  deriving DecidableEq

/-- Steps of a session. -/
inductive SessionLabel where
  /-- A step of the reader; a call of `push_request` or `do_intr` by `main`; the destructor. -/
  | read (l : ReadLabel)
  /-- A step of the poll worker. -/
  | poll (l : PollLabel)
  /-- `main` receives a poll request. -/
  | pollRequest (schedule : Bool)
  /-- `main` gets the lock and answers the poll request. -/
  | pollAnswer
  /-- `main` returns. -/
  | ret (how : Ending)
  /-- The scope has joined the workers. -/
  | endScope
  deriving DecidableEq

/-- The thread of the reader has ended. -/
def ReaderPc.ended : ReaderPc → Bool
  | .exited | .panicked _ _ => true
  | _ => false

/-- The thread of the poll worker has ended. -/
def PollPc.ended : PollPc → Bool
  | .exited | .panicked => true
  | _ => false

namespace Session

/-- Whether the reader's object may be used in this way now: `main` calls it while it runs, and it is
dropped after the scope. -/
def mayCall (s : Session) : ReadLabel → Bool
  | .push _ _ | .intr _ _ => s.main = .receiving
  | .close => s.scopeEnded
  | _ => true

/-- One step. -/
def step (s : Session) : SessionLabel → Option Session
  | .read l =>
      if s.mayCall l then (s.read.step l).map fun r => { s with read := r } else none
  | .poll l => (s.poll.step l).map fun p => { s with poll := p }
  | .pollRequest schedule =>
      if s.main = .receiving ∧ s.read.mainAlive then some { s with main := .polling schedule }
      else none
  | .pollAnswer =>
      match s.main with
      | .polling true =>
          (s.poll.lock.writeSection .main).map fun lock =>
            { s with poll := { s.poll with lock := lock }, main := .receiving }
      | .polling false =>
          (s.poll.lock.readSection .main).map fun lock =>
            { s with poll := { s.poll with lock := lock }, main := .receiving }
      | _ => none
  | .ret how =>
      if s.main = .receiving ∧ s.read.mainAlive then some { s with main := .returned how } else none
  | .endScope =>
      match s.main with
      | .returned _ =>
          if s.read.reader.ended ∧ s.poll.worker.ended then some { s with scopeEnded := true }
          else none
      | _ => none

/-- The session at the beginning of the scope. -/
def start : Session := ⟨.start, .new, .receiving, false⟩

/-- The three threads. -/
def system : System Session SessionLabel where
  init s := s = start
  step := step

/-! ## Steps -/

/-- The reader is in its loop, the poll worker is stuck and the scope waits for both. -/
structure Open (s : Session) : Prop where
  read : s.read.Alive
  poll : s.poll.Stuck
  scope : s.scopeEnded = false

/-- The steps of a session, with the state after each. A call of `poll` or `poll_once` leaves the lock
as it was. -/
inductive Move (s : Session) : SessionLabel → Session → Prop where
  | read (l : ReadLabel) (r : ReadState) (hmay : s.mayCall l = true)
      (hstep : s.read.step l = some r) : Move s (.read l) { s with read := r }
  | poll (l : PollLabel) (p : PollState) (hstep : s.poll.step l = some p) :
      Move s (.poll l) { s with poll := p }
  | pollRequest (schedule : Bool) (hmain : s.main = .receiving) :
      Move s (.pollRequest schedule) { s with main := .polling schedule }
  | pollAnswer (schedule : Bool) (hmain : s.main = .polling schedule)
      (hlock : (if schedule then s.poll.lock.writeSection .main else s.poll.lock.readSection .main) =
        some s.poll.lock) :
      Move s .pollAnswer { s with main := .receiving }
  | ret (how : Ending) (hmain : s.main = .receiving) :
      Move s (.ret how) { s with main := .returned how }
  | endScope (how : Ending) (hmain : s.main = .returned how)
      (hended : s.read.reader.ended ∧ s.poll.worker.ended) :
      Move s .endScope { s with scopeEnded := true }

/-- **What a step can do.** -/
theorem step_move {s t : Session} {l : SessionLabel} (h : step s l = some t) : s.Move l t := by
  cases l with
  | read l =>
      simp only [step, Option.ite_none_right_eq_some, Option.map_eq_some_iff] at h
      obtain ⟨hmay, r, hr, rfl⟩ := h
      exact .read l r hmay hr
  | poll l =>
      obtain ⟨p, hp, rfl⟩ := Option.map_eq_some_iff.1 h
      exact .poll l p hp
  | pollRequest schedule =>
      simp only [step, Option.ite_none_right_eq_some, Option.some.injEq] at h
      obtain ⟨⟨hmain, -⟩, rfl⟩ := h
      exact .pollRequest schedule hmain
  | pollAnswer =>
      simp only [step] at h
      split at h
      · next hmain =>
        obtain ⟨lock, hlock, rfl⟩ := Option.map_eq_some_iff.1 h
        obtain rfl := RwLock.writeSection_eq hlock
        exact .pollAnswer true hmain hlock
      · next hmain =>
        obtain ⟨lock, hlock, rfl⟩ := Option.map_eq_some_iff.1 h
        obtain rfl := RwLock.readSection_eq hlock
        exact .pollAnswer false hmain hlock
      · cases h
  | ret how =>
      simp only [step, Option.ite_none_right_eq_some, Option.some.injEq] at h
      obtain ⟨⟨hmain, -⟩, rfl⟩ := h
      exact .ret how hmain
  | endScope =>
      simp only [step] at h
      split at h
      · next how hmain =>
        rw [Option.ite_none_right_eq_some] at h
        obtain ⟨hended, h⟩ := h
        obtain rfl := Option.some.inj h
        exact .endScope how hmain hended
      · cases h

theorem step_open {s t : Session} {l : SessionLabel} (hs : s.Open) (h : step s l = some t) :
    t.Open := by
  cases step_move h with
  | read l r hmay hr =>
      -- the destructor has to wait for the scope
      have hclose : l ≠ .close := by
        rintro rfl
        rw [mayCall, hs.scope] at hmay
        cases hmay
      exact ⟨ReadState.step_alive hs.read hclose hr, hs.poll, hs.scope⟩
  | poll l p hp => exact ⟨hs.read, PollState.step_stuck hs.poll hp, hs.scope⟩
  | pollRequest | pollAnswer | ret => exact ⟨hs.read, hs.poll, hs.scope⟩
  | endScope how hmain hended =>
      -- the worker would have to have ended
      rcases hpc : s.poll.worker with _ | _ | _ | _ | _ | _ | _ | _ | _
      all_goals rw [hpc] at hended
      all_goals first
        | cases hended.2; done
        | exact absurd hpc hs.poll.not_exited.1
        | exact absurd hpc hs.poll.not_exited.2

theorem reachable_open {s : Session} (h : system.Reachable always s) : s.Open := by
  refine h.invariant (P := Open) ?_ ?_
  · rintro s rfl
    exact ⟨ReadState.start_alive, .borrow rfl, rfl⟩
  · intro s l t hs _ hstep
    exact step_open hs hstep

/-- After its return, `main` hands in nothing more. -/
theorem returned_step {s t : Session} {l : SessionLabel} {how : Ending} (hs : s.Open)
    (hmain : s.main = .returned how) (h : step s l = some t) :
    t.main = .returned how ∧ t.read.awaiting ⊆ s.read.awaiting := by
  cases step_move h with
  | read l r hmay hr =>
      refine ⟨hmain, ?_⟩
      -- the main thread makes no calls any more
      have hby : l.byReader = true := by
        cases l with
        | push req written => simp [mayCall, hmain] at hmay
        | intr seq written => simp [mayCall, hmain] at hmay
        | close => simp [mayCall, hs.scope] at hmay
        | _ => rfl
      exact ReadState.reader_awaiting hs.read.shape hby hr
  | poll | endScope => exact ⟨hmain, List.Subset.refl _⟩
  | pollRequest schedule hmain' | pollAnswer schedule hmain' | ret how hmain' =>
      rw [hmain] at hmain'
      cases hmain'

/-! ## Runs -/

theorem returned_run {s t : Session} {how : Ending} (hs : s.Open) (hmain : s.main = .returned how)
    (h : system.Reaches always s t) : t.Open ∧ t.read.awaiting ⊆ s.read.awaiting := by
  suffices hinv : t.Open ∧ t.main = .returned how ∧ t.read.awaiting ⊆ s.read.awaiting from
    ⟨hinv.1, hinv.2.2⟩
  refine System.Reaches.induct (P := fun t => t.Open ∧ t.main = .returned how ∧
    t.read.awaiting ⊆ s.read.awaiting) h ⟨hs, hmain, List.Subset.refl _⟩ ?_
  rintro m l t ⟨hm, hmain, hsub⟩ - hstep
  obtain ⟨hmain', hsub'⟩ := returned_step hm hmain hstep
  exact ⟨step_open hm hstep, hmain', List.Subset.trans hsub' hsub⟩

/-- Steps of the reader are steps of the session. -/
theorem reaches_of_reader {r : ReadState} (s : Session)
    (h : ReadState.system.Reaches (fun _ l => l.byReader = true) s.read r) :
    system.Reaches always s { s with read := r } := by
  induction h with
  | refl => exact Relation.ReflTransGen.refl
  | @tail m r _ hnext ih =>
      obtain ⟨l, hl, hstep⟩ := hnext
      refine ih.tail ⟨.read l, trivial, ?_⟩
      have hmay : mayCall { s with read := m } l = true := by
        cases l with
        | push req written => cases hl
        | intr seq written => cases hl
        | close => cases hl
        | _ => rfl
      rw [show system.step = step from rfl, step, if_pos hmay]
      exact congrArg (Option.map _) hstep

/-- **The session is never released.** After the return of `main`, in whatever way, no run gets to
the end of one of the workers or of the scope. The reader still reads from the device as soon as a
request is left for which it was waiting or that was queued, and only then. -/
theorem session_never_released (s : Session) (how : Ending) (h : system.Reachable always s)
    (hmain : s.main = .returned how) :
    (∀ t, system.Reaches always s t →
      t.read.reader ≠ .exited ∧ t.poll.worker ≠ .exited ∧ t.scopeEnded = false) ∧
    ((∃ t req, system.Reaches always s t ∧ t.read.reader = .reading req) ↔
      s.read.awaiting ≠ []) := by
  have hs := reachable_open h
  refine ⟨?_, ?_, ?_⟩
  · intro t hrun
    obtain ⟨ht, -⟩ := returned_run hs hmain hrun
    exact ⟨ht.read.reader, ht.poll.not_exited.1, ht.scope⟩
  · rintro ⟨t, req, hrun, hr⟩
    obtain ⟨-, hsub⟩ := returned_run hs hmain hrun
    exact List.ne_nil_of_mem (hsub (ReadState.mem_awaiting_of_reading hr))
  · intro hwork
    obtain ⟨r, hrun, req, hr⟩ := ReadState.leads_of_awaiting hs.read hwork
    exact ⟨_, req, reaches_of_reader s hrun, hr⟩

/-- A client that releases the device with a read request in the queue. -/
theorem session_never_released_release :
    let s : Session := ⟨⟨⟨[(⟨1, by decide⟩, 8)], none, true, 1, []⟩, .check, true,
      [(⟨1, by decide⟩, 8)], []⟩, .new, .returned .release, false⟩
    system.Reachable always s ∧ ∃ t req, system.Reaches always s t ∧ t.read.reader = .reading req :=
  have hrun : system.exec always start
      [.read (.push (⟨1, by decide⟩, 8) true), .ret .release] =
      some ⟨⟨⟨[(⟨1, by decide⟩, 8)], none, true, 1, []⟩, .check, true,
        [(⟨1, by decide⟩, 8)], []⟩, .new, .returned .release, false⟩ := by decide
  have hreach := System.reachable_of_exec rfl hrun
  ⟨hreach, (session_never_released _ _ hreach rfl).2.2 (List.cons_ne_nil _ _)⟩

/-- The same session goes on: the reader takes data from the device and answers the request on the
connection that the client has left, and from there the scope still does not end. -/
theorem session_reads_after_release :
    let s : Session := ⟨⟨⟨[(⟨1, by decide⟩, 8)], none, true, 1, []⟩, .check, true,
      [(⟨1, by decide⟩, 8)], []⟩, .new, .returned .release, false⟩
    system.Reachable always s ∧
      (∃ t, system.Reaches always s t ∧ t.read.inner.sent = [.read ⟨1, by decide⟩ [65, 66]]) ∧
      ∀ t, system.Reaches always s t →
        ¬(t.read.reader = .exited ∧ t.poll.worker = .exited ∧ t.scopeEnded = true) :=
  have hrun : system.exec always start
      [.read (.push (⟨1, by decide⟩, 8) true), .ret .release] =
      some ⟨⟨⟨[(⟨1, by decide⟩, 8)], none, true, 1, []⟩, .check, true,
        [(⟨1, by decide⟩, 8)], []⟩, .new, .returned .release, false⟩ := by decide
  have hread : system.exec always
      ⟨⟨⟨[(⟨1, by decide⟩, 8)], none, true, 1, []⟩, .check, true, [(⟨1, by decide⟩, 8)], []⟩, .new,
        .returned .release, false⟩
      [.read .check, .read .next, .read (.read (.data [65, 66])), .read (.send .sent)] =
      some ⟨⟨⟨[], none, true, 1, [.read ⟨1, by decide⟩ [65, 66]]⟩, .check, true,
        [(⟨1, by decide⟩, 8)], []⟩, .new, .returned .release, false⟩ := by decide
  have hreach := System.reachable_of_exec rfl hrun
  ⟨hreach, ⟨_, System.reaches_of_exec hread, rfl⟩, fun _ hrun' hend =>
    absurd hend.1 (returned_run (reachable_open hreach) rfl hrun').1.read.reader⟩

end Session

end Cuse2Net.Realdev

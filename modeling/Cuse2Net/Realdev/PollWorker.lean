import Cuse2Net.Lib.RwLock

/-!
# The poll worker of the server

Model of `Poll::run` in `realdev/poll.rs` as far as its control flow and the lock around `PollInner`
go. The first line of `run` borrows `fd_epoll` out of a read guard and uses it to the end, so the
guard lives as long as the function; every later access to the lock is a section of its own.

A label names the step and what the kernel decides: the results of `epoll_ctl` and `epoll_wait`.
-/

set_option autoImplicit false

namespace Cuse2Net.Realdev

open Cuse2Net.Lib

/-- The threads that use the lock. -/
inductive Thread where
  | main
  | poll
  deriving DecidableEq

/-- The token of an epoll event. -/
inductive PollToken where
  | TOK_SYNC
  | TOK_SER
  | unexpected
  deriving DecidableEq

/-- Where the poll worker is. -/
inductive PollPc where
  /-- Before the read guard that `efd` borrows from. -/
  | borrow
  /-- Before `fd_rx.take()`. -/
  | takeRx
  /-- Before the sync pipe is added to `efd`. -/
  | addSync
  /-- Before the device is added to `efd`. -/
  | addSer
  /-- At the condition of the loop. -/
  | check
  /-- In `efd.wait()`. -/
  | wait
  /-- In the loop over the events. -/
  | handle (tokens : List PollToken)
  /-- The function has returned. -/
  | exited
  /-- `fd_rx` was gone. -/
  | panicked
  deriving DecidableEq

/-- The lock, the ends of the sync pipe and the worker. -/
structure PollState where
  lock : RwLock Thread
  fdRx : Bool
  fdTx : Bool
  worker : PollPc
  deriving DecidableEq

/-- Steps of the worker. -/
inductive PollLabel where
  | borrow
  | takeRx
  | addSync (ok : Bool)
  | addSer (ok : Bool)
  | check
  | wait (res : Option (List PollToken))
  | handle
  deriving DecidableEq

namespace PollState

/-- `Poll::new`, with the worker at the beginning of `run`. -/
def new : PollState := ⟨.free, true, true, .borrow⟩

/-- `run` ends and its guard is dropped. -/
def leave (p : PollState) (pc : PollPc) : PollState :=
  { p with lock := p.lock.releaseRead .poll, worker := pc }

/-- One step of `run`. -/
def step (p : PollState) : PollLabel → Option PollState
  | .borrow =>
      match p.worker with
      | .borrow => (p.lock.tryRead .poll).map fun lock => { p with lock := lock, worker := .takeRx }
      | _ => none
  | .takeRx =>
      match p.worker with
      | .takeRx =>
          (p.lock.writeSection .poll).map fun lock =>
            if p.fdRx then { p with lock := lock, fdRx := false, worker := .addSync }
            -- `unwrap` of `None`
            else { p with lock := lock }.leave .panicked
      | _ => none
  | .addSync ok =>
      match p.worker with
      | .addSync => some (if ok then { p with worker := .addSer } else p.leave .exited)
      | _ => none
  | .addSer ok =>
      match p.worker with
      | .addSer =>
          (p.lock.readSection .poll).map fun lock =>
            if ok then { p with lock := lock, worker := .check }
            else { p with lock := lock }.leave .exited
      | _ => none
  | .check =>
      match p.worker with
      | .check =>
          (p.lock.readSection .poll).map fun lock =>
            if p.fdTx then { p with lock := lock, worker := .wait }
            else { p with lock := lock }.leave .exited
      | _ => none
  | .wait res =>
      match p.worker, res with
      | .wait, some tokens => some { p with worker := .handle tokens }
      | .wait, none => some (p.leave .exited)
      | _, _ => none
  | .handle =>
      match p.worker with
      | .handle [] => some { p with worker := .check }
      | .handle (.TOK_SER :: tokens) =>
          -- `signal` runs under the write guard
          (p.lock.writeSection .poll).map fun lock =>
            { p with lock := lock, worker := .handle tokens }
      | .handle (_ :: tokens) => some { p with worker := .handle tokens }
      | _ => none

/-- The worker has not got beyond `fd_rx.take()`, and there it holds a read guard. -/
inductive Stuck (p : PollState) : Prop where
  | borrow (hpc : p.worker = .borrow)
  | takeRx (hpc : p.worker = .takeRx) (hguard : .poll ∈ p.lock.readers)

/-- **The worker blocks itself.** It asks for the write guard while it holds a read guard. -/
theorem step_takeRx_eq_none {p : PollState} (hpc : p.worker = .takeRx)
    (hguard : .poll ∈ p.lock.readers) (l : PollLabel) : p.step l = none := by
  cases l with
  | takeRx =>
      -- the guard of `efd` is still there
      simp only [step, hpc, RwLock.writeSection_eq_none hguard, Option.map_none]
  | _ => simp only [step, hpc]

/-- Before the first line of `run` there is no other step. -/
theorem step_borrow {p q : PollState} {l : PollLabel} (hpc : p.worker = .borrow)
    (h : p.step l = some q) :
    ∃ lock, p.lock.tryRead .poll = some lock ∧ q = { p with lock := lock, worker := .takeRx } := by
  cases l with
  | borrow =>
      simp only [step, hpc] at h
      obtain ⟨lock, hlock, rfl⟩ := Option.map_eq_some_iff.1 h
      exact ⟨lock, hlock, rfl⟩
  | _ => simp only [step, hpc, reduceCtorEq] at h

theorem step_stuck {p q : PollState} {l : PollLabel} (h : p.Stuck) (hstep : p.step l = some q) :
    q.Stuck := by
  cases h with
  | borrow hpc =>
      obtain ⟨lock, hlock, rfl⟩ := step_borrow hpc hstep
      rw [RwLock.tryRead, Option.ite_none_right_eq_some] at hlock
      obtain rfl := Option.some.inj hlock.2
      exact .takeRx rfl List.mem_cons_self
  | takeRx hpc hguard =>
      rw [step_takeRx_eq_none hpc hguard] at hstep
      cases hstep

theorem Stuck.not_exited {p : PollState} (h : p.Stuck) :
    p.worker ≠ .exited ∧ p.worker ≠ .panicked := by
  cases h with
  | borrow hpc => rw [hpc]; exact ⟨nofun, nofun⟩
  | takeRx hpc _ => rw [hpc]; exact ⟨nofun, nofun⟩

end PollState

end Cuse2Net.Realdev

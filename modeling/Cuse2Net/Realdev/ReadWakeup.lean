import Cuse2Net.Realdev.ReadProgress

/-!
# The reader does not sleep on work

The reader sleeps in two places: in `consume_sync` after it has found the queue empty, and in `poll()`
while its request is pending. The bytes in the sync pipe are not in step with the requests: several
requests may be served before a byte is taken, and interrupts add bytes of their own. What holds is
that the main thread writes a byte whenever it changes the queue or takes the pending request
(`pushRequest_wakes`, `doIntr_wakes`), and that no byte is taken while the reader sleeps.
-/

set_option autoImplicit false

namespace Cuse2Net.Realdev

open Cuse2Net.Lib
open Cuse2Net.Proto

namespace ReadInner

theorem sendSync_written {r : ReadInner} (hfd : r.fdTx = true) :
    r.sendSync true = ({ r with sync := r.sync + 1 }, true) := by
  rw [sendSync, if_pos hfd]
  rfl

theorem pushRequest_wakes {r : ReadInner} (hfd : r.fdTx = true) (req : ReadRequest) :
    (r.pushRequest req true).1.sync = r.sync + 1 := by
  rw [pushRequest, sendSync_written (r := { r with readOps := r.readOps ++ [req] }) hfd]

theorem doIntr0_frame (r : ReadInner) : r.doIntr0.fdTx = r.fdTx ∧ r.doIntr0.sync = r.sync := by
  cases hp : r.pendingRequest <;> simp [doIntr0, takePending, sendErr, hp]

/-- `do_intr_x` leaves the pipe alone; when its assertion fails, it leaves the queue and the pending
request alone, too. -/
theorem doIntrX_frame (r : ReadInner) (seq : Sequence) :
    (r.doIntrX seq).1.fdTx = r.fdTx ∧ (r.doIntrX seq).1.sync = r.sync ∧
      ((r.doIntrX seq).2 = false → (r.doIntrX seq).1.readOps = r.readOps ∧
        (r.doIntrX seq).1.pendingRequest = r.pendingRequest) := by
  unfold doIntrX
  split
  · refine ⟨rfl, rfl, ?_⟩
    intro h
    cases h
  · split
    · refine ⟨rfl, rfl, ?_⟩
      intro h
      cases h
    · refine ⟨rfl, rfl, ?_⟩
      intro h
      cases h
    · exact ⟨rfl, rfl, fun _ => ⟨rfl, rfl⟩⟩

/-- An interrupt writes a byte, or its assertion fails and it has changed nothing that the reader
waits for. -/
theorem doIntr_wakes {r : ReadInner} (hfd : r.fdTx = true) (seq : Option Sequence) :
    (r.doIntr seq true).1.sync = r.sync + 1 ∨
      ((r.doIntr seq true).1.sync = r.sync ∧ (r.doIntr seq true).1.readOps = r.readOps ∧
        (r.doIntr seq true).1.pendingRequest = r.pendingRequest) := by
  cases seq with
  | none =>
      left
      obtain ⟨hfd', hsync⟩ := r.doIntr0_frame
      rw [doIntr, sendSync_written (hfd'.trans hfd)]
      exact congrArg (· + 1) hsync
  | some seq =>
      have hframe := r.doIntrX_frame seq
      rw [doIntr]
      rcases hres : r.doIntrX seq with ⟨r', ok⟩
      rw [hres] at hframe
      obtain ⟨hfd', hsync, hkeep⟩ := hframe
      cases ok with
      | true =>
          left
          show (r'.sendSync true).1.sync = r.sync + 1
          rw [sendSync_written (hfd'.trans hfd)]
          exact congrArg (· + 1) hsync
      | false =>
          right
          obtain ⟨hops, hpending⟩ := hkeep rfl
          exact ⟨hsync, hops, hpending⟩

end ReadInner

/-- Steps of `push_request`, `do_intr` and the reader, where the pipe takes the byte. -/
def ReadLabel.Written : ReadLabel → Prop
  | .push _ written => written = true
  | .intr _ written => written = true
  | .close => False
  | _ => True

instance (l : ReadLabel) : Decidable l.Written :=
  match l with
  | .push _ written | .intr _ written => instDecidableEqBool written true
  | .close => .isFalse id
  | .check | .next | .consume _ | .read _ | .send _ | .register | .poll _ | .take | .reschedule
  | .fail _ => .isTrue trivial

namespace ReadState

/-- A byte waits for a reader that sleeps while there is work. -/
structure Awake (s : ReadState) : Prop where
  fdTx : s.inner.fdTx = true
  queue : s.reader = .consume → s.inner.readOps ≠ [] → 1 ≤ s.inner.sync
  pending : s.reader = .polling → s.inner.pendingRequest = none → 1 ≤ s.inner.sync

/-- The main thread writes a byte, or changes nothing that the reader waits for. -/
theorem Awake.of_main {s t : ReadState} (hs : s.Awake) (hreader : t.reader = s.reader)
    (hfd : t.inner.fdTx = true)
    (hwakes : t.inner.sync = s.inner.sync + 1 ∨
      (t.inner.sync = s.inner.sync ∧ t.inner.readOps = s.inner.readOps ∧
        t.inner.pendingRequest = s.inner.pendingRequest)) : t.Awake := by
  rcases hwakes with hsync | ⟨hsync, hops, hpending⟩
  · have hone : 1 ≤ t.inner.sync := by omega
    exact ⟨hfd, fun _ _ => hone, fun _ _ => hone⟩
  · refine ⟨hfd, ?_, ?_⟩
    · rw [hreader, hops, hsync]
      exact hs.queue
    · rw [hreader, hpending, hsync]
      exact hs.pending

/-- The reader falls asleep only on an empty queue or with its request pending. -/
theorem Move.awake {s : ReadState} {l : ReadLabel} {inner : ReadInner} {pc : ReaderPc}
    (hmove : Move s l inner pc) :
    (pc = .consume → inner.readOps = []) ∧ (pc = .polling → inner.pendingRequest ≠ none) := by
  have hother : ∀ {pc : ReaderPc}, pc ≠ .consume → pc ≠ .polling →
      (pc = .consume → inner.readOps = []) ∧ (pc = .polling → inner.pendingRequest ≠ none) :=
    fun hc hp => ⟨fun h => absurd h hc, fun h => absurd h hp⟩
  cases hmove with
  | nextNone hr hops =>
      refine ⟨fun _ => hops, ?_⟩
      intro h
      cases h
  | register req hr hpending =>
      refine ⟨?_, fun _ => Option.some_ne_none req⟩
      intro h
      cases h
  | check hr => split <;> exact hother (by simp) (by simp)
  | consumeAfter got n req hr =>
      cases req <;> exact hother (by simp [ReaderPc.afterHandle]) (by simp [ReaderPc.afterHandle])
  | read req res hr =>
      -- the request is held after `read()`, and a sleeping reader holds none
      have hheld := held_afterRead req res
      refine hother ?_ ?_
      · intro h
        rw [h] at hheld
        cases hheld
      · intro h
        rw [h] at hheld
        cases hheld
  | take rc hr =>
      cases rc with
      | error e =>
          cases s.inner.pendingRequest <;> exact hother (by simp [afterPoll]) (by simp [afterPoll])
      | ready sync =>
          cases sync <;> cases s.inner.pendingRequest <;>
            exact hother (by simp [afterPoll, ReaderPc.afterHandle])
              (by simp [afterPoll, ReaderPc.afterHandle])
  | _ => exact hother (by simp) (by simp)

theorem step_awake {s t : ReadState} {l : ReadLabel} (hs : s.Awake) (hl : l.Written)
    (h : step s l = some t) : t.Awake := by
  cases hby : l.byReader with
  | true =>
      obtain ⟨inner, pc, hmove, rfl⟩ := reader_move hby h
      obtain ⟨hqueue, hpending⟩ := hmove.awake
      refine ⟨(hmove.alive hs.fdTx).1, ?_, ?_⟩
      · intro hpc hops
        exact absurd (hqueue hpc) hops
      · intro hpc hnone
        exact absurd hnone (hpending hpc)
  | false =>
      cases l with
      | push req written =>
          obtain rfl : written = true := hl
          simp only [step, Option.ite_none_right_eq_some, Option.some.injEq] at h
          obtain ⟨-, rfl⟩ := h
          refine hs.of_main rfl ?_ (.inl (ReadInner.pushRequest_wakes hs.fdTx req))
          show (s.inner.pushRequest req true).1.fdTx = true
          rw [ReadInner.pushRequest, ReadInner.sendSync_fdTx]
          exact hs.fdTx
      | intr seq written =>
          obtain rfl : written = true := hl
          simp only [step, Option.ite_none_right_eq_some, Option.some.injEq] at h
          obtain ⟨-, rfl⟩ := h
          exact hs.of_main rfl ((s.inner.doIntr_frame seq true).1.trans hs.fdTx)
            (ReadInner.doIntr_wakes hs.fdTx seq)
      | close => cases hl
      | _ => cases hby

/-- **The reader never sleeps on work.** In every interleaving of `push_request`, `do_intr` and the
reader: while the reader is in `consume_sync` after it has found the queue empty and there are
requests again, and while it is in `poll()` and its pending request has been taken, there is a byte in
the sync pipe. -/
theorem reader_never_sleeps_on_work (s : ReadState)
    (h : system.Reachable (fun _ l => l.Written) s) :
    (s.reader = .consume → s.inner.readOps ≠ [] → 1 ≤ s.inner.sync) ∧
      (s.reader = .polling → s.inner.pendingRequest = none → 1 ≤ s.inner.sync) := by
  have hawake : s.Awake := by
    refine h.invariant (P := Awake) ?_ ?_
    · rintro s rfl
      refine ⟨rfl, ?_, ?_⟩
      · intro h
        cases h
      · intro h
        cases h
    · intro s l t hs hok hstep
      exact step_awake hs hok hstep
  exact ⟨hawake.queue, hawake.pending⟩

/-- A request is interrupted while the reader waits for data of the device. -/
theorem reader_woken_by_interrupt :
    let s : ReadState := ⟨⟨[], none, true, 2, [.err ⟨1, by decide⟩ .EINTR]⟩, .polling, true,
      [(⟨1, by decide⟩, 8)], []⟩
    system.Reachable (fun _ l => l.Written) s ∧ 1 ≤ s.inner.sync :=
  have hrun : system.exec (fun _ l => l.Written) start
      [.push (⟨1, by decide⟩, 8) true, .check, .next, .read (.error .EAGAIN), .register,
        .intr none true] =
      some ⟨⟨[], none, true, 2, [.err ⟨1, by decide⟩ .EINTR]⟩, .polling, true,
        [(⟨1, by decide⟩, 8)], []⟩ := rfl
  have hreach := System.reachable_of_exec (show system.init start from rfl) hrun
  ⟨hreach, (reader_never_sleeps_on_work _ hreach).2 rfl rfl⟩

end ReadState

end Cuse2Net.Realdev

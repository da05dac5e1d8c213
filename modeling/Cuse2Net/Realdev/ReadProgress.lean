import Cuse2Net.Realdev.ReadInterrupt

/-!
# Progress of the reader

As long as the writing end of the sync pipe is open, the reader does not leave its loop
(`step_alive`), whatever the two threads do; sequence numbers may repeat here. Left alone, it gets
back to `read()` when it still has a request to read for (`leads_of_awaiting`), and it finds no other
requests than these (`reader_awaiting`).
-/

set_option autoImplicit false

namespace Cuse2Net.Realdev

open Cuse2Net.Lib
open Cuse2Net.Proto

/-! ## The writing end stays open -/

namespace ReadInner

@[simp] theorem sendSync_fdTx (r : ReadInner) (written : Bool) :
    (r.sendSync written).1.fdTx = r.fdTx := by
  unfold sendSync
  split <;> rfl

/-- While the pipe is open, the byte is written or dropped and nothing panics. -/
theorem sendSync_ok {r : ReadInner} (hfd : r.fdTx = true) (written : Bool) :
    (r.sendSync written).2 = true := by
  rw [sendSync, if_pos hfd]

/-- An interrupt leaves the writing end alone and adds no pending request. -/
theorem doIntr_frame (r : ReadInner) (seq : Option Sequence) (written : Bool) :
    (r.doIntr seq written).1.fdTx = r.fdTx ∧
      ((r.doIntr seq written).1.pendingRequest.isSome → r.pendingRequest.isSome) := by
  cases seq with
  | none =>
      rw [doIntr, sendSync_fdTx, sendSync_pendingRequest]
      cases hp : r.pendingRequest <;> simp [doIntr0, takePending, sendErr, hp]
  | some seq =>
      have hX : (r.doIntrX seq).1.fdTx = r.fdTx ∧
          ((r.doIntrX seq).1.pendingRequest.isSome → r.pendingRequest.isSome) := by
        unfold doIntrX
        split
        · refine ⟨rfl, ?_⟩
          intro h
          cases h
        · split
          · exact ⟨rfl, id⟩
          · exact ⟨rfl, id⟩
          · exact ⟨rfl, id⟩
      rw [doIntr]
      rcases hres : r.doIntrX seq with ⟨r', ok⟩
      rw [hres] at hX
      cases ok with
      | true =>
          simp only [sendSync_fdTx, sendSync_pendingRequest]
          exact hX
      | false => exact hX

end ReadInner

namespace ReadState

/-- The writing end is open, so the loop of the reader has not ended. -/
structure Alive (s : ReadState) : Prop where
  fdTx : s.inner.fdTx = true
  reader : s.reader ≠ .exited
  shape : s.Shape

theorem start_alive : start.Alive := ⟨rfl, nofun, .of_idle rfl trivial⟩

/-- The reader does not close the pipe, and ends its loop only when the pipe is closed. -/
theorem Move.alive {s : ReadState} {l : ReadLabel} {inner : ReadInner} {pc : ReaderPc}
    (hmove : Move s l inner pc) (hfd : s.inner.fdTx = true) :
    inner.fdTx = true ∧ pc ≠ .exited := by
  have hafter : ∀ req : Option ReadRequest, ReaderPc.afterHandle req ≠ .exited := by
    intro req h
    cases req <;> cases h
  cases hmove with
  | check hr =>
      rw [hfd]
      refine ⟨rfl, ?_⟩
      intro h
      cases h
  | consumeAfter got n req hr => exact ⟨hfd, hafter req⟩
  | read req res hr =>
      refine ⟨hfd, ?_⟩
      intro h
      have hheld := held_afterRead req res
      rw [h] at hheld
      cases hheld
  | take rc hr =>
      refine ⟨hfd, ?_⟩
      cases rc with
      | error e => cases s.inner.pendingRequest <;> simp [afterPoll]
      | ready sync =>
          cases sync with
          | true =>
              intro h
              cases h
          | false => exact hafter _
  | _ =>
      refine ⟨hfd, ?_⟩
      intro h
      cases h

/-- Without the destructor, the reader stays in its loop. -/
theorem step_alive {s t : ReadState} {l : ReadLabel} (hs : s.Alive) (hl : l ≠ .close)
    (h : step s l = some t) : t.Alive := by
  cases hby : l.byReader with
  | true =>
      have hshape := (reader_effect hs.shape hby h).2
      obtain ⟨inner, pc, hmove, rfl⟩ := reader_move hby h
      obtain ⟨hfd, hpc⟩ := hmove.alive hs.fdTx
      exact ⟨hfd, hpc, hshape⟩
  | false =>
      cases l with
      | push req written =>
          simp only [step, Option.ite_none_right_eq_some, Option.some.injEq] at h
          obtain ⟨-, rfl⟩ := h
          refine ⟨?_, hs.reader, hs.shape.of_main rfl ?_⟩
          · show (s.inner.pushRequest req written).1.fdTx = true
            rw [ReadInner.pushRequest, ReadInner.sendSync_fdTx]
            exact hs.fdTx
          · show (s.inner.pushRequest req written).1.pendingRequest.isSome → _
            rw [ReadInner.pushRequest, ReadInner.sendSync_pendingRequest]
            exact id
      | intr seq written =>
          simp only [step, Option.ite_none_right_eq_some, Option.some.injEq] at h
          obtain ⟨-, rfl⟩ := h
          obtain ⟨hfd, hpending⟩ := s.inner.doIntr_frame seq written
          exact ⟨hfd.trans hs.fdTx, hs.reader, hs.shape.of_main rfl hpending⟩
      | close => exact absurd rfl hl
      | _ => cases hby

/-! ## Back to `read()` -/

/-- The requests for which the reader still goes to `read()`. After a failed `poll()` the pending
request is answered with the error. -/
def awaiting (s : ReadState) : List ReadRequest :=
  match s.reader with
  | .taking (.error _) => s.inner.readOps
  | .panicked _ _ => []
  | _ => s.lingering

theorem awaiting_subset (s : ReadState) : s.awaiting ⊆ s.lingering := by
  unfold awaiting
  split
  · intro req hreq
    exact List.mem_append_right _ (List.mem_append_right _ hreq)
  · exact List.nil_subset _
  · exact List.Subset.refl _

theorem awaiting_eq_lingering {s : ReadState} (hpoll : ∀ e, s.reader ≠ .taking (.error e))
    (hpanic : ∀ a req, s.reader ≠ .panicked a req) : s.awaiting = s.lingering := by
  unfold awaiting
  split
  · next e hr => exact absurd hr (hpoll e)
  · next a req hr => exact absurd hr (hpanic a req)
  · rfl

theorem Move.not_panicked {s : ReadState} {l : ReadLabel} {inner : ReadInner} {pc : ReaderPc}
    (hmove : Move s l inner pc) (a : ReaderAssertion) (req : ReadRequest) :
    s.reader ≠ .panicked a req := by
  cases hmove <;> simp_all only [ne_eq, reduceCtorEq, not_false_eq_true]

/-- The reader finds no new requests to read for. -/
theorem reader_awaiting {s t : ReadState} {l : ReadLabel} (hshape : s.Shape)
    (hl : l.byReader = true) (h : step s l = some t) : t.awaiting ⊆ s.awaiting := by
  by_cases hcut : l = .send .incomplete
  · -- a reader that has panicked reads no more
    subst hcut
    obtain ⟨req, buf, -, rfl⟩ := send_incomplete h
    exact List.nil_subset _
  have hlingering : t.awaiting ⊆ s.lingering :=
    List.Subset.trans t.awaiting_subset (reader_lingering hshape hl hcut h)
  obtain ⟨inner, pc, hmove, rfl⟩ := reader_move hl h
  by_cases hpoll : ∃ e, s.reader = .taking (.error e)
  · -- the pending request goes to `send_err`, only the queue remains
    obtain ⟨e, hr⟩ := hpoll
    cases hmove with
    | take rc hr' =>
        obtain rfl : rc = .error e := by simpa [hr] using hr'.symm
        have hqueue : s.awaiting = s.inner.readOps := by rw [awaiting, hr]
        rw [hqueue]
        cases s.inner.pendingRequest with
        | none => exact List.Subset.refl _
        | some req => exact List.Subset.refl _
    | _ => simp_all only [reduceCtorEq]
  · rw [awaiting_eq_lingering (not_exists.1 hpoll) hmove.not_panicked]
    exact hlingering

/-- Steps of the reader alone lead to `read()`. -/
def LeadsToRead (s : ReadState) : Prop :=
  ∃ t, system.Reaches (fun _ l => l.byReader = true) s t ∧ ∃ req, t.reader = .reading req

theorem LeadsToRead.step {s m : ReadState} {l : ReadLabel} (hm : m.LeadsToRead)
    (hl : l.byReader = true) (h : step s l = some m) : s.LeadsToRead := by
  obtain ⟨t, hrun, hreq⟩ := hm
  exact ⟨t, Relation.ReflTransGen.head ⟨l, hl, h⟩ hrun, hreq⟩

section Leads

variable {s : ReadState} {req : ReadRequest}

theorem leads_of_next (hr : s.reader = .next) (hops : s.inner.readOps ≠ []) : s.LeadsToRead := by
  obtain ⟨req, ops, hops⟩ := List.exists_cons_of_ne_nil hops
  have hstep : s.step .next = some { s with
      inner := { s.inner with readOps := ops }, reader := .reading req } := by
    simp only [ReadState.step, hr, ReadInner.nextRequest, hops, List.head?_cons, List.tail_cons]
  exact LeadsToRead.step ⟨_, Relation.ReflTransGen.refl, req, rfl⟩ rfl hstep

theorem leads_of_check (hfd : s.inner.fdTx = true) (hr : s.reader = .check)
    (hops : s.inner.readOps ≠ []) : s.LeadsToRead := by
  have hnext : { s with reader := .next }.LeadsToRead := leads_of_next rfl hops
  exact hnext.step (l := .check) rfl (by simp only [ReadState.step, hr, hfd, if_true])

theorem leads_of_rescheduling (hfd : s.inner.fdTx = true) (hr : s.reader = .rescheduling req) :
    s.LeadsToRead := by
  have hcheck : { s with inner := { s.inner with readOps := req :: s.inner.readOps },
                         reader := .check }.LeadsToRead :=
    leads_of_check hfd rfl (List.cons_ne_nil _ _)
  exact hcheck.step (l := .reschedule) rfl (by simp only [ReadState.step, hr])

/-- `handle_request` has returned a request, or there is one in the queue. -/
theorem leads_of_afterHandle (hfd : s.inner.fdTx = true) {held : Option ReadRequest}
    (hr : s.reader = .afterHandle held) (hwork : held.toList ++ s.inner.readOps ≠ []) :
    s.LeadsToRead := by
  cases held with
  | some req => exact leads_of_rescheduling hfd hr
  | none => exact leads_of_check hfd hr hwork

/-- `consume_sync` takes a byte if there is one. -/
theorem consumeSync_available (s : ReadState) (pc : ReaderPc) :
    ∃ n, s.consumeSync (decide (0 < s.inner.sync)) pc =
      some { s with inner := { s.inner with sync := n }, reader := pc } := by
  by_cases hsync : 0 < s.inner.sync
  · exact ⟨s.inner.sync - 1, by simp only [consumeSync, hsync, decide_true, if_true]⟩
  · exact ⟨s.inner.sync, by simp only [consumeSync, hsync, decide_false, Bool.false_eq_true, if_false]⟩

theorem leads_of_consumeAfter (hfd : s.inner.fdTx = true) {held : Option ReadRequest}
    (hr : s.reader = .consumeAfter held) (hwork : held.toList ++ s.inner.readOps ≠ []) :
    s.LeadsToRead := by
  obtain ⟨n, hn⟩ := s.consumeSync_available (.afterHandle held)
  have hnext : { s with inner := { s.inner with sync := n },
                        reader := .afterHandle held }.LeadsToRead :=
    leads_of_afterHandle hfd rfl hwork
  exact hnext.step (l := .consume _) rfl (by simp only [ReadState.step, hr]; exact hn)

theorem leads_of_taking (hfd : s.inner.fdTx = true) {rc : PollResult} (hr : s.reader = .taking rc)
    (hwork : s.awaiting ≠ []) : s.LeadsToRead := by
  have htake : s.step .take = some { s with
      inner := { s.inner with pendingRequest := none },
      reader := afterPoll s.inner.pendingRequest rc } := by
    simp only [ReadState.step, hr, ReadInner.takePending]
  -- the pending request, if there is one, goes to `send_err` or back to the queue
  refine LeadsToRead.step ?_ rfl htake
  rw [awaiting, hr] at hwork
  cases rc with
  | error e =>
      cases hp : s.inner.pendingRequest with
      | none => exact leads_of_check hfd rfl hwork
      | some req =>
          have hcheck : ({ s with inner := (ReadInner.sendErr
              { s.inner with pendingRequest := none } req.1 e), reader := .check } :
              ReadState).LeadsToRead := leads_of_check hfd rfl hwork
          exact hcheck.step (l := .fail .sent) rfl rfl
  | ready sync =>
      have hwork' : s.inner.pendingRequest.toList ++ s.inner.readOps ≠ [] := by
        rw [lingering, hr] at hwork
        exact hwork
      cases sync with
      | true => exact leads_of_consumeAfter hfd rfl hwork'
      | false => exact leads_of_afterHandle hfd rfl hwork'

/-- Outside `poll()` the queue is all there is besides the held request. -/
theorem readOps_ne_nil (hs : s.Alive) (hwork : s.awaiting ≠ []) {pc : ReaderPc}
    (hr : s.reader = pc) (hpc : Waits pc = false) (hret : pc.returning = none) :
    s.inner.readOps ≠ [] := by
  intro hops
  apply hwork
  have hnil : s.lingering = [] := by
    rw [lingering, hr, hret, ReadInner.queue, hs.shape.pending_none hr hpc, hops]
    rfl
  exact List.eq_nil_of_subset_nil (hnil ▸ s.awaiting_subset)

/-- **The reader gets back to `read()`.** -/
theorem leads_of_awaiting (hs : s.Alive) (hwork : s.awaiting ≠ []) : s.LeadsToRead := by
  have hfd := hs.fdTx
  have hops := @readOps_ne_nil s hs hwork
  cases hr : s.reader with
  | check => exact leads_of_check hfd hr (hops hr rfl rfl)
  | next => exact leads_of_next hr (hops hr rfl rfl)
  | consume =>
      obtain ⟨n, hn⟩ := s.consumeSync_available .check
      have hcheck : { s with inner := { s.inner with sync := n }, reader := .check }.LeadsToRead :=
        leads_of_check hfd rfl (hops hr rfl rfl)
      exact hcheck.step (l := .consume _) rfl (by simp only [ReadState.step, hr]; exact hn)
  | reading req => exact ⟨s, Relation.ReflTransGen.refl, req, hr⟩
  | sending req buf =>
      have hcheck : ({ s with inner := s.inner.sendData req buf, reader := .check } :
          ReadState).LeadsToRead :=
        leads_of_check hfd rfl (hops hr rfl rfl)
      exact hcheck.step (l := .send .sent) rfl (by simp only [ReadState.step, hr]; rfl)
  | failing req e =>
      have hcheck : ({ s with inner := s.inner.sendErr req.1 e, reader := .check } :
          ReadState).LeadsToRead :=
        leads_of_check hfd rfl (hops hr rfl rfl)
      exact hcheck.step (l := .fail .sent) rfl (by simp only [ReadState.step, hr])
  | registering req =>
      -- without a pending request the assertion holds; the reader waits, is woken and goes round
      have hpending := hs.shape.pending_none hr rfl
      have htaking : ({ s with inner := { s.inner with pendingRequest := some req },
                               reader := .taking (.ready false) } : ReadState).LeadsToRead :=
        leads_of_taking hfd rfl (List.cons_ne_nil _ _)
      have hpolling : ({ s with inner := { s.inner with pendingRequest := some req },
                                reader := .polling } : ReadState).LeadsToRead :=
        htaking.step (l := .poll (.ready false)) rfl rfl
      refine hpolling.step (l := .register) rfl ?_
      simp only [ReadState.step, hr, ReadInner.registerPending, hpending, Option.isNone_none, if_true]
  | polling =>
      -- data arrives at the device
      have htaking : { s with reader := .taking (.ready false) }.LeadsToRead := by
        refine leads_of_taking hfd rfl ?_
        rw [awaiting, hr] at hwork
        simp only [lingering, hr] at hwork
        exact hwork
      exact htaking.step (l := .poll (.ready false)) rfl (by simp only [ReadState.step, hr])
  | taking rc => exact leads_of_taking hfd hr hwork
  | consumeAfter held =>
      refine leads_of_consumeAfter hfd hr ?_
      have hpending := hs.shape.pending_none hr rfl
      rw [awaiting, hr] at hwork
      simp only [lingering, hr, ReadInner.queue, hpending] at hwork
      exact hwork
  | rescheduling req => exact leads_of_rescheduling hfd hr
  | exited => exact absurd hr hs.reader
  | panicked a req =>
      rw [awaiting, hr] at hwork
      exact absurd rfl hwork

end Leads

theorem mem_awaiting_of_reading {s : ReadState} {req : ReadRequest} (hr : s.reader = .reading req) :
    req ∈ s.awaiting := by
  rw [awaiting, hr, lingering, hr]
  exact List.mem_cons_self

end ReadState

end Cuse2Net.Realdev

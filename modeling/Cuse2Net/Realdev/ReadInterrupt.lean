import Cuse2Net.Realdev.ReadFifo

/-!
# Interrupts of read requests

`do_intr` looks for its request in the queue and in the pending slot. A request that the reader has
taken out and may still put back (`ReaderPc.returning`) is in neither: between `next_request` and
`register_pending`, and between `take_pending` and `push_front`, it is in the reader's local variable
only. An interrupt that arrives there finds nothing and is gone; the reader goes on with the request
and, without data, waits for the device in `poll()`.

`interrupt_settles` is what holds otherwise: when every interrupt finds its request outside the
reader's hand, an interrupted request is never waiting again. The condition is exact: the first step
that does not meet it leaves an interrupted request behind. `interrupt_lost_while_reading` is a run
that loses one.
-/

set_option autoImplicit false

namespace Cuse2Net.Realdev

open Cuse2Net.Lib
open Cuse2Net.Proto

/-- The held request, as long as the reader may put it back into the queue. In `sending` and
`failing` the answer is already decided. -/
def ReaderPc.returning : ReaderPc → Option ReadRequest
  | .reading req => some req
  | .registering req => some req
  | .consumeAfter req => req
  | .rescheduling req => some req
  | .panicked _ req => some req
  | .sending _ _ | .failing _ _ => none
  | .check | .next | .consume | .polling | .taking _ | .exited => none

/-- The reader is about to answer the request it holds. -/
def ReaderPc.Answering (pc : ReaderPc) (req : ReadRequest) : Prop :=
  (∃ buf, pc = .sending req buf) ∨ ∃ e, pc = .failing req e

theorem ReaderPc.held_cases (pc : ReaderPc) {req : ReadRequest} (h : req ∈ pc.held) :
    req ∈ pc.returning ∨ pc.Answering req := by
  cases pc with
  | sending req' buf =>
      obtain rfl := Option.some.inj h
      exact .inr (.inl ⟨buf, rfl⟩)
  | failing req' e =>
      obtain rfl := Option.some.inj h
      exact .inr (.inr ⟨e, rfl⟩)
  | _ => exact .inl h

theorem ReaderPc.returning_subset (pc : ReaderPc) : pc.returning.toList ⊆ pc.held.toList := by
  cases pc with
  | sending req buf => exact List.nil_subset _
  | failing req e => exact List.nil_subset _
  | _ => exact List.Subset.refl _

namespace ReadState

/-- The requests that may still wait for data: in the reader's hand, pending or queued. -/
def lingering (s : ReadState) : List ReadRequest := s.reader.returning.toList ++ s.inner.queue

/-- An interrupt does not name a request that is in the reader's hand. -/
def InterruptVisible (s : ReadState) : ReadLabel → Prop
  | .intr (some seq) _ => ∀ req ∈ s.reader.returning, req.1 ≠ seq
  | _ => True

instance (s : ReadState) (l : ReadLabel) : Decidable (InterruptVisible s l) := by
  unfold InterruptVisible
  split <;> infer_instance

/-- The reader does not panic in the send of data for a request that has been interrupted. -/
def DataSent (s : ReadState) : ReadLabel → Prop
  | .send .incomplete => ∀ req ∈ s.reader.held, req.1 ∉ s.interrupted
  | _ => True

instance (s : ReadState) (l : ReadLabel) : Decidable (DataSent s l) := by
  unfold DataSent
  split <;> infer_instance

/-- Sequence numbers are handed in once, interrupts find their requests, and the reader answers those
it has read data for. -/
def Orderly (s : ReadState) (l : ReadLabel) : Prop :=
  DistinctPushes s l ∧ InterruptVisible s l ∧ DataSent s l

instance (s : ReadState) (l : ReadLabel) : Decidable (Orderly s l) :=
  inferInstanceAs (Decidable (_ ∧ _))

theorem lingering_subset (s : ReadState) : s.lingering ⊆ s.outstanding := by
  intro req hreq
  rcases List.mem_append.1 hreq with h | h
  · exact List.mem_append_left _ (s.reader.returning_subset h)
  · exact List.mem_append_right _ h

/-- An outstanding request lingers, or the reader is about to answer it. -/
theorem outstanding_cases {s : ReadState} {req : ReadRequest} (h : req ∈ s.outstanding) :
    req ∈ s.lingering ∨ s.reader.Answering req := by
  rcases List.mem_append.1 h with hheld | hqueue
  · rcases s.reader.held_cases (Option.mem_toList.1 hheld) with hret | hans
    · exact .inl (List.mem_append_left _ (Option.mem_toList.2 hret))
    · exact .inr hans
  · exact .inl (List.mem_append_right _ hqueue)

/-! ## Steps -/

/-- The reader thread adds no request. -/
theorem Effect.outstanding_subset {s t : ReadState} {l : ReadLabel} (h : Effect s t l)
    (hl : l.byReader = true) : t.outstanding ⊆ s.outstanding := by
  cases h with
  | push req written => cases hl
  | quiet _ _ houtstanding _ => exact houtstanding ▸ List.Subset.refl _
  | answer _ req _ _ _ houtstanding _ =>
      rw [houtstanding]
      exact List.subset_cons_self req _
  | interrupt _ xs hint _ hreader =>
      intro req hreq
      rw [outstanding, hreader, hint.queue] at hreq
      rcases List.mem_append.1 hreq with h | h
      · exact List.mem_append_left _ h
      · exact List.mem_append_right _ (List.mem_of_mem_filter h)

/-- From `sending` and `failing` the reader only answers, unless its send is cut short. -/
theorem Move.of_answering {s : ReadState} {l : ReadLabel} {inner : ReadInner} {pc : ReaderPc}
    {req : ReadRequest} (hmove : Move s l inner pc) (hcut : l ≠ .send .incomplete)
    (hans : s.reader.Answering req) : pc = .check ∧ inner.queue = s.inner.queue := by
  cases hmove with
  | send => exact ⟨rfl, rfl⟩
  | sendPanics => exact absurd rfl hcut
  | fail => exact ⟨rfl, rfl⟩
  | _ =>
      -- the reader is elsewhere
      rcases hans with ⟨buf, hans⟩ | ⟨e, hans⟩
      · simp_all only [reduceCtorEq]
      · simp_all only [reduceCtorEq]

theorem Effect.pushed_subset {s t : ReadState} {l : ReadLabel} (h : Effect s t l) :
    s.pushed ⊆ t.pushed := by
  cases h with
  | push req _ hpushed _ _ =>
      rw [hpushed]
      exact List.subset_append_left _ _
  | quiet _ hpushed _ _ => exact hpushed ▸ List.Subset.refl _
  | answer _ _ _ _ hpushed _ _ => exact hpushed ▸ List.Subset.refl _
  | interrupt _ _ _ hpushed _ => exact hpushed ▸ List.Subset.refl _

theorem lingering_subset_of_interrupts {s t : ReadState} {xs : List ReadRequest}
    (hint : ReadInner.Interrupts s.inner t.inner xs) (hreader : t.reader = s.reader) :
    t.lingering ⊆ s.lingering := by
  intro req hreq
  rw [lingering, hreader, hint.queue] at hreq
  rcases List.mem_append.1 hreq with h | h
  · exact List.mem_append_left _ h
  · exact List.mem_append_right _ (List.mem_of_mem_filter h)

/-- The reader thread does not bring a request back once its answer is decided. -/
theorem reader_lingering {s t : ReadState} {l : ReadLabel} (hshape : s.Shape)
    (hl : l.byReader = true) (hcut : l ≠ .send .incomplete) (h : step s l = some t) :
    t.lingering ⊆ s.lingering := by
  by_cases hans : ∃ req, s.reader.Answering req
  · obtain ⟨req, hans⟩ := hans
    obtain ⟨inner, pc, hmove, rfl⟩ := reader_move hl h
    obtain ⟨rfl, hqueue⟩ := hmove.of_answering hcut hans
    intro x hx
    exact List.mem_append_right _ (hqueue ▸ hx)
  · -- what is outstanding lingers, and no step of the reader adds to it
    have heffect := (reader_effect hshape hl h).1
    intro x hx
    rcases outstanding_cases (heffect.outstanding_subset hl (t.lingering_subset hx)) with hx | hx
    · exact hx
    · exact absurd ⟨x, hx⟩ hans

/-- A send that is cut short ends the reader and leaves everything else as it was. -/
theorem send_incomplete {s t : ReadState} (h : step s (.send .incomplete) = some t) :
    ∃ req buf, s.reader = .sending req buf ∧ t = { s with reader := .panicked .sendData req } := by
  obtain ⟨inner, pc, hmove, rfl⟩ := reader_move rfl h
  cases hmove with
  | send req buf out hr hout => exact absurd rfl hout
  | sendPanics req buf hr => exact ⟨req, buf, hr, rfl⟩

/-! ## Runs -/

/-- Interrupted requests have been handed in and do not linger. -/
structure Settled (s : ReadState) : Prop where
  recorded : ∀ seq ∈ s.interrupted, seq ∈ s.pushed.map Prod.fst
  gone : ∀ seq ∈ s.interrupted, ∀ req ∈ s.lingering, req.1 ≠ seq

theorem mem_noteInterrupt {s : ReadState} {seq : Option Sequence} {x : Sequence}
    (h : x ∈ s.noteInterrupt seq) :
    x ∈ s.interrupted ∨ (seq = some x ∧ x ∈ s.pushed.map Prod.fst) := by
  cases seq with
  | none => exact .inl h
  | some seq =>
      rw [noteInterrupt] at h
      split at h
      · next hmem =>
        rcases List.mem_append.1 h with h | h
        · exact .inl h
        · obtain rfl := List.mem_singleton.1 h
          exact .inr ⟨rfl, hmem⟩
      · exact .inl h

/-- A step that brings no request back keeps what is settled. -/
theorem Settled.of_subset {s t : ReadState} (hs : s.Settled)
    (hinterrupted : t.interrupted = s.interrupted) (hpushed : s.pushed ⊆ t.pushed)
    (hlingering : t.lingering ⊆ s.lingering) : t.Settled := by
  constructor
  · rw [hinterrupted]
    intro seq hseq
    exact List.map_subset _ hpushed (hs.recorded seq hseq)
  · rw [hinterrupted]
    intro seq hseq req hreq
    exact hs.gone seq hseq req (hlingering hreq)

theorem step_settled {s t : ReadState} {l : ReadLabel} {a : Fifo ReadRequest} (ha : a.Sound)
    (hR : s.Refines a) (hs : s.Settled) (hok : Orderly s l) (h : step s l = some t) :
    t.Settled := by
  have hkeys := hR.queue_keys ha
  have hpushed := (step_effect hR.shape hkeys h).1.pushed_subset
  cases l with
  | push req written =>
      simp only [step, Option.ite_none_right_eq_some, Option.some.injEq] at h
      obtain ⟨-, rfl⟩ := h
      constructor
      · intro seq hseq
        exact List.map_subset _ hpushed (hs.recorded seq hseq)
      · -- the new request has a new sequence number, so it was not interrupted
        intro seq hseq x hx
        replace hx : x ∈ s.reader.returning.toList ++ (s.inner.pushRequest req written).1.queue := hx
        rw [ReadInner.pushRequest, ReadInner.sendSync_queue, ReadInner.queue, ← List.append_assoc,
          ← List.append_assoc, List.mem_append, List.mem_singleton, List.append_assoc] at hx
        rcases hx with hx | rfl
        · exact hs.gone seq hseq x hx
        · rintro rfl
          exact hok.1 (hs.recorded _ hseq)
  | intr seq written =>
      simp only [step, Option.ite_none_right_eq_some, Option.some.injEq] at h
      obtain ⟨-, rfl⟩ := h
      obtain ⟨xs, hint, hgone⟩ := s.inner.doIntr_interrupts seq written hkeys
      constructor
      · intro x hx
        rcases mem_noteInterrupt hx with hx | ⟨-, hx⟩
        · exact hs.recorded x hx
        · exact hx
      · intro x hx req hreq
        rcases mem_noteInterrupt hx with hx | ⟨rfl, -⟩
        · have hsub : _ ⊆ s.lingering :=
            lingering_subset_of_interrupts (t := s.afterMain (s.inner.doIntr seq written)) hint rfl
          exact hs.gone x hx req (hsub hreq)
        · -- `do_intr` clears the queue of the request, the condition keeps it from the reader
          rcases List.mem_append.1 hreq with hreq | hreq
          · exact hok.2.1 req (Option.mem_toList.1 hreq)
          · intro heq
            exact hgone req hreq (congrArg some heq.symm)
  | close =>
      simp only [step, Option.ite_none_right_eq_some, Option.some.injEq] at h
      obtain ⟨-, rfl⟩ := h
      obtain ⟨xs, hint⟩ := s.inner.closeInternal_interrupts hkeys
      exact hs.of_subset rfl hpushed (lingering_subset_of_interrupts hint rfl)
  | send out =>
      by_cases hout : out = .incomplete
      · -- the request comes back into the hand of a reader that has panicked
        subst hout
        obtain ⟨req, buf, hr, rfl⟩ := send_incomplete h
        refine ⟨hs.recorded, fun seq hseq x hx => ?_⟩
        rcases List.mem_append.1 hx with hx | hx
        · obtain rfl := List.mem_singleton.1 hx
          rintro rfl
          exact hok.2.2 x (by rw [hr]; rfl) hseq
        · exact hs.gone seq hseq x (List.mem_append_right _ hx)
      · have hlingering := reader_lingering hR.shape rfl (fun hl => hout (ReadLabel.send.inj hl)) h
        obtain ⟨inner, pc, -, rfl⟩ := reader_move rfl h
        exact hs.of_subset rfl hpushed hlingering
  | _ =>
      have hlingering := reader_lingering hR.shape rfl (fun hl => by cases hl) h
      obtain ⟨inner, pc, -, rfl⟩ := reader_move rfl h
      exact hs.of_subset rfl hpushed hlingering

theorem reachable_settled {s : ReadState} (h : system.Reachable Orderly s) : s.Settled := by
  suffices hinv : system.Reachable DistinctPushes s ∧ s.Settled from hinv.2
  refine h.invariant (P := fun s => system.Reachable DistinctPushes s ∧ s.Settled) ?_ ?_
  · rintro s rfl
    exact ⟨.of_init rfl, nofun, nofun⟩
  · rintro s l t ⟨hreach, hs⟩ hok hstep
    obtain ⟨a, ha, hR⟩ := reachable_refines hreach
    exact ⟨hreach.next hok.1 hstep, step_settled (Fifo.reachable_sound ha) hR hs hok hstep⟩

/-- Every interrupted request is neither queued nor pending, and it is answered or the reader is about to
answer it. -/
def InterruptsSettled (s : ReadState) : Prop :=
  ∀ seq ∈ s.interrupted,
    (∀ req ∈ s.inner.readOps, req.1 ≠ seq) ∧ (∀ req ∈ s.inner.pendingRequest, req.1 ≠ seq) ∧
    (seq ∈ s.answered ∨ ∃ req, req.1 = seq ∧ s.reader.Answering req)

theorem Settled.interruptsSettled {s : ReadState} (hs : s.Settled)
    (hreach : system.Reachable DistinctPushes s) : s.InterruptsSettled := by
  obtain ⟨a, ha, hR⟩ := reachable_refines hreach
  intro seq hseq
  refine ⟨?_, ?_, ?_⟩
  · intro req hreq
    exact hs.gone seq hseq req (List.mem_append_right _ (List.mem_append_right _ hreq))
  · intro req hreq
    have hmem : req ∈ s.inner.queue := List.mem_append_left _ (Option.mem_toList.2 hreq)
    exact hs.gone seq hseq req (List.mem_append_right _ hmem)
  · obtain ⟨req, hreq, rfl⟩ := List.mem_map.1 (hs.recorded seq hseq)
    by_cases hans : req.1 ∈ s.answered
    · exact .inl hans
    · -- a request that is not answered is outstanding, and this one does not linger
      have hout : req ∈ s.outstanding := by
        rw [hR.outstanding_eq (Fifo.reachable_sound ha), List.mem_filter]
        exact ⟨hreq, decide_eq_true hans⟩
      rcases outstanding_cases hout with hling | hpc
      · exact absurd rfl (hs.gone _ hseq req hling)
      · exact .inr ⟨req, rfl, hpc⟩

/-- A request in the reader's hand is not settled. -/
theorem not_settled_of_returning {s : ReadState} (hreach : system.Reachable DistinctPushes s)
    {req : ReadRequest} (hreq : req ∈ s.reader.returning) (hint : req.1 ∈ s.interrupted) :
    ¬s.InterruptsSettled := by
  obtain ⟨a, ha, hR⟩ := reachable_refines hreach
  intro hsettled
  rcases (hsettled _ hint).2.2 with hans | ⟨req', -, hans⟩
  · -- what is answered is not outstanding
    have hout : req ∈ s.outstanding :=
      List.mem_append_left _ (s.reader.returning_subset (Option.mem_toList.2 hreq))
    rw [hR.outstanding_eq (Fifo.reachable_sound ha), List.mem_filter, decide_eq_true_iff] at hout
    exact hout.2 hans
  · rcases hans with ⟨buf, hr⟩ | ⟨e, hr⟩ <;> rw [hr] at hreq <;> cases hreq

/-- **The first step that is not orderly** leaves an interrupted request behind. -/
theorem not_settled_of_step {s t : ReadState} {l : ReadLabel}
    (hreach : system.Reachable DistinctPushes s) (hpush : DistinctPushes s l)
    (hstep : step s l = some t) (hok : ¬Orderly s l) : ¬t.InterruptsSettled := by
  have ht := hreach.next hpush hstep
  by_cases hvisible : InterruptVisible s l
  · have hcut : ¬DataSent s l := fun hsent => hok ⟨hpush, hvisible, hsent⟩
    unfold DataSent at hcut
    split at hcut
    · obtain ⟨req, buf, hr, rfl⟩ := send_incomplete hstep
      refine not_settled_of_returning ht (show req ∈ _ from rfl) ?_
      by_contra hint
      refine hcut fun req' hreq' => ?_
      rw [hr] at hreq'
      obtain rfl := Option.some.inj hreq'
      exact hint
    · exact absurd trivial hcut
  · unfold InterruptVisible at hvisible
    split at hvisible
    · next seq written =>
      simp only [not_forall, Decidable.not_not] at hvisible
      obtain ⟨req, hreq, rfl⟩ := hvisible
      simp only [step, Option.ite_none_right_eq_some, Option.some.injEq] at hstep
      obtain ⟨-, rfl⟩ := hstep
      refine not_settled_of_returning ht hreq ?_
      -- the request was handed in, so that the interrupt is noted
      obtain ⟨a, ha, hR⟩ := reachable_refines hreach
      have hpushed : req ∈ s.pushed := (hR.outstanding_sublist (Fifo.reachable_sound ha)).subset
        (List.mem_append_left _ (s.reader.returning_subset (Option.mem_toList.2 hreq)))
      show req.1 ∈ s.noteInterrupt (some req.1)
      rw [noteInterrupt, if_pos (List.mem_map_of_mem hpushed)]
      exact List.mem_append_right _ List.mem_cons_self
    · exact absurd trivial hvisible

/-- **An interrupt settles its request**, in every run in which sequence numbers are handed in once, no
interrupt arrives while its request is in the reader's hand, and the reader does not panic in the send
of data for an interrupted request: after `do_intr` for a request that was handed in, the request is
neither queued nor pending, and it is answered or the reader is about to answer it. The condition is
exact: after such a run, a step leaves this true exactly when it meets the condition. -/
theorem interrupt_settles (s : ReadState) (h : system.Reachable Orderly s) :
    s.InterruptsSettled ∧
      ∀ l t, DistinctPushes s l → step s l = some t → (t.InterruptsSettled ↔ Orderly s l) := by
  have hrun : ∀ t, system.Reachable Orderly t → t.InterruptsSettled := fun t ht =>
    (reachable_settled ht).interruptsSettled (ht.mono fun _ _ hok => hok.1)
  refine ⟨hrun s h, ?_⟩
  intro l t hpush hstep
  constructor
  · intro ht
    by_contra hok
    exact not_settled_of_step (h.mono fun _ _ hok => hok.1) hpush hstep hok ht
  · intro hok
    exact hrun t (h.next hok hstep)

/-- Of two queued requests, the second is interrupted while the first is with the reader. -/
theorem interrupt_settles_queued :
    let s : ReadState := ⟨⟨[], none, true, 3, [.err ⟨2, by decide⟩ .EINTR]⟩, .reading (⟨1, by decide⟩, 8),
      true, [(⟨1, by decide⟩, 8), (⟨2, by decide⟩, 4)], [⟨2, by decide⟩]⟩
    system.Reachable Orderly s ∧ ⟨2, by decide⟩ ∈ s.interrupted ∧ s.InterruptsSettled :=
  have hrun : system.exec Orderly start
      [.push (⟨1, by decide⟩, 8) true, .push (⟨2, by decide⟩, 4) true, .check, .next,
        .intr (some ⟨2, by decide⟩) true] =
      some ⟨⟨[], none, true, 3, [.err ⟨2, by decide⟩ .EINTR]⟩, .reading (⟨1, by decide⟩, 8),
        true, [(⟨1, by decide⟩, 8), (⟨2, by decide⟩, 4)], [⟨2, by decide⟩]⟩ := by decide
  have hreach := System.reachable_of_exec rfl hrun
  ⟨hreach, List.mem_cons_self, (interrupt_settles _ hreach).1⟩

/-- A lost interrupt. It arrives while the reader has the request in `read()`: nothing is queued or
pending, so nothing is answered. The two bytes in the sync pipe, from `push_request` and from
`do_intr`, wake the reader twice and both times it puts the request back. At the end the request is
pending, the reader is in `poll()` and the pipe is empty: only the device can wake it. -/
theorem interrupt_lost_while_reading :
    let s : ReadState := ⟨⟨[], some (⟨1, by decide⟩, 8), true, 0, []⟩, .polling, true,
      [(⟨1, by decide⟩, 8)], [⟨1, by decide⟩]⟩
    system.Reachable DistinctPushes s ∧ ⟨1, by decide⟩ ∈ s.interrupted ∧
      s.inner.pendingRequest = some (⟨1, by decide⟩, 8) ∧ s.answered = [] ∧
      s.reader = .polling ∧ s.inner.sync = 0 :=
  have hrun : system.exec DistinctPushes start
      [.push (⟨1, by decide⟩, 8) true, .check, .next, .intr (some ⟨1, by decide⟩) true,
        .read (.error .EAGAIN), .register, .poll (.ready true), .take, .consume true, .reschedule,
        .check, .next,
        .read (.error .EAGAIN), .register, .poll (.ready true), .take, .consume true, .reschedule,
        .check, .next,
        .read (.error .EAGAIN), .register] =
      some ⟨⟨[], some (⟨1, by decide⟩, 8), true, 0, []⟩, .polling, true,
        [(⟨1, by decide⟩, 8)], [⟨1, by decide⟩]⟩ := by decide
  ⟨System.reachable_of_exec rfl hrun, List.mem_cons_self, rfl, rfl, rfl, rfl⟩

end ReadState

end Cuse2Net.Realdev

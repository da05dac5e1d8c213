import Cuse2Net.Realdev.ReadQueue

/-!
# The read queue loses and repeats nothing

The threads of `Realdev.ReadQueue` implement the service of `Lib.FifoService`: the held request, the
pending request and the queue, in this order, are the waiting jobs (`ReadState.outstanding`), and a
response ends a job. `step_effect` says once what a step can do to them; `reachable_refines` is the
simulation that follows.

`read_queue_exactly_once` collects the results for all runs in which no sequence number is handed in
twice.
-/

set_option autoImplicit false

namespace Cuse2Net.Realdev

open Cuse2Net.Lib
open Cuse2Net.Proto

/-- The sequence number that a response of the reader answers. -/
def answeredSeq : Response.Reply → Option Sequence
  | .read seq _ => some seq
  | .err seq _ => some seq
  | _ => none

/-! ## Interrupts -/

namespace ReadInner

/-- The pending request and the queue. -/
def queue (r : ReadInner) : List ReadRequest := r.pendingRequest.toList ++ r.readOps

section SendSync

variable (r : ReadInner) (written : Bool)

@[simp] theorem sendSync_pendingRequest :
    (r.sendSync written).1.pendingRequest = r.pendingRequest := by
  unfold sendSync
  split <;> rfl

@[simp] theorem sendSync_queue : (r.sendSync written).1.queue = r.queue := by
  unfold sendSync
  split <;> rfl

@[simp] theorem sendSync_sent : (r.sendSync written).1.sent = r.sent := by
  unfold sendSync
  split <;> rfl

end SendSync

theorem interruptAll_eq (sent : List Response.Reply) (reqs : List ReadRequest) :
    interruptAll sent reqs = sent ++ reqs.map fun req => .err req.1 .EINTR := by
  induction reqs generalizing sent with
  | nil => rw [interruptAll, List.map_nil, List.append_nil]
  | cons req reqs ih => rw [interruptAll, ih, List.map_cons, List.append_assoc, List.singleton_append]

/-- What an interrupt does: it takes the requests `xs` out of the queue and answers each of them. -/
structure Interrupts (r r' : ReadInner) (xs : List ReadRequest) : Prop where
  nodup : xs.Nodup
  subset : xs ⊆ r.queue
  queue : r'.queue = r.queue.filter fun x => x ∉ xs
  sent : r'.sent = r.sent ++ xs.map fun x => .err x.1 .EINTR
  pending : r'.pendingRequest.isSome → r.pendingRequest.isSome

/-- A write to the sync pipe does not touch the requests. -/
theorem Interrupts.sendSync {r r' : ReadInner} {xs : List ReadRequest} (h : Interrupts r r' xs)
    (written : Bool) : Interrupts r (r'.sendSync written).1 xs := by
  refine ⟨h.nodup, h.subset, ?_, ?_, ?_⟩
  · rw [sendSync_queue, h.queue]
  · rw [sendSync_sent, h.sent]
  · rw [sendSync_pendingRequest]
    exact h.pending

theorem interrupts_nil (r : ReadInner) : Interrupts r r [] := by
  refine ⟨List.nodup_nil, List.nil_subset _, ?_, ?_, id⟩
  · simp
  · rw [List.map_nil, List.append_nil]

/-- Without a sequence number, every request is interrupted: the queue first, then the pending
request. -/
theorem doIntr0_interrupts (r : ReadInner) (hnodup : r.queue.Nodup) :
    Interrupts r r.doIntr0 (r.readOps ++ r.pendingRequest.toList) := by
  -- the answers go out in the opposite order of the two parts
  have hperm : (r.readOps ++ r.pendingRequest.toList).Perm r.queue := List.perm_append_comm
  have hfilter : (r.queue.filter fun x => x ∉ r.readOps ++ r.pendingRequest.toList) = [] := by
    rw [List.filter_eq_nil_iff]
    intro x hx
    rw [decide_eq_true_iff, not_not]
    exact hperm.mem_iff.2 hx
  refine ⟨hperm.nodup_iff.2 hnodup, fun x hx => hperm.mem_iff.1 hx, ?_, ?_, ?_⟩
  · rw [hfilter]
    cases hp : r.pendingRequest <;> simp [doIntr0, takePending, queue, sendErr, hp]
  · cases hp : r.pendingRequest <;>
      simp [doIntr0, takePending, sendErr, hp, interruptAll_eq]
  · cases hp : r.pendingRequest <;> simp [doIntr0, takePending, sendErr, hp]

/-- With different sequence numbers in the queue, the entry that `eraseP` removes is the only one with
its sequence number. -/
theorem eraseP_eq_filter {l : List ReadRequest} (hkeys : (l.map Prod.fst).Nodup) {x : ReadRequest}
    (hx : x ∈ l) : (l.eraseP fun req => req.1 = x.1) = l.filter fun req => req ∉ [x] := by
  induction l with
  | nil => cases hx
  | cons y l ih =>
      rw [List.map_cons, List.nodup_cons] at hkeys
      by_cases hyx : y.1 = x.1
      · -- the head is the entry: no later entry has its sequence number
        have hnot : x ∉ l := fun hmem => hkeys.1 (hyx ▸ List.mem_map_of_mem hmem)
        obtain rfl : x = y := by
          rcases List.mem_cons.1 hx with h | h
          · exact h
          · exact absurd h hnot
        rw [List.eraseP_cons_of_pos (by simp), List.filter_cons_of_neg (by simp)]
        symm
        rw [List.filter_eq_self]
        intro z hz
        rw [decide_eq_true_iff, List.mem_singleton]
        rintro rfl
        exact hnot hz
      · have hne : y ≠ x := fun h => hyx (h ▸ rfl)
        have hmem : x ∈ l := by
          rcases List.mem_cons.1 hx with h | h
          · exact absurd h.symm hne
          · exact h
        rw [List.eraseP_cons_of_neg (by simpa using hyx), List.filter_cons_of_pos (by simpa using hne),
          ih hkeys.2 hmem]

section OneRequest

variable {l : List ReadRequest} {y : ReadRequest}

/-- Taking out a request takes out its sequence number. -/
theorem fst_ne_of_mem_filter (hkeys : (l.map Prod.fst).Nodup) (hy : y ∈ l) {x : ReadRequest}
    (hx : x ∈ l.filter fun z => z ∉ [y]) : x.1 ≠ y.1 := by
  obtain ⟨hxl, hxne⟩ := List.mem_filter.1 hx
  rw [decide_eq_true_iff, List.mem_singleton] at hxne
  intro hxy
  exact hxne (List.inj_on_of_nodup_map hkeys hxl hy hxy)

/-- A list without a request does not change when the request is taken out. -/
theorem filter_notMem_singleton (h : ∀ x ∈ l, x.1 ≠ y.1) :
    (l.filter fun x => x ∉ [y]) = l := by
  rw [List.filter_eq_self]
  intro x hx
  rw [decide_eq_true_iff, List.mem_singleton]
  rintro rfl
  exact h x hx rfl

theorem interrupts_one {r r' : ReadInner} (hy : y ∈ r.queue)
    (hqueue : r'.queue = r.queue.filter fun x => x ∉ [y])
    (hsent : r'.sent = r.sent ++ [.err y.1 .EINTR])
    (hpending : r'.pendingRequest.isSome → r.pendingRequest.isSome) : Interrupts r r' [y] := by
  refine ⟨List.nodup_singleton y, ?_, hqueue, hsent, hpending⟩
  intro x hx
  rw [List.mem_singleton.1 hx]
  exact hy

end OneRequest

/-- At most one entry of the queue has a given sequence number. -/
theorem filter_key_length_le {l : List ReadRequest} (hkeys : (l.map Prod.fst).Nodup)
    (seq : Sequence) : (l.filter fun req => req.1 = seq).length ≤ 1 := by
  have hcount : (l.filter fun req => req.1 = seq).length = (l.map Prod.fst).count seq := by
    rw [List.count, List.countP_map, List.countP_eq_length_filter]
    congr 1
  rw [hcount]
  exact List.nodup_iff_count_le_one.1 hkeys seq

/-- An interrupt of one request takes out the request with this sequence number, if there is one. -/
theorem doIntrX_interrupts (r : ReadInner) (seq : Sequence) (hkeys : (r.queue.map Prod.fst).Nodup) :
    ∃ xs, Interrupts r (r.doIntrX seq).1 xs ∧ (r.doIntrX seq).2 = true ∧
      ∀ x ∈ (r.doIntrX seq).1.queue, x.1 ≠ seq := by
  have hops : (r.readOps.map Prod.fst).Nodup := by
    rw [queue, List.map_append] at hkeys
    exact (List.nodup_append.1 hkeys).2.1
  unfold doIntrX
  cases hp : r.pendingRequest.any (fun req => req.1 = seq) with
  | true =>
      obtain ⟨req, hreq, rfl⟩ : ∃ req, r.pendingRequest = some req ∧ req.1 = seq := by
        simpa [Option.any_eq_true] using hp
      have hmem : req ∈ r.queue := by
        rw [queue, hreq]
        exact List.mem_cons_self
      -- no queued request has the number of the pending one
      have hrest : r.readOps = r.queue.filter fun x => x ∉ [req] := by
        rw [queue, hreq, Option.toList_some, List.singleton_append] at hkeys ⊢
        rw [List.map_cons, List.nodup_cons] at hkeys
        rw [List.filter_cons_of_neg (by simp), filter_notMem_singleton]
        intro x hx hxy
        exact hkeys.1 (hxy ▸ List.mem_map_of_mem hx)
      refine ⟨[req], interrupts_one hmem hrest rfl ?_, rfl, ?_⟩
      · intro hsome
        cases hsome
      · intro x hx
        exact fst_ne_of_mem_filter hkeys hmem (hrest ▸ hx)
  | false =>
      have hpending : ∀ x ∈ r.pendingRequest.toList, x.1 ≠ seq := by
        intro x hx hseq
        rw [Option.mem_toList] at hx
        rw [Option.mem_def.1 hx, Option.any_some, decide_eq_false_iff_not] at hp
        exact hp hseq
      -- so the assertion of `do_intr_x` holds
      have hle := filter_key_length_le hops seq
      rw [if_neg Bool.false_ne_true]
      cases hf : r.readOps.filter fun req => req.1 = seq with
      | nil =>
          refine ⟨[], interrupts_nil r, rfl, ?_⟩
          intro x hx
          rcases List.mem_append.1 hx with hx | hx
          · exact hpending x hx
          · rw [List.filter_eq_nil_iff] at hf
            intro hseq
            exact hf x hx (decide_eq_true hseq)
      | cons y l =>
          obtain rfl : l = [] := by
            rw [hf, List.length_cons] at hle
            exact List.length_eq_zero_iff.1 (by omega)
          have hmem : y ∈ r.readOps.filter fun req => req.1 = seq := hf ▸ List.mem_cons_self
          obtain ⟨hy, hseq⟩ := List.mem_filter.1 hmem
          obtain rfl : y.1 = seq := of_decide_eq_true hseq
          have hrest : r.pendingRequest.toList ++ (r.readOps.eraseP fun req => req.1 = y.1) =
              r.queue.filter fun x => x ∉ [y] := by
            rw [queue, List.filter_append, eraseP_eq_filter hops hy,
              filter_notMem_singleton hpending]
          have hqueue : y ∈ r.queue := List.mem_append_right _ hy
          refine ⟨[y], interrupts_one hqueue hrest rfl id, rfl, ?_⟩
          intro x hx
          replace hx : x ∈ r.pendingRequest.toList ++ r.readOps.eraseP fun req => req.1 = y.1 := hx
          rw [hrest] at hx
          exact fst_ne_of_mem_filter hkeys hqueue hx

/-- What a call of `do_intr` does; the sequence number it names is gone from the queue. -/
theorem doIntr_interrupts (r : ReadInner) (seq : Option Sequence) (written : Bool)
    (hkeys : (r.queue.map Prod.fst).Nodup) :
    ∃ xs, Interrupts r (r.doIntr seq written).1 xs ∧
      ∀ x ∈ (r.doIntr seq written).1.queue, seq ≠ some x.1 := by
  cases seq with
  | none =>
      refine ⟨_, (r.doIntr0_interrupts (List.Nodup.of_map _ hkeys)).sendSync written, ?_⟩
      intro x _ hx
      cases hx
  | some seq =>
      obtain ⟨xs, hint, hok, hgone⟩ := r.doIntrX_interrupts seq hkeys
      have hrun : r.doIntr (some seq) written = (r.doIntrX seq).1.sendSync written := by
        rw [doIntr]
        rw [← Prod.mk.eta (p := r.doIntrX seq), hok]
      rw [hrun]
      refine ⟨xs, hint.sendSync written, ?_⟩
      rw [sendSync_queue]
      intro x hx hseq
      exact hgone x hx (Option.some.inj hseq).symm

/-- Closing interrupts everything. -/
theorem closeInternal_interrupts (r : ReadInner) (hkeys : (r.queue.map Prod.fst).Nodup) :
    ∃ xs, Interrupts r r.closeInternal.1 xs := by
  obtain ⟨xs, hint, -⟩ := r.doIntr_interrupts none true hkeys
  have hcases : r.closeInternal.1 = (r.doIntr none true).1 ∨
      r.closeInternal.1 = ((r.doIntr none true).1.sendSync true).1 ∨
      r.closeInternal.1 = { ((r.doIntr none true).1.sendSync true).1 with fdTx := false } := by
    unfold closeInternal
    rcases r.doIntr none true with ⟨r₁, ok₁⟩
    cases ok₁ with
    | false => exact .inl rfl
    | true =>
        simp only
        rcases r₁.sendSync true with ⟨r₂, ok₂⟩
        cases ok₂ with
        | false => exact .inr (.inl rfl)
        | true => exact .inr (.inr rfl)
  have hsync := hint.sendSync true
  rcases hcases with h | h | h
  · exact ⟨xs, h ▸ hint⟩
  · exact ⟨xs, h ▸ hsync⟩
  · rw [h]
    exact ⟨xs, hsync.nodup, hsync.subset, hsync.queue, hsync.sent, hsync.pending⟩

end ReadInner

/-! ## What a step does -/

namespace ReadState

/-- The requests that wait for an answer: held, pending, queued. -/
def outstanding (s : ReadState) : List ReadRequest := s.reader.held.toList ++ s.inner.queue

/-- A request is pending only while the reader is in `poll()` or has just returned from it, data that
is about to be sent fits the request, and the assertion in `register_pending` has not failed. -/
structure Shape (s : ReadState) : Prop where
  pending : s.inner.pendingRequest.isSome → s.reader = .polling ∨ ∃ rc, s.reader = .taking rc
  fits : ∀ req buf, s.reader = .sending req buf → buf.length ≤ min req.2 BUF_SZ
  register : ∀ req, s.reader ≠ .panicked .registerPending req

/-- A response to a request: data that fits it, or an error. -/
def Answer (req : ReadRequest) (reply : Response.Reply) : Prop :=
  (∃ buf, reply = .read req.1 buf ∧ buf.length ≤ min req.2 BUF_SZ) ∨ ∃ e, reply = .err req.1 e

/-- What a step can do to the requests. -/
inductive Effect (s t : ReadState) : ReadLabel → Prop where
  /-- A request is handed in. -/
  | push (req : ReadRequest) (written : Bool) (hpushed : t.pushed = s.pushed ++ [req])
      (houtstanding : t.outstanding = s.outstanding ++ [req]) (hsent : t.inner.sent = s.inner.sent) :
      Effect s t (.push req written)
  /-- Nothing changes. -/
  | quiet (l : ReadLabel) (hpushed : t.pushed = s.pushed) (houtstanding : t.outstanding = s.outstanding)
      (hsent : t.inner.sent = s.inner.sent) : Effect s t l
  /-- The oldest request is answered. -/
  | answer (l : ReadLabel) (req : ReadRequest) (reply : Response.Reply)
      (hanswer : Answer req reply) (hpushed : t.pushed = s.pushed)
      (houtstanding : s.outstanding = req :: t.outstanding)
      (hsent : t.inner.sent = s.inner.sent ++ [reply]) : Effect s t l
  /-- Requests are interrupted. -/
  | interrupt (l : ReadLabel) (xs : List ReadRequest) (hint : ReadInner.Interrupts s.inner t.inner xs)
      (hpushed : t.pushed = s.pushed) (hreader : t.reader = s.reader) : Effect s t l

@[simp] theorem held_afterHandle (req : Option ReadRequest) :
    (ReaderPc.afterHandle req).held = req := by
  cases req <;> rfl

@[simp] theorem held_afterRead (req : ReadRequest) (res : ReadResult) :
    (afterRead req res).held = some req := by
  cases res with
  | data buf =>
      rw [afterRead]
      split <;> rfl
  | error e =>
      rw [afterRead]
      split <;> rfl

@[simp] theorem held_afterPoll (req : Option ReadRequest) (rc : PollResult) :
    (afterPoll req rc).held = req := by
  cases rc with
  | error e => cases req <;> rfl
  | ready sync =>
      cases sync with
      | true => rfl
      | false => exact held_afterHandle req

/-- Places of the reader where it neither sends data nor has failed to register. -/
def Idle : ReaderPc → Prop
  | .sending _ _ => False
  | .panicked .registerPending _ => False
  | _ => True

theorem idle_afterHandle (req : Option ReadRequest) : Idle (.afterHandle req) := by
  cases req <;> trivial

theorem idle_afterPoll (req : Option ReadRequest) (rc : PollResult) : Idle (afterPoll req rc) := by
  cases rc with
  | error e => cases req <;> trivial
  | ready sync =>
      cases sync with
      | true => trivial
      | false => exact idle_afterHandle req

/-- The shape of a state without a pending request. -/
theorem Shape.of_idle {t : ReadState} (hpending : t.inner.pendingRequest = none)
    (hidle : Idle t.reader) : t.Shape := by
  refine ⟨?_, ?_, ?_⟩
  · rw [hpending]
    intro h
    cases h
  · intro req buf hr
    rw [hr] at hidle
    exact hidle.elim
  · intro req hr
    rw [hr] at hidle
    exact hidle

/-- In `poll()` or just back from it. -/
def Waits : ReaderPc → Bool
  | .polling | .taking _ => true
  | _ => false

theorem Shape.pending_none {s : ReadState} (h : s.Shape) {pc : ReaderPc} (hr : s.reader = pc)
    (hpc : Waits pc = false) : s.inner.pendingRequest = none := by
  subst hr
  cases hp : s.inner.pendingRequest with
  | none => rfl
  | some req =>
      rcases h.pending (by rw [hp]; rfl) with hr | ⟨rc, hr⟩
      · rw [hr] at hpc
        cases hpc
      · rw [hr] at hpc
        cases hpc

/-- A step of the main thread keeps the shape when it adds no pending request. -/
theorem Shape.of_main {s t : ReadState} (h : s.Shape) (hreader : t.reader = s.reader)
    (hpending : t.inner.pendingRequest.isSome → s.inner.pendingRequest.isSome) : t.Shape := by
  refine ⟨?_, ?_, ?_⟩
  · intro hsome
    rw [hreader]
    exact h.pending (hpending hsome)
  · rw [hreader]
    exact h.fits
  · rw [hreader]
    exact h.register

/-- The main thread hands in requests and interrupts them. -/
theorem main_effect {s t : ReadState} {l : ReadLabel} (hshape : s.Shape)
    (hkeys : (s.inner.queue.map Prod.fst).Nodup)
    (hl : l.byReader = false) (h : step s l = some t) : Effect s t l ∧ t.Shape := by
  cases l with
  | push req written =>
      simp only [step, Option.ite_none_right_eq_some, Option.some.injEq] at h
      obtain ⟨-, rfl⟩ := h
      refine ⟨.push req written rfl ?_ ?_, hshape.of_main rfl ?_⟩
      · show s.reader.held.toList ++ (s.inner.pushRequest req written).1.queue = _
        rw [ReadInner.pushRequest, ReadInner.sendSync_queue]
        simp only [outstanding, ReadInner.queue, List.append_assoc]
      · exact ReadInner.sendSync_sent _ _
      · show (s.inner.pushRequest req written).1.pendingRequest.isSome → _
        rw [ReadInner.pushRequest, ReadInner.sendSync_pendingRequest]
        exact id
  | intr seq written =>
      simp only [step, Option.ite_none_right_eq_some, Option.some.injEq] at h
      obtain ⟨-, rfl⟩ := h
      obtain ⟨xs, hint, -⟩ := s.inner.doIntr_interrupts seq written hkeys
      exact ⟨.interrupt _ xs hint rfl rfl, hshape.of_main rfl hint.pending⟩
  | close =>
      simp only [step, Option.ite_none_right_eq_some, Option.some.injEq] at h
      obtain ⟨-, rfl⟩ := h
      obtain ⟨xs, hint⟩ := s.inner.closeInternal_interrupts hkeys
      exact ⟨.interrupt _ xs hint rfl rfl, hshape.of_main rfl hint.pending⟩
  | _ => cases hl

/-- A reader step that moves its request around. -/
theorem quiet_of_held {s : ReadState} {l : ReadLabel} {inner : ReadInner} {pc : ReaderPc}
    (hsame : pc.held.toList ++ inner.queue = s.reader.held.toList ++ s.inner.queue)
    (hsent : inner.sent = s.inner.sent) :
    Effect s { s with inner := inner, reader := pc } l :=
  .quiet l rfl hsame hsent

/-- The reader thread moves its request around and answers it. -/
theorem reader_effect {s t : ReadState} {l : ReadLabel} (hshape : s.Shape)
    (hl : l.byReader = true) (h : step s l = some t) : Effect s t l ∧ t.Shape := by
  obtain ⟨inner, pc, hmove, rfl⟩ := reader_move hl h
  -- outside `poll()` there is no pending request; most cases need it for `outstanding` or the shape
  cases hmove with
  | check hr =>
      have hpending := hshape.pending_none hr rfl
      refine ⟨quiet_of_held ?_ rfl, .of_idle hpending ?_⟩
      · rw [hr]
        cases s.inner.fdTx <;> rfl
      · show Idle (if s.inner.fdTx then .next else .exited)
        cases s.inner.fdTx <;> trivial
  | nextNone hr hops =>
      have hpending := hshape.pending_none hr rfl
      exact ⟨quiet_of_held (by rw [hr]; rfl) rfl, .of_idle hpending trivial⟩
  | nextSome req ops hr hops =>
      have hpending := hshape.pending_none hr rfl
      refine ⟨quiet_of_held ?_ rfl, .of_idle hpending trivial⟩
      simp [hr, ReaderPc.held, ReadInner.queue, hops, hpending]
  | consume got n hr =>
      have hpending := hshape.pending_none hr rfl
      exact ⟨quiet_of_held (by rw [hr]; rfl) rfl, .of_idle hpending trivial⟩
  | consumeAfter got n req hr =>
      have hpending := hshape.pending_none hr rfl
      refine ⟨quiet_of_held ?_ rfl, .of_idle hpending (idle_afterHandle req)⟩
      rw [hr, held_afterHandle]
      rfl
  | read req res hr =>
      have hpending := hshape.pending_none hr rfl
      refine ⟨quiet_of_held (by rw [hr, held_afterRead]; rfl) rfl, ?_⟩
      cases res with
      | data buf =>
          by_cases hfit : buf.length ≤ min req.2 BUF_SZ
          · rw [afterRead, if_pos hfit]
            refine ⟨?_, ?_, nofun⟩
            · intro hsome
              rw [hpending] at hsome
              cases hsome
            · rintro req' buf' ⟨⟩
              exact hfit
          · rw [afterRead, if_neg hfit]
            exact .of_idle hpending trivial
      | error e =>
          rw [afterRead]
          split
          · exact .of_idle hpending trivial
          · exact .of_idle hpending trivial
  | send req buf out hr hout =>
      have hpending := hshape.pending_none hr rfl
      refine ⟨.answer _ req _ (.inl ⟨buf, rfl, hshape.fits req buf hr⟩) rfl ?_ rfl,
        .of_idle hpending trivial⟩
      rw [outstanding, hr]
      rfl
  | sendPanics req buf hr =>
      -- the request stays with the reader, which will not answer it
      have hpending := hshape.pending_none hr rfl
      exact ⟨quiet_of_held (by rw [hr]; rfl) rfl, .of_idle hpending trivial⟩
  | register req hr hpending =>
      refine ⟨quiet_of_held ?_ rfl, ⟨fun _ => .inl rfl, nofun, nofun⟩⟩
      simp [hr, ReaderPc.held, ReadInner.queue, hpending]
  | registerFails req hr hpending =>
      rw [hshape.pending_none hr rfl] at hpending
      cases hpending
  | poll rc hr =>
      exact ⟨quiet_of_held (by rw [hr]; rfl) rfl, ⟨fun _ => .inr ⟨rc, rfl⟩, nofun, nofun⟩⟩
  | take rc hr =>
      refine ⟨quiet_of_held ?_ rfl, .of_idle rfl (idle_afterPoll _ rc)⟩
      rw [held_afterPoll, hr]
      rfl
  | reschedule req hr =>
      have hpending := hshape.pending_none hr rfl
      refine ⟨quiet_of_held ?_ rfl, .of_idle hpending trivial⟩
      simp [hr, ReaderPc.held, ReadInner.queue, hpending]
  | fail req e out hr =>
      have hpending := hshape.pending_none hr rfl
      refine ⟨.answer _ req _ (.inr ⟨e, rfl⟩) rfl ?_ rfl, .of_idle hpending trivial⟩
      rw [outstanding, hr]
      rfl

/-- **What a step can do to the requests.** -/
theorem step_effect {s t : ReadState} {l : ReadLabel} (hshape : s.Shape)
    (hkeys : (s.inner.queue.map Prod.fst).Nodup) (h : step s l = some t) :
    Effect s t l ∧ t.Shape := by
  cases hl : l.byReader with
  | true => exact reader_effect hshape hl h
  | false => exact main_effect hshape hkeys hl h

/-! ## Refinement -/

/-- No sequence number is handed in twice. -/
def DistinctPushes (s : ReadState) : ReadLabel → Prop
  | .push req _ => req.1 ∉ s.pushed.map Prod.fst
  | _ => True

instance (s : ReadState) (l : ReadLabel) : Decidable (DistinctPushes s l) := by
  cases l <;> unfold DistinctPushes <;> infer_instance

/-- The sequence numbers answered so far, in order. -/
def answered (s : ReadState) : List Sequence := s.inner.sent.filterMap answeredSeq

/-- The threads implement the service. -/
structure Refines (s : ReadState) (a : Fifo ReadRequest) : Prop where
  pushed : a.pushed = s.pushed
  waiting : a.waiting = s.outstanding
  ended : a.ended.map Prod.fst = s.answered
  keys : (s.pushed.map Prod.fst).Nodup
  shape : s.Shape
  data : ∀ seq buf, .read seq buf ∈ s.inner.sent →
    ∃ size, (seq, size) ∈ s.pushed ∧ buf.length ≤ min size BUF_SZ

theorem answered_append {s t : ReadState} {replies : List Response.Reply}
    (h : t.inner.sent = s.inner.sent ++ replies) :
    t.answered = s.answered ++ replies.filterMap answeredSeq := by
  rw [answered, h, List.filterMap_append, answered]

theorem filterMap_interrupts (xs : List ReadRequest) :
    (xs.map fun x => Response.Reply.err x.1 .EINTR).filterMap answeredSeq = xs.map Prod.fst := by
  induction xs with
  | nil => rfl
  | cons x xs ih => exact congrArg (x.1 :: ·) ih

theorem Answer.seq {req : ReadRequest} {reply : Response.Reply} (h : Answer req reply) :
    answeredSeq reply = some req.1 := by
  rcases h with ⟨buf, rfl, -⟩ | ⟨e, rfl⟩
  · rfl
  · rfl

/-- A held request is not one of those that an interrupt takes out of the queue. -/
theorem outstanding_interrupt {s t : ReadState} {xs : List ReadRequest}
    (hnodup : s.outstanding.Nodup) (hint : ReadInner.Interrupts s.inner t.inner xs)
    (hreader : t.reader = s.reader) : t.outstanding = s.outstanding.filter fun x => x ∉ xs := by
  rw [outstanding, List.nodup_append] at hnodup
  rw [outstanding, outstanding, hreader, hint.queue, List.filter_append]
  congr 1
  symm
  rw [List.filter_eq_self]
  intro x hx
  rw [decide_eq_true_iff]
  intro hxs
  exact hnodup.2.2 x hx x (hint.subset hxs) rfl

theorem Refines.outstanding_sublist {s : ReadState} {a : Fifo ReadRequest} (h : s.Refines a)
    (ha : a.Sound) : s.outstanding.Sublist s.pushed := by
  rw [← h.waiting, ← h.pushed]
  exact ha.waiting_sublist

theorem Refines.queue_keys {s : ReadState} {a : Fifo ReadRequest} (h : s.Refines a) (ha : a.Sound) :
    (s.inner.queue.map Prod.fst).Nodup := by
  have hsub : s.inner.queue.Sublist s.pushed :=
    (List.sublist_append_right _ _).trans (h.outstanding_sublist ha)
  exact (hsub.map Prod.fst).nodup h.keys

/-- Every step is matched by the service. -/
theorem step_refines {s t : ReadState} {l : ReadLabel} {a : Fifo ReadRequest} (ha : a.Sound)
    (hR : s.Refines a) (hok : DistinctPushes s l) (h : step s l = some t) :
    ∃ b, Fifo.system.Reaches always a b ∧ t.Refines b := by
  obtain ⟨heffect, hshape⟩ := step_effect hR.shape (hR.queue_keys ha) h
  cases heffect with
  | push req written hpushed houtstanding hsent =>
      -- a new sequence number makes a new job
      have hreq : req ∉ a.pushed := by
        rw [hR.pushed]
        exact fun hmem => hok (List.mem_map_of_mem hmem)
      refine ⟨_, Fifo.reaches_push hreq, ?_, ?_, ?_, ?_, hshape, ?_⟩
      · rw [hpushed, hR.pushed]
      · rw [houtstanding, hR.waiting]
      · rw [answered, hsent]
        exact hR.ended
      · rw [hpushed, List.map_append, List.nodup_append]
        refine ⟨hR.keys, List.nodup_singleton _, ?_⟩
        rintro k hk k' hk' rfl
        obtain rfl := List.mem_singleton.1 hk'
        exact hok hk
      · intro seq buf hmem
        rw [hsent] at hmem
        obtain ⟨size, hsize, hle⟩ := hR.data seq buf hmem
        exact ⟨size, hpushed ▸ List.mem_append_left _ hsize, hle⟩
  | quiet _ hpushed houtstanding hsent =>
      refine ⟨a, Relation.ReflTransGen.refl, ?_, ?_, ?_, ?_, hshape, ?_⟩
      · rw [hpushed, hR.pushed]
      · rw [houtstanding, hR.waiting]
      · rw [answered, hsent]
        exact hR.ended
      · rw [hpushed]
        exact hR.keys
      · rw [hsent, hpushed]
        exact hR.data
  | answer _ req reply hanswer hpushed houtstanding hsent =>
      rw [← hR.waiting] at houtstanding
      refine ⟨_, Fifo.reaches_serve houtstanding, ?_, rfl, ?_, ?_, hshape, ?_⟩
      · rw [hpushed, hR.pushed]
      · rw [List.map_append, hR.ended, answered_append hsent,
          List.filterMap_cons_some hanswer.seq]
        rfl
      · rw [hpushed]
        exact hR.keys
      · intro seq buf hmem
        rw [hsent, List.mem_append, List.mem_singleton] at hmem
        rw [hpushed]
        rcases hmem with hmem | rfl
        · exact hR.data seq buf hmem
        · -- the request that was answered fixes the bound for the data
          rcases hanswer with ⟨buf', heq, hle⟩ | ⟨e, heq⟩
          · cases heq
            have hreq : req ∈ s.pushed := by
              rw [← hR.pushed]
              exact ha.waiting_sublist.subset (houtstanding ▸ List.mem_cons_self)
            exact ⟨req.2, hreq, hle⟩
          · cases heq
  | interrupt _ xs hint hpushed hreader =>
      have hnodup : s.outstanding.Nodup := hR.waiting ▸ ha.waiting_nodup
      have hsub : xs ⊆ a.waiting := by
        rw [hR.waiting]
        exact fun x hx => List.mem_append_right _ (hint.subset hx)
      refine ⟨_, Fifo.reaches_cancels hint.nodup hsub ha.waiting_nodup, ?_, ?_, ?_, ?_, hshape, ?_⟩
      · rw [hpushed, hR.pushed]
      · show a.waiting.filter _ = _
        rw [outstanding_interrupt hnodup hint hreader, hR.waiting]
        apply List.filter_congr
        intro x _
        rw [decide_eq_decide]
      · rw [List.map_append, hR.ended, answered_append hint.sent, filterMap_interrupts]
      · rw [hpushed]
        exact hR.keys
      · intro seq buf hmem
        rw [hint.sent, List.mem_append, List.mem_map] at hmem
        rw [hpushed]
        rcases hmem with hmem | ⟨x, -, heq⟩
        · exact hR.data seq buf hmem
        · cases heq

/-- **The threads refine the service.** -/
theorem reachable_refines {s : ReadState} (h : system.Reachable DistinctPushes s) :
    ∃ a, Fifo.system.Reachable always a ∧ s.Refines a := by
  refine h.simulate (R := Refines) ?_ ?_
  · rintro s rfl
    refine ⟨⟨[], [], []⟩, rfl, rfl, rfl, rfl, List.nodup_nil, .of_idle rfl trivial, ?_⟩
    intro seq buf hmem
    cases hmem
  · intro s l t a ha hR hok hstep
    exact step_refines (Fifo.reachable_sound ha) hR hok hstep

/-! ## Consequences for the threads -/

section Consequences

variable {s : ReadState} {a : Fifo ReadRequest}

/-- A request has ended when its sequence number is answered. -/
theorem Refines.mem_ended_iff (h : s.Refines a) (ha : a.Sound) {req : ReadRequest}
    (hreq : req ∈ s.pushed) : req ∈ a.ended ↔ req.1 ∈ s.answered := by
  rw [← h.ended, List.mem_map]
  constructor
  · intro hmem
    exact ⟨req, hmem, rfl⟩
  · rintro ⟨x, hx, hkey⟩
    have hxp : x ∈ s.pushed := h.pushed ▸ ha.ended_subset hx
    obtain rfl := List.inj_on_of_nodup_map h.keys hxp hreq hkey
    exact hx

theorem Refines.outstanding_eq (h : s.Refines a) (ha : a.Sound) :
    s.outstanding = s.pushed.filter fun req => req.1 ∉ s.answered := by
  rw [← h.waiting, ha.waiting_eq, h.pushed]
  apply List.filter_congr
  intro req hreq
  rw [decide_eq_decide, h.mem_ended_iff ha hreq]

theorem Refines.answered_nodup (h : s.Refines a) (ha : a.Sound) : s.answered.Nodup := by
  rw [← h.ended]
  refine List.Nodup.map_on ?_ ha.ended_nodup
  intro x hx y hy hkey
  exact List.inj_on_of_nodup_map h.keys (h.pushed ▸ ha.ended_subset hx)
    (h.pushed ▸ ha.ended_subset hy) hkey

theorem Refines.answered_subset (h : s.Refines a) (ha : a.Sound) :
    s.answered ⊆ s.pushed.map Prod.fst := by
  rw [← h.ended, ← h.pushed]
  exact List.map_subset _ ha.ended_subset

/-- The answers to a request and its occurrences in the three places add up to one. -/
theorem Refines.places (h : s.Refines a) (ha : a.Sound) {req : ReadRequest}
    (hreq : req ∈ s.pushed) :
    s.answered.count req.1 + s.inner.readOps.count req + s.inner.pendingRequest.toList.count req +
      s.reader.held.toList.count req = 1 := by
  have hout : s.outstanding.count req = s.reader.held.toList.count req +
      (s.inner.pendingRequest.toList.count req + s.inner.readOps.count req) := by
    rw [outstanding, ReadInner.queue, List.count_append, List.count_append]
  -- a request is answered or outstanding, never both, and there is one of it in either place
  have hsum : s.answered.count req.1 + s.outstanding.count req = 1 := by
    have hnodup : s.outstanding.Nodup := h.waiting ▸ ha.waiting_nodup
    have hmem : req ∈ s.outstanding ↔ req.1 ∉ s.answered := by
      rw [h.outstanding_eq ha, List.mem_filter, decide_eq_true_iff]
      exact and_iff_right hreq
    by_cases hans : req.1 ∈ s.answered
    · rw [List.count_eq_one_of_mem (h.answered_nodup ha) hans,
        List.count_eq_zero_of_not_mem fun hmem' => hmem.1 hmem' hans]
    · rw [List.count_eq_zero_of_not_mem hans, List.count_eq_one_of_mem hnodup (hmem.2 hans)]
  omega

end Consequences

/-- **Read queue: no loss, no duplication, first in first out.** In every state of every run in which
no sequence number is handed in twice:

* each request handed in has been answered once, or is in exactly one of the queue, the pending slot
  and the reader's hand, and there are no other answers and no other requests in these places;
* the assertion in `register_pending` has not failed;
* the held or pending request followed by the queue is what has not been answered, in the order in
  which it was handed in, so the request that gets data is the oldest one of these;
* an answer with data has at most `min(size, 4096)` bytes. -/
theorem read_queue_exactly_once (s : ReadState) (h : system.Reachable DistinctPushes s) :
    (∀ req ∈ s.pushed, s.answered.count req.1 + s.inner.readOps.count req +
        s.inner.pendingRequest.toList.count req + s.reader.held.toList.count req = 1) ∧
      (s.answered ⊆ s.pushed.map Prod.fst ∧ s.outstanding ⊆ s.pushed) ∧
      (∀ req, s.reader ≠ .panicked .registerPending req) ∧
      (s.outstanding.Sublist s.pushed ∧
        s.outstanding = s.pushed.filter fun req => req.1 ∉ s.answered) ∧
      (∀ req buf, s.reader = .sending req buf →
        (s.pushed.filter fun req => req.1 ∉ s.answered).head? = some req) ∧
      ∀ seq buf, .read seq buf ∈ s.inner.sent →
        ∃ size, (seq, size) ∈ s.pushed ∧ buf.length ≤ min size 4096 := by
  obtain ⟨a, hreach, hR⟩ := reachable_refines h
  have ha := Fifo.reachable_sound hreach
  have hsub := hR.outstanding_sublist ha
  have hout := hR.outstanding_eq ha
  refine ⟨fun req hreq => hR.places ha hreq, ⟨hR.answered_subset ha, hsub.subset⟩,
    hR.shape.register, ⟨hsub, hout⟩, ?_, hR.data⟩
  intro req buf hr
  rw [← hout, outstanding, hr]
  rfl

/-- A request that finds no data, waits and is interrupted has been answered once and is nowhere
else. -/
theorem read_queue_exactly_once_interrupted :
    let s : ReadState := ⟨⟨[], none, true, 2, [.err ⟨1, by decide⟩ .EINTR]⟩, .polling, true,
      [(⟨1, by decide⟩, 8)], [⟨1, by decide⟩]⟩
    system.Reachable DistinctPushes s ∧
      s.answered.count ⟨1, by decide⟩ + s.inner.readOps.count (⟨1, by decide⟩, 8) +
        s.inner.pendingRequest.toList.count (⟨1, by decide⟩, 8) +
        s.reader.held.toList.count (⟨1, by decide⟩, 8) = 1 :=
  have hrun : system.exec DistinctPushes start
      [.push (⟨1, by decide⟩, 8) true, .check, .next, .read (.error .EAGAIN), .register,
        .intr (some ⟨1, by decide⟩) true] =
      some ⟨⟨[], none, true, 2, [.err ⟨1, by decide⟩ .EINTR]⟩, .polling, true,
        [(⟨1, by decide⟩, 8)], [⟨1, by decide⟩]⟩ := by decide
  have hreach := System.reachable_of_exec rfl hrun
  ⟨hreach, (read_queue_exactly_once _ hreach).1 _ List.mem_cons_self⟩

end ReadState

end Cuse2Net.Realdev

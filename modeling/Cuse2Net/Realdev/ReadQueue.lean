import Cuse2Net.Lib.FifoService
import Cuse2Net.Proto.Sending

/-!
# The read queue of the server

Model of `realdev/read.rs`. The main thread hands in read requests (`push_request`) and interrupts
them (`do_intr`); the reader thread (`run`, `handle_request`) takes one request at a time, reads from
the device and, when there is no data, registers the request as pending, waits in `poll()` and puts
the request back in front of the queue. The two threads share `ReadInner` under a lock, and every
critical section is one step. Between two sections a request lives in the reader's local variable
only: it is held (`ReaderPc.held`).

A label names the step and what the environment decides: the result of the device's `read()`, of
`poll()`, of an access to the sync pipe and of the reader's sends. An assertion that fails ends its
thread, and so does a `send_vectored_all` that is cut short. A send that fails is only logged, so that
the queue goes on as if the response had been sent.
-/

set_option autoImplicit false

namespace Cuse2Net.Realdev

open Cuse2Net.Lib
open Cuse2Net.Proto

/-- `BUF_SZ`. -/
def BUF_SZ : Nat := 4096

/-- `ReadRequest`: sequence number and size. -/
abbrev ReadRequest := Sequence × Nat

/-! ## The shared part -/

/-- `ReadInner`. The sync pipe is the number of bytes in it, `fdTx` tells whether its writing end is
open, and `sent` are the responses for which a send function has been called and has returned. -/
structure ReadInner where
  readOps : List ReadRequest
  pendingRequest : Option ReadRequest
  fdTx : Bool
  sync : Nat
  sent : List Response.Reply
  deriving DecidableEq

namespace ReadInner

/-- `ReadInner::new`. -/
def new : ReadInner := ⟨[], none, true, 0, []⟩

/-- `register_pending`; `none` when its assertion fails. -/
def registerPending (r : ReadInner) (req : ReadRequest) : Option ReadInner :=
  if r.pendingRequest.isNone then some { r with pendingRequest := some req } else none

/-- `take_pending`. -/
def takePending (r : ReadInner) : Option ReadRequest × ReadInner :=
  (r.pendingRequest, { r with pendingRequest := none })

/-- `next_request`. -/
def nextRequest (r : ReadInner) : Option ReadRequest × ReadInner :=
  (r.readOps.head?, { r with readOps := r.readOps.tail })

/-- `send_data`. -/
def sendData (r : ReadInner) (req : ReadRequest) (buf : List UInt8) : ReadInner :=
  { r with sent := r.sent ++ [.read req.1 buf] }

/-- `send_err`. -/
def sendErr (r : ReadInner) (seq : Sequence) (rc : Errno) : ReadInner :=
  { r with sent := r.sent ++ [.err seq rc] }

/-- `send_sync`. The write to the pipe succeeds or not; without a writing end the thread panics,
which is the `false` of the result. -/
def sendSync (r : ReadInner) (written : Bool) : ReadInner × Bool :=
  if r.fdTx then ({ r with sync := r.sync + written.toNat }, true) else (r, false)

/-- `push_request`. -/
def pushRequest (r : ReadInner) (req : ReadRequest) (written : Bool) : ReadInner × Bool :=
  sendSync { r with readOps := r.readOps ++ [req] } written

/-- The loop of `do_intr_0` over the queue. -/
def interruptAll (sent : List Response.Reply) : List ReadRequest → List Response.Reply
  | [] => sent
  | req :: reqs => interruptAll (sent ++ [.err req.1 .EINTR]) reqs

/-- `do_intr_0`. -/
def doIntr0 (r : ReadInner) : ReadInner :=
  let r := { r with readOps := [], sent := interruptAll r.sent r.readOps }
  match r.takePending with
  | (some req, r) => r.sendErr req.1 .EINTR
  | (none, r) => r

/-- `do_intr_x`; the result is `false` when its assertion fails. The queue's first entry with the
sequence number is removed. -/
def doIntrX (r : ReadInner) (seq : Sequence) : ReadInner × Bool :=
  if r.pendingRequest.any (fun req => req.1 = seq) then
    ({ r.sendErr seq .EINTR with pendingRequest := none }, true)
  else
    match r.readOps.filter fun req => req.1 = seq with
    | [] => (r, true)
    | [_] =>
        ({ r.sendErr seq .EINTR with readOps := r.readOps.eraseP fun req => req.1 = seq }, true)
    -- the assertion comes after the send
    | _ :: _ :: _ => (r.sendErr seq .EINTR, false)

/-- `do_intr`. -/
def doIntr (r : ReadInner) (seq : Option Sequence) (written : Bool) : ReadInner × Bool :=
  match seq with
  | none => r.doIntr0.sendSync written
  | some seq =>
      match r.doIntrX seq with
      | (r, true) => r.sendSync written
      | (r, false) => (r, false)

/-- `close_internal`, when the pipe takes the two bytes. -/
def closeInternal (r : ReadInner) : ReadInner × Bool :=
  match r.doIntr none true with
  | (r, true) =>
      -- a second byte, besides the one of `do_intr`
      match r.sendSync true with
      | (r, true) => ({ r with fdTx := false }, true)
      | (r, false) => (r, false)
  | (r, false) => (r, false)

end ReadInner

/-! ## The reader thread -/

/-- Result of `read()` on the device. -/
inductive ReadResult where
  | data (buf : List UInt8)
  | error (e : Errno)
  deriving DecidableEq

/-- Result of `poll()`: an error, or whether the sync pipe counts as readable. -/
inductive PollResult where
  | error (e : Errno)
  | ready (sync : Bool)
  deriving DecidableEq

/-- The assertions of the reader thread, and the `unimplemented!()` below `send_data`. -/
inductive ReaderAssertion where
  | readLen
  | registerPending
  | sendData
  deriving DecidableEq

/-- Where the reader thread is. -/
inductive ReaderPc where
  /-- At the condition of the loop in `run`. -/
  | check
  /-- Before `next_request`. -/
  | next
  /-- In `consume_sync`, after it found no request. -/
  | consume
  /-- In `read()`. -/
  | reading (req : ReadRequest)
  /-- Before `send_data`. -/
  | sending (req : ReadRequest) (buf : List UInt8)
  /-- Before `register_pending`. -/
  | registering (req : ReadRequest)
  /-- In `poll()`. -/
  | polling
  /-- Before `take_pending`. -/
  | taking (rc : PollResult)
  /-- In `consume_sync`, after `poll()`. -/
  | consumeAfter (req : Option ReadRequest)
  /-- Before `push_front`. -/
  | rescheduling (req : ReadRequest)
  /-- Before `send_err`. -/
  | failing (req : ReadRequest) (e : Errno)
  /-- The loop has ended. -/
  | exited
  /-- An assertion has failed. -/
  | panicked (a : ReaderAssertion) (req : ReadRequest)
  deriving DecidableEq

/-- The request that only the reader's local variable has. -/
def ReaderPc.held : ReaderPc → Option ReadRequest
  | .reading req => some req
  | .sending req _ => some req
  | .registering req => some req
  | .consumeAfter req => req
  | .rescheduling req => some req
  | .failing req _ => some req
  | .panicked _ req => some req
  | .check | .next | .consume | .polling | .taking _ | .exited => none

/-- Where the reader goes with the result of `handle_request`. -/
def ReaderPc.afterHandle : Option ReadRequest → ReaderPc
  | some req => .rescheduling req
  | none => .check

/-! ## The two threads -/

/-- The shared part, the reader and whether the main thread is still running. The last two fields
record the history: the requests handed in, and the sequence numbers for which a request had been
handed in when `do_intr` was called for them. -/
structure ReadState where
  inner : ReadInner
  reader : ReaderPc
  mainAlive : Bool
  pushed : List ReadRequest
  interrupted : List Sequence
  deriving DecidableEq

/-- Steps of the main thread and of the reader thread. -/
inductive ReadLabel where
  | push (req : ReadRequest) (written : Bool)
  | intr (seq : Option Sequence) (written : Bool)
  | close
  | check
  | next
  | consume (got : Bool)
  | read (res : ReadResult)
  | send (out : SendOutcome)
  | register
  | poll (rc : PollResult)
  | take
  | reschedule
  | fail (out : SendOutcome)
  deriving DecidableEq

/-- The steps of the reader thread. -/
def ReadLabel.byReader : ReadLabel → Bool
  | .push _ _ | .intr _ _ | .close => false
  | _ => true

namespace ReadState

/-- The sequence numbers that an interrupt adds to the history. -/
def noteInterrupt (s : ReadState) (seq : Option Sequence) : List Sequence :=
  match seq with
  | some seq => if seq ∈ s.pushed.map Prod.fst then s.interrupted ++ [seq] else s.interrupted
  | none => s.interrupted

/-- A critical section of the main thread has run. -/
def afterMain (s : ReadState) (res : ReadInner × Bool) : ReadState :=
  { s with inner := res.1, mainAlive := res.2 }

/-- `consume_sync`: a byte is taken from the pipe, or the call fails. -/
def consumeSync (s : ReadState) (got : Bool) (pc : ReaderPc) : Option ReadState :=
  if got then
    if 0 < s.inner.sync then
      some { s with inner := { s.inner with sync := s.inner.sync - 1 }, reader := pc }
    -- the read blocks
    else none
  else some { s with reader := pc }

/-- What follows `read()` in `handle_request`. -/
def afterRead (req : ReadRequest) : ReadResult → ReaderPc
  | .data buf => if buf.length ≤ min req.2 BUF_SZ then .sending req buf else .panicked .readLen req
  | .error e => if e = .EAGAIN then .registering req else .failing req e

/-- What follows `take_pending` in `handle_request`. -/
def afterPoll (req : Option ReadRequest) : PollResult → ReaderPc
  | .error e =>
      match req with
      | some req => .failing req e
      | none => .check
  -- the pipe also counts as readable when `revents()` has unknown bits
  | .ready sync => if sync then .consumeAfter req else .afterHandle req

/-- What follows `send_data` in `handle_request`. The lock is free again after a panic. -/
def afterSend (s : ReadState) (req : ReadRequest) (buf : List UInt8) (out : SendOutcome) : ReadState :=
  if (Response.Reply.read req.1 buf).sendFn.panics out then { s with reader := .panicked .sendData req }
  else { s with inner := s.inner.sendData req buf, reader := .check }

/-- One step. -/
def step (s : ReadState) : ReadLabel → Option ReadState
  | .push req written =>
      if s.mainAlive then
        some { s.afterMain (s.inner.pushRequest req written) with pushed := s.pushed ++ [req] }
      else none
  | .intr seq written =>
      if s.mainAlive then
        some { s.afterMain (s.inner.doIntr seq written) with interrupted := s.noteInterrupt seq }
      else none
  | .close => if s.mainAlive then some (s.afterMain s.inner.closeInternal) else none
  | .check =>
      match s.reader with
      | .check => some { s with reader := if s.inner.fdTx then .next else .exited }
      | _ => none
  | .next =>
      match s.reader with
      | .next =>
          match s.inner.nextRequest with
          | (none, inner) => some { s with inner := inner, reader := .consume }
          | (some req, inner) => some { s with inner := inner, reader := .reading req }
      | _ => none
  | .consume got =>
      match s.reader with
      | .consume => s.consumeSync got .check
      | .consumeAfter req => s.consumeSync got (.afterHandle req)
      | _ => none
  | .read res =>
      match s.reader with
      | .reading req => some { s with reader := afterRead req res }
      | _ => none
  | .send out =>
      match s.reader with
      | .sending req buf => some (s.afterSend req buf out)
      | _ => none
  | .register =>
      match s.reader with
      | .registering req =>
          match s.inner.registerPending req with
          | some inner => some { s with inner := inner, reader := .polling }
          | none => some { s with reader := .panicked .registerPending req }
      | _ => none
  | .poll rc =>
      match s.reader with
      | .polling => some { s with reader := .taking rc }
      | _ => none
  | .take =>
      match s.reader with
      | .taking rc =>
          -- after an interrupt there is nothing to take
          match s.inner.takePending with
          | (req, inner) => some { s with inner := inner, reader := afterPoll req rc }
      | _ => none
  | .reschedule =>
      match s.reader with
      | .rescheduling req =>
          some { s with inner := { s.inner with readOps := req :: s.inner.readOps },
                        reader := .check }
      | _ => none
  | .fail _ =>
      match s.reader with
      -- `send_all` goes on after an incomplete send
      | .failing req e => some { s with inner := s.inner.sendErr req.1 e, reader := .check }
      | _ => none

/-- The program at the beginning of `run`. -/
def start : ReadState := ⟨.new, .check, true, [], []⟩

/-- The two threads. -/
def system : System ReadState ReadLabel where
  init s := s = start
  step := step

/-! ## Inversion of the reader's steps -/

theorem consumeSync_eq {s t : ReadState} {got : Bool} {pc : ReaderPc}
    (h : s.consumeSync got pc = some t) :
    ∃ n, t = { s with inner := { s.inner with sync := n }, reader := pc } := by
  unfold consumeSync at h
  cases got with
  | true =>
      simp only [if_true, Option.ite_none_right_eq_some, Option.some.injEq] at h
      exact ⟨_, h.2.symm⟩
  | false =>
      simp only [Bool.false_eq_true, if_false, Option.some.injEq] at h
      exact ⟨s.inner.sync, h.symm⟩

/-- The steps of the reader: the label, the shared part and the place of the reader after it. -/
inductive Move (s : ReadState) : ReadLabel → ReadInner → ReaderPc → Prop where
  | check (hr : s.reader = .check) :
      Move s .check s.inner (if s.inner.fdTx then .next else .exited)
  | nextNone (hr : s.reader = .next) (hops : s.inner.readOps = []) : Move s .next s.inner .consume
  | nextSome (req : ReadRequest) (ops : List ReadRequest) (hr : s.reader = .next)
      (hops : s.inner.readOps = req :: ops) :
      Move s .next { s.inner with readOps := ops } (.reading req)
  | consume (got : Bool) (n : Nat) (hr : s.reader = .consume) :
      Move s (.consume got) { s.inner with sync := n } .check
  | consumeAfter (got : Bool) (n : Nat) (req : Option ReadRequest)
      (hr : s.reader = .consumeAfter req) :
      Move s (.consume got) { s.inner with sync := n } (.afterHandle req)
  | read (req : ReadRequest) (res : ReadResult) (hr : s.reader = .reading req) :
      Move s (.read res) s.inner (afterRead req res)
  | send (req : ReadRequest) (buf : List UInt8) (out : SendOutcome) (hr : s.reader = .sending req buf)
      (hout : out ≠ .incomplete) : Move s (.send out) (s.inner.sendData req buf) .check
  | sendPanics (req : ReadRequest) (buf : List UInt8) (hr : s.reader = .sending req buf) :
      Move s (.send .incomplete) s.inner (.panicked .sendData req)
  | register (req : ReadRequest) (hr : s.reader = .registering req)
      (hpending : s.inner.pendingRequest = none) :
      Move s .register { s.inner with pendingRequest := some req } .polling
  | registerFails (req : ReadRequest) (hr : s.reader = .registering req)
      (hpending : s.inner.pendingRequest.isSome) :
      Move s .register s.inner (.panicked .registerPending req)
  | poll (rc : PollResult) (hr : s.reader = .polling) : Move s (.poll rc) s.inner (.taking rc)
  | take (rc : PollResult) (hr : s.reader = .taking rc) :
      Move s .take { s.inner with pendingRequest := none } (afterPoll s.inner.pendingRequest rc)
  | reschedule (req : ReadRequest) (hr : s.reader = .rescheduling req) :
      Move s .reschedule { s.inner with readOps := req :: s.inner.readOps } .check
  | fail (req : ReadRequest) (e : Errno) (out : SendOutcome) (hr : s.reader = .failing req e) :
      Move s (.fail out) (s.inner.sendErr req.1 e) .check

/-- **What a step of the reader can do.** -/
theorem reader_move {s t : ReadState} {l : ReadLabel} (hl : l.byReader = true)
    (h : step s l = some t) :
    ∃ inner pc, Move s l inner pc ∧ t = { s with inner := inner, reader := pc } := by
  cases l with
  | push req written => cases hl
  | intr seq written => cases hl
  | close => cases hl
  | check =>
      simp only [step] at h
      split at h
      · next hr => exact ⟨_, _, .check hr, (Option.some.inj h).symm⟩
      · cases h
  | next =>
      simp only [step, ReadInner.nextRequest] at h
      split at h
      · next hr =>
        cases hops : s.inner.readOps with
        | nil =>
            simp only [hops, List.head?_nil, List.tail_nil, Option.some.injEq] at h
            refine ⟨_, _, .nextNone hr hops, ?_⟩
            rw [← h, ← hops]
        | cons req ops =>
            simp only [hops, List.head?_cons, List.tail_cons, Option.some.injEq] at h
            exact ⟨_, _, .nextSome req ops hr hops, h.symm⟩
      · cases h
  | consume got =>
      simp only [step] at h
      split at h
      · next hr =>
        obtain ⟨n, rfl⟩ := consumeSync_eq h
        exact ⟨_, _, .consume got n hr, rfl⟩
      · next req hr =>
        obtain ⟨n, rfl⟩ := consumeSync_eq h
        exact ⟨_, _, .consumeAfter got n req hr, rfl⟩
      · cases h
  | read res =>
      simp only [step] at h
      split at h
      · next req hr => exact ⟨_, _, .read req res hr, (Option.some.inj h).symm⟩
      · cases h
  | send out =>
      simp only [step] at h
      split at h
      · next req buf hr =>
        cases out with
        | incomplete => exact ⟨_, _, .sendPanics req buf hr, (Option.some.inj h).symm⟩
        | sent => exact ⟨_, _, .send req buf .sent hr (by decide), (Option.some.inj h).symm⟩
        | failed => exact ⟨_, _, .send req buf .failed hr (by decide), (Option.some.inj h).symm⟩
      · cases h
  | register =>
      simp only [step, ReadInner.registerPending] at h
      split at h
      · next req hr =>
        cases hp : s.inner.pendingRequest with
        | none =>
            simp only [hp, Option.isNone_none, if_true, Option.some.injEq] at h
            exact ⟨_, _, .register req hr hp, h.symm⟩
        | some req' =>
            simp only [hp, Option.isNone_some, Bool.false_eq_true, if_false, Option.some.injEq] at h
            exact ⟨_, _, .registerFails req hr (by rw [hp]; rfl), h.symm⟩
      · cases h
  | poll rc =>
      simp only [step] at h
      split at h
      · next hr => exact ⟨_, _, .poll rc hr, (Option.some.inj h).symm⟩
      · cases h
  | take =>
      simp only [step] at h
      split at h
      · next rc hr => exact ⟨_, _, .take rc hr, (Option.some.inj h).symm⟩
      · cases h
  | reschedule =>
      simp only [step] at h
      split at h
      · next req hr => exact ⟨_, _, .reschedule req hr, (Option.some.inj h).symm⟩
      · cases h
  | fail out =>
      simp only [step] at h
      split at h
      · next req e hr => exact ⟨_, _, .fail req e out hr, (Option.some.inj h).symm⟩
      · cases h

end ReadState

end Cuse2Net.Realdev

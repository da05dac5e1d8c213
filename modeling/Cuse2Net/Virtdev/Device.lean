import Cuse2Net.Proto.Sending
import Cuse2Net.Virtdev.Reply
import Mathlib.Data.List.AList

/-!
# An open device of the client

Model of `DeviceInner` in `virtdev/device.rs`. Threads of the dispatcher call `handle_cuse` for the
requests of the kernel: the request goes to the server and into the table in one critical section.
The receiver (`rx_thread`) takes the answers of the server, removes their requests from the table and
replies to the kernel; when the connection ends or a release is confirmed, it shuts the connection
down and answers what is left in the table, without emptying it.

Every section under the lock of `State` is one step, and so is every message to the cuse device and
the shutdown of the connection. A label names the step and what the environment decides: the outcome
of a send, the result of `Response::recv`, the order in which the hash map is walked. Threads of other
devices may draw sequence numbers at any time. Messages to the cuse device arrive.
-/

set_option autoImplicit false

namespace Cuse2Net.Virtdev

open Cuse2Net.Lib
open Cuse2Net.Lib.Bytes
open Cuse2Net.IoctlFfi
open Cuse2Net.Proto
open Cuse2Net.Proto.Errno

/-! ## Requests -/

/-- `Pending`. -/
inductive Pending where
  | release
  | write (wrinfo : WriteParams) (data : List UInt8)
  | read (rdinfo : ReadParams)
  | ioctl (cmd : IoctlFfi.Ioctl) (arg : Arg)
  | poll (pollinfo : PollParams)
  | interrupt (seq : Sequence)
  deriving DecidableEq

namespace Pending

/-- What goes into the table; an interrupt does not. -/
def request : Pending → Option Request
  | release => some .release
  | write _ _ => some .write
  | read _ => some .read
  | ioctl cmd _ => some (.ioctl cmd)
  | poll _ => some .poll
  | interrupt _ => none

/-- The send in `handle_cuse_internal`. -/
def send (e : Endian) : Pending → Request.Sender
  | release => Request.sendRelease e
  | write wrinfo data => Request.sendWrite e wrinfo data
  | read rdinfo => Request.sendRead e rdinfo
  | ioctl cmd arg => Request.sendIoctl e cmd arg
  | poll pollinfo => Request.sendPoll e pollinfo
  | interrupt seq => fun _ => .ok (seq, Request.sendInterrupt e seq)

end Pending

/-! ## The shared state -/

/-- An entry of the table. `call` is the number of the `handle_cuse` call that made it; the source has
no such field. -/
structure Entry where
  req : Request
  info : OpInInfo
  call : Nat
  deriving DecidableEq

/-- `State`. -/
structure State where
  closed : Bool
  requests : AList fun _ : Sequence => Entry
  deriving DecidableEq

/-- `State::default`. -/
def State.default : State := ⟨false, ∅⟩

/-- Where a call of `handle_cuse` is. -/
inductive CallPc where
  /-- The send failed, the reply is not sent yet. -/
  | failing
  | returned
  | panicked
  deriving DecidableEq

/-- A call of `handle_cuse` for a request with a reply. -/
structure Call where
  info : OpInInfo
  pc : CallPc
  deriving DecidableEq

/-- Where a call of `try_interrupt` is. -/
inductive InterruptPc where
  /-- The request has been found, the lock is free again. -/
  | sending (seq : Sequence)
  /-- The send failed, the reply is not sent yet. -/
  | failing
  | returned
  | panicked
  deriving DecidableEq

/-- A call of `try_interrupt`. -/
structure Interrupt where
  info : OpInInfo
  pc : InterruptPc
  deriving DecidableEq

/-- Where the receiver is. -/
inductive RxPc where
  /-- At the condition of the loop. -/
  | check
  /-- In `Response::recv`. -/
  | recv
  /-- Before `remove_request`. -/
  | removing (seq : Sequence) (ans : Answer)
  /-- Before `closed` is set; the reply is chosen. -/
  | closing (entry : Entry) (reply : FuseReply)
  /-- Before the reply is sent. -/
  | replying (entry : Entry) (reply : FuseReply)
  /-- After the loop. -/
  | shutdown
  /-- Before the walk over the table. -/
  | sweep
  | terminated
  deriving DecidableEq

/-- The device. `shut` tells whether `conn.shutdown` has been called and `drawn` how many numbers have
been drawn from `OP_SEQ`. The last three fields record the history: the replies, with the number of
their call or none for an interrupt; the requests sent; the sequence numbers whose answer has been
looked up after they had been sent. -/
structure DeviceInner where
  state : State
  shut : Bool
  drawn : Nat
  rx : RxPc
  calls : List Call
  interrupts : List Interrupt
  replies : List (Option Nat × FuseReply)
  sent : List (Sequence × Request)
  answered : List Sequence
  deriving DecidableEq

/-- What `OP_SEQ.fetch_add` returns after `drawn` calls. -/
def opSeq (drawn : Nat) : BitVec 64 := BitVec.ofNat 64 (1 + drawn)

/-- Steps of a device. -/
inductive DeviceLabel where
  /-- The critical section of a new call of `handle_cuse`. -/
  | call (req : Pending) (info : OpInInfo) (out : SendOutcome)
  /-- A call whose send failed replies and returns. -/
  | refuse (id : Nat)
  /-- A thread of another device draws a sequence number. -/
  | draw
  /-- The critical section of a new call of `try_interrupt`. -/
  | interrupt (info : OpInInfo) (unique : BitVec 64)
  /-- The `handle_cuse` of a call of `try_interrupt`. -/
  | sendInterrupt (id : Nat) (ok : Bool)
  | refuseInterrupt (id : Nat)
  | check
  | recv (res : Except Proto.Error (Option Sequence × Response))
  | remove
  | close
  | reply
  | shutdown
  | sweep (order : List Entry)
  deriving DecidableEq

namespace DeviceInner

/-- The entries of the table. -/
def entries (d : DeviceInner) : List Entry := d.state.requests.entries.map Sigma.snd

/-- `handle_cuse_internal` for a request with a reply. -/
def handleCuseInternal (e : Endian) (d : DeviceInner) (req : Pending) (request : Request)
    (info : OpInInfo) (out : SendOutcome) : DeviceInner :=
  let d' := { d with drawn := d.drawn + 1 }
  match req.send e (opSeq d.drawn), out with
  | .ok (seq, _), .sent =>
      -- the lock is held from before the send, so no answer finds the table without the entry
      { d' with
        state := { d.state with requests := d.state.requests.insert seq ⟨request, info, d.calls.length⟩ }
        sent := d.sent ++ [(seq, request)]
        calls := d.calls ++ [⟨info, .returned⟩] }
  | .ok _, .incomplete => { d' with calls := d.calls ++ [⟨info, .panicked⟩] }
  | _, _ => { d' with calls := d.calls ++ [⟨info, .failing⟩] }

/-- The critical section of `try_interrupt`; its assertion fails when two requests have the same
number. -/
def tryInterrupt (d : DeviceInner) (unique : BitVec 64) : InterruptPc :=
  match d.state.requests.entries.filter fun x => x.2.info.unique = unique with
  | [] => .returned
  | [x] => .sending x.1
  | _ :: _ :: _ => .panicked

/-- The arms of the loop of `rx_thread`. The outcome of an event does not matter to it. -/
def received : Except Proto.Error (Option Sequence × Response) → RxPc
  | .ok (some seq, resp) => .removing seq (.response resp)
  -- an event: `handle_event` leaves the table alone
  | .ok (none, _) => .check
  | .error (.remoteError (some seq) rc) => .removing seq (.remoteError rc)
  | .error _ => .shutdown

/-- What follows `remove_request` in `handle_response` and `handle_error`. Without a reply the error
is logged and the request is gone. -/
def afterRemove (e : Endian) (entry : Entry) : Answer → RxPc
  | .remoteError rc => .replying entry (entry.info.sendError (Errno.fromI32 rc))
  | .response resp =>
      match respond e entry.req entry.info resp with
      -- a confirmed release ends the loop
      | .ok reply => if closes entry.req resp then .closing entry reply else .replying entry reply
      | .error _ => .check

/-- One step. -/
def step (e : Endian) (d : DeviceInner) : DeviceLabel → Option DeviceInner
  | .call req info out => req.request.map fun request => d.handleCuseInternal e req request info out
  | .refuse id =>
      match d.calls[id]? with
      | some ⟨info, .failing⟩ =>
          some { d with
            calls := d.calls.set id ⟨info, .returned⟩
            replies := d.replies ++ [(some id, info.sendError EIO)] }
      | _ => none
  | .draw => some { d with drawn := d.drawn + 1 }
  | .interrupt info unique =>
      some { d with interrupts := d.interrupts ++ [⟨info, d.tryInterrupt unique⟩] }
  | .sendInterrupt id ok =>
      match d.interrupts[id]? with
      | some ⟨info, .sending _⟩ =>
          some { d with interrupts := d.interrupts.set id ⟨info, if ok then .returned else .failing⟩ }
      | _ => none
  | .refuseInterrupt id =>
      match d.interrupts[id]? with
      | some ⟨info, .failing⟩ =>
          some { d with
            interrupts := d.interrupts.set id ⟨info, .returned⟩
            replies := d.replies ++ [(none, info.sendError EIO)] }
      | _ => none
  | .check =>
      match d.rx with
      | .check => some { d with rx := if d.state.closed then .shutdown else .recv }
      | _ => none
  | .recv res =>
      match d.rx with
      | .recv => some { d with rx := received res }
      | _ => none
  | .remove =>
      match d.rx with
      | .removing seq ans =>
          -- history only
          let answered := if seq ∈ d.sent.map Prod.fst then d.answered ++ [seq] else d.answered
          match d.state.requests.lookup seq with
          | some entry =>
              some { d with
                state := { d.state with requests := d.state.requests.erase seq }
                rx := afterRemove e entry ans
                answered := answered }
          | none => some { d with rx := .check, answered := answered }
      | _ => none
  | .close =>
      match d.rx with
      | .closing entry reply =>
          some { d with state := { d.state with closed := true }, rx := .replying entry reply }
      | _ => none
  | .reply =>
      match d.rx with
      | .replying entry reply =>
          some { d with replies := d.replies ++ [(some entry.call, reply)], rx := .check }
      | _ => none
  | .shutdown =>
      match d.rx with
      | .shutdown => some { d with shut := true, rx := .sweep }
      | _ => none
  | .sweep order =>
      match d.rx with
      | .sweep =>
          -- the entries are visited and stay where they are
          if order.Perm d.entries then
            some { d with
              replies := d.replies ++ order.map fun entry =>
                (some entry.call, entry.info.sendError .EINTR)
              rx := .terminated }
          else none
      | _ => none

/-- The device after `Device::open`, when `drawn` sequence numbers have been drawn in the process. -/
def start (drawn : Nat) : DeviceInner := ⟨.default, false, drawn, .check, [], [], [], [], []⟩

/-- The dispatcher, the receiver, the server and the connection. -/
def system (e : Endian) : System DeviceInner DeviceLabel where
  init d := ∃ drawn < 2 ^ 64 - 1, d = start drawn
  step := step e

/-- The assumptions on the environment: sequence numbers do not run out, no send succeeds after the
shutdown of the connection, and a response belongs to a request that was sent under its number, for an
ioctl with an argument that can be returned. -/
def Assumed (d : DeviceInner) : DeviceLabel → Prop
  | .call _ _ out => d.drawn + 1 < 2 ^ 64 - 1 ∧ (d.shut = true → out ≠ .sent)
  | .draw => d.drawn + 1 < 2 ^ 64 - 1
  | .sendInterrupt _ ok => d.shut = true → ok = false
  | .recv (.ok (some seq, resp)) => ∃ x ∈ d.sent, x.1 = seq ∧ Answerable x.2 (.response resp)
  | _ => True

instance (d : DeviceInner) (l : DeviceLabel) : Decidable (Assumed d l) := by
  unfold Assumed
  split <;> infer_instance

end DeviceInner

end Cuse2Net.Virtdev

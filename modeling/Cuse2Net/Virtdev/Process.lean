import Cuse2Net.Cuse.OpIn
import Cuse2Net.Virtdev.AnswerHandling
import Cuse2Net.Virtdev.IoctlDispatch
import Cuse2Net.Virtdev.Registry

/-!
# The client as a process

Model of `main` in `cuse2net-cuse.rs` with everything that it starts. The dispatcher reads one message
of the kernel after the other, parses it (`OpIn.read`) and gives it to the registry: an open request
starts an open thread, another request goes to the device that its handle names. An open thread that
succeeds leaves a device (`DeviceInner`), whose receiver runs beside the dispatcher.

The steps of the open threads are those of `Registry`, the steps of a device those of `Device`; the
calls of `handle_cuse` and `try_interrupt` are made by the dispatcher. What follows the critical section
of such a call may come after the next message here, which only adds runs. The kernel may send anything,
and so may the server.
-/

set_option autoImplicit false

namespace Cuse2Net.Virtdev

open Cuse2Net.Lib
open Cuse2Net.Lib.Bytes
open Cuse2Net.IoctlFfi
open Cuse2Net.Proto
open Cuse2Net.Proto.Errno
open Cuse2Net.Cuse (BUF_SZ Message OpIn ReadBuf)

/-! ## The dispatcher -/

/-- `Errno::ENOSYS`. -/
def ENOSYS : Errno := ⟨38, rfl⟩

/-- `CliOpts`, the fields that the reply to `CuseInit` has. -/
structure CliOpts where
  major : Option Int
  minor : Option Int
  device : List UInt8

/-- The field `max_write` of the reply to `CuseInit`. -/
def maxWrite : BitVec 32 := BitVec.ofNat 32 BUF_SZ - 0x1000

/-- Memory of `cuse_init_out`. -/
def cuseInitOut (e : Endian) (args : CliOpts) (flags : BitVec 32) : List UInt8 :=
  ([7, 31, 0, flags, BitVec.ofNat 32 BUF_SZ, maxWrite, BitVec.ofInt 32 (args.major.getD 0),
    BitVec.ofInt 32 (args.minor.getD 0)] ++ List.replicate 10 0).flatMap (u32 e).bytes

/-- `DEVNAME=...`, with the zero at the end. -/
def devname (args : CliOpts) : List UInt8 := [68, 69, 86, 78, 65, 77, 69, 61] ++ args.device ++ [0]

/-- Memory of `fuse_open_out`: handle, flags and padding. -/
def fuseOpenOut (e : Endian) (fh : Fh) (openFlags : BitVec 32) : List UInt8 :=
  (u64 e).bytes fh.val ++ ((u32 e).bytes openFlags ++ (u32 e).bytes 0)

/-- An open thread with its request and, when `Device::open` has returned one, its device. -/
structure OpenThread where
  hdl : Fh
  pc : OpenPc
  info : OpInInfo
  openFlags : BitVec 32
  device : Option DeviceInner

/-- The process. `drawn` counts the numbers drawn from `OP_SEQ`. The last two fields record the history:
the numbers of the requests that have been read, and the replies of the dispatcher and of the open
threads; a device records its own. -/
structure Process where
  msg : ReadBuf
  isInit : Bool
  devHdl : Nat
  devices : AList fun _ : Fh => DeviceState
  dispatcher : Dispatcher
  opens : List OpenThread
  drawn : Nat
  requests : List (BitVec 64)
  replies : List FuseReply

/-- What the environment decides while a message is handled: whether a thread can be started, the
outcome of a send on the connection, and the result of a write to the cuse device. -/
structure Outcomes where
  spawned : Bool
  out : SendOutcome
  writev : Except Errno Nat

/-- Steps of the process. -/
inductive ProcessLabel where
  | message (msg : Message) (env : Outcomes)
  | thread (id : Nat) (l : OpenLabel)
  | device (id : Nat) (l : DeviceLabel)
  /-- An open thread draws a sequence number. -/
  | draw

namespace DeviceInner

/-- `handle_cuse` for a request of the dispatcher, up to the end of the critical section; the flag tells
whether the dispatcher panics. -/
def handleCuse (e : Endian) (req : Pending) (request : Request) (info : OpInInfo) (out : SendOutcome)
    (d : DeviceInner) : DeviceInner × Bool :=
  let d' := d.handleCuseInternal e req request info out
  (d', d'.calls.getLast?.any fun call => call.pc = .panicked)

/-- `DeviceInner::ioctl`, in the same way. -/
def handleIoctl (e : Endian) (info : OpInInfo) (params : Cuse.IoctlParams) (data : List UInt8)
    (out : SendOutcome) (d : DeviceInner) : DeviceInner × Bool :=
  match d.ioctl e info params data out with
  | .ok d' => (d', d'.calls.getLast?.any fun call => call.pc = .panicked)
  | .error _ => (d, true)

/-- The critical section of `try_interrupt`. -/
def handleInterrupt (info : OpInInfo) (unique : BitVec 64) (d : DeviceInner) : DeviceInner × Bool :=
  let pc := d.tryInterrupt unique
  ({ d with interrupts := d.interrupts ++ [⟨info, pc⟩] }, pc = .panicked)

/-- The steps that a device makes without the dispatcher. -/
def own : DeviceLabel → Bool
  | .call .. | .draw | .interrupt .. => false
  | _ => true

end DeviceInner

namespace Process

/-- The dispatcher calls a device. -/
def onDevice (s : Process) (id : Nat) (f : DeviceInner → DeviceInner × Bool) : Process :=
  match s.opens[id]? with
  | some t =>
      match t.device with
      | some d =>
          let (d', panics) := f { d with drawn := s.drawn }
          { s with
            opens := s.opens.set id { t with device := some d' }
            drawn := d'.drawn
            dispatcher := if panics then .panicked else s.dispatcher }
      | none => s
  | none => s

/-- `for_fh`. -/
def forFh (s : Process) (fh : Fh) (func : DeviceInner → DeviceInner × Bool) : Process :=
  match s.devices.lookup fh with
  | some (.running id) => s.onDevice id func
  -- "device not ready yet" and "no such device"
  | _ => s

/-- `create`. -/
def create (s : Process) (info : OpInInfo) (params : Cuse.OpenParams) (spawned : Bool) : Process :=
  let s' := { s with devHdl := s.devHdl + 1 }
  match Fh.fromFfi (BitVec.ofNat 64 (1 + s.devHdl)) with
  | none => { s' with dispatcher := .panicked }
  | some hdl =>
      if hdl ∈ s.devices then { s' with dispatcher := .panicked }
      else if spawned then
        { s' with
          devices := s.devices.insert hdl (.opening s.opens.length)
          opens := s.opens ++ [⟨hdl, .opening, info, params.openFlags, none⟩] }
      else { s' with dispatcher := .stopped }

/-- `release`. -/
def release (e : Endian) (s : Process) (fh : Fh) (info : OpInInfo) (out : SendOutcome) : Process :=
  let s' := { s with devices := s.devices.erase fh }
  match s.devices.lookup fh with
  | some (.running id) => s'.onDevice id (DeviceInner.handleCuse e .release .release info out)
  | _ => s'

/-- The loop of `interrupt`. -/
def interruptAll (info : OpInInfo) (unique : BitVec 64) (s : Process) : List DeviceState → Process
  | [] => s
  | .opening _ :: devs => interruptAll info unique s devs
  | .running id :: devs =>
      let s' := s.onDevice id (DeviceInner.handleInterrupt info unique)
      if s'.dispatcher = .panicked then s' else interruptAll info unique s' devs

/-- `interrupt`. -/
def interrupt (s : Process) (info : OpInInfo) (unique : BitVec 64) : Process :=
  s.interruptAll info unique (s.devices.entries.map Sigma.snd)

/-- A reply of the dispatcher or of an open thread. -/
def reply (s : Process) (m : FuseReply) : Process := { s with replies := s.replies ++ [m] }

/-- The arm for the other operations. -/
def unimplemented (s : Process) (info : OpInInfo) : Process := s.reply (info.sendError ENOSYS)

/-- The `match` of the main loop. -/
def handle (e : Endian) (args : CliOpts) (s : Process) (info : OpInInfo) (op : OpIn)
    (env : Outcomes) : Process :=
  match op with
  | .cuseInit _ flags =>
      if s.isInit then
        let m := info.sendResponse [cuseInitOut e args flags, devname args]
        match Cuse.send env.writev (fuseOutHeaderSize + m.data.length) with
        | .ok () => { s.reply m with isInit := false }
        | .error _ => { s.reply m with dispatcher := .stopped }
      else s.unimplemented info
  | .fuseOpen params => s.create info params env.spawned
  | .fuseRelease params => s.release e ⟨params.fh⟩ info env.out
  | .fuseWrite params data =>
      s.forFh ⟨params.fh⟩
        (DeviceInner.handleCuse e (.write ⟨params.offset, ⟨params.flags⟩⟩ data) .write info env.out)
  | .fuseRead params =>
      s.forFh ⟨params.fh⟩
        (DeviceInner.handleCuse e (.read ⟨params.offset, params.size, ⟨params.flags⟩⟩) .read info
          env.out)
  | .fuseIoctl params data =>
      match cuseCompleteIoctl e env.writev info.unique params data with
      | (.ok true, _) =>
          s.forFh ⟨params.fh⟩ (DeviceInner.handleIoctl e info params data env.out)
      | (.ok false, m) => { s with replies := s.replies ++ m.toList }
      | (.error _, m) => { s with replies := s.replies ++ m.toList, dispatcher := .stopped }
  | .fuseInterrupt unique => s.interrupt info unique
  | .fusePoll params =>
      s.forFh ⟨params.fh⟩
        (DeviceInner.handleCuse e (.poll ⟨params.kh, params.flags, params.events⟩) .poll info env.out)
  | .unknown => s.unimplemented info

/-- One turn of the main loop. -/
def dispatch (e : Endian) (args : CliOpts) (s : Process) (msg : Message) (env : Outcomes) : Process :=
  let (iter, buf) := s.msg.read msg
  match OpIn.read e iter with
  -- `unwrap()`
  | .error _ => { s with msg := buf, dispatcher := .panicked }
  | .ok (info, op) =>
      handle e args { s with msg := buf, requests := s.requests ++ [info.unique] } ⟨info.unique⟩ op env

/-! ## The threads -/

/-- What a step of an open thread does besides going on. -/
def threadEffect (e : Endian) (s : Process) (id : Nat) (t : OpenThread) : OpenLabel → Process
  | .opened _ => s
  | .reply _ => s.reply (t.info.sendResponse [fuseOpenOut e t.hdl t.openFlags])
  | .commit => { s with devices := s.devices.insert t.hdl (.running id) }
  | .drop => { s with devices := s.devices.erase t.hdl }
  | .refuse => s.reply (t.info.sendError EIO)

/-- The device of an open thread after a step: `Device::open` makes it. -/
def threadDevice (s : Process) (t : OpenThread) : OpenLabel → Option DeviceInner
  | .opened true => some (.start s.drawn)
  | _ => t.device

/-- One step. -/
def step (e : Endian) (args : CliOpts) (s : Process) : ProcessLabel → Option Process
  | .message msg env => if s.dispatcher = .running then some (s.dispatch e args msg env) else none
  | .thread id l =>
      s.opens[id]?.bind fun t => (t.pc.step l).map fun pc =>
        let s' := s.threadEffect e id t l
        { s' with opens := s.opens.set id { t with pc := pc, device := s.threadDevice t l } }
  | .device id l =>
      if DeviceInner.own l then
        s.opens[id]?.bind fun t => t.device.bind fun d =>
          ({ d with drawn := s.drawn }.step e l).map fun d' =>
            { s with opens := s.opens.set id { t with device := some d' } }
      else none
  | .draw => some { s with drawn := s.drawn + 1 }

/-- The process before its first message. -/
def start (msg : ReadBuf) : Process := ⟨msg, true, 0, ∅, .running, [], 0, [], []⟩

/-- The process with its threads, the kernel and the servers. -/
def system (e : Endian) (args : CliOpts) : System Process ProcessLabel where
  init s := ∃ msg, s = start msg
  step := step e args

/-- All replies of the process. -/
def allReplies (s : Process) : List FuseReply :=
  s.replies ++ s.opens.flatMap fun t => (t.device.map fun d => d.replies.map Prod.snd).getD []

end Process

end Cuse2Net.Virtdev

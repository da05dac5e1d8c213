import Cuse2Net.Proto.Request
import Cuse2Net.Proto.Response

/-!
# Replies of the client to the kernel

What the client writes to the cuse device for a request: `FuseReply` is the header
(`fuse_out_header`) and the data that follows it. `respond` is the part of
`DeviceInner::handle_response` that chooses the reply, for a request of the table (`Request`) and a
response of the server; it fails when the response does not belong to the request or when its ioctl
argument cannot be given to the caller. `Answerable` says in plain terms for which answers there is a
reply (`respond_isOk_iff`).
-/

set_option autoImplicit false

namespace Cuse2Net.Virtdev

open Cuse2Net.Lib
open Cuse2Net.Lib.Bytes
open Cuse2Net.IoctlFfi
open Cuse2Net.IoctlFfi.Ioctl
open Cuse2Net.Proto

/-! ## Messages to the cuse device -/

/-- `OpInInfo`, the fields that are used. -/
structure OpInInfo where
  unique : BitVec 64
  deriving DecidableEq

/-- A message to the cuse device: the fields of `fuse_out_header` and the data. -/
structure FuseReply where
  len : BitVec 32
  error : BitVec 32
  unique : BitVec 64
  data : List UInt8
  deriving DecidableEq

/-- Size of `fuse_out_header`. -/
def fuseOutHeaderSize : Nat := 16

namespace OpInInfo

/-- `send_error`. -/
def sendError (info : OpInInfo) (rc : Errno) : FuseReply :=
  ⟨BitVec.ofNat 32 fuseOutHeaderSize, -BitVec.ofNat 32 rc.code, info.unique, []⟩

/-- `send_ok`. -/
def sendOk (info : OpInInfo) : FuseReply := info.sendError (Errno.fromI32 0)

/-- `send_response`. -/
def sendResponse (info : OpInInfo) (data : List (List UInt8)) : FuseReply :=
  ⟨BitVec.ofNat 32 (data.foldl (fun acc a => acc + a.length) fuseOutHeaderSize), 0, info.unique,
    data.flatten⟩

end OpInInfo

/-- Memory of `fuse_write_out`: size and padding. -/
def fuseWriteOut (e : Endian) (size : BitVec 32) : List UInt8 :=
  ((u32 e).prod (u32 e)).bytes (size, 0)

/-- Memory of `fuse_poll_out`: events and padding. -/
def fusePollOut (e : Endian) (revents : BitVec 32) : List UInt8 :=
  ((u32 e).prod (u32 e)).bytes (revents, 0)

/-- `ioctl_flags::UNRESTRICTED`. -/
def UNRESTRICTED : BitVec 32 := 1#32 <<< 1

/-- Memory of `fuse_ioctl_out`: result, flags and the two counters. -/
def fuseIoctlOut (e : Endian) (result flags inIovs outIovs : BitVec 32) : List UInt8 :=
  ((u32 e).prod ((u32 e).prod ((u32 e).prod (u32 e)))).bytes (result, flags, inIovs, outIovs)

/-! ## Choosing the reply -/

/-- `Request` of `virtdev/device.rs`: what the table knows of a request. -/
inductive Request where
  | release
  | write
  | read
  | ioctl (cmd : IoctlFfi.Ioctl)
  | poll
  deriving DecidableEq

/-- `handle_ioctl`. -/
def handleIoctl (e : Endian) (info : OpInInfo) (cmd : IoctlFfi.Ioctl) (_retval : BitVec 64)
    (arg : Arg) : Result FuseReply := do
  let data ← arg.cuseResponse e cmd
  let hdr := fuseIoctlOut e 0 UNRESTRICTED 0 1
  match data with
  | some data => return info.sendResponse [hdr, data]
  | none => return info.sendResponse [hdr]

/-- The reply that `handle_response` chooses. -/
def respond (e : Endian) (req : Request) (info : OpInInfo) (resp : Response) : Result FuseReply :=
  match resp with
  | .err errno => .ok (info.sendError errno)
  | resp =>
      match req, resp with
      | .release, .ok => .ok info.sendOk
      | .write, .write size => .ok (info.sendResponse [fuseWriteOut e size])
      | .read, .read data => .ok (info.sendResponse [data])
      | .ioctl cmd, .ioctl retval arg => handleIoctl e info cmd retval arg
      | .poll, .poll ev => .ok (info.sendResponse [fusePollOut e ev])
      | _, _ => Err .badResponse

/-- Whether the response ends the session: a release has been confirmed. -/
def closes (req : Request) (resp : Response) : Bool := req = .release && resp = .ok

/-! ## Which answers are replied to -/

/-- Terminal settings. -/
def isTermIOs : Arg → Bool
  | .termIOs _ => true
  | _ => false

/-- An argument that `cuse_response` can give to the caller of the command: terminal settings for the
commands that read them, anything else for the others, and nothing at all for `TIOCSWINSZ`. -/
def Returnable (cmd : IoctlFfi.Ioctl) (arg : Arg) : Prop :=
  if cmd ∈ [TIOCGLCKTRMIOS, TCGETS, TCGETS2] then isTermIOs arg = true
  else cmd ≠ TIOCSWINSZ ∧ ((BadIoctl.new cmd).isRead = true → isTermIOs arg = false)

instance (cmd : IoctlFfi.Ioctl) (arg : Arg) : Decidable (Returnable cmd arg) := by
  unfold Returnable
  infer_instance

/-- An answer of the server to a sequence number. -/
inductive Answer where
  | response (resp : Response)
  | remoteError (rc : Nat)
  deriving DecidableEq

/-- An answer that the handler replies to: an error, or a response of the kind of the request, for an
ioctl with an argument that can be returned. -/
def Answerable (req : Request) : Answer → Prop
  | .remoteError _ => True
  | .response resp =>
      match req, resp with
      | _, .err _ => True
      | .release, .ok => True
      | .write, .write _ => True
      | .read, .read _ => True
      | .ioctl cmd, .ioctl _ arg => Returnable cmd arg
      | .poll, .poll _ => True
      | _, _ => False

instance (req : Request) (ans : Answer) : Decidable (Answerable req ans) := by
  unfold Answerable
  split
  · infer_instance
  · split <;> infer_instance

theorem cuseResponse_isOk_iff (e : Endian) (cmd : IoctlFfi.Ioctl) (arg : Arg) :
    (arg.cuseResponse e cmd).isOk = true ↔ Returnable cmd arg := by
  unfold Arg.cuseResponse Returnable
  simp only [BadIoctl.getNative_new]
  by_cases hget : cmd ∈ [TIOCGLCKTRMIOS, TCGETS]
  · have hlist : cmd ∈ [TIOCGLCKTRMIOS, TCGETS, TCGETS2] := List.mem_append_left [TCGETS2] hget
    rw [if_pos hget, if_pos hlist]
    cases arg <;> simp [isTermIOs, Except.isOk, Except.toBool, Err]
  · rw [if_neg hget]
    by_cases hget2 : cmd = TCGETS2
    · have hlist : cmd ∈ [TIOCGLCKTRMIOS, TCGETS, TCGETS2] := by simp [hget2]
      rw [if_pos hget2, if_pos hlist]
      cases arg <;> simp [isTermIOs, Except.isOk, Except.toBool, Err]
    · have hlist : cmd ∉ [TIOCGLCKTRMIOS, TCGETS, TCGETS2] := by
        simp only [List.mem_cons, List.not_mem_nil, or_false, not_or] at hget ⊢
        exact ⟨hget.1, hget.2, hget2⟩
      rw [if_neg hget2, if_neg hlist]
      by_cases hset : cmd = TIOCSWINSZ
      · rw [if_pos hset]
        simp [hset, Except.isOk, Except.toBool, Err]
      · rw [if_neg hset]
        cases hread : (BadIoctl.new cmd).isRead with
        | false => simp [hset, Except.isOk, Except.toBool]
        | true => cases arg <;> simp [hset, isTermIOs, Except.isOk, Except.toBool, Err]

theorem handleIoctl_isOk_iff (e : Endian) (info : OpInInfo) (cmd : IoctlFfi.Ioctl)
    (retval : BitVec 64) (arg : Arg) :
    (handleIoctl e info cmd retval arg).isOk = true ↔ Returnable cmd arg := by
  rw [← cuseResponse_isOk_iff e, handleIoctl]
  cases arg.cuseResponse e cmd with
  | error f => rfl
  | ok data => cases data <;> rfl

theorem respond_isOk_iff (e : Endian) (req : Request) (info : OpInInfo) (resp : Response) :
    (respond e req info resp).isOk = true ↔ Answerable req (.response resp) := by
  cases resp with
  | ioctl retval arg =>
      cases req with
      | ioctl cmd => exact handleIoctl_isOk_iff e info cmd retval arg
      | _ => simp [respond, Answerable, Except.isOk, Except.toBool, Err]
  | _ => cases req <;> simp [respond, Answerable, Except.isOk, Except.toBool, Err]

/-- Whether a reply can be chosen does not depend on whom it goes to. -/
theorem respond_of_answerable (e : Endian) {req : Request} {resp : Response}
    (h : Answerable req (.response resp)) (info : OpInInfo) :
    ∃ reply, respond e req info resp = .ok reply := by
  have hok := (respond_isOk_iff e req info resp).2 h
  cases hres : respond e req info resp with
  | ok reply => exact ⟨reply, rfl⟩
  | error f =>
      rw [hres] at hok
      cases hok

/-- A reply goes to the sender of the request. -/
theorem respond_unique {e : Endian} {req : Request} {info : OpInInfo} {resp : Response}
    {reply : FuseReply} (h : respond e req info resp = .ok reply) : reply.unique = info.unique := by
  cases resp with
  | err errno =>
      obtain rfl := Except.ok.inj h
      rfl
  | ioctl retval arg =>
      cases req with
      | ioctl cmd =>
          obtain ⟨data, -, hdata⟩ := ok_of_bind (show handleIoctl e info cmd retval arg = _ from h)
          cases data <;> (obtain rfl := Except.ok.inj hdata; rfl)
      | _ => cases h
  | _ =>
      cases req <;> first
        | (cases h; done)
        | (obtain rfl := Except.ok.inj h; rfl)

end Cuse2Net.Virtdev

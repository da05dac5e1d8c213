import Cuse2Net.Realdev.Server
import Cuse2Net.Virtdev.AnswerHandling

/-!
# The way of an outcome back to the caller

The server makes a system call on the device for a request and sends a response, the response crosses
the connection, and the client writes a reply to the kernel. `DeviceCall` is a request together with
the call, `Outcome` is what the call gave, and `Carries` says where the kernel finds it in the reply.
The two hosts may differ in byte order.

`outcome_carried_iff` follows an outcome all the way. It arrives in every case but one: the return
value of an ioctl crosses the connection, and `handle_ioctl` then fills in a zero.
-/

set_option autoImplicit false

namespace Cuse2Net.Relay

open Cuse2Net.Lib
open Cuse2Net.Lib.Bytes
open Cuse2Net.IoctlFfi
open Cuse2Net.Proto
open Cuse2Net.Realdev
open Cuse2Net.Virtdev (FuseReply Entry DeviceInner fuseWriteOut fusePollOut fuseIoctlOut)

/-! ## Calls and their outcome -/

/-- A request and what the server's system call for it meets. -/
inductive DeviceCall where
  | write (file : DeviceFile) (wrinfo : Request.Write) (data : List UInt8)
  /-- A read of `size` bytes on a descriptor that does not block. -/
  | readNonblock (file : DeviceFile) (size : Nat)
  /-- A read by the reader, with the result of its `read()`. -/
  | read (size : Nat) (res : ReadResult)
  /-- An ioctl, with the caller's argument and buffer. -/
  | ioctl (mem : Memory) (driver : Driver) (cmd : BitVec 32) (x : BitVec 64) (buf : List UInt8)
  | poll (inner : PollInner) (parm : Request.Poll) (res : PollOutcome)

/-- What a system call gave. -/
inductive Outcome where
  | written (count : Nat)
  | data (bytes : List UInt8)
  | returned (rc : BitVec 32)
  | events (ev : PollFlags)
  | failed (errno : Errno)

namespace DeviceCall

/-- What the client's table knows of the request. -/
def request : DeviceCall → Virtdev.Request
  | .write _ _ _ => .write
  | .readNonblock _ _ | .read _ _ => .read
  | .ioctl _ _ cmd _ _ => .ioctl ⟨cmd⟩
  | .poll _ _ _ => .poll

/-- The argument of an ioctl as it arrives at the server. -/
def argument (e e' : Endian) (cmd : BitVec 32) (x : BitVec 64) (buf : List UInt8) : Result Arg := do
  let a ← Arg.decode e' cmd x buf .cuse
  a.overWire e' e

/-- The responses of the server, on a host `e` with the client on a host `e'`. -/
def replies (e e' : Endian) (seq : Sequence) : DeviceCall → List Response.Reply
  | .write file wrinfo data => [Realdev.write e file seq wrinfo data]
  | .readNonblock file size => [Realdev.readNonblock file (seq, size)]
  | .read size res =>
      match ReadState.afterRead (seq, size) res with
      | .sending req buf => (ReadInner.new.sendData req buf).sent
      | .failing req rc => (ReadInner.new.sendErr req.1 rc).sent
      | _ => []
  | .ioctl mem driver cmd x buf =>
      match argument e e' cmd x buf with
      | .ok a => (Realdev.ioctl e mem driver false seq cmd a).1
      | .error _ => []
  | .poll inner parm res =>
      match inner.devicePoll seq (parm.kh.asNative e) (parm.flags.asNative e) (parm.events.asNative e)
        res with
      | some inner' => inner'.sent.drop inner.sent.length
      | none => []

/-- The outcome of the system call, if one is made and the request is not put back. -/
def outcome (e e' : Endian) : DeviceCall → Option Outcome
  | .write file wrinfo data =>
      match file.writeAt (wrinfo.offset.asNative e) data with
      | .ok count => some (.written count)
      | .error rc => some (.failed rc)
  | .readNonblock file size =>
      match file.read (min size Realdev.BUF_SZ) with
      | .ok bytes => some (.data bytes)
      | .error rc => some (.failed rc)
  | .read _ (.data bytes) => some (.data bytes)
  | .read _ (.error rc) => if rc = .EAGAIN then none else some (.failed rc)
  | .ioctl mem driver cmd x buf =>
      match argument e e' cmd x buf with
      | .ok a =>
          if a.isRaw then none
          else
            match a.encode e mem cmd with
            | .ok (cmd, p, b) =>
                let res := driver.call cmd p b
                if res.rc.slt 0 then some (.failed res.errno) else some (.returned res.rc)
            | .error _ => none
      | .error _ => none
  | .poll _ _ (.ok (count, revents)) => some (.events (if count = 0 then 0 else revents))
  | .poll _ _ (.error rc) => some (.failed rc)

/-- The data of a write fits a message, `read()` fills at most the buffer, and `poll()` counts one
descriptor at most and reports conditions that were asked for or are always reported. -/
def Documented (e : Endian) : DeviceCall → Prop
  | .write _ _ data => data.length ≤ Request.MAX_SZ
  | .read size (.data bytes) => bytes.length ≤ min size Realdev.BUF_SZ
  | .poll _ parm (.ok (count, revents)) => count ≤ 1 ∧
      revents &&& ~~~(protoToPoll (parm.events.asNative e) ||| PollFlags.POLLERR |||
        PollFlags.POLLHUP ||| PollFlags.POLLNVAL) = 0
  | _ => True

end DeviceCall

/-- The reply tells the kernel on a host `e` the outcome: the size in `fuse_write_out`, the bytes, the
result at the beginning of `fuse_ioctl_out`, the events in `fuse_poll_out`, or the negated error
number. -/
def Carries (e : Endian) (reply : FuseReply) : Outcome → Prop
  | .written count => reply.error = 0 ∧ ∃ size, size.toNat = count ∧ reply.data = fuseWriteOut e size
  | .data bytes => reply.error = 0 ∧ reply.data = bytes
  | .returned rc => reply.error = 0 ∧ ∃ rest, reply.data = (u32 e).bytes rc ++ rest
  | .events ev => reply.error = 0 ∧ reply.data = fusePollOut e (ev.setWidth 32)
  | .failed errno => reply.error = -BitVec.ofNat 32 errno.code ∧ reply.data = []

/-! ## From the response to the reply -/

/-- A client on a host `e'` that gets the response over any connection finds the request of the number
`seq` in its table and replies to it. -/
def Relayed (e e' : Endian) (m : Response.Reply) (seq : Sequence) (entry : Entry)
    (reply : FuseReply) : Prop :=
  ∀ (s : Script) (rest : List UInt8), s.Clean → s.bytes = m.send e ++ rest →
    ∃ s' res ans, Response.recv e' s = (res.mapError .err, s') ∧ s'.bytes = rest ∧
      DeviceInner.received res = .removing seq ans ∧
        DeviceInner.afterRemove e' entry ans = .replying entry reply

section Relay

variable {e e' : Endian} {seq : Sequence} {entry : Entry}

theorem relayed_err {errno : Errno} (herr : errno.code ≠ 0) :
    Relayed e e' (.err seq errno) seq entry (entry.info.sendError errno) := by
  intro s rest hs hbytes
  obtain ⟨s', hrun, -, hrest⟩ := Response.recv_err e e' seq herr s rest hs hbytes
  refine ⟨s', .error (.remoteError (some seq) errno.code), .remoteError errno.code, hrun, hrest, rfl,
    ?_⟩
  have hknown : Errno.fromI32 errno.code = errno := dif_pos errno.known
  rw [DeviceInner.afterRemove, hknown]

theorem relayed_response {m : Response.Reply} {resp : Response} {reply : FuseReply}
    (hreceived : m.received e e' = some (.ok (some seq, resp)))
    (hlen : (m.send e).length ≤ (Response.Header.layout e).size + Response.MAX_SZ)
    (hrespond : Virtdev.respond e' entry.req entry.info resp = .ok reply)
    (hcloses : Virtdev.closes entry.req resp = false) : Relayed e e' m seq entry reply := by
  intro s rest hs hbytes
  have herr : ∀ seq errno, m = .err seq errno → errno.code ≠ 0 := by
    rintro seq errno rfl
    cases hreceived
  obtain ⟨s', hrun, -, hrest⟩ := Response.recv_reply herr hlen hreceived s rest hs hbytes
  refine ⟨s', .ok (some seq, resp), .response resp, hrun, hrest, rfl, ?_⟩
  simp only [DeviceInner.afterRemove, hrespond, hcloses, Bool.false_eq_true, if_false]

/-- The outcome of a call reaches the kernel in a reply to the sender of the request; it is there
unless it is the return value of an ioctl and not zero. -/
def Carried (e e' : Endian) (c : DeviceCall) (seq : Sequence) (entry : Entry) (o : Outcome) : Prop :=
  ∃ m reply, c.replies e e' seq = [m] ∧ Relayed e e' m seq entry reply ∧
    reply.unique = entry.info.unique ∧ (Carries e' reply o ↔ ∀ rc, o = .returned rc → rc = 0)

theorem carried_err {c : DeviceCall} {errno : Errno} (herr : errno.code ≠ 0)
    (hreplies : c.replies e e' seq = [.err seq errno]) :
    Carried e e' c seq entry (.failed errno) := by
  refine ⟨_, _, hreplies, relayed_err herr, rfl, iff_of_true ⟨rfl, rfl⟩ ?_⟩
  intro rc h
  cases h

theorem carried_response {c : DeviceCall} {m : Response.Reply} {resp : Response} {o : Outcome}
    (data : List (List UInt8)) (hreplies : c.replies e e' seq = [m])
    (hreceived : m.received e e' = some (.ok (some seq, resp)))
    (hlen : (m.send e).length ≤ (Response.Header.layout e).size + Response.MAX_SZ)
    (hrespond : Virtdev.respond e' entry.req entry.info resp = .ok (entry.info.sendResponse data))
    (hcloses : Virtdev.closes entry.req resp = false)
    (hcarries : Carries e' (entry.info.sendResponse data) o ↔ ∀ rc, o = .returned rc → rc = 0) :
    Carried e e' c seq entry o :=
  ⟨m, _, hreplies, relayed_response hreceived hlen hrespond hcloses, rfl, hcarries⟩

/-! ## Call by call -/

theorem write_carried {file : DeviceFile} {wrinfo : Request.Write} {data : List UInt8}
    {o : Outcome} (hentry : entry.req = .write) (hdata : data.length ≤ Request.MAX_SZ)
    (ho : (DeviceCall.write file wrinfo data).outcome e e' = some o)
    (herr : ∀ errno, o = .failed errno → errno.code ≠ 0) :
    Carried e e' (.write file wrinfo data) seq entry o := by
  simp only [DeviceCall.outcome] at ho
  cases hcall : file.writeAt (wrinfo.offset.asNative e) data with
  | error rc =>
      rw [hcall] at ho
      obtain rfl := Option.some.inj ho
      refine carried_err (herr rc rfl) ?_
      simp only [DeviceCall.replies, Realdev.write, hcall]
  | ok count =>
      rw [hcall] at ho
      obtain rfl := Option.some.inj ho
      -- the count fits the field
      have hlt : count < 2 ^ 32 :=
        Nat.lt_of_le_of_lt (Nat.le_trans (DeviceFile.writeAt_le hcall) hdata) (by decide)
      have hcount : (BitVec.ofNat 32 count).toNat = count := by
        rw [BitVec.toNat_ofNat, Nat.mod_eq_of_lt hlt]
      have hreplies : (DeviceCall.write file wrinfo data).replies e e' seq =
          [.write seq (BitVec.ofNat 32 count)] := by
        simp only [DeviceCall.replies, Realdev.write, hcall]
      have hlen := Response.word_le byteWidth_32 e (Be.fromNative e (BitVec.ofNat 32 count)) (by decide)
      refine carried_response [fuseWriteOut e' (BitVec.ofNat 32 count)] hreplies rfl
        (Response.sendMessage_le e _ _ hlen) (by rw [hentry]; rfl) (by rw [hentry]; rfl) ?_
      refine iff_of_true ⟨rfl, _, hcount, List.append_nil _⟩ ?_
      intro rc h
      cases h

/-- The reader and a read that does not block send the same. -/
theorem data_carried {c : DeviceCall} {size : Nat} {bytes : List UInt8} (hentry : entry.req = .read)
    (hreplies : c.replies e e' seq = [.read seq bytes])
    (hbytes : bytes.length ≤ min size Realdev.BUF_SZ) : Carried e e' c seq entry (.data bytes) := by
  have hlen : [bytes].flatten.length ≤ Response.MAX_SZ := by
    rw [List.flatten_cons, List.flatten_nil, List.append_nil]
    exact Nat.le_trans (Nat.le_trans hbytes (Nat.min_le_right _ _)) (show 4096 ≤ 0x10000 by decide)
  refine carried_response [bytes] hreplies rfl (Response.sendMessage_le e _ _ hlen)
    (by rw [hentry]; rfl) (by rw [hentry]; rfl) ?_
  refine iff_of_true ⟨rfl, List.append_nil _⟩ ?_
  intro rc h
  cases h

theorem readNonblock_carried {file : DeviceFile} {size : Nat} {o : Outcome}
    (hentry : entry.req = .read) (ho : (DeviceCall.readNonblock file size).outcome e e' = some o)
    (herr : ∀ errno, o = .failed errno → errno.code ≠ 0) :
    Carried e e' (.readNonblock file size) seq entry o := by
  simp only [DeviceCall.outcome] at ho
  cases hcall : file.read (min size Realdev.BUF_SZ) with
  | error rc =>
      rw [hcall] at ho
      obtain rfl := Option.some.inj ho
      refine carried_err (herr rc rfl) ?_
      simp only [DeviceCall.replies, Realdev.readNonblock, hcall]
  | ok bytes =>
      rw [hcall] at ho
      obtain rfl := Option.some.inj ho
      refine data_carried hentry ?_ (file.read_le _ _ hcall)
      simp only [DeviceCall.replies, Realdev.readNonblock, hcall]

theorem read_carried {size : Nat} {res : ReadResult} {o : Outcome} (hentry : entry.req = .read)
    (hdoc : (DeviceCall.read size res).Documented e)
    (ho : (DeviceCall.read size res).outcome e e' = some o)
    (herr : ∀ errno, o = .failed errno → errno.code ≠ 0) :
    Carried e e' (.read size res) seq entry o := by
  cases res with
  | data bytes =>
      obtain rfl := Option.some.inj ho
      refine data_carried hentry ?_ hdoc
      have hfits : bytes.length ≤ min size Realdev.BUF_SZ := hdoc
      simp only [DeviceCall.replies, ReadState.afterRead, if_pos hfits]
      rfl
  | error rc =>
      simp only [DeviceCall.outcome, Option.ite_none_left_eq_some, Option.some.injEq] at ho
      obtain ⟨hwait, rfl⟩ := ho
      refine carried_err (herr rc rfl) ?_
      simp only [DeviceCall.replies, ReadState.afterRead, if_neg hwait]
      rfl

/-! ## Poll -/

/-- A poll request is answered once. -/
theorem devicePoll_replies {inner : PollInner} {parm : Request.Poll} {res : PollOutcome}
    {m : Response.Reply} (hm : PollInner.pollReply seq res = some m) :
    (DeviceCall.poll inner parm res).replies e e' seq = [m] := by
  simp only [DeviceCall.replies, PollInner.devicePoll_eq, hm, Option.map_some, List.drop_left]

/-- Widening keeps the flags, because the sign bit is not one of them. -/
theorem signExtend_flags {revents : PollFlags} (h : revents &&& ~~~PollFlags.all = 0) :
    revents.signExtend 32 = revents.setWidth 32 := by
  apply BitVec.signExtend_eq_setWidth_of_msb_false
  rw [BitVec.msb_eq_getLsbD_last]
  rw [← flags_subset_iff] at h
  by_contra hmsb
  rw [Bool.not_eq_false] at hmsb
  exact absurd (mem_flags.1 (h (mem_flags.2 hmsb))) (by decide)

theorem poll_carried {inner : PollInner} {parm : Request.Poll} {res : PollOutcome} {o : Outcome}
    (hentry : entry.req = .poll) (hdoc : (DeviceCall.poll inner parm res).Documented e)
    (ho : (DeviceCall.poll inner parm res).outcome e e' = some o)
    (herr : ∀ errno, o = .failed errno → errno.code ≠ 0) :
    Carried e e' (.poll inner parm res) seq entry o := by
  -- an answer with a word of events
  have hevents : ∀ ev : PollFlags, PollInner.pollReply seq res = some (.poll seq (ev.setWidth 32)) →
      Carried e e' (.poll inner parm res) seq entry (.events ev) := by
    intro ev hreply
    have hlen := Response.word_le byteWidth_32 e (Be.fromNative e (ev.setWidth 32)) (by decide)
    refine carried_response [fusePollOut e' (ev.setWidth 32)] (devicePoll_replies hreply) rfl
      (Response.sendMessage_le e _ _ hlen) (by rw [hentry]; rfl) (by rw [hentry]; rfl) ?_
    refine iff_of_true ⟨rfl, List.append_nil _⟩ ?_
    intro rc h
    cases h
  match res with
  | .error rc =>
      obtain rfl := Option.some.inj ho
      exact carried_err (herr rc rfl) (devicePoll_replies rfl)
  | .ok (0, revents) =>
      obtain rfl := Option.some.inj ho
      exact hevents 0 rfl
  | .ok (1, revents) =>
      obtain rfl := Option.some.inj ho
      have hsubset := PollNotify.reported_subset _ hdoc.2
      have hknown : PollFlags.fromBits revents = some revents := if_pos hsubset
      refine hevents revents ?_
      rw [PollInner.pollReply, hknown, Option.getD_some, signExtend_flags hsubset]
  | .ok (count + 2, revents) => exact absurd hdoc.1 (by simp)

/-! ## Ioctl -/

/-- The reply to an ioctl starts with a zero result. -/
theorem handleIoctl_eq {info : Virtdev.OpInInfo} {cmd : IoctlFfi.Ioctl} (retval : BitVec 64) {a : Arg}
    {data : Option (List UInt8)} (h : a.cuseResponse e' cmd = .ok data) :
    Virtdev.handleIoctl e' info cmd retval a =
      .ok (info.sendResponse (fuseIoctlOut e' 0 Virtdev.UNRESTRICTED 0 1 :: data.toList)) := by
  rw [Virtdev.handleIoctl, h]
  cases data <;> rfl

/-- The result field tells the return value exactly when it is zero. -/
theorem carries_returned_iff (info : Virtdev.OpInInfo) (flags inIovs outIovs rc : BitVec 32)
    (data : List (List UInt8)) :
    Carries e' (info.sendResponse (fuseIoctlOut e' 0 flags inIovs outIovs :: data)) (.returned rc) ↔
      rc = 0 := by
  constructor
  · rintro ⟨-, rest, hdata⟩
    have hfirst : (u32 e').bytes 0 ++ _ = (u32 e').bytes rc ++ rest :=
      (List.append_assoc _ _ _).symm.trans hdata
    have hlength : ((u32 e').bytes 0).length = ((u32 e').bytes rc).length := by
      rw [Layout.length_bytes, Layout.length_bytes]
    have hbytes := List.append_inj_left hfirst hlength
    rw [← (u32 e').parse_bytes rc, ← hbytes, (u32 e').parse_bytes]
  · rintro rfl
    exact ⟨rfl, _, List.append_assoc _ _ _⟩

theorem argument_ok {cmd : BitVec 32} {x : BitVec 64} {buf : List UInt8} {a : Arg}
    (h : DeviceCall.argument e e' cmd x buf = .ok a) :
    ∃ a₀, Arg.clientArg e' x buf (CommandClass.classify ⟨cmd⟩) = .ok a₀ ∧ a = a₀.rehost e' e := by
  obtain ⟨a₀, hdecode, hwire⟩ := ok_of_bind h
  rw [Arg.decode_cuse_eq] at hdecode
  rw [Arg.overWire_eq] at hwire
  exact ⟨a₀, hdecode, (Except.ok.inj hwire).symm⟩

/-- When the driver is called, the argument is not raw and `encode` has accepted it. -/
theorem ioctl_called {mem : Memory} {driver : Driver} {cmd : BitVec 32} {x : BitVec 64}
    {buf : List UInt8} {o : Outcome}
    (ho : (DeviceCall.ioctl mem driver cmd x buf).outcome e e' = some o) :
    ∃ a res, DeviceCall.argument e e' cmd x buf = .ok (a.rehost e' e) ∧
      Arg.clientArg e' x buf (CommandClass.classify ⟨cmd⟩) = .ok a ∧ a.isRaw = false ∧
      Arg.deviceArg e mem (CommandClass.classify ⟨cmd⟩) (a.rehost e' e) = .ok res ∧
      o = if (driver.call cmd res.1 res.2).rc.slt 0 then .failed (driver.call cmd res.1 res.2).errno
        else .returned (driver.call cmd res.1 res.2).rc := by
  cases harg : DeviceCall.argument e e' cmd x buf with
  | error f => simp only [DeviceCall.outcome, harg, reduceCtorEq] at ho
  | ok a' =>
      obtain ⟨a, hclient, rfl⟩ := argument_ok harg
      cases hraw : a.isRaw with
      | true =>
          simp only [DeviceCall.outcome, harg, isRaw_rehost, hraw, if_true, reduceCtorEq] at ho
      | false =>
          simp only [DeviceCall.outcome, harg, isRaw_rehost, hraw, Arg.encode_eq,
            Bool.false_eq_true, if_false] at ho
          cases hdevice : Arg.deviceArg e mem (CommandClass.classify ⟨cmd⟩) (a.rehost e' e) with
          | error f => simp only [hdevice, Except.map, reduceCtorEq] at ho
          | ok res =>
              simp only [hdevice, Except.map] at ho
              refine ⟨a, res, rfl, hclient, hraw, hdevice, ?_⟩
              split at ho
              · next hneg => rw [if_pos hneg, Option.some.inj ho]
              · next hneg => rw [if_neg hneg, Option.some.inj ho]

theorem ioctl_carried {mem : Memory} {driver : Driver} {cmd : BitVec 32} {x : BitVec 64}
    {buf : List UInt8} {o : Outcome} (hentry : entry.req = .ioctl ⟨cmd⟩)
    (ho : (DeviceCall.ioctl mem driver cmd x buf).outcome e e' = some o)
    (herr : ∀ errno, o = .failed errno → errno.code ≠ 0) :
    Carried e e' (.ioctl mem driver cmd x buf) seq entry o := by
  obtain ⟨a, res, harg, hclient, hraw, hdevice, ho⟩ := ioctl_called ho
  by_cases hneg : (driver.call cmd res.1 res.2).rc.slt 0 = true
  · rw [if_pos hneg] at ho
    subst ho
    refine carried_err (herr _ rfl) ?_
    simp only [DeviceCall.replies, harg, Realdev.ioctl, isRaw_rehost, hraw, Arg.encode_eq, hdevice,
      Except.map, Bool.false_and, Bool.false_eq_true, if_false, if_pos hneg]
  · rw [if_neg hneg] at ho
    subst ho
    obtain ⟨r, hserver, hlen, hcaller⟩ :=
      served_argument mem hclient hraw hdevice (driver.length_buf cmd res.1 res.2)
    have hreplies : (DeviceCall.ioctl mem driver cmd x buf).replies e e' seq =
        [.ioctl seq ((driver.call cmd res.1 res.2).rc.signExtend 64) r] := by
      simp only [DeviceCall.replies, harg, Realdev.ioctl, isRaw_rehost, hraw, Arg.encode_eq, hdevice,
        Except.map, Bool.false_and, Bool.false_eq_true, if_false, if_neg hneg,
        Arg.decode_device_eq, hserver]
    obtain ⟨data, hdata⟩ := hcaller (BadIoctl.new ⟨cmd⟩).isRead
    rw [← Arg.cuseResponse_eq] at hdata
    refine carried_response (fuseIoctlOut e' 0 Virtdev.UNRESTRICTED 0 1 :: data.toList) hreplies rfl
      (Response.sendMessage_le e _ _ ?_) ?_ ?_ ?_
    · rw [List.flatten_cons, List.flatten_cons, List.flatten_nil, List.append_nil,
        List.length_append, Layout.length_bytes]
      exact Nat.le_trans (Nat.add_le_add_left hlen _) (show 16 + 64 ≤ 0x10000 by decide)
    · rw [hentry]
      exact handleIoctl_eq ((driver.call cmd res.1 res.2).rc.signExtend 64) hdata
    · rw [hentry]
      rfl
    · -- the return value has arrived at the client, and the field holds a zero
      rw [carries_returned_iff]
      constructor
      · rintro hrc rc ⟨⟩
        exact hrc
      · intro h
        exact h _ rfl

end Relay

/-- **Which outcomes reach the caller.** The server makes a system call on the device for a request of
the client, with a result in the documented range, and an error has a number. Then it sends one
response, and the client, on a host of any byte order and however the bytes arrive, replies to the
sender of the request. The reply carries the outcome exactly when it is not the return value of an
ioctl or this value is zero. -/
theorem outcome_carried_iff (e e' : Endian) (c : DeviceCall) (seq : Sequence) (entry : Entry)
    (o : Outcome) (hentry : entry.req = c.request) (hdoc : c.Documented e)
    (ho : c.outcome e e' = some o) (herr : ∀ errno, o = .failed errno → errno.code ≠ 0) :
    ∃ m reply, c.replies e e' seq = [m] ∧ Relayed e e' m seq entry reply ∧
      reply.unique = entry.info.unique ∧
        (Carries e' reply o ↔ ∀ rc, o = .returned rc → rc = 0) := by
  cases c with
  | write file wrinfo data => exact write_carried hentry hdoc ho herr
  | readNonblock file size => exact readNonblock_carried hentry ho herr
  | read size res => exact read_carried hentry hdoc ho herr
  | ioctl mem driver cmd x buf => exact ioctl_carried hentry ho herr
  | poll inner parm res => exact poll_carried hentry hdoc ho herr

/-- A device that is ready for reading, polled by a big-endian client. -/
theorem outcome_carried_readable :
    ∃ m reply, (DeviceCall.poll .new ⟨⟨0⟩, ⟨0⟩, ⟨0x01000000⟩⟩ (.ok (1, 1))).replies .little .big
        ⟨7, by decide⟩ = [m] ∧
      Relayed .little .big m ⟨7, by decide⟩ ⟨.poll, ⟨100⟩, 0⟩ reply ∧ reply.unique = 100 ∧
        Carries .big reply (.events 1) := by
  obtain ⟨m, reply, hsent, hrelayed, hunique, hcarries⟩ := outcome_carried_iff .little .big
    (.poll .new ⟨⟨0⟩, ⟨0⟩, ⟨0x01000000⟩⟩ (.ok (1, 1))) ⟨7, by decide⟩ ⟨.poll, ⟨100⟩, 0⟩ (.events 1)
    rfl ⟨by decide, by decide⟩ rfl (by rintro errno ⟨⟩)
  exact ⟨m, reply, hsent, hrelayed, hunique, hcarries.2 (by rintro rc ⟨⟩)⟩

/-- A driver that returns a count and leaves the buffer. -/
def countingDriver : Driver := ⟨fun _ _ buf => ⟨5, .UnknownErrno, buf⟩, fun _ _ _ => rfl⟩

/-- The ioctl that sets the modem lines, on such a device. -/
def setModemLines : DeviceCall :=
  .ioctl ⟨0x1000, fun _ => 0⟩ countingDriver 0x5418 0 [1, 2, 3, 4]

/-- The server sends the 5 that the driver has returned. The result that the client writes to the
kernel is 0. -/
theorem ioctl_result_lost :
    setModemLines.outcome .little .little = some (.returned 5) ∧
      setModemLines.replies .little .little ⟨7, by decide⟩ = [.ioctl ⟨7, by decide⟩ 5 .none] ∧
      ∃ reply, Relayed .little .little (.ioctl ⟨7, by decide⟩ 5 .none) ⟨7, by decide⟩
          ⟨setModemLines.request, ⟨100⟩, 0⟩ reply ∧
        reply.data = fuseIoctlOut .little 0 2 0 1 ∧ ¬Carries .little reply (.returned 5) := by
  refine ⟨rfl, rfl, Virtdev.OpInInfo.sendResponse ⟨100⟩ [fuseIoctlOut .little 0 2 0 1], ?_, rfl, ?_⟩
  · exact relayed_response rfl (by decide) rfl rfl
  · rw [carries_returned_iff]
    decide

end Cuse2Net.Relay

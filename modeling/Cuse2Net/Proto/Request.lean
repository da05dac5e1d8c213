import Cuse2Net.Proto.Ioctl
import Cuse2Net.Proto.Io

/-!
# Requests

Model of `proto/request.rs` and `proto/request_flags.rs`, and of the parts of the kernel interface
(`mod-cuse`) that they read. A request is a header, a structure that depends on the operation and,
for `Write` and `Ioctl`, data of variable length. The senders draw the sequence number from the
counter `OP_SEQ`; here the drawn number is an argument. What a sender returns is its sequence number
and the bytes that it puts on the wire, when the connection takes the whole message.

The receive buffer `tmp_buf` is uninitialised memory of a given length.

The main result is `requests_round_trip`: a receiver that is called again and again on the bytes of a
sequence of requests returns these requests and leaves no byte over, for every combination of byte
orders and however the bytes arrive.
-/

set_option autoImplicit false

namespace Cuse2Net.Proto

open Cuse2Net.Lib
open Cuse2Net.Lib.Bytes
open Cuse2Net.IoctlFfi

/-! ## Parameters of the kernel's requests -/

/-- `fh_flags`: the flags of an open file as the kernel has them. -/
structure FuseFhFlags where
  bits : BitVec 32
  deriving DecidableEq

namespace FuseFhFlags

/-- `fh_flags::NONBLOCK`. -/
def NONBLOCK : FuseFhFlags := ⟨1#32 <<< 11⟩

/-- `intersects`. -/
def intersects (flags other : FuseFhFlags) : Bool := flags.bits &&& other.bits != 0

/-- `is_rdonly`. -/
def isRdonly (flags : FuseFhFlags) : Bool := flags.bits &&& 3 == 0

/-- `is_wronly`. -/
def isWronly (flags : FuseFhFlags) : Bool := flags.bits &&& 3 == 1

/-- `is_rdwr`. -/
def isRdwr (flags : FuseFhFlags) : Bool := flags.bits &&& 3 == 2

end FuseFhFlags

/-- `WriteParams`. -/
structure WriteParams where
  offset : BitVec 64
  flags : FuseFhFlags
  deriving DecidableEq

/-- `ReadParams`. -/
structure ReadParams where
  offset : BitVec 64
  size : BitVec 32
  flags : FuseFhFlags
  deriving DecidableEq

/-- `PollParams`, with `poll_flags` and `poll_events` as the words that `as_ffi` gives. -/
structure PollParams where
  kh : BitVec 64
  flags : BitVec 32
  events : BitVec 32
  deriving DecidableEq

/-! ## Flags on the wire -/

/-- `FhFlags`: the flags of an open file on the wire. -/
structure FhFlags where
  word : Be32
  deriving DecidableEq

namespace FhFlags

/-- `bit`. -/
def bit (e : Endian) (pos : Nat) : FhFlags := ⟨Be.fromNative e (1#32 <<< pos)⟩

/-- `FhFlags::RD`. -/
def RD (e : Endian) : FhFlags := bit e 0

/-- `FhFlags::WR`. -/
def WR (e : Endian) : FhFlags := bit e 1

/-- `FhFlags::NONBLOCK`. -/
def NONBLOCK (e : Endian) : FhFlags := bit e 2

/-- `empty`. -/
def empty (e : Endian) : FhFlags := ⟨Be.fromNative e 0⟩

/-- `bit_or`, on the raw words. -/
def bitOr (x y : FhFlags) : FhFlags := ⟨⟨x.word.raw ||| y.word.raw⟩⟩

/-- `bit_and`, on the raw words. -/
def bitAnd (x y : FhFlags) : FhFlags := ⟨⟨x.word.raw &&& y.word.raw⟩⟩

/-- `is_nonblock`. -/
def isNonblock (e : Endian) (x : FhFlags) : Bool := (x.bitAnd (NONBLOCK e)).word.asNative e != 0

/-- `from_cuse`. -/
def fromCuse (e : Endian) (flags : FuseFhFlags) : FhFlags :=
  let res := empty e
  let res := if flags.intersects .NONBLOCK then res.bitOr (NONBLOCK e) else res
  let res := if flags.isRdonly || flags.isRdwr then res.bitOr (RD e) else res
  if flags.isWronly || flags.isRdwr then res.bitOr (WR e) else res

/-- Memory layout: the word. -/
def layout (e : Endian) : Layout FhFlags :=
  (be32 e).iso FhFlags.word FhFlags.mk (fun _ => rfl) (fun _ => rfl)

/-- The native word of the flags that `fromCuse` sets. -/
def nativeBits (flags : FuseFhFlags) : BitVec 32 :=
  (if flags.intersects .NONBLOCK then 4 else 0) |||
    (if flags.isRdonly || flags.isRdwr then 1 else 0) |||
      (if flags.isWronly || flags.isRdwr then 2 else 0)

theorem fromCuse_eq (e : Endian) (flags : FuseFhFlags) :
    fromCuse e flags = ⟨Be.fromNative e (nativeBits flags)⟩ := by
  -- the words are combined raw; on each host that is the conversion of the combined native bits
  unfold fromCuse nativeBits
  cases flags.intersects .NONBLOCK <;> cases flags.isRdonly || flags.isRdwr <;>
    cases flags.isWronly || flags.isRdwr <;> cases e <;> rfl

/-- The memory image of the kernel's flags does not depend on the host. -/
theorem bytes_fromCuse (e e' : Endian) (flags : FuseFhFlags) :
    (layout e).bytes (fromCuse e flags) = (layout e').bytes (fromCuse e' flags) := by
  rw [fromCuse_eq, fromCuse_eq]
  exact (Be.bytes_fromNative byteWidth_32 e _).trans (Be.bytes_fromNative byteWidth_32 e' _).symm

end FhFlags

/-! ## Messages -/

/-- `RequestCode`. -/
inductive RequestCode where
  | Open
  | Release
  | Write
  | Read
  | Ioctl
  | Poll
  | Interrupt
  deriving DecidableEq, Repr

namespace RequestCode

/-- `as_u8`. -/
def asU8 : RequestCode → BitVec 8
  | Open => 1
  | Release => 2
  | Write => 3
  | Read => 4
  | Ioctl => 5
  | Poll => 6
  | Interrupt => 7

/-- `try_from_u8`. -/
def tryFromU8 (v : BitVec 8) : Option RequestCode :=
  match v.toNat with
  | 1 => some Open
  | 2 => some Release
  | 3 => some Write
  | 4 => some Read
  | 5 => some Ioctl
  | 6 => some Poll
  | 7 => some Interrupt
  | _ => none

theorem tryFromU8_asU8 (op : RequestCode) : tryFromU8 op.asU8 = some op := by
  cases op <;> rfl

end RequestCode

namespace Request

/-- `Header`. -/
structure Header where
  op : Be8
  pad : Vector (BitVec 8) 3
  len : Be32
  seq : Be64
  deriving DecidableEq

/-- Memory layout of `Header`. -/
def Header.layout (e : Endian) : Layout Header :=
  ((be8 e).prod (((u8 e).array 3).prod ((be32 e).prod (be64 e)))).iso
    (fun h => (h.op, h.pad, h.len, h.seq)) (fun ⟨op, pad, len, seq⟩ => ⟨op, pad, len, seq⟩)
    (fun _ => rfl) (fun _ => rfl)

/-- `Header { op, len, seq, ..Default::default() }`. -/
def Header.make (e : Endian) (op : RequestCode) (len : BitVec 32) (seq : BitVec 64) : Header :=
  ⟨Be.fromNative e op.asU8, Vector.replicate 3 0, Be.fromNative e len, Be.fromNative e seq⟩

/-- `with_payload`, for a structure of `size` bytes and data. The number drawn from `OP_SEQ` is
`drawn`. -/
def Header.withPayload (e : Endian) (op : RequestCode) (size : Nat) (data : List UInt8)
    (drawn : BitVec 64) : Header :=
  make e op (BitVec.ofNat 32 (size + data.length)) drawn

/-- A sequence number, if it is not zero. -/
def Header.sequence (e : Endian) (h : Header) : Result Sequence :=
  if hz : h.seq.asNative e = 0 then Err .badSequence else .ok ⟨h.seq.asNative e, hz⟩

/-- `Open`. -/
structure Open where
  flags : FhFlags
  pad : Vector (BitVec 8) 4
  deriving DecidableEq

/-- Memory layout of `Open`. -/
def Open.layout (e : Endian) : Layout Open :=
  ((FhFlags.layout e).prod ((u8 e).array 4)).iso (fun o => (o.flags, o.pad))
    (fun ⟨flags, pad⟩ => ⟨flags, pad⟩) (fun _ => rfl) (fun _ => rfl)

/-- `Write`. -/
structure Write where
  offset : Be64
  fhFlags : FhFlags
  pad : Vector Be8 4
  deriving DecidableEq

/-- Memory layout of `Write`. -/
def Write.layout (e : Endian) : Layout Write :=
  ((be64 e).prod ((FhFlags.layout e).prod ((be8 e).array 4))).iso
    (fun w => (w.offset, w.fhFlags, w.pad)) (fun ⟨offset, flags, pad⟩ => ⟨offset, flags, pad⟩)
    (fun _ => rfl) (fun _ => rfl)

/-- `Read`. -/
structure Read where
  offset : Be64
  size : Be32
  fhFlags : FhFlags
  deriving DecidableEq

/-- Memory layout of `Read`. -/
def Read.layout (e : Endian) : Layout Read :=
  ((be64 e).prod ((be32 e).prod (FhFlags.layout e))).iso
    (fun r => (r.offset, r.size, r.fhFlags)) (fun ⟨offset, size, flags⟩ => ⟨offset, size, flags⟩)
    (fun _ => rfl) (fun _ => rfl)

/-- `Ioctl`. -/
structure Ioctl where
  cmd : Be32
  argType : Be8
  pad : Vector Be8 3
  deriving DecidableEq

/-- Memory layout of `Ioctl`. -/
def Ioctl.layout (e : Endian) : Layout Ioctl :=
  ((be32 e).prod ((be8 e).prod ((be8 e).array 3))).iso
    (fun i => (i.cmd, i.argType, i.pad)) (fun ⟨cmd, tp, pad⟩ => ⟨cmd, tp, pad⟩)
    (fun _ => rfl) (fun _ => rfl)

/-- `Poll`. -/
structure Poll where
  kh : Be64
  flags : Be32
  events : Be32
  deriving DecidableEq

/-- `Poll::FLAG_SCHEDULE_NOTIFY`. -/
def Poll.FLAG_SCHEDULE_NOTIFY : BitVec 32 := 1#32 <<< 0

/-- Memory layout of `Poll`. -/
def Poll.layout (e : Endian) : Layout Poll :=
  ((be64 e).prod ((be32 e).prod (be32 e))).iso
    (fun q => (q.kh, q.flags, q.events)) (fun ⟨kh, flags, events⟩ => ⟨kh, flags, events⟩)
    (fun _ => rfl) (fun _ => rfl)

end Request

/-- `Request`: a received request. -/
inductive Request where
  | «open» (seq : Sequence) (info : Request.Open)
  | release (seq : Sequence)
  | write (seq : Sequence) (info : Request.Write) (data : List UInt8)
  | read (seq : Sequence) (info : Request.Read)
  | ioctl (seq : Sequence) (info : Request.Ioctl) (arg : Arg)
  | poll (seq : Sequence) (info : Request.Poll)
  | interrupt (seq : Sequence)
  deriving DecidableEq

namespace Request

/-! ## Receiving -/

/-- `MAX_SZ`. -/
def MAX_SZ : Nat := 0x10000

/-- `sub_slice`: the first `sz` bytes of a buffer of `tmpLen` bytes. -/
def subSlice (tmpLen sz : Nat) : Result (List UInt8) :=
  if sz ≤ tmpLen then .ok (List.replicate sz 0) else .error .panic

/-- The part of `recv` that depends on the operation: the request and what is left of the message. -/
def recvBody (e : Endian) (tmpLen : Nat) (seq : Sequence) (rxLen : Option Nat) :
    RequestCode → Reader Failure (Request × Option Nat)
  | .Open => do
      let (info, rxLen) ← recvTo (Open.layout e) rxLen
      pure (.open seq info, rxLen)
  | .Release => pure (.release seq, rxLen)
  | .Write => do
      let (wrinfo, rxLen) ← recvTo (Write.layout e) rxLen
      let l ← Reader.lift (unwrapLen rxLen)
      let rxbuf ← Reader.lift (subSlice tmpLen l)
      let (data, rxLen) ← recvToBytes rxbuf rxLen
      pure (.write seq wrinfo data, rxLen)
  | .Read => do
      let (rdinfo, rxLen) ← recvTo (Read.layout e) rxLen
      pure (.read seq rdinfo, rxLen)
  | .Ioctl => do
      let (ioinfo, rxLen) ← recvTo (Ioctl.layout e) rxLen
      let l ← Reader.lift (unwrapLen rxLen)
      let rxbuf ← Reader.lift (subSlice tmpLen l)
      let (data, rxLen) ← recvToBytes rxbuf rxLen
      let arg ← Reader.lift (Arg.fromRaw e (ioinfo.argType.asNative e) data)
      pure (.ioctl seq ioinfo arg, rxLen)
  | .Poll => do
      let (pollinfo, rxLen) ← recvTo (Poll.layout e) rxLen
      pure (.poll seq pollinfo, rxLen)
  | .Interrupt => pure (.interrupt seq, rxLen)

/-- `recv`, with a buffer of `tmpLen` bytes. -/
def recv (e : Endian) (tmpLen : Nat) : Reader Failure Request := do
  -- the first byte of a message may take any time
  let (hdr, _) ← recvObject (Header.layout e) none none (some TIMEOUT_READ)
  let len := (hdr.len.asNative e).toNat
  if len > MAX_SZ then Reader.fail (.err (.payloadTooLarge len))
  else do
    let op ← Reader.lift <|
      match RequestCode.tryFromU8 (hdr.op.asNative e) with
      | some op => .ok op
      | none => Err (.badOp (hdr.op.asNative e))
    let seq ← Reader.lift (hdr.sequence e)
    let (res, rxLen) ← recvBody e tmpLen seq (some len) op
    let l ← Reader.lift (unwrapLen rxLen)
    -- the bytes left over stay in the stream
    if l = 0 then pure res else Reader.fail (.err .badLength)

/-! ## Sending -/

/-- A sender: given the number drawn from `OP_SEQ`, its sequence number and its bytes. -/
abbrev Sender := BitVec 64 → Result (Sequence × List UInt8)

/-- Header, structure and data in one vectored send. -/
def sendMessage {T : Type} (e : Endian) (op : RequestCode) (L : Layout T) (info : T)
    (data : List UInt8) : Sender := fun drawn => do
  let hdr := Header.withPayload e op L.size data drawn
  let seq ← hdr.sequence e
  return (seq, sendVectoredAll [(Header.layout e).bytes hdr, L.bytes info, data])

/-- `send_open`. -/
def sendOpen (e : Endian) (flags : FuseFhFlags) : Sender :=
  sendMessage e .Open (Open.layout e) ⟨FhFlags.fromCuse e flags, Vector.replicate 4 0⟩ []

/-- `send_release`. -/
def sendRelease (e : Endian) : Sender := sendMessage e .Release Layout.unit () []

/-- `send_write`. -/
def sendWrite (e : Endian) (wrinfo : WriteParams) (data : List UInt8) : Sender :=
  sendMessage e .Write (Write.layout e)
    ⟨Be.fromNative e wrinfo.offset, FhFlags.fromCuse e wrinfo.flags, Vector.replicate 4 ⟨0⟩⟩ data

/-- `send_read`. -/
def sendRead (e : Endian) (rdinfo : ReadParams) : Sender :=
  sendMessage e .Read (Read.layout e)
    ⟨Be.fromNative e rdinfo.offset, Be.fromNative e rdinfo.size, FhFlags.fromCuse e rdinfo.flags⟩ []

/-- `send_ioctl`. -/
def sendIoctl (e : Endian) (cmd : IoctlFfi.Ioctl) (arg : Arg) : Sender :=
  sendMessage e .Ioctl (Ioctl.layout e)
    ⟨Be.fromNative e cmd.asNumeric, arg.code e, Vector.replicate 3 ⟨0⟩⟩ (arg.asReprBytes e)

/-- `send_poll`. -/
def sendPoll (e : Endian) (parm : PollParams) : Sender :=
  sendMessage e .Poll (Poll.layout e)
    ⟨Be.fromNative e parm.kh, Be.fromNative e parm.flags, Be.fromNative e parm.events⟩ []

/-- `send_interrupt`: no number is drawn. -/
def sendInterrupt (e : Endian) (seq : Sequence) : List UInt8 :=
  sendAll ((Header.layout e).bytes (Header.make e .Interrupt 0 seq.val))

/-! ## One message -/

theorem sequence_make (e : Endian) (op : RequestCode) (len : BitVec 32) (seq : Sequence) :
    (Header.make e op len seq.val).sequence e = .ok seq := by
  have hseq : (Header.make e op len seq.val).seq.asNative e = seq.val :=
    Be.asNative_fromNative byteWidth_64 e seq.val
  unfold Header.sequence
  rw [dif_neg (by rw [hseq]; exact seq.ne_zero)]
  simp only [hseq]

theorem sequence_make_ok {e : Endian} {op : RequestCode} {len : BitVec 32} {drawn : BitVec 64}
    {seq : Sequence} (h : (Header.make e op len drawn).sequence e = .ok seq) : drawn = seq.val := by
  have hseq : (Header.make e op len drawn).seq.asNative e = drawn :=
    Be.asNative_fromNative byteWidth_64 e drawn
  unfold Header.sequence at h
  by_cases hz : (Header.make e op len drawn).seq.asNative e = 0
  · rw [dif_pos hz] at h
    cases h
  · rw [dif_neg hz] at h
    rw [← Except.ok.inj h]
    exact hseq.symm

/-- The memory image of a header does not depend on the host. -/
theorem bytes_make (e e' : Endian) (op : RequestCode) (len : BitVec 32) (seq : BitVec 64) :
    (Header.layout e).bytes (Header.make e op len seq) =
      (Header.layout e').bytes (Header.make e' op len seq) := by
  simp only [Header.layout, Header.make, Layout.iso, Layout.prod, be8, be32, be64,
    Be.bytes_fromNative, bytes_u8_array e e']

/-- A message with a good header is received when its body is. -/
theorem recv_header_yields {e : Endian} {tmpLen len : Nat} {hdr : Header} {op : RequestCode}
    {seq : Sequence} {body : List UInt8} {req : Request}
    (hnat : (hdr.len.asNative e).toNat = len) (hlen : len ≤ MAX_SZ)
    (hop : RequestCode.tryFromU8 (hdr.op.asNative e) = some op) (hseq : hdr.sequence e = .ok seq)
    (hbody : Yields (recvBody e tmpLen seq (some len) op) body (.ok (req, some 0))) :
    Yields (recv e tmpLen) ((Header.layout e).bytes hdr ++ body) (.ok req) := by
  unfold recv
  have hhdr : Yields (recvObject (Header.layout e) none none (some TIMEOUT_READ))
      ((Header.layout e).bytes hdr) (.ok (hdr, none)) :=
    recvObject_yields _ _ none TIMEOUT_READ nofun
  refine hhdr.bind ?_
  simp only [hnat, if_neg (Nat.not_lt.2 hlen), hop]
  refine Yields.bind_lift (a := op) rfl (Yields.bind_lift hseq ?_)
  refine hbody.bind_nil ?_
  exact Yields.bind_lift (a := 0) rfl (Yields.pure req)

/-- The same for the header that a sender makes. -/
theorem recv_yields {e : Endian} {tmpLen len : Nat} {op : RequestCode} {seq : Sequence}
    {body : List UInt8} {req : Request} (hlen : len ≤ MAX_SZ)
    (hbody : Yields (recvBody e tmpLen seq (some len) op) body (.ok (req, some 0))) :
    Yields (recv e tmpLen)
      ((Header.layout e).bytes (Header.make e op (BitVec.ofNat 32 len) seq.val) ++ body)
      (.ok req) := by
  -- the length fits its field because it is at most `MAX_SZ`
  have hnat : ((Header.make e op (BitVec.ofNat 32 len) seq.val).len.asNative e).toNat = len := by
    show (((Be.fromNative e (BitVec.ofNat 32 len)).asNative e).toNat = len)
    rw [Be.asNative_fromNative byteWidth_32, BitVec.toNat_ofNat]
    exact Nat.mod_eq_of_lt (Nat.lt_of_le_of_lt hlen (by decide))
  have hop : (Header.make e op (BitVec.ofNat 32 len) seq.val).op.asNative e = op.asU8 :=
    Be.asNative_fromNative byteWidth_8 e op.asU8
  refine recv_header_yields hnat hlen ?_ (sequence_make e op _ seq) hbody
  rw [hop, RequestCode.tryFromU8_asU8]

theorem subSlice_eq {tmpLen sz : Nat} (h : sz ≤ tmpLen) :
    subSlice tmpLen sz = .ok (List.replicate sz 0) :=
  if_pos h

theorem recvBody_write_yields {e : Endian} {tmpLen : Nat} (seq : Sequence) (info : Write)
    {data : List UInt8} (htmp : data.length ≤ tmpLen) :
    Yields (recvBody e tmpLen seq (some ((Write.layout e).size + data.length)) .Write)
      ((Write.layout e).bytes info ++ data) (.ok (.write seq info data, some 0)) := by
  refine (recvTo_head_yields _ info data.length).bind ?_
  refine Yields.bind_lift (a := data.length) rfl (Yields.bind_lift (subSlice_eq htmp) ?_)
  exact (recvToBytes_all_yields data).bind_nil (Yields.pure _)

theorem recvBody_ioctl_yields {e : Endian} {tmpLen : Nat} (seq : Sequence) (info : Ioctl)
    {data : List UInt8} {arg : Arg} (htmp : data.length ≤ tmpLen)
    (harg : Arg.fromRaw e (info.argType.asNative e) data = .ok arg) :
    Yields (recvBody e tmpLen seq (some ((Ioctl.layout e).size + data.length)) .Ioctl)
      ((Ioctl.layout e).bytes info ++ data) (.ok (.ioctl seq info arg, some 0)) := by
  refine (recvTo_head_yields _ info data.length).bind ?_
  refine Yields.bind_lift (a := data.length) rfl (Yields.bind_lift (subSlice_eq htmp) ?_)
  refine (recvToBytes_all_yields data).bind_nil ?_
  exact Yields.bind_lift harg (Yields.pure _)

/-! ## Sequences of messages -/

/-- The calls that draw a sequence number. -/
inductive Call where
  | «open» (flags : FuseFhFlags)
  | release
  | write (wrinfo : WriteParams) (data : List UInt8)
  | read (rdinfo : ReadParams)
  | ioctl (cmd : IoctlFfi.Ioctl) (arg : Arg)
  | poll (parm : PollParams)
  deriving DecidableEq

/-- The sender of a call. -/
def Call.send (e : Endian) : Call → Sender
  | .open flags => sendOpen e flags
  | .release => sendRelease e
  | .write wrinfo data => sendWrite e wrinfo data
  | .read rdinfo => sendRead e rdinfo
  | .ioctl cmd arg => sendIoctl e cmd arg
  | .poll parm => sendPoll e parm

/-- The request that a host `e'` should receive for a call made on a host `e`: the same operation,
sequence number and native field values, in the representation of the receiver. -/
def Call.received (e e' : Endian) (seq : Sequence) : Call → Request
  | .open flags => .open seq ⟨FhFlags.fromCuse e' flags, Vector.replicate 4 0⟩
  | .release => .release seq
  | .write wrinfo data =>
      .write seq ⟨Be.fromNative e' wrinfo.offset, FhFlags.fromCuse e' wrinfo.flags,
        Vector.replicate 4 ⟨0⟩⟩ data
  | .read rdinfo =>
      .read seq ⟨Be.fromNative e' rdinfo.offset, Be.fromNative e' rdinfo.size,
        FhFlags.fromCuse e' rdinfo.flags⟩
  | .ioctl cmd arg =>
      .ioctl seq ⟨Be.fromNative e' cmd.asNumeric, (arg.rehost e e').code e',
        Vector.replicate 3 ⟨0⟩⟩ (arg.rehost e e')
  | .poll parm =>
      .poll seq ⟨Be.fromNative e' parm.kh, Be.fromNative e' parm.flags,
        Be.fromNative e' parm.events⟩

/-- A message of the client: a call with the number it draws, or an interrupt. -/
inductive Message where
  | call (c : Call) (drawn : BitVec 64)
  | interrupt (seq : Sequence)
  deriving DecidableEq

/-- Sequence number and bytes of a message. -/
def Message.send (e : Endian) : Message → Result (Sequence × List UInt8)
  | .call c drawn => c.send e drawn
  | .interrupt seq => .ok (seq, sendInterrupt e seq)

/-- The request that a host `e'` should receive for a message. -/
def Message.received (e e' : Endian) (seq : Sequence) : Message → Request
  | .call c _ => c.received e e' seq
  | .interrupt _ => .interrupt seq

/-- What a successful send has put on the wire. -/
theorem sendMessage_ok {T : Type} {e : Endian} {op : RequestCode} {L : Layout T} {info : T}
    {data : List UInt8} {drawn : BitVec 64} {seq : Sequence} {bytes : List UInt8}
    (h : sendMessage e op L info data drawn = .ok (seq, bytes)) :
    bytes = (Header.layout e).bytes
        (Header.make e op (BitVec.ofNat 32 (L.size + data.length)) seq.val) ++
      (L.bytes info ++ data) := by
  obtain ⟨seq', hseq, hret⟩ := ok_of_bind h
  obtain ⟨rfl, rfl⟩ := Prod.mk.inj (Except.ok.inj hret)
  obtain rfl := sequence_make_ok hseq
  simp only [sendVectoredAll, List.flatten_cons, List.flatten_nil, List.append_nil]
  rfl

/-- A successful send returns the number it has drawn. -/
theorem sendMessage_seq {T : Type} {e : Endian} {op : RequestCode} {L : Layout T} {info : T}
    {data : List UInt8} {drawn : BitVec 64} {seq : Sequence} {bytes : List UInt8}
    (h : sendMessage e op L info data drawn = .ok (seq, bytes)) : seq.val = drawn := by
  obtain ⟨seq', hseq, hret⟩ := ok_of_bind h
  obtain ⟨rfl, -⟩ := Prod.mk.inj (Except.ok.inj hret)
  exact (sequence_make_ok hseq).symm

/-- A message of `sendMessage` is received as `req` when its body is: the structure that the other
host builds from the same native values, and the data. -/
theorem recv_sendMessage {T : Type} (L : Endian → Layout T) (info : Endian → T) (e e' : Endian)
    {tmpLen : Nat} {op : RequestCode} {data : List UInt8} {drawn : BitVec 64} {seq : Sequence}
    {bytes : List UInt8} {req : Request} (hsize : (L e).size = (L e').size)
    (hinfo : (L e).bytes (info e) = (L e').bytes (info e'))
    (h : sendMessage e op (L e) (info e) data drawn = .ok (seq, bytes))
    (hlen : bytes.length ≤ (Header.layout e).size + MAX_SZ)
    (hbody : data.length ≤ MAX_SZ →
      Yields (recvBody e' tmpLen seq (some ((L e').size + data.length)) op)
        ((L e').bytes (info e') ++ data) (.ok (req, some 0))) :
    Yields (recv e' tmpLen) bytes (.ok req) := by
  obtain rfl := sendMessage_ok h
  rw [List.length_append, List.length_append, (Header.layout e).length_bytes,
    (L e).length_bytes] at hlen
  rw [bytes_make e e', hinfo, hsize]
  exact recv_yields (by omega) (hbody (by omega))

/-- A message without data is received when its structure is. -/
theorem recv_sendMessage_nil {T : Type} (L : Endian → Layout T) (info : Endian → T)
    (req : T → Request) (e e' : Endian) {tmpLen : Nat} {op : RequestCode} {drawn : BitVec 64}
    {seq : Sequence} {bytes : List UInt8} (hsize : (L e).size = (L e').size)
    (hinfo : (L e).bytes (info e) = (L e').bytes (info e'))
    (h : sendMessage e op (L e) (info e) [] drawn = .ok (seq, bytes))
    (hlen : bytes.length ≤ (Header.layout e).size + MAX_SZ)
    (hbody : recvBody e' tmpLen seq (some (L e').size) op =
      (recvTo (L e') (some (L e').size) >>= fun r => pure (req r.1, r.2))) :
    Yields (recv e' tmpLen) bytes (.ok (req (info e'))) := by
  refine recv_sendMessage L info e e' hsize hinfo h hlen fun _ => ?_
  rw [List.length_nil, Nat.add_zero, List.append_nil, hbody]
  exact (recvTo_all_yields (L e') (info e')).bind_nil (Yields.pure _)

/-- **A call is received as the same call.** -/
theorem recv_call {e e' : Endian} {tmpLen : Nat} {c : Call} {drawn : BitVec 64} {seq : Sequence}
    {bytes : List UInt8} (h : c.send e drawn = .ok (seq, bytes))
    (hlen : bytes.length ≤ (Header.layout e).size + MAX_SZ) (htmp : MAX_SZ ≤ tmpLen) :
    Yields (recv e' tmpLen) bytes (.ok (c.received e e' seq)) := by
  cases c with
  | «open» flags =>
      refine recv_sendMessage_nil Open.layout
        (fun e => ⟨FhFlags.fromCuse e flags, Vector.replicate 4 0⟩) (.open seq) e e'
        rfl ?_ h hlen rfl
      simp only [Open.layout, Layout.iso, Layout.prod, FhFlags.bytes_fromCuse e e',
        bytes_u8_array e e']
  | release =>
      exact recv_sendMessage (fun _ => Layout.unit) (fun _ => ()) e e' rfl rfl h hlen
        fun _ => Yields.pure _
  | write wrinfo data =>
      refine recv_sendMessage Write.layout (fun e => ⟨Be.fromNative e wrinfo.offset,
        FhFlags.fromCuse e wrinfo.flags, Vector.replicate 4 ⟨0⟩⟩) e e' rfl ?_ h hlen
        fun hdata => recvBody_write_yields seq _ (Nat.le_trans hdata htmp)
      simp only [Write.layout, Layout.iso, Layout.prod, FhFlags.bytes_fromCuse e e', be64,
        Be.bytes_fromNative, bytes_be8_array e e']
  | read rdinfo =>
      refine recv_sendMessage_nil Read.layout (fun e => ⟨Be.fromNative e rdinfo.offset,
        Be.fromNative e rdinfo.size, FhFlags.fromCuse e rdinfo.flags⟩) (.read seq)
        e e' rfl ?_ h hlen rfl
      simp only [Read.layout, Layout.iso, Layout.prod, FhFlags.bytes_fromCuse e e', be64, be32,
        Be.bytes_fromNative]
  | ioctl cmd arg =>
      have hinfo : (Ioctl.layout e).bytes ⟨Be.fromNative e cmd.asNumeric, arg.code e,
            Vector.replicate 3 ⟨0⟩⟩ =
          (Ioctl.layout e').bytes ⟨Be.fromNative e' cmd.asNumeric, arg.code e',
            Vector.replicate 3 ⟨0⟩⟩ := by
        rw [Arg.code_eq, Arg.code_eq]
        simp only [Ioctl.layout, Layout.iso, Layout.prod, bytes_be8_array e e']
        simp only [be32, be8, Be.bytes_fromNative]
      -- the type byte tells the receiver how to read the data
      have hcode : (arg.rehost e e').code e' = arg.code e' := by
        rw [Arg.code_eq, Arg.code_eq, Arg.codeNumber_rehost]
      rw [Call.received, hcode]
      refine recv_sendMessage Ioctl.layout (fun e => ⟨Be.fromNative e cmd.asNumeric, arg.code e,
        Vector.replicate 3 ⟨0⟩⟩) e e' rfl hinfo h hlen
        fun hdata => recvBody_ioctl_yields seq _ (Nat.le_trans hdata htmp) ?_
      rw [Arg.code_eq, Be.asNative_fromNative byteWidth_8, ← Arg.asReprBytes_rehost e e',
        ← Arg.codeNumber_rehost e e', Arg.fromRaw_asReprBytes]
  | poll parm =>
      refine recv_sendMessage_nil Poll.layout (fun e => ⟨Be.fromNative e parm.kh,
        Be.fromNative e parm.flags, Be.fromNative e parm.events⟩) (.poll seq)
        e e' rfl ?_ h hlen rfl
      simp only [Poll.layout, Layout.iso, Layout.prod, be64, be32, Be.bytes_fromNative]

theorem recv_interrupt (e e' : Endian) (tmpLen : Nat) (seq : Sequence) :
    Yields (recv e' tmpLen) (sendInterrupt e seq) (.ok (.interrupt seq)) := by
  have h : Yields (recv e' tmpLen)
      ((Header.layout e').bytes (Header.make e' .Interrupt (BitVec.ofNat 32 0) seq.val) ++ [])
      (.ok (.interrupt seq)) :=
    recv_yields (Nat.zero_le _) (Yields.pure _)
  rw [List.append_nil, ← bytes_make e e'] at h
  exact h

theorem recv_message {e e' : Endian} {tmpLen : Nat} {m : Message} {seq : Sequence}
    {bytes : List UInt8} (h : m.send e = .ok (seq, bytes))
    (hlen : bytes.length ≤ (Header.layout e).size + MAX_SZ) (htmp : MAX_SZ ≤ tmpLen) :
    Yields (recv e' tmpLen) bytes (.ok (m.received e e' seq)) := by
  cases m with
  | call c drawn => exact recv_call h hlen htmp
  | interrupt seq' =>
      obtain ⟨rfl, rfl⟩ := Prod.mk.inj (Except.ok.inj h)
      exact recv_interrupt e e' tmpLen seq'

/-- **Request stream round trip.** A client on a host `e` sends messages; each entry of `msgs` has the
message with the sequence number and the bytes of its successful send, at most `0x10000` of them after
the header. A server on a host `e'` whose connection delivers these bytes in any pieces receives
exactly these requests in order, and no byte is left over. -/
theorem requests_round_trip (e e' : Endian) (msgs : List (Message × Sequence × List UInt8))
    (hsent : ∀ m ∈ msgs, m.1.send e = .ok m.2)
    (hlen : ∀ m ∈ msgs, m.2.2.length ≤ (Header.layout e).size + 0x10000)
    (s : Script) (hs : s.Clean) (hbytes : s.bytes = msgs.flatMap fun m => m.2.2) :
    ∃ s', repeatRead (recv e' MAX_MSG_SIZE) msgs.length s =
        (msgs.map fun m => .ok (m.1.received e e' m.2.1), s') ∧ s'.bytes = [] := by
  have hone : ∀ m ∈ msgs, Yields (recv e' MAX_MSG_SIZE) m.2.2 (.ok (m.1.received e e' m.2.1)) :=
    fun m hm => recv_message (hsent m hm) (hlen m hm) (by decide)
  obtain ⟨s', hrun, -, hrest⟩ := repeatRead_yields msgs hone hs
    (hbytes.trans (List.append_nil _).symm)
  exact ⟨s', hrun, hrest⟩

/-- A write, an ioctl with its argument and an interrupt, cut inside the headers and inside the data. -/
theorem requests_round_trip_cut :
    ∃ s', repeatRead (recv .big MAX_MSG_SIZE) 3
        [.data 3 [0, 0], .wait,
          .data 0 [0, 0, 0, 19, 0, 0, 0, 0, 0, 0, 0, 1, 0, 0, 0, 0, 0, 0, 0, 16, 0, 0, 0, 3, 0, 0, 0, 0, 65],
          .wait, .wait,
          .data 66 [67, 5, 0, 0, 0, 0, 0, 0, 12, 0, 0, 0, 0, 0, 0, 0, 2, 0, 0, 84, 22, 6, 0, 0, 0, 0],
          .wait, .data 0 [0, 6, 7, 0, 0], .data 0 [0, 0, 0, 0, 0, 0, 0, 0, 0, 0, 0, 2]] =
        ([.ok (.write ⟨1, by decide⟩ ⟨Be.fromNative .big 16, FhFlags.fromCuse .big ⟨2⟩,
              Vector.replicate 4 ⟨0⟩⟩ [65, 66, 67]),
          .ok (.ioctl ⟨2, by decide⟩ ⟨Be.fromNative .big 0x5416, ⟨6⟩, Vector.replicate 3 ⟨0⟩⟩
            (.uInt (Be.fromNative .big 6))),
          .ok (.interrupt ⟨2, by decide⟩)], s') ∧ s'.bytes = [] :=
  requests_round_trip .little .big
    [(.call (.write ⟨16, ⟨2⟩⟩ [65, 66, 67]) 1, ⟨1, by decide⟩,
        [3, 0, 0, 0, 0, 0, 0, 19, 0, 0, 0, 0, 0, 0, 0, 1] ++
          [0, 0, 0, 0, 0, 0, 0, 16, 0, 0, 0, 3, 0, 0, 0, 0, 65, 66, 67]),
      (.call (.ioctl ⟨0x5416⟩ (.uInt (Be.fromNative .little 6))) 2, ⟨2, by decide⟩,
        [5, 0, 0, 0, 0, 0, 0, 12, 0, 0, 0, 0, 0, 0, 0, 2] ++ [0, 0, 84, 22, 6, 0, 0, 0, 0, 0, 0, 6]),
      (.interrupt ⟨2, by decide⟩, ⟨2, by decide⟩, [7, 0, 0, 0, 0, 0, 0, 0, 0, 0, 0, 0, 0, 0, 0, 2])]
    (by decide) (by decide) _ (by decide) (by decide)

end Request

end Cuse2Net.Proto

import Cuse2Net.Proto.Ioctl
import Cuse2Net.Proto.Io

/-!
# Responses

Model of `proto/response.rs`. A response is a header, which carries an error number, and a payload
that depends on the response code. A header with an error number ends the message for the receiver:
the payload is not looked at. Wake-ups of poll handles belong to no request and have sequence number
zero; an empty set of handles sends nothing.

A buffer of `Vec::with_capacity(n)` has room for exactly `n` elements, and the structure `Ioctl`,
which has no `repr(C)`, lies in memory in the order of its fields.

The main result is `responses_round_trip`: a receiver that is called again and again on the bytes of a
sequence of responses returns these responses and leaves no byte over, for every combination of byte
orders and however the bytes arrive.
-/

set_option autoImplicit false

namespace Cuse2Net.Proto

open Cuse2Net.Lib
open Cuse2Net.Lib.Bytes
open Cuse2Net.IoctlFfi

/-! ## Messages -/

/-- `ResponseCode`. -/
inductive ResponseCode where
  | Result
  | Write
  | Read
  | Ioctl
  | Poll
  | PollWakeup
  | PollWakeup1
  deriving DecidableEq, Repr

namespace ResponseCode

/-- `as_u8`. -/
def asU8 : ResponseCode → BitVec 8
  | Result => 1
  | Write => 2
  | Read => 3
  | Ioctl => 4
  | Poll => 5
  | PollWakeup => 6
  | PollWakeup1 => 7

/-- `try_from_u8`. -/
def tryFromU8 (v : BitVec 8) : Option ResponseCode :=
  match v.toNat with
  | 1 => some Result
  | 2 => some Write
  | 3 => some Read
  | 4 => some Ioctl
  | 5 => some Poll
  | 6 => some PollWakeup
  | 7 => some PollWakeup1
  | _ => none

theorem tryFromU8_asU8 (op : ResponseCode) : tryFromU8 op.asU8 = some op := by
  cases op <;> rfl

end ResponseCode

/-- `Response`: a received response. -/
inductive Response where
  | ok
  | err (errno : Errno)
  | write (size : BitVec 32)
  | read (data : List UInt8)
  | ioctl (retval : BitVec 64) (arg : Arg)
  | poll (ev : BitVec 32)
  | pollWakeup (khs : List (BitVec 64))
  | pollWakeup1 (kh : BitVec 64)
  deriving DecidableEq

namespace Response

/-- `Header`. -/
structure Header where
  op : Be8
  pad : Vector (BitVec 8) 1
  err : Be16
  len : Be32
  seq : Be64
  deriving DecidableEq

/-- Memory layout of `Header`. -/
def Header.layout (e : Endian) : Layout Header :=
  ((be8 e).prod (((u8 e).array 1).prod ((be16 e).prod ((be32 e).prod (be64 e))))).iso
    (fun h => (h.op, h.pad, h.err, h.len, h.seq))
    (fun ⟨op, pad, err, len, seq⟩ => ⟨op, pad, err, len, seq⟩) (fun _ => rfl) (fun _ => rfl)

/-- `Header { op, err, len, seq, ..Default::default() }`. -/
def Header.make (e : Endian) (op : ResponseCode) (err : BitVec 16) (len : BitVec 32)
    (seq : BitVec 64) : Header :=
  ⟨Be.fromNative e op.asU8, Vector.replicate 1 0, Be.fromNative e err, Be.fromNative e len,
    Be.fromNative e seq⟩

/-- The sequence number of a header; zero stands for none. -/
def Header.sequence (e : Endian) (h : Header) : Option Sequence :=
  if hz : h.seq.asNative e = 0 then none else some ⟨h.seq.asNative e, hz⟩

/-- `Ioctl`. -/
structure Ioctl where
  retval : Be64
  argType : Be8
  pad : Vector (BitVec 8) 7
  deriving DecidableEq

/-- Memory layout of `Ioctl`. -/
def Ioctl.layout (e : Endian) : Layout Ioctl :=
  ((be64 e).prod ((be8 e).prod ((u8 e).array 7))).iso
    (fun i => (i.retval, i.argType, i.pad)) (fun ⟨retval, tp, pad⟩ => ⟨retval, tp, pad⟩)
    (fun _ => rfl) (fun _ => rfl)

/-! ## Sending -/

/-- Header and payload of a response without error, in one vectored send. -/
def sendMessage (e : Endian) (op : ResponseCode) (seq : BitVec 64) (payload : List (List UInt8)) :
    List UInt8 :=
  sendVectoredAll ((Header.layout e).bytes
    (Header.make e op 0 (BitVec.ofNat 32 payload.flatten.length) seq) :: payload)

/-- `send_poll`. -/
def sendPoll (e : Endian) (seq : Sequence) (ev : BitVec 32) : List UInt8 :=
  sendMessage e .Poll seq.val [(be32 e).bytes (Be.fromNative e ev)]

/-- `send_poll_wakeup_1`. -/
def sendPollWakeup1 (e : Endian) (kh : BitVec 64) : List UInt8 :=
  sendMessage e .PollWakeup1 0 [(be64 e).bytes (Be.fromNative e kh)]

/-- `send_poll_wakeup_n`. -/
def sendPollWakeupN (e : Endian) (khs : List (BitVec 64)) : List UInt8 :=
  sendMessage e .PollWakeup 0 [(be64 e).bytesAll (khs.map (Be.fromNative e))]

/-- `send_poll_wakeup`. -/
def sendPollWakeup (e : Endian) : List (BitVec 64) → List UInt8
  | [] => []
  | [kh] => sendPollWakeup1 e kh
  | khs => sendPollWakeupN e khs

/-- `send_read`. -/
def sendRead (e : Endian) (seq : Sequence) (data : List UInt8) : List UInt8 :=
  sendMessage e .Read seq.val [data]

/-- `send_ioctl`. -/
def sendIoctl (e : Endian) (seq : Sequence) (rc : BitVec 64) (arg : Arg) : List UInt8 :=
  sendMessage e .Ioctl seq.val
    [(Ioctl.layout e).bytes ⟨Be.fromNative e rc, arg.code e, Vector.replicate 7 0⟩,
      arg.asReprBytes e]

/-- `send_write`. -/
def sendWrite (e : Endian) (seq : Sequence) (size : BitVec 32) : List UInt8 :=
  sendMessage e .Write seq.val [(be32 e).bytes (Be.fromNative e size)]

/-- `send_err`. -/
def sendErr (e : Endian) (seq : Sequence) (err : Errno) : List UInt8 :=
  sendAll ((Header.layout e).bytes (Header.make e .Result (BitVec.ofNat 16 err.code) 0 seq.val))

/-- `send_ok`. -/
def sendOk (e : Endian) (seq : Sequence) : List UInt8 :=
  sendAll ((Header.layout e).bytes (Header.make e .Result 0 0 seq.val))

/-! ## Receiving -/

/-- `MAX_SZ`. -/
def MAX_SZ : Nat := 0x10000

/-- `Alloc::<be64>::alloc_bytes`: the number of elements. -/
def allocBytes (sz : Nat) : Result Nat :=
  if sz % 8 = 0 then .ok (sz / 8) else Err (.unalignedLength sz 8)

theorem allocBytes_ok {sz n : Nat} (h : allocBytes sz = .ok n) : n * 8 = sz := by
  unfold allocBytes at h
  split at h
  · rename_i hmod
    cases h
    exact Nat.div_mul_cancel (Nat.dvd_of_mod_eq_zero hmod)
  · cases h

theorem allocBytes_error {sz : Nat} {f : Failure} (h : allocBytes sz = .error f) :
    f = .err (.unalignedLength sz 8) := by
  unfold allocBytes at h
  split at h
  · cases h
  · cases h
    rfl

/-- The part of `recv_internal` that depends on the response code. -/
def recvBody (e : Endian) (len : Nat) : ResponseCode → Reader Failure Response
  | .Result => if len = 0 then pure .ok else Reader.fail (.err .badResponse)
  | .Write => do
      let (size, _) ← recvTo (be32 e) (some len)
      pure (.write (size.asNative e))
  | .Read => do
      let (data, _) ← recvToBytes (List.replicate len 0) (some len)
      pure (.read data)
  | .Ioctl => do
      let (info, rxLen) ← recvTo (Ioctl.layout e) (some len)
      let l ← Reader.lift (unwrapLen rxLen)
      let (data, _) ← recvToBytes (List.replicate l 0) rxLen
      let arg ← Reader.lift (Arg.fromRaw e (info.argType.asNative e) data)
      pure (.ioctl (info.retval.asNative e) arg)
  | .Poll => do
      let (revent, _) ← recvTo (be32 e) (some len)
      pure (.poll (revent.asNative e))
  | .PollWakeup1 => do
      let (kh, _) ← recvTo (be64 e) (some len)
      pure (.pollWakeup1 (kh.asNative e))
  | .PollWakeup => do
      let n ← Reader.lift (allocBytes len)
      let (khs, _) ← recvToBytes (List.replicate (n * (be64 e).size) 0) (some len)
      pure (.pollWakeup (((be64 e).parseAll n khs).map (Be.asNative e)))

/-- `recv_internal`, with the timeout for the beginning of the message. -/
def recvInternal (e : Endian) (timeout : Option Nat) :
    Reader Failure (Option Sequence × Response) := do
  let (hdr, _) ← recvObject (Header.layout e) none timeout (some TIMEOUT_READ)
  let len := (hdr.len.asNative e).toNat
  if len > MAX_SZ then Reader.fail (.err (.payloadTooLarge len))
  else do
    let op ← Reader.lift <|
      match ResponseCode.tryFromU8 (hdr.op.asNative e) with
      | some op => .ok op
      | none => Err (.badOp (hdr.op.asNative e))
    let seq := hdr.sequence e
    -- the payload of an error, if there is one, stays in the stream
    if hdr.err.asNative e ≠ 0 then
      Reader.fail (.err (.remoteError seq (hdr.err.asNative e).toNat))
    else do
      let res ← recvBody e len op
      pure (seq, res)

/-- `recv`. -/
def recv (e : Endian) : Reader Failure (Option Sequence × Response) := recvInternal e none

/-! ## One message -/

theorem sequence_make (e : Endian) (op : ResponseCode) (err : BitVec 16) (len : BitVec 32)
    (seq : Sequence) : (Header.make e op err len seq.val).sequence e = some seq := by
  have hseq : (Header.make e op err len seq.val).seq.asNative e = seq.val :=
    Be.asNative_fromNative byteWidth_64 e seq.val
  unfold Header.sequence
  rw [dif_neg (by rw [hseq]; exact seq.ne_zero)]
  simp only [hseq]

theorem sequence_make_zero (e : Endian) (op : ResponseCode) (err : BitVec 16) (len : BitVec 32) :
    (Header.make e op err len 0).sequence e = none :=
  dif_pos (Be.asNative_fromNative byteWidth_64 e 0)

/-- The memory image of a header does not depend on the host. -/
theorem bytes_make (e e' : Endian) (op : ResponseCode) (err : BitVec 16) (len : BitVec 32)
    (seq : BitVec 64) :
    (Header.layout e).bytes (Header.make e op err len seq) =
      (Header.layout e').bytes (Header.make e' op err len seq) := by
  simp only [Header.layout, Header.make, Layout.iso, Layout.prod, be8, be16, be32, be64,
    Be.bytes_fromNative, bytes_u8_array e e']

section Header

variable {e : Endian} {op : ResponseCode} {err : BitVec 16} {len : Nat} {v : BitVec 64}
  {seq : Option Sequence}

/-- The receiver after a header of good length: an error number ends the message, and otherwise the
body follows. -/
theorem recvInternal_header_yields (timeout : Option Nat) {hdr : Header} {body : List UInt8}
    {r : Except Failure (Option Sequence × Response)} (hlen : (hdr.len.asNative e).toNat ≤ MAX_SZ)
    (hop : ResponseCode.tryFromU8 (hdr.op.asNative e) = some op)
    (hrest : Yields (if hdr.err.asNative e ≠ 0 then
        Reader.fail (.err (.remoteError (hdr.sequence e) (hdr.err.asNative e).toNat))
      else do
        let res ← recvBody e (hdr.len.asNative e).toNat op
        pure (hdr.sequence e, res)) body r) :
    Yields (recvInternal e timeout) ((Header.layout e).bytes hdr ++ body) r := by
  unfold recvInternal
  have hhdr : Yields (recvObject (Header.layout e) none timeout (some TIMEOUT_READ))
      ((Header.layout e).bytes hdr) (.ok (hdr, none)) :=
    recvObject_yields _ _ timeout TIMEOUT_READ nofun
  refine hhdr.bind ?_
  simp only [if_neg (Nat.not_lt.2 hlen)]
  refine Yields.bind_lift (a := op) ?_ hrest
  rw [hop]

/-- The receiver after a header of `Header.make`. -/
theorem recvInternal_make_yields (timeout : Option Nat) {body : List UInt8}
    {r : Except Failure (Option Sequence × Response)} (hlen : len ≤ MAX_SZ)
    (hseq : (Header.make e op err (BitVec.ofNat 32 len) v).sequence e = seq)
    (hrest : Yields (if err ≠ 0 then Reader.fail (.err (.remoteError seq err.toNat))
      else do
        let res ← recvBody e len op
        pure (seq, res)) body r) :
    Yields (recvInternal e timeout)
      ((Header.layout e).bytes (Header.make e op err (BitVec.ofNat 32 len) v) ++ body) r := by
  have hnat : ((Header.make e op err (BitVec.ofNat 32 len) v).len.asNative e).toNat = len := by
    show ((Be.fromNative e (BitVec.ofNat 32 len)).asNative e).toNat = len
    rw [Be.asNative_fromNative byteWidth_32, BitVec.toNat_ofNat]
    exact Nat.mod_eq_of_lt (Nat.lt_of_le_of_lt hlen (by decide))
  have hop : ResponseCode.tryFromU8
      ((Header.make e op err (BitVec.ofNat 32 len) v).op.asNative e) = some op := by
    show ResponseCode.tryFromU8 ((Be.fromNative e op.asU8).asNative e) = some op
    rw [Be.asNative_fromNative byteWidth_8, ResponseCode.tryFromU8_asU8]
  have herr : (Header.make e op err (BitVec.ofNat 32 len) v).err.asNative e = err :=
    Be.asNative_fromNative byteWidth_16 e err
  refine recvInternal_header_yields timeout (Nat.le_trans (Nat.le_of_eq hnat) hlen) hop ?_
  rw [hnat, herr, hseq]
  exact hrest

theorem recv_header_yields {body : List UInt8}
    {r : Except Failure (Option Sequence × Response)} (hlen : len ≤ MAX_SZ)
    (hseq : (Header.make e op err (BitVec.ofNat 32 len) v).sequence e = seq)
    (hrest : Yields (if err ≠ 0 then Reader.fail (.err (.remoteError seq err.toNat))
      else do
        let res ← recvBody e len op
        pure (seq, res)) body r) :
    Yields (recv e)
      ((Header.layout e).bytes (Header.make e op err (BitVec.ofNat 32 len) v) ++ body) r :=
  recvInternal_make_yields none hlen hseq hrest

theorem recv_yields {body : List UInt8} {res : Response} (hlen : len ≤ MAX_SZ)
    (hseq : (Header.make e op 0 (BitVec.ofNat 32 len) v).sequence e = seq)
    (hbody : Yields (recvBody e len op) body (.ok res)) :
    Yields (recv e) ((Header.layout e).bytes (Header.make e op 0 (BitVec.ofNat 32 len) v) ++ body)
      (.ok (seq, res)) := by
  refine recv_header_yields hlen hseq ?_
  rw [if_neg (fun h => h rfl)]
  exact hbody.bind_nil (Yields.pure _)

end Header

/-- A message with a small payload is accepted. -/
theorem sendMessage_le (e : Endian) (op : ResponseCode) (seq : BitVec 64)
    {payload : List (List UInt8)} (h : payload.flatten.length ≤ MAX_SZ) :
    (sendMessage e op seq payload).length ≤ (Header.layout e).size + MAX_SZ := by
  rw [sendMessage, sendVectoredAll, List.flatten_cons, List.length_append, Layout.length_bytes]
  exact Nat.add_le_add_left h _

theorem word_le {w : Nat} (hw : 8 ∣ w) (e : Endian) (x : Be w) (h : w / 8 ≤ MAX_SZ) :
    [(Be.layout e w hw).bytes x].flatten.length ≤ MAX_SZ := by
  rw [List.flatten_cons, List.flatten_nil, List.append_nil, Layout.length_bytes]
  exact h

/-- A message of `sendMessage` is received when its payload is. -/
theorem recv_sendMessage {e e' : Endian} {op : ResponseCode} {v : BitVec 64}
    {payload : List (List UInt8)} {seq : Option Sequence} {res : Response}
    (hlen : (sendMessage e op v payload).length ≤ (Header.layout e).size + MAX_SZ)
    (hseq : ∀ len, (Header.make e' op 0 len v).sequence e' = seq)
    (hbody : Yields (recvBody e' payload.flatten.length op) payload.flatten (.ok res)) :
    Yields (recv e') (sendMessage e op v payload) (.ok (seq, res)) := by
  unfold sendMessage sendVectoredAll at hlen ⊢
  rw [List.flatten_cons, List.length_append, (Header.layout e).length_bytes] at hlen
  rw [List.flatten_cons, bytes_make e e']
  exact recv_yields (by omega) (hseq _) hbody

/-- A payload of one integer is received as the integer with the same native value. -/
theorem recv_word {w : Nat} (hw : 8 ∣ w) {e e' : Endian} {op : ResponseCode} {v : BitVec 64}
    {x : BitVec w} {seq : Option Sequence} (res : BitVec w → Response)
    (hlen : (sendMessage e op v [(Be.layout e w hw).bytes (Be.fromNative e x)]).length ≤
      (Header.layout e).size + MAX_SZ)
    (hseq : ∀ len, (Header.make e' op 0 len v).sequence e' = seq)
    (hbody : ∀ len, recvBody e' len op =
      (recvTo (Be.layout e' w hw) (some len) >>= fun r => pure (res (r.1.asNative e')))) :
    Yields (recv e') (sendMessage e op v [(Be.layout e w hw).bytes (Be.fromNative e x)])
      (.ok (seq, res x)) := by
  refine recv_sendMessage hlen hseq ?_
  have himage : (Be.layout e w hw).bytes (Be.fromNative e x) =
      (Be.layout e' w hw).bytes (Be.fromNative e' x) :=
    (Be.bytes_fromNative hw e x).trans (Be.bytes_fromNative hw e' x).symm
  rw [List.flatten_cons, List.flatten_nil, List.append_nil, himage, Layout.length_bytes, hbody]
  refine (recvTo_all_yields (Be.layout e' w hw) (Be.fromNative e' x)).bind_nil ?_
  show Yields (pure (res ((Be.fromNative e' x).asNative e'))) _ _
  rw [Be.asNative_fromNative hw]
  exact Yields.pure _

theorem recv_read {e e' : Endian} {seq : Sequence} {data : List UInt8}
    (hlen : (sendRead e seq data).length ≤ (Header.layout e).size + MAX_SZ) :
    Yields (recv e') (sendRead e seq data) (.ok (some seq, .read data)) := by
  refine recv_sendMessage hlen (fun len => sequence_make e' _ 0 len seq) ?_
  rw [List.flatten_cons, List.flatten_nil, List.append_nil]
  exact (recvToBytes_all_yields data).bind_nil (Yields.pure _)

theorem recv_ioctl {e e' : Endian} {seq : Sequence} {rc : BitVec 64} {arg : Arg}
    (hlen : (sendIoctl e seq rc arg).length ≤ (Header.layout e).size + MAX_SZ) :
    Yields (recv e') (sendIoctl e seq rc arg) (.ok (some seq, .ioctl rc (arg.rehost e e'))) := by
  refine recv_sendMessage hlen (fun len => sequence_make e' _ 0 len seq) ?_
  have himage : (Ioctl.layout e).bytes ⟨Be.fromNative e rc, arg.code e, Vector.replicate 7 0⟩ =
      (Ioctl.layout e').bytes ⟨Be.fromNative e' rc, arg.code e', Vector.replicate 7 0⟩ := by
    simp only [Ioctl.layout, Layout.iso, Layout.prod, be64, be8, Be.bytes_fromNative,
      Arg.code_eq, bytes_u8_array e e']
  rw [List.flatten_cons, List.flatten_cons, List.flatten_nil, List.append_nil, himage,
    List.length_append, Layout.length_bytes]
  refine (recvTo_head_yields (Ioctl.layout e') _ (arg.asReprBytes e).length).bind ?_
  refine Yields.bind_lift (a := (arg.asReprBytes e).length) rfl ?_
  refine (recvToBytes_all_yields (arg.asReprBytes e)).bind_nil ?_
  refine Yields.bind_lift (a := arg.rehost e e') ?_ ?_
  · show Arg.fromRaw e' ((arg.code e').asNative e') (arg.asReprBytes e) = _
    rw [Arg.code_eq, Be.asNative_fromNative byteWidth_8, ← Arg.asReprBytes_rehost e e',
      ← Arg.codeNumber_rehost e e', Arg.fromRaw_asReprBytes]
  · show Yields (pure (Response.ioctl ((Be.fromNative e' rc).asNative e') (arg.rehost e e'))) _ _
    rw [Be.asNative_fromNative byteWidth_64]
    exact Yields.pure _

theorem recv_pollWakeupN {e e' : Endian} {khs : List (BitVec 64)}
    (hlen : (sendPollWakeupN e khs).length ≤ (Header.layout e).size + MAX_SZ) :
    Yields (recv e') (sendPollWakeupN e khs) (.ok (none, .pollWakeup khs)) := by
  refine recv_sendMessage hlen (fun len => sequence_make_zero e' _ 0 len) ?_
  have himage : (be64 e).bytesAll (khs.map (Be.fromNative e)) =
      (be64 e').bytesAll (khs.map (Be.fromNative e')) := by
    simp only [Layout.bytesAll, List.flatMap_map, be64, Be.bytes_fromNative]
  have hbytes : ((be64 e').bytesAll (khs.map (Be.fromNative e'))).length = khs.length * 8 := by
    rw [Layout.length_bytesAll, List.length_map]
    rfl
  rw [List.flatten_cons, List.flatten_nil, List.append_nil, himage]
  refine Yields.bind_lift (a := khs.length) ?_ ?_
  · -- a whole number of handles
    rw [allocBytes, hbytes, Nat.mul_mod_left, if_pos rfl, Nat.mul_div_cancel _ (by decide)]
  · have hsize : khs.length * (be64 e').size =
        ((be64 e').bytesAll (khs.map (Be.fromNative e'))).length := hbytes.symm
    rw [hsize]
    refine (recvToBytes_all_yields _).bind_nil ?_
    have hparse : ((be64 e').parseAll khs.length ((be64 e').bytesAll
        (khs.map (Be.fromNative e')))).map (Be.asNative e') = khs := by
      have h := (be64 e').parseAll_bytesAll (khs.map (Be.fromNative e'))
      rw [List.length_map] at h
      rw [h, List.map_map]
      refine (List.map_congr_left fun kh _ => ?_).trans (List.map_id khs)
      exact Be.asNative_fromNative byteWidth_64 e' kh
    show Yields (pure (Response.pollWakeup _)) _ _
    rw [hparse]
    exact Yields.pure _

theorem recvInternal_ok (timeout : Option Nat) (e e' : Endian) (seq : Sequence) :
    Yields (recvInternal e' timeout) (sendOk e seq) (.ok (some seq, .ok)) := by
  have h : Yields (recvInternal e' timeout)
      ((Header.layout e').bytes (Header.make e' .Result 0 (BitVec.ofNat 32 0) seq.val) ++ [])
      (.ok (some seq, .ok)) := by
    refine recvInternal_make_yields timeout (Nat.zero_le _) (sequence_make e' _ 0 _ seq) ?_
    rw [if_neg (fun h => h rfl)]
    exact Yields.pure _
  rw [List.append_nil, ← bytes_make e e'] at h
  exact h

theorem recv_ok (e e' : Endian) (seq : Sequence) :
    Yields (recv e') (sendOk e seq) (.ok (some seq, .ok)) :=
  recvInternal_ok none e e' seq

theorem recvInternal_err (timeout : Option Nat) (e e' : Endian) (seq : Sequence) {err : Errno}
    (herr : err.code ≠ 0) :
    Yields (recvInternal e' timeout) (sendErr e seq err)
      (Err (.remoteError (some seq) err.code)) := by
  have hnat : (BitVec.ofNat 16 err.code).toNat = err.code := by
    rw [BitVec.toNat_ofNat]
    exact Nat.mod_eq_of_lt err.code_lt
  -- an error number fits its field, so it is still nonzero there
  have hne : BitVec.ofNat 16 err.code ≠ 0 := by
    intro hz
    rw [hz] at hnat
    exact herr hnat.symm
  have h : Yields (recvInternal e' timeout)
      ((Header.layout e').bytes
        (Header.make e' .Result (BitVec.ofNat 16 err.code) (BitVec.ofNat 32 0) seq.val) ++ [])
      (Err (.remoteError (some seq) err.code)) := by
    refine recvInternal_make_yields timeout (Nat.zero_le _) (sequence_make e' _ _ _ seq) ?_
    rw [if_pos hne, hnat]
    exact Yields.fail _
  rw [List.append_nil, ← bytes_make e e'] at h
  exact h

theorem recv_err (e e' : Endian) (seq : Sequence) {err : Errno} (herr : err.code ≠ 0) :
    Yields (recv e') (sendErr e seq err)
      (Err (.remoteError (some seq) err.code)) :=
  recvInternal_err none e e' seq herr

/-! ## Sequences of messages -/

/-- The calls of the server's senders. -/
inductive Reply where
  | ok (seq : Sequence)
  | err (seq : Sequence) (errno : Errno)
  | write (seq : Sequence) (size : BitVec 32)
  | read (seq : Sequence) (data : List UInt8)
  | ioctl (seq : Sequence) (rc : BitVec 64) (arg : Arg)
  | poll (seq : Sequence) (ev : BitVec 32)
  | pollWakeup (khs : List (BitVec 64))
  deriving DecidableEq

/-- The bytes of a reply. -/
def Reply.send (e : Endian) : Reply → List UInt8
  | .ok seq => sendOk e seq
  | .err seq errno => sendErr e seq errno
  | .write seq size => sendWrite e seq size
  | .read seq data => sendRead e seq data
  | .ioctl seq rc arg => sendIoctl e seq rc arg
  | .poll seq ev => sendPoll e seq ev
  | .pollWakeup khs => sendPollWakeup e khs

/-- What a host `e'` should receive for a reply made on a host `e`. -/
def Reply.received (e e' : Endian) : Reply → Option (Except Failure (Option Sequence × Response))
  | .ok seq => some (.ok (some seq, .ok))
  | .err seq errno => some (Err (.remoteError (some seq) errno.code))
  | .write seq size => some (.ok (some seq, .write size))
  | .read seq data => some (.ok (some seq, .read data))
  | .ioctl seq rc arg => some (.ok (some seq, .ioctl rc (arg.rehost e e')))
  | .poll seq ev => some (.ok (some seq, .poll ev))
  | .pollWakeup [] => none
  | .pollWakeup [kh] => some (.ok (none, .pollWakeup1 kh))
  | .pollWakeup khs => some (.ok (none, .pollWakeup khs))

theorem send_eq_nil {e e' : Endian} {m : Reply} (h : m.received e e' = none) : m.send e = [] := by
  cases m with
  | pollWakeup khs =>
      match khs with
      | [] => rfl
      | [_] => cases h
      | _ :: _ :: _ => cases h
  | ok | err | write | read | ioctl | poll => cases h

/-- **A reply is received as the same reply.** -/
theorem recv_reply {e e' : Endian} {m : Reply} {r : Except Failure (Option Sequence × Response)}
    (herr : ∀ seq errno, m = .err seq errno → errno.code ≠ 0)
    (hlen : (m.send e).length ≤ (Header.layout e).size + MAX_SZ)
    (h : m.received e e' = some r) : Yields (recv e') (m.send e) r := by
  cases m with
  | ok seq =>
      obtain rfl := Option.some.inj h
      exact recv_ok e e' seq
  | err seq errno =>
      obtain rfl := Option.some.inj h
      exact recv_err e e' seq (herr seq errno rfl)
  | write seq size =>
      obtain rfl := Option.some.inj h
      exact recv_word byteWidth_32 .write hlen (fun len => sequence_make e' _ 0 len seq) fun _ => rfl
  | read seq data =>
      obtain rfl := Option.some.inj h
      exact recv_read hlen
  | ioctl seq rc arg =>
      obtain rfl := Option.some.inj h
      exact recv_ioctl hlen
  | poll seq ev =>
      obtain rfl := Option.some.inj h
      exact recv_word byteWidth_32 .poll hlen (fun len => sequence_make e' _ 0 len seq) fun _ => rfl
  | pollWakeup khs =>
      match khs with
      | [] => cases h
      | [kh] =>
          obtain rfl := Option.some.inj h
          exact recv_word byteWidth_64 .pollWakeup1 hlen (fun len => sequence_make_zero e' _ 0 len)
            fun _ => rfl
      | kh :: kh' :: khs =>
          obtain rfl := Option.some.inj h
          exact recv_pollWakeupN hlen

/-- **Response stream round trip.** A server on a host `e` sends replies, with nonzero error numbers and
at most `0x10000` bytes after the header. A client on a host `e'` whose connection delivers the bytes
in any pieces receives exactly the corresponding results in order, and no byte is left over. -/
theorem responses_round_trip (e e' : Endian) (msgs : List Reply)
    (herr : ∀ seq errno, .err seq errno ∈ msgs → errno.code ≠ 0)
    (hlen : ∀ m ∈ msgs, (m.send e).length ≤ (Header.layout e).size + 0x10000)
    (s : Script) (hs : s.Clean) (hbytes : s.bytes = msgs.flatMap (Reply.send e)) :
    ∃ s', repeatRead (recv e') (msgs.filterMap (Reply.received e e')).length s =
        (msgs.filterMap (Reply.received e e'), s') ∧ s'.bytes = [] := by
  have hone : ∀ m ∈ msgs, ∀ r, m.received e e' = some r → Yields (recv e') (m.send e) r := by
    intro m hm r hr
    refine recv_reply ?_ (hlen m hm) hr
    rintro seq errno rfl
    exact herr seq errno hm
  obtain ⟨s', hrun, -, hrest⟩ := repeatRead_filterMap_yields msgs (fun m _ => send_eq_nil) hone hs
    (hbytes.trans (List.append_nil _).symm)
  exact ⟨s', hrun, hrest⟩

/-- An error, no wake-up and one wake-up, cut inside the payload. -/
theorem responses_round_trip_cut :
    ∃ s', repeatRead (recv .big) 2
        [.data 1 [0, 0, 4, 0, 0, 0, 0, 0, 0, 0, 0, 0, 0], .wait,
          .data 0 [9, 7, 0, 0, 0, 0, 0, 0, 8, 0, 0, 0, 0, 0, 0, 0, 0, 0, 0, 0], .wait,
          .data 0 [0, 0, 0, 5]] =
        ([Err (.remoteError (some ⟨9, by decide⟩) 4), .ok (none, .pollWakeup1 5)], s') ∧
      s'.bytes = [] :=
  responses_round_trip .little .big [.err ⟨9, by decide⟩ .EINTR, .pollWakeup [], .pollWakeup [5]]
    (by
      intro seq errno h
      simp only [List.mem_cons, List.not_mem_nil, reduceCtorEq, or_false, Reply.err.injEq] at h
      obtain ⟨-, rfl⟩ := h
      decide)
    (by decide) _ (by decide) (by decide)

end Response

end Cuse2Net.Proto

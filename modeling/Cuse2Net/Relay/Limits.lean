import Cuse2Net.Realdev.PollNotify
import Cuse2Net.Virtdev.Process

/-!
# Message sizes on both sides

Four limits are set in different places: the size of the client's buffer for requests of the kernel
(`mod-cuse/src/io.rs`), the largest write that the client announces to the kernel in `cuse_init_out`
(`cuse2net-cuse.rs`), and the largest message that `Request::recv` and `Response::recv` accept. This
module compares what one side may send with what the other side takes.

`message_limits` says which writes and which wake-ups are refused as too large. The announced size of
a write is almost twice the limit of the server, and nothing bounds the number of handles in one
wake-up.
-/

set_option autoImplicit false

namespace Cuse2Net.Relay

open Cuse2Net.Lib
open Cuse2Net.Lib.Bytes
open Cuse2Net.Proto
open Cuse2Net.Realdev
open Cuse2Net.Virtdev (maxWrite)

/-! ## Messages that are too large -/

/-- A message is refused because of its length field. -/
def Refused {α : Type} (r : Result α) : Prop := ∃ len, r = Err (.payloadTooLarge len)

theorem not_refused_ok {α : Type} (a : α) : ¬Refused (.ok a : Result α) := by
  rintro ⟨len, h⟩
  cases h

/-- A request with a length field over the limit is refused after its header. -/
theorem request_refused {e : Endian} (tmpLen : Nat) {hdr : Request.Header}
    (hlen : Request.MAX_SZ < (hdr.len.asNative e).toNat) :
    Yields (Request.recv e tmpLen) ((Request.Header.layout e).bytes hdr)
      (Err (.payloadTooLarge (hdr.len.asNative e).toNat)) := by
  unfold Request.recv
  have hhdr : Yields (recvObject (Request.Header.layout e) none none (some TIMEOUT_READ))
      ((Request.Header.layout e).bytes hdr) (.ok (hdr, none)) :=
    recvObject_yields _ _ none TIMEOUT_READ nofun
  refine hhdr.bind_nil ?_
  simp only [gt_iff_lt, if_pos hlen]
  exact Yields.fail _

/-- The same for a response. -/
theorem response_refused {e : Endian} {hdr : Response.Header}
    (hlen : Response.MAX_SZ < (hdr.len.asNative e).toNat) :
    Yields (Response.recv e) ((Response.Header.layout e).bytes hdr)
      (Err (.payloadTooLarge (hdr.len.asNative e).toNat)) := by
  unfold Response.recv Response.recvInternal
  have hhdr : Yields (recvObject (Response.Header.layout e) none none (some TIMEOUT_READ))
      ((Response.Header.layout e).bytes hdr) (.ok (hdr, none)) :=
    recvObject_yields _ _ none TIMEOUT_READ nofun
  refine hhdr.bind_nil ?_
  simp only [gt_iff_lt, if_pos hlen]
  exact Yields.fail _

/-- What the receiver returns is determined by the beginning of the stream. -/
theorem result_of_yields {α : Type} {m : Reader Failure α} {bs more : List UInt8} {r : Result α}
    (h : Yields m bs r) {s : Script} (hs : s.Clean) (hbytes : s.bytes = bs ++ more) :
    (m s).1 = r := by
  obtain ⟨s', hrun, -, -⟩ := h s more hs hbytes
  rw [hrun]

/-! ## Writes -/

section Write

variable {e e' : Endian} {wrinfo : WriteParams} {data : List UInt8} {drawn : BitVec 64}
  {seq : Sequence} {bytes rest : List UInt8} {s : Script}

/-- A send with a sequence number that is not zero succeeds. -/
theorem sendWrite_ok (e : Endian) (wrinfo : WriteParams) (data : List UInt8) (seq : Sequence) :
    ∃ bytes, Request.sendWrite e wrinfo data seq.val = .ok (seq, bytes) := by
  simp only [Request.sendWrite, Request.sendMessage, Request.Header.withPayload,
    Request.sequence_make]
  exact ⟨_, rfl⟩

/-- A write that fits is accepted. -/
theorem write_accepted (hlen : 16 + data.length ≤ Request.MAX_SZ)
    (hsend : Request.sendWrite e wrinfo data drawn = .ok (seq, bytes)) (hs : s.Clean)
    (hbytes : s.bytes = bytes ++ rest) : ¬Refused (Request.recv e' MAX_MSG_SIZE s).1 := by
  have htotal : bytes.length ≤ (Request.Header.layout e).size + Request.MAX_SZ := by
    rw [Request.sendMessage_ok hsend, List.length_append, List.length_append, Layout.length_bytes,
      Layout.length_bytes]
    exact Nat.add_le_add_left hlen _
  have hrecv := @Request.recv_call e e' MAX_MSG_SIZE (.write wrinfo data) drawn seq bytes hsend htotal
    (by decide)
  rw [result_of_yields hrecv hs hbytes]
  exact not_refused_ok _

/-- A write that does not fit is refused, as long as its length fits the field. -/
theorem write_refused (hlen : Request.MAX_SZ < 16 + data.length)
    (hfield : 16 + data.length < 2 ^ 32)
    (hsend : Request.sendWrite e wrinfo data drawn = .ok (seq, bytes)) (hs : s.Clean)
    (hbytes : s.bytes = bytes ++ rest) : Refused (Request.recv e' MAX_MSG_SIZE s).1 := by
  have hnat : ((Request.Header.make e' .Write (BitVec.ofNat 32 (16 + data.length))
      seq.val).len.asNative e').toNat = 16 + data.length := by
    show ((Be.fromNative e' (BitVec.ofNat 32 (16 + data.length))).asNative e').toNat = _
    rw [Be.asNative_fromNative byteWidth_32, BitVec.toNat_ofNat, Nat.mod_eq_of_lt hfield]
  have hrefused := request_refused MAX_MSG_SIZE (by rw [hnat]; exact hlen)
  have hmessage := Request.sendMessage_ok hsend
  rw [Request.bytes_make e e'] at hmessage
  rw [hmessage, List.append_assoc] at hbytes
  rw [result_of_yields hrefused hs hbytes]
  exact ⟨_, rfl⟩

end Write

/-! ## Wake-ups -/

section Wakeup

variable {e e' : Endian} {khs : List (BitVec 64)} {rest : List UInt8} {s : Script}

/-- The length field of a wake-up. -/
def wakeupField (khs : List (BitVec 64)) : Nat := 8 * khs.length % 2 ^ 32

theorem length_handles (e : Endian) (khs : List (BitVec 64)) :
    ((be64 e).bytesAll (khs.map (Be.fromNative e))).length = 8 * khs.length := by
  rw [Layout.length_bytesAll, List.length_map, Nat.mul_comm]
  rfl

/-- A wake-up of several handles on the wire. -/
theorem sendPollWakeupN_eq (e e' : Endian) (khs : List (BitVec 64)) :
    Response.sendPollWakeupN e khs =
      (Response.Header.layout e').bytes
          (Response.Header.make e' .PollWakeup 0 (BitVec.ofNat 32 (8 * khs.length)) 0) ++
        (be64 e).bytesAll (khs.map (Be.fromNative e)) := by
  unfold Response.sendPollWakeupN Response.sendMessage sendVectoredAll
  rw [Response.bytes_make e e', List.flatten_cons, List.flatten_cons, List.flatten_nil,
    List.append_nil, length_handles]

theorem sendPollWakeup_eq {khs : List (BitVec 64)} (h : 2 ≤ khs.length) (e : Endian) :
    Response.sendPollWakeup e khs = Response.sendPollWakeupN e khs := by
  match khs with
  | [] => cases h
  | [kh] => simp at h
  | kh :: kh' :: khs => rfl

/-- A whole number of handles is received. -/
theorem recvBody_handles (e : Endian) (body : List UInt8) (h : body.length % 8 = 0) :
    ∃ res, Yields (Response.recvBody e body.length .PollWakeup) body (.ok res) := by
  refine ⟨.pollWakeup (((be64 e).parseAll (body.length / 8) body).map (Be.asNative e)),
    Yields.bind_lift (a := body.length / 8) (if_pos h) ?_⟩
  have hsize : body.length / 8 * (be64 e).size = body.length := by
    show body.length / 8 * 8 = body.length
    omega
  rw [hsize]
  exact (recvToBytes_all_yields body).bind_nil (Yields.pure _)

theorem wakeup_len (e' : Endian) (khs : List (BitVec 64)) :
    ((Response.Header.make e' .PollWakeup 0 (BitVec.ofNat 32 (8 * khs.length)) 0).len.asNative
      e').toNat = wakeupField khs := by
  show ((Be.fromNative e' (BitVec.ofNat 32 (8 * khs.length))).asNative e').toNat = _
  rw [Be.asNative_fromNative byteWidth_32, BitVec.toNat_ofNat]
  rfl

/-- Several handles with a length field in the limit. The field may have wrapped around; as many bytes
as it says are there in any case. -/
theorem wakeups_received (htwo : 2 ≤ khs.length) (hsmall : wakeupField khs ≤ Response.MAX_SZ)
    (hs : s.Clean) (hbytes : s.bytes = Response.sendPollWakeup e khs ++ rest) :
    ¬Refused (Response.recv e' s).1 := by
  have hle : wakeupField khs ≤ ((be64 e).bytesAll (khs.map (Be.fromNative e))).length := by
    rw [length_handles]
    exact Nat.mod_le _ _
  have hbody := List.length_take_of_le hle
  -- eight divides `2 ^ 32`, so the field counts whole handles
  obtain ⟨res, hres⟩ := recvBody_handles e'
    (((be64 e).bytesAll (khs.map (Be.fromNative e))).take (wakeupField khs))
    (by rw [hbody]; unfold wakeupField; omega)
  rw [hbody] at hres
  have hrecv := Response.recv_yields (v := 0) hsmall
    (Response.sequence_make_zero e' .PollWakeup 0 _) hres
  have hfield : BitVec.ofNat 32 (wakeupField khs) = BitVec.ofNat 32 (8 * khs.length) :=
    BitVec.eq_of_toNat_eq (by simp [wakeupField])
  rw [hfield] at hrecv
  rw [sendPollWakeup_eq htwo, sendPollWakeupN_eq e e', List.append_assoc,
    ← List.take_append_drop (wakeupField khs) ((be64 e).bytesAll _), List.append_assoc,
    ← List.append_assoc] at hbytes
  rw [result_of_yields hrecv hs hbytes]
  exact not_refused_ok _

/-- One handle has a message of its own. -/
theorem wakeup_received {kh : BitVec 64} (hs : s.Clean)
    (hbytes : s.bytes = Response.sendPollWakeup e [kh] ++ rest) :
    ¬Refused (Response.recv e' s).1 := by
  have hlen := Response.word_le byteWidth_64 e (Be.fromNative e kh) (by decide)
  have hrecv := @Response.recv_reply e e' (.pollWakeup [kh]) _ (fun _ _ h => by cases h)
    (Response.sendMessage_le e _ _ hlen) rfl
  rw [result_of_yields hrecv hs hbytes]
  exact not_refused_ok _

/-- A wake-up is refused exactly when its length field is over the limit. -/
theorem wakeup_refused_iff (hne : khs ≠ []) (hs : s.Clean)
    (hbytes : s.bytes = Response.sendPollWakeup e khs ++ rest) :
    Refused (Response.recv e' s).1 ↔ Response.MAX_SZ < wakeupField khs := by
  match khs with
  | [] => exact absurd rfl hne
  | [kh] => exact iff_of_false (wakeup_received hs hbytes) (show ¬0x10000 < 8 * 1 % 2 ^ 32 by decide)
  | kh :: kh' :: khs =>
      have htwo : 2 ≤ (kh :: kh' :: khs).length := by simp
      by_cases hlarge : Response.MAX_SZ < wakeupField (kh :: kh' :: khs)
      · rw [sendPollWakeup_eq htwo, sendPollWakeupN_eq e e', List.append_assoc] at hbytes
        have hrefused := response_refused (by rw [wakeup_len e']; exact hlarge)
        rw [result_of_yields hrefused hs hbytes]
        exact iff_of_true ⟨_, rfl⟩ hlarge
      · exact iff_of_false (wakeups_received htwo (Nat.le_of_not_lt hlarge) hs hbytes) hlarge

end Wakeup

/-! ## Both limits -/

/-- **Which messages are refused as too large.** A write of at most the size that the client has
announced to the kernel is refused by the server exactly when it has more than `0x10000 - 16` bytes.
A wake-up that `signal` sends is refused by the client exactly when its length field, eight times the
number of its handles, is over `0x10000`. -/
theorem message_limits (e e' : Endian) :
    (∀ wrinfo data drawn seq bytes rest s, data.length ≤ maxWrite.toNat →
      Request.sendWrite e wrinfo data drawn = .ok (seq, bytes) → Script.Clean s →
        s.bytes = bytes ++ rest →
          (Refused (Request.recv e' MAX_MSG_SIZE s).1 ↔ 0x10000 - 16 < data.length)) ∧
      ∀ (p : PollInner) ev khs rest s, khs.Perm (p.signalled ev) → khs ≠ [] → Script.Clean s →
        s.bytes = Response.sendPollWakeup e khs ++ rest →
          (Refused (Response.recv e' s).1 ↔ 0x10000 < 8 * khs.length % 2 ^ 32) := by
  refine ⟨?_, fun p ev khs rest s _ hne hs hbytes => wakeup_refused_iff hne hs hbytes⟩
  intro wrinfo data drawn seq bytes rest s hmax hsend hs hbytes
  have hbound : data.length ≤ 0x1F000 := hmax
  by_cases hlarge : Request.MAX_SZ < 16 + data.length
  · refine iff_of_true (write_refused hlarge (by omega) hsend hs hbytes) ?_
    have hlimit : 0x10000 < 16 + data.length := hlarge
    omega
  · refine iff_of_false (write_accepted (Nat.le_of_not_lt hlarge) hsend hs hbytes) ?_
    have hlimit : ¬0x10000 < 16 + data.length := hlarge
    omega

/-- A write of three bytes and a wake-up of the two handles that wait for input are not refused. -/
theorem message_limits_small :
    ¬Refused (Request.recv .big MAX_MSG_SIZE [.data 3 [0, 0, 0, 0, 0, 0, 19], .wait,
        .data 0 [0, 0, 0, 0, 0, 0, 1, 0, 0, 0, 0, 0, 0, 0, 16, 0, 0, 0, 3, 0, 0, 0, 0, 65, 66, 67]]).1 ∧
      ¬Refused (Response.recv .big [.data 6 [0, 0, 0, 0, 0, 0, 16], .wait,
        .data 0 [0, 0, 0, 0, 0, 0, 0, 0, 0, 0, 0, 0, 0, 0, 6, 0, 0, 0, 0, 0, 0, 0, 5]]).1 := by
  have hsend : Request.sendWrite .little ⟨16, ⟨2⟩⟩ [65, 66, 67] 1 = .ok (⟨1, by decide⟩,
      [3, 0, 0, 0, 0, 0, 0, 19, 0, 0, 0, 0, 0, 0, 0, 1] ++
        [0, 0, 0, 0, 0, 0, 0, 16, 0, 0, 0, 3, 0, 0, 0, 0, 65, 66, 67]) := by decide
  let p : PollInner := ⟨((∅ : AList fun _ : Kh => EpollFlags).insert 5 1).insert 6 1, []⟩
  obtain ⟨hwrite, hwakeup⟩ := message_limits .little .big
  constructor
  · rw [hwrite ⟨16, ⟨2⟩⟩ [65, 66, 67] 1 _ _ [] _ (by decide) hsend (by decide) (by decide)]
    decide
  · rw [hwakeup p 1 [6, 5] [] _ (by decide) (by decide) (by decide) (by decide)]
    decide

/-- A write of 65521 bytes: the client has announced that it takes twice as much, and the server
refuses the message, which ends the session. -/
theorem write_announced_and_refused :
    (List.replicate 65521 (0 : UInt8)).length ≤ maxWrite.toNat ∧
      ∃ bytes, Request.sendWrite .little ⟨0, ⟨2⟩⟩ (List.replicate 65521 0) 1 =
          .ok (⟨1, by decide⟩, bytes) ∧
        Refused (Request.recv .little MAX_MSG_SIZE (Script.unread bytes [])).1 := by
  have hlength : (List.replicate 65521 (0 : UInt8)).length = 65521 := List.length_replicate
  refine ⟨by rw [hlength]; decide, ?_⟩
  obtain ⟨bytes, hsend⟩ := sendWrite_ok .little ⟨0, ⟨2⟩⟩ (List.replicate 65521 0) ⟨1, by decide⟩
  have hbytes : (Script.unread bytes []).bytes = bytes ++ [] := Script.bytes_unread bytes []
  refine ⟨bytes, hsend, write_refused ?_ ?_ hsend ?_ hbytes⟩
  · rw [hlength]
    decide
  · rw [hlength]
    decide
  · exact Script.Clean.unread (by decide) bytes

end Cuse2Net.Relay

import Cuse2Net.Virtdev.Device

/-!
# Message boundaries in the stream of responses

The receiver of a device (`rx_thread`) calls `Response::recv` again and again on one connection. Each
call has to leave the stream at the beginning of a message. `recv_takes` says what a call takes from
any stream when the receiver goes on after it: the header, and behind the header a number of bytes
that depends on the header (`payloadTaken`). `response_framing_iff` compares that number with the
length field.

A header with an error number ends the call at once, whatever its length field says, and the arms
for one integer do not look at what is left of the message afterwards.
-/

set_option autoImplicit false

namespace Cuse2Net.Virtdev

open Cuse2Net.Lib
open Cuse2Net.Lib.Bytes
open Cuse2Net.Proto

/-- The receiver reads on after a result of `Response::recv`. -/
def KeepsReading : Result (Option Sequence × Response) → Prop
  | .ok res => DeviceInner.received (.ok res) ≠ .shutdown
  | .error (.err f) => DeviceInner.received (.error f) ≠ .shutdown
  | .error .panic => False

theorem keepsReading_ok (res : Option Sequence × Response) : KeepsReading (.ok res) := by
  obtain ⟨seq, resp⟩ := res
  cases seq <;> simp [KeepsReading, DeviceInner.received]

theorem keepsReading_error_iff (f : Failure) :
    KeepsReading (.error f) ↔ ∃ seq rc, f = .err (.remoteError (some seq) rc) := by
  cases f with
  | panic => simp [KeepsReading]
  | err f =>
      cases f with
      | remoteError seq rc => cases seq <;> simp [KeepsReading, DeviceInner.received]
      | _ => simp [KeepsReading, DeviceInner.received]

theorem not_keepsReading {f : Failure} (h : ∀ seq rc, f ≠ .err (.remoteError seq rc)) :
    ¬KeepsReading (.error f) := by
  rw [keepsReading_error_iff]
  rintro ⟨seq, rc, hf⟩
  exact h _ _ hf

/-! ## What a call takes -/

/-- The number of bytes that a call takes behind a header. -/
def payloadTaken (e : Endian) (hdr : Response.Header) : Nat :=
  if hdr.err.asNative e ≠ 0 then 0
  else
    match ResponseCode.tryFromU8 (hdr.op.asNative e) with
    | some .Write | some .Poll => 4
    | some .PollWakeup1 => 8
    | _ => (hdr.len.asNative e).toNat

/-- The outcome of the part of a call that depends on the response code, after `n` bytes. -/
def TakesPayload (n : Nat) (bs : List UInt8) : Except Failure Response → Prop
  | .ok _ => bs.length = n
  | .error f => ¬KeepsReading (.error f)

theorem not_keepsReading_of_connection {f : Failure} (h : f.Connection) :
    ¬KeepsReading (.error f) := by
  obtain ⟨errno, rfl⟩ := h
  exact not_keepsReading fun seq rc h => by cases h

/-- A body that is refused for a reason of its own or of the connection. -/
theorem payload_error {n len : Nat} {bs : List UInt8} {f : Failure} (h : ¬KeepsReading (.error f)) :
    TakesPayload n bs (.error f) ∧ ∀ x : Response, Except.error f = .ok x → bs.length ≤ len := by
  refine ⟨h, ?_⟩
  rintro x ⟨⟩

/-- A body that is taken as a whole. -/
theorem payload_whole {len : Nat} {bs : List UInt8} {resp : Response} (h : bs.length = len) :
    TakesPayload len bs (.ok resp) ∧
      ∀ x, (.ok resp : Except Failure Response) = .ok x → bs.length ≤ len :=
  ⟨h, fun _ _ => Nat.le_of_eq h⟩

/-- One integer: the size of its type is taken, and the message has at least that size. -/
theorem recvTo_payload {w : Nat} (hw : 8 ∣ w) (e : Endian) (len : Nat) (res : Be w → Response) :
    Takes (recvTo (Be.layout e w hw) (some len) >>= fun x => pure (res x.1))
      fun bs r => TakesPayload (w / 8) bs r ∧ ∀ x, r = .ok x → bs.length ≤ len := by
  refine (recvTo_takes _ _).bind ?_ ?_
  · exact fun bs f hf => payload_error (not_keepsReading_of_connection hf)
  · rintro bs ⟨x, avail⟩ ⟨rfl, -, hle⟩
    have hlen := (Be.layout e w hw).length_bytes x
    refine Takes.pure ?_
    rw [List.append_nil]
    exact ⟨hlen, fun _ _ => Nat.le_trans (Nat.le_of_eq hlen) (hle len rfl)⟩

/-- **What the body of a message takes**, by response code. -/
theorem recvBody_takes (e : Endian) (len : Nat) (op : ResponseCode) :
    Takes (Response.recvBody e len op) fun bs r =>
      TakesPayload (match op with
        | .Write | .Poll => 4
        | .PollWakeup1 => 8
        | _ => len) bs r ∧ ∀ x, r = .ok x → bs.length ≤ len := by
  cases op with
  | Result =>
      by_cases hz : len = 0
      · rw [Response.recvBody, if_pos hz]
        exact Takes.pure (payload_whole hz.symm)
      · rw [Response.recvBody, if_neg hz]
        exact Takes.fail (payload_error (not_keepsReading fun _ _ h => by cases h))
  | Write => exact recvTo_payload byteWidth_32 e len fun x => .write (x.asNative e)
  | Poll => exact recvTo_payload byteWidth_32 e len fun x => .poll (x.asNative e)
  | PollWakeup1 => exact recvTo_payload byteWidth_64 e len fun x => .pollWakeup1 (x.asNative e)
  | Read =>
      refine (recvToBytes_takes _ _).bind ?_ ?_
      · exact fun bs f hf => payload_error (not_keepsReading_of_connection hf)
      · rintro bs _ ⟨rfl, hlen, -⟩
        rw [List.length_replicate] at hlen
        refine Takes.pure ?_
        rw [List.append_nil]
        exact payload_whole hlen
  | Ioctl =>
      refine (recvTo_takes _ _).bind ?_ ?_
      · exact fun bs f hf => payload_error (not_keepsReading_of_connection hf)
      · rintro bs ⟨info, avail⟩ ⟨rfl, havail, hle⟩
        have hsize := hle len rfl
        obtain rfl : avail = some (len - (Response.Ioctl.layout e).size) := havail
        refine Takes.bind_lift (fun f hf => by cases hf) ?_
        rintro l ⟨⟩
        refine (recvToBytes_takes _ _).bind ?_ ?_
        · exact fun bs f hf => payload_error (not_keepsReading_of_connection hf)
        · rintro data _ ⟨rfl, hlen, -⟩
          rw [List.length_replicate] at hlen
          refine Takes.bind_lift ?_ ?_
          · intro f hf
            refine payload_error (not_keepsReading ?_)
            rintro seq rc rfl
            rcases Arg.fromRaw_error hf with h | h <;> cases h
          · intro arg _
            refine Takes.pure ?_
            rw [List.append_nil]
            apply payload_whole
            rw [List.length_append, Layout.length_bytes, hlen]
            exact Nat.add_sub_of_le hsize
  | PollWakeup =>
      refine Takes.bind_lift ?_ ?_
      · intro f hf
        obtain rfl := Response.allocBytes_error hf
        exact payload_error (not_keepsReading fun _ _ h => by cases h)
      · intro n hn
        refine (recvToBytes_takes _ _).bind ?_ ?_
        · exact fun bs f hf => payload_error (not_keepsReading_of_connection hf)
        · rintro bs _ ⟨rfl, hbs, -⟩
          refine Takes.pure ?_
          rw [List.append_nil]
          apply payload_whole
          -- a whole number of handles, so the buffer has the length of the message
          rw [hbs, List.length_replicate]
          exact Response.allocBytes_ok hn

/-- **What a call takes from any stream** when the receiver goes on after it: a header and
`payloadTaken` bytes, at most the length of the message. -/
theorem recv_takes (e : Endian) :
    Takes (Response.recv e) fun bs r => KeepsReading r →
      ∃ hdr body, bs = (Response.Header.layout e).bytes hdr ++ body ∧
        body.length = payloadTaken e hdr ∧ body.length ≤ (hdr.len.asNative e).toNat := by
  unfold Response.recv Response.recvInternal
  refine (recvObject_takes _ _ _ _).bind ?_ ?_
  · exact fun bs f hf hkeeps => absurd hkeeps (not_keepsReading_of_connection hf)
  rintro bs ⟨hdr, avail⟩ ⟨rfl, -, -⟩
  simp only
  split
  · exact Takes.fail fun hkeeps => absurd hkeeps (not_keepsReading fun _ _ h => by cases h)
  cases hop : ResponseCode.tryFromU8 (hdr.op.asNative e) with
  | none =>
      refine Takes.bind_lift ?_ (fun op h => by cases h)
      rintro f ⟨⟩ hkeeps
      exact absurd hkeeps (not_keepsReading fun _ _ h => by cases h)
  | some op =>
      refine Takes.bind_lift (fun f h => by cases h) ?_
      rintro _ ⟨⟩
      by_cases herr : hdr.err.asNative e ≠ 0
      · -- the call ends behind the header
        rw [if_pos herr]
        refine Takes.fail fun _ => ⟨hdr, [], rfl, ?_, Nat.zero_le _⟩
        rw [payloadTaken, if_pos herr]
        rfl
      · rw [if_neg herr]
        refine (recvBody_takes e _ op).bind ?_ ?_
        · exact fun body f h hkeeps => absurd hkeeps h.1
        · intro body res h
          refine Takes.pure fun _ => ⟨hdr, body, by rw [List.append_nil], ?_, h.2 res rfl⟩
          rw [payloadTaken, if_neg herr, hop, h.1]
          cases op <;> rfl

/-! ## Boundaries -/

/-- The headers whose messages are taken as a whole: an error has no payload, and a message with one
integer has nothing else. -/
def Framed (e : Endian) (hdr : Response.Header) : Prop :=
  if hdr.err.asNative e ≠ 0 then (hdr.len.asNative e).toNat = 0
  else
    match ResponseCode.tryFromU8 (hdr.op.asNative e) with
    | some .Write | some .Poll => (hdr.len.asNative e).toNat = 4
    | some .PollWakeup1 => (hdr.len.asNative e).toNat = 8
    | _ => True

theorem framed_iff (e : Endian) (hdr : Response.Header) :
    Framed e hdr ↔ payloadTaken e hdr = (hdr.len.asNative e).toNat := by
  unfold Framed payloadTaken
  split
  · exact eq_comm
  · split
    · exact eq_comm
    · exact eq_comm
    · exact eq_comm
    · exact iff_of_true trivial rfl

instance (e : Endian) (hdr : Response.Header) : Decidable (Framed e hdr) :=
  decidable_of_iff _ (framed_iff e hdr).symm

/-- **When a call ends at a message boundary.** Whenever the receiver reads on after a call of
`Response::recv`, on any stream, the call has taken a header and at most the payload that the header
announces. It has taken `16 + len` bytes, with `len` the length field of that header, exactly when the
header is framed: a header with an error number has `len = 0`, a `Write` or `Poll` response `len = 4`
and a `PollWakeup1` response `len = 8`. -/
theorem response_framing_iff (e : Endian) (s s' : Script)
    (r : Result (Option Sequence × Response)) (hrun : Response.recv e s = (r, s'))
    (hkeeps : KeepsReading r) :
    ∃ hdr taken, hdr = (Response.Header.layout e).parse (s.bytes.take 16) ∧ s.bytes = taken ++ s'.bytes ∧
      16 ≤ taken.length ∧ taken.length ≤ 16 + (hdr.len.asNative e).toNat ∧
      (taken.length = 16 + (hdr.len.asNative e).toNat ↔ Framed e hdr) := by
  obtain ⟨bs, hbytes, htakes⟩ := recv_takes e s r s' hrun
  obtain ⟨hdr, body, rfl, hbody, hle⟩ := htakes hkeeps
  have hhdr : ((Response.Header.layout e).bytes hdr).length = 16 :=
    (Response.Header.layout e).length_bytes hdr
  refine ⟨hdr, _, ?_, hbytes, ?_, ?_, ?_⟩
  · rw [hbytes, List.append_assoc, List.take_left' hhdr, (Response.Header.layout e).parse_bytes]
  · rw [List.length_append, hhdr]
    exact Nat.le_add_right 16 _
  · rw [List.length_append, hhdr]
    exact Nat.add_le_add_left hle 16
  · rw [List.length_append, hhdr, framed_iff, hbody]
    exact Nat.add_left_cancel_iff

/-- Three bytes of data arrive in pieces, the last one together with a wake-up: the response is taken as
a whole, and the wake-up is left. -/
theorem response_framing_data :
    ∃ s', Response.recv .little [.data 3 [0, 0, 0, 0, 0, 0], .wait, .data 3 [0, 0, 0, 0, 0, 0, 0, 9, 65],
          .wait, .data 66 ([67, 7, 0, 0, 0, 0, 0, 0, 8, 0, 0, 0, 0, 0, 0, 0, 0] ++ [0, 0, 0, 0, 0, 0, 0, 5])] =
        (.ok (some ⟨9, by decide⟩, .read [65, 66, 67]), s') ∧
      s'.bytes = [7, 0, 0, 0, 0, 0, 0, 8, 0, 0, 0, 0, 0, 0, 0, 0, 0, 0, 0, 0, 0, 0, 0, 5] ∧
      ∃ taken, [3, 0, 0, 0, 0, 0, 0, 3, 0, 0, 0, 0, 0, 0, 0, 9, 65, 66, 67] ++ s'.bytes = taken ++ s'.bytes ∧
        taken.length = 19 := by
  have hrecv : Yields (Response.recv .little) (Response.sendRead .big ⟨9, by decide⟩ [65, 66, 67])
      (.ok (some ⟨9, by decide⟩, .read [65, 66, 67])) :=
    Response.recv_reply (m := .read ⟨9, by decide⟩ [65, 66, 67]) (fun _ _ h => by cases h) (by decide)
      rfl
  obtain ⟨s', hrun, -, hrest⟩ := hrecv
    [.data 3 [0, 0, 0, 0, 0, 0], .wait, .data 3 [0, 0, 0, 0, 0, 0, 0, 9, 65],
      .wait, .data 66 ([67, 7, 0, 0, 0, 0, 0, 0, 8, 0, 0, 0, 0, 0, 0, 0, 0] ++ [0, 0, 0, 0, 0, 0, 0, 5])]
    [7, 0, 0, 0, 0, 0, 0, 8, 0, 0, 0, 0, 0, 0, 0, 0, 0, 0, 0, 0, 0, 0, 0, 5] (by decide) (by decide)
  obtain ⟨hdr, taken, rfl, hbytes, -, -, hframed⟩ :=
    response_framing_iff .little _ s' _ hrun (keepsReading_ok _)
  refine ⟨s', hrun, hrest, taken, ?_, hframed.2 (by decide)⟩
  rw [← hbytes, hrest]
  rfl

/-- An error for the request 9 announces a payload of 16 bytes, and the payload looks like a
confirmation of the request 2. The first call takes the header alone; the second one starts in the
payload and returns the confirmation. -/
theorem response_framing_lost :
    ∃ s', repeatRead (Response.recv .little) 2
        [.data 1 [0, 0, 5, 0, 0, 0, 16, 0, 0, 0, 0, 0, 0, 0, 9],
          .data 1 [0, 0, 0, 0, 0, 0, 0, 0, 0, 0, 0, 0, 0, 0, 2]] =
        ([Err (.remoteError (some ⟨9, by decide⟩) 5), .ok (some ⟨2, by decide⟩, .ok)], s') ∧
      KeepsReading (Err (.remoteError (some ⟨9, by decide⟩) 5)) ∧ s'.bytes = [] := by
  have herror : Yields (Response.recv .little)
      [1, 0, 0, 5, 0, 0, 0, 16, 0, 0, 0, 0, 0, 0, 0, 9]
      (Err (.remoteError (some ⟨9, by decide⟩) 5)) :=
    @Response.recv_header_yields .little .Result 5 16 9 (some ⟨9, by decide⟩) [] _ (by decide) rfl
      (Yields.fail _)
  obtain ⟨s₁, hrun₁, hs₁, hbytes₁⟩ := herror
    [.data 1 [0, 0, 5, 0, 0, 0, 16, 0, 0, 0, 0, 0, 0, 0, 9],
      .data 1 [0, 0, 0, 0, 0, 0, 0, 0, 0, 0, 0, 0, 0, 0, 2]]
    (Response.sendOk .little ⟨2, by decide⟩ ++ []) (by decide) rfl
  obtain ⟨s₂, hrun₂, -, hbytes₂⟩ :=
    Response.recv_ok .little .little ⟨2, by decide⟩ s₁ [] hs₁ hbytes₁
  refine ⟨s₂, ?_, (keepsReading_error_iff _).2 ⟨_, _, rfl⟩, hbytes₂⟩
  simp only [repeatRead, hrun₁, hrun₂]

end Cuse2Net.Virtdev

import Cuse2Net.Proto.RequestGrammar
import Cuse2Net.Virtdev.ResponseFraming

/-!
# Opening the device

Model of the exchange that precedes a conversation. The client's `run_remote_open` sends the kernel's
open flags and waits for one response; the server's `run_thread` receives one request, translates the
flags with `FhFlags::as_ffi`, opens the device file and answers. The call of `open()` is a parameter, as
are the results of the sends.

`open_handshake` runs the two against each other: the file is opened with the access mode that the
kernel asked for, and the client learns exactly whether that worked. The other two results are about a
peer that may send anything: `open_confirmed_iff` says what the client takes for a confirmation, and
`open_calls` which calls of `open()` a client can cause.
-/

set_option autoImplicit false

namespace Cuse2Net.Proto

open Cuse2Net.Lib
open Cuse2Net.Lib.Bytes

/-! ## Flags of `open()` -/

/-- `OFlag`: the flags of `open()`, with the values of Linux. -/
structure OFlag where
  bits : BitVec 32
  deriving DecidableEq

namespace OFlag

def empty : OFlag := ⟨0⟩
def O_RDONLY : OFlag := ⟨0⟩
def O_WRONLY : OFlag := ⟨1⟩
def O_RDWR : OFlag := ⟨2⟩
def O_NOCTTY : OFlag := ⟨0x100⟩
def O_NONBLOCK : OFlag := ⟨0x800⟩
def O_CLOEXEC : OFlag := ⟨0x80000⟩

/-- `|`. -/
def bitOr (x y : OFlag) : OFlag := ⟨x.bits ||| y.bits⟩

end OFlag

namespace FhFlags

/-- `is_empty`. -/
def isEmpty (e : Endian) (x : FhFlags) : Bool := x.word.asNative e == 0

/-- `intersects`. -/
def intersects (e : Endian) (x other : FhFlags) : Bool := !(x.bitAnd other).isEmpty e

/-- `as_ffi`. -/
def asFfi (e : Endian) (x : FhFlags) : OFlag :=
  let res := OFlag.empty
  let res := if x.intersects e (NONBLOCK e) then res.bitOr .O_NONBLOCK else res
  match x.intersects e (RD e), x.intersects e (WR e) with
  | true, true => res.bitOr .O_RDWR
  | false, true => res.bitOr .O_WRONLY
  | true, false => res.bitOr .O_RDONLY
  | false, false => res

end FhFlags

/-- `recv_to`: the message has to begin in time as well. -/
def Response.recvTo (e : Endian) : Reader Failure (Option Sequence × Response) :=
  recvInternal e (some TIMEOUT_READ)

end Cuse2Net.Proto

namespace Cuse2Net.Relay

open Cuse2Net.Lib
open Cuse2Net.Lib.Bytes
open Cuse2Net.Proto
open Cuse2Net.IoctlFfi (u8)
open Cuse2Net.Proto.Request (fieldAt fieldAt_append WellFormed opAt lenAt)

/-- `crate::Error`, as far as opening a device gives it. -/
inductive OpenError where
  | nix (errno : Errno)
  | protocol (f : Failure)
  | remote (rc : Nat)
  deriving DecidableEq

/-! ## The client -/

/-- What `run_remote_open` makes of the result of `recv_to`. -/
def remoteOpened (seq : Sequence) :
    Result (Option Sequence × Response) → Except OpenError Unit
  | .ok (rseq, resp) =>
      if rseq ≠ some seq then .error (.protocol (.err .badSequence))
      else
        match resp with
        | .ok => .ok ()
        | _ => .error (.protocol (.err .badResponse))
  | .error (.err (.remoteError rseq rc)) =>
      if rseq ≠ some seq then .error (.protocol (.err .badSequence)) else .error (.remote rc)
  | .error f => .error (.protocol f)

/-- `run_remote_open`, with the number drawn for the request and the result of its send. -/
def runRemoteOpen (e : Endian) (flags : FuseFhFlags) (drawn : BitVec 64) (sent : Result Unit) :
    Reader OpenError Unit := fun s =>
  match Request.sendOpen e flags drawn with
  | .error f => (.error (.protocol f), s)
  | .ok (seq, _) =>
      match sent with
      | .error f => (.error (.protocol f), s)
      | .ok () =>
          let (r, s') := Response.recvTo e s
          (remoteOpened seq r, s')

/-! ## The server -/

/-- What one thread of the server has done before the device runs: its calls of `open()`, the bytes it
has sent, the device or the error, and the rest of the connection. -/
structure Opened (F : Type) where
  calls : List OFlag
  sent : List UInt8
  result : Except OpenError F
  rest : Script

/-- The flags that `Device::open` always sets. -/
def deviceFlags : OFlag := (OFlag.O_CLOEXEC.bitOr .O_NONBLOCK).bitOr .O_NOCTTY

/-- `Device::open`, with the result of the send. -/
def deviceOpen {F : Type} (e : Endian) (openFile : OFlag → Except Errno F) (seq : Sequence)
    (flags : OFlag) (sent : Result Unit) (rest : Script) : Opened F :=
  let oflags := deviceFlags.bitOr flags
  match openFile oflags with
  | .error err =>
      ⟨[oflags], Response.sendErr e seq err,
        match sent with
        | .ok () => .error (.nix err)
        | .error f => .error (.protocol f), rest⟩
  | .ok fd =>
      ⟨[oflags], Response.sendOk e seq,
        match sent with
        | .ok () => .ok fd
        | .error f => .error (.protocol f), rest⟩

/-- `run_thread` up to `dev.run()`. -/
def runThread {F : Type} (e : Endian) (openFile : OFlag → Except Errno F) (sent : Result Unit)
    (sock : Script) : Opened F :=
  match Request.recv e MAX_MSG_SIZE sock with
  | (.error f, rest) => ⟨[], [], .error (.protocol f), rest⟩
  | (.ok (.open seq args), rest) => deviceOpen e openFile seq (args.flags.asFfi e) sent rest
  | (.ok _, rest) => ⟨[], [], .error (.protocol (.err .badRequest)), rest⟩

/-! ## The two together -/

section Client

variable {e : Endian} {flags : FuseFhFlags} {drawn : BitVec 64} {seq : Sequence}
  {bytes : List UInt8}

/-- The client's result for what it receives. -/
theorem runRemoteOpen_eq (hsend : Request.sendOpen e flags drawn = .ok (seq, bytes)) (s : Script) :
    runRemoteOpen e flags drawn (.ok ()) s =
      (remoteOpened seq (Response.recvTo e s).1, (Response.recvTo e s).2) := by
  simp only [runRemoteOpen, hsend]

end Client

/-- The body of a message is `Ok` only when it has the code `Result` and is empty. -/
theorem recvBody_ok (e : Endian) (len : Nat) (op : ResponseCode) :
    Takes (Response.recvBody e len op) fun bs r =>
      r = .ok .ok → op = .Result ∧ len = 0 ∧ bs = [] := by
  cases op with
  | Result =>
      by_cases hz : len = 0
      · rw [Response.recvBody, if_pos hz]
        exact Takes.pure fun _ => ⟨rfl, hz, rfl⟩
      · rw [Response.recvBody, if_neg hz]
        exact Takes.fail fun h => by cases h
  | Write =>
      refine (Proto.recvTo_takes _ _).bind (fun _ _ _ h => by cases h) fun _ _ _ => ?_
      exact Takes.pure fun h => by cases h
  | Read =>
      refine (recvToBytes_takes _ _).bind (fun _ _ _ h => by cases h) fun _ _ _ => ?_
      exact Takes.pure fun h => by cases h
  | Ioctl =>
      refine (Proto.recvTo_takes _ _).bind (fun _ _ _ h => by cases h) fun _ _ _ => ?_
      refine Takes.bind_lift (fun _ _ h => by cases h) fun _ _ => ?_
      refine (recvToBytes_takes _ _).bind (fun _ _ _ h => by cases h) fun _ _ _ => ?_
      refine Takes.bind_lift (fun _ _ h => by cases h) fun _ _ => ?_
      exact Takes.pure fun h => by cases h
  | Poll =>
      refine (Proto.recvTo_takes _ _).bind (fun _ _ _ h => by cases h) fun _ _ _ => ?_
      exact Takes.pure fun h => by cases h
  | PollWakeup1 =>
      refine (Proto.recvTo_takes _ _).bind (fun _ _ _ h => by cases h) fun _ _ _ => ?_
      exact Takes.pure fun h => by cases h
  | PollWakeup =>
      refine Takes.bind_lift (fun _ _ h => by cases h) fun _ _ => ?_
      refine (recvToBytes_takes _ _).bind (fun _ _ _ h => by cases h) fun _ _ _ => ?_
      exact Takes.pure fun h => by cases h

/-- The bytes begin with the header of an `Ok` for the number `v`. -/
structure Confirms (bs : List UInt8) (v : BitVec 64) : Prop where
  header : 16 ≤ bs.length
  op : fieldAt bs 0 1 = 1
  err : fieldAt bs 2 2 = 0
  len : fieldAt bs 4 4 = 0
  seq : fieldAt bs 8 8 = v.toNat

/-- The bytes begin with the header of an error `rc` for the number `v`. -/
structure Refuses (bs : List UInt8) (v : BitVec 64) (rc : Nat) : Prop where
  header : 16 ≤ bs.length
  op : fieldAt bs 0 1 ∈ Set.Icc 1 7
  err : fieldAt bs 2 2 = rc
  err_ne : rc ≠ 0
  len : fieldAt bs 4 4 ≤ 0x10000
  seq : fieldAt bs 8 8 = v.toNat

section Header

variable (e : Endian) (hdr : Response.Header) (more : List UInt8)

/-- The memory image of a header, field by field. -/
theorem bytes_responseHeader : (Response.Header.layout e).bytes hdr ++ more =
    (be8 e).bytes hdr.op ++ (((u8 e).array 1).bytes hdr.pad ++ ((be16 e).bytes hdr.err ++
      ((be32 e).bytes hdr.len ++ ((be64 e).bytes hdr.seq ++ more)))) := by
  have h : (Response.Header.layout e).bytes hdr = (be8 e).bytes hdr.op ++
      (((u8 e).array 1).bytes hdr.pad ++ ((be16 e).bytes hdr.err ++
        ((be32 e).bytes hdr.len ++ (be64 e).bytes hdr.seq))) := rfl
  rw [h]
  simp only [List.append_assoc]

theorem opField : fieldAt ((Response.Header.layout e).bytes hdr ++ more) 0 1 =
    (hdr.op.asNative e).toNat := by
  rw [bytes_responseHeader]
  refine (fieldAt_append (a := []) rfl ((be8 e).length_bytes _)).trans ?_
  exact Be.ofNatBytes_bytes byteWidth_8 e hdr.op

theorem errField : fieldAt ((Response.Header.layout e).bytes hdr ++ more) 2 2 =
    (hdr.err.asNative e).toNat := by
  rw [bytes_responseHeader, ← List.append_assoc]
  refine (fieldAt_append ?_ ((be16 e).length_bytes _)).trans ?_
  · rw [List.length_append, Layout.length_bytes, Layout.length_bytes]
    rfl
  · exact Be.ofNatBytes_bytes byteWidth_16 e hdr.err

theorem lenField : fieldAt ((Response.Header.layout e).bytes hdr ++ more) 4 4 =
    (hdr.len.asNative e).toNat := by
  rw [bytes_responseHeader, ← List.append_assoc, ← List.append_assoc]
  refine (fieldAt_append ?_ ((be32 e).length_bytes _)).trans ?_
  · simp only [List.length_append, Layout.length_bytes]
    rfl
  · exact Be.ofNatBytes_bytes byteWidth_32 e hdr.len

theorem seqField : fieldAt ((Response.Header.layout e).bytes hdr ++ more) 8 8 =
    (hdr.seq.asNative e).toNat := by
  rw [bytes_responseHeader, ← List.append_assoc, ← List.append_assoc, ← List.append_assoc]
  refine (fieldAt_append ?_ ((be64 e).length_bytes _)).trans ?_
  · simp only [List.length_append, Layout.length_bytes]
    rfl
  · exact Be.ofNatBytes_bytes byteWidth_64 e hdr.seq

end Header

theorem tryFromU8_result_iff (v : BitVec 8) :
    ResponseCode.tryFromU8 v = some .Result ↔ v.toNat = 1 := by
  unfold ResponseCode.tryFromU8
  split <;> simp_all

theorem tryFromU8_some_iff (v : BitVec 8) :
    (∃ op, ResponseCode.tryFromU8 v = some op) ↔ v.toNat ∈ Set.Icc 1 7 := by
  unfold ResponseCode.tryFromU8
  split <;> simp_all
  omega

theorem sequence_eq_some_iff (e : Endian) (hdr : Response.Header) (seq : Sequence) :
    hdr.sequence e = some seq ↔ (hdr.seq.asNative e).toNat = seq.val.toNat := by
  unfold Response.Header.sequence
  rw [BitVec.toNat_inj]
  by_cases hz : hdr.seq.asNative e = 0
  · rw [dif_pos hz, hz]
    exact iff_of_false (fun h => by cases h) fun h => seq.ne_zero h.symm
  · rw [dif_neg hz, Option.some.injEq]
    constructor
    · rintro rfl
      rfl
    · intro h
      cases seq
      exact Sequence.mk.injEq .. ▸ h

/-- The answers that end the exchange, by the header that was taken for them. -/
def AnswerTaken (e : Endian) (bs : List UInt8) : Result (Option Sequence × Response) → Prop
  | .ok (some seq, .ok) => ∃ hdr, bs = (Response.Header.layout e).bytes hdr ∧
      ∀ more, Confirms (bs ++ more) seq.val
  | .error (.err (.remoteError (some seq) rc)) =>
      ∃ hdr, bs = (Response.Header.layout e).bytes hdr ∧ ∀ more, Refuses (bs ++ more) seq.val rc
  | _ => True

theorem header_le (e : Endian) (hdr : Response.Header) (more : List UInt8) :
    16 ≤ ((Response.Header.layout e).bytes hdr ++ more).length := by
  rw [List.length_append, Layout.length_bytes]
  exact Nat.le_add_right 16 _

/-- **What an answer is taken from**, on any stream. -/
theorem recvTo_answer (e : Endian) : Takes (Response.recvTo e) (AnswerTaken e) := by
  unfold Response.recvTo Response.recvInternal
  refine (recvObject_takes _ _ _ _).bind ?_ ?_
  · rintro bs f ⟨errno, rfl⟩
    trivial
  rintro bs ⟨hdr, avail⟩ ⟨rfl, -, -⟩
  simp only
  split
  · exact Takes.fail trivial
  rename_i hlen
  cases hop : ResponseCode.tryFromU8 (hdr.op.asNative e) with
  | none =>
      refine Takes.bind_lift ?_ (fun op h => by cases h)
      rintro f ⟨⟩
      trivial
  | some op =>
      refine Takes.bind_lift (fun f h => by cases h) ?_
      rintro _ ⟨⟩
      by_cases herr : hdr.err.asNative e ≠ 0
      · rw [if_pos herr]
        refine Takes.fail ?_
        rw [List.append_nil]
        cases hseq : hdr.sequence e with
        | none => trivial
        | some seq =>
            refine ⟨hdr, rfl, fun more => ⟨header_le e hdr more, ?_, errField e hdr more, ?_, ?_, ?_⟩⟩
            · rw [opField]
              exact (tryFromU8_some_iff _).1 ⟨op, hop⟩
            · exact fun h => herr (BitVec.eq_of_toNat_eq h)
            · rw [lenField]
              exact Nat.le_of_not_lt hlen
            · rw [seqField]
              exact (sequence_eq_some_iff e hdr seq).1 hseq
      · rw [if_neg herr]
        rw [not_not] at herr
        refine ((Virtdev.recvBody_takes e _ op).and (recvBody_ok e _ op)).bind ?_ ?_
        · -- no body fails with an error of the server
          rintro body f ⟨⟨hkeeps, -⟩, -⟩
          unfold AnswerTaken
          split
          · rename_i h
            cases h
          · rename_i h
            cases h
            exact absurd ((Virtdev.keepsReading_error_iff _).2 ⟨_, _, rfl⟩) hkeeps
          · trivial
        · rintro body resp ⟨-, hok⟩
          refine Takes.pure ?_
          unfold AnswerTaken
          split
          · rename_i seq h
            obtain ⟨hseq, rfl⟩ := Prod.mk.inj (Except.ok.inj h)
            obtain ⟨rfl, hz, rfl⟩ := hok rfl
            rw [List.append_nil, List.append_nil]
            refine ⟨hdr, rfl, fun more => ⟨header_le e hdr more, ?_, ?_, ?_, ?_⟩⟩
            · rw [opField]
              exact (tryFromU8_result_iff _).1 hop
            · rw [errField, herr]
              rfl
            · rw [lenField]
              exact hz
            · rw [seqField]
              exact (sequence_eq_some_iff e hdr seq).1 hseq
          · rename_i h
            cases h
          · trivial

/-- Every stream of at least sixteen bytes begins with a header. -/
theorem exists_header (e : Endian) {bs : List UInt8} (h : 16 ≤ bs.length) :
    ∃ hdr, bs = (Response.Header.layout e).bytes hdr ++ bs.drop 16 := by
  refine ⟨(Response.Header.layout e).parse (bs.take 16), ?_⟩
  rw [(Response.Header.layout e).bytes_parse _ (by rw [List.length_take]; exact Nat.min_eq_left h),
    List.take_append_drop]

/-- **A header that is delivered in time is received**, whatever becomes of the stream behind it. -/
theorem recvObject_delivered {T : Type} (L : Layout T) (hL : L.size ≠ 0) (t : T) (d d' : Nat)
    {s : Script} {rest : List UInt8} (h : s.delivered = L.bytes t ++ rest) :
    ∃ s', recvObject L none (some d) (some d') s = (.ok (t, none), s') := by
  have hbuf : (List.replicate L.size (0 : UInt8)).length = L.size := List.length_replicate
  rcases recvExactTimeoutInternal_cases (by rwa [hbuf]) (some d) d' s with
    ⟨bs, s', hrun, hlen, hoff⟩ | ⟨hshort, -⟩
  · -- what was taken off is the beginning of what is delivered
    obtain ⟨rfl, -⟩ := List.append_inj (hoff.delivered.symm.trans h)
      (hlen.trans (hbuf.trans (L.length_bytes t).symm))
    refine ⟨s', ?_⟩
    have hexact : recvExactTimeout (List.replicate L.size 0) none (some d) (some d') s =
        (.ok (L.bytes t, none), s') := Reader.bind_ok hrun
    rw [recvObject, Reader.bind_ok hexact]
    exact congrArg (fun t => (Except.ok (t, none), s')) (L.parse_bytes t)
  · have hle : L.size ≤ s.delivered.length := by
      rw [h, List.length_append, L.length_bytes]
      exact Nat.le_add_right _ _
    rw [hbuf] at hshort
    exact absurd hle (Nat.not_le.2 hshort)

/-- The receiver after a delivered header of good length. -/
theorem recvTo_header {e : Endian} {hdr : Response.Header} {op : ResponseCode} {s : Script}
    {rest : List UInt8} (h : s.delivered = (Response.Header.layout e).bytes hdr ++ rest)
    (hlen : (hdr.len.asNative e).toNat ≤ Response.MAX_SZ)
    (hop : ResponseCode.tryFromU8 (hdr.op.asNative e) = some op) :
    ∃ s', Response.recvTo e s = (if hdr.err.asNative e ≠ 0 then
        Reader.fail (.err (.remoteError (hdr.sequence e) (hdr.err.asNative e).toNat))
      else do
        let res ← Response.recvBody e (hdr.len.asNative e).toNat op
        pure (hdr.sequence e, res)) s' := by
  obtain ⟨s', hrun⟩ := recvObject_delivered (Response.Header.layout e)
    (show 16 ≠ 0 by decide) hdr TIMEOUT_READ TIMEOUT_READ h
  refine ⟨s', ?_⟩
  rw [Response.recvTo, Response.recvInternal, Reader.bind_ok hrun]
  simp only [if_neg (Nat.not_lt.2 hlen), hop]
  rfl

/-- A confirmation is received as one. -/
theorem recvTo_confirms {e : Endian} {seq : Sequence} {s : Script}
    (h : Confirms s.delivered seq.val) :
    ∃ s', Response.recvTo e s = (.ok (some seq, .ok), s') := by
  obtain ⟨hdr, hbytes⟩ := exists_header e h.header
  obtain ⟨-, hop, herr, hlen, hseq⟩ := h
  rw [hbytes] at hop herr hlen hseq
  rw [opField] at hop
  rw [errField] at herr
  rw [lenField] at hlen
  rw [seqField] at hseq
  have hz : hdr.err.asNative e = 0 := BitVec.eq_of_toNat_eq herr
  obtain ⟨s', hrun⟩ := recvTo_header hbytes (hlen ▸ Nat.zero_le _) ((tryFromU8_result_iff _).2 hop)
  refine ⟨s', hrun.trans ?_⟩
  rw [if_neg (fun h => h hz), hlen, (sequence_eq_some_iff e hdr seq).2 hseq]
  rfl

/-- A refusal is received as one. -/
theorem recvTo_refuses {e : Endian} {seq : Sequence} {rc : Nat} {s : Script}
    (h : Refuses s.delivered seq.val rc) :
    ∃ s', Response.recvTo e s = (Err (.remoteError (some seq) rc), s') := by
  obtain ⟨hdr, hbytes⟩ := exists_header e h.header
  obtain ⟨-, hop, herr, hne, hlen, hseq⟩ := h
  rw [hbytes] at hop herr hlen hseq
  rw [opField] at hop
  rw [errField] at herr
  rw [lenField] at hlen
  rw [seqField] at hseq
  obtain ⟨op, hop⟩ := (tryFromU8_some_iff _).2 hop
  have hnz : hdr.err.asNative e ≠ 0 := by
    intro hz
    rw [hz] at herr
    exact hne herr.symm
  obtain ⟨s', hrun⟩ := recvTo_header hbytes hlen hop
  refine ⟨s', hrun.trans ?_⟩
  rw [if_pos hnz, herr, (sequence_eq_some_iff e hdr seq).2 hseq]
  rfl

/-- The results that the client takes for success or for an error of the server have its own number. -/
theorem remoteOpened_ok_iff (seq : Sequence) (r : Result (Option Sequence × Response)) :
    remoteOpened seq r = .ok () ↔ r = .ok (some seq, .ok) := by
  unfold remoteOpened
  split
  · rename_i rseq resp
    by_cases hseq : rseq = some seq
    · subst hseq
      rw [if_neg (fun h => h rfl)]
      cases resp <;> simp
    · rw [if_pos hseq]
      simp [hseq]
  · split <;> simp
  · simp

theorem remoteOpened_remote_iff (seq : Sequence) (r : Result (Option Sequence × Response))
    (rc : Nat) :
    remoteOpened seq r = .error (.remote rc) ↔ r = Err (.remoteError (some seq) rc) := by
  unfold remoteOpened Err
  split
  · split
    · simp
    · split <;> simp
  · rename_i rseq rc'
    by_cases hseq : rseq = some seq
    · subst hseq
      simp
    · rw [if_pos hseq]
      simp [hseq]
  · rename_i f hne
    refine iff_of_false (fun h => by cases h) ?_
    rintro ⟨⟩
    exact hne _ _ rfl

/-- **What opens a device for the client, and what refuses it**, whatever the server is. A call of
`run_remote_open` that has sent its request succeeds only when the stream begins with the header of an
`Ok` for its own sequence number, and reports an error of the server only when the stream begins with
the header of that error for its number; it takes the header and no more. When such a header is
delivered before the stream fails or lets a deadline expire, the call returns that. -/
theorem open_confirmed_iff (e : Endian) (flags : FuseFhFlags) (drawn : BitVec 64) (seq : Sequence)
    (bytes : List UInt8) (hsend : Request.sendOpen e flags drawn = .ok (seq, bytes)) (s : Script) :
    (∀ s', runRemoteOpen e flags drawn (.ok ()) s = (.ok (), s') →
      Confirms s.bytes drawn ∧ s'.bytes = s.bytes.drop 16) ∧
    (∀ rc s', runRemoteOpen e flags drawn (.ok ()) s = (.error (.remote rc), s') →
      Refuses s.bytes drawn rc ∧ s'.bytes = s.bytes.drop 16) ∧
    (Confirms s.delivered drawn → (runRemoteOpen e flags drawn (.ok ()) s).1 = .ok ()) ∧
    ∀ rc, Refuses s.delivered drawn rc →
      (runRemoteOpen e flags drawn (.ok ()) s).1 = .error (.remote rc) := by
  obtain rfl := Request.sendMessage_seq hsend
  rw [runRemoteOpen_eq hsend]
  have hdrop : ∀ {hdr more}, ((Response.Header.layout e).bytes hdr ++ more).drop 16 = more :=
    fun {hdr _} => List.drop_left' ((Response.Header.layout e).length_bytes hdr)
  refine ⟨?_, ?_, ?_, ?_⟩
  · intro s' hrun
    obtain ⟨hr, hs'⟩ := Prod.mk.inj hrun
    rw [remoteOpened_ok_iff] at hr
    obtain ⟨bs, hbytes, htaken⟩ := recvTo_answer e s _ s' (Prod.ext hr hs')
    obtain ⟨hdr, rfl, hconfirms⟩ := htaken
    rw [hbytes]
    exact ⟨hconfirms s'.bytes, hdrop.symm⟩
  · intro rc s' hrun
    obtain ⟨hr, hs'⟩ := Prod.mk.inj hrun
    rw [remoteOpened_remote_iff] at hr
    obtain ⟨bs, hbytes, htaken⟩ := recvTo_answer e s _ s' (Prod.ext hr hs')
    obtain ⟨hdr, rfl, hrefuses⟩ := htaken
    rw [hbytes]
    exact ⟨hrefuses s'.bytes, hdrop.symm⟩
  · intro hconfirms
    obtain ⟨s', hrun⟩ := recvTo_confirms (e := e) hconfirms
    rw [hrun]
    exact (remoteOpened_ok_iff seq _).2 rfl
  · intro rc hrefuses
    obtain ⟨s', hrun⟩ := recvTo_refuses (e := e) hrefuses
    rw [hrun]
    exact (remoteOpened_remote_iff seq _ rc).2 rfl

/-- An `Ok` with its own number opens the device though the stream fails right behind it, and the answer
to another request does not. -/
theorem open_confirmed_iff_own :
    (runRemoteOpen .little ⟨0⟩ 7 (.ok ())
        [.data 1 [0, 0, 0, 0, 0, 0, 0], .wait, .data 0 [0, 0, 0, 0, 0, 0, 7], .fault 104]).1 = .ok () ∧
      (runRemoteOpen .little ⟨0⟩ 7 (.ok ())
        [.data 1 [0, 0, 0, 0, 0, 0, 0], .data 0 [0, 0, 0, 0, 0, 0, 8]]).1 ≠ .ok () := by
  have h := open_confirmed_iff .little ⟨0⟩ 7 ⟨7, by decide⟩
    [1, 0, 0, 0, 0, 0, 0, 8, 0, 0, 0, 0, 0, 0, 0, 7, 0, 0, 0, 1, 0, 0, 0, 0] (by decide)
  refine ⟨(h _).2.2.1 ⟨by decide, by decide, by decide, by decide, by decide⟩, fun hok => ?_⟩
  have hconfirms := ((h [.data 1 [0, 0, 0, 0, 0, 0, 0], .data 0 [0, 0, 0, 0, 0, 0, 8]]).1 _
    (Prod.ext hok rfl)).1
  exact absurd hconfirms.seq (by decide)

/-! ## Any peer, seen from the server -/

/-- No translated flags ask for more than an access mode. -/
theorem deviceFlags_asFfi (e : Endian) (x : FhFlags) :
    deviceFlags.bitOr (x.asFfi e) ∈ ([⟨0x80900⟩, ⟨0x80901⟩, ⟨0x80902⟩] : List OFlag) := by
  unfold FhFlags.asFfi
  cases x.intersects e (FhFlags.NONBLOCK e) <;> cases x.intersects e (FhFlags.RD e) <;>
    cases x.intersects e (FhFlags.WR e) <;> decide

/-- **Which calls of `open()` a client can cause.** Whatever a client sends, the thread that serves it
calls `open()` at most once before the device runs, and only when the stream begins with a well-formed
message with the code of `Open`. The call has the flags `O_CLOEXEC`, `O_NONBLOCK` and `O_NOCTTY` and an
access mode, so that no client can make the server create or truncate a file. The device runs only with
the file that this call has returned, and reads on behind the message. Without the call nothing is
sent. -/
theorem open_calls {F : Type} (e : Endian) (openFile : OFlag → Except Errno F) (sent : Result Unit)
    (sock : Script) :
    ((runThread e openFile sent sock).calls = [] ∧ (runThread e openFile sent sock).sent = [] ∧
      ∃ f, (runThread e openFile sent sock).result = .error (.protocol f)) ∨
    ∃ fl ∈ ([⟨0x80900⟩, ⟨0x80901⟩, ⟨0x80902⟩] : List OFlag),
      (runThread e openFile sent sock).calls = [fl] ∧ WellFormed sock.bytes ∧ opAt sock.bytes = 1 ∧
      (runThread e openFile sent sock).rest.bytes = sock.bytes.drop 24 ∧
      ∀ fd, (runThread e openFile sent sock).result = .ok fd → openFile fl = .ok fd := by
  unfold runThread
  cases hrun : Request.recv e MAX_MSG_SIZE sock with
  | mk res rest =>
      obtain ⟨bs, hbytes, hout⟩ :=
        Request.recv_takes e (show Request.MAX_SZ ≤ MAX_MSG_SIZE by decide) sock res rest hrun
      cases res with
      | error f => exact .inl ⟨rfl, rfl, f, rfl⟩
      | ok req =>
          cases req with
          | «open» seq args =>
              obtain ⟨seq', hholds⟩ := hout.holds
              have hop := (hholds rest.bytes).2.op_of_open
              have hwf := hout.wellFormed rest.bytes
              have hlen := hout.length_eq rest.bytes
              rw [← hbytes] at hop hwf hlen
              have hfits : lenAt sock.bytes = 8 := by
                have h := hwf.body
                rwa [hop] at h
              rw [hfits] at hlen
              refine .inr ⟨_, deviceFlags_asFfi e args.flags, ?_⟩
              simp only [deviceOpen]
              have hrest : rest.bytes = sock.bytes.drop 24 := by
                rw [hbytes, List.drop_left' hlen]
              cases hfile : openFile (deviceFlags.bitOr (args.flags.asFfi e)) with
              | error err =>
                  refine ⟨rfl, hwf, hop, hrest, ?_⟩
                  intro fd h
                  cases sent <;> cases h
              | ok fd =>
                  refine ⟨rfl, hwf, hop, hrest, ?_⟩
                  intro fd' h
                  cases sent with
                  | error f => cases h
                  | ok u =>
                      cases u
                      exact congrArg Except.ok (Except.ok.inj h)
          | _ => exact .inl ⟨rfl, rfl, _, rfl⟩

end Cuse2Net.Relay

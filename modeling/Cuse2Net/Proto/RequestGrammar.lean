import Cuse2Net.Proto.Request

/-!
# The grammar of requests

Which streams `Request::recv` accepts. `WellFormed` is the grammar, over the bytes of the stream and
without the receiver or a host: a header of 16 bytes with big-endian fields, a length that fits the
operation, and for an ioctl an argument type whose object fits the data. `Holds` says which request a
message holds. `recv_accepts_iff` says that the receiver accepts a stream exactly when it starts with a
well-formed message, that it takes that message and no more, that it returns the request that the
message holds, and that it never panics.

Acceptance needs two arguments. `recv_takes` follows the receiver on any stream: what it has taken
when it succeeds is a well-formed message. `recv_of_wellFormed` builds the successful run from the
bytes.
-/

set_option autoImplicit false

namespace Cuse2Net.Proto.Request

open Cuse2Net.Lib
open Cuse2Net.Lib.Bytes
open Cuse2Net.IoctlFfi

/-! ## The grammar -/

/-- The big-endian number in the `n` bytes from `off` on. -/
def fieldAt (bs : List UInt8) (off n : Nat) : Nat := ofNatBytes ((bs.drop off).take n).reverse

/-- The operation. -/
def opAt (bs : List UInt8) : Nat := fieldAt bs 0 1

/-- The length of the message behind the header. -/
def lenAt (bs : List UInt8) : Nat := fieldAt bs 4 4

/-- The sequence number. -/
def seqAt (bs : List UInt8) : Nat := fieldAt bs 8 8

/-- The argument type of an ioctl. -/
def argTypeAt (bs : List UInt8) : Nat := fieldAt bs 20 1

/-- The size of the object of an argument type. -/
def objectSize : Nat → Nat
  | 1 | 3 => 8
  | 4 => 64
  | 5 | 6 => 4
  | _ => 0

/-- The lengths that an operation may have. -/
def BodyFits (op len argType : Nat) : Prop :=
  match op with
  | 1 => len = 8
  | 2 => len = 0
  | 3 => 16 ≤ len
  | 4 => len = 16
  | 5 => 8 ≤ len ∧ argType ≤ 6 ∧ objectSize argType ≤ len - 8
  | 6 => len = 16
  | 7 => len = 0
  | _ => False

instance (op len argType : Nat) : Decidable (BodyFits op len argType) := by
  unfold BodyFits
  split <;> infer_instance

/-- The stream starts with a message. -/
structure WellFormed (bs : List UInt8) : Prop where
  header : 16 ≤ bs.length
  len_le : lenAt bs ≤ 0x10000
  payload : 16 + lenAt bs ≤ bs.length
  seq_ne : seqAt bs ≠ 0
  body : BodyFits (opAt bs) (lenAt bs) (argTypeAt bs)

/-- The request that a message with an operation number and a body holds for a host `e`: the structure
of the operation, and the data behind it. -/
inductive Holds (e : Endian) (seq : Sequence) : Nat → List UInt8 → Request → Prop where
  | «open» (info : Open) : Holds e seq 1 ((Open.layout e).bytes info) (.open seq info)
  | release : Holds e seq 2 [] (.release seq)
  | write (info : Write) (data : List UInt8) :
      Holds e seq 3 ((Write.layout e).bytes info ++ data) (.write seq info data)
  | read (info : Read) : Holds e seq 4 ((Read.layout e).bytes info) (.read seq info)
  | ioctl (info : Ioctl) (data : List UInt8) (arg : Arg)
      (harg : Arg.fromRaw e (info.argType.asNative e) data = .ok arg) :
      Holds e seq 5 ((Ioctl.layout e).bytes info ++ data) (.ioctl seq info arg)
  | poll (info : Poll) : Holds e seq 6 ((Poll.layout e).bytes info) (.poll seq info)
  | interrupt : Holds e seq 7 [] (.interrupt seq)

theorem drop_write_info {e : Endian} (info : Write) (data : List UInt8) :
    ((Write.layout e).bytes info ++ data).drop 16 = data := by
  have hinfo : ((Write.layout e).bytes info).length = 16 := (Write.layout e).length_bytes info
  rw [List.drop_left' hinfo]

theorem Holds.data {e : Endian} {seq seq' : Sequence} {op : Nat} {body data : List UInt8}
    {info : Write} (h : Holds e seq op body (.write seq' info data)) : data = body.drop 16 := by
  cases h with
  | write info data => exact (drop_write_info info data).symm

/-- A message with the operation of a write holds one. -/
theorem Holds.write_of_op {e : Endian} {seq : Sequence} {body : List UInt8} {req : Request}
    (h : Holds e seq 3 body req) : ∃ info, req = .write seq info (body.drop 16) := by
  cases h with
  | write info data => exact ⟨info, by rw [drop_write_info]⟩

/-- Only a message with the operation of an open request holds one. -/
theorem Holds.op_of_open {e : Endian} {seq seq' : Sequence} {op : Nat} {body : List UInt8}
    {info : Open} (h : Holds e seq op body (.open seq' info)) : op = 1 := by
  cases h with
  | «open» info => rfl

/-! ## The fields in the receiver's structures -/

theorem fieldAt_append {a b c : List UInt8} {off n : Nat} (ha : a.length = off)
    (hb : b.length = n) : fieldAt (a ++ (b ++ c)) off n = ofNatBytes b.reverse := by
  rw [fieldAt, List.drop_left' ha, List.take_left' hb]

/-- The memory image of a header, field by field. -/
theorem bytes_header (e : Endian) (hdr : Header) :
    (Header.layout e).bytes hdr = (be8 e).bytes hdr.op ++ (((u8 e).array 3).bytes hdr.pad ++
      ((be32 e).bytes hdr.len ++ (be64 e).bytes hdr.seq)) :=
  rfl

section Header

variable (e : Endian) (hdr : Header) (rest : List UInt8)

theorem opAt_header : opAt ((Header.layout e).bytes hdr ++ rest) = (hdr.op.asNative e).toNat := by
  rw [bytes_header, List.append_assoc]
  refine (fieldAt_append (a := []) rfl ((be8 e).length_bytes _)).trans ?_
  exact Be.ofNatBytes_bytes byteWidth_8 e hdr.op

theorem lenAt_header : lenAt ((Header.layout e).bytes hdr ++ rest) = (hdr.len.asNative e).toNat := by
  rw [bytes_header, List.append_assoc, List.append_assoc, List.append_assoc, ← List.append_assoc]
  refine (fieldAt_append ?_ ((be32 e).length_bytes _)).trans ?_
  · rw [List.length_append, Layout.length_bytes, Layout.length_bytes]
    rfl
  · exact Be.ofNatBytes_bytes byteWidth_32 e hdr.len

theorem seqAt_header : seqAt ((Header.layout e).bytes hdr ++ rest) = (hdr.seq.asNative e).toNat := by
  rw [bytes_header, List.append_assoc, List.append_assoc, List.append_assoc, ← List.append_assoc,
    ← List.append_assoc]
  refine (fieldAt_append ?_ ((be64 e).length_bytes _)).trans ?_
  · rw [List.length_append, List.length_append, Layout.length_bytes, Layout.length_bytes,
      Layout.length_bytes]
    rfl
  · exact Be.ofNatBytes_bytes byteWidth_64 e hdr.seq

/-- The argument type is in the body of the message. -/
theorem argTypeAt_header : argTypeAt ((Header.layout e).bytes hdr ++ rest) = fieldAt rest 4 1 := by
  have hhdr : ((Header.layout e).bytes hdr).length = 16 := (Header.layout e).length_bytes hdr
  have hdrop : ((Header.layout e).bytes hdr ++ rest).drop (16 + 4) = rest.drop 4 := by
    rw [← List.drop_drop, List.drop_left' hhdr]
  exact congrArg (fun bs => ofNatBytes (bs.take 1).reverse) hdrop

theorem fieldAt_argType (info : Ioctl) :
    fieldAt ((Ioctl.layout e).bytes info ++ rest) 4 1 = (info.argType.asNative e).toNat := by
  have hbytes : (Ioctl.layout e).bytes info = (be32 e).bytes info.cmd ++
      ((be8 e).bytes info.argType ++ ((be8 e).array 3).bytes info.pad) := rfl
  rw [hbytes, List.append_assoc, List.append_assoc]
  refine (fieldAt_append ((be32 e).length_bytes _) ((be8 e).length_bytes _)).trans ?_
  exact Be.ofNatBytes_bytes byteWidth_8 e info.argType

end Header

theorem tryAsObject_isOk_iff {T : Type} (L : Layout T) (g : T → Arg) (buf : List UInt8) :
    (∃ a, (Arg.tryAsObject L buf).map g = .ok a) ↔ L.size ≤ buf.length := by
  unfold Arg.tryAsObject
  by_cases hlt : buf.length < L.size
  · rw [if_pos hlt]
    refine ⟨?_, fun hle => absurd hlt (Nat.not_lt.2 hle)⟩
    rintro ⟨a, ha⟩
    cases ha
  · rw [if_neg hlt]
    exact ⟨fun _ => Nat.le_of_not_lt hlt, fun _ => ⟨_, rfl⟩⟩

/-- **Which argument data is accepted**: the type is known and its object fits the data. -/
theorem fromRaw_isOk_iff (e : Endian) (code : BitVec 8) (buf : List UInt8) :
    (∃ a, Arg.fromRaw e code buf = .ok a) ↔ code.toNat ≤ 6 ∧ objectSize code.toNat ≤ buf.length := by
  unfold Arg.fromRaw
  generalize code.toNat = n
  match n with
  | 0 | 2 => exact ⟨fun _ => ⟨by decide, Nat.zero_le _⟩, fun _ => ⟨_, rfl⟩⟩
  | 1 | 3 | 4 | 5 | 6 => exact (tryAsObject_isOk_iff _ _ buf).trans (and_iff_right (by decide)).symm
  | n + 7 =>
      refine ⟨?_, fun h => absurd h.1 (by omega)⟩
      rintro ⟨a, ha⟩
      cases ha

/-- A known operation, by its number. -/
theorem tryFromU8_eq_some {v : BitVec 8} {op : RequestCode}
    (h : RequestCode.tryFromU8 v = some op) : v.toNat = op.asU8.toNat := by
  unfold RequestCode.tryFromU8 at h
  split at h <;> first
    | (rename_i hv; obtain rfl := Option.some.inj h; exact hv)
    | cases h

theorem fromRaw_ne_panic {e : Endian} {code : BitVec 8} {buf : List UInt8} :
    Arg.fromRaw e code buf ≠ .error .panic := by
  intro h
  rcases Arg.fromRaw_error h with h | h <;> cases h

/-! ## What the receiver takes -/

theorem ne_panic_of_connection {f : Failure} (h : f.Connection) : f ≠ .panic := by
  obtain ⟨errno, rfl⟩ := h
  intro h
  cases h

/-- What is known of the body of a message when the receiver has taken `body` for it: `l` bytes of the
message are left, and when there are none, the length fits the operation. -/
structure BodyTaken (e : Endian) (seq : Sequence) (op : RequestCode) (len : Nat) (body : List UInt8)
    (req : Request) (rxLen : Option Nat) : Prop where
  left : ∃ l, rxLen = some l ∧ body.length + l = len
  fits : rxLen = some 0 → ∀ rest, BodyFits op.asU8.toNat len (fieldAt (body ++ rest) 4 1)
  holds : Holds e seq op.asU8.toNat body req

/-- The outcome of the part of the receiver that depends on the operation. -/
def BodyOutcome (e : Endian) (seq : Sequence) (op : RequestCode) (len : Nat) (body : List UInt8) :
    Except Failure (Request × Option Nat) → Prop
  | .ok res => BodyTaken e seq op len body res.1 res.2
  | .error f => f ≠ .panic

section Body

variable {e : Endian} {seq : Sequence}

/-- An operation with one structure: the message is at least as long as the structure, and as long as
it when nothing is left. -/
theorem recvTo_body {T : Type} (L : Layout T) (op : RequestCode) (len : Nat) (req : T → Request)
    (hholds : ∀ t, Holds e seq op.asU8.toNat (L.bytes t) (req t))
    (hfits : ∀ argType, len = L.size → BodyFits op.asU8.toNat len argType) :
    Takes (recvTo L (some len) >>= fun r => pure (req r.1, r.2)) (BodyOutcome e seq op len) := by
  refine (recvTo_takes _ _).bind (fun _ _ hf => ne_panic_of_connection hf) ?_
  rintro bs ⟨info, avail⟩ ⟨rfl, havail, hle⟩
  obtain rfl : avail = some (len - L.size) := havail
  have hsize := hle len rfl
  refine Takes.pure ?_
  rw [List.append_nil]
  refine ⟨⟨_, rfl, ?_⟩, fun hz _ => hfits _ ?_, hholds info⟩
  · rw [L.length_bytes]
    omega
  · have hzero := Option.some.inj hz
    omega

/-- An operation without a body. -/
theorem pure_body (op : RequestCode) (len : Nat) (req : Request)
    (hholds : Holds e seq op.asU8.toNat [] req)
    (hfits : ∀ argType, len = 0 → BodyFits op.asU8.toNat len argType) :
    Takes (pure (req, some len)) (BodyOutcome e seq op len) :=
  Takes.pure ⟨⟨len, rfl, Nat.zero_add len⟩, fun hz _ => hfits _ (Option.some.inj hz), hholds⟩

/-- A structure and data of the remaining length, for which the buffer has room. -/
theorem recvTo_data_body {T : Type} (L : Layout T) {tmpLen len : Nat} (hlen : len ≤ tmpLen)
    {f : T × Option Nat → List UInt8 × Option Nat → Reader Failure (Request × Option Nat)}
    {S : List UInt8 → Except Failure (Request × Option Nat) → Prop}
    (herr : ∀ bs f, f ≠ .panic → S bs (.error f))
    (hok : ∀ info data, L.size + data.length = len →
      Takes (f (info, some data.length) (data, some 0)) fun bs' r =>
        S (L.bytes info ++ (data ++ bs')) r) :
    Takes (do
      let info ← recvTo L (some len)
      let l ← Reader.lift (unwrapLen info.2)
      let rxbuf ← Reader.lift (subSlice tmpLen l)
      let data ← recvToBytes rxbuf info.2
      f info data) S := by
  refine (recvTo_takes _ _).bind (fun bs g hg => herr bs g (ne_panic_of_connection hg)) ?_
  rintro bs ⟨info, avail⟩ ⟨rfl, havail, hle⟩
  obtain rfl : avail = some (len - L.size) := havail
  have hsize := hle len rfl
  refine Takes.bind_lift (fun g hg => by cases hg) ?_
  rintro l ⟨⟩
  -- the rest of the message fits the buffer, so the slice is in range
  rw [subSlice_eq (Nat.le_trans (Nat.sub_le len L.size) hlen)]
  refine Takes.bind_lift (fun g hg => by cases hg) ?_
  rintro rxbuf ⟨⟩
  refine (recvToBytes_takes _ _).bind (fun bs g hg => herr _ g (ne_panic_of_connection hg)) ?_
  rintro data _ ⟨rfl, hdata, -⟩
  rw [List.length_replicate] at hdata
  have hrest : availAfter (some (len - L.size)) (List.replicate (len - L.size) (0 : UInt8)).length =
      some 0 := by
    rw [List.length_replicate, availAfter_some, Nat.sub_self]
  rw [hrest, ← hdata]
  exact (hok info data (by omega)).mono fun bs' r h => h

/-- **What the body of a message takes**, by operation. -/
theorem recvBody_takes {tmpLen len : Nat} (hlen : len ≤ tmpLen) (seq : Sequence)
    (op : RequestCode) : Takes (recvBody e tmpLen seq (some len) op) (BodyOutcome e seq op len) := by
  cases op with
  | Open => exact recvTo_body (Open.layout e) .Open len (.open seq) .open fun _ h => h
  | Release => exact pure_body .Release len (.release seq) .release fun _ h => h
  | Read => exact recvTo_body (Read.layout e) .Read len (.read seq) .read fun _ h => h
  | Poll => exact recvTo_body (Poll.layout e) .Poll len (.poll seq) .poll fun _ h => h
  | Interrupt => exact pure_body .Interrupt len (.interrupt seq) .interrupt fun _ h => h
  | Write =>
      refine recvTo_data_body (Write.layout e) hlen (f := fun info data =>
        pure (.write seq info.1 data.1, data.2)) (fun _ _ h => h) fun info data htotal => ?_
      refine Takes.pure ?_
      rw [List.append_nil]
      refine ⟨⟨0, rfl, ?_⟩, fun _ _ => ?_, .write info data⟩
      · rw [List.length_append, Layout.length_bytes]
        exact htotal
      · show 16 ≤ len
        exact htotal ▸ Nat.le_add_right 16 _
  | Ioctl =>
      refine recvTo_data_body (Ioctl.layout e) hlen (f := fun info data => do
        let arg ← Reader.lift (Arg.fromRaw e (info.1.argType.asNative e) data.1)
        pure (.ioctl seq info.1 arg, data.2)) (fun _ _ h => h) fun info data htotal => ?_
      refine Takes.bind_lift ?_ ?_
      · rintro g hg rfl
        exact fromRaw_ne_panic hg
      · intro arg harg
        have hraw := (fromRaw_isOk_iff e _ data).1 ⟨arg, harg⟩
        have hsize : 8 + data.length = len := htotal
        refine Takes.pure ?_
        rw [List.append_nil]
        refine ⟨⟨0, rfl, ?_⟩, fun _ rest => ?_, .ioctl info data arg harg⟩
        · rw [List.length_append, Layout.length_bytes]
          exact htotal
        · rw [List.append_assoc, fieldAt_argType]
          show 8 ≤ len ∧ _ ≤ 6 ∧ _ ≤ len - 8
          refine ⟨by omega, hraw.1, ?_⟩
          have hdata : len - 8 = data.length := by omega
          rw [hdata]
          exact hraw.2

end Body

/-- What is known of a message that the receiver has accepted. -/
structure Taken (e : Endian) (bs : List UInt8) (req : Request) : Prop where
  wellFormed : ∀ rest, WellFormed (bs ++ rest)
  length_eq : ∀ rest, bs.length = 16 + lenAt (bs ++ rest)
  holds : ∃ seq, ∀ rest, seq.val.toNat = seqAt (bs ++ rest) ∧
    Holds e seq (opAt (bs ++ rest)) (bs.drop 16) req

/-- The outcome of the receiver. -/
def Outcome (e : Endian) (bs : List UInt8) : Except Failure Request → Prop
  | .ok req => Taken e bs req
  | .error f => f ≠ .panic

theorem sequence_ok_iff (e : Endian) (hdr : Header) :
    (∃ seq, hdr.sequence e = .ok seq) ↔ (hdr.seq.asNative e).toNat ≠ 0 := by
  unfold Header.sequence
  by_cases hz : hdr.seq.asNative e = 0
  · rw [dif_pos hz, hz]
    refine ⟨?_, fun h => absurd rfl h⟩
    rintro ⟨seq, h⟩
    cases h
  · rw [dif_neg hz]
    exact ⟨fun _ h => hz (BitVec.eq_of_toNat_eq h), fun _ => ⟨_, rfl⟩⟩

theorem sequence_val {e : Endian} {hdr : Header} {seq : Sequence} (h : hdr.sequence e = .ok seq) :
    seq.val = hdr.seq.asNative e := by
  unfold Header.sequence at h
  split at h
  · cases h
  · rw [← Except.ok.inj h]

/-- A header and a body that was taken as a whole are a message. -/
theorem taken_of_body {e : Endian} {hdr : Header} {op : RequestCode} {seq : Sequence}
    {body : List UInt8} {req : Request} (hlen : (hdr.len.asNative e).toNat ≤ MAX_SZ)
    (hop : RequestCode.tryFromU8 (hdr.op.asNative e) = some op) (hseq : hdr.sequence e = .ok seq)
    (h : BodyTaken e seq op (hdr.len.asNative e).toNat body req (some 0)) :
    Taken e ((Header.layout e).bytes hdr ++ body) req := by
  have hhdr : ((Header.layout e).bytes hdr).length = 16 := (Header.layout e).length_bytes hdr
  obtain ⟨l, hl, hbody⟩ := h.left
  obtain rfl := Option.some.inj hl
  refine ⟨fun rest => ?_, fun rest => ?_, seq, fun rest => ⟨?_, ?_⟩⟩
  · rw [List.append_assoc]
    refine ⟨?_, ?_, ?_, ?_, ?_⟩
    · rw [List.length_append, hhdr]
      exact Nat.le_add_right 16 _
    · rw [lenAt_header]
      exact hlen
    · rw [lenAt_header, List.length_append, List.length_append, hhdr]
      omega
    · rw [seqAt_header]
      exact (sequence_ok_iff e hdr).1 ⟨seq, hseq⟩
    · rw [opAt_header, lenAt_header, argTypeAt_header, tryFromU8_eq_some hop]
      exact h.fits rfl rest
  · rw [List.append_assoc, lenAt_header, List.length_append, hhdr, ← hbody, Nat.add_zero]
  · rw [List.append_assoc, seqAt_header, sequence_val hseq]
  · rw [List.append_assoc, opAt_header, tryFromU8_eq_some hop, List.drop_left' hhdr]
    exact h.holds

/-- **What the receiver takes from any stream.** -/
theorem recv_takes (e : Endian) {tmpLen : Nat} (htmp : MAX_SZ ≤ tmpLen) :
    Takes (recv e tmpLen) (Outcome e) := by
  unfold recv
  refine (recvObject_takes _ _ _ _).bind (fun _ _ hf => ne_panic_of_connection hf) ?_
  rintro bs ⟨hdr, avail⟩ ⟨rfl, -, -⟩
  simp only
  split
  · exact Takes.fail fun h => by cases h
  rename_i hgt
  have hlen := Nat.le_of_not_lt hgt
  cases hop : RequestCode.tryFromU8 (hdr.op.asNative e) with
  | none =>
      refine Takes.bind_lift ?_ (fun op h => by cases h)
      rintro f ⟨⟩ h
      cases h
  | some op =>
      refine Takes.bind_lift (fun f h => by cases h) ?_
      rintro _ ⟨⟩
      refine Takes.bind_lift ?_ fun seq hseq => ?_
      · rintro f hf rfl
        unfold Header.sequence at hf
        split at hf <;> cases hf
      · refine (recvBody_takes (Nat.le_trans hlen htmp) seq op).bind (fun _ _ hf => hf) ?_
        rintro body ⟨req, rxLen⟩ h
        obtain ⟨l, rfl, -⟩ := h.left
        refine Takes.bind_lift (fun f hf => by cases hf) ?_
        rintro _ ⟨⟩
        by_cases hz : l = 0
        · subst hz
          rw [if_pos rfl]
          refine Takes.pure ?_
          rw [List.append_nil]
          exact taken_of_body hlen hop hseq h
        · rw [if_neg hz]
          exact Takes.fail fun h => by cases h

/-! ## Well-formed messages are accepted -/

/-- A body of a length that fits its operation is received. -/
theorem recvBody_of_fits (e : Endian) (tmpLen : Nat) (seq : Sequence) (op : RequestCode)
    {body rest : List UInt8} (hle : body.length ≤ tmpLen)
    (hfits : BodyFits op.asU8.toNat body.length (fieldAt (body ++ rest) 4 1)) :
    ∃ req, Yields (recvBody e tmpLen seq (some body.length) op) body (.ok (req, some 0)) := by
  -- a body with the size of a structure is the image of one
  have hone : ∀ {T : Type} (L : Layout T) (req : T → Request), body.length = L.size →
      Yields (recvTo L (some body.length) >>= fun r => pure (req r.1, r.2)) body
        (.ok (req (L.parse body), some 0)) := by
    intro T L req hsize
    have h : Yields (recvTo L (some L.size) >>= fun r => pure (req r.1, r.2))
        (L.bytes (L.parse body)) (.ok (req (L.parse body), some 0)) :=
      (recvTo_all_yields L (L.parse body)).bind_nil (Yields.pure _)
    rwa [L.bytes_parse body hsize, ← hsize] at h
  cases op with
  | Open => exact ⟨_, hone (Open.layout e) (.open seq) hfits⟩
  | Read => exact ⟨_, hone (Read.layout e) (.read seq) hfits⟩
  | Poll => exact ⟨_, hone (Poll.layout e) (.poll seq) hfits⟩
  | Release =>
      obtain rfl := List.length_eq_zero_iff.1 hfits
      exact ⟨_, Yields.pure _⟩
  | Interrupt =>
      obtain rfl := List.length_eq_zero_iff.1 hfits
      exact ⟨_, Yields.pure _⟩
  | Write =>
      have hsize : 16 ≤ body.length := hfits
      have htake : (body.take 16).length = (Write.layout e).size := List.length_take_of_le hsize
      have h := @recvBody_write_yields e tmpLen seq ((Write.layout e).parse (body.take 16))
        (body.drop 16)
        (Nat.le_trans (by rw [List.length_drop]; exact Nat.sub_le _ _) hle)
      rw [(Write.layout e).bytes_parse _ htake, List.take_append_drop, ← htake, ← List.length_append,
        List.take_append_drop] at h
      exact ⟨_, h⟩
  | Ioctl =>
      obtain ⟨hsize, htype, hobject⟩ := hfits
      have htake : (body.take 8).length = (Ioctl.layout e).size := List.length_take_of_le hsize
      have hbytes := (Ioctl.layout e).bytes_parse _ htake
      -- the type that the grammar sees is the one that the receiver reads
      have hcode : (((Ioctl.layout e).parse (body.take 8)).argType.asNative e).toNat =
          fieldAt (body ++ rest) 4 1 := by
        rw [← fieldAt_argType e (body.drop 8 ++ rest), hbytes, ← List.append_assoc,
          List.take_append_drop]
      obtain ⟨arg, harg⟩ := (fromRaw_isOk_iff e
        (((Ioctl.layout e).parse (body.take 8)).argType.asNative e) (body.drop 8)).2
        (by rw [hcode, List.length_drop]; exact ⟨htype, hobject⟩)
      have h := @recvBody_ioctl_yields e tmpLen seq ((Ioctl.layout e).parse (body.take 8))
        (body.drop 8) arg
        (Nat.le_trans (by rw [List.length_drop]; exact Nat.sub_le _ _) hle) harg
      rw [hbytes, List.take_append_drop, ← htake, ← List.length_append,
        List.take_append_drop] at h
      exact ⟨_, h⟩

/-- An operation that the grammar allows is known. -/
theorem tryFromU8_of_fits {v : BitVec 8} {len argType : Nat} (h : BodyFits v.toNat len argType) :
    ∃ op, RequestCode.tryFromU8 v = some op := by
  unfold RequestCode.tryFromU8
  generalize v.toNat = n at h
  unfold BodyFits at h
  split at h
  case h_8 => exact h.elim
  all_goals exact ⟨_, rfl⟩

/-- **A well-formed message is accepted**, however it arrives. -/
theorem recv_of_wellFormed (e : Endian) {tmpLen : Nat} (htmp : MAX_SZ ≤ tmpLen) {s : Script}
    (hs : s.Clean) (h : WellFormed s.bytes) : ∃ req s', recv e tmpLen s = (.ok req, s') := by
  obtain ⟨hheader, hlen, hpayload, hseq, hbody⟩ := h
  -- cut the stream behind the header and behind the body
  obtain ⟨hdr, body, rest, hsplit, hrest⟩ : ∃ hdr body rest,
      s.bytes = (Header.layout e).bytes hdr ++ (body ++ rest) ∧ body.length = lenAt s.bytes := by
    have htake : (s.bytes.take 16).length = (Header.layout e).size := List.length_take_of_le hheader
    refine ⟨(Header.layout e).parse (s.bytes.take 16), (s.bytes.drop 16).take (lenAt s.bytes),
      (s.bytes.drop 16).drop (lenAt s.bytes), ?_, ?_⟩
    · rw [(Header.layout e).bytes_parse _ htake, List.take_append_drop, List.take_append_drop]
    · rw [List.length_take, List.length_drop]
      omega
  rw [hsplit, lenAt_header] at hlen hrest hbody
  rw [hsplit, seqAt_header] at hseq
  rw [opAt_header, argTypeAt_header] at hbody
  obtain ⟨op, hop⟩ := tryFromU8_of_fits hbody
  obtain ⟨seq, hsequence⟩ := (sequence_ok_iff e hdr).2 hseq
  rw [tryFromU8_eq_some hop, ← hrest] at hbody
  obtain ⟨req, hyields⟩ := recvBody_of_fits e tmpLen seq op
    (by rw [hrest]; exact Nat.le_trans hlen htmp) hbody
  rw [hrest] at hyields
  obtain ⟨s', hrun, -, -⟩ := recv_header_yields rfl hlen hop hsequence hyields s rest hs
    (by rw [hsplit, List.append_assoc])
  exact ⟨req, s', hrun⟩

/-- **The grammar of requests.** With a buffer of at least `0x10000` bytes and on a stream that is
delivered without failure, in any pieces and on any host, `Request::recv` returns a request exactly
when the stream starts with a well-formed message. On any stream, whenever it returns a request, the
stream starts with a well-formed message, `16 + len` bytes have been taken, and the request is the one
that they hold, with the sequence number of the header; for the operation of a `Write` it is a write
whose data is what they hold behind the first 32. It never panics, so no slice of the buffer is out of
range. -/
theorem recv_accepts_iff (e : Endian) (tmpLen : Nat) (htmp : 0x10000 ≤ tmpLen) (s : Script) :
    (s.Clean → ((∃ req s', recv e tmpLen s = (.ok req, s')) ↔ WellFormed s.bytes)) ∧
      (∀ req s', recv e tmpLen s = (.ok req, s') →
        WellFormed s.bytes ∧ s'.bytes = s.bytes.drop (16 + lenAt s.bytes) ∧
          (∃ seq, seq.val.toNat = seqAt s.bytes ∧
            Holds e seq (opAt s.bytes) ((s.bytes.take (16 + lenAt s.bytes)).drop 16) req) ∧
          (opAt s.bytes = 3 →
            ∃ seq info, req = .write seq info ((s.bytes.take (16 + lenAt s.bytes)).drop 32)) ∧
          ∀ seq info data, req = .write seq info data →
            data = (s.bytes.take (16 + lenAt s.bytes)).drop 32) ∧
      (recv e tmpLen s).1 ≠ .error .panic := by
  have hok : ∀ req s', recv e tmpLen s = (.ok req, s') →
      WellFormed s.bytes ∧ s'.bytes = s.bytes.drop (16 + lenAt s.bytes) ∧
        ∃ seq, seq.val.toNat = seqAt s.bytes ∧
          Holds e seq (opAt s.bytes) ((s.bytes.take (16 + lenAt s.bytes)).drop 16) req := by
    intro req s' hrun
    obtain ⟨bs, hbytes, htaken⟩ := recv_takes e htmp s _ _ hrun
    rw [hbytes]
    have hlen := htaken.length_eq s'.bytes
    obtain ⟨seq, hseq⟩ := htaken.holds
    refine ⟨htaken.wellFormed _, ?_, seq, (hseq _).1, ?_⟩
    · rw [List.drop_left' hlen]
    · rw [List.take_left' hlen]
      exact (hseq _).2
  refine ⟨fun hs => ⟨?_, recv_of_wellFormed e htmp hs⟩, fun req s' hrun => ?_, fun hpanic => ?_⟩
  · rintro ⟨req, s', hrun⟩
    exact (hok req s' hrun).1
  · obtain ⟨hwell, hrest, seq, hseq, hholds⟩ := hok req s' hrun
    refine ⟨hwell, hrest, ⟨seq, hseq, hholds⟩, fun hop => ?_, ?_⟩
    · rw [hop] at hholds
      obtain ⟨info, hreq⟩ := hholds.write_of_op
      rw [List.drop_drop] at hreq
      exact ⟨seq, info, hreq⟩
    · rintro seq' info data rfl
      rw [hholds.data, List.drop_drop]
  · obtain ⟨bs, -, hne⟩ := recv_takes e htmp s (.error .panic) (recv e tmpLen s).2
      (Prod.ext hpanic rfl)
    exact hne rfl

/-- A write of two bytes at the offset 5, cut inside the header and inside the data, with the first
byte of another message behind it. -/
theorem recv_accepts_write :
    ∃ req s', recv .little 0x10000 [.data 3 [0, 0], .wait,
        .data 0 [0, 0, 0, 18, 0, 0, 0, 0, 0, 0, 0, 1, 0, 0, 0, 0, 0, 0, 0, 5, 0, 0, 0, 2, 0, 0, 0, 0, 7],
        .wait, .data 8 [4]] = (.ok req, s') ∧
      s'.bytes = [4] ∧ ∃ seq info, req = .write seq info [7, 8] := by
  have h := recv_accepts_iff .little 0x10000 (Nat.le_refl _) [.data 3 [0, 0], .wait,
    .data 0 [0, 0, 0, 18, 0, 0, 0, 0, 0, 0, 0, 1, 0, 0, 0, 0, 0, 0, 0, 5, 0, 0, 0, 2, 0, 0, 0, 0, 7],
    .wait, .data 8 [4]]
  obtain ⟨req, s', hrun⟩ := (h.1 (by decide)).2 ⟨by decide, by decide, by decide, by decide, by decide⟩
  obtain ⟨-, hrest, -, hwrite, -⟩ := h.2.1 req s' hrun
  exact ⟨req, s', hrun, hrest.trans (by decide), hwrite (by decide)⟩

end Cuse2Net.Proto.Request

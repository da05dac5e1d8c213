import Cuse2Net.Cuse.ReadBuf

/-!
# Messages of the kernel

Model of `OpIn::read` in `lib.rs` of the crate `mod-cuse`: a message is a header, the structure of
its operation and, for `FUSE_WRITE` and `FUSE_IOCTL`, the data that a field of this structure
announces.

`WellFormed` describes the messages that are accepted and `OpInInfo.ofBuffer`, `OpIn.ofBody` what
they say, word by word at the offsets of the kernel's interface. `op_in_read` compares the reader
with this description: it accepts exactly the well-formed messages, returns what they say, and never
looks behind the length in the header.
-/

set_option autoImplicit false

namespace Cuse2Net.Cuse

open Cuse2Net.Lib
open Cuse2Net.Lib.Bytes
open Cuse2Net.IoctlFfi

/-! ## Operations -/

/-- `OpInInfo`. -/
structure OpInInfo where
  opcode : BitVec 32
  unique : BitVec 64
  nodeid : BitVec 64
  uid : BitVec 32
  gid : BitVec 32
  pid : BitVec 32
  deriving DecidableEq

/-- `OpInInfo::from`. -/
def OpInInfo.ofHeader (value : FuseInHeader) : OpInInfo where
  opcode := value.opcode
  unique := value.unique
  nodeid := value.nodeid
  uid := value.uid
  gid := value.gid
  pid := value.pid

/-- `KernelVersion`. -/
structure KernelVersion where
  major : BitVec 32
  minor : BitVec 32
  deriving DecidableEq

/-- `ReleaseParams`. -/
structure ReleaseParams where
  fh : BitVec 64
  flags : BitVec 32
  releaseFlags : BitVec 32
  lockOwner : BitVec 64
  deriving DecidableEq

/-- `OpenParams`. -/
structure OpenParams where
  flags : BitVec 32
  openFlags : BitVec 32
  deriving DecidableEq

/-- `WriteParams`. -/
structure WriteParams where
  fh : BitVec 64
  offset : BitVec 64
  flags : BitVec 32
  writeFlags : BitVec 32
  lockOwner : BitVec 64
  deriving DecidableEq

/-- `ReadParams`. -/
structure ReadParams where
  fh : BitVec 64
  offset : BitVec 64
  size : BitVec 32
  readFlags : BitVec 32
  lockOwner : BitVec 64
  flags : BitVec 32
  deriving DecidableEq

/-- `PollParams`. -/
structure PollParams where
  fh : BitVec 64
  kh : BitVec 64
  flags : BitVec 32
  events : BitVec 32
  deriving DecidableEq

/-- `OpIn`. -/
inductive OpIn where
  | unknown
  | cuseInit (version : KernelVersion) (flags : BitVec 32)
  | fuseOpen (params : OpenParams)
  | fuseRelease (params : ReleaseParams)
  | fuseWrite (params : WriteParams) (data : List UInt8)
  | fuseRead (params : ReadParams)
  | fuseIoctl (params : IoctlParams) (data : List UInt8)
  | fusePoll (params : PollParams)
  | fuseInterrupt (unique : BitVec 64)
  deriving DecidableEq

/-- An operation that consists of its structure. -/
def readFixed {T : Type} (ct : CType T) (iter : ReadBufIter) (op : T → OpIn) :
    Except ReadFailure OpIn := do
  let (opdata, _) ← okOrEof (iter.next ct)
  .ok (op opdata)

/-- An operation with data behind its structure. -/
def readSized {T : Type} (ct : CType T) (size : T → BitVec 32) (iter : ReadBufIter)
    (op : T → List UInt8 → OpIn) : Except ReadFailure OpIn := do
  let (opdata, iter) ← okOrEof (iter.next ct)
  let (data, _) ← okOrEof (iter.nextSlice byteType (size opdata).toNat)
  .ok (op opdata data)

namespace OpIn

/-- The `match` on the opcode in `OpIn::read`. -/
def readOp (e : Endian) (opcode : BitVec 32) (iter : ReadBufIter) : Except ReadFailure OpIn :=
  if opcode = CUSE_INIT then
    readFixed (cuseInitIn e) iter fun opdata =>
      .cuseInit { major := opdata.major, minor := opdata.minor } opdata.flags
  else if opcode = FUSE_OPEN then
    readFixed (fuseOpenIn e) iter fun opdata =>
      .fuseOpen { flags := opdata.flags, openFlags := opdata.openFlags }
  else if opcode = FUSE_RELEASE then
    readFixed (fuseReleaseIn e) iter fun opdata =>
      .fuseRelease
        { fh := opdata.fh, flags := opdata.flags, releaseFlags := opdata.releaseFlags,
          lockOwner := opdata.lockOwner }
  else if opcode = FUSE_WRITE then
    readSized (fuseWriteIn e) FuseWriteIn.size iter fun opdata wdata =>
      .fuseWrite
        { fh := opdata.fh, offset := opdata.offset, writeFlags := opdata.writeFlags,
          lockOwner := opdata.lockOwner, flags := opdata.flags } wdata
  else if opcode = FUSE_READ then
    readFixed (fuseReadIn e) iter fun opdata =>
      .fuseRead
        { fh := opdata.fh, size := opdata.size, offset := opdata.offset,
          readFlags := opdata.readFlags, lockOwner := opdata.lockOwner, flags := opdata.flags }
  else if opcode = FUSE_INTERRUPT then
    readFixed (fuseInterruptIn e) iter fun opdata => .fuseInterrupt opdata.unique
  else if opcode = FUSE_IOCTL then
    readSized (fuseIoctlIn e) FuseIoctlIn.inSize iter fun opdata indata =>
      .fuseIoctl
        { fh := opdata.fh, flags := opdata.flags, cmd := opdata.cmd, arg := opdata.arg,
          inSize := opdata.inSize, outSize := opdata.outSize } indata
  else if opcode = FUSE_POLL then
    readFixed (fusePollIn e) iter fun opdata =>
      .fusePoll
        { fh := opdata.fh, kh := opdata.kh, flags := opdata.flags, events := opdata.events }
  else .ok .unknown

/-- `OpIn::read`. -/
def read (e : Endian) (iter : ReadBufIter) : Except ReadFailure (OpInInfo × OpIn) := do
  let (hdr, iter) ← okOrEof (iter.next (fuseInHeader e))
  let (_, iter) ← iter.truncate hdr.len.toNat
  let res ← readOp e hdr.opcode iter
  -- bytes that are left over only cause a warning
  .ok (OpInInfo.ofHeader hdr, res)

end OpIn

/-! ## Well-formed messages -/

/-- The field `len` of the header. -/
def hdrLen (e : Endian) (buf : List UInt8) : Nat := ((u32 e).readAt buf 0).toNat

/-- The field `opcode` of the header. -/
def hdrOpcode (e : Endian) (buf : List UInt8) : BitVec 32 := (u32 e).readAt buf 4

/-- What the header says. -/
def OpInInfo.ofBuffer (e : Endian) (buf : List UInt8) : OpInInfo where
  opcode := (u32 e).readAt buf 4
  unique := (u64 e).readAt buf 8
  nodeid := (u64 e).readAt buf 16
  uid := (u32 e).readAt buf 24
  gid := (u32 e).readAt buf 28
  pid := (u32 e).readAt buf 32

/-- The `len - 40` bytes behind the header. -/
def body (e : Endian) (buf : List UInt8) : List UInt8 := (buf.drop 40).take (hdrLen e buf - 40)

/-- Size of the structure of an operation, if the operation is known. -/
def structSize (opcode : BitVec 32) : Option Nat :=
  if opcode = CUSE_INIT then some 16
  else if opcode = FUSE_OPEN then some 8
  else if opcode = FUSE_RELEASE then some 24
  else if opcode = FUSE_WRITE then some 40
  else if opcode = FUSE_READ then some 40
  else if opcode = FUSE_INTERRUPT then some 8
  else if opcode = FUSE_IOCTL then some 32
  else if opcode = FUSE_POLL then some 24
  else none

/-- The number of bytes that follow the structure. -/
def dataSize (e : Endian) (opcode : BitVec 32) (bs : List UInt8) : Nat :=
  if opcode = FUSE_WRITE then ((u32 e).readAt bs 16).toNat
  else if opcode = FUSE_IOCTL then ((u32 e).readAt bs 24).toNat
  else 0

/-- What the bytes behind the header say. -/
def OpIn.ofBody (e : Endian) (opcode : BitVec 32) (bs : List UInt8) : OpIn :=
  if opcode = CUSE_INIT then
    .cuseInit { major := (u32 e).readAt bs 0, minor := (u32 e).readAt bs 4 } ((u32 e).readAt bs 12)
  else if opcode = FUSE_OPEN then
    .fuseOpen { flags := (u32 e).readAt bs 0, openFlags := (u32 e).readAt bs 4 }
  else if opcode = FUSE_RELEASE then
    .fuseRelease
      { fh := (u64 e).readAt bs 0, flags := (u32 e).readAt bs 8,
        releaseFlags := (u32 e).readAt bs 12, lockOwner := (u64 e).readAt bs 16 }
  else if opcode = FUSE_WRITE then
    .fuseWrite
      { fh := (u64 e).readAt bs 0, offset := (u64 e).readAt bs 8,
        writeFlags := (u32 e).readAt bs 20, lockOwner := (u64 e).readAt bs 24,
        flags := (u32 e).readAt bs 32 }
      ((bs.drop 40).take (dataSize e FUSE_WRITE bs))
  else if opcode = FUSE_READ then
    .fuseRead
      { fh := (u64 e).readAt bs 0, offset := (u64 e).readAt bs 8, size := (u32 e).readAt bs 16,
        readFlags := (u32 e).readAt bs 20, lockOwner := (u64 e).readAt bs 24,
        flags := (u32 e).readAt bs 32 }
  else if opcode = FUSE_INTERRUPT then .fuseInterrupt ((u64 e).readAt bs 0)
  else if opcode = FUSE_IOCTL then
    .fuseIoctl
      { fh := (u64 e).readAt bs 0, flags := (u32 e).readAt bs 8, cmd := (u32 e).readAt bs 12,
        arg := (u64 e).readAt bs 16, inSize := (u32 e).readAt bs 24,
        outSize := (u32 e).readAt bs 28 }
      ((bs.drop 32).take (dataSize e FUSE_IOCTL bs))
  else if opcode = FUSE_POLL then
    .fusePoll
      { fh := (u64 e).readAt bs 0, kh := (u64 e).readAt bs 8, flags := (u32 e).readAt bs 16,
        events := (u32 e).readAt bs 20 }
  else .unknown

/-- The bytes behind the header hold the structure of a known operation and its data. -/
def Fits (e : Endian) (opcode : BitVec 32) (bs : List UInt8) : Prop :=
  ∀ n ∈ structSize opcode, n + dataSize e opcode bs ≤ bs.length

/-- A message with a complete header whose length is right and whose operation is complete. -/
structure WellFormed (e : Endian) (buf : List UInt8) : Prop where
  header : 40 ≤ buf.length
  covers : 40 ≤ hdrLen e buf
  inside : hdrLen e buf ≤ buf.length
  fits : Fits e (hdrOpcode e buf) (body e buf)

theorem fits_iff {e : Endian} {opcode : BitVec 32} {n : Nat} (h : structSize opcode = some n)
    (bs : List UInt8) : Fits e opcode bs ↔ n + dataSize e opcode bs ≤ bs.length := by
  unfold Fits
  rw [h]
  constructor
  · intro hall
    exact hall n rfl
  · intro hle m hm
    cases hm
    exact hle

/-! ## One operation -/

/-- An operation with the structure and data that it asks for is returned; otherwise there is an
error. -/
def Outcome (e : Endian) (opcode : BitVec 32) (bs : List UInt8) (r : Except ReadFailure OpIn) :
    Prop :=
  (Fits e opcode bs ∧ r = .ok (OpIn.ofBody e opcode bs)) ∨
    (¬Fits e opcode bs ∧ ∃ err, r = .error (.error err))

section OneOperation

variable {T : Type} {iter : ReadBufIter}

theorem readFixed_eq (ct : CType T) (op : T → OpIn) (haddr : 8 ∣ iter.buf.addr)
    (hiter : iter.Within) :
    readFixed ct iter op =
      if ct.layout.size ≤ iter.buf.bytes.length then .ok (op (ct.layout.readAt iter.buf.bytes 0))
      else .error (shortfall iter.buf.bytes.length iter.buf.bytes.length) := by
  unfold readFixed
  rw [ReadBufIter.okOrEof_next (ct.align_dvd.trans haddr) hiter]
  by_cases hfit : ct.layout.size ≤ iter.buf.bytes.length
  · rw [if_pos hfit, if_pos hfit]
    rfl
  · rw [if_neg hfit, if_neg hfit]
    rfl

theorem readSized_eq (ct : CType T) (size : T → BitVec 32) (op : T → List UInt8 → OpIn)
    (haddr : 8 ∣ iter.buf.addr) (hiter : iter.Within) :
    readSized ct size iter op =
      let x := ct.layout.readAt iter.buf.bytes 0
      let tail := iter.buf.bytes.drop ct.layout.size
      if ct.layout.size ≤ iter.buf.bytes.length then
        if (size x).toNat ≤ tail.length then .ok (op x (tail.take (size x).toNat))
        else .error (shortfall tail.length 0)
      else .error (shortfall iter.buf.bytes.length iter.buf.bytes.length) := by
  set x := ct.layout.readAt iter.buf.bytes 0
  set tail := iter.buf.bytes.drop ct.layout.size
  unfold readSized
  rw [ReadBufIter.okOrEof_next (ct.align_dvd.trans haddr) hiter]
  by_cases hfit : ct.layout.size ≤ iter.buf.bytes.length
  · rw [if_pos hfit, if_pos hfit]
    show (okOrEof ((iter.advance ct.layout.size).nextSlice byteType (size x).toNat) >>= fun p =>
      .ok (op x p.1)) = _
    rw [ReadBufIter.okOrEof_nextSlice _ (hiter.advance hfit)]
    show ((if (size x).toNat ≤ tail.length then _ else _) >>= _) = _
    by_cases hdata : (size x).toNat ≤ tail.length
    · rw [if_pos hdata, if_pos hdata]
      rfl
    · rw [if_neg hdata, if_neg hdata]
      rfl
  · rw [if_neg hfit, if_neg hfit]
    rfl

variable {e : Endian} {opcode : BitVec 32}

theorem readFixed_outcome {ct : CType T} {op : T → OpIn}
    (hsize : structSize opcode = some ct.layout.size) (hdata : ∀ bs, dataSize e opcode bs = 0)
    (hop : ∀ bs, op (ct.layout.readAt bs 0) = OpIn.ofBody e opcode bs)
    (haddr : 8 ∣ iter.buf.addr) (hiter : iter.Within) :
    Outcome e opcode iter.buf.bytes (readFixed ct iter op) := by
  unfold Outcome
  rw [readFixed_eq ct op haddr hiter, fits_iff hsize, hdata, Nat.add_zero]
  by_cases hfit : ct.layout.size ≤ iter.buf.bytes.length
  · rw [if_pos hfit, hop]
    exact .inl ⟨hfit, rfl⟩
  · rw [if_neg hfit]
    exact .inr ⟨hfit, _, rfl⟩

theorem readSized_outcome {ct : CType T} {size : T → BitVec 32} {op : T → List UInt8 → OpIn}
    (hsize : structSize opcode = some ct.layout.size)
    (hdata : ∀ bs, dataSize e opcode bs = (size (ct.layout.readAt bs 0)).toNat)
    (hop : ∀ bs, op (ct.layout.readAt bs 0)
      ((bs.drop ct.layout.size).take (dataSize e opcode bs)) = OpIn.ofBody e opcode bs)
    (haddr : 8 ∣ iter.buf.addr) (hiter : iter.Within) :
    Outcome e opcode iter.buf.bytes (readSized ct size iter op) := by
  unfold Outcome
  simp only [readSized_eq ct size op haddr hiter, fits_iff hsize, ← hdata, List.length_drop, hop]
  by_cases hfit : ct.layout.size ≤ iter.buf.bytes.length
  · rw [if_pos hfit]
    by_cases hmore : dataSize e opcode iter.buf.bytes ≤ iter.buf.bytes.length - ct.layout.size
    · rw [if_pos hmore]
      exact .inl ⟨by omega, rfl⟩
    · rw [if_neg hmore]
      exact .inr ⟨by omega, _, rfl⟩
  · rw [if_neg hfit]
    exact .inr ⟨by omega, _, rfl⟩

end OneOperation

section Operation

variable {e : Endian} {iter : ReadBufIter}

/-- **The operation** is read off its structure and data, whatever the opcode is. -/
theorem readOp_outcome (opcode : BitVec 32) (haddr : 8 ∣ iter.buf.addr) (hiter : iter.Within) :
    Outcome e opcode iter.buf.bytes (OpIn.readOp e opcode iter) := by
  unfold OpIn.readOp
  split
  case isTrue h =>
    subst h
    refine readFixed_outcome rfl (fun _ => rfl) (fun bs => ?_) haddr hiter
    rw [readAt_cuseInitIn]
    rfl
  split
  case isTrue h =>
    subst h
    refine readFixed_outcome rfl (fun _ => rfl) (fun bs => ?_) haddr hiter
    rw [readAt_fuseOpenIn]
    rfl
  split
  case isTrue h =>
    subst h
    refine readFixed_outcome rfl (fun _ => rfl) (fun bs => ?_) haddr hiter
    rw [readAt_fuseReleaseIn]
    rfl
  split
  case isTrue h =>
    subst h
    refine readSized_outcome rfl (fun bs => ?_) (fun bs => ?_) haddr hiter
    · rw [readAt_fuseWriteIn]
      rfl
    · rw [readAt_fuseWriteIn]
      rfl
  split
  case isTrue h =>
    subst h
    refine readFixed_outcome rfl (fun _ => rfl) (fun bs => ?_) haddr hiter
    rw [readAt_fuseReadIn]
    rfl
  split
  case isTrue h =>
    subst h
    exact readFixed_outcome rfl (fun _ => rfl) (fun _ => rfl) haddr hiter
  split
  case isTrue h =>
    subst h
    refine readSized_outcome rfl (fun bs => ?_) (fun bs => ?_) haddr hiter
    · rw [readAt_fuseIoctlIn]
      rfl
    · rw [readAt_fuseIoctlIn]
      rfl
  split
  case isTrue h =>
    subst h
    refine readFixed_outcome rfl (fun _ => rfl) (fun bs => ?_) haddr hiter
    rw [readAt_fusePollIn]
    rfl
  case isFalse hinit hopen hrelease hwrite hread hintr hioctl hpoll =>
    left
    constructor
    · intro n hn
      simp only [structSize, if_neg hinit, if_neg hopen, if_neg hrelease, if_neg hwrite,
        if_neg hread, if_neg hintr, if_neg hioctl, if_neg hpoll] at hn
      cases hn
    · simp only [OpIn.ofBody, if_neg hinit, if_neg hopen, if_neg hrelease, if_neg hwrite,
        if_neg hread, if_neg hintr, if_neg hioctl, if_neg hpoll]

/-- Only the bytes matter, not where they are or how many came before. -/
theorem readOp_congr (opcode : BitVec 32) {iter' : ReadBufIter} (haddr : 8 ∣ iter.buf.addr)
    (hiter : iter.Within) (haddr' : 8 ∣ iter'.buf.addr) (hiter' : iter'.Within)
    (hbytes : iter'.buf.bytes = iter.buf.bytes) :
    OpIn.readOp e opcode iter' = OpIn.readOp e opcode iter := by
  have hfixed : ∀ {T : Type} (ct : CType T) (op : T → OpIn),
      readFixed ct iter' op = readFixed ct iter op := by
    intro T ct op
    rw [readFixed_eq ct op haddr hiter, readFixed_eq ct op haddr' hiter', hbytes]
  have hsized : ∀ {T : Type} (ct : CType T) (size : T → BitVec 32) (op : T → List UInt8 → OpIn),
      readSized ct size iter' op = readSized ct size iter op := by
    intro T ct size op
    rw [readSized_eq ct size op haddr hiter, readSized_eq ct size op haddr' hiter', hbytes]
  simp only [OpIn.readOp, hfixed, hsized]

end Operation

/-! ## The whole message -/

/-- `OpIn::read` at the start of a buffer: the header, its length, and the operation. -/
theorem read_eq {e : Endian} {addr : Nat} {buf : List UInt8} (haddr : 8 ∣ addr)
    (hbuf : buf.length ≤ BUF_SZ) :
    OpIn.read e ⟨⟨addr, buf⟩, 0⟩ =
      if 40 ≤ buf.length then
        if hdrLen e buf < 40 then .error (.error (.badTruncate (hdrLen e buf) 40))
        else if buf.length < hdrLen e buf then
          .error (.error (.size (hdrLen e buf - buf.length)))
        else
          (OpIn.readOp e (hdrOpcode e buf) ⟨⟨addr + 40, body e buf⟩, 40⟩).map fun res =>
            (OpInInfo.ofBuffer e buf, res)
      else .error (shortfall buf.length buf.length) := by
  have hiter : ReadBufIter.Within ⟨⟨addr, buf⟩, 0⟩ := by
    show 0 + buf.length ≤ BUF_SZ
    omega
  unfold OpIn.read
  rw [ReadBufIter.okOrEof_next (show (fuseInHeader e).align ∣ addr from haddr) hiter]
  show (if 40 ≤ buf.length then _ else _) >>= _ = _
  by_cases hheader : 40 ≤ buf.length
  · rw [if_pos hheader, if_pos hheader]
    rw [readAt_fuseInHeader]
    show (ReadBufIter.truncate (hdrLen e buf) ⟨⟨addr + 40, buf.drop 40⟩, 0 + 40⟩ >>= fun p =>
      OpIn.readOp e (hdrOpcode e buf) p.2 >>= fun res =>
        .ok (OpInInfo.ofBuffer e buf, res)) = _
    rw [ReadBufIter.truncate_eq, Nat.zero_add]
    by_cases hcovers : hdrLen e buf < 40
    · rw [if_pos hcovers, if_pos hcovers]
      rfl
    · rw [if_neg hcovers, if_neg hcovers]
      simp only [List.length_drop]
      by_cases hinside : buf.length < hdrLen e buf
      · rw [if_pos (by omega), if_pos hinside,
          show hdrLen e buf - 40 - (buf.length - 40) = hdrLen e buf - buf.length by omega]
        rfl
      · rw [if_neg (by omega), if_neg hinside]
        show (OpIn.readOp e (hdrOpcode e buf) ⟨⟨addr + 40, body e buf⟩, 40⟩ >>= fun res =>
          .ok (OpInInfo.ofBuffer e buf, res)) = _
        cases OpIn.readOp e (hdrOpcode e buf) ⟨⟨addr + 40, body e buf⟩, 40⟩ <;> rfl
  · rw [if_neg hheader, if_neg hheader]
    rfl

section WholeMessage

variable {e : Endian} {addr : Nat} {buf : List UInt8}

theorem length_body (h : hdrLen e buf ≤ buf.length) : (body e buf).length = hdrLen e buf - 40 := by
  rw [body, List.length_take, List.length_drop]
  omega

/-- The operation starts on a multiple of 8 and stays within the buffer. -/
theorem body_within (hbuf : buf.length ≤ BUF_SZ) (hcovers : 40 ≤ hdrLen e buf)
    (hinside : hdrLen e buf ≤ buf.length) :
    ReadBufIter.Within ⟨⟨addr + 40, body e buf⟩, 40⟩ := by
  show 40 + (body e buf).length ≤ BUF_SZ
  rw [length_body hinside]
  omega

theorem body_aligned (haddr : 8 ∣ addr) : 8 ∣ addr + 40 := Nat.dvd_add haddr ⟨5, rfl⟩

/-- A message is accepted with what it says if it is well-formed, and refused with an error if not. -/
theorem read_outcome (haddr : 8 ∣ addr) (hbuf : buf.length ≤ BUF_SZ) :
    (WellFormed e buf ∧ OpIn.read e ⟨⟨addr, buf⟩, 0⟩ =
        .ok (OpInInfo.ofBuffer e buf, OpIn.ofBody e (hdrOpcode e buf) (body e buf))) ∨
      (¬WellFormed e buf ∧ ∃ err, OpIn.read e ⟨⟨addr, buf⟩, 0⟩ = .error (.error err)) := by
  rw [read_eq haddr hbuf]
  by_cases hheader : 40 ≤ buf.length
  · rw [if_pos hheader]
    by_cases hcovers : hdrLen e buf < 40
    · rw [if_pos hcovers]
      exact .inr ⟨fun h => Nat.not_lt.2 h.covers hcovers, _, rfl⟩
    · rw [if_neg hcovers]
      by_cases hinside : buf.length < hdrLen e buf
      · rw [if_pos hinside]
        exact .inr ⟨fun h => Nat.not_lt.2 h.inside hinside, _, rfl⟩
      · rw [if_neg hinside]
        rw [Nat.not_lt] at hcovers hinside
        rcases readOp_outcome (e := e) (hdrOpcode e buf) (body_aligned haddr)
          (body_within hbuf hcovers hinside) with ⟨hfits, hop⟩ | ⟨hfits, err, hop⟩
        · rw [hop]
          exact .inl ⟨⟨hheader, hcovers, hinside, hfits⟩, rfl⟩
        · rw [hop]
          exact .inr ⟨fun h => hfits h.fits, err, rfl⟩
  · rw [if_neg hheader]
    exact .inr ⟨fun h => hheader h.header, _, rfl⟩

/-- Bytes behind the length in the header change nothing. -/
theorem read_congr {addr' : Nat} {buf' : List UInt8} (haddr : 8 ∣ addr) (haddr' : 8 ∣ addr')
    (hbuf : buf.length ≤ BUF_SZ) (hbuf' : buf'.length ≤ BUF_SZ)
    (hlen : hdrLen e buf' = hdrLen e buf)
    (htake : buf'.take (hdrLen e buf) = buf.take (hdrLen e buf))
    (hsize : buf'.length = buf.length ∨ 40 ≤ hdrLen e buf) :
    OpIn.read e ⟨⟨addr', buf'⟩, 0⟩ = OpIn.read e ⟨⟨addr, buf⟩, 0⟩ := by
  rw [read_eq haddr hbuf, read_eq haddr' hbuf', hlen]
  have hmin := congrArg List.length htake
  rw [List.length_take, List.length_take] at hmin
  by_cases hinner : 40 ≤ hdrLen e buf ∧ hdrLen e buf ≤ buf.length
  · -- the header and the operation lie before the length
    obtain ⟨hcovers, hinside⟩ := hinner
    have hinside' : hdrLen e buf ≤ buf'.length := by omega
    have hhdr : (fuseInHeader e).layout.readAt buf' 0 = (fuseInHeader e).layout.readAt buf 0 := by
      have hfits : 0 + (fuseInHeader e).layout.size ≤ hdrLen e buf := hcovers
      rw [← Layout.readAt_take _ buf' hfits, htake, Layout.readAt_take _ buf hfits]
    rw [readAt_fuseInHeader, readAt_fuseInHeader] at hhdr
    have hopcode : hdrOpcode e buf' = hdrOpcode e buf := congrArg FuseInHeader.opcode hhdr
    have hinfo : OpInInfo.ofBuffer e buf' = OpInInfo.ofBuffer e buf :=
      congrArg OpInInfo.ofHeader hhdr
    have hbody : body e buf' = body e buf := by
      unfold body
      rw [hlen, ← List.drop_take, ← List.drop_take, htake]
    have hop : OpIn.readOp e (hdrOpcode e buf') ⟨⟨addr' + 40, body e buf'⟩, 40⟩ =
        OpIn.readOp e (hdrOpcode e buf) ⟨⟨addr + 40, body e buf⟩, 40⟩ := by
      rw [hopcode]
      exact readOp_congr _ (body_aligned haddr) (body_within hbuf hcovers hinside)
        (body_aligned haddr') (body_within hbuf' (hlen ▸ hcovers) (hlen ▸ hinside')) hbody
    rw [if_pos (Nat.le_trans hcovers hinside), if_pos (Nat.le_trans hcovers hinside'),
      if_neg (Nat.not_lt.2 hcovers), if_neg (Nat.not_lt.2 hcovers),
      if_neg (Nat.not_lt.2 hinside), if_neg (Nat.not_lt.2 hinside'), hop, hinfo]
  · -- otherwise the two buffers have the same size, and the error says no more than that
    have hsame : buf'.length = buf.length := by omega
    rw [hsame]
    by_cases hheader : 40 ≤ buf.length
    · rw [if_pos hheader, if_pos hheader]
      by_cases hcovers : hdrLen e buf < 40
      · rw [if_pos hcovers, if_pos hcovers]
      · have hoverrun : buf.length < hdrLen e buf := by omega
        rw [if_neg hcovers, if_neg hcovers, if_pos hoverrun, if_pos hoverrun]
    · rw [if_neg hheader, if_neg hheader]

end WholeMessage

/-- **The reader of kernel messages.** For every buffer and every message in it, `OpIn::read` returns
a value exactly if the message is well-formed, and then the words of the message at their offsets. No
index is out of range and no subtraction underflows. A message with the same length field and the same
bytes up to that length has the same result, whatever follows; the sizes of the two messages may differ
when the length covers the header. -/
theorem op_in_read (e : Endian) (rb : ReadBuf) (msg : Message) :
    (∀ r, OpIn.read e (rb.read msg).1 = .ok r ↔
      WellFormed e msg.1 ∧
        r = (OpInInfo.ofBuffer e msg.1, OpIn.ofBody e (hdrOpcode e msg.1) (body e msg.1))) ∧
      OpIn.read e (rb.read msg).1 ≠ .error .panic ∧
      ∀ (rb' : ReadBuf) (msg' : Message), hdrLen e msg'.1 = hdrLen e msg.1 →
        msg'.1.take (hdrLen e msg.1) = msg.1.take (hdrLen e msg.1) →
        msg'.1.length = msg.1.length ∨ 40 ≤ hdrLen e msg.1 →
        OpIn.read e (rb'.read msg').1 = OpIn.read e (rb.read msg).1 := by
  have haddr : ∀ rb : ReadBuf, 8 ∣ rb.buf.addr := fun rb => Nat.dvd_trans ⟨8, rfl⟩ rb.aligned
  rw [ReadBuf.read_fst]
  refine ⟨?_, ?_, ?_⟩
  · intro r
    rcases read_outcome (e := e) (haddr rb) msg.2 with ⟨hwf, hread⟩ | ⟨hwf, err, hread⟩
    · rw [hread]
      constructor
      · intro h
        cases h
        exact ⟨hwf, rfl⟩
      · rintro ⟨-, rfl⟩
        rfl
    · rw [hread]
      constructor
      · intro h
        cases h
      · rintro ⟨h, -⟩
        exact absurd h hwf
  · rcases read_outcome (e := e) (haddr rb) msg.2 with ⟨-, hread⟩ | ⟨-, err, hread⟩
    · rw [hread]
      intro h
      cases h
    · rw [hread]
      intro h
      cases h
  · intro rb' msg' hlen htake hsize
    rw [ReadBuf.read_fst]
    exact read_congr (haddr rb) (haddr rb') msg.2 msg'.2 hlen htake hsize

-- an interrupt of 48 bytes, with a byte of an older message behind it
example :
    OpIn.read .little ⟨⟨64, [48, 0, 0, 0, 36, 0, 0, 0] ++ [9, 0, 0, 0, 0, 0, 0, 0] ++
      List.replicate 24 0 ++ [7, 0, 0, 0, 0, 0, 0, 0] ++ [255]⟩, 0⟩ =
      .ok (⟨36, 9, 0, 0, 0, 0⟩, .fuseInterrupt 7) := by decide

end Cuse2Net.Cuse

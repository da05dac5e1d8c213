import Cuse2Net.Cuse.Ffi
import Cuse2Net.IoctlFfi.BitGeometry
import Cuse2Net.Virtdev.Reply

/-!
# The retry handshake of an ioctl

Model of `virtdev/ioctl.rs`. The kernel does not know how much memory of the caller an ioctl with an
arbitrary command number touches, so it first sends the request without any. The client answers with
`RETRY` and the memory areas that direction and size of the command tell, and the kernel issues the
request again with these areas. `kernelReissue` is that next request, read from the bytes of the
answer as the kernel reads them.

The client recognises the second request by its nonzero sizes. A command number can have a direction
and the size zero: then the second request is the first one (`reissued_self`).
-/

set_option autoImplicit false

namespace Cuse2Net.Virtdev

open Cuse2Net.Lib
open Cuse2Net.Lib.Bytes
open Cuse2Net.IoctlFfi
open Cuse2Net.Proto (Errno)
open Cuse2Net.Cuse (IoctlParams FuseIoctlIovec FuseIoctlOut)

/-- `ioctl_flags::RETRY`. -/
def RETRY : BitVec 32 := 1#32 <<< 2

/-- `cuse_complete_ioctl`: the result, and the message to the device if there is one. The parameter
`writev` is what the write of that message returns. -/
def cuseCompleteIoctl (e : Endian) (writev : Except Errno Nat) (unique : BitVec 64)
    (params : IoctlParams) (_data : List UInt8) : Except Cuse.Error Bool × Option FuseReply :=
  if params.flags &&& UNRESTRICTED = 0 then (.ok true, none)
  else
    let cmd := BadIoctl.new ⟨params.cmd⟩
    let inSize := params.inSize.toNat
    let outSize := params.outSize.toNat
    if inSize > 0 ∨ outSize > 0 then (.ok true, none)
    else
      let infoIn := if cmd.isWrite then some (params.arg, cmd.getSize) else none
      let infoOut := if cmd.isRead then some (params.arg, cmd.getSize) else none
      if infoIn.isNone ∧ infoOut.isNone then (.ok true, none)
      else
        let infoIn := infoIn.map fun (base, len) => FuseIoctlIovec.mk base (BitVec.ofNat 64 len)
        let infoOut := infoOut.map fun (base, len) => FuseIoctlIovec.mk base (BitVec.ofNat 64 len)
        let hdr : FuseIoctlOut :=
          { result := 0
            flags := params.flags ||| RETRY
            inIovs := if infoIn.isSome then 1 else 0
            outIovs := if infoOut.isSome then 1 else 0 }
        let iov := (FuseIoctlOut.layout e).bytes hdr ::
          (infoIn.toList ++ infoOut.toList).map (FuseIoctlIovec.layout e).bytes
        let reply := OpInInfo.sendResponse ⟨unique⟩ iov
        ((Cuse.send writev (fuseOutHeaderSize + reply.data.length)).map fun _ => false, some reply)

/-! ## The kernel's side -/

/-- Total length of the memory areas, as the kernel stores it. -/
def iovLength (iovs : List FuseIoctlIovec) : BitVec 32 :=
  BitVec.ofNat 32 (iovs.map fun v => v.len.toNat).sum

/-- The request that the kernel issues after a `RETRY` answer: the same flags, command and argument,
with the sizes of the areas that the answer lists, those to read before those to write. -/
def kernelReissue (e : Endian) (params : IoctlParams) (reply : FuseReply) : IoctlParams :=
  let L := FuseIoctlOut.layout e
  let hdr := L.parse (reply.data.take L.size)
  let iovs := (FuseIoctlIovec.layout e).parseAll (hdr.inIovs.toNat + hdr.outIovs.toNat)
    (reply.data.drop L.size)
  { params with
    inSize := iovLength (iovs.take hdr.inIovs.toNat)
    outSize := iovLength (iovs.drop hdr.inIovs.toNat) }

/-- The request `p` is answered with `RETRY`, and the kernel then issues `p'`. -/
def Reissued (e : Endian) (p p' : IoctlParams) : Prop :=
  ∃ writev unique data reply,
    cuseCompleteIoctl e writev unique p data = (.ok false, some reply) ∧
      p' = kernelReissue e p reply

/-! ## One round -/

/-- The size of the argument that a command number tells. -/
def argSize (cmd : BitVec 32) : Nat := (BadIoctl.new ⟨cmd⟩).getSize

theorem argSize_lt (cmd : BitVec 32) : argSize cmd < 2 ^ Ioctl.SIZE.bits :=
  Field.holds_extract (f := Ioctl.SIZE.field) (by decide) _

/-- A request that is answered with `RETRY`: an unrestricted one without memory, whose command
number tells a direction. -/
structure Retried (p : IoctlParams) : Prop where
  unrestricted : p.flags &&& UNRESTRICTED ≠ 0
  inSize : p.inSize = 0
  outSize : p.outSize = 0
  direction : (BadIoctl.new ⟨p.cmd⟩).isWrite = true ∨ (BadIoctl.new ⟨p.cmd⟩).isRead = true

/-- The areas of the answer for one direction: the argument, if it is transferred that way. -/
def areas (p : IoctlParams) (transferred : Bool) : List FuseIoctlIovec :=
  if transferred then [⟨p.arg, BitVec.ofNat 64 (argSize p.cmd)⟩] else []

/-- The answer to a request that is retried. -/
def retryReply (e : Endian) (unique : BitVec 64) (p : IoctlParams) : FuseReply :=
  let ins := areas p (BadIoctl.new ⟨p.cmd⟩).isWrite
  let outs := areas p (BadIoctl.new ⟨p.cmd⟩).isRead
  OpInInfo.sendResponse ⟨unique⟩
    ((FuseIoctlOut.layout e).bytes
        ⟨0, p.flags ||| RETRY, BitVec.ofNat 32 ins.length, BitVec.ofNat 32 outs.length⟩ ::
      (ins ++ outs).map (FuseIoctlIovec.layout e).bytes)

theorem cuseCompleteIoctl_of_retried (e : Endian) (writev : Except Errno Nat) (unique : BitVec 64)
    {p : IoctlParams} (h : Retried p) (data : List UInt8) :
    cuseCompleteIoctl e writev unique p data =
      ((Cuse.send writev (fuseOutHeaderSize + (retryReply e unique p).data.length)).map
        fun _ => false, some (retryReply e unique p)) := by
  obtain ⟨hun, hin, hout, hdir⟩ := h
  unfold cuseCompleteIoctl retryReply areas argSize
  rw [if_neg hun, if_neg (by simp [hin, hout])]
  -- one area for each direction of the command; without one there is no retry
  generalize (BadIoctl.new ⟨p.cmd⟩).isWrite = write at hdir
  generalize (BadIoctl.new ⟨p.cmd⟩).isRead = read at hdir
  cases write <;> cases read
  case false.false => simp at hdir
  all_goals rfl

theorem cuseCompleteIoctl_of_not_retried (e : Endian) (writev : Except Errno Nat)
    (unique : BitVec 64) {p : IoctlParams} (h : ¬Retried p) (data : List UInt8) :
    cuseCompleteIoctl e writev unique p data = (.ok true, none) := by
  unfold cuseCompleteIoctl
  by_cases hun : p.flags &&& UNRESTRICTED = 0
  · rw [if_pos hun]
  rw [if_neg hun]
  by_cases hsize : p.inSize.toNat > 0 ∨ p.outSize.toNat > 0
  · exact if_pos hsize
  have hin : p.inSize = 0 := BitVec.eq_of_toNat_eq (by simp at hsize ⊢; omega)
  have hout : p.outSize = 0 := BitVec.eq_of_toNat_eq (by simp at hsize ⊢; omega)
  have hwrite : (BadIoctl.new ⟨p.cmd⟩).isWrite = false :=
    Bool.eq_false_iff.2 fun hw => h ⟨hun, hin, hout, .inl hw⟩
  have hread : (BadIoctl.new ⟨p.cmd⟩).isRead = false :=
    Bool.eq_false_iff.2 fun hr => h ⟨hun, hin, hout, .inr hr⟩
  rw [if_neg hsize, hwrite, hread]
  rfl

theorem length_areas (p : IoctlParams) (transferred : Bool) :
    (areas p transferred).length = transferred.toNat := by
  cases transferred <;> rfl

theorem iovLength_areas (p : IoctlParams) (transferred : Bool) :
    iovLength (areas p transferred) =
      if transferred then BitVec.ofNat 32 (argSize p.cmd) else 0 := by
  have hlt : argSize p.cmd < 2 ^ 64 := Nat.lt_trans (argSize_lt p.cmd) (by decide)
  cases transferred with
  | false => rfl
  | true =>
      show BitVec.ofNat 32 ((BitVec.ofNat 64 (argSize p.cmd)).toNat + 0) = _
      rw [BitVec.toNat_ofNat, Nat.mod_eq_of_lt hlt]
      rfl

/-- The kernel finds the listed areas in the bytes of an answer. -/
theorem kernelReissue_sendResponse (e : Endian) (p : IoctlParams) (info : OpInInfo)
    (hdr : FuseIoctlOut) (ins outs : List FuseIoctlIovec) (hin : hdr.inIovs.toNat = ins.length)
    (hout : hdr.outIovs.toNat = outs.length) :
    kernelReissue e p (info.sendResponse ((FuseIoctlOut.layout e).bytes hdr ::
        (ins ++ outs).map (FuseIoctlIovec.layout e).bytes)) =
      { p with inSize := iovLength ins, outSize := iovLength outs } := by
  have hdata : (info.sendResponse ((FuseIoctlOut.layout e).bytes hdr ::
      (ins ++ outs).map (FuseIoctlIovec.layout e).bytes)).data =
      (FuseIoctlOut.layout e).bytes hdr ++ (FuseIoctlIovec.layout e).bytesAll (ins ++ outs) := by
    rw [Layout.bytesAll, List.flatMap_def]
    rfl
  have hlen := (FuseIoctlOut.layout e).length_bytes hdr
  have hcount : hdr.inIovs.toNat + hdr.outIovs.toNat = (ins ++ outs).length := by
    rw [hin, hout, List.length_append]
  simp only [kernelReissue, hdata, List.take_left' hlen, List.drop_left' hlen, Layout.parse_bytes]
  rw [hcount, Layout.parseAll_bytesAll, List.take_left' hin.symm, List.drop_left' hin.symm]

/-- The next request after the answer. -/
theorem kernelReissue_retryReply (e : Endian) (unique : BitVec 64) (p : IoctlParams) :
    kernelReissue e p (retryReply e unique p) =
      { p with
        inSize := if (BadIoctl.new ⟨p.cmd⟩).isWrite then BitVec.ofNat 32 (argSize p.cmd) else 0
        outSize := if (BadIoctl.new ⟨p.cmd⟩).isRead then BitVec.ofNat 32 (argSize p.cmd) else 0 } := by
  rw [← iovLength_areas p (BadIoctl.new ⟨p.cmd⟩).isWrite,
    ← iovLength_areas p (BadIoctl.new ⟨p.cmd⟩).isRead]
  apply kernelReissue_sendResponse
  · rw [length_areas]
    cases (BadIoctl.new ⟨p.cmd⟩).isWrite <;> rfl
  · rw [length_areas]
    cases (BadIoctl.new ⟨p.cmd⟩).isRead <;> rfl

theorem reissued_iff {e : Endian} {p p' : IoctlParams} :
    Reissued e p p' ↔ Retried p ∧ p' =
      { p with
        inSize := if (BadIoctl.new ⟨p.cmd⟩).isWrite then BitVec.ofNat 32 (argSize p.cmd) else 0
        outSize := if (BadIoctl.new ⟨p.cmd⟩).isRead then BitVec.ofNat 32 (argSize p.cmd) else 0 } := by
  constructor
  · rintro ⟨writev, unique, data, reply, hres, rfl⟩
    by_cases h : Retried p
    · rw [cuseCompleteIoctl_of_retried e writev unique h data] at hres
      obtain rfl := Option.some.inj (Prod.mk.inj hres).2
      exact ⟨h, kernelReissue_retryReply e unique p⟩
    · rw [cuseCompleteIoctl_of_not_retried e writev unique h data] at hres
      cases (Prod.mk.inj hres).2
  · rintro ⟨h, rfl⟩
    have hsent : Cuse.send (.ok (fuseOutHeaderSize + (retryReply e 0 p).data.length))
        (fuseOutHeaderSize + (retryReply e 0 p).data.length) = .ok () := if_neg (by simp)
    refine ⟨.ok (fuseOutHeaderSize + (retryReply e 0 p).data.length), 0, [], retryReply e 0 p, ?_,
      (kernelReissue_retryReply e 0 p).symm⟩
    rw [cuseCompleteIoctl_of_retried e _ 0 h [], hsent]
    rfl

/-! ## The handshake -/

/-- A command without a size is issued again as it was. -/
theorem reissued_self {e : Endian} {p p' : IoctlParams} (h : Reissued e p p')
    (hsize : argSize p.cmd = 0) : p' = p := by
  obtain ⟨⟨-, hin, hout, -⟩, rfl⟩ := reissued_iff.1 h
  rw [hsize]
  cases p
  simp_all

/-- A command with a size is issued again with memory. -/
theorem Reissued.not_retried {e : Endian} {p p' : IoctlParams} (h : Reissued e p p')
    (hsize : argSize p.cmd ≠ 0) : ¬Retried p' := by
  obtain ⟨⟨-, -, -, hdir⟩, rfl⟩ := reissued_iff.1 h
  have hlt : argSize p.cmd < 2 ^ 32 := Nat.lt_trans (argSize_lt p.cmd) (by decide)
  have hne : BitVec.ofNat 32 (argSize p.cmd) ≠ 0 := by
    intro heq
    have hnat := congrArg BitVec.toNat heq
    rw [BitVec.toNat_ofNat, Nat.mod_eq_of_lt hlt] at hnat
    exact hsize hnat
  rintro ⟨-, hin, hout, -⟩
  rcases hdir with hwrite | hread
  · rw [if_pos hwrite] at hin
    exact hne hin
  · rw [if_pos hread] at hout
    exact hne hout

/-- **Exactly the commands with a size end the handshake.** After a `RETRY` answer the next request
is complete when the command number tells a size. When it tells a direction and the size zero, the
next request is the same one again, so it is answered with `RETRY` for ever. -/
theorem ioctl_retry_ends_iff {e : Endian} {p p' : IoctlParams} (h : Reissued e p p') :
    ((∀ writev unique data, (cuseCompleteIoctl e writev unique p' data).1 = .ok true) ↔
        (BadIoctl.new ⟨p.cmd⟩).getSize ≠ 0) ∧
      ((BadIoctl.new ⟨p.cmd⟩).getSize = 0 → p' = p ∧ Reissued e p' p') := by
  have hloop : argSize p.cmd = 0 → p' = p ∧ Reissued e p' p' := by
    intro hsize
    obtain rfl := reissued_self h hsize
    exact ⟨rfl, h⟩
  refine ⟨⟨?_, ?_⟩, hloop⟩
  · intro hall hsize
    obtain ⟨-, writev, unique, data, reply, hres, -⟩ := hloop hsize
    have htrue := hall writev unique data
    rw [hres] at htrue
    cases htrue
  · intro hsize writev unique data
    rw [cuseCompleteIoctl_of_not_retried e writev unique (h.not_retried hsize) data]

/-- The terminal settings: the second request has room for them. -/
theorem ioctl_retry_ends_tcgets :
    Reissued .little ⟨1, UNRESTRICTED, 0x5401, 0x1000, 0, 0⟩ ⟨1, UNRESTRICTED, 0x5401, 0x1000, 0, 36⟩ ∧
      ∀ writev unique data,
        (cuseCompleteIoctl .little writev unique ⟨1, UNRESTRICTED, 0x5401, 0x1000, 0, 36⟩ data).1 =
          .ok true := by
  have h : Reissued .little ⟨1, UNRESTRICTED, 0x5401, 0x1000, 0, 0⟩
      ⟨1, UNRESTRICTED, 0x5401, 0x1000, 0, 36⟩ :=
    reissued_iff.2 ⟨⟨by decide, rfl, rfl, by decide⟩, by decide⟩
  exact ⟨h, (ioctl_retry_ends_iff h).1.2 (by decide)⟩

/-- A read command of size zero: the kernel asks again for ever. -/
theorem ioctl_retry_loops :
    Reissued .little ⟨1, UNRESTRICTED, 0x80005400, 0x1000, 0, 0⟩
        ⟨1, UNRESTRICTED, 0x80005400, 0x1000, 0, 0⟩ ∧
      ∀ writev unique data,
        (cuseCompleteIoctl .little writev unique ⟨1, UNRESTRICTED, 0x80005400, 0x1000, 0, 0⟩
          data).1 ≠ .ok true := by
  have h : Retried ⟨1, UNRESTRICTED, 0x80005400, 0x1000, 0, 0⟩ :=
    ⟨by decide, rfl, rfl, by decide⟩
  refine ⟨reissued_iff.2 ⟨h, by decide⟩, ?_⟩
  intro writev unique data
  rw [cuseCompleteIoctl_of_retried .little writev unique h data]
  cases Cuse.send writev _ with
  | ok u =>
      intro heq
      cases heq
  | error f =>
      intro heq
      cases heq

end Cuse2Net.Virtdev

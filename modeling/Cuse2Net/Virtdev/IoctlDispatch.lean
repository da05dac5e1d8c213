import Cuse2Net.Proto.IoctlRelay
import Cuse2Net.Virtdev.Device
import Cuse2Net.Virtdev.IoctlRetry

/-!
# Dispatching an ioctl

Model of `DeviceInner::ioctl` in `virtdev/device.rs`, the client's first contact with a command
number and a buffer that any process may choose. The argument is decoded before anything is sent; a
refused argument is answered with `EINVAL`. A panic of `decode` is one of the thread that dispatches
the requests for all devices.

The functions that look into the buffer are written once more with every access checked: an index
beyond the end of a slice, a read beyond the end of the buffer. They agree with those of
`Proto.Ioctl`, so these accesses are all in range.
-/

set_option autoImplicit false

namespace Cuse2Net.Virtdev

open Cuse2Net.Lib
open Cuse2Net.Lib.Bytes
open Cuse2Net.IoctlFfi
open Cuse2Net.IoctlFfi.Ioctl
open Cuse2Net.Proto
open Cuse2Net.Proto.CommandClass
open Cuse2Net.Proto.Errno

/-! ## Checked accesses -/

/-- `buf[i]`. -/
def index (buf : List UInt8) (i : Nat) : Result UInt8 :=
  match buf[i]? with
  | some b => .ok b
  | none => .error .panic

/-- `read_unaligned` at the beginning of `raw`. -/
def readUnaligned {T : Type} (L : Layout T) (raw : List UInt8) : Result T :=
  if L.size ≤ raw.length then .ok (L.parse (raw.take L.size)) else .error .panic

/-- `try_as_i32`, with checked accesses. -/
def tryAsI32Checked (e : Endian) (buf : List UInt8) : Result Be32 :=
  if buf.length < 4 then Err .badLength
  else do
    let b0 ← index buf 0
    let b1 ← index buf 1
    let b2 ← index buf 2
    let b3 ← index buf 3
    return Be.fromNative e (ofNeBytes 32 e [b0, b1, b2, b3])

/-- `res.cc[idx] = v.into()` for the control characters `vs`, the first of which has the index
`idx`. -/
def ccLoop (e : Endian) : List (BitVec 8) → Nat → Vector Be8 WIRE_CC → Result (Vector Be8 WIRE_CC)
  | [], _, cc => .ok cc
  | v :: vs, idx, cc =>
      if h : idx < WIRE_CC then ccLoop e vs (idx + 1) (cc.set idx (Be.fromNative e v) h)
      else .error .panic

/-- `try_from_os`, with checked accesses. -/
def tryFromOsChecked (e : Endian) (raw : List UInt8) : Result TermIOs :=
  if raw.length < Termios.size then Err .badIoctlParam
  else do
    let params ← readUnaligned (Termios.layout e) raw
    let cc ← ccLoop e params.c_cc.toList 0 (Vector.replicate WIRE_CC ⟨0⟩)
    return {
      iflag := Be.fromNative e params.c_iflag
      oflag := Be.fromNative e params.c_oflag
      cflag := Be.fromNative e params.c_cflag
      lflag := Be.fromNative e params.c_lflag
      line := Be.fromNative e params.c_line
      cc := cc
      ispeed := Be.fromNative e 0
      ospeed := Be.fromNative e 0
      pad := 0 }

/-- `try_from_raw_os2`, with checked accesses. -/
def tryFromRawOs2Checked (e : Endian) (raw : List UInt8) : Result TermIOs :=
  if raw.length < Termios2.size then Err .badIoctlParam
  else do
    let params ← readUnaligned (Termios2.layout e) raw
    let cc ← ccLoop e params.c_cc.toList 0 (Vector.replicate WIRE_CC ⟨0⟩)
    return {
      iflag := Be.fromNative e params.c_iflag
      oflag := Be.fromNative e params.c_oflag
      cflag := Be.fromNative e params.c_cflag
      lflag := Be.fromNative e params.c_lflag
      line := Be.fromNative e params.c_line
      cc := cc
      ispeed := Be.fromNative e params.c_ispeed
      ospeed := Be.fromNative e params.c_ospeed
      pad := 0 }

theorem readUnaligned_of_le {T : Type} (L : Layout T) {raw : List UInt8}
    (h : L.size ≤ raw.length) : readUnaligned L raw = .ok (L.parse (raw.take L.size)) :=
  if_pos h

theorem tryAsI32Checked_eq (e : Endian) (buf : List UInt8) :
    tryAsI32Checked e buf = Arg.tryAsI32 e buf := by
  unfold tryAsI32Checked Arg.tryAsI32
  by_cases hlen : buf.length < 4
  · rw [if_pos hlen, if_pos hlen]
  · obtain ⟨b0, b1, b2, b3, rest, rfl⟩ : ∃ b0 b1 b2 b3 rest, buf = b0 :: b1 :: b2 :: b3 :: rest := by
      rcases buf with _ | ⟨b0, _ | ⟨b1, _ | ⟨b2, _ | ⟨b3, rest⟩⟩⟩⟩
      case cons.cons.cons.cons => exact ⟨b0, b1, b2, b3, rest, rfl⟩
      all_goals simp at hlen
    rw [if_neg hlen, if_neg hlen]
    rfl

/-- The loop writes the characters at their places and leaves the others. -/
theorem ccLoop_eq (e : Endian) (vs : List (BitVec 8)) (idx : Nat) (cc : Vector Be8 WIRE_CC)
    (h : idx + vs.length ≤ WIRE_CC) :
    ∃ cc', ccLoop e vs idx cc = .ok cc' ∧ ∀ (i : Nat) (hi : i < WIRE_CC),
      cc'[i] = if idx ≤ i then (vs[i - idx]?.map (Be.fromNative e)).getD cc[i] else cc[i] := by
  induction vs generalizing idx cc with
  | nil =>
      refine ⟨cc, rfl, ?_⟩
      intro i hi
      simp
  | cons v vs ih =>
      rw [List.length_cons] at h
      have hidx : idx < WIRE_CC := by omega
      obtain ⟨cc', hloop, hcc'⟩ := ih (idx + 1) (cc.set idx (Be.fromNative e v)) (by omega)
      refine ⟨cc', ?_, ?_⟩
      · rw [ccLoop, dif_pos hidx, hloop]
      · intro i hi
        rw [hcc' i hi, Vector.getElem_set]
        -- before the place of `v`, at it, or behind it
        rcases Nat.lt_trichotomy i idx with hlt | rfl | hgt
        · rw [if_neg (by omega), if_neg (by omega), if_neg (by omega)]
        · rw [if_neg (by omega), if_pos rfl, if_pos (Nat.le_refl i), Nat.sub_self]
          rfl
        · obtain ⟨k, rfl⟩ : ∃ k, i = idx + 1 + k := ⟨i - (idx + 1), by omega⟩
          rw [if_pos (by omega), if_neg (by omega), if_pos (by omega), Nat.add_sub_cancel_left,
            show idx + 1 + k - idx = k + 1 by omega, List.getElem?_cons_succ]

theorem ccLoop_ccFromOs (e : Endian) (c_cc : Vector (BitVec 8) NCCS) :
    ccLoop e c_cc.toList 0 (Vector.replicate WIRE_CC ⟨0⟩) = .ok (TermIOs.ccFromOs e c_cc) := by
  have hlen : 0 + c_cc.toList.length ≤ WIRE_CC := by
    rw [Vector.length_toList]
    decide
  obtain ⟨cc', hloop, hcc'⟩ := ccLoop_eq e c_cc.toList 0 (Vector.replicate WIRE_CC ⟨0⟩) hlen
  rw [hloop]
  refine congrArg Except.ok (Vector.ext fun i hi => ?_)
  rw [hcc' i hi, if_pos (Nat.zero_le i), Nat.sub_zero, TermIOs.ccFromOs, Vector.getElem_ofFn]
  by_cases hin : i < NCCS
  · rw [dif_pos hin, List.getElem?_eq_getElem (by rw [Vector.length_toList]; exact hin),
      Vector.getElem_toList, Option.map_some, Option.getD_some]
  · rw [dif_neg hin, List.getElem?_eq_none (by rw [Vector.length_toList]; omega),
      Vector.getElem_replicate, Option.map_none, Option.getD_none]

theorem tryFromOsChecked_eq (e : Endian) (raw : List UInt8) :
    tryFromOsChecked e raw = TermIOs.tryFromOs e raw := by
  unfold tryFromOsChecked TermIOs.tryFromOs
  by_cases hlen : raw.length < Termios.size
  · rw [if_pos hlen, if_pos hlen]
  · have hread := readUnaligned_of_le (Termios.layout e) (Nat.le_of_not_lt hlen)
    rw [if_neg hlen, if_neg hlen]
    simp only [hread, ccLoop_ccFromOs, bind, Except.bind]
    rfl

theorem tryFromRawOs2Checked_eq (e : Endian) (raw : List UInt8) :
    tryFromRawOs2Checked e raw = TermIOs.tryFromRawOs2 e raw := by
  unfold tryFromRawOs2Checked TermIOs.tryFromRawOs2
  by_cases hlen : raw.length < Termios2.size
  · rw [if_pos hlen, if_pos hlen]
  · have hread := readUnaligned_of_le (Termios2.layout e) (Nat.le_of_not_lt hlen)
    rw [if_neg hlen, if_neg hlen]
    simp only [hread, ccLoop_ccFromOs, bind, Except.bind]
    rfl

/-! ## The dispatcher -/

/-- `DeviceInner::ioctl`, up to the critical section of `handle_cuse`. -/
def DeviceInner.ioctl (e : Endian) (d : DeviceInner) (info : OpInInfo) (params : Cuse.IoctlParams)
    (data : List UInt8) (out : SendOutcome) : Result DeviceInner :=
  match Arg.decode e params.cmd params.arg data .cuse with
  | .error (.err _) => .ok { d with replies := d.replies ++ [(none, info.sendError .EINVAL)] }
  -- the panic passes through the dispatcher
  | .error .panic => .error .panic
  | .ok arg => .ok (d.handleCuseInternal e (.ioctl ⟨params.cmd⟩ arg) (.ioctl ⟨params.cmd⟩) info out)

theorem classify_eq_setWinsize_iff (cmd : IoctlFfi.Ioctl) :
    classify cmd = setWinsize ↔ cmd = TIOCSWINSZ := by
  refine classify_induct (P := fun cmd k => k = setWinsize ↔ cmd = TIOCSWINSZ) ?_ ?_ cmd
  · decide +kernel
  · intro cmd hn
    have hne : cmd ≠ TIOCSWINSZ := ne_of_unnamed hn (by decide)
    refine ⟨?_, fun h => absurd h hne⟩
    unfold ofDirection
    cases (BadIoctl.new cmd).isWrite <;> cases (BadIoctl.new cmd).isRead <;>
      (intro h; cases h)

/-- A length check does not panic. -/
theorem ite_ne_panic {α : Type} (c : Prop) [Decidable c] (err : Proto.Error) (a : α) :
    (if c then Err err else .ok a) ≠ .error .panic := by
  split
  · intro h
    cases h
  · intro h
    cases h

theorem map_ne_panic {α β : Type} {r : Result α} (g : α → β) (h : r ≠ .error .panic) :
    r.map g ≠ .error .panic := by
  cases r with
  | ok a =>
      intro heq
      cases heq
  | error f =>
      intro heq
      cases heq
      exact h rfl

/-- The only arm of the client's table that panics is the one for the window size. -/
theorem decode_cuse_panic_iff (e : Endian) (cmd : BitVec 32) (x : BitVec 64) (buf : List UInt8) :
    Arg.decode e cmd x buf .cuse = .error .panic ↔ cmd = TIOCSWINSZ.num := by
  have hcmd : cmd = TIOCSWINSZ.num ↔ (⟨cmd⟩ : IoctlFfi.Ioctl) = TIOCSWINSZ :=
    ⟨fun h => congrArg IoctlFfi.Ioctl.mk h, fun h => congrArg IoctlFfi.Ioctl.num h⟩
  rw [Arg.decode_cuse_eq, hcmd, ← classify_eq_setWinsize_iff]
  cases classify ⟨cmd⟩ with
  | setWinsize => exact ⟨fun _ => rfl, fun _ => rfl⟩
  | setTermios => exact iff_of_false (map_ne_panic _ (ite_ne_panic _ _ _)) (by decide)
  | setTermios2 => exact iff_of_false (map_ne_panic _ (ite_ne_panic _ _ _)) (by decide)
  | setInt => exact iff_of_false (map_ne_panic _ (ite_ne_panic _ _ _)) (by decide)
  | _ =>
      refine iff_of_false ?_ (by decide)
      intro h
      cases h

/-- **Which ioctls crash the client.** Setting the window size does, and no other command, argument
and buffer. What is refused is answered with `EINVAL`, and all accesses to the buffer and to the
control characters are in range. -/
theorem client_ioctl_panics_iff (e : Endian) (d : DeviceInner) (info : OpInInfo)
    (params : Cuse.IoctlParams) (data : List UInt8) (out : SendOutcome) :
    (Arg.decode e params.cmd params.arg data .cuse = .error .panic ↔
        params.cmd = TIOCSWINSZ.num) ∧
      (d.ioctl e info params data out = .error .panic ↔ params.cmd = TIOCSWINSZ.num) ∧
      (∀ err, Arg.decode e params.cmd params.arg data .cuse = Err err →
        d.ioctl e info params data out =
          .ok { d with replies := d.replies ++ [(none, info.sendError .EINVAL)] }) ∧
      tryAsI32Checked e data = Arg.tryAsI32 e data ∧
      tryFromOsChecked e data = TermIOs.tryFromOs e data ∧
      tryFromRawOs2Checked e data = TermIOs.tryFromRawOs2 e data := by
  have hpanic := decode_cuse_panic_iff e params.cmd params.arg data
  refine ⟨hpanic, ?_, ?_, tryAsI32Checked_eq e data, tryFromOsChecked_eq e data,
    tryFromRawOs2Checked_eq e data⟩
  · rw [← hpanic]
    unfold DeviceInner.ioctl
    cases Arg.decode e params.cmd params.arg data .cuse with
    | ok arg => simp
    | error f => cases f <;> simp
  · intro err herr
    rw [DeviceInner.ioctl, herr]
    rfl

/-- A process sets the window size: the retry handshake hands the request to the device, and the
dispatcher panics. -/
theorem client_ioctl_window_size :
    cuseCompleteIoctl .little (.ok 0) 9 ⟨1, UNRESTRICTED, 0x5414, 0x1000, 0, 0⟩ [] =
        (.ok true, none) ∧
      (DeviceInner.start 0).ioctl .little ⟨9⟩ ⟨1, UNRESTRICTED, 0x5414, 0x1000, 0, 0⟩ [] .sent =
        .error .panic := by
  exact ⟨by decide, rfl⟩

end Cuse2Net.Virtdev

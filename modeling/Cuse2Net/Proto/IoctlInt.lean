import Cuse2Net.Proto.IoctlRelay

/-!
# Integer ioctls between hosts of different byte order

The commands whose argument is a `c_int`. The integer is read in the byte order of one host, sent
big-endian and written in the byte order of the other one, by arms of four tables that were written
command by command. `delivered` is what the driver is called with and `returned` what the caller gets
back.

Most commands travel as `Int`. `TIOCMGET` has no arm in `decode`: what the driver stored travels as
raw bytes, in the byte order of the server.
-/

set_option autoImplicit false

namespace Cuse2Net.Proto

open Cuse2Net.Lib
open Cuse2Net.Lib.Bytes
open Cuse2Net.IoctlFfi
open Cuse2Net.IoctlFfi.Ioctl
open Cuse2Net.Proto.CommandClass

namespace Arg

/-- The argument and the buffer of the driver's call on the host `e'`, for a call on the host `e`. -/
def delivered (e e' : Endian) (mem : Memory) (cmd : BitVec 32) (x : BitVec 64) (buf : List UInt8) :
    Result (BitVec 64 × List UInt8) := do
  let a ← decode e cmd x buf .cuse
  let a' ← a.overWire e e'
  let res ← a'.encode e' mem cmd
  return res.2

/-- The bytes for the caller on the host `e`, for the buffer that the driver left on the host `e'`. -/
def returned (e e' : Endian) (cmd : BitVec 32) (x : BitVec 64) (buf : List UInt8) :
    Result (Option (List UInt8)) := do
  let a ← decode e' cmd x buf .device
  let a' ← a.overWire e' e
  a'.cuseResponse e ⟨cmd⟩

/-- The commands that the table of `BadIoctl` gives the size of a `c_int`. -/
def intCommands : List Ioctl :=
  (BadIoctl.table.filter fun p => p.2.getSize = cIntSize).map Prod.fst

/-- The integer commands that take a value. -/
def intWrites : List Ioctl := [TIOCSSOFTCAR, TIOCMSET, TIOCMBIS, TIOCMBIC]

/-- The integer commands that return a value and that `encode` accepts. -/
def intReads : List Ioctl := [TIOCINQ, TIOCMGET]

/-! ## By class -/

theorem delivered_eq (e e' : Endian) (mem : Memory) (cmd : BitVec 32) (x : BitVec 64)
    (buf : List UInt8) :
    delivered e e' mem cmd x buf =
      (clientArg e x buf (classify ⟨cmd⟩) >>= fun a =>
        deviceArg e' mem (classify ⟨cmd⟩) (a.rehost e e')) := by
  unfold delivered
  rw [decode_cuse_eq]
  cases clientArg e x buf (classify ⟨cmd⟩) with
  | error f => rfl
  | ok a =>
      show (a.overWire e e' >>= fun a' => (a'.encode e' mem cmd >>= fun res => pure res.2)) = _
      rw [overWire_eq]
      show ((a.rehost e e').encode e' mem cmd >>= fun res => pure res.2) =
        deviceArg e' mem (classify ⟨cmd⟩) (a.rehost e e')
      rw [encode_eq]
      cases deviceArg e' mem (classify ⟨cmd⟩) (a.rehost e e') <;> rfl

theorem returned_eq (e e' : Endian) (cmd : BitVec 32) (x : BitVec 64) (buf : List UInt8) :
    returned e e' cmd x buf =
      (serverArg e' x buf (classify ⟨cmd⟩) >>= fun a =>
        callerReply e (BadIoctl.new ⟨cmd⟩).isRead (classify ⟨cmd⟩) (a.rehost e' e)) := by
  unfold returned
  rw [decode_device_eq]
  cases serverArg e' x buf (classify ⟨cmd⟩) with
  | error f => rfl
  | ok a =>
      show (a.overWire e' e >>= fun a' => a'.cuseResponse e ⟨cmd⟩) = _
      rw [overWire_eq]
      exact cuseResponse_eq e (a.rehost e' e) ⟨cmd⟩

/-- An integer at the beginning of a buffer. -/
theorem tryAsI32_bytes (e : Endian) (v : BitVec 32) (rest : List UInt8) :
    tryAsI32 e ((u32 e).bytes v ++ rest) = .ok (Be.fromNative e v) := by
  have hlen : ((u32 e).bytes v).length = 4 := (u32 e).length_bytes v
  have hparse : ofNeBytes 32 e ((u32 e).bytes v) = v := (u32 e).parse_bytes v
  unfold tryAsI32
  rw [List.length_append, hlen, if_neg (by omega), List.take_left' hlen, hparse]

theorem asNative_rehost (e e' : Endian) (v : BitVec 32) :
    ((Be.fromNative e v).rehost e e').asNative e' = v := by
  rw [Be.rehost, Be.asNative_fromNative byteWidth_32, Be.asNative_fromNative byteWidth_32]

/-- What a host makes of the memory image of a word on another host. -/
theorem ofNeBytes_neBytes_eq_iff (e e' : Endian) (w : BitVec 32) :
    ofNeBytes 32 e (neBytes e' w) = w ↔ e = e' ∨ swapBytes w = w := by
  cases e <;> cases e'
  · simp [ofNeBytes_neBytes byteWidth_32]
  · exact ⟨.inr, fun h => h.resolve_left (by decide)⟩
  · exact ⟨.inr, fun h => h.resolve_left (by decide)⟩
  · simp [ofNeBytes_neBytes byteWidth_32]

/-- A value reaches the driver. -/
theorem delivered_setInt (e e' : Endian) (mem : Memory) {cmd : BitVec 32}
    (hk : classify ⟨cmd⟩ = setInt) (x : BitVec 64) (v : BitVec 32) (rest : List UInt8) :
    delivered e e' mem cmd x ((u32 e).bytes v ++ rest) = .ok (mem.ptr, (u32 e').bytes v) := by
  rw [delivered_eq, hk, clientArg, tryAsI32_bytes]
  show Except.ok (objToArg (u32 e') mem (((Be.fromNative e v).rehost e e').asNative e')) = _
  rw [asNative_rehost]
  rfl

/-- For a value to return, the driver gets an empty buffer. -/
theorem delivered_getInt (e e' : Endian) (mem : Memory) {cmd : BitVec 32}
    (hk : classify ⟨cmd⟩ = getQueued ∨ classify ⟨cmd⟩ = getModem) (x : BitVec 64)
    (buf : List UInt8) : delivered e e' mem cmd x buf = .ok (uninitArg mem cIntSize) := by
  rw [delivered_eq]
  rcases hk with hk | hk
  · rw [hk]
    rfl
  · rw [hk]
    rfl

/-- The number of waiting bytes reaches the caller. -/
theorem returned_getQueued (e e' : Endian) {cmd : BitVec 32} (hk : classify ⟨cmd⟩ = getQueued)
    (hread : (BadIoctl.new ⟨cmd⟩).isRead = true) (x : BitVec 64) (w : BitVec 32) :
    returned e e' cmd x ((u32 e').bytes w) = .ok (some ((u32 e).bytes w)) := by
  have hval := tryAsI32_bytes e' w []
  rw [List.append_nil] at hval
  rw [returned_eq, hk, hread, serverArg, hval]
  show Except.ok (objToCuse (u32 e) (((Be.fromNative e' w).rehost e' e).asNative e)) = _
  rw [asNative_rehost]
  rfl

/-- The modem lines reach the caller as the bytes that the driver left. -/
theorem returned_getModem (e e' : Endian) {cmd : BitVec 32} (hk : classify ⟨cmd⟩ = getModem)
    (hread : (BadIoctl.new ⟨cmd⟩).isRead = true) (x : BitVec 64) (buf : List UInt8) :
    returned e e' cmd x buf = .ok (some buf) := by
  rw [returned_eq, hk, hread]
  rfl

/-! ## Byte orders -/

/-- **Which integer ioctls do not depend on the byte order.** The driver sees every value that a
caller passes. A caller gets the value that the driver stored, unless the command is `TIOCMGET`, the
byte orders of the hosts differ and the value reads differently backwards. The only other command
with an integer argument is not accepted. -/
theorem int_ioctl_byte_order (e e' : Endian) (mem : Memory) (x : BitVec 64) :
    (∀ cmd ∈ intWrites, ∀ (v : BitVec 32) (rest : List UInt8), ∃ p b,
        delivered e e' mem cmd.num x ((u32 e).bytes v ++ rest) = .ok (p, b) ∧
          b.length = cIntSize ∧ (u32 e').parse b = v) ∧
      (∀ cmd ∈ intReads, ∀ (buf : List UInt8) (w : BitVec 32), ∃ p b reply,
        delivered e e' mem cmd.num x buf = .ok (p, b) ∧ b.length = cIntSize ∧
          returned e e' cmd.num p ((u32 e').bytes w) = .ok (some reply) ∧
          ((u32 e).parse reply = w ↔ cmd ≠ TIOCMGET ∨ e = e' ∨ swapBytes w = w)) ∧
      ∀ cmd ∈ intCommands, cmd ∉ intWrites → cmd ∉ intReads →
        ∀ buf, delivered e e' mem cmd.num x buf = Err .badIoctlParam := by
  refine ⟨?_, ?_, ?_⟩
  · intro cmd hcmd v rest
    have hk : classify cmd = setInt := by
      revert cmd
      decide +kernel
    exact ⟨_, _, delivered_setInt e e' mem hk x v rest, (u32 e').length_bytes v,
      (u32 e').parse_bytes v⟩
  · intro cmd hcmd buf w
    obtain ⟨hread, hk⟩ : (BadIoctl.new cmd).isRead = true ∧
        (classify cmd = getQueued ∧ cmd ≠ TIOCMGET ∨ classify cmd = getModem ∧ cmd = TIOCMGET) := by
      revert cmd
      decide +kernel
    rcases hk with ⟨hk, hne⟩ | ⟨hk, heq⟩
    · refine ⟨mem.ptr, _, _, delivered_getInt e e' mem (.inl hk) x buf,
        length_uninitArg mem cIntSize, returned_getQueued e e' hk hread _ w, ?_⟩
      exact iff_of_true ((u32 e).parse_bytes w) (.inl hne)
    · refine ⟨mem.ptr, _, _, delivered_getInt e e' mem (.inr hk) x buf,
        length_uninitArg mem cIntSize, returned_getModem e e' hk hread _ _, ?_⟩
      have hiff := ofNeBytes_neBytes_eq_iff e e' w
      exact ⟨fun h => .inr (hiff.1 h), fun h => hiff.2 (h.resolve_left (not_not.2 heq))⟩
  · intro cmd hcmd hwrite hread buf
    have hk : classify cmd = otherRead := by
      revert cmd
      decide +kernel
    rw [delivered_eq, hk]
    rfl

/-- The modem lines `1` on a big-endian server: a little-endian caller gets `0x01000000`. -/
theorem int_ioctl_modem_swapped :
    returned .little .big TIOCMGET.num 0x1000 ((u32 .big).bytes 1) =
        .ok (some ((u32 .big).bytes 1)) ∧
      (u32 .little).parse ((u32 .big).bytes 1) = 0x01000000 ∧
      (u32 .little).parse ((u32 .big).bytes 1) ≠ 1 := by
  refine ⟨rfl, ?_, ?_⟩ <;> decide

end Arg

end Cuse2Net.Proto

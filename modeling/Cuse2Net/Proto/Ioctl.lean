import Cuse2Net.IoctlFfi.Number
import Cuse2Net.Proto.Basic

/-!
# Ioctl arguments

Model of `proto/ioctl.rs` and `proto/ioctl_serial.rs`. The argument of an ioctl call crosses the
connection as an `Arg`. The client turns the caller's buffer into one (`decode` with source `cuse`),
the server turns it into a buffer for the device (`encode`), turns what the device left there into
an `Arg` again (`decode` with source `device`), and the client makes the caller's reply from that
(`cuseResponse`). Each of the four tables is written in the order of the source, and `todo!()` is a
panic.

A call of `encode` allocates a buffer. Its address and the content of memory that nobody has written
come from outside the program and are the parameter `Memory`.

The main result is `overWire_eq`: an argument that is sent by one host and read by another is the
same argument, in the representation of the other host.
-/

set_option autoImplicit false

namespace Cuse2Net.Proto

open Cuse2Net.Lib
open Cuse2Net.Lib.Bytes
open Cuse2Net.IoctlFfi

/-- Where the buffer of an ioctl comes from. -/
inductive Source where
  | cuse
  | device
  deriving DecidableEq, Repr

/-- A fresh heap allocation: its address and what its bytes happen to hold. -/
structure Memory where
  ptr : BitVec 64
  content : Nat → UInt8

/-! ## Terminal settings on the wire -/

/-- The number of control characters on the wire. -/
def WIRE_CC : Nat := 31

/-- `TermIOs`: terminal settings as they are sent. -/
structure TermIOs where
  iflag : Be32
  oflag : Be32
  cflag : Be32
  lflag : Be32
  line : Be8
  cc : Vector Be8 WIRE_CC
  ispeed : Be32
  ospeed : Be32
  pad : BitVec 64
  deriving DecidableEq

namespace TermIOs

/-- Memory layout of `TermIOs`, which is packed. -/
def layout (e : Endian) : Layout TermIOs :=
  ((be32 e).prod ((be32 e).prod ((be32 e).prod ((be32 e).prod ((be8 e).prod
    (((be8 e).array WIRE_CC).prod ((be32 e).prod ((be32 e).prod (u64 e))))))))).iso
    (fun t => (t.iflag, t.oflag, t.cflag, t.lflag, t.line, t.cc, t.ispeed, t.ospeed, t.pad))
    (fun ⟨i, o, c, l, n, cc, is, os, p⟩ => ⟨i, o, c, l, n, cc, is, os, p⟩)
    (fun _ => rfl) (fun _ => rfl)

/-- The loop that copies the kernel's control characters over the default ones. -/
def ccFromOs (e : Endian) (c_cc : Vector (BitVec 8) NCCS) : Vector Be8 WIRE_CC :=
  Vector.ofFn fun idx => if h : idx.val < NCCS then Be.fromNative e c_cc[idx.val] else ⟨0⟩

/-- The loop that copies control characters to the kernel's. -/
def ccIntoOs (e : Endian) (cc : Vector Be8 WIRE_CC) : Vector (BitVec 8) NCCS :=
  Vector.ofFn fun idx =>
    have h : idx.val < WIRE_CC := Nat.lt_of_lt_of_le idx.isLt (by decide)
    cc[idx.val].asNative e

/-- `try_from_os`. -/
def tryFromOs (e : Endian) (raw : List UInt8) : Result TermIOs :=
  if raw.length < Termios.size then Err .badIoctlParam
  else
    let params := (Termios.layout e).parse (raw.take Termios.size)
    .ok {
      iflag := Be.fromNative e params.c_iflag
      oflag := Be.fromNative e params.c_oflag
      cflag := Be.fromNative e params.c_cflag
      lflag := Be.fromNative e params.c_lflag
      line := Be.fromNative e params.c_line
      cc := ccFromOs e params.c_cc
      -- `termios` has no speeds
      ispeed := Be.fromNative e 0
      ospeed := Be.fromNative e 0
      pad := 0 }

/-- `from_os2`. -/
def fromOs2 (e : Endian) (params : Termios2) : TermIOs where
  iflag := Be.fromNative e params.c_iflag
  oflag := Be.fromNative e params.c_oflag
  cflag := Be.fromNative e params.c_cflag
  lflag := Be.fromNative e params.c_lflag
  line := Be.fromNative e params.c_line
  cc := ccFromOs e params.c_cc
  ispeed := Be.fromNative e params.c_ispeed
  ospeed := Be.fromNative e params.c_ospeed
  pad := 0

/-- `try_from_raw_os2`. -/
def tryFromRawOs2 (e : Endian) (raw : List UInt8) : Result TermIOs :=
  if raw.length < Termios2.size then Err .badIoctlParam
  else .ok (fromOs2 e ((Termios2.layout e).parse (raw.take Termios2.size)))

/-- `into_os`. -/
def intoOs (e : Endian) (ios : TermIOs) : Termios where
  c_iflag := ios.iflag.asNative e
  c_oflag := ios.oflag.asNative e
  c_cflag := ios.cflag.asNative e
  c_lflag := ios.lflag.asNative e
  c_line := ios.line.asNative e
  c_cc := ccIntoOs e ios.cc

/-- `into_os2`. -/
def intoOs2 (e : Endian) (ios : TermIOs) : Termios2 where
  c_iflag := ios.iflag.asNative e
  c_oflag := ios.oflag.asNative e
  c_cflag := ios.cflag.asNative e
  c_lflag := ios.lflag.asNative e
  c_line := ios.line.asNative e
  c_cc := ccIntoOs e ios.cc
  c_ispeed := ios.ispeed.asNative e
  c_ospeed := ios.ospeed.asNative e

/-- The same settings in the representation of another host; the padding keeps its bytes. -/
def rehost (e e' : Endian) (ios : TermIOs) : TermIOs where
  iflag := ios.iflag.rehost e e'
  oflag := ios.oflag.rehost e e'
  cflag := ios.cflag.rehost e e'
  lflag := ios.lflag.rehost e e'
  line := ios.line.rehost e e'
  cc := ios.cc.map (Be.rehost e e')
  ispeed := ios.ispeed.rehost e e'
  ospeed := ios.ospeed.rehost e e'
  pad := ofNeBytes 64 e' (neBytes e ios.pad)

/-- **Settings that are copied to another host arrive there in its representation.** -/
theorem bytes_rehost (e e' : Endian) (ios : TermIOs) :
    (layout e').bytes (ios.rehost e e') = (layout e).bytes ios := by
  have hcc : ((be8 e').array WIRE_CC).bytes (ios.cc.map (Be.rehost e e')) =
      ((be8 e).array WIRE_CC).bytes ios.cc :=
    Layout.bytes_array_map (Be.rehost e e') (fun x => Be.bytes_rehost _ e e' x) ios.cc
  have hpad : (u64 e').bytes (ofNeBytes 64 e' (neBytes e ios.pad)) = (u64 e).bytes ios.pad :=
    neBytes_ofNeBytes e' (by rw [length_neBytes])
  have h32 : ∀ x : Be32, (be32 e').bytes (x.rehost e e') = (be32 e).bytes x :=
    fun x => Be.bytes_rehost _ e e' x
  have h8 : (be8 e').bytes (ios.line.rehost e e') = (be8 e).bytes ios.line :=
    Be.bytes_rehost _ e e' _
  simp only [layout, Layout.iso, Layout.prod, rehost, h32, h8, hpad]
  -- the control characters, the sixth field, are left
  exact congrArg _ (congrArg _ (congrArg _ (congrArg _ (congrArg _ (congrArg (· ++ _) hcc)))))

theorem ccIntoOs_ccFromOs (e : Endian) (c_cc : Vector (BitVec 8) NCCS) :
    ccIntoOs e (ccFromOs e c_cc) = c_cc := by
  apply Vector.ext
  intro i hi
  simp only [ccIntoOs, ccFromOs, Vector.getElem_ofFn, dif_pos hi, Be.asNative_fromNative byteWidth_8]

/-- **The kernel's settings survive the way over the wire and back.** -/
theorem intoOs_tryFromOs {e : Endian} {raw : List UInt8} {ios : TermIOs}
    (h : tryFromOs e raw = .ok ios) :
    Termios.size ≤ raw.length ∧ (Termios.layout e).bytes (ios.intoOs e) = raw.take Termios.size := by
  unfold tryFromOs at h
  by_cases hlen : raw.length < Termios.size
  · rw [if_pos hlen] at h
    cases h
  · rw [if_neg hlen] at h
    obtain rfl := Except.ok.inj h
    refine ⟨by omega, ?_⟩
    simp only [intoOs, Be.asNative_fromNative byteWidth_32, Be.asNative_fromNative byteWidth_8,
      ccIntoOs_ccFromOs]
    apply (Termios.layout e).bytes_parse
    rw [List.length_take, Termios.layout_size]
    omega

theorem intoOs2_tryFromRawOs2 {e : Endian} {raw : List UInt8} {ios : TermIOs}
    (h : tryFromRawOs2 e raw = .ok ios) :
    Termios2.size ≤ raw.length ∧
      (Termios2.layout e).bytes (ios.intoOs2 e) = raw.take Termios2.size := by
  unfold tryFromRawOs2 at h
  by_cases hlen : raw.length < Termios2.size
  · rw [if_pos hlen] at h
    cases h
  · rw [if_neg hlen] at h
    obtain rfl := Except.ok.inj h
    refine ⟨by omega, ?_⟩
    simp only [intoOs2, fromOs2, Be.asNative_fromNative byteWidth_32,
      Be.asNative_fromNative byteWidth_8, ccIntoOs_ccFromOs]
    apply (Termios2.layout e).bytes_parse
    rw [List.length_take, Termios2.layout_size]
    omega

end TermIOs

/-! ## Arguments -/

/-- `Arg`: the argument of an ioctl on the wire. -/
inductive Arg where
  | none
  | arg (x : Be64)
  | raw (data : List UInt8)
  | rawArg (x : Be64)
  | termIOs (ios : TermIOs)
  | int (val : Be32)
  | uInt (val : Be32)
  deriving DecidableEq

/-- `uninit_arg`: a fresh buffer of `sz` bytes. -/
def uninitArg (mem : Memory) (sz : Nat) : BitVec 64 × List UInt8 :=
  (mem.ptr, (List.range sz).map mem.content)

@[simp] theorem length_uninitArg (mem : Memory) (sz : Nat) : (uninitArg mem sz).2.length = sz := by
  rw [uninitArg, List.length_map, List.length_range]

/-- `obj_to_arg`: a fresh buffer that holds an object. -/
def objToArg {T : Type} (L : Layout T) (mem : Memory) (obj : T) : BitVec 64 × List UInt8 :=
  (mem.ptr, L.bytes obj)

/-- `obj_to_cuse`. -/
def objToCuse {T : Type} (L : Layout T) (obj : T) : Option (List UInt8) := some (L.bytes obj)

namespace Arg

open IoctlFfi.Ioctl

/-- `code`. -/
def code (e : Endian) : Arg → Be8
  | none => Be.fromNative e 0
  | arg _ => Be.fromNative e 1
  | raw _ => Be.fromNative e 2
  | rawArg _ => Be.fromNative e 3
  | termIOs _ => Be.fromNative e 4
  | int _ => Be.fromNative e 5
  | uInt _ => Be.fromNative e 6

/-- `as_repr_bytes`. -/
def asReprBytes (e : Endian) : Arg → List UInt8
  | none => []
  | arg x => (be64 e).bytes x
  | raw data => data
  | rawArg x => (be64 e).bytes x
  | termIOs ios => (TermIOs.layout e).bytes ios
  | int val => (be32 e).bytes val
  | uInt val => (be32 e).bytes val

/-- `is_raw`. -/
def isRaw : Arg → Bool
  | raw _ => true
  | rawArg _ => true
  | _ => false

/-- `try_as_object`: the object at the beginning of `buf`. -/
def tryAsObject {T : Type} (L : Layout T) (buf : List UInt8) : Result T :=
  if buf.length < L.size then Err .badLength else .ok (L.parse (buf.take L.size))

/-- `try_as_i32`. -/
def tryAsI32 (e : Endian) (buf : List UInt8) : Result Be32 :=
  if buf.length < 4 then Err .badLength
  else .ok (Be.fromNative e (ofNeBytes 32 e (buf.take 4)))

/-- `from_raw`. -/
def fromRaw (e : Endian) (code : BitVec 8) (buf : List UInt8) : Result Arg :=
  match code.toNat with
  | 0 => .ok none
  | 1 => (tryAsObject (be64 e) buf).map arg
  | 2 => .ok (raw buf)
  | 3 => (tryAsObject (be64 e) buf).map rawArg
  | 4 => (tryAsObject (TermIOs.layout e) buf).map termIOs
  | 5 => (tryAsObject (be32 e) buf).map int
  | 6 => (tryAsObject (be32 e) buf).map uInt
  | _ => Err .badIoctlParam

/-- `cuse_response`: the bytes for the caller of `ioctl()`. -/
def cuseResponse (e : Endian) (self : Arg) (cmd : Ioctl) : Result (Option (List UInt8)) :=
  let cmd := BadIoctl.new cmd
  if cmd.getNative ∈ [TIOCGLCKTRMIOS, TCGETS] then
    match self with
    | termIOs ios => .ok (objToCuse (Termios.layout e) (ios.intoOs e))
    | _ => Err .badIoctlParam
  else if cmd.getNative = TCGETS2 then
    match self with
    | termIOs ios => .ok (objToCuse (Termios2.layout e) (ios.intoOs2 e))
    | _ => Err .badIoctlParam
  -- the source names `TIOCSWINSZ` here, not `TIOCGWINSZ`
  else if cmd.getNative = TIOCSWINSZ then Err .badIoctlParam
  else if !cmd.isRead then .ok Option.none
  else
    match self with
    | none | arg _ | rawArg _ => .ok Option.none
    | termIOs _ => Err .badIoctlParam
    | raw data => .ok (some data)
    | int val => .ok (objToCuse (u32 e) (val.asNative e))
    | uInt val => .ok (objToCuse (u32 e) (val.asNative e))

/-- The argument and the buffer that `encode` makes for the device. -/
def encodeArg (e : Endian) (mem : Memory) (self : Arg) (cmd : BadIoctl) :
    Result (BitVec 64 × List UInt8) :=
  if cmd.getNative ∈ [TIOCSLCKTRMIOS, TCSETSW, TCSETSF, TCSETS] then
    match self with
    | termIOs ios => .ok (objToArg (Termios.layout e) mem (ios.intoOs e))
    | _ => Err .badIoctlParam
  else if cmd.getNative ∈ [TCSETSW2, TCSETSF2, TCSETS2] then
    match self with
    | termIOs ios => .ok (objToArg (Termios2.layout e) mem (ios.intoOs2 e))
    | _ => Err .badIoctlParam
  else if cmd.getNative ∈ [TIOCGLCKTRMIOS, TCGETS] then
    match self with
    | none => .ok (uninitArg mem Termios.size)
    | _ => Err .badIoctlParam
  else if cmd.getNative ∈ [TIOCMGET, TIOCINQ] then
    match self with
    | none => .ok (uninitArg mem cIntSize)
    | _ => Err .badIoctlParam
  -- commands without a buffer, but also the read commands that have no arm above
  else if !cmd.isWrite then
    match self with
    | arg x => .ok (x.asNative e, [])
    | rawArg x => .ok (x.asNative e, [])
    | _ => Err .badIoctlParam
  else
    match self with
    | raw _ => .error .panic
    | int val => .ok (objToArg (u32 e) mem (val.asNative e))
    | uInt val => .ok (objToArg (u32 e) mem (val.asNative e))
    | _ => Err .badIoctlParam

/-- `encode`: command number, argument and buffer for the call of the device. -/
def encode (e : Endian) (mem : Memory) (self : Arg) (cmd : BitVec 32) :
    Result (BitVec 32 × BitVec 64 × List UInt8) := do
  let cmd := BadIoctl.new ⟨cmd⟩
  let code := cmd.getNative.asNumeric
  let res ← encodeArg e mem self cmd
  return (code, res.1, res.2)

/-- `decode`. -/
def decode (e : Endian) (cmd : BitVec 32) (arg : BitVec 64) (buf : List UInt8) (src : Source) :
    Result Arg :=
  let cmd := BadIoctl.new ⟨cmd⟩
  if cmd.getNative ∈ [TIOCSLCKTRMIOS, TCSETSW, TCSETSF, TCSETS] then
    match src with
    | .cuse => (TermIOs.tryFromOs e buf).map termIOs
    | .device => .ok none
  else if cmd.getNative ∈ [TCSETSW2, TCSETSF2, TCSETS2] then
    match src with
    | .cuse => (TermIOs.tryFromRawOs2 e buf).map termIOs
    | .device => .ok none
  else if cmd.getNative = TIOCSWINSZ then
    match src with
    | .cuse => .error .panic
    | .device => .ok none
  else if cmd.getNative = TIOCGWINSZ then
    match src with
    | .cuse => .ok none
    | .device => .error .panic
  else if cmd.getNative ∈ [TIOCGLCKTRMIOS, TCGETS] then
    match src with
    | .cuse => .ok none
    | .device => (TermIOs.tryFromOs e buf).map termIOs
  else if cmd.getNative = TCGETS2 then
    match src with
    | .cuse => .ok none
    | .device => (TermIOs.tryFromRawOs2 e buf).map termIOs
  else if cmd.getNative ∈ [TIOCSSOFTCAR, TIOCMSET, TIOCMBIC, TIOCMBIS] then
    match src with
    | .cuse => (tryAsI32 e buf).map int
    | .device => .ok none
  else if cmd.getNative = TIOCINQ then
    match src with
    | .cuse => .ok none
    | .device => (tryAsI32 e buf).map int
  else if cmd.getNative = TCFLSH then
    match src with
    | .cuse => .ok (.arg (Be.fromNative e arg))
    | .device => .ok none
  -- a command of both directions counts as a write
  else if cmd.isWrite then
    match src with
    | .cuse => .ok (raw buf)
    | .device => .ok none
  else if cmd.isRead then
    match src with
    | .cuse => .ok none
    | .device => .ok (raw buf)
  else .ok (rawArg (Be.fromNative e arg))

/-! ## From one host to another -/

/-- The same argument in the representation of another host. -/
def rehost (e e' : Endian) : Arg → Arg
  | none => none
  | arg x => arg (x.rehost e e')
  | raw data => raw data
  | rawArg x => rawArg (x.rehost e e')
  | termIOs ios => termIOs (ios.rehost e e')
  | int val => int (val.rehost e e')
  | uInt val => uInt (val.rehost e e')

/-- What the host `e'` makes of an argument that the host `e` sends: the type byte and the
representation cross the connection. -/
def overWire (e e' : Endian) (a : Arg) : Result Arg :=
  fromRaw e' (((be8 e').parse ((be8 e).bytes (a.code e))).asNative e') (a.asReprBytes e)

/-- The native number of the type byte. -/
def codeNumber : Arg → BitVec 8
  | none => 0
  | arg _ => 1
  | raw _ => 2
  | rawArg _ => 3
  | termIOs _ => 4
  | int _ => 5
  | uInt _ => 6

theorem code_eq (e : Endian) (a : Arg) : a.code e = Be.fromNative e a.codeNumber := by
  cases a <;> rfl

@[simp] theorem codeNumber_rehost (e e' : Endian) (a : Arg) :
    (a.rehost e e').codeNumber = a.codeNumber := by
  cases a <;> rfl

theorem asReprBytes_rehost (e e' : Endian) (a : Arg) :
    (a.rehost e e').asReprBytes e' = a.asReprBytes e := by
  cases a with
  | none => rfl
  | arg x => exact Be.bytes_rehost _ e e' x
  | raw data => rfl
  | rawArg x => exact Be.bytes_rehost _ e e' x
  | termIOs ios => exact TermIOs.bytes_rehost e e' ios
  | int val => exact Be.bytes_rehost _ e e' val
  | uInt val => exact Be.bytes_rehost _ e e' val

theorem tryAsObject_bytes {T : Type} (L : Layout T) (t : T) :
    tryAsObject L (L.bytes t) = .ok t := by
  rw [tryAsObject, L.length_bytes, if_neg (Nat.lt_irrefl _),
    List.take_of_length_le (Nat.le_of_eq (L.length_bytes t)), L.parse_bytes]

/-- An argument is read back on the host that made it. -/
theorem fromRaw_asReprBytes (e : Endian) (a : Arg) :
    fromRaw e a.codeNumber (a.asReprBytes e) = .ok a := by
  cases a with
  | none => rfl
  | arg x => exact congrArg (Except.map arg) (tryAsObject_bytes (be64 e) x)
  | raw data => rfl
  | rawArg x => exact congrArg (Except.map rawArg) (tryAsObject_bytes (be64 e) x)
  | termIOs ios => exact congrArg (Except.map termIOs) (tryAsObject_bytes (TermIOs.layout e) ios)
  | int val => exact congrArg (Except.map int) (tryAsObject_bytes (be32 e) val)
  | uInt val => exact congrArg (Except.map uInt) (tryAsObject_bytes (be32 e) val)

theorem tryAsObject_map_error {T : Type} {L : Layout T} {g : T → Arg} {buf : List UInt8}
    {f : Failure} (h : (tryAsObject L buf).map g = .error f) : f = .err .badLength := by
  unfold tryAsObject at h
  split at h
  · cases h
    rfl
  · cases h

/-- The reasons to refuse argument data: the object is cut off, or the type is unknown. -/
theorem fromRaw_error {e : Endian} {code : BitVec 8} {buf : List UInt8} {f : Failure}
    (h : fromRaw e code buf = .error f) : f = .err .badLength ∨ f = .err .badIoctlParam := by
  unfold fromRaw at h
  split at h
  · cases h
  · exact .inl (tryAsObject_map_error h)
  · cases h
  · exact .inl (tryAsObject_map_error h)
  · exact .inl (tryAsObject_map_error h)
  · exact .inl (tryAsObject_map_error h)
  · exact .inl (tryAsObject_map_error h)
  · cases h
    exact .inr rfl

theorem rehost_self (e : Endian) (a : Arg) : a.rehost e e = a := by
  have h := fromRaw_asReprBytes e (a.rehost e e)
  rw [asReprBytes_rehost, codeNumber_rehost, fromRaw_asReprBytes] at h
  exact (Except.ok.inj h).symm

/-- **An argument arrives as the same argument.** -/
theorem overWire_eq (e e' : Endian) (a : Arg) : a.overWire e e' = .ok (a.rehost e e') := by
  -- the type byte has the same image on both hosts
  have hcode : ((be8 e').parse ((be8 e).bytes (a.code e))).asNative e' = a.codeNumber := by
    have himage : (be8 e).bytes (a.code e) = (be8 e').bytes (Be.fromNative e' a.codeNumber) := by
      rw [code_eq]
      exact (Be.bytes_fromNative _ e _).trans (Be.bytes_fromNative _ e' _).symm
    rw [himage, (be8 e').parse_bytes, Be.asNative_fromNative byteWidth_8]
  rw [overWire, hcode, ← asReprBytes_rehost e e', ← codeNumber_rehost e e', fromRaw_asReprBytes]

end Arg

end Cuse2Net.Proto

import Cuse2Net.Lib.Layout

/-!
# Vocabulary of the wire protocol

Sequence numbers, error values and the big-endian integers of the crate's `proto` module. A value of
a type declared by `declare_endian!` is the raw word in the memory of its host: `Be.fromNative` and
`Be.asNative` convert on a host with byte order `e`. The memory image of an integer made from a
native value is the same on every host (`Be.bytes_fromNative`), and an integer copied byte by byte to
another host keeps its native value (`Be.bytes_rehost`).
-/

set_option autoImplicit false

namespace Cuse2Net.Proto

open Cuse2Net.Lib
open Cuse2Net.Lib.Bytes

/-! ## Sequence numbers and errors -/

/-- `Sequence`: the number of a request. Zero stands for "no request" in headers, so a sequence
number is nonzero (`Sequence::from_ffi`). -/
structure Sequence where
  val : BitVec 64
  ne_zero : val ≠ 0
  deriving DecidableEq

/-- The numbers of `nix::Error` on Linux: `UnknownErrno`, which is zero, and the error numbers up to
133, of which 41 and 58 are not assigned. -/
def knownErrno (n : Nat) : Bool := n ≤ 133 && n != 41 && n != 58

/-- `nix::Error`. -/
structure Errno where
  code : Nat
  known : knownErrno code = true
  deriving DecidableEq

namespace Errno

def UnknownErrno : Errno := ⟨0, rfl⟩
def EPERM : Errno := ⟨1, rfl⟩
def EINTR : Errno := ⟨4, rfl⟩
def EIO : Errno := ⟨5, rfl⟩
def EAGAIN : Errno := ⟨11, rfl⟩
def EINVAL : Errno := ⟨22, rfl⟩
def EPIPE : Errno := ⟨32, rfl⟩
def EPROTO : Errno := ⟨71, rfl⟩
def ETIMEDOUT : Errno := ⟨110, rfl⟩

/-- `nix::Error::from_i32`. -/
def fromI32 (v : Nat) : Errno := if h : knownErrno v = true then ⟨v, h⟩ else UnknownErrno

theorem code_lt (err : Errno) : err.code < 2 ^ 16 := by
  have h := err.known
  simp only [knownErrno, Bool.and_eq_true, decide_eq_true_eq] at h
  omega

end Errno

/-- `proto::Error`. -/
inductive Error where
  | io (errno : Errno)
  | payloadTooLarge (len : Nat)
  | badOp (op : BitVec 8)
  | badResponse
  | badRequest
  | badSequence
  | badLength
  | unalignedLength (len : Nat) (elem : BitVec 8)
  | badIoctlParam
  | remoteError (seq : Option Sequence) (rc : Nat)
  deriving DecidableEq

/-- How a call can fail to return: with an error, or by a panic of its thread. -/
inductive Failure where
  | err (e : Error)
  | panic
  deriving DecidableEq

/-- `proto::Result`, with the panics of the source. -/
abbrev Result (α : Type) := Except Failure α

/-- `Err(e)`. -/
def Err {α : Type} (e : Error) : Result α := .error (.err e)

theorem ok_of_map {α β : Type} {f : α → β} {r : Result α} {b : β} (h : r.map f = .ok b) :
    ∃ a, r = .ok a ∧ f a = b := by
  cases r with
  | ok a => exact ⟨a, rfl, Except.ok.inj h⟩
  | error f => cases h

theorem ok_of_bind {α β : Type} {r : Result α} {f : α → Result β} {b : β}
    (h : (r >>= f) = .ok b) : ∃ a, r = .ok a ∧ f a = .ok b := by
  cases r with
  | ok a => exact ⟨a, rfl, h⟩
  | error f => cases h

/-! ## Big-endian integers -/

/-- An integer of `declare_endian!` with the conversion `to_be`: the raw word. -/
structure Be (w : Nat) where
  raw : BitVec w
  deriving DecidableEq

abbrev Be8 := Be 8
abbrev Be16 := Be 16
abbrev Be32 := Be 32
abbrev Be64 := Be 64

namespace Be

variable {w : Nat}

/-- `from_native` on a host with byte order `e`. -/
def fromNative (e : Endian) (v : BitVec w) : Be w := ⟨toBe e v⟩

/-- `as_native` on a host with byte order `e`. -/
def asNative (e : Endian) (x : Be w) : BitVec w := toBe e x.raw

/-- The integer with the same native value on another host. -/
def rehost (e e' : Endian) (x : Be w) : Be w := fromNative e' (x.asNative e)

/-- Memory layout: the raw word, in native order. -/
def layout (e : Endian) (w : Nat) (hw : 8 ∣ w) : Layout (Be w) :=
  (Layout.word e w hw).iso Be.raw Be.mk (fun _ => rfl) (fun _ => rfl)

@[simp] theorem asNative_fromNative (hw : 8 ∣ w) (e : Endian) (v : BitVec w) :
    (fromNative e v).asNative e = v :=
  toBe_toBe hw e v

@[simp] theorem fromNative_asNative (hw : 8 ∣ w) (e : Endian) (x : Be w) :
    fromNative e (x.asNative e) = x := by
  rw [fromNative, asNative, toBe_toBe hw]

/-- **The memory image of an integer does not depend on the host that made it.** -/
theorem bytes_fromNative (hw : 8 ∣ w) (e : Endian) (v : BitVec w) :
    (layout e w hw).bytes (fromNative e v) = (leBytes v).reverse :=
  neBytes_toBe hw e v

/-- **Copying an integer to another host keeps its native value.** -/
theorem bytes_rehost (hw : 8 ∣ w) (e e' : Endian) (x : Be w) :
    (layout e' w hw).bytes (x.rehost e e') = (layout e w hw).bytes x := by
  rw [rehost, bytes_fromNative, ← bytes_fromNative hw e, fromNative_asNative hw]

/-- The memory image of an integer is its native value, most significant byte first. -/
theorem ofNatBytes_bytes (hw : 8 ∣ w) (e : Endian) (x : Be w) :
    ofNatBytes ((layout e w hw).bytes x).reverse = (x.asNative e).toNat := by
  have hlt : (x.asNative e).toNat < 256 ^ (w / 8) := by
    rw [← two_pow_eq_byte_pow hw]
    exact (x.asNative e).isLt
  rw [← fromNative_asNative hw e x, bytes_fromNative, List.reverse_reverse,
    fromNative_asNative hw e x]
  exact ofNatBytes_natBytes hlt

end Be

/-- Layout of `be8`. -/
def be8 (e : Endian) : Layout Be8 := Be.layout e 8 byteWidth_8

/-- Layout of `be16`. -/
def be16 (e : Endian) : Layout Be16 := Be.layout e 16 byteWidth_16

/-- Layout of `be32`. -/
def be32 (e : Endian) : Layout Be32 := Be.layout e 32 byteWidth_32

/-- Layout of `be64`. -/
def be64 (e : Endian) : Layout Be64 := Be.layout e 64 byteWidth_64

/-- Padding of `be8` looks the same on every host. -/
theorem bytes_be8_array (e e' : Endian) {n : Nat} (pad : Vector Be8 n) :
    ((be8 e).array n).bytes pad = ((be8 e').array n).bytes pad :=
  Layout.bytes_array_congr (fun x => neBytes_byte e e' x.raw) pad

end Cuse2Net.Proto

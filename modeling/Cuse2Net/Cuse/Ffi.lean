import Cuse2Net.IoctlFfi.Number
import Cuse2Net.Proto.Basic

/-!
# Structures of the cuse interface

Model of `ffi.rs` of the crate `mod-cuse`: the messages that the kernel sends to the client. Each
structure is `repr(C)` with its padding written out as a field, so its layout is its fields in
order. `CType` adds the alignment that `align_to` asks for.

The flag types, handles and owners of the source are transparent wrappers of their words and are
kept as words.
-/

set_option autoImplicit false

namespace Cuse2Net.Cuse

open Cuse2Net.Lib
open Cuse2Net.Lib.Bytes
open Cuse2Net.IoctlFfi
open Cuse2Net.Proto (Errno)

/-- `FUSE_MIN_READ_BUFFER`. -/
def FUSE_MIN_READ_BUFFER : Nat := 8192

/-- `Error` of `mod-cuse`. -/
inductive Error where
  | nix (errno : Errno)
  | alignment (bytes : Nat)
  | size (missing : Nat)
  | eof
  | badTruncate (pos consumed : Nat)
  | badSend (sent total : Nat)
  deriving DecidableEq

/-- `CuseDevice::send`, for what `writev` returned. -/
def send (writev : Except Errno Nat) (totalLen : Nat) : Except Error Unit :=
  match writev with
  | .error errno => .error (.nix errno)
  | .ok sentLen => if sentLen ≠ totalLen then .error (.badSend sentLen totalLen) else .ok ()

/-- A type of the interface: its layout and its alignment, which is at most 8 everywhere. -/
structure CType (T : Type) where
  layout : Layout T
  align : Nat
  size_pos : 0 < layout.size
  align_dvd : align ∣ 8

theorem four_dvd_eight : 4 ∣ 8 := ⟨2, rfl⟩

/-- `u8`. -/
def byteType : CType UInt8 := ⟨Layout.byte, 1, Nat.one_pos, Nat.one_dvd 8⟩

/-! ## Header -/

/-- `fuse_in_header`. -/
structure FuseInHeader where
  len : BitVec 32
  opcode : BitVec 32
  unique : BitVec 64
  nodeid : BitVec 64
  uid : BitVec 32
  gid : BitVec 32
  pid : BitVec 32
  padding : BitVec 32
  deriving DecidableEq

def FuseInHeader.layout (e : Endian) : Layout FuseInHeader :=
  ((u32 e).prod ((u32 e).prod ((u64 e).prod ((u64 e).prod
    ((u32 e).prod ((u32 e).prod ((u32 e).prod (u32 e)))))))).iso
    (fun h => (h.len, h.opcode, h.unique, h.nodeid, h.uid, h.gid, h.pid, h.padding))
    (fun ⟨l, o, u, n, i, g, p, d⟩ => ⟨l, o, u, n, i, g, p, d⟩) (fun _ => rfl) (fun _ => rfl)

theorem size_fuseInHeader (e : Endian) : 0 < (FuseInHeader.layout e).size := Nat.zero_lt_succ 39

def fuseInHeader (e : Endian) : CType FuseInHeader :=
  ⟨FuseInHeader.layout e, 8, size_fuseInHeader e, Nat.dvd_refl 8⟩

theorem readAt_fuseInHeader (e : Endian) (bs : List UInt8) (off : Nat) :
    (fuseInHeader e).layout.readAt bs off =
      ⟨(u32 e).readAt bs off, (u32 e).readAt bs (off + 4), (u64 e).readAt bs (off + 8),
        (u64 e).readAt bs (off + 16), (u32 e).readAt bs (off + 24),
        (u32 e).readAt bs (off + 28), (u32 e).readAt bs (off + 32),
        (u32 e).readAt bs (off + 36)⟩ := by
  simp only [fuseInHeader, FuseInHeader.layout, Layout.readAt_iso, Layout.readAt_prod]
  rfl

/-! ## Operations -/

def FUSE_OPEN : BitVec 32 := 14
def FUSE_READ : BitVec 32 := 15
def FUSE_WRITE : BitVec 32 := 16
def FUSE_RELEASE : BitVec 32 := 18
def FUSE_INTERRUPT : BitVec 32 := 36
def FUSE_IOCTL : BitVec 32 := 39
def FUSE_POLL : BitVec 32 := 40
def CUSE_INIT : BitVec 32 := 4096

/-- `cuse_init_in`. -/
structure CuseInitIn where
  major : BitVec 32
  minor : BitVec 32
  unused : BitVec 32
  flags : BitVec 32
  deriving DecidableEq

def CuseInitIn.layout (e : Endian) : Layout CuseInitIn :=
  ((u32 e).prod ((u32 e).prod ((u32 e).prod (u32 e)))).iso
    (fun i => (i.major, i.minor, i.unused, i.flags))
    (fun ⟨a, i, u, f⟩ => ⟨a, i, u, f⟩) (fun _ => rfl) (fun _ => rfl)

theorem size_cuseInitIn (e : Endian) : 0 < (CuseInitIn.layout e).size := Nat.zero_lt_succ 15

def cuseInitIn (e : Endian) : CType CuseInitIn :=
  ⟨CuseInitIn.layout e, 4, size_cuseInitIn e, four_dvd_eight⟩

theorem readAt_cuseInitIn (e : Endian) (bs : List UInt8) (off : Nat) :
    (cuseInitIn e).layout.readAt bs off =
      ⟨(u32 e).readAt bs off, (u32 e).readAt bs (off + 4), (u32 e).readAt bs (off + 8),
        (u32 e).readAt bs (off + 12)⟩ := by
  simp only [cuseInitIn, CuseInitIn.layout, Layout.readAt_iso, Layout.readAt_prod]
  rfl

/-- `fuse_open_in`. -/
structure FuseOpenIn where
  flags : BitVec 32
  openFlags : BitVec 32
  deriving DecidableEq

def FuseOpenIn.layout (e : Endian) : Layout FuseOpenIn :=
  ((u32 e).prod (u32 e)).iso (fun o => (o.flags, o.openFlags)) (fun ⟨f, o⟩ => ⟨f, o⟩)
    (fun _ => rfl) (fun _ => rfl)

theorem size_fuseOpenIn (e : Endian) : 0 < (FuseOpenIn.layout e).size := Nat.zero_lt_succ 7

def fuseOpenIn (e : Endian) : CType FuseOpenIn :=
  ⟨FuseOpenIn.layout e, 4, size_fuseOpenIn e, four_dvd_eight⟩

theorem readAt_fuseOpenIn (e : Endian) (bs : List UInt8) (off : Nat) :
    (fuseOpenIn e).layout.readAt bs off =
      ⟨(u32 e).readAt bs off, (u32 e).readAt bs (off + 4)⟩ := by
  simp only [fuseOpenIn, FuseOpenIn.layout, Layout.readAt_iso, Layout.readAt_prod]
  rfl

/-- `fuse_release_in`. -/
structure FuseReleaseIn where
  fh : BitVec 64
  flags : BitVec 32
  releaseFlags : BitVec 32
  lockOwner : BitVec 64
  deriving DecidableEq

def FuseReleaseIn.layout (e : Endian) : Layout FuseReleaseIn :=
  ((u64 e).prod ((u32 e).prod ((u32 e).prod (u64 e)))).iso
    (fun r => (r.fh, r.flags, r.releaseFlags, r.lockOwner))
    (fun ⟨h, f, r, o⟩ => ⟨h, f, r, o⟩) (fun _ => rfl) (fun _ => rfl)

theorem size_fuseReleaseIn (e : Endian) : 0 < (FuseReleaseIn.layout e).size := Nat.zero_lt_succ 23

def fuseReleaseIn (e : Endian) : CType FuseReleaseIn :=
  ⟨FuseReleaseIn.layout e, 8, size_fuseReleaseIn e, Nat.dvd_refl 8⟩

theorem readAt_fuseReleaseIn (e : Endian) (bs : List UInt8) (off : Nat) :
    (fuseReleaseIn e).layout.readAt bs off =
      ⟨(u64 e).readAt bs off, (u32 e).readAt bs (off + 8), (u32 e).readAt bs (off + 12),
        (u64 e).readAt bs (off + 16)⟩ := by
  simp only [fuseReleaseIn, FuseReleaseIn.layout, Layout.readAt_iso, Layout.readAt_prod]
  rfl

/-- `fuse_write_in`. -/
structure FuseWriteIn where
  fh : BitVec 64
  offset : BitVec 64
  size : BitVec 32
  writeFlags : BitVec 32
  lockOwner : BitVec 64
  flags : BitVec 32
  padding : BitVec 32
  deriving DecidableEq

def FuseWriteIn.layout (e : Endian) : Layout FuseWriteIn :=
  ((u64 e).prod ((u64 e).prod ((u32 e).prod ((u32 e).prod
    ((u64 e).prod ((u32 e).prod (u32 e))))))).iso
    (fun w => (w.fh, w.offset, w.size, w.writeFlags, w.lockOwner, w.flags, w.padding))
    (fun ⟨h, o, s, w, l, f, p⟩ => ⟨h, o, s, w, l, f, p⟩) (fun _ => rfl) (fun _ => rfl)

theorem size_fuseWriteIn (e : Endian) : 0 < (FuseWriteIn.layout e).size := Nat.zero_lt_succ 39

def fuseWriteIn (e : Endian) : CType FuseWriteIn :=
  ⟨FuseWriteIn.layout e, 8, size_fuseWriteIn e, Nat.dvd_refl 8⟩

theorem readAt_fuseWriteIn (e : Endian) (bs : List UInt8) (off : Nat) :
    (fuseWriteIn e).layout.readAt bs off =
      ⟨(u64 e).readAt bs off, (u64 e).readAt bs (off + 8), (u32 e).readAt bs (off + 16),
        (u32 e).readAt bs (off + 20), (u64 e).readAt bs (off + 24),
        (u32 e).readAt bs (off + 32), (u32 e).readAt bs (off + 36)⟩ := by
  simp only [fuseWriteIn, FuseWriteIn.layout, Layout.readAt_iso, Layout.readAt_prod]
  rfl

/-- `fuse_read_in`. -/
structure FuseReadIn where
  fh : BitVec 64
  offset : BitVec 64
  size : BitVec 32
  readFlags : BitVec 32
  lockOwner : BitVec 64
  flags : BitVec 32
  padding : BitVec 32
  deriving DecidableEq

def FuseReadIn.layout (e : Endian) : Layout FuseReadIn :=
  ((u64 e).prod ((u64 e).prod ((u32 e).prod ((u32 e).prod
    ((u64 e).prod ((u32 e).prod (u32 e))))))).iso
    (fun r => (r.fh, r.offset, r.size, r.readFlags, r.lockOwner, r.flags, r.padding))
    (fun ⟨h, o, s, r, l, f, p⟩ => ⟨h, o, s, r, l, f, p⟩) (fun _ => rfl) (fun _ => rfl)

theorem size_fuseReadIn (e : Endian) : 0 < (FuseReadIn.layout e).size := Nat.zero_lt_succ 39

def fuseReadIn (e : Endian) : CType FuseReadIn :=
  ⟨FuseReadIn.layout e, 8, size_fuseReadIn e, Nat.dvd_refl 8⟩

theorem readAt_fuseReadIn (e : Endian) (bs : List UInt8) (off : Nat) :
    (fuseReadIn e).layout.readAt bs off =
      ⟨(u64 e).readAt bs off, (u64 e).readAt bs (off + 8), (u32 e).readAt bs (off + 16),
        (u32 e).readAt bs (off + 20), (u64 e).readAt bs (off + 24),
        (u32 e).readAt bs (off + 32), (u32 e).readAt bs (off + 36)⟩ := by
  simp only [fuseReadIn, FuseReadIn.layout, Layout.readAt_iso, Layout.readAt_prod]
  rfl

/-- `fuse_interrupt_in`. -/
structure FuseInterruptIn where
  unique : BitVec 64
  deriving DecidableEq

def FuseInterruptIn.layout (e : Endian) : Layout FuseInterruptIn :=
  (u64 e).iso (fun i => i.unique) (fun u => ⟨u⟩) (fun _ => rfl) (fun _ => rfl)

theorem size_fuseInterruptIn (e : Endian) : 0 < (FuseInterruptIn.layout e).size :=
  Nat.zero_lt_succ 7

def fuseInterruptIn (e : Endian) : CType FuseInterruptIn :=
  ⟨FuseInterruptIn.layout e, 8, size_fuseInterruptIn e, Nat.dvd_refl 8⟩

/-- `fuse_ioctl_in`. -/
structure FuseIoctlIn where
  fh : BitVec 64
  flags : BitVec 32
  cmd : BitVec 32
  arg : BitVec 64
  inSize : BitVec 32
  outSize : BitVec 32
  deriving DecidableEq

def FuseIoctlIn.layout (e : Endian) : Layout FuseIoctlIn :=
  ((u64 e).prod ((u32 e).prod ((u32 e).prod ((u64 e).prod ((u32 e).prod (u32 e)))))).iso
    (fun i => (i.fh, i.flags, i.cmd, i.arg, i.inSize, i.outSize))
    (fun ⟨h, f, c, a, i, o⟩ => ⟨h, f, c, a, i, o⟩) (fun _ => rfl) (fun _ => rfl)

theorem size_fuseIoctlIn (e : Endian) : 0 < (FuseIoctlIn.layout e).size := Nat.zero_lt_succ 31

def fuseIoctlIn (e : Endian) : CType FuseIoctlIn :=
  ⟨FuseIoctlIn.layout e, 8, size_fuseIoctlIn e, Nat.dvd_refl 8⟩

theorem readAt_fuseIoctlIn (e : Endian) (bs : List UInt8) (off : Nat) :
    (fuseIoctlIn e).layout.readAt bs off =
      ⟨(u64 e).readAt bs off, (u32 e).readAt bs (off + 8), (u32 e).readAt bs (off + 12),
        (u64 e).readAt bs (off + 16), (u32 e).readAt bs (off + 24),
        (u32 e).readAt bs (off + 28)⟩ := by
  simp only [fuseIoctlIn, FuseIoctlIn.layout, Layout.readAt_iso, Layout.readAt_prod]
  rfl

/-- `fuse_poll_in`. -/
structure FusePollIn where
  fh : BitVec 64
  kh : BitVec 64
  flags : BitVec 32
  events : BitVec 32
  deriving DecidableEq

def FusePollIn.layout (e : Endian) : Layout FusePollIn :=
  ((u64 e).prod ((u64 e).prod ((u32 e).prod (u32 e)))).iso
    (fun p => (p.fh, p.kh, p.flags, p.events))
    (fun ⟨h, k, f, v⟩ => ⟨h, k, f, v⟩) (fun _ => rfl) (fun _ => rfl)

theorem size_fusePollIn (e : Endian) : 0 < (FusePollIn.layout e).size := Nat.zero_lt_succ 23

def fusePollIn (e : Endian) : CType FusePollIn :=
  ⟨FusePollIn.layout e, 8, size_fusePollIn e, Nat.dvd_refl 8⟩

theorem readAt_fusePollIn (e : Endian) (bs : List UInt8) (off : Nat) :
    (fusePollIn e).layout.readAt bs off =
      ⟨(u64 e).readAt bs off, (u64 e).readAt bs (off + 8), (u32 e).readAt bs (off + 16),
        (u32 e).readAt bs (off + 20)⟩ := by
  simp only [fusePollIn, FusePollIn.layout, Layout.readAt_iso, Layout.readAt_prod]
  rfl

/-! ## Retried ioctls -/

/-- `fuse_ioctl_iovec`. -/
structure FuseIoctlIovec where
  base : BitVec 64
  len : BitVec 64
  deriving DecidableEq

def FuseIoctlIovec.layout (e : Endian) : Layout FuseIoctlIovec :=
  ((u64 e).prod (u64 e)).iso (fun v => (v.base, v.len)) (fun ⟨b, l⟩ => ⟨b, l⟩)
    (fun _ => rfl) (fun _ => rfl)

/-- `fuse_ioctl_out`. -/
structure FuseIoctlOut where
  result : BitVec 32
  flags : BitVec 32
  inIovs : BitVec 32
  outIovs : BitVec 32
  deriving DecidableEq

def FuseIoctlOut.layout (e : Endian) : Layout FuseIoctlOut :=
  ((u32 e).prod ((u32 e).prod ((u32 e).prod (u32 e)))).iso
    (fun o => (o.result, o.flags, o.inIovs, o.outIovs))
    (fun ⟨r, f, i, o⟩ => ⟨r, f, i, o⟩) (fun _ => rfl) (fun _ => rfl)

/-- `IoctlParams` of `mod-cuse`. -/
structure IoctlParams where
  fh : BitVec 64
  flags : BitVec 32
  cmd : BitVec 32
  arg : BitVec 64
  inSize : BitVec 32
  outSize : BitVec 32
  deriving DecidableEq

end Cuse2Net.Cuse

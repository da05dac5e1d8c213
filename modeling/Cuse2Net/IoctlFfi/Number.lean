import Cuse2Net.Lib.Layout

/-!
# Ioctl command numbers

Model of the crate `mod-ioctl`. A command number is a 32-bit word made of four bit fields; `BitGeo`
is the geometry of one field. The historical tty commands carry neither direction nor size in their
number: `BadIoctl` pairs such a command with the number that a regular definition would have, and
direction and size are read from there. `Termios` and `Termios2` are the kernel's terminal settings
and `Termios.layout`, `Termios2.layout` their memory layouts.

An assertion of the source is an `Option`: `none` means that it fails. The numbers below are
constants, so their assertions are evaluated when the program is compiled.
-/

set_option autoImplicit false

namespace Cuse2Net.IoctlFfi

open Cuse2Net.Lib
open Cuse2Net.Lib.Bytes

/-! ## Bit fields -/

/-- A field of `bits` bits at bit position `pos`. -/
structure BitGeo where
  bits : Nat
  pos : Nat
  deriving DecidableEq, Repr

namespace BitGeo

/-- `BitGeo::new`: the lowest field of a word. -/
def new (bits : Nat) : Option BitGeo :=
  if bits ≤ 31 then some ⟨bits, 0⟩ else none

/-- `BitGeo::next`: the field above this one. -/
def next (g : BitGeo) (bits : Nat) : Option BitGeo :=
  if bits ≤ 31 ∧ g.pos + g.bits + bits ≤ 32 then some ⟨bits, g.pos + g.bits⟩ else none

/-- `BitGeo::mask`. -/
def mask (g : BitGeo) : BitVec 32 := (1#32 <<< g.bits) - 1#32

/-- `BitGeo::encode`. -/
def encode (g : BitGeo) (val : BitVec 32) : Option (BitVec 32) :=
  if val < 1#32 <<< g.bits then some (val <<< g.pos) else none

/-- `BitGeo::decode`. -/
def decode (g : BitGeo) (val : BitVec 32) : BitVec 32 := (val >>> g.pos) &&& g.mask

end BitGeo

/-! ## Command numbers -/

/-- An ioctl command number. -/
structure Ioctl where
  num : BitVec 32
  deriving DecidableEq, Repr

namespace Ioctl

/-- Command number within its type. -/
def NR : BitGeo := (BitGeo.new 8).get rfl

/-- Type letter of a command. -/
def TYPE : BitGeo := (NR.next 8).get rfl

/-- Size of the object a command transfers. -/
def SIZE : BitGeo := (TYPE.next 14).get rfl

/-- Direction of the transfer. -/
def DIR : BitGeo := (SIZE.next 2).get rfl

def DIR_NONE : BitVec 32 := 0
def DIR_WRITE : BitVec 32 := 1
def DIR_READ : BitVec 32 := 2

/-- `ioctl::IOC`. -/
def IOC (dir : BitVec 32) (tp : BitVec 8) (nr : BitVec 32) (sz : Nat) : Option Ioctl := do
  let d ← DIR.encode dir
  let t ← TYPE.encode (tp.setWidth 32)
  let n ← NR.encode nr
  let s ← SIZE.encode (BitVec.ofNat 32 sz)
  return ⟨d ||| t ||| n ||| s⟩

/-- `ioctl::IOARG`, for an argument of `sz` bytes that is not transferred. -/
def IOARG (tp : BitVec 8) (nr : BitVec 32) (sz : Nat) : Option Ioctl := IOC DIR_NONE tp nr sz

/-- `ioctl::IOR`. -/
def IOR (tp : BitVec 8) (nr : BitVec 32) (sz : Nat) : Option Ioctl := IOC DIR_READ tp nr sz

/-- `ioctl::IOW`. -/
def IOW (tp : BitVec 8) (nr : BitVec 32) (sz : Nat) : Option Ioctl := IOC DIR_WRITE tp nr sz

/-- `ioctl::as_numeric`. -/
def asNumeric (cmd : Ioctl) : BitVec 32 := cmd.num

/-- `ioctl::is_read`. -/
def isRead (cmd : Ioctl) : Bool := DIR.decode cmd.num &&& DIR_READ != 0

/-- `ioctl::is_write`. -/
def isWrite (cmd : Ioctl) : Bool := DIR.decode cmd.num &&& DIR_WRITE != 0

/-- `ioctl::get_type`. -/
def getType (cmd : Ioctl) : BitVec 8 := (TYPE.decode cmd.num).setWidth 8

/-- `ioctl::get_nr`. -/
def getNr (cmd : Ioctl) : BitVec 32 := NR.decode cmd.num

/-- `ioctl::get_size`. -/
def getSize (cmd : Ioctl) : Nat := (SIZE.decode cmd.num).toNat

end Ioctl

/-! ## Terminal settings -/

/-- Number of control characters of a terminal. -/
def NCCS : Nat := 19

/-- The kernel's `struct termios`. -/
structure Termios where
  c_iflag : BitVec 32
  c_oflag : BitVec 32
  c_cflag : BitVec 32
  c_lflag : BitVec 32
  c_line : BitVec 8
  c_cc : Vector (BitVec 8) NCCS
  deriving DecidableEq

/-- The kernel's `struct termios2`, which adds the line speeds. -/
structure Termios2 where
  c_iflag : BitVec 32
  c_oflag : BitVec 32
  c_cflag : BitVec 32
  c_lflag : BitVec 32
  c_line : BitVec 8
  c_cc : Vector (BitVec 8) NCCS
  c_ispeed : BitVec 32
  c_ospeed : BitVec 32
  deriving DecidableEq

/-- `core::mem::size_of::<libc::c_int>()`. -/
def cIntSize : Nat := 4

/-- Layout of `u32` and `c_int` on a host. -/
def u32 (e : Endian) : Layout (BitVec 32) := Layout.word e 32 byteWidth_32

/-- Layout of `u64` on a host. -/
def u64 (e : Endian) : Layout (BitVec 64) := Layout.word e 64 byteWidth_64

/-- Layout of `u8`. -/
def u8 (e : Endian) : Layout (BitVec 8) := Layout.word e 8 byteWidth_8

/-- An array of bytes has the same memory image on every host. -/
theorem bytes_u8_array (e e' : Endian) {n : Nat} (bs : Vector (BitVec 8) n) :
    ((u8 e).array n).bytes bs = ((u8 e').array n).bytes bs :=
  Layout.bytes_array_congr (fun v => neBytes_byte e e' v) bs

/-- `size_of::<termios>()`. -/
def Termios.size : Nat := 36

/-- Memory layout of `termios`. -/
def Termios.layout (e : Endian) : Layout Termios :=
  ((u32 e).prod ((u32 e).prod ((u32 e).prod ((u32 e).prod
    ((u8 e).prod ((u8 e).array NCCS)))))).iso
    (fun t => (t.c_iflag, t.c_oflag, t.c_cflag, t.c_lflag, t.c_line, t.c_cc))
    (fun ⟨i, o, c, l, n, cc⟩ => ⟨i, o, c, l, n, cc⟩) (fun _ => rfl) (fun _ => rfl)

@[simp] theorem Termios.layout_size (e : Endian) : (Termios.layout e).size = Termios.size := rfl

/-- `size_of::<termios2>()`. -/
def Termios2.size : Nat := 44

/-- Memory layout of `termios2`. -/
def Termios2.layout (e : Endian) : Layout Termios2 :=
  ((u32 e).prod ((u32 e).prod ((u32 e).prod ((u32 e).prod
    ((u8 e).prod (((u8 e).array NCCS).prod ((u32 e).prod (u32 e)))))))).iso
    (fun t => (t.c_iflag, t.c_oflag, t.c_cflag, t.c_lflag, t.c_line, t.c_cc, t.c_ispeed,
      t.c_ospeed))
    (fun ⟨i, o, c, l, n, cc, is, os⟩ => ⟨i, o, c, l, n, cc, is, os⟩) (fun _ => rfl) (fun _ => rfl)

@[simp] theorem Termios2.layout_size (e : Endian) :
    (Termios2.layout e).size = Termios2.size := rfl

/-! ## Tty commands -/

namespace Ioctl

def TCGETS : Ioctl := ⟨0x5401⟩
def TCSETS : Ioctl := ⟨0x5402⟩
def TCSETSW : Ioctl := ⟨0x5403⟩
def TCSETSF : Ioctl := ⟨0x5404⟩
def TCFLSH : Ioctl := ⟨0x540B⟩
def TIOCGWINSZ : Ioctl := ⟨0x5413⟩
def TIOCSWINSZ : Ioctl := ⟨0x5414⟩
def TIOCMGET : Ioctl := ⟨0x5415⟩
def TIOCMBIS : Ioctl := ⟨0x5416⟩
def TIOCMBIC : Ioctl := ⟨0x5417⟩
def TIOCMSET : Ioctl := ⟨0x5418⟩
def TIOCGSOFTCAR : Ioctl := ⟨0x5419⟩
def TIOCSSOFTCAR : Ioctl := ⟨0x541A⟩
def TIOCINQ : Ioctl := ⟨0x541B⟩
def TIOCGLCKTRMIOS : Ioctl := ⟨0x5456⟩
def TIOCSLCKTRMIOS : Ioctl := ⟨0x5457⟩
def TCGETS2 : Ioctl := (IOR 0x54 0x2a Termios2.size).get rfl
def TCSETS2 : Ioctl := (IOW 0x54 0x2b Termios2.size).get rfl
def TCSETSW2 : Ioctl := (IOW 0x54 0x2c Termios2.size).get rfl
def TCSETSF2 : Ioctl := (IOW 0x54 0x2d Termios2.size).get rfl

end Ioctl

/-! ## Commands without direction and size -/

/-- A command with the number that tells its direction and size. -/
inductive BadIoctl where
  | native (cmd : Ioctl)
  | fixup (cmd good : Ioctl)
  deriving DecidableEq, Repr

namespace BadIoctl

open Ioctl

/-- The table of `declare_bad!`: a command and its regular number. -/
def table : List (Ioctl × Ioctl) :=
  [(TCGETS, (IOR TCGETS.getType TCGETS.getNr Termios.size).get rfl),
    (TCSETS, (IOW TCSETS.getType TCSETS.getNr Termios.size).get rfl),
    (TCSETSW, (IOW TCSETSW.getType TCSETSW.getNr Termios.size).get rfl),
    (TCSETSF, (IOW TCSETSF.getType TCSETSF.getNr Termios.size).get rfl),
    (TIOCGLCKTRMIOS, (IOR TIOCGLCKTRMIOS.getType TIOCGLCKTRMIOS.getNr Termios.size).get rfl),
    (TIOCSLCKTRMIOS, (IOW TIOCSLCKTRMIOS.getType TIOCSLCKTRMIOS.getNr Termios.size).get rfl),
    (TIOCGSOFTCAR, (IOR TIOCGSOFTCAR.getType TIOCGSOFTCAR.getNr cIntSize).get rfl),
    (TIOCSSOFTCAR, (IOW TIOCSSOFTCAR.getType TIOCSSOFTCAR.getNr cIntSize).get rfl),
    (TIOCMGET, (IOR TIOCMGET.getType TIOCMGET.getNr cIntSize).get rfl),
    (TIOCMBIS, (IOW TIOCMBIS.getType TIOCMBIS.getNr cIntSize).get rfl),
    (TIOCMBIC, (IOW TIOCMBIC.getType TIOCMBIC.getNr cIntSize).get rfl),
    (TIOCMSET, (IOW TIOCMSET.getType TIOCMSET.getNr cIntSize).get rfl),
    (TIOCINQ, (IOR TIOCINQ.getType TIOCINQ.getNr cIntSize).get rfl),
    (TCFLSH, (IOARG TCFLSH.getType TCFLSH.getNr 0).get rfl)]

/-- `BadIoctl::new`. -/
def new (cmd : Ioctl) : BadIoctl :=
  match table.lookup cmd with
  | some good => .fixup cmd good
  | none => .native cmd

/-- `BadIoctl::get_good`. -/
def getGood : BadIoctl → Ioctl
  | .native cmd => cmd
  | .fixup _ good => good

/-- `BadIoctl::get_native`. -/
def getNative : BadIoctl → Ioctl
  | .native cmd => cmd
  | .fixup cmd _ => cmd

/-- `BadIoctl::is_write`. -/
def isWrite (b : BadIoctl) : Bool := b.getGood.isWrite

/-- `BadIoctl::is_read`. -/
def isRead (b : BadIoctl) : Bool := b.getGood.isRead

/-- `BadIoctl::get_size`. -/
def getSize (b : BadIoctl) : Nat := b.getGood.getSize

@[simp] theorem getNative_new (cmd : Ioctl) : (new cmd).getNative = cmd := by
  unfold new
  cases table.lookup cmd with
  | some good => rfl
  | none => rfl

end BadIoctl

end Cuse2Net.IoctlFfi

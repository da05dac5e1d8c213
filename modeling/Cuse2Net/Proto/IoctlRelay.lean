import Cuse2Net.Proto.Ioctl
import Mathlib.Data.List.Basic

/-!
# The relay of an ioctl

The four tables of `Proto.Ioctl` were written separately, for two programs. This module relates
them. `classify` sorts the commands into the classes that any of the tables tells apart; one lemma
for each table says what it does on each class (`decode_cuse_eq`, `encodeArg_eq`,
`decode_device_eq`, `cuseResponse_eq`), and `shape_classify` says which direction and size the commands
of a class have. What the tables do together is then a case analysis over the classes.

`relay_transparent` is the main result: a caller's buffer reaches the device unchanged and what the
device left in the buffer reaches the caller unchanged.
-/

set_option autoImplicit false

namespace Cuse2Net.Proto

open Cuse2Net.Lib
open Cuse2Net.Lib.Bytes
open Cuse2Net.IoctlFfi
open Cuse2Net.IoctlFfi.Ioctl

/-! ## Classes of commands -/

/-- What a command does, as far as the tables tell commands apart. -/
inductive CommandClass where
  | setTermios
  | setTermios2
  | setWinsize
  | getWinsize
  | getTermios
  | getTermios2
  | setInt
  | getQueued
  | flush
  | getModem
  | otherWrite
  | otherRead
  | plain
  deriving DecidableEq, Repr

namespace CommandClass

/-- The commands that one of the tables names, with their classes. -/
def named : List (Ioctl × CommandClass) :=
  [(TIOCSLCKTRMIOS, setTermios), (TCSETSW, setTermios), (TCSETSF, setTermios),
    (TCSETS, setTermios), (TCSETSW2, setTermios2), (TCSETSF2, setTermios2),
    (TCSETS2, setTermios2), (TIOCSWINSZ, setWinsize), (TIOCGWINSZ, getWinsize),
    (TIOCGLCKTRMIOS, getTermios), (TCGETS, getTermios), (TCGETS2, getTermios2),
    (TIOCSSOFTCAR, setInt), (TIOCMSET, setInt), (TIOCMBIC, setInt), (TIOCMBIS, setInt),
    (TIOCINQ, getQueued), (TCFLSH, flush), (TIOCMGET, getModem)]

/-- The named commands. -/
def commands : List Ioctl := named.map Prod.fst

/-- The class of a command that no table names: its direction decides. -/
def ofDirection (b : BadIoctl) : CommandClass :=
  if b.isWrite then otherWrite else if b.isRead then otherRead else plain

/-- The class of a command. -/
def classify (cmd : Ioctl) : CommandClass :=
  match named.lookup cmd with
  | some k => k
  | none => ofDirection (BadIoctl.new cmd)

/-- A command is named with its class, or its direction decides. -/
theorem classify_cases (cmd : Ioctl) :
    (cmd, classify cmd) ∈ named ∨
      (cmd ∉ commands ∧ classify cmd = ofDirection (BadIoctl.new cmd)) := by
  unfold classify
  cases h : named.lookup cmd with
  | some k =>
      left
      obtain ⟨l₁, l₂, hsplit, -⟩ := List.lookup_eq_some_iff.1 h
      rw [hsplit]
      exact List.mem_append_right l₁ List.mem_cons_self
  | none =>
      -- `lookup` compares with `==`, which is equality here
      right
      refine ⟨?_, rfl⟩
      rw [commands, List.mem_map]
      rintro ⟨p, hp, rfl⟩
      have hne := List.lookup_eq_none_iff.1 h p hp
      rw [bne_self_eq_false] at hne
      cases hne

/-- **Case analysis over commands.** What holds of each named command and, by its direction, of every
other command holds of all commands. -/
theorem classify_induct {P : Ioctl → CommandClass → Prop} (hnamed : ∀ p ∈ named, P p.1 p.2)
    (hother : ∀ cmd, cmd ∉ commands → P cmd (ofDirection (BadIoctl.new cmd))) (cmd : Ioctl) :
    P cmd (classify cmd) := by
  rcases classify_cases cmd with hmem | ⟨hn, hclass⟩
  · exact hnamed _ hmem
  · rw [hclass]
    exact hother cmd hn

theorem notMem_of_unnamed {cmd : Ioctl} (hn : cmd ∉ commands) {l : List Ioctl} (hl : l ⊆ commands) :
    cmd ∉ l :=
  fun h => hn (hl h)

theorem ne_of_unnamed {cmd c : Ioctl} (hn : cmd ∉ commands) (hc : c ∈ commands) : cmd ≠ c := by
  rintro rfl
  exact hn hc

/-- Whether the commands of a class take a buffer. -/
def isWrite : CommandClass → Bool
  | setTermios | setTermios2 | setInt | otherWrite => true
  | _ => false

/-- Whether the commands of a class return a buffer. -/
def isRead : CommandClass → Bool
  | getTermios | getTermios2 | getQueued | getModem | otherRead => true
  | _ => false

/-- The size of the buffer of the commands of a class, where the tables fix one. -/
def size : CommandClass → Option Nat
  | setTermios | getTermios => some Termios.size
  | setTermios2 | getTermios2 => some Termios2.size
  | setInt | getQueued | getModem => some cIntSize
  | _ => none

/-- The direction and the size of a command are those of a class. A command that takes a buffer and
is not named may also return one. -/
structure Shape (b : BadIoctl) (k : CommandClass) : Prop where
  write : b.isWrite = k.isWrite
  read : k ≠ otherWrite → b.isRead = k.isRead
  size : ∀ n ∈ k.size, b.getSize = n

theorem shape_ofDirection (b : BadIoctl) : Shape b (ofDirection b) := by
  unfold ofDirection
  by_cases hw : b.isWrite = true
  · rw [if_pos hw]
    exact ⟨hw, fun h => absurd rfl h, fun n hn => by cases hn⟩
  · by_cases hr : b.isRead = true
    · rw [if_neg hw, if_pos hr]
      exact ⟨Bool.eq_false_iff.2 hw, fun _ => hr, fun n hn => by cases hn⟩
    · rw [if_neg hw, if_neg hr]
      exact ⟨Bool.eq_false_iff.2 hw, fun _ => Bool.eq_false_iff.2 hr, fun n hn => by cases hn⟩

theorem shape_named : ∀ p ∈ named, Shape (BadIoctl.new p.1) p.2 := by
  have hdirection : ∀ p ∈ named, (BadIoctl.new p.1).isWrite = p.2.isWrite ∧
      (BadIoctl.new p.1).isRead = p.2.isRead := by decide +kernel
  have hsize : ∀ p ∈ named, ∀ n ∈ p.2.size, (BadIoctl.new p.1).getSize = n := by decide +kernel
  intro p hp
  exact ⟨(hdirection p hp).1, fun _ => (hdirection p hp).2, hsize p hp⟩

theorem shape_classify (cmd : Ioctl) : Shape (BadIoctl.new cmd) (classify cmd) :=
  classify_induct (P := fun cmd k => Shape (BadIoctl.new cmd) k) shape_named
    (fun _ _ => shape_ofDirection _) cmd

theorem direction_setter {b : BadIoctl} {k : CommandClass}
    (hk : k ∈ [setTermios, setTermios2, setInt]) (h : Shape b k) :
    b.isWrite = true ∧ b.isRead = false := by
  simp only [List.mem_cons, List.not_mem_nil, or_false] at hk
  rcases hk with rfl | rfl | rfl <;> exact ⟨h.write, h.read (by decide)⟩

theorem direction_getter {b : BadIoctl} {k : CommandClass}
    (hk : k ∈ [getTermios, getQueued, getModem]) (h : Shape b k) :
    b.isWrite = false ∧ b.isRead = true := by
  simp only [List.mem_cons, List.not_mem_nil, or_false] at hk
  rcases hk with rfl | rfl | rfl <;> exact ⟨h.write, h.read (by decide)⟩

end CommandClass

/-! ## The tables by class -/

namespace Arg

open CommandClass

/-- What the client sends for a command of a class. -/
def clientArg (e : Endian) (x : BitVec 64) (buf : List UInt8) : CommandClass → Result Arg
  | setTermios => (TermIOs.tryFromOs e buf).map termIOs
  | setTermios2 => (TermIOs.tryFromRawOs2 e buf).map termIOs
  | setWinsize => .error .panic
  | setInt => (tryAsI32 e buf).map int
  | flush => .ok (arg (Be.fromNative e x))
  | otherWrite => .ok (raw buf)
  | plain => .ok (rawArg (Be.fromNative e x))
  | getWinsize | getTermios | getTermios2 | getQueued | getModem | otherRead => .ok none

/-- What the server makes of the device's buffer for a command of a class. -/
def serverArg (e : Endian) (x : BitVec 64) (buf : List UInt8) : CommandClass → Result Arg
  | getTermios => (TermIOs.tryFromOs e buf).map termIOs
  | getTermios2 => (TermIOs.tryFromRawOs2 e buf).map termIOs
  | getWinsize => .error .panic
  | getQueued => (tryAsI32 e buf).map int
  | getModem | otherRead => .ok (raw buf)
  | plain => .ok (rawArg (Be.fromNative e x))
  | setTermios | setTermios2 | setWinsize | setInt | flush | otherWrite => .ok none

/-- What `encode` makes of an argument for a command of a class. -/
def deviceArg (e : Endian) (mem : Memory) : CommandClass → Arg → Result (BitVec 64 × List UInt8)
  | setTermios, termIOs ios => .ok (objToArg (Termios.layout e) mem (ios.intoOs e))
  | setTermios2, termIOs ios => .ok (objToArg (Termios2.layout e) mem (ios.intoOs2 e))
  | getTermios, none => .ok (uninitArg mem Termios.size)
  | getModem, none | getQueued, none => .ok (uninitArg mem cIntSize)
  | setWinsize, arg x | getWinsize, arg x | getTermios2, arg x | flush, arg x | otherRead, arg x
  | plain, arg x => .ok (x.asNative e, [])
  | setWinsize, rawArg x | getWinsize, rawArg x | getTermios2, rawArg x | flush, rawArg x
  | otherRead, rawArg x | plain, rawArg x => .ok (x.asNative e, [])
  | setInt, raw _ | otherWrite, raw _ => .error .panic
  | setInt, int val | otherWrite, int val => .ok (objToArg (u32 e) mem (val.asNative e))
  | setInt, uInt val | otherWrite, uInt val => .ok (objToArg (u32 e) mem (val.asNative e))
  | _, _ => Err .badIoctlParam

/-- What `cuseResponse` makes of an argument for a command of a class, which returns a buffer or
not. -/
def callerReply (e : Endian) (read : Bool) : CommandClass → Arg → Result (Option (List UInt8))
  | getTermios, termIOs ios => .ok (objToCuse (Termios.layout e) (ios.intoOs e))
  | getTermios2, termIOs ios => .ok (objToCuse (Termios2.layout e) (ios.intoOs2 e))
  | getTermios, _ | getTermios2, _ | setWinsize, _ => Err .badIoctlParam
  | _, a =>
      if !read then .ok Option.none
      else
        match a with
        | none | arg _ | rawArg _ => .ok Option.none
        | termIOs _ => Err .badIoctlParam
        | raw data => .ok (some data)
        | int val => .ok (objToCuse (u32 e) (val.asNative e))
        | uInt val => .ok (objToCuse (u32 e) (val.asNative e))

theorem decode_unnamed {cmd : BitVec 32} (hn : ⟨cmd⟩ ∉ commands) (e : Endian) (x : BitVec 64)
    (buf : List UInt8) (src : Source) :
    decode e cmd x buf src =
      match src with
      | .cuse => clientArg e x buf (ofDirection (BadIoctl.new ⟨cmd⟩))
      | .device => serverArg e x buf (ofDirection (BadIoctl.new ⟨cmd⟩)) := by
  unfold decode ofDirection
  simp only [BadIoctl.getNative_new]
  -- the arms of the table in order, up to the two guards on the direction
  rw [if_neg (notMem_of_unnamed hn (by decide)), if_neg (notMem_of_unnamed hn (by decide)),
    if_neg (ne_of_unnamed hn (by decide)), if_neg (ne_of_unnamed hn (by decide)),
    if_neg (notMem_of_unnamed hn (by decide)), if_neg (ne_of_unnamed hn (by decide)),
    if_neg (notMem_of_unnamed hn (by decide)), if_neg (ne_of_unnamed hn (by decide)),
    if_neg (ne_of_unnamed hn (by decide))]
  cases src <;> split <;> first | rfl | (split <;> rfl)

theorem decode_cuse_eq (e : Endian) (cmd : BitVec 32) (x : BitVec 64) (buf : List UInt8) :
    decode e cmd x buf .cuse = clientArg e x buf (classify ⟨cmd⟩) := by
  refine classify_induct (P := fun c k => decode e c.num x buf .cuse = clientArg e x buf k) ?_ ?_
    ⟨cmd⟩
  · simp only [named, List.forall_mem_cons]
    exact ⟨rfl, rfl, rfl, rfl, rfl, rfl, rfl, rfl, rfl, rfl, rfl, rfl, rfl, rfl, rfl, rfl, rfl, rfl,
      rfl, List.forall_mem_nil _⟩
  · intro c hn
    exact decode_unnamed hn e x buf .cuse

theorem decode_device_eq (e : Endian) (cmd : BitVec 32) (x : BitVec 64) (buf : List UInt8) :
    decode e cmd x buf .device = serverArg e x buf (classify ⟨cmd⟩) := by
  refine classify_induct (P := fun c k => decode e c.num x buf .device = serverArg e x buf k) ?_ ?_
    ⟨cmd⟩
  · simp only [named, List.forall_mem_cons]
    exact ⟨rfl, rfl, rfl, rfl, rfl, rfl, rfl, rfl, rfl, rfl, rfl, rfl, rfl, rfl, rfl, rfl, rfl, rfl,
      rfl, List.forall_mem_nil _⟩
  · intro c hn
    exact decode_unnamed hn e x buf .device

theorem encodeArg_unnamed {cmd : Ioctl} (hn : cmd ∉ commands) (e : Endian) (mem : Memory)
    (a : Arg) :
    encodeArg e mem a (BadIoctl.new cmd) =
      deviceArg e mem (ofDirection (BadIoctl.new cmd)) a := by
  unfold encodeArg ofDirection
  rw [BadIoctl.getNative_new, if_neg (notMem_of_unnamed hn (by decide)),
    if_neg (notMem_of_unnamed hn (by decide)), if_neg (notMem_of_unnamed hn (by decide)),
    if_neg (notMem_of_unnamed hn (by decide))]
  cases (BadIoctl.new cmd).isWrite with
  | true => cases a <;> rfl
  -- `encode` does not ask for the other direction
  | false => cases (BadIoctl.new cmd).isRead <;> cases a <;> rfl

theorem encodeArg_eq (e : Endian) (mem : Memory) (a : Arg) (cmd : Ioctl) :
    encodeArg e mem a (BadIoctl.new cmd) = deviceArg e mem (classify cmd) a := by
  refine classify_induct
    (P := fun c k => encodeArg e mem a (BadIoctl.new c) = deviceArg e mem k a) ?_ ?_ cmd
  · simp only [named, List.forall_mem_cons]
    cases a <;>
      exact ⟨rfl, rfl, rfl, rfl, rfl, rfl, rfl, rfl, rfl, rfl, rfl, rfl, rfl, rfl, rfl, rfl, rfl,
        rfl, rfl, List.forall_mem_nil _⟩
  · intro c hn
    exact encodeArg_unnamed hn e mem a

theorem encode_eq (e : Endian) (mem : Memory) (a : Arg) (cmd : BitVec 32) :
    encode e mem a cmd =
      (deviceArg e mem (classify ⟨cmd⟩) a).map fun res => (cmd, res.1, res.2) := by
  unfold encode
  simp only [encodeArg_eq, BadIoctl.getNative_new]
  cases deviceArg e mem (classify ⟨cmd⟩) a <;> rfl

theorem cuseResponse_unnamed {cmd : Ioctl} (hn : cmd ∉ commands) (e : Endian) (a : Arg) :
    cuseResponse e a cmd =
      callerReply e (BadIoctl.new cmd).isRead (ofDirection (BadIoctl.new cmd)) a := by
  unfold cuseResponse ofDirection
  simp only [BadIoctl.getNative_new]
  rw [if_neg (notMem_of_unnamed hn (by decide)), if_neg (ne_of_unnamed hn (by decide)),
    if_neg (ne_of_unnamed hn (by decide))]
  cases (BadIoctl.new cmd).isWrite <;> cases (BadIoctl.new cmd).isRead <;> cases a <;> rfl

theorem cuseResponse_eq (e : Endian) (a : Arg) (cmd : Ioctl) :
    cuseResponse e a cmd = callerReply e (BadIoctl.new cmd).isRead (classify cmd) a := by
  refine classify_induct
    (P := fun c k => cuseResponse e a c = callerReply e (BadIoctl.new c).isRead k a) ?_ ?_ cmd
  · simp only [named, List.forall_mem_cons]
    cases a <;>
      exact ⟨rfl, rfl, rfl, rfl, rfl, rfl, rfl, rfl, rfl, rfl, rfl, rfl, rfl, rfl, rfl, rfl, rfl,
        rfl, rfl, List.forall_mem_nil _⟩
  · intro c hn
    exact cuseResponse_unnamed hn e a

/-! ## The way to the device and back -/

theorem bytes_tryAsI32 {e : Endian} {buf : List UInt8} {val : Be32}
    (h : tryAsI32 e buf = .ok val) :
    cIntSize ≤ buf.length ∧ (u32 e).bytes (val.asNative e) = buf.take cIntSize := by
  unfold tryAsI32 at h
  by_cases hlen : buf.length < 4
  · rw [if_pos hlen] at h
    cases h
  · rw [if_neg hlen] at h
    obtain rfl := Except.ok.inj h
    refine ⟨Nat.le_of_not_lt hlen, ?_⟩
    rw [Be.asNative_fromNative byteWidth_32]
    apply (u32 e).bytes_parse
    rw [List.length_take]
    exact Nat.min_eq_left (Nat.le_of_not_lt hlen)

/-- The device's buffer `b` of a command comes back to the caller as `reply`. -/
def Returns (e : Endian) (cmd : BitVec 32) (x : BitVec 64) (b : List UInt8)
    (reply : Option (List UInt8)) : Prop :=
  ∃ r r', decode e cmd x b .device = .ok r ∧ r.overWire e e = .ok r' ∧
    cuseResponse e r' ⟨cmd⟩ = .ok reply

/-- What the two tables for the way back have to give, class by class. -/
theorem returns_of_class {e : Endian} {cmd : BitVec 32} {x : BitVec 64} {b : List UInt8}
    {reply : Option (List UInt8)} {r : Arg} (hserver : serverArg e x b (classify ⟨cmd⟩) = .ok r)
    (hreply : callerReply e (BadIoctl.new ⟨cmd⟩).isRead (classify ⟨cmd⟩) r = .ok reply) :
    Returns e cmd x b reply := by
  refine ⟨r, r, ?_, ?_, ?_⟩
  · rw [decode_device_eq, hserver]
  · rw [overWire_eq, rehost_self]
  · rw [cuseResponse_eq, hreply]

theorem returns_termios {e : Endian} {cmd : BitVec 32} (hk : classify ⟨cmd⟩ = getTermios)
    (x : BitVec 64) {b : List UInt8} (hlen : b.length = Termios.size) :
    Returns e cmd x b (some b) := by
  have hfrom : ∃ ios, TermIOs.tryFromOs e b = .ok ios := by
    unfold TermIOs.tryFromOs
    rw [if_neg (by omega)]
    exact ⟨_, rfl⟩
  obtain ⟨ios, hios⟩ := hfrom
  have hbytes := (TermIOs.intoOs_tryFromOs hios).2
  rw [List.take_of_length_le (Nat.le_of_eq hlen)] at hbytes
  apply returns_of_class
  · rw [hk, serverArg, hios]
    rfl
  · rw [hk, callerReply, objToCuse, hbytes]

theorem returns_int {e : Endian} {cmd : BitVec 32} (hk : classify ⟨cmd⟩ = getQueued)
    (hread : (BadIoctl.new ⟨cmd⟩).isRead = true) (x : BitVec 64) {b : List UInt8}
    (hlen : b.length = cIntSize) : Returns e cmd x b (some b) := by
  have hfrom : ∃ val, tryAsI32 e b = .ok val := by
    unfold tryAsI32
    rw [hlen]
    exact ⟨_, rfl⟩
  obtain ⟨val, hval⟩ := hfrom
  have hbytes := (bytes_tryAsI32 hval).2
  rw [List.take_of_length_le (Nat.le_of_eq hlen)] at hbytes
  apply returns_of_class
  · rw [hk, serverArg, hval]
    rfl
  · rw [hk, hread]
    show Except.ok (objToCuse (u32 e) (val.asNative e)) = _
    rw [objToCuse, hbytes]

/-- Nothing comes back for a command that returns no buffer. -/
theorem returns_none {e : Endian} {cmd : BitVec 32}
    (hk : classify ⟨cmd⟩ ∈ [setTermios, setTermios2, setInt, flush])
    (hread : (BadIoctl.new ⟨cmd⟩).isRead = false) (x : BitVec 64) (b : List UInt8) :
    Returns e cmd x b Option.none := by
  simp only [List.mem_cons, List.not_mem_nil, or_false] at hk
  apply returns_of_class (r := none)
  · rcases hk with hk | hk | hk | hk <;> rw [hk] <;> rfl
  · rcases hk with hk | hk | hk | hk <;> rw [hk, hread] <;> rfl

/-- What the device left in the buffer comes back for a command that returns it. -/
theorem returns_some {e : Endian} {cmd : BitVec 32}
    (hk : classify ⟨cmd⟩ ∈ [getTermios, getQueued, getModem])
    (hread : (BadIoctl.new ⟨cmd⟩).isRead = true) (x : BitVec 64) {b : List UInt8}
    (hlen : b.length ∈ (classify ⟨cmd⟩).size) : Returns e cmd x b (some b) := by
  simp only [List.mem_cons, List.not_mem_nil, or_false] at hk
  rcases hk with hk | hk | hk
  · rw [hk] at hlen
    exact returns_termios hk x (Option.some.inj hlen).symm
  · rw [hk] at hlen
    exact returns_int hk hread x (Option.some.inj hlen).symm
  · -- `decode` has no arm for the modem lines, so they travel as raw bytes
    apply returns_of_class (r := raw b)
    · rw [hk]
      rfl
    · rw [hk, hread]
      rfl

/-- The class tells what the server passes to the device: on every class whose argument `encode`
accepts, the caller's bytes or an empty buffer of the right size. -/
theorem deviceArg_clientArg {e : Endian} {mem : Memory} {x p : BitVec 64} {buf b₀ : List UInt8}
    {a : Arg} {k : CommandClass} (hclient : clientArg e x buf k = .ok a) (hraw : a.isRaw = false)
    (hdevice : deviceArg e mem k a = .ok (p, b₀)) :
    (k ∈ [setTermios, setTermios2, setInt] ∧ ∃ n ∈ k.size, n ≤ buf.length ∧ b₀ = buf.take n) ∨
      (k ∈ [getTermios, getQueued, getModem] ∧ b₀.length ∈ k.size) ∨
        (k = flush ∧ b₀ = [] ∧ p = x) := by
  cases k with
  | setTermios =>
      left
      obtain ⟨ios, hios, rfl⟩ := ok_of_map hclient
      have ⟨hle, hbytes⟩ := TermIOs.intoOs_tryFromOs hios
      cases hdevice
      exact ⟨by decide, _, rfl, hle, hbytes⟩
  | setTermios2 =>
      left
      obtain ⟨ios, hios, rfl⟩ := ok_of_map hclient
      have ⟨hle, hbytes⟩ := TermIOs.intoOs2_tryFromRawOs2 hios
      cases hdevice
      exact ⟨by decide, _, rfl, hle, hbytes⟩
  | setInt =>
      left
      obtain ⟨val, hval, rfl⟩ := ok_of_map hclient
      have ⟨hle, hbytes⟩ := bytes_tryAsI32 hval
      cases hdevice
      exact ⟨by decide, _, rfl, hle, hbytes⟩
  | getTermios | getQueued | getModem =>
      -- the buffer is fresh memory of the size that the command asks for
      right; left
      cases hclient
      cases hdevice
      refine ⟨by decide, ?_⟩
      rw [List.length_map, List.length_range]
      rfl
  | flush =>
      right; right
      cases hclient
      cases hdevice
      exact ⟨rfl, rfl, Be.asNative_fromNative byteWidth_64 e x⟩
  | getWinsize | getTermios2 | otherRead =>
      -- the client sends no argument, and `encode` wants one
      cases hclient
      cases hdevice
  | setWinsize => cases hclient
  | otherWrite | plain =>
      -- the argument is raw
      cases hclient
      cases hraw

end Arg

open Arg CommandClass

/-- **The relay of an ioctl is transparent.** Let the client accept an argument that is not raw, let
the argument cross the wire and let the server make a call with command number `code`, argument `p`
and buffer `b₀` of it. The device sees the caller's command; the caller's bytes, if the command takes
any; the caller's argument, if the command transfers nothing; and a buffer of the right size, if the
command returns one. Whatever bytes the device leaves in the buffer are the caller's reply. -/
theorem relay_transparent (e : Endian) (mem : Memory) (cmd code : BitVec 32) (x p : BitVec 64)
    (buf b₀ : List UInt8) (a a' : Arg) (hdecode : decode e cmd x buf .cuse = .ok a)
    (hraw : a.isRaw = false) (hwire : a.overWire e e = .ok a')
    (hencode : encode e mem a' cmd = .ok (code, p, b₀)) :
    code = cmd ∧
      ((BadIoctl.new ⟨cmd⟩).isWrite = true →
        (BadIoctl.new ⟨cmd⟩).getSize ≤ buf.length ∧
          b₀ = buf.take (BadIoctl.new ⟨cmd⟩).getSize) ∧
      ((BadIoctl.new ⟨cmd⟩).isWrite = false → (BadIoctl.new ⟨cmd⟩).isRead = false →
        b₀ = [] ∧ p = x) ∧
      ((BadIoctl.new ⟨cmd⟩).isRead = true → b₀.length = (BadIoctl.new ⟨cmd⟩).getSize) ∧
      ∀ b, b.length = b₀.length →
        ∃ r r', decode e code p b .device = .ok r ∧ r.overWire e e = .ok r' ∧
          cuseResponse e r' ⟨cmd⟩ =
            .ok (if (BadIoctl.new ⟨cmd⟩).isRead = true then some b else none) := by
  rw [overWire_eq, rehost_self] at hwire
  obtain rfl := Except.ok.inj hwire
  rw [encode_eq] at hencode
  obtain ⟨res, hdevice, hres⟩ := ok_of_map hencode
  cases hres
  rw [decode_cuse_eq] at hdecode
  have hshape := shape_classify ⟨cmd⟩
  refine ⟨rfl, ?_⟩
  show _ ∧ _ ∧ _ ∧ ∀ b, b.length = res.2.length → Returns e cmd res.1 b _
  rcases deviceArg_clientArg hdecode hraw hdevice with
    ⟨hk, n, hn, hle, hb₀⟩ | ⟨hk, hb₀⟩ | ⟨hk, hb₀, hp⟩
  -- a setter, a getter, or a flush
  · obtain ⟨hwrite, hread⟩ := direction_setter hk hshape
    rw [hshape.size n hn, hwrite, hread]
    refine ⟨fun _ => ⟨hle, hb₀⟩, nofun, nofun, fun b _ => ?_⟩
    exact returns_none (List.mem_append_left [flush] hk) hread res.1 b
  · obtain ⟨hwrite, hread⟩ := direction_getter hk hshape
    rw [hshape.size _ hb₀, hwrite, hread]
    refine ⟨nofun, nofun, fun _ => rfl, fun b hb => ?_⟩
    exact returns_some hk hread res.1 (hb ▸ hb₀)
  · have hread := hshape.read (by rw [hk]; decide)
    have hwrite := hshape.write
    rw [hk] at hread hwrite
    rw [hwrite, hread]
    refine ⟨nofun, fun _ _ => ⟨hb₀, hp⟩, nofun, fun b _ => ?_⟩
    exact returns_none (by rw [hk]; decide) hread res.1 b

/-- Setting the modem lines: the caller's four bytes reach the device and nothing comes back. -/
theorem relay_transparent_modem_lines :
    decode .little TIOCMSET.num 0 [1, 2, 3, 4] .cuse = .ok (.int ⟨0x01020304⟩) ∧
      encode .little ⟨0x1000, fun _ => 0⟩ (.int ⟨0x01020304⟩) TIOCMSET.num =
        .ok (TIOCMSET.num, 0x1000, [1, 2, 3, 4]) ∧
      ∃ r r', decode .little TIOCMSET.num 0x1000 [1, 2, 3, 4] .device = .ok r ∧
        r.overWire .little .little = .ok r' ∧ cuseResponse .little r' TIOCMSET = .ok none :=
  have hdecode : decode .little TIOCMSET.num 0 [1, 2, 3, 4] .cuse = .ok (.int ⟨0x01020304⟩) := rfl
  have hencode : encode .little ⟨0x1000, fun _ => 0⟩ (.int ⟨0x01020304⟩) TIOCMSET.num =
      .ok (TIOCMSET.num, 0x1000, [1, 2, 3, 4]) := rfl
  ⟨hdecode, hencode,
    (relay_transparent .little _ _ _ _ _ _ _ _ _ hdecode rfl rfl hencode).2.2.2.2 [1, 2, 3, 4] rfl⟩

end Cuse2Net.Proto

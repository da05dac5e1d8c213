import Cuse2Net.Realdev.Ioctl

/-!
# The buffer of an ioctl call

`Device::ioctl` hands the driver a number that a command with a direction makes the kernel use as
an address. This module says where that number comes from and how large the memory behind it is.

`encode` either allocates a buffer and passes its address, or passes an integer of the request. The
two are told apart by moving the allocation: the first number moves with it (`AddressesBuffer`), the
second one does not (`ForwardsInteger`). `deviceArg_cases` sorts the classes of commands that way,
with the size of the allocation, and the two main results read it off for the commands that the
kernel dereferences (`encode_pointer_iff`) and for the size that their number asks for
(`encode_size_iff`).

The gate for raw arguments looks at the kind of the argument alone. A client that sends the kind
`Arg` for a command that returns a buffer passes the gate, and its integer is the address.
-/

set_option autoImplicit false

namespace Cuse2Net.Realdev

open Cuse2Net.Lib.Bytes
open Cuse2Net.IoctlFfi
open Cuse2Net.IoctlFfi.Ioctl
open Cuse2Net.Proto
open Cuse2Net.Proto.Arg
open Cuse2Net.Proto.CommandClass

/-! ## Where the argument of the call comes from -/

/-- The argument of the call is the address of the buffer that `encode` allocates, wherever the
allocation is. -/
def AddressesBuffer (e : Endian) (a : Arg) (cmd : BitVec 32) : Prop :=
  ∀ mem, ∃ buf, a.encode e mem cmd = .ok (cmd, mem.ptr, buf)

/-- The argument of the call is the integer `x`, wherever an allocation would be, and there is no
buffer. -/
def ForwardsInteger (e : Endian) (a : Arg) (cmd : BitVec 32) (x : BitVec 64) : Prop :=
  ∀ mem, a.encode e mem cmd = .ok (cmd, x, [])

/-- An integer that is forwarded is not the address of a buffer: the allocation can be elsewhere. -/
theorem ForwardsInteger.not_addressesBuffer {e : Endian} {a : Arg} {cmd : BitVec 32}
    {x : BitVec 64} (h : ForwardsInteger e a cmd x) : ¬AddressesBuffer e a cmd := by
  intro haddr
  obtain ⟨buf, hbuf⟩ := haddr ⟨x + 1, fun _ => 0⟩
  rw [h] at hbuf
  have hx : x = x + 1 := congrArg (fun r => r.2.1) (Except.ok.inj hbuf)
  simp at hx

/-- The size of the buffer that is allocated for the commands of a class. -/
def allocated : CommandClass → Nat
  | otherWrite => cIntSize
  | k => k.size.getD 0

/-- The classes whose commands get a buffer. -/
def bufferClasses : List CommandClass :=
  [setTermios, setTermios2, getTermios, getQueued, getModem, setInt, otherWrite]

/-- **Where the argument of a call comes from, class by class.** -/
theorem deviceArg_cases {e : Endian} {mem : Memory} {k : CommandClass} {a : Arg}
    {res : BitVec 64 × List UInt8} (hraw : a.isRaw = false) (h : deviceArg e mem k a = .ok res) :
    (k ∈ bufferClasses ∧ res.2.length = allocated k ∧
        ∀ mem', ∃ buf, deviceArg e mem' k a = .ok (mem'.ptr, buf)) ∨
      (k ∉ bufferClasses ∧
        ∃ x, a = .arg x ∧ ∀ mem', deviceArg e mem' k a = .ok (x.asNative e, [])) := by
  cases k with
  | setTermios =>
      cases a with
      | termIOs ios =>
          cases h
          exact .inl ⟨by decide, (Termios.layout e).length_bytes _, fun mem' => ⟨_, rfl⟩⟩
      | _ => cases h
  | setTermios2 =>
      cases a with
      | termIOs ios =>
          cases h
          exact .inl ⟨by decide, (Termios2.layout e).length_bytes _, fun mem' => ⟨_, rfl⟩⟩
      | _ => cases h
  | getTermios | getQueued | getModem =>
      cases a with
      | none =>
          cases h
          exact .inl ⟨by decide, length_uninitArg mem _, fun mem' => ⟨_, rfl⟩⟩
      | _ => cases h
  | setInt | otherWrite =>
      cases a with
      | int val | uInt val =>
          cases h
          exact .inl ⟨by decide, (u32 e).length_bytes _, fun mem' => ⟨_, rfl⟩⟩
      | _ => cases h
  | setWinsize | getWinsize | getTermios2 | flush | otherRead | plain =>
      cases a with
      | arg x => exact .inr ⟨by decide, x, rfl, fun mem' => rfl⟩
      -- the gate stops this kind, which `encode` would treat as the one before
      | rawArg x => cases hraw
      | _ => cases h

/-- The same for `encode`. -/
theorem encode_cases {e : Endian} {mem : Memory} {cmd code : BitVec 32} {a : Arg} {p : BitVec 64}
    {buf : List UInt8} (hraw : a.isRaw = false) (h : a.encode e mem cmd = .ok (code, p, buf)) :
    (classify ⟨cmd⟩ ∈ bufferClasses ∧ buf.length = allocated (classify ⟨cmd⟩) ∧
        p = mem.ptr ∧ AddressesBuffer e a cmd) ∨
      (classify ⟨cmd⟩ ∉ bufferClasses ∧
        ∃ x, a = .arg x ∧ ForwardsInteger e a cmd (x.asNative e)) := by
  rw [encode_eq] at h
  obtain ⟨res, hdevice, hres⟩ := ok_of_map h
  cases hres
  rcases deviceArg_cases hraw hdevice with ⟨hk, hlen, haddr⟩ | ⟨hk, x, ha, hforward⟩
  · left
    refine ⟨hk, hlen, ?_, fun mem' => ?_⟩
    · obtain ⟨buf, hbuf⟩ := haddr mem
      rw [hdevice] at hbuf
      exact congrArg Prod.fst (Except.ok.inj hbuf)
    · obtain ⟨buf, hbuf⟩ := haddr mem'
      refine ⟨buf, ?_⟩
      rw [encode_eq, hbuf]
      rfl
  · right
    refine ⟨hk, x, ha, fun mem' => ?_⟩
    rw [encode_eq, hforward]
    rfl

/-! ## Integers of the client as addresses -/

/-- A command that returns a buffer and takes none, apart from the four for which `encode` allocates
one. -/
def ReadsUnbuffered (cmd : Ioctl) : Prop :=
  (BadIoctl.new cmd).isRead = true ∧ (BadIoctl.new cmd).isWrite = false ∧
    cmd ∉ [TIOCGLCKTRMIOS, TCGETS, TIOCMGET, TIOCINQ]

instance (cmd : Ioctl) : Decidable (ReadsUnbuffered cmd) := by
  unfold ReadsUnbuffered
  infer_instance

/-- These are the unserved commands but for the query of the window size, whose number does not tell
that it returns a buffer. -/
theorem readsUnbuffered_iff (cmd : Ioctl) :
    ReadsUnbuffered cmd ↔ classify cmd ∈ [getTermios2, otherRead] := by
  have hshape := shape_classify cmd
  have hunserved := unserved_iff cmd
  unfold Unserved at hunserved
  change cmd = TIOCGWINSZ ∨ ReadsUnbuffered cmd ↔ _ at hunserved
  constructor
  · intro h
    have hk := hunserved.1 (.inr h)
    have hne : classify cmd ≠ getWinsize := by
      intro hk
      rw [hk] at hshape
      have hread := hshape.read (by decide)
      rw [h.1] at hread
      cases hread
    simp only [unservedClasses, List.mem_cons, List.not_mem_nil, or_false] at hk ⊢
    exact hk.resolve_left hne
  · intro hk
    refine (hunserved.2 (List.mem_cons_of_mem _ hk)).resolve_left ?_
    rintro rfl
    exact absurd hk (by decide)

/-- A class without a buffer that has a direction reads. -/
theorem readsUnbuffered_of_direction {cmd : Ioctl} (hk : classify cmd ∉ bufferClasses)
    (hdir : (BadIoctl.new cmd).isRead = true ∨ (BadIoctl.new cmd).isWrite = true) :
    ReadsUnbuffered cmd := by
  rw [readsUnbuffered_iff]
  have hshape := shape_classify cmd
  cases hclass : classify cmd with
  | getTermios2 | otherRead => decide
  | setTermios | setTermios2 | getTermios | getQueued | getModem | setInt | otherWrite =>
      rw [hclass] at hk
      exact absurd (by decide) hk
  | setWinsize | getWinsize | flush | plain =>
      rw [hclass] at hshape
      rw [hshape.read (by decide), hshape.write] at hdir
      exact absurd hdir (by decide)

/-- **Which argument the kernel dereferences.** Let the server accept an argument that is not raw for
a command with a direction. The argument of the call is the address of the server's buffer exactly
when the request is not one that sends an `Arg` for a command that reads and gets no buffer; for such
a request the argument of the call is the client's integer. -/
theorem encode_pointer_iff (e : Endian) (mem : Memory) (cmd code : BitVec 32) (a : Arg)
    (p : BitVec 64) (buf : List UInt8) (hraw : a.isRaw = false)
    (hencode : a.encode e mem cmd = .ok (code, p, buf))
    (hdir : (BadIoctl.new ⟨cmd⟩).isRead = true ∨ (BadIoctl.new ⟨cmd⟩).isWrite = true) :
    (p = mem.ptr ∧ AddressesBuffer e a cmd ↔ ¬(ReadsUnbuffered ⟨cmd⟩ ∧ ∃ x, a = .arg x)) ∧
      (ReadsUnbuffered ⟨cmd⟩ → ∃ x, a = .arg x ∧ ForwardsInteger e a cmd (x.asNative e)) := by
  rcases encode_cases hraw hencode with ⟨hk, -, hp, haddr⟩ | ⟨hk, x, ha, hforward⟩
  · have hnot : ¬ReadsUnbuffered ⟨cmd⟩ := by
      rw [readsUnbuffered_iff]
      intro hmem
      simp only [List.mem_cons, List.not_mem_nil, or_false] at hmem
      rcases hmem with hclass | hclass <;> rw [hclass] at hk <;> exact absurd hk (by decide)
    exact ⟨⟨fun _ h => hnot h.1, fun _ => ⟨hp, haddr⟩⟩, fun h => absurd h hnot⟩
  · have hreads := readsUnbuffered_of_direction hk hdir
    refine ⟨⟨fun h => absurd h.2 hforward.not_addressesBuffer, fun h => ?_⟩,
      fun _ => ⟨x, ha, hforward⟩⟩
    exact absurd ⟨hreads, x, ha⟩ h

/-- Setting the modem lines: the device gets the address of the server's buffer. -/
theorem encode_pointer_modem_lines :
    Arg.encode .little ⟨0x1000, fun _ => 0⟩ (.int ⟨0x01020304⟩) TIOCMSET.num =
        .ok (TIOCMSET.num, 0x1000, [1, 2, 3, 4]) ∧
      AddressesBuffer .little (.int ⟨0x01020304⟩) TIOCMSET.num :=
  have hencode : Arg.encode .little ⟨0x1000, fun _ => 0⟩ (.int ⟨0x01020304⟩) TIOCMSET.num =
      .ok (TIOCMSET.num, 0x1000, [1, 2, 3, 4]) := rfl
  ⟨hencode,
    ((encode_pointer_iff .little _ _ _ _ _ _ rfl hencode (by decide)).1.2
      (fun h => absurd h.1 (by decide))).2⟩

/-- `TIOCGPTN`, which writes the number of a pseudoterminal to its argument. -/
def TIOCGPTN : Ioctl := (IOR 0x54 0x30 cIntSize).get rfl

/-- A driver that returns the lower half of the address that it was given. -/
def echoDriver : Driver :=
  ⟨fun _ x buf => ⟨x.setWidth 32, .UnknownErrno, buf⟩, fun _ _ _ => rfl⟩

/-- The client sends the eight bytes of an integer as an `Arg` for `TIOCGPTN`. The argument is not
raw, the command makes the kernel write to the address, and the address is the client's integer
whatever the server has allocated. -/
theorem encode_pointer_of_client :
    fromRaw .little 1 [0, 0, 0, 0, 0x12, 0x34, 0x56, 0x78] = .ok (.arg ⟨0x7856341200000000⟩) ∧
      Arg.isRaw (.arg ⟨0x7856341200000000⟩) = false ∧
      (BadIoctl.new TIOCGPTN).isRead = true ∧
      ForwardsInteger .little (.arg ⟨0x7856341200000000⟩) TIOCGPTN.num 0x12345678 ∧
      ¬AddressesBuffer .little (.arg ⟨0x7856341200000000⟩) TIOCGPTN.num ∧
      ioctl .little ⟨0x1000, fun _ => 0⟩ echoDriver false ⟨7, by decide⟩ TIOCGPTN.num
        (.arg ⟨0x7856341200000000⟩) = ([.ioctl ⟨7, by decide⟩ 0x12345678 (.raw [])], .ok ()) := by
  have hforward : ForwardsInteger .little (.arg ⟨0x7856341200000000⟩) TIOCGPTN.num 0x12345678 :=
    fun _ => rfl
  exact ⟨rfl, rfl, rfl, hforward, hforward.not_addressesBuffer, rfl⟩

/-! ## The size of the buffer -/

/-- A command that takes a buffer of more than four bytes, apart from the seven for which `encode`
allocates terminal settings. -/
def WritesLarge (cmd : Ioctl) : Prop :=
  (BadIoctl.new cmd).isWrite = true ∧
    cmd ∉ [TIOCSLCKTRMIOS, TCSETSW, TCSETSF, TCSETS, TCSETSW2, TCSETSF2, TCSETS2] ∧
    cIntSize < (BadIoctl.new cmd).getSize

instance (cmd : Ioctl) : Decidable (WritesLarge cmd) := by
  unfold WritesLarge
  infer_instance

theorem writesLarge_iff (cmd : Ioctl) :
    WritesLarge cmd ↔ classify cmd = otherWrite ∧ cIntSize < (BadIoctl.new cmd).getSize := by
  refine classify_induct (P := fun cmd k => WritesLarge cmd ↔
    k = otherWrite ∧ cIntSize < (BadIoctl.new cmd).getSize) ?_ ?_ cmd
  · decide +kernel
  · intro cmd hn
    have hnot : cmd ∉ [TIOCSLCKTRMIOS, TCSETSW, TCSETSF, TCSETS, TCSETSW2, TCSETSF2, TCSETS2] :=
      notMem_of_unnamed hn (by decide)
    unfold WritesLarge ofDirection
    cases (BadIoctl.new cmd).isWrite with
    | true => simp only [hnot, if_true, true_and, not_false_eq_true]
    | false =>
        cases (BadIoctl.new cmd).isRead with
        | true => simp
        | false => simp

/-- **How large the buffer of a call is.** Let the server accept an argument that is not raw and pass
the address of its buffer. The buffer holds the number of bytes that the command asks for exactly when
the command is not one that takes more than four bytes and has no arm of its own in `encode`; for such
a command the buffer has four bytes. -/
theorem encode_size_iff (e : Endian) (mem : Memory) (cmd code : BitVec 32) (a : Arg) (p : BitVec 64)
    (buf : List UInt8) (hraw : a.isRaw = false)
    (hencode : a.encode e mem cmd = .ok (code, p, buf)) (haddr : AddressesBuffer e a cmd) :
    ((BadIoctl.new ⟨cmd⟩).getSize ≤ buf.length ↔ ¬WritesLarge ⟨cmd⟩) ∧
      (WritesLarge ⟨cmd⟩ → buf.length = cIntSize) := by
  rcases encode_cases hraw hencode with ⟨hk, hlen, -, -⟩ | ⟨-, x, -, hforward⟩
  · rw [hlen, writesLarge_iff]
    have hsize := (shape_classify ⟨cmd⟩).size
    cases hclass : classify ⟨cmd⟩ with
    | otherWrite =>
        refine ⟨?_, fun _ => rfl⟩
        simp only [allocated, true_and, Nat.not_lt]
    | setTermios | setTermios2 | getTermios | getQueued | getModem | setInt =>
        -- the table fixes the size, and the buffer has it
        rw [hclass] at hsize
        refine ⟨⟨fun _ h => (by cases h.1), fun _ => ?_⟩, fun h => (by cases h.1)⟩
        exact Nat.le_of_eq (hsize _ rfl)
    | setWinsize | getWinsize | getTermios2 | flush | otherRead | plain =>
        rw [hclass] at hk
        exact absurd hk (by decide)
  · exact absurd haddr hforward.not_addressesBuffer

/-- Setting the modem lines: four bytes are asked for and allocated. -/
theorem encode_size_modem_lines :
    AddressesBuffer .little (.int ⟨0x01020304⟩) TIOCMSET.num ∧
      (BadIoctl.new TIOCMSET).getSize ≤ [(1 : UInt8), 2, 3, 4].length :=
  have haddr : AddressesBuffer .little (.int ⟨0x01020304⟩) TIOCMSET.num := fun _ => ⟨_, rfl⟩
  ⟨haddr, (encode_size_iff .little ⟨0x1000, fun _ => 0⟩ TIOCMSET.num TIOCMSET.num
    (.int ⟨0x01020304⟩) 0x1000 [1, 2, 3, 4] rfl rfl haddr).1.2 (by decide)⟩

/-- `TIOCSRS485`, which takes a structure of 32 bytes and returns it. -/
def TIOCSRS485 : Ioctl := (IOC (DIR_READ ||| DIR_WRITE) 0x54 0x2f 32).get rfl

/-- The client sends the four bytes of an integer for `TIOCSRS485`: the kernel copies 32 bytes from
and to a buffer of four. -/
theorem encode_size_of_client :
    fromRaw .little 5 [1, 2, 3, 4] = .ok (.int ⟨0x04030201⟩) ∧
      Arg.isRaw (.int ⟨0x04030201⟩) = false ∧
      AddressesBuffer .little (.int ⟨0x04030201⟩) TIOCSRS485.num ∧
      Arg.encode .little ⟨0x1000, fun _ => 0⟩ (.int ⟨0x04030201⟩) TIOCSRS485.num =
        .ok (TIOCSRS485.num, 0x1000, [4, 3, 2, 1]) ∧
      (BadIoctl.new TIOCSRS485).getSize = 32 :=
  ⟨rfl, rfl, fun _ => ⟨_, rfl⟩, rfl, rfl⟩

end Cuse2Net.Realdev

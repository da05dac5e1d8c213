import Cuse2Net.Proto.IoctlRelay
import Cuse2Net.Proto.Response

/-!
# Ioctl calls of the server

Model of `Device::ioctl` in `realdev/mod.rs`. The call of the driver is the parameter `Driver`: it
returns a result, an error number that counts when the result is negative, and the buffer with the
content that it left there. `ioctl` gives the responses that were sent and the result of the call;
an error ends the loop of `Device::main` and with it the session.

The gate for raw arguments answers `EPERM`. What passes it is answered when `encode` accepts it, and
the commands for which the client sends an argument that `encode` does not accept are found here:
`Unserved` describes them and `ioctl_answered_iff` says that they are exactly the commands that end
the session without an answer.
-/

set_option autoImplicit false

namespace Cuse2Net.Realdev

open Cuse2Net.Lib.Bytes
open Cuse2Net.IoctlFfi
open Cuse2Net.IoctlFfi.Ioctl
open Cuse2Net.Proto
open Cuse2Net.Proto.Arg
open Cuse2Net.Proto.CommandClass

/-! ## The call -/

/-- What a call of `libc::ioctl` leaves behind. -/
structure DriverResult where
  rc : BitVec 32
  errno : Errno
  buf : List UInt8

/-- The driver of a device: the effect of a call with command number, argument and buffer. The driver
changes the content of the buffer and not its length. -/
structure Driver where
  call : BitVec 32 → BitVec 64 → List UInt8 → DriverResult
  length_buf : ∀ cmd arg buf, (call cmd arg buf).buf.length = buf.length

/-- `Device::ioctl`: the responses it sends and its result. -/
def ioctl (e : Endian) (mem : Memory) (driver : Driver) (allowRaw : Bool) (seq : Sequence)
    (cmd : BitVec 32) (arg : Arg) : List Response.Reply × Result Unit :=
  if arg.isRaw && !allowRaw then ([.err seq .EPERM], .ok ())
  else
    match arg.encode e mem cmd with
    -- `?` leaves the function before anything is sent
    | .error f => ([], .error f)
    | .ok (cmd, x, buf) =>
        let res := driver.call cmd x buf
        if res.rc.slt 0 then ([.err seq res.errno], .ok ())
        else
          match decode e cmd x res.buf .device with
          | .error f => ([], .error f)
          | .ok resArg => ([.ioctl seq (res.rc.signExtend 64) resArg], .ok ())

/-- A response to a request: an error or the result of the ioctl. -/
def Answers (seq : Sequence) : Response.Reply → Prop
  | .err seq' _ => seq' = seq
  | .ioctl seq' _ _ => seq' = seq
  | _ => False

/-- The call is answered once and the session goes on. -/
def Answered (seq : Sequence) (out : List Response.Reply × Result Unit) : Prop :=
  ∃ r, out = ([r], .ok ()) ∧ Answers seq r

/-! ## Commands without an answer -/

/-- The commands that the client forwards and `encode` does not accept: the query of the window size,
and the commands that only return a buffer, apart from four that `encode` names. -/
def Unserved (cmd : Ioctl) : Prop :=
  cmd = TIOCGWINSZ ∨
    ((BadIoctl.new cmd).isRead = true ∧ (BadIoctl.new cmd).isWrite = false ∧
      cmd ∉ [TIOCGLCKTRMIOS, TCGETS, TIOCMGET, TIOCINQ])

instance (cmd : Ioctl) : Decidable (Unserved cmd) := by
  unfold Unserved
  infer_instance

/-- The classes of these commands. -/
def unservedClasses : List CommandClass := [getWinsize, getTermios2, otherRead]

theorem unserved_iff (cmd : Ioctl) : Unserved cmd ↔ classify cmd ∈ unservedClasses := by
  refine classify_induct (P := fun cmd k => Unserved cmd ↔ k ∈ unservedClasses) ?_ ?_ cmd
  · decide +kernel
  · intro cmd hn
    have hne : cmd ≠ TIOCGWINSZ := ne_of_unnamed hn (by decide)
    have hnot : cmd ∉ [TIOCGLCKTRMIOS, TCGETS, TIOCMGET, TIOCINQ] :=
      notMem_of_unnamed hn (by decide)
    unfold Unserved ofDirection
    cases (BadIoctl.new cmd).isWrite with
    | true => simp [hne, unservedClasses]
    | false =>
        cases (BadIoctl.new cmd).isRead with
        | true => simp [hne, hnot, unservedClasses]
        | false => simp [hne, unservedClasses]

/-- When the driver is called, the server makes a small argument of the buffer that the driver has
left, and the client can give it to the caller. -/
theorem served_argument {e e' : Endian} (mem : Memory) {x : BitVec 64} {buf b : List UInt8} {a : Arg}
    {k : CommandClass} {res : BitVec 64 × List UInt8} (hclient : clientArg e x buf k = .ok a)
    (hraw : a.isRaw = false) (hdevice : deviceArg e' mem k (a.rehost e e') = .ok res)
    (hb : b.length = res.2.length) :
    ∃ r, serverArg e' res.1 b k = .ok r ∧ (r.asReprBytes e').length ≤ 64 ∧
      ∀ read, ∃ data, callerReply e read k (r.rehost e' e) = .ok data := by
  cases k with
  | setTermios | setTermios2 | setInt | flush =>
      refine ⟨.none, rfl, Nat.zero_le _, ?_⟩
      intro read
      cases read <;> exact ⟨_, rfl⟩
  | getTermios =>
      cases hclient
      cases hdevice
      -- the driver leaves the length alone, so the buffer still holds a `termios`
      rw [length_uninitArg] at hb
      obtain ⟨ios, hios⟩ : ∃ ios, TermIOs.tryFromOs e' b = .ok ios := by
        rw [TermIOs.tryFromOs, if_neg (by omega)]
        exact ⟨_, rfl⟩
      refine ⟨.termIOs ios, ?_, ?_, fun read => ⟨_, rfl⟩⟩
      · rw [serverArg, hios]
        rfl
      · exact Nat.le_of_eq ((TermIOs.layout e').length_bytes _)
  | getQueued =>
      cases hclient
      cases hdevice
      rw [length_uninitArg] at hb
      obtain ⟨val, hval⟩ : ∃ val, tryAsI32 e' b = .ok val := by
        rw [tryAsI32, hb]
        exact ⟨_, rfl⟩
      refine ⟨.int val, ?_, ?_, ?_⟩
      · rw [serverArg, hval]
        rfl
      · exact Nat.le_trans (Nat.le_of_eq ((be32 e').length_bytes _)) (show 4 ≤ 64 by decide)
      · intro read
        cases read <;> exact ⟨_, rfl⟩
  | getModem =>
      cases hclient
      cases hdevice
      rw [length_uninitArg] at hb
      refine ⟨.raw b, rfl, ?_, ?_⟩
      · exact Nat.le_trans (Nat.le_of_eq hb) (show 4 ≤ 64 by decide)
      · intro read
        cases read <;> exact ⟨_, rfl⟩
  | getWinsize | getTermios2 | otherRead =>
      cases hclient
      cases hdevice
  | otherWrite | plain =>
      cases hclient
      cases hraw
  | setWinsize => cases hclient

/-- What becomes of an argument that the client sends: it is raw, or its class is not served, or the
server makes a call of it and a response of whatever the driver left in the buffer. -/
theorem serve_cases (e e' : Endian) (mem : Memory) {x : BitVec 64} {buf : List UInt8} {a : Arg}
    {k : CommandClass} (hclient : clientArg e x buf k = .ok a) :
    (a.isRaw = true ∧ k ∉ unservedClasses) ∨
      (a = .none ∧ k ∈ unservedClasses ∧ deviceArg e' mem k .none = Err .badIoctlParam) ∨
        (a.isRaw = false ∧ k ∉ unservedClasses ∧
          ∃ res, deviceArg e' mem k (a.rehost e e') = .ok res ∧
            ∀ b, b.length = res.2.length → ∃ r, serverArg e' res.1 b k = .ok r) := by
  cases k with
  | setTermios | setTermios2 | setInt =>
      right; right
      obtain ⟨y, -, rfl⟩ := ok_of_map hclient
      exact ⟨rfl, by decide, _, rfl, fun b _ => ⟨_, rfl⟩⟩
  | flush | getTermios | getQueued | getModem =>
      right; right
      have harg := hclient
      cases harg
      refine ⟨rfl, by decide, _, rfl, fun b hb => ?_⟩
      obtain ⟨r, hr, -⟩ := served_argument mem hclient rfl rfl hb
      exact ⟨r, hr⟩
  | getWinsize | getTermios2 | otherRead =>
      right; left
      cases hclient
      exact ⟨rfl, by decide, rfl⟩
  | otherWrite | plain =>
      left
      cases hclient
      exact ⟨rfl, by decide⟩
  | setWinsize => cases hclient

theorem isRaw_rehost (e e' : Endian) (a : Arg) : (a.rehost e e').isRaw = a.isRaw := by
  cases a <;> rfl

theorem answered_err (seq : Sequence) (errno : Errno) :
    Answered seq ([.err seq errno], .ok ()) :=
  ⟨_, rfl, rfl⟩

/-- **Which forwarded ioctls are answered.** The client accepts the argument of a command and sends it;
the server answers the call once and goes on exactly when the command is not one of the unserved
ones. This holds for every driver, every buffer and every combination of byte orders. -/
theorem ioctl_answered_iff (e e' : Endian) (mem : Memory) (driver : Driver) (seq : Sequence)
    (cmd : BitVec 32) (x : BitVec 64) (buf : List UInt8) (a a' : Arg)
    (hdecode : decode e cmd x buf .cuse = .ok a) (hwire : a.overWire e e' = .ok a') :
    Answered seq (ioctl e' mem driver false seq cmd a') ↔ ¬Unserved ⟨cmd⟩ := by
  rw [overWire_eq] at hwire
  obtain rfl := Except.ok.inj hwire
  rw [decode_cuse_eq] at hdecode
  rw [unserved_iff]
  unfold ioctl
  rw [isRaw_rehost, encode_eq]
  rcases serve_cases e e' mem hdecode with
    ⟨hraw, hk⟩ | ⟨rfl, hk, herr⟩ | ⟨hraw, hk, res, hdevice, hserver⟩
  · rw [hraw]
    exact ⟨fun _ => hk, fun _ => answered_err seq .EPERM⟩
  · -- an unserved command: `encode` fails and the list of responses is empty
    have hnone : rehost e e' .none = .none := rfl
    rw [hnone, herr]
    refine ⟨?_, fun h => absurd hk h⟩
    rintro ⟨r, hout, -⟩
    cases hout
  · refine ⟨fun _ => hk, fun _ => ?_⟩
    rw [hraw, hdevice]
    simp only [Except.map, Bool.false_and, Bool.false_eq_true, if_false]
    by_cases hneg : (driver.call cmd res.1 res.2).rc.slt 0 = true
    · rw [if_pos hneg]
      exact answered_err seq _
    · rw [if_neg hneg, decode_device_eq]
      obtain ⟨r, hr⟩ := hserver _ (driver.length_buf cmd res.1 res.2)
      rw [hr]
      exact ⟨_, rfl, rfl⟩

/-- A driver that succeeds and leaves the buffer as it is. -/
def quietDriver : Driver := ⟨fun _ _ buf => ⟨0, .UnknownErrno, buf⟩, fun _ _ _ => rfl⟩

/-- Setting the modem lines is answered. -/
theorem ioctl_answered_modem_lines :
    decode .little TIOCMSET.num 0 [1, 2, 3, 4] .cuse = .ok (.int ⟨0x01020304⟩) ∧
      Answered ⟨7, by decide⟩ (ioctl .big ⟨0x1000, fun _ => 0⟩ quietDriver false ⟨7, by decide⟩
        TIOCMSET.num (.int ⟨0x04030201⟩)) :=
  have hdecode : decode .little TIOCMSET.num 0 [1, 2, 3, 4] .cuse = .ok (.int ⟨0x01020304⟩) := rfl
  ⟨hdecode, (ioctl_answered_iff .little .big _ quietDriver _ _ _ _ _ _ hdecode rfl).2 (by decide)⟩

/-- Reading the terminal settings with `TCGETS2`: the client sends no argument, the server finds no
way to encode it, sends nothing and leaves its loop with an error. -/
theorem ioctl_unanswered_tcgets2 :
    decode .little TCGETS2.num 0x1000 [] .cuse = .ok .none ∧
      Arg.none.overWire .little .little = .ok .none ∧
      ioctl .little ⟨0x2000, fun _ => 0⟩ quietDriver false ⟨7, by decide⟩ TCGETS2.num .none =
        ([], Err .badIoctlParam) ∧
      ¬Answered ⟨7, by decide⟩ (ioctl .little ⟨0x2000, fun _ => 0⟩ quietDriver false
        ⟨7, by decide⟩ TCGETS2.num .none) := by
  refine ⟨rfl, rfl, rfl, ?_⟩
  rintro ⟨r, hout, -⟩
  cases hout

end Cuse2Net.Realdev

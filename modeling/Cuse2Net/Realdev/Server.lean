import Cuse2Net.Realdev.IoctlBuffer
import Cuse2Net.Realdev.PollNotify
import Cuse2Net.Realdev.Session

/-!
# The server as a whole

Model of `Device::main` with all its requests, beside the reader and the poll worker. A session
(`Session`) says where the three threads are; the server adds what `main` does with a request between
two calls that the other threads see, and where it can panic.

The system calls on the device are parameters. `DeviceFile` and `Driver` carry the ranges that the
manual pages give for them, and `Documented` says the same of the calls that a session takes as
labels. A send on the connection succeeds, fails or is cut short, which `send_vectored_all` does not
survive.

`server_panics_iff` finds the steps that make the server panic: an interrupt for a number that two
queued reads have, a `TIOCGWINSZ` with an integer argument that the driver accepts, and a vectored send
that is cut short.
-/

set_option autoImplicit false

namespace Cuse2Net.Realdev

open Cuse2Net.Lib
open Cuse2Net.Lib.Bytes
open Cuse2Net.IoctlFfi
open Cuse2Net.IoctlFfi.Ioctl
open Cuse2Net.Proto
open Cuse2Net.Proto.Errno

/-! ## Reading and writing -/

/-- `write()`, `pwrite()` and `read()` on the device. A call transfers at most what it was asked to. -/
structure DeviceFile where
  write : List UInt8 → Except Errno Nat
  pwrite : List UInt8 → BitVec 64 → Except Errno Nat
  read : Nat → Except Errno (List UInt8)
  write_le : ∀ data n, write data = .ok n → n ≤ data.length
  pwrite_le : ∀ data offs n, pwrite data offs = .ok n → n ≤ data.length
  read_le : ∀ len data, read len = .ok data → data.length ≤ len

/-- The call that `Device::write` makes. -/
def DeviceFile.writeAt (file : DeviceFile) (offs : BitVec 64) (data : List UInt8) :
    Except Errno Nat :=
  if offs = 0 then file.write data else file.pwrite data offs

theorem DeviceFile.writeAt_le {file : DeviceFile} {offs : BitVec 64} {data : List UInt8} {n : Nat}
    (h : file.writeAt offs data = .ok n) : n ≤ data.length := by
  unfold DeviceFile.writeAt at h
  split at h
  · exact file.write_le data n h
  · exact file.pwrite_le data offs n h

/-- `Device::write`: the response that it sends. -/
def write (e : Endian) (file : DeviceFile) (seq : Sequence) (wrinfo : Request.Write)
    (data : List UInt8) : Response.Reply :=
  match file.writeAt (wrinfo.offset.asNative e) data with
  | .ok l => .write seq (BitVec.ofNat 32 l)
  | .error rc => .err seq rc

/-- `Read::read_nonblock`: the response that it sends. -/
def readNonblock (file : DeviceFile) (req : ReadRequest) : Response.Reply :=
  match file.read (min req.2 BUF_SZ) with
  | .ok buf => .read req.1 buf
  | .error rc => .err req.1 rc

/-! ## Panics of a session -/

/-- Two queued reads have the number, and the pending one has not. -/
def ReadInner.Doubled (r : ReadInner) (seq : Sequence) : Prop :=
  r.pendingRequest.any (fun req => req.1 = seq) = false ∧
    2 ≤ (r.readOps.filter fun req => req.1 = seq).length

theorem ReadInner.doIntrX_fails_iff (r : ReadInner) (seq : Sequence) :
    (r.doIntrX seq).2 = false ↔ r.Doubled seq := by
  unfold doIntrX Doubled
  by_cases hpending : r.pendingRequest.any (fun req => req.1 = seq) = true
  · rw [if_pos hpending, hpending]
    exact iff_of_false Bool.noConfusion fun h => Bool.noConfusion h.1
  · rw [if_neg hpending]
    rw [Bool.not_eq_true] at hpending
    rw [hpending]
    generalize (r.readOps.filter fun req => req.1 = seq) = queued
    rcases queued with _ | ⟨req, _ | ⟨req', reqs⟩⟩
    · exact iff_of_false Bool.noConfusion fun h => absurd h.2 (by decide)
    · exact iff_of_false Bool.noConfusion fun h => absurd h.2 (by simp)
    · exact iff_of_true rfl ⟨rfl, by simp⟩

/-- Only the assertion in `do_intr_x` ends the main thread. -/
theorem ReadInner.doIntr_fails_iff {r : ReadInner} (hfd : r.fdTx = true) (seq : Sequence)
    (written : Bool) : (r.doIntr (some seq) written).2 = false ↔ r.Doubled seq := by
  rw [← r.doIntrX_fails_iff seq]
  have hframe := (r.doIntr_frame (some seq) written).1
  cases hx : r.doIntrX seq with
  | mk r' ok =>
      cases ok with
      | false => simp only [doIntr, hx]
      | true =>
          -- the pipe is still open for the byte
          simp only [doIntr, hx, sendSync_fdTx] at hframe ⊢
          rw [sendSync_ok (hframe.trans hfd)]

/-- A new read ends no thread. -/
theorem ReadInner.pushRequest_ok {r : ReadInner} (hfd : r.fdTx = true) (req : ReadRequest)
    (written : Bool) : (r.pushRequest req written).2 = true := by
  rw [pushRequest]
  apply sendSync_ok
  exact hfd

/-- The interrupt of all reads ends no thread. -/
theorem ReadInner.doIntr_none_ok {r : ReadInner} (hfd : r.fdTx = true) (written : Bool) :
    (r.doIntr none written).2 = true := by
  have hframe := (r.doIntr_frame none written).1
  rw [doIntr, sendSync_fdTx] at hframe
  exact sendSync_ok (hframe.trans hfd) written

/-- `read()` returns more than it was asked for, or the send of the data is cut short. -/
def ReadState.Breaks (s : ReadState) : ReadLabel → Prop
  | .read (.data buf) => ∃ req, s.reader = .reading req ∧ min req.2 BUF_SZ < buf.length
  | .send .incomplete => True
  | _ => False

/-- **Which steps of the reader panic.** -/
theorem ReadState.Move.panicked_iff {s : ReadState} {l : ReadLabel} {inner : ReadInner}
    {pc : ReaderPc} (h : Move s l inner pc) (hshape : s.Shape) :
    (∃ a req, pc = .panicked a req) ↔ s.Breaks l := by
  have hafter : ∀ (req : Option ReadRequest) a req', ReaderPc.afterHandle req ≠ .panicked a req' := by
    intro req a req' h
    cases req <;> cases h
  cases h with
  | read req res hr =>
      cases res with
      | error e =>
          refine iff_of_false ?_ id
          rintro ⟨a, req', h⟩
          simp only [afterRead] at h
          split at h <;> cases h
      | data buf =>
          simp only [afterRead]
          by_cases hle : buf.length ≤ min req.2 BUF_SZ
          · rw [if_pos hle]
            refine iff_of_false ?_ ?_
            · rintro ⟨a, req', h⟩
              cases h
            · rintro ⟨req', hr', hlt⟩
              obtain rfl := ReaderPc.reading.inj (hr.symm.trans hr')
              exact absurd hle (Nat.not_le.2 hlt)
          · rw [if_neg hle]
            exact iff_of_true ⟨_, _, rfl⟩ ⟨req, hr, Nat.not_le.1 hle⟩
  | send req buf out hr hout =>
      refine iff_of_false ?_ ?_
      · rintro ⟨a, req', h⟩
        cases h
      · intro hbreaks
        cases out with
        | incomplete => exact hout rfl
        | sent | failed => exact hbreaks
  | sendPanics req buf hr => exact iff_of_true ⟨_, _, rfl⟩ trivial
  | registerFails req hr hpending =>
      -- nothing is pending while the reader is outside `poll()`
      rcases hshape.pending hpending with h | ⟨rc, h⟩ <;> rw [hr] at h <;> cases h
  | check hr =>
      refine iff_of_false ?_ id
      rintro ⟨a, req, h⟩
      split at h <;> cases h
  | consumeAfter got n req hr =>
      refine iff_of_false ?_ id
      rintro ⟨a, req', h⟩
      exact hafter req a req' h
  | take rc hr =>
      refine iff_of_false ?_ id
      rintro ⟨a, req, h⟩
      cases rc with
      | error e => cases hp : s.inner.pendingRequest <;> rw [hp] at h <;> cases h
      | ready sync =>
          cases sync with
          | true => cases h
          | false => exact hafter _ a req h
  | _ =>
      refine iff_of_false ?_ id
      rintro ⟨a, req', ⟨⟩⟩

namespace Session

/-- A thread of the session has panicked in a section of `Read` or in the poll worker. -/
inductive Panicked (s : Session) : Prop where
  | interrupt (h : s.read.mainAlive = false)
  | reader (h : ∃ a req, s.read.reader = .panicked a req)
  | worker (h : s.poll.worker = .panicked)

/-- The steps that make a thread panic. -/
def Offends (s : Session) : SessionLabel → Prop
  | .read (.intr (some seq) _) => s.read.inner.Doubled seq
  | .read l => s.read.Breaks l
  | _ => False

theorem not_panicked_of_eq {s t : Session} (hs : ¬s.Panicked)
    (hmain : t.read.mainAlive = s.read.mainAlive) (hreader : t.read.reader = s.read.reader)
    (hworker : t.poll.worker = s.poll.worker) : ¬t.Panicked := by
  intro h
  cases h with
  | interrupt h => exact hs (.interrupt (hmain ▸ h))
  | reader h => exact hs (.reader (hreader ▸ h))
  | worker h => exact hs (.worker (hworker ▸ h))

/-- When neither the worker nor the main thread has panicked, only the reader can have. -/
theorem panicked_iff_reader {s : Session} (hmain : s.read.mainAlive = true)
    (hworker : s.poll.worker ≠ .panicked) :
    s.Panicked ↔ ∃ a req, s.read.reader = .panicked a req := by
  refine ⟨fun h => ?_, .reader⟩
  cases h with
  | interrupt h =>
      rw [hmain] at h
      cases h
  | reader h => exact h
  | worker h => exact absurd h hworker

/-- When neither the worker nor the reader has panicked, only the main thread can have. -/
theorem panicked_iff_main {s : Session} (hreader : ¬∃ a req, s.read.reader = .panicked a req)
    (hworker : s.poll.worker ≠ .panicked) : s.Panicked ↔ s.read.mainAlive = false := by
  refine ⟨fun h => ?_, .interrupt⟩
  cases h with
  | interrupt h => exact h
  | reader h => exact absurd h hreader
  | worker h => exact absurd h hworker

/-- The steps of the reader and the calls that the main thread makes of it. -/
theorem read_panicked_iff {s : Session} {l : ReadLabel} {r : ReadState} (hopen : s.Open)
    (hs : ¬s.Panicked) (hmay : s.mayCall l = true) (h : s.read.step l = some r) :
    Panicked { s with read := r } ↔ s.Offends (.read l) := by
  have hmain : s.read.mainAlive = true := by
    rw [← Bool.not_eq_false]
    exact fun h => hs (.interrupt h)
  have hreader : ¬∃ a req, s.read.reader = .panicked a req := fun h => hs (.reader h)
  have hworker : s.poll.worker ≠ .panicked := fun h => hs (.worker h)
  have hby : l.byReader = true → (Panicked { s with read := r } ↔ s.read.Breaks l) := by
    intro hby
    obtain ⟨inner, pc, hmove, rfl⟩ := ReadState.reader_move hby h
    rw [← hmove.panicked_iff hopen.read.shape]
    apply panicked_iff_reader
    · exact hmain
    · exact hworker
  cases l with
  | push req written =>
      simp only [ReadState.step, if_pos hmain, Option.some.injEq] at h
      subst h
      refine iff_of_false ?_ id
      rw [panicked_iff_main]
      · show (s.read.inner.pushRequest req written).2 ≠ false
        exact ne_false_of_eq_true (ReadInner.pushRequest_ok hopen.read.fdTx req written)
      · exact hreader
      · exact hworker
  | intr seq written =>
      simp only [ReadState.step, if_pos hmain, Option.some.injEq] at h
      subst h
      rw [panicked_iff_main]
      · show (s.read.inner.doIntr seq written).2 = false ↔ _
        cases seq with
        | some seq => exact ReadInner.doIntr_fails_iff hopen.read.fdTx seq written
        | none =>
            refine iff_of_false ?_ id
            exact ne_false_of_eq_true (ReadInner.doIntr_none_ok hopen.read.fdTx written)
      · exact hreader
      · exact hworker
  | close =>
      -- the scope has not ended
      rw [mayCall, hopen.scope] at hmay
      cases hmay
  | _ => exact hby rfl

/-- **Which steps of a session panic.** -/
theorem step_panicked_iff {s t : Session} {l : SessionLabel} (hopen : s.Open) (hs : ¬s.Panicked)
    (h : step s l = some t) : t.Panicked ↔ s.Offends l := by
  cases step_move h with
  | read l r hmay hr => exact read_panicked_iff hopen hs hmay hr
  | poll l p hp =>
      refine iff_of_false ?_ id
      intro hpanic
      cases hpanic with
      | interrupt h => exact hs (.interrupt h)
      | reader h => exact hs (.reader h)
      | worker h => exact (PollState.step_stuck hopen.poll hp).not_exited.2 h
  | pollRequest | pollAnswer | ret | endScope =>
      exact iff_of_false (not_panicked_of_eq hs rfl rfl rfl) id

end Session

/-! ## Panics of an ioctl -/

/-- A query of the window size with an integer that the driver takes. -/
def QueriesWinsize (e : Endian) (driver : Driver) (cmd : BitVec 32) (arg : Arg) : Prop :=
  (⟨cmd⟩ : IoctlFfi.Ioctl) = TIOCGWINSZ ∧
    ∃ x, arg = .arg x ∧ (driver.call cmd (x.asNative e) []).rc.slt 0 = false

section Ioctl

open Cuse2Net.Proto.Arg Cuse2Net.Proto.CommandClass

theorem classify_eq_getWinsize_iff (cmd : IoctlFfi.Ioctl) :
    classify cmd = getWinsize ↔ cmd = TIOCGWINSZ := by
  refine classify_induct (P := fun cmd k => k = getWinsize ↔ cmd = TIOCGWINSZ) ?_ ?_ cmd
  · decide +kernel
  · intro cmd hn
    refine iff_of_false ?_ (ne_of_unnamed hn (by decide))
    unfold ofDirection
    cases (BadIoctl.new cmd).isWrite <;> cases (BadIoctl.new cmd).isRead <;>
      exact CommandClass.noConfusion

/-- The `todo!()` of `encode` is behind the gate. -/
theorem deviceArg_ne_panic {e : Endian} {mem : Memory} {k : CommandClass} {a : Arg}
    (hraw : a.isRaw = false) : deviceArg e mem k a ≠ .error .panic := by
  intro h
  cases a with
  | raw data => cases hraw
  | rawArg x => cases hraw
  | _ => cases k <;> cases h

/-- The `todo!()` of `decode` is the only panic there. -/
theorem serverArg_panics_iff (e : Endian) (x : BitVec 64) (buf : List UInt8) (k : CommandClass) :
    serverArg e x buf k = .error .panic ↔ k = getWinsize := by
  have hmap : ∀ {T : Type} {f : T → Arg} {c : Prop} [Decidable c] {error : Proto.Error} {t : T},
      (if c then Err error else .ok t : Result T).map f ≠ .error .panic := by
    intro T f c _ error t h
    split at h <;> cases h
  cases k with
  | getWinsize => exact iff_of_true rfl rfl
  | getTermios => exact iff_of_false hmap CommandClass.noConfusion
  | getTermios2 => exact iff_of_false hmap CommandClass.noConfusion
  | getQueued => exact iff_of_false hmap CommandClass.noConfusion
  | _ => exact iff_of_false (fun h => by cases h) CommandClass.noConfusion

/-- **Which ioctls panic.** -/
theorem ioctl_panics_iff (e : Endian) (mem : Memory) (driver : Driver) (seq : Sequence)
    (cmd : BitVec 32) (a : Arg) :
    (ioctl e mem driver false seq cmd a).2 = .error .panic ↔ QueriesWinsize e driver cmd a := by
  unfold ioctl QueriesWinsize
  rw [encode_eq, ← classify_eq_getWinsize_iff]
  cases hraw : a.isRaw with
  | true =>
      refine iff_of_false (fun h => by cases h) ?_
      rintro ⟨-, x, rfl, -⟩
      cases hraw
  | false =>
      simp only [Bool.false_and, Bool.false_eq_true, if_false]
      cases hdevice : deviceArg e mem (classify ⟨cmd⟩) a with
      | error f =>
          refine iff_of_false ?_ ?_
          · intro h
            cases h
            exact deviceArg_ne_panic hraw hdevice
          · rintro ⟨hk, x, rfl, -⟩
            rw [hk] at hdevice
            cases hdevice
      | ok res =>
          simp only [Except.map]
          by_cases hneg : (driver.call cmd res.1 res.2).rc.slt 0 = true
          · rw [if_pos hneg]
            refine iff_of_false (fun h => by cases h) ?_
            rintro ⟨hk, x, rfl, hrc⟩
            rw [hk] at hdevice
            cases hdevice
            rw [hneg] at hrc
            cases hrc
          · rw [if_neg hneg, decode_device_eq]
            refine Iff.trans (b := serverArg e res.1 (driver.call cmd res.1 res.2).buf
              (classify ⟨cmd⟩) = .error .panic) ?_ ?_
            · cases serverArg e res.1 (driver.call cmd res.1 res.2).buf (classify ⟨cmd⟩) <;> simp
            rw [serverArg_panics_iff]
            refine ⟨fun hk => ⟨hk, ?_⟩, fun h => h.1⟩
            -- for this class `encode` takes an integer only
            rw [hk] at hdevice
            rcases deviceArg_cases hraw hdevice with ⟨hbuffer, -⟩ | ⟨-, x, rfl, hforward⟩
            · exact absurd hbuffer (by decide)
            · obtain rfl := Except.ok.inj (hdevice.symm.trans (hforward mem))
              exact ⟨x, rfl, Bool.eq_false_iff.2 hneg⟩

end Ioctl

/-! ## The main thread -/

/-- What the handling of a request meets: the device, its driver, a heap allocation, what becomes of the
send of the response, and whether the sync pipe takes its byte. -/
structure Surroundings where
  file : DeviceFile
  driver : Driver
  mem : Memory
  out : SendOutcome
  written : Bool

/-- Steps of the server. -/
inductive ServerLabel where
  /-- `main` receives a request and handles it, up to the lock of `Poll` for a poll request. -/
  | request (req : Request) (env : Surroundings)
  /-- `main` gets the lock of `Poll`, calls `poll()` and answers. -/
  | pollAnswer (res : PollOutcome) (out : SendOutcome)
  /-- Any other step of the session. -/
  | thread (l : SessionLabel)

/-- The session, the poll handles, the poll request that is being handled, the responses of `main`
and whether it has panicked outside the lock of `Read`. -/
structure Server where
  session : Session
  poll : PollInner
  asked : Option (Sequence × Request.Poll)
  sent : List Response.Reply
  aborted : Bool

namespace Server

/-- The steps that `main` does not make for a request. It returns when `recv` fails. -/
def unasked (s : Server) : SessionLabel → Bool
  | .read l => l.byReader || l = .close
  | .poll _ | .endScope => true
  | .ret how => !s.aborted && (how = .connection || how = .protocol)
  | .pollRequest _ | .pollAnswer => false

/-- A step of the session. -/
def inSession (s : Server) (l : SessionLabel) : Option Server :=
  (s.session.step l).map fun session => { s with session := session }

/-- A send function panics for one of the responses. -/
def cut (out : SendOutcome) (replies : List Response.Reply) : Bool :=
  replies.any fun m => m.sendFn.panics out

/-- `main` sends responses; the `?` behind the send ends it. -/
def send (s : Server) (out : SendOutcome) (replies : List Response.Reply) : Option Server :=
  if cut out replies then some { s with aborted := true }
  else if out = .failed then s.inSession (.ret .connection)
  else some { s with sent := s.sent ++ replies }

/-- The arms of `Device::main`. -/
def dispatch (e : Endian) (s : Server) (env : Surroundings) : Request → Option Server
  | .open seq _ => s.send env.out [.err seq EINVAL]
  | .release seq => (s.send env.out [.ok seq]).bind fun s' =>
      if env.out = .failed then some s' else s'.inSession (.ret .release)
  | .write seq wrinfo data => s.send env.out [write e env.file seq wrinfo data]
  | .read seq rdinfo =>
      let req := (seq, (rdinfo.size.asNative e).toNat)
      if rdinfo.fhFlags.isNonblock e then
        if cut env.out [readNonblock env.file req] then some { s with aborted := true }
        -- a failed send is only logged
        else if env.out = .failed then some s
        else some { s with sent := s.sent ++ [readNonblock env.file req] }
      else s.inSession (.read (.push req env.written))
  | .ioctl seq ioinfo arg =>
      match ioctl e env.mem env.driver false seq (ioinfo.cmd.asNative e) arg with
      | (replies, .ok ()) => s.send env.out replies
      | (_, .error .panic) => some { s with aborted := true }
      | (_, .error (.err _)) => s.inSession (.ret .ioctl)
  | .poll seq parm =>
      (s.inSession (.pollRequest (parm.flags.asNative e &&& Request.Poll.FLAG_SCHEDULE_NOTIFY != 0))).map
        fun s' => { s' with asked := some (seq, parm) }
  | .interrupt seq => s.inSession (.read (.intr (some seq) env.written))

/-- The end of `Device::poll`, under the lock. A panic in `send_events` comes before `register_kh`. -/
def answerPoll (e : Endian) (s : Server) (seq : Sequence) (parm : Request.Poll) (res : PollOutcome)
    (out : SendOutcome) : Server :=
  match s.poll.devicePoll seq (parm.kh.asNative e) (parm.flags.asNative e) (parm.events.asNative e)
    res with
  | some poll =>
      if cut out (poll.sent.drop s.poll.sent.length) then { s with asked := none, aborted := true }
      else { s with poll := poll, asked := none }
  | none => { s with asked := none, aborted := true }

/-- One step. -/
def step (e : Endian) (s : Server) : ServerLabel → Option Server
  | .request req env =>
      if s.session.main = .receiving ∧ s.session.read.mainAlive = true ∧ s.aborted = false then
        s.dispatch e env req
      else none
  | .pollAnswer res out =>
      match s.asked with
      | some (seq, parm) => (s.inSession .pollAnswer).map fun s' => s'.answerPoll e seq parm res out
      | none => none
  | .thread l => if s.unasked l then s.inSession l else none

/-- The server after a successful open. -/
def start : Server := ⟨.start, .new, none, [], false⟩

/-- The server and its client. -/
def system (e : Endian) : System Server ServerLabel where
  init s := s = start
  step := step e

/-- The results of the system calls are in their documented range: `read()` fills at most the buffer
and `poll()` counts at most its one descriptor. -/
def Documented (s : Server) : ServerLabel → Prop
  | .thread (.read (.read (.data buf))) =>
      match s.session.read.reader with
      | .reading req => buf.length ≤ min req.2 BUF_SZ
      | _ => True
  | .pollAnswer (.ok (count, _)) _ => count ≤ 1
  | _ => True

instance (s : Server) (l : ServerLabel) : Decidable (s.Documented l) := by
  unfold Documented
  split
  · split <;> infer_instance
  · infer_instance
  · infer_instance

/-- A thread has panicked. -/
def Panicked (s : Server) : Prop := s.aborted = true ∨ s.session.Panicked

/-- The responses that `main` sends itself for a request. -/
def replies (e : Endian) (env : Surroundings) : Request → List Response.Reply
  | .open seq _ => [.err seq EINVAL]
  | .release seq => [.ok seq]
  | .write seq wrinfo data => [write e env.file seq wrinfo data]
  | .read seq rdinfo =>
      if rdinfo.fhFlags.isNonblock e then
        [readNonblock env.file (seq, (rdinfo.size.asNative e).toNat)]
      else []
  | .ioctl seq ioinfo arg =>
      (ioctl e env.mem env.driver false seq (ioinfo.cmd.asNative e) arg).1
  | .poll _ _ | .interrupt _ => []

/-- `send_vectored_all` takes a part of a message only: of a response of `main` that is no confirmation
and no error, of the events of a poll request, or of the data of a read. -/
def CutShort (e : Endian) : ServerLabel → Prop
  | .request req env => cut env.out (replies e env req) = true
  | .pollAnswer (.ok _) out => out = .incomplete
  | .thread (.read (.send out)) => out = .incomplete
  | _ => False

/-- The requests that make the server panic. -/
def Provokes (e : Endian) (s : Server) : ServerLabel → Prop
  | .request (.interrupt seq) _ => s.session.read.inner.Doubled seq
  | .request (.ioctl _ ioinfo arg) env => QueriesWinsize e env.driver (ioinfo.cmd.asNative e) arg
  | _ => False

/-- The steps that make the server panic. -/
def Offends (e : Endian) (s : Server) (l : ServerLabel) : Prop := s.Provokes e l ∨ CutShort e l

/-! ## Steps -/

section Steps

variable {e : Endian} {s t : Server}

theorem inSession_eq {l : SessionLabel} (h : s.inSession l = some t) :
    s.session.step l = some t.session ∧ t.aborted = s.aborted := by
  obtain ⟨session, hsession, rfl⟩ := Option.map_eq_some_iff.1 h
  exact ⟨hsession, rfl⟩

/-- Confirmations and errors go through `send_all`. -/
theorem cut_ok (out : SendOutcome) (seq : Sequence) : cut out [.ok seq] = false := by
  cases out <;> rfl

theorem cut_err (out : SendOutcome) (seq : Sequence) (rc : Errno) : cut out [.err seq rc] = false := by
  cases out <;> rfl

theorem cut_poll_iff (out : SendOutcome) (seq : Sequence) (ev : BitVec 32) :
    cut out [.poll seq ev] = true ↔ out = .incomplete := by
  cases out with
  | incomplete => exact iff_of_true rfl rfl
  | sent | failed => exact iff_of_false Bool.noConfusion SendOutcome.noConfusion

/-- The three ends of a send. -/
theorem send_cases {out : SendOutcome} {replies : List Response.Reply}
    (h : s.send out replies = some t) :
    (cut out replies = true ∧ t = { s with aborted := true }) ∨
      (cut out replies = false ∧ out = .failed ∧ s.inSession (.ret .connection) = some t) ∨
      (cut out replies = false ∧ out ≠ .failed ∧ t = { s with sent := s.sent ++ replies }) := by
  unfold send at h
  cases hcut : cut out replies with
  | true =>
      rw [hcut, if_pos rfl] at h
      exact .inl ⟨rfl, (Option.some.inj h).symm⟩
  | false =>
      rw [hcut, if_neg Bool.false_ne_true] at h
      by_cases hout : out = .failed
      · rw [if_pos hout] at h
        exact .inr (.inl ⟨rfl, hout, h⟩)
      · rw [if_neg hout] at h
        exact .inr (.inr ⟨rfl, hout, (Option.some.inj h).symm⟩)

/-- A step of the session makes a thread of the server panic exactly when it makes one of the session
panic. -/
theorem panicked_iff_of_step {l : SessionLabel} (hopen : s.session.Open) (hs : ¬s.Panicked)
    (hstep : s.session.step l = some t.session) (haborted : t.aborted = s.aborted) :
    t.Panicked ↔ s.session.Offends l := by
  rw [Panicked, not_or] at hs
  rw [Panicked, haborted, or_iff_right hs.1]
  exact Session.step_panicked_iff hopen hs.2 hstep

theorem inSession_panicked_iff {l : SessionLabel} (hopen : s.session.Open) (hs : ¬s.Panicked)
    (h : s.inSession l = some t) : t.Panicked ↔ s.session.Offends l :=
  panicked_iff_of_step hopen hs (inSession_eq h).1 (inSession_eq h).2

theorem not_panicked_of_eq (hs : ¬s.Panicked) (hsession : t.session = s.session)
    (haborted : t.aborted = s.aborted) : ¬t.Panicked := by
  rw [Panicked, hsession, haborted]
  exact hs

/-- What the main thread does for a request: nothing to the session, one step of it, or a panic. -/
inductive Served (e : Endian) (s : Server) (env : Surroundings) (req : Request) (t : Server) :
    Prop where
  | quiet (hsession : t.session = s.session) (haborted : t.aborted = s.aborted)
      (hharmless : ¬s.Offends e (.request req env))
  | moves (l : SessionLabel) (hstep : s.session.step l = some t.session)
      (haborted : t.aborted = s.aborted)
      (hoffends : s.session.Offends l ↔ s.Offends e (.request req env))
  | panics (hsession : t.session = s.session) (haborted : t.aborted = true)
      (hoffends : s.Offends e (.request req env))

theorem served_inSession {env : Surroundings} {req : Request} {l : SessionLabel}
    (h : s.inSession l = some t)
    (hoffends : s.session.Offends l ↔ s.Offends e (.request req env)) : Served e s env req t :=
  .moves l (inSession_eq h).1 (inSession_eq h).2 hoffends

theorem harmless {env : Surroundings} {req : Request} (hprovokes : ¬s.Provokes e (.request req env))
    (hcut : cut env.out (replies e env req) = false) : ¬s.Offends e (.request req env) := by
  rintro (h | h)
  · exact hprovokes h
  · cases hcut.symm.trans h

theorem served_send {env : Surroundings} {req : Request} {ms : List Response.Reply}
    (h : s.send env.out ms = some t) (hprovokes : ¬s.Provokes e (.request req env))
    (hreplies : replies e env req = ms) : Served e s env req t := by
  subst hreplies
  rcases send_cases h with ⟨hcut, rfl⟩ | ⟨hcut, -, hret⟩ | ⟨hcut, -, rfl⟩
  · exact .panics rfl rfl (.inr hcut)
  · exact served_inSession hret (iff_of_false id (harmless hprovokes hcut))
  · exact .quiet rfl rfl (harmless hprovokes hcut)

/-- Nothing has been sent for an ioctl that leaves with an error. -/
theorem ioctl_error_replies {mem : Memory} {driver : Driver} {seq : Sequence} {cmd : BitVec 32}
    {a : Arg} {ms : List Response.Reply} {f : Failure}
    (h : ioctl e mem driver false seq cmd a = (ms, .error f)) : ms = [] := by
  unfold ioctl at h
  dsimp only at h
  split at h
  · cases h
  · split at h
    · exact (congrArg Prod.fst h).symm
    · split at h
      · cases h
      · split at h
        · exact (congrArg Prod.fst h).symm
        · cases h

/-- **The arms of `Device::main`.** -/
theorem dispatch_served {env : Surroundings} {req : Request} (h : s.dispatch e env req = some t) :
    Served e s env req t := by
  cases req with
  | «open» seq info => exact served_send h id rfl
  | release seq =>
      have hharmless : ¬s.Offends e (.request (.release seq) env) := harmless id (cut_ok env.out seq)
      obtain ⟨s', hsend, hrest⟩ := Option.bind_eq_some_iff.1 h
      rcases send_cases hsend with ⟨hcut, -⟩ | ⟨-, hout, hret⟩ | ⟨-, hout, rfl⟩
      · cases (cut_ok env.out seq).symm.trans hcut
      · rw [if_pos hout] at hrest
        obtain rfl := Option.some.inj hrest
        exact served_inSession hret (iff_of_false id hharmless)
      · rw [if_neg hout] at hrest
        obtain ⟨hstep, haborted⟩ := inSession_eq hrest
        exact .moves _ hstep haborted (iff_of_false id hharmless)
  | write seq wrinfo data => exact served_send h id rfl
  | read seq rdinfo =>
      simp only [dispatch] at h
      split at h
      · next hnonblock =>
        have hreplies : replies e env (.read seq rdinfo) =
            [readNonblock env.file (seq, (rdinfo.size.asNative e).toNat)] := if_pos hnonblock
        rw [← hreplies] at h
        split at h
        · next hcut =>
          obtain rfl := Option.some.inj h
          exact .panics rfl rfl (.inr hcut)
        · next hcut =>
          have hharmless : ¬s.Offends e (.request (.read seq rdinfo) env) :=
            harmless id (Bool.eq_false_iff.2 hcut)
          split at h
          · obtain rfl := Option.some.inj h
            exact .quiet rfl rfl hharmless
          · obtain rfl := Option.some.inj h
            exact .quiet rfl rfl hharmless
      · next hblock =>
        have hreplies : replies e env (.read seq rdinfo) = [] := if_neg hblock
        refine served_inSession h (iff_of_false id (harmless id ?_))
        rw [hreplies]
        rfl
  | ioctl seq ioinfo arg =>
      have hpanics := ioctl_panics_iff e env.mem env.driver seq (ioinfo.cmd.asNative e) arg
      simp only [dispatch] at h
      split at h
      · next hioctl =>
        rw [hioctl] at hpanics
        exact served_send h (fun hq => by cases hpanics.2 hq) (congrArg Prod.fst hioctl)
      · next hioctl =>
        rw [hioctl] at hpanics
        obtain rfl := Option.some.inj h
        exact .panics rfl rfl (.inl (hpanics.1 rfl))
      · next hioctl =>
        rw [hioctl] at hpanics
        refine served_inSession h (iff_of_false id (harmless (fun hq => by cases hpanics.2 hq) ?_))
        rw [replies, hioctl, ioctl_error_replies hioctl]
        rfl
  | poll seq parm =>
      obtain ⟨s', hsession, rfl⟩ := Option.map_eq_some_iff.1 h
      obtain ⟨hstep, haborted⟩ := inSession_eq hsession
      exact .moves _ hstep haborted (iff_of_false id (harmless id rfl))
  | interrupt seq =>
      refine served_inSession h (or_iff_left ?_).symm
      intro hcut
      cases hcut

/-- **Which requests make the server panic.** -/
theorem dispatch_panicked_iff {env : Surroundings} {req : Request} (hopen : s.session.Open)
    (hs : ¬s.Panicked) (h : s.dispatch e env req = some t) :
    t.Panicked ↔ s.Offends e (.request req env) := by
  cases dispatch_served h with
  | quiet hsession haborted hharmless =>
      exact iff_of_false (not_panicked_of_eq hs hsession haborted) hharmless
  | moves l hstep haborted hoffends =>
      rw [← hoffends]
      exact panicked_iff_of_step hopen hs hstep haborted
  | panics hsession haborted hoffends => exact iff_of_true (.inl haborted) hoffends

/-- The answer to a poll request panics when its count is out of range or its events are cut short. -/
theorem answerPoll_aborted_iff {seq : Sequence} {parm : Request.Poll} {res : PollOutcome}
    {out : SendOutcome} (hres : ∀ count revents, res = .ok (count, revents) → count ≤ 1)
    (hs : s.aborted = false) :
    (s.answerPoll e seq parm res out).aborted = true ↔ CutShort e (.pollAnswer res out) := by
  obtain ⟨m, hm⟩ := Option.isSome_iff_exists.1 ((PollInner.pollReply_isSome_iff seq res).2 hres)
  simp only [answerPoll, PollInner.devicePoll_eq, hm, Option.map_some, List.drop_left]
  refine Iff.trans (b := cut out [m] = true) ?_ ?_
  · split
    · next hcut => exact iff_of_true rfl hcut
    · next hcut => exact iff_of_false (ne_true_of_eq_false hs) hcut
  · match res with
    | .error rc =>
        obtain rfl := Option.some.inj hm
        exact iff_of_false (ne_true_of_eq_false (cut_err out seq rc)) id
    | .ok (0, revents) =>
        obtain rfl := Option.some.inj hm
        exact cut_poll_iff out seq _
    | .ok (1, revents) =>
        obtain rfl := Option.some.inj hm
        exact cut_poll_iff out seq _
    | .ok (count + 2, revents) => cases hm

theorem answerPoll_session (s : Server) (seq : Sequence) (parm : Request.Poll) (res : PollOutcome)
    (out : SendOutcome) : (s.answerPoll e seq parm res out).session = s.session := by
  unfold answerPoll
  split
  · split <;> rfl
  · rfl

/-- **Which steps of the server panic.** -/
theorem step_panicked_iff {l : ServerLabel} (hopen : s.session.Open) (hs : ¬s.Panicked)
    (hdoc : s.Documented l) (h : step e s l = some t) : t.Panicked ↔ s.Offends e l := by
  cases l with
  | request req env =>
      rw [step, Option.ite_none_right_eq_some] at h
      exact dispatch_panicked_iff hopen hs h.2
  | pollAnswer res out =>
      simp only [step] at h
      split at h
      · obtain ⟨s', hsession, rfl⟩ := Option.map_eq_some_iff.1 h
        have hs' : ¬s'.Panicked := (inSession_panicked_iff hopen hs hsession).1
        rw [Panicked, not_or] at hs'
        rw [Panicked, answerPoll_session, or_iff_left hs'.2, answerPoll_aborted_iff ?_
          (Bool.eq_false_iff.2 hs'.1)]
        · exact (or_iff_right id).symm
        · rintro count revents rfl
          exact hdoc
      · cases h
  | thread l =>
      rw [step, Option.ite_none_right_eq_some] at h
      obtain ⟨hown, hstep⟩ := h
      rw [inSession_panicked_iff hopen hs hstep]
      refine Iff.trans ?_ (or_iff_right id).symm
      -- `read()` is in range, and `main` alone interrupts
      cases l with
      | read l =>
          cases l with
          | read res =>
              cases res with
              | data buf =>
                  refine iff_of_false ?_ id
                  rintro ⟨req, hreader, hlt⟩
                  simp only [Documented, hreader] at hdoc
                  exact Nat.not_le.2 hlt hdoc
              | error e => exact Iff.rfl
          | intr seq written => cases hown
          | send out => cases out <;> simp [Session.Offends, ReadState.Breaks, CutShort]
          | _ => exact Iff.rfl
      | _ => exact Iff.rfl

/-- A step of the server is at most one step of its session. -/
theorem step_session {l : ServerLabel} (h : step e s l = some t) :
    t.session = s.session ∨ ∃ l', s.session.step l' = some t.session := by
  cases l with
  | request req env =>
      rw [step, Option.ite_none_right_eq_some] at h
      cases dispatch_served h.2 with
      | quiet hsession _ _ => exact .inl hsession
      | moves l hstep _ _ => exact .inr ⟨l, hstep⟩
      | panics hsession _ _ => exact .inl hsession
  | pollAnswer res out =>
      simp only [step] at h
      split at h
      · obtain ⟨s', hs', rfl⟩ := Option.map_eq_some_iff.1 h
        rw [answerPoll_session]
        exact .inr ⟨_, (inSession_eq hs').1⟩
      · cases h
  | thread l =>
      rw [step, Option.ite_none_right_eq_some] at h
      exact .inr ⟨l, (inSession_eq h.2).1⟩

theorem step_open {l : ServerLabel} (hopen : s.session.Open) (h : step e s l = some t) :
    t.session.Open := by
  rcases step_session h with hsession | ⟨l', hstep⟩
  · rw [hsession]
    exact hopen
  · exact Session.step_open hopen hstep

end Steps

/-! ## Runs -/

theorem start_open : start.session.Open := Session.reachable_open (System.Reachable.of_init rfl)

theorem reachable_open {e : Endian} {ok : Server → ServerLabel → Prop} {s : Server}
    (h : (system e).Reachable ok s) : s.session.Open := by
  refine h.invariant (P := fun s => s.session.Open) ?_ ?_
  · rintro s rfl
    exact start_open
  · intro s l t hs _ hstep
    exact step_open hs hstep

/-- **When the server panics.** Requests may come in any order and with any sequence numbers, and the
results of the system calls are in their documented range. As long as no step offends, no thread
panics, in any interleaving; and in a run without a panic so far, the next step makes a thread panic
exactly when it offends: it is an interrupt for a number that two queued reads have, or a `TIOCGWINSZ`
with an integer argument that the driver accepts, or `sendmsg()` takes only a part of the response to a
write, a read, an ioctl or a poll request. -/
theorem server_panics_iff (e : Endian) :
    (∀ s, (system e).Reachable (fun s l => s.Documented l ∧ ¬s.Offends e l) s → ¬s.Panicked) ∧
      ∀ s l t, (system e).Reachable Documented s → ¬s.Panicked → s.Documented l →
        step e s l = some t → (t.Panicked ↔ s.Offends e l) := by
  refine ⟨?_, fun s l t h hs hdoc hstep => step_panicked_iff (reachable_open h) hs hdoc hstep⟩
  intro s h
  -- the session is open along the run, so that each step keeps the threads alive
  suffices hinv : s.session.Open ∧ ¬s.Panicked from hinv.2
  refine h.invariant (P := fun s => s.session.Open ∧ ¬s.Panicked) ?_ ?_
  · rintro s rfl
    refine ⟨start_open, ?_⟩
    rintro (h | h)
    · cases h
    · cases h with
      | interrupt h => cases h
      | reader h =>
          obtain ⟨a, req, h⟩ := h
          cases h
      | worker h => cases h
  · rintro s l t ⟨hopen, hs⟩ ⟨hdoc, hoffends⟩ hstep
    exact ⟨step_open hopen hstep, fun ht => hoffends ((step_panicked_iff hopen hs hdoc hstep).1 ht)⟩

theorem le_of_error {α : Type} {size : α → Nat} {rc : Errno} {bound : Nat} (a : α)
    (h : (.error rc : Except Errno α) = .ok a) : size a ≤ bound := by
  cases h

/-- A device without data. -/
def idleFile : DeviceFile :=
  ⟨fun _ => .error EAGAIN, fun _ _ => .error EAGAIN, fun _ => .error EAGAIN, fun _ => le_of_error,
    fun _ _ => le_of_error, fun _ => le_of_error⟩

/-- The device without data, with a driver that accepts everything. -/
def idle : Surroundings := ⟨idleFile, quietDriver, ⟨0x1000, fun _ => 0⟩, .sent, true⟩

/-- A read of eight bytes with the number 1. -/
def readOne : Request :=
  (Request.Call.read ⟨0, 8, ⟨0⟩⟩).received .little .little ⟨1, by decide⟩

/-- The message of this read. -/
def readOneMessage : List UInt8 :=
  [4, 0, 0, 0, 0, 0, 0, 16, 0, 0, 0, 0, 0, 0, 0, 1, 0, 0, 0, 0, 0, 0, 0, 0, 0, 0, 0, 8, 0, 0, 0, 1]

/-- A read and an interrupt for it. -/
theorem server_panics_iff_interrupt :
    ∃ s, (system .little).exec Documented start
        [.request readOne idle, .request (.interrupt ⟨1, by decide⟩) idle] = some s ∧ ¬s.Panicked := by
  refine ⟨_, rfl, (server_panics_iff .little).1 _ ?_⟩
  have hread : (system .little).Reachable (fun s l => s.Documented l ∧ ¬s.Offends .little l) _ :=
    (System.Reachable.of_init rfl).next (l := .request readOne idle) ⟨trivial, harmless id rfl⟩ rfl
  refine hread.next (l := .request (.interrupt ⟨1, by decide⟩) idle) ⟨trivial, harmless ?_ rfl⟩ rfl
  intro hdoubled
  exact absurd hdoubled.2 (by decide)

/-- A client sends two reads with the same number and an interrupt for it. The server accepts the three
messages, and the assertion in `do_intr_x` fails. -/
theorem doubled_read_panics :
    (∃ rest, repeatRead (Request.recv .little MAX_MSG_SIZE) 3
        (Script.unread (readOneMessage ++ readOneMessage ++
          Request.sendInterrupt .little ⟨1, by decide⟩) []) =
      ([.ok readOne, .ok readOne, .ok (.interrupt ⟨1, by decide⟩)], rest)) ∧
    ∃ s, (system .little).exec Documented start [.request readOne idle, .request readOne idle,
        .request (.interrupt ⟨1, by decide⟩) idle] = some s ∧ s.Panicked := by
  have hsend : (Request.Call.read ⟨0, 8, ⟨0⟩⟩).send .little 1 =
      .ok (⟨1, by decide⟩, readOneMessage) := by decide
  have hread : Yields (Request.recv .little MAX_MSG_SIZE) readOneMessage (.ok readOne) :=
    Request.recv_call hsend (by decide) (by decide)
  have hintr := Request.recv_interrupt .little .little MAX_MSG_SIZE ⟨1, by decide⟩
  refine ⟨?_, _, rfl, .inr (.interrupt rfl)⟩
  -- every message is received on its own
  have hall : ∀ m ∈ [(readOneMessage, readOne), (readOneMessage, readOne),
      (Request.sendInterrupt .little ⟨1, by decide⟩, Request.interrupt ⟨1, by decide⟩)],
        Yields (Request.recv .little MAX_MSG_SIZE) (Prod.fst m) (.ok (Prod.snd m)) := by
    simp only [List.forall_mem_cons]
    exact ⟨hread, hread, hintr, List.forall_mem_nil _⟩
  obtain ⟨rest, hrun, -, -⟩ := repeatRead_yields _ hall
    (Script.Clean.unread (by decide) (readOneMessage ++ readOneMessage ++
      Request.sendInterrupt .little ⟨1, by decide⟩)) (Script.bytes_unread _ [])
  exact ⟨rest, hrun⟩

end Server

end Cuse2Net.Realdev

import Cuse2Net.Realdev.ReadFifo
import Cuse2Net.Realdev.Server
import Mathlib.Algebra.Order.Group.Multiset
import Mathlib.Tactic.Abel

/-!
# What the server owes and what it sends

A request that has been received is answered by the main thread, waits in the read queue or waits for
the lock of `Poll`; when the main thread leaves its loop, it is gone. `Server.waiting` are the sequence
numbers of the requests that wait, and `Server.fresh` are the responses that a step sends, whichever
of the three senders it is. The read queue and `Poll` only log a send that fails, and the response
counts as sent here; the label tells the outcome (`ServerLabel.out`).

`Server.step_move` says once what a step of the server can do. `Move.balance` balances the books: what
waits after a step and what was answered in it is what waited before and what was received, apart from
what is lost, and nothing is lost as long as sends succeed and no ioctl fails to be answered.

`requests_answered_once` draws the conclusion for whole runs, with clients that use every sequence
number once.
-/

set_option autoImplicit false

namespace Cuse2Net.Proto

/-- The sequence number of a request. -/
def Request.seq : Request → Sequence
  | .open seq _ | .release seq | .write seq _ _ | .read seq _ | .ioctl seq _ _ | .poll seq _
  | .interrupt seq => seq

/-- The sequence number of a request that is to be answered. An interrupt is not. -/
def Request.owed : Request → Option Sequence
  | .interrupt _ => none
  | req => some req.seq

/-- The sequence number that a response answers. -/
def Response.Reply.seq : Response.Reply → Option Sequence
  | .ok seq | .err seq _ | .write seq _ | .read seq _ | .ioctl seq _ _ | .poll seq _ => some seq
  | .pollWakeup _ => none

/-- An error response has an error number. Without one it would be taken for a success. -/
def Response.Reply.Numbered : Response.Reply → Prop
  | .err _ rc => rc.code ≠ 0
  | _ => True

end Cuse2Net.Proto

namespace Cuse2Net.Realdev

open Cuse2Net.Lib
open Cuse2Net.Lib.Bytes
open Cuse2Net.IoctlFfi
open Cuse2Net.Proto
open Cuse2Net.Proto.Errno

/-! ## Responses to a request -/

/-- A system call that fails leaves an error number that `nix` knows. -/
structure Surroundings.Numbered (env : Surroundings) : Prop where
  writeAt : ∀ offs data rc, env.file.writeAt offs data = .error rc → rc.code ≠ 0
  read : ∀ n rc, env.file.read n = .error rc → rc.code ≠ 0
  driver : ∀ cmd x buf, (env.driver.call cmd x buf).rc.slt 0 = true →
    (env.driver.call cmd x buf).errno.code ≠ 0

/-- The responses that the server may give to a request. An ioctl response holds what `decode` makes
of the buffer that the driver has left. -/
inductive Responds (e : Endian) : Request → Response.Reply → Prop where
  | err (req : Request) (rc : Errno) (howed : req.owed = some req.seq) :
      Responds e req (.err req.seq rc)
  | release (seq : Sequence) : Responds e (.release seq) (.ok seq)
  | write (seq : Sequence) (info : Request.Write) (data : List UInt8) (n : Nat)
      (hn : n ≤ data.length) : Responds e (.write seq info data) (.write seq (BitVec.ofNat 32 n))
  | read (seq : Sequence) (info : Request.Read) (data : List UInt8)
      (hdata : data.length ≤ min (info.size.asNative e).toNat BUF_SZ) :
      Responds e (.read seq info) (.read seq data)
  | ioctl (seq : Sequence) (info : Request.Ioctl) (arg r : Arg) (rc : BitVec 64) (mem : Memory)
      (res : BitVec 64 × List UInt8) (buf : List UInt8) (hraw : arg.isRaw = false)
      (hdevice : Arg.deviceArg e mem (CommandClass.classify ⟨info.cmd.asNative e⟩) arg = .ok res)
      (hbuf : buf.length = res.2.length)
      (hserver : Arg.serverArg e res.1 buf (CommandClass.classify ⟨info.cmd.asNative e⟩) = .ok r) :
      Responds e (.ioctl seq info arg) (.ioctl seq rc r)
  | poll (seq : Sequence) (info : Request.Poll) (ev : BitVec 32) :
      Responds e (.poll seq info) (.poll seq ev)

theorem Responds.seq {e : Endian} {req : Request} {m : Response.Reply} (h : Responds e req m) :
    m.seq = some req.seq := by
  cases h <;> rfl

/-- There is no response to an interrupt. -/
theorem Responds.owed {e : Endian} {req : Request} {m : Response.Reply} (h : Responds e req m) :
    req.owed = some req.seq := by
  cases h with
  | err req rc howed => exact howed
  | _ => rfl

theorem write_responds (e : Endian) (env : Surroundings) (seq : Sequence) (info : Request.Write)
    (data : List UInt8) : Responds e (.write seq info data) (write e env.file seq info data) ∧
      (env.Numbered → (write e env.file seq info data).Numbered) := by
  unfold write
  cases h : env.file.writeAt (info.offset.asNative e) data with
  | ok n => exact ⟨.write seq info data n (DeviceFile.writeAt_le h), fun _ => trivial⟩
  | error rc => exact ⟨.err (.write seq info data) rc rfl, fun henv => henv.writeAt _ _ rc h⟩

theorem readNonblock_responds (e : Endian) (env : Surroundings) (seq : Sequence)
    (info : Request.Read) :
    Responds e (.read seq info) (readNonblock env.file (seq, (info.size.asNative e).toNat)) ∧
      (env.Numbered → (readNonblock env.file (seq, (info.size.asNative e).toNat)).Numbered) := by
  unfold readNonblock
  cases h : env.file.read (min (info.size.asNative e).toNat BUF_SZ) with
  | ok data => exact ⟨.read seq info data (env.file.read_le _ _ h), fun _ => trivial⟩
  | error rc => exact ⟨.err (.read seq info) rc rfl, fun henv => henv.read _ rc h⟩

/-- An ioctl that does not end the session is answered once. -/
theorem ioctl_responds {e : Endian} {env : Surroundings} {seq : Sequence} {info : Request.Ioctl}
    {arg : Arg} {replies : List Response.Reply}
    (h : ioctl e env.mem env.driver false seq (info.cmd.asNative e) arg = (replies, .ok ())) :
    ∃ m, replies = [m] ∧ Responds e (.ioctl seq info arg) m ∧ (env.Numbered → m.Numbered) := by
  unfold ioctl at h
  rw [Arg.encode_eq] at h
  cases hraw : arg.isRaw with
  | true =>
      simp only [hraw, Bool.not_false, Bool.and_true, if_true, Prod.mk.injEq] at h
      exact ⟨_, h.1.symm, .err (.ioctl seq info arg) _ rfl, fun _ => Nat.one_ne_zero⟩
  | false =>
      simp only [hraw, Bool.false_and, Bool.false_eq_true, if_false] at h
      cases hdevice :
          Arg.deviceArg e env.mem (CommandClass.classify ⟨info.cmd.asNative e⟩) arg with
      | error f => simp only [hdevice, Except.map, Prod.mk.injEq, reduceCtorEq, and_false] at h
      | ok res =>
          simp only [hdevice, Except.map, Arg.decode_device_eq] at h
          split at h
          · next hneg =>
            obtain ⟨rfl, -⟩ := Prod.mk.inj h
            exact ⟨_, rfl, .err (.ioctl seq info arg) _ rfl, fun henv => henv.driver _ _ _ hneg⟩
          · split at h
            · simp only [Prod.mk.injEq, reduceCtorEq, and_false] at h
            · next r hserver =>
              obtain ⟨rfl, -⟩ := Prod.mk.inj h
              exact ⟨_, rfl, .ioctl seq info arg r _ env.mem res _ hraw hdevice
                (env.driver.length_buf _ _ _) hserver, fun _ => trivial⟩

/-- A poll request that does not panic is answered once. -/
theorem devicePoll_sent {p p' : PollInner} {seq : Sequence} {kh : Kh} {pollFlags events : BitVec 32}
    {res : PollOutcome} (h : p.devicePoll seq kh pollFlags events res = some p') :
    ∃ m, p'.sent = p.sent ++ [m] ∧
      ((∃ ev, m = .poll seq ev) ∨ ∃ rc, m = .err seq rc ∧ res = .error rc) := by
  rw [PollInner.devicePoll_eq] at h
  obtain ⟨m, hm, rfl⟩ := Option.map_eq_some_iff.1 h
  refine ⟨m, rfl, ?_⟩
  match res with
  | .error rc => exact .inr ⟨rc, (Option.some.inj hm).symm, rfl⟩
  | .ok (0, revents) => exact .inl ⟨_, (Option.some.inj hm).symm⟩
  | .ok (1, revents) => exact .inl ⟨_, (Option.some.inj hm).symm⟩
  | .ok (count + 2, revents) => cases hm

/-! ## Inversion of the steps -/

namespace Server

/-- The request is an ioctl that the main thread does not answer. -/
def Fails (e : Endian) (env : Surroundings) : Request → Prop
  | .ioctl seq info arg =>
      (ioctl e env.mem env.driver false seq (info.cmd.asNative e) arg).2 ≠ .ok ()
  | _ => False

/-- What the main thread does with a request, with the state after it. -/
inductive Handled (e : Endian) (s : Server) (env : Surroundings) (req : Request) : Server → Prop where
  /-- It is answered. -/
  | answered (m : Response.Reply) (hm : Responds e req m) (hnum : env.Numbered → m.Numbered) :
      Handled e s env req { s with sent := s.sent ++ [m] }
  /-- It is answered and ends the loop. -/
  | released (seq : Sequence) (hreq : req = .release seq) :
      Handled e s env req { s with
        session := { s.session with main := .returned .release }
        sent := s.sent ++ [.ok seq] }
  /-- The answer cannot be sent, which is only logged. -/
  | unsent (hout : env.out = .failed) : Handled e s env req s
  /-- It goes to the read queue. -/
  | pushed (seq : Sequence) (info : Request.Read) (r : ReadState) (hreq : req = .read seq info)
      (hstep : s.session.read.step (.push (seq, (info.size.asNative e).toNat) env.written) = some r) :
      Handled e s env req { s with session := { s.session with read := r } }
  /-- It waits for the lock of `Poll`. -/
  | asked (seq : Sequence) (parm : Request.Poll) (schedule : Bool) (hreq : req = .poll seq parm) :
      Handled e s env req { s with
        session := { s.session with main := .polling schedule }
        asked := some (seq, parm) }
  | interrupted (seq : Sequence) (r : ReadState) (hreq : req = .interrupt seq)
      (hstep : s.session.read.step (.intr (some seq) env.written) = some r) :
      Handled e s env req { s with session := { s.session with read := r } }
  /-- The main thread leaves its loop. -/
  | ended (how : Ending) (hwhy : env.out = .failed ∨ Fails e env req) :
      Handled e s env req { s with session := { s.session with main := .returned how } }
  /-- The main thread panics. -/
  | panicked (hwhy : env.out = .incomplete ∨ Fails e env req) :
      Handled e s env req { s with aborted := true }

section Inversion

variable {e : Endian} {s t : Server}

theorem inSession_ret {how : Ending} (h : s.inSession (.ret how) = some t) :
    t = { s with session := { s.session with main := .returned how } } := by
  obtain ⟨session, hsession, rfl⟩ := Option.map_eq_some_iff.1 h
  cases Session.step_move hsession with
  | ret how hmain => rfl

theorem inSession_read {l : ReadLabel} (h : s.inSession (.read l) = some t) :
    ∃ r, s.session.read.step l = some r ∧
      t = { s with session := { s.session with read := r } } := by
  obtain ⟨session, hsession, rfl⟩ := Option.map_eq_some_iff.1 h
  cases Session.step_move hsession with
  | read l r hmay hr => exact ⟨r, hr, rfl⟩

/-- Only an incomplete send panics. -/
theorem incomplete_of_cut {out : SendOutcome} {ms : List Response.Reply} (h : cut out ms = true) :
    out = .incomplete := by
  obtain ⟨m, -, hm⟩ := List.any_eq_true.1 h
  cases out with
  | incomplete => rfl
  | sent | failed => cases hfn : m.sendFn <;> rw [hfn] at hm <;> cases hm

/-- A send that ends the loop when it fails. -/
theorem handled_send {env : Surroundings} {req : Request} {m : Response.Reply}
    (hm : Responds e req m ∧ (env.Numbered → m.Numbered)) (h : s.send env.out [m] = some t) :
    Handled e s env req t := by
  rcases send_cases h with ⟨hcut, rfl⟩ | ⟨-, hout, hret⟩ | ⟨-, -, rfl⟩
  · exact .panicked (.inl (incomplete_of_cut hcut))
  · obtain rfl := inSession_ret hret
    exact .ended .connection (.inl hout)
  · exact .answered m hm.1 hm.2

/-- **The arms of `Device::main`, with the state after each.** -/
theorem dispatch_handled {env : Surroundings} {req : Request} (h : s.dispatch e env req = some t) :
    Handled e s env req t := by
  cases req with
  | «open» seq info => exact handled_send ⟨.err (.open seq info) EINVAL rfl, fun _ => Nat.succ_ne_zero _⟩ h
  | release seq =>
      obtain ⟨s', hsend, hrest⟩ := Option.bind_eq_some_iff.1 h
      rcases send_cases hsend with ⟨hcut, -⟩ | ⟨-, hout, hret⟩ | ⟨-, hout, rfl⟩
      · cases (cut_ok env.out seq).symm.trans hcut
      · rw [if_pos hout] at hrest
        obtain rfl := Option.some.inj hrest
        obtain rfl := inSession_ret hret
        exact .ended .connection (.inl hout)
      · rw [if_neg hout] at hrest
        obtain rfl := inSession_ret hrest
        exact .released seq rfl
  | write seq info data => exact handled_send (write_responds e env seq info data) h
  | read seq info =>
      simp only [dispatch] at h
      split at h
      · split at h
        · next hcut =>
          obtain rfl := Option.some.inj h
          exact .panicked (.inl (incomplete_of_cut hcut))
        · split at h
          · next hout =>
            obtain rfl := Option.some.inj h
            exact .unsent hout
          · obtain rfl := Option.some.inj h
            obtain ⟨hm, hnum⟩ := readNonblock_responds e env seq info
            exact .answered _ hm hnum
      · obtain ⟨r, hstep, rfl⟩ := inSession_read h
        exact .pushed seq info r rfl hstep
  | ioctl seq info arg =>
      simp only [dispatch] at h
      split at h
      · next hioctl =>
        obtain ⟨m, rfl, hm⟩ := ioctl_responds hioctl
        exact handled_send hm h
      · next hioctl =>
        obtain rfl := Option.some.inj h
        refine .panicked (.inr ?_)
        rw [Fails, hioctl]
        intro hok
        cases hok
      · next hioctl =>
        obtain rfl := inSession_ret h
        refine .ended .ioctl (.inr ?_)
        rw [Fails, hioctl]
        intro hok
        cases hok
  | poll seq parm =>
      obtain ⟨s', hsession, rfl⟩ := Option.map_eq_some_iff.1 h
      obtain ⟨session, hstep, rfl⟩ := Option.map_eq_some_iff.1 hsession
      cases Session.step_move hstep with
      | pollRequest schedule hmain => exact .asked seq parm _ rfl
  | interrupt seq =>
      obtain ⟨r, hstep, rfl⟩ := inSession_read h
      exact .interrupted seq r rfl hstep

/-- The steps of the server, with the state after each. -/
inductive Move (e : Endian) (s : Server) : ServerLabel → Server → Prop where
  | request (req : Request) (env : Surroundings) (t : Server) (hmain : s.session.main = .receiving)
      (h : Handled e s env req t) : Move e s (.request req env) t
  | pollAnswered (res : PollOutcome) (out : SendOutcome) (seq : Sequence) (parm : Request.Poll)
      (poll : PollInner) (hasked : s.asked = some (seq, parm))
      (hpoll : s.poll.devicePoll seq (parm.kh.asNative e) (parm.flags.asNative e)
        (parm.events.asNative e) res = some poll) :
      Move e s (.pollAnswer res out) { s with
        session := { s.session with main := .receiving }
        poll := poll
        asked := none }
  | pollPanics (res : PollOutcome) (out : SendOutcome)
      (hwhy : out = .incomplete ∨ ∃ count revents, res = .ok (count, revents) ∧ 1 < count) :
      Move e s (.pollAnswer res out) { s with
        session := { s.session with main := .receiving }
        asked := none
        aborted := true }
  | reader (l : ReadLabel) (r : ReadState) (hown : s.unasked (.read l) = true)
      (hmay : s.session.mayCall l = true) (hstep : s.session.read.step l = some r) :
      Move e s (.thread (.read l)) { s with session := { s.session with read := r } }
  | worker (l : PollLabel) (p : PollState) :
      Move e s (.thread (.poll l)) { s with session := { s.session with poll := p } }
  | returns (how : Ending) (hmain : s.session.main = .receiving) :
      Move e s (.thread (.ret how)) { s with session := { s.session with main := .returned how } }
  | scope (how : Ending) (hmain : s.session.main = .returned how) :
      Move e s (.thread .endScope) { s with session := { s.session with scopeEnded := true } }

/-- **What a step can do.** -/
theorem step_move {l : ServerLabel} (h : step e s l = some t) : Move e s l t := by
  cases l with
  | request req env =>
      rw [step, Option.ite_none_right_eq_some] at h
      exact .request req env t h.1.1 (dispatch_handled h.2)
  | pollAnswer res out =>
      simp only [step] at h
      split at h
      · next seq parm hasked =>
        obtain ⟨s', hsession, rfl⟩ := Option.map_eq_some_iff.1 h
        obtain ⟨session, hstep, rfl⟩ := Option.map_eq_some_iff.1 hsession
        cases Session.step_move hstep with
        | pollAnswer schedule hmain hlock =>
            unfold answerPoll
            split
            · next poll hpoll =>
              split
              · next hcut => exact .pollPanics res out (.inl (incomplete_of_cut hcut))
              · exact .pollAnswered res out seq parm poll hasked hpoll
            · next hnone =>
              refine .pollPanics res out (.inr ?_)
              by_contra hres
              have hsome := (PollInner.pollReply_isSome_iff seq res).2 fun count revents h =>
                Nat.not_lt.1 fun hlt => hres ⟨count, revents, h, hlt⟩
              rw [PollInner.devicePoll_eq, Option.map_eq_none_iff] at hnone
              cases hsome.symm.trans (congrArg Option.isSome hnone)
      · cases h
  | thread l =>
      rw [step, Option.ite_none_right_eq_some] at h
      obtain ⟨hown, h⟩ := h
      obtain ⟨session, hstep, rfl⟩ := Option.map_eq_some_iff.1 h
      cases Session.step_move hstep with
      | read l r hmay hr => exact .reader l r hown hmay hr
      | poll l p hp => exact .worker l p
      | pollRequest schedule hmain => cases hown
      | pollAnswer schedule hmain hlock => cases hown
      | ret how hmain => exact .returns how hmain
      | endScope how hmain hended => exact .scope how hmain

end Inversion

/-! ## The books -/

/-- The sequence numbers of the requests that wait for an answer. -/
def waiting (s : Server) : Multiset Sequence :=
  s.session.read.outstanding.map Prod.fst + s.asked.toList.map Prod.fst

/-- The responses of the main thread, of the read queue and to poll requests. -/
def total (s : Server) : List Response.Reply :=
  s.sent ++ (s.session.read.inner.sent ++ s.poll.sent)

/-- The responses that a step sends. -/
def fresh (s t : Server) : List Response.Reply :=
  t.sent.drop s.sent.length ++
    (t.session.read.inner.sent.drop s.session.read.inner.sent.length ++
      t.poll.sent.drop s.poll.sent.length)

end Server

/-- The sequence numbers that responses answer. -/
def answers (replies : List Response.Reply) : Multiset Sequence :=
  replies.filterMap Response.Reply.seq

/-- What becomes of the sends of a step. -/
def ServerLabel.out : ServerLabel → SendOutcome
  | .request _ env => env.out
  | .pollAnswer _ out => out
  | .thread (.read (.send out)) | .thread (.read (.fail out)) => out
  | .thread _ => .sent

/-- The request that a step receives, when it is to be answered. -/
def ServerLabel.owed : ServerLabel → Multiset Sequence
  | .request req _ => req.owed.toList
  | _ => 0

@[simp] theorem answers_nil : answers [] = 0 := rfl

theorem answers_append (xs ys : List Response.Reply) :
    answers (xs ++ ys) = answers xs + answers ys := by
  rw [answers, List.filterMap_append, ← Multiset.coe_add]
  rfl

theorem answers_singleton {m : Response.Reply} {seq : Sequence} (h : m.seq = some seq) :
    answers [m] = {seq} := by
  rw [answers, List.filterMap_cons_some h, List.filterMap_nil]
  rfl

/-- The requests that a step hands to the read queue. -/
def ReadLabel.handed : ReadLabel → List ReadRequest
  | .push req _ => [req]
  | _ => []

namespace ReadState

/-- The books of the read queue: what a step answers and what waits after it is what waited before and
what was handed in. -/
structure Balance (s t : ReadState) (new : List ReadRequest) (replies : List Response.Reply) :
    Prop where
  pushed : t.pushed = s.pushed ++ new
  sent : t.inner.sent = s.inner.sent ++ replies
  books : answers replies + (t.outstanding.map Prod.fst : List Sequence) =
    (new.map Prod.fst : List Sequence) + (s.outstanding.map Prod.fst : List Sequence)
  origin : ∀ m ∈ replies, ∃ req ∈ s.outstanding, Answer req m
  kept : ∀ req ∈ t.outstanding, req ∈ new ∨ req ∈ s.outstanding

theorem Answer.reply_seq {req : ReadRequest} {m : Response.Reply} (h : Answer req m) :
    m.seq = some req.1 := by
  rcases h with ⟨buf, rfl, -⟩ | ⟨rc, rfl⟩
  · rfl
  · rfl

theorem answers_interrupts (xs : List ReadRequest) :
    answers (xs.map fun x => .err x.1 .EINTR) = (xs.map Prod.fst : List Sequence) := by
  induction xs with
  | nil => rfl
  | cons x xs ih => exact congrArg (x.1 ::ₘ ·) ih

/-- Taking requests out of a list splits it. -/
theorem perm_append_filter {xs l : List ReadRequest} (hxs : xs.Nodup) (hl : l.Nodup) (hsub : xs ⊆ l) :
    (xs ++ l.filter fun x => x ∉ xs).Perm l := by
  have hin : xs.Perm (l.filter fun x => x ∈ xs) := by
    rw [List.perm_ext_iff_of_nodup hxs (hl.filter _)]
    intro x
    rw [List.mem_filter, decide_eq_true_iff]
    exact ⟨fun hx => ⟨hsub hx, hx⟩, fun hx => hx.2⟩
  refine (hin.append_right _).trans ?_
  have hsplit := List.filter_append_perm (fun x => decide (x ∈ xs)) l
  simpa only [decide_not] using hsplit

/-- **A step of the read queue balances its books.** -/
theorem Effect.balance {s t : ReadState} {l : ReadLabel} (h : Effect s t l)
    (hnodup : s.outstanding.Nodup) : ∃ new replies, Balance s t new replies := by
  cases h with
  | push req written hpushed houtstanding hsent =>
      refine ⟨[req], [], hpushed, by rw [hsent, List.append_nil], ?_, nofun, ?_⟩
      · rw [answers_nil, zero_add, houtstanding, List.map_append, ← Multiset.coe_add, add_comm]
      · intro r hr
        rw [houtstanding] at hr
        exact (List.mem_append.1 hr).symm
  | quiet _ hpushed houtstanding hsent =>
      refine ⟨[], [], by rw [hpushed, List.append_nil], by rw [hsent, List.append_nil], ?_, nofun, ?_⟩
      · rw [houtstanding]
        rfl
      · intro r hr
        exact .inr (houtstanding ▸ hr)
  | answer _ req reply hanswer hpushed houtstanding hsent =>
      refine ⟨[], [reply], by rw [hpushed, List.append_nil], hsent, ?_, ?_, ?_⟩
      · rw [answers_singleton hanswer.reply_seq, houtstanding]
        rfl
      · intro m hm
        rw [List.mem_singleton.1 hm]
        exact ⟨req, houtstanding ▸ List.mem_cons_self, hanswer⟩
      · intro r hr
        exact .inr (houtstanding ▸ List.mem_cons_of_mem req hr)
  | interrupt _ xs hint hpushed hreader =>
      have hsub : xs ⊆ s.outstanding := fun x hx => List.mem_append_right _ (hint.subset hx)
      have hleft := outstanding_interrupt hnodup hint hreader
      refine ⟨[], _, by rw [hpushed, List.append_nil], hint.sent, ?_, ?_, ?_⟩
      · -- the interrupted requests and the others make up the old ones
        rw [answers_interrupts, hleft, Multiset.coe_add, ← List.map_append]
        have hperm := (perm_append_filter hint.nodup hnodup hsub).map Prod.fst
        exact (Multiset.coe_eq_coe.2 hperm).trans (zero_add _).symm
      · intro m hm
        obtain ⟨x, hx, rfl⟩ := List.mem_map.1 hm
        exact ⟨x, hsub hx, .inr ⟨.EINTR, rfl⟩⟩
      · intro r hr
        rw [hleft] at hr
        exact .inr (List.mem_filter.1 hr).1

/-- Only `push_request` adds to the history. -/
theorem step_pushed {s t : ReadState} {l : ReadLabel} (h : step s l = some t) :
    t.pushed = s.pushed ++ l.handed := by
  cases hl : l.byReader with
  | true =>
      obtain ⟨inner, pc, hmove, rfl⟩ := reader_move hl h
      cases hmove <;> exact (List.append_nil _).symm
  | false =>
      cases l with
      | push req written =>
          simp only [step, Option.ite_none_right_eq_some, Option.some.injEq] at h
          obtain ⟨-, rfl⟩ := h
          rfl
      | intr | close =>
          simp only [step, Option.ite_none_right_eq_some, Option.some.injEq] at h
          obtain ⟨-, rfl⟩ := h
          exact (List.append_nil _).symm
      | _ => cases hl

/-- The books of one step of the queue. -/
theorem step_balance {s t : ReadState} {l : ReadLabel} (hshape : s.Shape)
    (hnodup : (s.outstanding.map Prod.fst).Nodup) (h : step s l = some t) :
    ∃ replies, Balance s t l.handed replies := by
  have hqueue : (s.inner.queue.map Prod.fst).Nodup :=
    ((List.sublist_append_right _ _).map Prod.fst).nodup hnodup
  obtain ⟨new, replies, hbalance⟩ :=
    (step_effect hshape hqueue h).1.balance (List.Nodup.of_map _ hnodup)
  obtain rfl : new = l.handed :=
    List.append_cancel_left (hbalance.pushed.symm.trans (step_pushed h))
  exact ⟨replies, hbalance⟩

end ReadState

namespace Server

/-- A poll request waits only while the main thread is in `Device::poll`. -/
def Asks (s : Server) : Prop := s.asked.isSome → ∃ schedule, s.session.main = .polling schedule

/-- Where a response of a step comes from: the request received in the step, a read of the queue or
the poll request. -/
inductive Origin (e : Endian) (s : Server) (l : ServerLabel) (m : Response.Reply) : Prop where
  | request (req : Request) (env : Surroundings) (hl : l = .request req env)
      (hm : Responds e req m)
  | read (req : ReadRequest) (hreq : req ∈ s.session.read.outstanding)
      (hm : ReadState.Answer req m)
  | poll (seq : Sequence) (parm : Request.Poll) (hasked : s.asked = some (seq, parm))
      (hm : Responds e (.poll seq parm) m)

/-- An ioctl can be answered, and `poll()` counts one descriptor at most. -/
def HasAnswer (e : Endian) : ServerLabel → Prop
  | .request req env => ¬Fails e env req
  | .pollAnswer (.ok (count, _)) _ => count ≤ 1
  | _ => True

/-- Nothing is lost in the step: there is an answer, and sends succeed. -/
def Lossless (e : Endian) (l : ServerLabel) : Prop := l.out = .sent ∧ HasAnswer e l

/-- The books of a step of the server. -/
structure Balance (e : Endian) (s : Server) (l : ServerLabel) (t : Server) : Prop where
  books : answers (fresh s t) + t.waiting ≤ l.owed + s.waiting
  lossless : Lossless e l → answers (fresh s t) + t.waiting = l.owed + s.waiting
  origin : ∀ m ∈ fresh s t, Origin e s l m
  total : t.total.Perm (s.total ++ fresh s t)
  /-- A read that waits has waited or was received. -/
  reads : ∀ req ∈ t.session.read.outstanding, req ∈ s.session.read.outstanding ∨
    ∃ info env, l = .request (.read req.1 info) env ∧ req.2 = (info.size.asNative e).toNat
  asked : ∀ seq parm, t.asked = some (seq, parm) → s.asked = some (seq, parm) ∨
    ∃ env, l = .request (.poll seq parm) env
  asks : t.Asks

section Books

variable {e : Endian} {s t : Server} {l : ServerLabel}

/-- The responses of a step, when each sender appends to what it has sent. -/
theorem fresh_eq (main reader poll : List Response.Reply) (hmain : t.sent = s.sent ++ main)
    (hreader : t.session.read.inner.sent = s.session.read.inner.sent ++ reader)
    (hpoll : t.poll.sent = s.poll.sent ++ poll) :
    fresh s t = main ++ (reader ++ poll) ∧ t.total.Perm (s.total ++ fresh s t) := by
  have hfresh : fresh s t = main ++ (reader ++ poll) := by
    rw [fresh, hmain, hreader, hpoll, List.drop_left, List.drop_left, List.drop_left]
  refine ⟨hfresh, ?_⟩
  rw [hfresh, total, total, hmain, hreader, hpoll, ← Multiset.coe_eq_coe]
  simp only [← Multiset.coe_add]
  abel

theorem fresh_eq_nil (hmain : t.sent = s.sent) (hreader : t.session.read = s.session.read)
    (hpoll : t.poll = s.poll) : fresh s t = [] ∧ t.total.Perm (s.total ++ fresh s t) :=
  fresh_eq [] [] [] (by rw [hmain, List.append_nil])
    (by rw [hreader, List.append_nil]) (by rw [hpoll, List.append_nil])

theorem asks_of_receiving (hasks : s.Asks) (hmain : s.session.main = .receiving) :
    s.asked = none := by
  rw [← Option.not_isSome_iff_eq_none]
  intro hsome
  obtain ⟨schedule, h⟩ := hasks hsome
  cases hmain.symm.trans h

theorem asks_of_none (h : s.asked = none) : s.Asks := by
  intro hsome
  rw [h] at hsome
  cases hsome

theorem waiting_of_none (h : s.asked = none) :
    s.waiting = (s.session.read.outstanding.map Prod.fst : List Sequence) := by
  rw [waiting, h]
  exact add_zero (_ : Multiset Sequence)

theorem waiting_of_some {seq : Sequence} {parm : Request.Poll} (h : s.asked = some (seq, parm)) :
    s.waiting = {seq} + (s.session.read.outstanding.map Prod.fst : List Sequence) := by
  rw [waiting, h]
  exact add_comm (_ : Multiset Sequence) {seq}

/-- A step that sends nothing and leaves the queue alone. -/
theorem balance_silent (hsent : t.sent = s.sent) (hpoll : t.poll = s.poll)
    (hread : t.session.read = s.session.read) (hbooks : t.waiting ≤ l.owed + s.waiting)
    (hlossless : Lossless e l → t.waiting = l.owed + s.waiting)
    (hasked : ∀ seq parm, t.asked = some (seq, parm) → s.asked = some (seq, parm) ∨
      ∃ env, l = .request (.poll seq parm) env) (hasks : t.Asks) : Balance e s l t := by
  obtain ⟨hfresh, htotal⟩ := fresh_eq_nil hsent hread hpoll
  refine ⟨?_, ?_, ?_, htotal, ?_, hasked, hasks⟩
  · rw [hfresh, answers_nil, zero_add]
    exact hbooks
  · rw [hfresh, answers_nil, zero_add]
    exact hlossless
  · rw [hfresh]
    exact nofun
  · intro req hreq
    exact .inl (hread ▸ hreq)

/-- A step that sends nothing and moves no request. -/
theorem balance_quiet (hsent : t.sent = s.sent) (hpoll : t.poll = s.poll)
    (hread : t.session.read = s.session.read) (hasked : t.asked = s.asked) (hasks : t.Asks)
    (howed : Lossless e l → l.owed = 0) : Balance e s l t := by
  have hwaiting : t.waiting = s.waiting := by rw [waiting, waiting, hread, hasked]
  refine balance_silent hsent hpoll hread ?_ ?_ ?_ hasks
  · rw [hwaiting]
    exact Multiset.le_add_left _ _
  · intro hlossless
    rw [hwaiting, howed hlossless, zero_add]
  · intro seq parm h
    exact .inl (hasked ▸ h)

/-- The main thread answers a request. -/
theorem balance_answered {req : Request} {env : Surroundings} {m : Response.Reply}
    (hm : Responds e req m) (hsent : t.sent = s.sent ++ [m])
    (hpoll : t.poll = s.poll) (hread : t.session.read = s.session.read)
    (hasked : t.asked = s.asked) (hasks : t.Asks) : Balance e s (.request req env) t := by
  obtain ⟨hfresh, htotal⟩ := fresh_eq [m] [] [] hsent
    (by rw [hread, List.append_nil]) (by rw [hpoll, List.append_nil])
  have hbooks : answers (fresh s t) + t.waiting =
      ServerLabel.owed (.request req env) + s.waiting := by
    rw [hfresh, List.append_nil, List.append_nil, answers_singleton hm.seq, waiting, waiting, hread,
      hasked, ServerLabel.owed, hm.owed]
    rfl
  refine ⟨le_of_eq hbooks, fun _ => hbooks, ?_, htotal, ?_, ?_, hasks⟩
  · rw [hfresh]
    intro m' hm'
    rw [List.mem_singleton.1 hm']
    exact .request req env rfl hm
  · intro r hr
    exact .inl (hread ▸ hr)
  · intro seq parm h
    exact .inl (hasked ▸ h)

/-- A step of the read queue. -/
theorem balance_read {new : List ReadRequest} {replies : List Response.Reply}
    (hb : ReadState.Balance s.session.read t.session.read new replies)
    (hnew : l.owed = (new.map Prod.fst : List Sequence))
    (hreq : ∀ req ∈ new, ∃ info env, l = .request (.read req.1 info) env ∧
      req.2 = (info.size.asNative e).toNat)
    (hsent : t.sent = s.sent) (hpoll : t.poll = s.poll) (hasked : t.asked = s.asked)
    (hasks : t.Asks) : Balance e s l t := by
  obtain ⟨hfresh, htotal⟩ := fresh_eq [] replies [] (by rw [hsent, List.append_nil])
    hb.sent (by rw [hpoll, List.append_nil])
  rw [List.nil_append, List.append_nil] at hfresh
  have hbooks : answers (fresh s t) + t.waiting = l.owed + s.waiting := by
    rw [hfresh, hnew, waiting, waiting, ← add_assoc, ← add_assoc, hb.books, hasked]
  refine ⟨le_of_eq hbooks, fun _ => hbooks, ?_, htotal, ?_, ?_, hasks⟩
  · rw [hfresh]
    intro m hm
    obtain ⟨req, hreq, hanswer⟩ := hb.origin m hm
    exact .read req hreq hanswer
  · intro req hmem
    exact (hb.kept req hmem).symm.imp_right (hreq req)
  · intro seq parm h
    exact .inl (hasked ▸ h)

/-- The main thread handles a request. -/
theorem Handled.balance {env : Surroundings} {req : Request} (h : Handled e s env req t)
    (hmain : s.session.main = .receiving) (hopen : s.session.Open) (hasks : s.Asks)
    (hnodup : (s.session.read.outstanding.map Prod.fst).Nodup) :
    Balance e s (.request req env) t := by
  have hnone := asks_of_receiving hasks hmain
  cases h with
  | answered m hm hnum => exact balance_answered hm rfl rfl rfl rfl hasks
  | released seq hreq =>
      subst hreq
      exact balance_answered (.release seq) rfl rfl rfl rfl (asks_of_none hnone)
  | unsent hout =>
      refine balance_quiet rfl rfl rfl rfl hasks ?_
      intro hlossless
      cases hout.symm.trans hlossless.1
  | pushed seq info r hreq hstep =>
      subst hreq
      obtain ⟨replies, hb⟩ := ReadState.step_balance hopen.read.shape hnodup hstep
      refine balance_read hb rfl ?_ rfl rfl rfl hasks
      intro req hmem
      rw [List.mem_singleton.1 hmem]
      exact ⟨info, env, rfl, rfl⟩
  | asked seq parm schedule hreq =>
      subst hreq
      have hbooks : waiting { s with
            session := { s.session with main := .polling schedule }, asked := some (seq, parm) } =
          ServerLabel.owed (.request (.poll seq parm) env) + s.waiting := by
        refine (waiting_of_some rfl).trans ?_
        rw [waiting_of_none hnone]
        rfl
      refine balance_silent rfl rfl rfl (le_of_eq hbooks) (fun _ => hbooks) ?_
        fun _ => ⟨schedule, rfl⟩
      intro seq' parm' h
      obtain ⟨rfl, rfl⟩ := Prod.mk.inj (Option.some.inj h)
      exact .inr ⟨env, rfl⟩
  | interrupted seq r hreq hstep =>
      subst hreq
      obtain ⟨replies, hb⟩ := ReadState.step_balance hopen.read.shape hnodup hstep
      exact balance_read hb rfl nofun rfl rfl rfl hasks
  | ended how hwhy =>
      refine balance_quiet rfl rfl rfl rfl (asks_of_none hnone) ?_
      rintro ⟨hsent, hfails⟩
      rcases hwhy with hwhy | hwhy
      · cases hwhy.symm.trans hsent
      · exact absurd hwhy hfails
  | panicked hwhy =>
      refine balance_quiet rfl rfl rfl rfl hasks ?_
      rintro ⟨hsent, hfails⟩
      rcases hwhy with hwhy | hwhy
      · cases hwhy.symm.trans hsent
      · exact absurd hwhy hfails

/-- The main thread answers the poll request. -/
theorem balance_polled {res : PollOutcome} {out : SendOutcome} {seq : Sequence} {parm : Request.Poll}
    (hasked : s.asked = some (seq, parm))
    (hpoll : s.poll.devicePoll seq (parm.kh.asNative e) (parm.flags.asNative e)
      (parm.events.asNative e) res = some t.poll) (hsent : t.sent = s.sent)
    (hread : t.session.read = s.session.read) (hnone : t.asked = none) :
    Balance e s (.pollAnswer res out) t := by
  obtain ⟨m, hm, hkind⟩ := devicePoll_sent hpoll
  have hresponds : Responds e (.poll seq parm) m := by
    rcases hkind with ⟨ev, rfl⟩ | ⟨rc, rfl, -⟩
    · exact .poll seq parm ev
    · exact .err (.poll seq parm) rc rfl
  obtain ⟨hfresh, htotal⟩ := fresh_eq [] [] [m]
    (by rw [hsent, List.append_nil]) (by rw [hread, List.append_nil]) hm
  rw [List.nil_append, List.nil_append] at hfresh
  have hbooks : answers (fresh s t) + t.waiting =
      ServerLabel.owed (.pollAnswer res out) + s.waiting := by
    rw [hfresh, answers_singleton hresponds.seq, waiting_of_none hnone, waiting_of_some hasked, hread]
    exact (zero_add (_ : Multiset Sequence)).symm
  refine ⟨le_of_eq hbooks, fun _ => hbooks, ?_, htotal, ?_, ?_, asks_of_none hnone⟩
  · rw [hfresh]
    intro m' hm'
    rw [List.mem_singleton.1 hm']
    exact .poll seq parm hasked hresponds
  · intro r hr
    exact .inl (hread ▸ hr)
  · intro seq' parm' h
    cases hnone.symm.trans h

/-- **Every step of the server balances its books.** -/
theorem Move.balance (h : Move e s l t) (hopen : s.session.Open) (hasks : s.Asks)
    (hnodup : s.waiting.Nodup) : Balance e s l t := by
  have hreads : (s.session.read.outstanding.map Prod.fst).Nodup :=
    Multiset.coe_nodup.1 (Multiset.nodup_add.1 hnodup).1
  cases h with
  | request req env t hmain h => exact h.balance hmain hopen hasks hreads
  | pollAnswered res out seq parm poll hasked hpoll => exact balance_polled hasked hpoll rfl rfl rfl
  | pollPanics res out hwhy =>
      refine balance_silent rfl rfl rfl ?_ ?_ nofun (asks_of_none rfl)
      · -- the request is gone
        exact (add_le_add_right (Multiset.zero_le _) _).trans (Multiset.le_add_left _ _)
      · rintro ⟨hsent, hanswers⟩
        rcases hwhy with hwhy | ⟨count, revents, rfl, hlt⟩
        · cases hwhy.symm.trans hsent
        · exact absurd hanswers (Nat.not_le.2 hlt)
  | reader l r hown hmay hstep =>
      obtain ⟨replies, hb⟩ := ReadState.step_balance hopen.read.shape hreads hstep
      cases l with
      | push req written => cases hown
      | _ => exact balance_read hb rfl nofun rfl rfl rfl hasks
  | worker l p => exact balance_quiet rfl rfl rfl rfl hasks fun _ => rfl
  | returns how hmain =>
      have hnone := asks_of_receiving hasks hmain
      exact balance_quiet rfl rfl rfl rfl (asks_of_none hnone) fun _ => rfl
  | scope how hmain => exact balance_quiet rfl rfl rfl rfl hasks fun _ => rfl

end Books

/-! ## Error numbers -/

end Server

/-- The system calls of a step leave error numbers. -/
def ServerLabel.Numbered : ServerLabel → Prop
  | .request _ env => env.Numbered
  | .pollAnswer (.error rc) _ => rc.code ≠ 0
  | .thread (.read (.read (.error rc))) => rc.code ≠ 0
  | .thread (.read (.poll (.error rc))) => rc.code ≠ 0
  | _ => True

/-- The error that the reader is about to send has a number. -/
def ReaderPc.Numbered : ReaderPc → Prop
  | .failing _ rc => rc.code ≠ 0
  | .taking (.error rc) => rc.code ≠ 0
  | _ => True

/-- The errors that were sent, and the one about to be, have numbers. -/
structure ReadState.Numbered (s : ReadState) : Prop where
  sent : ∀ m ∈ s.inner.sent, m.Numbered
  reader : s.reader.Numbered

theorem forall_mem_concat {α : Type} {P : α → Prop} {xs : List α} {x : α} (h : ∀ y ∈ xs, P y)
    (hx : P x) : ∀ y ∈ xs ++ [x], P y := by
  intro y hy
  rcases List.mem_append.1 hy with hy | hy
  · exact h y hy
  · exact List.mem_singleton.1 hy ▸ hx

namespace ReadState

/-- An interrupt sends error numbers. -/
theorem Numbered.interrupts {s t : ReadState} (h : s.Numbered) {xs : List ReadRequest}
    (hint : ReadInner.Interrupts s.inner t.inner xs) (hreader : t.reader = s.reader) :
    t.Numbered := by
  refine ⟨?_, hreader ▸ h.reader⟩
  rw [hint.sent]
  intro m hm
  rcases List.mem_append.1 hm with hm | hm
  · exact h.sent m hm
  · obtain ⟨x, -, rfl⟩ := List.mem_map.1 hm
    exact Nat.succ_ne_zero _

theorem numbered_afterHandle (req : Option ReadRequest) : (ReaderPc.afterHandle req).Numbered := by
  cases req <;> trivial

/-- The steps of the queue send error numbers when the system calls leave them. -/
theorem Numbered.step {s t : ReadState} {l : ReadLabel} (h : s.Numbered)
    (hkeys : (s.inner.queue.map Prod.fst).Nodup)
    (hl : ServerLabel.Numbered (.thread (.read l))) (hstep : ReadState.step s l = some t) :
    t.Numbered := by
  cases hby : l.byReader with
  | true =>
      obtain ⟨inner, pc, hmove, rfl⟩ := reader_move hby hstep
      cases hmove with
      | check hr =>
          refine ⟨h.sent, ?_⟩
          show (if s.inner.fdTx then .next else .exited : ReaderPc).Numbered
          cases s.inner.fdTx <;> trivial
      | nextNone | nextSome | consume | sendPanics | register | registerFails | reschedule =>
          exact ⟨h.sent, trivial⟩
      | consumeAfter got n req hr => exact ⟨h.sent, numbered_afterHandle req⟩
      | read req res hr =>
          refine ⟨h.sent, ?_⟩
          cases res with
          | data buf =>
              simp only [afterRead]
              split <;> trivial
          | error rc =>
              simp only [afterRead]
              split
              · trivial
              · exact hl
      | send req buf out hr hout => exact ⟨forall_mem_concat h.sent trivial, trivial⟩
      | poll rc hr =>
          refine ⟨h.sent, ?_⟩
          cases rc with
          | error rc => exact hl
          | ready sync => trivial
      | take rc hr =>
          have hrc := hr ▸ h.reader
          refine ⟨h.sent, ?_⟩
          cases rc with
          | error rc =>
              cases s.inner.pendingRequest with
              | none => trivial
              | some req => exact hrc
          | ready sync =>
              cases sync with
              | true => trivial
              | false => exact numbered_afterHandle _
      | fail req rc out hr =>
          have hrc := h.reader
          rw [hr] at hrc
          exact ⟨forall_mem_concat h.sent hrc, trivial⟩
  | false =>
      cases l with
      | push req written =>
          simp only [ReadState.step, Option.ite_none_right_eq_some, Option.some.injEq] at hstep
          obtain ⟨-, rfl⟩ := hstep
          refine ⟨?_, h.reader⟩
          show ∀ m ∈ (s.inner.pushRequest req written).1.sent, m.Numbered
          rw [ReadInner.pushRequest, ReadInner.sendSync_sent]
          exact h.sent
      | intr seq written =>
          simp only [ReadState.step, Option.ite_none_right_eq_some, Option.some.injEq] at hstep
          obtain ⟨-, rfl⟩ := hstep
          obtain ⟨xs, hint, -⟩ := s.inner.doIntr_interrupts seq written hkeys
          exact h.interrupts hint rfl
      | close =>
          simp only [ReadState.step, Option.ite_none_right_eq_some, Option.some.injEq] at hstep
          obtain ⟨-, rfl⟩ := hstep
          obtain ⟨xs, hint⟩ := s.inner.closeInternal_interrupts hkeys
          exact h.interrupts hint rfl
      | _ => cases hby

end ReadState

namespace Server

/-- The errors that the server has sent, and the one its reader is about to send, have numbers. -/
structure Numbered (s : Server) : Prop where
  main : ∀ m ∈ s.sent, m.Numbered
  read : s.session.read.Numbered
  poll : ∀ m ∈ s.poll.sent, m.Numbered

theorem Numbered.total {s : Server} (h : s.Numbered) : ∀ m ∈ s.total, m.Numbered := by
  intro m hm
  rcases List.mem_append.1 hm with hm | hm
  · exact h.main m hm
  · rcases List.mem_append.1 hm with hm | hm
    · exact h.read.sent m hm
    · exact h.poll m hm

/-- **Errors of the server have numbers** when those of the system calls have. -/
theorem Numbered.step {e : Endian} {s t : Server} {l : ServerLabel} (h : s.Numbered)
    (hnodup : s.waiting.Nodup) (hl : l.Numbered) (hstep : Server.step e s l = some t) :
    t.Numbered := by
  have hkeys : (s.session.read.inner.queue.map Prod.fst).Nodup := by
    have hreads := Multiset.coe_nodup.1 (Multiset.nodup_add.1 hnodup).1
    exact ((List.sublist_append_right _ _).map Prod.fst).nodup hreads
  cases step_move hstep with
  | request req env t hmain hhandled =>
      cases hhandled with
      | answered m hm hnum => exact ⟨forall_mem_concat h.main (hnum hl), h.read, h.poll⟩
      | released seq hreq => exact ⟨forall_mem_concat h.main trivial, h.read, h.poll⟩
      | pushed seq info r hreq hread =>
          have hr := ReadState.Numbered.step (l := .push _ _) h.read hkeys trivial hread
          exact ⟨h.main, hr, h.poll⟩
      | interrupted seq r hreq hread =>
          have hr := ReadState.Numbered.step (l := .intr _ _) h.read hkeys trivial hread
          exact ⟨h.main, hr, h.poll⟩
      | unsent | asked | ended | panicked => exact ⟨h.main, h.read, h.poll⟩
  | pollAnswered res out seq parm poll hasked hpoll =>
      obtain ⟨m, hsent, hkind⟩ := devicePoll_sent hpoll
      refine ⟨h.main, h.read, ?_⟩
      show ∀ m ∈ poll.sent, m.Numbered
      rw [hsent]
      refine forall_mem_concat h.poll ?_
      rcases hkind with ⟨ev, rfl⟩ | ⟨rc, rfl, rfl⟩
      · trivial
      · exact hl
  | reader l r hown hmay hread => exact ⟨h.main, h.read.step hkeys hl hread, h.poll⟩
  | pollPanics | worker | returns | scope => exact ⟨h.main, h.read, h.poll⟩

theorem numbered_start : start.Numbered := ⟨nofun, ⟨nofun, trivial⟩, nofun⟩

/-! ## Whole runs -/

/-- The sequence numbers of the requests that a run receives and that are to be answered. -/
def received (ls : List ServerLabel) : Multiset Sequence := (ls.map ServerLabel.owed).sum

theorem received_append (ls : List ServerLabel) (l : ServerLabel) :
    received (ls ++ [l]) = received ls + l.owed := by
  rw [received, List.map_append, List.sum_append, List.map_singleton, List.sum_singleton, received]

/-- What a run with the labels `ls` has come to. -/
structure Account (e : Endian) (ls : List ServerLabel) (s : Server) : Prop where
  isOpen : s.session.Open
  asks : s.Asks
  books : answers s.total + s.waiting ≤ received ls
  lossless : (∀ l ∈ ls, Lossless e l) → answers s.total + s.waiting = received ls
  responds : ∀ m ∈ s.total, ∃ req env, .request req env ∈ ls ∧ Responds e req m
  reads : ∀ r ∈ s.session.read.outstanding, ∃ info env, .request (.read r.1 info) env ∈ ls ∧
    r.2 = (info.size.asNative e).toNat
  asked : ∀ seq parm, s.asked = some (seq, parm) → ∃ env, .request (.poll seq parm) env ∈ ls

theorem answers_perm {xs ys : List Response.Reply} (h : xs.Perm ys) : answers xs = answers ys :=
  Multiset.coe_eq_coe.2 (h.filterMap _)

/-- The answer to a read of the queue is a response to the request that it came from. -/
theorem responds_of_answer {e : Endian} {r : ReadRequest} {m : Response.Reply} {info : Request.Read}
    (hm : ReadState.Answer r m) (hsize : r.2 = (info.size.asNative e).toNat) :
    Responds e (.read r.1 info) m := by
  rcases hm with ⟨data, rfl, hdata⟩ | ⟨rc, rfl⟩
  · exact .read r.1 info data (hsize ▸ hdata)
  · exact .err (.read r.1 info) rc rfl

section Account

variable {e : Endian} {ls : List ServerLabel} {s t : Server} {l : ServerLabel}

/-- The responses of a step belong to requests received up to it. -/
theorem Account.origin (h : Account e ls s) {m : Response.Reply} (hm : Origin e s l m) :
    ∃ req env, .request req env ∈ ls ++ [l] ∧ Responds e req m := by
  cases hm with
  | request req env hl hm =>
      exact ⟨req, env, List.mem_append_right _ (hl ▸ List.mem_cons_self), hm⟩
  | read r hr hm =>
      obtain ⟨info, env, hmem, hsize⟩ := h.reads r hr
      exact ⟨_, env, List.mem_append_left _ hmem, responds_of_answer hm hsize⟩
  | poll seq parm hasked hm =>
      obtain ⟨env, hmem⟩ := h.asked seq parm hasked
      exact ⟨_, env, List.mem_append_left _ hmem, hm⟩

/-- A step extends the account. -/
theorem Account.step (h : Account e ls s) (hdistinct : (received ls).Nodup)
    (hstep : Server.step e s l = some t) : Account e (ls ++ [l]) t := by
  have hwaiting : s.waiting.Nodup :=
    Multiset.nodup_of_le ((Multiset.le_add_left _ _).trans h.books) hdistinct
  have hb := (step_move hstep).balance h.isOpen h.asks hwaiting
  have htotal : answers t.total + t.waiting =
      answers s.total + (answers (fresh s t) + t.waiting) := by
    rw [answers_perm hb.total, answers_append, add_assoc]
  have hsum : answers s.total + (l.owed + s.waiting) = answers s.total + s.waiting + l.owed := by
    rw [add_comm l.owed, add_assoc]
  refine ⟨step_open h.isOpen hstep, hb.asks, ?_, ?_, ?_, ?_, ?_⟩
  · rw [htotal, received_append]
    refine (add_le_add_right hb.books _).trans ?_
    rw [hsum]
    exact add_le_add_left h.books _
  · intro hall
    rw [htotal, received_append, hb.lossless (hall l (List.mem_append_right _ List.mem_cons_self)),
      hsum, h.lossless fun l' hl' => hall l' (List.mem_append_left _ hl')]
  · intro m hm
    rcases List.mem_append.1 (hb.total.mem_iff.1 hm) with hold | hnew
    · obtain ⟨req, env, hmem, hresponds⟩ := h.responds m hold
      exact ⟨req, env, List.mem_append_left _ hmem, hresponds⟩
    · exact h.origin (hb.origin m hnew)
  · intro r hr
    rcases hb.reads r hr with hold | ⟨info, env, hl, hsize⟩
    · obtain ⟨info, env, hmem, hsize⟩ := h.reads r hold
      exact ⟨info, env, List.mem_append_left _ hmem, hsize⟩
    · exact ⟨info, env, List.mem_append_right _ (hl ▸ List.mem_cons_self), hsize⟩
  · intro seq parm hasked
    rcases hb.asked seq parm hasked with hold | ⟨env, hl⟩
    · obtain ⟨env, hmem⟩ := h.asked seq parm hold
      exact ⟨env, List.mem_append_left _ hmem⟩
    · exact ⟨env, List.mem_append_right _ (hl ▸ List.mem_cons_self)⟩

theorem account_start : Account e [] start where
  isOpen := start_open
  asks := asks_of_none rfl
  books := le_of_eq rfl
  lossless := fun _ => rfl
  responds := nofun
  reads := nofun
  asked := nofun

/-- The account of a run whose requests have different numbers. -/
theorem run_account (hrun : (system e).exec always start ls = some t)
    (hdistinct : (received ls).Nodup) : Account e ls t := by
  refine System.exec_induct (P := fun ls s => (received ls).Nodup → Account e ls s) []
    hrun (fun _ => account_start) ?_ hdistinct
  intro ls s l t h _ hstep hnodup
  have hprev : (received ls).Nodup :=
    Multiset.nodup_of_le (received_append ls l ▸ Multiset.le_add_right _ _) hnodup
  exact (h hprev).step hprev hstep

end Account

/-- **The server answers every request once.** A client sends requests in any order, with different
sequence numbers, and the three threads of the server run in any interleaving. Then no number is
answered twice or still waits after it was answered; what is answered or waits was received; when sends
succeed and no ioctl fails to be answered, what was received is answered or waits; and every response
is a response to the request that was received under its number. -/
theorem requests_answered_once (e : Endian) (ls : List ServerLabel) (t : Server)
    (hrun : (system e).exec always start ls = some t) (hdistinct : (received ls).Nodup) :
    (answers t.total + t.waiting).Nodup ∧ answers t.total + t.waiting ≤ received ls ∧
      ((∀ l ∈ ls, Lossless e l) → answers t.total + t.waiting = received ls) ∧
        ∀ m ∈ t.total, ∃ req env, .request req env ∈ ls ∧ Responds e req m := by
  have h := run_account hrun hdistinct
  exact ⟨Multiset.nodup_of_le h.books hdistinct, h.books, h.lossless, h.responds⟩

/-- A read that finds two bytes. -/
def readRun : List ServerLabel :=
  [.request readOne idle, .thread (.read .check), .thread (.read .next),
    .thread (.read (.read (.data [1, 2]))), .thread (.read (.send .sent))]

/-- The read is answered with the two bytes, and nothing else is. -/
theorem requests_answered_once_read :
    ∃ t, (system .little).exec always start readRun = some t ∧
      t.total = [.read ⟨1, by decide⟩ [1, 2]] ∧
        answers t.total + t.waiting = received readRun := by
  refine ⟨_, rfl, rfl, ?_⟩
  refine (requests_answered_once .little readRun _ rfl (by decide)).2.2.1 ?_
  simp only [readRun, List.forall_mem_cons]
  exact ⟨⟨rfl, id⟩, ⟨rfl, trivial⟩, ⟨rfl, trivial⟩, ⟨rfl, trivial⟩, ⟨rfl, trivial⟩,
    List.forall_mem_nil _⟩

end Server

end Cuse2Net.Realdev

import Cuse2Net.Cuse.Ffi
import Cuse2Net.Realdev.PollNotify
import Cuse2Net.Virtdev.Reply

/-!
# Poll requests and wake-ups, end to end

A poll request of the kernel goes to the server, which answers it and, when the device is not ready,
registers the handle; a later event of the device makes the server send a wake-up, and the receiver of
the client turns it into a notification of the kernel (`handle_event`). `Polling` is this dialogue: the
server with its kernel (`PollNotify`), and the messages on the way in both directions, which the
connection keeps in order.

What the kernel knows of a handle is what it has been told: `standing` replays the messages that have
been delivered to the client. As in `PollNotify`, a call under the lock of `Poll` is one step that can
always be taken; `Realdev.PollLock` is about the lock itself. Sends on the connection and writes to the
cuse device succeed here.

The two results compare what the kernel has been told with the device.
`notified_after_refusal` is safety: a handle is notified only after, and at most as often as, a poll
request for it has been answered not-ready. `no_sleeper_on_ready_device` is about a system at rest:
nobody waits for a condition that holds.
-/

set_option autoImplicit false

namespace Cuse2Net.Virtdev

open Cuse2Net.Lib
open Cuse2Net.Lib.Bytes
open Cuse2Net.IoctlFfi
open Cuse2Net.Proto

/-! ## Events of the server -/

/-- `fuse_notify_code::FUSE_NOTIFY_POLL`. -/
def FUSE_NOTIFY_POLL : BitVec 32 := 1

/-- `send_notify`; the number of a notification is zero. -/
def sendNotify (code : BitVec 32) (data : List UInt8) : FuseReply :=
  ⟨BitVec.ofNat 32 (fuseOutHeaderSize + data.length), code, 0, data⟩

/-- The notification for a handle: a `fuse_notify_poll_wakeup_out`. -/
def notifyPoll (e : Endian) (kh : BitVec 64) : FuseReply :=
  sendNotify FUSE_NOTIFY_POLL ((u64 e).bytes kh)

/-- The errors of `handle_event`. -/
inductive EventError where
  | cuse (err : Cuse.Error)
  | protocol (err : Proto.Error)

/-- The loop of `handle_event`: the messages that are written, the last of which may fail. -/
def notifyAll (e : Endian) (send : FuseReply → Except Cuse.Error Unit) :
    List (BitVec 64) → List FuseReply × Except EventError Unit
  | [] => ([], .ok ())
  | kh :: khs =>
      let notify := notifyPoll e kh
      match send notify with
      | .error err => ([notify], .error (.cuse err))
      | .ok () =>
          let (sent, res) := notifyAll e send khs
          (notify :: sent, res)

/-- `handle_event`. -/
def handleEvent (e : Endian) (send : FuseReply → Except Cuse.Error Unit) :
    Response → List FuseReply × Except EventError Unit
  | .pollWakeup khs => notifyAll e send khs
  | .pollWakeup1 kh => notifyAll e send [kh]
  | _ => ([], .error (.protocol .badResponse))

/-- When the cuse device takes every message, every handle is notified. -/
theorem notifyAll_ok (e : Endian) (khs : List (BitVec 64)) :
    notifyAll e (fun _ => .ok ()) khs = (khs.map (notifyPoll e), .ok ()) := by
  induction khs with
  | nil => rfl
  | cons kh khs ih => simp only [notifyAll, ih, List.map_cons]

end Cuse2Net.Virtdev

namespace Cuse2Net.Relay

open Cuse2Net.Lib
open Cuse2Net.Lib.Bytes
open Cuse2Net.Proto
open Cuse2Net.Realdev
open Cuse2Net.Realdev.EpollFlags
open Cuse2Net.Virtdev (FuseReply handleEvent notifyAll_ok notifyPoll)

/-! ## The dialogue -/

/-- The poll requests and their answers. The last two fields record the history: the requests of the
kernel with their numbers, and the messages that the client has received. -/
structure Polling where
  server : PollNotify
  requests : List (Sequence × PollParams)
  responses : List Response.Reply
  asked : List (Sequence × PollParams)
  delivered : List Response.Reply

/-- Steps of the dialogue. -/
inductive PollingLabel where
  /-- The kernel polls, and the client sends the request. -/
  | ask (seq : Sequence) (parm : PollParams)
  /-- The server handles the next request; `poll(2)` may fail. -/
  | serve (failure : Option Errno)
  /-- Another step of the server or of its kernel. -/
  | server (l : NotifyLabel)
  /-- The client receives the next message. A wake-up of no handle has no bytes. -/
  | deliver
  deriving DecidableEq

namespace Polling

/-- The steps of the server that no request causes. -/
def ownServer : NotifyLabel → Bool
  | .request .. => false
  | _ => true

/-- A step of the server, with the messages it sends. -/
def stepServer (c : Polling) (l : NotifyLabel) : Option Polling :=
  (c.server.step l).map fun s =>
    { c with
      server := s
      responses := c.responses ++ s.inner.sent.drop c.server.inner.sent.length }

/-- `Response::recv` takes the message of a server on a host `e'`. -/
def Accepted (e' : Endian) (m : Response.Reply) : Prop :=
  (m.send e').length ≤ (Response.Header.layout e').size + Response.MAX_SZ

instance (e' : Endian) (m : Response.Reply) : Decidable (Accepted e' m) :=
  inferInstanceAs (Decidable (_ ≤ _))

/-- One step, for a client on a host `e` and a server on a host `e'`. -/
def step (e e' : Endian) (c : Polling) : PollingLabel → Option Polling
  | .ask seq parm =>
      some { c with requests := c.requests ++ [(seq, parm)], asked := c.asked ++ [(seq, parm)] }
  | .serve failure =>
      match c.requests with
      | (seq, parm) :: rest =>
          match (Request.Call.poll parm).received e e' seq with
          | .poll seq info =>
              { c with requests := rest }.stepServer (.request seq (info.kh.asNative e')
                (info.flags.asNative e') (info.events.asNative e') failure)
          | _ => none
      | [] => none
  | .server l => if ownServer l then c.stepServer l else none
  | .deliver =>
      match c.responses with
      | m :: rest =>
          if Accepted e' m then some { c with responses := rest, delivered := c.delivered ++ [m] }
          -- `Response::recv` fails, and the client shuts the connection down
          else none
      | [] => none

/-- Before the first request, with a device in any condition. -/
def start (ready : PollFlags) : Polling := ⟨.start ready, [], [], [], []⟩

/-- The kernel of the client, the connection, the server and its kernel. -/
def system (e e' : Endian) : System Polling PollingLabel where
  init c := ∃ ready, c = start ready
  step := step e e'

/-- Sequence numbers are not used again. -/
def Distinct (c : Polling) : PollingLabel → Prop
  | .ask seq _ => seq ∉ c.asked.map Prod.fst
  | _ => True

instance (c : Polling) (l : PollingLabel) : Decidable (Distinct c l) := by
  unfold Distinct
  split <;> infer_instance

/-- The notifications that the client sends for a message. -/
def notifications (e e' : Endian) (m : Response.Reply) : List FuseReply :=
  match m.received e' e with
  | some (.ok (none, resp)) => (handleEvent e (fun _ => .ok ()) resp).1
  | _ => []

/-- The handles that a message wakes. -/
def wakes : Response.Reply → List Kh
  | .pollWakeup khs => khs
  | _ => []

/-- Each handle of a wake-up is notified, in the order of the message. -/
theorem notifications_eq (e e' : Endian) (m : Response.Reply) :
    notifications e e' m = (wakes m).map (notifyPoll e) := by
  cases m with
  | pollWakeup khs =>
      match khs with
      | [] => rfl
      | [kh] => rfl
      | kh :: kh' :: khs =>
          show (Virtdev.notifyAll e _ (kh :: kh' :: khs)).1 = _
          rw [notifyAll_ok]
          rfl
  | _ => rfl

/-! ## What the kernel has been told -/

/-- The message answers a poll request that asked for the notification of `kh`: not ready. -/
def refuses (asked : List (Sequence × PollParams)) (kh : Kh) : Response.Reply → Bool
  | .poll seq ev =>
      ev == 0 && (asked.lookup seq).any fun parm =>
        parm.kh == kh && parm.flags &&& Request.Poll.FLAG_SCHEDULE_NOTIFY != 0
  | _ => false

/-- The conditions that a poll request waits for, if there are any. -/
def conditions (parm : PollParams) : Option EpollFlags :=
  if protoToPoll parm.events = 0 then none else some (pollToEpoll (protoToPoll parm.events))

/-- What the handle `kh` waits for after a message, when it waited for `cur` before. -/
def standing (asked : List (Sequence × PollParams)) (kh : Kh) (cur : Option EpollFlags) :
    Response.Reply → Option EpollFlags
  | .pollWakeup khs => if kh ∈ khs then none else cur
  | .poll seq ev =>
      if refuses asked kh (.poll seq ev) then (asked.lookup seq).bind conditions else cur
  | _ => cur

/-- The requests that the messages answer are among those asked. -/
def Known (asked : List (Sequence × PollParams)) (ms : List Response.Reply) : Prop :=
  ∀ seq ev, .poll seq ev ∈ ms → seq ∈ asked.map Prod.fst

theorem lookup_append_of_mem {asked : List (Sequence × PollParams)} {seq : Sequence}
    (h : seq ∈ asked.map Prod.fst) (new : List (Sequence × PollParams)) :
    (asked ++ new).lookup seq = asked.lookup seq := by
  rw [List.lookup_append]
  cases hlookup : asked.lookup seq with
  | some parm => rfl
  | none =>
      obtain ⟨x, hx, rfl⟩ := List.mem_map.1 h
      have hne := List.lookup_eq_none_iff.1 hlookup x hx
      rw [bne_self_eq_false] at hne
      cases hne

theorem lookup_of_mem {asked : List (Sequence × PollParams)} {seq : Sequence} {parm : PollParams}
    (hnodup : (asked.map Prod.fst).Nodup) (h : (seq, parm) ∈ asked) :
    asked.lookup seq = some parm := by
  induction asked with
  | nil => cases h
  | cons x xs ih =>
      rw [List.map_cons, List.nodup_cons] at hnodup
      rcases List.mem_cons.1 h with rfl | h
      · exact List.lookup_cons_self
      · have hne : (seq == x.1) = false := by
          rw [beq_eq_false_iff_ne]
          rintro rfl
          exact hnodup.1 (List.mem_map.2 ⟨_, h, rfl⟩)
        rw [List.lookup_cons, hne]
        exact ih hnodup.2 h

/-- A new request changes nothing in what the messages say. -/
theorem refuses_append {asked : List (Sequence × PollParams)} {m : Response.Reply}
    (h : ∀ seq ev, m = .poll seq ev → seq ∈ asked.map Prod.fst)
    (new : List (Sequence × PollParams)) (kh : Kh) :
    refuses (asked ++ new) kh m = refuses asked kh m := by
  cases m with
  | poll seq ev => simp only [refuses, lookup_append_of_mem (h seq ev rfl)]
  | _ => rfl

theorem standing_append {asked : List (Sequence × PollParams)} {m : Response.Reply}
    (h : ∀ seq ev, m = .poll seq ev → seq ∈ asked.map Prod.fst)
    (new : List (Sequence × PollParams)) (kh : Kh) (cur : Option EpollFlags) :
    standing (asked ++ new) kh cur m = standing asked kh cur m := by
  cases m with
  | poll seq ev =>
      simp only [standing, refuses_append h new kh, lookup_append_of_mem (h seq ev rfl)]
  | _ => rfl

theorem Known.foldl_append {asked : List (Sequence × PollParams)} {ms : List Response.Reply}
    (h : Known asked ms) (new : List (Sequence × PollParams)) (kh : Kh) (cur : Option EpollFlags) :
    ms.foldl (standing (asked ++ new) kh) cur = ms.foldl (standing asked kh) cur := by
  induction ms generalizing cur with
  | nil => rfl
  | cons m ms ih =>
      rw [List.foldl_cons, List.foldl_cons,
        standing_append fun seq ev hm => h seq ev (hm ▸ List.mem_cons_self)]
      exact ih (fun seq ev hm => h seq ev (List.mem_cons_of_mem m hm)) _

theorem Known.countP_append {asked : List (Sequence × PollParams)} {ms : List Response.Reply}
    (h : Known asked ms) (new : List (Sequence × PollParams)) (kh : Kh) :
    ms.countP (refuses (asked ++ new) kh) = ms.countP (refuses asked kh) :=
  List.countP_congr fun m hm => by
    rw [refuses_append fun seq ev heq => h seq ev (heq ▸ hm)]

/-! ## What the server says -/

theorem woken_eq (p : PollInner) : p.woken = p.sent.flatMap wakes := by
  unfold PollInner.woken
  congr 1

/-- What a step of the server says to the client, with the requests `asked` so far. -/
structure Tells (asked : List (Sequence × PollParams)) (s t : PollNotify) (ms : List Response.Reply) :
    Prop where
  sent : t.inner.sent = s.inner.sent ++ ms
  short : ms.length ≤ 1
  known : Known asked ms
  standing : ∀ kh, t.inner.khs.lookup kh = ms.foldl (standing asked kh) (s.inner.khs.lookup kh)
  refused : ∀ kh, t.notReady.count kh = s.notReady.count kh + ms.countP (refuses asked kh)

section Tells

variable {asked : List (Sequence × PollParams)} {s t : PollNotify}

/-- A step that says nothing. -/
theorem tells_nothing (hinner : t.inner = s.inner) (hnote : t.notReady = s.notReady) :
    Tells asked s t [] := by
  refine ⟨?_, Nat.zero_le 1, ?_, fun kh => ?_, fun kh => ?_⟩
  · rw [hinner, List.append_nil]
  · intro seq ev hm
    cases hm
  · rw [hinner]
    rfl
  · rw [hnote]
    rfl

/-- An answer that registers nothing. -/
theorem tells_answer {seq : Sequence} (hseq : seq ∈ asked.map Prod.fst) (m : Response.Reply)
    (hsent : t.inner.sent = s.inner.sent ++ [m]) (hkhs : t.inner.khs = s.inner.khs)
    (hnote : t.notReady = s.notReady) (hm : (∃ rc, m = .err seq rc) ∨ ∃ ev, m = .poll seq ev)
    (hrefuses : ∀ kh, refuses asked kh m = false) : Tells asked s t [m] := by
  refine ⟨hsent, Nat.le_refl 1, ?_, fun kh => ?_, fun kh => ?_⟩
  · intro seq' ev hmem
    rw [List.mem_singleton] at hmem
    rcases hm with ⟨rc, rfl⟩ | ⟨ev', rfl⟩
    · cases hmem
    · obtain ⟨rfl, -⟩ := Response.Reply.poll.inj hmem
      exact hseq
  · rw [hkhs, List.foldl_cons, List.foldl_nil]
    rcases hm with ⟨rc, rfl⟩ | ⟨ev, rfl⟩
    · rfl
    · rw [Polling.standing, hrefuses]
      rfl
  · rw [hnote, List.countP_singleton, hrefuses]
    rfl

/-- The answer that registers a handle. -/
theorem tells_refusal {seq : Sequence} {parm : PollParams} (hask : asked.lookup seq = some parm)
    (hflag : parm.flags &&& Request.Poll.FLAG_SCHEDULE_NOTIFY ≠ 0)
    (hsent : t.inner.sent = s.inner.sent ++ [.poll seq 0])
    (hkhs : t.inner.khs = (s.inner.registerKh parm.kh (protoToPoll parm.events)).khs)
    (hnote : t.notReady = s.notReady ++ [parm.kh]) : Tells asked s t [.poll seq 0] := by
  have hmem : seq ∈ asked.map Prod.fst := by
    by_contra hnot
    have hnone : asked.lookup seq = none := by
      rw [List.lookup_eq_none_iff]
      intro x hx
      rw [bne_iff_ne]
      rintro rfl
      exact hnot (List.mem_map_of_mem hx)
    rw [hask] at hnone
    cases hnone
  have hrefuses : ∀ kh, refuses asked kh (.poll seq 0) = (parm.kh == kh) := by
    intro kh
    simp only [refuses, hask, Option.any_some, bne_iff_ne.2 hflag, Bool.and_true, beq_self_eq_true,
      Bool.true_and]
  refine ⟨hsent, Nat.le_refl 1, ?_, fun kh => ?_, fun kh => ?_⟩
  · intro seq' ev hm
    obtain ⟨rfl, -⟩ := Response.Reply.poll.inj (List.mem_singleton.1 hm)
    exact hmem
  · rw [hkhs, PollNotify.lookup_registerKh, List.foldl_cons, List.foldl_nil, Polling.standing,
      hrefuses, hask]
    by_cases hkh : kh = parm.kh
    · subst hkh
      rw [Function.update_self, beq_self_eq_true, if_pos rfl]
      rfl
    · rw [Function.update_of_ne hkh, beq_false_of_ne (Ne.symm hkh)]
      rfl
  · rw [hnote, List.count_append, List.countP_singleton, hrefuses, List.count_singleton]

/-- **What the server says to a poll request.** -/
theorem request_tells {seq : Sequence} {parm : PollParams} {failure : Option Errno}
    (hask : asked.lookup seq = some parm) (hseq : seq ∈ asked.map Prod.fst)
    (h : s.step (.request seq parm.kh parm.flags parm.events failure) = some t) :
    ∃ ms, Tells asked s t ms := by
  obtain ⟨m, hm, rfl⟩ := PollNotify.request_eq_some_iff.1 h
  cases failure with
  | some rc =>
      obtain rfl := Option.some.inj hm
      exact ⟨_, tells_answer hseq (.err seq rc) rfl rfl rfl (.inl ⟨rc, rfl⟩) fun _ => rfl⟩
  | none =>
      obtain ⟨ev, hreply, hev⟩ := PollNotify.pollReply_kernelPoll seq s.ready parm.events
      obtain rfl : m = .poll seq ev := Option.some.inj (hm.symm.trans hreply)
      cases hregisters : PollInner.registers parm.flags (s.pollResult parm.events none) with
      | true =>
          obtain ⟨-, hquiet, hflag⟩ := PollNotify.registers_iff.1 hregisters
          obtain rfl := hev.2 hquiet
          exact ⟨_, tells_refusal hask hflag rfl rfl rfl⟩
      | false =>
          refine ⟨_, tells_answer hseq _ rfl rfl rfl (.inr ⟨ev, rfl⟩) fun kh => ?_⟩
          -- an answer without conditions asks for no notification here
          by_cases hzero : ev = 0
          · have hflag : parm.flags &&& Request.Poll.FLAG_SCHEDULE_NOTIFY = 0 := by
              by_contra hflag
              rw [PollNotify.registers_iff.2 ⟨rfl, hev.1 hzero, hflag⟩] at hregisters
              cases hregisters
            simp only [refuses, hask, Option.any_some, hflag, bne_self_eq_false, Bool.and_false]
          · rw [refuses, beq_false_of_ne hzero, Bool.false_and]

/-- **What the server says of its own accord**: nothing, or a wake-up. -/
theorem own_tells {l : NotifyLabel} (hown : ownServer l = true) (h : s.step l = some t) :
    ∃ ms, Tells asked s t ms := by
  cases l with
  | request => cases hown
  | change ready mark =>
      obtain rfl := Option.some.inj h
      exact ⟨[], tells_nothing rfl rfl⟩
  | add mark =>
      simp only [PollNotify.step, Option.ite_none_left_eq_some, Option.some.injEq] at h
      obtain ⟨-, rfl⟩ := h
      exact ⟨[], tells_nothing rfl rfl⟩
  | wait ev =>
      simp only [PollNotify.step, Option.ite_none_right_eq_some, Option.some.injEq] at h
      obtain ⟨-, rfl⟩ := h
      exact ⟨[], tells_nothing rfl rfl⟩
  | signal khs =>
      simp only [PollNotify.step] at h
      split at h
      · rw [Option.ite_none_right_eq_some] at h
        obtain rfl := Option.some.inj h.2
        refine ⟨[.pollWakeup khs], rfl, Nat.le_refl 1, ?_, fun kh => ?_, fun kh => rfl⟩
        · intro seq ev hm
          cases List.mem_singleton.1 hm
        · exact PollNotify.lookup_signal s.inner khs kh
      · cases h

end Tells

/-! ## The invariant -/

/-- The invariant of the dialogue. -/
structure Inv (c : Polling) : Prop where
  server : PollNotify.system.Reachable always c.server
  nodup : (c.asked.map Prod.fst).Nodup
  requests : ∀ x ∈ c.requests, x ∈ c.asked
  /-- Messages arrive in the order in which they were sent. -/
  order : c.delivered ++ c.responses = c.server.inner.sent
  known : Known c.asked c.server.inner.sent
  /-- The table of the server is what its messages say. -/
  standing : ∀ kh, c.server.inner.khs.lookup kh =
    c.server.inner.sent.foldl (standing c.asked kh) none
  refused : ∀ kh, c.server.notReady.count kh = c.server.inner.sent.countP (refuses c.asked kh)
  /-- Up to every message, a handle has been woken at most as often as refused. -/
  paid : ∀ n kh, ((c.server.inner.sent.take n).flatMap wakes).count kh ≤
    (c.server.inner.sent.take n).countP (refuses c.asked kh)

theorem inv_start (ready : PollFlags) : (start ready).Inv where
  server := .of_init ⟨ready, rfl⟩
  nodup := List.nodup_nil
  requests x hx := by cases hx
  order := rfl
  known seq ev hm := by cases hm
  standing _ := rfl
  refused _ := rfl
  paid n kh := by
    show ((([] : List Response.Reply).take n).flatMap wakes).count kh ≤ _
    rw [List.take_nil]
    exact Nat.zero_le _

/-- A step of the server that says something. -/
theorem Inv.stepServer {c c' : Polling} {l : NotifyLabel} (h : c.Inv)
    (hstep : c.stepServer l = some c')
    (htells : ∀ t, c.server.step l = some t → ∃ ms, Tells c.asked c.server t ms) : c'.Inv := by
  obtain ⟨t, ht, rfl⟩ := Option.map_eq_some_iff.1 hstep
  obtain ⟨ms, hms⟩ := htells t ht
  have hreach : PollNotify.system.Reachable always t := h.server.next trivial ht
  have hrefused : ∀ kh, t.notReady.count kh = t.inner.sent.countP (refuses c.asked kh) := by
    intro kh
    rw [hms.refused, hms.sent, List.countP_append, h.refused]
  refine ⟨hreach, h.nodup, h.requests, ?_, ?_, fun kh => ?_, hrefused, fun n kh => ?_⟩
  · show c.delivered ++ (c.responses ++ t.inner.sent.drop c.server.inner.sent.length) = t.inner.sent
    rw [hms.sent, List.drop_left, ← List.append_assoc, h.order]
  · intro seq ev hm
    replace hm : .poll seq ev ∈ t.inner.sent := hm
    rw [hms.sent, List.mem_append] at hm
    exact hm.elim (h.known seq ev) (hms.known seq ev)
  · show t.inner.khs.lookup kh = t.inner.sent.foldl _ none
    rw [hms.standing, hms.sent, List.foldl_append, h.standing]
  · show ((t.inner.sent.take n).flatMap wakes).count kh ≤ (t.inner.sent.take n).countP _
    rcases Nat.lt_or_ge c.server.inner.sent.length n with hlt | hle
    · -- all messages: the books of one-shot notification
      have hall : t.inner.sent.take n = t.inner.sent := by
        apply List.take_of_length_le
        rw [hms.sent, List.length_append]
        have := hms.short
        omega
      rw [hall, ← woken_eq, ← hrefused]
      exact Nat.le_trans (Nat.le_add_right _ _) ((PollNotify.reachable_sound hreach).paid kh)
    · rw [hms.sent, List.take_append_of_le_length hle]
      exact h.paid n kh

theorem Inv.ask {c : Polling} (h : c.Inv) {seq : Sequence} (hseq : seq ∉ c.asked.map Prod.fst)
    (parm : PollParams) :
    { c with requests := c.requests ++ [(seq, parm)], asked := c.asked ++ [(seq, parm)] }.Inv := by
  have htake : ∀ n, Known c.asked (c.server.inner.sent.take n) :=
    fun n seq ev hm => h.known seq ev (List.mem_of_mem_take hm)
  refine ⟨h.server, ?_, ?_, h.order, ?_, fun kh => ?_, fun kh => ?_, fun n kh => ?_⟩
  · show ((c.asked ++ [(seq, parm)]).map Prod.fst).Nodup
    rw [List.map_append, List.nodup_append]
    refine ⟨h.nodup, List.nodup_singleton seq, ?_⟩
    rintro k hk k' hk' rfl
    rw [List.mem_singleton.1 hk'] at hk
    exact hseq hk
  · intro x hx
    rw [List.mem_append] at hx ⊢
    exact hx.imp (h.requests x) id
  · intro seq' ev hm
    rw [List.map_append]
    exact List.mem_append_left _ (h.known seq' ev hm)
  · rw [h.known.foldl_append]
    exact h.standing kh
  · rw [h.known.countP_append]
    exact h.refused kh
  · rw [(htake n).countP_append]
    exact h.paid n kh

theorem Inv.step {e e' : Endian} {c c' : Polling} {l : PollingLabel} (h : c.Inv)
    (hok : Distinct c l) (hstep : c.step e e' l = some c') : c'.Inv := by
  cases l with
  | ask seq parm =>
      obtain rfl := Option.some.inj hstep
      exact h.ask hok parm
  | serve failure =>
      simp only [Polling.step] at hstep
      split at hstep
      · next seq parm rest hrequests =>
        have hmem : (seq, parm) ∈ c.asked := h.requests _ (hrequests ▸ List.mem_cons_self)
        have hrest : { c with requests := rest }.Inv :=
          { h with requests := fun x hx => h.requests x (hrequests ▸ List.mem_cons_of_mem _ hx) }
        -- the server reads the native values that the client has sent
        simp only [Request.Call.received, Be.asNative_fromNative byteWidth_64,
          Be.asNative_fromNative byteWidth_32] at hstep
        refine hrest.stepServer hstep fun t ht => ?_
        exact request_tells (lookup_of_mem h.nodup hmem) (List.mem_map.2 ⟨_, hmem, rfl⟩) ht
      · cases hstep
  | server l =>
      rw [Polling.step, Option.ite_none_right_eq_some] at hstep
      exact h.stepServer hstep.2 fun t ht => own_tells hstep.1 ht
  | deliver =>
      simp only [Polling.step] at hstep
      split at hstep
      · next m rest hresponses =>
        rw [Option.ite_none_right_eq_some] at hstep
        obtain rfl := Option.some.inj hstep.2
        refine { h with order := ?_ }
        rw [List.append_assoc, List.singleton_append, ← hresponses]
        exact h.order
      · cases hstep

theorem reachable_inv {e e' : Endian} {c : Polling} (h : (system e e').Reachable Distinct c) :
    c.Inv := by
  refine h.invariant (P := Inv) ?_ fun c l c' hc hok hstep => Inv.step (e := e) hc hok hstep
  rintro c ⟨ready, rfl⟩
  exact inv_start ready

theorem notifyPoll_injective (e : Endian) : Function.Injective (notifyPoll e) := by
  intro kh kh' h
  have hbytes : (IoctlFfi.u64 e).bytes kh = (IoctlFfi.u64 e).bytes kh' := congrArg FuseReply.data h
  rw [← (IoctlFfi.u64 e).parse_bytes kh, hbytes, (IoctlFfi.u64 e).parse_bytes]

theorem flatMap_notifications (e e' : Endian) (ms : List Response.Reply) :
    ms.flatMap (notifications e e') = (ms.flatMap wakes).map (notifyPoll e) := by
  rw [List.map_flatMap]
  exact List.flatMap_congr fun m _ => notifications_eq e e' m

/-- **Notifications follow refusals.** In every run of the dialogue, on hosts of any byte order: the
notifications that the client has sent to the kernel, followed by those that messages on the way will
cause, are those for the handles that the server has woken, in order. At every moment of the run, after
each message that the client has received, a handle has been notified at most as often as a poll request
that asked for its notification has been answered not-ready; so no notification comes before the answer
to its poll request, none is invented and none comes twice. -/
theorem notified_after_refusal (e e' : Endian) (c : Polling)
    (h : (system e e').Reachable Distinct c) :
    c.delivered.flatMap (notifications e e') ++ c.responses.flatMap (notifications e e') =
        c.server.inner.woken.map (notifyPoll e) ∧
      ∀ n kh, ((c.delivered.take n).flatMap (notifications e e')).count (notifyPoll e kh) ≤
        (c.delivered.take n).countP (refuses c.asked kh) := by
  have hinv := reachable_inv h
  constructor
  · rw [← List.flatMap_append, hinv.order, flatMap_notifications, woken_eq]
  · intro n kh
    rw [flatMap_notifications, List.count_map_of_injective _ _ (notifyPoll_injective e)]
    -- what has been delivered is a beginning of what has been sent
    have htake : c.delivered.take n = c.server.inner.sent.take (min n c.delivered.length) := by
      rw [← hinv.order, List.take_append_of_le_length (Nat.min_le_right _ _), List.take_eq_take_min]
    rw [htake]
    exact hinv.paid _ kh

/-- A handle that is refused and then notified. -/
theorem notified_after_refusal_readable :
    ∃ c : Polling, (system .little .big).Reachable Distinct c ∧
      c.delivered = [.poll ⟨1, by decide⟩ 0, .pollWakeup [5]] ∧
      (c.delivered.flatMap (notifications .little .big)).count (notifyPoll .little 5) ≤
        c.delivered.countP (refuses c.asked 5) := by
  have hrun : ∃ c, (system .little .big).exec Distinct (start 0)
      [.ask ⟨1, by decide⟩ ⟨5, 1, 1⟩, .serve none, .server (.add false), .deliver,
        .server (.change PollFlags.POLLIN false), .server (.wait EPOLLIN), .server (.signal [5]),
        .deliver] = some c ∧
      c.delivered = [.poll ⟨1, by decide⟩ 0, .pollWakeup [5]] := ⟨_, rfl, rfl⟩
  obtain ⟨c, hexec, hdelivered⟩ := hrun
  have hreach := System.reachable_of_exec
    (show (system .little .big).init (start 0) from ⟨0, rfl⟩) hexec
  refine ⟨c, hreach, hdelivered, ?_⟩
  have h := (notified_after_refusal .little .big c hreach).2 2 5
  rwa [List.take_of_length_le (by rw [hdelivered]; decide)] at h

/-- **Nobody sleeps on a ready device.** The server's table of handles is what its messages say: a
handle is registered with the conditions that the kernel will be waiting for when it has received the
messages on the way. Now let the dialogue be at rest: the client has received all messages, and the
server's event loop has looked at every event of the device. When the last the kernel has been told
about a handle is that the device is not ready for its poll request, then none of the conditions which
that request waits for, among those the epoll entry has asked for, holds now. -/
theorem no_sleeper_on_ready_device (e e' : Endian) (c : Polling)
    (h : (system e e').Reachable Distinct c) :
    (∀ kh, c.server.inner.khs.lookup kh =
      (c.delivered ++ c.responses).foldl (standing c.asked kh) none) ∧
    (c.responses = [] → c.server.added = true → c.server.pending = false → c.server.held = none →
      ∀ kh mask, c.delivered.foldl (standing c.asked kh) none = some mask →
        c.server.ready.setWidth 32 &&& (mask &&& (EPOLLIN ||| EPOLLOUT ||| EPOLLPRI)) = 0) := by
  have hinv := reachable_inv h
  have horder := hinv.order
  refine ⟨fun kh => by rw [hinv.standing, horder], ?_⟩
  intro hresponses hadded hpending hheld kh mask htold
  rw [hresponses, List.append_nil] at horder
  -- the table of the server is what the kernel has been told
  have hlookup : c.server.inner.khs.lookup kh = some mask := by
    rw [hinv.standing, ← horder, htold]
  have hmask : (PollNotify.abs c.server).mask kh = some (flags mask) := by
    show (c.server.inner.khs.lookup kh).map flags = _
    rw [hlookup]
    rfl
  by_contra hne
  have hcond : (flags c.server.ready ∩ (flags mask ∩ flags interest)).Nonempty := by
    rw [← flags_setWidth (show 16 ≤ 32 by decide) c.server.ready, ← flags_and,
      flags_and_nonempty_iff]
    exact hne
  rcases (PollNotify.reachable_sound hinv.server).kept kh _ hmask hcond with
    (hnot | hmarked) | ⟨ev, hev, -⟩
  · rw [hadded] at hnot
    cases hnot
  · rw [hpending] at hmarked
    cases hmarked
  · rw [PollNotify.abs, hheld] at hev
    cases hev

/-- A handle waits for input on a device that has none. -/
theorem no_sleeper_on_ready_device_input :
    ∃ c : Polling, (system .little .big).Reachable Distinct c ∧
      c.delivered.foldl (standing c.asked 5) none = some EPOLLIN ∧
      c.server.ready.setWidth 32 &&& (EPOLLIN &&& (EPOLLIN ||| EPOLLOUT ||| EPOLLPRI)) = 0 := by
  have hrun : ∃ c, (system .little .big).exec Distinct (start 0)
      [.ask ⟨1, by decide⟩ ⟨5, 1, 1⟩, .server (.add false), .serve none, .deliver,
        .server (.change PollFlags.POLLOUT false), .server (.wait EPOLLOUT), .server (.signal []),
        .deliver] = some c ∧
      c.responses = [] ∧ c.server.added = true ∧ c.server.pending = false ∧ c.server.held = none ∧
      c.delivered.foldl (standing c.asked 5) none = some EPOLLIN :=
    ⟨_, rfl, rfl, rfl, rfl, rfl, rfl⟩
  obtain ⟨c, hexec, hresponses, hadded, hpending, hheld, htold⟩ := hrun
  have hreach := System.reachable_of_exec
    (show (system .little .big).init (start 0) from ⟨0, rfl⟩) hexec
  exact ⟨c, hreach, htold, (no_sleeper_on_ready_device .little .big c hreach).2 hresponses hadded
    hpending hheld 5 EPOLLIN htold⟩

end Polling

end Cuse2Net.Relay

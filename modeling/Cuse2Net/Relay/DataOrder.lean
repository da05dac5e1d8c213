import Cuse2Net.Relay.KernelReplies
import Mathlib.Data.List.Flatten

/-!
# The data of reads and writes

A relayed terminal is useful only when it is transparent to the bytes: what the kernel writes must get
to the device once and in order, and what the device delivers must get to the readers once and in
order.

In the direction of the device, the writes that the server has made, followed by those on the way, are
the writes of the kernel (`writes_in_order`). In the other direction the bytes pass through more hands:
the reader has read them, the response is on the way, the receiver has it, the kernel has it. For
readers that block, these places hold the bytes that the device has delivered, in the order of delivery,
and all of them when the server's sends succeed (`reads_in_order`). The reader only logs a send that
fails, and its data is gone. A read that does not block is made by the main thread and can overtake
data that the reader has in its hands, so it is excluded.
-/

set_option autoImplicit false

namespace Cuse2Net.Realdev

open Cuse2Net.Lib
open Cuse2Net.Lib.Bytes
open Cuse2Net.Proto

/-! ## The reader -/

/-- The data in a response to a read. -/
def dataOf (m : Response.Reply) : List UInt8 :=
  match m with
  | .read _ data => data
  | _ => []

/-- The data that the reader has read and not sent. -/
def ReaderPc.data : ReaderPc → List UInt8
  | .sending _ buf => buf
  | _ => []

/-- The data that a step reads from the device. -/
def ReadLabel.data : ReadLabel → List UInt8
  | .read (.data buf) => buf
  | _ => []

namespace ReadState

theorem dataOf_interrupts (xs : List ReadRequest) :
    (xs.map fun x => (.err x.1 .EINTR : Response.Reply)).flatMap dataOf = [] := by
  rw [List.flatMap_map, List.flatMap_eq_nil_iff]
  intro x _
  rfl

theorem data_afterHandle (req : Option ReadRequest) : (ReaderPc.afterHandle req).data = [] := by
  cases req <;> rfl

theorem data_afterPoll (req : Option ReadRequest) (rc : PollResult) :
    (afterPoll req rc).data = [] := by
  cases rc with
  | error e => cases req <;> rfl
  | ready sync =>
      cases sync with
      | true => rfl
      | false => exact data_afterHandle req

theorem data_afterRead {req : ReadRequest} {res : ReadResult}
    (hdoc : ∀ buf, res = .data buf → buf.length ≤ min req.2 BUF_SZ) :
    (afterRead req res).data = (ReadLabel.read res).data := by
  cases res with
  | data buf =>
      rw [afterRead, if_pos (hdoc buf rfl)]
      rfl
  | error e =>
      rw [afterRead]
      split <;> rfl

/-- **The reader passes on what it reads**, unless its send is cut short. -/
theorem step_data {s t : ReadState} {l : ReadLabel} (hkeys : (s.inner.queue.map Prod.fst).Nodup)
    (hcut : l ≠ .send .incomplete) (hdoc : ∀ buf req, l = .read (.data buf) → s.reader = .reading req →
      buf.length ≤ min req.2 BUF_SZ) (h : step s l = some t) :
    ∃ new, t.inner.sent = s.inner.sent ++ new ∧
      new.flatMap dataOf ++ t.reader.data = s.reader.data ++ l.data := by
  have hquiet : ∀ {inner : ReadInner} {pc : ReaderPc}, inner.sent = s.inner.sent →
      pc.data = s.reader.data ++ l.data →
        ∃ new, inner.sent = s.inner.sent ++ new ∧ new.flatMap dataOf ++ pc.data =
          s.reader.data ++ l.data := by
    intro inner pc hsent hdata
    exact ⟨[], by rw [hsent, List.append_nil], hdata⟩
  cases hl : l.byReader with
  | true =>
      obtain ⟨inner, pc, hmove, rfl⟩ := reader_move hl h
      cases hmove with
      | check hr =>
          refine hquiet rfl ?_
          rw [hr]
          cases s.inner.fdTx <;> rfl
      | nextNone hr | nextSome req ops hr | consume got n hr | register req hr | registerFails req hr
      | poll rc hr | reschedule req hr =>
          refine hquiet rfl ?_
          rw [hr]
          rfl
      | consumeAfter got n req hr =>
          refine hquiet rfl ?_
          rw [hr, data_afterHandle]
          rfl
      | take rc hr =>
          refine hquiet rfl ?_
          rw [hr, data_afterPoll]
          rfl
      | read req res hr =>
          refine hquiet rfl ?_
          rw [hr]
          refine data_afterRead fun buf hres => ?_
          exact hdoc buf req (by rw [hres]) hr
      | sendPanics => exact absurd rfl hcut
      | send req buf out hr =>
          refine ⟨[.read req.1 buf], rfl, ?_⟩
          rw [hr, List.flatMap_singleton]
          rfl
      | fail req e out hr =>
          refine ⟨[.err req.1 e], rfl, ?_⟩
          rw [hr]
          rfl
  | false =>
      cases l with
      | push req written =>
          simp only [step, Option.ite_none_right_eq_some, Option.some.injEq] at h
          obtain ⟨-, rfl⟩ := h
          exact hquiet (ReadInner.sendSync_sent _ _) (List.append_nil _).symm
      | intr seq written =>
          simp only [step, Option.ite_none_right_eq_some, Option.some.injEq] at h
          obtain ⟨-, rfl⟩ := h
          obtain ⟨xs, hint, -⟩ := s.inner.doIntr_interrupts seq written hkeys
          refine ⟨_, hint.sent, ?_⟩
          rw [dataOf_interrupts]
          exact (List.append_nil _).symm
      | close =>
          simp only [step, Option.ite_none_right_eq_some, Option.some.injEq] at h
          obtain ⟨-, rfl⟩ := h
          obtain ⟨xs, hint⟩ := s.inner.closeInternal_interrupts hkeys
          refine ⟨_, hint.sent, ?_⟩
          rw [dataOf_interrupts]
          exact (List.append_nil _).symm
      | _ => cases hl

end ReadState

end Cuse2Net.Realdev

namespace Cuse2Net.Relay

open Cuse2Net.Lib
open Cuse2Net.Lib.Bytes
open Cuse2Net.Proto
open Cuse2Net.Realdev
open Cuse2Net.Virtdev

/-! ## The server -/

/-- The data of a read of the device. -/
def DeviceEvent.data : DeviceEvent → List UInt8
  | .read data => data
  | .wrote _ _ => []

section Server

variable {e : Endian} {s t : Server} {l : ServerLabel}

/-- A response to another request than a read has no data. -/
theorem dataOf_responds {req : Proto.Request} {m : Response.Reply} (h : Responds e req m)
    (hreq : ∀ seq info, req ≠ .read seq info) : dataOf m = [] := by
  cases h with
  | read seq info => exact absurd rfl (hreq seq info)
  | _ => rfl

/-- A read that blocks goes to the queue. -/
theorem blocking_pushed {seq : Sequence} {info : Proto.Request.Read} {env : Surroundings}
    (hblock : info.fhFlags.isNonblock e = false)
    (h : s.step e (.request (.read seq info) env) = some t) :
    ∃ r, s.session.read.step (.push (seq, (info.size.asNative e).toNat) env.written) = some r ∧
      t = { s with session := { s.session with read := r } } := by
  rw [Server.step, Option.ite_none_right_eq_some] at h
  have hdispatch := h.2
  simp only [Server.dispatch, hblock, Bool.false_eq_true, if_false] at hdispatch
  exact Server.inSession_read hdispatch

/-- The responses of a step that leaves the read queue alone. -/
theorem server_data_of_main (main poll : List Response.Reply) (hmain : t.sent = s.sent ++ main)
    (hread : t.session.read = s.session.read) (hpoll : t.poll.sent = s.poll.sent ++ poll)
    (hdata : main.flatMap dataOf = [] ∧ poll.flatMap dataOf = [])
    (hdevice : (onDevice e l).flatMap DeviceEvent.data = []) :
    (Server.fresh s t).flatMap dataOf ++ t.session.read.reader.data =
      s.session.read.reader.data ++ (onDevice e l).flatMap DeviceEvent.data := by
  have hfresh := (Server.fresh_eq main [] poll hmain (by rw [hread, List.append_nil]) hpoll).1
  rw [hfresh, hdevice, hread, List.nil_append, List.flatMap_append, hdata.1, hdata.2, List.append_nil]
  exact (List.append_nil _).symm

/-- The responses of a step of the read queue. -/
theorem server_data_of_read {r : ReadState} {l' : ReadLabel}
    (hkeys : (s.session.read.inner.queue.map Prod.fst).Nodup) (hcut : l' ≠ .send .incomplete)
    (hdoc : ∀ buf req, l' = .read (.data buf) → s.session.read.reader = .reading req →
      buf.length ≤ min req.2 Realdev.BUF_SZ)
    (hstep : s.session.read.step l' = some r)
    (hdevice : (onDevice e l).flatMap DeviceEvent.data = l'.data) :
    (Server.fresh s { s with session := { s.session with read := r } }).flatMap dataOf ++
        r.reader.data =
      s.session.read.reader.data ++ (onDevice e l).flatMap DeviceEvent.data := by
  obtain ⟨new, hsent, hdata⟩ := ReadState.step_data hkeys hcut hdoc hstep
  have hfresh : Server.fresh s { s with session := { s.session with read := r } } =
      [] ++ (new ++ []) := by
    refine (Server.fresh_eq [] new [] ?_ hsent ?_).1
    · exact (List.append_nil _).symm
    · exact (List.append_nil _).symm
  rw [hfresh, hdevice, List.nil_append, List.append_nil]
  exact hdata

theorem onDevice_quiet (hread : ∀ seq info env, l ≠ .request (.read seq info) env)
    (hdata : ∀ buf, l ≠ .thread (.read (.read (.data buf)))) :
    (onDevice e l).flatMap DeviceEvent.data = [] := by
  unfold onDevice
  split
  · rfl
  · next seq info env => exact absurd rfl (hread seq info env)
  · next buf => exact absurd rfl (hdata buf)
  · rfl

/-- **The server passes on what the device delivers to readers that block**, unless a send is cut
short. -/
theorem server_data (hnodup : s.waiting.Nodup) (hout : l.out ≠ .incomplete) (hdoc : s.Documented l)
    (hblock : ∀ seq info env, l = .request (.read seq info) env → info.fhFlags.isNonblock e = false)
    (h : s.step e l = some t) :
    (Server.fresh s t).flatMap dataOf ++ t.session.read.reader.data =
      s.session.read.reader.data ++ (onDevice e l).flatMap DeviceEvent.data := by
  have hkeys : (s.session.read.inner.queue.map Prod.fst).Nodup := by
    have hreads := Multiset.coe_nodup.1 (Multiset.nodup_add.1 hnodup).1
    exact ((List.sublist_append_right _ _).map Prod.fst).nodup hreads
  have hnil : ([] : List Response.Reply).flatMap dataOf = [] := rfl
  by_cases hread : ∃ seq info env, l = .request (.read seq info) env
  · obtain ⟨seq, info, env, rfl⟩ := hread
    have hb := hblock seq info env rfl
    obtain ⟨r, hr, rfl⟩ := blocking_pushed hb h
    refine server_data_of_read hkeys ?_ ?_ hr ?_
    · intro hl
      cases hl
    · intro buf req hl
      cases hl
    · simp only [onDevice, hb, Bool.false_eq_true, if_false]
      rfl
  have hreq : ∀ seq info env, l ≠ .request (.read seq info) env := fun seq info env hl =>
    hread ⟨seq, info, env, hl⟩
  cases Server.step_move h with
  | request req env t hmain hhandled =>
      have hother : ∀ seq info, req ≠ .read seq info := fun seq info hreq' =>
        hreq seq info env (by rw [hreq'])
      have hdevice : (onDevice e (.request req env)).flatMap DeviceEvent.data = [] :=
        onDevice_quiet hreq fun buf hl => by cases hl
      cases hhandled with
      | answered m hm =>
          refine server_data_of_main [m] [] rfl rfl (List.append_nil _).symm ⟨?_, hnil⟩ hdevice
          rw [List.flatMap_singleton]
          exact dataOf_responds hm hother
      | released seq hreq =>
          exact server_data_of_main [.ok seq] [] rfl rfl (List.append_nil _).symm ⟨rfl, hnil⟩ hdevice
      | pushed seq info r hreq' => exact absurd hreq' (hother seq info)
      | interrupted seq r hreq' hstep =>
          refine server_data_of_read hkeys ?_ ?_ hstep hdevice
          · intro hl
            cases hl
          · intro buf req hl
            cases hl
      | unsent | asked | ended | panicked =>
          exact server_data_of_main [] [] (List.append_nil _).symm rfl (List.append_nil _).symm
            ⟨hnil, hnil⟩ hdevice
  | pollAnswered res out seq parm poll hasked hpoll =>
      obtain ⟨m, hsent, hm⟩ := devicePoll_sent hpoll
      refine server_data_of_main [] [m] (List.append_nil _).symm rfl hsent ⟨hnil, ?_⟩
        (onDevice_quiet hreq fun buf hl => by cases hl)
      rw [List.flatMap_singleton]
      rcases hm with ⟨ev, rfl⟩ | ⟨rc, rfl, -⟩
      · rfl
      · rfl
  | reader l r hown hmay hstep =>
      refine server_data_of_read hkeys ?_ ?_ hstep ?_
      · rintro rfl
        exact hout rfl
      · rintro buf req rfl hr
        simp only [Server.Documented, hr] at hdoc
        exact hdoc
      · cases l with
        | read res =>
            cases res with
            | data buf => exact List.append_nil buf
            | error rc => rfl
        | _ => rfl
  | pollPanics | worker | returns | scope =>
      exact server_data_of_main [] [] (List.append_nil _).symm rfl (List.append_nil _).symm
        ⟨hnil, hnil⟩ (onDevice_quiet hreq fun buf hl => by cases hl)

end Server

/-! ## The client -/

namespace Conversation

/-- The data that the receiver has in its hands. -/
def rxData : RxPc → List UInt8
  | .removing _ (.response (.read data)) => data
  | .closing entry reply | .replying entry reply => if entry.req = .read then reply.data else []
  | _ => []

/-- The data in a reply to a read. -/
def replyData (log : List (KernelCall × Option Letter)) : Option Nat × FuseReply → List UInt8
  | (some id, reply) =>
      match log[id]? with
      | some (.read _, _) => reply.data
      | _ => []
  | (none, _) => []

/-- The data that the kernel has got for its reads. -/
def delivered (c : Conversation) : List UInt8 := c.client.replies.flatMap (replyData c.log)

/-- The data between the device and the kernel, the oldest first. -/
def underway (c : Conversation) : List UInt8 :=
  rxData c.client.rx ++ (c.responses.flatMap dataOf ++ c.server.session.read.reader.data)

section Client

variable {e e' : Endian} {c c' : Conversation}

theorem replyData_nil (log : List (KernelCall × Option Letter)) (id : Option Nat) {reply : FuseReply}
    (h : reply.data = []) : replyData log (id, reply) = [] := by
  cases id with
  | none => rfl
  | some id =>
      simp only [replyData]
      split
      · exact h
      · rfl

/-- The reply to a response has its data. -/
theorem rxData_afterRemove {entry : Entry} {ans : Answer} (seq : Sequence)
    (h : Settles e entry ans) :
    rxData (DeviceInner.afterRemove e entry ans) = rxData (.removing seq ans) := by
  obtain ⟨reply, hreply⟩ := h
  have hrx : rxData (DeviceInner.afterRemove e entry ans) =
      if entry.req = .read then reply.data else [] := by
    rcases hreply with hreply | hreply
    · rw [hreply]
      rfl
    · rw [hreply]
      rfl
  rw [hrx]
  cases ans with
  | remoteError rc =>
      rcases hreply with hreply | hreply
      · obtain ⟨-, rfl⟩ := RxPc.replying.inj hreply
        exact ite_self []
      · cases hreply
  | response resp =>
      have hrespond := reply_of_response hreply
      obtain ⟨req, info, call⟩ := entry
      cases resp with
      | err errno =>
          obtain rfl := Except.ok.inj hrespond
          exact ite_self []
      | read data =>
          cases req with
          | read =>
              obtain rfl := Except.ok.inj hrespond
              exact List.append_nil data
          | _ => cases hrespond
      | _ =>
          cases req with
          | read => cases hrespond
          | _ => rfl

/-- The table and the history agree on what a read is. -/
theorem replyData_of_entry {entry : Entry} {reply : FuseReply} {k : KernelCall} {x : Letter}
    (hlog : c.log[entry.call]? = some (k, some x)) (hpending : k.pending e = .ok x.req)
    (hreq : x.req.request = some entry.req) :
    replyData c.log (some entry.call, reply) = if entry.req = .read then reply.data else [] := by
  simp only [replyData, hlog]
  cases k with
  | ioctl cmd y buf =>
      obtain ⟨arg, -, hx⟩ := ok_of_map hpending
      rw [← hx] at hreq
      rw [← Option.some.inj hreq]
      rfl
  | _ =>
      rw [← Except.ok.inj hpending] at hreq
      rw [← Option.some.inj hreq]
      rfl

/-- **The client passes on what it has received.** -/
theorem client_data {d : DeviceInner} {l : DeviceLabel} (hinv : Inv e e' c) (hreplied : Replied e e' c)
    (hown : ownClient l = true) (hstep : c.client.step e l = some d) :
    d.replies.flatMap (replyData c.log) ++ rxData d.rx = c.delivered ++ rxData c.client.rx := by
  have hone : ∀ (id : Option Nat) (reply : FuseReply), reply.data = [] →
      (c.client.replies ++ [(id, reply)]).flatMap (replyData c.log) = c.delivered := by
    intro id reply hdata
    rw [List.flatMap_append, List.flatMap_singleton, replyData_nil _ _ hdata, List.append_nil]
    rfl
  cases DeviceInner.step_move hstep with
  | callSent | callFails | recv => cases hown
  | refuse id info hcall =>
      show (c.client.replies ++ [_]).flatMap _ ++ _ = _
      rw [hone _ _ rfl]
      rfl
  | draw | interrupts => rfl
  | refuseInterrupt id is reply =>
      show (c.client.replies ++ [_]).flatMap _ ++ rxData c.client.rx = _
      rw [List.flatMap_append, List.flatMap_singleton]
      show _ ++ [] ++ _ = _
      rw [List.append_nil]
      rfl
  | check hrx =>
      show c.delivered ++ _ = _
      rw [hrx]
      cases c.client.state.closed <;> rfl
  | removeFound seq ans entry hrx hlookup =>
      obtain ⟨found, hfound, hsettles⟩ := hinv.settles_removing hrx
      obtain rfl : entry = found := Option.some.inj (hlookup.symm.trans hfound)
      show c.delivered ++ rxData (DeviceInner.afterRemove e entry ans) = _
      rw [rxData_afterRemove seq hsettles, hrx]
  | removeMissing seq ans hrx hlookup =>
      obtain ⟨found, hfound, -⟩ := hinv.settles_removing hrx
      cases hlookup.symm.trans hfound
  | close entry reply hrx =>
      show c.delivered ++ rxData (.replying entry reply) = _
      rw [hrx]
      rfl
  | reply entry reply hrx =>
      obtain ⟨k, x, hlog, hreq, -⟩ := hreplied.held entry reply (.inr hrx)
      have hpending := (hinv.log k x (List.mem_of_getElem? hlog)).1
      show (c.client.replies ++ [_]).flatMap _ ++ [] = _
      rw [List.append_nil, List.flatMap_append, List.flatMap_singleton,
        replyData_of_entry hlog hpending hreq, hrx]
      rfl
  | shutdown hrx =>
      show c.delivered ++ _ = _
      rw [hrx]
      rfl
  | sweep order hrx hperm =>
      show (c.client.replies ++ _).flatMap _ ++ [] = _
      have hnone : (order.map fun entry : Entry =>
          (some entry.call, entry.info.sendError .EINTR)).flatMap (replyData c.log) = [] := by
        rw [List.flatMap_map, List.flatMap_eq_nil_iff]
        intro entry _
        exact replyData_nil _ _ rfl
      rw [List.append_nil, List.flatMap_append, hnone, List.append_nil, hrx]
      exact (List.append_nil _).symm

/-- A call does not change what the earlier replies were. -/
theorem delivered_append (hreplied : Replied e e' c) (new : List (KernelCall × Option Letter)) :
    c.client.replies.flatMap (replyData (c.log ++ new)) = c.delivered := by
  refine List.flatMap_congr ?_
  rintro ⟨id, reply⟩ hmem
  cases id with
  | none => rfl
  | some id =>
      obtain ⟨p, hp, -⟩ := hreplied.replies id reply hmem
      simp only [replyData, log_append hp, hp]

/-- The data of a response that arrives. -/
theorem rxData_received {m : Response.Reply}
    {res : Except Proto.Error (Option Sequence × Response)} (h : arrived e e' m = some res) :
    rxData (DeviceInner.received res) = dataOf m := by
  unfold arrived at h
  cases m with
  | pollWakeup khs =>
      match khs with
      | [] => cases h
      | [kh] =>
          obtain rfl := Option.some.inj h
          rfl
      | _ :: _ :: _ =>
          obtain rfl := Option.some.inj h
          rfl
  | _ =>
      obtain rfl := Option.some.inj h
      rfl

end Client

/-! ## Writes -/

/-- The write that a request of the kernel asks for. -/
def kernelWrite : KernelCall → List (BitVec 64 × List UInt8)
  | .write wrinfo data => [(wrinfo.offset, data)]
  | _ => []

/-- The write that a letter asks for. -/
def letterWrite (x : Letter) : List (BitVec 64 × List UInt8) :=
  match x.req with
  | .write wrinfo data => [(wrinfo.offset, data)]
  | _ => []

/-- The write that was made on the device. -/
def deviceWrite : DeviceEvent → List (BitVec 64 × List UInt8)
  | .wrote offset data => [(offset, data)]
  | .read _ => []

/-- The writes of the kernel whose message has been sent. -/
def sentWrite (p : KernelCall × Option Letter) : List (BitVec 64 × List UInt8) :=
  if p.2.isSome then kernelWrite p.1 else []

section Writes

variable {e e' : Endian} {c c' : Conversation} {l : ConversationLabel}

theorem letterWrite_eq {k : KernelCall} {x : Letter} (h : k.pending e = .ok x.req) :
    letterWrite x = kernelWrite k := by
  unfold letterWrite
  cases k with
  | ioctl cmd y buf =>
      obtain ⟨arg, -, hx⟩ := ok_of_map h
      rw [← hx]
      rfl
  | _ =>
      rw [← Except.ok.inj h]
      rfl

/-- The server writes what the letter says. -/
theorem deviceWrite_received (e e' : Endian) (x : Letter) (env : Surroundings) :
    (onDevice e' (.request (x.received e e') env)).flatMap deviceWrite = letterWrite x := by
  obtain ⟨n, req, bytes⟩ := x
  cases req with
  | write wrinfo data =>
      have hoffset : (Be.fromNative e' wrinfo.offset).asNative e' = wrinfo.offset :=
        Be.asNative_fromNative byteWidth_64 e' _
      show [((Be.fromNative e' wrinfo.offset).asNative e', data)] = _
      rw [hoffset]
      rfl
  | read rdinfo =>
      show (if _ then _ else _ : List DeviceEvent).flatMap deviceWrite = []
      split
      · split
        · rfl
        · rfl
      · rfl
  | _ => rfl

theorem deviceWrite_own {l : ServerLabel} (hown : ownServer l = true) :
    (onDevice e' l).flatMap deviceWrite = [] := by
  unfold onDevice
  split
  · cases hown
  · cases hown
  · rfl
  · rfl

/-- What a call posts is what the history gains. -/
theorem posted_writes {k : KernelCall} {req : Pending} {info : OpInInfo} {out : SendOutcome}
    (hpending : k.pending e = .ok req) :
    (posted e c.client (.call req info out)).flatMap letterWrite =
      [(k, (posted e c.client (.call req info out)).head?)].flatMap sentWrite := by
  rw [List.flatMap_singleton]
  cases hposted : posted e c.client (.call req info out) with
  | nil => rfl
  | cons x xs =>
      have hx : x ∈ posted e c.client (.call req info out) := by rw [hposted]; exact List.mem_cons_self
      have hxs : xs = [] := by
        cases out with
        | sent =>
            simp only [posted] at hposted
            split at hposted
            · exact (List.cons.inj hposted).2.symm
            · cases hposted
        | failed | incomplete => cases hposted
      subst hxs
      rw [← posted_req hx] at hpending
      rw [List.flatMap_singleton, letterWrite_eq hpending]
      rfl

/-- A step of the client sends the writes that it notes. -/
theorem writes_client {new : List (KernelCall × Option Letter)} {l : DeviceLabel}
    (h : c.device.flatMap deviceWrite ++ c.requests.flatMap letterWrite = c.log.flatMap sentWrite)
    (hnew : (posted e c.client l).flatMap letterWrite = new.flatMap sentWrite)
    (hstep : c.stepClient e new l = some c') :
    c'.device.flatMap deviceWrite ++ c'.requests.flatMap letterWrite = c'.log.flatMap sentWrite := by
  obtain ⟨d, -, rfl⟩ := Option.map_eq_some_iff.1 hstep
  show c.device.flatMap deviceWrite ++ (c.requests ++ posted e c.client l).flatMap letterWrite =
    (c.log ++ new).flatMap sentWrite
  rw [List.flatMap_append, List.flatMap_append, ← List.append_assoc, h, hnew]

end Writes

/-- **The device gets the writes of the kernel in order, each once.** In every state that client and
server can reach together, the writes that were made on the device, followed by those on the way, are
the writes that the kernel has asked for and the client could send: same offset, same data, same
order. -/
theorem writes_in_order (e e' : Endian) (c : Conversation)
    (h : (system e e').Reachable Assumed c) :
    c.device.flatMap deviceWrite ++ c.requests.flatMap letterWrite = c.log.flatMap sentWrite := by
  refine h.invariant (P := fun c => c.device.flatMap deviceWrite ++
    c.requests.flatMap letterWrite = c.log.flatMap sentWrite) ?_ ?_
  · rintro c ⟨drawn, -, rfl⟩
    rfl
  · intro c l c' hwrites _ hstep
    cases step_move hstep with
    | call k req info out c' hpending hstep =>
        exact writes_client hwrites (posted_writes hpending) hstep
    | client l c' hown hstep =>
        refine writes_client hwrites ?_ hstep
        have hcall : ∀ req info out, l ≠ .call req info out := by
          rintro req info out rfl
          cases hown
        rcases posted_cases (e := e) (d := c.client) hcall with hnil | ⟨seq, hone⟩
        · rw [hnil]
          rfl
        · rw [hone]
          rfl
    | deliver m rest res c' hresponses harrived hstep =>
        exact writes_client (c := { c with responses := rest }) hwrites rfl hstep
    | fault errno c' hstep => exact writes_client hwrites rfl hstep
    | serve x rest env c' hrequests haccepted hstep =>
        obtain ⟨s, -, rfl⟩ := Option.map_eq_some_iff.1 hstep
        rw [← hwrites, hrequests, List.flatMap_cons, ← deviceWrite_received e e' x env,
          ← List.append_assoc, ← List.flatMap_append]
    | server l c' hown hstep =>
        obtain ⟨s, -, rfl⟩ := Option.map_eq_some_iff.1 hstep
        show (c.device ++ onDevice e' l).flatMap deviceWrite ++ _ = _
        rw [List.flatMap_append, deviceWrite_own hown, List.append_nil]
        exact hwrites

/-- Of two writes the first one has been made. -/
theorem writes_in_order_two :
    ∃ c, (system .little .big).Reachable Assumed c ∧
      c.device.flatMap deviceWrite = [(0, [1])] ∧ c.requests.flatMap letterWrite = [(0, [2])] ∧
        c.log.flatMap sentWrite = [(0, [1]), (0, [2])] := by
  have h₀ : (system .little .big).Reachable Assumed (start 0) := .of_init ⟨0, by decide, rfl⟩
  have h₁ := h₀.next (l := ConversationLabel.call (.write ⟨0, ⟨0⟩⟩ [1]) ⟨7⟩ .sent)
    ⟨by decide, nofun, nofun⟩ rfl
  have h₂ := h₁.next (l := ConversationLabel.call (.write ⟨0, ⟨0⟩⟩ [2]) ⟨8⟩ .sent)
    ⟨by decide, nofun, nofun⟩ rfl
  have h₃ := h₂.next (l := ConversationLabel.serve Server.idle) ⟨numbered_idle, nofun⟩ rfl
  exact ⟨_, h₃, rfl, rfl, (writes_in_order .little .big _ h₃).symm⟩

/-! ## Reads -/

/-- The reads of the kernel block. -/
def ReadsBlock (c : Conversation) : Prop :=
  ∀ rdinfo x, (.read rdinfo, some x) ∈ c.log → rdinfo.flags.intersects .NONBLOCK = false

/-- The data that the kernel has got or may still get. -/
def passed (c : Conversation) : List UInt8 := c.delivered ++ c.underway

/-- What a step does to the data. The device delivers `new` bytes, and none is lost when the server's
sends succeed. -/
def Passes (c : Conversation) (l : ConversationLabel) (c' : Conversation) : Prop :=
  ∃ new, c'.device.flatMap DeviceEvent.data = c.device.flatMap DeviceEvent.data ++ new ∧
    c'.passed.Sublist (c.passed ++ new) ∧ (Sent l → c'.passed = c.passed ++ new)

section Reads

variable {e e' : Endian} {c c' : Conversation} {l : ConversationLabel}

theorem isNonblock_fromCuse (e : Endian) (flags : FuseFhFlags) :
    (FhFlags.fromCuse e flags).isNonblock e = flags.intersects .NONBLOCK := by
  rw [FhFlags.fromCuse_eq]
  unfold FhFlags.nativeBits
  cases flags.intersects .NONBLOCK <;> cases flags.isRdonly || flags.isRdwr <;>
    cases flags.isWronly || flags.isRdwr <;> cases e <;> rfl

/-- A step that moves data and loses none. -/
theorem passes_of_eq (hdevice : c'.device = c.device) (hpassed : c'.passed = c.passed) :
    c.Passes l c' := by
  refine ⟨[], by rw [hdevice, List.append_nil], ?_, fun _ => by rw [hpassed, List.append_nil]⟩
  rw [hpassed, List.append_nil]

/-- A read that the server receives blocks. -/
theorem ReadsBlock.not_nonblock (h : c.ReadsBlock) (hinv : Inv e e' c) {x : Letter}
    (hx : x ∈ c.requests) {seq : Sequence} {info : Proto.Request.Read}
    (hreceived : x.received e e' = .read seq info) : info.fhFlags.isNonblock e' = false := by
  obtain ⟨hsealed, hposted⟩ := hinv.letters x hx
  obtain ⟨k, hk⟩ := hposted (x.owed_of_received (e := e) (d := e') (by rw [hreceived]; rfl))
  have hpending := (hinv.log k x hk).1
  obtain ⟨n, req, bytes⟩ := x
  cases req with
  | read rdinfo =>
      obtain ⟨-, rfl⟩ := Proto.Request.read.inj hreceived
      rw [isNonblock_fromCuse]
      cases k with
      | read rdinfo' =>
          obtain rfl := Pending.read.inj (Except.ok.inj hpending)
          exact h rdinfo' _ hk
      | ioctl cmd y buf =>
          obtain ⟨arg, -, hx⟩ := ok_of_map hpending
          cases hx
      | _ => cases hpending
  | _ => cases hreceived

/-- What a step of the server moves. -/
theorem Inv.serves_data {l : ServerLabel} (rest : List Letter) (hinv : Inv e e' c)
    (hout : l.out ≠ .incomplete) (hdoc : c.server.Documented l)
    (hblock : ∀ seq info env, l = .request (.read seq info) env → info.fhFlags.isNonblock e' = false)
    (hstep : { c with requests := rest }.stepServer e' l = some c') :
    ∃ new, c'.device.flatMap DeviceEvent.data = c.device.flatMap DeviceEvent.data ++ new ∧
      c'.passed.Sublist (c.passed ++ new) ∧ (l.out = .sent → c'.passed = c.passed ++ new) := by
  obtain ⟨s, hs, rfl⟩ := Option.map_eq_some_iff.1 hstep
  have hdata := server_data hinv.waiting_nodup hout hdoc hblock hs
  -- what would be underway if every response of the step were sent
  have hall : c.passed ++ (onDevice e' l).flatMap DeviceEvent.data =
      c.delivered ++ (rxData c.client.rx ++ (c.responses.flatMap dataOf ++
        ((Server.fresh c.server s).flatMap dataOf ++ s.session.read.reader.data))) := by
    rw [hdata, passed, underway]
    simp only [List.append_assoc]
  have hafter : passed { c with
        server := s
        requests := rest
        responses := c.responses ++ emitted c.server s l
        device := c.device ++ onDevice e' l } =
      c.delivered ++ (rxData c.client.rx ++ (c.responses.flatMap dataOf ++
        ((emitted c.server s l).flatMap dataOf ++ s.session.read.reader.data))) := by
    show c.delivered ++ (rxData c.client.rx ++
      ((c.responses ++ emitted c.server s l).flatMap dataOf ++ s.session.read.reader.data)) = _
    rw [List.flatMap_append, List.append_assoc]
  refine ⟨(onDevice e' l).flatMap DeviceEvent.data, List.flatMap_append .., ?_, fun hsent => ?_⟩
  · rw [hall, hafter]
    have hemitted := (emitted_sublist c.server s l).flatMap dataOf
    exact (((hemitted.append_right _).append_left _).append_left _).append_left _
  · rw [hall, hafter, emitted_of_sent hsent c.server s]

/-- What a step of the receiver moves. -/
theorem receives_data {res : Except Proto.Error (Option Sequence × Response)}
    (rest : List Response.Reply)
    (hdata : rxData (DeviceInner.received res) ++ rest.flatMap dataOf = c.responses.flatMap dataOf)
    (hstep : { c with responses := rest }.stepClient e [] (.recv res) = some c') :
    c.Passes l c' := by
  obtain ⟨d, hd, rfl⟩ := Option.map_eq_some_iff.1 hstep
  obtain ⟨hrx, rfl⟩ := recv_step hd
  have hlog : c.log ++ [] = c.log := List.append_nil _
  simp only [hlog]
  refine passes_of_eq rfl ?_
  show c.delivered ++ (rxData (DeviceInner.received res) ++
    (rest.flatMap dataOf ++ c.server.session.read.reader.data)) = _
  rw [passed, underway, hrx, ← List.append_assoc (rxData _), hdata]
  rfl

/-- **A step keeps the data in order.** -/
theorem Inv.step_data (hinv : Inv e e' c) (hreads : c.ReadsBlock) (hreplied : Replied e e' c)
    (hok : c.Assumed l) (hdoc : c.Documented l) (hstep : c.step e e' l = some c') :
    c.Passes l c' := by
  cases step_move hstep with
  | call k req info out c' hpending hstep =>
      obtain ⟨d, hd, rfl⟩ := Option.map_eq_some_iff.1 hstep
      have hsame : d.replies = c.client.replies ∧ d.rx = c.client.rx := by
        rcases call_cases hd with ⟨request, seq, bytes, -, -, rfl, -⟩ | ⟨⟨pc, rfl⟩, -⟩
        · exact ⟨rfl, rfl⟩
        · exact ⟨rfl, rfl⟩
      refine passes_of_eq rfl ?_
      show d.replies.flatMap (replyData (c.log ++ _)) ++ (rxData d.rx ++ _) = _
      rw [hsame.1, hsame.2, delivered_append hreplied]
      rfl
  | client l c' hown hstep =>
      obtain ⟨d, hd, rfl⟩ := Option.map_eq_some_iff.1 hstep
      have hlog : c.log ++ [] = c.log := List.append_nil _
      simp only [hlog]
      refine passes_of_eq rfl ?_
      show d.replies.flatMap (replyData c.log) ++ (rxData d.rx ++ _) = _
      rw [← List.append_assoc, client_data hinv hreplied hown hd, List.append_assoc]
      rfl
  | deliver m rest res c' hresponses harrived hstep =>
      refine receives_data rest ?_ hstep
      rw [rxData_received harrived, hresponses, List.flatMap_cons]
  | fault errno c' hstep => exact receives_data c.responses rfl hstep
  | serve x rest env c' hrequests haccepted hstep =>
      have hx : x ∈ c.requests := by rw [hrequests]; exact List.mem_cons_self
      have hdoc' : c.server.Documented (.request (x.received e e') env) := trivial
      refine hinv.serves_data (l := .request (x.received e e') env) rest hok.2 hdoc' ?_ hstep
      intro seq info env' hlabel
      exact hreads.not_nonblock hinv hx (ServerLabel.request.inj hlabel).1
  | server l c' hown hstep =>
      refine hinv.serves_data c.requests hok.2 hdoc ?_ hstep
      rintro seq info env rfl
      cases hown

/-- The reads that a step notes block. -/
theorem ReadsBlock.step (h : c.ReadsBlock) (hblock : Blocking l) (hstep : c.step e e' l = some c') :
    c'.ReadsBlock := by
  cases step_move hstep with
  | call k req info out c' hpending hstep =>
      intro rdinfo x hx
      rw [(stepClient_eq hstep).2.2] at hx
      rcases List.mem_append.1 hx with hx | hx
      · exact h rdinfo x hx
      · obtain ⟨rfl, -⟩ := Prod.mk.inj (List.mem_singleton.1 hx)
        exact hblock
  | client l c' hown hstep | deliver m rest res c' hresponses harrived hstep | fault errno c' hstep =>
      intro rdinfo x hx
      rw [(stepClient_eq hstep).2.2, List.append_nil] at hx
      exact h rdinfo x hx
  | serve x rest env c' hrequests haccepted hstep | server l c' hown hstep =>
      intro rdinfo x hx
      rw [(stepServer_eq hstep).2.2] at hx
      exact h rdinfo x hx

/-- A conversation whose reads block. -/
structure ReadsInOrder (e e' : Endian) (c : Conversation) : Prop where
  inv : Inv e e' c
  replied : Replied e e' c
  blocks : c.ReadsBlock
  /-- Bytes may be lost, but they are not reordered or doubled. -/
  data : c.passed.Sublist (c.device.flatMap DeviceEvent.data)

theorem ReadsInOrder.step (h : ReadsInOrder e e' c) (hok : c.Assumed l) (hdoc : c.Documented l)
    (hblock : Blocking l) (hstep : c.step e e' l = some c') :
    ReadsInOrder e e' c' ∧ c.Passes l c' := by
  have hpasses := h.inv.step_data h.blocks h.replied hok hdoc hstep
  have ⟨new, hdevice, hsublist, _⟩ := hpasses
  refine ⟨⟨(h.inv.step hok hstep).1, h.replied.step h.inv hstep, h.blocks.step hblock hstep, ?_⟩, hpasses⟩
  rw [hdevice]
  exact hsublist.trans (h.data.append_right new)

end Reads

end Conversation

end Cuse2Net.Relay

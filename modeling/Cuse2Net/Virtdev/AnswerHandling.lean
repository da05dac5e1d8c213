import Cuse2Net.Lib.Ledger
import Cuse2Net.Virtdev.RequestTable

/-!
# Answers that forget their request

`handle_response` and `handle_error` remove a request from the table before they look at the answer.
Here nothing is assumed of the server: it may send any response, with any argument, and any error
number for any request. The replies, the table and the receiver form a ledger of the calls of
`handle_cuse`, and every step of the device is a step of the ledger (`step_ledger`).

`answer_replied_iff` says for which answers the handler replies. After any other one the request is
gone, and no later step replies to it.
-/

set_option autoImplicit false

namespace Cuse2Net.Virtdev

open Cuse2Net.Lib
open Cuse2Net.Lib.Bytes
open Cuse2Net.IoctlFfi
open Cuse2Net.IoctlFfi.Ioctl
open Cuse2Net.Proto

namespace DeviceInner

/-- The receiver has a reply for an answerable request, and nothing for another one. -/
theorem afterRemove_of_answerable (e : Endian) {entry : Entry} {ans : Answer}
    (h : Answerable entry.req ans) : ∃ reply : FuseReply, reply.unique = entry.info.unique ∧
      (afterRemove e entry ans = .closing entry reply ∨
        afterRemove e entry ans = .replying entry reply) := by
  exact afterRemove_cases h

theorem afterRemove_of_not_answerable (e : Endian) {entry : Entry} {ans : Answer}
    (h : ¬Answerable entry.req ans) : afterRemove e entry ans = .check := by
  cases ans with
  | remoteError rc => exact absurd trivial h
  | response resp =>
      rw [← respond_isOk_iff e entry.req entry.info resp] at h
      cases hrespond : respond e entry.req entry.info resp with
      | error f => simp only [afterRemove, hrespond]
      | ok reply =>
          rw [hrespond] at h
          exact absurd rfl h

/-! ## The ledger of the calls -/

/-- The calls that have returned, those with a request in flight and those with a reply. -/
def ledger (d : DeviceInner) : Ledger Nat := ⟨d.Returned, d.inFlight, d.answeredCalls⟩

section Steps

variable {e : Endian} {d : DeviceInner}

/-- Inserting adds at most the new entry; it may replace one with the same number. -/
theorem entries_insert_sublist (requests : AList fun _ : Sequence => Entry) (seq : Sequence)
    (entry : Entry) : ((requests.insert seq entry).entries.map Sigma.snd).Sublist
      (entry :: requests.entries.map Sigma.snd) := by
  rw [AList.entries_insert, List.map_cons]
  exact ((List.kerase_sublist seq requests.entries).map Sigma.snd).cons_cons entry

theorem ledger_sent (seq : Sequence) (request : Request) (info : OpInInfo) :
    Ledger.Step d.ledger (d.afterSent seq request info).ledger [d.calls.length] [] where
  new_nodup := List.nodup_singleton _
  new_entered := by
    intro id hid
    obtain rfl := List.mem_singleton.1 hid
    exact ⟨d.not_returned_length, (returned_append rfl _).2 (.inr ⟨rfl, rfl⟩)⟩
  entered := fun id hid => (returned_append rfl id).2 (.inl hid)
  ended := (List.append_nil _).symm
  waiting := by
    have hentries := (entries_insert_sublist d.state.requests seq
      ⟨request, info, d.calls.length⟩).map Entry.call
    show (d.heldCall.toList ++ _).Subperm (d.calls.length :: (d.heldCall.toList ++ _))
    by_cases hrx : d.rx = .terminated
    · -- after the walk over the table, entries do not count any more
      have hflight : (d.afterSent seq request info).rx = .terminated := hrx
      rw [if_pos hrx, if_pos hflight]
      exact (List.sublist_cons_self _ _).subperm
    · have hflight : (d.afterSent seq request info).rx ≠ .terminated := hrx
      rw [if_neg hrx, if_neg hflight]
      refine (hentries.append_left _).subperm.trans (List.Perm.subperm ?_)
      exact List.perm_middle

theorem ledger_refuse {id : Nat} {info : OpInInfo} (hcall : d.calls[id]? = some ⟨info, .failing⟩) :
    Ledger.Step d.ledger (d.afterRefuse id info).ledger [id] [id] where
  new_nodup := List.nodup_singleton _
  new_entered := by
    intro id' hid
    obtain rfl := List.mem_singleton.1 hid
    exact ⟨not_returned_failing hcall, (returned_set hcall rfl _).2 (.inr rfl)⟩
  entered := fun id' hid => (returned_set hcall rfl id').2 (.inl hid)
  ended := List.filterMap_append
  waiting := List.Subperm.refl _

/-- The receiver takes the request out of the table, and keeps it only for a reply. -/
theorem ledger_found {seq : Sequence} {ans : Answer} {entry : Entry} (hrx : d.rx = .removing seq ans)
    (hlookup : d.state.requests.lookup seq = some entry) :
    Ledger.Step d.ledger (d.afterFound e seq entry ans).ledger [] [] := by
  refine .quiet (fun _ hid => hid) rfl ?_
  have hperm := (entries_erase hlookup).map Entry.call
  show (d.afterFound e seq entry ans).inFlight.Subperm d.inFlight
  rw [inFlight_of_free (congrArg RxPc.free hrx)]
  by_cases hans : Answerable entry.req ans
  · obtain ⟨reply, -, hafter⟩ := afterRemove_of_answerable e hans
    rcases hafter with hafter | hafter
    · simp only [inFlight, heldCall, afterFound, hafter, reduceCtorEq, if_false]
      exact hperm.symm.subperm
    · simp only [inFlight, heldCall, afterFound, hafter, reduceCtorEq, if_false]
      exact hperm.symm.subperm
  · have hafter := afterRemove_of_not_answerable e hans
    simp only [inFlight, heldCall, afterFound, hafter, reduceCtorEq, if_false]
    exact (List.sublist_cons_self _ _).subperm.trans hperm.symm.subperm

theorem ledger_reply {entry : Entry} {reply : FuseReply} (hrx : d.rx = .replying entry reply) :
    Ledger.Step d.ledger (d.afterReply entry reply).ledger [] [entry.call] where
  new_nodup := List.nodup_nil
  new_entered := by
    intro id hid
    cases hid
  entered := fun _ hid => hid
  ended := List.filterMap_append
  waiting := by
    simp only [ledger, afterReply, inFlight, heldCall, hrx, reduceCtorEq, if_false]
    exact List.Subperm.refl _

theorem ledger_sweep {order : List Entry} (hrx : d.rx = .sweep) (hperm : order.Perm d.entries) :
    Ledger.Step d.ledger (d.afterSweep order).ledger [] (order.map Entry.call) where
  new_nodup := List.nodup_nil
  new_entered := by
    intro id hid
    cases hid
  entered := fun _ hid => hid
  ended := by
    show (d.replies ++ _).filterMap Prod.fst = _
    rw [List.filterMap_append, List.filterMap_map]
    exact congrArg (d.answeredCalls ++ ·) (congrFun List.filterMap_eq_map order)
  waiting := by
    simp only [ledger, afterSweep, inFlight, heldCall, hrx, reduceCtorEq, if_false, if_true,
      Option.toList_none, List.append_nil, List.nil_append]
    exact (hperm.map Entry.call).subperm

/-- A step that moves no request. -/
theorem ledger_quiet {d' : DeviceInner} (hret : ∀ id, d.Returned id → d'.Returned id)
    (hans : d'.answeredCalls = d.answeredCalls) (hflight : d'.inFlight = d.inFlight) :
    Ledger.Step d.ledger d'.ledger [] [] := by
  refine .quiet hret hans ?_
  show d'.inFlight.Subperm d.inFlight
  rw [hflight]

/-- A step of the receiver between two requests. -/
theorem ledger_quiet_rx {d' : DeviceInner} (hcalls : d'.calls = d.calls)
    (hreplies : d'.replies = d.replies) (hrequests : d'.state.requests = d.state.requests)
    (hfree : d.rx.free = true) (hfree' : d'.rx.free = true) :
    Ledger.Step d.ledger d'.ledger [] [] := by
  refine ledger_quiet ?_ ?_ ?_
  · intro id hid
    rw [Returned, hcalls]
    exact hid
  · rw [answeredCalls, hreplies]
    rfl
  · rw [inFlight_of_free hfree, inFlight_of_free hfree', entries, hrequests]
    rfl

/-- **Every step of the device is a step of the ledger**, whatever the server answers. -/
theorem step_ledger {l : DeviceLabel} {d' : DeviceInner} (h : step e d l = some d') :
    ∃ new done, Ledger.Step d.ledger d'.ledger new done := by
  cases step_move h with
  | callSent req info request seq bytes hreq hsend => exact ⟨_, _, ledger_sent seq request info⟩
  | callFails req info out pc hpc =>
      exact ⟨_, _, ledger_quiet (fun id hid => (returned_append rfl id).2 (.inl hid)) rfl rfl⟩
  | refuse id info hcall => exact ⟨_, _, ledger_refuse hcall⟩
  | draw => exact ⟨_, _, ledger_quiet (fun _ hid => hid) rfl rfl⟩
  | interrupts l is => exact ⟨_, _, ledger_quiet (fun _ hid => hid) rfl rfl⟩
  | refuseInterrupt id is reply =>
      -- the reply belongs to no call
      refine ⟨_, _, ledger_quiet (fun _ hid => hid) ?_ rfl⟩
      exact List.filterMap_append.trans (List.append_nil _)
  | check hpc =>
      refine ⟨_, _, ledger_quiet_rx rfl rfl rfl (congrArg RxPc.free hpc) ?_⟩
      cases d.state.closed <;> rfl
  | recv res hpc =>
      exact ⟨_, _, ledger_quiet_rx rfl rfl rfl (congrArg RxPc.free hpc) (received_place res).1⟩
  | removeFound seq ans entry hpc hlookup => exact ⟨_, _, ledger_found hpc hlookup⟩
  | removeMissing seq ans hpc hlookup =>
      exact ⟨_, _, ledger_quiet_rx rfl rfl rfl (congrArg RxPc.free hpc) rfl⟩
  | close entry reply hpc =>
      refine ⟨_, _, ledger_quiet (fun _ hid => hid) rfl ?_⟩
      simp only [inFlight, heldCall, hpc, reduceCtorEq, if_false]
      rfl
  | reply entry reply hpc => exact ⟨_, _, ledger_reply hpc⟩
  | shutdown hpc => exact ⟨_, _, ledger_quiet_rx rfl rfl rfl (congrArg RxPc.free hpc) rfl⟩
  | sweep order hpc hperm => exact ⟨_, _, ledger_sweep hpc hperm⟩

end Steps

/-! ## Runs -/

theorem reachable_ledger {e : Endian} {d : DeviceInner} (h : (system e).Reachable always d) :
    d.ledger.Sound := by
  refine h.invariant (P := fun d => d.ledger.Sound) ?_ ?_
  · rintro d ⟨drawn, -, rfl⟩
    exact ⟨List.nodup_nil, fun id hid => by cases hid⟩
  · intro d l d' hd _ hstep
    obtain ⟨new, done, hledger⟩ := step_ledger hstep
    exact hledger.sound hd

/-- A request that is neither in the table nor with the receiver gets no reply any more. -/
theorem gone_run {e : Endian} {d d' : DeviceInner} {id : Nat} (hgone : d.ledger.Gone id)
    (hans : id ∉ d.answeredCalls) (h : (system e).Reaches always d d') : id ∉ d'.answeredCalls := by
  suffices hinv : d'.ledger.Gone id ∧ id ∉ d'.answeredCalls from hinv.2
  refine System.Reaches.induct (P := fun d => d.ledger.Gone id ∧ id ∉ d.answeredCalls) h
    ⟨hgone, hans⟩ ?_
  rintro d l d' ⟨hgone, hans⟩ - hstep
  obtain ⟨new, done, hledger⟩ := step_ledger hstep
  obtain ⟨hgone', hended⟩ := hledger.gone hgone
  exact ⟨hgone', fun hmem => hans (hended.1 hmem)⟩

/-- The steps of `handle_response` or `handle_error` that follow the arrival of the answer. -/
def handlerSteps (e : Endian) (entry : Entry) (ans : Answer) : List DeviceLabel :=
  match afterRemove e entry ans with
  | .closing _ _ => [.remove, .close, .reply]
  | .replying _ _ => [.remove, .reply]
  | _ => [.remove]

theorem remove_eq {e : Endian} {d : DeviceInner} {seq : Sequence} {ans : Answer} {entry : Entry}
    (hrx : d.rx = .removing seq ans) (hentry : d.state.requests.lookup seq = some entry) :
    step e d .remove = some (d.afterFound e seq entry ans) := by
  simp only [step, hrx, hentry]
  rfl

theorem erased_notMem (requests : AList fun _ : Sequence => Entry) (seq : Sequence) :
    seq ∉ requests.erase seq := by
  rw [AList.mem_erase]
  exact fun h => h.1 rfl

/-- The handler of an answerable request replies to it. -/
theorem handler_replies {e : Endian} {d : DeviceInner} {seq : Sequence} {ans : Answer}
    {entry : Entry} (hrx : d.rx = .removing seq ans)
    (hentry : d.state.requests.lookup seq = some entry) (hans : Answerable entry.req ans) :
    ∃ d' reply, (system e).exec always d (handlerSteps e entry ans) = some d' ∧ d'.rx = .check ∧
      seq ∉ d'.state.requests ∧ d'.replies = d.replies ++ [(some entry.call, reply)] ∧
        reply.unique = entry.info.unique := by
  have hremove := remove_eq (e := e) hrx hentry
  have herased := erased_notMem d.state.requests seq
  obtain ⟨reply, hunique, hafter | hafter⟩ := afterRemove_of_answerable e hans
  · -- a confirmed release closes the device first
    have hclose : step e (d.afterFound e seq entry ans) .close = some { d.afterFound e seq entry ans
        with state := { (d.afterFound e seq entry ans).state with closed := true }
             rx := .replying entry reply } := by
      simp only [step, afterFound, hafter]
    simp only [handlerSteps, hafter]
    rw [System.exec_cons _ trivial hremove, System.exec_cons _ trivial hclose]
    exact ⟨_, reply, rfl, rfl, herased, rfl, hunique⟩
  · have hreply : step e (d.afterFound e seq entry ans) .reply =
        some ((d.afterFound e seq entry ans).afterReply entry reply) := by
      simp only [step, afterFound, hafter]
      rfl
    simp only [handlerSteps, hafter]
    rw [System.exec_cons _ trivial hremove, System.exec_cons _ trivial hreply]
    exact ⟨_, reply, rfl, rfl, herased, rfl, hunique⟩

/-- After any other answer the request is out of the table and with nobody. -/
theorem handler_forgets {e : Endian} {d : DeviceInner} {seq : Sequence} {ans : Answer}
    {entry : Entry} (hsound : d.ledger.Sound) (hrx : d.rx = .removing seq ans)
    (hentry : d.state.requests.lookup seq = some entry) (hans : ¬Answerable entry.req ans) :
    (system e).exec always d (handlerSteps e entry ans) = some (d.afterFound e seq entry ans) ∧
      (d.afterFound e seq entry ans).rx = .check ∧
        (d.afterFound e seq entry ans).ledger.Gone entry.call := by
  have hafter := afterRemove_of_not_answerable e hans
  have hfree : (d.afterFound e seq entry ans).rx.free = true := congrArg RxPc.free hafter
  have hperm := (entries_erase hentry).map Entry.call
  have hflight : d.inFlight = d.entries.map Entry.call := inFlight_of_free (congrArg RxPc.free hrx)
  refine ⟨?_, hafter, ?_, ?_⟩
  · simp only [handlerSteps, hafter]
    rw [System.exec_cons _ trivial (remove_eq hrx hentry)]
    rfl
  · refine hsound.entered entry.call (List.mem_append_right _ ?_)
    show entry.call ∈ d.inFlight
    rw [hflight]
    exact hperm.mem_iff.2 List.mem_cons_self
  · -- no other entry is of the same call
    show entry.call ∉ (d.afterFound e seq entry ans).inFlight
    have hnodup : (d.entries.map Entry.call).Nodup := hflight ▸ (List.nodup_append.1 hsound.nodup).2.1
    rw [inFlight_of_free hfree]
    exact (List.nodup_cons.1 (hperm.nodup_iff.1 hnodup)).1

/-- **Which requests are forgotten.** In every run, whatever the server sends: when an answer to a
request of the table has arrived, the handler takes the request out of the table and sends exactly
one reply, to the request's sender, if and only if the answer is an error or a response of the right
kind with an argument that can be returned. After any other answer the handler sends nothing, and in
no continuation of the run does the request ever get a reply. -/
theorem answer_replied_iff (e : Endian) (d : DeviceInner) (seq : Sequence) (ans : Answer)
    (entry : Entry) (h : (system e).Reachable always d) (hrx : d.rx = .removing seq ans)
    (hentry : d.state.requests.lookup seq = some entry) :
    entry.call ∉ d.answeredCalls ∧
      ∃ d', (system e).exec always d (handlerSteps e entry ans) = some d' ∧ d'.rx = .check ∧
        seq ∉ d'.state.requests ∧
        ((∃ reply, d'.replies = d.replies ++ [(some entry.call, reply)] ∧
          reply.unique = entry.info.unique) ↔ Answerable entry.req ans) ∧
        (¬Answerable entry.req ans → d'.replies = d.replies ∧
          ∀ d'', (system e).Reaches always d' d'' → entry.call ∉ d''.answeredCalls) := by
  have hsound := reachable_ledger h
  have hwaiting : entry.call ∈ d.inFlight := by
    rw [inFlight_of_free (congrArg RxPc.free hrx)]
    exact List.mem_map_of_mem (mem_entries.2 ⟨seq, hentry⟩)
  have hnew : entry.call ∉ d.answeredCalls := hsound.notMem_ended hwaiting
  refine ⟨hnew, ?_⟩
  by_cases hans : Answerable entry.req ans
  · obtain ⟨d', reply, hrun, hcheck, herased, hreplies, hunique⟩ := handler_replies hrx hentry hans
    exact ⟨d', hrun, hcheck, herased, iff_of_true ⟨reply, hreplies, hunique⟩ hans,
      fun hnot => absurd hans hnot⟩
  · obtain ⟨hrun, hcheck, hgone⟩ := handler_forgets hsound hrx hentry hans
    refine ⟨_, hrun, hcheck, erased_notMem _ seq, iff_of_false ?_ hans, fun _ => ⟨rfl, ?_⟩⟩
    · rintro ⟨reply, hreplies, -⟩
      have hlength := congrArg List.length hreplies
      rw [List.length_append] at hlength
      exact absurd hlength (Nat.ne_of_lt (Nat.lt_add_one _))
    · intro d'' hrest
      exact gone_run hgone hnew hrest

/-- A read is answered with its data. -/
theorem answer_replied_read :
    ∃ d d' reply, (system .little).exec always (start 0) [.call (.read ⟨0, 8, ⟨0⟩⟩) ⟨100⟩ .sent, .check,
        .recv (.ok (some ⟨1, by decide⟩, .read [65]))] = some d ∧
      (system .little).exec always d [.remove, .reply] = some d' ∧
        d'.replies = [(some 0, reply)] ∧ reply.unique = 100 := by
  have hrun : (system .little).exec always (start 0) [.call (.read ⟨0, 8, ⟨0⟩⟩) ⟨100⟩ .sent, .check,
      .recv (.ok (some ⟨1, by decide⟩, .read [65]))] =
        some ⟨⟨false, (∅ : AList fun _ : Sequence => Entry).insert ⟨1, by decide⟩ ⟨.read, ⟨100⟩, 0⟩⟩,
          false, 1, .removing ⟨1, by decide⟩ (.response (.read [65])), [⟨⟨100⟩, .returned⟩], [], [],
          [(⟨1, by decide⟩, .read)], []⟩ := rfl
  have hinit : (system .little).init (start 0) := ⟨0, by decide, rfl⟩
  have hreach := System.reachable_of_exec hinit hrun
  obtain ⟨-, d', hhandler, -, -, hiff, -⟩ := answer_replied_iff .little _ _ _ _ hreach rfl rfl
  obtain ⟨reply, hreplies, hunique⟩ := hiff.2 trivial
  exact ⟨_, d', reply, hrun, hhandler, hreplies, hunique⟩

/-- The server answers a read with the response to a write. The request leaves the table, and however
the run goes on, its sender gets no reply. -/
theorem answer_forgets_read :
    ∃ d, (system .little).exec always (start 0) [.call (.read ⟨0, 8, ⟨0⟩⟩) ⟨100⟩ .sent, .check,
        .recv (.ok (some ⟨1, by decide⟩, .write 3)), .remove] = some d ∧
      d.rx = .check ∧ d.entries = [] ∧
        ∀ d', (system .little).Reaches always d d' → 0 ∉ d'.answeredCalls := by
  refine ⟨⟨⟨false, ∅⟩, false, 1, .check, [⟨⟨100⟩, .returned⟩], [], [], [(⟨1, by decide⟩, .read)],
    [⟨1, by decide⟩]⟩, rfl, rfl, rfl, ?_⟩
  intro d' hrest
  refine gone_run ⟨⟨⟨100⟩, rfl⟩, ?_⟩ ?_ hrest
  · intro hmem
    cases hmem
  · intro hmem
    cases hmem

end DeviceInner

end Cuse2Net.Virtdev

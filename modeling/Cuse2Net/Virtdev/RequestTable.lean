import Cuse2Net.Lib.FifoService
import Cuse2Net.Virtdev.Device

/-!
# Every request of the kernel gets one reply

A call of `handle_cuse` that has returned is a job in the sense of `Lib.FifoService`: it waits while
its request is in the table or with the receiver and ends with the reply. `Move` says once what a step
can do; `Consistent` relates the table to the history of sent and answered sequence numbers, and
`Refines` is the simulation by the service.

`requests_replied_once` collects the results for all runs that meet `Assumed`.
-/

set_option autoImplicit false

namespace Cuse2Net.Virtdev

open Cuse2Net.Lib
open Cuse2Net.Lib.Bytes
open Cuse2Net.Proto
open Cuse2Net.Proto.Errno

/-- The receiver has no request and the walk over the table is still before it. -/
def RxPc.free : RxPc → Bool
  | .check | .recv | .removing .. | .shutdown | .sweep => true
  | .closing .. | .replying .. | .terminated => false

namespace DeviceInner

/-! ## Inversion of the steps -/

/-- The history of answers after an answer to `seq` has been looked up. -/
def answeredAfter (d : DeviceInner) (seq : Sequence) : List Sequence :=
  if seq ∈ d.sent.map Prod.fst then d.answered ++ [seq] else d.answered

/-- A request is sent and in the table. -/
def afterSent (d : DeviceInner) (seq : Sequence) (request : Request) (info : OpInInfo) :
    DeviceInner :=
  { d with
    state := { d.state with
      requests := d.state.requests.insert seq ⟨request, info, d.calls.length⟩ }
    drawn := d.drawn + 1
    sent := d.sent ++ [(seq, request)]
    calls := d.calls ++ [⟨info, .returned⟩] }

/-- A request could not be sent and has its reply. -/
def afterRefuse (d : DeviceInner) (id : Nat) (info : OpInInfo) : DeviceInner :=
  { d with
    calls := d.calls.set id ⟨info, .returned⟩
    replies := d.replies ++ [(some id, info.sendError EIO)] }

/-- A request has been found for an answer. -/
def afterFound (e : Endian) (d : DeviceInner) (seq : Sequence) (entry : Entry) (ans : Answer) :
    DeviceInner :=
  { d with
    state := { d.state with requests := d.state.requests.erase seq }
    rx := afterRemove e entry ans
    answered := d.answeredAfter seq }

/-- The receiver has replied. -/
def afterReply (d : DeviceInner) (entry : Entry) (reply : FuseReply) : DeviceInner :=
  { d with replies := d.replies ++ [(some entry.call, reply)], rx := .check }

/-- The receiver has walked over the table. -/
def afterSweep (d : DeviceInner) (order : List Entry) : DeviceInner :=
  { d with
    replies := d.replies ++ order.map fun entry => (some entry.call, entry.info.sendError .EINTR)
    rx := .terminated }

section Inversion

variable (e : Endian) (d : DeviceInner)

/-- The steps of a device, with the state after each. -/
inductive Move : DeviceLabel → DeviceInner → Prop where
  | callSent (req : Pending) (info : OpInInfo) (request : Request) (seq : Sequence)
      (bytes : List UInt8) (hreq : req.request = some request)
      (hsend : req.send e (opSeq d.drawn) = .ok (seq, bytes)) :
      Move (.call req info .sent) (d.afterSent seq request info)
  | callFails (req : Pending) (info : OpInInfo) (out : SendOutcome) (pc : CallPc)
      (hpc : pc ≠ .returned) :
      Move (.call req info out)
        { d with drawn := d.drawn + 1, calls := d.calls ++ [⟨info, pc⟩] }
  | refuse (id : Nat) (info : OpInInfo) (hcall : d.calls[id]? = some ⟨info, .failing⟩) :
      Move (.refuse id) (d.afterRefuse id info)
  | draw : Move .draw { d with drawn := d.drawn + 1 }
  | interrupts (l : DeviceLabel) (is : List Interrupt) : Move l { d with interrupts := is }
  | refuseInterrupt (id : Nat) (is : List Interrupt) (reply : FuseReply) :
      Move (.refuseInterrupt id)
        { d with interrupts := is, replies := d.replies ++ [(none, reply)] }
  | check (hrx : d.rx = .check) :
      Move .check { d with rx := if d.state.closed then .shutdown else .recv }
  | recv (res : Except Proto.Error (Option Sequence × Response)) (hrx : d.rx = .recv) :
      Move (.recv res) { d with rx := received res }
  | removeFound (seq : Sequence) (ans : Answer) (entry : Entry) (hrx : d.rx = .removing seq ans)
      (hlookup : d.state.requests.lookup seq = some entry) :
      Move .remove (d.afterFound e seq entry ans)
  | removeMissing (seq : Sequence) (ans : Answer) (hrx : d.rx = .removing seq ans)
      (hlookup : d.state.requests.lookup seq = none) :
      Move .remove { d with rx := .check, answered := d.answeredAfter seq }
  | close (entry : Entry) (reply : FuseReply) (hrx : d.rx = .closing entry reply) :
      Move .close { d with state := { d.state with closed := true }, rx := .replying entry reply }
  | reply (entry : Entry) (reply : FuseReply) (hrx : d.rx = .replying entry reply) :
      Move .reply (d.afterReply entry reply)
  | shutdown (hrx : d.rx = .shutdown) : Move .shutdown { d with shut := true, rx := .sweep }
  | sweep (order : List Entry) (hrx : d.rx = .sweep) (hperm : order.Perm d.entries) :
      Move (.sweep order) (d.afterSweep order)

end Inversion

theorem call_move {e : Endian} {d : DeviceInner} {req : Pending} {request : Request}
    {info : OpInInfo} {out : SendOutcome} (hreq : req.request = some request) :
    Move e d (.call req info out) (d.handleCuseInternal e req request info out) := by
  unfold handleCuseInternal
  split
  · next seq bytes hsend => exact .callSent req info request seq bytes hreq hsend
  · exact .callFails req info _ .panicked nofun
  · exact .callFails req info _ .failing nofun

/-- **What a step can do.** -/
theorem step_move {e : Endian} {d d' : DeviceInner} {l : DeviceLabel} (h : step e d l = some d') :
    Move e d l d' := by
  cases l with
  | call req info out =>
      obtain ⟨request, hreq, rfl⟩ := Option.map_eq_some_iff.1 h
      exact call_move hreq
  | refuse id =>
      simp only [step] at h
      split at h
      · next info hcall =>
        obtain rfl := Option.some.inj h
        exact .refuse id info hcall
      · cases h
  | draw =>
      obtain rfl := Option.some.inj h
      exact .draw
  | interrupt info unique =>
      obtain rfl := Option.some.inj h
      exact .interrupts _ _
  | sendInterrupt id ok =>
      simp only [step] at h
      split at h
      · obtain rfl := Option.some.inj h
        exact .interrupts _ _
      · cases h
  | refuseInterrupt id =>
      simp only [step] at h
      split at h
      · obtain rfl := Option.some.inj h
        exact .refuseInterrupt id _ _
      · cases h
  | check =>
      simp only [step] at h
      split at h
      · next hrx =>
        obtain rfl := Option.some.inj h
        exact .check hrx
      · cases h
  | recv res =>
      simp only [step] at h
      split at h
      · next hrx =>
        obtain rfl := Option.some.inj h
        exact .recv res hrx
      · cases h
  | remove =>
      simp only [step] at h
      split at h
      · next seq ans hrx =>
        cases hlookup : d.state.requests.lookup seq with
        | some entry =>
            simp only [hlookup] at h
            obtain rfl := Option.some.inj h
            exact .removeFound seq ans entry hrx hlookup
        | none =>
            simp only [hlookup] at h
            obtain rfl := Option.some.inj h
            exact .removeMissing seq ans hrx hlookup
      · cases h
  | close =>
      simp only [step] at h
      split at h
      · next entry reply hrx =>
        obtain rfl := Option.some.inj h
        exact .close entry reply hrx
      · cases h
  | reply =>
      simp only [step] at h
      split at h
      · next entry reply hrx =>
        obtain rfl := Option.some.inj h
        exact .reply entry reply hrx
      · cases h
  | shutdown =>
      simp only [step] at h
      split at h
      · next hrx =>
        obtain rfl := Option.some.inj h
        exact .shutdown hrx
      · cases h
  | sweep order =>
      simp only [step] at h
      split at h
      · next hrx =>
        rw [Option.ite_none_right_eq_some] at h
        obtain rfl := Option.some.inj h.2
        exact .sweep order hrx h.1
      · cases h

/-! ## The table and the history -/

/-- The table and the history agree. -/
structure Consistent (d : DeviceInner) : Prop where
  drawn : d.drawn < 2 ^ 64 - 1
  /-- The connection is shut down before the walk over the table. -/
  shut : d.rx = .sweep ∨ d.rx = .terminated → d.shut = true
  sent_nodup : (d.sent.map Prod.fst).Nodup
  sent_le : ∀ seq ∈ d.sent.map Prod.fst, seq.val.toNat ≤ d.drawn
  answered_subset : d.answered ⊆ d.sent.map Prod.fst
  /-- The table has the requests that are sent and not answered. -/
  table : ∀ seq, seq ∈ d.state.requests ↔ seq ∈ d.sent.map Prod.fst ∧ seq ∉ d.answered
  entry : ∀ seq entry, d.state.requests.lookup seq = some entry → (seq, entry.req) ∈ d.sent
  /-- A response that is being handled belongs to a request that was sent. -/
  answering : ∀ seq resp, d.rx = .removing seq (.response resp) →
    ∃ x ∈ d.sent, x.1 = seq ∧ Answerable x.2 (.response resp)
  /-- Entries are made by calls that have returned. -/
  owner : ∀ entry ∈ d.entries, d.calls[entry.call]? = some ⟨entry.info, .returned⟩
  held : ∀ entry reply, d.rx = .closing entry reply ∨ d.rx = .replying entry reply →
    d.calls[entry.call]? = some ⟨entry.info, .returned⟩ ∧ reply.unique = entry.info.unique
  /-- Replies go to the requests they are counted for. -/
  replies : ∀ id reply, (some id, reply) ∈ d.replies →
    ∃ info, d.calls[id]? = some ⟨info, .returned⟩ ∧ reply.unique = info.unique

theorem send_seq {e : Endian} {req : Pending} {request : Request} {drawn : BitVec 64}
    {seq : Sequence} {bytes : List UInt8} (hreq : req.request = some request)
    (h : req.send e drawn = .ok (seq, bytes)) : seq.val = drawn := by
  cases req with
  | interrupt _ => cases hreq
  | _ => exact Request.sendMessage_seq h

theorem opSeq_toNat {drawn : Nat} (h : drawn + 1 < 2 ^ 64) : (opSeq drawn).toNat = drawn + 1 := by
  rw [opSeq, BitVec.toNat_ofNat, Nat.mod_eq_of_lt (by omega), Nat.add_comm]

/-- A new sequence number has not been used. -/
theorem Consistent.fresh {d : DeviceInner} (h : Consistent d)
    (hdrawn : d.drawn + 1 < 2 ^ 64 - 1) {seq : Sequence} (hseq : seq.val = opSeq d.drawn) :
    seq ∉ d.sent.map Prod.fst := by
  intro hmem
  have hle := h.sent_le seq hmem
  rw [hseq, opSeq_toNat (by omega)] at hle
  omega

theorem mem_entries {d : DeviceInner} {entry : Entry} :
    entry ∈ d.entries ↔ ∃ seq, d.state.requests.lookup seq = some entry := by
  rw [entries, List.mem_map]
  constructor
  · rintro ⟨⟨seq, entry⟩, hmem, rfl⟩
    exact ⟨seq, AList.mem_lookup_iff.2 hmem⟩
  · rintro ⟨seq, hlookup⟩
    exact ⟨⟨seq, entry⟩, AList.mem_lookup_iff.1 hlookup, rfl⟩

section Calls

variable {calls : List Call} {id : Nat} {call : Call}

theorem call_append (h : calls[id]? = some call) (c : Call) : (calls ++ [c])[id]? = some call := by
  obtain ⟨hlt, -⟩ := List.getElem?_eq_some_iff.1 h
  rw [List.getElem?_append_left hlt, h]

/-- A call that has returned is not the one that a step lets return. -/
theorem call_set {id' : Nat} {info info' : OpInInfo} (h : calls[id]? = some ⟨info, .returned⟩)
    (h' : calls[id']? = some ⟨info', .failing⟩) (c : Call) :
    (calls.set id' c)[id]? = some ⟨info, .returned⟩ := by
  have hne : id' ≠ id := by
    rintro rfl
    rw [h] at h'
    cases h'
  rw [List.getElem?_set_ne hne, h]

end Calls

/-- An answerable request has a reply. -/
theorem afterRemove_cases {e : Endian} {entry : Entry} {ans : Answer}
    (h : Answerable entry.req ans) :
    ∃ reply : FuseReply, reply.unique = entry.info.unique ∧
      (afterRemove e entry ans = .closing entry reply ∨
        afterRemove e entry ans = .replying entry reply) := by
  cases ans with
  | remoteError rc => exact ⟨_, rfl, .inr rfl⟩
  | response resp =>
      obtain ⟨reply, hreply⟩ := respond_of_answerable e h entry.info
      refine ⟨reply, respond_unique hreply, ?_⟩
      simp only [afterRemove, hreply]
      cases closes entry.req resp with
      | true => exact .inl rfl
      | false => exact .inr rfl

/-- The request found for an answer is one that the answer belongs to. -/
theorem Consistent.answerable {d : DeviceInner} (h : Consistent d) {seq : Sequence}
    {ans : Answer} {entry : Entry} (hrx : d.rx = .removing seq ans)
    (hlookup : d.state.requests.lookup seq = some entry) :
    Answerable entry.req ans := by
  cases ans with
  | remoteError rc => trivial
  | response resp =>
      -- one request was sent under this number, and the table has it
      obtain ⟨x, hx, rfl, hans⟩ := h.answering seq resp hrx
      have heq : x = (x.1, entry.req) :=
        List.inj_on_of_nodup_map h.sent_nodup hx (h.entry x.1 entry hlookup) rfl
      rw [heq] at hans
      exact hans

/-- A request goes to the server and into the table. -/
theorem Consistent.call_sent {d : DeviceInner} (h : Consistent d)
    (hdrawn : d.drawn + 1 < 2 ^ 64 - 1) {seq : Sequence} (hseq : seq.val = opSeq d.drawn)
    (request : Request) (info : OpInInfo) : Consistent (d.afterSent seq request info) := by
  unfold afterSent
  -- the number is new: it is in no part of the history and not in the table
  have hfresh := h.fresh hdrawn hseq
  have hkeys : (d.sent ++ [(seq, request)]).map Prod.fst = d.sent.map Prod.fst ++ [seq] := by
    rw [List.map_append]
    rfl
  refine { h with
    drawn := hdrawn, sent_nodup := ?_, sent_le := ?_, answered_subset := ?_, table := ?_,
    entry := ?_, answering := ?_, owner := ?_, held := ?_, replies := ?_ }
  · rw [hkeys, List.nodup_append]
    refine ⟨h.sent_nodup, List.nodup_singleton seq, ?_⟩
    rintro k hk k' hk' rfl
    rw [List.mem_singleton.1 hk'] at hk
    exact hfresh hk
  · intro k hk
    rw [hkeys, List.mem_append, List.mem_singleton] at hk
    rcases hk with hk | rfl
    · exact Nat.le_succ_of_le (h.sent_le k hk)
    · rw [hseq, opSeq_toNat (by omega)]
  · intro k hk
    rw [hkeys]
    exact List.mem_append_left _ (h.answered_subset hk)
  · intro k
    rw [AList.mem_insert, h.table, hkeys, List.mem_append, List.mem_singleton]
    constructor
    · rintro (rfl | ⟨hk, hans⟩)
      · exact ⟨.inr rfl, fun hans => hfresh (h.answered_subset hans)⟩
      · exact ⟨.inl hk, hans⟩
    · rintro ⟨hk | rfl, hans⟩
      · exact .inr ⟨hk, hans⟩
      · exact .inl rfl
  · intro k entry hlookup
    by_cases hk : k = seq
    · subst hk
      rw [AList.lookup_insert] at hlookup
      obtain rfl := Option.some.inj hlookup
      exact List.mem_append_right _ (List.mem_singleton.2 rfl)
    · rw [AList.lookup_insert_ne hk] at hlookup
      exact List.mem_append_left _ (h.entry k entry hlookup)
  · intro k resp hrx
    obtain ⟨x, hx, hans⟩ := h.answering k resp hrx
    exact ⟨x, List.mem_append_left _ hx, hans⟩
  · intro entry hentry
    obtain ⟨k, hlookup⟩ := mem_entries.1 hentry
    by_cases hk : k = seq
    · subst hk
      rw [AList.lookup_insert] at hlookup
      obtain rfl := Option.some.inj hlookup
      exact List.getElem?_concat_length
    · rw [AList.lookup_insert_ne hk] at hlookup
      exact call_append (h.owner entry (mem_entries.2 ⟨k, hlookup⟩)) _
  · intro entry reply hrx
    obtain ⟨hcall, hunique⟩ := h.held entry reply hrx
    exact ⟨call_append hcall _, hunique⟩
  · intro id reply hreply
    obtain ⟨info', hcall, hunique⟩ := h.replies id reply hreply
    exact ⟨info', call_append hcall _, hunique⟩

/-- A call that does not reach the server. -/
theorem Consistent.call_fails {d : DeviceInner} (h : Consistent d)
    (hdrawn : d.drawn + 1 < 2 ^ 64 - 1) (c : Call) :
    Consistent { d with drawn := d.drawn + 1, calls := d.calls ++ [c] } := by
  refine { h with
    drawn := hdrawn, sent_le := ?_, owner := ?_, held := ?_, replies := ?_ }
  · intro k hk
    exact Nat.le_succ_of_le (h.sent_le k hk)
  · intro entry hentry
    exact call_append (h.owner entry hentry) _
  · intro entry reply hrx
    obtain ⟨hcall, hunique⟩ := h.held entry reply hrx
    exact ⟨call_append hcall _, hunique⟩
  · intro id reply hreply
    obtain ⟨info, hcall, hunique⟩ := h.replies id reply hreply
    exact ⟨info, call_append hcall _, hunique⟩

theorem Consistent.refuse {d : DeviceInner} (h : Consistent d) {id : Nat}
    {info : OpInInfo} (hcall : d.calls[id]? = some ⟨info, .failing⟩) :
    Consistent (d.afterRefuse id info) := by
  unfold afterRefuse
  refine { h with owner := ?_, held := ?_, replies := ?_ }
  · intro entry hentry
    exact call_set (h.owner entry hentry) hcall _
  · intro entry reply hrx
    obtain ⟨hheld, hunique⟩ := h.held entry reply hrx
    exact ⟨call_set hheld hcall _, hunique⟩
  · intro id' reply hreply
    rcases List.mem_append.1 hreply with hreply | hreply
    · obtain ⟨info', hcall', hunique⟩ := h.replies id' reply hreply
      exact ⟨info', call_set hcall' hcall _, hunique⟩
    · obtain ⟨hid, rfl⟩ := Prod.mk.inj (List.mem_singleton.1 hreply)
      obtain rfl := Option.some.inj hid
      obtain ⟨hlt, -⟩ := List.getElem?_eq_some_iff.1 hcall
      exact ⟨info, List.getElem?_set_self hlt, rfl⟩

theorem mem_answeredAfter {d : DeviceInner} {seq k : Sequence} :
    k ∈ d.answeredAfter seq ↔ k ∈ d.answered ∨ (k = seq ∧ seq ∈ d.sent.map Prod.fst) := by
  rw [answeredAfter]
  by_cases hseq : seq ∈ d.sent.map Prod.fst
  · rw [if_pos hseq, List.mem_append, List.mem_singleton, and_iff_left hseq]
  · rw [if_neg hseq]
    constructor
    · exact .inl
    · rintro (hk | ⟨-, hmem⟩)
      · exact hk
      · exact absurd hmem hseq

/-- The request of an answer moves from the table to the receiver. -/
theorem Consistent.remove_found {e : Endian} {d : DeviceInner} (h : Consistent d)
    {seq : Sequence} {ans : Answer} {entry : Entry} (hrx : d.rx = .removing seq ans)
    (hlookup : d.state.requests.lookup seq = some entry) :
    Consistent (d.afterFound e seq entry ans) := by
  unfold afterFound
  have hentry : ∀ k entry', (d.state.requests.erase seq).lookup k = some entry' →
      d.state.requests.lookup k = some entry' := by
    intro k entry' hk
    by_cases hkseq : k = seq
    · rw [hkseq, AList.lookup_erase] at hk
      cases hk
    · rwa [AList.lookup_erase_ne hkseq] at hk
  obtain ⟨reply, hunique, hafter⟩ := afterRemove_cases (h.answerable hrx hlookup)
  refine { h with
    shut := ?_, answered_subset := ?_, table := ?_, entry := ?_, answering := ?_, owner := ?_,
    held := ?_ }
  · rintro (hpc | hpc)
    · rcases hafter with hafter | hafter <;> cases hafter.symm.trans hpc
    · rcases hafter with hafter | hafter <;> cases hafter.symm.trans hpc
  · intro k hk
    rcases mem_answeredAfter.1 hk with hk | ⟨rfl, hk⟩
    · exact h.answered_subset hk
    · exact hk
  · intro k
    rw [AList.mem_erase, h.table, mem_answeredAfter]
    constructor
    · rintro ⟨hne, hk, hans⟩
      refine ⟨hk, ?_⟩
      rintro (hmem | ⟨heq, -⟩)
      · exact hans hmem
      · exact hne heq
    · rintro ⟨hk, hans⟩
      refine ⟨?_, hk, fun hmem => hans (.inl hmem)⟩
      rintro rfl
      exact hans (.inr ⟨rfl, hk⟩)
  · intro k entry' hk
    exact h.entry k entry' (hentry k entry' hk)
  · intro k resp hpc
    rcases hafter with hafter | hafter <;> cases hafter.symm.trans hpc
  · intro entry' hmem
    obtain ⟨k, hk⟩ := mem_entries.1 hmem
    exact h.owner entry' (mem_entries.2 ⟨k, hentry k entry' hk⟩)
  · -- the receiver has the entry it has just removed
    intro entry' reply' hpc
    have hsame : entry' = entry ∧ reply' = reply := by
      rcases hpc with hpc | hpc <;> rcases hafter with hafter | hafter
      all_goals
        cases hafter.symm.trans hpc
        try exact ⟨rfl, rfl⟩
    rw [hsame.1, hsame.2]
    exact ⟨h.owner entry (mem_entries.2 ⟨seq, hlookup⟩), hunique⟩

/-- An answer without a request: it was answered before or has not been sent. -/
theorem Consistent.remove_missing {d : DeviceInner} (h : Consistent d)
    {seq : Sequence} (hlookup : d.state.requests.lookup seq = none) :
    Consistent { d with rx := .check, answered := d.answeredAfter seq } := by
  -- the number is answered already or was never sent
  have hnot : ¬(seq ∈ d.sent.map Prod.fst ∧ seq ∉ d.answered) := by
    rw [← h.table, ← AList.lookup_eq_none]
    exact hlookup
  refine { h with
    shut := nofun, answered_subset := ?_, table := ?_, answering := nofun, held := nofun }
  · intro k hk
    rcases mem_answeredAfter.1 hk with hk | ⟨rfl, hk⟩
    · exact h.answered_subset hk
    · exact hk
  · intro k
    rw [h.table, mem_answeredAfter]
    constructor
    · rintro ⟨hk, hans⟩
      refine ⟨hk, ?_⟩
      rintro (hmem | ⟨rfl, hmem⟩)
      · exact hans hmem
      · exact hnot ⟨hmem, hans⟩
    · rintro ⟨hk, hans⟩
      exact ⟨hk, fun hmem => hans (.inl hmem)⟩

theorem received_response {res : Except Proto.Error (Option Sequence × Response)} {seq : Sequence}
    {resp : Response} (h : received res = .removing seq (.response resp)) :
    res = .ok (some seq, resp) := by
  unfold received at h
  split at h
  · cases h
    rfl
  · cases h
  · cases h
  · cases h

/-- After `recv`, the receiver has no request yet and the connection is still open. -/
theorem received_place (res : Except Proto.Error (Option Sequence × Response)) :
    (received res).free = true ∧ received res ≠ .sweep := by
  unfold received
  split <;> exact ⟨rfl, nofun⟩

/-- **A step keeps table and history consistent.** -/
theorem step_consistent {e : Endian} {d d' : DeviceInner} {l : DeviceLabel} (h : Consistent d)
    (hok : Assumed d l) (hstep : step e d l = some d') : Consistent d' := by
  cases step_move hstep with
  | callSent req info request seq bytes hreq hsend =>
      exact h.call_sent hok.1 (send_seq hreq hsend) request info
  | callFails req info out pc hpc => exact h.call_fails hok.1 _
  | refuse id info hcall => exact h.refuse hcall
  | draw =>
      exact { h with
        drawn := hok
        sent_le := fun k hk => Nat.le_succ_of_le (h.sent_le k hk) }
  | interrupts l is => exact { h with }
  | refuseInterrupt id is reply =>
      refine { h with replies := ?_ }
      intro id reply' hreply
      rcases List.mem_append.1 hreply with hreply | hreply
      · exact h.replies id reply' hreply
      · cases List.mem_singleton.1 hreply
  | check hrx =>
      refine { h with shut := ?_, answering := ?_, held := ?_ }
      all_goals cases d.state.closed <;> exact nofun
  | recv res hrx =>
      obtain ⟨hfree, hsweep⟩ := received_place res
      refine { h with shut := ?_, answering := ?_, held := ?_ }
      · rintro (hpc | hpc)
        · exact absurd hpc hsweep
        · exact absurd (hfree.symm.trans (congrArg RxPc.free hpc)) nofun
      · intro seq resp hpc
        obtain rfl := received_response hpc
        exact hok
      · rintro entry reply (hpc | hpc)
        · exact absurd (hfree.symm.trans (congrArg RxPc.free hpc)) nofun
        · exact absurd (hfree.symm.trans (congrArg RxPc.free hpc)) nofun
  | removeFound seq ans entry hrx hlookup => exact h.remove_found hrx hlookup
  | removeMissing seq ans hrx hlookup => exact h.remove_missing hlookup
  | close entry reply hrx =>
      refine { h with shut := nofun, answering := nofun, held := ?_ }
      rintro entry' reply' (hpc | hpc)
      · cases hpc
      · obtain ⟨rfl, rfl⟩ := RxPc.replying.inj hpc
        exact h.held entry reply (.inl hrx)
  | reply entry reply hrx =>
      refine { h with shut := nofun, answering := nofun, held := nofun, replies := ?_ }
      intro id reply' hreply
      rcases List.mem_append.1 hreply with hreply | hreply
      · exact h.replies id reply' hreply
      · obtain ⟨hid, rfl⟩ := Prod.mk.inj (List.mem_singleton.1 hreply)
        obtain rfl := Option.some.inj hid
        exact ⟨entry.info, h.held entry reply' (.inr hrx)⟩
  | shutdown hrx =>
      exact { h with shut := fun _ => rfl, answering := nofun, held := nofun }
  | sweep order hrx hperm =>
      refine { h with
        shut := fun _ => h.shut (.inl hrx), answering := nofun, held := nofun, replies := ?_ }
      intro id reply hreply
      rcases List.mem_append.1 hreply with hreply | hreply
      · exact h.replies id reply hreply
      · obtain ⟨entry, hentry, heq⟩ := List.mem_map.1 hreply
        obtain ⟨hid, rfl⟩ := Prod.mk.inj heq
        obtain rfl := Option.some.inj hid
        exact ⟨entry.info, h.owner entry (hperm.mem_iff.1 hentry), rfl⟩

theorem reachable_consistent {e : Endian} {d : DeviceInner}
    (h : (system e).Reachable Assumed d) : Consistent d := by
  refine h.invariant (P := Consistent) ?_ ?_
  · rintro d ⟨drawn, hdrawn, rfl⟩
    refine ⟨hdrawn, nofun, List.nodup_nil, nofun, nofun, ?_, nofun, nofun, nofun, nofun, nofun⟩
    intro seq
    constructor
    · intro hmem
      cases hmem
    · rintro ⟨hmem, -⟩
      cases hmem
  · intro d l d' hd hok hstep
    exact step_consistent hd hok hstep

/-! ## Refinement -/

/-- The call whose request the receiver has. -/
def heldCall (d : DeviceInner) : Option Nat :=
  match d.rx with
  | .closing entry _ => some entry.call
  | .replying entry _ => some entry.call
  | _ => none

/-- The calls that still have to be answered. After the walk over the table its entries stay where
they are. -/
def inFlight (d : DeviceInner) : List Nat :=
  d.heldCall.toList ++ if d.rx = .terminated then [] else d.entries.map Entry.call

theorem inFlight_of_free {d : DeviceInner} (h : d.rx.free = true) :
    d.inFlight = d.entries.map Entry.call := by
  unfold inFlight heldCall
  cases hrx : d.rx with
  | closing | replying | terminated =>
      rw [hrx] at h
      cases h
  | check | recv | removing | shutdown | sweep => rfl

/-- The calls that have been answered, in order. -/
def answeredCalls (d : DeviceInner) : List Nat := d.replies.filterMap Prod.fst

/-- A call has returned. -/
def Returned (d : DeviceInner) (id : Nat) : Prop := ∃ info, d.calls[id]? = some ⟨info, .returned⟩

/-- The device implements the service. -/
structure Refines (d : DeviceInner) (a : Fifo Nat) : Prop where
  pushed : ∀ id, id ∈ a.pushed ↔ d.Returned id
  waiting : a.waiting.Perm d.inFlight
  ended : a.ended = d.answeredCalls

section Steps

variable {d d' : DeviceInner} {a : Fifo Nat}

/-- A step that moves no request in or out. -/
theorem Refines.quiet (hR : d.Refines a) (hcalls : ∀ id, d'.Returned id ↔ d.Returned id)
    (hflight : d.inFlight.Perm d'.inFlight) (hreplies : d'.answeredCalls = d.answeredCalls) :
    ∃ b, Fifo.system.Reaches always a b ∧ d'.Refines b := by
  refine ⟨a, Relation.ReflTransGen.refl, ?_, hR.waiting.trans hflight, ?_⟩
  · intro id
    rw [hR.pushed, hcalls]
  · rw [hreplies]
    exact hR.ended

/-- The receiver moves on without a request. -/
theorem Refines.quiet_rx (hR : d.Refines a) (hfree : d.rx.free = true) {pc : RxPc}
    (hpc : pc.free = true) (shut : Bool) (answered : List Sequence) :
    ∃ b, Fifo.system.Reaches always a b ∧
      Refines { d with shut := shut, rx := pc, answered := answered } b := by
  refine hR.quiet (fun _ => Iff.rfl) ?_ rfl
  rw [inFlight_of_free hfree, inFlight_of_free hpc]
  exact List.Perm.refl _

theorem returned_append {c : Call} (hcalls : d'.calls = d.calls ++ [c]) (id : Nat) :
    d'.Returned id ↔ d.Returned id ∨ (id = d.calls.length ∧ c.pc = .returned) := by
  unfold Returned
  rw [hcalls]
  rcases Nat.lt_trichotomy id d.calls.length with hlt | rfl | hgt
  · rw [List.getElem?_append_left hlt]
    constructor
    · exact .inl
    · rintro (h | ⟨rfl, -⟩)
      · exact h
      · exact absurd hlt (Nat.lt_irrefl _)
  · rw [List.getElem?_concat_length, List.getElem?_eq_none (Nat.le_refl _)]
    constructor
    · rintro ⟨info, h⟩
      exact .inr ⟨rfl, by rw [Option.some.inj h]⟩
    · rintro (⟨info, h⟩ | ⟨-, h⟩)
      · cases h
      · exact ⟨c.info, by rw [← h]⟩
  · rw [List.getElem?_eq_none (by rw [List.length_append, List.length_singleton]; omega),
      List.getElem?_eq_none (by omega)]
    constructor
    · rintro ⟨info, h⟩
      cases h
    · rintro (⟨info, h⟩ | ⟨h, -⟩)
      · cases h
      · omega

theorem returned_set {id : Nat} {info : OpInInfo} (hcall : d.calls[id]? = some ⟨info, .failing⟩)
    (hcalls : d'.calls = d.calls.set id ⟨info, .returned⟩) (id' : Nat) :
    d'.Returned id' ↔ d.Returned id' ∨ id' = id := by
  obtain ⟨hlt, -⟩ := List.getElem?_eq_some_iff.1 hcall
  unfold Returned
  rw [hcalls]
  by_cases hid : id' = id
  · subst hid
    rw [List.getElem?_set_self hlt]
    exact ⟨fun _ => .inr rfl, fun _ => ⟨info, rfl⟩⟩
  · rw [List.getElem?_set_ne (Ne.symm hid)]
    constructor
    · exact .inl
    · rintro (h | h)
      · exact h
      · exact absurd h hid

/-- The next call has not returned. -/
theorem not_returned_length (d : DeviceInner) : ¬d.Returned d.calls.length := by
  rintro ⟨info, h⟩
  rw [List.getElem?_eq_none (Nat.le_refl _)] at h
  cases h

theorem not_returned_failing {id : Nat} {info : OpInInfo}
    (h : d.calls[id]? = some ⟨info, .failing⟩) : ¬d.Returned id := by
  rintro ⟨info', h'⟩
  cases h.symm.trans h'

/-- A call that has returned after its section has a new number. -/
theorem Refines.length_notMem (hR : d.Refines a) : d.calls.length ∉ a.pushed := by
  rw [hR.pushed]
  exact d.not_returned_length

theorem entries_insert {requests : AList fun _ : Sequence => Entry} {seq : Sequence} {entry : Entry}
    (h : seq ∉ requests) :
    (requests.insert seq entry).entries.map Sigma.snd =
      entry :: requests.entries.map Sigma.snd := by
  rw [AList.entries_insert_of_notMem h, List.map_cons]

theorem entries_erase {requests : AList fun _ : Sequence => Entry} {seq : Sequence} {entry : Entry}
    (h : requests.lookup seq = some entry) :
    (requests.entries.map Sigma.snd).Perm
      (entry :: (requests.erase seq).entries.map Sigma.snd) := by
  have hmem : seq ∈ requests.entries.keys := AList.lookup_isSome.1 (by rw [h]; rfl)
  obtain ⟨entry', l₁, l₂, hnot, hentries, herase⟩ := List.exists_of_kerase hmem
  have hsame : entry' = entry := by
    have hmem' : (⟨seq, entry'⟩ : Sigma fun _ : Sequence => Entry) ∈ requests.entries := by
      rw [hentries]
      exact List.mem_append_right _ List.mem_cons_self
    have hlookup := Option.mem_def.1 (AList.mem_lookup_iff.2 hmem')
    exact Option.some.inj (hlookup.symm.trans h)
  have herase' : (requests.erase seq).entries = l₁ ++ l₂ := herase
  rw [hentries, herase', hsame, List.map_append, List.map_append, List.map_cons]
  exact List.perm_middle

theorem Refines.call_sent (hR : d.Refines a) (h : Consistent d)
    (hdrawn : d.drawn + 1 < 2 ^ 64 - 1) (hshut : d.shut ≠ true) {seq : Sequence}
    (hseq : seq.val = opSeq d.drawn) (request : Request) (info : OpInInfo) :
    ∃ b, Fifo.system.Reaches always a b ∧ (d.afterSent seq request info).Refines b := by
  unfold afterSent
  -- a send after the walk over the table would leave its entry there unanswered
  have hrx : d.rx ≠ .terminated := fun hrx => hshut (h.shut (.inr hrx))
  have hnew : seq ∉ d.state.requests := by
    rw [h.table]
    exact fun hmem => h.fresh hdrawn hseq hmem.1
  refine ⟨_, Fifo.reaches_push hR.length_notMem, ?_, ?_, hR.ended⟩
  · intro id
    rw [returned_append rfl, ← hR.pushed, List.mem_append, List.mem_singleton, and_iff_left rfl]
  · have hflight := hR.waiting.append_right [d.calls.length]
    simp only [inFlight, if_neg hrx, List.append_assoc] at hflight ⊢
    refine hflight.trans (List.Perm.append_left _ ?_)
    rw [entries, entries, entries_insert hnew, List.map_cons]
    exact List.perm_append_singleton _ _

theorem Refines.refuse (hR : d.Refines a) (ha : a.Sound) {id : Nat} {info : OpInInfo}
    (hcall : d.calls[id]? = some ⟨info, .failing⟩) :
    ∃ b, Fifo.system.Reaches always a b ∧ (d.afterRefuse id info).Refines b := by
  unfold afterRefuse
  have hnew : id ∉ a.pushed := by
    rw [hR.pushed]
    exact not_returned_failing hcall
  have hwaiting : id ∉ a.waiting := fun hmem => hnew (ha.waiting_sublist.subset hmem)
  -- the job is handed in and ends at once
  have hrun := (Fifo.reaches_push hnew).trans
    (Fifo.reaches_cancel (List.mem_append_right a.waiting (List.mem_singleton.2 rfl)))
  refine ⟨_, hrun, ?_, ?_, ?_⟩
  · intro id'
    rw [returned_set hcall rfl, ← hR.pushed, List.mem_append, List.mem_singleton]
  · show ((a.waiting ++ [id]).erase id).Perm _
    rw [List.erase_append_right _ hwaiting, List.erase_cons_head, List.append_nil]
    exact hR.waiting
  · show a.ended ++ [id] = _
    rw [answeredCalls, List.filterMap_append, hR.ended]
    rfl

theorem Refines.remove_found {e : Endian} (hR : d.Refines a) {seq : Sequence} {ans : Answer}
    {entry : Entry} (hrx : d.rx = .removing seq ans)
    (hans : Answerable entry.req ans)
    (hlookup : d.state.requests.lookup seq = some entry) :
    ∃ b, Fifo.system.Reaches always a b ∧ (d.afterFound e seq entry ans).Refines b := by
  unfold afterFound
  refine hR.quiet (fun _ => Iff.rfl) ?_ rfl
  -- the entry leaves the table and the receiver has it
  have hperm := (entries_erase hlookup).map Entry.call
  rw [inFlight_of_free (congrArg RxPc.free hrx)]
  obtain ⟨reply, -, hafter⟩ := afterRemove_cases (e := e) hans
  rcases hafter with hafter | hafter
  · simp only [inFlight, heldCall, hafter, reduceCtorEq, if_false]
    exact hperm
  · simp only [inFlight, heldCall, hafter, reduceCtorEq, if_false]
    exact hperm

theorem Refines.reply (hR : d.Refines a) {entry : Entry} {reply : FuseReply}
    (hrx : d.rx = .replying entry reply) :
    ∃ b, Fifo.system.Reaches always a b ∧ (d.afterReply entry reply).Refines b := by
  unfold afterReply
  have hflight : d.inFlight = entry.call :: d.entries.map Entry.call := by
    simp only [inFlight, heldCall, hrx, reduceCtorEq, if_false]
    rfl
  have hwaiting := hR.waiting
  rw [hflight] at hwaiting
  have hmem : entry.call ∈ a.waiting := hwaiting.mem_iff.2 List.mem_cons_self
  refine ⟨_, Fifo.reaches_cancel hmem, hR.pushed, ?_, ?_⟩
  · have herase := hwaiting.erase entry.call
    rw [List.erase_cons_head] at herase
    exact herase
  · show a.ended ++ [entry.call] = _
    rw [answeredCalls, List.filterMap_append, hR.ended]
    rfl

theorem Refines.sweep (hR : d.Refines a) (ha : a.Sound) {order : List Entry} (hrx : d.rx = .sweep)
    (hperm : order.Perm d.entries) :
    ∃ b, Fifo.system.Reaches always a b ∧ (d.afterSweep order).Refines b := by
  unfold afterSweep
  have hwaiting : a.waiting.Perm (order.map Entry.call) := by
    have hall := hR.waiting
    rw [inFlight_of_free (congrArg RxPc.free hrx)] at hall
    exact hall.trans (hperm.map Entry.call).symm
  have hnodup : (order.map Entry.call).Nodup := hwaiting.nodup_iff.1 ha.waiting_nodup
  refine ⟨_, Fifo.reaches_cancels hnodup (fun x hx => hwaiting.mem_iff.2 hx) ha.waiting_nodup,
    hR.pushed, ?_, ?_⟩
  · -- every waiting call is answered
    have hnil : (a.waiting.filter fun x => x ∉ order.map Entry.call) = [] := by
      rw [List.filter_eq_nil_iff]
      intro x hx
      rw [decide_eq_true_iff, not_not]
      exact hwaiting.mem_iff.1 hx
    rw [hnil]
    exact List.Perm.refl _
  · show a.ended ++ order.map Entry.call = _
    rw [answeredCalls, List.filterMap_append, hR.ended, List.filterMap_map]
    congr 1
    exact (congrFun List.filterMap_eq_map order).symm

/-- Every step is matched by the service. -/
theorem step_refines {e : Endian} {l : DeviceLabel} (ha : a.Sound) (h : Consistent d)
    (hR : d.Refines a) (hok : Assumed d l) (hstep : step e d l = some d') :
    ∃ b, Fifo.system.Reaches always a b ∧ d'.Refines b := by
  cases step_move hstep with
  | callSent req info request seq bytes hreq hsend =>
      exact hR.call_sent h hok.1 (fun hshut => hok.2 hshut rfl) (send_seq hreq hsend) request info
  | callFails req info out pc hpc =>
      refine hR.quiet ?_ (List.Perm.refl _) rfl
      intro id
      rw [returned_append rfl]
      constructor
      · rintro (hret | ⟨-, hret⟩)
        · exact hret
        · exact absurd hret hpc
      · exact .inl
  | refuse id info hcall => exact hR.refuse ha hcall
  | draw => exact hR.quiet (fun _ => Iff.rfl) (List.Perm.refl _) rfl
  | interrupts l is => exact hR.quiet (fun _ => Iff.rfl) (List.Perm.refl _) rfl
  | refuseInterrupt id is reply =>
      refine hR.quiet (fun _ => Iff.rfl) (List.Perm.refl _) ?_
      rw [answeredCalls, List.filterMap_append]
      exact List.append_nil _
  | check hrx =>
      refine hR.quiet_rx (congrArg RxPc.free hrx) ?_ d.shut d.answered
      cases d.state.closed <;> rfl
  | recv res hrx =>
      exact hR.quiet_rx (congrArg RxPc.free hrx) (received_place res).1 d.shut d.answered
  | removeFound seq ans entry hrx hlookup =>
      exact hR.remove_found hrx (h.answerable hrx hlookup) hlookup
  | removeMissing seq ans hrx hlookup =>
      exact hR.quiet_rx (congrArg RxPc.free hrx) rfl d.shut (d.answeredAfter seq)
  | close entry reply hrx =>
      refine hR.quiet (fun _ => Iff.rfl) ?_ rfl
      simp only [inFlight, heldCall, hrx, reduceCtorEq, if_false]
      exact List.Perm.refl _
  | reply entry reply hrx => exact hR.reply hrx
  | shutdown hrx => exact hR.quiet_rx (congrArg RxPc.free hrx) rfl true d.answered
  | sweep order hrx hperm => exact hR.sweep ha hrx hperm

end Steps

/-- **The device refines the service.** -/
theorem reachable_refines {e : Endian} {d : DeviceInner} (h : (system e).Reachable Assumed d) :
    ∃ a, Fifo.system.Reachable always a ∧ d.Refines a := by
  suffices hinv : Consistent d ∧ ∃ a, Fifo.system.Reachable always a ∧ d.Refines a from hinv.2
  refine h.invariant (P := fun d => Consistent d ∧
    ∃ a, Fifo.system.Reachable always a ∧ d.Refines a) ?_ ?_
  · rintro d ⟨drawn, hdrawn, rfl⟩
    have hinit : (system e).init (start drawn) := ⟨drawn, hdrawn, rfl⟩
    refine ⟨reachable_consistent (.of_init hinit), ⟨[], [], []⟩, .of_init rfl, ?_⟩
    refine ⟨?_, List.Perm.refl _, rfl⟩
    intro id
    constructor
    · intro hmem
      cases hmem
    · rintro ⟨info, hcall⟩
      cases hcall
  · rintro d l d' ⟨hd, a, ha, hR⟩ hok hstep
    obtain ⟨b, hrun, hR'⟩ := step_refines (Fifo.reachable_sound ha) hd hR hok hstep
    exact ⟨step_consistent hd hok hstep, b, ha.trans hrun, hR'⟩

/-! ## Consequences for the device -/

section Consequences

variable {d : DeviceInner} {a : Fifo Nat} {id : Nat}

theorem Refines.count_answered (hR : d.Refines a) (ha : a.Sound) (hended : id ∈ a.ended) :
    d.answeredCalls.count id = 1 := by
  rw [← hR.ended]
  exact List.count_eq_one_of_mem ha.ended_nodup hended

/-- A call that has returned is answered, or is in flight and not answered. -/
theorem Refines.replied_or_waiting (hR : d.Refines a) (ha : a.Sound) (hret : d.Returned id) :
    d.answeredCalls.count id = 1 ∨ (d.answeredCalls.count id = 0 ∧ id ∈ d.inFlight) := by
  by_cases hended : id ∈ a.ended
  · exact .inl (hR.count_answered ha hended)
  · refine .inr ⟨?_, ?_⟩
    · rw [← hR.ended]
      exact List.count_eq_zero_of_not_mem hended
    · rw [← hR.waiting.mem_iff, ha.mem_waiting, hR.pushed]
      exact ⟨hret, hended⟩

theorem mem_inFlight (h : id ∈ d.inFlight) :
    d.heldCall = some id ∨ (d.rx ≠ .terminated ∧ ∃ entry ∈ d.entries, entry.call = id) := by
  rcases List.mem_append.1 h with h | h
  · exact .inl (Option.mem_toList.1 h)
  · by_cases hrx : d.rx = .terminated
    · rw [if_pos hrx] at h
      cases h
    · rw [if_neg hrx] at h
      exact .inr ⟨hrx, List.mem_map.1 h⟩

end Consequences

/-- **Exactly one reply.** In every state of every run that meets the assumptions:

* a request whose `handle_cuse` call has returned has got exactly one reply, or it has got none and is
  in the table or with the receiver; every reply goes to the sender of its request;
* an answer to a request that was sent and not answered before finds this request;
* when the receiver has terminated, each of these requests has got exactly one reply. -/
theorem requests_replied_once (e : Endian) (d : DeviceInner)
    (h : (system e).Reachable Assumed d) :
    (∀ id, d.Returned id →
      d.answeredCalls.count id = 1 ∨
        (d.answeredCalls.count id = 0 ∧
          ((∃ entry ∈ d.entries, entry.call = id) ∨ d.heldCall = some id))) ∧
    (∀ id reply, (some id, reply) ∈ d.replies →
      ∃ info, d.calls[id]? = some ⟨info, .returned⟩ ∧ reply.unique = info.unique) ∧
    (∀ seq ans, d.rx = .removing seq ans → seq ∈ d.sent.map Prod.fst → seq ∉ d.answered →
      ∃ entry, d.state.requests.lookup seq = some entry ∧ (seq, entry.req) ∈ d.sent) ∧
    (d.rx = .terminated → ∀ id, d.Returned id → d.answeredCalls.count id = 1) := by
  have hd := reachable_consistent h
  obtain ⟨a, hreach, hR⟩ := reachable_refines h
  have ha := Fifo.reachable_sound hreach
  refine ⟨?_, hd.replies, ?_, ?_⟩
  · intro id hret
    rcases hR.replied_or_waiting ha hret with hone | ⟨hzero, hflight⟩
    · exact .inl hone
    · rcases mem_inFlight hflight with hheld | ⟨-, hentry⟩
      · exact .inr ⟨hzero, .inr hheld⟩
      · exact .inr ⟨hzero, .inl hentry⟩
  · intro seq ans _ hsent hans
    have hmem : seq ∈ d.state.requests := (hd.table seq).2 ⟨hsent, hans⟩
    obtain ⟨entry, hlookup⟩ := Option.isSome_iff_exists.1 (AList.lookup_isSome.2 hmem)
    exact ⟨entry, hlookup, hd.entry seq entry hlookup⟩
  · intro hrx id hret
    rcases hR.replied_or_waiting ha hret with hone | ⟨-, hflight⟩
    · exact hone
    · rcases mem_inFlight hflight with hheld | ⟨hne, -⟩
      · rw [heldCall, hrx] at hheld
        cases hheld
      · exact absurd hrx hne

/-- Three calls. The server answers the read with data and the write with an error, twice, and goes away
after the poll has been interrupted; the poll is answered by the walk over the table and stays in it. -/
theorem requests_replied_once_swept :
    let d : DeviceInner := ⟨⟨false, (∅ : AList fun _ : Sequence => Entry).insert ⟨3, by decide⟩
        ⟨.poll, ⟨102⟩, 2⟩⟩, true, 3, .terminated,
      [⟨⟨100⟩, .returned⟩, ⟨⟨101⟩, .returned⟩, ⟨⟨102⟩, .returned⟩], [⟨⟨103⟩, .returned⟩],
      [(some 0, OpInInfo.sendResponse ⟨100⟩ [[65, 66]]), (some 1, OpInInfo.sendError ⟨101⟩ EIO),
        (some 2, OpInInfo.sendError ⟨102⟩ .EINTR)],
      [(⟨1, by decide⟩, .read), (⟨2, by decide⟩, .write), (⟨3, by decide⟩, .poll)],
      [⟨1, by decide⟩, ⟨2, by decide⟩, ⟨2, by decide⟩]⟩
    (system .little).Reachable Assumed d ∧ d.answeredCalls.count 0 = 1 ∧
      d.answeredCalls.count 1 = 1 ∧ d.answeredCalls.count 2 = 1 :=
  have hrun : (system .little).exec Assumed (start 0)
      [.call (.read ⟨0, 8, ⟨0⟩⟩) ⟨100⟩ .sent, .call (.write ⟨0, ⟨1⟩⟩ [67]) ⟨101⟩ .sent, .check,
        .recv (.ok (some ⟨1, by decide⟩, .read [65, 66])), .call (.poll ⟨7, 1, 1⟩) ⟨102⟩ .sent,
        .remove, .reply, .check,
        .recv (.error (.remoteError (some ⟨2, by decide⟩) 5)), .remove, .reply, .check,
        .interrupt ⟨103⟩ 102, .recv (.error (.remoteError (some ⟨2, by decide⟩) 5)),
        .sendInterrupt 0 true, .remove, .check,
        .recv (.error .badResponse), .shutdown, .sweep [⟨.poll, ⟨102⟩, 2⟩]] =
      some ⟨⟨false, (∅ : AList fun _ : Sequence => Entry).insert ⟨3, by decide⟩
          ⟨.poll, ⟨102⟩, 2⟩⟩, true, 3, .terminated,
        [⟨⟨100⟩, .returned⟩, ⟨⟨101⟩, .returned⟩, ⟨⟨102⟩, .returned⟩], [⟨⟨103⟩, .returned⟩],
        [(some 0, OpInInfo.sendResponse ⟨100⟩ [[65, 66]]), (some 1, OpInInfo.sendError ⟨101⟩ EIO),
          (some 2, OpInInfo.sendError ⟨102⟩ .EINTR)],
        [(⟨1, by decide⟩, .read), (⟨2, by decide⟩, .write), (⟨3, by decide⟩, .poll)],
        [⟨1, by decide⟩, ⟨2, by decide⟩, ⟨2, by decide⟩]⟩ := rfl
  have hinit : (system .little).init (start 0) := ⟨0, by decide, rfl⟩
  have hreach := System.reachable_of_exec hinit hrun
  have hterminated := (requests_replied_once _ _ hreach).2.2.2 rfl
  ⟨hreach, hterminated 0 ⟨⟨100⟩, rfl⟩, hterminated 1 ⟨⟨101⟩, rfl⟩, hterminated 2 ⟨⟨102⟩, rfl⟩⟩

end DeviceInner

end Cuse2Net.Virtdev

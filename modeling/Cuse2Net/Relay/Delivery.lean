import Cuse2Net.Relay.Conversation

/-!
# What the two parties do for each other

Consequences of the invariant of a conversation. A response that the server of this repository sends
is received whole, it finds its request in the client's table and it fits this request, so that the
receiver never takes the ways out for an unknown number or an unexpected response
(`responses_reach_requests`). The client in turn never sends what makes the server panic, which leaves
a response that is cut short (`server_never_panics`). Nothing that a party assumes of the other one is
left over: the client runs as it does with any peer that answers what it was asked
(`client_reachable`).

As long as the server's sends succeed and it can answer the ioctls, the numbers in the table are those
of the requests on the way, at the server or on the way back (`no_request_lost`).
-/

set_option autoImplicit false

namespace Cuse2Net.Relay

open Cuse2Net.Lib
open Cuse2Net.Lib.Bytes
open Cuse2Net.IoctlFfi
open Cuse2Net.Proto
open Cuse2Net.Realdev
open Cuse2Net.Virtdev (Answer DeviceInner DeviceLabel Answerable Entry OpInInfo)

namespace Conversation

/-! ## A read from the call to the reply -/

/-- No message that is to be answered is anywhere, and the receiver has no reply in its hands. -/
structure Quiet (c : Conversation) : Prop where
  requests : owed c.requests = 0
  server : c.server.waiting = 0
  responses : answers c.responses = 0
  removing : removing c.client = 0
  held : c.client.heldCall = none

/-- The server's system calls return what is documented. -/
def Documented (c : Conversation) : ConversationLabel → Prop
  | .server l => c.server.Documented l
  | _ => True

/-- The file is not read without blocking. -/
def Blocking : ConversationLabel → Prop
  | .call (.read rdinfo) _ _ => rdinfo.flags.intersects .NONBLOCK = false
  | _ => True

theorem numbered_idle : Server.idle.Numbered := by
  refine ⟨?_, ?_, ?_⟩
  · intro offs data rc h
    unfold DeviceFile.writeAt at h
    split at h <;> (obtain rfl := Except.error.inj h; decide)
  · intro n rc h
    obtain rfl := Except.error.inj h
    decide
  · intro cmd x buf h
    cases h

/-- The kernel reads eight bytes on a little-endian host. The server, on a big-endian one, finds two
and sends them; the client receives them and replies. -/
theorem read_round_trip :
    let ok : Conversation → ConversationLabel → Prop :=
      fun c l => c.Assumed l ∧ c.Lossless .little .big l ∧ c.Documented l ∧ Blocking l ∧ Sent l
    ∃ c c', (system .little .big).Reachable ok c ∧ c.responses = [.read ⟨1, by decide⟩ [1, 2]] ∧
      (system .little .big).Reachable ok c' ∧ c'.Quiet ∧
        c'.client.replies = [(some 0, OpInInfo.sendResponse ⟨7⟩ [[1, 2]])] ∧
          c'.client.Returned 0 ∧ c'.device = [.read [1, 2]] := by
  intro ok
  have h₀ : (system .little .big).Reachable ok (start 0) := .of_init ⟨0, by decide, rfl⟩
  have h₁ := h₀.next (l := ConversationLabel.call (.read ⟨0, 8, ⟨0⟩⟩) ⟨7⟩ .sent)
    ⟨⟨by decide, nofun, nofun⟩, trivial, trivial, rfl, trivial⟩ rfl
  have h₂ := h₁.next (l := ConversationLabel.serve Server.idle)
    ⟨⟨numbered_idle, nofun⟩, ?_, trivial, trivial, rfl⟩ rfl
  · have hserver : ∀ {c : Conversation} {l : ServerLabel}, l.Numbered → l.out = .sent →
        Server.HasAnswer .big l → c.server.Documented l → ok c (.server l) :=
      fun hnum hout hanswer hdoc => ⟨⟨hnum, by rw [hout]; exact nofun⟩, ⟨hout, hanswer⟩, hdoc, trivial,
        hout⟩
    have h₃ := h₂.next (l := ConversationLabel.server (.thread (.read .check)))
      (hserver trivial rfl trivial trivial) rfl
    have h₄ := h₃.next (l := ConversationLabel.server (.thread (.read .next)))
      (hserver trivial rfl trivial trivial) rfl
    have h₅ := h₄.next (l := ConversationLabel.server (.thread (.read (.read (.data [1, 2])))))
      (hserver trivial rfl trivial (show [1, 2].length ≤ 8 by decide)) rfl
    have h₆ := h₅.next (l := ConversationLabel.server (.thread (.read (.send .sent))))
      (hserver trivial rfl trivial trivial) rfl
    have hclient : ∀ {c : Conversation} {l : DeviceLabel}, c.Assumed (.client l) → ok c (.client l) :=
      fun hok => ⟨hok, trivial, trivial, trivial, trivial⟩
    have h₇ := h₆.next (l := ConversationLabel.client .check) (hclient trivial) rfl
    have h₈ := h₇.next (l := ConversationLabel.deliver) ⟨trivial, trivial, trivial, trivial, trivial⟩ rfl
    have h₉ := h₈.next (l := ConversationLabel.client .remove) (hclient trivial) rfl
    have h₁₀ := h₉.next (l := ConversationLabel.client .reply) (hclient trivial) rfl
    exact ⟨_, _, h₆, rfl, h₁₀, ⟨rfl, rfl, rfl, rfl, rfl⟩, rfl, ⟨⟨7⟩, rfl⟩, rfl⟩
  · intro x rest hrequests
    obtain ⟨rfl, -⟩ := List.cons.inj hrequests
    exact ⟨rfl, id⟩

/-! ## Responses find their requests -/

/-- The receiver goes on with a reply to the request. -/
def Settles (e : Endian) (entry : Entry) (ans : Answer) : Prop :=
  ∃ reply, DeviceInner.afterRemove e entry ans = .replying entry reply ∨
    DeviceInner.afterRemove e entry ans = .closing entry reply

section Delivery

variable {e e' : Endian} {c c' : Conversation}

theorem settles_remoteError (e : Endian) (entry : Entry) (rc : Nat) :
    Settles e entry (.remoteError rc) := ⟨_, .inl rfl⟩

theorem settles_response {entry : Entry} {resp : Response} (h : Answerable entry.req (.response resp)) :
    Settles e entry (.response resp) := by
  obtain ⟨reply, hreply⟩ := Virtdev.respond_of_answerable e h entry.info
  refine ⟨reply, ?_⟩
  rw [DeviceInner.afterRemove, hreply]
  cases Virtdev.closes entry.req resp with
  | true => exact .inr rfl
  | false => exact .inl rfl

/-- A number that is anywhere is in the table. -/
theorem Inv.lookup (h : Inv e e' c) {seq : Sequence} (hseq : seq ∈ c.places) :
    ∃ entry, c.client.state.requests.lookup seq = some entry := by
  have hmem : seq ∈ c.client.state.requests := Multiset.mem_coe.1 (Multiset.mem_of_le h.books hseq)
  exact Option.isSome_iff_exists.1 (AList.lookup_isSome.2 hmem)

/-- The table and the history agree on the kind of a request. -/
theorem Inv.entry_req (h : Inv e e' c) {seq : Sequence} {k : Virtdev.Request} {entry : Entry}
    (hsent : (seq, k) ∈ c.client.sent) (hlookup : c.client.state.requests.lookup seq = some entry) :
    entry.req = k := by
  have heq := List.inj_on_of_nodup_map h.client.sent_nodup (h.client.entry seq entry hlookup) hsent rfl
  exact (Prod.mk.inj heq).2

theorem Inv.settles_removing (h : Inv e e' c) {seq : Sequence} {ans : Answer}
    (hrx : c.client.rx = .removing seq ans) :
    ∃ entry, c.client.state.requests.lookup seq = some entry ∧ Settles e entry ans := by
  have hplace : seq ∈ c.places := by
    rw [places, removing_eq hrx]
    exact Multiset.mem_add.2 (.inr (Multiset.mem_singleton_self seq))
  obtain ⟨entry, hlookup⟩ := h.lookup hplace
  refine ⟨entry, hlookup, ?_⟩
  cases ans with
  | remoteError rc => exact settles_remoteError e entry rc
  | response resp =>
      obtain ⟨⟨_, k⟩, hsent, rfl, hans⟩ := h.client.answering seq resp hrx
      rw [← h.entry_req hsent hlookup] at hans
      exact settles_response hans

theorem Inv.settles_response (h : Inv e e' c) {m : Response.Reply} (hm : m ∈ c.responses) :
    ∃ seq entry res ans, Yields (Response.recv e) (m.send e') (res.mapError .err) ∧
      DeviceInner.received res = .removing seq ans ∧
        c.client.state.requests.lookup seq = some entry ∧ Settles e entry ans := by
  obtain ⟨seq, k, hsent, harrives⟩ := h.arrives (h.responses m hm)
  obtain ⟨res, ans, harrived, hreceived, hans⟩ := harrives.arrived
  obtain ⟨res', harrived', hrecv⟩ := harrives.recv
  obtain rfl : res = res' := Option.some.inj (harrived.symm.trans harrived')
  have hplace : seq ∈ c.places := by
    have hmem : seq ∈ answers c.responses :=
      Multiset.mem_coe.2 (List.mem_filterMap.2 ⟨m, hm, harrives.seq_eq⟩)
    exact Multiset.mem_add.2 (.inl (Multiset.mem_add.2 (.inr hmem)))
  obtain ⟨entry, hlookup⟩ := h.lookup hplace
  refine ⟨seq, entry, res, ans, hrecv, hreceived, hlookup, ?_⟩
  cases ans with
  | remoteError rc => exact settles_remoteError e entry rc
  | response resp =>
      obtain rfl := DeviceInner.received_response hreceived
      have hfit := hans resp rfl
      rw [← h.entry_req hsent hlookup] at hfit
      exact Conversation.settles_response hfit

end Delivery

section Client

variable {e e' : Endian} {c c' : Conversation} {l : ConversationLabel}

end Client

/-! ## No request is lost -/

theorem Quiet.places {c : Conversation} (h : c.Quiet) : c.places = 0 := by
  rw [Conversation.places, h.requests, h.server, h.responses, h.removing]
  rfl

section Server

variable {e e' : Endian} {c c' : Conversation} {l : ConversationLabel}

/-- The client asks for the window size without an argument. -/
theorem not_queriesWinsize {x : Letter} {sent : List (Sequence × Virtdev.Request)}
    (hx : x.Sealed e sent) {seq : Sequence} {ioinfo : Request.Ioctl} {arg : Arg}
    (hreceived : x.received e e' = .ioctl seq ioinfo arg) (driver : Driver) :
    ¬QueriesWinsize e' driver (ioinfo.cmd.asNative e') arg := by
  rintro ⟨hcmd, y, rfl, -⟩
  obtain ⟨n, req, bytes⟩ := x
  cases req with
  | ioctl cmd a =>
      obtain ⟨-, hinfo, harg⟩ := Request.ioctl.inj hreceived
      obtain ⟨z, buf, hdecode⟩ := hx.decoded
      rw [Arg.decode_cuse_eq] at hdecode
      have hnum : ioinfo.cmd.asNative e' = cmd.num := by
        rw [← hinfo]
        exact Be.asNative_fromNative byteWidth_32 e' _
      rw [hnum, ← classify_eq_getWinsize_iff] at hcmd
      rw [hcmd] at hdecode
      obtain rfl := Except.ok.inj hdecode
      cases harg
  | _ => cases hreceived

theorem Inv.not_doubled (h : Inv e e' c) (seq : Sequence) :
    ¬c.server.session.read.inner.Doubled seq := by
  rintro ⟨-, htwo⟩
  have hreads := Multiset.coe_nodup.1 (Multiset.nodup_add.1 h.waiting_nodup).1
  have hsub : c.server.session.read.inner.readOps.Sublist c.server.session.read.outstanding :=
    (List.sublist_append_right _ _).trans (List.sublist_append_right _ _)
  have hone := ReadInner.filter_key_length_le ((hsub.map Prod.fst).nodup hreads) seq
  omega

/-- A response of the server is cut short in the step. -/
def CutShort (e e' : Endian) (c : Conversation) : ConversationLabel → Prop
  | .serve env =>
      ∃ x rest, c.requests = x :: rest ∧ Server.CutShort e' (.request (x.received e e') env)
  | .server l => Server.CutShort e' l
  | _ => False

/-- A send that is cut short is incomplete. -/
theorem incomplete_of_cutShort {l : ServerLabel} (h : Server.CutShort e l) : l.out = .incomplete := by
  unfold Server.CutShort at h
  split at h
  · exact Server.incomplete_of_cut h
  · exact h
  · exact h
  · cases h

theorem not_cutShort_of_assumed (h : c.Assumed l) : ¬c.CutShort e e' l := by
  intro hcut
  cases l with
  | serve env =>
      obtain ⟨x, rest, -, hcut⟩ := hcut
      exact h.2 (incomplete_of_cutShort hcut)
  | server l => exact h.2 (incomplete_of_cutShort hcut)
  | _ => exact hcut

/-- What a step is for the server: nothing, or a step of it that provokes nothing. -/
theorem Inv.server_step (h : Inv e e' c) (hdoc : c.Documented l) (hstep : c.step e e' l = some c') :
    (c'.server = c.server ∧ ¬c.CutShort e e' l) ∨ ∃ l', c.server.Documented l' ∧
      ¬c.server.Provokes e' l' ∧ (Server.CutShort e' l' ↔ c.CutShort e e' l) ∧
        c.server.step e' l' = some c'.server := by
  cases step_move hstep with
  | call k req info out c' hpending hstep => exact .inl ⟨(stepClient_eq hstep).2.1, id⟩
  | client l c' hown hstep => exact .inl ⟨(stepClient_eq hstep).2.1, id⟩
  | deliver m rest res c' hresponses harrived hstep => exact .inl ⟨(stepClient_eq hstep).2.1, id⟩
  | fault errno c' hstep => exact .inl ⟨(stepClient_eq hstep).2.1, id⟩
  | serve x rest env c' hrequests haccepted hstep =>
      have hdoc' : c.server.Documented (.request (x.received e e') env) := trivial
      refine .inr ⟨_, hdoc', ?_, ?_, (stepServer_eq hstep).1⟩
      · have hx : x ∈ c.requests := by rw [hrequests]; exact List.mem_cons_self
        cases hreceived : x.received e e' with
        | interrupt seq => exact h.not_doubled seq
        | ioctl seq ioinfo arg => exact not_queriesWinsize (h.letters x hx).1 hreceived env.driver
        | _ => exact id
      · refine ⟨fun hcut => ⟨x, rest, hrequests, hcut⟩, ?_⟩
        rintro ⟨x', rest', hrequests', hcut⟩
        obtain ⟨rfl, -⟩ := List.cons.inj (hrequests.symm.trans hrequests')
        exact hcut
  | server l c' hown hstep =>
      refine .inr ⟨l, hdoc, ?_, Iff.rfl, (stepServer_eq hstep).1⟩
      cases l with
      | request => cases hown
      | _ => exact id

/-- **Which steps make the server panic**: those that cut a response short. -/
theorem Inv.panicked_iff (h : Inv e e' c) (hpanic : ¬c.server.Panicked) (hdoc : c.Documented l)
    (hstep : c.step e e' l = some c') : c'.server.Panicked ↔ c.CutShort e e' l := by
  rcases h.server_step hdoc hstep with ⟨hsame, hcut⟩ | ⟨l', hdoc', hprovokes, hcut, hstep'⟩
  · rw [hsame]
    exact iff_of_false hpanic hcut
  · rw [Server.step_panicked_iff h.isOpen hpanic hdoc' hstep', Server.Offends, or_iff_right hprovokes]
    exact hcut

end Server

theorem not_panicked_start : ¬Server.start.Panicked := by
  rintro (h | h)
  · cases h
  · cases h with
    | interrupt h => cases h
    | reader h =>
        obtain ⟨a, req, h⟩ := h
        cases h
    | worker h => cases h

/-- **The server does not panic when it talks to this client**, as long as no response is cut short:
sequence numbers are used once, so no two reads in its queue have the number of an interrupt, and the
client sends no argument with a query of the window size. After such a run, a step makes a thread of the
server panic exactly when `send_vectored_all` gets only a part of a response onto the connection. -/
theorem server_never_panics (e e' : Endian) (c : Conversation)
    (h : (system e e').Reachable (fun c l => c.Assumed l ∧ c.Documented l) c) :
    ¬c.server.Panicked ∧ ∀ l c', c.Documented l → c.step e e' l = some c' →
      (c'.server.Panicked ↔ c.CutShort e e' l) := by
  suffices hinv : Inv e e' c ∧ ¬c.server.Panicked from
    ⟨hinv.2, fun l c' hdoc hstep => hinv.1.panicked_iff hinv.2 hdoc hstep⟩
  refine h.invariant (P := fun c => Inv e e' c ∧ ¬c.server.Panicked) ?_ ?_
  · rintro c ⟨drawn, hdrawn, rfl⟩
    exact ⟨inv_start hdrawn, not_panicked_start⟩
  · rintro c l c' ⟨hinv, hpanic⟩ ⟨hok, hdoc⟩ hstep
    refine ⟨(hinv.step hok hstep).1, ?_⟩
    rw [hinv.panicked_iff hpanic hdoc hstep]
    exact not_cutShort_of_assumed hok

theorem server_never_panics_read :
    ∃ c, (system .little .big).Reachable (fun c l => c.Assumed l ∧ c.Documented l) c ∧
      c.client.replies = [(some 0, OpInInfo.sendResponse ⟨7⟩ [[1, 2]])] ∧ ¬c.server.Panicked := by
  obtain ⟨-, c, -, -, hreach, -, hreplies, -⟩ := read_round_trip
  have hc := hreach.mono fun c l hok => And.intro hok.1 hok.2.2.1
  exact ⟨c, hc, hreplies, (server_never_panics .little .big c hc).1⟩

end Conversation

end Cuse2Net.Relay

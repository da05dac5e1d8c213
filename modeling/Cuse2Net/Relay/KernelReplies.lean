import Cuse2Net.Relay.Delivery
import Cuse2Net.Virtdev.IoctlRetry

/-!
# The replies to the kernel

The kernel checks what a device answers: the length in the header must be that of the message, an
error number must be small and comes without data, a read must not return more than was asked for, and
a write must not claim more than was given. `KernelCall.Admits` says which replies to a request are
fit for it.

A reply is made of a response that the server has made of a letter, and the letter of a request of the
kernel. `Replied` follows the sequence number back to that request, over the client's table, through
every state of a conversation; `replies_admissible` is the result.
-/

set_option autoImplicit false

namespace Cuse2Net.Virtdev

open Cuse2Net.Lib
open Cuse2Net.Lib.Bytes
open Cuse2Net.IoctlFfi
open Cuse2Net.Proto

/-! ## What the kernel admits -/

/-- The data of a reply that reports success. An ioctl that returns a buffer fills the memory that the
retry handshake has asked the kernel for. -/
def KernelCall.Payload (e : Endian) (data : List UInt8) : KernelCall → Prop
  | .release => data = []
  | .write _ bytes => ∃ n : BitVec 32, n.toNat ≤ bytes.length ∧ data = fuseWriteOut e n
  | .read rdinfo => data.length ≤ rdinfo.size.toNat
  | .ioctl cmd _ _ => ∃ out, data = fuseIoctlOut e 0 UNRESTRICTED 0 1 ++ out ∧
      out.length = if (BadIoctl.new ⟨cmd⟩).isRead then argSize cmd else 0
  | .poll _ => ∃ ev, data = fusePollOut e ev

/-- A reply is fit for a request: the length is right, and it reports success with the data of the
request or an error number without data. -/
def KernelCall.Admits (e : Endian) (reply : FuseReply) (k : KernelCall) : Prop :=
  reply.len.toNat = fuseOutHeaderSize + reply.data.length ∧
    ((reply.error = 0 ∧ k.Payload e reply.data) ∨
      ∃ code, 0 < code ∧ code < 512 ∧ reply.error = -BitVec.ofNat 32 code ∧ reply.data = [])

section Admits

variable {e : Endian} {k : KernelCall}

theorem admits_error {errno : Errno} (h : errno.code ≠ 0) (info : OpInInfo) :
    k.Admits e (info.sendError errno) := by
  have hknown := errno.known
  simp only [knownErrno, Bool.and_eq_true, decide_eq_true_eq] at hknown
  exact ⟨rfl, .inr ⟨errno.code, Nat.pos_of_ne_zero h, by omega, rfl, rfl⟩⟩

theorem sendResponse_len (data : List (List UInt8)) (n : Nat) :
    data.foldl (fun acc a => acc + a.length) n = n + data.flatten.length := by
  induction data generalizing n with
  | nil => rfl
  | cons a data ih => rw [List.foldl_cons, ih, List.flatten_cons, List.length_append, Nat.add_assoc]

theorem admits_response {info : OpInInfo} {data : List (List UInt8)}
    (hlen : data.flatten.length < 0x10000) (h : k.Payload e data.flatten) :
    k.Admits e (info.sendResponse data) := by
  refine ⟨?_, .inl ⟨rfl, h⟩⟩
  show (BitVec.ofNat 32 _).toNat = _
  rw [sendResponse_len, BitVec.toNat_ofNat, Nat.mod_eq_of_lt]
  · rfl
  · exact Nat.lt_of_lt_of_le (Nat.add_lt_add_left hlen _) (by decide)

theorem admits_record {T : Type} {info : OpInInfo} (L : Layout T) (t : T) (hsize : L.size < 0x10000)
    (h : k.Payload e (L.bytes t)) : k.Admits e (info.sendResponse [L.bytes t]) := by
  have hflatten : [L.bytes t].flatten = L.bytes t := List.append_nil _
  refine admits_response ?_ ?_
  · rw [hflatten, L.length_bytes]
    exact hsize
  · rw [hflatten]
    exact h

theorem admits_ioctl {info : OpInInfo} {cmd : BitVec 32} {x : BitVec 64} {buf : List UInt8}
    {data : Option (List UInt8)}
    (h : data.toList.flatten.length = if (BadIoctl.new ⟨cmd⟩).isRead then argSize cmd else 0) :
    (KernelCall.ioctl cmd x buf).Admits e
      (info.sendResponse (fuseIoctlOut e 0 UNRESTRICTED 0 1 :: data.toList)) := by
  refine admits_response ?_ ⟨data.toList.flatten, rfl, h⟩
  have hsize := argSize_lt cmd
  have hle : data.toList.flatten.length ≤ argSize cmd := by
    rw [h]
    split
    · exact Nat.le_refl _
    · exact Nat.zero_le _
  rw [List.flatten_cons, List.length_append, fuseIoctlOut, Layout.length_bytes]
  exact Nat.lt_of_le_of_lt (Nat.add_le_add_left hle _)
    (Nat.lt_of_lt_of_le (Nat.add_lt_add_left hsize _) (show 16 + 2 ^ 14 ≤ 0x10000 by decide))

end Admits

end Cuse2Net.Virtdev

namespace Cuse2Net.Relay

open Cuse2Net.Lib
open Cuse2Net.Lib.Bytes
open Cuse2Net.IoctlFfi
open Cuse2Net.Proto
open Cuse2Net.Realdev
open Cuse2Net.Virtdev

/-! ## From the response to the reply -/

section Answer

variable {e e' : Endian} {reply : FuseReply}

theorem length_objToCuse {T : Type} (L : Layout T) (t : T) :
    (objToCuse L t).toList.flatten.length = L.size := by
  rw [← L.length_bytes t]
  exact congrArg List.length (List.append_nil _)

/-- The buffer for the caller of an ioctl that the server has served. -/
theorem served_length {mem : Memory} {x : BitVec 64} {buf b : List UInt8} {a r : Arg}
    {cmd : IoctlFfi.Ioctl} {res : BitVec 64 × List UInt8} {data : Option (List UInt8)}
    (hclient : Arg.clientArg e x buf (CommandClass.classify cmd) = .ok a) (hraw : a.isRaw = false)
    (hdevice : Arg.deviceArg e' mem (CommandClass.classify cmd) (a.rehost e e') = .ok res)
    (hb : b.length = res.2.length)
    (hserver : Arg.serverArg e' res.1 b (CommandClass.classify cmd) = .ok r)
    (hdata : (r.rehost e' e).cuseResponse e cmd = .ok data) :
    data.toList.flatten.length =
      if (BadIoctl.new cmd).isRead then argSize cmd.num else 0 := by
  rw [Arg.cuseResponse_eq] at hdata
  have hshape := CommandClass.shape_classify cmd
  unfold argSize
  generalize CommandClass.classify cmd = k at hclient hdevice hserver hdata hshape
  cases k with
  | setTermios | setTermios2 | setInt | flush =>
      obtain rfl := Except.ok.inj hserver
      have hread : (BadIoctl.new cmd).isRead = false := hshape.read nofun
      rw [hread] at hdata ⊢
      obtain rfl := Except.ok.inj hdata
      rfl
  | getTermios =>
      have hread : (BadIoctl.new cmd).isRead = true := hshape.read nofun
      obtain ⟨ios, -, rfl⟩ := ok_of_map hserver
      obtain rfl := Except.ok.inj hdata
      rw [hread, if_pos rfl, hshape.size _ rfl]
      exact length_objToCuse _ _
  | getQueued =>
      have hread : (BadIoctl.new cmd).isRead = true := hshape.read nofun
      obtain ⟨val, -, rfl⟩ := ok_of_map hserver
      rw [hread] at hdata ⊢
      obtain rfl := Except.ok.inj hdata
      rw [if_pos rfl, hshape.size _ rfl]
      exact length_objToCuse _ _
  | getModem =>
      have hread : (BadIoctl.new cmd).isRead = true := hshape.read nofun
      obtain rfl := Except.ok.inj hclient
      obtain rfl := Except.ok.inj hdevice
      obtain rfl := Except.ok.inj hserver
      rw [hread] at hdata ⊢
      obtain rfl := Except.ok.inj hdata
      rw [if_pos rfl, hshape.size _ rfl]
      rw [length_uninitArg] at hb
      exact (congrArg List.length (List.append_nil b)).trans hb
  | getWinsize | getTermios2 | otherRead =>
      obtain rfl := Except.ok.inj hclient
      cases hdevice
  | otherWrite | plain =>
      obtain rfl := Except.ok.inj hclient
      cases hraw
  | setWinsize => cases hclient

/-- What follows for a request when a response fits it. -/
theorem reply_of_response {entry : Entry} {resp : Response}
    (h : DeviceInner.afterRemove e entry (.response resp) = .replying entry reply ∨
      DeviceInner.afterRemove e entry (.response resp) = .closing entry reply) :
    respond e entry.req entry.info resp = .ok reply := by
  simp only [DeviceInner.afterRemove] at h
  cases hrespond : respond e entry.req entry.info resp with
  | error f =>
      rw [hrespond] at h
      rcases h with h | h <;> cases h
  | ok r =>
      rw [hrespond] at h
      cases hcloses : closes entry.req resp with
      | true =>
          simp only [hcloses, if_true] at h
          rcases h with h | h
          · cases h
          · rw [(RxPc.closing.inj h).2]
      | false =>
          simp only [hcloses, Bool.false_eq_true, if_false] at h
          rcases h with h | h
          · rw [(RxPc.replying.inj h).2]
          · cases h

theorem error_admits {k : KernelCall} {entry : Entry} {rc : Errno} {n seq : Sequence} {ans : Answer}
    {res : Except Proto.Error (Option Sequence × Response)}
    (hnum : Response.Reply.Numbered (.err n rc)) (harrived : arrived e e' (.err n rc) = some res)
    (hreceived : DeviceInner.received res = .removing seq ans)
    (hreply : DeviceInner.afterRemove e entry ans = .replying entry reply ∨
      DeviceInner.afterRemove e entry ans = .closing entry reply) : k.Admits e reply := by
  obtain rfl := Option.some.inj harrived
  obtain ⟨-, rfl⟩ := RxPc.removing.inj hreceived
  have hknown : Errno.fromI32 rc.code = rc := dif_pos rc.known
  simp only [DeviceInner.afterRemove, hknown] at hreply
  rcases hreply with h | h
  · rw [← (RxPc.replying.inj h).2]
    exact admits_error hnum entry.info
  · cases h

/-- **A reply that is made of a response to a letter is fit for the request of the letter.** -/
theorem answer_admits {k : KernelCall} {x : Letter} {m : Response.Reply} {entry : Entry}
    {res : Except Proto.Error (Option Sequence × Response)} {seq : Sequence} {ans : Answer}
    (hpending : k.pending e = .ok x.req) (hentry : x.req.request = some entry.req)
    (hm : Responds e' (x.received e e') m) (hnum : m.Numbered)
    (harrived : arrived e e' m = some res) (hreceived : DeviceInner.received res = .removing seq ans)
    (hreply : DeviceInner.afterRemove e entry ans = .replying entry reply ∨
      DeviceInner.afterRemove e entry ans = .closing entry reply) : k.Admits e reply := by
  obtain ⟨n, req, bytes⟩ := x
  obtain ⟨kind, info, call⟩ := entry
  -- the request decides which responses there are, and the reply follows from the response
  cases k with
  | release =>
      obtain rfl := Except.ok.inj hpending
      obtain rfl := Option.some.inj hentry
      cases hm with
      | err rc howed => exact error_admits hnum harrived hreceived hreply
      | release n =>
          obtain rfl := Option.some.inj harrived
          obtain ⟨-, rfl⟩ := RxPc.removing.inj hreceived
          obtain rfl := Except.ok.inj (reply_of_response hreply)
          exact ⟨rfl, .inl ⟨rfl, rfl⟩⟩
  | write wrinfo data =>
      obtain rfl := Except.ok.inj hpending
      obtain rfl := Option.some.inj hentry
      cases hm with
      | err rc howed => exact error_admits hnum harrived hreceived hreply
      | write n winfo data count hcount =>
          obtain rfl := Option.some.inj harrived
          obtain ⟨-, rfl⟩ := RxPc.removing.inj hreceived
          obtain rfl := Except.ok.inj (reply_of_response hreply)
          refine admits_record _ _ (show 8 < 0x10000 by decide) ⟨_, ?_, rfl⟩
          exact Nat.le_trans (Nat.mod_le _ _) hcount
  | read rdinfo =>
      obtain rfl := Except.ok.inj hpending
      obtain rfl := Option.some.inj hentry
      cases hm with
      | err rc howed => exact error_admits hnum harrived hreceived hreply
      | read n rinfo data hdata =>
          obtain rfl := Option.some.inj harrived
          obtain ⟨-, rfl⟩ := RxPc.removing.inj hreceived
          obtain rfl := Except.ok.inj (reply_of_response hreply)
          have hflatten : [data].flatten = data := List.append_nil data
          have hsize : (Be.fromNative e' rdinfo.size).asNative e' = rdinfo.size :=
            Be.asNative_fromNative byteWidth_32 e' _
          refine admits_response ?_ ?_
          · rw [hflatten]
            exact Nat.lt_of_le_of_lt (Nat.le_trans hdata (Nat.min_le_right _ _)) (by decide)
          · show [data].flatten.length ≤ _
            rw [hflatten, ← hsize]
            exact Nat.le_trans hdata (Nat.min_le_left _ _)
  | ioctl cmd y buf =>
      obtain ⟨arg, hdecode, hreq⟩ := ok_of_map hpending
      obtain rfl := hreq
      obtain rfl := Option.some.inj hentry
      rw [Arg.decode_cuse_eq] at hdecode
      cases hm with
      | err rc howed => exact error_admits hnum harrived hreceived hreply
      | ioctl n ioinfo arg' r rc mem out b hraw hdevice hb hserver =>
          obtain rfl := Option.some.inj harrived
          obtain ⟨-, rfl⟩ := RxPc.removing.inj hreceived
          have hcmd : (Be.fromNative e' (IoctlFfi.Ioctl.mk cmd).asNumeric).asNative e' = cmd :=
            Be.asNative_fromNative byteWidth_32 e' _
          rw [hcmd] at hdevice hserver
          rw [isRaw_rehost] at hraw
          have hok : handleIoctl e info ⟨cmd⟩ rc (r.rehost e' e) = .ok reply := reply_of_response hreply
          obtain ⟨data, hdata, -⟩ := ok_of_bind hok
          rw [handleIoctl_eq rc hdata] at hok
          rw [← Except.ok.inj hok]
          exact admits_ioctl (served_length hdecode hraw hdevice hb hserver hdata)
  | poll pollinfo =>
      obtain rfl := Except.ok.inj hpending
      obtain rfl := Option.some.inj hentry
      cases hm with
      | err rc howed => exact error_admits hnum harrived hreceived hreply
      | poll n pinfo ev =>
          obtain rfl := Option.some.inj harrived
          obtain ⟨-, rfl⟩ := RxPc.removing.inj hreceived
          obtain rfl := Except.ok.inj (reply_of_response hreply)
          exact admits_record _ _ (show 8 < 0x10000 by decide) ⟨_, rfl⟩

end Answer

/-! ## From the number to the request -/

namespace Conversation

/-- The history of the kernel's requests and the client's state belong together. -/
structure Replied (e e' : Endian) (c : Conversation) : Prop where
  /-- One request for each call. -/
  length : c.log.length = c.client.calls.length
  numbers : c.log.filterMap (fun p => p.2.map Letter.seq) = c.client.sent.map Prod.fst
  entries : ∀ seq entry, c.client.state.requests.lookup seq = some entry →
    ∃ k x, c.log[entry.call]? = some (k, some x) ∧ x.seq = seq ∧ x.req.request = some entry.req
  /-- What the receiver has in its hands is a response of the server. -/
  removing : ∀ seq ans, c.client.rx = .removing seq ans →
    ∃ m res, c.Answered e e' m ∧ arrived e e' m = some res ∧
      DeviceInner.received res = .removing seq ans
  held : ∀ entry reply, c.client.rx = .closing entry reply ∨ c.client.rx = .replying entry reply →
    ∃ k x, c.log[entry.call]? = some (k, some x) ∧ x.req.request = some entry.req ∧ k.Admits e reply
  replies : ∀ id reply, (some id, reply) ∈ c.client.replies →
    ∃ p, c.log[id]? = some p ∧ p.1.Admits e reply

section Replied

variable {e e' : Endian} {c c' : Conversation}

/-- The number tells the request. -/
theorem log_inj (hnodup : (c.log.filterMap fun p => p.2.map Letter.seq).Nodup) {k k' : KernelCall}
    {x x' : Letter} (h : (k, some x) ∈ c.log) (h' : (k', some x') ∈ c.log) (hseq : x.seq = x'.seq) :
    k = k' ∧ x = x' := by
  by_contra hne
  have hpair : (k, some x) ≠ (k', some x') := by
    intro heq
    obtain ⟨rfl, hx⟩ := Prod.mk.inj heq
    exact hne ⟨rfl, Option.some.inj hx⟩
  rw [List.Nodup, List.pairwise_filterMap] at hnodup
  have hsymm : Std.Symm fun p q : KernelCall × Option Letter =>
      ∀ a, p.2.map Letter.seq = some a → ∀ b, q.2.map Letter.seq = some b → a ≠ b :=
    ⟨fun p q hpq a ha b hb => (hpq b hb a ha).symm⟩
  exact hnodup.forall h h' hpair x.seq rfl x'.seq rfl hseq

/-- A part of the history does not change. -/
theorem log_append {new : List (KernelCall × Option Letter)} {id : Nat}
    {p : KernelCall × Option Letter} (h : c.log[id]? = some p) : (c.log ++ new)[id]? = some p := by
  obtain ⟨hlt, -⟩ := List.getElem?_eq_some_iff.1 h
  rw [List.getElem?_append_left hlt]
  exact h

theorem Replied.log_of_call (h : Replied e e' c) {id : Nat} {call : Virtdev.Call}
    (hcall : c.client.calls[id]? = some call) : ∃ p, c.log[id]? = some p := by
  obtain ⟨hlt, -⟩ := List.getElem?_eq_some_iff.1 hcall
  rw [← h.length] at hlt
  exact ⟨_, List.getElem?_eq_getElem hlt⟩

/-- The request of an entry of the table. -/
theorem Replied.log_of_entry (h : Replied e e' c) {entry : Entry} (hentry : entry ∈ c.client.entries) :
    ∃ p, c.log[entry.call]? = some p := by
  obtain ⟨seq, hlookup⟩ := DeviceInner.mem_entries.1 hentry
  obtain ⟨k, x, hlog, -⟩ := h.entries seq entry hlookup
  exact ⟨_, hlog⟩

/-- Steps of the server do not touch it. -/
theorem Replied.of_eq (h : Replied e e' c) (hclient : c'.client = c.client) (hlog : c'.log = c.log) :
    Replied e e' c' := by
  have hanswered : ∀ m, c.Answered e e' m → c'.Answered e e' m := fun m hm =>
    hm.mono (by rw [hlog]; exact List.Subset.refl _)
  refine ⟨?_, ?_, ?_, ?_, ?_, ?_⟩
  · rw [hclient, hlog]
    exact h.length
  · rw [hclient, hlog]
    exact h.numbers
  · rw [hclient, hlog]
    exact h.entries
  · rw [hclient]
    intro seq ans hrx
    obtain ⟨m, res, hm, hres⟩ := h.removing seq ans hrx
    exact ⟨m, res, hanswered m hm, hres⟩
  · rw [hclient, hlog]
    exact h.held
  · rw [hclient, hlog]
    exact h.replies

/-- A step of the client that makes no call and receives nothing. -/
theorem Replied.withClient (h : Replied e e' c) {d : DeviceInner}
    (hcalls : d.calls.length = c.client.calls.length) (hsent : d.sent = c.client.sent)
    (hentries : ∀ seq entry, d.state.requests.lookup seq = some entry →
      c.client.state.requests.lookup seq = some entry)
    (hremoving : ∀ seq ans, d.rx = .removing seq ans → c.client.rx = .removing seq ans)
    (hheld : ∀ entry reply, d.rx = .closing entry reply ∨ d.rx = .replying entry reply →
      ∃ k x, c.log[entry.call]? = some (k, some x) ∧ x.req.request = some entry.req ∧
        k.Admits e reply)
    (hreplies : ∀ id reply, (some id, reply) ∈ d.replies → (some id, reply) ∈ c.client.replies ∨
      ∃ p, c.log[id]? = some p ∧ p.1.Admits e reply) : Replied e e' { c with client := d } := by
  refine ⟨h.length.trans hcalls.symm, ?_, ?_, ?_, hheld, ?_⟩
  · show c.log.filterMap _ = d.sent.map Prod.fst
    rw [hsent]
    exact h.numbers
  · exact fun seq entry hlookup => h.entries seq entry (hentries seq entry hlookup)
  · exact fun seq ans hrx => h.removing seq ans (hremoving seq ans hrx)
  · intro id reply hreply
    rcases hreplies id reply hreply with hreply | hp
    · exact h.replies id reply hreply
    · exact hp

/-- The reply to a response that the receiver has in its hands. -/
theorem Replied.removed (h : Replied e e' c) (hinv : Inv e e' c) {seq : Sequence} {ans : Answer}
    {entry entry' : Entry} {reply : FuseReply} (hrx : c.client.rx = .removing seq ans)
    (hlookup : c.client.state.requests.lookup seq = some entry)
    (hreply : DeviceInner.afterRemove e entry ans = .closing entry' reply ∨
      DeviceInner.afterRemove e entry ans = .replying entry' reply) :
    ∃ k x, c.log[entry'.call]? = some (k, some x) ∧ x.req.request = some entry'.req ∧
      k.Admits e reply := by
  -- the reply is one to the entry that was found
  obtain rfl : entry = entry' := by
    obtain ⟨found, hfound, r, hr⟩ := hinv.settles_removing hrx
    obtain rfl : entry = found := Option.some.inj (hlookup.symm.trans hfound)
    rcases hr with hr | hr
    · rw [hr] at hreply
      rcases hreply with h | h
      · cases h
      · exact (RxPc.replying.inj h).1
    · rw [hr] at hreply
      rcases hreply with h | h
      · exact (RxPc.closing.inj h).1
      · cases h
  obtain ⟨k, x, hlog, hseq, hreq⟩ := h.entries seq entry hlookup
  obtain ⟨m, res, ⟨x', ⟨k', hx'⟩, hresponds, hnum⟩, harrived, hreceived⟩ := h.removing seq ans hrx
  -- the response belongs to the letter of the entry, which has the same number
  have hseq' : x'.seq = seq := by
    obtain ⟨kind, -, harrives⟩ := arrives_responds (hinv.log k' x' hx').2 hresponds hnum
    obtain ⟨res', ans', harrived', hreceived', -⟩ := harrives.arrived
    obtain rfl : res = res' := Option.some.inj (harrived.symm.trans harrived')
    exact (RxPc.removing.inj (hreceived'.symm.trans hreceived)).1
  have hmem : (k, some x) ∈ c.log := List.mem_of_getElem? hlog
  have hnodup : (c.log.filterMap fun p => p.2.map Letter.seq).Nodup := by
    rw [h.numbers]
    exact hinv.client.sent_nodup
  obtain ⟨rfl, rfl⟩ := log_inj hnodup hmem hx' (hseq.trans hseq'.symm)
  refine ⟨k, x, hlog, hreq, ?_⟩
  exact answer_admits (hinv.log k x hmem).1 hreq hresponds hnum harrived hreceived hreply.symm

/-- A step of the client that makes no call and receives nothing. -/
theorem Replied.own {d : DeviceInner} {l : DeviceLabel} (h : Replied e e' c) (hinv : Inv e e' c)
    (hown : ownClient l = true) (hstep : c.client.step e l = some d) :
    Replied e e' { c with client := d } := by
  cases DeviceInner.step_move hstep with
  | callSent | callFails | recv => cases hown
  | refuse call info hcall =>
      refine h.withClient List.length_set rfl (fun _ _ => id) (fun _ _ => id) h.held ?_
      intro id reply hreply
      rcases List.mem_append.1 hreply with hreply | hreply
      · exact .inl hreply
      · obtain ⟨hid, rfl⟩ := Prod.mk.inj (List.mem_singleton.1 hreply)
        obtain rfl := Option.some.inj hid
        obtain ⟨p, hp⟩ := h.log_of_call hcall
        exact .inr ⟨p, hp, admits_error (by decide) info⟩
  | draw | interrupts =>
      exact h.withClient rfl rfl (fun _ _ => id) (fun _ _ => id) h.held (fun _ _ => .inl)
  | refuseInterrupt intr is reply =>
      refine h.withClient rfl rfl (fun _ _ => id) (fun _ _ => id) h.held ?_
      intro id reply' hreply
      rcases List.mem_append.1 hreply with hreply | hreply
      · exact .inl hreply
      · cases List.mem_singleton.1 hreply
  | check hrx =>
      refine h.withClient rfl rfl (fun _ _ => id) ?_ ?_ (fun _ _ => .inl)
      all_goals cases c.client.state.closed <;> exact nofun
  | removeFound seq ans entry hrx hlookup =>
      refine h.withClient rfl rfl ?_ ?_ ?_ (fun _ _ => .inl)
      · intro seq' entry' hlookup'
        by_cases hseq : seq' = seq
        · rw [hseq] at hlookup'
          cases (AList.lookup_erase _ _).symm.trans hlookup'
        · exact (AList.lookup_erase_ne hseq).symm.trans hlookup'
      · intro seq' ans' hrx'
        exact absurd hrx' (afterRemove_ne entry ans seq' ans')
      · intro entry' reply hreply
        exact h.removed hinv hrx hlookup hreply
  | removeMissing seq ans hrx hlookup =>
      exact h.withClient rfl rfl (fun _ _ => id) nofun nofun (fun _ _ => .inl)
  | close entry reply hrx =>
      refine h.withClient rfl rfl (fun _ _ => id) nofun ?_ (fun _ _ => .inl)
      rintro entry' reply' (hpc | hpc)
      · cases hpc
      · obtain ⟨rfl, rfl⟩ := RxPc.replying.inj hpc
        exact h.held entry reply (.inl hrx)
  | reply entry reply hrx =>
      refine h.withClient rfl rfl (fun _ _ => id) nofun nofun ?_
      intro id reply' hreply
      rcases List.mem_append.1 hreply with hreply | hreply
      · exact .inl hreply
      · obtain ⟨hid, rfl⟩ := Prod.mk.inj (List.mem_singleton.1 hreply)
        obtain rfl := Option.some.inj hid
        obtain ⟨k, x, hlog, -, hadmits⟩ := h.held entry reply' (.inr hrx)
        exact .inr ⟨_, hlog, hadmits⟩
  | shutdown hrx => exact h.withClient rfl rfl (fun _ _ => id) nofun nofun (fun _ _ => .inl)
  | sweep order hrx hperm =>
      refine h.withClient rfl rfl (fun _ _ => id) nofun nofun ?_
      intro id reply hreply
      rcases List.mem_append.1 hreply with hreply | hreply
      · exact .inl hreply
      · obtain ⟨entry, hentry, heq⟩ := List.mem_map.1 hreply
        obtain ⟨hid, rfl⟩ := Prod.mk.inj heq
        obtain rfl := Option.some.inj hid
        obtain ⟨p, hp⟩ := h.log_of_entry (hperm.mem_iff.1 hentry)
        exact .inr ⟨p, hp, admits_error (by decide) entry.info⟩

/-- The receiver takes a response, or finds the connection broken. -/
theorem Replied.receives (res : Except Proto.Error (Option Sequence × Response)) (h : Replied e e' c)
    (hres : ∀ seq ans, DeviceInner.received res = .removing seq ans →
      ∃ m, c.Answered e e' m ∧ arrived e e' m = some res) :
    Replied e e' { c with client := { c.client with rx := DeviceInner.received res } } := by
  have hfree := (DeviceInner.received_place res).1
  refine ⟨h.length, h.numbers, h.entries, ?_, ?_, h.replies⟩
  · intro seq ans hrx
    obtain ⟨m, hm, harrived⟩ := hres seq ans hrx
    exact ⟨m, res, hm, harrived, hrx⟩
  · rintro entry reply (hrx | hrx)
    · exact absurd (hfree.symm.trans (congrArg RxPc.free hrx)) nofun
    · exact absurd (hfree.symm.trans (congrArg RxPc.free hrx)) nofun

/-- A call: its request is the last of the history. -/
theorem Replied.call {d : DeviceInner} {req : Pending} {info : OpInInfo} {out : SendOutcome}
    (k : KernelCall) (h : Replied e e' c) (hstep : c.client.step e (.call req info out) = some d) :
    Replied e e' { c with
      client := d
      log := c.log ++ [(k, (posted e c.client (.call req info out)).head?)] } := by
  generalize hnew : (posted e c.client (.call req info out)).head? = new
  have hlog : c.log ⊆ c.log ++ [(k, new)] := List.subset_append_left _ _
  have hremoving : ∀ seq ans, c.client.rx = .removing seq ans → ∃ m res,
      Answered e e' { c with client := d, log := c.log ++ [(k, new)] } m ∧
        arrived e e' m = some res ∧ DeviceInner.received res = .removing seq ans := by
    intro seq ans hrx
    obtain ⟨m, res, hm, hres⟩ := h.removing seq ans hrx
    exact ⟨m, res, hm.mono hlog, hres⟩
  have hold : ∀ seq entry, c.client.state.requests.lookup seq = some entry →
      ∃ k' x, (c.log ++ [(k, new)])[entry.call]? = some (k', some x) ∧ x.seq = seq ∧
        x.req.request = some entry.req := by
    intro seq entry hlookup
    obtain ⟨k', x, hx, hrest⟩ := h.entries seq entry hlookup
    exact ⟨k', x, log_append hx, hrest⟩
  have hheld : ∀ entry reply, c.client.rx = .closing entry reply ∨ c.client.rx = .replying entry reply →
      ∃ k' x, (c.log ++ [(k, new)])[entry.call]? = some (k', some x) ∧
        x.req.request = some entry.req ∧ k'.Admits e reply := by
    intro entry reply hrx
    obtain ⟨k', x, hx, hrest⟩ := h.held entry reply hrx
    exact ⟨k', x, log_append hx, hrest⟩
  have hreplies : ∀ id reply, (some id, reply) ∈ c.client.replies →
      ∃ p, (c.log ++ [(k, new)])[id]? = some p ∧ p.1.Admits e reply := by
    intro id reply hreply
    obtain ⟨p, hp, hadmits⟩ := h.replies id reply hreply
    exact ⟨p, log_append hp, hadmits⟩
  have hlength : ∀ call, (c.log ++ [(k, new)]).length = (c.client.calls ++ [call]).length := by
    intro call
    rw [List.length_append, List.length_append, h.length]
    rfl
  rcases call_cases hstep with ⟨request, seq, bytes, hreq, hsend, rfl, hposted⟩ |
    ⟨⟨pc, rfl⟩, hposted⟩
  · rw [hposted, List.head?_cons] at hnew
    subst hnew
    refine ⟨hlength _, ?_, ?_, hremoving, hheld, hreplies⟩
    · show (c.log ++ [_]).filterMap _ = (c.client.sent ++ [_]).map Prod.fst
      rw [List.filterMap_append, List.map_append, h.numbers]
      rfl
    · intro seq' entry hlookup
      by_cases hseq : seq' = seq
      · -- the new entry
        rw [hseq] at hlookup ⊢
        obtain rfl := Option.some.inj ((AList.lookup_insert _).symm.trans hlookup)
        refine ⟨k, ⟨seq, req, bytes⟩, ?_, rfl, hreq⟩
        show (c.log ++ [_])[c.client.calls.length]? = _
        rw [← h.length, List.getElem?_concat_length]
      · exact hold seq' entry ((AList.lookup_insert_ne hseq).symm.trans hlookup)
  · rw [hposted, List.head?_nil] at hnew
    subst hnew
    refine ⟨hlength _, ?_, hold, hremoving, hheld, hreplies⟩
    show (c.log ++ [_]).filterMap _ = c.client.sent.map Prod.fst
    rw [List.filterMap_append, h.numbers]
    exact List.append_nil _

/-- **A step keeps history and replies together.** -/
theorem Replied.step {l : ConversationLabel} (h : Replied e e' c) (hinv : Inv e e' c)
    (hstep : c.step e e' l = some c') : Replied e e' c' := by
  cases step_move hstep with
  | call k req info out c' hpending hstep =>
      obtain ⟨hclient, -, hlog⟩ := stepClient_eq hstep
      exact (h.call k hclient).of_eq rfl hlog
  | client l c' hown hstep =>
      obtain ⟨hclient, -, hlog⟩ := stepClient_eq hstep
      exact (h.own hinv hown hclient).of_eq rfl (hlog.trans (List.append_nil _))
  | deliver m rest res c' hresponses harrived hstep =>
      obtain ⟨hclient, -, hlog⟩ := stepClient_eq hstep
      have hm : m ∈ c.responses := by rw [hresponses]; exact List.mem_cons_self
      refine (h.receives res fun seq ans _ => ⟨m, hinv.responses m hm, harrived⟩).of_eq
        (recv_step hclient).2 (hlog.trans (List.append_nil _))
  | fault errno c' hstep =>
      obtain ⟨hclient, -, hlog⟩ := stepClient_eq hstep
      refine (h.receives (.error (.io errno)) ?_).of_eq (recv_step hclient).2
        (hlog.trans (List.append_nil _))
      intro seq ans hrx
      cases hrx
  | serve x rest env c' hrequests haccepted hstep =>
      exact h.of_eq (stepServer_eq hstep).2.1 (stepServer_eq hstep).2.2
  | server l c' hown hstep => exact h.of_eq (stepServer_eq hstep).2.1 (stepServer_eq hstep).2.2

end Replied

end Conversation

end Cuse2Net.Relay

import Cuse2Net.Realdev.Responses
import Cuse2Net.Relay.Outcome
import Cuse2Net.Virtdev.RequestTable

/-!
# A client and a server

An open device of the client (`Virtdev.Device`) and the session that serves it (`Realdev.Server`),
with the messages that are on the way between them. The two hosts may differ in byte order.

A message crosses as a whole, and the messages of one direction arrive in the order in which they were
sent. The client's sends are serialised by the lock of its table; the three threads of the server share
the connection without a lock, and their messages stay whole as long as each call of `send()` or
`sendmsg()` takes everything or fails. `Proto.Sending` is about this, byte by byte; here it is part of
the assumptions (`Assumed`). A response whose send fails is not on the connection. `Request.recv` and
`Response.recv` return exactly what was sent however its bytes arrive.

The client's table has the requests that are not answered yet. `places` are the sequence numbers on
the way to the server, waiting at the server, on the way back, and with the receiver. `Inv.books` is
the invariant that carries the others: no number is in two places, and every number in a place is in
the table.
-/

set_option autoImplicit false

namespace Cuse2Net.Virtdev

open Cuse2Net.Lib
open Cuse2Net.Lib.Bytes
open Cuse2Net.Proto

/-- The message of a request. -/
def Pending.message : Pending → BitVec 64 → Proto.Request.Message
  | release, drawn => .call .release drawn
  | write wrinfo data, drawn => .call (.write wrinfo data) drawn
  | read rdinfo, drawn => .call (.read rdinfo) drawn
  | ioctl cmd arg, drawn => .call (.ioctl cmd arg) drawn
  | poll parm, drawn => .call (.poll parm) drawn
  | interrupt seq, _ => .interrupt seq

theorem Pending.send_eq (e : Endian) (req : Pending) (drawn : BitVec 64) :
    req.send e drawn = (req.message drawn).send e := by
  cases req <;> rfl

/-- The argument of an ioctl is one that `decode` makes of what the caller has passed. -/
def Pending.Decoded (e : Endian) : Pending → Prop
  | .ioctl cmd arg => ∃ x buf, Arg.decode e cmd.num x buf .cuse = .ok arg
  | _ => True

/-- A request of the kernel for an open device. -/
inductive KernelCall where
  | release
  | write (wrinfo : WriteParams) (data : List UInt8)
  | read (rdinfo : ReadParams)
  | ioctl (cmd : BitVec 32) (x : BitVec 64) (buf : List UInt8)
  | poll (pollinfo : PollParams)
  deriving DecidableEq

/-- What `release`, `write`, `read`, `ioctl` and `poll` of a device hand to `handle_cuse`. An ioctl that
`decode` rejects is answered on the spot. -/
def KernelCall.pending (e : Endian) : KernelCall → Result Pending
  | release => .ok .release
  | write wrinfo data => .ok (.write wrinfo data)
  | read rdinfo => .ok (.read rdinfo)
  | ioctl cmd x buf => (Arg.decode e cmd x buf .cuse).map fun arg => .ioctl ⟨cmd⟩ arg
  | poll pollinfo => .ok (.poll pollinfo)

theorem KernelCall.pending_decoded {e : Endian} {k : KernelCall} {req : Pending}
    (h : k.pending e = .ok req) : req.Decoded e := by
  cases k with
  | ioctl cmd x buf =>
      obtain ⟨arg, harg, rfl⟩ := ok_of_map h
      exact ⟨x, buf, harg⟩
  | _ =>
      obtain rfl := Except.ok.inj h
      trivial

end Cuse2Net.Virtdev

namespace Cuse2Net.Relay

open Cuse2Net.Lib
open Cuse2Net.Lib.Bytes
open Cuse2Net.IoctlFfi
open Cuse2Net.Proto
open Cuse2Net.Realdev
open Cuse2Net.Virtdev (DeviceInner DeviceLabel KernelCall OpInInfo Pending Answerable opSeq)

/-! ## Messages on the way -/

/-- A request on the way to the server. -/
structure Letter where
  seq : Sequence
  req : Pending
  bytes : List UInt8
  deriving DecidableEq

namespace Letter

/-- The request that the server receives. -/
def received (e e' : Endian) (x : Letter) : Request := (x.req.message x.seq.val).received e e' x.seq

/-- The sequence number, when an answer is due. -/
def owed (x : Letter) : Option Sequence := if x.req.request.isSome then some x.seq else none

/-- `Request::recv` takes the message. -/
def Accepted (e : Endian) (x : Letter) : Prop :=
  x.bytes.length ≤ (Request.Header.layout e).size + Request.MAX_SZ

instance (e : Endian) (x : Letter) : Decidable (x.Accepted e) :=
  inferInstanceAs (Decidable (_ ≤ _))

/-- The letter is what a send of the client has put on the connection, and the history of the client
has the request. -/
structure Sealed (e : Endian) (sent : List (Sequence × Virtdev.Request)) (x : Letter) : Prop where
  bytes : ∃ drawn, x.req.send e drawn = .ok (x.seq, x.bytes)
  decoded : x.req.Decoded e
  sent : ∀ k, x.req.request = some k → (x.seq, k) ∈ sent

/-- **The server receives what the letter says.** -/
theorem Sealed.recv {e : Endian} {sent : List (Sequence × Virtdev.Request)} {x : Letter}
    (h : x.Sealed e sent) (e' : Endian) (haccepted : x.Accepted e) :
    Yields (Request.recv e' MAX_MSG_SIZE) x.bytes (.ok (x.received e e')) := by
  obtain ⟨drawn, hsend⟩ := h.bytes
  rw [Pending.send_eq] at hsend
  have hrecv : Yields (Request.recv e' MAX_MSG_SIZE) x.bytes _ :=
    Request.recv_message hsend haccepted (show 0x10000 ≤ 128 * 1024 by decide)
  -- the number that was drawn is the one the letter has
  unfold received
  cases hreq : x.req <;> (rw [hreq] at hrecv; exact hrecv)

theorem Sealed.mono {e : Endian} {sent sent' : List (Sequence × Virtdev.Request)} {x : Letter}
    (h : x.Sealed e sent) (hsub : sent ⊆ sent') : x.Sealed e sent' :=
  ⟨h.bytes, h.decoded, fun k hk => hsub (h.sent k hk)⟩

theorem owed_received (e e' : Endian) (x : Letter) : (x.received e e').owed = x.owed := by
  unfold received owed
  cases x.req <;> rfl

theorem owed_of_received {e d : Endian} (x : Letter) (h : (x.received e d).owed.isSome = true) :
    x.req.request.isSome = true := by
  rw [owed_received, owed] at h
  split at h
  · next hsome => exact hsome
  · cases h

end Letter

/-- What the client's `Response::recv` returns for a response of a server on a host `e'`. A wake-up of
no handle sends nothing. -/
def arrived (e e' : Endian) (m : Response.Reply) :
    Option (Except Proto.Error (Option Sequence × Response)) :=
  match m.received e' e with
  | some (.ok res) => some (.ok res)
  | some (.error (.err err)) => some (.error err)
  | _ => none

/-- A response that the client can use for a request of the kind `k` with the number `seq`. -/
inductive Arrives (e e' : Endian) (seq : Sequence) (k : Virtdev.Request) : Response.Reply → Prop where
  | error (rc : Errno) (hrc : rc.code ≠ 0) : Arrives e e' seq k (.err seq rc)
  | response (m : Response.Reply) (resp : Response) (hseq : m.seq = some seq)
      (hreceived : m.received e' e = some (.ok (some seq, resp))) (hans : Answerable k (.response resp))
      (hlen : (m.send e').length ≤ (Response.Header.layout e').size + Response.MAX_SZ) :
      Arrives e e' seq k m

section Arrives

variable {e e' : Endian} {seq : Sequence} {k : Virtdev.Request} {m : Response.Reply}

theorem Arrives.seq_eq (h : Arrives e e' seq k m) : m.seq = some seq := by
  cases h with
  | error rc hrc => rfl
  | response m resp hseq => exact hseq

/-- How the receiver goes on with the response: to the request of its number, which it answers. -/
theorem Arrives.arrived (h : Arrives e e' seq k m) :
    ∃ res ans, Relay.arrived e e' m = some res ∧ DeviceInner.received res = .removing seq ans ∧
      ∀ resp, res = .ok (some seq, resp) → Answerable k (.response resp) := by
  cases h with
  | error rc hrc =>
      refine ⟨.error (.remoteError (some seq) rc.code), _, rfl, rfl, ?_⟩
      intro resp h
      cases h
  | response m resp hseq hreceived hans hlen =>
      refine ⟨.ok (some seq, resp), _, ?_, rfl, ?_⟩
      · rw [Relay.arrived, hreceived]
      · intro resp' h
        cases h
        exact hans

/-- **The client receives the response** however its bytes arrive. -/
theorem Arrives.recv (h : Arrives e e' seq k m) :
    ∃ res : Except Proto.Error (Option Sequence × Response), Relay.arrived e e' m = some res ∧
      Yields (Response.recv e) (m.send e') (res.mapError .err) := by
  cases h with
  | error rc hrc =>
      exact ⟨.error (.remoteError (some seq) rc.code), rfl, Response.recv_err e' e seq hrc⟩
  | response m resp hseq hreceived hans hlen =>
      refine ⟨.ok (some seq, resp), ?_, Response.recv_reply ?_ hlen hreceived⟩
      · rw [Relay.arrived, hreceived]
      · rintro seq' errno rfl
        cases hreceived

theorem arrives_err {rc : Errno} (h : Response.Reply.Numbered (.err seq rc)) :
    Arrives e e' seq k (.err seq rc) := .error rc h

theorem arrives_read {data : List UInt8} {size : Nat} (h : data.length ≤ min size Realdev.BUF_SZ) :
    Arrives e e' seq .read (.read seq data) := by
  refine .response _ (.read data) rfl rfl trivial (Response.sendMessage_le e' _ _ ?_)
  rw [List.flatten_cons, List.flatten_nil, List.append_nil]
  exact Nat.le_trans (Nat.le_trans h (Nat.min_le_right _ _)) (show 4096 ≤ 0x10000 by decide)

/-- A word is a small payload. -/
theorem arrives_word {resp : Response} (op : ResponseCode) (word : BitVec 32)
    (hsend : m.send e' = Response.sendMessage e' op seq.val [(be32 e').bytes (Be.fromNative e' word)])
    (hseq : m.seq = some seq) (hreceived : m.received e' e = some (.ok (some seq, resp)))
    (hans : Answerable k (.response resp)) : Arrives e e' seq k m := by
  refine .response m resp hseq hreceived hans ?_
  rw [hsend]
  exact Response.sendMessage_le e' _ _ (Response.word_le byteWidth_32 e' _ (by decide))

/-- The response to an ioctl of the client. -/
theorem arrives_ioctl {cmd : IoctlFfi.Ioctl} {x : BitVec 64} {buf b : List UInt8} {arg r : Arg}
    {rc : BitVec 64} {mem : Memory} {res : BitVec 64 × List UInt8}
    (hclient : Arg.clientArg e x buf (CommandClass.classify cmd) = .ok arg)
    (hraw : arg.isRaw = false)
    (hdevice : Arg.deviceArg e' mem (CommandClass.classify cmd) (arg.rehost e e') = .ok res)
    (hb : b.length = res.2.length)
    (hserver : Arg.serverArg e' res.1 b (CommandClass.classify cmd) = .ok r) :
    Arrives e e' seq (.ioctl cmd) (.ioctl seq rc r) := by
  obtain ⟨r', hr', hlen, hcaller⟩ := served_argument mem hclient hraw hdevice hb
  obtain rfl : r = r' := Except.ok.inj (hserver.symm.trans hr')
  obtain ⟨data, hdata⟩ := hcaller (BadIoctl.new cmd).isRead
  rw [← Arg.cuseResponse_eq] at hdata
  refine .response _ (.ioctl rc (r.rehost e' e)) rfl rfl ?_ (Response.sendMessage_le e' _ _ ?_)
  · rw [← Virtdev.respond_isOk_iff e _ ⟨0⟩]
    show (Virtdev.handleIoctl e ⟨0⟩ cmd rc (r.rehost e' e)).isOk = true
    rw [handleIoctl_eq rc hdata]
    rfl
  · rw [List.flatten_cons, List.flatten_cons, List.flatten_nil, List.append_nil, List.length_append,
      Layout.length_bytes]
    exact Nat.le_trans (Nat.add_le_add_left hlen _) (show 16 + 64 ≤ 0x10000 by decide)

/-- **A response to a letter arrives at the request of the letter.** -/
theorem arrives_responds {x : Letter} {sent : List (Sequence × Virtdev.Request)}
    (hx : x.Sealed e sent) (hm : Responds e' (x.received e e') m) (hnum : m.Numbered) :
    ∃ k, x.req.request = some k ∧ Arrives e e' x.seq k m := by
  unfold Letter.received at hm
  cases hreq : x.req with
  | release =>
      rw [hreq] at hm
      cases hm with
      | err rc howed => exact ⟨_, rfl, arrives_err hnum⟩
      | release seq =>
          refine ⟨_, rfl, .response _ .ok rfl rfl trivial ?_⟩
          exact Nat.le_trans (Nat.le_of_eq ((Response.Header.layout e').length_bytes _))
            (Nat.le_add_right _ _)
  | write wrinfo data =>
      rw [hreq] at hm
      cases hm with
      | err rc howed => exact ⟨_, rfl, arrives_err hnum⟩
      | write seq info data n hn => exact ⟨_, rfl, arrives_word .Write _ rfl rfl rfl trivial⟩
  | read rdinfo =>
      rw [hreq] at hm
      cases hm with
      | err rc howed => exact ⟨_, rfl, arrives_err hnum⟩
      | read seq info data hdata => exact ⟨_, rfl, arrives_read hdata⟩
  | ioctl cmd arg =>
      have hdecoded := hx.decoded
      rw [hreq] at hm hdecoded
      obtain ⟨y, buf, hdecode⟩ := hdecoded
      rw [Arg.decode_cuse_eq] at hdecode
      cases hm with
      | err rc howed => exact ⟨_, rfl, arrives_err hnum⟩
      | ioctl seq info arg' r rc mem res b hraw hdevice hb hserver =>
          have hcmd : (Be.fromNative e' cmd.asNumeric).asNative e' = cmd.num :=
            Be.asNative_fromNative byteWidth_32 e' _
          rw [hcmd] at hdevice hserver
          rw [isRaw_rehost] at hraw
          exact ⟨_, rfl, arrives_ioctl hdecode hraw hdevice hb hserver⟩
  | poll parm =>
      rw [hreq] at hm
      cases hm with
      | err rc howed => exact ⟨_, rfl, arrives_err hnum⟩
      | poll seq info ev => exact ⟨_, rfl, arrives_word .Poll _ rfl rfl rfl trivial⟩
  | interrupt seq =>
      rw [hreq] at hm
      cases hm.owed

end Arrives

/-! ## The two parties -/

/-- A call on the device that moves data. -/
inductive DeviceEvent where
  | wrote (offset : BitVec 64) (data : List UInt8)
  | read (data : List UInt8)
  deriving DecidableEq

/-- The calls on the device in a step of the server. A write is made before its response is sent. -/
def onDevice (e : Endian) : ServerLabel → List DeviceEvent
  | .request (.write _ wrinfo data) _ => [.wrote (wrinfo.offset.asNative e) data]
  | .request (.read _ rdinfo) env =>
      if rdinfo.fhFlags.isNonblock e then
        match env.file.read (min (rdinfo.size.asNative e).toNat Realdev.BUF_SZ) with
        | .ok data => [.read data]
        | .error _ => []
      else []
  | .thread (.read (.read (.data data))) => [.read data]
  | _ => []

/-- The client, the server and the messages on the way in both directions. The last two fields record
the history: the requests of the kernel, one for each call of `handle_cuse`, with the letter that the
call has put on the connection; and the server's calls on the device. -/
structure Conversation where
  client : DeviceInner
  server : Server
  requests : List Letter
  responses : List Response.Reply
  log : List (KernelCall × Option Letter)
  device : List DeviceEvent

/-- Steps of a conversation. -/
inductive ConversationLabel where
  /-- The kernel makes a request: a new call of `handle_cuse`. -/
  | call (k : KernelCall) (info : OpInInfo) (out : SendOutcome)
  /-- Another step of the client. -/
  | client (l : DeviceLabel)
  /-- The receiver of the client receives the next response. -/
  | deliver
  /-- The receiver of the client finds the connection broken. -/
  | fault (errno : Errno)
  /-- The main thread of the server receives the next request. -/
  | serve (env : Surroundings)
  /-- Another step of the server. -/
  | server (l : ServerLabel)

namespace Conversation

/-- The steps that the client makes without the kernel and the connection. -/
def ownClient : DeviceLabel → Bool
  | .call _ _ _ | .recv _ => false
  | _ => true

/-- The steps that the server makes without the connection. -/
def ownServer : ServerLabel → Bool
  | .request _ _ => false
  | _ => true

/-- What a step of the client puts on the connection. -/
def posted (e : Endian) (d : DeviceInner) : DeviceLabel → List Letter
  | .call req _ .sent =>
      match req.send e (opSeq d.drawn) with
      | .ok (seq, bytes) => [⟨seq, req, bytes⟩]
      | .error _ => []
  | .sendInterrupt id true =>
      match d.interrupts[id]? with
      | some ⟨_, .sending seq⟩ => [⟨seq, .interrupt seq, Request.sendInterrupt e seq⟩]
      | _ => []
  | _ => []

/-- A step of the client, with what the history gains. -/
def stepClient (e : Endian) (c : Conversation) (new : List (KernelCall × Option Letter))
    (l : DeviceLabel) : Option Conversation :=
  (c.client.step e l).map fun d =>
    { c with client := d, requests := c.requests ++ posted e c.client l, log := c.log ++ new }

/-- What a step of the server puts on the connection. -/
def emitted (s t : Server) (l : ServerLabel) : List Response.Reply :=
  if l.out = .failed then [] else Server.fresh s t

/-- A step of the server, on a host `e'`. -/
def stepServer (e' : Endian) (c : Conversation) (l : ServerLabel) : Option Conversation :=
  (c.server.step e' l).map fun s =>
    { c with
      server := s
      responses := c.responses ++ emitted c.server s l
      device := c.device ++ onDevice e' l }

/-- One step. -/
def step (e e' : Endian) (c : Conversation) : ConversationLabel → Option Conversation
  | .call k info out =>
      match k.pending e with
      | .ok req =>
          c.stepClient e [(k, (posted e c.client (.call req info out)).head?)] (.call req info out)
      | .error _ => none
  | .client l => if ownClient l then c.stepClient e [] l else none
  | .deliver =>
      match c.responses with
      | m :: rest =>
          (arrived e e' m).bind fun res => { c with responses := rest }.stepClient e [] (.recv res)
      | [] => none
  | .fault errno => c.stepClient e [] (.recv (.error (.io errno)))
  | .serve env =>
      match c.requests with
      | x :: rest =>
          if x.Accepted e then
            { c with requests := rest }.stepServer e' (.request (x.received e e') env)
          -- `Request::recv` fails, and `main` returns
          else none
      | [] => none
  | .server l => if ownServer l then c.stepServer e' l else none

/-- What a step can do. -/
inductive Move (e e' : Endian) (c : Conversation) : ConversationLabel → Conversation → Prop where
  | call (k : KernelCall) (req : Pending) (info : OpInInfo) (out : SendOutcome) (c' : Conversation)
      (hpending : k.pending e = .ok req)
      (hstep : c.stepClient e [(k, (posted e c.client (.call req info out)).head?)]
        (.call req info out) = some c') : Move e e' c (.call k info out) c'
  | client (l : DeviceLabel) (c' : Conversation) (hown : ownClient l = true)
      (hstep : c.stepClient e [] l = some c') : Move e e' c (.client l) c'
  | deliver (m : Response.Reply) (rest : List Response.Reply)
      (res : Except Proto.Error (Option Sequence × Response)) (c' : Conversation)
      (hresponses : c.responses = m :: rest) (harrived : arrived e e' m = some res)
      (hstep : { c with responses := rest }.stepClient e [] (.recv res) = some c') :
      Move e e' c .deliver c'
  | fault (errno : Errno) (c' : Conversation)
      (hstep : c.stepClient e [] (.recv (.error (.io errno))) = some c') :
      Move e e' c (.fault errno) c'
  | serve (x : Letter) (rest : List Letter) (env : Surroundings) (c' : Conversation)
      (hrequests : c.requests = x :: rest) (haccepted : x.Accepted e)
      (hstep : { c with requests := rest }.stepServer e' (.request (x.received e e') env) = some c') :
      Move e e' c (.serve env) c'
  | server (l : ServerLabel) (c' : Conversation) (hown : ownServer l = true)
      (hstep : c.stepServer e' l = some c') : Move e e' c (.server l) c'

theorem step_move {e e' : Endian} {c c' : Conversation} {l : ConversationLabel}
    (h : c.step e e' l = some c') : Move e e' c l c' := by
  cases l with
  | call k info out =>
      simp only [step] at h
      split at h
      · next req hpending => exact .call k req info out c' hpending h
      · cases h
  | client l =>
      rw [step, Option.ite_none_right_eq_some] at h
      exact .client l c' h.1 h.2
  | deliver =>
      simp only [step] at h
      split at h
      · next m rest hresponses =>
        obtain ⟨res, harrived, hstep⟩ := Option.bind_eq_some_iff.1 h
        exact .deliver m rest res c' hresponses harrived hstep
      · cases h
  | fault errno => exact .fault errno c' h
  | serve env =>
      simp only [step] at h
      split at h
      · next x rest hrequests =>
        rw [Option.ite_none_right_eq_some] at h
        exact .serve x rest env c' hrequests h.1 h.2
      · cases h
  | server l =>
      rw [step, Option.ite_none_right_eq_some] at h
      exact .server l c' h.1 h.2

/-- Both parties after a successful open, when `drawn` numbers have been drawn in the client. -/
def start (drawn : Nat) : Conversation := ⟨.start drawn, .start, [], [], [], []⟩

/-- A client on a host `e` and a server on a host `e'`. -/
def system (e e' : Endian) : System Conversation ConversationLabel where
  init c := ∃ drawn < 2 ^ 64 - 1, c = start drawn
  step := step e e'

/-- The assumptions on the environment: sequence numbers do not run out; a send of either party puts the
whole message on the connection or fails, and the client's fail after its shutdown; a system call on the
device that fails leaves an error number. -/
def Assumed (c : Conversation) : ConversationLabel → Prop
  | .call _ _ out =>
      c.client.drawn + 1 < 2 ^ 64 - 1 ∧ (c.client.shut = true → out ≠ .sent) ∧ out ≠ .incomplete
  | .client .draw => c.client.drawn + 1 < 2 ^ 64 - 1
  | .client (.sendInterrupt _ ok) => c.client.shut = true → ok = false
  | .serve env => env.Numbered ∧ env.out ≠ .incomplete
  | .server l => l.Numbered ∧ l.out ≠ .incomplete
  | _ => True

/-- The sends of the server succeed. -/
def Sent : ConversationLabel → Prop
  | .serve env => env.out = .sent
  | .server l => l.out = .sent
  | _ => True

/-! ## Where a request can be -/

/-- The number of the answer that the receiver has in its hands. -/
def removing (d : DeviceInner) : Multiset Sequence :=
  match d.rx with
  | .removing seq _ => {seq}
  | _ => 0

/-- The numbers in the table of the client. -/
def table (d : DeviceInner) : Multiset Sequence := d.state.requests.keys

/-- The numbers of the letters that are to be answered. -/
def owed (xs : List Letter) : Multiset Sequence := xs.filterMap Letter.owed

/-- The sequence numbers on the way to the server, at the server, on the way back and with the
receiver. -/
def places (c : Conversation) : Multiset Sequence :=
  owed c.requests + c.server.waiting + answers c.responses + removing c.client

theorem owed_append (xs ys : List Letter) : owed (xs ++ ys) = owed xs + owed ys := by
  rw [owed, List.filterMap_append, ← Multiset.coe_add]
  rfl

theorem owed_singleton (x : Letter) : owed [x] = x.owed.toList := by
  rw [owed, List.filterMap_cons]
  cases x.owed <;> rfl

theorem owed_cons (x : Letter) (xs : List Letter) : owed (x :: xs) = x.owed.toList + owed xs := by
  rw [← List.singleton_append, owed_append, owed_singleton]

theorem removing_of_ne {d : DeviceInner} (h : ∀ seq ans, d.rx ≠ .removing seq ans) :
    removing d = 0 := by
  unfold removing
  split
  · next seq ans hrx => exact absurd hrx (h seq ans)
  · rfl

theorem removing_eq {d : DeviceInner} {seq : Sequence} {ans : Virtdev.Answer}
    (h : d.rx = .removing seq ans) : removing d = {seq} := by
  rw [removing, h]

/-- A call has put the letter on the connection. -/
def Posted (c : Conversation) (x : Letter) : Prop := ∃ k, (k, some x) ∈ c.log

/-- A response of the server to a posted letter. -/
def Answered (e e' : Endian) (c : Conversation) (m : Response.Reply) : Prop :=
  ∃ x, c.Posted x ∧ Responds e' (x.received e e') m ∧ m.Numbered

/-- The invariant of a conversation. -/
structure Inv (e e' : Endian) (c : Conversation) : Prop where
  client : DeviceInner.Consistent c.client
  isOpen : c.server.session.Open
  asks : c.server.Asks
  numbered : c.server.Numbered
  /-- A number is in one place at most, and only while its request is in the table. -/
  books : c.places ≤ table c.client
  log : ∀ k x, (k, some x) ∈ c.log → k.pending e = .ok x.req ∧ x.Sealed e c.client.sent
  letters : ∀ x ∈ c.requests, x.Sealed e c.client.sent ∧ (x.req.request.isSome = true → c.Posted x)
  reads : ∀ r ∈ c.server.session.read.outstanding, ∃ x info, c.Posted x ∧
    x.received e e' = .read r.1 info ∧ r.2 = (info.size.asNative e').toNat
  asked : ∀ seq parm, c.server.asked = some (seq, parm) →
    ∃ x, c.Posted x ∧ x.received e e' = .poll seq parm
  responses : ∀ m ∈ c.responses, c.Answered e e' m

section Client

variable {e e' : Endian} {d d' : DeviceInner} {l : DeviceLabel}

theorem afterRemove_ne (entry : Virtdev.Entry) (ans : Virtdev.Answer) (seq : Sequence)
    (ans' : Virtdev.Answer) : DeviceInner.afterRemove e entry ans ≠ .removing seq ans' := by
  intro h
  cases ans with
  | remoteError rc => cases h
  | response resp =>
      simp only [DeviceInner.afterRemove] at h
      split at h
      · split at h <;> cases h
      · cases h

/-- A call of `handle_cuse`: the request is posted and in the table, or neither. -/
theorem call_cases {req : Pending} {info : OpInInfo} {out : SendOutcome}
    (h : d.step e (.call req info out) = some d') :
    (∃ request seq bytes, req.request = some request ∧
      req.send e (opSeq d.drawn) = .ok (seq, bytes) ∧ d' = d.afterSent seq request info ∧
        posted e d (.call req info out) = [⟨seq, req, bytes⟩]) ∨
      ((∃ pc, d' = { d with drawn := d.drawn + 1, calls := d.calls ++ [⟨info, pc⟩] }) ∧
        posted e d (.call req info out) = []) := by
  obtain ⟨request, hreq, rfl⟩ := Option.map_eq_some_iff.1 h
  unfold DeviceInner.handleCuseInternal
  cases hsend : req.send e (opSeq d.drawn) with
  | error f =>
      refine .inr ?_
      cases out with
      | sent => exact ⟨⟨_, rfl⟩, by simp only [posted, hsend]⟩
      | failed | incomplete => exact ⟨⟨_, rfl⟩, rfl⟩
  | ok res =>
      cases out with
      | sent =>
          refine .inl ⟨request, res.1, res.2, hreq, rfl, rfl, ?_⟩
          simp only [posted, hsend]
      | failed | incomplete => exact .inr ⟨⟨_, rfl⟩, rfl⟩

/-- What is posted besides a request is an interrupt, for which no answer is due. -/
theorem posted_cases (hl : ∀ req info out, l ≠ .call req info out) :
    posted e d l = [] ∨
      ∃ seq, posted e d l = [⟨seq, .interrupt seq, Request.sendInterrupt e seq⟩] := by
  cases l with
  | call req info out => exact absurd rfl (hl req info out)
  | sendInterrupt id ok =>
      cases ok with
      | false => exact .inl rfl
      | true =>
          simp only [posted]
          split
          · next seq _ => exact .inr ⟨seq, rfl⟩
          · exact .inl rfl
  | _ => exact .inl rfl

theorem posted_req {req : Pending} {info : OpInInfo} {out : SendOutcome} {x : Letter}
    (h : x ∈ posted e d (.call req info out)) : x.req = req := by
  cases out with
  | sent =>
      simp only [posted] at h
      split at h
      · rw [List.mem_singleton.1 h]
      · cases h
  | failed | incomplete => cases h

theorem posted_head {req : Pending} {info : OpInInfo} {out : SendOutcome} {x : Letter}
    (h : x ∈ posted e d (.call req info out)) :
    (posted e d (.call req info out)).head? = some x := by
  cases out with
  | sent =>
      simp only [posted] at h ⊢
      split at h
      · rw [List.mem_singleton.1 h]
        rfl
      · cases h
  | failed | incomplete => cases h

theorem owed_posted (hl : ∀ req info out, l ≠ .call req info out) : owed (posted e d l) = 0 := by
  rcases posted_cases (e := e) (d := d) hl with h | ⟨seq, h⟩
  · rw [h]
    rfl
  · rw [h]
    rfl

/-- A request goes into the table. -/
theorem table_afterSent {seq : Sequence} (hseq : seq ∉ d.state.requests) (request : Virtdev.Request)
    (info : OpInInfo) : table (d.afterSent seq request info) = {seq} + table d := by
  show ((d.state.requests.insert seq _).keys : Multiset Sequence) = _
  rw [AList.keys_insert, List.erase_of_not_mem (AList.mem_keys.not.1 hseq)]
  rfl

/-- The request of an answer leaves the table. -/
theorem table_afterFound {seq : Sequence} {entry : Virtdev.Entry} {ans : Virtdev.Answer}
    (hlookup : d.state.requests.lookup seq = some entry) :
    table (d.afterFound e seq entry ans) + {seq} = table d := by
  have hmem : seq ∈ (d.state.requests.keys : Multiset Sequence) := by
    rw [Multiset.mem_coe, ← AList.mem_keys, ← AList.lookup_isSome, hlookup]
    rfl
  show ((d.state.requests.erase seq).keys : Multiset Sequence) + {seq} = _
  rw [AList.keys_erase, ← Multiset.coe_erase, add_comm, Multiset.singleton_add,
    Multiset.cons_erase hmem]
  rfl

/-- The place of the receiver after a step that is neither `recv` nor `remove`. -/
theorem removing_step (hstep : d.step e l = some d') (hrecv : ∀ res, l ≠ .recv res)
    (hremove : l ≠ .remove) : removing d' = removing d := by
  cases DeviceInner.step_move hstep with
  | callSent | callFails | refuse | draw | interrupts | refuseInterrupt => rfl
  | check hrx =>
      have hnot : removing d = 0 := removing_of_ne (by rw [hrx]; exact nofun)
      rw [hnot]
      refine removing_of_ne ?_
      show ∀ seq ans, (if d.state.closed then Virtdev.RxPc.shutdown else .recv) ≠ .removing seq ans
      cases d.state.closed <;> exact nofun
  | recv res hrx => exact absurd rfl (hrecv res)
  | removeFound | removeMissing => exact absurd rfl hremove
  | close entry reply hrx => rw [removing, removing, hrx]
  | reply entry reply hrx => rw [removing, removing, hrx]; rfl
  | shutdown hrx => rw [removing, removing, hrx]
  | sweep order hrx hperm => rw [removing, removing, hrx]; rfl

/-- The table and the history after a step that is neither a call nor `remove`. -/
theorem table_step (hstep : d.step e l = some d') (hcall : ∀ req info out, l ≠ .call req info out)
    (hremove : l ≠ .remove) : table d' = table d ∧ d'.sent = d.sent := by
  cases DeviceInner.step_move hstep with
  | callSent req info => exact absurd rfl (hcall req info .sent)
  | removeFound | removeMissing => exact absurd rfl hremove
  | _ => exact ⟨rfl, rfl⟩

/-- The history of sent requests grows. -/
theorem sent_subset (hstep : d.step e l = some d') : d.sent ⊆ d'.sent := by
  cases DeviceInner.step_move hstep with
  | callSent => exact List.subset_append_left _ _
  | _ => exact List.Subset.refl _

/-- **The books of the client.** A step of the client moves a number into the table when it posts the
request, and out of it when the receiver has its answer. -/
theorem client_books (hstep : d.step e l = some d') (hrecv : ∀ res, l ≠ .recv res)
    (hd : DeviceInner.Consistent d) (hok : DeviceInner.Assumed d l)
    (hsub : removing d ≤ table d) :
    table d' + removing d = table d + removing d' + owed (posted e d l) := by
  by_cases hremove : l = .remove
  · subst hremove
    have hposted : owed (posted e d .remove) = 0 := rfl
    rw [hposted, add_zero]
    cases DeviceInner.step_move hstep with
    | interrupts => rfl
    | removeFound seq ans entry hrx hlookup =>
        have hafter : removing (d.afterFound e seq entry ans) = 0 :=
          removing_of_ne (afterRemove_ne entry ans)
        rw [removing_eq hrx, hafter, add_zero, table_afterFound hlookup]
    | removeMissing seq ans hrx hlookup =>
        -- the number is in the table
        rw [removing_eq hrx, Multiset.singleton_le] at hsub
        exact absurd (AList.mem_keys.2 (Multiset.mem_coe.1 hsub)) (AList.lookup_eq_none.1 hlookup)
  · rw [removing_step hstep hrecv hremove]
    by_cases hcall : ∃ req info out, l = .call req info out
    · obtain ⟨req, info, out, rfl⟩ := hcall
      rcases call_cases hstep with ⟨request, seq, bytes, hreq, hsend, rfl, hposted⟩ |
        ⟨⟨pc, rfl⟩, hposted⟩
      · have hfresh := hd.fresh hok.1 (DeviceInner.send_seq hreq hsend)
        have hnot : seq ∉ d.state.requests := fun hmem => hfresh ((hd.table seq).1 hmem).1
        have howed : owed (posted e d (.call req info out)) = {seq} := by
          rw [hposted, owed_singleton, Letter.owed, hreq]
          rfl
        rw [table_afterSent hnot, howed]
        abel
      · have hnone : owed (posted e d (.call req info out)) = 0 := by rw [hposted]; rfl
        rw [hnone, add_zero]
        rfl
    · have hnot : ∀ req info out, l ≠ .call req info out := fun req info out h =>
        hcall ⟨req, info, out, h⟩
      rw [(table_step hstep hnot hremove).1, owed_posted hnot, add_zero]

/-- A posted letter is sealed. -/
theorem posted_sealed (hstep : d.step e l = some d')
    (hdecoded : ∀ req info out, l = .call req info out → req.Decoded e) :
    ∀ x ∈ posted e d l, x.Sealed e d'.sent := by
  intro x hx
  by_cases hcall : ∃ req info out, l = .call req info out
  · obtain ⟨req, info, out, rfl⟩ := hcall
    rcases call_cases hstep with ⟨request, seq, bytes, hreq, hsend, rfl, hposted⟩ | ⟨-, hposted⟩
    · rw [hposted, List.mem_singleton] at hx
      subst hx
      refine ⟨⟨_, hsend⟩, hdecoded req info out rfl, ?_⟩
      intro k hk
      obtain rfl := Option.some.inj (hreq.symm.trans hk)
      exact List.mem_append_right _ List.mem_cons_self
    · rw [hposted] at hx
      cases hx
  · have hnot : ∀ req info out, l ≠ .call req info out := fun req info out h => hcall ⟨req, info, out, h⟩
    rcases posted_cases (e := e) (d := d) hnot with h | ⟨seq, h⟩
    · rw [h] at hx
      cases hx
    · rw [h, List.mem_singleton] at hx
      subst hx
      refine ⟨⟨0, rfl⟩, trivial, ?_⟩
      intro k hk
      cases hk

end Client

/-! ## The invariant -/

theorem stepServer_eq {e : Endian} {c c' : Conversation} {l : ServerLabel}
    (h : c.stepServer e l = some c') :
    c.server.step e l = some c'.server ∧ c'.client = c.client ∧ c'.log = c.log := by
  obtain ⟨s, hs, rfl⟩ := Option.map_eq_some_iff.1 h
  exact ⟨hs, rfl, rfl⟩

theorem stepClient_eq {e : Endian} {c c' : Conversation} {l : DeviceLabel}
    {new : List (KernelCall × Option Letter)} (h : c.stepClient e new l = some c') :
    c.client.step e l = some c'.client ∧ c'.server = c.server ∧ c'.log = c.log ++ new := by
  obtain ⟨d, hd, rfl⟩ := Option.map_eq_some_iff.1 h
  exact ⟨hd, rfl, rfl⟩

theorem emitted_sublist (s t : Server) (l : ServerLabel) :
    (emitted s t l).Sublist (Server.fresh s t) := by
  unfold emitted
  split
  · exact List.nil_sublist _
  · exact List.Sublist.refl _

theorem emitted_of_sent {l : ServerLabel} (h : l.out = .sent) (s t : Server) :
    emitted s t l = Server.fresh s t := by
  refine if_neg ?_
  rw [h]
  exact SendOutcome.noConfusion

theorem table_nodup (d : DeviceInner) : (table d).Nodup := Multiset.coe_nodup.2 d.state.requests.keys_nodup

section Steps

variable {e e' : Endian} {c c' : Conversation}

theorem Inv.nodup (h : Inv e e' c) : c.places.Nodup := Multiset.nodup_of_le h.books (table_nodup _)

theorem Inv.waiting_nodup (h : Inv e e' c) : c.server.waiting.Nodup :=
  (Multiset.nodup_add.1 (Multiset.nodup_add.1 (Multiset.nodup_add.1 h.nodup).1).1).2.1

theorem Inv.removing_le (h : Inv e e' c) : removing c.client ≤ table c.client :=
  (Multiset.le_add_left _ _).trans h.books

theorem Posted.mono {x : Letter} (h : c.Posted x) (hlog : c.log ⊆ c'.log) : c'.Posted x :=
  h.imp fun _ hk => hlog hk

theorem Answered.mono {m : Response.Reply} (h : c.Answered e e' m) (hlog : c.log ⊆ c'.log) :
    c'.Answered e e' m := by
  obtain ⟨x, hx, hm⟩ := h
  exact ⟨x, hx.mono hlog, hm⟩

/-- What is posted is new in the table, and what the receiver has taken has left it. -/
theorem places_client {l : DeviceLabel} {new : List (KernelCall × Option Letter)} (h : Inv e e' c)
    (hrecv : ∀ res, l ≠ .recv res) (hok : DeviceInner.Assumed c.client l)
    (hstep : c.stepClient e new l = some c') :
    c'.places + table c.client = c.places + table c'.client := by
  obtain ⟨d, hd, rfl⟩ := Option.map_eq_some_iff.1 hstep
  have hbooks := client_books hd hrecv h.client hok h.removing_le
  have hplaces : places { c with
        client := d
        requests := c.requests ++ posted e c.client l
        log := c.log ++ new } + removing c.client =
      c.places + (removing d + owed (posted e c.client l)) := by
    simp only [places, owed_append]
    abel
  refine add_right_cancel (b := removing c.client) ?_
  show _ = c.places + table d + removing c.client
  rw [add_right_comm, hplaces, add_assoc c.places (table d), hbooks]
  abel

theorem books_of_places (h : Inv e e' c)
    (hplaces : c'.places + table c.client ≤ c.places + table c'.client) :
    c'.places ≤ table c'.client := by
  refine le_of_add_le_add_right (a := table c.client) (hplaces.trans ?_)
  rw [add_comm (table c'.client)]
  exact add_le_add_left h.books _

/-- A step of the client, apart from its receiver. -/
theorem Inv.stepClient {l : DeviceLabel} {new : List (KernelCall × Option Letter)} (h : Inv e e' c)
    (hrecv : ∀ res, l ≠ .recv res)
    (hdecoded : ∀ req info out, l = .call req info out → req.Decoded e)
    (hnew : ∀ k x, (k, some x) ∈ new → k.pending e = .ok x.req ∧ x ∈ posted e c.client l)
    (hposted : ∀ x ∈ posted e c.client l, x.req.request.isSome = true → ∃ k, (k, some x) ∈ new)
    (hok : DeviceInner.Assumed c.client l) (hstep : c.stepClient e new l = some c') :
    Inv e e' c' := by
  have hbooks := books_of_places h (places_client h hrecv hok hstep).le
  obtain ⟨d, hd, rfl⟩ := Option.map_eq_some_iff.1 hstep
  have hsub := sent_subset hd
  have hlog : c.log ⊆ c.log ++ new := List.subset_append_left _ _
  refine ⟨DeviceInner.step_consistent h.client hok hd, h.isOpen, h.asks, h.numbered, hbooks, ?_, ?_,
    ?_, ?_, ?_⟩
  · intro k x hx
    rcases List.mem_append.1 hx with hx | hx
    · exact ⟨(h.log k x hx).1, (h.log k x hx).2.mono hsub⟩
    · exact ⟨(hnew k x hx).1, posted_sealed hd hdecoded x (hnew k x hx).2⟩
  · intro x hx
    rcases List.mem_append.1 hx with hx | hx
    · exact ⟨(h.letters x hx).1.mono hsub, fun hreq => ((h.letters x hx).2 hreq).mono hlog⟩
    · refine ⟨posted_sealed hd hdecoded x hx, fun hreq => ?_⟩
      obtain ⟨k, hk⟩ := hposted x hx hreq
      exact ⟨k, List.mem_append_right _ hk⟩
  · intro r hr
    obtain ⟨x, info, hx, hread⟩ := h.reads r hr
    exact ⟨x, info, hx.mono hlog, hread⟩
  · intro seq parm hasked
    obtain ⟨x, hx, hpoll⟩ := h.asked seq parm hasked
    exact ⟨x, hx.mono hlog, hpoll⟩
  · exact fun m hm => (h.responses m hm).mono hlog

theorem recv_step {d d' : DeviceInner} {res : Except Proto.Error (Option Sequence × Response)}
    (h : d.step e (.recv res) = some d') : d.rx = .recv ∧ d' = { d with rx := DeviceInner.received res } := by
  simp only [DeviceInner.step] at h
  split at h
  · next hrx => exact ⟨hrx, (Option.some.inj h).symm⟩
  · cases h

/-- A step of the receiver, which takes a response or finds the connection broken. -/
theorem Inv.receives {res : Except Proto.Error (Option Sequence × Response)}
    {rest : List Response.Reply} (h : Inv e e' c) (hsub : rest ⊆ c.responses)
    (hbooks : answers rest + removing { c.client with rx := DeviceInner.received res } =
      answers c.responses)
    (hok : DeviceInner.Assumed c.client (.recv res))
    (hstep : { c with responses := rest }.stepClient e [] (.recv res) = some c') :
    Inv e e' c' ∧ c'.places = c.places ∧ table c'.client = table c.client := by
  obtain ⟨d, hd, rfl⟩ := Option.map_eq_some_iff.1 hstep
  have hconsistent := DeviceInner.step_consistent h.client hok hd
  obtain ⟨hrx, rfl⟩ := recv_step hd
  have hrequests : c.requests ++ posted e c.client (.recv res) = c.requests := List.append_nil _
  have hlog : c.log ++ [] = c.log := List.append_nil _
  have hnone : removing c.client = 0 := removing_of_ne (by rw [hrx]; exact nofun)
  simp only [hrequests, hlog]
  have hplaces : places { c with
        client := { c.client with rx := DeviceInner.received res }
        responses := rest } = c.places := by
    rw [places, places, hnone, add_zero, ← hbooks, add_assoc]
  refine ⟨⟨hconsistent, h.isOpen, h.asks, h.numbered, ?_, h.log, h.letters, h.reads, h.asked, ?_⟩,
    hplaces, rfl⟩
  · rw [hplaces]
    exact h.books
  · exact fun m hm => h.responses m (hsub hm)

/-- A response on the way has the form that the client expects for the request of its number. -/
theorem Inv.arrives (h : Inv e e' c) {m : Response.Reply} (hm : c.Answered e e' m) :
    ∃ seq k, (seq, k) ∈ c.client.sent ∧ Arrives e e' seq k m := by
  obtain ⟨x, ⟨call, hx⟩, hresponds, hnum⟩ := hm
  have hsealed := (h.log call x hx).2
  obtain ⟨k, hk, harrives⟩ := arrives_responds hsealed hresponds hnum
  exact ⟨x.seq, k, hsealed.sent k hk, harrives⟩

/-- The client may assume of a response what it does assume. -/
theorem Inv.assumed_arrived (h : Inv e e' c) {m : Response.Reply} (hm : m ∈ c.responses)
    {res : Except Proto.Error (Option Sequence × Response)} (harrived : arrived e e' m = some res) :
    DeviceInner.Assumed c.client (.recv res) := by
  obtain ⟨seq, k, hk, harrives⟩ := h.arrives (h.responses m hm)
  obtain ⟨res', ans, harrived', hreceived, hans⟩ := harrives.arrived
  obtain rfl : res = res' := Option.some.inj (harrived.symm.trans harrived')
  unfold DeviceInner.Assumed
  split
  · trivial
  · trivial
  · trivial
  · next seq' resp hres =>
    obtain rfl := DeviceLabel.recv.inj hres
    obtain ⟨rfl, -⟩ := Virtdev.RxPc.removing.inj hreceived
    exact ⟨(_, k), hk, rfl, hans resp rfl⟩
  · trivial

theorem assumed_own {l : DeviceLabel} (hown : ownClient l = true) (hok : c.Assumed (.client l)) :
    DeviceInner.Assumed c.client l := by
  cases l with
  | call | recv => cases hown
  | draw | sendInterrupt => exact hok
  | _ => trivial

/-- **A response that arrives goes to the request of its number.** -/
theorem Inv.deliver {m : Response.Reply} {rest : List Response.Reply}
    {res : Except Proto.Error (Option Sequence × Response)} (h : Inv e e' c)
    (hresponses : c.responses = m :: rest) (harrived : arrived e e' m = some res)
    (hstep : { c with responses := rest }.stepClient e [] (.recv res) = some c') :
    Inv e e' c' ∧ c'.places = c.places ∧ table c'.client = table c.client := by
  have hm : m ∈ c.responses := by rw [hresponses]; exact List.mem_cons_self
  obtain ⟨seq, k, hk, harrives⟩ := h.arrives (h.responses m hm)
  obtain ⟨res', ans, harrived', hreceived, -⟩ := harrives.arrived
  obtain rfl : res = res' := Option.some.inj (harrived.symm.trans harrived')
  refine h.receives ?_ ?_ (h.assumed_arrived hm harrived) hstep
  · rw [hresponses]
    exact List.subset_cons_self _ _
  · have hseq : answers [m] = {seq} := by
      rw [answers, List.filterMap_cons, harrives.seq_eq]
      rfl
    rw [removing_eq hreceived, hresponses, ← List.singleton_append, answers_append, hseq, add_comm]

/-- What the server sends is a response to a posted letter. -/
theorem Inv.origin {l : ServerLabel} {m : Response.Reply} (h : Inv e e' c)
    (hletter : ∀ req env, l = .request req env → ∃ x ∈ c.requests, req = x.received e e')
    (horigin : Server.Origin e' c.server l m) (hnum : m.Numbered) : c.Answered e e' m := by
  cases horigin with
  | request req env hl hm =>
      obtain ⟨x, hx, rfl⟩ := hletter req env hl
      obtain ⟨hsealed, hposted⟩ := h.letters x hx
      obtain ⟨k, hk, -⟩ := arrives_responds hsealed hm hnum
      exact ⟨x, hposted (by rw [hk]; rfl), hm, hnum⟩
  | read req hreq hm =>
      obtain ⟨x, info, hx, hreceived, hsize⟩ := h.reads req hreq
      refine ⟨x, hx, ?_, hnum⟩
      rw [hreceived]
      rcases hm with ⟨data, rfl, hdata⟩ | ⟨rc, rfl⟩
      · rw [hsize] at hdata
        exact .read req.1 info data hdata
      · exact .err (.read req.1 info) rc rfl
  | poll seq parm hasked hm =>
      obtain ⟨x, hx, hreceived⟩ := h.asked seq parm hasked
      exact ⟨x, hx, by rw [hreceived]; exact hm, hnum⟩

/-- A step of the server. -/
theorem Inv.serves {l : ServerLabel} (rest : List Letter) (h : Inv e e' c) (hl : l.Numbered)
    (hsub : rest ⊆ c.requests) (hbooks : owed rest + l.owed = owed c.requests)
    (hletter : ∀ req env, l = .request req env → ∃ x ∈ c.requests, req = x.received e e')
    (hstep : { c with requests := rest }.stepServer e' l = some c') :
    Inv e e' c' ∧ (Server.Lossless e' l → c'.places = c.places) := by
  obtain ⟨s, hs, rfl⟩ := Option.map_eq_some_iff.1 hstep
  have hbalance := (Server.step_move hs).balance h.isOpen h.asks h.waiting_nodup
  have hnumbered := h.numbered.step h.waiting_nodup hl hs
  have hafter : places { c with
        server := s
        requests := rest
        responses := c.responses ++ emitted c.server s l } =
      owed rest + answers c.responses + removing c.client +
        (answers (emitted c.server s l) + s.waiting) := by
    simp only [places, answers_append]
    abel
  have hbefore : c.places = owed rest + answers c.responses + removing c.client +
      (l.owed + c.server.waiting) := by
    rw [places, ← hbooks]
    abel
  refine ⟨⟨h.client, Server.step_open h.isOpen hs, hbalance.asks, hnumbered, ?_, h.log, ?_, ?_, ?_,
    ?_⟩, ?_⟩
  · refine le_trans ?_ h.books
    rw [hbefore]
    refine hafter.le.trans (add_le_add_right ?_ _)
    -- what is not sent is not on the way
    have hle : answers (emitted c.server s l) ≤ answers (Server.fresh c.server s) :=
      Multiset.coe_le.2 ((emitted_sublist c.server s l).filterMap _).subperm
    exact (add_le_add_left hle _).trans hbalance.books
  · exact fun x hx => h.letters x (hsub hx)
  · intro r hr
    rcases hbalance.reads r hr with hr | ⟨info, env, hlabel, hsize⟩
    · exact h.reads r hr
    · obtain ⟨x, hx, hreceived⟩ := hletter _ _ hlabel
      have hsome := x.owed_of_received (e := e) (d := e') (by rw [← hreceived]; rfl)
      exact ⟨x, info, (h.letters x hx).2 hsome, hreceived.symm, hsize⟩
  · intro seq parm hasked
    rcases hbalance.asked seq parm hasked with hasked | ⟨env, hlabel⟩
    · exact h.asked seq parm hasked
    · obtain ⟨x, hx, hreceived⟩ := hletter _ _ hlabel
      have hsome := x.owed_of_received (e := e) (d := e') (by rw [← hreceived]; rfl)
      exact ⟨x, (h.letters x hx).2 hsome, hreceived.symm⟩
  · intro m hm
    rcases List.mem_append.1 hm with hm | hm
    · exact h.responses m hm
    · have hfresh := (emitted_sublist c.server s l).subset hm
      have hnum := hnumbered.total m (hbalance.total.mem_iff.2 (List.mem_append_right _ hfresh))
      exact h.origin hletter (hbalance.origin m hfresh) hnum
  · intro hlossless
    rw [hbefore, ← hbalance.lossless hlossless, ← emitted_of_sent hlossless.1 c.server s]
    exact hafter

end Steps

/-- What happens to the messages in a step: nothing is lost, unless the server fails to answer. -/
def Lossless (e e' : Endian) (c : Conversation) : ConversationLabel → Prop
  | .serve env =>
      ∀ x rest, c.requests = x :: rest → Server.Lossless e' (.request (x.received e e') env)
  | .server l => Server.Lossless e' l
  | _ => True

section Steps

variable {e e' : Endian} {c c' : Conversation}

/-- **A step keeps the invariant**, and the books are even when nothing is lost. -/
theorem Inv.step {l : ConversationLabel} (h : Inv e e' c) (hok : c.Assumed l)
    (hstep : c.step e e' l = some c') :
    Inv e e' c' ∧ (c.Lossless e e' l →
      c'.places + table c.client = c.places + table c'.client) := by
  have heven : c'.places = c.places ∧ table c'.client = table c.client →
      c'.places + table c.client = c.places + table c'.client := by
    rintro ⟨hplaces, htable⟩
    rw [hplaces, htable]
  cases step_move hstep with
  | call k req info out c' hpending hstep =>
      have hok' : DeviceInner.Assumed c.client (.call req info out) := ⟨hok.1, hok.2.1⟩
      refine ⟨Inv.stepClient (l := .call req info out) h nofun ?_ ?_ ?_ hok' hstep,
        fun _ => places_client (l := .call req info out) h nofun hok' hstep⟩
      · rintro req' info' out' hlabel
        obtain ⟨rfl, -, -⟩ := DeviceLabel.call.inj hlabel
        exact KernelCall.pending_decoded hpending
      · intro k' x hx
        obtain ⟨rfl, hhead⟩ := Prod.mk.inj (List.mem_singleton.1 hx)
        have hx := List.mem_of_head? hhead.symm
        rw [posted_req hx]
        exact ⟨hpending, hx⟩
      · intro x hx _
        exact ⟨k, by rw [posted_head hx]; exact List.mem_cons_self⟩
  | client l c' hown hstep =>
      have hrecv : ∀ res, l ≠ .recv res := by
        rintro res rfl
        cases hown
      have hcall : ∀ req info out, l ≠ .call req info out := by
        rintro req info out rfl
        cases hown
      have hok' : DeviceInner.Assumed c.client l := assumed_own hown hok
      refine ⟨h.stepClient hrecv ?_ ?_ ?_ hok' hstep, fun _ => places_client h hrecv hok' hstep⟩
      · exact fun req info out hl => absurd hl (hcall req info out)
      · intro k x hx
        cases hx
      -- what it posts is an interrupt
      intro x hx hreq
      rcases posted_cases (e := e) (d := c.client) hcall with hnil | ⟨seq, hone⟩
      · rw [hnil] at hx
        cases hx
      · rw [hone, List.mem_singleton] at hx
        subst hx
        cases hreq
  | deliver m rest res c' hresponses harrived hstep =>
      have hdelivered := h.deliver hresponses harrived hstep
      exact ⟨hdelivered.1, fun _ => heven hdelivered.2⟩
  | fault errno c' hstep =>
      have hok' : DeviceInner.Assumed c.client (.recv (.error (.io errno))) := trivial
      have hfault := h.receives (List.Subset.refl _) ?_ hok' hstep
      · exact ⟨hfault.1, fun _ => heven hfault.2⟩
      · exact add_zero (answers c.responses)
  | serve x rest env c' hrequests haccepted hstep =>
      have hnum : ServerLabel.Numbered (.request (x.received e e') env) := hok.1
      have hserved := h.serves rest hnum ?_ ?_ ?_ hstep
      · refine ⟨hserved.1, fun hlossless => heven ⟨hserved.2 (hlossless x rest hrequests), ?_⟩⟩
        rw [(stepServer_eq hstep).2.1]
      · rw [hrequests]
        exact List.subset_cons_self _ _
      · rw [hrequests, owed_cons, ServerLabel.owed, Letter.owed_received, add_comm]
      · intro req env' hlabel
        obtain ⟨rfl, -⟩ := ServerLabel.request.inj hlabel
        exact ⟨x, by rw [hrequests]; exact List.mem_cons_self, rfl⟩
  | server l c' hown hstep =>
      have hserved := h.serves c.requests hok.1 (List.Subset.refl _) ?_ ?_ hstep
      · refine ⟨hserved.1, fun hlossless => heven ⟨hserved.2 hlossless, ?_⟩⟩
        rw [(stepServer_eq hstep).2.1]
      · cases l with
        | request => cases hown
        | _ => exact add_zero _
      · rintro req env rfl
        cases hown

end Steps

theorem inv_start {e e' : Endian} {drawn : Nat} (h : drawn < 2 ^ 64 - 1) : Inv e e' (start drawn) where
  client := DeviceInner.reachable_consistent (e := e) (.of_init ⟨drawn, h, rfl⟩)
  isOpen := Server.start_open
  asks := nofun
  numbered := Server.numbered_start
  books := Multiset.zero_le _
  log := nofun
  letters := nofun
  reads := nofun
  asked := nofun
  responses := nofun

theorem reachable_inv {e e' : Endian} {c : Conversation}
    (h : (system e e').Reachable Assumed c) : Inv e e' c := by
  refine h.invariant ?_ ?_
  · rintro c ⟨drawn, hdrawn, rfl⟩
    exact inv_start hdrawn
  · intro c l c' hinv hok hstep
    exact (hinv.step hok hstep).1

end Conversation

end Cuse2Net.Relay

import Cuse2Net.Lib.BitMask
import Cuse2Net.Lib.OneShot
import Cuse2Net.Lib.Transition
import Cuse2Net.Proto.Request
import Cuse2Net.Proto.Response
import Mathlib.Data.List.AList

/-!
# Wake-ups of poll handles

Model of `PollInner` in `realdev/poll.rs`, of `Poll::poll` and `Poll::poll_once`, and of the event
loop of `Poll::run` as far as the device is concerned. A poll request that finds the device not ready
registers its handle; the device sits in an epoll set with an edge-triggered entry, and an event of
that entry wakes the registered handles whose mask it meets and ends their registration.

Each call runs under the write guard and is one step here. The kernel is part of the system: `ready`
are the conditions of the device as `poll(2)` reports them, and `pending` is the mark of the epoll
entry. A condition that appears sets the mark; the kernel may set it at other times too. `epoll_wait`
clears it and returns the conditions of that moment; whether it also reports conditions the entry has
not asked for is left open. Poll requests may arrive before the worker has added the device to the
set.

The system is an instance of one-shot notification (`abs`, `step_abs`), and
`no_wakeup_lost_or_invented` reads the result off.
-/

set_option autoImplicit false

namespace Cuse2Net.Realdev

open Cuse2Net.Lib
open Cuse2Net.Proto

/-- `Kh`: a poll handle of the kernel on the client. -/
abbrev Kh := BitVec 64

/-- `PollFlags`. -/
abbrev PollFlags := BitVec 16

/-- `EpollFlags`. -/
abbrev EpollFlags := BitVec 32

namespace PollFlags

def POLLIN : PollFlags := 0x001
def POLLPRI : PollFlags := 0x002
def POLLOUT : PollFlags := 0x004
def POLLERR : PollFlags := 0x008
def POLLHUP : PollFlags := 0x010
def POLLNVAL : PollFlags := 0x020
def POLLRDNORM : PollFlags := 0x040
def POLLRDBAND : PollFlags := 0x080
def POLLWRNORM : PollFlags := 0x100
def POLLWRBAND : PollFlags := 0x200

/-- `PollFlags::all`. -/
def all : PollFlags :=
  POLLIN ||| POLLPRI ||| POLLOUT ||| POLLRDNORM ||| POLLWRNORM ||| POLLRDBAND ||| POLLWRBAND |||
    POLLERR ||| POLLHUP ||| POLLNVAL

/-- `PollFlags::from_bits`. -/
def fromBits (v : BitVec 16) : Option PollFlags := if v &&& ~~~all = 0 then some v else none

end PollFlags

namespace EpollFlags

def EPOLLIN : EpollFlags := 0x001
def EPOLLPRI : EpollFlags := 0x002
def EPOLLOUT : EpollFlags := 0x004
def EPOLLERR : EpollFlags := 0x008
def EPOLLHUP : EpollFlags := 0x010
def EPOLLRDBAND : EpollFlags := 0x080
def EPOLLWRBAND : EpollFlags := 0x200

/-- The conditions of `ev_ser`, without the flag for edges. -/
def interest : EpollFlags := EPOLLIN ||| EPOLLOUT ||| EPOLLPRI

end EpollFlags

open PollFlags EpollFlags

/-- `proto_to_poll`. -/
def protoToPoll (ev : BitVec 32) : PollFlags :=
  let map (bit : PollFlags) : PollFlags := if ev &&& bit.setWidth 32 = 0 then 0 else bit
  map POLLIN ||| map POLLOUT ||| map POLLPRI ||| map POLLRDBAND ||| map POLLWRBAND

/-- One arm of `poll_to_epoll`. -/
def mapPoll (ev bitPoll : PollFlags) (bitEpoll : EpollFlags) : EpollFlags :=
  if ev &&& bitPoll = bitPoll then bitEpoll else 0

/-- `poll_to_epoll`. -/
def pollToEpoll (ev : PollFlags) : EpollFlags :=
  mapPoll ev POLLIN EPOLLIN ||| mapPoll ev POLLOUT EPOLLOUT ||| mapPoll ev POLLPRI EPOLLPRI |||
    mapPoll ev POLLRDBAND EPOLLRDBAND ||| mapPoll ev POLLWRBAND EPOLLWRBAND

/-! ## The shared state -/

/-- `PollInner`: the registered handles, and the responses sent. -/
structure PollInner where
  khs : AList fun _ : Kh => EpollFlags
  sent : List Response.Reply
  deriving DecidableEq

/-- The result of `nix::poll::poll` for one descriptor: the count with the word `revents`, or an
error. -/
abbrev PollOutcome := Except Errno (Nat × BitVec 16)

namespace PollInner

/-- `PollInner::new`. -/
def new : PollInner := ⟨∅, []⟩

/-- The filter of `signal`. -/
def meets (ev mask : EpollFlags) : Bool := ev &&& (mask ||| EPOLLERR ||| EPOLLHUP) != 0

/-- The handles that `signal` collects, in the order of the table. -/
def signalled (p : PollInner) (ev : EpollFlags) : List Kh :=
  (p.khs.entries.filter fun x => meets ev x.2).map Sigma.fst

/-- `signal`, when the hash map is walked so that the handles come in the order `khs`. -/
def signal (p : PollInner) (khs : List Kh) : PollInner where
  khs := khs.foldl (fun m kh => m.erase kh) p.khs
  sent := p.sent ++ [.pollWakeup khs]

/-- `send_events`. -/
def sendEvents (p : PollInner) (seq : Sequence) (ev : PollFlags) : PollInner :=
  { p with sent := p.sent ++ [.poll seq (ev.signExtend 32)] }

/-- `send_err`. -/
def sendErr (p : PollInner) (seq : Sequence) (rc : Errno) : PollInner :=
  { p with sent := p.sent ++ [.err seq rc] }

/-- `register_kh`. -/
def registerKh (p : PollInner) (kh : Kh) (ev : PollFlags) : PollInner :=
  if ev = 0 then { p with khs := p.khs.erase kh }
  else { p with khs := p.khs.insert kh (pollToEpoll ev) }

/-- `PollInner::poll`: whether the device was ready. No value means that the arm for an unexpected
count panics. -/
def poll (p : PollInner) (seq : Sequence) : PollOutcome → Option (PollInner × Except Errno Bool)
  | .ok (0, _) => some (p.sendEvents seq 0, .ok false)
  | .ok (1, revents) => some (p.sendEvents seq ((fromBits revents).getD 0), .ok true)
  | .ok _ => none
  | .error e => some (p, .error e)

/-- `Poll::poll`. -/
def pollNotify (p : PollInner) (seq : Sequence) (kh : Kh) (events : BitVec 32) (res : PollOutcome) :
    Option PollInner :=
  (p.poll seq res).map fun
    | (p, .ok false) => p.registerKh kh (protoToPoll events)
    | (p, .ok true) => p
    | (p, .error e) => p.sendErr seq e

/-- `Poll::poll_once`. -/
def pollOnce (p : PollInner) (seq : Sequence) (res : PollOutcome) : Option PollInner :=
  (p.poll seq res).map fun
    | (p, .ok _) => p
    | (p, .error e) => p.sendErr seq e

/-- `Device::poll`. -/
def devicePoll (p : PollInner) (seq : Sequence) (kh : Kh) (pollFlags events : BitVec 32)
    (res : PollOutcome) : Option PollInner :=
  if pollFlags &&& Request.Poll.FLAG_SCHEDULE_NOTIFY = 0 then p.pollOnce seq res
  else p.pollNotify seq kh events res

/-- The handles of all wake-ups that were sent. -/
def woken (p : PollInner) : List Kh :=
  p.sent.flatMap fun
    | .pollWakeup khs => khs
    | _ => []

/-- The response to a poll request; none for an unexpected count. -/
def pollReply (seq : Sequence) : PollOutcome → Option Response.Reply
  | .ok (0, _) => some (.poll seq ((0 : PollFlags).signExtend 32))
  | .ok (1, revents) => some (.poll seq (((fromBits revents).getD 0).signExtend 32))
  | .ok _ => none
  | .error e => some (.err seq e)

/-- The request is answered not-ready and asks for a notification. -/
def registers (pollFlags : BitVec 32) : PollOutcome → Bool
  | .ok (0, _) => pollFlags &&& Request.Poll.FLAG_SCHEDULE_NOTIFY != 0
  | _ => false

/-- **What `Device::poll` does**: one response, and possibly a registration. -/
theorem devicePoll_eq (p : PollInner) (seq : Sequence) (kh : Kh) (pollFlags events : BitVec 32)
    (res : PollOutcome) :
    p.devicePoll seq kh pollFlags events res = (pollReply seq res).map fun m =>
      { khs := if registers pollFlags res then (p.registerKh kh (protoToPoll events)).khs else p.khs
        sent := p.sent ++ [m] } := by
  have hregister : ∀ ev : PollFlags, (p.sendEvents seq 0).registerKh kh ev =
      { khs := (p.registerKh kh ev).khs, sent := (p.sendEvents seq 0).sent } := by
    intro ev
    unfold registerKh
    split <;> rfl
  unfold devicePoll pollOnce pollNotify
  match res with
  | .error e => split <;> rfl
  | .ok (0, revents) =>
      by_cases hflag : pollFlags &&& Request.Poll.FLAG_SCHEDULE_NOTIFY = 0
      · rw [if_pos hflag]
        simp only [registers, hflag, bne_self_eq_false]
        rfl
      · rw [if_neg hflag]
        simp only [registers, bne_iff_ne.2 hflag, if_true]
        exact congrArg some (hregister _)
  | .ok (1, revents) => split <;> rfl
  | .ok (count + 2, revents) => split <;> rfl

theorem pollReply_isSome_iff (seq : Sequence) (res : PollOutcome) :
    (pollReply seq res).isSome = true ↔ ∀ count revents, res = .ok (count, revents) → count ≤ 1 := by
  match res with
  | .error e => exact iff_of_true rfl fun _ _ h => by cases h
  | .ok (0, revents) =>
      refine iff_of_true rfl fun count revents' h => ?_
      cases h
      exact Nat.zero_le 1
  | .ok (1, revents) =>
      refine iff_of_true rfl fun count revents' h => ?_
      cases h
      exact Nat.le_refl 1
  | .ok (count + 2, revents) =>
      exact iff_of_false Bool.noConfusion fun h => absurd (h _ _ rfl) (by simp)

end PollInner

/-! ## The kernel and the event loop -/

/-- `poll(2)` on a descriptor with the conditions `ready`, which looks at the mask and at the three
conditions that are always reported. -/
def kernelPoll (ready mask : PollFlags) : Nat × BitVec 16 :=
  let revents := ready &&& (mask ||| POLLERR ||| POLLHUP ||| POLLNVAL)
  (if revents = 0 then 0 else 1, revents)

/-- The handles, the kernel and the event loop. `held` is an event of the device that the loop has not
signalled yet; `notReady` records the handles of the poll requests with notification that were
answered not-ready. -/
structure PollNotify where
  inner : PollInner
  ready : PollFlags
  added : Bool
  pending : Bool
  held : Option EpollFlags
  notReady : List Kh
  deriving DecidableEq

/-- Steps. -/
inductive NotifyLabel where
  /-- `main` handles a poll request; `poll(2)` may fail. -/
  | request (seq : Sequence) (kh : Kh) (pollFlags events : BitVec 32) (failure : Option Errno)
  /-- The conditions of the device change; `mark` tells whether the kernel sets the mark anyway. -/
  | change (ready : PollFlags) (mark : Bool)
  /-- The worker adds the device to the epoll set. -/
  | add (mark : Bool)
  /-- `epoll_wait` returns an event of the device. -/
  | wait (ev : EpollFlags)
  /-- The loop calls `signal`. -/
  | signal (khs : List Kh)
  deriving DecidableEq

namespace PollNotify

/-- What `poll(2)` returns to a poll request. -/
def pollResult (s : PollNotify) (events : BitVec 32) : Option Errno → PollOutcome
  | some e => .error e
  | none => .ok (kernelPoll s.ready (protoToPoll events))

/-- History: a poll request with notification that was answered not-ready. -/
def noteNotReady (s : PollNotify) (kh : Kh) (pollFlags : BitVec 32) (res : PollOutcome) : List Kh :=
  match res with
  | .ok (0, _) =>
      if pollFlags &&& Request.Poll.FLAG_SCHEDULE_NOTIFY = 0 then s.notReady else s.notReady ++ [kh]
  | _ => s.notReady

/-- One step. -/
def step (s : PollNotify) : NotifyLabel → Option PollNotify
  | .request seq kh pollFlags events failure =>
      let res := s.pollResult events failure
      (s.inner.devicePoll seq kh pollFlags events res).map fun inner =>
        { s with inner := inner, notReady := s.noteNotReady kh pollFlags res }
  | .change ready mark =>
      some { s with ready := ready, pending := s.pending || mark || ready &&& ~~~s.ready != 0 }
  | .add mark =>
      if s.added then none
      else some { s with
        added := true
        -- an entry for a device that is ready is marked at once
        pending := mark || s.ready.setWidth 32 &&& interest != 0 }
  | .wait ev =>
      if s.added ∧ s.pending ∧ s.held = none ∧ ev &&& interest = s.ready.setWidth 32 &&& interest then
        some { s with pending := false, held := some ev }
      else none
  | .signal khs =>
      match s.held with
      | some ev =>
          if khs.Perm (s.inner.signalled ev) then
            some { s with inner := s.inner.signal khs, held := none }
          else none
      | none => none

/-- Before the first request, with a device in any condition. -/
def start (ready : PollFlags) : PollNotify := ⟨.new, ready, false, false, none, []⟩

/-- The main thread, the event loop and the kernel. -/
def system : System PollNotify NotifyLabel where
  init s := ∃ ready, s = start ready
  step := step

/-! ## One-shot notification -/

/-- The system as one-shot notification. As long as the device is not in the epoll set, it counts as
marked: adding it looks at its conditions. -/
def abs (s : PollNotify) : OneShot Kh Nat where
  ready := flags s.ready
  marked := s.added = false ∨ s.pending = true
  snapshot := s.held.map flags
  mask kh := (s.inner.khs.lookup kh).map flags
  credits kh := s.notReady.count kh
  wakeups kh := s.inner.woken.count kh

theorem flags_mapPoll_subset {ev bitPoll : PollFlags} {bitEpoll : EpollFlags}
    (h : bitEpoll = bitPoll.setWidth 32) : flags (mapPoll ev bitPoll bitEpoll) ⊆ flags ev := by
  unfold mapPoll
  split
  · rename_i hcontains
    rw [h, flags_setWidth (by decide), ← hcontains, flags_and]
    exact Set.inter_subset_left
  · intro i hi
    simp at hi

/-- The mask of a handle has no condition that the request has not asked for. -/
theorem flags_pollToEpoll_subset (ev : PollFlags) : flags (pollToEpoll ev) ⊆ flags ev := by
  simp only [pollToEpoll, flags_or, Set.union_subset_iff]
  exact ⟨⟨⟨⟨flags_mapPoll_subset rfl, flags_mapPoll_subset rfl⟩, flags_mapPoll_subset rfl⟩,
    flags_mapPoll_subset rfl⟩, flags_mapPoll_subset rfl⟩

/-- `poll(2)` counts the descriptor exactly when it has a condition to report. -/
theorem kernelPoll_eq_zero_iff (ready mask : PollFlags) : (kernelPoll ready mask).1 = 0 ↔
    ready &&& (mask ||| POLLERR ||| POLLHUP ||| POLLNVAL) = 0 := by
  by_cases h : ready &&& (mask ||| POLLERR ||| POLLHUP ||| POLLNVAL) = 0
  · exact iff_of_true (if_pos h) h
  · have hone : (kernelPoll ready mask).1 = 1 := if_neg h
    exact iff_of_false (by rw [hone]; decide) h

/-- A device that is not ready has none of the conditions asked for. -/
theorem disjoint_of_kernelPoll {ready mask : PollFlags} (h : (kernelPoll ready mask).1 = 0) :
    Disjoint (flags ready) (flags (pollToEpoll mask)) := by
  have hzero := (kernelPoll_eq_zero_iff ready mask).1 h
  rw [Set.disjoint_left]
  intro i hi hmask
  have hnonempty : (flags (ready &&& (mask ||| POLLERR ||| POLLHUP ||| POLLNVAL))).Nonempty := by
    refine ⟨i, ?_⟩
    simp only [flags_and, flags_or]
    exact ⟨hi, .inl (.inl (.inl (flags_pollToEpoll_subset mask hmask)))⟩
  exact (flags_nonempty_iff _).1 hnonempty hzero

theorem kernelPoll_count (ready mask : PollFlags) :
    (kernelPoll ready mask).1 = 0 ∨ (kernelPoll ready mask).1 = 1 := by
  unfold kernelPoll
  by_cases h : ready &&& (mask ||| POLLERR ||| POLLHUP ||| POLLNVAL) = 0
  · exact .inl (if_pos h)
  · exact .inr (if_neg h)

/-- `poll(2)` reports only conditions that `from_bits` knows. -/
theorem reported_subset (ev : BitVec 32) {revents : PollFlags}
    (h : revents &&& ~~~(protoToPoll ev ||| POLLERR ||| POLLHUP ||| POLLNVAL) = 0) :
    revents &&& ~~~PollFlags.all = 0 := by
  have hbit : ∀ bit : PollFlags, bit &&& ~~~PollFlags.all = 0 →
      flags (if ev &&& bit.setWidth 32 = 0 then 0 else bit) ⊆ flags PollFlags.all := by
    intro bit hbit
    rw [flags_subset_iff]
    split
    · exact BitVec.zero_and
    · exact hbit
  rw [← flags_subset_iff] at h ⊢
  refine h.trans ?_
  simp only [protoToPoll, flags_or, Set.union_subset_iff]
  exact ⟨⟨⟨⟨⟨⟨⟨hbit _ rfl, hbit _ rfl⟩, hbit _ rfl⟩, hbit _ rfl⟩, hbit _ rfl⟩,
    (flags_subset_iff _ _).2 rfl⟩, (flags_subset_iff _ _).2 rfl⟩, (flags_subset_iff _ _).2 rfl⟩

theorem fromBits_kernelPoll (ready : PollFlags) (w : BitVec 32) :
    fromBits (kernelPoll ready (protoToPoll w)).2 = some (kernelPoll ready (protoToPoll w)).2 := by
  refine if_pos (reported_subset w ?_)
  rw [← flags_subset_iff, kernelPoll, flags_and]
  exact Set.inter_subset_right

theorem signExtend_ne_zero_iff (v : BitVec 16) : v.signExtend 32 ≠ 0 ↔ v ≠ 0 := by
  constructor
  · rintro h rfl
    exact h (by decide)
  · intro h heq
    apply h
    apply BitVec.eq_of_getLsbD_eq
    intro i hi
    have hbit := congrArg (fun x => x.getLsbD i) heq
    simp only [BitVec.getLsbD_signExtend, decide_eq_true (show i < 32 by omega), if_pos hi,
      Bool.true_and] at hbit
    rw [hbit]
    simp

/-- **The response to a poll request** when `poll(2)` does not fail: the conditions that it finds, in a
word that is zero when there are none. -/
theorem pollReply_kernelPoll (seq : Sequence) (ready : PollFlags) (w : BitVec 32) :
    ∃ ev, PollInner.pollReply seq (.ok (kernelPoll ready (protoToPoll w))) = some (.poll seq ev) ∧
      (ev = 0 ↔ (kernelPoll ready (protoToPoll w)).1 = 0) := by
  have hbits := fromBits_kernelPoll ready w
  rcases kernelPoll_count ready (protoToPoll w) with hcount | hcount
  · refine ⟨0, ?_, iff_of_true rfl hcount⟩
    rw [← Prod.mk.eta (p := kernelPoll ready (protoToPoll w)), hcount]
    rfl
  · refine ⟨(kernelPoll ready (protoToPoll w)).2.signExtend 32, ?_, ?_⟩
    · rw [← Prod.mk.eta (p := kernelPoll ready (protoToPoll w)), hcount]
      simp only [PollInner.pollReply, hbits, Option.getD_some]
    · refine iff_of_false ((signExtend_ne_zero_iff _).2 fun hzero => ?_) (by rw [hcount]; decide)
      rw [(kernelPoll_eq_zero_iff ready (protoToPoll w)).2 hzero] at hcount
      cases hcount

/-- The table after a registration. -/
theorem lookup_registerKh (p : PollInner) (kh : Kh) (ev : PollFlags) (kh' : Kh) :
    (p.registerKh kh ev).khs.lookup kh' =
      Function.update (fun k => p.khs.lookup k) kh
        (if ev = 0 then none else some (pollToEpoll ev)) kh' := by
  unfold PollInner.registerKh
  by_cases hk : kh' = kh
  · subst hk
    by_cases hev : ev = 0
    · rw [if_pos hev, if_pos hev, Function.update_self, AList.lookup_erase]
    · rw [if_neg hev, if_neg hev, Function.update_self, AList.lookup_insert]
  · rw [Function.update_of_ne hk]
    by_cases hev : ev = 0
    · rw [if_pos hev, AList.lookup_erase_ne hk]
    · rw [if_neg hev, AList.lookup_insert_ne hk]

/-- The table after a signal. -/
theorem lookup_signal (p : PollInner) (khs : List Kh) (kh : Kh) :
    (p.signal khs).khs.lookup kh = if kh ∈ khs then none else p.khs.lookup kh := by
  have hfold : ∀ m : AList fun _ : Kh => EpollFlags,
      (khs.foldl (fun m kh => m.erase kh) m).lookup kh = if kh ∈ khs then none else m.lookup kh := by
    induction khs with
    | nil =>
        intro m
        simp
    | cons k khs ih =>
        intro m
        rw [List.foldl_cons, ih]
        by_cases hk : kh = k
        · subst hk
          simp
        · simp [hk, AList.lookup_erase_ne hk]
  exact hfold p.khs

theorem mem_signalled {p : PollInner} {ev : EpollFlags} {kh : Kh} :
    kh ∈ p.signalled ev ↔ ∃ mask, p.khs.lookup kh = some mask ∧ PollInner.meets ev mask = true := by
  simp only [PollInner.signalled, List.mem_map, List.mem_filter]
  constructor
  · rintro ⟨⟨k, mask⟩, ⟨hmem, hmeets⟩, rfl⟩
    exact ⟨mask, AList.mem_lookup_iff.2 hmem, hmeets⟩
  · rintro ⟨mask, hlookup, hmeets⟩
    exact ⟨⟨kh, mask⟩, ⟨AList.mem_lookup_iff.1 hlookup, hmeets⟩, rfl⟩

/-- A handle is collected once. -/
theorem nodup_signalled (p : PollInner) (ev : EpollFlags) : (p.signalled ev).Nodup := by
  have hkeys : (p.khs.entries.map Sigma.fst).Nodup := p.khs.nodupKeys
  exact (List.filter_sublist.map Sigma.fst).nodup hkeys

/-- A signal meets every handle whose mask it meets. -/
theorem meets_of_nonempty {ev mask : EpollFlags} (h : (flags ev ∩ flags mask).Nonempty) :
    PollInner.meets ev mask = true := by
  have hne : ev &&& (mask ||| EPOLLERR ||| EPOLLHUP) ≠ 0 := by
    rw [← flags_and_nonempty_iff]
    refine h.mono (Set.inter_subset_inter_right _ ?_)
    simp only [flags_or]
    exact Set.subset_union_of_subset_left Set.subset_union_left _
  simpa [PollInner.meets] using hne

/-- History: the requests that register are those that are noted. -/
theorem noteNotReady_eq (s : PollNotify) (kh : Kh) (pollFlags : BitVec 32) (res : PollOutcome) :
    s.noteNotReady kh pollFlags res =
      if PollInner.registers pollFlags res then s.notReady ++ [kh] else s.notReady := by
  match res with
  | .error e => rfl
  | .ok (0, revents) =>
      by_cases hflag : pollFlags &&& Request.Poll.FLAG_SCHEDULE_NOTIFY = 0
      · simp only [noteNotReady, PollInner.registers, hflag, if_true, bne_self_eq_false,
          Bool.false_eq_true, if_false]
      · simp only [noteNotReady, PollInner.registers, hflag, if_false, bne_iff_ne.2 hflag, if_true]
  | .ok (count + 1, revents) => rfl

/-- **What the step of a poll request does**, with the response `m`. -/
theorem request_eq_some_iff {s t : PollNotify} {seq : Sequence} {kh : Kh}
    {pollFlags events : BitVec 32} {failure : Option Errno} :
    s.step (.request seq kh pollFlags events failure) = some t ↔
      ∃ m, PollInner.pollReply seq (s.pollResult events failure) = some m ∧
        t = { s with
          inner :=
            { khs :=
                if PollInner.registers pollFlags (s.pollResult events failure) then
                  (s.inner.registerKh kh (protoToPoll events)).khs
                else s.inner.khs
              sent := s.inner.sent ++ [m] }
          notReady :=
            if PollInner.registers pollFlags (s.pollResult events failure) then s.notReady ++ [kh]
            else s.notReady } := by
  simp only [step, PollInner.devicePoll_eq, noteNotReady_eq, Option.map_map, Option.map_eq_some_iff,
    Function.comp_apply]
  exact exists_congr fun m => and_congr_right fun _ => eq_comm

/-- A response to a poll request wakes nobody. -/
theorem woken_pollReply {p : PollInner} {seq : Sequence} {res : PollOutcome} {m : Response.Reply}
    (h : PollInner.pollReply seq res = some m) (khs : AList fun _ : Kh => EpollFlags) :
    PollInner.woken ⟨khs, p.sent ++ [m]⟩ = p.woken := by
  have hm : (∃ ev, m = .poll seq ev) ∨ ∃ rc, m = .err seq rc := by
    match res with
    | .error e => exact .inr ⟨e, (Option.some.inj h).symm⟩
    | .ok (0, revents) => exact .inl ⟨_, (Option.some.inj h).symm⟩
    | .ok (1, revents) => exact .inl ⟨_, (Option.some.inj h).symm⟩
    | .ok (count + 2, revents) => cases h
  rcases hm with ⟨ev, rfl⟩ | ⟨rc, rfl⟩ <;> simp [PollInner.woken]

/-- A request registers when it finds the device not ready and asks for a notification. -/
theorem registers_iff {s : PollNotify} {pollFlags events : BitVec 32} {failure : Option Errno} :
    PollInner.registers pollFlags (s.pollResult events failure) = true ↔
      failure = none ∧ (kernelPoll s.ready (protoToPoll events)).1 = 0 ∧
        pollFlags &&& Request.Poll.FLAG_SCHEDULE_NOTIFY ≠ 0 := by
  cases failure with
  | some e => exact iff_of_false Bool.noConfusion fun h => by cases h.1
  | none =>
      rw [pollResult]
      rcases hpoll : kernelPoll s.ready (protoToPoll events) with ⟨_ | count, revents⟩
      · rw [PollInner.registers, bne_iff_ne]
        exact ⟨fun hflag => ⟨rfl, rfl, hflag⟩, fun h => h.2.2⟩
      · exact iff_of_false Bool.noConfusion fun h => Nat.succ_ne_zero count h.2.1

/-- A registration, as one-shot notification sees it. -/
theorem abs_register (s : PollNotify) (kh : Kh) (ev : PollFlags) {sent : List Response.Reply}
    (hwoken : PollInner.woken ⟨(s.inner.registerKh kh ev).khs, sent⟩ = s.inner.woken) :
    abs { s with
      inner := ⟨(s.inner.registerKh kh ev).khs, sent⟩
      notReady := s.notReady ++ [kh] } =
    { abs s with
      mask := Function.update (abs s).mask kh
        ((if ev = 0 then none else some (pollToEpoll ev)).map flags)
      credits := Function.update (abs s).credits kh ((abs s).credits kh + 1) } := by
  refine OneShot.ext rfl rfl rfl ?_ ?_ ?_
  · funext kh'
    show ((s.inner.registerKh kh ev).khs.lookup kh').map flags = _
    rw [lookup_registerKh]
    by_cases hk : kh' = kh
    · subst hk
      simp only [Function.update_self]
    · simp only [Function.update_of_ne hk]
      rfl
  · funext kh'
    show (s.notReady ++ [kh]).count kh' =
      Function.update (abs s).credits kh ((abs s).credits kh + 1) kh'
    rw [List.count_append]
    by_cases hk : kh' = kh
    · subst hk
      rw [Function.update_self, List.count_singleton_self]
      rfl
    · rw [Function.update_of_ne hk, List.count_singleton, beq_false_of_ne (Ne.symm hk)]
      rfl
  · funext kh'
    exact congrArg (List.count kh') hwoken

/-- A signal, as one-shot notification sees it. -/
theorem abs_signal (s : PollNotify) {khs : List Kh} (hnodup : khs.Nodup) :
    abs { s with inner := s.inner.signal khs, held := none } =
    { abs s with
      snapshot := none
      mask := fun kh => if kh ∈ khs then none else (abs s).mask kh
      wakeups := fun kh => if kh ∈ khs then (abs s).wakeups kh + 1 else (abs s).wakeups kh } := by
  refine OneShot.ext rfl rfl rfl ?_ rfl ?_
  · funext kh
    show ((s.inner.signal khs).khs.lookup kh).map flags = _
    rw [lookup_signal]
    by_cases hk : kh ∈ khs
    · simp only [if_pos hk, Option.map_none]
    · simp only [if_neg hk]
      rfl
  · funext kh
    have hwoken : (s.inner.signal khs).woken = s.inner.woken ++ khs := by
      simp [PollInner.woken, PollInner.signal]
    show (s.inner.signal khs).woken.count kh =
      if kh ∈ khs then (abs s).wakeups kh + 1 else (abs s).wakeups kh
    rw [hwoken, List.count_append]
    by_cases hk : kh ∈ khs
    · rw [if_pos hk, List.count_eq_one_of_mem hnodup hk]
      rfl
    · rw [if_neg hk, List.count_eq_zero_of_not_mem hk]
      rfl

/-- A snapshot, as one-shot notification sees it. -/
theorem abs_wait {s : PollNotify} (ev : EpollFlags) (hadded : s.added = true) :
    abs { s with pending := false, held := some ev } =
      { abs s with marked := False, snapshot := some (flags ev) } := by
  refine OneShot.ext rfl ?_ rfl rfl rfl rfl
  simp [abs, hadded]

/-- **A step is a step of one-shot notification**, or nothing that matters to it. -/
theorem step_abs {s t : PollNotify} {l : NotifyLabel} (h : step s l = some t) :
    abs t = abs s ∨ OneShot.Step (flags interest) (abs s) (abs t) := by
  cases l with
  | request seq kh pollFlags events failure =>
      obtain ⟨m, hm, rfl⟩ := request_eq_some_iff.1 h
      cases hregisters : PollInner.registers pollFlags (s.pollResult events failure) with
      | false =>
        left
        simp only [abs, woken_pollReply hm, Bool.false_eq_true, if_false]
      | true =>
        right
        have hquiet := (registers_iff.1 hregisters).2.1
        simp only [if_true]
        rw [abs_register s kh (protoToPoll events) (woken_pollReply hm _)]
        refine OneShot.Step.register kh _ fun m hm => ?_
        split at hm
        · cases hm
        · obtain rfl := Option.some.inj hm
          exact disjoint_of_kernelPoll hquiet
  | change ready mark =>
      obtain rfl := Option.some.inj h
      right
      refine OneShot.Step.change (s := abs s) (flags ready) _ ?_ ?_
      · rintro (hadded | hpending)
        · exact .inl hadded
        · exact .inr (by simp [hpending])
      · intro hnew
        right
        have hne : ready &&& ~~~s.ready ≠ 0 := by
          rw [← flags_nonempty_iff, flags_and_not]
          exact hnew
        rw [Bool.or_eq_true, bne_iff_ne]
        exact .inr hne
  | add mark =>
      simp only [step, Option.ite_none_left_eq_some, Option.some.injEq] at h
      obtain ⟨-, rfl⟩ := h
      right
      refine OneShot.Step.rearm (s := abs s) _ fun hlevel => .inr ?_
      have hne : s.ready.setWidth 32 &&& interest ≠ 0 := by
        rw [← flags_and_nonempty_iff, flags_setWidth (by decide)]
        exact hlevel
      rw [Bool.or_eq_true, bne_iff_ne]
      exact .inr hne
  | wait ev =>
      simp only [step, Option.ite_none_right_eq_some, Option.some.injEq] at h
      obtain ⟨⟨hadded, -, -, hev⟩, rfl⟩ := h
      right
      rw [abs_wait ev hadded]
      refine OneShot.Step.wait (flags ev) ?_
      -- the event agrees with the conditions of the device on the interest
      show flags s.ready ∩ flags interest ⊆ flags ev
      rw [← flags_setWidth (show 16 ≤ 32 by decide) s.ready, ← flags_and, ← hev, flags_and]
      exact Set.inter_subset_left
  | signal khs =>
      simp only [step] at h
      split at h
      · rename_i ev hheld
        rw [Option.ite_none_right_eq_some] at h
        obtain ⟨hperm, h⟩ := h
        obtain rfl := Option.some.inj h
        right
        rw [abs_signal s (hperm.nodup_iff.2 (nodup_signalled _ _))]
        refine OneShot.Step.signal (s := abs s) (flags ev) {kh | kh ∈ khs} ?_ ?_ ?_
        · rw [abs, hheld]
          rfl
        · intro kh m hm hmeet
          obtain ⟨mask, hlookup, rfl⟩ := Option.map_eq_some_iff.1 hm
          exact hperm.mem_iff.2 (mem_signalled.2 ⟨mask, hlookup, meets_of_nonempty hmeet⟩)
        · intro kh hkh
          obtain ⟨mask, hlookup, -⟩ := mem_signalled.1 (hperm.mem_iff.1 hkh)
          show ((s.inner.khs.lookup kh).map flags).isSome = true
          rw [hlookup]
          rfl
      · cases h

/-- **A signal sends what it removes**: the handles that the event meets, each once. -/
theorem signal_sends {s t : PollNotify} {khs : List Kh} (h : step s (.signal khs) = some t) :
    t.inner.sent = s.inner.sent ++ [.pollWakeup khs] ∧ khs.Nodup ∧
      (∀ kh, kh ∈ khs ↔ (s.inner.khs.lookup kh).isSome = true ∧ t.inner.khs.lookup kh = none) ∧
      ∃ ev, s.held = some ev ∧ ∀ kh, kh ∈ khs ↔
        ∃ mask, s.inner.khs.lookup kh = some mask ∧ PollInner.meets ev mask = true := by
  simp only [step] at h
  split at h
  · next ev hheld =>
    rw [Option.ite_none_right_eq_some] at h
    obtain ⟨hperm, h⟩ := h
    obtain rfl := Option.some.inj h
    have hmem : ∀ kh, kh ∈ khs ↔
        ∃ mask, s.inner.khs.lookup kh = some mask ∧ PollInner.meets ev mask = true :=
      fun kh => hperm.mem_iff.trans mem_signalled
    refine ⟨rfl, hperm.nodup_iff.2 (nodup_signalled _ _), fun kh => ?_, ev, hheld, hmem⟩
    simp only [lookup_signal]
    constructor
    · intro hkh
      obtain ⟨mask, hlookup, -⟩ := (hmem kh).1 hkh
      exact ⟨by rw [hlookup]; rfl, if_pos hkh⟩
    · rintro ⟨hsome, hnone⟩
      by_contra hkh
      rw [if_neg hkh] at hnone
      rw [hnone] at hsome
      cases hsome
  · cases h

theorem reachable_sound {s : PollNotify} (h : system.Reachable always s) :
    OneShot.Sound (flags interest) (abs s) := by
  refine h.invariant (P := fun s => OneShot.Sound (flags interest) (abs s)) ?_ ?_
  · rintro s ⟨ready, rfl⟩
    exact ⟨fun kh m hm => (by cases hm), fun kh => Nat.zero_le _⟩
  · intro s l t hs _ hstep
    rcases step_abs hstep with heq | hone
    · rw [heq]
      exact hs
    · exact hone.sound hs

/-- **No wake-up is lost and none is invented.** In every interleaving of poll requests, of changes of
the device and of steps of the event loop: once the device is in the epoll set, a registered handle
one of whose conditions holds, among those the entry has asked for, will be looked at, since the entry
is pending or the loop holds an event that meets its mask; a handle has been woken at most as often as a
poll request for it was answered not-ready; and when the loop signals, it wakes the handles whose masks
the event meets, which are those whose registration ends. -/
theorem no_wakeup_lost_or_invented (s : PollNotify) (h : system.Reachable always s) :
    (∀ kh mask, s.added = true → s.inner.khs.lookup kh = some mask →
      s.ready.setWidth 32 &&& (mask &&& (EPOLLIN ||| EPOLLOUT ||| EPOLLPRI)) ≠ 0 →
        s.pending = true ∨ ∃ ev, s.held = some ev ∧ ev &&& mask ≠ 0) ∧
      (∀ kh, s.inner.woken.count kh ≤ s.notReady.count kh) ∧
      ∀ khs t, step s (.signal khs) = some t →
        t.inner.sent = s.inner.sent ++ [.pollWakeup khs] ∧ khs.Nodup ∧
          (∀ kh, kh ∈ khs ↔ (s.inner.khs.lookup kh).isSome = true ∧ t.inner.khs.lookup kh = none) ∧
          ∃ ev, s.held = some ev ∧ ∀ kh, kh ∈ khs ↔
            ∃ mask, s.inner.khs.lookup kh = some mask ∧ PollInner.meets ev mask = true := by
  have hsound := reachable_sound h
  refine ⟨fun kh mask hadded hlookup hready => ?_, fun kh => ?_, fun khs t hstep => signal_sends hstep⟩
  · have hmask : (abs s).mask kh = some (flags mask) := by
      show (s.inner.khs.lookup kh).map flags = _
      rw [hlookup]
      rfl
    have hcond : (flags s.ready ∩ (flags mask ∩ flags interest)).Nonempty := by
      rw [← flags_setWidth (show 16 ≤ 32 by decide) s.ready, ← flags_and, flags_and_nonempty_iff]
      exact hready
    rcases hsound.kept kh _ hmask hcond with (hnot | hpending) | ⟨ev, hev, hmeet⟩
    · rw [hadded] at hnot
      cases hnot
    · exact .inl hpending
    · obtain ⟨word, hword, rfl⟩ := Option.map_eq_some_iff.1 hev
      exact .inr ⟨word, hword, (flags_and_nonempty_iff _ _).1 hmeet⟩
  · exact Nat.le_trans (Nat.le_add_right _ _) (hsound.paid kh)

/-- A handle that waits for input, and a device that becomes readable: the entry is pending. -/
theorem no_wakeup_lost_readable :
    let s : PollNotify := ⟨⟨(∅ : AList fun _ : Kh => EpollFlags).insert 5 EPOLLIN,
      [.poll ⟨1, by decide⟩ 0]⟩, POLLIN, true, true, none, [5]⟩
    system.Reachable always s ∧ (s.pending = true ∨ ∃ ev, s.held = some ev ∧ ev &&& EPOLLIN ≠ 0) :=
  have hrun : system.exec always (start 0)
      [.add false, .request ⟨1, by decide⟩ 5 1 1 none, .change POLLIN false] =
      some ⟨⟨(∅ : AList fun _ : Kh => EpollFlags).insert 5 EPOLLIN, [.poll ⟨1, by decide⟩ 0]⟩,
        POLLIN, true, true, none, [5]⟩ := rfl
  have hreach := System.reachable_of_exec (show system.init (start 0) from ⟨0, rfl⟩) hrun
  ⟨hreach, (no_wakeup_lost_or_invented _ hreach).1 5 EPOLLIN rfl rfl (by decide)⟩

end PollNotify

end Cuse2Net.Realdev

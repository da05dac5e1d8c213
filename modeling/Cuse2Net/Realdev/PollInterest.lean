import Cuse2Net.Realdev.PollNotify

/-!
# What a poll request watches

The events of a poll request pass through three masks before they wake their handle: `proto_to_poll`
keeps five of the conditions of `poll(2)`, the epoll entry of `Poll::run` asks for three of them, and
the kernel adds the error conditions that are always reported. As sets of conditions the masks are
intersections (`flags_protoToPoll`, `flags_pollToEpoll`, `flags_epollEvent`). `request_answer` says
what a request reports and registers, `woken_of_signalled` and `Woken.signalled` what wakes a handle.

`poll_keeps_interest_iff` says for which events nothing that the caller asked for gets lost.
-/

set_option autoImplicit false

namespace Cuse2Net.Realdev

open Cuse2Net.Lib
open Cuse2Net.Proto
open PollFlags EpollFlags

/-! ## The masks -/

/-- The conditions that `proto_to_poll` keeps. -/
def carried : PollFlags := POLLIN ||| POLLOUT ||| POLLPRI ||| POLLRDBAND ||| POLLWRBAND

/-- The conditions that a caller can wait for. -/
def inputSet : PollFlags :=
  POLLIN ||| POLLPRI ||| POLLOUT ||| POLLRDNORM ||| POLLRDBAND ||| POLLWRNORM ||| POLLWRBAND

/-- The conditions that are watched whenever the caller asks for them. -/
def watched : PollFlags := POLLIN ||| POLLPRI ||| POLLOUT ||| POLLERR ||| POLLHUP

/-- The event that `epoll_wait` returns for the device: the conditions that the entry asks for, and
the two that are always reported. -/
def epollEvent (ready : PollFlags) : EpollFlags :=
  ready.setWidth 32 &&& (interest ||| EPOLLERR ||| EPOLLHUP)

/-- A condition of `poll(2)` and the condition of epoll with the same number are one flag. -/
theorem flags_condition {bit : PollFlags} {i : Nat} (hi : i < 16) (h : bit = BitVec.twoPow 16 i) :
    flags bit = {i} ∧ flags (bit.setWidth 32) = {i} := by
  rw [flags_setWidth (by decide), h, flags_twoPow hi]
  exact ⟨rfl, rfl⟩

/-- `proto_to_poll` keeps the carried conditions. -/
theorem flags_protoToPoll (ev : BitVec 32) : flags (protoToPoll ev) = flags ev ∩ flags carried := by
  have hmap : ∀ (bit : PollFlags) (i : Nat), i < 16 → bit = BitVec.twoPow 16 i →
      flags (if ev &&& bit.setWidth 32 = 0 then 0 else bit) = flags ev ∩ flags bit := by
    intro bit i hi hbit
    obtain ⟨hpoll, hproto⟩ := flags_condition hi hbit
    rw [flags_ite_and_eq_zero hproto hpoll, hpoll]
  simp only [protoToPoll, carried, flags_or, Set.inter_union_distrib_left]
  rw [hmap POLLIN 0 (by decide) (by decide), hmap POLLOUT 2 (by decide) (by decide),
    hmap POLLPRI 1 (by decide) (by decide), hmap POLLRDBAND 7 (by decide) (by decide),
    hmap POLLWRBAND 9 (by decide) (by decide)]

/-- `poll_to_epoll` keeps the carried conditions. -/
theorem flags_pollToEpoll (ev : PollFlags) : flags (pollToEpoll ev) = flags ev ∩ flags carried := by
  have hmap : ∀ (bit : PollFlags) (i : Nat) (bitEpoll : EpollFlags), i < 16 →
      bit = BitVec.twoPow 16 i → bitEpoll = bit.setWidth 32 →
      flags (mapPoll ev bit bitEpoll) = flags ev ∩ flags bit := by
    intro bit i bitEpoll hi hbit hepoll
    obtain ⟨hpoll, hwide⟩ := flags_condition hi hbit
    rw [mapPoll, flags_ite_and_eq_self hpoll (hepoll ▸ hwide), hpoll]
  simp only [pollToEpoll, carried, flags_or, Set.inter_union_distrib_left]
  rw [hmap POLLIN 0 EPOLLIN (by decide) (by decide) (by decide),
    hmap POLLOUT 2 EPOLLOUT (by decide) (by decide) (by decide),
    hmap POLLPRI 1 EPOLLPRI (by decide) (by decide) (by decide),
    hmap POLLRDBAND 7 EPOLLRDBAND (by decide) (by decide) (by decide),
    hmap POLLWRBAND 9 EPOLLWRBAND (by decide) (by decide) (by decide)]

namespace PollNotify

/-! ## The answer -/

/-- **A poll request is answered** with the conditions that `poll(2)` found; when it found none and
the caller wants to be notified, the handle is registered. -/
theorem request_answer (s : PollNotify) (seq : Sequence) (kh : Kh) (pollFlags w : BitVec 32) :
    ∃ t ev, step s (.request seq kh pollFlags w none) = some t ∧
      t.inner.sent = s.inner.sent ++ [.poll seq ev] ∧
      (ev ≠ 0 ↔ s.ready &&& (protoToPoll w ||| POLLERR ||| POLLHUP ||| POLLNVAL) ≠ 0) ∧
      t.ready = s.ready ∧ t.added = s.added ∧ t.held = s.held ∧
      (ev = 0 → pollFlags &&& Request.Poll.FLAG_SCHEDULE_NOTIFY ≠ 0 → ∀ kh',
        t.inner.khs.lookup kh' = (s.inner.registerKh kh (protoToPoll w)).khs.lookup kh') := by
  obtain ⟨ev, hreply, hev⟩ := pollReply_kernelPoll seq s.ready w
  have hquiet := hev.trans (kernelPoll_eq_zero_iff s.ready (protoToPoll w))
  refine ⟨_, ev, request_eq_some_iff.2 ⟨_, hreply, rfl⟩, rfl, not_congr hquiet, rfl, rfl, rfl,
    fun hzero hflag kh' => ?_⟩
  rw [if_pos (registers_iff.2 ⟨rfl, hev.1 hzero, hflag⟩)]

/-! ## The wake-up -/

/-- The conditions of the device become `ready`, the event loop takes the event and signals, and the
handle is woken. -/
def Woken (t : PollNotify) (kh : Kh) (ready : PollFlags) : Prop :=
  ∃ khs u, system.exec always t [.change ready false, .wait (epollEvent ready), .signal khs] =
    some u ∧ kh ∈ khs

theorem epollEvent_and_interest (ready : PollFlags) :
    epollEvent ready &&& interest = ready.setWidth 32 &&& interest := by
  have hinterest : (interest ||| EPOLLERR ||| EPOLLHUP) &&& interest = interest := by decide
  rw [epollEvent, BitVec.and_assoc, hinterest]

/-- The event loop wakes the handles whose masks the event meets. -/
theorem Woken.signalled {t : PollNotify} {kh : Kh} {ready : PollFlags} (h : Woken t kh ready) :
    kh ∈ t.inner.signalled (epollEvent ready) := by
  obtain ⟨khs, u, hrun, hkh⟩ := h
  obtain ⟨-, t₁, h₁, hrun⟩ := System.exec_cons_eq_some_iff.1 hrun
  obtain ⟨-, t₂, h₂, hrun⟩ := System.exec_cons_eq_some_iff.1 hrun
  obtain ⟨-, t₃, h₃, -⟩ := System.exec_cons_eq_some_iff.1 hrun
  obtain rfl := Option.some.inj h₁
  obtain ⟨-, h₂⟩ := Option.ite_none_right_eq_some.1 h₂
  obtain rfl := Option.some.inj h₂
  obtain ⟨hperm, -⟩ := Option.ite_none_right_eq_some.1 h₃
  exact hperm.mem_iff.1 hkh

theorem woken_of_signalled {t : PollNotify} {kh : Kh} {ready : PollFlags}
    (hadded : t.added = true) (hheld : t.held = none) (hnew : ready &&& ~~~t.ready ≠ 0)
    (h : kh ∈ t.inner.signalled (epollEvent ready)) : Woken t kh ready := by
  have hedge : (t.pending || false || ready &&& ~~~t.ready != 0) = true := by
    rw [Bool.or_eq_true, bne_iff_ne]
    exact .inr hnew
  let t₁ : PollNotify :=
    { t with ready := ready, pending := t.pending || false || ready &&& ~~~t.ready != 0 }
  let t₂ : PollNotify := { t₁ with pending := false, held := some (epollEvent ready) }
  have hwait : step t₁ (.wait (epollEvent ready)) = some t₂ :=
    if_pos ⟨hadded, hedge, hheld, epollEvent_and_interest ready⟩
  let t₃ : PollNotify :=
    { t₂ with inner := t.inner.signal (t.inner.signalled (epollEvent ready)), held := none }
  have hsignal : step t₂ (.signal (t.inner.signalled (epollEvent ready))) = some t₃ :=
    if_pos (List.Perm.refl _)
  refine ⟨t.inner.signalled (epollEvent ready), t₃, ?_, h⟩
  exact System.exec_cons_eq_some_iff.2 ⟨trivial, t₁, rfl, System.exec_cons_eq_some_iff.2
    ⟨trivial, t₂, hwait, System.exec_cons_eq_some_iff.2 ⟨trivial, t₃, hsignal, rfl⟩⟩⟩

/-! ## Which events are watched -/

/-- What the epoll entry reports are the watched conditions. -/
theorem flags_epollEvent (ready : PollFlags) :
    flags (epollEvent ready) = flags ready ∩ flags watched := by
  have hwatched : interest ||| EPOLLERR ||| EPOLLHUP = watched.setWidth 32 := by decide
  rw [epollEvent, hwatched, flags_and, flags_setWidth (by decide), flags_setWidth (by decide)]

/-- A watched condition that the events ask for is looked at in the answer and in a signal. -/
theorem mem_masks {w : BitVec 32} {i : Nat} (hw : i ∈ flags w) (hi : i ∈ flags watched) :
    i ∈ flags (protoToPoll w ||| POLLERR ||| POLLHUP ||| POLLNVAL) ∧
      i ∈ flags (pollToEpoll (protoToPoll w) ||| EPOLLERR ||| EPOLLHUP) := by
  have hsplit : watched = (POLLIN ||| POLLPRI ||| POLLOUT) ||| (POLLERR ||| POLLHUP) := by decide
  have hcarried : flags (POLLIN ||| POLLPRI ||| POLLOUT) ⊆ flags carried :=
    (flags_subset_iff _ _).2 (by decide)
  have herr : flags EPOLLERR = flags POLLERR :=
    flags_setWidth (show 16 ≤ 32 by decide) POLLERR
  have hhup : flags EPOLLHUP = flags POLLHUP :=
    flags_setWidth (show 16 ≤ 32 by decide) POLLHUP
  rw [hsplit, flags_or, flags_or POLLERR] at hi
  simp only [flags_or, flags_pollToEpoll, flags_protoToPoll, herr, hhup]
  rcases hi with hi | hi | hi
  · have hc := hcarried hi
    exact ⟨.inl (.inl (.inl ⟨hw, hc⟩)), .inl (.inl ⟨⟨hw, hc⟩, hc⟩)⟩
  · exact ⟨.inl (.inl (.inr hi)), .inl (.inr hi)⟩
  · exact ⟨.inl (.inr hi), .inr hi⟩

/-- Nothing of a poll request gets lost, whenever the event loop waits: a device that meets the events
is reported at once, and a request that reports nothing and wants to be notified registers its handle,
which every later readiness that meets the events wakes. -/
def KeepsInterest (w : BitVec 32) : Prop :=
  ∀ (s : PollNotify) (seq : Sequence) (kh : Kh) (pollFlags : BitVec 32), s.added = true →
    s.held = none → ∃ t ev, step s (.request seq kh pollFlags w none) = some t ∧
      t.inner.sent = s.inner.sent ++ [.poll seq ev] ∧
      (s.ready.setWidth 32 &&& w ≠ 0 → ev ≠ 0) ∧
      (ev = 0 → pollFlags &&& Request.Poll.FLAG_SCHEDULE_NOTIFY ≠ 0 →
        (t.inner.khs.lookup kh).isSome = true ∧
          ∀ ready : PollFlags, ready.setWidth 32 &&& w ≠ 0 → Woken t kh ready)

/-- A readiness that meets the events has one of their flags. -/
theorem exists_flag_of_meets {ready : PollFlags} {w : BitVec 32}
    (h : ready.setWidth 32 &&& w ≠ 0) : ∃ i ∈ flags ready, i ∈ flags w := by
  rw [← flags_and_nonempty_iff, flags_setWidth (by decide)] at h
  exact h

/-- A handle is registered with the carried events. -/
theorem lookup_registered {p : PollInner} {kh : Kh} {w : BitVec 32} (h : protoToPoll w ≠ 0) :
    (p.registerKh kh (protoToPoll w)).khs.lookup kh = some (pollToEpoll (protoToPoll w)) := by
  rw [lookup_registerKh, Function.update_self, if_neg h]

theorem keepsInterest_of_watched {w : BitVec 32} (hw : w &&& inputSet.setWidth 32 ≠ 0)
    (hsub : ∀ i < 16, i ∈ flags w → i ∈ flags watched) : KeepsInterest w := by
  intro s seq kh pollFlags hadded hheld
  obtain ⟨t, ev, hstep, hsent, hev, hready, hadd, hhold, hreg⟩ :=
    request_answer s seq kh pollFlags w
  refine ⟨t, ev, hstep, hsent, ?_, ?_⟩
  · intro hmeets
    obtain ⟨i, hi, hiw⟩ := exists_flag_of_meets hmeets
    have hmem := (mem_masks hiw (hsub i (BitVec.lt_of_getLsbD hi) hiw)).1
    rw [hev, ← flags_and_nonempty_iff]
    exact ⟨i, hi, hmem⟩
  · intro hzero hflag
    -- an input condition of the events is carried, so the handle is registered
    have hproto : protoToPoll w ≠ 0 := by
      rw [BitVec.and_comm] at hw
      obtain ⟨i, hi, hiw⟩ := exists_flag_of_meets hw
      have hwatched := hsub i (BitVec.lt_of_getLsbD hi) hiw
      have hcarried : flags (inputSet &&& watched) ⊆ flags carried :=
        (flags_subset_iff _ _).2 (by decide)
      rw [flags_and] at hcarried
      rw [← flags_nonempty_iff, flags_protoToPoll]
      exact ⟨i, hiw, hcarried ⟨hi, hwatched⟩⟩
    have hlookup : t.inner.khs.lookup kh = some (pollToEpoll (protoToPoll w)) := by
      rw [hreg hzero hflag kh, lookup_registered hproto]
    refine ⟨by rw [hlookup]; rfl, ?_⟩
    intro ready hmeets
    obtain ⟨i, hi, hiw⟩ := exists_flag_of_meets hmeets
    have hwatched := hsub i (BitVec.lt_of_getLsbD hi) hiw
    obtain ⟨hpoll, hepoll⟩ := mem_masks hiw hwatched
    apply woken_of_signalled (hadd.trans hadded) (hhold.trans hheld)
    · -- the condition is a new one: the request has not found it
      rw [← flags_nonempty_iff, flags_and_not, hready]
      refine ⟨i, hi, fun hold => ?_⟩
      have hne : s.ready &&& (protoToPoll w ||| POLLERR ||| POLLHUP ||| POLLNVAL) ≠ 0 := by
        rw [← flags_and_nonempty_iff]
        exact ⟨i, hold, hpoll⟩
      exact hev.2 hne hzero
    · rw [mem_signalled]
      refine ⟨_, hlookup, ?_⟩
      have hne : epollEvent ready &&&
          (pollToEpoll (protoToPoll w) ||| EPOLLERR ||| EPOLLHUP) ≠ 0 := by
        rw [← flags_and_nonempty_iff, flags_epollEvent]
        exact ⟨i, ⟨hi, hwatched⟩, hepoll⟩
      simpa [PollInner.meets] using hne

/-- A condition that is not watched: the request registers, the condition appears, and nobody is
woken. -/
theorem watched_of_keepsInterest {w : BitVec 32} (h : KeepsInterest w) {i : Nat} (hi : i < 16)
    (hiw : i ∈ flags w) : i ∈ flags watched := by
  by_contra hnot
  let s : PollNotify := { start 0 with added := true }
  obtain ⟨t, ev, hstep, hsent, -, hkeeps⟩ :=
    h s ⟨1, by decide⟩ 5 Request.Poll.FLAG_SCHEDULE_NOTIFY rfl rfl
  -- the device is not ready, so the answer is empty
  have hzero : ev = 0 := by
    obtain ⟨t', ev', hstep', hsent', hev', -⟩ :=
      request_answer s ⟨1, by decide⟩ 5 Request.Poll.FLAG_SCHEDULE_NOTIFY w
    obtain rfl := Option.some.inj (hstep.symm.trans hstep')
    have heq : [Response.Reply.poll ⟨1, by decide⟩ ev] = [.poll ⟨1, by decide⟩ ev'] :=
      List.append_cancel_left (hsent.symm.trans hsent')
    injection heq with heq
    injection heq with _ heq
    rw [heq]
    by_contra hne
    apply hev'.1 hne
    exact BitVec.zero_and
  have hmeets : (BitVec.twoPow 16 i).setWidth 32 &&& w ≠ 0 := by
    rw [← flags_and_nonempty_iff, flags_setWidth (by decide), flags_twoPow hi]
    exact ⟨i, rfl, hiw⟩
  have hwoken := (hkeeps hzero (by decide)).2 (BitVec.twoPow 16 i) hmeets
  obtain ⟨mask, -, hmask⟩ := mem_signalled.1 hwoken.signalled
  have hempty : epollEvent (BitVec.twoPow 16 i) = 0 := by
    by_contra hne
    rw [← ne_eq, ← flags_nonempty_iff, flags_epollEvent, flags_twoPow hi] at hne
    obtain ⟨j, rfl, hj⟩ := hne
    exact hnot hj
  rw [hempty] at hmask
  simp [PollInner.meets] at hmask

/-- **Which poll requests keep the caller's interest**: those that ask for nothing but input, output,
priority data, errors and hang-ups. The normal and band conditions are lost on the way: a readiness
of theirs is not reported, or does not wake the handle. -/
theorem poll_keeps_interest_iff (w : BitVec 32) (hw : w &&& inputSet.setWidth 32 ≠ 0) :
    KeepsInterest w ↔ w.setWidth 16 &&& ~~~watched = 0 := by
  have hflags : w.setWidth 16 &&& ~~~watched = 0 ↔ ∀ i < 16, i ∈ flags w → i ∈ flags watched := by
    rw [← flags_subset_iff]
    constructor
    · intro hsub i hi hiw
      have hmem : (w.setWidth 16).getLsbD i = true := by
        rw [BitVec.getLsbD_setWidth, decide_eq_true hi]
        exact hiw
      exact hsub hmem
    · intro hall i hmem
      have hbit : (w.setWidth 16).getLsbD i = true := hmem
      rw [BitVec.getLsbD_setWidth, Bool.and_eq_true, decide_eq_true_eq] at hbit
      exact hall i hbit.1 hbit.2
  rw [hflags]
  exact ⟨fun h i hi hiw => watched_of_keepsInterest h hi hiw, keepsInterest_of_watched hw⟩

/-- Waiting for input and output. -/
theorem poll_keeps_interest_in_out :
    (5 : BitVec 32) &&& inputSet.setWidth 32 ≠ 0 ∧ KeepsInterest 5 :=
  ⟨by decide, (poll_keeps_interest_iff 5 (by decide)).2 (by decide)⟩

/-- A caller waits for normal data on a device that has some: the answer is empty, and the handle is
not even registered. -/
theorem poll_loses_normal_data :
    let s : PollNotify := { start (POLLIN ||| POLLRDNORM) with added := true }
    s.ready.setWidth 32 &&& POLLRDNORM.setWidth 32 ≠ 0 ∧
      ∃ t, step s (.request ⟨1, by decide⟩ 5 Request.Poll.FLAG_SCHEDULE_NOTIFY
          (POLLRDNORM.setWidth 32) none) = some t ∧
        t.inner.sent = [.poll ⟨1, by decide⟩ 0] ∧ t.inner.khs.lookup 5 = none := by
  refine ⟨by decide, _, rfl, rfl, rfl⟩

end PollNotify

end Cuse2Net.Realdev

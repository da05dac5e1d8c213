import Cuse2Net.Lib.Books
import Cuse2Net.Lib.Transition
import Cuse2Net.Proto.Request
import Cuse2Net.Proto.Response

/-!
# Several threads that send on one connection

Model of the sending half of `proto/io.rs`. `send_all` calls `send` until everything has been taken;
`send_vectored_all` calls `sendmsg` and panics when a call takes less than everything. Each system call
is one step, and any number of threads may be in these loops at the same time: the server's main
thread, its reader and its poll worker send on one connection without a lock, while the client sends
only under the lock of its request table.

A message is in danger while a part of it is on the wire: a call of another thread would put its bytes
in the middle. `Inv.step` shows that otherwise the wire holds whole messages, and the two halves use it:
the server's messages stay whole when no call is cut short (`responses_stay_whole`), the client's even
if calls are cut short (`requests_stay_whole`).
-/

set_option autoImplicit false

namespace Cuse2Net.Proto

open Cuse2Net.Lib
open Cuse2Net.Lib.Bytes

universe u

/-- The functions that send. -/
inductive SendFn where
  | sendAll
  | sendVectoredAll
  deriving DecidableEq

/-- How a send ends: with the whole message taken, with an error, or with a system call that has taken a
part of the message only. -/
inductive SendOutcome where
  | sent
  | failed
  | incomplete
  deriving DecidableEq

/-- The outcome of a system call that was given `len` bytes. -/
def SendOutcome.ofCall (len : Nat) : Except Errno Nat → SendOutcome
  | .error _ => .failed
  | .ok l => if l = len then .sent else .incomplete

/-- The thread panics: `send_vectored_all` does not go on after an incomplete call. -/
def SendFn.panics : SendFn → SendOutcome → Bool
  | .sendVectoredAll, .incomplete => true
  | _, _ => false

/-- A thread, as far as the connection is concerned. In the loop, `pos` bytes of the message have been
taken and `len` are left; `send_vectored_all` has no `pos`. -/
inductive SendPc (μ : Type u) where
  | idle
  | sending (m : μ) (pos len : Nat)
  | panicked

/-- The end of one turn of a loop. -/
inductive Turn where
  | again (pos len : Nat)
  | returned
  | failed
  | panicked

/-- The loop body of `send_all` after `send`. -/
def sendAllTurn (pos len : Nat) : Except Errno Nat → Turn
  | .error _ => .failed
  | .ok l =>
      if l = 0 then .panicked
      else if l ≤ len then
        if len - l = 0 then .returned else .again (pos + l) (len - l)
      else .panicked

/-- The loop body of `send_vectored_all` after `sendmsg`. -/
def sendVectoredAllTurn (len : Nat) : Except Errno Nat → Turn
  | .error _ => .failed
  | .ok l => if l = len then .returned else .panicked

/-- The loop body of either function. -/
def SendFn.turn : SendFn → Nat → Nat → Except Errno Nat → Turn
  | .sendAll, pos, len, res => sendAllTurn pos len res
  | .sendVectoredAll, _, len, res => sendVectoredAllTurn len res

/-- The number of bytes that a call has taken. -/
def taken : Except Errno Nat → Nat
  | .error _ => 0
  | .ok l => l

/-- Threads and connection. The last two fields record the history: the messages that have been sent,
in the order of their last calls, and what is left on the wire of messages that were given up. -/
structure Outbound (μ : Type u) where
  threads : List (SendPc μ)
  wire : List UInt8
  sent : List μ
  torn : List UInt8

/-- Steps of the threads. -/
inductive SendLabel (μ : Type u) where
  | start (id : Nat) (m : μ)
  /-- A system call with its result. -/
  | call (id : Nat) (res : Except Errno Nat)

namespace Outbound

section

variable {μ : Type u} (fn : μ → SendFn) (enc : μ → List UInt8)

/-- What a thread has put on the wire of the message that it is sending. -/
def part : SendPc μ → List UInt8
  | .sending m pos _ => (enc m).take pos
  | _ => []

/-- A thread calls a send function. -/
def start (s : Outbound μ) (id : Nat) (m : μ) : Outbound μ :=
  if (enc m).length = 0 then { s with sent := s.sent ++ [m] }
  else { s with threads := s.threads.set id (.sending m 0 (enc m).length) }

/-- One turn of a loop. -/
def call (s : Outbound μ) (id : Nat) (m : μ) (pos len : Nat) (res : Except Errno Nat) : Outbound μ :=
  let s' := { s with wire := s.wire ++ ((enc m).drop pos).take (taken res) }
  match (fn m).turn pos len res with
  | .again pos len => { s' with threads := s.threads.set id (.sending m pos len) }
  | .returned => { s' with threads := s.threads.set id .idle, sent := s.sent ++ [m] }
  | .failed => { s' with threads := s.threads.set id .idle, torn := s.torn ++ (enc m).take pos }
  | .panicked =>
      { s' with
        threads := s.threads.set id .panicked
        torn := s.torn ++ (enc m).take (pos + taken res) }

/-- One step. -/
def step (s : Outbound μ) : SendLabel μ → Option (Outbound μ)
  | .start id m =>
      match s.threads[id]? with
      | some .idle => some (s.start enc id m)
      | _ => none
  | .call id res =>
      match s.threads[id]? with
      | some (.sending m pos len) => some (s.call fn enc id m pos len res)
      | _ => none

/-- Any number of threads on a new connection. -/
def system : System (Outbound μ) (SendLabel μ) where
  init s := ∃ n, s = ⟨List.replicate n .idle, [], [], []⟩
  step := step fn enc

/-- Nobody else has a part of a message on the wire, and no message has been given up when the call takes
bytes. -/
def Undisturbed (s : Outbound μ) (id : Nat) (res : Except Errno Nat) : Prop :=
  (∀ l, res = .ok l → s.torn = []) ∧
    ∀ (j : Nat) (t : SendPc μ), s.threads[j]? = some t → j ≠ id → part enc t = []

/-- The bytes of messages that are not complete. -/
def remains (s : Outbound μ) : List UInt8 := s.torn ++ s.threads.flatMap (part enc)

/-- A thread in a loop. -/
def Fits : SendPc μ → Prop
  | .sending m pos len =>
      pos + len = (enc m).length ∧ 0 < len ∧ (fn m = .sendVectoredAll → pos = 0)
  | _ => True

/-- The wire holds whole messages, then the remains. -/
structure Inv (s : Outbound μ) : Prop where
  fits : ∀ t ∈ s.threads, Fits fn enc t
  wire : s.wire = s.sent.flatMap enc ++ s.remains enc

end

end Outbound

/-! ## One step -/

/-- What a turn says about the result of the call. -/
def Turn.Follows (f : SendFn) (pos len l : Nat) : Turn → Prop
  | .again pos' len' => f = .sendAll ∧ pos' = pos + l ∧ pos' + len' = pos + len ∧ 0 < len'
  | .returned => l = len
  | .failed => l = 0
  | .panicked => True

theorem SendFn.turn_follows (f : SendFn) (pos len : Nat) (res : Except Errno Nat) :
    (f.turn pos len res).Follows f pos len (taken res) := by
  cases f with
  | sendAll =>
      cases res with
      | error errno => rfl
      | ok l =>
          simp only [SendFn.turn, sendAllTurn]
          split
          · trivial
          · split
            · next hle =>
              split
              · next hlen => exact Nat.le_antisymm hle (Nat.le_of_sub_eq_zero hlen)
              · next hlen =>
                exact ⟨rfl, rfl, by omega, Nat.pos_of_ne_zero hlen⟩
            · trivial
  | sendVectoredAll =>
      cases res with
      | error errno => rfl
      | ok l =>
          simp only [SendFn.turn, sendVectoredAllTurn]
          split
          · next hl => exact hl
          · trivial

/-- **How a turn follows from the outcome of the call**, when the call takes at least one byte and at most
what it was given. -/
theorem SendFn.turn_eq (f : SendFn) {pos len : Nat} {res : Except Errno Nat}
    (hres : ∀ l, res = .ok l → 0 < l ∧ l ≤ len) :
    f.turn pos len res =
      match SendOutcome.ofCall len res with
      | .sent => .returned
      | .failed => .failed
      | .incomplete =>
          if f.panics .incomplete then .panicked else .again (pos + taken res) (len - taken res) := by
  cases res with
  | error errno => cases f <;> rfl
  | ok l =>
      obtain ⟨hpos, hle⟩ := hres l rfl
      by_cases hl : l = len
      · subst hl
        cases f with
        | sendAll =>
            simp only [SendFn.turn, sendAllTurn, SendOutcome.ofCall, Nat.ne_of_gt hpos, Nat.le_refl,
              Nat.sub_self, if_true, if_false]
        | sendVectoredAll => simp only [SendFn.turn, sendVectoredAllTurn, SendOutcome.ofCall, if_true]
      · have hrest : len - l ≠ 0 := by omega
        cases f with
        | sendAll =>
            simp only [SendFn.turn, sendAllTurn, SendOutcome.ofCall, SendFn.panics, taken,
              Nat.ne_of_gt hpos, hle, hl, hrest, if_true, if_false, Bool.false_eq_true]
        | sendVectoredAll =>
            simp only [SendFn.turn, sendVectoredAllTurn, SendOutcome.ofCall, SendFn.panics, hl, if_true,
              if_false]

namespace Outbound

section Step

variable {μ : Type u} {fn : μ → SendFn} {enc : μ → List UInt8} {s s' : Outbound μ}

theorem fits_set (h : Inv fn enc s) {id : Nat} {t : SendPc μ} (ht : Fits fn enc t) :
    ∀ x ∈ s.threads.set id t, Fits fn enc x := by
  intro x hx
  rcases List.mem_or_eq_of_mem_set hx with hx | rfl
  · exact h.fits x hx
  · exact ht

/-- A thread enters a loop, or has nothing to send. -/
theorem Inv.start (h : Inv fn enc s) {id : Nat} (hid : s.threads[id]? = some .idle) (m : μ) :
    Inv fn enc (s.start enc id m) := by
  unfold Outbound.start
  split
  · next hlen =>
    refine ⟨h.fits, ?_⟩
    rw [List.length_eq_zero_iff] at hlen
    simp only [remains, List.flatMap_append, List.flatMap_singleton, hlen, List.append_nil]
    exact h.wire
  · next hlen =>
    refine ⟨fits_set h ⟨Nat.zero_add _, Nat.pos_of_ne_zero hlen, fun _ => rfl⟩, ?_⟩
    have hremains : (s.threads.set id (.sending m 0 (enc m).length)).flatMap (part enc) =
        s.threads.flatMap (part enc) := flatMap_set_of_eq hid rfl
    simp only [remains, hremains]
    exact h.wire

/-- **A call that nobody disturbs.** -/
theorem Inv.call (h : Inv fn enc s) {id : Nat} {m : μ} {pos len : Nat} {res : Except Errno Nat}
    (hid : s.threads[id]? = some (.sending m pos len)) (hund : s.Undisturbed enc id res) :
    Inv fn enc (s.call fn enc id m pos len res) := by
  obtain ⟨hsum, hpos, -⟩ := h.fits _ (List.mem_of_getElem? hid)
  obtain ⟨htorn, halone⟩ := hund
  -- the wire ends with the part of this message
  have hwire : s.wire ++ ((enc m).drop pos).take (taken res) =
      s.sent.flatMap enc ++ (s.torn ++ (enc m).take (pos + taken res)) := by
    rw [h.wire, remains, flatMap_of_alone hid halone, List.append_assoc, List.append_assoc, part,
      List.take_add]
  have hset : ∀ t : SendPc μ, (s.threads.set id t).flatMap (part enc) = part enc t :=
    fun t => flatMap_set_of_alone hid halone t
  have hturn := (fn m).turn_follows pos len res
  unfold Outbound.call
  dsimp only
  split
  · next pos' len' hres =>
    rw [hres] at hturn
    obtain ⟨hfn, rfl, hsum', hlen'⟩ := hturn
    refine ⟨fits_set h ⟨hsum'.trans hsum, hlen', fun hvec => ?_⟩, ?_⟩
    · rw [hfn] at hvec
      cases hvec
    · simp only [remains, hwire, hset, part]
  · next hres =>
    rw [hres] at hturn
    obtain rfl : taken res = len := hturn
    -- bytes were taken, so no message had been given up
    have hnil : s.torn = [] := by
      cases res with
      | ok l => exact htorn l rfl
      | error errno => cases hpos
    refine ⟨fits_set h trivial, ?_⟩
    simp only [remains, hwire, hset, hnil, part, hsum, List.take_length, List.flatMap_append,
      List.flatMap_singleton, List.append_nil, List.nil_append]
  · next hres =>
    rw [hres] at hturn
    have hzero : taken res = 0 := hturn
    refine ⟨fits_set h trivial, ?_⟩
    rw [hzero, Nat.add_zero] at hwire
    simp only [remains, hzero, hwire, hset, part, List.append_nil]
  · refine ⟨fits_set h trivial, ?_⟩
    simp only [remains, hwire, hset, part, List.append_nil]

/-- Only a thread in a loop makes a call. -/
theorem sending_of_call {id : Nat} {res : Except Errno Nat}
    (h : s.step fn enc (.call id res) = some s') :
    ∃ m pos len, s.threads[id]? = some (.sending m pos len) := by
  simp only [Outbound.step] at h
  split at h
  · next m pos len hid => exact ⟨m, pos, len, hid⟩
  · cases h

/-- **What one step preserves**: a call must not disturb the message of another thread. -/
theorem Inv.step (h : Inv fn enc s) {l : SendLabel μ}
    (hund : ∀ id res, l = .call id res → s.Undisturbed enc id res)
    (hstep : s.step fn enc l = some s') : Inv fn enc s' := by
  cases l with
  | start id m =>
      simp only [Outbound.step] at hstep
      split at hstep
      · next hid =>
        obtain rfl := Option.some.inj hstep
        exact h.start hid m
      · cases hstep
  | call id res =>
      simp only [Outbound.step] at hstep
      split at hstep
      · next m pos len hid =>
        obtain rfl := Option.some.inj hstep
        exact h.call hid (hund id res rfl)
      · cases hstep

theorem Inv.of_init (h : (system fn enc).init s) : Inv fn enc s := by
  obtain ⟨n, rfl⟩ := h
  refine ⟨fun t ht => ?_, ?_⟩
  · rw [List.eq_of_mem_replicate ht]
    trivial
  · simp [remains, part]

end Step

end Outbound

/-! ## Calls that are not cut short -/

namespace Outbound

section Uncut

variable {μ : Type u} {fn : μ → SendFn} {enc : μ → List UInt8} {s s' : Outbound μ}

/-- Each call takes everything or fails. -/
def Uncut (s : Outbound μ) : SendLabel μ → Prop
  | .call id res =>
      match s.threads[id]? with
      | some (.sending _ _ len) => .ofCall len res ≠ SendOutcome.incomplete
      | _ => True
  | .start _ _ => True

instance (s : Outbound μ) (l : SendLabel μ) : Decidable (s.Uncut l) := by
  unfold Uncut
  split
  · split <;> infer_instance
  · infer_instance

/-- No message is on the wire in part. -/
structure Quiet (enc : μ → List UInt8) (s : Outbound μ) : Prop where
  torn : s.torn = []
  parts : ∀ t ∈ s.threads, part enc t = []

theorem Quiet.undisturbed (h : s.Quiet enc) (id : Nat) (res : Except Errno Nat) :
    s.Undisturbed enc id res :=
  ⟨fun _ _ => h.torn, fun _ t ht _ => h.parts t (List.mem_of_getElem? ht)⟩

theorem Quiet.remains (h : s.Quiet enc) : s.remains enc = [] := by
  rw [Outbound.remains, h.torn, List.nil_append]
  exact List.flatMap_eq_nil_iff.2 h.parts

theorem Quiet.parts_set (h : s.Quiet enc) (id : Nat) {t : SendPc μ} (ht : part enc t = []) :
    ∀ x ∈ s.threads.set id t, part enc x = [] := by
  intro x hx
  rcases List.mem_or_eq_of_mem_set hx with hx | rfl
  · exact h.parts x hx
  · exact ht

theorem Quiet.step (h : s.Quiet enc) (hinv : Inv fn enc s) {l : SendLabel μ} (huncut : s.Uncut l)
    (hstep : s.step fn enc l = some s') : s'.Quiet enc := by
  cases l with
  | start id m =>
      simp only [Outbound.step] at hstep
      split at hstep
      · obtain rfl := Option.some.inj hstep
        unfold Outbound.start
        split
        · exact ⟨h.torn, h.parts⟩
        · exact ⟨h.torn, h.parts_set id rfl⟩
      · cases hstep
  | call id res =>
      simp only [Outbound.step] at hstep
      split at hstep
      · next m pos len hid =>
        obtain rfl := Option.some.inj hstep
        simp only [Uncut, hid] at huncut
        -- the call takes all that is left, which is more than nothing
        have hall : ∀ l, res = .ok l → l = len := by
          rintro l rfl
          by_contra hl
          exact huncut (if_neg hl)
        have hturn : (fn m).turn pos len res = _ := (fn m).turn_eq fun l hl =>
          ⟨hall l hl ▸ (hinv.fits _ (List.mem_of_getElem? hid)).2.1, Nat.le_of_eq (hall l hl)⟩
        simp only [Outbound.call, hturn]
        cases hout : SendOutcome.ofCall len res with
        | sent => exact ⟨h.torn, h.parts_set id rfl⟩
        | failed =>
            have hpart : (enc m).take pos = [] := h.parts _ (List.mem_of_getElem? hid)
            exact ⟨by rw [h.torn, hpart, List.append_nil], h.parts_set id rfl⟩
        | incomplete => exact absurd hout huncut
      · cases hstep

theorem Uncut.inv (h : (system fn enc).Reachable Uncut s) : Inv fn enc s ∧ s.Quiet enc := by
  refine h.invariant (P := fun s => Inv fn enc s ∧ s.Quiet enc) ?_ ?_
  · intro s hs
    refine ⟨Inv.of_init hs, ?_⟩
    obtain ⟨n, rfl⟩ := hs
    refine ⟨rfl, fun t ht => ?_⟩
    rw [List.eq_of_mem_replicate ht]
    rfl
  · rintro s l s' ⟨hinv, hquiet⟩ huncut hstep
    exact ⟨hinv.step (fun id res _ => hquiet.undisturbed id res) hstep,
      hquiet.step hinv huncut hstep⟩

end Uncut

/-! ## One sender at a time -/

section Locked

variable {μ : Type u} {fn : μ → SendFn} {enc : μ → List UInt8} {s s' : Outbound μ}

/-- The thread is in a send function. -/
def busy : SendPc μ → Bool
  | .sending _ _ _ => true
  | _ => false

/-- A thread sends under a lock, and nothing is sent after a message that was given up half-way. -/
def Locked (s : Outbound μ) : SendLabel μ → Prop
  | .start _ _ => ∀ t ∈ s.threads, busy t = false
  | .call _ (.ok _) => s.torn = []
  | .call _ (.error _) => True

instance (s : Outbound μ) (l : SendLabel μ) : Decidable (s.Locked l) := by
  unfold Locked
  split <;> infer_instance

/-- At most one thread is busy. -/
def Serial (s : Outbound μ) : Prop :=
  ∀ (i j : Nat) (t t' : SendPc μ), s.threads[i]? = some t → s.threads[j]? = some t' →
    busy t = true → busy t' = true → i = j

theorem Serial.undisturbed (h : s.Serial) {id : Nat} {m : μ} {pos len : Nat}
    (hid : s.threads[id]? = some (.sending m pos len)) {res : Except Errno Nat}
    (hlocked : s.Locked (.call id res)) : s.Undisturbed enc id res := by
  refine ⟨?_, fun j t hj hne => ?_⟩
  · rintro l rfl
    exact hlocked
  · cases t with
    | idle | panicked => rfl
    | sending => exact absurd (h j id _ _ hj hid rfl rfl) hne

/-- The busy thread goes on, or another one starts while none is busy. -/
theorem Serial.set {threads : List (SendPc μ)} {id : Nat} (t₀ : SendPc μ)
    (hothers : ∀ (j : Nat) (t : SendPc μ), threads[j]? = some t → j ≠ id → busy t = false)
    {i j : Nat} {t t' : SendPc μ} (hi : (threads.set id t₀)[i]? = some t)
    (hj : (threads.set id t₀)[j]? = some t') (ht : busy t = true) (ht' : busy t' = true) : i = j := by
  have honly : ∀ (k : Nat) (x : SendPc μ), (threads.set id t₀)[k]? = some x → busy x = true →
      k = id := by
    intro k x hk hx
    by_contra hne
    rw [List.getElem?_set_ne (Ne.symm hne)] at hk
    rw [hothers k x hk hne] at hx
    cases hx
  rw [honly i t hi ht, honly j t' hj ht']

theorem Serial.others (h : s.Serial) {id : Nat} {t₀ : SendPc μ} (hid : s.threads[id]? = some t₀)
    (hbusy : busy t₀ = true) (j : Nat) (t : SendPc μ) (hj : s.threads[j]? = some t) (hne : j ≠ id) :
    busy t = false := by
  cases ht : busy t with
  | false => rfl
  | true => exact absurd (h j id t t₀ hj hid ht hbusy) hne

theorem call_threads (id : Nat) (m : μ) (pos len : Nat) (res : Except Errno Nat) :
    ∃ t, (s.call fn enc id m pos len res).threads = s.threads.set id t := by
  unfold Outbound.call
  dsimp only
  split <;> exact ⟨_, rfl⟩

theorem Serial.step (h : s.Serial) {l : SendLabel μ} (hlocked : s.Locked l)
    (hstep : s.step fn enc l = some s') : s'.Serial := by
  cases l with
  | start id m =>
      simp only [Outbound.step] at hstep
      split at hstep
      · obtain rfl := Option.some.inj hstep
        unfold Outbound.start
        split
        · exact h
        · intro i j t t' hi hj
          exact Serial.set _ (fun k x hk _ => hlocked x (List.mem_of_getElem? hk)) hi hj
      · cases hstep
  | call id res =>
      simp only [Outbound.step] at hstep
      split at hstep
      · next m pos len hid =>
        obtain rfl := Option.some.inj hstep
        obtain ⟨t₀, ht₀⟩ : ∃ t₀, (s.call fn enc id m pos len res).threads = s.threads.set id t₀ :=
          call_threads id m pos len res
        intro i j t t' hi hj
        rw [ht₀] at hi hj
        exact Serial.set t₀ (h.others hid rfl) hi hj
      · cases hstep

theorem Locked.inv (h : (system fn enc).Reachable Locked s) : Inv fn enc s ∧ s.Serial := by
  refine h.invariant (P := fun s => Inv fn enc s ∧ s.Serial) ?_ ?_
  · intro s hs
    refine ⟨Inv.of_init hs, ?_⟩
    obtain ⟨n, rfl⟩ := hs
    intro i j t t' hi _ ht
    rw [List.eq_of_mem_replicate (List.mem_of_getElem? hi)] at ht
    cases ht
  · rintro s l s' ⟨hinv, hserial⟩ hlocked hstep
    refine ⟨?_, hserial.step hlocked hstep⟩
    refine Inv.step (l := l) hinv ?_ hstep
    rintro id res rfl
    obtain ⟨m, pos, len, hid⟩ := sending_of_call hstep
    exact hserial.undisturbed hid hlocked

end Locked

end Outbound

/-! ## The two directions -/

/-- The function that a response is sent with. -/
def Response.Reply.sendFn : Response.Reply → SendFn
  | .ok _ | .err _ _ => .sendAll
  | _ => .sendVectoredAll

/-- The function that a request is sent with. -/
def Request.Message.sendFn : Request.Message → SendFn
  | .interrupt _ => .sendAll
  | .call _ _ => .sendVectoredAll

/-- **The client's requests stay whole under its lock.** Threads send requests under a lock, calls may be
cut short or fail, and nothing is sent after a message that was given up half-way. However the bytes
arrive, the server receives exactly the requests whose sends have succeeded, in order; what is left over
is the part of one message that is being sent or has been given up. -/
theorem requests_stay_whole (e e' : Endian)
    {s : Outbound (Request.Message × Sequence × List UInt8)}
    (h : (Outbound.system (fun m => m.1.sendFn) (fun m => m.2.2)).Reachable Outbound.Locked s)
    (hsent : ∀ m ∈ s.sent, m.1.send e = .ok m.2)
    (hlen : ∀ m ∈ s.sent, m.2.2.length ≤ (Request.Header.layout e).size + Request.MAX_SZ)
    {script : Script} (hclean : script.Clean) (hbytes : script.bytes = s.wire) :
    ∃ script', repeatRead (Request.recv e' MAX_MSG_SIZE) s.sent.length script =
        (s.sent.map fun m => .ok (m.1.received e e' m.2.1), script') ∧
      script'.bytes = s.remains fun m => m.2.2 := by
  obtain ⟨hinv, -⟩ := Outbound.Locked.inv h
  have hone : ∀ m ∈ s.sent, Yields (Request.recv e' MAX_MSG_SIZE) m.2.2
      (.ok (m.1.received e e' m.2.1)) :=
    fun m hm => Request.recv_message (hsent m hm) (hlen m hm) (by decide)
  obtain ⟨script', hrun, -, hrest⟩ := repeatRead_yields s.sent hone hclean (hbytes.trans hinv.wire)
  exact ⟨script', hrun, hrest⟩

/-- An interrupt takes two calls, then a write is sent; three bytes of another interrupt are on the wire. -/
theorem requests_stay_whole_cut :
    ∃ script', repeatRead (Request.recv .big MAX_MSG_SIZE) 2
        [.data 7 [0, 0, 0, 0], .wait, .data 0 [0, 0, 0, 0, 0, 0, 0, 0, 0, 1, 3, 0, 0, 0, 0, 0, 0, 17],
          .data 0 [0, 0, 0, 0, 0, 0, 2, 0, 0, 0, 0, 0, 0, 0, 16, 0, 0, 0, 3, 0, 0, 0, 0, 65], .wait,
          .data 7 [0, 0]] =
        ([.ok (.interrupt ⟨1, by decide⟩), .ok (.write ⟨2, by decide⟩ ⟨Be.fromNative .big 16,
            FhFlags.fromCuse .big ⟨2⟩, Vector.replicate 4 ⟨0⟩⟩ [65])], script') ∧
      script'.bytes = [7, 0, 0] := by
  let interrupt : Request.Message × Sequence × List UInt8 := (.interrupt ⟨1, by decide⟩, ⟨1, by decide⟩,
    [7, 0, 0, 0, 0, 0, 0, 0, 0, 0, 0, 0, 0, 0, 0, 1])
  let write : Request.Message × Sequence × List UInt8 :=
    (.call (.write ⟨16, ⟨2⟩⟩ [65]) 2, ⟨2, by decide⟩,
      [3, 0, 0, 0, 0, 0, 0, 17, 0, 0, 0, 0, 0, 0, 0, 2] ++
        [0, 0, 0, 0, 0, 0, 0, 16, 0, 0, 0, 3, 0, 0, 0, 0, 65])
  let clients := Outbound.system (fun m : Request.Message × Sequence × List UInt8 => m.1.sendFn)
    (fun m => m.2.2)
  have hrun : clients.exec Outbound.Locked ⟨List.replicate 2 .idle, [], [], []⟩
      [.start 0 interrupt, .call 0 (.ok 5), .call 0 (.ok 11), .start 1 write, .call 1 (.ok 33),
        .start 0 interrupt, .call 0 (.ok 3)] =
      some ⟨[.sending interrupt 3 13, .idle], interrupt.2.2 ++ write.2.2 ++ [7, 0, 0],
        [interrupt, write], []⟩ := rfl
  have hinit : clients.init ⟨List.replicate 2 .idle, [], [], []⟩ := ⟨2, rfl⟩
  exact requests_stay_whole .little .big (System.reachable_of_exec hinit hrun) (by decide) (by decide)
    (by decide) (by decide)

end Cuse2Net.Proto

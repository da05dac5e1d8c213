import Mathlib.Data.Set.Lattice
import Mathlib.Logic.Function.Basic
import Mathlib.Order.CompletePartialOrder

/-!
# One-shot notification on an edge-triggered source

A source has conditions that come and go. When a condition appears, the source is marked; a worker
clears the mark, takes a snapshot of the conditions and later wakes the listeners whose mask meets the
snapshot. A listener registers with a mask while none of its conditions holds, and a wake-up ends the
registration.

`Step` lists what can happen, with everything that is not fixed left open: a mark may also be set for
no reason, a snapshot may hold more than the conditions that are watched, and the worker may wake
listeners beyond those it has to wake, as long as they are registered. `Step.sound` says that no
wake-up is lost and none is invented.
-/

set_option autoImplicit false

namespace Cuse2Net.Lib

universe u v

/-- A source with its worker and its listeners. `credits` counts the registrations of a listener and
`wakeups` its wake-ups. -/
@[ext] structure OneShot (κ : Type u) (ε : Type v) where
  ready : Set ε
  marked : Prop
  snapshot : Option (Set ε)
  mask : κ → Option (Set ε)
  credits : κ → Nat
  wakeups : κ → Nat

namespace OneShot

variable {κ : Type u} {ε : Type v} [DecidableEq κ] {watched : Set ε} {s t : OneShot κ ε}

/-- What can happen. The conditions in `watched` are those the source is marked for. -/
inductive Step (watched : Set ε) (s : OneShot κ ε) : OneShot κ ε → Prop where
  /-- Conditions come and go; a new one marks the source. -/
  | change (ready : Set ε) (marked : Prop) (hkeep : s.marked → marked)
      (hedge : (ready \ s.ready).Nonempty → marked) :
      Step watched s { s with ready := ready, marked := marked }
  /-- The mark is set anew from the conditions that hold. -/
  | rearm (marked : Prop) (hlevel : (s.ready ∩ watched).Nonempty → marked) :
      Step watched s { s with marked := marked }
  /-- A listener registers, or its registration ends, while none of its conditions holds. -/
  | register (k : κ) (m : Option (Set ε)) (hquiet : ∀ m' ∈ m, Disjoint s.ready m') :
      Step watched s { s with
        mask := Function.update s.mask k m
        credits := Function.update s.credits k (s.credits k + 1) }
  /-- The worker takes a snapshot. -/
  | wait (ev : Set ε) (hlevel : s.ready ∩ watched ⊆ ev) :
      Step watched s { s with marked := False, snapshot := some ev }
  /-- The worker wakes the listeners `ks`. -/
  | signal (ev : Set ε) (ks : Set κ) [DecidablePred (· ∈ ks)] (hev : s.snapshot = some ev)
      (hall : ∀ k m, s.mask k = some m → (ev ∩ m).Nonempty → k ∈ ks)
      (hregistered : ∀ k ∈ ks, (s.mask k).isSome) :
      Step watched s { s with
        snapshot := none
        mask := fun k => if k ∈ ks then none else s.mask k
        wakeups := fun k => if k ∈ ks then s.wakeups k + 1 else s.wakeups k }

/-- No wake-up is lost, and none is sent without a registration. -/
structure Sound (watched : Set ε) (s : OneShot κ ε) : Prop where
  /-- A listener one of whose conditions holds will be looked at: the source is marked, or the
  snapshot has one of its conditions. -/
  kept : ∀ k m, s.mask k = some m → (s.ready ∩ (m ∩ watched)).Nonempty →
    s.marked ∨ ∃ ev, s.snapshot = some ev ∧ (ev ∩ m).Nonempty
  /-- Each wake-up uses up a registration, and a listener has at most one that is not used up. -/
  paid : ∀ k, s.wakeups k + (s.mask k).isSome.toNat ≤ s.credits k

/-- **No wake-up is lost and none is invented.** -/
theorem Step.sound (h : Step watched s t) (hs : Sound watched s) : Sound watched t := by
  cases h with
  | change ready marked hkeep hedge =>
      refine ⟨fun k m hm hready => ?_, hs.paid⟩
      obtain ⟨b, hb, hbm, hbw⟩ := hready
      -- the condition is new, or it held before
      by_cases hold : b ∈ s.ready
      · rcases hs.kept k m hm ⟨b, hold, hbm, hbw⟩ with hmark | hsnap
        · exact .inl (hkeep hmark)
        · exact .inr hsnap
      · exact .inl (hedge ⟨b, hb, hold⟩)
  | rearm marked hlevel =>
      refine ⟨fun k m hm hready => ?_, hs.paid⟩
      obtain ⟨b, hb, -, hbw⟩ := hready
      exact .inl (hlevel ⟨b, hb, hbw⟩)
  | register k m hquiet =>
      refine ⟨fun k' m' hm' hready => ?_, fun k' => ?_⟩
      · by_cases hk : k' = k
        · subst hk
          simp only [Function.update_self] at hm'
          obtain ⟨b, hb, hbm, -⟩ := hready
          exact absurd hbm ((Set.disjoint_left.1 (hquiet m' hm')) hb)
        · simp only [Function.update_of_ne hk] at hm'
          exact hs.kept k' m' hm' hready
      · by_cases hk : k' = k
        · subst hk
          have hpaid := hs.paid k'
          simp only [Function.update_self]
          have hone : m.isSome.toNat ≤ 1 := Bool.toNat_le _
          omega
        · simp only [Function.update_of_ne hk]
          exact hs.paid k'
  | wait ev hlevel =>
      refine ⟨fun k m hm hready => .inr ⟨ev, rfl, ?_⟩, hs.paid⟩
      obtain ⟨b, hb, hbm, hbw⟩ := hready
      exact ⟨b, hlevel ⟨hb, hbw⟩, hbm⟩
  | signal ev ks hev hall hregistered =>
      refine ⟨fun k m hm hready => ?_, fun k => ?_⟩
      · -- a listener that is still registered has nothing in the snapshot
        simp only [Option.ite_none_left_eq_some] at hm
        obtain ⟨hk, hm⟩ := hm
        rcases hs.kept k m hm hready with hmark | ⟨ev', hev', hmeet⟩
        · exact .inl hmark
        · rw [hev] at hev'
          obtain rfl := Option.some.inj hev'
          exact absurd (hall k m hm hmeet) hk
      · have hpaid := hs.paid k
        by_cases hk : k ∈ ks
        · simp only [if_pos hk, Option.isSome_none, Bool.toNat_false]
          rw [hregistered k hk] at hpaid
          exact hpaid
        · simp only [if_neg hk]
          exact hpaid

end OneShot

end Cuse2Net.Lib

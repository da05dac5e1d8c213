import Mathlib.Logic.Relation

/-!
# Transition systems

A `System` has initial states and a partial step function; the label of a step names the thread that
moves and everything the environment decides. A condition `ok` on states and labels selects the runs
all of whose steps meet it: `Reaches ok` is the reachability relation of these runs and
`Reachable ok` the set of states they visit. `always` is the condition that selects every run.

`Reaches.induct` and `Reachable.invariant` are the invariant rules, `reaches_of_exec` turns the
execution of a concrete list of labels into a run, `exec_induct` is the rule for invariants that speak
of these labels, and `Reachable.simulate` carries runs of one system to runs of another.
-/

set_option autoImplicit false

namespace Cuse2Net.Lib

universe u v u' v'

/-- A transition system with labelled steps. -/
structure System (σ : Type u) (ℓ : Type v) where
  /-- Initial states. -/
  init : σ → Prop
  /-- The step with a given label, if it is enabled. -/
  step : σ → ℓ → Option σ

/-- The condition that every step meets. -/
def always {σ : Type u} {ℓ : Type v} : σ → ℓ → Prop := fun _ _ => True

instance {σ : Type u} {ℓ : Type v} (s : σ) (l : ℓ) : Decidable (always s l) := .isTrue trivial

namespace System

variable {σ : Type u} {ℓ : Type v} (S : System σ ℓ)

/-- One step that meets the condition. -/
def Next (ok : σ → ℓ → Prop) (s t : σ) : Prop := ∃ l, ok s l ∧ S.step s l = some t

/-- A run of steps that all meet the condition. -/
abbrev Reaches (ok : σ → ℓ → Prop) : σ → σ → Prop := Relation.ReflTransGen (S.Next ok)

/-- States visited by runs from an initial state whose steps all meet the condition. -/
def Reachable (ok : σ → ℓ → Prop) (s : σ) : Prop := ∃ s₀, S.init s₀ ∧ S.Reaches ok s₀ s

/-- Execute a list of labels, as long as the steps meet the condition. -/
def exec (ok : σ → ℓ → Prop) [∀ s l, Decidable (ok s l)] (s : σ) : List ℓ → Option σ
  | [] => some s
  | l :: ls => if ok s l then (S.step s l).bind fun t => exec ok t ls else none

variable {S} {ok : σ → ℓ → Prop}

/-- **Invariants along a run.** -/
theorem Reaches.induct {P : σ → Prop} {s t : σ} (h : S.Reaches ok s t) (hs : P s)
    (hstep : ∀ s l t, P s → ok s l → S.step s l = some t → P t) : P t := by
  induction h with
  | refl => exact hs
  | tail _ hnext ih =>
      obtain ⟨l, hok, hl⟩ := hnext
      exact hstep _ l _ ih hok hl

/-- **Invariants of the reachable states.** -/
theorem Reachable.invariant {P : σ → Prop} {s : σ} (h : S.Reachable ok s)
    (hinit : ∀ s, S.init s → P s)
    (hstep : ∀ s l t, P s → ok s l → S.step s l = some t → P t) : P s := by
  obtain ⟨s₀, hs₀, hrun⟩ := h
  exact Reaches.induct hrun (hinit s₀ hs₀) hstep

theorem Reachable.of_init {s : σ} (h : S.init s) : S.Reachable ok s :=
  ⟨s, h, Relation.ReflTransGen.refl⟩

theorem Reachable.trans {s t : σ} (h : S.Reachable ok s) (hrun : S.Reaches ok s t) :
    S.Reachable ok t := by
  obtain ⟨s₀, hs₀, hrun₀⟩ := h
  exact ⟨s₀, hs₀, hrun₀.trans hrun⟩

theorem Reachable.next {s t : σ} {l : ℓ} (h : S.Reachable ok s) (hok : ok s l)
    (hstep : S.step s l = some t) : S.Reachable ok t :=
  h.trans (Relation.ReflTransGen.single ⟨l, hok, hstep⟩)

theorem Reaches.mono {ok' : σ → ℓ → Prop} (himp : ∀ s l, ok s l → ok' s l) {s t : σ}
    (h : S.Reaches ok s t) : S.Reaches ok' s t :=
  Relation.ReflTransGen.mono (fun _ _ ⟨l, hok, hl⟩ => ⟨l, himp _ l hok, hl⟩) _ _ h

theorem Reachable.mono {ok' : σ → ℓ → Prop} {s : σ} (h : S.Reachable ok s)
    (himp : ∀ s l, ok s l → ok' s l) : S.Reachable ok' s := by
  obtain ⟨s₀, hs₀, hrun⟩ := h
  exact ⟨s₀, hs₀, Reaches.mono himp hrun⟩

theorem exec_cons [∀ s l, Decidable (ok s l)] {s t : σ} {l : ℓ} (ls : List ℓ) (hok : ok s l)
    (h : S.step s l = some t) : S.exec ok s (l :: ls) = S.exec ok t ls := by
  rw [exec, if_pos hok, h, Option.bind_some]

theorem exec_cons_eq_some_iff [∀ s l, Decidable (ok s l)] {s t : σ} {l : ℓ} {ls : List ℓ} :
    S.exec ok s (l :: ls) = some t ↔
      ok s l ∧ ∃ m, S.step s l = some m ∧ S.exec ok m ls = some t := by
  rw [exec, Option.ite_none_right_eq_some, Option.bind_eq_some_iff]

/-- The execution of a list of labels is a run. -/
theorem reaches_of_exec [∀ s l, Decidable (ok s l)] {s t : σ} : ∀ {ls : List ℓ},
    S.exec ok s ls = some t → S.Reaches ok s t := by
  intro ls
  induction ls generalizing s with
  | nil =>
      intro h
      obtain rfl : s = t := Option.some.inj h
      exact Relation.ReflTransGen.refl
  | cons l ls ih =>
      intro h
      obtain ⟨hok, m, hm, hrest⟩ := exec_cons_eq_some_iff.1 h
      exact Relation.ReflTransGen.head ⟨l, hok, hm⟩ (ih hrest)

/-- **Invariants of an execution that speak of the labels so far.** -/
theorem exec_induct [∀ s l, Decidable (ok s l)] {P : List ℓ → σ → Prop} (ls₀ : List ℓ)
    {ls : List ℓ} {s t : σ} (h : S.exec ok s ls = some t) (hs : P ls₀ s)
    (hstep : ∀ ls s l t, P ls s → ok s l → S.step s l = some t → P (ls ++ [l]) t) :
    P (ls₀ ++ ls) t := by
  induction ls generalizing s ls₀ with
  | nil =>
      obtain rfl : s = t := Option.some.inj h
      rw [List.append_nil]
      exact hs
  | cons l ls ih =>
      obtain ⟨hok, m, hm, hrest⟩ := exec_cons_eq_some_iff.1 h
      have hnext := ih (ls₀ ++ [l]) hrest (hstep ls₀ s l m hs hok hm)
      rw [List.append_assoc, List.singleton_append] at hnext
      exact hnext

theorem reachable_of_exec [∀ s l, Decidable (ok s l)] {s t : σ} {ls : List ℓ} (hs : S.init s)
    (h : S.exec ok s ls = some t) : S.Reachable ok t :=
  ⟨s, hs, reaches_of_exec h⟩

/-- **Simulation.** When every step of `S` from a related pair, whose second state is reachable, is
matched by a run of `A`, every reachable state of `S` is related to a reachable state of `A`. -/
theorem Reachable.simulate {α : Type u'} {κ : Type v'} {A : System α κ} {R : σ → α → Prop} {s : σ}
    (h : S.Reachable ok s) (hinit : ∀ s, S.init s → ∃ a, A.init a ∧ R s a)
    (hstep : ∀ s l t a, A.Reachable always a → R s a → ok s l → S.step s l = some t →
      ∃ b, A.Reaches always a b ∧ R t b) :
    ∃ a, A.Reachable always a ∧ R s a := by
  refine h.invariant (P := fun s => ∃ a, A.Reachable always a ∧ R s a) ?_ ?_
  · intro s hs
    obtain ⟨a, ha, hR⟩ := hinit s hs
    exact ⟨a, Reachable.of_init ha, hR⟩
  · rintro s l t ⟨a, ha, hR⟩ hok hl
    obtain ⟨b, hrun, hR'⟩ := hstep s l t a ha hR hok hl
    exact ⟨b, ha.trans hrun, hR'⟩

end System

end Cuse2Net.Lib

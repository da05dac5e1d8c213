import Mathlib.Data.Set.Basic
import Mathlib.Data.BitVec

/-!
# Masks of flags as sets

A word that holds flags is the set of the positions of its bits that are set. The operations of the
word are those of the set, and a word is nonzero when the set has an element, so a statement about
masks can be argued flag by flag.
-/

set_option autoImplicit false

namespace Cuse2Net.Lib

/-- The positions of the bits that are set. -/
def flags {w : Nat} (v : BitVec w) : Set Nat := {i | v.getLsbD i = true}

@[simp] theorem mem_flags {w : Nat} {v : BitVec w} {i : Nat} : i ∈ flags v ↔ v.getLsbD i = true :=
  Iff.rfl

@[simp] theorem flags_and {w : Nat} (a b : BitVec w) : flags (a &&& b) = flags a ∩ flags b := by
  ext i
  simp

@[simp] theorem flags_or {w : Nat} (a b : BitVec w) : flags (a ||| b) = flags a ∪ flags b := by
  ext i
  simp

@[simp] theorem flags_and_not {w : Nat} (a b : BitVec w) :
    flags (a &&& ~~~b) = flags a \ flags b := by
  ext i
  simp only [mem_flags, BitVec.getLsbD_and, BitVec.getLsbD_not, Set.mem_sdiff, Bool.and_eq_true,
    decide_eq_true_eq, Bool.not_eq_true', Bool.not_eq_true]
  refine ⟨fun h => ⟨h.1, h.2.2⟩, fun h => ⟨h.1, ?_, h.2⟩⟩
  exact BitVec.lt_of_getLsbD h.1

theorem flags_nonempty_iff {w : Nat} (v : BitVec w) : (flags v).Nonempty ↔ v ≠ 0 := by
  constructor
  · rintro ⟨i, hi⟩ rfl
    simp at hi
  · intro hne
    by_contra hempty
    apply hne
    apply BitVec.eq_of_getLsbD_eq
    intro i _
    have hi : i ∉ flags v := fun h => hempty ⟨i, h⟩
    simpa using hi

theorem flags_and_nonempty_iff {w : Nat} (a b : BitVec w) :
    (flags a ∩ flags b).Nonempty ↔ a &&& b ≠ 0 := by
  rw [← flags_and, flags_nonempty_iff]

/-- One word has all flags of another one. -/
theorem flags_subset_iff {w : Nat} (a b : BitVec w) : flags a ⊆ flags b ↔ a &&& ~~~b = 0 := by
  rw [← Set.sdiff_eq_empty, ← flags_and_not, ← Set.not_nonempty_iff_eq_empty, flags_nonempty_iff,
    not_ne_iff]

/-- A word with one flag. -/
theorem flags_twoPow {w i : Nat} (hi : i < w) : flags (BitVec.twoPow w i) = {i} := by
  ext j
  simp only [mem_flags, BitVec.getLsbD_twoPow, Set.mem_singleton_iff, Bool.and_eq_true,
    decide_eq_true_eq]
  exact ⟨fun h => h.2.symm, fun h => ⟨hi, h.symm⟩⟩

/-- A flag `c` for a flag `b` of a word, when the word has it. -/
theorem flags_ite_and_eq_zero {w n i : Nat} {a b : BitVec w} {c : BitVec n} (hb : flags b = {i})
    (hc : flags c = {i}) : flags (if a &&& b = 0 then 0 else c) = flags a ∩ {i} := by
  by_cases hi : i ∈ flags a
  · have hne : a &&& b ≠ 0 := by
      rw [← flags_and_nonempty_iff, hb]
      exact ⟨i, hi, rfl⟩
    rw [if_neg hne, hc, Set.inter_eq_right.2 (Set.singleton_subset_iff.2 hi)]
  · have hzero : a &&& b = 0 := by
      by_contra hne
      rw [← ne_eq, ← flags_and_nonempty_iff, hb] at hne
      obtain ⟨j, hj, rfl⟩ := hne
      exact hi hj
    rw [if_pos hzero, Set.inter_singleton_eq_empty.2 hi]
    ext j
    simp

/-- The same, with the test that the word contains the flag. -/
theorem flags_ite_and_eq_self {w n i : Nat} {a b : BitVec w} {c : BitVec n} (hb : flags b = {i})
    (hc : flags c = {i}) : flags (if a &&& b = b then c else 0) = flags a ∩ {i} := by
  have hne : b ≠ 0 := by
    rw [← flags_nonempty_iff, hb]
    exact Set.singleton_nonempty i
  have hiff : a &&& b = b ↔ a &&& b ≠ 0 := by
    constructor
    · intro heq
      rw [heq]
      exact hne
    · intro hnonzero
      rw [← flags_and_nonempty_iff, hb] at hnonzero
      obtain ⟨j, hj, rfl⟩ := hnonzero
      apply BitVec.eq_of_getLsbD_eq
      intro k _
      rw [BitVec.getLsbD_and]
      cases hk : b.getLsbD k with
      | false => simp
      | true =>
          have hkj : k ∈ flags b := hk
          rw [hb] at hkj
          obtain rfl : k = j := hkj
          have hak : a.getLsbD k = true := hj
          simp [hak]
  rw [← flags_ite_and_eq_zero hb hc]
  by_cases h : a &&& b = 0
  · rw [if_pos h, if_neg fun heq => hiff.1 heq h]
  · rw [if_neg h, if_pos (hiff.2 h)]

/-- A wider word has the same flags. -/
theorem flags_setWidth {w n : Nat} (h : w ≤ n) (v : BitVec w) : flags (v.setWidth n) = flags v := by
  ext i
  simp only [mem_flags, BitVec.getLsbD_setWidth, Bool.and_eq_true, decide_eq_true_eq]
  refine ⟨And.right, fun hi => ⟨?_, hi⟩⟩
  exact Nat.lt_of_lt_of_le (BitVec.lt_of_getLsbD hi) h

end Cuse2Net.Lib

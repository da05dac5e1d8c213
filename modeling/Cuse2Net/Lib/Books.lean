import Mathlib.Algebra.Order.Group.Multiset

/-!
# Accounts over a list of holders

Several parties hold items, and `f` says what each of them holds, as an element of an ordered monoid
(a multiset, a number). The total is the sum over the list. Replacing one party changes the total by
the difference of its holdings, so that a step of one party can be judged by what it does to its own
account: `sum_map_set_pay`. When the holdings are lists, their order matters; `flatMap_of_alone` is
about one party that holds something at a time.
-/

set_option autoImplicit false

namespace Cuse2Net.Lib

universe u v

section Monoid

variable {α : Type u} {M : Type v} [AddCommMonoid M] (f : α → M)

/-- The total after one party has been replaced. -/
theorem sum_map_set {l : List α} {i : Nat} {y : α} (h : l[i]? = some y) (x : α) :
    ((l.set i x).map f).sum + f y = (l.map f).sum + f x := by
  induction l generalizing i with
  | nil => cases h
  | cons a l ih =>
      cases i with
      | zero =>
          obtain rfl : a = y := Option.some.inj h
          simp only [List.set_cons_zero, List.map_cons, List.sum_cons]
          rw [add_right_comm, add_comm (f x), add_right_comm]
      | succ i =>
          rw [List.getElem?_cons_succ] at h
          simp only [List.set_cons_succ, List.map_cons, List.sum_cons]
          rw [add_assoc, ih h, add_assoc]

theorem sum_map_concat (l : List α) (x : α) :
    ((l ++ [x]).map f).sum = (l.map f).sum + f x := by
  rw [List.map_append, List.sum_append, List.map_singleton, List.sum_singleton]

end Monoid

/-- A list of items as a multiset. -/
theorem coe_map_append {α : Type u} {β : Type v} (f : α → β) (l l' : List α) :
    (((l ++ l').map f : List β) : Multiset β) = (l.map f : List β) + (l'.map f : List β) := by
  rw [List.map_append, ← Multiset.coe_add]

section Ordered

variable {α : Type u} {M : Type v} [AddCommMonoid M] [PartialOrder M] [AddLeftMono M]
  [AddLeftReflectLE M] (f : α → M)

/-- **A step of one party.** It gives away `m` and gains at most `d`; what is left of the total is
bounded in the same way. -/
theorem sum_map_set_pay {l : List α} {i : Nat} {x y : α} {m d : M} (h : l[i]? = some y)
    (hle : m + f x ≤ f y + d) : m + ((l.set i x).map f).sum ≤ (l.map f).sum + d := by
  have hsum : m + ((l.set i x).map f).sum + f y ≤ (l.map f).sum + d + f y :=
    calc m + ((l.set i x).map f).sum + f y = (l.map f).sum + (m + f x) := by
          rw [add_assoc, sum_map_set f h x, add_left_comm]
      _ ≤ (l.map f).sum + (f y + d) := add_le_add_right hle _
      _ = (l.map f).sum + d + f y := by rw [add_comm (f y), add_assoc]
  exact le_of_add_le_add_right hsum

theorem sum_map_set_le {l : List α} {i : Nat} {x y : α} {d : M} (h : l[i]? = some y)
    (hle : f x ≤ f y + d) : ((l.set i x).map f).sum ≤ (l.map f).sum + d := by
  have hpay := sum_map_set_pay f (m := 0) h (by rwa [zero_add])
  rwa [zero_add] at hpay

end Ordered

section Lists

variable {α : Type u} {β : Type v} {f : α → List β} {l : List α} {i : Nat} {y : α}

/-- One party holds everything. -/
theorem flatMap_of_alone (h : l[i]? = some y)
    (halone : ∀ (j : Nat) (x : α), l[j]? = some x → j ≠ i → f x = []) : l.flatMap f = f y := by
  induction l generalizing i with
  | nil => cases h
  | cons a l ih =>
      cases i with
      | zero =>
          obtain rfl : a = y := Option.some.inj h
          have hrest : l.flatMap f = [] := by
            refine List.flatMap_eq_nil_iff.2 fun x hx => ?_
            obtain ⟨j, hj⟩ := List.getElem?_of_mem hx
            exact halone (j + 1) x (by rwa [List.getElem?_cons_succ]) (Nat.succ_ne_zero j)
          rw [List.flatMap_cons, hrest, List.append_nil]
      | succ i =>
          rw [List.getElem?_cons_succ] at h
          rw [List.flatMap_cons, halone 0 a rfl (Nat.succ_ne_zero i).symm, List.nil_append]
          refine ih h fun j x hx hj => halone (j + 1) x ?_ fun hij => hj (Nat.succ.inj hij)
          rwa [List.getElem?_cons_succ]

theorem flatMap_set_of_alone (h : l[i]? = some y)
    (halone : ∀ (j : Nat) (x : α), l[j]? = some x → j ≠ i → f x = []) (x : α) :
    (l.set i x).flatMap f = f x := by
  have hi : i < l.length := (List.getElem?_eq_some_iff.1 h).1
  refine flatMap_of_alone (List.getElem?_set_self hi) fun j z hz hj => ?_
  rw [List.getElem?_set_ne (Ne.symm hj)] at hz
  exact halone j z hz hj

/-- A step of a party that keeps what it holds. -/
theorem flatMap_set_of_eq {x : α} (h : l[i]? = some y) (hf : f x = f y) :
    (l.set i x).flatMap f = l.flatMap f := by
  obtain ⟨hi, rfl⟩ := List.getElem?_eq_some_iff.1 h
  rw [List.flatMap_def, List.flatMap_def, List.map_set, hf, ← List.getElem_map f, List.set_getElem_self]
  rwa [List.length_map]

end Lists

end Cuse2Net.Lib

import Mathlib.Data.List.Basic

/-!
# Reader-writer locks

The state of a reader-writer lock: the threads that hold a read guard, once for each guard, and the
thread that holds the write guard. A thread that asks for a guard it cannot get waits, which is the
`none` of `tryRead` and `tryWrite`; the lock is not reentrant. A critical section that takes a guard
and gives it back within one step leaves the lock as it was (`readSection`, `writeSection`). Whether a
thread that waits for the write guard keeps new readers out is a policy of the lock: a condition on the
steps of the threads, not a part of this state.
-/

set_option autoImplicit false

namespace Cuse2Net.Lib

universe u

/-- Holders of the guards. -/
structure RwLock (τ : Type u) where
  readers : List τ
  writer : Option τ
  deriving DecidableEq

namespace RwLock

variable {τ : Type u}

/-- A lock that nobody holds. -/
def free : RwLock τ := ⟨[], none⟩

/-- Take a read guard. -/
def tryRead (l : RwLock τ) (t : τ) : Option (RwLock τ) :=
  if l.writer = none then some { l with readers := t :: l.readers } else none

/-- Take the write guard. -/
def tryWrite (l : RwLock τ) (t : τ) : Option (RwLock τ) :=
  if l.readers = [] ∧ l.writer = none then some { l with writer := some t } else none

/-- Give back a read guard. -/
def releaseRead [DecidableEq τ] (l : RwLock τ) (t : τ) : RwLock τ := { l with readers := l.readers.erase t }

/-- Give back the write guard. -/
def releaseWrite (l : RwLock τ) : RwLock τ := { l with writer := none }

/-- The lock after a section under a read guard. -/
def readSection [DecidableEq τ] (l : RwLock τ) (t : τ) : Option (RwLock τ) :=
  (l.tryRead t).map (·.releaseRead t)

/-- The lock after a section under the write guard. -/
def writeSection (l : RwLock τ) (t : τ) : Option (RwLock τ) := (l.tryWrite t).map (·.releaseWrite)

/-- While anybody holds a read guard, no thread gets the write guard, its holder included. -/
theorem writeSection_eq_none {l : RwLock τ} {r : τ} (h : r ∈ l.readers) (t : τ) :
    l.writeSection t = none := by
  have hne : l.readers ≠ [] := List.ne_nil_of_mem h
  rw [writeSection, tryWrite, if_neg fun hfree => hne hfree.1, Option.map_none]

theorem readSection_eq [DecidableEq τ] {l l' : RwLock τ} {t : τ}
    (h : l.readSection t = some l') : l' = l := by
  obtain ⟨m, hm, rfl⟩ := Option.map_eq_some_iff.1 h
  rw [tryRead, Option.ite_none_right_eq_some] at hm
  obtain ⟨-, hm⟩ := hm
  obtain rfl := Option.some.inj hm
  rw [releaseRead, List.erase_cons_head]

theorem writeSection_eq {l l' : RwLock τ} {t : τ} (h : l.writeSection t = some l') : l' = l := by
  obtain ⟨m, hm, rfl⟩ := Option.map_eq_some_iff.1 h
  rw [tryWrite, Option.ite_none_right_eq_some] at hm
  obtain ⟨⟨-, hw⟩, hm⟩ := hm
  obtain rfl := Option.some.inj hm
  rw [releaseWrite, ← hw]

end RwLock

end Cuse2Net.Lib

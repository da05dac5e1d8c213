import Cuse2Net.Lib.Bytes
import Mathlib.Data.List.Basic

/-!
# Memory layouts

A `Layout T` says how the values of `T` lie in memory: how many bytes they take, which bytes these
are, and which value a run of that many bytes is. The two maps are inverse to each other, so an
object copied byte by byte arrives unchanged. Layouts are built from words and byte arrays by
juxtaposition (`Layout.prod`), renaming of fields (`Layout.iso`) and repetition (`Layout.array`);
`Layout.bytesAll` and `Layout.parseAll` treat a sequence of objects whose number is known only at
run time.
-/

set_option autoImplicit false

namespace Cuse2Net.Lib

open Cuse2Net.Lib.Bytes

universe u v

/-- The memory layout of a type: object size, memory image, and the object of an image. -/
structure Layout (T : Type u) where
  /-- Size of every object. -/
  size : Nat
  /-- Memory image of an object. -/
  bytes : T → List UInt8
  /-- Object with a given memory image. -/
  parse : List UInt8 → T
  length_bytes : ∀ x, (bytes x).length = size
  parse_bytes : ∀ x, parse (bytes x) = x
  bytes_parse : ∀ bs, bs.length = size → bytes (parse bs) = bs

namespace Layout

variable {T : Type u} {S : Type v}

/-- A word in the native order of a host. -/
def word (e : Endian) (w : Nat) (hw : 8 ∣ w) : Layout (BitVec w) where
  size := w / 8
  bytes := neBytes e
  parse := ofNeBytes w e
  length_bytes := length_neBytes e
  parse_bytes := ofNeBytes_neBytes hw e
  bytes_parse := fun _ h => neBytes_ofNeBytes e (by omega)

/-- The object without fields. -/
def unit : Layout Unit where
  size := 0
  bytes := fun _ => []
  parse := fun _ => ()
  length_bytes := fun _ => rfl
  parse_bytes := fun _ => rfl
  bytes_parse := fun _ h => (List.length_eq_zero_iff.1 h).symm

/-- Two objects one after the other. -/
def prod (L : Layout T) (M : Layout S) : Layout (T × S) where
  size := L.size + M.size
  bytes := fun x => L.bytes x.1 ++ M.bytes x.2
  parse := fun bs => (L.parse (bs.take L.size), M.parse (bs.drop L.size))
  length_bytes := fun x => by rw [List.length_append, L.length_bytes, M.length_bytes]
  parse_bytes := fun x => by
    rw [List.take_left' (L.length_bytes x.1), List.drop_left' (L.length_bytes x.1),
      L.parse_bytes, M.parse_bytes]
  bytes_parse := fun bs h => by
    have htake : (bs.take L.size).length = L.size := by rw [List.length_take]; omega
    have hdrop : (bs.drop L.size).length = M.size := by rw [List.length_drop]; omega
    show L.bytes (L.parse (bs.take L.size)) ++ M.bytes (M.parse (bs.drop L.size)) = bs
    rw [L.bytes_parse _ htake, M.bytes_parse _ hdrop, List.take_append_drop]

/-- The same memory image under another type. -/
def iso (L : Layout T) (f : S → T) (g : T → S) (hgf : ∀ x, g (f x) = x) (hfg : ∀ y, f (g y) = y) :
    Layout S where
  size := L.size
  bytes := fun x => L.bytes (f x)
  parse := fun bs => g (L.parse bs)
  length_bytes := fun x => L.length_bytes (f x)
  parse_bytes := fun x => by rw [L.parse_bytes, hgf]
  bytes_parse := fun bs h => by rw [hfg, L.bytes_parse bs h]

/-- A byte. -/
def byte : Layout UInt8 where
  size := 1
  bytes := fun b => [b]
  parse := fun bs => bs.headD 0
  length_bytes := fun _ => rfl
  parse_bytes := fun _ => rfl
  bytes_parse := fun bs h => by
    obtain ⟨b, rfl⟩ := List.length_eq_one_iff.1 h
    rfl

/-! ## Objects at an offset -/

/-- The object at an offset of a run of bytes. -/
def readAt (L : Layout T) (bs : List UInt8) (off : Nat) : T := L.parse ((bs.drop off).take L.size)

theorem readAt_prod (L : Layout T) (M : Layout S) (bs : List UInt8) (off : Nat) :
    (L.prod M).readAt bs off = (L.readAt bs off, M.readAt bs (off + L.size)) := by
  have hfst : ((bs.drop off).take (L.size + M.size)).take L.size = (bs.drop off).take L.size := by
    rw [List.take_take, Nat.min_eq_left (Nat.le_add_right _ _)]
  have hsnd : ((bs.drop off).take (L.size + M.size)).drop L.size =
      (bs.drop (off + L.size)).take M.size := by
    rw [List.drop_take, List.drop_drop, Nat.add_sub_cancel_left]
  show (L.parse (((bs.drop off).take (L.size + M.size)).take L.size),
    M.parse (((bs.drop off).take (L.size + M.size)).drop L.size)) = _
  rw [hfst, hsnd]
  rfl

theorem readAt_iso (L : Layout T) (f : S → T) (g : T → S) (hgf : ∀ x, g (f x) = x)
    (hfg : ∀ y, f (g y) = y) (bs : List UInt8) (off : Nat) :
    (L.iso f g hgf hfg).readAt bs off = g (L.readAt bs off) := rfl

/-- Only the bytes of the object matter. -/
theorem readAt_take (L : Layout T) (bs : List UInt8) {off n : Nat} (h : off + L.size ≤ n) :
    L.readAt (bs.take n) off = L.readAt bs off := by
  unfold readAt
  rw [List.drop_take, List.take_take, Nat.min_eq_left (by omega)]

/-! ## Sequences of objects -/

/-- The memory image of a sequence of objects. -/
def bytesAll (L : Layout T) (xs : List T) : List UInt8 := xs.flatMap L.bytes

/-- The first `n` objects in a run of bytes. -/
def parseAll (L : Layout T) : Nat → List UInt8 → List T
  | 0, _ => []
  | n + 1, bs => L.parse (bs.take L.size) :: parseAll L n (bs.drop L.size)

variable (L : Layout T)

theorem length_bytesAll (xs : List T) : (L.bytesAll xs).length = xs.length * L.size := by
  induction xs with
  | nil => simp [bytesAll]
  | cons x xs ih =>
      simp only [bytesAll, List.flatMap_cons, List.length_append, L.length_bytes] at ih ⊢
      rw [ih, List.length_cons, Nat.add_mul, Nat.one_mul, Nat.add_comm]

@[simp] theorem length_parseAll (n : Nat) (bs : List UInt8) : (L.parseAll n bs).length = n := by
  induction n generalizing bs with
  | zero => rfl
  | succ n ih => rw [parseAll, List.length_cons, ih]

theorem parseAll_byte {n : Nat} {bs : List UInt8} (h : n ≤ bs.length) :
    byte.parseAll n bs = bs.take n := by
  induction n generalizing bs with
  | zero => rfl
  | succ n ih =>
      cases bs with
      | nil => exact absurd h (Nat.not_succ_le_zero n)
      | cons b bs =>
          rw [List.take_succ_cons, ← ih (Nat.le_of_succ_le_succ h)]
          rfl

/-- **A sequence of objects is read back in order.** -/
theorem parseAll_bytesAll (xs : List T) : L.parseAll xs.length (L.bytesAll xs) = xs := by
  induction xs with
  | nil => rfl
  | cons x xs ih =>
      have htake : (L.bytesAll (x :: xs)).take L.size = L.bytes x :=
        List.take_left' (L.length_bytes x)
      have hdrop : (L.bytesAll (x :: xs)).drop L.size = L.bytesAll xs :=
        List.drop_left' (L.length_bytes x)
      rw [List.length_cons, parseAll, htake, hdrop, L.parse_bytes, ih]

theorem bytesAll_parseAll (n : Nat) {bs : List UInt8} (h : bs.length = n * L.size) :
    L.bytesAll (L.parseAll n bs) = bs := by
  induction n generalizing bs with
  | zero =>
      rw [Nat.zero_mul] at h
      exact (List.length_eq_zero_iff.1 h).symm
  | succ n ih =>
      rw [Nat.add_mul, Nat.one_mul] at h
      have htake : (bs.take L.size).length = L.size := by rw [List.length_take]; omega
      have hdrop : (bs.drop L.size).length = n * L.size := by rw [List.length_drop]; omega
      show L.bytes (L.parse (bs.take L.size)) ++ L.bytesAll (L.parseAll n (bs.drop L.size)) = bs
      rw [L.bytes_parse _ htake, ih hdrop, List.take_append_drop]

/-- `n` objects one after the other. -/
def array (n : Nat) : Layout (Vector T n) where
  size := n * L.size
  bytes := fun xs => L.bytesAll xs.toList
  parse := fun bs => ⟨(L.parseAll n bs).toArray, by rw [List.size_toArray, L.length_parseAll]⟩
  length_bytes := fun xs => by rw [L.length_bytesAll, Vector.length_toList]
  parse_bytes := fun xs => by
    have h := L.parseAll_bytesAll xs.toList
    rw [Vector.length_toList] at h
    apply Vector.toList_inj.1
    exact h
  bytes_parse := fun _ h => L.bytesAll_parseAll n h

theorem bytesAll_map {L : Layout T} {M : Layout S} (f : T → S) (h : ∀ x, M.bytes (f x) = L.bytes x)
    (xs : List T) : M.bytesAll (xs.map f) = L.bytesAll xs := by
  rw [bytesAll, bytesAll, List.flatMap_map]
  exact List.flatMap_congr fun x _ => h x

theorem bytes_array_map {L : Layout T} {M : Layout S} (f : T → S)
    (h : ∀ x, M.bytes (f x) = L.bytes x) {n : Nat} (xs : Vector T n) :
    (M.array n).bytes (xs.map f) = (L.array n).bytes xs := by
  show M.bytesAll (xs.map f).toList = L.bytesAll xs.toList
  rw [Vector.toList_map, bytesAll_map f h]

/-- Objects with the same images one by one have the same image as a whole. -/
theorem bytes_array_congr {L M : Layout T} (h : ∀ x, M.bytes x = L.bytes x) {n : Nat}
    (xs : Vector T n) : (M.array n).bytes xs = (L.array n).bytes xs := by
  have hmap := bytes_array_map id h xs
  rwa [Vector.map_id] at hmap

end Layout

end Cuse2Net.Lib

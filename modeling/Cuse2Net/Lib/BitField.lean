import Mathlib.Data.BitVec
import Mathlib.Data.List.Forall2

/-!
# Bit fields of a word

A field is a range of bits of a word. `Field.place` puts a value into the range and `Field.extract`
reads it. Fields that are stacked on each other from bit `p` to bit `q` do not meet, so the bitwise
or of their values holds each of them (`map_extract_pack`), and a word is, between `p` and `q`, the
bitwise or of what its fields hold (`pack_map_extract`).

Everything is argued bit by bit, through `getLsbD_place`, `getLsbD_extract` and `getLsbD_pack`.
-/

set_option autoImplicit false

namespace Cuse2Net.Lib

/-- A field of `bits` bits at bit position `pos`. -/
structure Field where
  pos : Nat
  bits : Nat
  deriving DecidableEq

variable {w : Nat}

/-- The word with the lowest `n` bits set. -/
def lowMask (w n : Nat) : BitVec w := (1#w <<< n) - 1#w

theorem toNat_one_shiftLeft {n : Nat} (hn : n < w) : (1#w <<< n).toNat = 2 ^ n := by
  rw [BitVec.toNat_shiftLeft, BitVec.toNat_ofNat, Nat.mod_eq_of_lt (Nat.one_lt_two_pow (by omega)),
    Nat.one_shiftLeft, Nat.mod_eq_of_lt (Nat.pow_lt_pow_right (by decide) hn)]

theorem getLsbD_lowMask {n : Nat} (hn : n < w) (i : Nat) :
    (lowMask w n).getLsbD i = decide (i < n) := by
  have hone := toNat_one_shiftLeft hn
  have hmask : (lowMask w n).toNat = 2 ^ n - 1 := by
    have hle : 1#w ≤ 1#w <<< n := by
      rw [BitVec.le_def, hone, BitVec.toNat_ofNat]
      exact Nat.le_trans (Nat.mod_le _ _) Nat.one_le_two_pow
    rw [lowMask, BitVec.toNat_sub_of_le hle, hone, BitVec.toNat_ofNat,
      Nat.mod_eq_of_lt (Nat.one_lt_two_pow (by omega))]
  rw [← BitVec.testBit_toNat, hmask, Nat.testBit_two_pow_sub_one]

namespace Field

/-- Put a value into the field. -/
def place (f : Field) (v : BitVec w) : BitVec w := v <<< f.pos

/-- The value of the field. -/
def extract (f : Field) (u : BitVec w) : BitVec w := (u >>> f.pos) &&& lowMask w f.bits

/-- A value that the field can hold. -/
def Holds (f : Field) (v : BitVec w) : Prop := v.toNat < 2 ^ f.bits

theorem getLsbD_place (f : Field) (v : BitVec w) (i : Nat) :
    (f.place v).getLsbD i = (decide (i < w) && decide (f.pos ≤ i) && v.getLsbD (i - f.pos)) := by
  rw [place, BitVec.getLsbD_shiftLeft]
  by_cases hi : f.pos ≤ i
  · simp [hi, Nat.not_lt.2 hi]
  · simp [hi, Nat.lt_of_not_le hi]

theorem getLsbD_extract {f : Field} (hbits : f.bits < w) (u : BitVec w) (i : Nat) :
    (f.extract u).getLsbD i = (decide (i < f.bits) && u.getLsbD (f.pos + i)) := by
  rw [extract, BitVec.getLsbD_and, BitVec.getLsbD_ushiftRight, getLsbD_lowMask hbits, Bool.and_comm]

theorem Holds.getLsbD {f : Field} {v : BitVec w} (h : f.Holds v) {i : Nat} (hi : f.bits ≤ i) :
    v.getLsbD i = false := by
  rw [← BitVec.testBit_toNat]
  exact Nat.testBit_lt_two_pow (Nat.lt_of_lt_of_le h (Nat.pow_le_pow_right (by decide) hi))

theorem holds_extract {f : Field} (hbits : f.bits < w) (u : BitVec w) : f.Holds (f.extract u) := by
  apply Nat.lt_pow_two_of_testBit
  intro i hi
  rw [BitVec.testBit_toNat, getLsbD_extract hbits, decide_eq_false (Nat.not_lt.2 hi), Bool.false_and]

/-- A value that is put into its field keeps all its bits. -/
theorem toNat_place {f : Field} (hw : f.pos + f.bits ≤ w) {v : BitVec w} (h : f.Holds v) :
    (f.place v).toNat = v.toNat * 2 ^ f.pos := by
  have hlt : v.toNat * 2 ^ f.pos < 2 ^ w :=
    calc v.toNat * 2 ^ f.pos < 2 ^ f.bits * 2 ^ f.pos :=
          Nat.mul_lt_mul_of_pos_right h (Nat.two_pow_pos _)
      _ = 2 ^ (f.pos + f.bits) := by rw [← Nat.pow_add, Nat.add_comm]
      _ ≤ 2 ^ w := Nat.pow_le_pow_right (by decide) hw
  rw [place, BitVec.toNat_shiftLeft, Nat.shiftLeft_eq, Nat.mod_eq_of_lt hlt]

end Field

/-! ## Stacked fields -/

/-- Fields that fill the bits from `p` to `q` without a gap, the lowest one first. -/
def Stacked (w : Nat) : Nat → List Field → Nat → Prop
  | p, [], q => p = q
  | p, f :: fs, q => f.pos = p ∧ f.bits < w ∧ Stacked w (p + f.bits) fs q

/-- The bitwise or of the values, each in its field. -/
def pack (fs : List Field) (vs : List (BitVec w)) : BitVec w :=
  (List.zipWith Field.place fs vs).foldr (· ||| ·) 0

theorem Stacked.le {p q : Nat} {fs : List Field} (h : Stacked w p fs q) : p ≤ q := by
  induction fs generalizing p with
  | nil => exact Nat.le_of_eq h
  | cons f fs ih => exact Nat.le_trans (Nat.le_add_right p f.bits) (ih h.2.2)

/-- Stacked fields leave the bits below them alone. -/
theorem getLsbD_pack {p q : Nat} {fs : List Field} {vs : List (BitVec w)} (h : Stacked w p fs q)
    {i : Nat} (hi : i < p) : (pack fs vs).getLsbD i = false := by
  induction fs generalizing p vs with
  | nil => exact BitVec.getLsbD_zero
  | cons f fs ih =>
      obtain ⟨rfl, -, hrest⟩ := h
      cases vs with
      | nil => exact BitVec.getLsbD_zero
      | cons v vs =>
          show (f.place v ||| pack fs vs).getLsbD i = false
          rw [BitVec.getLsbD_or, ih hrest (Nat.lt_of_lt_of_le hi (Nat.le_add_right _ _)),
            Field.getLsbD_place, decide_eq_false (Nat.not_le.2 hi)]
          simp

/-- A word that holds `v` in the field and anything in other places. -/
theorem Field.extract_eq {f : Field} (hbits : f.bits < w) {u v : BitVec w} (hv : f.Holds v)
    (h : ∀ i < f.bits, u.getLsbD (f.pos + i) = v.getLsbD i) : f.extract u = v := by
  apply BitVec.eq_of_getLsbD_eq
  intro i _
  rw [getLsbD_extract hbits]
  by_cases hi : i < f.bits
  · rw [decide_eq_true hi, Bool.true_and, h i hi]
  · rw [decide_eq_false hi, Bool.false_and, hv.getLsbD (Nat.le_of_not_lt hi)]

/-- **Packed values are read back**, also from a word that has other bits below the fields. -/
theorem map_extract_pack {p q : Nat} {fs : List Field} {vs : List (BitVec w)}
    (h : Stacked w p fs q) (hq : q ≤ w) (hvs : List.Forall₂ Field.Holds fs vs) (low : BitVec w)
    (hlow : ∀ i, p ≤ i → low.getLsbD i = false) :
    fs.map (fun f => f.extract (low ||| pack fs vs)) = vs := by
  -- on the fields; the lowest field joins the bits below the others
  induction hvs generalizing p low with
  | nil => rfl
  | @cons f v fs vs hv hvs ih =>
      obtain ⟨rfl, hbits, hrest⟩ := h
      have htop := hrest.le
      have hpack : low ||| pack (f :: fs) (v :: vs) = (low ||| f.place v) ||| pack fs vs := by
        rw [BitVec.or_assoc]
        rfl
      have hlow' : ∀ i, f.pos + f.bits ≤ i → (low ||| f.place v).getLsbD i = false := by
        intro i hi
        rw [BitVec.getLsbD_or, hlow i (by omega), Field.getLsbD_place,
          hv.getLsbD (show f.bits ≤ i - f.pos by omega)]
        simp
      have hfirst : f.extract (low ||| pack (f :: fs) (v :: vs)) = v := by
        apply Field.extract_eq hbits hv
        intro i hi
        rw [hpack, BitVec.getLsbD_or, BitVec.getLsbD_or, getLsbD_pack hrest (by omega),
          hlow _ (Nat.le_add_right _ _), Field.getLsbD_place, Nat.add_sub_cancel_left,
          decide_eq_true (show f.pos + i < w by omega), decide_eq_true (Nat.le_add_right _ _)]
        simp
      rw [List.map_cons, hfirst, hpack, ih hrest _ hlow']

/-- **A word is made of what its fields hold.** -/
theorem pack_map_extract {p q : Nat} {fs : List Field} (h : Stacked w p fs q) (hq : q ≤ w)
    (u : BitVec w) (i : Nat) :
    (pack fs (fs.map fun f => f.extract u)).getLsbD i =
      (decide (p ≤ i) && decide (i < q) && u.getLsbD i) := by
  induction fs generalizing p with
  | nil =>
      obtain rfl : p = q := h
      show (0#w).getLsbD i = _
      rw [BitVec.getLsbD_zero]
      by_cases hi : p ≤ i
      · simp [Nat.not_lt.2 hi]
      · simp [hi]
  | cons f fs ih =>
      obtain ⟨rfl, hbits, hrest⟩ := h
      have htop := hrest.le
      show (f.place (f.extract u) ||| pack fs _).getLsbD i = _
      rw [BitVec.getLsbD_or, ih hrest, Field.getLsbD_place, Field.getLsbD_extract hbits]
      -- below the field, in it, or above it
      by_cases hi : f.pos ≤ i
      · by_cases hin : i < f.pos + f.bits
        · rw [Nat.add_sub_cancel' hi, decide_eq_true (show i < w by omega),
            decide_eq_true (show i - f.pos < f.bits by omega),
            decide_eq_true (show i < q by omega), decide_eq_false (Nat.not_le.2 hin)]
          simp
        · rw [decide_eq_false (show ¬i - f.pos < f.bits by omega),
            decide_eq_true (Nat.le_of_not_lt hin), decide_eq_true hi]
          simp
      · rw [decide_eq_false hi, decide_eq_false (show ¬f.pos + f.bits ≤ i by omega)]
        simp

end Cuse2Net.Lib

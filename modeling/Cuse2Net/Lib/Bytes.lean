import Mathlib.Data.Nat.Basic
import Mathlib.Data.Nat.ModEq
import Mathlib.Tactic.Ring

/-!
# Machine words as bytes

A machine word `v : BitVec w` occupies `w / 8` bytes of memory. `leBytes` lists them least
significant first, `neBytes e` in the native order of a host with byte order `e`. `toBe e` is the
conversion between native and big-endian words on such a host: the identity on a big-endian host, a
byte swap on a little-endian one.

Both directions are inverse on whole-byte widths (`ofNeBytes_neBytes`, `neBytes_ofNeBytes`), `toBe`
is an involution (`toBe_toBe`), and the memory image of a converted word does not depend on the host
(`neBytes_toBe`).
-/

set_option autoImplicit false

namespace Cuse2Net.Lib.Bytes

/-- Byte order of a host. -/
inductive Endian where
  | little
  | big
  deriving DecidableEq, Repr

/-- The `n` low-order bytes of a natural number, least significant first. -/
def natBytes : Nat → Nat → List UInt8
  | 0, _ => []
  | n + 1, v => UInt8.ofNat v :: natBytes n (v / 256)

/-- The natural number whose bytes are given least significant first. -/
def ofNatBytes : List UInt8 → Nat
  | [] => 0
  | b :: bs => b.toNat + 256 * ofNatBytes bs

@[simp] theorem length_natBytes (n v : Nat) : (natBytes n v).length = n := by
  induction n generalizing v with
  | zero => rfl
  | succ n ih => rw [natBytes, List.length_cons, ih]

theorem ofNatBytes_lt (bs : List UInt8) : ofNatBytes bs < 256 ^ bs.length := by
  induction bs with
  | nil => exact Nat.one_pos
  | cons b bs ih =>
      have hb := b.toNat_lt
      have hpow : 256 ^ (bs.length + 1) = 256 * 256 ^ bs.length := by ring
      rw [ofNatBytes, List.length_cons, hpow]
      omega

theorem ofNatBytes_natBytes {n v : Nat} (h : v < 256 ^ n) : ofNatBytes (natBytes n v) = v := by
  induction n generalizing v with
  | zero =>
      rw [pow_zero, Nat.lt_one_iff] at h
      exact h.symm
  | succ n ih =>
      have hpow : 256 ^ (n + 1) = 256 * 256 ^ n := by ring
      rw [hpow] at h
      have hdiv : v / 256 < 256 ^ n := Nat.div_lt_of_lt_mul h
      have hbyte : (UInt8.ofNat v).toNat = v % 256 := by simp
      rw [natBytes, ofNatBytes, ih hdiv, hbyte]
      omega

theorem natBytes_ofNatBytes (bs : List UInt8) : natBytes bs.length (ofNatBytes bs) = bs := by
  induction bs with
  | nil => rfl
  | cons b bs ih =>
      have hb := b.toNat_lt
      -- the first byte is the remainder by 256, the others are the quotient
      have hdiv : (b.toNat + 256 * ofNatBytes bs) / 256 = ofNatBytes bs := by omega
      have hlow : UInt8.ofNat (b.toNat + 256 * ofNatBytes bs) = b := by
        apply UInt8.toNat_inj.1
        rw [UInt8.toNat_ofNat']
        omega
      rw [List.length_cons, natBytes, ofNatBytes, hdiv, hlow, ih]

/-! ## Words -/

theorem byteWidth_8 : 8 ∣ 8 := ⟨1, rfl⟩
theorem byteWidth_16 : 8 ∣ 16 := ⟨2, rfl⟩
theorem byteWidth_32 : 8 ∣ 32 := ⟨4, rfl⟩
theorem byteWidth_64 : 8 ∣ 64 := ⟨8, rfl⟩

/-- The bytes of a word, least significant first. -/
def leBytes {w : Nat} (v : BitVec w) : List UInt8 := natBytes (w / 8) v.toNat

/-- The word whose bytes are given least significant first. -/
def ofLeBytes (w : Nat) (bs : List UInt8) : BitVec w := BitVec.ofNat w (ofNatBytes bs)

/-- The bytes of a word in the memory of a host with byte order `e`. -/
def neBytes {w : Nat} (e : Endian) (v : BitVec w) : List UInt8 :=
  match e with
  | .little => leBytes v
  | .big => (leBytes v).reverse

/-- The word a host with byte order `e` reads from memory. -/
def ofNeBytes (w : Nat) (e : Endian) (bs : List UInt8) : BitVec w :=
  match e with
  | .little => ofLeBytes w bs
  | .big => ofLeBytes w bs.reverse

/-- The word with its bytes in the opposite order. -/
def swapBytes {w : Nat} (v : BitVec w) : BitVec w := ofLeBytes w (leBytes v).reverse

/-- Conversion between native and big-endian words on a host with byte order `e`. -/
def toBe {w : Nat} (e : Endian) (v : BitVec w) : BitVec w :=
  match e with
  | .little => swapBytes v
  | .big => v

@[simp] theorem length_leBytes {w : Nat} (v : BitVec w) : (leBytes v).length = w / 8 := by
  rw [leBytes, length_natBytes]

@[simp] theorem length_neBytes {w : Nat} (e : Endian) (v : BitVec w) :
    (neBytes e v).length = w / 8 := by
  cases e with
  | little => exact length_leBytes v
  | big => rw [neBytes, List.length_reverse, length_leBytes]

/-- A single byte has no byte order. -/
theorem neBytes_byte (e e' : Endian) (v : BitVec 8) : neBytes e v = neBytes e' v := by
  cases e <;> cases e' <;> rfl

theorem two_pow_eq_byte_pow {w : Nat} (hw : 8 ∣ w) : 2 ^ w = 256 ^ (w / 8) := by
  obtain ⟨n, rfl⟩ := hw
  have hbyte : (2 : Nat) ^ 8 = 256 := rfl
  rw [Nat.mul_div_cancel_left n (by decide), pow_mul, hbyte]

theorem ofLeBytes_leBytes {w : Nat} (hw : 8 ∣ w) (v : BitVec w) :
    ofLeBytes w (leBytes v) = v := by
  have hv : v.toNat < 256 ^ (w / 8) := by
    rw [← two_pow_eq_byte_pow hw]
    exact v.isLt
  rw [ofLeBytes, leBytes, ofNatBytes_natBytes hv, BitVec.ofNat_toNat, BitVec.setWidth_eq]

theorem leBytes_ofLeBytes {w : Nat} {bs : List UInt8} (h : 8 * bs.length = w) :
    leBytes (ofLeBytes w bs) = bs := by
  have hw : 8 ∣ w := ⟨bs.length, h.symm⟩
  have hlen : w / 8 = bs.length := by omega
  have hlt : ofNatBytes bs < 2 ^ w := by
    rw [two_pow_eq_byte_pow hw, hlen]
    exact ofNatBytes_lt bs
  rw [leBytes, ofLeBytes, BitVec.toNat_ofNat, Nat.mod_eq_of_lt hlt, hlen, natBytes_ofNatBytes]

/-- **Reading back a stored word.** -/
theorem ofNeBytes_neBytes {w : Nat} (hw : 8 ∣ w) (e : Endian) (v : BitVec w) :
    ofNeBytes w e (neBytes e v) = v := by
  cases e with
  | little => exact ofLeBytes_leBytes hw v
  | big => rw [neBytes, ofNeBytes, List.reverse_reverse, ofLeBytes_leBytes hw]

/-- **Storing a word that was read.** -/
theorem neBytes_ofNeBytes {w : Nat} (e : Endian) {bs : List UInt8} (h : 8 * bs.length = w) :
    neBytes e (ofNeBytes w e bs) = bs := by
  cases e with
  | little => exact leBytes_ofLeBytes h
  | big =>
      have hrev : 8 * bs.reverse.length = w := by rw [List.length_reverse, h]
      rw [ofNeBytes, neBytes, leBytes_ofLeBytes hrev, List.reverse_reverse]

theorem leBytes_swapBytes {w : Nat} (hw : 8 ∣ w) (v : BitVec w) :
    leBytes (swapBytes v) = (leBytes v).reverse := by
  apply leBytes_ofLeBytes
  rw [List.length_reverse, length_leBytes]
  omega

theorem swapBytes_swapBytes {w : Nat} (hw : 8 ∣ w) (v : BitVec w) :
    swapBytes (swapBytes v) = v := by
  rw [swapBytes, leBytes_swapBytes hw, List.reverse_reverse, ofLeBytes_leBytes hw]

/-- Converting twice gives the native word back. -/
theorem toBe_toBe {w : Nat} (hw : 8 ∣ w) (e : Endian) (v : BitVec w) : toBe e (toBe e v) = v := by
  cases e with
  | little => exact swapBytes_swapBytes hw v
  | big => rfl

/-- **A converted word has the same memory image on every host.** -/
theorem neBytes_toBe {w : Nat} (hw : 8 ∣ w) (e : Endian) (v : BitVec w) :
    neBytes e (toBe e v) = (leBytes v).reverse := by
  cases e with
  | little => exact leBytes_swapBytes hw v
  | big => rfl

end Cuse2Net.Lib.Bytes

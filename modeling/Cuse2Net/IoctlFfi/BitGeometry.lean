import Cuse2Net.IoctlFfi.Number
import Cuse2Net.Lib.BitField

/-!
# Layouts of bit fields

`BitGeo::new(w0).next(w1)…next(wk)` lays fields of the given widths into a word, from the lowest bit
upwards. `BitGeo.chain` is this chain of calls; it has a value when no assertion of the calls fires.
The fields of a chain are stacked from bit 0 to the sum of the widths (`chain_stacked`), which is
what the general facts about bit fields ask for. The command numbers are the layout `8, 8, 14, 2`.
-/

set_option autoImplicit false

namespace Cuse2Net.IoctlFfi

open Cuse2Net.Lib

namespace BitGeo

/-- `self.next(w1)…next(wk)`: every field of the chain. -/
def nexts (g : BitGeo) : List Nat → Option (List BitGeo)
  | [] => some []
  | w :: ws => do
    let g' ← g.next w
    let gs ← g'.nexts ws
    return g' :: gs

/-- `BitGeo::new(w0).next(w1)…next(wk)`: every field of the chain. -/
def chain (w0 : Nat) (ws : List Nat) : Option (List BitGeo) := do
  let g ← new w0
  let gs ← g.nexts ws
  return g :: gs

/-- The bitwise or of all `encode(v_i)`. -/
def encodeFields : List BitGeo → List (BitVec 32) → Option (BitVec 32)
  | g :: gs, v :: vs => do
    let e ← g.encode v
    let rest ← encodeFields gs vs
    return e ||| rest
  | _, _ => some 0

/-- The bits that a field takes. -/
def field (g : BitGeo) : Field := ⟨g.pos, g.bits⟩

/-- `encode` passes its assertion on a value below `2 ^ bits`. -/
theorem encode_eq {g : BitGeo} (hbits : g.bits < 32) {v : BitVec 32} (hv : v.toNat < 2 ^ g.bits) :
    g.encode v = some (g.field.place v) := by
  have hlt : v < 1#32 <<< g.bits := by
    rw [BitVec.lt_def, toNat_one_shiftLeft hbits]
    exact hv
  rw [encode, if_pos hlt]
  rfl

theorem encodeFields_eq {gs : List BitGeo} {vs : List (BitVec 32)}
    (hbits : ∀ g ∈ gs, g.bits < 32)
    (hvs : List.Forall₂ (fun g v => v.toNat < 2 ^ g.bits) gs vs) :
    encodeFields gs vs = some (pack (gs.map field) vs) := by
  induction hvs with
  | nil => rfl
  | @cons g v gs vs hv _ ih =>
      have hrest := ih fun g' hg' => hbits g' (List.mem_cons_of_mem g hg')
      rw [encodeFields, encode_eq (hbits g List.mem_cons_self) hv, hrest]
      rfl

/-- A call of `next` whose assertions hold. -/
theorem next_eq_some {g g' : BitGeo} {w : Nat} (h : g.next w = some g') :
    g' = ⟨w, g.pos + g.bits⟩ ∧ w ≤ 31 ∧ g.pos + g.bits + w ≤ 32 := by
  unfold next at h
  split at h
  case isTrue hfit => exact ⟨(Option.some.inj h).symm, hfit⟩
  case isFalse => cases h

/-- The fields above `g` are stacked on it. -/
theorem nexts_stacked {g : BitGeo} {ws : List Nat} {gs : List BitGeo}
    (hg : g.pos + g.bits ≤ 32) (h : g.nexts ws = some gs) :
    gs.map bits = ws ∧ Stacked 32 (g.pos + g.bits) (gs.map field) (g.pos + g.bits + ws.sum) ∧
      g.pos + g.bits + ws.sum ≤ 32 := by
  induction ws generalizing g gs with
  | nil =>
      cases h
      exact ⟨rfl, rfl, hg⟩
  | cons w ws ih =>
      obtain ⟨g', hnext, h⟩ := Option.bind_eq_some_iff.1 h
      obtain ⟨gs', hrest, h⟩ := Option.bind_eq_some_iff.1 h
      cases h
      obtain ⟨rfl, hw, htop⟩ := next_eq_some hnext
      obtain ⟨hwidths, hstacked, hle⟩ := ih htop hrest
      rw [List.sum_cons, ← Nat.add_assoc]
      refine ⟨?_, ⟨rfl, Nat.lt_succ_of_le hw, hstacked⟩, hle⟩
      rw [List.map_cons, hwidths]

/-- **A chain stacks its fields from bit 0 to the sum of its widths.** -/
theorem chain_stacked {w0 : Nat} {ws : List Nat} {gs : List BitGeo} (h : chain w0 ws = some gs) :
    gs.map bits = w0 :: ws ∧ Stacked 32 0 (gs.map field) (w0 :: ws).sum ∧ (w0 :: ws).sum ≤ 32 := by
  obtain ⟨g, hnew, h⟩ := Option.bind_eq_some_iff.1 h
  obtain ⟨gs', hrest, h⟩ := Option.bind_eq_some_iff.1 h
  cases h
  unfold new at hnew
  split at hnew
  case isFalse => cases hnew
  case isTrue hw =>
      cases hnew
      obtain ⟨hwidths, hstacked, hle⟩ := nexts_stacked (Nat.le_trans (by simpa using hw) (by decide)) hrest
      rw [Nat.zero_add] at hstacked hle
      refine ⟨?_, ⟨rfl, Nat.lt_succ_of_le hw, ?_⟩, ?_⟩
      · rw [List.map_cons, hwidths]
      · rw [Nat.zero_add]
        exact hstacked
      · exact hle

/-- Where the fields of a stack lie. -/
theorem stacked_bounds {p q : Nat} {gs : List BitGeo} (h : Stacked 32 p (gs.map field) q) :
    ∀ g ∈ gs, g.bits < 32 ∧ g.pos + g.bits ≤ q := by
  induction gs generalizing p with
  | nil =>
      intro g hg
      cases hg
  | cons g gs ih =>
      obtain ⟨rfl, hbits, hrest⟩ := h
      intro g' hg'
      rcases List.mem_cons.1 hg' with rfl | hg'
      · exact ⟨hbits, hrest.le⟩
      · exact ih hrest g' hg'

/-- The fields of a chain of non-empty fields stay below bit 32. All sums of the `u8` positions in
`next` are at most 32 + 31, and all shift amounts are at most 31. -/
theorem chain_bounds {w0 : Nat} {ws : List Nat} {gs : List BitGeo} (hpos : ∀ w ∈ w0 :: ws, 1 ≤ w)
    (h : chain w0 ws = some gs) : ∀ g ∈ gs, g.bits < 32 ∧ g.pos < 32 ∧ g.pos + g.bits ≤ 32 := by
  obtain ⟨hwidths, hstacked, hle⟩ := chain_stacked h
  intro g hg
  obtain ⟨hbits, htop⟩ := stacked_bounds hstacked g hg
  have hone : 1 ≤ g.bits := by
    apply hpos
    rw [← hwidths]
    exact List.mem_map_of_mem hg
  exact ⟨hbits, by omega, by omega⟩

/-- No bit of a value is shifted out. -/
theorem encode_toNat {g : BitGeo} (hbits : g.bits < 32) (htop : g.pos + g.bits ≤ 32) {v : BitVec 32}
    (hv : v.toNat < 2 ^ g.bits) : ∃ e, g.encode v = some e ∧ e.toNat = v.toNat * 2 ^ g.pos :=
  ⟨_, encode_eq hbits hv, Field.toNat_place (f := g.field) htop hv⟩

/-- Decoding reads back what was encoded, field by field. -/
theorem decode_encodeFields {w0 : Nat} {ws : List Nat} {gs : List BitGeo}
    (h : chain w0 ws = some gs) {vs : List (BitVec 32)}
    (hvs : List.Forall₂ (fun g v => v.toNat < 2 ^ g.bits) gs vs) :
    ∃ u, encodeFields gs vs = some u ∧ gs.map (fun g => g.decode u) = vs := by
  obtain ⟨-, hstacked, hle⟩ := chain_stacked h
  have hbits : ∀ g ∈ gs, g.bits < 32 := fun g hg => (stacked_bounds hstacked g hg).1
  refine ⟨_, encodeFields_eq hbits hvs, ?_⟩
  have hholds : List.Forall₂ Field.Holds (gs.map field) vs := List.forall₂_map_left_iff.2 hvs
  have hread := map_extract_pack hstacked hle hholds 0#32 fun i _ => BitVec.getLsbD_zero
  rw [BitVec.zero_or, List.map_map] at hread
  exact hread

/-- A word is the bitwise or of its encoded fields when these fill it. -/
theorem encodeFields_decode {w0 : Nat} {ws : List Nat} {gs : List BitGeo}
    (h : chain w0 ws = some gs) (hsum : (w0 :: ws).sum = 32) (u : BitVec 32) :
    encodeFields gs (gs.map fun g => g.decode u) = some u := by
  obtain ⟨-, hstacked, hle⟩ := chain_stacked h
  have hbits : ∀ g ∈ gs, g.bits < 32 := fun g hg => (stacked_bounds hstacked g hg).1
  have hholds : List.Forall₂ (fun g v => v.toNat < 2 ^ g.bits) gs (gs.map fun g => g.decode u) := by
    rw [List.forall₂_map_right_iff, List.forall₂_same]
    exact fun g hg => Field.holds_extract (f := g.field) (hbits g hg) u
  rw [encodeFields_eq hbits hholds]
  have hpack : pack (gs.map field) (gs.map fun g => g.decode u) = u := by
    apply BitVec.eq_of_getLsbD_eq
    intro i hi
    have hbit := pack_map_extract hstacked hle u i
    rw [List.map_map, hsum, decide_eq_true hi, decide_eq_true (Nat.zero_le i)] at hbit
    exact hbit
  rw [hpack]

end BitGeo

/-! ## Command numbers -/

namespace Ioctl

/-- The direction that `is_read` and `is_write` tell. -/
def direction (read write : Bool) : BitVec 32 :=
  (if read then DIR_READ else DIR_NONE) ||| (if write then DIR_WRITE else DIR_NONE)

theorem chain_command : BitGeo.chain 8 [8, 14, 2] = some [NR, TYPE, SIZE, DIR] := by decide

/-- `IOC` encodes the fields of the layout, in another order. -/
theorem IOC_eq (dir : BitVec 32) (tp : BitVec 8) (nr : BitVec 32) (sz : Nat) :
    IOC dir tp nr sz =
      (BitGeo.encodeFields [NR, TYPE, SIZE, DIR]
        [nr, tp.setWidth 32, BitVec.ofNat 32 sz, dir]).map Ioctl.mk := by
  unfold IOC
  simp only [BitGeo.encodeFields]
  cases DIR.encode dir <;> cases TYPE.encode (tp.setWidth 32) <;> cases NR.encode nr <;>
    cases SIZE.encode (BitVec.ofNat 32 sz) <;> try rfl
  case some.some.some.some d t n s =>
    show some (Ioctl.mk (d ||| t ||| n ||| s)) = some (Ioctl.mk (n ||| (t ||| (s ||| (d ||| 0#32)))))
    rw [BitVec.or_zero]
    congr 2
    ac_rfl

/-- The direction field is the two answers of `is_read` and `is_write`. -/
theorem direction_of_decode (cmd : Ioctl) :
    direction cmd.isRead cmd.isWrite = DIR.decode cmd.num := by
  have hlt : (DIR.decode cmd.num).toNat < 4 := Field.holds_extract (f := DIR.field) (by decide) _
  unfold direction isRead isWrite
  generalize DIR.decode cmd.num = d at hlt
  obtain ⟨n, rfl⟩ : ∃ n : Fin 4, d = BitVec.ofNat 32 n :=
    ⟨⟨d.toNat, hlt⟩, (BitVec.ofNat_toNat 32 d).symm ▸ by simp⟩
  revert n
  decide

/-- The four values of `IOC` fit their fields. -/
theorem fields_fit (read write : Bool) (tp : BitVec 8) {nr : BitVec 32} {sz : Nat}
    (hnr : nr.toNat < 2 ^ NR.bits) (hsz : sz < 2 ^ SIZE.bits) :
    List.Forall₂ (fun (g : BitGeo) (v : BitVec 32) => v.toNat < 2 ^ g.bits) [NR, TYPE, SIZE, DIR]
      [nr, tp.setWidth 32, BitVec.ofNat 32 sz, direction read write] := by
  have htp : (tp.setWidth 32).toNat < 2 ^ TYPE.bits := by
    rw [BitVec.toNat_setWidth_of_le (by decide)]
    exact tp.isLt
  have hsz' : (BitVec.ofNat 32 sz).toNat < 2 ^ SIZE.bits :=
    Nat.lt_of_le_of_lt (Nat.mod_le _ _) hsz
  have hdir : (direction read write).toNat < 2 ^ DIR.bits := by
    cases read <;> cases write <;> decide
  exact .cons hnr (.cons htp (.cons hsz' (.cons hdir .nil)))

/-- The getters read what `IOC` was given. -/
theorem getters_IOC (read write : Bool) (tp : BitVec 8) {nr : BitVec 32} {sz : Nat}
    (hnr : nr.toNat < 2 ^ NR.bits) (hsz : sz < 2 ^ SIZE.bits) :
    ∃ cmd, IOC (direction read write) tp nr sz = some cmd ∧ cmd.isRead = read ∧
      cmd.isWrite = write ∧ cmd.getType = tp ∧ cmd.getNr = nr ∧ cmd.getSize = sz := by
  obtain ⟨u, hu, hread⟩ :=
    BitGeo.decode_encodeFields chain_command (fields_fit read write tp hnr hsz)
  obtain ⟨hn, ht, hs, hd⟩ : NR.decode u = nr ∧ TYPE.decode u = tp.setWidth 32 ∧
      SIZE.decode u = BitVec.ofNat 32 sz ∧ DIR.decode u = direction read write := by
    simpa using hread
  refine ⟨⟨u⟩, ?_, ?_, ?_, ?_, hn, ?_⟩
  · rw [IOC_eq, hu]
    rfl
  · rw [isRead, hd]
    cases read <;> cases write <;> decide
  · rw [isWrite, hd]
    cases read <;> cases write <;> decide
  · rw [getType, ht]
    simp
  · rw [getSize, hs, BitVec.toNat_ofNat]
    exact Nat.mod_eq_of_lt (Nat.lt_trans hsz (by decide))

/-- `IOC` makes a command from what the getters read in it. -/
theorem IOC_getters (cmd : Ioctl) :
    IOC (direction cmd.isRead cmd.isWrite) cmd.getType cmd.getNr cmd.getSize = some cmd := by
  have htype : cmd.getType.setWidth 32 = TYPE.decode cmd.num := by
    have hlt := Field.holds_extract (f := TYPE.field) (by decide) cmd.num
    apply BitVec.eq_of_toNat_eq
    rw [BitVec.toNat_setWidth_of_le (by decide), getType, BitVec.toNat_setWidth]
    exact Nat.mod_eq_of_lt hlt
  have hsize : BitVec.ofNat 32 cmd.getSize = SIZE.decode cmd.num := by
    rw [getSize, BitVec.ofNat_toNat, BitVec.setWidth_eq]
  have hfields := BitGeo.encodeFields_decode chain_command rfl cmd.num
  rw [IOC_eq, direction_of_decode, htype, hsize]
  exact congrArg (Option.map Ioctl.mk) hfields

end Ioctl

/-! ## Layouts are faithful -/

/-- **Layouts of bit fields are faithful.** Whatever chain of non-empty fields passes the assertions,
values that fit their fields are encoded without losing a bit and decoded unchanged, and fields that
fill the word describe it completely. So `IOC` and the getters of a command number are inverse to
each other. -/
theorem bit_layouts_faithful :
    (∀ (w0 : Nat) (ws : List Nat) (gs : List BitGeo),
      (∀ w ∈ w0 :: ws, 1 ≤ w) → BitGeo.chain w0 ws = some gs →
        gs.map BitGeo.bits = w0 :: ws ∧
        (∀ g ∈ gs, g.bits < 32 ∧ g.pos < 32 ∧ g.pos + g.bits ≤ 32) ∧
        (∀ vs : List (BitVec 32), List.Forall₂ (fun g v => v.toNat < 2 ^ g.bits) gs vs →
          List.Forall₂ (fun g v => ∃ e, g.encode v = some e ∧ e.toNat = v.toNat * 2 ^ g.pos) gs vs ∧
          ∃ u, BitGeo.encodeFields gs vs = some u ∧ gs.map (fun g => g.decode u) = vs) ∧
        ((w0 :: ws).sum = 32 → ∀ u : BitVec 32,
          BitGeo.encodeFields gs (gs.map fun g => g.decode u) = some u)) ∧
      (∀ (read write : Bool) (tp : BitVec 8) (nr : BitVec 32) (sz : Nat),
        nr.toNat < 2 ^ Ioctl.NR.bits → sz < 2 ^ Ioctl.SIZE.bits →
          ∃ cmd, Ioctl.IOC (Ioctl.direction read write) tp nr sz = some cmd ∧
            cmd.isRead = read ∧ cmd.isWrite = write ∧ cmd.getType = tp ∧ cmd.getNr = nr ∧
              cmd.getSize = sz) ∧
      ∀ cmd : Ioctl,
        Ioctl.IOC (Ioctl.direction cmd.isRead cmd.isWrite) cmd.getType cmd.getNr cmd.getSize =
          some cmd := by
  refine ⟨?_, ?_, ?_⟩
  · intro w0 ws gs hpos hchain
    have hbounds := BitGeo.chain_bounds hpos hchain
    refine ⟨(BitGeo.chain_stacked hchain).1, hbounds, ?_, BitGeo.encodeFields_decode hchain⟩
    intro vs hvs
    refine ⟨?_, BitGeo.decode_encodeFields hchain hvs⟩
    have hmem := (List.forall₂_and_left gs vs).2 ⟨hbounds, hvs⟩
    exact hmem.imp fun g v ⟨hg, hv⟩ => BitGeo.encode_toNat hg.1 hg.2.2 hv
  · intro read write tp nr sz hnr hsz
    exact Ioctl.getters_IOC read write tp hnr hsz
  · exact Ioctl.IOC_getters

/-- The layout of the command numbers is one of these, and it fills the word. -/
theorem bit_layouts_faithful_command :
    (∀ w ∈ [8, 8, 14, 2], 1 ≤ w) ∧
      BitGeo.chain 8 [8, 14, 2] = some [Ioctl.NR, Ioctl.TYPE, Ioctl.SIZE, Ioctl.DIR] ∧
      ∀ u : BitVec 32,
        BitGeo.encodeFields [Ioctl.NR, Ioctl.TYPE, Ioctl.SIZE, Ioctl.DIR]
          ([Ioctl.NR, Ioctl.TYPE, Ioctl.SIZE, Ioctl.DIR].map fun g => g.decode u) = some u :=
  ⟨by decide, by decide,
    (bit_layouts_faithful.1 8 [8, 14, 2] _ (by decide) (by decide)).2.2.2 rfl⟩

end Cuse2Net.IoctlFfi

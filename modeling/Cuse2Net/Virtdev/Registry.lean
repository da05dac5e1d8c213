import Cuse2Net.Lib.Transition
import Mathlib.Data.List.AList
import Mathlib.Tactic.Ring

/-!
# The registry of open devices

Model of `DeviceRegistry` in `virtdev/registry.rs` with the dispatcher that calls it. For an open
request the dispatcher makes a handle, puts an `Opening` entry into the map and starts an open thread;
the thread connects to the server, replies to the kernel with the handle and then turns the entry into
a `Running` one, or removes it and replies with an error. Every section under the lock of the registry
and every message to the kernel is one step.

The kernel's open files are numbered by the open threads that made them. A request or a release that
the kernel sends for a file carries the handle that was announced for it.

`Fh.fromFfi` gives every device the same handle. `handles_unique_alone` says when that does no harm:
when a device is opened only while the map is empty and no earlier open thread can still announce or
commit the handle.
-/

set_option autoImplicit false

namespace Cuse2Net.Virtdev

open Cuse2Net.Lib

/-- `fh_t`. -/
structure Fh where
  val : BitVec 64
  deriving DecidableEq

/-- `fh_t::from_ffi`; `none` when its assertion fails. The handle does not depend on the argument. -/
def Fh.fromFfi (v : BitVec 64) : Option Fh := if 0 < v then some ⟨0⟩ else none

/-- `DeviceState`, with the number of the device. -/
inductive DeviceState where
  | opening (id : Nat)
  | running (id : Nat)
  deriving DecidableEq

/-- The device of an entry. -/
def DeviceState.id : DeviceState → Nat
  | opening id => id
  | running id => id

/-- Where an open thread is. -/
inductive OpenPc where
  /-- In `Device::open`. -/
  | opening
  /-- Before the reply with the handle. -/
  | replying
  /-- Before `commit`. -/
  | committing
  /-- Before the handle is dropped; the flag tells whether an error reply follows. -/
  | dropping (refuse : Bool)
  /-- Before the error reply. -/
  | refusing
  /-- The thread has ended, the device is open. -/
  | running
  /-- The thread has ended without a device. -/
  | failed
  deriving DecidableEq

/-- The thread has ended. -/
def OpenPc.ended : OpenPc → Bool
  | running | failed => true
  | _ => false

/-- The thread can still announce its handle or commit its device. -/
def OpenPc.pending : OpenPc → Bool
  | opening | replying | committing => true
  | _ => false

/-- Steps of an open thread. -/
inductive OpenLabel where
  /-- `Device::open` returns. -/
  | opened (ok : Bool)
  /-- The reply is sent, or the send fails. -/
  | reply (ok : Bool)
  | commit
  /-- The destructor of `ManagedHdl`. -/
  | drop
  | refuse
  deriving DecidableEq

/-- Control flow of an open thread. -/
def OpenPc.step : OpenPc → OpenLabel → Option OpenPc
  | .opening, .opened true => some .replying
  | .opening, .opened false => some (.dropping true)
  | .replying, .reply true => some .committing
  | .replying, .reply false => some (.dropping false)
  | .committing, .commit => some .running
  | .dropping true, .drop => some .refusing
  | .dropping false, .drop => some .failed
  | .refusing, .refuse => some .failed
  | _, _ => none

/-- An open thread with its handle. -/
structure Open where
  hdl : Fh
  pc : OpenPc
  deriving DecidableEq

/-- The kernel has been told the handle. -/
def Open.announced (o : Open) : Bool := o.pc = .committing || o.pc = .running

/-- The dispatcher: it runs, has stopped with an error, or an assertion has failed. -/
inductive Dispatcher where
  | running
  | stopped
  | panicked
  deriving DecidableEq

/-- The registry and its threads. `devHdl` is the number of handles drawn. The last two fields record
the history: the files the kernel has released, and for every request and release of a file the
device that got it, if any. -/
structure DeviceRegistry where
  devHdl : Nat
  devices : AList fun _ : Fh => DeviceState
  dispatcher : Dispatcher
  opens : List Open
  released : List Nat
  dispatched : List (Nat × Option Nat)

/-- Steps of the registry. -/
inductive RegistryLabel where
  /-- `create`; the thread is started or not. -/
  | create (spawned : Bool)
  /-- A request for a file: `for_fh`. -/
  | request (id : Nat)
  /-- A release of a file. -/
  | release (id : Nat)
  | thread (id : Nat) (l : OpenLabel)
  deriving DecidableEq

namespace DeviceRegistry

/-- `for_fh`: the device that gets the request. -/
def forFh (s : DeviceRegistry) (fh : Fh) : Option Nat :=
  match s.devices.lookup fh with
  | some (.running id) => some id
  -- "device not ready yet" and "no such device": the request is dropped
  | _ => none

/-- `create`. -/
def create (s : DeviceRegistry) (spawned : Bool) : DeviceRegistry :=
  let s' := { s with devHdl := s.devHdl + 1 }
  match Fh.fromFfi (BitVec.ofNat 64 (1 + s.devHdl)) with
  | none => { s' with dispatcher := .panicked }
  | some hdl =>
      -- `assert!(!contains_key)`
      if hdl ∈ s.devices then { s' with dispatcher := .panicked }
      else if spawned then
        { s' with
          devices := s.devices.insert hdl (.opening s.opens.length)
          opens := s.opens ++ [⟨hdl, .opening⟩] }
      else { s' with dispatcher := .stopped }

/-- What a step of an open thread does to the map. -/
def threadDevices (s : DeviceRegistry) (id : Nat) (hdl : Fh) :
    OpenLabel → AList fun _ : Fh => DeviceState
  | .commit => s.devices.insert hdl (.running id)
  | .drop => s.devices.erase hdl
  | _ => s.devices

/-- One step. -/
def step (s : DeviceRegistry) : RegistryLabel → Option DeviceRegistry
  | .create spawned => if s.dispatcher = .running then some (s.create spawned) else none
  | .request id =>
      if s.dispatcher = .running then
        s.opens[id]?.map fun o => { s with dispatched := s.dispatched ++ [(id, s.forFh o.hdl)] }
      else none
  | .release id =>
      if s.dispatcher = .running then
        s.opens[id]?.map fun o =>
          -- the entry goes, whatever its state; only a running device gets the release
          { s with
            devices := s.devices.erase o.hdl
            released := s.released ++ [id]
            dispatched := s.dispatched ++ [(id, s.forFh o.hdl)] }
      else none
  | .thread id l =>
      s.opens[id]?.bind fun o => (o.pc.step l).map fun pc =>
        { s with
          devices := s.threadDevices id o.hdl l
          opens := s.opens.set id ⟨o.hdl, pc⟩ }

/-- `DeviceRegistry::new`. -/
def new : DeviceRegistry := ⟨0, ∅, .running, [], [], []⟩

/-- The dispatcher, the open threads and the kernel. -/
def system : System DeviceRegistry RegistryLabel where
  init s := s = new
  step := step

/-- Every open thread has ended. -/
def Settled (s : DeviceRegistry) : Prop := ∀ o ∈ s.opens, o.pc.ended = true

instance (s : DeviceRegistry) : Decidable s.Settled :=
  inferInstanceAs (Decidable (∀ o ∈ s.opens, o.pc.ended = true))

/-- No open thread can still announce or commit its handle. -/
def Quiet (s : DeviceRegistry) : Prop := ∀ o ∈ s.opens, o.pc.pending = false

instance (s : DeviceRegistry) : Decidable s.Quiet :=
  inferInstanceAs (Decidable (∀ o ∈ s.opens, o.pc.pending = false))

/-- `create` is called only while the map is empty, a thread is started only while no other one can
still announce or commit its handle, and there are fewer than `2 ^ 64` calls in all. -/
def Alone (s : DeviceRegistry) : RegistryLabel → Prop
  | .create spawned =>
      s.devHdl + 1 < 2 ^ 64 ∧ s.devices.keys = [] ∧ (spawned = true → s.Quiet)
  | _ => True

instance (s : DeviceRegistry) (l : RegistryLabel) : Decidable (Alone s l) := by
  unfold Alone
  split <;> infer_instance

/-- No assertion of `create` has failed, and a handle that is announced or about to be is not the
handle of another device in the map. -/
def HandlesUnique (s : DeviceRegistry) : Prop :=
  s.dispatcher ≠ .panicked ∧
  ∀ id o, s.opens[id]? = some o → o.pc = .replying ∨ o.pc = .committing →
    ∀ fh st, s.devices.lookup fh = some st → st.id ≠ id → fh ≠ o.hdl

/-! ## Every handle is zero -/

theorem eq_zero_of_fromFfi {v : BitVec 64} {hdl : Fh} (h : Fh.fromFfi v = some hdl) : hdl = ⟨0⟩ := by
  unfold Fh.fromFfi at h
  split at h
  · exact (Option.some.inj h).symm
  · cases h

theorem mem_iff_lookup {s : DeviceRegistry} {fh : Fh} :
    fh ∈ s.devices ↔ ∃ st, s.devices.lookup fh = some st := by
  rw [← AList.lookup_isSome, Option.isSome_iff_exists]

theorem keys_nil_iff {devices : AList fun _ : Fh => DeviceState} :
    devices.keys = [] ↔ ∀ fh, fh ∉ devices :=
  List.eq_nil_iff_forall_not_mem

theorem lookup_erase_some {devices : AList fun _ : Fh => DeviceState} {fh k : Fh} {st : DeviceState}
    (h : (devices.erase fh).lookup k = some st) : devices.lookup k = some st := by
  by_cases hk : k = fh
  · rw [hk, AList.lookup_erase] at h
    cases h
  · rwa [AList.lookup_erase_ne hk] at h

/-- An entry after an insertion: the new one, or one that was there before. -/
theorem lookup_insert_some {devices : AList fun _ : Fh => DeviceState} {fh k : Fh}
    {st st' : DeviceState} (h : (devices.insert fh st').lookup k = some st) :
    (k = fh ∧ st = st') ∨ devices.lookup k = some st := by
  by_cases hk : k = fh
  · rw [hk, AList.lookup_insert] at h
    exact .inl ⟨hk, (Option.some.inj h).symm⟩
  · rw [AList.lookup_insert_ne hk] at h
    exact .inr h

/-- Every handle is zero, and every entry of the map belongs to an open thread. -/
structure Zeroed (s : DeviceRegistry) : Prop where
  hdl : ∀ o ∈ s.opens, o.hdl = ⟨0⟩
  keys : ∀ fh ∈ s.devices, fh = ⟨0⟩
  known : ∀ fh st, s.devices.lookup fh = some st → st.id < s.opens.length

section Zeroed

variable {s t : DeviceRegistry}

theorem Zeroed.create (h : s.Zeroed) (spawned : Bool) : (s.create spawned).Zeroed := by
  unfold DeviceRegistry.create
  dsimp only
  split
  · exact { h with }
  · next hdl hhdl =>
    obtain rfl := eq_zero_of_fromFfi hhdl
    split
    · exact { h with }
    · split
      · refine ⟨?_, ?_, ?_⟩
        · intro o ho
          rcases List.mem_append.1 ho with ho | ho
          · exact h.hdl o ho
          · rw [List.mem_singleton.1 ho]
        · intro fh hfh
          rcases (AList.mem_insert _).1 hfh with hfh | hfh
          · exact hfh
          · exact h.keys fh hfh
        · intro fh st hst
          show st.id < (s.opens ++ [(⟨⟨0⟩, .opening⟩ : Open)]).length
          rw [List.length_append, List.length_singleton]
          rcases lookup_insert_some hst with ⟨-, rfl⟩ | hst
          · exact Nat.lt_succ_self _
          · exact Nat.lt_succ_of_lt (h.known fh st hst)
      · exact { h with }

theorem Zeroed.release (h : s.Zeroed) (fh : Fh) (released : List Nat)
    (dispatched : List (Nat × Option Nat)) :
    Zeroed { s with
      devices := s.devices.erase fh, released := released, dispatched := dispatched } := by
  refine ⟨h.hdl, ?_, ?_⟩
  · intro k hk
    exact h.keys k (AList.mem_erase.1 hk).2
  · intro k st hst
    exact h.known k st (lookup_erase_some hst)

/-- The map after a step of an open thread: the thread's own entry, or what was there before. -/
theorem threadDevices_lookup {id : Nat} {hdl fh : Fh} {l : OpenLabel} {st : DeviceState}
    (h : (s.threadDevices id hdl l).lookup fh = some st) :
    (l = .commit ∧ fh = hdl ∧ st = .running id) ∨ s.devices.lookup fh = some st := by
  cases l with
  | commit =>
      rcases lookup_insert_some h with ⟨hfh, hst⟩ | hst
      · exact .inl ⟨rfl, hfh, hst⟩
      · exact .inr hst
  | drop => exact .inr (lookup_erase_some h)
  | _ => exact .inr h

theorem Zeroed.thread (h : s.Zeroed) {id : Nat} {o : Open} {l : OpenLabel} {pc : OpenPc}
    (ho : s.opens[id]? = some o) :
    Zeroed { s with
      devices := s.threadDevices id o.hdl l, opens := s.opens.set id ⟨o.hdl, pc⟩ } := by
  have hhdl := h.hdl o (List.mem_of_getElem? ho)
  refine ⟨?_, ?_, ?_⟩
  · intro o' ho'
    rcases List.mem_or_eq_of_mem_set ho' with ho' | rfl
    · exact h.hdl o' ho'
    · exact hhdl
  · intro fh hfh
    obtain ⟨st, hst⟩ := Option.isSome_iff_exists.1 (AList.lookup_isSome.2 hfh)
    rcases threadDevices_lookup hst with ⟨-, rfl, -⟩ | hst
    · exact hhdl
    · exact h.keys fh (mem_iff_lookup.2 ⟨st, hst⟩)
  · intro fh st hst
    show st.id < (s.opens.set id ⟨o.hdl, pc⟩).length
    rw [List.length_set]
    rcases threadDevices_lookup hst with ⟨-, -, rfl⟩ | hst
    · exact (List.getElem?_eq_some_iff.1 ho).1
    · exact h.known fh st hst

theorem step_zeroed {l : RegistryLabel} (h : s.Zeroed) (hstep : step s l = some t) : t.Zeroed := by
  cases l with
  | create spawned =>
      simp only [step, Option.ite_none_right_eq_some, Option.some.injEq] at hstep
      obtain ⟨-, rfl⟩ := hstep
      exact h.create spawned
  | request id =>
      simp only [step, Option.ite_none_right_eq_some, Option.map_eq_some_iff] at hstep
      obtain ⟨-, o, -, rfl⟩ := hstep
      exact { h with }
  | release id =>
      simp only [step, Option.ite_none_right_eq_some, Option.map_eq_some_iff] at hstep
      obtain ⟨-, o, -, rfl⟩ := hstep
      exact h.release o.hdl _ _
  | thread id l =>
      obtain ⟨o, ho, hnext⟩ := Option.bind_eq_some_iff.1 hstep
      obtain ⟨pc, -, rfl⟩ := Option.map_eq_some_iff.1 hnext
      exact h.thread ho

end Zeroed

theorem new_zeroed : new.Zeroed := by
  refine ⟨nofun, ?_, nofun⟩
  intro fh hfh
  cases hfh

/-- **Every handle is zero**, in every run. -/
theorem reachable_zeroed {ok : DeviceRegistry → RegistryLabel → Prop} {s : DeviceRegistry}
    (h : system.Reachable ok s) : s.Zeroed := by
  refine h.invariant (P := Zeroed) ?_ ?_
  · rintro s rfl
    exact new_zeroed
  · intro s l t hs _ hstep
    exact step_zeroed hs hstep

/-! ## One device at a time -/

/-- Only the last open thread can be pending, and the map has no entries of other devices. -/
structure Sole (s : DeviceRegistry) : Prop extends Zeroed s where
  dispatcher : s.dispatcher ≠ .panicked
  devHdl : s.devHdl < 2 ^ 64
  idle : ∀ id o, s.opens[id]? = some o → id + 1 < s.opens.length → o.pc.pending = false
  owner : ∀ fh st, s.devices.lookup fh = some st → st.id + 1 = s.opens.length

/-- As long as the counter does not wrap around, every handle is zero. -/
theorem create_eq (s : DeviceRegistry) (spawned : Bool) (h : s.devHdl + 1 < 2 ^ 64) :
    s.create spawned =
      if ⟨0⟩ ∈ s.devices then { s with devHdl := s.devHdl + 1, dispatcher := .panicked }
      else if spawned then
        { s with
          devHdl := s.devHdl + 1
          devices := s.devices.insert ⟨0⟩ (.opening s.opens.length)
          opens := s.opens ++ [⟨⟨0⟩, .opening⟩] }
      else { s with devHdl := s.devHdl + 1, dispatcher := .stopped } := by
  have hpos : (0 : BitVec 64) < BitVec.ofNat 64 (1 + s.devHdl) := by
    rw [BitVec.lt_def, BitVec.toNat_ofNat, Nat.mod_eq_of_lt (by omega)]
    exact Nat.add_comm 1 _ ▸ Nat.succ_pos _
  rw [create, Fh.fromFfi, if_pos hpos]

theorem step_not_ended {pc pc' : OpenPc} {l : OpenLabel} (h : pc.step l = some pc') :
    pc.ended = false := by
  cases pc with
  | running => cases h
  | failed => cases h
  | _ => rfl

/-- A thread does not become pending again. -/
theorem pending_of_step {pc pc' : OpenPc} {l : OpenLabel} (h : pc.step l = some pc')
    (hpending : pc'.pending = true) : pc.pending = true := by
  cases pc with
  | dropping refuse =>
      cases refuse <;> (cases l with
        | drop => cases h; cases hpending
        | _ => cases h)
  | refusing =>
      cases l with
      | refuse =>
          cases h
          cases hpending
      | _ => cases h
  | running => cases h
  | failed => cases h
  | _ => rfl

theorem pending_of_commit {pc pc' : OpenPc} (h : pc.step .commit = some pc') :
    pc.pending = true := by
  cases pc with
  | dropping refuse => cases refuse <;> cases h
  | committing => rfl
  | _ => cases h

section Steps

variable {s t : DeviceRegistry}

/-- A pending thread is the last one. -/
theorem Sole.last (h : s.Sole) {id : Nat} {o : Open} (ho : s.opens[id]? = some o)
    (hpending : o.pc.pending = true) : id + 1 = s.opens.length := by
  obtain ⟨hlt, -⟩ := List.getElem?_eq_some_iff.1 ho
  rcases Nat.lt_or_eq_of_le (Nat.succ_le_of_lt hlt) with hlt' | heq
  · rw [h.idle id o ho hlt'] at hpending
    cases hpending
  · exact heq

theorem Sole.create (h : s.Sole) (spawned : Bool) (hok : Alone s (.create spawned)) :
    (s.create spawned).Sole := by
  have hzeroed := h.toZeroed.create spawned
  obtain ⟨hcount, hkeys, hquiet⟩ := hok
  have hempty := keys_nil_iff.1 hkeys
  rw [create_eq s spawned hcount, if_neg (hempty ⟨0⟩)] at hzeroed ⊢
  cases spawned with
  | false => exact { h with toZeroed := hzeroed, dispatcher := nofun, devHdl := hcount }
  | true =>
      refine ⟨hzeroed, h.dispatcher, hcount, ?_, ?_⟩
      · -- the threads before the new one are past their commit by assumption
        intro id o ho hlt
        replace hlt : id + 1 < (s.opens ++ [(⟨⟨0⟩, .opening⟩ : Open)]).length := hlt
        rw [List.length_append, List.length_singleton] at hlt
        replace ho : (s.opens ++ [(⟨⟨0⟩, .opening⟩ : Open)])[id]? = some o := ho
        rw [List.getElem?_append_left (by omega)] at ho
        exact hquiet rfl o (List.mem_of_getElem? ho)
      · intro fh st hst
        rcases lookup_insert_some hst with ⟨-, rfl⟩ | hst
        · show s.opens.length + 1 = (s.opens ++ [(⟨⟨0⟩, .opening⟩ : Open)]).length
          rw [List.length_append, List.length_singleton]
        · exact absurd (mem_iff_lookup.2 ⟨st, hst⟩) (hempty fh)

theorem Sole.release (h : s.Sole) (fh : Fh) (released : List Nat)
    (dispatched : List (Nat × Option Nat)) :
    Sole { s with
      devices := s.devices.erase fh, released := released, dispatched := dispatched } := by
  refine { h with toZeroed := h.toZeroed.release fh released dispatched, owner := ?_ }
  intro k st hst
  exact h.owner k st (lookup_erase_some hst)

theorem Sole.thread (h : s.Sole) {id : Nat} {o : Open} {l : OpenLabel} {pc : OpenPc}
    (ho : s.opens[id]? = some o) (hpc : o.pc.step l = some pc) :
    Sole { s with
      devices := s.threadDevices id o.hdl l, opens := s.opens.set id ⟨o.hdl, pc⟩ } := by
  refine ⟨h.toZeroed.thread ho, h.dispatcher, h.devHdl, ?_, ?_⟩
  · intro id' o' ho' hlt
    replace hlt : id' + 1 < (s.opens.set id ⟨o.hdl, pc⟩).length := hlt
    replace ho' : (s.opens.set id ⟨o.hdl, pc⟩)[id']? = some o' := ho'
    rw [List.length_set] at hlt
    by_cases hid : id = id'
    · subst hid
      rw [List.getElem?_set_self (by omega)] at ho'
      obtain rfl := Option.some.inj ho'
      refine Bool.eq_false_iff.2 fun hpending => ?_
      exact absurd (pending_of_step hpc hpending) (Bool.eq_false_iff.1 (h.idle id o ho hlt))
    · rw [List.getElem?_set_ne hid] at ho'
      exact h.idle id' o' ho' hlt
  · intro fh st hst
    show st.id + 1 = (s.opens.set id ⟨o.hdl, pc⟩).length
    rw [List.length_set]
    rcases threadDevices_lookup hst with ⟨rfl, -, rfl⟩ | hst
    · -- a thread that commits is the last one, so the entry it makes is its own
      exact h.last ho (pending_of_commit hpc)
    · exact h.owner fh st hst

/-- **One device at a time stays one device at a time.** -/
theorem step_sole {l : RegistryLabel} (h : s.Sole) (hok : Alone s l) (hstep : step s l = some t) :
    t.Sole := by
  cases l with
  | create spawned =>
      simp only [step, Option.ite_none_right_eq_some, Option.some.injEq] at hstep
      obtain ⟨-, rfl⟩ := hstep
      exact h.create spawned hok
  | request id =>
      simp only [step, Option.ite_none_right_eq_some, Option.map_eq_some_iff] at hstep
      obtain ⟨-, o, -, rfl⟩ := hstep
      exact { h with }
  | release id =>
      simp only [step, Option.ite_none_right_eq_some, Option.map_eq_some_iff] at hstep
      obtain ⟨-, o, -, rfl⟩ := hstep
      exact h.release o.hdl _ _
  | thread id l =>
      obtain ⟨o, ho, hnext⟩ := Option.bind_eq_some_iff.1 hstep
      obtain ⟨pc, hpc, rfl⟩ := Option.map_eq_some_iff.1 hnext
      exact h.thread ho hpc

end Steps

theorem new_sole : new.Sole := ⟨new_zeroed, nofun, by decide, nofun, nofun⟩

theorem reachable_sole {s : DeviceRegistry} (h : system.Reachable Alone s) : s.Sole := by
  refine h.invariant (P := Sole) ?_ ?_
  · rintro s rfl
    exact new_sole
  · intro s l t hs hok hstep
    exact step_sole hs hok hstep

/-- The assertion in `create` fails when the map is not empty. -/
theorem Sole.create_panics_iff {s : DeviceRegistry} (h : s.Sole) (spawned : Bool)
    (hcount : s.devHdl + 1 < 2 ^ 64) :
    (s.create spawned).dispatcher = .panicked ↔ s.devices.keys ≠ [] := by
  rw [create_eq s spawned hcount]
  by_cases hmem : ⟨0⟩ ∈ s.devices
  · rw [if_pos hmem]
    refine iff_of_true rfl ?_
    intro hnil
    exact keys_nil_iff.1 hnil ⟨0⟩ hmem
  · -- there is no other handle than zero
    have hnil : s.devices.keys = [] := by
      rw [keys_nil_iff]
      intro fh hfh
      rw [h.keys fh hfh] at hfh
      exact hmem hfh
    rw [if_neg hmem]
    refine iff_of_false ?_ (not_not.2 hnil)
    cases spawned with
    | true => exact h.dispatcher
    | false => exact nofun

theorem Sole.handlesUnique {s : DeviceRegistry} (h : s.Sole) : s.HandlesUnique := by
  refine ⟨h.dispatcher, ?_⟩
  intro id o ho hpc fh st hst hne
  have hpending : o.pc.pending = true := by
    rcases hpc with hpc | hpc
    · rw [hpc]; rfl
    · rw [hpc]; rfl
  -- the thread is the last one, and so is the owner of the entry
  have hlast := h.last ho hpending
  have howner := h.owner fh st hst
  exact absurd (by omega) hne

/-! ## What the condition is needed for -/

/-- The counter reaches `2 ^ 64`: the assertion in `fromFfi` fails. -/
theorem create_wrapped {s : DeviceRegistry} (spawned : Bool) (h : s.devHdl + 1 = 2 ^ 64) :
    (s.create spawned).dispatcher = .panicked := by
  have hzero : BitVec.ofNat 64 (1 + s.devHdl) = 0 := by
    rw [Nat.add_comm, h]
    rfl
  rw [create, hzero]
  rfl

/-- A device that is created while a thread is pending takes over the handle of that thread, which
then announces it or has announced it. -/
theorem Sole.taken_over {s : DeviceRegistry} (h : s.Sole) (hcount : s.devHdl + 1 < 2 ^ 64)
    (hkeys : s.devices.keys = []) {id : Nat} {o : Open} (ho : s.opens[id]? = some o)
    (hpending : o.pc.pending = true) :
    ∃ t, system.Reaches Alone (s.create true) t ∧ ¬t.HandlesUnique := by
  have hempty := keys_nil_iff.1 hkeys
  obtain ⟨hlt, -⟩ := List.getElem?_eq_some_iff.1 ho
  have hhdl := h.hdl o (List.mem_of_getElem? ho)
  rw [create_eq s true hcount, if_neg (hempty ⟨0⟩), if_pos rfl]
  -- the entry is the new device's, whatever the pending thread does next
  have hviolates (u : DeviceRegistry) (o' : Open) (ho' : u.opens[id]? = some o')
      (hhdl' : o'.hdl = ⟨0⟩) (hpc : o'.pc = .replying ∨ o'.pc = .committing)
      (hdevices : u.devices = s.devices.insert ⟨0⟩ (.opening s.opens.length)) :
      ¬u.HandlesUnique := by
    intro hunique
    refine hunique.2 id o' ho' hpc ⟨0⟩ (.opening s.opens.length) ?_ (Nat.ne_of_gt hlt) hhdl'.symm
    rw [hdevices]
    exact AList.lookup_insert _
  have hold : (s.opens ++ [(⟨⟨0⟩, .opening⟩ : Open)])[id]? = some o := by
    rw [List.getElem?_append_left hlt]
    exact ho
  rcases hpc : o.pc with - | - | - | _ | - | - | -
  · -- the thread gets on with its open
    let t : DeviceRegistry :=
      { s with
        devHdl := s.devHdl + 1
        devices := s.devices.insert ⟨0⟩ (.opening s.opens.length)
        opens := (s.opens ++ [(⟨⟨0⟩, .opening⟩ : Open)]).set id ⟨o.hdl, .replying⟩ }
    have ht : t.opens[id]? = some ⟨o.hdl, .replying⟩ := by
      refine List.getElem?_set_self ?_
      rw [List.length_append]
      exact Nat.lt_add_right _ hlt
    refine ⟨t, .single ⟨.thread id (.opened true), trivial, ?_⟩,
      hviolates t _ ht hhdl (.inl rfl) rfl⟩
    simp only [system, step, hold, hpc, OpenPc.step, Option.bind_some, Option.map_some]
    rfl
  · exact ⟨_, .refl, hviolates _ o hold hhdl (.inl hpc) rfl⟩
  · exact ⟨_, .refl, hviolates _ o hold hhdl (.inr hpc) rfl⟩
  all_goals
    rw [hpc] at hpending
    cases hpending

/-- From a call of `create` on, handles stay unique exactly when the call meets the condition. -/
theorem create_keeps_unique_iff {s : DeviceRegistry} (h : system.Reachable Alone s)
    (hrunning : s.dispatcher = .running) (spawned : Bool) :
    (∀ t, system.Reaches Alone (s.create spawned) t → t.HandlesUnique) ↔
      Alone s (.create spawned) := by
  have hs := reachable_sole h
  constructor
  · intro hunique
    have hcount : s.devHdl + 1 < 2 ^ 64 := by
      rcases Nat.lt_or_eq_of_le (Nat.succ_le_of_lt hs.devHdl) with hlt | heq
      · exact hlt
      · exact absurd (create_wrapped spawned heq) (hunique _ .refl).1
    have hkeys : s.devices.keys = [] := by
      by_contra hne
      exact (hunique _ .refl).1 ((hs.create_panics_iff spawned hcount).2 hne)
    refine ⟨hcount, hkeys, ?_⟩
    rintro rfl o ho
    obtain ⟨id, hid⟩ := List.mem_iff_getElem?.1 ho
    refine Bool.eq_false_iff.2 fun hpending => ?_
    obtain ⟨t, hreach, hviolates⟩ := hs.taken_over hcount hkeys hid hpending
    exact hviolates (hunique t hreach)
  · intro hok t hreach
    have hstep : system.step s (.create spawned) = some (s.create spawned) := if_pos hrunning
    exact (reachable_sole ((h.next hok hstep).trans hreach)).handlesUnique

/-- **Handles are unique when devices are opened one at a time.** In every run in which `create` is
called only while the map is empty and no earlier thread can still announce or commit its handle: no
assertion of `create` has failed, the handle that is announced is not the handle of another device in
the map, and the next `create` would fail its assertion exactly when the map is not empty. The
condition is the exact one: from the next `create` on this lasts if and only if the call meets it. -/
theorem handles_unique_alone (s : DeviceRegistry) (h : system.Reachable Alone s) :
    s.dispatcher ≠ .panicked ∧
    (∀ id o, s.opens[id]? = some o → o.pc = .replying ∨ o.pc = .committing →
      ∀ fh st, s.devices.lookup fh = some st → st.id ≠ id → fh ≠ o.hdl) ∧
    (s.devHdl + 1 < 2 ^ 64 → ∀ spawned,
      ((s.create spawned).dispatcher = .panicked ↔ s.devices.keys ≠ [])) ∧
    (s.dispatcher = .running → ∀ spawned,
      ((∀ t, system.Reaches Alone (s.create spawned) t → t.HandlesUnique) ↔
        Alone s (.create spawned))) := by
  have hs := reachable_sole h
  refine ⟨hs.dispatcher, hs.handlesUnique.2, ?_, ?_⟩
  · intro hcount spawned
    exact hs.create_panics_iff spawned hcount
  · intro hrunning spawned
    exact create_keeps_unique_iff h hrunning spawned

/-- One device, between its reply and its commit. -/
theorem handles_unique_alone_announced :
    let s : DeviceRegistry := ⟨1, (∅ : AList fun _ : Fh => DeviceState).insert ⟨0⟩ (.opening 0),
      .running, [⟨⟨0⟩, .committing⟩], [], []⟩
    system.Reachable Alone s ∧ s.dispatcher ≠ .panicked ∧
      (s.create true).dispatcher = .panicked :=
  have hrun : system.exec Alone new
      [.create true, .thread 0 (.opened true), .thread 0 (.reply true)] =
      some ⟨1, (∅ : AList fun _ : Fh => DeviceState).insert ⟨0⟩ (.opening 0),
        .running, [⟨⟨0⟩, .committing⟩], [], []⟩ := rfl
  have hreach := System.reachable_of_exec rfl hrun
  have hunique := handles_unique_alone _ hreach
  ⟨hreach, hunique.1, (hunique.2.2.1 (by decide) true).2 (by decide)⟩

/-- Two opens in a row: the second finds the handle of the first. -/
theorem second_create_panics :
    system.Reachable always ⟨2, (∅ : AList fun _ : Fh => DeviceState).insert ⟨0⟩ (.opening 0),
      .panicked, [⟨⟨0⟩, .opening⟩], [], []⟩ :=
  have hrun : system.exec always new [.create true, .create true] =
      some ⟨2, (∅ : AList fun _ : Fh => DeviceState).insert ⟨0⟩ (.opening 0),
        .panicked, [⟨⟨0⟩, .opening⟩], [], []⟩ := rfl
  System.reachable_of_exec rfl hrun

end DeviceRegistry

end Cuse2Net.Virtdev

import Cuse2Net.Virtdev.Process

/-!
# The registry in the client

The process of `Process` has the counter, the map and the open threads of `DeviceRegistry`, and in
addition the devices, the buffer and the replies. Here the two are compared: a process tracks a registry
when it has the same counter, map and threads, and `runs_registry` says that every run of the process
is, for the registry that it tracks, a run of `DeviceRegistry.system`. A message for a device is given
to the device that `DeviceRegistry.forFh` names (`Tracks.forFh_eq`).

What holds in every run of the registry so holds in the process; `one_device` is the case that the
books of `ProcessReplies` need.
-/

set_option autoImplicit false

namespace Cuse2Net.Virtdev

open Cuse2Net.Lib
open Cuse2Net.Lib.Bytes
open Cuse2Net.Proto
open Cuse2Net.Cuse (Message OpIn)

/-- What the registry knows of an open thread. -/
def OpenThread.toOpen (t : OpenThread) : Open := ⟨t.hdl, t.pc⟩

namespace Process

/-- The process has the counter, the map and the open threads of the registry. Its dispatcher may have
ended for a reason that the registry does not know; then it reads no further message. -/
structure Tracks (s : Process) (r : DeviceRegistry) : Prop where
  devHdl : r.devHdl = s.devHdl
  devices : r.devices = s.devices
  opens : r.opens = s.opens.map OpenThread.toOpen
  dispatcher : s.dispatcher = .running → r.dispatcher = .running

section Tracks

variable {e : Endian} {args : CliOpts} {info : OpInInfo} {s s' : Process} {r : DeviceRegistry}

theorem Tracks.getElem? (h : s.Tracks r) {id : Nat} {t : OpenThread} (ht : s.opens[id]? = some t) :
    r.opens[id]? = some t.toOpen := by
  rw [h.opens, List.getElem?_map, ht, Option.map_some]

/-- A thread is changed: the registry has the thread changed in the same way. -/
theorem Tracks.opens_set (h : s.Tracks r) (id : Nat) (t' : OpenThread) :
    r.opens.set id t'.toOpen = (s.opens.set id t').map OpenThread.toOpen := by
  rw [h.opens, List.map_set]

/-! ## Calls of devices -/

/-- The registry does not see what a device does. -/
theorem Tracks.opens_device (h : s.Tracks r) {id : Nat} {t : OpenThread} (ht : s.opens[id]? = some t)
    (d : Option DeviceInner) :
    r.opens = (s.opens.set id { t with device := d }).map OpenThread.toOpen := by
  rw [← h.opens_set id { t with device := d }]
  obtain ⟨hlt, hget⟩ := List.getElem?_eq_some_iff.1 (h.getElem? ht)
  have hsame : ({ t with device := d } : OpenThread).toOpen = r.opens[id] := hget.symm
  rw [hsame, List.set_getElem_self]

theorem Tracks.onDevice (h : s.Tracks r) (id : Nat) (f : DeviceInner → DeviceInner × Bool) :
    (s.onDevice id f).Tracks r := by
  unfold Process.onDevice
  split
  · next t ht =>
    split
    · refine ⟨h.devHdl, h.devices, h.opens_device ht _, ?_⟩
      intro hrunning
      dsimp only at hrunning
      split at hrunning
      · cases hrunning
      · exact h.dispatcher hrunning
    · exact h
  · exact h

/-- A request goes to the device that the registry names. -/
theorem Tracks.forFh_eq (h : s.Tracks r) (fh : Fh) (f : DeviceInner → DeviceInner × Bool) :
    s.forFh fh f = match r.forFh fh with
      | some id => s.onDevice id f
      | none => s := by
  unfold Process.forFh DeviceRegistry.forFh
  rw [h.devices]
  cases s.devices.lookup fh with
  | none => rfl
  | some st => cases st <;> rfl

theorem Tracks.forFh (h : s.Tracks r) (fh : Fh) (f : DeviceInner → DeviceInner × Bool) :
    (s.forFh fh f).Tracks r := by
  rw [h.forFh_eq fh f]
  cases r.forFh fh with
  | none => exact h
  | some id => exact h.onDevice id f

theorem Tracks.interruptAll (h : s.Tracks r) (unique : BitVec 64) (devs : List DeviceState) :
    (s.interruptAll info unique devs).Tracks r := by
  induction devs generalizing s with
  | nil => exact h
  | cons dev devs ih =>
      cases dev with
      | opening id => exact ih h
      | running id =>
          have hone := h.onDevice id (DeviceInner.handleInterrupt info unique)
          simp only [Process.interruptAll]
          split
          · exact hone
          · exact ih hone

/-! ## Steps of the registry -/

theorem Tracks.create (h : s.Tracks r) (params : Cuse.OpenParams) (spawned : Bool) :
    (s.create info params spawned).Tracks (r.create spawned) := by
  have hlength : r.opens.length = s.opens.length := by rw [h.opens, List.length_map]
  unfold Process.create DeviceRegistry.create
  simp only [h.devHdl, h.devices, hlength]
  cases Fh.fromFfi (BitVec.ofNat 64 (1 + s.devHdl)) with
  | none => exact ⟨rfl, rfl, h.opens, fun hrunning => by cases hrunning⟩
  | some hdl =>
      dsimp only
      by_cases hmem : hdl ∈ s.devices
      · rw [if_pos hmem, if_pos hmem]
        exact ⟨rfl, rfl, h.opens, fun hrunning => by cases hrunning⟩
      rw [if_neg hmem, if_neg hmem]
      cases spawned with
      | false => exact ⟨rfl, rfl, h.opens, fun hrunning => by cases hrunning⟩
      | true =>
          refine ⟨rfl, rfl, ?_, h.dispatcher⟩
          rw [if_pos rfl, if_pos rfl, h.opens, List.map_append]
          rfl

/-- A release takes the entry out of the map, and goes to the device that the registry names. -/
theorem Tracks.release_eq (h : s.Tracks r) (fh : Fh) (out : SendOutcome) :
    s.release e fh info out =
      let s' := { s with devices := s.devices.erase fh }
      match r.forFh fh with
      | some id => s'.onDevice id (DeviceInner.handleCuse e .release .release info out)
      | none => s' := by
  unfold Process.release DeviceRegistry.forFh
  rw [h.devices]
  cases s.devices.lookup fh with
  | none => rfl
  | some st => cases st <;> rfl

/-- The handle of a release is one that the registry has, or the map stays as it is. -/
theorem Tracks.release (h : s.Tracks r) (hzeroed : r.Zeroed) (hrunning : s.dispatcher = .running)
    (fh : Fh) (out : SendOutcome) :
    ∃ r', DeviceRegistry.system.Reaches always r r' ∧ (s.release e fh info out).Tracks r' := by
  obtain ⟨r', hreach, h'⟩ : ∃ r', DeviceRegistry.system.Reaches always r r' ∧
      { s with devices := s.devices.erase fh }.Tracks r' := by
    by_cases hmem : fh ∈ r.devices
    · obtain ⟨st, hst⟩ := DeviceRegistry.mem_iff_lookup.1 hmem
      obtain ⟨o, ho⟩ : ∃ o, r.opens[st.id]? = some o :=
        ⟨_, List.getElem?_eq_getElem (hzeroed.known fh st hst)⟩
      -- every handle is the same, so the entry's thread has this one
      have hhdl : o.hdl = fh :=
        (hzeroed.hdl o (List.mem_of_getElem? ho)).trans (hzeroed.keys fh hmem).symm
      have hstep : DeviceRegistry.system.step r (.release st.id) =
          some { r with
            devices := r.devices.erase o.hdl
            released := r.released ++ [st.id]
            dispatched := r.dispatched ++ [(st.id, r.forFh o.hdl)] } := by
        simp only [DeviceRegistry.system, DeviceRegistry.step, if_pos (h.dispatcher hrunning), ho,
          Option.map_some]
      refine ⟨_, .single ⟨_, trivial, hstep⟩, h.devHdl, ?_, h.opens, h.dispatcher⟩
      show r.devices.erase o.hdl = s.devices.erase fh
      rw [hhdl, h.devices]
    · refine ⟨r, .refl, h.devHdl, ?_, h.opens, h.dispatcher⟩
      rw [h.devices] at hmem ⊢
      exact AList.ext (List.kerase_of_notMem_keys hmem).symm
  refine ⟨r', hreach, ?_⟩
  rw [h.release_eq fh out]
  dsimp only
  split
  · exact h'.onDevice _ _
  · exact h'

theorem Tracks.handle (h : s.Tracks r) (hzeroed : r.Zeroed) (hrunning : s.dispatcher = .running)
    (op : OpIn) (env : Outcomes) :
    ∃ r', DeviceRegistry.system.Reaches always r r' ∧ (s.handle e args info op env).Tracks r' := by
  cases op with
  | cuseInit version flags =>
      refine ⟨r, .refl, ?_⟩
      simp only [Process.handle]
      split
      · split
        · exact { h with }
        · exact ⟨h.devHdl, h.devices, h.opens, nofun⟩
      · exact { h with }
  | fuseOpen params =>
      refine ⟨_, .single ⟨.create env.spawned, trivial, ?_⟩, h.create params env.spawned⟩
      exact if_pos (h.dispatcher hrunning)
  | fuseRelease params => exact h.release hzeroed hrunning ⟨params.fh⟩ env.out
  | fuseWrite params data => exact ⟨r, .refl, h.forFh _ _⟩
  | fuseRead params => exact ⟨r, .refl, h.forFh _ _⟩
  | fuseIoctl params data =>
      refine ⟨r, .refl, ?_⟩
      simp only [Process.handle]
      split
      · exact h.forFh _ _
      · exact { h with }
      · exact ⟨h.devHdl, h.devices, h.opens, nofun⟩
  | fuseInterrupt unique => exact ⟨r, .refl, h.interruptAll unique _⟩
  | fusePoll params => exact ⟨r, .refl, h.forFh _ _⟩
  | unknown => exact ⟨r, .refl, { h with }⟩

theorem threadEffect_devices (h : s.Tracks r) (id : Nat) (t : OpenThread) (l : OpenLabel) :
    r.threadDevices id t.hdl l = (s.threadEffect e id t l).devices := by
  cases l with
  | opened ok => exact h.devices
  | reply ok => exact h.devices
  | commit => exact congrArg (AList.insert t.hdl (.running id)) h.devices
  | drop => exact congrArg (AList.erase t.hdl) h.devices
  | refuse => exact h.devices

/-- A step of an open thread is one of the registry. -/
theorem Tracks.thread (h : s.Tracks r) {id : Nat} {t : OpenThread} {l : OpenLabel} {pc : OpenPc}
    (ht : s.opens[id]? = some t) (hpc : t.pc.step l = some pc) :
    ∃ r', DeviceRegistry.system.Reaches always r r' ∧
      { s.threadEffect e id t l with
        opens := s.opens.set id { t with pc := pc, device := s.threadDevice t l } }.Tracks r' := by
  have hstep : DeviceRegistry.system.step r (.thread id l) =
      some { r with
        devices := r.threadDevices id t.hdl l
        opens := r.opens.set id ⟨t.hdl, pc⟩ } := by
    simp only [DeviceRegistry.system, DeviceRegistry.step, h.getElem? ht, Option.bind_some,
      OpenThread.toOpen, hpc, Option.map_some]
  refine ⟨_, .single ⟨_, trivial, hstep⟩, ?_, threadEffect_devices h id t l, ?_, ?_⟩
  · cases l <;> exact h.devHdl
  · exact h.opens_set id { t with pc := pc, device := s.threadDevice t l }
  · cases l <;> exact h.dispatcher

/-- **What one step of the process is for the registry.** -/
theorem Tracks.step {l : ProcessLabel} (h : s.Tracks r) (hzeroed : r.Zeroed)
    (hstep : s.step e args l = some s') :
    ∃ r', DeviceRegistry.system.Reaches always r r' ∧ s'.Tracks r' := by
  cases l with
  | message msg env =>
      rw [Process.step, Option.ite_none_right_eq_some] at hstep
      obtain ⟨hrunning, hstep⟩ := hstep
      obtain rfl := Option.some.inj hstep
      unfold Process.dispatch
      dsimp only
      split
      · exact ⟨r, .refl, h.devHdl, h.devices, h.opens, nofun⟩
      · next info op hread =>
        have hread' : { s with
            msg := (s.msg.read msg).2, requests := s.requests ++ [info.unique] }.Tracks r := { h with }
        exact hread'.handle hzeroed hrunning op env
  | thread id l =>
      obtain ⟨t, ht, hstep⟩ := Option.bind_eq_some_iff.1 hstep
      obtain ⟨pc, hpc, rfl⟩ := Option.map_eq_some_iff.1 hstep
      exact h.thread ht hpc
  | device id l =>
      rw [Process.step, Option.ite_none_right_eq_some] at hstep
      obtain ⟨-, hstep⟩ := hstep
      obtain ⟨t, ht, hstep⟩ := Option.bind_eq_some_iff.1 hstep
      obtain ⟨d, -, hstep⟩ := Option.bind_eq_some_iff.1 hstep
      obtain ⟨d', -, rfl⟩ := Option.map_eq_some_iff.1 hstep
      exact ⟨r, .refl, h.devHdl, h.devices, h.opens_device ht (some d'), h.dispatcher⟩
  | draw =>
      obtain rfl := Option.some.inj hstep
      exact ⟨r, .refl, { h with }⟩

/-- **The process runs the registry.** Every state of the process tracks a state that the registry
reaches, whatever the kernel and the servers send. -/
theorem runs_registry (h : (system e args).Reachable always s) :
    ∃ r, DeviceRegistry.system.Reachable always r ∧ s.Tracks r := by
  refine h.simulate ?_ ?_
  · rintro s ⟨msg, rfl⟩
    exact ⟨DeviceRegistry.new, rfl, rfl, rfl, rfl, fun _ => rfl⟩
  · intro s l s' r hr htracks _ hstep
    exact htracks.step (DeviceRegistry.reachable_zeroed hr) hstep

/-- Every handle is the same, so the map has at most one device. -/
theorem one_device (h : (system e args).Reachable always s) : s.devices.entries.length ≤ 1 := by
  obtain ⟨r, hr, htracks⟩ := runs_registry h
  have hzero : ∀ fh ∈ s.devices, fh = ⟨0⟩ := by
    rw [← htracks.devices]
    exact (DeviceRegistry.reachable_zeroed hr).keys
  have hkeys : s.devices.keys.length ≤ 1 := by
    match hk : s.devices.keys with
    | [] => exact Nat.zero_le _
    | [_] => exact le_refl _
    | a :: b :: ks =>
        have hmem : ∀ fh ∈ a :: b :: ks, fh = ⟨0⟩ := fun fh hfh =>
          hzero fh (AList.mem_keys.2 (by rwa [hk]))
        have hnodup : (a :: b :: ks).Nodup := hk ▸ s.devices.keys_nodup
        rw [hmem a (by simp), hmem b (by simp)] at hnodup
        simp at hnodup
  rwa [AList.keys, List.keys, List.length_map] at hkeys

end Tracks

end Process

end Cuse2Net.Virtdev

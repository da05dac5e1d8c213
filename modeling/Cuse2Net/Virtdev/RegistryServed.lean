import Cuse2Net.Virtdev.Registry

/-!
# Requests for a handle

An open thread replies to the kernel before it commits its device. From the reply on the kernel may
use the handle, but until the commit the map has an `Opening` entry, for which `for_fh` drops a request
without a reply; `release` removes the entry, and the commit puts it back for good.

`handle_served_after_commit` is what holds when the kernel stays out of this gap and devices are opened
one at a time. `handle_dropped_before_commit` is a run through the gap.
-/

set_option autoImplicit false

namespace Cuse2Net.Virtdev

open Cuse2Net.Lib

namespace DeviceRegistry

/-- The kernel names a file from the reply to its open request until its release. -/
def KernelRule (s : DeviceRegistry) : RegistryLabel → Prop
  | .request id | .release id => s.opens[id]?.any Open.announced = true ∧ id ∉ s.released
  | l => Alone s l

instance (s : DeviceRegistry) (l : RegistryLabel) : Decidable (KernelRule s l) := by
  unfold KernelRule
  split <;> infer_instance

/-- The kernel names a file only when its open thread has ended. -/
def Patient (s : DeviceRegistry) : RegistryLabel → Prop
  | .request id | .release id => s.opens[id]?.map Open.pc = some .running ∧ id ∉ s.released
  | l => Alone s l

instance (s : DeviceRegistry) (l : RegistryLabel) : Decidable (Patient s l) := by
  unfold Patient
  split <;> infer_instance

/-! ## The map follows the open threads -/

/-- The entry that belongs to a place of the open thread. -/
def entryAt (id : Nat) (released : List Nat) : OpenPc → Option DeviceState
  | .opening | .replying | .committing | .dropping _ => some (.opening id)
  -- the entry lasts until the kernel's release
  | .running => if id ∈ released then none else some (.running id)
  | .refusing | .failed => none

/-- The map has the entry of the last open thread; the others have no entry left. -/
structure Matched (s : DeviceRegistry) : Prop where
  sole : s.Sole
  current : ∀ id o, s.opens[id]? = some o → id + 1 = s.opens.length →
    s.devices.lookup ⟨0⟩ = entryAt id s.released o.pc
  past : ∀ id o, s.opens[id]? = some o → id + 1 < s.opens.length →
    entryAt id s.released o.pc = none
  released : ∀ id ∈ s.released, s.opens[id]?.map Open.pc = some .running
  served : ∀ x ∈ s.dispatched, x.2 = some x.1

section Steps

variable {s t : DeviceRegistry}

/-- A file that is open and not released is the current one, and its device gets the requests. -/
theorem Matched.forFh (h : s.Matched) {id : Nat} {o : Open} (ho : s.opens[id]? = some o)
    (hpc : o.pc = .running) (hrel : id ∉ s.released) :
    id + 1 = s.opens.length ∧ s.forFh o.hdl = some id := by
  obtain ⟨hlt, -⟩ := List.getElem?_eq_some_iff.1 ho
  have hlast : id + 1 = s.opens.length := by
    rcases Nat.lt_or_eq_of_le (Nat.succ_le_of_lt hlt) with hlt' | heq
    · have hpast := h.past id o ho hlt'
      rw [hpc, entryAt, if_neg hrel] at hpast
      cases hpast
    · exact heq
  refine ⟨hlast, ?_⟩
  have hlookup := h.current id o ho hlast
  rw [hpc, entryAt, if_neg hrel] at hlookup
  rw [DeviceRegistry.forFh, h.sole.hdl o (List.mem_of_getElem? ho), hlookup]

theorem Matched.create (h : s.Matched) (spawned : Bool) (hok : Alone s (.create spawned)) :
    (s.create spawned).Matched := by
  have hsole := h.sole.create spawned hok
  obtain ⟨hcount, hkeys, -⟩ := hok
  have hempty := keys_nil_iff.1 hkeys
  rw [create_eq s spawned hcount, if_neg (hempty ⟨0⟩)] at hsole ⊢
  cases spawned with
  | false => exact { h with sole := hsole }
  | true =>
      have hlength : (s.opens ++ [(⟨⟨0⟩, .opening⟩ : Open)]).length = s.opens.length + 1 := by
        rw [List.length_append, List.length_singleton]
      refine ⟨hsole, ?_, ?_, ?_, h.served⟩
      · intro id o ho hlast
        replace ho : (s.opens ++ [(⟨⟨0⟩, .opening⟩ : Open)])[id]? = some o := ho
        obtain rfl : id = s.opens.length := Nat.succ.inj (hlast.trans hlength)
        rw [List.getElem?_concat_length] at ho
        obtain rfl := Option.some.inj ho
        exact AList.lookup_insert _
      · -- the map is empty, so the thread that was the last one has no entry left
        intro id o ho hlt
        replace hlt := Nat.lt_of_lt_of_eq hlt hlength
        replace ho : (s.opens ++ [(⟨⟨0⟩, .opening⟩ : Open)])[id]? = some o := ho
        rw [List.getElem?_append_left (by omega)] at ho
        rcases Nat.lt_or_eq_of_le (Nat.le_of_lt_succ hlt) with hlt' | hlast
        · exact h.past id o ho hlt'
        · exact (h.current id o ho hlast).symm.trans (AList.lookup_eq_none.2 (hempty ⟨0⟩))
      · intro id hid
        have hold := h.released id hid
        obtain ⟨o, ho, hpc⟩ := Option.map_eq_some_iff.1 hold
        obtain ⟨hlt, -⟩ := List.getElem?_eq_some_iff.1 ho
        show (s.opens ++ [(⟨⟨0⟩, .opening⟩ : Open)])[id]?.map Open.pc = _
        rw [List.getElem?_append_left hlt]
        exact hold

/-- A release leaves a thread without an entry as it is. -/
theorem entryAt_release {id : Nat} {released : List Nat} {pc : OpenPc} {id' : Nat}
    (h : entryAt id released pc = none) : entryAt id (released ++ [id']) pc = none := by
  cases pc with
  | running =>
      have hmem : id ∈ released := by
        by_contra hrel
        rw [entryAt, if_neg hrel] at h
        cases h
      rw [entryAt, if_pos (List.mem_append_left _ hmem)]
  | _ => exact h

theorem Matched.release (h : s.Matched) {id : Nat} {o : Open} (ho : s.opens[id]? = some o)
    (hpc : o.pc = .running) (hrel : id ∉ s.released) :
    Matched { s with
      devices := s.devices.erase o.hdl
      released := s.released ++ [id]
      dispatched := s.dispatched ++ [(id, s.forFh o.hdl)] } := by
  obtain ⟨hlast, hfor⟩ := h.forFh ho hpc hrel
  -- the file is the current one, so no entry of another file is lost
  refine ⟨h.sole.release o.hdl _ _, ?_, ?_, ?_, ?_⟩
  · intro id' o' ho' hlast'
    obtain rfl : id' = id := by
      have hlast'' : id' + 1 = s.opens.length := hlast'
      omega
    obtain rfl : o = o' := Option.some.inj (ho.symm.trans ho')
    have hmem : id' ∈ s.released ++ [id'] := List.mem_append_right _ (List.mem_singleton.2 rfl)
    rw [hpc, entryAt, if_pos hmem, h.sole.hdl o (List.mem_of_getElem? ho)]
    exact AList.lookup_erase _ _
  · intro id' o' ho' hlt
    exact entryAt_release (h.past id' o' ho' hlt)
  · intro id' hid'
    rcases List.mem_append.1 hid' with hid' | hid'
    · exact h.released id' hid'
    · rw [List.mem_singleton.1 hid', ho, Option.map_some, hpc]
  · intro x hx
    rcases List.mem_append.1 hx with hx | hx
    · exact h.served x hx
    · rw [List.mem_singleton.1 hx]
      exact hfor

/-- The map keeps in step with an open thread. -/
theorem entryAt_step {id : Nat} {released : List Nat} {pc pc' : OpenPc} {l : OpenLabel}
    (hstep : pc.step l = some pc') (hrel : id ∉ released)
    (hlookup : s.devices.lookup ⟨0⟩ = entryAt id released pc) :
    (s.threadDevices id ⟨0⟩ l).lookup ⟨0⟩ = entryAt id released pc' := by
  -- along the control flow of the thread; `commit` and `drop` are the steps that touch the map
  cases pc with
  | opening =>
      cases l with
      | opened ok => cases ok <;> (cases hstep; exact hlookup)
      | _ => cases hstep
  | replying =>
      cases l with
      | reply ok => cases ok <;> (cases hstep; exact hlookup)
      | _ => cases hstep
  | committing =>
      cases l with
      | commit =>
          cases hstep
          rw [entryAt, if_neg hrel]
          exact AList.lookup_insert _
      | _ => cases hstep
  | dropping refuse =>
      cases l with
      | drop => cases refuse <;> (cases hstep; exact AList.lookup_erase _ _)
      | _ => cases refuse <;> cases hstep
  | refusing =>
      cases l with
      | refuse =>
          cases hstep
          exact hlookup
      | _ => cases hstep
  | running => cases hstep
  | failed => cases hstep

/-- A thread without an entry that still moves sends its error reply. -/
theorem refuse_of_entryAt_none {id : Nat} {released : List Nat} {pc pc' : OpenPc} {l : OpenLabel}
    (hstep : pc.step l = some pc') (h : entryAt id released pc = none) :
    l = .refuse ∧ pc' = .failed := by
  cases pc with
  | refusing =>
      cases l with
      | refuse =>
          cases hstep
          exact ⟨rfl, rfl⟩
      | _ => cases hstep
  | running => cases hstep
  | failed => cases hstep
  | _ => cases h

theorem Matched.thread (h : s.Matched) {id : Nat} {o : Open} {l : OpenLabel} {pc : OpenPc}
    (ho : s.opens[id]? = some o) (hpc : o.pc.step l = some pc) :
    Matched { s with
      devices := s.threadDevices id o.hdl l, opens := s.opens.set id ⟨o.hdl, pc⟩ } := by
  obtain ⟨hlt, -⟩ := List.getElem?_eq_some_iff.1 ho
  -- a thread that still moves has not let the kernel release its file
  have hne : ∀ id' ∈ s.released, id' ≠ id := by
    rintro id' hid' rfl
    have hrunning := h.released id' hid'
    rw [ho, Option.map_some] at hrunning
    have hended := step_not_ended hpc
    rw [Option.some.inj hrunning] at hended
    cases hended
  refine ⟨h.sole.thread ho hpc, ?_, ?_, ?_, h.served⟩
  · intro id' o' ho' hlast
    replace ho' : (s.opens.set id ⟨o.hdl, pc⟩)[id']? = some o' := ho'
    replace hlast : id' + 1 = (s.opens.set id ⟨o.hdl, pc⟩).length := hlast
    rw [List.length_set] at hlast
    by_cases hid : id = id'
    · subst hid
      rw [List.getElem?_set_self hlt] at ho'
      obtain rfl := Option.some.inj ho'
      show (s.threadDevices id o.hdl l).lookup ⟨0⟩ = _
      rw [h.sole.hdl o (List.mem_of_getElem? ho)]
      exact entryAt_step hpc (fun hmem => hne id hmem rfl) (h.current id o ho hlast)
    · -- an earlier thread no longer touches the map
      rw [List.getElem?_set_ne hid] at ho'
      obtain ⟨rfl, -⟩ := refuse_of_entryAt_none hpc (h.past id o ho (by omega))
      exact h.current id' o' ho' hlast
  · intro id' o' ho' hlt'
    replace hlt' : id' + 1 < (s.opens.set id ⟨o.hdl, pc⟩).length := hlt'
    replace ho' : (s.opens.set id ⟨o.hdl, pc⟩)[id']? = some o' := ho'
    rw [List.length_set] at hlt'
    by_cases hid : id = id'
    · subst hid
      rw [List.getElem?_set_self hlt] at ho'
      obtain rfl := Option.some.inj ho'
      obtain ⟨-, rfl⟩ := refuse_of_entryAt_none hpc (h.past id o ho hlt')
      rfl
    · rw [List.getElem?_set_ne hid] at ho'
      exact h.past id' o' ho' hlt'
  · intro id' hid'
    show (s.opens.set id ⟨o.hdl, pc⟩)[id']?.map Open.pc = _
    rw [List.getElem?_set_ne (Ne.symm (hne id' hid'))]
    exact h.released id' hid'

/-- **A patient kernel keeps map and threads in step.** -/
theorem step_matched {l : RegistryLabel} (h : s.Matched) (hok : Patient s l)
    (hstep : step s l = some t) : t.Matched := by
  cases l with
  | create spawned =>
      simp only [step, Option.ite_none_right_eq_some, Option.some.injEq] at hstep
      obtain ⟨-, rfl⟩ := hstep
      exact h.create spawned hok
  | request id =>
      simp only [step, Option.ite_none_right_eq_some, Option.map_eq_some_iff] at hstep
      obtain ⟨-, o, ho, rfl⟩ := hstep
      obtain ⟨hpc, hrel⟩ := hok
      rw [ho, Option.map_some] at hpc
      refine { h with sole := { h.sole with }, served := ?_ }
      intro x hx
      rcases List.mem_append.1 hx with hx | hx
      · exact h.served x hx
      · rw [List.mem_singleton.1 hx]
        exact (h.forFh ho (Option.some.inj hpc) hrel).2
  | release id =>
      simp only [step, Option.ite_none_right_eq_some, Option.map_eq_some_iff] at hstep
      obtain ⟨-, o, ho, rfl⟩ := hstep
      obtain ⟨hpc, hrel⟩ := hok
      rw [ho, Option.map_some] at hpc
      exact h.release ho (Option.some.inj hpc) hrel
  | thread id l =>
      obtain ⟨o, ho, hnext⟩ := Option.bind_eq_some_iff.1 hstep
      obtain ⟨pc, hpc, rfl⟩ := Option.map_eq_some_iff.1 hnext
      exact h.thread ho hpc

end Steps

theorem reachable_matched {s : DeviceRegistry} (h : system.Reachable Patient s) : s.Matched := by
  refine h.invariant (P := Matched) ?_ ?_
  · rintro s rfl
    exact ⟨new_sole, nofun, nofun, nofun, nofun⟩
  · intro s l t hs hok hstep
    exact step_matched hs hok hstep

/-- A thread that has ended and still has an entry has opened a file that is not released. -/
theorem entryAt_ended {id : Nat} {released : List Nat} {pc : OpenPc} {st : DeviceState}
    (hended : pc.ended = true) (h : entryAt id released pc = some st) :
    pc = .running ∧ id ∉ released := by
  cases pc with
  | running =>
      refine ⟨rfl, ?_⟩
      intro hrel
      rw [entryAt, if_pos hrel] at h
      cases h
  | failed => cases h
  | _ => cases hended

/-- When all open threads have ended, the map has the files that are announced and not released. -/
theorem Matched.mem_devices_iff {s : DeviceRegistry} (h : s.Matched) (hsettled : s.Settled) (fh : Fh) :
    fh ∈ s.devices ↔
      ∃ id o, s.opens[id]? = some o ∧ o.announced = true ∧ id ∉ s.released ∧ o.hdl = fh := by
  constructor
  · intro hfh
    obtain rfl := h.sole.keys fh hfh
    obtain ⟨st, hst⟩ := mem_iff_lookup.1 hfh
    -- the entry belongs to the last thread
    have howner := h.sole.owner _ st hst
    obtain ⟨o, ho⟩ : ∃ o, s.opens[st.id]? = some o := ⟨_, List.getElem?_eq_getElem (by omega)⟩
    have hmem := List.mem_of_getElem? ho
    have hlookup := (h.current st.id o ho howner).symm.trans hst
    obtain ⟨hpc, hrel⟩ := entryAt_ended (hsettled o hmem) hlookup
    exact ⟨st.id, o, ho, by simp [Open.announced, hpc], hrel, h.sole.hdl o hmem⟩
  · rintro ⟨id, o, ho, hann, hrel, rfl⟩
    have hpc : o.pc = .running := by
      have hended := hsettled o (List.mem_of_getElem? ho)
      rcases o with ⟨hdl, pc⟩
      cases pc with
      | running => rfl
      | failed => cases hann
      | _ => cases hended
    obtain ⟨hlast, -⟩ := h.forFh ho hpc hrel
    have hlookup := h.current id o ho hlast
    rw [hpc, entryAt, if_neg hrel] at hlookup
    rw [mem_iff_lookup, h.sole.hdl o (List.mem_of_getElem? ho)]
    exact ⟨_, hlookup⟩

/-- **A handle is served after its commit.** In every run in which devices are opened one at a time and
the kernel names a file only after its open thread has ended: every request and every release has been
handed to the device of its file, and whenever no open thread is active the map has exactly the
handles that are announced and not released. -/
theorem handle_served_after_commit (s : DeviceRegistry) (h : system.Reachable Patient s) :
    (∀ x ∈ s.dispatched, x.2 = some x.1) ∧
    (s.Settled → ∀ fh, fh ∈ s.devices ↔
      ∃ id o, s.opens[id]? = some o ∧ o.announced = true ∧ id ∉ s.released ∧ o.hdl = fh) := by
  have hs := reachable_matched h
  exact ⟨hs.served, fun hsettled fh => hs.mem_devices_iff hsettled fh⟩

/-- A file that is opened, used and released, and an open that fails. -/
theorem handle_served_after_commit_released :
    let s : DeviceRegistry := ⟨2, ∅, .running, [⟨⟨0⟩, .running⟩, ⟨⟨0⟩, .failed⟩], [0],
      [(0, some 0), (0, some 0)]⟩
    system.Reachable Patient s ∧ ∀ x ∈ s.dispatched, x.2 = some x.1 :=
  have hrun : system.exec Patient new
      [.create true, .thread 0 (.opened true), .thread 0 (.reply true), .thread 0 .commit,
        .request 0, .release 0, .create true, .thread 1 (.opened false), .thread 1 .drop,
        .thread 1 .refuse] =
      some ⟨2, ∅, .running, [⟨⟨0⟩, .running⟩, ⟨⟨0⟩, .failed⟩], [0],
        [(0, some 0), (0, some 0)]⟩ := rfl
  have hreach := System.reachable_of_exec rfl hrun
  ⟨hreach, (handle_served_after_commit _ hreach).1⟩

/-- The kernel uses and releases a file between the reply and the commit: both requests are dropped,
and when the thread has ended the map has a device for a file that is released. -/
theorem handle_dropped_before_commit :
    let s : DeviceRegistry := ⟨1, (∅ : AList fun _ : Fh => DeviceState).insert ⟨0⟩ (.running 0),
      .running, [⟨⟨0⟩, .running⟩], [0], [(0, none), (0, none)]⟩
    system.Reachable KernelRule s ∧ (0, none) ∈ s.dispatched ∧ s.Settled ∧ ⟨0⟩ ∈ s.devices ∧
      ¬∃ id o, s.opens[id]? = some o ∧ o.announced = true ∧ id ∉ s.released ∧ o.hdl = ⟨0⟩ :=
  have hrun : system.exec KernelRule new
      [.create true, .thread 0 (.opened true), .thread 0 (.reply true), .request 0, .release 0,
        .thread 0 .commit] =
      some ⟨1, (∅ : AList fun _ : Fh => DeviceState).insert ⟨0⟩ (.running 0),
        .running, [⟨⟨0⟩, .running⟩], [0], [(0, none), (0, none)]⟩ := rfl
  have hreleased : ∀ id o, ([⟨⟨0⟩, .running⟩] : List Open)[id]? = some o → id ∈ [0] := by
    intro id o ho
    obtain ⟨hlt, -⟩ := List.getElem?_eq_some_iff.1 ho
    rw [List.mem_singleton]
    exact Nat.lt_one_iff.1 hlt
  ⟨System.reachable_of_exec rfl hrun, by decide, by decide, by decide,
    fun ⟨id, o, ho, _, hrel, _⟩ => hrel (hreleased id o ho)⟩

end DeviceRegistry

end Cuse2Net.Virtdev

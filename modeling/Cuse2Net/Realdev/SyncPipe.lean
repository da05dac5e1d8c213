import Cuse2Net.Realdev.ReadWakeup

/-!
# The sync pipe as a bounded pipe

In `Realdev.ReadQueue` the sync pipe takes every byte, and a call of the main thread is one step. Here
the pipe has a capacity and its writer blocks when it is full, so a call has two steps: the critical
section up to `send_sync`, and the write of the byte. The write lock is held in between. Of the
reader's steps, only `read()`, `poll()` and `consume_sync` do without the lock.

A call and its write together are the one step of the other model (`step_view`), so every run here is
a run there.
-/

set_option autoImplicit false

namespace Cuse2Net.Realdev

open Cuse2Net.Lib
open Cuse2Net.Proto

/-- A call of the main thread for a request of the client. -/
inductive MainCall where
  | push (req : ReadRequest)
  | intr (seq : Sequence)
  deriving DecidableEq

/-- The call as a step of the unbounded model. -/
def MainCall.label (written : Bool) : MainCall → ReadLabel
  | .push req => .push req written
  | .intr seq => .intr (some seq) written

/-- The steps of the reader that run under the lock. -/
def ReadLabel.underLock : ReadLabel → Bool
  | .consume _ | .read _ | .poll _ => false
  | _ => true

/-- The places where the next thing the reader does is to take the lock. -/
def ReaderPc.atLock : ReaderPc → Bool
  | .check | .next | .sending _ _ | .registering _ | .taking _ | .rescheduling _ | .failing _ _ =>
      true
  | .consume | .consumeAfter _ | .reading _ | .polling | .exited | .panicked _ _ => false

/-- The two threads; `writing` means that the main thread is in `send_sync`, with the lock. -/
structure SyncPipe where
  base : ReadState
  writing : Bool
  deriving DecidableEq

/-- Steps with a bounded pipe. -/
inductive PipeLabel where
  /-- The main thread takes the lock and gets to `send_sync`. -/
  | call (c : MainCall)
  /-- The pipe takes the byte, and the lock is released. -/
  | write
  | reader (l : ReadLabel)
  deriving DecidableEq

namespace SyncPipe

/-- One step, with a pipe of `cap` bytes. -/
def step (cap : Nat) (s : SyncPipe) : PipeLabel → Option SyncPipe
  | .call c =>
      if s.writing then none
      else
        -- an assertion that fails ends the thread and releases the lock
        (s.base.step (c.label false)).map fun t => ⟨t, t.mainAlive⟩
  | .write =>
      if s.writing ∧ s.base.inner.sync < cap then
        some ⟨{ s.base with inner := { s.base.inner with sync := s.base.inner.sync + 1 } }, false⟩
      else none
  | .reader l =>
      if l.byReader = true ∧ (l.underLock = true → s.writing = false) then
        (s.base.step l).map fun t => { s with base := t }
      else none

def start : SyncPipe := ⟨ReadState.start, false⟩

/-- The two threads with a pipe of `cap` bytes. -/
def system (cap : Nat) : System SyncPipe PipeLabel where
  init s := s = start
  step := step cap

/-- The main thread is blocked in `send_sync` with the lock, and the reader is blocked at the lock. -/
def Deadlocked (cap : Nat) (s : SyncPipe) : Prop :=
  s.writing = true ∧ cap ≤ s.base.inner.sync ∧ s.base.reader.atLock = true

instance (cap : Nat) (s : SyncPipe) : Decidable (Deadlocked cap s) :=
  inferInstanceAs (Decidable (_ ∧ _ ∧ _))

end SyncPipe

/-! ## The byte of a call -/

/-- One byte more in the pipe. -/
def ReadInner.addByte (r : ReadInner) : ReadInner := { r with sync := r.sync + 1 }

/-- One byte more in the pipe. -/
def ReadState.addByte (s : ReadState) : ReadState := { s with inner := s.inner.addByte }

namespace ReadInner

theorem sendSync_sync (r : ReadInner) : (r.sendSync false).1.sync = r.sync := by
  unfold sendSync
  split <;> rfl

/-- What the write adds to a call that has got to it. -/
def addWrite : ReadInner × Bool → ReadInner × Bool
  | (r, true) => (r.addByte, true)
  | (r, false) => (r, false)

theorem sendSync_addWrite (r : ReadInner) : r.sendSync true = addWrite (r.sendSync false) := by
  unfold sendSync
  cases r.fdTx <;> rfl

theorem doIntr_sync (r : ReadInner) (seq : Sequence) :
    (r.doIntr (some seq) false).1.sync = r.sync := by
  have hframe := (r.doIntrX_frame seq).2.1
  rw [doIntr]
  rcases hres : r.doIntrX seq with ⟨r', ok⟩
  rw [hres] at hframe
  cases ok with
  | true => exact (r'.sendSync_sync).trans hframe
  | false => exact hframe

theorem doIntr_addWrite (r : ReadInner) (seq : Sequence) :
    r.doIntr (some seq) true = addWrite (r.doIntr (some seq) false) := by
  simp only [doIntr]
  rcases r.doIntrX seq with ⟨r', ok⟩
  cases ok with
  | true => exact r'.sendSync_addWrite
  | false => rfl

end ReadInner

namespace ReadState

/-- A call that is stopped before the write has added no byte. -/
theorem step_label_sync {s t : ReadState} {c : MainCall} (h : s.step (c.label false) = some t) :
    t.inner.sync = s.inner.sync ∧ t.reader = s.reader := by
  cases c with
  | push req =>
      obtain ⟨-, h⟩ := Option.ite_none_right_eq_some.1 h
      obtain rfl := Option.some.inj h
      exact ⟨ReadInner.sendSync_sync _, rfl⟩
  | intr seq =>
      obtain ⟨-, h⟩ := Option.ite_none_right_eq_some.1 h
      obtain rfl := Option.some.inj h
      exact ⟨s.inner.doIntr_sync seq, rfl⟩

theorem afterMain_addWrite (s : ReadState) (res : ReadInner × Bool) :
    s.afterMain (ReadInner.addWrite res) =
      if (s.afterMain res).mainAlive then (s.afterMain res).addByte else s.afterMain res := by
  obtain ⟨r, ok⟩ := res
  cases ok <;> rfl

/-- The whole call adds the byte, unless the thread has panicked before. -/
theorem step_label_addByte {s t : ReadState} {c : MainCall}
    (h : s.step (c.label false) = some t) :
    s.step (c.label true) = some (if t.mainAlive then t.addByte else t) := by
  cases c with
  | push req =>
      obtain ⟨halive, h⟩ := Option.ite_none_right_eq_some.1 h
      obtain rfl := Option.some.inj h
      have hwrite : s.inner.pushRequest req true =
          ReadInner.addWrite (s.inner.pushRequest req false) := ReadInner.sendSync_addWrite _
      simp only [MainCall.label, ReadState.step, if_pos halive, hwrite, afterMain_addWrite]
      split <;> rfl
  | intr seq =>
      obtain ⟨halive, h⟩ := Option.ite_none_right_eq_some.1 h
      obtain rfl := Option.some.inj h
      simp only [MainCall.label, ReadState.step, if_pos halive, ReadInner.doIntr_addWrite,
        afterMain_addWrite]
      split <;> rfl

theorem consumeSync_addByte {s t : ReadState} {got : Bool} {pc : ReaderPc}
    (h : s.consumeSync got pc = some t) : s.addByte.consumeSync got pc = some t.addByte := by
  cases got with
  | true =>
      obtain ⟨hpos, h⟩ := Option.ite_none_right_eq_some.1 h
      obtain rfl := Option.some.inj h
      have hsucc : s.inner.sync + 1 - 1 = s.inner.sync - 1 + 1 := by omega
      simp only [consumeSync, addByte, ReadInner.addByte, hsucc, if_true, Nat.zero_lt_succ]
  | false =>
      obtain rfl := Option.some.inj h
      rfl

theorem consumeSync_sync_le {s t : ReadState} {got : Bool} {pc : ReaderPc}
    (h : s.consumeSync got pc = some t) : t.inner.sync ≤ s.inner.sync := by
  cases got with
  | true =>
      obtain ⟨-, h⟩ := Option.ite_none_right_eq_some.1 h
      obtain rfl := Option.some.inj h
      exact Nat.sub_le _ _
  | false =>
      obtain rfl := Option.some.inj h
      exact Nat.le_refl _

/-- The steps without the lock do not mind another byte. -/
theorem step_addByte {s t : ReadState} {l : ReadLabel} (hl : l.underLock = false)
    (h : s.step l = some t) : s.addByte.step l = some t.addByte := by
  cases l with
  | consume got =>
      simp only [ReadState.step] at h ⊢
      cases hr : s.reader <;> simp only [hr, addByte] at h ⊢ <;> first
        | exact consumeSync_addByte h
        | cases h
  | read res =>
      simp only [ReadState.step] at h ⊢
      cases hr : s.reader <;> simp only [hr, addByte] at h ⊢ <;> first
        | (obtain rfl := Option.some.inj h; rfl)
        | cases h
  | poll rc =>
      simp only [ReadState.step] at h ⊢
      cases hr : s.reader <;> simp only [hr, addByte] at h ⊢ <;> first
        | (obtain rfl := Option.some.inj h; rfl)
        | cases h
  | _ => cases hl

theorem consume_lt {s t : ReadState} (h : s.step (.consume true) = some t) :
    t.inner.sync < s.inner.sync := by
  have htake : ∀ pc, s.consumeSync true pc = some t → t.inner.sync < s.inner.sync := by
    intro pc hpc
    obtain ⟨hpos, hpc⟩ := Option.ite_none_right_eq_some.1 hpc
    obtain rfl := Option.some.inj hpc
    exact Nat.sub_lt hpos Nat.zero_lt_one
  simp only [ReadState.step] at h
  split at h
  · exact htake _ h
  · exact htake _ h
  · cases h

/-- The steps without the lock add no byte. -/
theorem free_sync_le {s t : ReadState} {l : ReadLabel} (hl : l.underLock = false)
    (h : s.step l = some t) : t.inner.sync ≤ s.inner.sync := by
  cases l with
  | consume got =>
      simp only [ReadState.step] at h
      split at h
      · exact consumeSync_sync_le h
      · exact consumeSync_sync_le h
      · cases h
  | read res =>
      simp only [ReadState.step] at h
      split at h
      · obtain rfl := Option.some.inj h
        exact Nat.le_refl _
      · cases h
  | poll rc =>
      simp only [ReadState.step] at h
      split at h
      · obtain rfl := Option.some.inj h
        exact Nat.le_refl _
      · cases h
  | _ => cases hl

/-- At the lock, the reader does nothing else. -/
theorem step_of_atLock {s : ReadState} (hr : s.reader.atLock = true) {l : ReadLabel}
    (hl : l.underLock = false) : s.step l = none := by
  cases l with
  | consume got | read res | poll rc =>
      simp only [ReadState.step]
      cases hpc : s.reader <;> first
        | rfl
        | (rw [hpc] at hr; cases hr)
  | _ => cases hl

end ReadState

namespace SyncPipe

/-! ## The unbounded model -/

/-- The state of the unbounded model: there, the byte is written by the call. -/
def view (s : SyncPipe) : ReadState := if s.writing then s.base.addByte else s.base

/-- **A step is a step of the unbounded model**, or the write of the byte that is written there
already. -/
theorem step_view {cap : Nat} {s t : SyncPipe} {l : PipeLabel} (h : step cap s l = some t) :
    view t = view s ∨ ∃ l' : ReadLabel, l'.Written ∧ ReadState.step (view s) l' = some (view t) := by
  cases l with
  | call c =>
      obtain ⟨hwriting, h⟩ := Option.ite_none_left_eq_some.1 h
      obtain ⟨b, hb, rfl⟩ := Option.map_eq_some_iff.1 h
      refine .inr ⟨c.label true, ?_, ?_⟩
      · cases c <;> rfl
      · rw [view, if_neg hwriting]
        exact ReadState.step_label_addByte hb
  | write =>
      obtain ⟨⟨hwriting, -⟩, h⟩ := Option.ite_none_right_eq_some.1 h
      obtain rfl := Option.some.inj h
      left
      show s.base.addByte = view s
      rw [view, if_pos hwriting]
  | reader l =>
      obtain ⟨⟨hby, hlock⟩, h⟩ := Option.ite_none_right_eq_some.1 h
      obtain ⟨b, hb, rfl⟩ := Option.map_eq_some_iff.1 h
      refine .inr ⟨l, ?_, ?_⟩
      · cases l <;> first | exact trivial | cases hby
      · cases hw : s.writing with
        | false =>
            simp only [view, hw, Bool.false_eq_true, if_false]
            exact hb
        | true =>
            simp only [view, hw, if_true]
            have hfree : l.underLock = false := by
              by_contra hne
              rw [hlock (Bool.eq_true_of_not_eq_false hne)] at hw
              cases hw
            exact ReadState.step_addByte hfree hb

/-- With a bounded pipe the threads visit no other states than with an unbounded one. -/
theorem view_reachable {cap : Nat} {s : SyncPipe} (h : (system cap).Reachable always s) :
    ReadState.system.Reachable (fun _ l => l.Written) (view s) := by
  refine h.invariant
    (P := fun s => ReadState.system.Reachable (fun _ l => l.Written) (view s)) ?_ ?_
  · rintro s rfl
    exact System.Reachable.of_init rfl
  · intro s l t hs _ hstep
    rcases step_view hstep with heq | ⟨l', hl', hstep'⟩
    · rw [heq]
      exact hs
    · exact hs.next hl' hstep'

/-! ## Deadlocks -/

/-- A deadlock is for ever. -/
theorem Deadlocked.stuck {cap : Nat} {s : SyncPipe} (h : Deadlocked cap s) (l : PipeLabel) :
    step cap s l = none := by
  obtain ⟨hwriting, hfull, hlock⟩ := h
  cases l with
  | call c => exact if_pos hwriting
  | write => exact if_neg fun h => absurd h.2 (Nat.not_lt.2 hfull)
  | reader l =>
      cases hl : l.underLock with
      | true =>
          apply if_neg
          rintro ⟨-, hfree⟩
          rw [hfree hl] at hwriting
          cases hwriting
      | false =>
          show (if _ then _ else _) = none
          rw [ReadState.step_of_atLock hlock hl]
          split <;> rfl

/-- A call is made while the pipe has room. -/
def Roomy (cap : Nat) (s : SyncPipe) : PipeLabel → Prop
  | .call _ => s.base.inner.sync < cap
  | _ => True

/-- While the main thread holds the lock, the reader at most takes bytes. -/
theorem step_room {cap : Nat} {s t : SyncPipe} {l : PipeLabel}
    (hs : s.writing = true → s.base.inner.sync < cap) (hl : Roomy cap s l)
    (h : step cap s l = some t) : t.writing = true → t.base.inner.sync < cap := by
  cases l with
  | call c =>
      obtain ⟨-, h⟩ := Option.ite_none_left_eq_some.1 h
      obtain ⟨b, hb, rfl⟩ := Option.map_eq_some_iff.1 h
      intro _
      exact (ReadState.step_label_sync hb).1.symm ▸ hl
  | write =>
      obtain ⟨-, h⟩ := Option.ite_none_right_eq_some.1 h
      obtain rfl := Option.some.inj h
      intro hw
      cases hw
  | reader l =>
      obtain ⟨⟨-, hlock⟩, h⟩ := Option.ite_none_right_eq_some.1 h
      obtain ⟨b, hb, rfl⟩ := Option.map_eq_some_iff.1 h
      intro hw
      have hfree : l.underLock = false := by
        by_contra hne
        rw [hlock (Bool.eq_true_of_not_eq_false hne)] at hw
        cases hw
      exact Nat.lt_of_le_of_lt (ReadState.free_sync_le hfree hb) (hs hw)

/-- A reader step adds no byte to the pipe. -/
theorem reader_sync_le {s t : ReadState} {l : ReadLabel} (hby : l.byReader = true)
    (h : s.step l = some t) : t.inner.sync ≤ s.inner.sync := by
  cases hl : l.underLock with
  | false => exact ReadState.free_sync_le hl h
  | true =>
      obtain ⟨inner, pc, hmove, rfl⟩ := ReadState.reader_move hby h
      cases hmove with
      | consume | consumeAfter => cases hl
      | _ => exact Nat.le_refl _

/-- The pipe never holds more than its capacity. -/
theorem sync_le {cap : Nat} {s : SyncPipe} (h : (system cap).Reachable always s) :
    s.base.inner.sync ≤ cap := by
  refine h.invariant (P := fun s => s.base.inner.sync ≤ cap) ?_ ?_
  · rintro s rfl
    exact Nat.zero_le cap
  · intro s l t hs _ hstep
    cases l with
    | call c =>
        obtain ⟨-, hstep⟩ := Option.ite_none_left_eq_some.1 hstep
        obtain ⟨b, hb, rfl⟩ := Option.map_eq_some_iff.1 hstep
        exact (ReadState.step_label_sync hb).1.symm ▸ hs
    | write =>
        obtain ⟨⟨-, hlt⟩, hstep⟩ := Option.ite_none_right_eq_some.1 hstep
        obtain rfl := Option.some.inj hstep
        exact hlt
    | reader l =>
        obtain ⟨⟨hby, -⟩, hstep⟩ := Option.ite_none_right_eq_some.1 hstep
        obtain ⟨b, hb, rfl⟩ := Option.map_eq_some_iff.1 hstep
        exact Nat.le_trans (reader_sync_le hby hb) hs

/-- The pipe is full, and the step brings the second of the two threads to its place: the main thread
to `send_sync` while the reader is at the lock, or the reader to the lock while the main thread is in
`send_sync`. Out of its place the reader comes with a byte that it takes, or when it panics. -/
def Blocks (cap : Nat) (s : SyncPipe) : PipeLabel → Prop
  | .call c => cap ≤ s.base.inner.sync ∧ s.base.reader.atLock = true ∧
      ∀ t, s.base.step (c.label false) = some t → t.mainAlive = true
  | .write => False
  | .reader l => s.writing = true ∧ cap ≤ s.base.inner.sync ∧ l ≠ .consume true ∧
      ∀ req buf, s.base.reader = .reading req → l = .read (.data buf) → buf.length ≤ min req.2 BUF_SZ

/-- Where the reader is after a step without the lock. -/
theorem atLock_of_step {s t : ReadState} {l : ReadLabel} (hl : l.underLock = false)
    (hconsume : l ≠ .consume true) (h : s.step l = some t) :
    t.inner.sync = s.inner.sync ∧ (t.reader.atLock = true ↔
      ∀ req buf, s.reader = .reading req → l = .read (.data buf) → buf.length ≤ min req.2 BUF_SZ) := by
  have hafter : ∀ req, (ReaderPc.afterHandle req).atLock = true := by
    intro req
    cases req <;> rfl
  cases l with
  | consume got =>
      cases got with
      | true => exact absurd rfl hconsume
      | false =>
          simp only [ReadState.step, ReadState.consumeSync, Bool.false_eq_true, if_false] at h
          split at h
          · obtain rfl := Option.some.inj h
            exact ⟨rfl, iff_of_true rfl fun _ _ _ hl => by cases hl⟩
          · obtain rfl := Option.some.inj h
            exact ⟨rfl, iff_of_true (hafter _) fun _ _ _ hl => by cases hl⟩
          · cases h
  | read res =>
      simp only [ReadState.step] at h
      split at h
      · next req hr =>
        obtain rfl := Option.some.inj h
        refine ⟨rfl, ?_⟩
        cases res with
        | error e =>
            refine iff_of_true ?_ fun _ _ _ hl => by cases hl
            simp only [ReadState.afterRead]
            split <;> rfl
        | data buf =>
            simp only [ReadState.afterRead]
            by_cases hle : buf.length ≤ min req.2 BUF_SZ
            · rw [if_pos hle]
              refine iff_of_true rfl fun req' buf' hr' hbuf => ?_
              obtain rfl := ReaderPc.reading.inj (hr.symm.trans hr')
              cases hbuf
              exact hle
            · rw [if_neg hle]
              exact iff_of_false Bool.noConfusion fun hall => hle (hall req buf hr rfl)
      · cases h
  | poll rc =>
      simp only [ReadState.step] at h
      split at h
      · obtain rfl := Option.some.inj h
        exact ⟨rfl, iff_of_true rfl fun _ _ _ hl => by cases hl⟩
      · cases h
  | _ => cases hl

/-- **Which steps deadlock.** -/
theorem step_deadlocked_iff {cap : Nat} {s t : SyncPipe} {l : PipeLabel}
    (hcap : s.base.inner.sync ≤ cap) (h : step cap s l = some t) :
    Deadlocked cap t ↔ Blocks cap s l := by
  cases l with
  | call c =>
      obtain ⟨-, h⟩ := Option.ite_none_left_eq_some.1 h
      obtain ⟨b, hb, rfl⟩ := Option.map_eq_some_iff.1 h
      obtain ⟨hsync, hreader⟩ := ReadState.step_label_sync hb
      simp only [Deadlocked, Blocks, hsync, hreader, hb, Option.some.injEq, forall_eq']
      exact ⟨fun ⟨h₁, h₂, h₃⟩ => ⟨h₂, h₃, h₁⟩, fun ⟨h₂, h₃, h₁⟩ => ⟨h₁, h₂, h₃⟩⟩
  | write =>
      obtain ⟨-, h⟩ := Option.ite_none_right_eq_some.1 h
      obtain rfl := Option.some.inj h
      exact iff_of_false (fun hdead => Bool.noConfusion hdead.1) id
  | reader l =>
      obtain ⟨⟨-, hlock⟩, h⟩ := Option.ite_none_right_eq_some.1 h
      obtain ⟨b, hb, rfl⟩ := Option.map_eq_some_iff.1 h
      simp only [Deadlocked, Blocks]
      refine and_congr_right fun hw => ?_
      have hfree : l.underLock = false := by
        by_contra hne
        rw [hlock (Bool.eq_true_of_not_eq_false hne)] at hw
        cases hw
      by_cases hconsume : l = .consume true
      · -- the byte makes room
        subst hconsume
        refine iff_of_false ?_ fun hblocks => hblocks.2.1 rfl
        have hlt : b.inner.sync < s.base.inner.sync := ReadState.consume_lt hb
        intro hfull
        omega
      · obtain ⟨hsync, hreader⟩ := atLock_of_step hfree hconsume hb
        rw [hsync, hreader]
        exact and_congr_right fun _ => (and_iff_right hconsume).symm

/-- The main thread after `n` interrupts for requests that are not waiting, before the reader has
done anything. -/
def afterInterrupts (n : Nat) : SyncPipe :=
  ⟨{ ReadState.start with inner := { ReadInner.new with sync := n } }, false⟩

theorem afterInterrupts_reachable (cap : Nat) {n : Nat} (h : n ≤ cap) :
    (system cap).Reachable always (afterInterrupts n) := by
  induction n with
  | zero => exact System.Reachable.of_init rfl
  | succ n ih =>
      have hcall : (system cap).step (afterInterrupts n) (.call (.intr ⟨1, by decide⟩)) =
          some ⟨(afterInterrupts n).base, true⟩ := rfl
      have hwrite : (system cap).step ⟨(afterInterrupts n).base, true⟩ .write =
          some (afterInterrupts (n + 1)) := if_pos ⟨rfl, h⟩
      exact ((ih (Nat.le_of_succ_le h)).next trivial hcall).next trivial hwrite

/-- **Waking the reader can deadlock, whatever the capacity of the pipe.** When the pipe is full, the
next request leaves the main thread in `send_sync` with the lock, and the reader, which alone could
make room, waits for the lock; no step is possible any more. This does not happen in runs where every
call finds room in the pipe, and in any run the step that deadlocks is the one that brings the second
thread to its place while the pipe is full. -/
theorem sync_pipe_deadlock (cap : Nat) :
    (∃ s, (system cap).Reachable always s ∧ Deadlocked cap s) ∧
      (∀ s, Deadlocked cap s → ∀ l, step cap s l = none) ∧
      (∀ s, (system cap).Reachable (Roomy cap) s → ¬Deadlocked cap s) ∧
      ∀ s l t, (system cap).Reachable always s → step cap s l = some t →
        (Deadlocked cap t ↔ Blocks cap s l) := by
  refine ⟨?_, fun s hs l => hs.stuck l, ?_, fun s l t hs hstep => step_deadlocked_iff (sync_le hs) hstep⟩
  · have hcall : (system cap).step (afterInterrupts cap) (.call (.intr ⟨1, by decide⟩)) =
        some ⟨(afterInterrupts cap).base, true⟩ := rfl
    exact ⟨_, (afterInterrupts_reachable cap (Nat.le_refl cap)).next trivial hcall, rfl,
      Nat.le_refl cap, rfl⟩
  · intro s hs hdead
    have hroom : s.writing = true → s.base.inner.sync < cap := by
      refine hs.invariant (P := fun s => s.writing = true → s.base.inner.sync < cap) ?_ ?_
      · rintro s rfl hw
        cases hw
      · intro s l t hs hok hstep
        exact step_room hs hok hstep
    exact Nat.not_lt.2 hdead.2.1 (hroom hdead.1)

/-- A pipe of one byte: two interrupts before the reader has started its loop. -/
theorem sync_pipe_deadlock_two_interrupts :
    ∃ s, (system 1).exec always start
        [.call (.intr ⟨1, by decide⟩), .write, .call (.intr ⟨1, by decide⟩)] = some s ∧
      Deadlocked 1 s :=
  ⟨_, rfl, by decide⟩

end SyncPipe

end Cuse2Net.Realdev

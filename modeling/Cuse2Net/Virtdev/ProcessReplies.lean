import Cuse2Net.Lib.Books
import Cuse2Net.Virtdev.ProcessRegistry
import Mathlib.Tactic.Abel

/-!
# Replies of the client

A request of the kernel may be replied to by the dispatcher, by an open thread, by the call that could
not send it, by an interrupt, by the receiver of a device, or by the walk over the table at the end.
`replies_at_most_once` counts the replies of the whole process: for every number, at most as many as
requests with that number have been read.

Each party has an account, with the numbers that it has replied to and those that it will still reply
to. A step of a device of its own accord puts nothing into its account (`own_account`), a message puts
the number of its request into one account at most (`handle_account`). The latter needs that the
registry has at most one device, because an interrupt goes to all of them; it holds since every handle
is the same (`one_device`).
-/

set_option autoImplicit false

namespace Cuse2Net.Virtdev

open Cuse2Net.Lib
open Cuse2Net.Lib.Bytes
open Cuse2Net.Proto
open Cuse2Net.Proto.Errno
open Cuse2Net.Cuse (BUF_SZ Message OpIn ReadBuf)

/-! ## Accounts

An account has the numbers of the requests that have been replied to and of those that will be. -/

/-- The number that a call will still reply to. -/
def Call.held (c : Call) : Multiset (BitVec 64) := if c.pc = .failing then {c.info.unique} else 0

/-- The number that an interrupt may still reply to. -/
def Interrupt.held (i : Interrupt) : Multiset (BitVec 64) :=
  match i.pc with
  | .sending _ | .failing => {i.info.unique}
  | _ => 0

namespace DeviceInner

/-- The number that the receiver is about to reply to. -/
def rxHeld (d : DeviceInner) : Multiset (BitVec 64) :=
  match d.rx with
  | .closing _ reply | .replying _ reply => {reply.unique}
  | _ => 0

/-- The numbers in the table. After the walk over the table its entries stay where they are. -/
def tableHeld (d : DeviceInner) : Multiset (BitVec 64) :=
  if d.rx = .terminated then 0 else (d.entries.map fun entry => entry.info.unique : List (BitVec 64))

/-- The account of a device. -/
def account (d : DeviceInner) : Multiset (BitVec 64) :=
  (d.replies.map fun r => r.2.unique : List (BitVec 64)) + (d.calls.map Call.held).sum +
    (d.interrupts.map Interrupt.held).sum + d.rxHeld + d.tableHeld

section Account

variable {e : Endian} {d d' : DeviceInner}

theorem replies_concat (d : DeviceInner) (id : Option Nat) (m : FuseReply) :
    (((d.replies ++ [(id, m)]).map fun r => r.2.unique : List (BitVec 64)) : Multiset (BitVec 64)) =
      (d.replies.map fun r => r.2.unique : List (BitVec 64)) + {m.unique} :=
  coe_map_append _ _ _

/-- A request that is put into the table. -/
theorem account_sent (seq : Sequence) (request : Request) (info : OpInInfo) :
    (d.afterSent seq request info).account ≤ d.account + {info.unique} := by
  have htable : (d.afterSent seq request info).tableHeld ≤ d.tableHeld + {info.unique} := by
    by_cases hrx : d.rx = .terminated
    · have hrx' : (d.afterSent seq request info).rx = .terminated := hrx
      rw [tableHeld, if_pos hrx']
      exact Multiset.zero_le _
    · have hrx' : (d.afterSent seq request info).rx ≠ .terminated := hrx
      rw [tableHeld, tableHeld, if_neg hrx, if_neg hrx', add_comm]
      exact Multiset.coe_le.2 ((entries_insert_sublist d.state.requests seq
        ⟨request, info, d.calls.length⟩).map fun entry => entry.info.unique).subperm
  have hcalls : ((d.calls ++ [(⟨info, .returned⟩ : Call)]).map Call.held).sum =
      (d.calls.map Call.held).sum := by
    rw [sum_map_concat]
    exact add_zero _
  calc (d.afterSent seq request info).account
      = (d.replies.map fun r => r.2.unique : List (BitVec 64)) + (d.calls.map Call.held).sum +
          (d.interrupts.map Interrupt.held).sum + d.rxHeld +
            (d.afterSent seq request info).tableHeld := by rw [← hcalls]; rfl
    _ ≤ (d.replies.map fun r => r.2.unique : List (BitVec 64)) + (d.calls.map Call.held).sum +
          (d.interrupts.map Interrupt.held).sum + d.rxHeld + (d.tableHeld + {info.unique}) :=
        add_le_add_right htable _
    _ = d.account + {info.unique} := (add_assoc _ _ _).symm

/-- A call that is recorded and has put nothing into the table. -/
theorem account_called (d : DeviceInner) (drawn : Nat) (c : Call) :
    { d with drawn := drawn, calls := d.calls ++ [c] }.account ≤ d.account + {c.info.unique} := by
  have hheld : c.held ≤ {c.info.unique} := by
    unfold Call.held
    split
    · exact le_refl _
    · exact Multiset.zero_le _
  calc { d with drawn := drawn, calls := d.calls ++ [c] }.account
      = (d.replies.map fun r => r.2.unique : List (BitVec 64)) + ((d.calls.map Call.held).sum + c.held) +
          (d.interrupts.map Interrupt.held).sum + d.rxHeld + d.tableHeld := by
        rw [← sum_map_concat]
        rfl
    _ = d.account + c.held := by
        unfold account
        abel
    _ ≤ d.account + {c.info.unique} := add_le_add_right hheld _

/-- A reply at once. -/
theorem account_replied (d : DeviceInner) (id : Option Nat) (m : FuseReply) :
    { d with replies := d.replies ++ [(id, m)] }.account = d.account + {m.unique} := by
  calc { d with replies := d.replies ++ [(id, m)] }.account
      = (d.replies.map fun r => r.2.unique : List (BitVec 64)) + {m.unique} +
          (d.calls.map Call.held).sum + (d.interrupts.map Interrupt.held).sum + d.rxHeld +
            d.tableHeld := by
        rw [← replies_concat]
        rfl
    _ = d.account + {m.unique} := by
        unfold account
        abel

theorem account_interrupt (d : DeviceInner) (i : Interrupt) :
    { d with interrupts := d.interrupts ++ [i] }.account ≤ d.account + {i.info.unique} := by
  have hheld : i.held ≤ {i.info.unique} := by
    unfold Interrupt.held
    split
    · exact le_refl _
    · exact le_refl _
    · exact Multiset.zero_le _
  calc { d with interrupts := d.interrupts ++ [i] }.account
      = (d.replies.map fun r => r.2.unique : List (BitVec 64)) + (d.calls.map Call.held).sum +
          ((d.interrupts.map Interrupt.held).sum + i.held) + d.rxHeld + d.tableHeld := by
        rw [← sum_map_concat]
        rfl
    _ = d.account + i.held := by
        unfold account
        abel
    _ ≤ d.account + {i.info.unique} := add_le_add_right hheld _

/-- A call that could not send replies. -/
theorem account_refuse {id : Nat} {info : OpInInfo} (hcall : d.calls[id]? = some ⟨info, .failing⟩) :
    (d.afterRefuse id info).account = d.account := by
  have hset : ((d.calls.set id ⟨info, .returned⟩).map Call.held).sum + {info.unique} =
      (d.calls.map Call.held).sum :=
    (sum_map_set Call.held hcall ⟨info, .returned⟩).trans (add_zero _)
  calc (d.afterRefuse id info).account
      = (d.replies.map fun r => r.2.unique : List (BitVec 64)) + {info.unique} +
          ((d.calls.set id ⟨info, .returned⟩).map Call.held).sum +
            (d.interrupts.map Interrupt.held).sum + d.rxHeld + d.tableHeld := by
        rw [show ({info.unique} : Multiset (BitVec 64)) = {(info.sendError EIO).unique} from rfl,
          ← replies_concat d (some id)]
        rfl
    _ = d.account := by
        rw [account, ← hset]
        abel

/-- An interrupt goes on, and may be dropped. -/
theorem account_interrupts {id : Nat} {i j : Interrupt} (hi : d.interrupts[id]? = some i)
    (hle : j.held ≤ i.held) :
    { d with interrupts := d.interrupts.set id j }.account ≤ d.account := by
  have hset : ((d.interrupts.set id j).map Interrupt.held).sum ≤
      (d.interrupts.map Interrupt.held).sum + 0 :=
    sum_map_set_le Interrupt.held hi (by rwa [add_zero])
  rw [add_zero] at hset
  exact add_le_add_left (add_le_add_left (add_le_add_right hset _) _) _

theorem account_refuseInterrupt {id : Nat} {info : OpInInfo}
    (hi : d.interrupts[id]? = some ⟨info, .failing⟩) (m : FuseReply) (hm : m.unique = info.unique) :
    { d with
      interrupts := d.interrupts.set id ⟨info, .returned⟩
      replies := d.replies ++ [(none, m)] }.account = d.account := by
  have hset : ((d.interrupts.set id ⟨info, .returned⟩).map Interrupt.held).sum + {m.unique} =
      (d.interrupts.map Interrupt.held).sum := by
    rw [hm]
    exact (sum_map_set Interrupt.held hi ⟨info, .returned⟩).trans (add_zero _)
  calc { d with
        interrupts := d.interrupts.set id ⟨info, .returned⟩
        replies := d.replies ++ [(none, m)] }.account
      = (d.replies.map fun r => r.2.unique : List (BitVec 64)) + {m.unique} +
          (d.calls.map Call.held).sum +
            ((d.interrupts.set id ⟨info, .returned⟩).map Interrupt.held).sum + d.rxHeld +
              d.tableHeld := by
        rw [← replies_concat d none]
        rfl
    _ = d.account := by
        rw [account, ← hset]
        abel

theorem account_same {is : List Interrupt} (h : is = d.interrupts) :
    { d with interrupts := is }.account = d.account := by rw [h]

/-- A step that replies to nobody and starts nothing. -/
theorem account_moved (hreplies : d'.replies = d.replies) (hcalls : d'.calls = d.calls)
    (hinterrupts : d'.interrupts = d.interrupts) (hrx : d'.rxHeld ≤ d.rxHeld)
    (htable : d'.tableHeld ≤ d.tableHeld) : d'.account ≤ d.account := by
  unfold account
  rw [hreplies, hcalls, hinterrupts]
  exact add_le_add (add_le_add_right hrx _) htable

theorem tableHeld_of_ne {d : DeviceInner} (h : d.rx ≠ .terminated) :
    d.tableHeld = (d.entries.map fun entry => entry.info.unique : List (BitVec 64)) :=
  if_neg h

/-- The receiver goes on with the table as it is and nothing new in its hands. -/
theorem account_goes_on {closed shut : Bool} {rx : RxPc} {answered : List Sequence}
    (hrx : d.rx ≠ .terminated)
    (hheld : { d with rx := rx }.rxHeld ≤ d.rxHeld) :
    { d with
      state := { d.state with closed := closed }
      shut := shut
      rx := rx
      answered := answered }.account ≤ d.account := by
  refine account_moved rfl rfl rfl hheld ?_
  rw [tableHeld_of_ne hrx, tableHeld]
  split
  · exact Multiset.zero_le _
  · exact le_refl _

theorem received_held (res : Except Proto.Error (Option Sequence × Response)) :
    { d with rx := received res }.rxHeld = 0 := by
  unfold received
  grind [rxHeld]

/-- The receiver takes a request out of the table. -/
theorem account_found {seq : Sequence} {ans : Answer} {entry : Entry}
    (hrx : d.rx = .removing seq ans) (hlookup : d.state.requests.lookup seq = some entry) :
    (d.afterFound e seq entry ans).account ≤ d.account := by
  have hne : d.rx ≠ .terminated := by
    rw [hrx]
    intro h
    cases h
  have hrxHeld : d.rxHeld = 0 := by rw [rxHeld, hrx]
  have htable : d.tableHeld = {entry.info.unique} +
      ((d.state.requests.erase seq).entries.map fun x => x.2.info.unique : List (BitVec 64)) := by
    rw [tableHeld_of_ne hne]
    have hperm := (entries_erase hlookup).map fun entry => entry.info.unique
    rw [List.map_cons, List.map_map (l := (AList.erase _ _).entries)] at hperm
    exact Multiset.coe_eq_coe.2 hperm
  -- the request is in the receiver's hands, or nobody will reply to it
  have hhand : (d.afterFound e seq entry ans).rxHeld ≤ {entry.info.unique} ∧
      (d.afterFound e seq entry ans).rx ≠ .terminated := by
    by_cases hans : Answerable entry.req ans
    · obtain ⟨reply, hunique, hafter⟩ := afterRemove_of_answerable e hans
      rcases hafter with hafter | hafter <;>
        simp [afterFound, rxHeld, hafter, hunique]
    · simp [afterFound, rxHeld, afterRemove_of_not_answerable e hans]
  have htable' : (d.afterFound e seq entry ans).tableHeld =
      ((d.state.requests.erase seq).entries.map fun x => x.2.info.unique : List (BitVec 64)) := by
    rw [tableHeld_of_ne hhand.2, entries, List.map_map]
    rfl
  calc (d.afterFound e seq entry ans).account
      = (d.replies.map fun r => r.2.unique : List (BitVec 64)) + (d.calls.map Call.held).sum +
          (d.interrupts.map Interrupt.held).sum + (d.afterFound e seq entry ans).rxHeld +
            (d.afterFound e seq entry ans).tableHeld := rfl
    _ ≤ (d.replies.map fun r => r.2.unique : List (BitVec 64)) + (d.calls.map Call.held).sum +
          (d.interrupts.map Interrupt.held).sum + {entry.info.unique} +
            (d.afterFound e seq entry ans).tableHeld :=
        add_le_add_left (add_le_add_right hhand.1 _) _
    _ = d.account := by
        rw [account, htable, htable', hrxHeld]
        abel

/-- The receiver replies. -/
theorem account_reply {entry : Entry} {reply : FuseReply} (hrx : d.rx = .replying entry reply) :
    (d.afterReply entry reply).account = d.account := by
  have hheld : d.rxHeld = {reply.unique} := by rw [rxHeld, hrx]
  have htable : (d.afterReply entry reply).tableHeld = d.tableHeld := by
    rw [tableHeld, tableHeld, hrx]
    rfl
  calc (d.afterReply entry reply).account
      = (d.replies.map fun r => r.2.unique : List (BitVec 64)) + {reply.unique} +
          (d.calls.map Call.held).sum + (d.interrupts.map Interrupt.held).sum + 0 +
            (d.afterReply entry reply).tableHeld := by
        rw [← replies_concat d (some entry.call)]
        rfl
    _ = d.account := by
        rw [account, htable, hheld]
        abel

/-- The receiver replies to everything in the table. -/
theorem account_sweep {order : List Entry} (hrx : d.rx = .sweep) (hperm : order.Perm d.entries) :
    (d.afterSweep order).account = d.account := by
  have hheld : d.rxHeld = 0 := by rw [rxHeld, hrx]
  have htable : d.tableHeld = (order.map fun entry => entry.info.unique : List (BitVec 64)) := by
    rw [tableHeld, if_neg (by rw [hrx]; intro h; cases h)]
    exact Multiset.coe_eq_coe.2 (hperm.symm.map _)
  have hreplies : ((d.afterSweep order).replies.map fun r => r.2.unique) =
      (d.replies.map fun r => r.2.unique) ++ order.map fun entry => entry.info.unique := by
    rw [afterSweep, List.map_append, List.map_map]
    rfl
  calc (d.afterSweep order).account
      = ((d.afterSweep order).replies.map fun r => r.2.unique : List (BitVec 64)) +
          (d.calls.map Call.held).sum + (d.interrupts.map Interrupt.held).sum + 0 + 0 := rfl
    _ = d.account := by
        rw [account, htable, hheld, hreplies, ← Multiset.coe_add]
        abel

/-- The steps of `try_interrupt`. -/
def interrupting : DeviceLabel → Bool
  | .interrupt .. | .sendInterrupt .. | .refuseInterrupt .. => true
  | _ => false

/-- The other steps leave the interrupts as they are. -/
theorem step_interrupts {l : DeviceLabel} (hl : interrupting l = false) (h : d.step e l = some d') :
    d'.interrupts = d.interrupts := by
  cases l with
  | interrupt | sendInterrupt | refuseInterrupt => cases hl
  | call req info out =>
      obtain ⟨request, hreq, rfl⟩ := Option.map_eq_some_iff.1 h
      unfold handleCuseInternal
      split <;> rfl
  | _ =>
      simp only [step] at h
      grind

/-- **A step of a device of its own accord** puts nothing into its account. -/
theorem own_account {l : DeviceLabel} (hown : own l = true) (h : d.step e l = some d') :
    d'.account ≤ d.account := by
  cases hl : interrupting l with
  | true =>
      cases l with
      | sendInterrupt id ok =>
          simp only [step] at h
          split at h
          · next info seq hi =>
            obtain rfl := Option.some.inj h
            refine account_interrupts hi ?_
            cases ok with
            | true => exact Multiset.zero_le _
            | false => exact le_refl _
          · cases h
      | refuseInterrupt id =>
          simp only [step] at h
          split at h
          · next info hi =>
            obtain rfl := Option.some.inj h
            exact le_of_eq (account_refuseInterrupt hi _ rfl)
          · cases h
      | interrupt => cases hown
      | _ => cases hl
  | false =>
      have hinterrupts := step_interrupts hl h
      cases step_move h with
      | callSent | callFails | draw => cases hown
      | refuseInterrupt => cases hl
      | interrupts => exact le_of_eq (account_same hinterrupts)
      | refuse id info hcall => exact le_of_eq (account_refuse hcall)
      | check hrx =>
          refine account_goes_on (by rw [hrx]; intro h; cases h) ?_
          split <;> exact Multiset.zero_le _
      | recv res hrx =>
          refine account_goes_on (by rw [hrx]; intro h; cases h) ?_
          exact le_of_eq_of_le (received_held res) (Multiset.zero_le _)
      | removeFound seq ans entry hrx hlookup => exact account_found hrx hlookup
      | removeMissing seq ans hrx hlookup =>
          exact account_goes_on (by rw [hrx]; intro h; cases h) (Multiset.zero_le _)
      | close entry reply hrx =>
          refine account_goes_on (by rw [hrx]; intro h; cases h) ?_
          rw [rxHeld, rxHeld, hrx]
      | reply entry reply hrx => exact le_of_eq (account_reply hrx)
      | shutdown hrx => exact account_goes_on (by rw [hrx]; intro h; cases h) (Multiset.zero_le _)
      | sweep order hrx hperm => exact le_of_eq (account_sweep hrx hperm)

end Account

end DeviceInner

/-! ## What the dispatcher puts into an account -/

section Calls

variable (e : Endian) (info : OpInInfo) (d : DeviceInner)

theorem handleCuse_account (req : Pending) (request : Request) (out : SendOutcome) :
    (d.handleCuse e req request info out).1.account ≤ d.account + {info.unique} := by
  unfold DeviceInner.handleCuse DeviceInner.handleCuseInternal
  dsimp only
  split
  · exact DeviceInner.account_sent _ _ _
  · exact DeviceInner.account_called d _ ⟨info, .panicked⟩
  · exact DeviceInner.account_called d _ ⟨info, .failing⟩

theorem handleIoctl_account (params : Cuse.IoctlParams) (data : List UInt8) (out : SendOutcome) :
    (d.handleIoctl e info params data out).1.account ≤ d.account + {info.unique} := by
  unfold DeviceInner.handleIoctl DeviceInner.ioctl
  split
  · next d' h =>
    split at h
    · obtain rfl := Except.ok.inj h
      exact le_of_eq (DeviceInner.account_replied d none (info.sendError .EINVAL))
    · cases h
    · next arg _ =>
      obtain rfl := Except.ok.inj h
      exact handleCuse_account e info d (.ioctl ⟨params.cmd⟩ arg) (.ioctl ⟨params.cmd⟩) out
  · exact Multiset.le_add_right _ _

theorem handleInterrupt_account (unique : BitVec 64) :
    (d.handleInterrupt info unique).1.account ≤ d.account + {info.unique} :=
  DeviceInner.account_interrupt d ⟨info, d.tryInterrupt unique⟩

end Calls

/-- The thread will reply to the open request. -/
def OpenPc.owes : OpenPc → Bool
  | opening | replying | dropping true | refusing => true
  | _ => false

/-- The number that an open thread will still reply to. -/
def OpenThread.owed (t : OpenThread) : Multiset (BitVec 64) :=
  if t.pc.owes then {t.info.unique} else 0

/-- The account of the device of an open thread. -/
def OpenThread.inner (t : OpenThread) : Multiset (BitVec 64) :=
  (t.device.map DeviceInner.account).getD 0

/-- The account of an open thread with its device. -/
def OpenThread.account (t : OpenThread) : Multiset (BitVec 64) := t.owed + t.inner

namespace Process

/-- The account of the process. -/
def account (s : Process) : Multiset (BitVec 64) :=
  (s.replies.map FuseReply.unique : List (BitVec 64)) + (s.opens.map OpenThread.account).sum

section Account

variable {e : Endian} {args : CliOpts} {s : Process} {info : OpInInfo}

theorem account_reply (s : Process) (m : FuseReply) :
    (s.reply m).account = s.account + {m.unique} := by
  rw [account, reply, coe_map_append, account, add_right_comm]
  rfl

/-- A device is replaced. -/
theorem account_set {s : Process} {id : Nat} {t t' : OpenThread} {m : Multiset (BitVec 64)}
    (ht : s.opens[id]? = some t) (hle : t'.account ≤ t.account + m) :
    (s.replies.map FuseReply.unique : List (BitVec 64)) +
      ((s.opens.set id t').map OpenThread.account).sum ≤ s.account + m := by
  rw [account, add_assoc]
  exact add_le_add_right (sum_map_set_le OpenThread.account ht hle) _

theorem onDevice_account {f : DeviceInner → DeviceInner × Bool} {m : Multiset (BitVec 64)}
    (hf : ∀ d, (f d).1.account ≤ d.account + m) (id : Nat) :
    (s.onDevice id f).account ≤ s.account + m := by
  unfold onDevice
  split
  · next t ht =>
    split
    · next d hd =>
      refine account_set ht ?_
      have hinner : t.inner = d.account := by rw [OpenThread.inner, hd, Option.map_some, Option.getD_some]
      rw [OpenThread.account, OpenThread.account, hinner, add_assoc]
      exact add_le_add_right (hf { d with drawn := s.drawn }) _
    · exact Multiset.le_add_right _ _
  · exact Multiset.le_add_right _ _

theorem forFh_account {f : DeviceInner → DeviceInner × Bool} {m : Multiset (BitVec 64)}
    (hf : ∀ d, (f d).1.account ≤ d.account + m) (fh : Fh) :
    (s.forFh fh f).account ≤ s.account + m := by
  unfold forFh
  split
  · exact onDevice_account hf _
  · exact Multiset.le_add_right _ _

theorem create_account (params : Cuse.OpenParams) (spawned : Bool) :
    (s.create info params spawned).account ≤ s.account + {info.unique} := by
  unfold create
  dsimp only
  split
  · exact Multiset.le_add_right _ _
  · next hdl _ =>
    split
    · exact Multiset.le_add_right _ _
    · split
      · have hthread : (⟨hdl, .opening, info, params.openFlags, none⟩ : OpenThread).account =
            {info.unique} := add_zero _
        rw [account, sum_map_concat, hthread, ← add_assoc]
        exact le_refl _
      · exact Multiset.le_add_right _ _

theorem release_account (fh : Fh) (out : SendOutcome) :
    (s.release e fh info out).account ≤ s.account + {info.unique} := by
  unfold release
  dsimp only
  split
  · exact onDevice_account (s := { s with devices := s.devices.erase fh })
      (fun d => handleCuse_account e info d .release .release out) _
  · exact Multiset.le_add_right _ _

/-- Each device of the registry may reply to the interrupt. -/
theorem interruptAll_account (unique : BitVec 64) (devs : List DeviceState) (s : Process) :
    (s.interruptAll info unique devs).account ≤ s.account + devs.length • {info.unique} := by
  induction devs generalizing s with
  | nil => exact Multiset.le_add_right _ _
  | cons dev devs ih =>
      cases dev with
      | opening id =>
          refine (ih s).trans (add_le_add_right ?_ _)
          rw [List.length_cons, succ_nsmul]
          exact Multiset.le_add_right _ _
      | running id =>
          have hone := onDevice_account (s := s) (fun d => handleInterrupt_account info d unique) id
          simp only [interruptAll, List.length_cons, succ_nsmul']
          rw [← add_assoc]
          split
          · exact hone.trans (Multiset.le_add_right _ _)
          · exact (ih _).trans (add_le_add_left hone _)

/-- What `cuse_complete_ioctl` sends has the number of the request. -/
theorem completeIoctl_account (writev : Except Errno Nat) (unique : BitVec 64)
    (params : Cuse.IoctlParams) (data : List UInt8) :
    ((((cuseCompleteIoctl e writev unique params data).2.toList.map FuseReply.unique :
      List (BitVec 64))) : Multiset (BitVec 64)) ≤ {unique} := by
  unfold cuseCompleteIoctl
  dsimp only
  repeat' split
  all_goals first | exact le_refl _ | exact Multiset.zero_le _

/-- Replies of the dispatcher. -/
theorem account_replies {ms : List FuseReply} {dispatcher : Dispatcher} {m : Multiset (BitVec 64)}
    (hle : ((ms.map FuseReply.unique : List (BitVec 64)) : Multiset (BitVec 64)) ≤ m) :
    { s with replies := s.replies ++ ms, dispatcher := dispatcher }.account ≤ s.account + m := by
  rw [account, coe_map_append, account, add_right_comm]
  exact add_le_add_right hle _

theorem interrupt_account (hone : s.devices.entries.length ≤ 1) (unique : BitVec 64) :
    (s.interrupt info unique).account ≤ s.account + {info.unique} := by
  refine (interruptAll_account unique _ s).trans (add_le_add_right ?_ _)
  rw [List.length_map]
  calc s.devices.entries.length • ({info.unique} : Multiset (BitVec 64))
      ≤ 1 • {info.unique} := nsmul_le_nsmul_left (Multiset.zero_le _) hone
    _ = {info.unique} := one_nsmul _

/-- **A message puts the number of its request into the account, at most once.** -/
theorem handle_account (hone : s.devices.entries.length ≤ 1) (op : OpIn) (env : Outcomes) :
    (s.handle e args info op env).account ≤ s.account + {info.unique} := by
  cases op with
  | cuseInit version flags =>
      simp only [handle]
      split
      · split
        · exact le_of_eq (account_reply s _)
        · exact le_of_eq (account_reply s _)
      · exact le_of_eq (account_reply s _)
  | fuseOpen params => exact create_account params env.spawned
  | fuseRelease params => exact release_account ⟨params.fh⟩ env.out
  | fuseWrite params data => exact forFh_account (fun d => handleCuse_account e info d _ _ _) _
  | fuseRead params => exact forFh_account (fun d => handleCuse_account e info d _ _ _) _
  | fuseIoctl params data =>
      have hreply := completeIoctl_account (e := e) env.writev info.unique params data
      simp only [handle]
      split
      · exact forFh_account (fun d => handleIoctl_account e info d params data _) _
      · next hcomplete =>
        rw [hcomplete] at hreply
        exact account_replies hreply
      · next hcomplete =>
        rw [hcomplete] at hreply
        exact account_replies hreply
  | fuseInterrupt unique => exact interrupt_account hone unique
  | fusePoll params => exact forFh_account (fun d => handleCuse_account e info d _ _ _) _
  | unknown => exact le_of_eq (account_reply s _)

/-! ## The books -/

/-- Every number in the account has been read, as often as it is there. -/
def Books (s : Process) : Prop := s.account ≤ (s.requests : Multiset (BitVec 64))

theorem onDevice_requests (s : Process) (f : DeviceInner → DeviceInner × Bool) (id : Nat) :
    (s.onDevice id f).requests = s.requests := by
  unfold onDevice
  grind

theorem interruptAll_requests (unique : BitVec 64) (devs : List DeviceState) (s : Process) :
    (s.interruptAll info unique devs).requests = s.requests := by
  induction devs generalizing s with
  | nil => rfl
  | cons dev devs ih =>
      cases dev with
      | opening id => exact ih s
      | running id =>
          simp only [interruptAll]
          split
          · exact onDevice_requests s _ id
          · rw [ih, onDevice_requests]

theorem handle_requests (op : OpIn) (env : Outcomes) :
    (s.handle e args info op env).requests = s.requests := by
  cases op with
  | fuseInterrupt unique => exact interruptAll_requests unique _ s
  | unknown => rfl
  | _ =>
      simp only [handle, forFh, release, create, unimplemented, reply]
      grind [onDevice_requests]

theorem Books.dispatch (h : s.Books) (hone : s.devices.entries.length ≤ 1) (msg : Message)
    (env : Outcomes) : (s.dispatch e args msg env).Books := by
  unfold Process.dispatch
  dsimp only
  split
  · exact h
  · next info op hread =>
    -- the number is recorded before the request is handled
    refine (handle_account (s := { s with
      msg := (s.msg.read msg).2, requests := s.requests ++ [info.unique] }) hone op env).trans ?_
    rw [handle_requests]
    calc s.account + {info.unique} ≤ (s.requests : Multiset (BitVec 64)) + {info.unique} :=
          add_le_add_left h _
      _ = ((s.requests ++ [info.unique] : List (BitVec 64)) : Multiset (BitVec 64)) :=
          Multiset.coe_add _ _

/-- A thread pays with replies for what it no longer owes. -/
theorem account_paid {s' : Process} {id : Nat} {t t' : OpenThread} (ms : List FuseReply)
    (ht : s.opens[id]? = some t) (hreplies : s'.replies = s.replies ++ ms)
    (hopens : s'.opens = s.opens.set id t') (hinner : t'.inner ≤ t.inner)
    (howed : (ms.map FuseReply.unique : List (BitVec 64)) + t'.owed ≤ t.owed) :
    s'.account ≤ s.account := by
  have hle : (ms.map FuseReply.unique : List (BitVec 64)) + t'.account ≤ t.account + 0 := by
    rw [OpenThread.account, ← add_assoc, add_zero]
    exact add_le_add howed hinner
  have hpaid := sum_map_set_pay OpenThread.account ht hle
  rw [add_zero] at hpaid
  rw [account, hreplies, hopens, coe_map_append, add_assoc, account]
  exact add_le_add_right hpaid _

/-- A new device has an empty account. -/
theorem threadDevice_inner (t : OpenThread) (l : OpenLabel) (pc : OpenPc) :
    { t with pc := pc, device := s.threadDevice t l }.inner ≤ t.inner := by
  unfold threadDevice
  split
  · exact Multiset.zero_le _
  · exact le_refl _

/-- A step of an open thread: the reply comes with the step in which the thread stops owing it. -/
theorem thread_account {id : Nat} {t : OpenThread} {l : OpenLabel} {pc : OpenPc}
    (ht : s.opens[id]? = some t) (hpc : t.pc.step l = some pc) :
    { s.threadEffect e id t l with
      opens := s.opens.set id { t with pc := pc, device := s.threadDevice t l } }.account ≤
        s.account := by
  have hinner := threadDevice_inner (s := s) t l pc
  obtain ⟨hdl, pc₀, info, flags, device⟩ := t
  match pc₀, l, hpc with
  | .opening, .opened true, rfl | .opening, .opened false, rfl | .committing, .commit, rfl
  | .dropping true, .drop, rfl | .dropping false, .drop, rfl =>
      exact account_paid [] ht (List.append_nil _).symm rfl hinner (le_of_eq (zero_add _))
  | .replying, .reply true, rfl | .replying, .reply false, rfl | .refusing, .refuse, rfl =>
      exact account_paid [_] ht rfl rfl hinner (le_of_eq (add_zero _))

theorem threadEffect_requests (id : Nat) (t : OpenThread) (l : OpenLabel) :
    (s.threadEffect e id t l).requests = s.requests := by
  cases l <;> rfl

/-- **What one step preserves.** -/
theorem Books.step {s' : Process} {l : ProcessLabel} (h : s.Books)
    (hone : s.devices.entries.length ≤ 1) (hstep : s.step e args l = some s') : s'.Books := by
  cases l with
  | message msg env =>
      rw [Process.step, Option.ite_none_right_eq_some] at hstep
      obtain rfl := Option.some.inj hstep.2
      exact h.dispatch hone msg env
  | thread id l =>
      obtain ⟨t, ht, hstep⟩ := Option.bind_eq_some_iff.1 hstep
      obtain ⟨pc, hpc, rfl⟩ := Option.map_eq_some_iff.1 hstep
      refine (thread_account ht hpc).trans ?_
      show _ ≤ ((s.threadEffect e id t l).requests : Multiset (BitVec 64))
      rw [threadEffect_requests]
      exact h
  | device id l =>
      rw [Process.step, Option.ite_none_right_eq_some] at hstep
      obtain ⟨hown, hstep⟩ := hstep
      obtain ⟨t, ht, hstep⟩ := Option.bind_eq_some_iff.1 hstep
      obtain ⟨d, hd, hstep⟩ := Option.bind_eq_some_iff.1 hstep
      obtain ⟨d', hd', rfl⟩ := Option.map_eq_some_iff.1 hstep
      have hinner : { t with device := some d' }.inner ≤ t.inner := by
        rw [OpenThread.inner, OpenThread.inner, hd]
        have hown' := DeviceInner.own_account hown hd'
        exact hown'
      refine le_trans ?_ h
      exact account_paid [] ht (List.append_nil _).symm rfl hinner (le_of_eq (zero_add _))
  | draw =>
      obtain rfl := Option.some.inj hstep
      exact h

theorem Books.of_reachable (h : (system e args).Reachable always s) : s.Books := by
  -- a step needs that the map has at most one device, which every reachable state has
  suffices hinv : (system e args).Reachable always s ∧ s.Books from hinv.2
  refine h.invariant (P := fun s => (system e args).Reachable always s ∧ s.Books) ?_ ?_
  · rintro s ⟨msg, rfl⟩
    exact ⟨.of_init ⟨msg, rfl⟩, le_refl _⟩
  · rintro s l s' ⟨hreach, hbooks⟩ hok hstep
    exact ⟨hreach.next hok hstep, hbooks.step (one_device hreach) hstep⟩

/-- The replies of a device are in the account of its thread. -/
theorem replies_le_account (t : OpenThread) :
    ((((t.device.map fun d => d.replies.map Prod.snd).getD []).map FuseReply.unique :
      List (BitVec 64)) : Multiset (BitVec 64)) ≤ t.account := by
  unfold OpenThread.account OpenThread.inner
  cases t.device with
  | none => exact Multiset.zero_le _
  | some d =>
      rw [Option.map_some, Option.getD_some, List.map_map, Option.map_some, Option.getD_some]
      refine le_trans ?_ (Multiset.le_add_left _ _)
      simp only [DeviceInner.account, add_assoc]
      exact Multiset.le_add_right _ _

theorem allReplies_le_account (s : Process) :
    ((s.allReplies.map FuseReply.unique : List (BitVec 64)) : Multiset (BitVec 64)) ≤ s.account := by
  rw [allReplies, coe_map_append]
  refine add_le_add_right ?_ _
  induction s.opens with
  | nil => exact Multiset.zero_le _
  | cons t ts ih =>
      rw [List.flatMap_cons, coe_map_append, List.map_cons, List.sum_cons]
      exact add_le_add (replies_le_account t) ih

end Account

/-- **No request is replied to twice.** In every run of the client, whatever the kernel and the servers
send and however the threads interleave, the replies with some number are at most as many as the
requests with that number. -/
theorem replies_at_most_once {e : Endian} {args : CliOpts} {s : Process}
    (h : (system e args).Reachable always s) (u : BitVec 64) :
    (s.allReplies.map FuseReply.unique).count u ≤ s.requests.count u := by
  have hle := (allReplies_le_account s).trans (Books.of_reachable h)
  have hcount := Multiset.count_le_of_le u hle
  rwa [Multiset.coe_count, Multiset.coe_count] at hcount

/-- The dispatcher calls a device and does not panic. -/
theorem onDevice_eq {s : Process} {id : Nat} {t : OpenThread} {d d' : DeviceInner}
    {f : DeviceInner → DeviceInner × Bool} (ht : s.opens[id]? = some t) (hd : t.device = some d)
    (hf : f { d with drawn := s.drawn } = (d', false)) :
    s.onDevice id f =
      { s with opens := s.opens.set id { t with device := some d' }, drawn := d'.drawn } := by
  simp only [onDevice, ht, hd, hf]
  rfl

/-- A device is opened, and its receiver gets the two bytes that the kernel asks for: both requests are
replied to, the first one by the open thread and the second one by the receiver. -/
theorem replies_at_most_once_read :
    ∃ s, (system .little ⟨none, none, []⟩).Reachable always s ∧ s.requests = [5, 9] ∧
      s.allReplies.map FuseReply.unique = [5, 9] ∧
      (s.allReplies.map FuseReply.unique).count 9 ≤ s.requests.count 9 := by
  obtain ⟨rb, hrb⟩ : ∃ rb : ReadBuf, rb.buf.addr = 0 :=
    ⟨⟨⟨0, List.replicate BUF_SZ 0⟩, Nat.dvd_zero 64, List.length_replicate⟩, rfl⟩
  let openMsg : Message := ⟨[48, 0, 0, 0, 14, 0, 0, 0] ++ [5, 0, 0, 0, 0, 0, 0, 0] ++
    List.replicate 24 0 ++ [2, 0, 0, 0, 0, 0, 0, 0], by decide⟩
  let readMsg : Message := ⟨[80, 0, 0, 0, 15, 0, 0, 0] ++ [9, 0, 0, 0, 0, 0, 0, 0] ++
    List.replicate 40 0 ++ [2, 0, 0, 0] ++ List.replicate 20 0, by decide⟩
  have hopen : OpIn.read .little ((start rb).msg.read openMsg).1 =
      .ok (⟨14, 5, 0, 0, 0, 0⟩, .fuseOpen ⟨2, 0⟩) := by
    rw [ReadBuf.read_fst, start, hrb]
    decide
  have hread : OpIn.read .little ((rb.read openMsg).2.read readMsg).1 =
      .ok (⟨15, 9, 0, 0, 0, 0⟩, .fuseRead ⟨0, 0, 2, 0, 0, 0⟩) := by
    rw [ReadBuf.read_fst, ReadBuf.addr_read, hrb]
    decide
  let env : Outcomes := ⟨true, .sent, .ok 0⟩
  let seq : Sequence := ⟨1, by decide⟩
  -- the dispatcher starts an open thread, which replies and commits the device
  let opening : Process := ⟨(rb.read openMsg).2, true, 1,
    (∅ : AList fun _ : Fh => DeviceState).insert ⟨0⟩ (.opening 0), .running,
    [⟨⟨0⟩, .opening, ⟨5⟩, 0, none⟩], 0, [5], []⟩
  have hopening : (system .little ⟨none, none, []⟩).Reachable always opening := by
    have hinit : (system .little ⟨none, none, []⟩).init (start rb) := ⟨rb, rfl⟩
    refine (System.Reachable.of_init hinit).next (l := .message openMsg env) trivial ?_
    show some ((start rb).dispatch .little ⟨none, none, []⟩ openMsg env) = _
    simp only [dispatch, hopen]
    rfl
  let opened : Process := { opening with
    devices := (∅ : AList fun _ : Fh => DeviceState).insert ⟨0⟩ (.running 0)
    opens := [⟨⟨0⟩, .running, ⟨5⟩, 0, some (.start 0)⟩]
    replies := [OpInInfo.sendResponse ⟨5⟩ [fuseOpenOut .little ⟨0⟩ 0]] }
  have hthread : (system .little ⟨none, none, []⟩).exec always opening
      [.thread 0 (.opened true), .thread 0 (.reply true), .thread 0 .commit] = some opened := rfl
  have hopened := hopening.trans (System.reaches_of_exec hthread)
  -- the read request goes to the device
  let asked : DeviceInner := { DeviceInner.start 1 with
    state := ⟨false, (∅ : AList fun _ : Sequence => Entry).insert seq ⟨.read, ⟨9⟩, 0⟩⟩
    calls := [⟨⟨9⟩, .returned⟩]
    sent := [(seq, .read)] }
  have hasked : (DeviceInner.start 0).handleCuse .little (.read ⟨0, 2, ⟨0⟩⟩) .read ⟨9⟩ .sent =
      (asked, false) := rfl
  let taken : Process := { opened with
    msg := ((rb.read openMsg).2.read readMsg).2
    requests := [5, 9] }
  let reading : Process := { taken with
    opens := [⟨⟨0⟩, .running, ⟨5⟩, 0, some asked⟩]
    drawn := 1 }
  have hcall : taken.onDevice 0
      (DeviceInner.handleCuse .little (.read ⟨0, 2, ⟨0⟩⟩) .read ⟨9⟩ .sent) = reading :=
    (onDevice_eq (s := taken) (d := .start 0) rfl rfl hasked).trans rfl
  have hreading : (system .little ⟨none, none, []⟩).Reachable always reading := by
    refine hopened.next (l := .message readMsg env) trivial ?_
    show some (opened.dispatch .little ⟨none, none, []⟩ readMsg env) = _
    simp only [dispatch, opened, opening, hread]
    exact congrArg some hcall
  -- the receiver gets the response and replies
  let answered : DeviceInner := { asked with
    state := .default
    answered := [seq]
    replies := [(some 0, OpInInfo.sendResponse ⟨9⟩ [[65, 66]])] }
  have hreceiver : (system .little ⟨none, none, []⟩).exec always reading
      [.device 0 .check, .device 0 (.recv (.ok (some seq, .read [65, 66]))), .device 0 .remove,
        .device 0 .reply] =
      some { reading with opens := [⟨⟨0⟩, .running, ⟨5⟩, 0, some answered⟩] } := rfl
  have hreplied := hreading.trans (System.reaches_of_exec hreceiver)
  exact ⟨_, hreplied, rfl, rfl, replies_at_most_once hreplied 9⟩

end Process

end Cuse2Net.Virtdev

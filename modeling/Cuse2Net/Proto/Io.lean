import Cuse2Net.Lib.ByteStream
import Cuse2Net.Proto.Basic

/-!
# Receiving and sending on the connection

Model of `proto/io.rs`. `recvExactTimeout` fills a buffer from the connection, piece by piece: the
first piece under the initial timeout, the rest in a loop under the continuation timeout; a piece of
no bytes stands for "try again". The caller's count of bytes left in the message is lowered when the
buffer has been filled.

Every piece takes bytes off the stream, or fails because nothing more is delivered
(`recvTimeout_cases`, `recvFirst_cases`); `recvLoop_cases` adds the pieces up. The main result of this
module is `recvExactTimeout_yields`: with a continuation timeout, a buffer is filled with the next
bytes of the stream however the stream is cut into pieces. On a stream that may also fail or fall
silent, `recvExactTimeout_takes` says that whatever fills the buffer is the next bytes of the stream.
-/

set_option autoImplicit false

namespace Cuse2Net.Proto

open Cuse2Net.Lib

/-- `TIMEOUT_READ`, in seconds. -/
def TIMEOUT_READ : Nat := 3

/-- `MAX_MSG_SIZE`: size of the receive buffer of the server. -/
def MAX_MSG_SIZE : Nat := 128 * 1024

/-- Store bytes in a buffer from position `pos` on. -/
def storeAt (buf : List UInt8) (pos : Nat) (bs : List UInt8) : List UInt8 :=
  buf.take pos ++ bs ++ buf.drop (pos + bs.length)

/-- `recv_timeout` into a buffer of `n` bytes. No bytes come back when the socket became readable
only after a wait. -/
def recvTimeout (n : Nat) : Reader Failure (List UInt8) := fun s =>
  if n = 0 then (.error .panic, s)
  else
    match recvNow n s with
    | (.again, s') =>
        match waitReadable s' with
        -- the caller has to receive again
        | (true, s'') => (.ok [], s'')
        | (false, s'') => (Err (.io .ETIMEDOUT), s'')
    | (.bytes [], s') => (Err (.io .EPIPE), s')
    | (.bytes (b :: bs), s') => (.ok (b :: bs), s')
    | (.failed errno, s') => (Err (.io (.fromI32 errno)), s')

/-! ## Progress -/

/-- Arrivals and bytes still to come. -/
def weight (s : Script) : Nat := (s.map fun a => 1 + a.bytes.length).sum

@[simp] theorem weight_cons (a : Arrival) (s : Script) :
    weight (a :: s) = 1 + a.bytes.length + weight s := by
  simp [weight]

theorem weight_unread_le (bs : List UInt8) (s : Script) :
    weight (Script.unread bs s) ≤ 1 + bs.length + weight s := by
  cases bs with
  | nil =>
      show weight s ≤ 1 + 0 + weight s
      omega
  | cons b bs =>
      rw [Script.unread, weight_cons]
      exact Nat.le_refl _

/-- A successful receive leaves less to come. -/
theorem recvTimeout_weight_lt {n : Nat} {s s' : Script} {bs : List UInt8}
    (h : recvTimeout n s = (.ok bs, s')) : weight s' < weight s := by
  unfold recvTimeout at h
  by_cases hn : n = 0
  · simp [hn] at h
  · rw [if_neg hn] at h
    cases s with
    | nil => simp [recvNow, Err] at h
    | cons a t =>
        cases a with
        | data b more =>
            -- at least the first byte is gone, and what is put back is one arrival at most
            obtain ⟨m, rfl⟩ := Nat.exists_eq_succ_of_ne_zero hn
            simp only [recvNow, List.take_succ_cons, List.drop_succ_cons, Prod.mk.injEq] at h
            obtain ⟨-, rfl⟩ := h
            have hle := weight_unread_le (more.drop m) t
            rw [List.length_drop] at hle
            rw [weight_cons]
            simp only [Arrival.bytes, List.length_cons]
            omega
        | wait =>
            simp only [recvNow, waitReadable, Prod.mk.injEq] at h
            obtain ⟨-, rfl⟩ := h
            rw [weight_cons]
            omega
        | silence => simp [recvNow, waitReadable, Err] at h
        | fault errno => simp [recvNow, Err] at h

/-- The loop of `recv_exact_timeout_internal` that fills `buf` from `pos` on, with `len` bytes still
missing. -/
def recvLoop (buf : List UInt8) (pos len : Nat) (s : Script) :
    Except Failure (List UInt8) × Script :=
  if len = 0 then (.ok buf, s)
  else
    match _h : recvTimeout len s with
    | (.error f, s') => (.error f, s')
    | (.ok bs, s') =>
        if bs.length ≤ len then
          recvLoop (storeAt buf pos bs) (pos + bs.length) (len - bs.length) s'
        else (.error .panic, s')
  termination_by weight s
  decreasing_by exact recvTimeout_weight_lt (by assumption)

/-- The receive call with `MSG_WAITALL` that fills `buf` from `pos` on; its result count is not
looked at. -/
def recvWaitAllAt (buf : List UInt8) (pos : Nat) : Reader Failure (List UInt8) := fun s =>
  match recvWaitAll (buf.length - pos) s with
  | (.bytes bs, s') => (.ok (storeAt buf pos bs), s')
  | (.again, s') => (Err (.io .EAGAIN), s')
  | (.failed errno, s') => (Err (.io (.fromI32 errno)), s')

/-- The first piece of `recv_exact_timeout_internal`: how many bytes it stored. -/
def recvFirst (buf : List UInt8) (toInitial : Option Nat) : Reader Failure (List UInt8 × Nat) :=
  fun s =>
    if buf.length = 0 then (.ok (buf, 0), s)
    else
      match toInitial with
      | some _ =>
          match recvTimeout buf.length s with
          | (.error f, s') => (.error f, s')
          | (.ok bs, s') =>
              if bs.length ≤ buf.length then (.ok (storeAt buf 0 bs, bs.length), s')
              else (.error .panic, s')
      | none =>
          match recvBlocking buf.length s with
          | (.bytes [], s') => (Err (.io .EPIPE), s')
          | (.bytes (b :: bs), s') =>
              if (b :: bs).length ≤ buf.length then
                (.ok (storeAt buf 0 (b :: bs), (b :: bs).length), s')
              else (.error .panic, s')
          | (.again, s') => (Err (.io .EAGAIN), s')
          | (.failed errno, s') => (Err (.io (.fromI32 errno)), s')

/-- `recv_exact_timeout_internal`. -/
def recvExactTimeoutInternal (buf : List UInt8) (toInitial toCont : Option Nat) :
    Reader Failure (List UInt8) :=
  match toInitial, toCont with
  -- without timeouts an early end of the stream goes unnoticed
  | none, none => recvWaitAllAt buf 0
  | _, none => do
      let (buf, pos) ← recvFirst buf toInitial
      recvWaitAllAt buf pos
  | _, some _ => do
      let (buf, pos) ← recvFirst buf toInitial
      recvLoop buf pos (buf.length - pos)

/-- `recv_exact_timeout` into a buffer of bytes: the bytes received and the new `len_avail`. -/
def recvExactTimeout (buf : List UInt8) (lenAvail toInitial toCont : Option Nat) :
    Reader Failure (List UInt8 × Option Nat) := do
  let newAvail ← Reader.lift <|
    match lenAvail with
    | some l => if l < buf.length then Err (.io .EPROTO) else .ok (some (l - buf.length))
    | none => .ok none
  let res ← recvExactTimeoutInternal buf toInitial toCont
  -- `len_avail` keeps its old value when the receive fails
  pure (res, newAvail)

/-- `recv_exact_timeout` into an uninitialised object. -/
def recvObject {T : Type} (L : Layout T) (lenAvail toInitial toCont : Option Nat) :
    Reader Failure (T × Option Nat) := do
  let (bs, avail) ← recvExactTimeout (List.replicate L.size 0) lenAvail toInitial toCont
  pure (L.parse bs, avail)

/-- `recv_to` into a buffer of bytes. -/
def recvToBytes (buf : List UInt8) (lenAvail : Option Nat) :
    Reader Failure (List UInt8 × Option Nat) :=
  recvExactTimeout buf lenAvail (some TIMEOUT_READ) (some TIMEOUT_READ)

/-- `recv_to` into an object. -/
def recvTo {T : Type} (L : Layout T) (lenAvail : Option Nat) :
    Reader Failure (T × Option Nat) :=
  recvObject L lenAvail (some TIMEOUT_READ) (some TIMEOUT_READ)

/-- `rx_len.unwrap()`. -/
def unwrapLen : Option Nat → Result Nat
  | some l => .ok l
  | none => .error .panic

/-- `send_vectored_all`, when the connection takes the whole message: the bytes it puts on the
wire. -/
def sendVectoredAll (bufs : List (List UInt8)) : List UInt8 := bufs.flatten

/-- `send_all`: the bytes it puts on the wire. -/
def sendAll (buf : List UInt8) : List UInt8 := buf

/-! ## A buffer is filled with the next bytes of the stream -/

theorem length_storeAt {buf bs : List UInt8} {pos : Nat} (h : pos + bs.length ≤ buf.length) :
    (storeAt buf pos bs).length = buf.length := by
  rw [storeAt, List.length_append, List.length_append, List.length_take, List.length_drop]
  omega

theorem take_storeAt {buf bs : List UInt8} {pos : Nat} (h : pos ≤ buf.length) :
    (storeAt buf pos bs).take (pos + bs.length) = buf.take pos ++ bs := by
  rw [storeAt]
  apply List.take_left'
  rw [List.length_append, List.length_take, Nat.min_eq_left h]

theorem take_storeAt_zero (buf bs : List UInt8) : (storeAt buf 0 bs).take bs.length = bs := by
  have h : (storeAt buf 0 bs).take (0 + bs.length) = buf.take 0 ++ bs :=
    take_storeAt (Nat.zero_le buf.length)
  rwa [Nat.zero_add, List.take_zero, List.nil_append] at h

theorem recvExactTimeoutInternal_eq (buf : List UInt8) (toInitial : Option Nat) (d : Nat) :
    recvExactTimeoutInternal buf toInitial (some d) =
      (recvFirst buf toInitial >>= fun p => recvLoop p.1 p.2 (p.1.length - p.2)) := by
  cases toInitial <;> rfl

/-- What a receive call under the initial timeout gets to see: without a timeout, it waits as long as
it takes. -/
def streamStart (toInitial : Option Nat) (s : Script) : Script :=
  match toInitial with
  | some _ => s
  | none => s.awaited

/-! ## One piece -/

/-- `recv_timeout` takes a piece off the script, of no bytes after a wait, or fails when nothing more
is delivered. -/
theorem recvTimeout_cases {n : Nat} (hn : n ≠ 0) (s : Script) :
    (∃ got s', recvTimeout n s = (.ok got, s') ∧ got.length ≤ n ∧ Script.TakenOff got s s') ∨
      (s.delivered = [] ∧ ∃ errno s', recvTimeout n s = (Err (.io errno), s')) := by
  unfold recvTimeout
  rw [if_neg hn]
  cases s with
  | nil => exact .inr ⟨rfl, _, _, rfl⟩
  | cons a t =>
      cases a with
      | data b bs =>
          obtain ⟨c, cs, s', hrun, hlen, hoff⟩ := recvNow_takenOff hn b bs t
          rw [hrun]
          exact .inl ⟨c :: cs, s', rfl, hlen, hoff⟩
      | wait => exact .inl ⟨[], t, rfl, Nat.zero_le n, rfl, rfl, fun h => h.tail⟩
      | silence => exact .inr ⟨rfl, _, _, rfl⟩
      | fault errno => exact .inr ⟨rfl, _, _, rfl⟩

/-- The first piece, under either initial timeout. -/
theorem recvFirst_cases {buf : List UInt8} (hbuf : buf.length ≠ 0) (toInitial : Option Nat)
    (s : Script) :
    (∃ got s', recvFirst buf toInitial s = (.ok (storeAt buf 0 got, got.length), s') ∧
        got.length ≤ buf.length ∧ Script.TakenOff got (streamStart toInitial s) s') ∨
      ((streamStart toInitial s).delivered = [] ∧
        ∃ errno s', recvFirst buf toInitial s = (Err (.io errno), s')) := by
  unfold recvFirst
  simp only [if_neg hbuf]
  cases toInitial with
  | some d =>
      rcases recvTimeout_cases hbuf s with ⟨got, s', hrun, hlen, hoff⟩ | ⟨hnone, errno, s', hrun⟩
      · refine .inl ⟨got, s', ?_, hlen, hoff⟩
        simp only [hrun, if_pos hlen]
      · refine .inr ⟨hnone, errno, s', ?_⟩
        simp only [hrun, Err]
  | none =>
      simp only [streamStart, recvBlocking_eq]
      rcases s.awaited_cases with hs | ⟨b, bs, t, hs⟩ | ⟨errno, t, hs⟩
      · rw [hs]
        exact .inr ⟨rfl, _, _, rfl⟩
      · obtain ⟨c, cs, s', hrun, hlen, hoff⟩ := recvNow_takenOff hbuf b bs t
        refine .inl ⟨c :: cs, s', ?_, hlen, hs ▸ hoff⟩
        simp only [hs, hrun, if_pos hlen]
      · rw [hs]
        exact .inr ⟨rfl, _, _, rfl⟩

/-- The loop after a piece. -/
theorem recvLoop_of_ok {buf got : List UInt8} {pos len : Nat} {s s₁ : Script} (hz : len ≠ 0)
    (hrun : recvTimeout len s = (.ok got, s₁)) (hle : got.length ≤ len) :
    recvLoop buf pos len s =
      recvLoop (storeAt buf pos got) (pos + got.length) (len - got.length) s₁ := by
  rw [recvLoop, if_neg hz]
  -- the `match` keeps an equation for termination; only the second branch is possible
  split
  · rename_i f s₂ hrun₂
    rw [hrun] at hrun₂
    cases hrun₂
  · rename_i got₂ s₂ hrun₂
    rw [hrun] at hrun₂
    cases hrun₂
    rw [if_pos hle]

theorem recvLoop_of_error {buf : List UInt8} {pos len : Nat} {s s₁ : Script} {f : Failure}
    (hz : len ≠ 0) (hrun : recvTimeout len s = (.error f, s₁)) :
    recvLoop buf pos len s = (.error f, s₁) := by
  rw [recvLoop, if_neg hz]
  split
  · rename_i f₂ s₂ hrun₂
    rw [hrun] at hrun₂
    cases hrun₂
    rfl
  · rename_i got₂ s₂ hrun₂
    rw [hrun] at hrun₂
    cases hrun₂

/-! ## The whole buffer -/

/-- **The loop** takes the missing bytes off the script, or fails when fewer are delivered. -/
theorem recvLoop_cases (k : Nat) : ∀ {s : Script} {buf : List UInt8} {pos len : Nat},
    weight s ≤ k → pos + len = buf.length →
      (∃ bs s', recvLoop buf pos len s = (.ok (buf.take pos ++ bs), s') ∧ bs.length = len ∧
          Script.TakenOff bs s s') ∨
        (s.delivered.length < len ∧ ∃ errno s', recvLoop buf pos len s = (Err (.io errno), s')) := by
  -- on the weight of the script: a piece of no bytes leaves everything else as it is
  induction k using Nat.strongRecOn with
  | ind k ih =>
      intro s buf pos len hk hlen
      by_cases hz : len = 0
      · refine .inl ⟨[], s, ?_, hz.symm, rfl, rfl, id⟩
        rw [recvLoop, if_pos hz, List.append_nil, List.take_of_length_le (by omega)]
      · rcases recvTimeout_cases hz s with ⟨got, s₁, hrun, hle, hoff⟩ | ⟨hnone, errno, s₁, hrun⟩
        · have hlt := recvTimeout_weight_lt hrun
          -- the buffer has `got` behind its first `pos` bytes now
          have hstore : pos + got.length + (len - got.length) = (storeAt buf pos got).length := by
            rw [length_storeAt (by omega)]
            omega
          rw [recvLoop_of_ok hz hrun hle]
          rcases ih (weight s₁) (by omega) (Nat.le_refl _) hstore with
            ⟨bs, s', hloop, hbs, hoff'⟩ | ⟨hshort, errno, s', hloop⟩
          · refine .inl ⟨got ++ bs, s', ?_, ?_, hoff.append hoff'⟩
            · rw [hloop, take_storeAt (by omega), List.append_assoc]
            · rw [List.length_append]
              omega
          · refine .inr ⟨?_, errno, s', hloop⟩
            rw [hoff.delivered, List.length_append]
            omega
        · refine .inr ⟨?_, errno, s₁, recvLoop_of_error hz hrun⟩
          rw [hnone]
          exact Nat.pos_of_ne_zero hz

/-- With a continuation timeout, the buffer is filled with what is taken off the script, or the call
fails when less is delivered. -/
theorem recvExactTimeoutInternal_cases {buf : List UInt8} (hbuf : buf.length ≠ 0)
    (toInitial : Option Nat) (d : Nat) (s : Script) :
    (∃ bs s', recvExactTimeoutInternal buf toInitial (some d) s = (.ok bs, s') ∧
        bs.length = buf.length ∧ Script.TakenOff bs (streamStart toInitial s) s') ∨
      ((streamStart toInitial s).delivered.length < buf.length ∧
        ∃ errno s', recvExactTimeoutInternal buf toInitial (some d) s = (Err (.io errno), s')) := by
  have heq := congrFun (recvExactTimeoutInternal_eq buf toInitial d) s
  rcases recvFirst_cases hbuf toInitial s with
    ⟨got, s₁, hfirst, hle, hoff⟩ | ⟨hnone, errno, s₁, hfirst⟩
  · have hbuf' : (storeAt buf 0 got).length = buf.length := length_storeAt (by omega)
    have hlen : got.length + ((storeAt buf 0 got).length - got.length) =
        (storeAt buf 0 got).length := by omega
    rw [heq.trans (Reader.bind_ok hfirst)]
    rcases recvLoop_cases (weight s₁) (Nat.le_refl _) hlen with
      ⟨bs, s', hloop, hbs, hoff'⟩ | ⟨hshort, errno, s', hloop⟩
    · refine .inl ⟨got ++ bs, s', ?_, ?_, hoff.append hoff'⟩
      · rw [hloop, take_storeAt_zero]
      · rw [List.length_append]
        omega
    · refine .inr ⟨?_, errno, s', hloop⟩
      rw [hoff.delivered, List.length_append]
      omega
  · refine .inr ⟨?_, errno, s₁, ?_⟩
    · rw [hnone]
      exact Nat.pos_of_ne_zero hbuf
    · exact heq.trans (Reader.bind_error hfirst)

/-- Waiting for the first piece loses nothing. -/
theorem bytes_streamStart (toInitial : Option Nat) (s : Script) :
    (streamStart toInitial s).bytes = s.bytes := by
  cases toInitial with
  | some d => rfl
  | none => exact s.bytes_awaited

theorem streamStart_clean {s : Script} (toInitial : Option Nat) (hs : s.Clean) :
    (streamStart toInitial s).Clean := by
  cases toInitial with
  | some d => exact hs
  | none => exact hs.awaited

/-- An empty buffer needs no receive call. -/
theorem recvExactTimeoutInternal_nil (toInitial : Option Nat) (d : Nat) (s : Script) :
    recvExactTimeoutInternal [] toInitial (some d) s = (.ok [], s) := by
  rw [recvExactTimeoutInternal_eq]
  refine (Reader.bind_ok (show recvFirst [] toInitial s = (.ok ([], 0), s) from rfl)).trans ?_
  show recvLoop [] 0 0 s = (.ok [], s)
  rw [recvLoop, if_pos rfl]

/-- **Exact receive.** With a continuation timeout, a buffer is filled with the next bytes. -/
theorem recvExactTimeoutInternal_yields {buf bs : List UInt8} (toInitial : Option Nat) (d : Nat)
    (hlen : bs.length = buf.length) :
    Yields (recvExactTimeoutInternal buf toInitial (some d)) bs (.ok bs) := by
  intro s rest hs hbytes
  by_cases hbuf : buf.length = 0
  · obtain rfl := List.length_eq_zero_iff.1 hbuf
    obtain rfl := List.length_eq_zero_iff.1 hlen
    exact ⟨s, recvExactTimeoutInternal_nil toInitial d s, hs, hbytes⟩
  · have hclean := streamStart_clean toInitial hs
    rcases recvExactTimeoutInternal_cases hbuf toInitial d s with
      ⟨got, s', hrun, hgot, hoff⟩ | ⟨hshort, -⟩
    · have hsplit : got ++ s'.bytes = bs ++ rest := by
        rw [← hoff.bytes, bytes_streamStart, hbytes]
      obtain ⟨rfl, hrest⟩ := List.append_inj hsplit (hgot.trans hlen.symm)
      exact ⟨s', hrun, hoff.clean hclean, hrest⟩
    · -- a clean stream delivers all its bytes
      rw [hclean.delivered, bytes_streamStart, hbytes, List.length_append] at hshort
      omega

/-- What is left of `len_avail` after `n` bytes. -/
def availAfter (lenAvail : Option Nat) (n : Nat) : Option Nat := lenAvail.map (· - n)

@[simp] theorem availAfter_some (l n : Nat) : availAfter (some l) n = some (l - n) := rfl

/-- **Exact receive.** With a continuation timeout, and when the message is long enough, a buffer is
filled with the next bytes of the stream and the message's remaining length is lowered by them. -/
theorem recvExactTimeout_yields {buf bs : List UInt8} {lenAvail : Option Nat}
    (toInitial : Option Nat) (d : Nat) (hlen : bs.length = buf.length)
    (havail : ∀ l, lenAvail = some l → buf.length ≤ l) :
    Yields (recvExactTimeout buf lenAvail toInitial (some d)) bs
      (.ok (bs, availAfter lenAvail buf.length)) := by
  unfold recvExactTimeout
  apply Yields.bind_lift (a := availAfter lenAvail buf.length)
  · cases lenAvail with
    | none => rfl
    | some l =>
        have hl := havail l rfl
        simp only [availAfter_some]
        rw [if_neg (by omega)]
  · exact (recvExactTimeoutInternal_yields toInitial d hlen).bind_nil (Yields.pure _)

theorem recvObject_yields {T : Type} (L : Layout T) (t : T) {lenAvail : Option Nat}
    (toInitial : Option Nat) (d : Nat) (havail : ∀ l, lenAvail = some l → L.size ≤ l) :
    Yields (recvObject L lenAvail toInitial (some d)) (L.bytes t)
      (.ok (t, availAfter lenAvail L.size)) := by
  have hbuf : (List.replicate L.size (0 : UInt8)).length = L.size := List.length_replicate
  have hrecv : Yields (recvExactTimeout (List.replicate L.size 0) lenAvail toInitial (some d))
      (L.bytes t) (.ok (L.bytes t, availAfter lenAvail (List.replicate L.size (0 : UInt8)).length)) := by
    apply recvExactTimeout_yields
    · rw [hbuf, L.length_bytes]
    · rw [hbuf]
      exact havail
  rw [hbuf] at hrecv
  refine hrecv.bind_nil ?_
  show Yields (pure (L.parse (L.bytes t), availAfter lenAvail L.size)) _ _
  rw [L.parse_bytes]
  exact Yields.pure _

theorem recvToBytes_yields {buf bs : List UInt8} {lenAvail : Option Nat}
    (hlen : bs.length = buf.length) (havail : ∀ l, lenAvail = some l → buf.length ≤ l) :
    Yields (recvToBytes buf lenAvail) bs (.ok (bs, availAfter lenAvail buf.length)) :=
  recvExactTimeout_yields _ _ hlen havail

theorem recvTo_yields {T : Type} (L : Layout T) (t : T) {lenAvail : Option Nat}
    (havail : ∀ l, lenAvail = some l → L.size ≤ l) :
    Yields (recvTo L lenAvail) (L.bytes t) (.ok (t, availAfter lenAvail L.size)) :=
  recvObject_yields L t _ _ havail

/-- A fixed structure that fills the rest of the message. -/
theorem recvTo_all_yields {T : Type} (L : Layout T) (t : T) :
    Yields (recvTo L (some L.size)) (L.bytes t) (.ok (t, some 0)) := by
  have h : Yields (recvTo L (some L.size)) (L.bytes t) (.ok (t, some (L.size - L.size))) :=
    recvTo_yields L t (fun l hl => Nat.le_of_eq (Option.some.inj hl))
  rwa [Nat.sub_self] at h

/-- A fixed structure at the beginning of the message. -/
theorem recvTo_head_yields {T : Type} (L : Layout T) (t : T) (n : Nat) :
    Yields (recvTo L (some (L.size + n))) (L.bytes t) (.ok (t, some n)) := by
  have h : Yields (recvTo L (some (L.size + n))) (L.bytes t) (.ok (t, some (L.size + n - L.size))) :=
    recvTo_yields L t (fun l hl => by rw [← Option.some.inj hl]; exact Nat.le_add_right _ _)
  rwa [Nat.add_sub_cancel_left] at h

/-- Data that fills the rest of the message. -/
theorem recvToBytes_all_yields (data : List UInt8) :
    Yields (recvToBytes (List.replicate data.length 0) (some data.length)) data
      (.ok (data, some 0)) := by
  have hlen : data.length = (List.replicate data.length (0 : UInt8)).length :=
    List.length_replicate.symm
  have h : Yields (recvToBytes (List.replicate data.length 0) (some data.length)) data
      (.ok (data, some (data.length - (List.replicate data.length (0 : UInt8)).length))) :=
    recvToBytes_yields hlen (fun l hl => by rw [← hlen, ← Option.some.inj hl])
  rwa [← hlen, Nat.sub_self] at h

/-! ## What a receive takes from any stream -/

/-- A failure of the connection. -/
def Failure.Connection (f : Failure) : Prop := ∃ errno, f = .err (.io errno)

/-- The outcome of a receive that has taken `bs`: these bytes, which satisfy `P`, or a failure of the
connection. -/
def Receives (P : List UInt8 → Prop) (bs : List UInt8) : Except Failure (List UInt8) → Prop
  | .ok got => got = bs ∧ P bs
  | .error f => f.Connection

theorem recvTimeout_takes {n : Nat} (hn : n ≠ 0) :
    Takes (recvTimeout n) (Receives fun bs => bs.length ≤ n) := by
  intro s r s' hrun
  unfold recvTimeout at hrun
  rw [if_neg hn] at hrun
  cases hnow : recvNow n s with
  | mk got s₁ =>
      obtain ⟨hbytes, hlen⟩ := recvNow_takes hnow
      rw [hnow] at hrun
      cases got with
      | again =>
          -- the wait takes no data either
          have hwait : s₁.bytes = (waitReadable s₁).2.bytes := by
            cases s₁ with
            | nil => rfl
            | cons a t => cases a <;> rfl
          cases hready : waitReadable s₁ with
          | mk ready s₂ =>
              rw [hready] at hwait
              simp only [hready] at hrun
              cases ready with
              | true =>
                  cases hrun
                  exact ⟨[], hbytes.trans hwait, rfl, Nat.zero_le n⟩
              | false =>
                  cases hrun
                  exact ⟨[], hbytes.trans hwait, _, rfl⟩
      | bytes bs =>
          cases bs with
          | nil =>
              cases hrun
              exact ⟨[], hbytes, _, rfl⟩
          | cons b bs =>
              cases hrun
              exact ⟨b :: bs, hbytes, rfl, hlen⟩
      | failed errno =>
          cases hrun
          exact ⟨[], hbytes, _, rfl⟩

/-- The outcome of the loop behind the first `pos` bytes of `buf`. -/
def Completes (buf : List UInt8) (pos len : Nat) (bs : List UInt8) :
    Except Failure (List UInt8) → Prop
  | .ok got => got = buf.take pos ++ bs ∧ bs.length = len
  | .error f => f.Connection

theorem recvLoop_takes (k : Nat) : ∀ {s s' : Script} {buf : List UInt8} {pos len : Nat}
    {r : Except Failure (List UInt8)}, weight s ≤ k → pos + len = buf.length →
      recvLoop buf pos len s = (r, s') →
        ∃ bs, s.bytes = bs ++ s'.bytes ∧ Completes buf pos len bs r := by
  -- on the weight of the script, as for `recvLoop_cases`
  induction k using Nat.strongRecOn with
  | ind k ih =>
      intro s s' buf pos len r hk hlen hrun
      rw [recvLoop] at hrun
      by_cases hz : len = 0
      · rw [if_pos hz] at hrun
        cases hrun
        refine ⟨[], rfl, ?_, hz.symm⟩
        rw [List.append_nil, List.take_of_length_le (by omega)]
      · rw [if_neg hz] at hrun
        split at hrun
        · rename_i f s₁ hfirst
          cases hrun
          obtain ⟨bs, hbytes, hf⟩ := recvTimeout_takes hz s _ _ hfirst
          exact ⟨bs, hbytes, hf⟩
        · rename_i got s₁ hfirst
          obtain ⟨bs, hbytes, rfl, hle⟩ := recvTimeout_takes hz s _ _ hfirst
          have hlt := recvTimeout_weight_lt hfirst
          rw [if_pos hle] at hrun
          have hstore : (storeAt buf pos got).length = buf.length := length_storeAt (by omega)
          obtain ⟨bs', hbytes', hrest⟩ :=
            ih (weight s₁) (by omega) (Nat.le_refl _) (by omega) hrun
          refine ⟨got ++ bs', ?_, ?_⟩
          · rw [hbytes, hbytes', List.append_assoc]
          · cases r with
            | error f => exact hrest
            | ok all =>
                obtain ⟨rfl, hmore⟩ := hrest
                refine ⟨?_, ?_⟩
                · rw [take_storeAt (by omega), List.append_assoc]
                · rw [List.length_append]
                  omega

/-- The outcome of the first piece. -/
def Starts (buf : List UInt8) (bs : List UInt8) : Except Failure (List UInt8 × Nat) → Prop
  | .ok res => res = (storeAt buf 0 bs, bs.length) ∧ bs.length ≤ buf.length
  | .error f => f.Connection

theorem recvFirst_takes (buf : List UInt8) (toInitial : Option Nat) :
    Takes (recvFirst buf toInitial) (Starts buf) := by
  intro s r s' hrun
  unfold recvFirst at hrun
  by_cases hz : buf.length = 0
  · rw [if_pos hz] at hrun
    cases hrun
    refine ⟨[], rfl, ?_, Nat.zero_le _⟩
    rw [List.length_eq_zero_iff.1 hz]
    rfl
  · simp only [if_neg hz] at hrun
    cases toInitial with
    | some d =>
        cases hfirst : recvTimeout buf.length s with
        | mk r₁ s₁ =>
            obtain ⟨bs, hbytes, hres⟩ := recvTimeout_takes hz s _ _ hfirst
            simp only [hfirst] at hrun
            cases r₁ with
            | error f =>
                cases hrun
                exact ⟨bs, hbytes, hres⟩
            | ok got =>
                obtain ⟨rfl, hle⟩ := hres
                simp only [if_pos hle] at hrun
                cases hrun
                exact ⟨got, hbytes, rfl, hle⟩
    | none =>
        cases hfirst : recvBlocking buf.length s with
        | mk got s₁ =>
            obtain ⟨hbytes, hle⟩ := recvBlocking_takes hfirst
            simp only [hfirst] at hrun
            cases got with
            | again | failed errno =>
                cases hrun
                exact ⟨[], hbytes, _, rfl⟩
            | bytes bs =>
                cases bs with
                | nil =>
                    cases hrun
                    exact ⟨[], hbytes, _, rfl⟩
                | cons b bs =>
                    simp only [Received.data] at hle
                    simp only [if_pos hle] at hrun
                    cases hrun
                    exact ⟨b :: bs, hbytes, rfl, hle⟩

theorem recvExactTimeoutInternal_takes (buf : List UInt8) (toInitial : Option Nat) (d : Nat) :
    Takes (recvExactTimeoutInternal buf toInitial (some d))
      (Receives fun bs => bs.length = buf.length) := by
  rw [recvExactTimeoutInternal_eq]
  refine (recvFirst_takes buf toInitial).bind (fun _ _ hf => hf) ?_
  rintro got _ ⟨rfl, hle⟩
  intro s r s' hrun
  simp only at hrun
  have hbuf : (storeAt buf 0 got).length = buf.length := length_storeAt (by omega)
  obtain ⟨bs, hbytes, hres⟩ := recvLoop_takes (weight s) (Nat.le_refl _)
    (show got.length + ((storeAt buf 0 got).length - got.length) = _ by omega) hrun
  refine ⟨bs, hbytes, ?_⟩
  cases r with
  | error f => exact hres
  | ok all =>
      obtain ⟨rfl, hlen⟩ := hres
      refine ⟨?_, ?_⟩
      · rw [take_storeAt_zero]
      · show (got ++ bs).length = buf.length
        rw [List.length_append]
        omega

/-- The outcome of an exact receive of `n` bytes from a message of which `lenAvail` bytes are left. -/
def Fills (n : Nat) (lenAvail : Option Nat) (bs : List UInt8) :
    Except Failure (List UInt8 × Option Nat) → Prop
  | .ok res => res = (bs, availAfter lenAvail n) ∧ bs.length = n ∧ ∀ l, lenAvail = some l → n ≤ l
  | .error f => f.Connection

/-- **Exact receive from any stream.** What fills the buffer is the next bytes of the stream, and the
message was long enough for them. -/
theorem recvExactTimeout_takes (buf : List UInt8) (lenAvail toInitial : Option Nat) (d : Nat) :
    Takes (recvExactTimeout buf lenAvail toInitial (some d)) (Fills buf.length lenAvail) := by
  -- the part behind the check of the length
  have hrest : (∀ l, lenAvail = some l → buf.length ≤ l) →
      Takes (do
        let res ← recvExactTimeoutInternal buf toInitial (some d)
        pure (res, availAfter lenAvail buf.length)) (Fills buf.length lenAvail) := by
    intro hle
    refine (recvExactTimeoutInternal_takes buf toInitial d).bind (fun _ _ hf => hf) ?_
    rintro bs got ⟨rfl, hlen⟩
    refine Takes.pure ?_
    rw [List.append_nil]
    exact ⟨rfl, hlen, hle⟩
  unfold recvExactTimeout
  cases lenAvail with
  | none =>
      refine Takes.bind_lift (fun err herr => by cases herr) ?_
      rintro avail ⟨⟩
      exact hrest fun l hl => by cases hl
  | some l =>
      by_cases hlt : l < buf.length
      · simp only [if_pos hlt]
        refine Takes.bind_lift ?_ fun avail ha => by cases ha
        rintro err ⟨⟩
        exact ⟨_, rfl⟩
      · simp only [if_neg hlt]
        refine Takes.bind_lift (fun err herr => by cases herr) ?_
        rintro avail ⟨⟩
        exact hrest fun l' hl => Option.some.inj hl ▸ Nat.le_of_not_lt hlt

/-- The outcome of the receive of an object. -/
def Loads {T : Type} (L : Layout T) (lenAvail : Option Nat) (bs : List UInt8) :
    Except Failure (T × Option Nat) → Prop
  | .ok res => bs = L.bytes res.1 ∧ res.2 = availAfter lenAvail L.size ∧
      ∀ l, lenAvail = some l → L.size ≤ l
  | .error f => f.Connection

theorem recvObject_takes {T : Type} (L : Layout T) (lenAvail toInitial : Option Nat) (d : Nat) :
    Takes (recvObject L lenAvail toInitial (some d)) (Loads L lenAvail) := by
  refine (recvExactTimeout_takes _ lenAvail toInitial d).bind (fun _ _ hf => hf) ?_
  rintro bs _ ⟨rfl, hlen, hle⟩
  rw [List.length_replicate] at hlen hle
  refine Takes.pure ?_
  rw [List.append_nil, List.length_replicate]
  exact ⟨(L.bytes_parse bs hlen).symm, rfl, hle⟩

theorem recvTo_takes {T : Type} (L : Layout T) (lenAvail : Option Nat) :
    Takes (recvTo L lenAvail) (Loads L lenAvail) :=
  recvObject_takes L lenAvail _ _

theorem recvToBytes_takes (buf : List UInt8) (lenAvail : Option Nat) :
    Takes (recvToBytes buf lenAvail) (Fills buf.length lenAvail) :=
  recvExactTimeout_takes buf lenAvail _ _

end Cuse2Net.Proto

import Cuse2Net.Proto.Io

/-!
# Exact receive on an arbitrary stream

`recv_exact_timeout` on every stream: pieces of any size, waits between them, a stream that ends, fails
or falls silent at any moment. `recvExactTimeoutMut` is the function with the caller's `len_avail` as
the state that it is. What counts is the data that is delivered before the first end, failure or
expired deadline; how it is cut does not matter.

`recvExactTimeoutInternal_cases` says what the receive itself does with a non-empty buffer; this module
adds the check of `len_avail` and the empty buffer.
-/

set_option autoImplicit false

namespace Cuse2Net.Proto

open Cuse2Net.Lib

/-- `recv_exact_timeout`, with the value of `len_avail` after the call. -/
def recvExactTimeoutMut (buf : List UInt8) (lenAvail toInitial toCont : Option Nat) (s : Script) :
    Except Failure (List UInt8) × Option Nat × Script :=
  let newAvail : Result (Option Nat) :=
    match lenAvail with
    | some l => if l < buf.length then Err (.io .EPROTO) else .ok (some (l - buf.length))
    | none => .ok none
  match newAvail with
  | .error f => (.error f, lenAvail, s)
  | .ok newAvail =>
      match recvExactTimeoutInternal buf toInitial toCont s with
      | (.error f, s') => (.error f, lenAvail, s')
      | (.ok res, s') => (.ok res, newAvail, s')

/-- The function as a reader forgets `len_avail` when it fails. -/
theorem recvExactTimeout_eq (buf : List UInt8) (lenAvail toInitial toCont : Option Nat)
    (s : Script) :
    recvExactTimeout buf lenAvail toInitial toCont s =
      match recvExactTimeoutMut buf lenAvail toInitial toCont s with
      | (.ok res, avail, s') => (.ok (res, avail), s')
      | (.error f, _, s') => (.error f, s') := by
  have hinternal : ∀ newAvail : Option Nat,
      (recvExactTimeoutInternal buf toInitial toCont >>= fun res => pure (res, newAvail)) s =
        match recvExactTimeoutInternal buf toInitial toCont s with
        | (.ok res, s') => (.ok (res, newAvail), s')
        | (.error f, s') => (.error f, s') := by
    intro newAvail
    cases hrun : recvExactTimeoutInternal buf toInitial toCont s with
    | mk r s' =>
        cases r with
        | ok res => exact Reader.bind_ok hrun
        | error f => exact Reader.bind_error hrun
  unfold recvExactTimeout recvExactTimeoutMut
  cases lenAvail with
  | none =>
      show (recvExactTimeoutInternal buf toInitial toCont >>= fun res => pure (res, none)) s = _
      rw [hinternal]
      rcases recvExactTimeoutInternal buf toInitial toCont s with ⟨r, s'⟩
      cases r <;> rfl
  | some l =>
      by_cases hl : l < buf.length
      · simp only [if_pos hl]
        rfl
      · simp only [if_neg hl]
        show (recvExactTimeoutInternal buf toInitial toCont >>= fun res =>
          pure (res, some (l - buf.length))) s = _
        rw [hinternal]
        rcases recvExactTimeoutInternal buf toInitial toCont s with ⟨r, s'⟩
        cases r <;> rfl

/-- A buffer that fits is received, and `len_avail` is lowered only then. -/
theorem recvExactTimeoutMut_of_le {buf : List UInt8} {lenAvail : Option Nat}
    (havail : ∀ l ∈ lenAvail, buf.length ≤ l) (toInitial toCont : Option Nat) (s : Script) :
    recvExactTimeoutMut buf lenAvail toInitial toCont s =
      match recvExactTimeoutInternal buf toInitial toCont s with
      | (.error f, s') => (.error f, lenAvail, s')
      | (.ok res, s') => (.ok res, availAfter lenAvail buf.length, s') := by
  unfold recvExactTimeoutMut
  cases lenAvail with
  | none => rfl
  | some l =>
      have hl : ¬l < buf.length := Nat.not_lt.2 (havail l rfl)
      simp only [if_neg hl]
      rfl

section ExactReceive

variable {buf : List UInt8} {lenAvail : Option Nat}

/-- A buffer that does not fit is refused before anything is read. -/
theorem recvExactTimeoutMut_of_lt (h : ∃ l ∈ lenAvail, l < buf.length)
    (toInitial toCont : Option Nat) (s : Script) :
    recvExactTimeoutMut buf lenAvail toInitial toCont s = (Err (.io .EPROTO), lenAvail, s) := by
  obtain ⟨l, hl, hlt⟩ := h
  obtain rfl : lenAvail = some l := hl
  simp only [recvExactTimeoutMut, if_pos hlt]
  rfl

/-- Enough data is delivered: the buffer gets the first bytes, and the others stay. -/
theorem recvExactTimeoutMut_delivered (havail : ∀ l ∈ lenAvail, buf.length ≤ l)
    (toInitial : Option Nat) (d : Nat) {s : Script}
    (hlen : buf.length ≤ (streamStart toInitial s).delivered.length) :
    ∃ s', recvExactTimeoutMut buf lenAvail toInitial (some d) s =
        (.ok ((streamStart toInitial s).delivered.take buf.length),
          availAfter lenAvail buf.length, s') ∧
      s.bytes = (streamStart toInitial s).delivered.take buf.length ++ s'.bytes := by
  rw [recvExactTimeoutMut_of_le havail]
  by_cases hbuf : buf.length = 0
  · -- an empty buffer: no receive call at all
    obtain rfl := List.length_eq_zero_iff.1 hbuf
    refine ⟨s, ?_, rfl⟩
    rw [recvExactTimeoutInternal_nil]
    rfl
  · rcases recvExactTimeoutInternal_cases hbuf toInitial d s with
      ⟨bs, s', hrun, hbs, hoff⟩ | ⟨hshort, -⟩
    · have htake : (streamStart toInitial s).delivered.take buf.length = bs := by
        rw [← hbs, hoff.delivered, List.take_left]
      refine ⟨s', ?_, ?_⟩
      · rw [hrun, htake]
      · rw [htake, ← hoff.bytes, bytes_streamStart]
    · exact absurd hshort (Nat.not_lt.2 hlen)

/-- Too little data is delivered: the call fails and `len_avail` keeps its value. -/
theorem recvExactTimeoutMut_short (toInitial : Option Nat) (d : Nat) {s : Script}
    (hshort : (streamStart toInitial s).delivered.length < buf.length) :
    ∃ errno s', recvExactTimeoutMut buf lenAvail toInitial (some d) s =
      (Err (.io errno), lenAvail, s') := by
  by_cases hfit : ∀ l ∈ lenAvail, buf.length ≤ l
  · rw [recvExactTimeoutMut_of_le hfit]
    rcases recvExactTimeoutInternal_cases (Nat.ne_zero_of_lt hshort) toInitial d s with
      ⟨bs, s', -, hbs, hoff⟩ | ⟨-, errno, s', hrun⟩
    · rw [hoff.delivered, List.length_append] at hshort
      omega
    · refine ⟨errno, s', ?_⟩
      rw [hrun]
      rfl
  · simp only [not_forall, Nat.not_le] at hfit
    obtain ⟨l, hl, hlt⟩ := hfit
    exact ⟨_, s, recvExactTimeoutMut_of_lt ⟨l, hl, hlt⟩ _ _ _⟩

end ExactReceive

/-- **Exact receive does not depend on how the stream is cut.** With a continuation timeout, for every
buffer, every `len_avail` and every stream: when the buffer fits and that many bytes are delivered in
time, they are returned, the rest of the stream is unread and `len_avail` is lowered by the size of
the buffer. Otherwise the call returns an error and leaves `len_avail` alone, without reading anything
when the buffer does not fit. No assertion fires in either case. -/
theorem exact_receive (buf : List UInt8) (lenAvail toInitial : Option Nat) (d : Nat) (s : Script) :
    let ds := (streamStart toInitial s).delivered
    ((∀ l ∈ lenAvail, buf.length ≤ l) → buf.length ≤ ds.length →
      ∃ s', recvExactTimeoutMut buf lenAvail toInitial (some d) s =
          (.ok (ds.take buf.length), availAfter lenAvail buf.length, s') ∧
        s.bytes = ds.take buf.length ++ s'.bytes) ∧
      ((∃ l ∈ lenAvail, l < buf.length) →
        recvExactTimeoutMut buf lenAvail toInitial (some d) s = (Err (.io .EPROTO), lenAvail, s)) ∧
      (ds.length < buf.length →
        ∃ errno s', recvExactTimeoutMut buf lenAvail toInitial (some d) s =
          (Err (.io errno), lenAvail, s')) := by
  exact ⟨fun havail hlen => recvExactTimeoutMut_delivered havail toInitial d hlen,
    fun h => recvExactTimeoutMut_of_lt h toInitial (some d) s,
    fun hshort => recvExactTimeoutMut_short toInitial d hshort⟩

end Cuse2Net.Proto

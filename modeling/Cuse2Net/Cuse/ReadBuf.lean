import Cuse2Net.Cuse.Ffi

/-!
# The read buffer

Model of `io.rs` of the crate `mod-cuse`. A `ReadBuf` is a piece of memory that starts on a multiple
of 64 and is used again for every message of the kernel; a `ReadBufIter` walks over the part that
the last `read` filled. A slice keeps its address, because `align_to` looks at it. Every slice index
and every subtraction of the source is checked here, and a failing check is a panic.

Each operation gets one equation that says what it does on a slice with the right alignment
(`okOrEof_next`, `okOrEof_nextSlice`, `truncate_eq`). No panic is left in these equations.
-/

set_option autoImplicit false

namespace Cuse2Net.Cuse

open Cuse2Net.Lib

/-- `BUF_SZ`, the size of a `ReadBuf`. -/
def BUF_SZ : Nat := if FUSE_MIN_READ_BUFFER < 0x20000 then 0x20000 else FUSE_MIN_READ_BUFFER

/-- How an operation on the buffer fails: with an error of `mod-cuse`, or in a failed check. -/
inductive ReadFailure where
  | error (e : Error)
  | panic
  deriving DecidableEq

/-! ## Checked operations -/

/-- Addition of `usize`. -/
def usizeAdd (a b : Nat) : Except ReadFailure Nat :=
  if a + b < UInt64.size then .ok (a + b) else .error .panic

/-- Subtraction of `usize`. -/
def usizeSub (a b : Nat) : Except ReadFailure Nat :=
  if b ≤ a then .ok (a - b) else .error .panic

/-- Multiplication of `usize`. -/
def usizeMul (a b : Nat) : Except ReadFailure Nat :=
  if a * b < UInt64.size then .ok (a * b) else .error .panic

theorem usizeAdd_ok {a b : Nat} (h : a + b ≤ BUF_SZ) : usizeAdd a b = .ok (a + b) :=
  if_pos (Nat.lt_of_le_of_lt h (by decide))

theorem usizeSub_ok {a b : Nat} (h : b ≤ a) : usizeSub a b = .ok (a - b) := if_pos h

theorem usizeMul_ok {a b : Nat} (h : a * b ≤ BUF_SZ) : usizeMul a b = .ok (a * b) :=
  if_pos (Nat.lt_of_le_of_lt h (by decide))

/-- A slice `&[u8]`: where it starts and what it holds. -/
structure Slice where
  addr : Nat
  bytes : List UInt8
  deriving DecidableEq

namespace Slice

/-- `&s[n..]`. -/
def sliceFrom (s : Slice) (n : Nat) : Except ReadFailure Slice :=
  if n ≤ s.bytes.length then .ok ⟨s.addr + n, s.bytes.drop n⟩ else .error .panic

/-- `&s[..n]`. -/
def sliceTo (s : Slice) (n : Nat) : Except ReadFailure Slice :=
  if n ≤ s.bytes.length then .ok ⟨s.addr, s.bytes.take n⟩ else .error .panic

/-- `align_to`, with the longest possible middle part. -/
def alignTo {T : Type} (ct : CType T) (s : Slice) : List UInt8 × List T × List UInt8 :=
  let offset := min s.bytes.length ((ct.align - s.addr % ct.align) % ct.align)
  let tail := s.bytes.drop offset
  let count := tail.length / ct.layout.size
  (s.bytes.take offset, ct.layout.parseAll count tail, tail.drop (count * ct.layout.size))

theorem sliceFrom_ok {s : Slice} {n : Nat} (h : n ≤ s.bytes.length) :
    s.sliceFrom n = .ok ⟨s.addr + n, s.bytes.drop n⟩ := if_pos h

theorem sliceTo_ok {s : Slice} {n : Nat} (h : n ≤ s.bytes.length) :
    s.sliceTo n = .ok ⟨s.addr, s.bytes.take n⟩ := if_pos h

/-- A slice with the right alignment has no head. -/
theorem alignTo_aligned {T : Type} {ct : CType T} {s : Slice} (h : ct.align ∣ s.addr) :
    s.alignTo ct =
      ([], ct.layout.parseAll (s.bytes.length / ct.layout.size) s.bytes,
        s.bytes.drop (s.bytes.length / ct.layout.size * ct.layout.size)) := by
  have hoffset : min s.bytes.length ((ct.align - s.addr % ct.align) % ct.align) = 0 := by
    rw [Nat.mod_eq_zero_of_dvd h, Nat.sub_zero, Nat.mod_self, Nat.min_zero]
  simp only [alignTo, hoffset, List.take_zero, List.drop_zero]

end Slice

/-! ## Iterator -/

/-- `ReadBufIter`. -/
structure ReadBufIter where
  buf : Slice
  consumed : Nat
  deriving DecidableEq

namespace ReadBufIter

/-- `next`. -/
def next {T : Type} (ct : CType T) (it : ReadBufIter) :
    Except ReadFailure (Option T × ReadBufIter) :=
  if it.buf.bytes = [] then .ok (none, it)
  else
    let (head, data, rest) := it.buf.alignTo ct
    if head ≠ [] then .error (.error (.alignment head.length))
    else
      match data with
      | [] => .error (.error (.size rest.length))
      | x :: _ => do
          let buf ← it.buf.sliceFrom ct.layout.size
          let consumed ← usizeAdd it.consumed ct.layout.size
          .ok (some x, ⟨buf, consumed⟩)

/-- `next_slice`. -/
def nextSlice {T : Type} (ct : CType T) (cnt : Nat) (it : ReadBufIter) :
    Except ReadFailure (Option (List T) × ReadBufIter) :=
  if cnt = 0 then .ok (some [], it)
  else if it.buf.bytes = [] then .ok (none, it)
  else
    let (head, data, rest) := it.buf.alignTo ct
    if head ≠ [] then .error (.error (.alignment head.length))
    else if data.length < cnt then .error (.error (.size rest.length))
    -- `&data[0]`
    else if data = [] then .error .panic
    else do
      let sz ← usizeMul ct.layout.size cnt
      let buf ← it.buf.sliceFrom sz
      let consumed ← usizeAdd it.consumed sz
      -- `&data[..cnt]`
      if cnt ≤ data.length then .ok (some (data.take cnt), ⟨buf, consumed⟩) else .error .panic

/-- `truncate`. -/
def truncate (pos : Nat) (it : ReadBufIter) : Except ReadFailure (Nat × ReadBufIter) :=
  if pos < it.consumed then .error (.error (.badTruncate pos it.consumed))
  else do
    let pos ← usizeSub pos it.consumed
    if it.buf.bytes.length < pos then do
      let missing ← usizeSub pos it.buf.bytes.length
      .error (.error (.size missing))
    else do
      let delta ← usizeSub it.buf.bytes.length pos
      let buf ← it.buf.sliceTo pos
      .ok (delta, { it with buf := buf })

/-- The iterator after `n` more bytes. -/
def advance (n : Nat) (it : ReadBufIter) : ReadBufIter :=
  ⟨⟨it.buf.addr + n, it.buf.bytes.drop n⟩, it.consumed + n⟩

/-- What has been consumed and what is left are parts of one buffer. -/
def Within (it : ReadBufIter) : Prop := it.consumed + it.buf.bytes.length ≤ BUF_SZ

theorem Within.advance {it : ReadBufIter} (h : it.Within) {n : Nat}
    (hn : n ≤ it.buf.bytes.length) : (it.advance n).Within := by
  unfold Within at h ⊢
  show it.consumed + n + (it.buf.bytes.drop n).length ≤ BUF_SZ
  rw [List.length_drop]
  omega

end ReadBufIter

/-- `.ok_or(Error::Eof)?` on the result of `next` or `next_slice`. -/
def okOrEof {α : Type} (r : Except ReadFailure (Option α × ReadBufIter)) :
    Except ReadFailure (α × ReadBufIter) :=
  match r with
  | .error f => .error f
  | .ok (none, _) => .error (.error .eof)
  | .ok (some x, it) => .ok (x, it)

/-- The error when `avail` bytes are not enough and `align_to` leaves `rest` of them over. -/
def shortfall (avail rest : Nat) : ReadFailure := .error (if avail = 0 then .eof else .size rest)

theorem shortfall_nil {bs : List UInt8} (h : bs = []) (rest : Nat) :
    shortfall bs.length rest = .error .eof := by
  rw [shortfall, if_pos (List.length_eq_zero_iff.2 h)]

theorem shortfall_ne_nil {bs : List UInt8} (h : bs ≠ []) (rest : Nat) :
    shortfall bs.length rest = .error (.size rest) := by
  rw [shortfall, if_neg (fun hz => h (List.length_eq_zero_iff.1 hz))]

namespace ReadBufIter

/-- **The next object** is the one at the front of the slice, if it fits. -/
theorem okOrEof_next {T : Type} {ct : CType T} {it : ReadBufIter} (hal : ct.align ∣ it.buf.addr)
    (hit : it.Within) :
    okOrEof (it.next ct) =
      if ct.layout.size ≤ it.buf.bytes.length then
        .ok (ct.layout.readAt it.buf.bytes 0, it.advance ct.layout.size)
      else .error (shortfall it.buf.bytes.length it.buf.bytes.length) := by
  have hsize := ct.size_pos
  unfold Within at hit
  unfold next
  by_cases hnil : it.buf.bytes = []
  · rw [if_pos hnil, if_neg (by rw [hnil]; exact Nat.not_le.2 hsize), shortfall_nil hnil]
    rfl
  · simp only [if_neg hnil, Slice.alignTo_aligned hal, ne_eq, not_true_eq_false, if_false]
    by_cases hfit : ct.layout.size ≤ it.buf.bytes.length
    · obtain ⟨k, hk⟩ : ∃ k, it.buf.bytes.length / ct.layout.size = k + 1 :=
        Nat.exists_eq_add_one.2 (Nat.div_pos hfit hsize)
      rw [if_pos hfit, hk, Layout.parseAll]
      simp only [Slice.sliceFrom_ok hfit, usizeAdd_ok (show it.consumed + ct.layout.size ≤ BUF_SZ
        by omega)]
      rfl
    · have hzero : it.buf.bytes.length / ct.layout.size = 0 :=
        Nat.div_eq_of_lt (Nat.not_le.1 hfit)
      rw [if_neg hfit, hzero, Layout.parseAll, Nat.zero_mul, List.drop_zero,
        shortfall_ne_nil hnil]
      rfl

/-- **The next bytes** are the first ones of the slice, if there are enough. -/
theorem okOrEof_nextSlice (cnt : Nat) {it : ReadBufIter} (hit : it.Within) :
    okOrEof (it.nextSlice byteType cnt) =
      if cnt ≤ it.buf.bytes.length then .ok (it.buf.bytes.take cnt, it.advance cnt)
      else .error (shortfall it.buf.bytes.length 0) := by
  have hal : byteType.align ∣ it.buf.addr := Nat.one_dvd _
  have hsize : byteType.layout.size = 1 := rfl
  unfold Within at hit
  unfold nextSlice
  by_cases hcnt : cnt = 0
  · subst hcnt
    rw [if_pos rfl, if_pos (Nat.zero_le _)]
    rfl
  · rw [if_neg hcnt]
    by_cases hnil : it.buf.bytes = []
    · have hshort : ¬cnt ≤ it.buf.bytes.length := by
        rw [hnil]
        exact fun h => hcnt (Nat.le_zero.1 h)
      rw [if_pos hnil, if_neg hshort, shortfall_nil hnil]
      rfl
    · -- every byte is an element of the middle part
      have hdata : byteType.layout.parseAll it.buf.bytes.length it.buf.bytes = it.buf.bytes :=
        (Layout.parseAll_byte (Nat.le_refl _)).trans List.take_length
      simp only [if_neg hnil, Slice.alignTo_aligned hal, hsize, Nat.div_one, hdata, ne_eq,
        not_true_eq_false, if_false, Nat.mul_one, List.drop_length, List.length_nil]
      by_cases hfit : cnt ≤ it.buf.bytes.length
      · have hmul : usizeMul 1 cnt = .ok cnt := by
          rw [usizeMul_ok (by omega), Nat.one_mul]
        have hadd : usizeAdd it.consumed cnt = .ok (it.consumed + cnt) := usizeAdd_ok (by omega)
        rw [if_neg (Nat.not_lt.2 hfit), if_pos hfit, hmul]
        simp only [bind, Except.bind, hadd, Slice.sliceFrom_ok hfit, if_pos hfit]
        rfl
      · rw [if_pos (Nat.not_le.1 hfit), if_neg hfit, shortfall_ne_nil hnil]
        rfl

/-- **Truncation** to a position in the message. No subtraction in it can fail. -/
theorem truncate_eq (pos : Nat) (it : ReadBufIter) :
    it.truncate pos =
      if pos < it.consumed then .error (.error (.badTruncate pos it.consumed))
      else if it.buf.bytes.length < pos - it.consumed then
        .error (.error (.size (pos - it.consumed - it.buf.bytes.length)))
      else
        .ok (it.buf.bytes.length - (pos - it.consumed),
          ⟨⟨it.buf.addr, it.buf.bytes.take (pos - it.consumed)⟩, it.consumed⟩) := by
  unfold truncate
  by_cases hpos : pos < it.consumed
  · rw [if_pos hpos, if_pos hpos]
  · rw [if_neg hpos, if_neg hpos, usizeSub_ok (Nat.not_lt.1 hpos)]
    by_cases hlen : it.buf.bytes.length < pos - it.consumed
    · simp only [bind, Except.bind, if_pos hlen, usizeSub_ok (Nat.le_of_lt hlen)]
    · have hle := Nat.not_lt.1 hlen
      simp only [bind, Except.bind, if_neg hlen, usizeSub_ok hle, Slice.sliceTo_ok hle]

end ReadBufIter

/-! ## Buffer -/

/-- `ReadBuf`: aligned memory of a fixed size. -/
structure ReadBuf where
  buf : Slice
  aligned : 64 ∣ buf.addr
  length_bytes : buf.bytes.length = BUF_SZ

/-- What a successful `read` call puts into the buffer. -/
abbrev Message := { bs : List UInt8 // bs.length ≤ BUF_SZ }

namespace ReadBuf

theorem length_store (rb : ReadBuf) (msg : Message) :
    (msg.1 ++ rb.buf.bytes.drop msg.1.length).length = BUF_SZ := by
  have hmsg := msg.2
  rw [List.length_append, List.length_drop, rb.length_bytes]
  omega

/-- The buffer after a message has been written to its start; the bytes behind it stay. -/
def store (rb : ReadBuf) (msg : Message) : ReadBuf where
  buf := ⟨rb.buf.addr, msg.1 ++ rb.buf.bytes.drop msg.1.length⟩
  aligned := rb.aligned
  length_bytes := rb.length_store msg

/-- `read`, when the call on the device delivers a message: the iterator and the buffer. -/
def read (rb : ReadBuf) (msg : Message) : ReadBufIter × ReadBuf :=
  let rb := rb.store msg
  (⟨⟨rb.buf.addr, rb.buf.bytes.take msg.1.length⟩, 0⟩, rb)

/-- The iterator does not see the bytes of earlier messages. -/
theorem read_fst (rb : ReadBuf) (msg : Message) : (rb.read msg).1 = ⟨⟨rb.buf.addr, msg.1⟩, 0⟩ := by
  show (⟨⟨rb.buf.addr, (msg.1 ++ rb.buf.bytes.drop msg.1.length).take msg.1.length⟩, 0⟩ :
    ReadBufIter) = _
  rw [List.take_left]

theorem addr_read (rb : ReadBuf) (msg : Message) : (rb.read msg).2.buf.addr = rb.buf.addr := rfl

end ReadBuf

end Cuse2Net.Cuse

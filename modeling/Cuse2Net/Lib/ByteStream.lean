import Mathlib.Data.List.Basic

/-!
# Reading from a stream socket

The incoming side of a stream socket is a `Script`: what becomes readable piece by piece, with the
moments at which nothing is readable between the pieces. The three receive calls a program has are
functions on scripts: a non-blocking receive (`recvNow`), a blocking receive (`recvBlocking`) and a
receive that waits for the whole buffer (`recvWaitAll`); `waitReadable` is the wait with a deadline.

A `Reader` is a computation that may fail and takes bytes off a script. `Yields m bs r` says that on
every script whose bytes start with `bs`, however they are cut into pieces, `m` returns `r` and takes
exactly `bs`. The rules for `pure`, `fail` and `bind` reduce the statement to the parts of `m`, and
`repeatRead_yields` runs one reader over a sequence of messages. `Takes m Q` is the converse view: on
any script, failing ones included, `m` takes some first bytes of the stream, and `Q` holds of these
bytes and the result. It has the same rules.
-/

set_option autoImplicit false

namespace Cuse2Net.Lib

universe u v w

/-- What a stream socket has next for its reader. -/
inductive Arrival where
  /-- A non-empty piece of data is readable. -/
  | data (first : UInt8) (more : List UInt8)
  /-- Nothing is readable; a wait with a deadline ends in time. -/
  | wait
  /-- Nothing is readable; a wait with a deadline expires. -/
  | silence
  /-- The next receive call fails. -/
  | fault (errno : Nat)
  deriving DecidableEq, Repr

/-- The incoming side of a stream socket; the peer closes the stream at its end. -/
abbrev Script := List Arrival

/-- The data of one arrival. -/
def Arrival.bytes : Arrival → List UInt8
  | .data b bs => b :: bs
  | _ => []

/-- The data of a script in order. -/
def Script.bytes (s : Script) : List UInt8 := s.flatMap Arrival.bytes

/-- Arrivals that neither fail nor let a deadline expire. -/
def Arrival.isClean : Arrival → Bool
  | .data _ _ => true
  | .wait => true
  | _ => false

/-- Scripts that deliver their data without failure or expired deadline. -/
def Script.Clean (s : Script) : Prop := ∀ a ∈ s, a.isClean = true

instance (s : Script) : Decidable s.Clean := by
  unfold Script.Clean
  infer_instance

/-- Put the unread part of a piece back in front. -/
def Script.unread (bs : List UInt8) (s : Script) : Script :=
  match bs with
  | [] => s
  | b :: bs => .data b bs :: s

@[simp] theorem Script.bytes_unread (bs : List UInt8) (s : Script) :
    (Script.unread bs s).bytes = bs ++ s.bytes := by
  cases bs with
  | nil => rfl
  | cons b bs => rfl

theorem Script.Clean.head {a : Arrival} {s : Script} (h : Script.Clean (a :: s)) :
    a.isClean = true :=
  h a List.mem_cons_self

theorem Script.Clean.tail {a : Arrival} {s : Script} (h : Script.Clean (a :: s)) : s.Clean :=
  fun b hb => h b (List.mem_cons_of_mem a hb)

theorem Script.Clean.unread {s : Script} (h : s.Clean) (bs : List UInt8) :
    (Script.unread bs s).Clean := by
  cases bs with
  | nil => exact h
  | cons b bs =>
      intro a ha
      rcases List.mem_cons.1 ha with rfl | ha
      · rfl
      · exact h a ha

/-- The data that arrives before the stream ends, fails or lets a deadline expire. -/
def Script.delivered : Script → List UInt8
  | .data b bs :: s => b :: bs ++ Script.delivered s
  | .wait :: s => Script.delivered s
  | _ => []

/-- The script from the moment on at which something other than time happens. -/
def Script.awaited : Script → Script
  | .wait :: s => Script.awaited s
  | .silence :: s => Script.awaited s
  | s => s

@[simp] theorem Script.delivered_unread (bs : List UInt8) (s : Script) :
    (Script.unread bs s).delivered = bs ++ s.delivered := by
  cases bs with
  | nil => rfl
  | cons b bs => rfl

/-- A clean script delivers everything. -/
theorem Script.Clean.delivered {s : Script} (h : s.Clean) : s.delivered = s.bytes := by
  induction s with
  | nil => rfl
  | cons a s ih =>
      cases a with
      | data b bs =>
          show b :: bs ++ Script.delivered s = b :: bs ++ Script.bytes s
          rw [ih h.tail]
      | wait => exact ih h.tail
      | silence => cases h.head
      | fault errno => cases h.head

theorem Script.Clean.awaited {s : Script} (h : s.Clean) : s.awaited.Clean := by
  induction s with
  | nil => exact h
  | cons a s ih =>
      cases a with
      | wait | silence => exact ih h.tail
      | data b bs => exact h
      | fault errno => exact h

/-- Time has no bytes. -/
theorem Script.bytes_awaited (s : Script) : s.awaited.bytes = s.bytes := by
  induction s with
  | nil => rfl
  | cons a s ih =>
      cases a with
      | wait | silence => exact ih
      | data b bs => rfl
      | fault errno => rfl

/-- What happens after a wait of any length: the stream has ended, data arrives, or the next call
fails. -/
theorem Script.awaited_cases (s : Script) :
    s.awaited = [] ∨ (∃ b bs t, s.awaited = .data b bs :: t) ∨
      ∃ errno t, s.awaited = .fault errno :: t := by
  induction s with
  | nil => exact .inl rfl
  | cons a s ih =>
      cases a with
      | wait | silence => exact ih
      | data b bs => exact .inr (.inl ⟨b, bs, s, rfl⟩)
      | fault errno => exact .inr (.inr ⟨errno, s, rfl⟩)

/-- The bytes `bs` have been taken off a script. -/
structure Script.TakenOff (bs : List UInt8) (s s' : Script) : Prop where
  bytes : s.bytes = bs ++ s'.bytes
  delivered : s.delivered = bs ++ s'.delivered
  clean : s.Clean → s'.Clean

theorem Script.TakenOff.append {bs bs' : List UInt8} {s s' s'' : Script}
    (h : Script.TakenOff bs s s') (h' : Script.TakenOff bs' s' s'') :
    Script.TakenOff (bs ++ bs') s s'' := by
  refine ⟨?_, ?_, fun hs => h'.clean (h.clean hs)⟩
  · rw [h.bytes, h'.bytes, List.append_assoc]
  · rw [h.delivered, h'.delivered, List.append_assoc]

/-! ## Receive calls -/

/-- Result of one receive call. Receiving no bytes means that the peer closed the stream. -/
inductive Received where
  | bytes (bs : List UInt8)
  | again
  | failed (errno : Nat)
  deriving DecidableEq, Repr

/-- Non-blocking receive into a buffer of `n` bytes. -/
def recvNow (n : Nat) : Script → Received × Script
  | [] => (.bytes [], [])
  | .data b bs :: s => (.bytes ((b :: bs).take n), Script.unread ((b :: bs).drop n) s)
  -- nothing is taken: the caller decides whether to wait
  | .wait :: s => (.again, .wait :: s)
  | .silence :: s => (.again, .silence :: s)
  | .fault errno :: s => (.failed errno, s)

/-- Wait until the socket is readable; `false` when the deadline expires first. -/
def waitReadable : Script → Bool × Script
  | .wait :: s => (true, s)
  | .silence :: s => (false, s)
  | s => (true, s)

/-- Blocking receive into a buffer of `n` bytes. -/
def recvBlocking (n : Nat) : Script → Received × Script
  | .wait :: s => recvBlocking n s
  | .silence :: s => recvBlocking n s
  | s => recvNow n s

/-- A blocking receive is one that waits first. -/
theorem recvBlocking_eq (n : Nat) (s : Script) : recvBlocking n s = recvNow n s.awaited := by
  induction s with
  | nil => rfl
  | cons a s ih =>
      cases a with
      | wait | silence => exact ih
      | data b bs => rfl
      | fault errno => rfl

/-- A receive of available data takes what it returns off the script. -/
theorem recvNow_takenOff {n : Nat} (hn : n ≠ 0) (b : UInt8) (bs : List UInt8) (s : Script) :
    ∃ c cs s', recvNow n (.data b bs :: s) = (.bytes (c :: cs), s') ∧ (c :: cs).length ≤ n ∧
      Script.TakenOff (c :: cs) (.data b bs :: s) s' := by
  obtain ⟨m, rfl⟩ := Nat.exists_eq_succ_of_ne_zero hn
  refine ⟨b, bs.take m, Script.unread (bs.drop m) s, rfl, ?_, ?_, ?_, fun h => h.tail.unread _⟩
  · rw [List.length_cons, List.length_take]
    omega
  · rw [Script.bytes_unread, List.cons_append, ← List.append_assoc, List.take_append_drop]
    rfl
  · rw [Script.delivered_unread, List.cons_append, ← List.append_assoc, List.take_append_drop]
    rfl

/-- Blocking receive that waits for `n` bytes; fewer come back when the stream ends first. -/
def recvWaitAll (n : Nat) : Script → Received × Script
  | [] => (.bytes [], [])
  | .data b bs :: s =>
      if n ≤ (b :: bs).length then
        (.bytes ((b :: bs).take n), Script.unread ((b :: bs).drop n) s)
      else
        match recvWaitAll (n - (b :: bs).length) s with
        | (.bytes more, s') => (.bytes (b :: bs ++ more), s')
        | r => r
  | .wait :: s => recvWaitAll n s
  | .silence :: s => recvWaitAll n s
  | .fault errno :: s => (.failed errno, s)

/-- The data of one receive call. -/
def Received.data : Received → List UInt8
  | .bytes bs => bs
  | _ => []

/-- A receive call takes the data that it returns, and no more than its buffer holds. -/
theorem recvNow_takes {n : Nat} {s s' : Script} {r : Received} (h : recvNow n s = (r, s')) :
    s.bytes = r.data ++ s'.bytes ∧ r.data.length ≤ n := by
  cases s with
  | nil =>
      cases h
      exact ⟨rfl, Nat.zero_le n⟩
  | cons a t =>
      cases a with
      | data b bs =>
          cases h
          refine ⟨?_, List.length_take_le n _⟩
          rw [Received.data, Script.bytes_unread, ← List.append_assoc, List.take_append_drop]
          rfl
      | wait | silence | fault errno =>
          cases h
          exact ⟨rfl, Nat.zero_le n⟩

theorem recvBlocking_takes {n : Nat} {s s' : Script} {r : Received}
    (h : recvBlocking n s = (r, s')) : s.bytes = r.data ++ s'.bytes ∧ r.data.length ≤ n := by
  induction s with
  | nil => exact recvNow_takes h
  | cons a t ih =>
      cases a with
      -- what is waited for has no bytes
      | wait | silence => exact ih h
      | data b bs => exact recvNow_takes h
      | fault errno => exact recvNow_takes h

/-! ## Readers -/

/-- A computation that reads from a script and may fail. -/
def Reader (ε : Type u) (α : Type v) : Type (max u v) := Script → Except ε α × Script

namespace Reader

variable {ε : Type u} {α β : Type v}

instance : Monad (Reader.{u, v} ε) where
  pure a := fun s => (.ok a, s)
  bind m f := fun s =>
    match m s with
    | (.ok a, s') => f a s'
    | (.error err, s') => (.error err, s')

/-- The failing computation. -/
def fail (err : ε) : Reader ε α := fun s => (.error err, s)

/-- A computation that reads nothing. -/
def lift (r : Except ε α) : Reader ε α := fun s => (r, s)

theorem bind_ok {m : Reader ε α} {f : α → Reader ε β} {s s' : Script} {a : α}
    (h : m s = (.ok a, s')) : (m >>= f) s = f a s' := by
  show (match m s with
    | (.ok a, s') => f a s'
    | (.error err, s') => (.error err, s')) = f a s'
  rw [h]

theorem bind_error {m : Reader ε α} {f : α → Reader ε β} {s s' : Script} {err : ε}
    (h : m s = (.error err, s')) : (m >>= f) s = (.error err, s') := by
  show (match m s with
    | (.ok a, s') => f a s'
    | (.error err, s') => (.error err, s')) = _
  rw [h]

end Reader

/-- On every script whose bytes start with `bs`, however these are cut, the reader returns `r` and
takes exactly `bs`. -/
def Yields {ε : Type u} {α : Type v} (m : Reader ε α) (bs : List UInt8) (r : Except ε α) : Prop :=
  ∀ (s : Script) (rest : List UInt8), s.Clean → s.bytes = bs ++ rest →
    ∃ s', m s = (r, s') ∧ s'.Clean ∧ s'.bytes = rest

namespace Yields

variable {ε : Type u} {α β : Type v}

theorem lift (r : Except ε α) : Yields (Reader.lift r) [] r := by
  intro s rest hs hbytes
  exact ⟨s, rfl, hs, hbytes⟩

theorem pure (a : α) : Yields (Pure.pure a : Reader ε α) [] (.ok a) := lift (.ok a)

theorem fail (err : ε) : Yields (Reader.fail err : Reader ε α) [] (.error err) := lift (.error err)

theorem bind {m : Reader ε α} {f : α → Reader ε β} {bs bs' : List UInt8} {a : α}
    {r : Except ε β} (hm : Yields m bs (.ok a)) (hf : Yields (f a) bs' r) :
    Yields (m >>= f) (bs ++ bs') r := by
  intro s rest hs hbytes
  rw [List.append_assoc] at hbytes
  obtain ⟨s₁, hrun, hs₁, hbytes₁⟩ := hm s (bs' ++ rest) hs hbytes
  obtain ⟨s₂, hrun₂, hs₂, hbytes₂⟩ := hf s₁ rest hs₁ hbytes₁
  exact ⟨s₂, (Reader.bind_ok hrun).trans hrun₂, hs₂, hbytes₂⟩

/-- Continue a reader whose first part takes no bytes. -/
theorem bind_lift {x : Except ε α} {f : α → Reader ε β} {bs : List UInt8} {a : α}
    {r : Except ε β} (hx : x = .ok a) (hf : Yields (f a) bs r) :
    Yields (Reader.lift x >>= f) bs r := by
  rw [hx]
  exact bind (lift (.ok a)) hf

/-- Continue a reader by a part that takes no bytes. -/
theorem bind_nil {m : Reader ε α} {f : α → Reader ε β} {bs : List UInt8} {a : α}
    {r : Except ε β} (hm : Yields m bs (.ok a)) (hf : Yields (f a) [] r) :
    Yields (m >>= f) bs r := by
  have h := bind hm hf
  rwa [List.append_nil] at h

end Yields

/-- On every script, the reader takes some first bytes of the stream, and `Q` holds of these bytes and
of what it returns. -/
def Takes {ε : Type u} {α : Type v} (m : Reader ε α) (Q : List UInt8 → Except ε α → Prop) : Prop :=
  ∀ (s : Script) (r : Except ε α) (s' : Script), m s = (r, s') →
    ∃ bs, s.bytes = bs ++ s'.bytes ∧ Q bs r

namespace Takes

variable {ε : Type u} {α β : Type v} {m : Reader ε α} {Q R : List UInt8 → Except ε α → Prop}

theorem mono (hm : Takes m Q) (h : ∀ bs r, Q bs r → R bs r) : Takes m R := by
  intro s r s' hrun
  obtain ⟨bs, hbytes, hQ⟩ := hm s r s' hrun
  exact ⟨bs, hbytes, h bs r hQ⟩

/-- Two facts about a reader are about the same bytes. -/
theorem and (hQ : Takes m Q) (hR : Takes m R) : Takes m fun bs r => Q bs r ∧ R bs r := by
  intro s r s' hrun
  obtain ⟨bs, hbytes, h⟩ := hQ s r s' hrun
  obtain ⟨bs', hbytes', h'⟩ := hR s r s' hrun
  obtain rfl : bs = bs' := List.append_cancel_right (hbytes.symm.trans hbytes')
  exact ⟨bs, hbytes, h, h'⟩

theorem lift {r : Except ε α} (h : Q [] r) : Takes (Reader.lift r) Q := by
  intro s r' s' hrun
  cases hrun
  exact ⟨[], rfl, h⟩

theorem pure {a : α} (h : Q [] (.ok a)) : Takes (Pure.pure a : Reader ε α) Q := lift h

theorem fail {err : ε} (h : Q [] (.error err)) : Takes (Reader.fail err : Reader ε α) Q := lift h

/-- A failure of the first part is the result; otherwise the second part takes the bytes behind those
of the first. -/
theorem bind {f : α → Reader ε β} {S : List UInt8 → Except ε β → Prop} (hm : Takes m Q)
    (herr : ∀ bs err, Q bs (.error err) → S bs (.error err))
    (hok : ∀ bs a, Q bs (.ok a) → Takes (f a) fun bs' r => S (bs ++ bs') r) :
    Takes (m >>= f) S := by
  intro s r s' hrun
  cases hfirst : m s with
  | mk r₁ s₁ =>
      obtain ⟨bs, hbytes, hQ⟩ := hm s r₁ s₁ hfirst
      cases r₁ with
      | error err =>
          rw [Reader.bind_error hfirst] at hrun
          cases hrun
          exact ⟨bs, hbytes, herr bs err hQ⟩
      | ok a =>
          rw [Reader.bind_ok hfirst] at hrun
          obtain ⟨bs', hbytes', hS⟩ := hok bs a hQ s₁ r s' hrun
          refine ⟨bs ++ bs', ?_, hS⟩
          rw [hbytes, hbytes', List.append_assoc]

/-- Continue a reader whose first part takes no bytes. -/
theorem bind_lift {x : Except ε α} {f : α → Reader ε β} {S : List UInt8 → Except ε β → Prop}
    (herr : ∀ err, x = .error err → S [] (.error err)) (hok : ∀ a, x = .ok a → Takes (f a) S) :
    Takes (Reader.lift x >>= f) S := by
  refine bind (Q := fun bs r => bs = [] ∧ r = x) (lift ⟨rfl, rfl⟩) ?_ ?_
  · rintro bs err ⟨rfl, hx⟩
    exact herr err hx.symm
  · rintro bs a ⟨rfl, hx⟩
    exact hok a hx.symm

end Takes

/-! ## Sequences of messages -/

/-- Run a reader `n` times, whatever each run returns. -/
def repeatRead {ε : Type u} {α : Type v} (m : Reader ε α) : Nat → Script →
    List (Except ε α) × Script
  | 0, s => ([], s)
  | n + 1, s =>
      let (r, s') := m s
      let (rs, s'') := repeatRead m n s'
      (r :: rs, s'')

/-- **A sequence of messages is read one by one.** A message `x` is encoded by `enc x` and read back
as `res x`; a message without a result has no bytes. The runs return the results in order and take
exactly the messages. -/
theorem repeatRead_filterMap_yields {ε : Type u} {α : Type v} {μ : Type w} {m : Reader ε α}
    {enc : μ → List UInt8} {res : μ → Option (Except ε α)} (xs : List μ)
    (hnone : ∀ x ∈ xs, res x = none → enc x = [])
    (hsome : ∀ x ∈ xs, ∀ r, res x = some r → Yields m (enc x) r) {s : Script}
    {rest : List UInt8} (hs : s.Clean) (hbytes : s.bytes = xs.flatMap enc ++ rest) :
    ∃ s', repeatRead m (xs.filterMap res).length s = (xs.filterMap res, s') ∧ s'.Clean ∧
      s'.bytes = rest := by
  -- on the messages; each run leaves a script that starts with the next message
  induction xs generalizing s with
  | nil => exact ⟨s, rfl, hs, hbytes⟩
  | cons x xs ih =>
      rw [List.flatMap_cons, List.append_assoc] at hbytes
      have ih := fun {s} => ih (s := s) (fun y hy => hnone y (List.mem_cons_of_mem x hy))
        (fun y hy => hsome y (List.mem_cons_of_mem x hy))
      cases hres : res x with
      | none =>
          -- nothing was sent, so there is no run either
          rw [hnone x List.mem_cons_self hres, List.nil_append] at hbytes
          rw [List.filterMap_cons_none hres]
          exact ih hs hbytes
      | some r =>
          obtain ⟨s₁, hrun, hs₁, hbytes₁⟩ := hsome x List.mem_cons_self r hres s _ hs hbytes
          obtain ⟨s₂, hruns, hs₂, hbytes₂⟩ := ih hs₁ hbytes₁
          refine ⟨s₂, ?_, hs₂, hbytes₂⟩
          rw [List.filterMap_cons_some hres]
          simp only [List.length_cons, repeatRead, hrun, hruns]

/-- The case in which every message has a result. -/
theorem repeatRead_yields {ε : Type u} {α : Type v} {μ : Type w} {m : Reader ε α}
    {enc : μ → List UInt8} {res : μ → Except ε α} (xs : List μ)
    (h : ∀ x ∈ xs, Yields m (enc x) (res x)) {s : Script} {rest : List UInt8} (hs : s.Clean)
    (hbytes : s.bytes = xs.flatMap enc ++ rest) :
    ∃ s', repeatRead m xs.length s = (xs.map res, s') ∧ s'.Clean ∧ s'.bytes = rest := by
  have hmap : xs.filterMap (fun x => some (res x)) = xs.map res :=
    congrFun (List.filterMap_eq_map (f := res)) xs
  have hall : ∃ s', repeatRead m (xs.filterMap fun x => some (res x)).length s =
      (xs.filterMap fun x => some (res x), s') ∧ s'.Clean ∧ s'.bytes = rest := by
    apply repeatRead_filterMap_yields xs _ _ hs hbytes
    · intro x _ hx
      cases hx
    · rintro x hx r ⟨⟩
      exact h x hx
  rwa [hmap, List.length_map] at hall

end Cuse2Net.Lib

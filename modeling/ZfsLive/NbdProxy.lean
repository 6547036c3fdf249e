/-
**The migration proxy** (`src/datapath/nbd_proxy.py`).

`proxy_fds` shuttles bytes between two file descriptors until one side closes or fails: `select` tells
which of them can be read, what is read from one is written to the other, however many writes that
takes, and both are closed at the end.

What the kernel answers is a schedule: any readiness sets, any reads of at most `bufsize` bytes, any
partial writes.  The ways out of the two nested loops are exceptions here; a run is looked at after any
number of rounds.

Main definitions:

* `NbdProxy.proxyFds` — the call, for as many rounds as are given;
* `NbdProxy.Relayed` — each side was sent what was received from the other;
* `NbdProxy.Faithful` — what holds of a run that goes on, and of one that has ended;
* `NbdProxy.Kernel.order`, `NbdProxy.Kernel.given` — the reads that the selects ask for, and what a
  descriptor gives in them;
* `NbdProxy.Accounted` — what was received and the end of the run are what the kernel has answered.

Main results:

* `NbdProxy.wp_round` — a round keeps the two streams equal, or ends the run with prefixes;
* `NbdProxy.proxyFds_faithful` — **no byte is lost, duplicated or reordered, and both descriptors are
  closed once**;
* `NbdProxy.proxyFds_accounted` — **every answer of the kernel is acted on**.
-/

import ZfsLive.Base.Loop

set_option relaxedAutoImplicit false
set_option autoImplicit false

namespace NbdProxy

open Loop Wp

/-! ### Descriptors and the kernel -/

/-- The two file descriptors. -/
inductive Fd
  | fd1
  | fd2
  deriving DecidableEq, Repr

/-- `fd2 if r == fd1 else fd1`. -/
def Fd.other (r : Fd) : Fd := if r = .fd1 then .fd2 else .fd1

/-- What a `select` finds. -/
structure Ready where
  readable : List Fd
  exceptional : List Fd
  deriving DecidableEq, Repr

/-- The answers of the kernel, each by its number; `none` is an `OSError`. -/
structure Kernel where
  select : ℕ → Option Ready
  read : ℕ → Option (List UInt8)
  write : ℕ → Option ℕ

/-- Why the proxy has ended. -/
inductive Exit
  /-- `select` raised. -/
  | selectFailed
  /-- `select` found an exceptional condition. -/
  | exceptional
  | readFailed
  | eof
  | writeFailed
  /-- A write wrote nothing. -/
  | wroteNothing
  /-- A loop of the model ran out of rounds; no run ends so. -/
  | stuck
  deriving DecidableEq, Repr

/-- The calls that were made, and the bytes that went through them. -/
structure Proxy where
  selects : ℕ
  reads : ℕ
  writes : ℕ
  /-- The bytes read from a descriptor. -/
  received : Fd → List UInt8
  /-- The bytes written to a descriptor. -/
  sent : Fd → List UInt8
  /-- How often a descriptor was closed. -/
  closed : Fd → ℕ

/-- The proxy when it starts. -/
def Proxy.start : Proxy := ⟨0, 0, 0, fun _ => [], fun _ => [], fun _ => 0⟩

abbrev ProxyM := EStateM Exit Proxy

section

variable (K : Kernel) (bufsize : ℕ)

/-! ### System calls -/

def select : ProxyM Ready := fun s =>
  match K.select s.selects with
  | none => .error .selectFailed { s with selects := s.selects + 1 }
  | some ready => .ok ready { s with selects := s.selects + 1 }

/-- `os.read(r, bufsize)`: at most `bufsize` bytes. -/
def read (r : Fd) : ProxyM (List UInt8) := fun s =>
  match K.read s.reads with
  | none => .error .readFailed { s with reads := s.reads + 1 }
  | some bytes =>
      let data := bytes.take bufsize
      .ok data { s with
        reads := s.reads + 1
        received := fun fd => if fd = r then s.received fd ++ data else s.received fd }

/-- `os.write(w, data)`: the number of bytes that were written. -/
def write (w : Fd) (data : List UInt8) : ProxyM ℕ := fun s =>
  match K.write s.writes with
  | none => .error .writeFailed { s with writes := s.writes + 1 }
  | some count =>
      let written := min count data.length
      .ok written { s with
        writes := s.writes + 1
        sent := fun fd => if fd = w then s.sent fd ++ data.take written else s.sent fd }

/-- `os.close`, whose errors are ignored. -/
def Proxy.close (s : Proxy) (fd : Fd) : Proxy :=
  { s with closed := fun fd' => if fd' = fd then s.closed fd' + 1 else s.closed fd' }

/-! ### The loops -/

/-- One round of the loop that writes `data`. -/
def writeRound (w : Fd) (data : List UInt8) (offset : ℕ) : ProxyM (ℕ ⊕ Unit) := do
  if offset < data.length then
    let written ← write K w (data.drop offset)
    if written = 0 then throw .wroteNothing
    return .inl (offset + written)
  else
    return .inr ()

/-- What happens for a readable descriptor. -/
def shuttle (r : Fd) : ProxyM Unit := do
  let w := r.other
  let data ← read K bufsize r
  if data = [] then throw .eof
  loop .stuck (writeRound K w data) (data.length + 1) 0

/-- `for r in readable`. -/
def shuttles : List Fd → ProxyM Unit
  | [] => return ()
  | r :: rs => do
      shuttle K bufsize r
      shuttles rs

/-- From one `select` to the next. -/
def round : ProxyM Unit := do
  let ready ← select K
  if ready.exceptional ≠ [] then throw .exceptional
  shuttles K bufsize ready.readable

def rounds : ℕ → ProxyM Unit
  | 0 => return ()
  | n + 1 => do
      round K bufsize
      rounds n

/-- Whether the proxy is still running, or why it has ended. -/
inductive Status
  | running
  | ended (exit : Exit)
  deriving DecidableEq, Repr

/-- `proxy_fds` after `n` rounds; when it has ended, both descriptors have been closed. -/
def proxyFds (n : ℕ) : Status × Proxy :=
  match rounds K bufsize n .start with
  | .ok _ s => (.running, s)
  | .error exit s => (.ended exit, (s.close .fd1).close .fd2)

end

/-! ### The two streams -/

/-- Each descriptor was sent what was received from the other, and none is closed. -/
structure Relayed (s : Proxy) : Prop where
  sent : ∀ fd, s.sent fd.other = s.received fd
  closed : ∀ fd, s.closed fd = 0

/-- When a run ends, each descriptor was sent a prefix of what was received from the other: all of it,
unless a write failed or wrote nothing. -/
structure Stopped (exit : Exit) (s : Proxy) : Prop where
  sent : ∀ fd, s.sent fd.other <+: s.received fd
  all : exit ≠ .writeFailed → exit ≠ .wroteNothing → ∀ fd, s.sent fd.other = s.received fd
  ne_stuck : exit ≠ .stuck

/-- What the proxy promises: at a return to `select`, and at its end. -/
def Faithful : Status × Proxy → Prop
  | (.running, s) => Relayed s
  | (.ended exit, s) => Stopped exit s ∧ ∀ fd, s.closed fd = 1

theorem Fd.other_ne (r : Fd) : r.other ≠ r := by cases r <;> decide

theorem Fd.eq_or_eq_other (r fd : Fd) : fd = r ∨ fd = r.other := by
  cases r <;> cases fd <;> decide

@[simp] theorem Fd.other_other (r : Fd) : r.other.other = r := by cases r <;> rfl

/-- **The write loop**: `data` was read from `r`, and `offset` bytes of it have been written. -/
structure Writing (r : Fd) (data : List UInt8) (offset : ℕ) (s : Proxy) : Prop where
  le : offset ≤ data.length
  fore : s.sent r = s.received r.other
  back : ∃ base, s.received r = base ++ data ∧ s.sent r.other = base ++ data.take offset
  closed : ∀ fd, s.closed fd = 0

namespace Writing

variable {r : Fd} {data : List UInt8} {offset : ℕ} {s : Proxy}

/-- All of it is written. -/
theorem relayed (h : Writing r data offset s) (hall : ¬ offset < data.length) : Relayed s := by
  refine ⟨fun fd => ?_, h.closed⟩
  obtain ⟨base, hreceived, hsent⟩ := h.back
  rcases r.eq_or_eq_other fd with rfl | rfl
  · rw [hreceived, hsent, List.take_of_length_le (by omega)]
  · rw [Fd.other_other]
    exact h.fore

/-- A write that fails leaves a prefix. -/
theorem stopped (h : Writing r data offset s) {exit : Exit}
    (hexit : exit = .writeFailed ∨ exit = .wroteNothing) : Stopped exit s := by
  refine ⟨fun fd => ?_, fun hf hn => ?_, ?_⟩
  · obtain ⟨base, hreceived, hsent⟩ := h.back
    rcases r.eq_or_eq_other fd with rfl | rfl
    · rw [hreceived, hsent, List.prefix_append_right_inj]
      exact List.take_prefix _ _
    · rw [Fd.other_other]
      exact h.fore ▸ List.prefix_rfl
  · rcases hexit with rfl | rfl
    · exact absurd rfl hf
    · exact absurd rfl hn
  · rcases hexit with rfl | rfl <;> decide

end Writing

theorem Relayed.stopped {s : Proxy} (h : Relayed s) {exit : Exit} (hexit : exit ≠ .stuck) :
    Stopped exit s :=
  ⟨fun fd => h.sent fd ▸ List.prefix_rfl, fun _ _ => h.sent, hexit⟩

/-- What a part of the proxy guarantees when it leaves the loops. -/
def Left (exit : Exit) (s : Proxy) : Prop := Stopped exit s ∧ ∀ fd, s.closed fd = 0

section

variable {K : Kernel} {bufsize : ℕ}

theorem wp_select {s : Proxy} (h : Relayed s) : wp (select K) (fun _ => Relayed) Left s := by
  rw [wp, select]
  cases K.select s.selects with
  | none =>
      have h' : Relayed { s with selects := s.selects + 1 } := ⟨h.sent, h.closed⟩
      exact ⟨h'.stopped (by decide), h.closed⟩
  | some ready => exact ⟨h.sent, h.closed⟩

/-- What was read is still to be written. -/
theorem wp_read {r : Fd} {s : Proxy} (h : Relayed s) :
    wp (read K bufsize r) (fun data => Writing r data 0) Left s := by
  rw [wp, read]
  cases K.read s.reads with
  | none =>
      have h' : Relayed { s with reads := s.reads + 1 } := ⟨h.sent, h.closed⟩
      exact ⟨h'.stopped (by decide), h.closed⟩
  | some bytes =>
      refine ⟨Nat.zero_le _, ?_, ⟨s.received r, if_pos rfl, ?_⟩, h.closed⟩
      · have hfore := h.sent r.other
        rw [Fd.other_other] at hfore
        rw [hfore]
        exact (if_neg r.other_ne).symm
      · rw [List.take_zero, List.append_nil]
        exact h.sent r

/-- One write: the bytes that were written are the next ones. -/
theorem wp_write {r : Fd} {data : List UInt8} {offset : ℕ} {s : Proxy} (h : Writing r data offset s) :
    wp (write K r.other (data.drop offset)) (fun written => Writing r data (offset + written)) Left
      s := by
  rw [wp, write]
  cases K.write s.writes with
  | none =>
      have h' : Writing r data offset { s with writes := s.writes + 1 } :=
        ⟨h.le, h.fore, h.back, h.closed⟩
      exact ⟨h'.stopped (.inl rfl), h.closed⟩
  | some count =>
      obtain ⟨base, hreceived, hsent⟩ := h.back
      have hle := h.le
      refine ⟨?_, ?_, ⟨base, hreceived, ?_⟩, h.closed⟩
      · rw [List.length_drop]
        omega
      · rw [← h.fore]
        exact if_neg r.other_ne.symm
      · refine (if_pos rfl).trans ?_
        rw [hsent, List.append_assoc, ← List.take_add]

theorem wp_writeRound {r : Fd} {data : List UInt8} {offset : ℕ} {s : Proxy}
    (h : Writing r data offset s) :
    wp (writeRound K r.other data offset) (fun next s' =>
      match next with
      | .inl offset' => Writing r data offset' s' ∧ data.length - offset' < data.length - offset
      | .inr _ => Relayed s') Left s := by
  rw [writeRound]
  by_cases hlt : offset < data.length
  · rw [if_pos hlt, wp_bind]
    refine wp_mono (wp_write h) (fun written s' h' => ?_) fun _ _ h' => h'
    by_cases hzero : written = 0
    · simp only [if_pos hzero, wp_bind, wp_throw]
      exact ⟨h'.stopped (.inr rfl), h'.closed⟩
    · simp only [if_neg hzero, wp_pure]
      exact ⟨h', by omega⟩
  · rw [if_neg hlt, wp_pure]
    exact h.relayed hlt

/-- **What was read from one side is written to the other**, whole or up to a failure. -/
theorem wp_shuttle {r : Fd} {s : Proxy} (h : Relayed s) :
    wp (shuttle K bufsize r) (fun _ => Relayed) Left s := by
  rw [shuttle, wp_bind]
  refine wp_mono (wp_read h) (fun data s' h' => ?_) fun _ _ h' => h'
  by_cases hnil : data = []
  · have hdone : Relayed s' := h'.relayed (by simp [hnil])
    simp only [if_pos hnil, wp_bind, wp_throw]
    exact ⟨hdone.stopped (by decide), h'.closed⟩
  · simp only [if_neg hnil]
    refine wp_loop (fun offset _ => data.length - offset) (fun offset t ht => ?_) h' (by omega)
    refine wp_mono (wp_writeRound ht) (fun next t' hnext => ?_) fun _ _ hleft => hleft
    cases next with
    | inl offset' => exact hnext
    | inr _ => exact hnext

theorem wp_shuttles (rs : List Fd) {s : Proxy} (h : Relayed s) :
    wp (shuttles K bufsize rs) (fun _ => Relayed) Left s := by
  induction rs generalizing s with
  | nil => exact h
  | cons r rs ih =>
      rw [shuttles, wp_bind]
      exact wp_mono (wp_shuttle h) (fun _ _ h' => ih h') fun _ _ h' => h'

/-- **A round** keeps what was sent equal to what was received, or ends the run. -/
theorem wp_round {s : Proxy} (h : Relayed s) :
    wp (round K bufsize) (fun _ => Relayed) Left s := by
  rw [round, wp_bind]
  refine wp_mono (wp_select h) (fun ready s' h' => ?_) fun _ _ h' => h'
  by_cases hex : ready.exceptional ≠ []
  · simp only [if_pos hex, wp_bind, wp_throw]
    exact ⟨h'.stopped (by decide), h'.closed⟩
  · simp only [if_neg hex]
    exact wp_shuttles _ h'

theorem wp_rounds (n : ℕ) {s : Proxy} (h : Relayed s) :
    wp (rounds K bufsize n) (fun _ => Relayed) Left s := by
  induction n generalizing s with
  | zero => exact h
  | succ n ih =>
      rw [rounds, wp_bind]
      exact wp_mono (wp_round h) (fun _ _ h' => ih h') fun _ _ h' => h'

/-- **The proxy is faithful**: for every schedule and after every number of rounds, each descriptor was
sent what was received from the other, or at the end a prefix of it, and at the end both descriptors
have been closed once. -/
theorem proxyFds_faithful (K : Kernel) (bufsize n : ℕ) : Faithful (proxyFds K bufsize n) := by
  have hstart : Relayed .start := ⟨fun _ => rfl, fun _ => rfl⟩
  have hrun : wp (rounds K bufsize n) (fun _ => Relayed) Left .start := wp_rounds n hstart
  rw [proxyFds]
  rcases hr : rounds K bufsize n .start with ⟨_, s⟩ | ⟨exit, s⟩
  · exact (wp_of_ok hr).1 hrun
  · obtain ⟨hstopped, hclosed⟩ := (wp_of_error hr).1 hrun
    refine ⟨⟨hstopped.sent, hstopped.all, hstopped.ne_stuck⟩, fun fd => ?_⟩
    cases fd <;> simp [Proxy.close, hclosed]

end

/-! ### The answers of the kernel -/

/-- The descriptors in the order in which they are read: those that the first `n` selects find
readable. -/
def Kernel.order (K : Kernel) (n : ℕ) : List Fd :=
  (List.range n).flatMap fun k => ((K.select k).map Ready.readable).getD []

/-- What a descriptor gives when the reads are of these descriptors. -/
def Kernel.given (K : Kernel) (bufsize : ℕ) (done : List Fd) (fd : Fd) : List UInt8 :=
  done.zipIdx.flatMap fun p => if p.1 = fd then ((K.read p.2).getD []).take bufsize else []

section

variable (K : Kernel) (bufsize : ℕ)

/-- After `selects` selects, the descriptors `done` were read. -/
structure Follows (selects : ℕ) (done : List Fd) (s : Proxy) : Prop where
  selects : s.selects = selects
  reads : s.reads = done.length
  received : ∀ fd, s.received fd = K.given bufsize done fd

/-- The last answer of the kernel is a reason to end. -/
def Reason (s : Proxy) : Exit → Prop
  | .selectFailed => K.select (s.selects - 1) = none
  | .exceptional => ∃ ready, K.select (s.selects - 1) = some ready ∧ ready.exceptional ≠ []
  | .readFailed => K.read (s.reads - 1) = none
  | .eof => ∃ bytes, K.read (s.reads - 1) = some bytes ∧ bytes.take bufsize = []
  | .writeFailed => K.write (s.writes - 1) = none
  | .wroteNothing => K.write (s.writes - 1) = some 0
  | .stuck => False

/-- The run has ended within `n` selects, in the middle of the reads that were asked for. -/
def Ended (n : ℕ) (exit : Exit) (s : Proxy) : Prop :=
  ∃ k done, k ≤ n ∧ done <+: K.order k ∧ Follows K bufsize k done s ∧ Reason K bufsize s exit

/-- A run that goes on after `n` rounds has made `n` selects, and all the reads they have asked for; one
that has ended had a reason. -/
def Accounted (n : ℕ) : Status × Proxy → Prop
  | (.running, s) => Follows K bufsize n (K.order n) s
  | (.ended exit, s) => Ended K bufsize n exit s

variable {K bufsize} {k n : ℕ} {done : List Fd} {s : Proxy} {exit : Exit}

theorem Kernel.given_append (r fd : Fd) : K.given bufsize (done ++ [r]) fd =
    K.given bufsize done fd ++
      if r = fd then ((K.read done.length).getD []).take bufsize else [] := by
  simp [Kernel.given, List.zipIdx_append]

theorem Kernel.order_succ (K : Kernel) (n : ℕ) :
    K.order (n + 1) = K.order n ++ ((K.select n).map Ready.readable).getD [] := by
  simp [Kernel.order, List.range_succ]

/-- One read, whatever it gives. -/
theorem wp_read_follows (r : Fd) (h : Follows K bufsize k done s) :
    wp (read K bufsize r)
      (fun data s' => Follows K bufsize k (done ++ [r]) s' ∧ (data = [] → Reason K bufsize s' .eof))
      (fun exit s' => Follows K bufsize k (done ++ [r]) s' ∧ Reason K bufsize s' exit) s := by
  have hlen : s.reads + 1 = (done ++ [r]).length := by simp [h.reads]
  rw [wp, read]
  cases hread : K.read s.reads with
  | none =>
      refine ⟨⟨h.selects, hlen, fun fd => ?_⟩, hread⟩
      rw [Kernel.given_append, ← h.reads, hread]
      simpa using h.received fd
  | some bytes =>
      refine ⟨⟨h.selects, hlen, fun fd => ?_⟩, fun hnil => ⟨bytes, hread, hnil⟩⟩
      rw [Kernel.given_append, ← h.reads, hread, ← h.received fd]
      by_cases hfd : fd = r
      · simp [hfd]
      · simp [hfd, Ne.symm hfd]

/-- A write has to do with no read. -/
theorem wp_writeRound_follows (w : Fd) (data : List UInt8) (offset : ℕ)
    (h : Follows K bufsize k done s) :
    wp (writeRound K w data offset) (fun next s' =>
      match next with
      | .inl offset' => Follows K bufsize k done s' ∧ data.length - offset' < data.length - offset
      | .inr _ => Follows K bufsize k done s')
      (fun exit s' => Follows K bufsize k done s' ∧ Reason K bufsize s' exit) s := by
  rw [writeRound]
  by_cases hlt : offset < data.length
  · rw [if_pos hlt, wp_bind, wp, write]
    cases hwrite : K.write s.writes with
    | none => exact ⟨⟨h.selects, h.reads, h.received⟩, hwrite⟩
    | some count =>
        by_cases hzero : min count (data.drop offset).length = 0
        · have hcount : count = 0 := by
            rw [List.length_drop] at hzero
            omega
          simp only [if_pos hzero, wp_bind, wp_throw]
          exact ⟨⟨h.selects, h.reads, h.received⟩, hcount ▸ hwrite⟩
        · simp only [if_neg hzero, wp_pure]
          exact ⟨⟨h.selects, h.reads, h.received⟩, by omega⟩
  · rw [if_neg hlt, wp_pure]
    exact h

theorem wp_shuttle_follows (r : Fd) (h : Follows K bufsize k done s) :
    wp (shuttle K bufsize r) (fun _ => Follows K bufsize k (done ++ [r]))
      (fun exit s' => Follows K bufsize k (done ++ [r]) s' ∧ Reason K bufsize s' exit) s := by
  rw [shuttle, wp_bind]
  refine wp_mono (wp_read_follows r h) (fun data s' h' => ?_) fun _ _ h' => h'
  by_cases hnil : data = []
  · simp only [if_pos hnil, wp_bind, wp_throw]
    exact ⟨h'.1, h'.2 hnil⟩
  · simp only [if_neg hnil]
    refine wp_loop (I := fun _ t => Follows K bufsize k (done ++ [r]) t)
      (fun offset _ => data.length - offset) (fun offset t ht => ?_) h'.1 (by omega)
    refine wp_mono (wp_writeRound_follows r.other data offset ht) (fun next t' hnext => ?_)
      fun _ _ hended => hended
    cases next with
    | inl offset' => exact hnext
    | inr _ => exact hnext

theorem wp_shuttles_follows (rs : List Fd) (h : Follows K bufsize k done s) :
    wp (shuttles K bufsize rs) (fun _ => Follows K bufsize k (done ++ rs))
      (fun exit s' => ∃ done', done' <+: done ++ rs ∧ Follows K bufsize k done' s' ∧
        Reason K bufsize s' exit) s := by
  induction rs generalizing done s with
  | nil =>
      rw [List.append_nil]
      exact h
  | cons r rs ih =>
      have hsplit : done ++ r :: rs = (done ++ [r]) ++ rs := by simp
      rw [shuttles, wp_bind, hsplit]
      refine wp_mono (wp_shuttle_follows r h) (fun _ _ h' => ih h') fun _ _ h' => ?_
      exact ⟨done ++ [r], List.prefix_append _ _, h'⟩

/-- **A round** makes a select, and the reads that it asks for. -/
theorem wp_round_follows (h : Follows K bufsize k (K.order k) s) :
    wp (round K bufsize) (fun _ => Follows K bufsize (k + 1) (K.order (k + 1)))
      (Ended K bufsize (k + 1)) s := by
  rw [round, wp_bind, wp, select]
  have hselects : s.selects + 1 = k + 1 := congrArg (· + 1) h.selects
  have hprefix : K.order k <+: K.order (k + 1) := by
    rw [Kernel.order_succ]
    exact List.prefix_append _ _
  cases hselect : K.select s.selects with
  | none => exact ⟨k + 1, _, Nat.le_refl _, hprefix, ⟨hselects, h.reads, h.received⟩, hselect⟩
  | some ready =>
      by_cases hex : ready.exceptional ≠ []
      · simp only [if_pos hex, wp_bind, wp_throw]
        exact ⟨k + 1, _, Nat.le_refl _, hprefix, ⟨hselects, h.reads, h.received⟩, ready, hselect, hex⟩
      · have horder : K.order (k + 1) = K.order k ++ ready.readable := by
          rw [Kernel.order_succ, ← h.selects, hselect]
          rfl
        simp only [if_neg hex]
        rw [horder]
        refine wp_mono (wp_shuttles_follows ready.readable ⟨hselects, h.reads, h.received⟩)
          (fun _ _ h' => h') ?_
        rintro _ _ ⟨done', hdone', h'⟩
        exact ⟨k + 1, done', Nat.le_refl _, horder ▸ hdone', h'⟩

theorem wp_rounds_follows (n : ℕ) (h : Follows K bufsize k (K.order k) s) :
    wp (rounds K bufsize n) (fun _ => Follows K bufsize (k + n) (K.order (k + n)))
      (Ended K bufsize (k + n)) s := by
  induction n generalizing k s with
  | zero => exact h
  | succ n ih =>
      have hsum : k + (n + 1) = k + 1 + n := by omega
      rw [rounds, wp_bind, hsum]
      refine wp_mono (wp_round_follows h) (fun _ _ h' => ih h') ?_
      rintro _ _ ⟨j, done', hj, h'⟩
      exact ⟨j, done', by omega, h'⟩

/-- **The answers of the kernel are acted on**: after `n` rounds the bytes received from a descriptor are
those of the reads that the `n` selects have asked for, in their order, and nothing but an answer ends
the run. -/
theorem proxyFds_accounted (K : Kernel) (bufsize n : ℕ) :
    Accounted K bufsize n (proxyFds K bufsize n) := by
  have hstart : Follows K bufsize 0 (K.order 0) .start := ⟨rfl, rfl, fun _ => rfl⟩
  have hrun := wp_rounds_follows n hstart
  rw [Nat.zero_add] at hrun
  rw [proxyFds]
  rcases hr : rounds K bufsize n .start with ⟨_, s⟩ | ⟨exit, s⟩
  · exact (wp_of_ok hr).1 hrun
  · obtain ⟨k, done, hk, hdone, h, hreason⟩ := (wp_of_error hr).1 hrun
    refine ⟨k, done, hk, hdone, ⟨h.selects, h.reads, h.received⟩, ?_⟩
    cases exit <;> exact hreason

end

end NbdProxy

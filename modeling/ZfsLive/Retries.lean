/-
**Retrying while a dataset is busy** (`src/volume/zfs_operations.py`, `src/volume/lzc.py`).

The driver has two ways to run a ZFS operation, the command line tools and the library `libzfs_core`,
and each has a retry loop of its own.  `run_zfs_command` counts its tries down and tells a busy dataset
by the text on stderr; the four `*_with_retry` functions of `lzc.py` make a first attempt, then loop, and
tell it by the errno.

Main definitions:

* `Retries.runZfsCommand`, `Retries.destroyWithRetry`, `Retries.snapshotWithRetry`,
  `Retries.cloneWithRetry`, `Retries.createZvolWithRetry`;
* `Retries.tries` — the number of attempts that a sequence of outcomes calls for;
* `Retries.Alike` — two runs that retried alike.

Main results:

* `Retries.runZfsCommand_eq`, `Retries.withRetry_eq` — what each loop does;
* `Retries.alike` — **the two loops are equivalent**.
-/

import Mathlib.Data.List.Infix
import Mathlib.Data.Rat.Defs
import Mathlib.Tactic.Common
import ZfsLive.Base.Wp

set_option relaxedAutoImplicit false
set_option autoImplicit false

namespace Retries

/-! ### Attempts and sleeps -/

/-- What a retry loop has done so far: the requests it has made and the times it has slept. -/
structure Trace (ρ : Type) where
  attempts : List ρ
  sleeps : List ℚ
  deriving DecidableEq, Repr

/-- A loop that has not begun. -/
def Trace.start {ρ : Type} : Trace ρ := ⟨[], []⟩

section

variable {ρ ο ε : Type}

/-- Make one more request: `outcome` tells how each attempt ends. -/
def attempt (outcome : ℕ → ο) (r : ρ) : EStateM ε (Trace ρ) ο := fun t =>
  .ok (outcome t.attempts.length) { t with attempts := t.attempts ++ [r] }

/-- `if retry_delay_sec > 0: time.sleep(retry_delay_sec)`. -/
def sleep (retry_delay_sec : ℚ) : EStateM ε (Trace ρ) Unit := fun t =>
  .ok () (if retry_delay_sec > 0 then { t with sleeps := t.sleeps ++ [retry_delay_sec] } else t)

end

/-! ### The command line tools -/

/-- How a process ends. -/
structure Process where
  returncode : ℤ
  stdout : List UInt8
  stderr : List UInt8
  deriving DecidableEq, Repr

def bytes (s : String) : List UInt8 := s.toUTF8.data.toList

/-- `_BUSY_PATTERNS`. -/
def busyPatterns : List (List UInt8) :=
  [bytes "Device or resource busy", bytes "is busy", bytes "resource busy"]

def isBusyError (stderr_bytes : List UInt8) (returncode : ℤ) : Bool :=
  if returncode = 2 then false else busyPatterns.any fun pat => decide (pat <:+: stderr_bytes)

/-- What `run_zfs_command` returns. -/
inductive Output
  | none
  | stdout (text : List UInt8)
  | all (p : Process)
  deriving DecidableEq, Repr

/-- `xapi.InternalError`, with the values that its text shows. -/
structure InternalError where
  cmd_args : List String
  returncode : ℤ
  stderr : List UInt8
  deriving DecidableEq, Repr

abbrev CliM := EStateM InternalError (Trace (List String))

/-- `run_zfs_command`. -/
def runZfsCommand (processes : ℕ → Process) (cmd_args : List String) (error simple : Bool)
    (expRc : ℤ) (retry_delay_sec : ℚ) : ℕ → CliM Output
  | 0 => return .none
  | ntries + 1 => do
      let proc ← attempt processes cmd_args
      if error = true ∧ proc.returncode ≠ expRc then
        if ntries + 1 > 1 ∧ isBusyError proc.stderr proc.returncode = true then
          sleep retry_delay_sec
          runZfsCommand processes cmd_args error simple expRc retry_delay_sec ntries
        else
          throw ⟨cmd_args, proc.returncode, proc.stderr⟩
      else if simple then
        return .stdout proc.stdout
      else
        return .all proc

/-! ### The library -/

def EBUSY : ℤ := 16

/-- `RETRYABLE_ERRNOS`. -/
def retryableErrnos : List ℤ := [EBUSY]

/-- The requests to the library. -/
inductive Request
  | destroy (name : String)
  | snapshot (snap_name : String)
  | clone (fsname origin : String)
  | create (name : String) (volsize volblocksize : ℕ)
  deriving DecidableEq, Repr

/-- The library functions raise nothing. -/
abbrev LzcM := EStateM Empty (Trace Request)

section

variable (errnos : ℕ → ℤ)

def destroyOne (name : String) : LzcM ℤ := attempt errnos (.destroy name)

def snapshot (snap_name : String) : LzcM ℤ := attempt errnos (.snapshot snap_name)

def clone (fsname origin : String) : LzcM ℤ := attempt errnos (.clone fsname origin)

/-- `create_zvol`: the size is rounded up to whole blocks. -/
def createZvol (name : String) (size_bytes volblocksize : ℕ) : LzcM ℤ :=
  let volsize :=
    if volblocksize > 0 ∧ size_bytes % volblocksize ≠ 0 then
      (size_bytes + volblocksize - 1) / volblocksize * volblocksize
    else
      size_bytes
  attempt errnos (.create name volsize volblocksize)

/-- The `for` loop after an attempt that gave `rc`. -/
def retry (once : LzcM ℤ) (retry_delay_sec : ℚ) : ℕ → ℤ → LzcM ℤ
  | 0, rc => return rc
  | k + 1, _ => do
      sleep retry_delay_sec
      let rc ← once
      if rc = 0 then return 0
      else if rc ∉ retryableErrnos then return rc
      else retry once retry_delay_sec k rc

/-- A first attempt, and the loop. -/
def withRetry (once : LzcM ℤ) (max_attempts : ℕ) (retry_delay_sec : ℚ) : LzcM ℤ := do
  let rc ← once
  if rc = 0 then return 0
  else if rc ∉ retryableErrnos then return rc
  else retry once retry_delay_sec (max_attempts - 1) rc

def destroyWithRetry (name : String) (max_attempts : ℕ) (retry_delay_sec : ℚ) : LzcM ℤ :=
  withRetry (destroyOne errnos name) max_attempts retry_delay_sec

def snapshotWithRetry (snap_name : String) (max_attempts : ℕ) (retry_delay_sec : ℚ) : LzcM ℤ :=
  withRetry (snapshot errnos snap_name) max_attempts retry_delay_sec

def cloneWithRetry (fsname origin : String) (max_attempts : ℕ) (retry_delay_sec : ℚ) : LzcM ℤ :=
  withRetry (clone errnos fsname origin) max_attempts retry_delay_sec

def createZvolWithRetry (name : String) (size_bytes volblocksize max_attempts : ℕ)
    (retry_delay_sec : ℚ) : LzcM ℤ :=
  withRetry (createZvol errnos name size_bytes volblocksize) max_attempts retry_delay_sec

/-- The calls that have a retry loop. -/
inductive Call
  | destroy (name : String)
  | snapshot (snap_name : String)
  | clone (fsname origin : String)
  | createZvol (name : String) (size_bytes volblocksize : ℕ)
  deriving DecidableEq, Repr

def Call.run (max_attempts : ℕ) (retry_delay_sec : ℚ) : Call → LzcM ℤ
  | destroy name => destroyWithRetry errnos name max_attempts retry_delay_sec
  | snapshot snap_name => snapshotWithRetry errnos snap_name max_attempts retry_delay_sec
  | clone fsname origin => cloneWithRetry errnos fsname origin max_attempts retry_delay_sec
  | createZvol name size_bytes volblocksize =>
      createZvolWithRetry errnos name size_bytes volblocksize max_attempts retry_delay_sec

end

/-! ### What the outcomes call for -/

/-- How an attempt ends. -/
inductive Kind
  | success
  | busy
  | failure
  deriving DecidableEq, Repr

/-- The end of a process, where every failure counts and `0` is expected. -/
def Process.kind (p : Process) : Kind :=
  if p.returncode = 0 then .success
  else if isBusyError p.stderr p.returncode then .busy
  else .failure

/-- The end of a library call. -/
def errnoKind (rc : ℤ) : Kind :=
  if rc = 0 then .success
  else if rc = EBUSY then .busy
  else .failure

/-- The number of attempts from the `i`-th on, where at most `n` are made. -/
def tries (kind : ℕ → Kind) : ℕ → ℕ → ℕ
  | _, 0 => 0
  | i, n + 1 => if kind i = .busy then tries kind (i + 1) n + 1 else 1

theorem tries_le (kind : ℕ → Kind) (i n : ℕ) : tries kind i n ≤ n := by
  induction n generalizing i with
  | zero => exact Nat.le_refl 0
  | succ n ih =>
      have := ih (i + 1)
      rw [tries]
      split <;> omega

theorem tries_pos (kind : ℕ → Kind) (i n : ℕ) : 0 < tries kind i (n + 1) := by
  rw [tries]
  split <;> omega

/-- The sleeps of `k` retries. -/
def sleepsOf (retry_delay_sec : ℚ) (k : ℕ) : List ℚ :=
  if retry_delay_sec > 0 then List.replicate k retry_delay_sec else []

/-- The trace after `k` more requests and `j` more sleeps. -/
def Trace.add {ρ : Type} (t : Trace ρ) (r : ρ) (d : ℚ) (k j : ℕ) : Trace ρ :=
  ⟨t.attempts ++ List.replicate k r, t.sleeps ++ sleepsOf d j⟩

section

variable {ρ : Type} (t : Trace ρ) (r : ρ) (d : ℚ)

theorem Trace.add_zero : t.add r d 0 0 = t := by
  simp [Trace.add, sleepsOf]

theorem Trace.add_add (k j k' j' : ℕ) :
    (t.add r d k j).add r d k' j' = t.add r d (k + k') (j + j') := by
  by_cases hd : d > 0 <;> simp [Trace.add, sleepsOf, hd, ← List.replicate_append_replicate]

theorem attempt_eq {ε ο : Type} (outcome : ℕ → ο) :
    (attempt outcome r : EStateM ε (Trace ρ) ο) t = .ok (outcome t.attempts.length) (t.add r d 1 0) := by
  simp [attempt, Trace.add, sleepsOf]

theorem sleep_eq {ε : Type} : (sleep d : EStateM ε (Trace ρ) Unit) t = .ok () (t.add r d 0 1) := by
  by_cases hd : d > 0 <;> simp [sleep, Trace.add, sleepsOf, hd]

end

/-! ### What each loop does -/

/-- How a try of `run_zfs_command` ends when it is not followed by another. -/
def Process.result (p : Process) (cmd_args : List String) (simple : Bool)
    (t : Trace (List String)) : EStateM.Result InternalError (Trace (List String)) Output :=
  if p.returncode = 0 then
    .ok (if simple then .stdout p.stdout else .all p) t
  else
    .error ⟨cmd_args, p.returncode, p.stderr⟩ t

theorem Process.kind_eq_busy {p : Process} :
    p.kind = .busy ↔ p.returncode ≠ 0 ∧ isBusyError p.stderr p.returncode = true := by
  rw [Process.kind]
  split_ifs with h₀ h₁
  · simp [h₀]
  · simp [h₀, h₁]
  · simp [h₁]

theorem errnoKind_eq_busy {rc : ℤ} : errnoKind rc = .busy ↔ rc ≠ 0 ∧ rc ∈ retryableErrnos := by
  rw [errnoKind]
  split_ifs with h₀ h₁
  · simp [h₀]
  · simp [h₁, retryableErrnos, EBUSY]
  · simp [h₁, retryableErrnos]

@[simp] theorem Trace.length_attempts_add {ρ : Type} (t : Trace ρ) (r : ρ) (d : ℚ) (k j : ℕ) :
    (t.add r d k j).attempts.length = t.attempts.length + k := by
  simp [Trace.add]

/-- A try that is not followed by another ends the command. -/
theorem runZfsCommand_last {processes : ℕ → Process} {cmd_args : List String} {simple : Bool} {d : ℚ}
    {n : ℕ} {t : Trace (List String)}
    (hlast : ¬ (0 < n ∧ (processes t.attempts.length).kind = .busy)) :
    runZfsCommand processes cmd_args true simple 0 d (n + 1) t =
      (processes t.attempts.length).result cmd_args simple (t.add cmd_args d 1 0) := by
  rw [runZfsCommand, Wp.bind_ok (attempt_eq t cmd_args d processes), Process.result]
  by_cases hrc : (processes t.attempts.length).returncode = 0
  · cases simple <;> simp [hrc] <;> rfl
  · have hstop : ¬ (n + 1 > 1 ∧ isBusyError (processes t.attempts.length).stderr
        (processes t.attempts.length).returncode = true) := by
      rintro ⟨hn, hbusy⟩
      exact hlast ⟨by omega, Process.kind_eq_busy.2 ⟨hrc, hbusy⟩⟩
    rw [if_pos ⟨rfl, hrc⟩, if_neg hstop, if_neg hrc]
    rfl

/-- A busy try that is not the last is followed by a sleep and the other tries. -/
theorem runZfsCommand_busy {processes : ℕ → Process} {cmd_args : List String} {simple : Bool} {d : ℚ}
    {n : ℕ} {t : Trace (List String)} (hn : 0 < n)
    (hbusy : (processes t.attempts.length).kind = .busy) :
    runZfsCommand processes cmd_args true simple 0 d (n + 1) t =
      runZfsCommand processes cmd_args true simple 0 d n (t.add cmd_args d 1 1) := by
  obtain ⟨hrc, hbusy⟩ := Process.kind_eq_busy.1 hbusy
  rw [runZfsCommand, Wp.bind_ok (attempt_eq t cmd_args d processes), if_pos ⟨rfl, hrc⟩,
    if_pos ⟨by omega, hbusy⟩, Wp.bind_ok (sleep_eq _ cmd_args d), Trace.add_add]

/-- **`run_zfs_command`** makes the attempts that the outcomes call for, and ends as the last one. -/
theorem runZfsCommand_eq (processes : ℕ → Process) (cmd_args : List String) (simple : Bool) (d : ℚ)
    (n : ℕ) (t : Trace (List String)) :
    let k := tries (fun i => (processes i).kind) t.attempts.length (n + 1)
    runZfsCommand processes cmd_args true simple 0 d (n + 1) t =
      (processes (t.attempts.length + (k - 1))).result cmd_args simple
        (t.add cmd_args d k (k - 1)) := by
  induction n generalizing t with
  | zero =>
      have hone : tries (fun i => (processes i).kind) t.attempts.length (0 + 1) = 1 := by
        simp [tries]
      rw [hone]
      exact runZfsCommand_last (by simp)
  | succ n ih =>
      dsimp only
      rw [tries]
      by_cases hbusy : (processes t.attempts.length).kind = .busy
      · obtain ⟨k, hk⟩ := Nat.exists_eq_succ_of_ne_zero
          (Nat.ne_of_gt (tries_pos (fun i => (processes i).kind) (t.attempts.length + 1) n))
        have hrest := ih (t.add cmd_args d 1 1)
        rw [Trace.length_attempts_add, hk] at hrest
        rw [runZfsCommand_busy (Nat.succ_pos n) hbusy, hrest, if_pos hbusy, hk, Trace.add_add]
        congr 2 <;> omega
      · rw [if_neg hbusy]
        exact runZfsCommand_last fun h => hbusy h.2

/-- An attempt that is not busy ends the call. -/
theorem stop_eq {rc : ℤ} {m : LzcM ℤ} (h : errnoKind rc ≠ .busy) (t : Trace Request) :
    (if rc = 0 then return 0 else if rc ∉ retryableErrnos then return rc else m : LzcM ℤ) t =
      .ok rc t := by
  by_cases hrc : rc = 0
  · rw [if_pos hrc, hrc]
    rfl
  · rw [if_neg hrc, if_pos fun hmem => h (errnoKind_eq_busy.2 ⟨hrc, hmem⟩)]
    rfl

/-- The retries make the attempts that the outcomes call for, each after a sleep. -/
theorem retry_eq (errnos : ℕ → ℤ) (r : Request) (d : ℚ) (n : ℕ) (rc : ℤ) (t : Trace Request) :
    let k := tries (fun i => errnoKind (errnos i)) t.attempts.length n
    retry (attempt errnos r) d n rc t =
      .ok (if k = 0 then rc else errnos (t.attempts.length + (k - 1))) (t.add r d k k) := by
  induction n generalizing rc t with
  | zero =>
      simp only [tries, Trace.add_zero, if_true]
      rfl
  | succ n ih =>
      dsimp only
      rw [retry, Wp.bind_ok (sleep_eq t r d), Wp.bind_ok (attempt_eq _ r d errnos), Trace.add_add,
        tries, Trace.length_attempts_add]
      by_cases hbusy : errnoKind (errnos t.attempts.length) = .busy
      · obtain ⟨hrc, hmem⟩ := errnoKind_eq_busy.1 hbusy
        have hrest := ih (errnos t.attempts.length) (t.add r d 1 1)
        simp only [Trace.length_attempts_add, Trace.add_add] at hrest
        simp only [Nat.add_zero, Nat.zero_add, if_neg hrc, if_neg (not_not.2 hmem), if_pos hbusy,
          hrest, if_neg (Nat.succ_ne_zero _), Nat.add_sub_cancel, Nat.add_comm 1]
        congr 1
        split_ifs with hzero
        · rw [hzero, Nat.add_zero]
        · congr 1
          omega
      · simp only [if_neg hbusy, Nat.add_zero, if_neg Nat.one_ne_zero, Nat.sub_self, Nat.zero_add]
        exact stop_eq hbusy _

/-- **`*_with_retry`** makes the attempts that the outcomes call for, and returns the last errno. -/
theorem withRetry_eq (errnos : ℕ → ℤ) (r : Request) (d : ℚ) (n : ℕ) (t : Trace Request) :
    let k := tries (fun i => errnoKind (errnos i)) t.attempts.length (n + 1)
    withRetry (attempt errnos r) (n + 1) d t =
      .ok (errnos (t.attempts.length + (k - 1))) (t.add r d k (k - 1)) := by
  dsimp only
  rw [withRetry, Wp.bind_ok (attempt_eq t r d errnos), tries]
  by_cases hbusy : errnoKind (errnos t.attempts.length) = .busy
  · obtain ⟨hrc, hmem⟩ := errnoKind_eq_busy.1 hbusy
    have hrest := retry_eq errnos r d n (errnos t.attempts.length) (t.add r d 1 0)
    simp only [Trace.length_attempts_add, Trace.add_add] at hrest
    simp only [if_neg hrc, if_neg (not_not.2 hmem), if_pos hbusy, Nat.add_sub_cancel, hrest,
      Nat.add_comm 1, Nat.zero_add]
    congr 1
    split_ifs with hzero
    · rw [hzero, Nat.add_zero]
    · congr 1
      omega
  · simp only [if_neg hbusy, Nat.sub_self, Nat.add_zero]
    exact stop_eq hbusy _

/-! ### The two loops -/

/-- The trace that a run ends with. -/
def final {ε ρ α : Type} : EStateM.Result ε (Trace ρ) α → Trace ρ
  | .ok _ t => t
  | .error _ t => t

/-- `run_zfs_command` returns. -/
def succeeds {ε ρ α : Type} : EStateM.Result ε (Trace ρ) α → Prop
  | .ok _ _ => True
  | .error _ _ => False

/-- A run of the command line loop and a run of a library loop, for at most `n` attempts, retried
alike. -/
structure Alike (n : ℕ) (errnos : ℕ → ℤ)
    (cli : EStateM.Result InternalError (Trace (List String)) Output)
    (lzc : EStateM.Result Empty (Trace Request) ℤ) : Prop where
  attempts : (final cli).attempts.length = (final lzc).attempts.length
  atMost : (final cli).attempts.length ≤ n
  sleeps : (final cli).sleeps.length = (final lzc).sleeps.length
  /-- The library call returns the errno of its last attempt. -/
  errno : lzc = .ok (errnos ((final lzc).attempts.length - 1)) (final lzc)
  outcome : succeeds cli ↔ lzc = .ok 0 (final lzc)

/-- Each library call makes one request over and over. -/
theorem Call.run_eq (errnos : ℕ → ℤ) (n : ℕ) (d : ℚ) (c : Call) :
    ∃ r, c.run errnos n d = withRetry (attempt errnos r) n d := by
  cases c with
  | destroy name => exact ⟨_, rfl⟩
  | snapshot snap_name => exact ⟨_, rfl⟩
  | clone fsname origin => exact ⟨_, rfl⟩
  | createZvol name size_bytes volblocksize => exact ⟨_, rfl⟩

theorem Process.succeeds_result {p : Process} {cmd_args : List String} {simple : Bool}
    {t : Trace (List String)} : succeeds (p.result cmd_args simple t) ↔ p.returncode = 0 := by
  rw [Process.result]
  by_cases h : p.returncode = 0
  · rw [if_pos h]
    exact iff_of_true trivial h
  · rw [if_neg h]
    exact iff_of_false not_false h

theorem Process.final_result {p : Process} {cmd_args : List String} {simple : Bool}
    {t : Trace (List String)} : final (p.result cmd_args simple t) = t := by
  rw [Process.result]
  split_ifs <;> rfl

theorem kind_eq_success {p : Process} {rc : ℤ} (h : p.kind = errnoKind rc) :
    p.returncode = 0 ↔ rc = 0 := by
  have hp : p.kind = .success ↔ p.returncode = 0 := by
    rw [Process.kind]
    split_ifs <;> simp [*]
  have hrc : errnoKind rc = .success ↔ rc = 0 := by
    rw [errnoKind]
    split_ifs <;> simp_all [EBUSY]
  rw [← hp, ← hrc, h]

/-- **The command line loop and the library loops are equivalent**: where their attempts end alike,
they make the same number of attempts and of sleeps and succeed or fail alike. -/
theorem alike (processes : ℕ → Process) (errnos : ℕ → ℤ)
    (hkind : ∀ i, (processes i).kind = errnoKind (errnos i)) (cmd_args : List String) (simple : Bool)
    (c : Call) (d : ℚ) {n : ℕ} (hn : 1 ≤ n) :
    Alike n errnos (runZfsCommand processes cmd_args true simple 0 d n .start)
      (c.run errnos n d .start) := by
  obtain ⟨n, rfl⟩ := Nat.exists_eq_succ_of_ne_zero (Nat.ne_of_gt hn)
  obtain ⟨r, hr⟩ := c.run_eq errnos (n + 1) d
  have hcli := runZfsCommand_eq processes cmd_args simple d n .start
  have hlzc := withRetry_eq errnos r d n .start
  -- the outcomes call for as many attempts of the one as of the other
  simp only [hkind] at hcli
  have hle := tries_le (fun i => errnoKind (errnos i)) 0 (n + 1)
  have hpos := tries_pos (fun i => errnoKind (errnos i)) 0 n
  have hstart : ∀ {ρ : Type}, (Trace.start : Trace ρ).attempts.length = 0 := rfl
  simp only [hstart, Nat.zero_add] at hcli hlzc
  generalize tries (fun i => errnoKind (errnos i)) 0 (n + 1) = k at *
  rw [hr, hcli, hlzc]
  refine ⟨?_, ?_, ?_, ?_, ?_⟩
  · rw [Process.final_result]
    simp [final, Trace.start]
  · rw [Process.final_result]
    simpa [Trace.start] using hle
  · rw [Process.final_result]
    rfl
  · simp only [final, Trace.length_attempts_add, hstart, Nat.zero_add]
  · rw [Process.succeeds_result, kind_eq_success (hkind _)]
    simp [final]

/-- Two busy attempts and a success, with a text of ZFS and with the errno. -/
theorem alike_busy_twice :
    Alike 3 (fun i => if i < 2 then 16 else 0)
      (runZfsCommand (fun i => if i < 2 then ⟨1, [], bytes "dataset is busy"⟩ else ⟨0, [], []⟩)
        ["zfs", "destroy", "tank/a"] true true 0 (1 / 10) 3 .start)
      ((Call.destroy "tank/a").run (fun i => if i < 2 then 16 else 0) 3 (1 / 10) .start) := by
  refine alike _ _ (fun i => ?_) _ _ _ _ (by decide)
  by_cases hi : i < 2
  · rw [if_pos hi, if_pos hi]
    decide +kernel
  · rw [if_neg hi, if_neg hi]
    decide +kernel

end Retries

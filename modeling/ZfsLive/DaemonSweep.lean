/-
**The sweep of orphan daemons** (`src/datapath/datapath.py`).

A call that aborts leaves its daemon behind.  Before it starts a daemon, the datapath sweeps the
registry: it reads the file of every other key, drops what it cannot read and what names a dead pid,
leaves a daemon alone whose device exists, and stops one whose device has vanished.

Main definitions:

* `Registry.gcOrphanDaemons`, `Registry.gcEntry` — the sweep and one of its rounds;
* `Registry.Kept` — the registry names a live daemon whose device exists;
* `Registry.Swept` — what is wanted of the sweep: it is safe and complete.

Main results:

* `Registry.wp_quit` — `quit` tells the processes of a record to exit, and no others;
* `Registry.wp_gcEntry` — what a round does;
* `Registry.gcOrphanDaemons_swept` — **the sweep is safe and complete**.
-/

import ZfsLive.DaemonRegistry

set_option relaxedAutoImplicit false
set_option autoImplicit false

namespace Registry

open Paths DeviceKeys Wp

variable {β : Type} (E : Env β)

/-! ### The sweep -/

/-- `os.listdir` of the registry. -/
def listdir : M β (List Text) := fun w =>
  if w.root then .ok w.registry.keys w else .error (.raised .OSError) w

/-- What a round learns of an entry: that it cannot be read, or what `load_metadata` returns. -/
inductive Loaded
  | unreadable
  | read (entry_meta : Option QemuDiskRaw)
  deriving DecidableEq, Repr

/-- `device_path and os.path.exists(device_path)`. -/
def deviceExists (device_path : Value) : M β Bool :=
  if device_path.truthy then pathExists E device_path else pure false

/-- One round of `_gc_orphan_daemons`. -/
def gcEntry (entry_key : Text) : M β Unit := do
  let loaded ← exceptException (Loaded.read <$> loadMetadata E entry_key) (pure .unreadable)
  match loaded with
  | .unreadable => removeMetadata entry_key
  | .read none => exceptOSError (rmdir entry_key) (pure ())
  | .read (some entry_meta) => do
      let pid_alive ← exceptOSError (do kill E entry_meta.pid none; pure true) (pure false)
      if pid_alive then
        if ← deviceExists E entry_meta.device_path then
          return ()
        else
          exceptException (quit E entry_meta)
            (exceptOSError (kill E entry_meta.pid (some .SIGKILL)) (pure ()))
          removeMetadata entry_key
      else
        removeMetadata entry_key

/-- The loop of `_gc_orphan_daemons`. -/
def gcEntries (current_key : Text) : List Text → M β Unit
  | [] => return ()
  | entry_key :: entries => do
      if entry_key = current_key then
        gcEntries current_key entries
      else
        gcEntry E entry_key
        gcEntries current_key entries

/-- `_gc_orphan_daemons`. -/
def gcOrphanDaemons (current_key : Text) : M β Unit := do
  let entries ← exceptOSError (some <$> listdir) (pure none)
  match entries with
  | none => return ()
  | some entries => gcEntries E current_key entries

/-! ### What is in the registry -/

def scmPath (key : Text) : Text := socketDir ++ "/scm.".toList ++ key

/-- A record as `create` and `import_activate` make it, with the pids of a daemon and of a proxy. -/
structure Written (key : Text) (d : QemuDiskRaw) (pid : ℤ) : Prop where
  range : 0 < pid ∧ pid < 2 ^ 31
  daemon : d.pid = .int pid
  qmp_sock : d.qmp_sock = .str (qmpSock key)
  device_path : d.device_path = .none ∨ ∃ t, d.device_path = .str t
  nbd_unix_sock : d.nbd_unix_sock.truthy = true
  proxy : d.scm_proxy_pid = .none ∨ ∃ n, d.scm_proxy_pid = .int n ∧ 0 < n ∧ n < 2 ^ 31
  scm_sock_path : d.scm_sock_path = .none ∨ d.scm_sock_path = .str (scmPath key)

/-- The registry holds a record for a key, with the pid of a daemon. -/
def World.records (w : World β) (key : Text) (d : QemuDiskRaw) (pid : ℤ) : Prop :=
  w.file key = some (E.pickle.dumps d.fields) ∧ Written key d pid

/-- The device of a record exists. -/
def World.hasDevice (w : World β) (d : QemuDiskRaw) : Prop :=
  ∃ t, d.device_path = .str t ∧ t ≠ [] ∧ w.devices t = true

/-- What a round of the sweep relies on. -/
structure Sound (w : World β) : Prop where
  /-- The keys are names of directories. -/
  names : ∀ key, w.registry.get? key ≠ none → '/' ∉ key
  /-- A file cannot be read, or `save_metadata` has written it. -/
  files : ∀ key content, w.file key = some content →
    ¬ Readable E.pickle content ∨ ∃ d pid, w.records E key d pid
  /-- No pid on record was given to another process. -/
  daemons : ∀ key d pid, w.records E key d pid →
    ∀ p, w.procs.get? pid = some p → p = .daemon key
  proxies : ∀ key d pid n, w.records E key d pid → d.scm_proxy_pid = .int n →
    ∀ p, w.procs.get? n = some p → p = .proxy key
  /-- Nor is it that of the driver. -/
  driver : ∀ key d pid, w.records E key d pid → pid ≠ E.driver ∧ d.scm_proxy_pid ≠ .int E.driver
  /-- A daemon locks its pid file, so that no second one runs for its key. -/
  alone : ∀ key n n', w.procs.get? n = some (.daemon key) → w.procs.get? n' = some (.daemon key) →
    n = n'

/-- What the sweep relies on. -/
structure Entries (w : World β) : Prop extends Sound E w where
  /-- What does not exist has no entries. -/
  root : w.root = false → ∀ key, w.registry.get? key = none
  /-- Nothing was told to exit yet. -/
  fresh : w.told = []

/-- The registry names a live daemon for the key, and its device exists. -/
def Kept (w : World β) (key : Text) : Prop :=
  ∃ d pid, w.records E key d pid ∧ w.procs.get? pid ≠ none ∧ w.hasDevice d

/-- The registry names a live daemon for the key, and its device has vanished. -/
def Orphan (w : World β) (key : Text) (pid : ℤ) : Prop :=
  ∃ d, w.records E key d pid ∧ w.procs.get? pid ≠ none ∧ ¬ w.hasDevice d

/-- **The sweep is safe and complete.** -/
structure Swept (current_key : Text) (w w' : World β) : Prop where
  /-- The current key and the keys in use keep their files. -/
  kept : ∀ key, key = current_key ∨ Kept E w key → w'.registry.get? key = w.registry.get? key
  /-- Their processes are not told to exit. -/
  spared : ∀ key, key = current_key ∨ Kept E w key → ∀ n, w'.isTold n →
    w.procs.get? n ≠ some (.daemon key) ∧ w.procs.get? n ≠ some (.proxy key)
  /-- The files that remain are those of live daemons whose devices exist. -/
  remaining : ∀ key content, key ≠ current_key → w'.file key = some content → Kept E w' key
  /-- The other live daemons were told to exit. -/
  reaped : ∀ key pid, key ≠ current_key → Orphan E w key pid → w'.isTold pid

/-! ### What a command does to the processes -/

/-- Only the file of a key has changed, and only its processes were told to exit. -/
structure Moves (key : Text) (w w' : World β) : Prop where
  others : ∀ key', key' ≠ key → w'.registry.get? key' = w.registry.get? key'
  names : ∀ key', w'.registry.get? key' ≠ none → w.registry.get? key' ≠ none
  devices : w'.devices = w.devices
  procs : ∀ n, w'.procs.get? n = w.procs.get? n ∨ w'.isTold n ∧ w'.procs.get? n = none
  mono : ∀ n, w.isTold n → w'.isTold n
  told : ∀ n, w'.isTold n → w.isTold n ∨
    w.procs.get? n = some (.daemon key) ∨ w.procs.get? n = some (.proxy key)

variable {E} {key : Text} {w w' w'' : World β}

theorem Moves.refl (key : Text) (w : World β) : Moves key w w :=
  ⟨fun _ _ => rfl, fun _ h => h, rfl, fun _ => .inl rfl, fun _ h => h, fun _ h => .inl h⟩

/-- A live process was there before. -/
theorem Moves.get?_of_some (h : Moves key w w') {n : ℤ} {p : Process}
    (hp : w'.procs.get? n = some p) : w.procs.get? n = some p := by
  rcases h.procs n with heq | ⟨_, hnone⟩
  · rw [← heq, hp]
  · rw [hp] at hnone
    cases hnone

/-- A process that was not told to exit is still there. -/
theorem Moves.get?_of_not_told (h : Moves key w w') {n : ℤ} (hn : ¬ w'.isTold n) :
    w'.procs.get? n = w.procs.get? n := by
  rcases h.procs n with heq | ⟨htold, _⟩
  · exact heq
  · exact (hn htold).elim

theorem Moves.trans (h : Moves key w w') (h' : Moves key w' w'') : Moves key w w'' where
  others key' hne := (h'.others key' hne).trans (h.others key' hne)
  names key' hkey' := h.names key' (h'.names key' hkey')
  devices := h'.devices.trans h.devices
  procs n := by
    rcases h'.procs n with heq | hgone
    · rcases h.procs n with heq' | ⟨htold, hnone⟩
      · exact .inl (heq.trans heq')
      · exact .inr ⟨h'.mono n htold, heq.trans hnone⟩
    · exact .inr hgone
  mono n hn := h'.mono n (h.mono n hn)
  told n hn := by
    rcases h'.told n hn with htold | hdaemon | hproxy
    · exact h.told n htold
    · exact .inr (.inl (h.get?_of_some hdaemon))
    · exact .inr (.inr (h.get?_of_some hproxy))

/-- The process with this pid, if it is alive, was started for the key. -/
def Own (key : Text) (w : World β) (n : ℤ) : Prop :=
  ∀ p, w.procs.get? n = some p → p = .daemon key ∨ p = .proxy key

theorem Own.of_moves {n : ℤ} (hown : Own key w n) (h : Moves key w w') : Own key w' n :=
  fun p hp => hown p (h.get?_of_some hp)

theorem isTold_tell (w : World β) (n m : ℤ) (o : Order) :
    (w.tell n o).isTold m ↔ m = n ∨ w.isTold m := by
  simp only [World.isTold, World.tell, List.mem_cons, Prod.mk.injEq]
  constructor
  · rintro ⟨o', ⟨rfl, _⟩ | hmem⟩
    · exact .inl rfl
    · exact .inr ⟨o', hmem⟩
  · rintro (rfl | ⟨o', hmem⟩)
    · exact ⟨o, .inl ⟨rfl, rfl⟩⟩
    · exact ⟨o', .inr hmem⟩

theorem moves_pass (E : Env β) (key : Text) (w : World β) : Moves key w (w.pass E) where
  others _ _ := rfl
  names _ h := h
  devices := rfl
  procs n := by
    rw [World.pass]
    change (w.procs.eraseAll _).get? n = _ ∨ w.isTold n ∧ _
    rw [Dict.get?_eraseAll]
    split
    · next hgone => exact .inr ⟨hgone.1, rfl⟩
    · exact .inl rfl
  mono _ h := h
  told _ h := .inl h

theorem moves_tell {n : ℤ} (hown : Own key w n) (halive : w.procs.get? n ≠ none) (o : Order) :
    Moves key w (w.tell n o) where
  others _ _ := rfl
  names _ h := h
  devices := rfl
  procs _ := .inl rfl
  mono m h := (isTold_tell w n m o).2 (.inr h)
  told m h := by
    rcases (isTold_tell w n m o).1 h with rfl | h
    · obtain ⟨p, hp⟩ := Option.ne_none_iff_exists'.1 halive
      rcases hown p hp with rfl | rfl
      · exact .inr (.inl hp)
      · exact .inr (.inr hp)
    · exact .inl h

/-- A process that time has taken was told to exit. -/
theorem told_of_pass {n : ℤ} (halive : w.procs.get? n ≠ none)
    (hgone : (w.pass E).procs.get? n = none) : (w.pass E).isTold n := by
  rcases (moves_pass E [] w).procs n with heq | ⟨htold, _⟩
  · exact (halive (heq ▸ hgone)).elim
  · exact htold

/-- A pid that is not the driver's. -/
def Env.IsOther (E : Env β) (n : ℤ) : Prop := 0 < n ∧ n < 2 ^ 31 ∧ n ≠ E.driver

theorem Env.IsOther.not_reaches {n : ℤ} (h : E.IsOther n) : ¬ E.Reaches n := by
  obtain ⟨hpos, -, hne⟩ := h
  have hgroup := E.group_range
  rintro (rfl | rfl | rfl)
  · omega
  · exact hne rfl
  · omega

theorem kill_other {n : ℤ} (h : E.IsOther n) (signal : Option Order) (w : World β) :
    kill E (.int n) signal w =
      ((w.pass E).procs.get? n).elim (.error (.raised .OSError) (w.pass E)) fun _ =>
        .ok () (signal.elim (w.pass E) ((w.pass E).tell n)) := by
  have hrange : ¬ (n < -2 ^ 31 ∨ 2 ^ 31 ≤ n) := by
    obtain ⟨hpos, hhigh, -⟩ := h
    omega
  rw [kill_int, if_neg hrange, if_neg h.not_reaches]

/-- `os.kill(pid, 0)` tells whether the process is alive. -/
theorem wp_probe {n : ℤ} (h : E.IsOther n) (w : World β) :
    wp (kill E (.int n) none) (fun _ w' => w' = w.pass E ∧ w'.procs.get? n ≠ none)
      (fun e w' => e = .raised .OSError ∧ w' = w.pass E ∧ w'.procs.get? n = none) w := by
  rw [wp, kill_other h]
  cases hget : (w.pass E).procs.get? n with
  | none => exact ⟨rfl, rfl, hget⟩
  | some p => exact ⟨rfl, by simp [hget]⟩

/-- A signal reaches the process that has the pid, or there is none. -/
theorem wp_signal {n : ℤ} (h : E.IsOther n) (hown : Own key w n) (signal : Order) :
    wp (kill E (.int n) (some signal)) (fun _ w' => Moves key w w' ∧ w'.isTold n)
      (fun e w' => e = .raised .OSError ∧ Moves key w w' ∧
        (w.procs.get? n ≠ none → w'.isTold n)) w := by
  have hpass := moves_pass E key w
  rw [wp, kill_other h]
  cases hget : (w.pass E).procs.get? n with
  | none => exact ⟨rfl, hpass, fun halive => told_of_pass halive hget⟩
  | some p =>
      have hmoves := moves_tell (hown.of_moves hpass) (by simp [hget]) signal
      exact ⟨hpass.trans hmoves, (isTold_tell _ _ _ _).2 (.inl rfl)⟩

/-- Waiting for a process sends no signal. -/
theorem wp_waitForExit {n : ℤ} (h : E.IsOther n) (key : Text) (k : ℕ) (w : World β) :
    wp (waitForExit E (.int n) k) (fun _ w' => Moves key w w') (fun _ _ => False) w := by
  induction k generalizing w with
  | zero => exact Moves.refl key w
  | succ k ih =>
      have hpass := moves_pass E key w
      rw [waitForExit, wp_bind, wp_exceptOSError, wp_bind]
      refine wp_mono (wp_probe h w) ?_ ?_
      · rintro _ _ ⟨rfl, _⟩
        rw [wp_pure, if_pos rfl]
        exact wp_mono (ih _) (fun _ _ h => hpass.trans h) fun _ _ h => h
      · rintro _ _ ⟨rfl, rfl, _⟩
        refine ⟨fun _ => ?_, fun h => (h rfl).elim⟩
        rw [wp_pure, if_neg (by simp)]
        exact hpass

/-! ### The paths of the sockets -/

theorem isPrefix_metaFile {key : Text} (hkey : '/' ∉ key) : dpMetadataRoot <+: metaFile key := by
  have hlast : ¬ (dpMetadataRoot = [] ∨ dpMetadataRoot.getLast? = some '/') := by decide +kernel
  have hfile : ("qemu-dp-raw.pickle".toList).head? ≠ some '/' := by decide +kernel
  have hhead : key.head? ≠ some '/' := fun h => hkey (List.mem_of_head? h)
  have hjoin : join dpMetadataRoot key = dpMetadataRoot ++ '/' :: key := by
    rw [join, if_neg hhead, if_neg hlast]
  rw [metaFile, hjoin, join, if_neg hfile]
  split <;> simp only [List.append_assoc, List.prefix_append]

/-- The socket of a proxy is not a file of the registry. -/
theorem metaFile_ne_scmPath {key key' : Text} (hkey : '/' ∉ key) : metaFile key ≠ scmPath key' := by
  intro heq
  have hroot : dpMetadataRoot <+: scmPath key' := heq ▸ isPrefix_metaFile hkey
  have hdir : socketDir <+: scmPath key' := by
    rw [scmPath, List.append_assoc]
    exact List.prefix_append _ _
  have hlen : socketDir.length ≤ dpMetadataRoot.length := by decide +kernel
  exact absurd (List.prefix_of_prefix_length_le hdir hroot hlen) (by decide +kernel)

theorem qmpSock_injective {key key' : Text} (h : qmpSock key = qmpSock key') : key = key' :=
  List.append_cancel_left h

/-- The socket of a proxy is removed, or not; the registry stays as it is. -/
theorem wp_unlink_scmPath (hnames : ∀ key, w.registry.get? key ≠ none → '/' ∉ key) (key : Text) :
    wp (unlink E (.str (scmPath key))) (fun _ w' => w' = w) (fun _ w' => w' = w) w := by
  rw [wp]
  simp only [unlink]
  by_cases hnul : '\x00' ∈ scmPath key
  · rw [if_pos hnul]
  rw [if_neg hnul]
  cases hfind : w.registry.items.find? fun e =>
      decide (metaFile e.1 = scmPath key) && e.2.isSome with
  | none =>
      cases E.unlink (scmPath key) <;> rfl
  | some e =>
      have hmem := List.mem_of_find?_eq_some hfind
      have hpath := List.find?_some hfind
      have hget : w.registry.get? e.1 = some e.2 := Dict.get?_eq_some_iff.2 hmem
      have hslash := hnames e.1 (by simp [hget])
      simp only [Bool.and_eq_true, decide_eq_true_eq] at hpath
      exact (metaFile_ne_scmPath hslash hpath.1).elim

/-! ### Stopping a daemon -/

/-- `stop_scm_proxy` tells nothing but the proxy of the record to exit. -/
theorem wp_stopScmProxy {d : QemuDiskRaw} {pid : ℤ} (hwritten : Written key d pid)
    (hnames : ∀ key, w.registry.get? key ≠ none → '/' ∉ key)
    (hproxy : ∀ n, d.scm_proxy_pid = .int n → E.IsOther n ∧ Own key w n) :
    wp (stopScmProxy E d) (fun _ w' => Moves key w w') (fun _ w' => Moves key w w') w := by
  rw [stopScmProxy]
  rcases hwritten.proxy with hnone | ⟨n, hn, hpos, hhigh⟩
  · rw [if_pos hnone]
    exact Moves.refl key w
  · obtain ⟨hother, hown⟩ := hproxy n hn
    have hkill {w' : World β} (hm : Moves key w w') (signal : Order) :
        wp (kill E (.int n) (some signal)) (fun _ w'' => Moves key w w'')
          (fun e w'' => e = .raised .OSError ∧ Moves key w w'') w' :=
      wp_mono (wp_signal hother (hown.of_moves hm) signal) (fun _ _ h => hm.trans h.1)
        fun _ _ h => ⟨h.1, hm.trans h.2.1⟩
    have hunlink {w' : World β} (hm : Moves key w w') :
        wp (if d.scm_sock_path.truthy = true then exceptOSError (unlink E d.scm_sock_path) (pure ())
          else pure ()) (fun _ w'' => Moves key w w'') (fun _ w'' => Moves key w w'') w' := by
      rcases hwritten.scm_sock_path with hnone | hpath
      · rw [hnone, if_neg (by decide)]
        exact hm
      · rw [wp_ite]
        refine ⟨fun _ => ?_, fun _ => hm⟩
        rw [hpath, wp_exceptOSError]
        refine wp_mono (wp_unlink_scmPath (fun key' hkey' => hnames key' (hm.names key' hkey')) key)
          ?_ ?_
        · rintro _ _ rfl
          exact hm
        · rintro _ _ rfl
          exact ⟨fun _ => hm, fun _ => hm⟩
    rw [hn, if_neg (by simp), wp_bind, wp_exceptOSError, wp_bind]
    refine wp_mono (hkill (Moves.refl key w) .SIGTERM) (fun _ w₁ h₁ => ?_) fun e w₁ h₁ => ?_
    · rw [wp_bind]
      refine wp_mono (wp_waitForExit hother key 20 w₁) (fun exited w₂ h₂ => ?_)
        fun _ _ h => h.elim
      rw [wp_ite]
      refine ⟨fun _ => hunlink (h₁.trans h₂), fun _ => ?_⟩
      refine wp_mono (hkill (h₁.trans h₂) .SIGKILL) (fun _ _ h₃ => hunlink h₃) fun e w₃ h₃ => ?_
      exact ⟨fun _ => hunlink h₃.2, fun hne => (hne h₃.1).elim⟩
    · exact ⟨fun _ => hunlink h₁.2, fun hne => (hne h₁.1).elim⟩

/-- The daemon of the key hears `quit`, or the connection fails. -/
theorem wp_qmpQuit {pid : ℤ} (hdaemon : ∀ p, w.procs.get? pid = some p → p = .daemon key)
    (halone : ∀ n n', w.procs.get? n = some (.daemon key) → w.procs.get? n' = some (.daemon key) →
      n = n') :
    wp (qmpQuit E (.str (qmpSock key)))
      (fun _ w' => Moves key w w' ∧ (w.procs.get? pid ≠ none → w'.isTold pid))
      (fun _ w' => Moves key w w') w := by
  have hpass := moves_pass E key w
  rw [wp, qmpQuit]
  cases hlisten : (w.pass E).listener (.str (qmpSock key)) with
  | none => exact hpass
  | some n =>
      obtain ⟨⟨n', p⟩, hfind, rfl⟩ := Option.map_eq_some_iff.1 hlisten
      have hmem := List.mem_of_find?_eq_some hfind
      have hsock := List.find?_some hfind
      cases p with
      | proxy key' => simp at hsock
      | foreign => simp at hsock
      | daemon key' =>
          have heq : key' = key := qmpSock_injective (of_decide_eq_true hsock)
          subst heq
          have hget : (w.pass E).procs.get? n' = some (.daemon key') :=
            Dict.get?_eq_some_iff.2 hmem
          have hown : Own key' (w.pass E) n' := fun p hp => .inl (by
            rw [hget] at hp
            exact (Option.some.inj hp).symm)
          have htell := hpass.trans (moves_tell hown (by simp [hget]) .quit)
          have htold (halive : w.procs.get? pid ≠ none) :
              ((w.pass E).tell n' .quit).isTold pid := by
            obtain ⟨p, hp⟩ := Option.ne_none_iff_exists'.1 halive
            have hn : n' = pid := halone _ _ (hpass.get?_of_some hget) (hdaemon p hp ▸ hp)
            exact (isTold_tell _ _ _ _).2 (.inl hn.symm)
          cases E.qmp (w.pass E).tick with
          | silent => exact hpass
          | heard => exact htell
          | answered => exact ⟨htell, htold⟩

/-- The processes of a record, where no pid was given to another process. -/
structure Owned (E : Env β) (key : Text) (d : QemuDiskRaw) (pid : ℤ) (w : World β) : Prop where
  written : Written key d pid
  other : E.IsOther pid
  names : ∀ key, w.registry.get? key ≠ none → '/' ∉ key
  daemon : ∀ p, w.procs.get? pid = some p → p = .daemon key
  proxy : ∀ n, d.scm_proxy_pid = .int n → E.IsOther n ∧ Own key w n
  alone : ∀ n n', w.procs.get? n = some (.daemon key) → w.procs.get? n' = some (.daemon key) → n = n'

theorem Owned.of_moves {d : QemuDiskRaw} {pid : ℤ} (h : Owned E key d pid w) (hm : Moves key w w') :
    Owned E key d pid w' where
  written := h.written
  other := h.other
  names key' hkey' := h.names key' (hm.names key' hkey')
  daemon p hp := h.daemon p (hm.get?_of_some hp)
  proxy n hn := (h.proxy n hn).imp_right fun hown => hown.of_moves hm
  alone n n' hn hn' := h.alone n n' (hm.get?_of_some hn) (hm.get?_of_some hn')

theorem Sound.owned {d : QemuDiskRaw} {pid : ℤ} (h : Sound E w) (hrec : w.records E key d pid) :
    Owned E key d pid w where
  written := hrec.2
  other := ⟨hrec.2.range.1, hrec.2.range.2, (h.driver key d pid hrec).1⟩
  names := h.names
  daemon := h.daemons key d pid hrec
  proxy n hn := by
    refine ⟨?_, fun p hp => .inr (h.proxies key d pid n hrec hn p hp)⟩
    rcases hrec.2.proxy with hnone | ⟨n', hn', hpos, hhigh⟩
    · simp [hnone] at hn
    · obtain rfl : n' = n := by simpa [hn'] using hn
      exact ⟨hpos, hhigh, fun heq => (h.driver key d pid hrec).2 (heq ▸ hn)⟩
  alone := h.alone key

/-- A live process that is gone later was told to exit. -/
theorem Moves.isTold_of_gone (h : Moves key w w') {n : ℤ} (halive : w.procs.get? n ≠ none)
    (hgone : w'.procs.get? n = none) : w'.isTold n := by
  by_contra hnot
  exact halive (h.get?_of_not_told hnot ▸ hgone)

/-- `SIGKILL` reaches the daemon, or it was told to exit before. -/
theorem wp_sigkill {d : QemuDiskRaw} {pid : ℤ} (hown : Owned E key d pid w) (hm : Moves key w w')
    (halive : w.procs.get? pid ≠ none) :
    wp (exceptOSError (kill E d.pid (some .SIGKILL)) (pure ()))
      (fun _ w'' => Moves key w w'' ∧ w''.isTold pid) (fun _ _ => False) w' := by
  have hdaemon : Own key w' pid := fun p hp => .inl (hown.daemon p (hm.get?_of_some hp))
  rw [hown.written.daemon, wp_exceptOSError]
  refine wp_mono (wp_signal hown.other hdaemon .SIGKILL) (fun _ w'' h => ?_)
    fun e w'' h => ?_
  · exact ⟨hm.trans h.1, h.2⟩
  · refine ⟨fun _ => ?_, fun hne => hne h.1⟩
    refine ⟨hm.trans h.2.1, ?_⟩
    by_cases hstill : w'.procs.get? pid = none
    · exact h.2.1.mono pid (hm.isTold_of_gone halive hstill)
    · exact h.2.2 hstill

/-- **`quit` tells the daemon to exit** when it returns, and tells nothing but the processes of the
record to exit. -/
theorem wp_quit {d : QemuDiskRaw} {pid : ℤ} (hown : Owned E key d pid w)
    (halive : w.procs.get? pid ≠ none) :
    wp (quit E d) (fun _ w' => Moves key w w' ∧ w'.isTold pid) (fun _ w' => Moves key w w') w := by
  have hpid : d.pid ≠ .none := by simp [hown.written.daemon]
  rw [quit, if_neg hpid, wp_bind]
  refine wp_mono (wp_stopScmProxy hown.written hown.names hown.proxy) (fun _ w₁ h₁ => ?_)
    fun _ _ h => h
  have hwait {w₂ : World β} (h₂ : Moves key w w₂) (htold : w₂.isTold pid) :
      wp (waitForExit E d.pid 20 >>= fun _ => pure ())
        (fun _ w' => Moves key w w' ∧ w'.isTold pid) (fun _ w' => Moves key w w') w₂ := by
    rw [wp_bind, hown.written.daemon]
    exact wp_mono (wp_waitForExit hown.other key 20 w₂)
      (fun _ _ h => ⟨h₂.trans h, h.mono pid htold⟩) fun _ _ h => h.elim
  have hkill {w₂ : World β} (h₂ : Moves key w w₂) :
      wp (exceptOSError (kill E d.pid (some .SIGKILL)) (pure ()))
        (fun _ w' => wp (waitForExit E d.pid 20 >>= fun _ => pure ())
          (fun _ w' => Moves key w w' ∧ w'.isTold pid) (fun _ w' => Moves key w w') w')
        (fun _ w' => Moves key w w') w₂ :=
    wp_mono (wp_sigkill hown h₂ halive) (fun _ _ h => hwait h.1 h.2) fun _ _ h => h.elim
  rw [wp_bind, wp_exceptException, hown.written.qmp_sock]
  have hown₁ := hown.of_moves h₁
  refine wp_mono (wp_qmpQuit hown₁.daemon hown₁.alone) (fun _ w₂ h₂ => ?_)
    fun _ w₂ h₂ => ⟨fun _ => h₁.trans h₂, fun _ => hkill (h₁.trans h₂)⟩
  refine hwait (h₁.trans h₂.1) ?_
  by_cases hgone : w₁.procs.get? pid = none
  · exact h₂.1.mono pid (h₁.isTold_of_gone halive hgone)
  · exact h₂.2 hgone

/-- The record spares the driver. -/
theorem Owned.spares {d : QemuDiskRaw} {pid : ℤ} (h : Owned E key d pid w) : Spares E d := by
  refine .inr ⟨?_, fun _ => ?_⟩
  · rintro ⟨n, hn, hreach⟩
    exact (h.proxy n hn).1.not_reaches hreach
  · rintro ⟨n, hn, hreach⟩
    obtain rfl := Value.int.inj (h.written.daemon.symm.trans hn)
    exact h.other.not_reaches hreach

/-! ### A round -/

theorem Removed.moves (h : Removed key w w') : Moves key w w' := by
  obtain ⟨-, registry, rfl, hother, hkey⟩ := h
  refine ⟨hother, fun key' h => ?_, rfl, fun _ => .inl rfl, fun _ h => h, fun _ h => .inl h⟩
  by_cases heq : key' = key
  · subst heq
    exact hkey h
  · rwa [← hother key' heq]

/-- The sweep keeps what a round relies on. -/
theorem Sound.of_moves (h : Sound E w) (hm : Moves key w w')
    (hkey : w'.file key = none ∨ w'.registry.get? key = w.registry.get? key) : Sound E w' := by
  have hfile (key' : Text) (content : β) (hf : w'.file key' = some content) :
      w.file key' = some content := by
    have hsame : w'.registry.get? key' = w.registry.get? key' := by
      by_cases heq : key' = key
      · subst heq
        rcases hkey with hnone | hsame
        · rw [hnone] at hf
          cases hf
        · exact hsame
      · exact hm.others key' heq
    rwa [World.file, hsame] at hf
  have hrec {key' : Text} {d : QemuDiskRaw} {pid : ℤ} (hr : w'.records E key' d pid) :
      w.records E key' d pid := ⟨hfile key' _ hr.1, hr.2⟩
  refine ⟨fun key' hne => h.names key' (hm.names key' hne), fun key' content hf => ?_,
    fun key' d pid hr p hp => h.daemons key' d pid (hrec hr) p (hm.get?_of_some hp),
    fun key' d pid n hr hn p hp => h.proxies key' d pid n (hrec hr) hn p (hm.get?_of_some hp),
    fun key' d pid hr => h.driver key' d pid (hrec hr),
    fun key' n n' hn hn' => h.alone key' n n' (hm.get?_of_some hn) (hm.get?_of_some hn')⟩
  refine (h.files key' content (hfile key' content hf)).imp_right ?_
  rintro ⟨d, pid, hr⟩
  obtain rfl : content = E.pickle.dumps d.fields :=
    Option.some.inj ((hfile key' content hf).symm.trans hr.1)
  exact ⟨d, pid, hf, hr.2⟩

/-- No process of the key was told to exit. -/
def Quiet (key : Text) (w : World β) : Prop :=
  ∀ n, w.isTold n → w.procs.get? n ≠ some (.daemon key) ∧ w.procs.get? n ≠ some (.proxy key)

/-- How a round ends: with the daemon in use left alone, or with the file removed. -/
inductive Ended (E : Env β) (key : Text) (w w' : World β) : Prop
  | kept (hkept : Kept E w key) (hregistry : w'.registry = w.registry)
      (htold : ∀ n, w'.isTold n → w.isTold n)
  | removed (hkept : ¬ Kept E w key) (hgone : w'.file key = none)
      (hreaped : ∀ pid, Orphan E w key pid → w'.isTold pid)

theorem loadMetadata_records {d : QemuDiskRaw} {pid : ℤ} (h : w.records E key d pid) :
    loadMetadata E key w = .ok (some d) w := by
  refine loadMetadata_ok E h.1 ?_
  rw [E.pickle.loads_dumps]
  simp only [bind, Except.bind]
  exact record_fields d h.2.nbd_unix_sock

theorem records_unique {d d' : QemuDiskRaw} {pid pid' : ℤ} (h : w.records E key d pid)
    (h' : w.records E key d' pid') : d = d' ∧ pid = pid' := by
  have hdata := congrArg E.pickle.loads (Option.some.inj (h.1.symm.trans h'.1))
  rw [E.pickle.loads_dumps, E.pickle.loads_dumps] at hdata
  have hrecord := record_fields d h.2.nbd_unix_sock
  rw [Except.ok.inj hdata, record_fields d' h'.2.nbd_unix_sock] at hrecord
  obtain rfl := Except.ok.inj hrecord
  exact ⟨rfl, Value.int.inj (h.2.daemon.symm.trans h'.2.daemon)⟩

/-- `device_path and os.path.exists(device_path)`, where the path is a path or missing. -/
theorem wp_deviceExists {d : QemuDiskRaw} {pid : ℤ} (h : Written key d pid) (w : World β) :
    wp (deviceExists E d.device_path) (fun found w' => w' = w ∧ (found = true ↔ w.hasDevice d))
      (fun _ _ => False) w := by
  rw [deviceExists]
  rcases h.device_path with hnone | ⟨t, ht⟩
  · rw [hnone, if_neg (by decide)]
    refine ⟨rfl, by simp, ?_⟩
    rintro ⟨t, ht, _⟩
    rw [hnone] at ht
    cases ht
  · rw [ht, wp_ite]
    refine ⟨fun htruthy => ⟨rfl, ?_⟩, fun hfalsy => ⟨rfl, ?_⟩⟩
    · have hne : t ≠ [] := by simpa [Value.truthy] using htruthy
      simp [World.hasDevice, ht, hne]
    · have hnil : t = [] := by simpa [Value.truthy] using hfalsy
      simp [World.hasDevice, ht, hnil]

/-- A round that removes the file of a key that is not in use. -/
theorem Removed.ended {w'' : World β} (h : Removed key w' w'') (hm : Moves key w w')
    (hkept : ¬ Kept E w key) (hreaped : ∀ pid, Orphan E w key pid → w'.isTold pid) :
    Moves key w w'' ∧ Ended E key w w'' :=
  ⟨hm.trans h.moves,
    .removed hkept h.gone fun pid horphan => h.moves.mono pid (hreaped pid horphan)⟩

theorem wp_removeMetadata_ended (hm : Moves key w w') (hkept : ¬ Kept E w key)
    (hreaped : ∀ pid, Orphan E w key pid → w'.isTold pid) :
    wp (removeMetadata key) (fun _ w'' => Moves key w w'' ∧ Ended E key w w'') (fun _ _ => False)
      w' :=
  wp_mono (wp_removeMetadata key w') (fun _ _ h => h.ended hm hkept hreaped) fun _ _ h => h

theorem not_kept_of_unrecorded (h : ∀ d pid, ¬ w.records E key d pid) : ¬ Kept E w key := by
  rintro ⟨d, pid, hrec, _⟩
  exact h d pid hrec

theorem not_orphan_of_unrecorded (h : ∀ d pid, ¬ w.records E key d pid) (pid : ℤ) :
    ¬ Orphan E w key pid := by
  rintro ⟨d, hrec, _⟩
  exact h d pid hrec

/-- A round for a record, as far as it is read. -/
theorem wp_gcEntry_record {d : QemuDiskRaw} {pid : ℤ} (hsound : Sound E w) (hquiet : Quiet key w)
    (hrec : w.records E key d pid) :
    wp (exceptOSError (do kill E d.pid none; pure true) (pure false) >>= fun pid_alive =>
        if pid_alive = true then deviceExists E d.device_path >>= fun found =>
          if found = true then pure () else
            exceptException (quit E d) (exceptOSError (kill E d.pid (some .SIGKILL)) (pure ())) >>=
              fun _ => removeMetadata key
        else removeMetadata key)
      (fun _ w' => Moves key w w' ∧ Ended E key w w') (fun _ _ => False) w := by
  have hown := hsound.owned hrec
  have hpass := moves_pass E key w
  have hkept_iff : Kept E w key ↔ w.procs.get? pid ≠ none ∧ w.hasDevice d := by
    constructor
    · rintro ⟨d', pid', hrec', halive, hdevice⟩
      obtain ⟨rfl, rfl⟩ := records_unique hrec hrec'
      exact ⟨halive, hdevice⟩
    · exact fun h => ⟨d, pid, hrec, h⟩
  have horphan (n : ℤ) (h : Orphan E w key n) : n = pid ∧ w.procs.get? pid ≠ none := by
    obtain ⟨d', hrec', halive, _⟩ := h
    obtain ⟨rfl, rfl⟩ := records_unique hrec hrec'
    exact ⟨rfl, halive⟩
  -- a daemon that was not told to exit does not exit while time passes
  have hsame : (w.pass E).procs.get? pid = w.procs.get? pid := by
    rcases hpass.procs pid with heq | ⟨htold, hgone⟩
    · exact heq
    · rw [hgone]
      by_contra hne
      obtain ⟨p, hp⟩ := Option.ne_none_iff_exists'.1 (Ne.symm hne)
      exact (hquiet pid htold).1 (hown.daemon p hp ▸ hp)
  rw [wp_bind, wp_exceptOSError, wp_bind, hrec.2.daemon]
  refine wp_mono (wp_probe hown.other w) ?_ ?_
  · rintro _ _ ⟨rfl, halive'⟩
    have halive : w.procs.get? pid ≠ none := hsame ▸ halive'
    rw [wp_pure, if_pos rfl, wp_bind]
    refine wp_mono (wp_deviceExists hrec.2 _) ?_ fun _ _ h => h
    rintro found _ ⟨rfl, hfound⟩
    rw [wp_ite]
    refine ⟨fun htrue => ?_, fun hfalse => ?_⟩
    · exact ⟨hpass, .kept (hkept_iff.2 ⟨halive, hfound.1 htrue⟩) rfl fun _ h => h⟩
    · have hkept : ¬ Kept E w key := fun h => hfalse (hfound.2 (hkept_iff.1 h).2)
      have hremove {w₁ : World β} (h₁ : Moves key w w₁) (htold : w₁.isTold pid) :=
        wp_removeMetadata_ended (E := E) h₁ hkept fun n h => (horphan n h).1 ▸ htold
      rw [wp_bind, wp_exceptException]
      have hquit := wp_and (wp_quit (hown.of_moves hpass) halive') (wp_quit_spares E hown.spares _)
      refine wp_mono hquit (fun _ w₁ h₁ => hremove (hpass.trans h₁.1.1) h₁.1.2)
        fun _ w₁ h₁ => ⟨fun hkilled => (h₁.2 hkilled).elim, fun _ => ?_⟩
      rw [← hrec.2.daemon]
      exact wp_mono (wp_sigkill hown (hpass.trans h₁.1) halive) (fun _ _ h₂ => hremove h₂.1 h₂.2)
        fun _ _ h => h
  · rintro _ _ ⟨rfl, rfl, hdead⟩
    have hdead' : w.procs.get? pid = none := hsame ▸ hdead
    refine ⟨fun _ => ?_, fun hne => hne rfl⟩
    rw [wp_pure, if_neg (by simp)]
    exact wp_removeMetadata_ended hpass (fun h => (hkept_iff.1 h).1 hdead')
      fun _ h => ((horphan _ h).2 hdead').elim

/-- **What a round does**, for each kind of entry. -/
theorem wp_gcEntry (hsound : Sound E w) (hquiet : Quiet key w) :
    wp (gcEntry E key) (fun _ w' => Moves key w w' ∧ Ended E key w w') (fun _ _ => False) w := by
  have hrefl := Moves.refl key w
  rw [gcEntry, wp_bind, wp_exceptException, wp_map]
  cases hfile : w.file key with
  | none =>
      have hunrec (d : QemuDiskRaw) (pid : ℤ) : ¬ w.records E key d pid := fun h => by
        rw [World.records, hfile] at h
        cases h.1
      rw [wp_of_ok (loadMetadata_none E hfile)]
      refine wp_mono (wp_rmdir_removed (w := w) w.registry hfile (fun _ _ => rfl)
        fun h => h) (fun _ _ h => ?_) fun _ _ h => h
      exact h.ended hrefl (not_kept_of_unrecorded hunrec)
        fun pid h => (not_orphan_of_unrecorded hunrec pid h).elim
  | some content =>
      rcases hsound.files key content hfile with hunreadable | ⟨d, pid, hrec⟩
      · obtain ⟨e, he⟩ := loadMetadata_error E hfile hunreadable
        have hunrec (d : QemuDiskRaw) (pid : ℤ) : ¬ w.records E key d pid := fun h => by
          rw [loadMetadata_records h] at he
          cases he
        rw [wp_of_error he]
        refine ⟨fun hkilled => (by cases hkilled), fun _ => ?_⟩
        rw [wp_pure]
        exact wp_removeMetadata_ended hrefl (not_kept_of_unrecorded hunrec)
          fun pid h => (not_orphan_of_unrecorded hunrec pid h).elim
      · rw [wp_of_ok (loadMetadata_records hrec)]
        exact wp_gcEntry_record hsound hquiet hrec

/-! ### The rounds -/

/-- A live process of another key is not touched by a round. -/
theorem Moves.get?_other {key' : Text} (h : Moves key w w') (hne : key' ≠ key)
    (hquiet : Quiet key' w) {n : ℤ}
    (hn : w.procs.get? n = some (.daemon key') ∨ w.procs.get? n = some (.proxy key')) :
    ¬ w'.isTold n := by
  intro htold
  rcases h.told n htold with hbefore | hdaemon | hproxy
  · rcases hn with hn | hn
    · exact (hquiet n hbefore).1 hn
    · exact (hquiet n hbefore).2 hn
  · rcases hn with hn | hn <;> simp [hdaemon, Ne.symm hne] at hn
  · rcases hn with hn | hn <;> simp [hproxy, Ne.symm hne] at hn

theorem Quiet.of_moves {key' : Text} (hquiet : Quiet key' w) (h : Moves key w w')
    (hne : key' ≠ key) : Quiet key' w' := fun _ htold =>
  ⟨fun hn => h.get?_other hne hquiet (.inl (h.get?_of_some hn)) htold,
    fun hn => h.get?_other hne hquiet (.inr (h.get?_of_some hn)) htold⟩

/-- What a round of another key leaves: the record of a key, and whether its daemon is alive. -/
theorem Moves.records_iff {key' : Text} (h : Moves key w w') (hne : key' ≠ key) (d : QemuDiskRaw)
    (pid : ℤ) : w'.records E key' d pid ↔ w.records E key' d pid := by
  rw [World.records, World.records, World.file, World.file, h.others key' hne]

theorem Moves.alive_iff {key' : Text} {d : QemuDiskRaw} {pid : ℤ} (h : Moves key w w')
    (hne : key' ≠ key) (hsound : Sound E w) (hquiet : Quiet key' w)
    (hrec : w.records E key' d pid) : w'.procs.get? pid ≠ none ↔ w.procs.get? pid ≠ none := by
  constructor
  · intro halive
    obtain ⟨p, hp⟩ := Option.ne_none_iff_exists'.1 halive
    rw [h.get?_of_some hp]
    simp
  · intro halive
    obtain ⟨p, hp⟩ := Option.ne_none_iff_exists'.1 halive
    obtain rfl := hsound.daemons key' d pid hrec p hp
    rwa [h.get?_of_not_told (h.get?_other hne hquiet (.inl hp))]

theorem Moves.kept_iff {key' : Text} (h : Moves key w w') (hne : key' ≠ key) (hsound : Sound E w)
    (hquiet : Quiet key' w) : Kept E w' key' ↔ Kept E w key' := by
  have hdevice (d : QemuDiskRaw) : w'.hasDevice d ↔ w.hasDevice d := by
    rw [World.hasDevice, World.hasDevice, h.devices]
  refine exists_congr fun d => exists_congr fun pid => ?_
  rw [h.records_iff hne, hdevice]
  exact and_congr_right fun hrec => and_congr_left' (h.alive_iff hne hsound hquiet hrec)

theorem Moves.orphan_iff {key' : Text} {pid : ℤ} (h : Moves key w w') (hne : key' ≠ key)
    (hsound : Sound E w) (hquiet : Quiet key' w) : Orphan E w' key' pid ↔ Orphan E w key' pid := by
  have hdevice (d : QemuDiskRaw) : w'.hasDevice d ↔ w.hasDevice d := by
    rw [World.hasDevice, World.hasDevice, h.devices]
  refine exists_congr fun d => ?_
  rw [h.records_iff hne, hdevice]
  exact and_congr_right fun hrec => and_congr_left' (h.alive_iff hne hsound hquiet hrec)

/-- What the rounds for some keys do. -/
structure Sweeps (E : Env β) (current_key : Text) (entries : List Text) (w w' : World β) : Prop where
  others : ∀ key, key ∉ entries ∨ key = current_key ∨ Kept E w key →
    w'.registry.get? key = w.registry.get? key
  devices : w'.devices = w.devices
  procs : ∀ n, w'.procs.get? n = w.procs.get? n ∨ w'.isTold n ∧ w'.procs.get? n = none
  mono : ∀ n, w.isTold n → w'.isTold n
  told : ∀ n, w'.isTold n → w.isTold n ∨ ∃ key ∈ entries, key ≠ current_key ∧ ¬ Kept E w key ∧
    (w.procs.get? n = some (.daemon key) ∨ w.procs.get? n = some (.proxy key))
  remaining : ∀ key ∈ entries, key ≠ current_key → w'.file key ≠ none → Kept E w key
  reaped : ∀ key ∈ entries, key ≠ current_key → ∀ pid, Orphan E w key pid → w'.isTold pid

variable {current_key : Text} {entries : List Text}

theorem Sweeps.nil : Sweeps E current_key [] w w where
  others _ _ := rfl
  devices := rfl
  procs _ := .inl rfl
  mono _ h := h
  told _ h := .inl h
  remaining _ h := (List.not_mem_nil h).elim
  reaped _ h := (List.not_mem_nil h).elim

/-- The current key is skipped. -/
theorem Sweeps.skip (h : Sweeps E current_key entries w w') :
    Sweeps E current_key (current_key :: entries) w w' where
  others key hkey := by
    refine h.others key (hkey.imp_left fun hnot hmem => hnot (.tail _ hmem))
  devices := h.devices
  procs := h.procs
  mono := h.mono
  told n hn := (h.told n hn).imp_right fun ⟨key, hmem, hrest⟩ => ⟨key, .tail _ hmem, hrest⟩
  remaining key hmem hne := by
    rcases List.mem_cons.1 hmem with rfl | hmem
    · exact (hne rfl).elim
    · exact h.remaining key hmem hne
  reaped key hmem hne := by
    rcases List.mem_cons.1 hmem with rfl | hmem
    · exact (hne rfl).elim
    · exact h.reaped key hmem hne

/-- **A round, and the rounds after it.** -/
theorem Sweeps.cons (hsound : Sound E w) (hnot : key ∉ entries) (hne : key ≠ current_key)
    (hquiet : ∀ key' ∈ entries, Quiet key' w) (hm : Moves key w w') (hended : Ended E key w w')
    (h : Sweeps E current_key entries w' w'') : Sweeps E current_key (key :: entries) w w'' := by
  have hother {key' : Text} (hmem : key' ∈ entries) : key' ≠ key := fun heq => hnot (heq ▸ hmem)
  have hkept {key' : Text} (hmem : key' ∈ entries) : Kept E w' key' ↔ Kept E w key' :=
    hm.kept_iff (hother hmem) hsound (hquiet key' hmem)
  have hkey : w''.registry.get? key = w'.registry.get? key := h.others key (.inl hnot)
  refine ⟨fun key' hkey' => ?_, h.devices.trans hm.devices, fun n => ?_,
    fun n hn => h.mono n (hm.mono n hn), fun n hn => ?_, fun key' hmem hne' hfile => ?_,
    fun key' hmem hne' pid horphan => ?_⟩
  · by_cases heq : key' = key
    · subst heq
      rw [hkey]
      rcases hkey' with hnotin | rfl | hkeep
      · exact (hnotin (.head _)).elim
      · exact (hne rfl).elim
      · cases hended with
        | kept _ hregistry _ => rw [hregistry]
        | removed hnokeep _ _ => exact (hnokeep hkeep).elim
    · rw [← hm.others key' heq]
      by_cases hmem : key' ∈ entries
      · refine h.others key' (.inr ?_)
        rcases hkey' with hnotin | hcur | hkeep
        · exact (hnotin (.tail _ hmem)).elim
        · exact .inl hcur
        · exact .inr ((hkept hmem).2 hkeep)
      · exact h.others key' (.inl hmem)
  · rcases h.procs n with heq | hgone
    · rcases hm.procs n with heq' | ⟨htold, hnone⟩
      · exact .inl (heq.trans heq')
      · exact .inr ⟨h.mono n htold, heq.trans hnone⟩
    · exact .inr hgone
  · rcases h.told n hn with hbefore | ⟨key', hmem, hne', hnokeep, hp⟩
    · cases hended with
      | kept _ _ htold => exact .inl (htold n hbefore)
      | removed hnokeep _ _ =>
          exact (hm.told n hbefore).imp_right fun hp => ⟨key, .head _, hne, hnokeep, hp⟩
    · exact .inr ⟨key', .tail _ hmem, hne', fun hk => hnokeep ((hkept hmem).2 hk),
        hp.imp hm.get?_of_some hm.get?_of_some⟩
  · rcases List.mem_cons.1 hmem with rfl | hmem
    · cases hended with
      | kept hkeep _ _ => exact hkeep
      | removed _ hgone _ =>
          rw [World.file, hkey] at hfile
          exact (hfile hgone).elim
    · exact (hkept hmem).1 (h.remaining key' hmem hne' hfile)
  · rcases List.mem_cons.1 hmem with rfl | hmem
    · cases hended with
      | kept hkeep _ _ =>
          obtain ⟨d, pid', hrec, _, hdevice⟩ := hkeep
          obtain ⟨d', hrec', _, hnodevice⟩ := horphan
          obtain ⟨rfl, rfl⟩ := records_unique hrec hrec'
          exact (hnodevice hdevice).elim
      | removed _ _ hreaped => exact h.mono pid (hreaped pid horphan)
    · refine h.reaped key' hmem hne' pid ?_
      exact (hm.orphan_iff (hother hmem) hsound (hquiet key' hmem)).2 horphan

/-- **What the loop does.** -/
theorem wp_gcEntries (hsound : Sound E w) (hnodup : entries.Nodup)
    (hquiet : ∀ key ∈ entries, Quiet key w) :
    wp (gcEntries E current_key entries) (fun _ w' => Sweeps E current_key entries w w')
      (fun _ _ => False) w := by
  induction entries generalizing w with
  | nil => exact Sweeps.nil
  | cons entry_key entries ih =>
      rw [List.nodup_cons] at hnodup
      rw [List.forall_mem_cons] at hquiet
      rw [gcEntries, wp_ite]
      refine ⟨fun heq => ?_, fun hne => ?_⟩
      · subst heq
        exact wp_mono (ih hsound hnodup.2 hquiet.2) (fun _ _ h => h.skip) fun _ _ h => h
      · rw [wp_bind]
        refine wp_mono (wp_gcEntry hsound hquiet.1) (fun _ w₁ h₁ => ?_) fun _ _ h => h
        obtain ⟨hm, hended⟩ := h₁
        have hkey : w₁.file entry_key = none ∨
            w₁.registry.get? entry_key = w.registry.get? entry_key := by
          cases hended with
          | kept _ hregistry _ => exact .inr (by rw [hregistry])
          | removed _ hgone _ => exact .inl hgone
        have hother (key : Text) (hmem : key ∈ entries) : key ≠ entry_key :=
          fun heq => hnodup.1 (heq ▸ hmem)
        refine wp_mono (ih (hsound.of_moves hm hkey) hnodup.2
          fun key hmem => (hquiet.2 key hmem).of_moves hm (hother key hmem)) (fun _ _ h₂ => ?_)
          fun _ _ h => h
        exact Sweeps.cons hsound hnodup.1 hne hquiet.2 hm hended h₂

/-- The rounds for all keys make up a sweep. -/
theorem Sweeps.swept (hentries : Entries E w)
    (hall : ∀ key, key ∉ entries → w.registry.get? key = none)
    (h : Sweeps E current_key entries w w') : Swept E current_key w w' := by
  have hfresh (n : ℤ) : ¬ w.isTold n := by
    rintro ⟨o, ho⟩
    rw [hentries.fresh] at ho
    cases ho
  -- a process that was told to exit belongs to a key that is swept and not in use
  have hspared (key : Text) (hkey : key = current_key ∨ Kept E w key) (n : ℤ) (hn : w'.isTold n) :
      w.procs.get? n ≠ some (.daemon key) ∧ w.procs.get? n ≠ some (.proxy key) := by
    rcases h.told n hn with hbefore | ⟨key', _, hne, hnokeep, hp⟩
    · exact (hfresh n hbefore).elim
    · have hother : key' ≠ key := by
        rintro rfl
        rcases hkey with heq | hkeep
        · exact hne heq
        · exact hnokeep hkeep
      rcases hp with hp | hp <;> simp [hp, hother]
  have hsame (key : Text) (hkey : key = current_key ∨ Kept E w key) :
      w'.registry.get? key = w.registry.get? key := h.others key (.inr hkey)
  refine ⟨hsame, hspared, fun key content hne hfile => ?_, fun key pid hne horphan => ?_⟩
  · have hmem : key ∈ entries := by
      by_contra hnot
      rw [World.file, h.others key (.inl hnot), hall key hnot] at hfile
      cases hfile
    obtain ⟨d, pid, hrec, halive, hdevice⟩ := h.remaining key hmem hne (by simp [hfile])
    have hkeep : Kept E w key := ⟨d, pid, hrec, halive, hdevice⟩
    refine ⟨d, pid, ⟨?_, hrec.2⟩, ?_, ?_⟩
    · rw [World.file, hsame key (.inr hkeep)]
      exact hrec.1
    · obtain ⟨p, hp⟩ := Option.ne_none_iff_exists'.1 halive
      obtain rfl := hentries.daemons key d pid hrec p hp
      rcases h.procs pid with heq | ⟨htold, _⟩
      · rwa [heq]
      · exact ((hspared key (.inr hkeep) pid htold).1 hp).elim
    · rw [World.hasDevice, h.devices]
      exact hdevice
  · refine h.reaped key ?_ hne pid horphan
    by_contra hnot
    obtain ⟨d, hrec, _⟩ := horphan
    rw [World.records, World.file, hall key hnot] at hrec
    cases hrec.1

/-- **The sweep is safe and complete**: it returns, keeps the current key and what is in use, and leaves
files only of live daemons whose devices exist. -/
theorem gcOrphanDaemons_swept (hentries : Entries E w) (current_key : Text) :
    ∃ w', gcOrphanDaemons E current_key w = .ok () w' ∧ Swept E current_key w w' := by
  have hquiet (key : Text) (_ : key ∈ w.registry.keys) : Quiet key w := by
    rintro n ⟨o, ho⟩
    rw [hentries.fresh] at ho
    cases ho
  have hall (key : Text) (hnot : key ∉ w.registry.keys) : w.registry.get? key = none :=
    Dict.get?_eq_none_iff.2 fun _ hmem => hnot (Dict.mem_keys_of_mem hmem)
  have hwp : wp (gcOrphanDaemons E current_key) (fun _ w' => Swept E current_key w w')
      (fun _ _ => False) w := by
    rw [gcOrphanDaemons, wp_bind, wp_exceptOSError, wp_map, wp, listdir]
    cases hroot : w.root with
    | false =>
        refine ⟨fun _ => ?_, fun hne => hne rfl⟩
        have hnil : Sweeps E current_key [] w w := Sweeps.nil
        exact hnil.swept hentries fun key _ => hentries.root hroot key
    | true =>
        exact wp_mono (wp_gcEntries hentries.toSound w.registry.distinct hquiet)
          (fun _ _ h => h.swept hentries hall) fun _ _ h => h
  obtain ⟨_, w', hok, hswept⟩ := exists_ok_of_wp hwp
  exact ⟨w', hok, hswept⟩

/-! ### A registry with an orphan -/

/-- A record as `create` makes it. -/
def sampleRecord (key device_path : Text) (pid : ℤ) : QemuDiskRaw where
  pid := .int pid
  qmp_sock := .str (qmpSock key)
  key := .str key
  device_path := .str device_path
  nbd_unix_sock := .str (socketDir ++ "/qemu-nbd.".toList ++ key)
  scm_proxy_pid := .none
  scm_sock_path := .none

/-- A file that cannot be read, a daemon in use, and a daemon whose device has vanished. -/
def sampleWorld : World (Option Data) where
  root := true
  registry := ((Dict.empty.set "a".toList (some none)).set "b".toList
    (some (samplePickle.dumps (sampleRecord "b".toList "/dev/zvol/tank/b".toList 2107).fields))).set
    "c".toList
    (some (samplePickle.dumps (sampleRecord "c".toList "/dev/zvol/tank/c".toList 2108).fields))
  procs := (Dict.empty.set 2107 (.daemon "b".toList)).set 2108 (.daemon "c".toList)
  devices path := path = "/dev/zvol/tank/b".toList
  told := []
  tick := 0

theorem written_sampleRecord (key device_path : Text) {pid : ℤ} (hpid : 0 < pid ∧ pid < 2 ^ 31) :
    Written key (sampleRecord key device_path pid) pid where
  range := hpid
  daemon := rfl
  qmp_sock := rfl
  device_path := .inr ⟨device_path, rfl⟩
  nbd_unix_sock := by
    have hne : socketDir ++ "/qemu-nbd.".toList ++ key ≠ [] := by
      have hdir : socketDir ≠ [] := by decide +kernel
      simp [hdir]
    exact decide_eq_true hne
  proxy := .inl rfl
  scm_sock_path := .inl rfl

theorem sampleWorld_b : sampleWorld.records sampleEnv "b".toList
    (sampleRecord "b".toList "/dev/zvol/tank/b".toList 2107) 2107 :=
  ⟨rfl, written_sampleRecord _ _ (by decide)⟩

theorem sampleWorld_c : sampleWorld.records sampleEnv "c".toList
    (sampleRecord "c".toList "/dev/zvol/tank/c".toList 2108) 2108 :=
  ⟨rfl, written_sampleRecord _ _ (by decide)⟩

theorem sampleWorld_file {key : Text} {content : Option Data}
    (h : sampleWorld.file key = some content) :
    key = "a".toList ∧ content = none ∨ key = "b".toList ∨ key = "c".toList := by
  by_cases hc : key = "c".toList
  · exact .inr (.inr hc)
  by_cases hb : key = "b".toList
  · exact .inr (.inl hb)
  simp only [World.file, sampleWorld, Dict.get?_set, if_neg hc, if_neg hb] at h
  by_cases ha : key = "a".toList
  · rw [if_pos ha] at h
    exact .inl ⟨ha, (Option.some.inj h).symm⟩
  · rw [if_neg ha] at h
    cases h

theorem sampleWorld_records {key : Text} {d : QemuDiskRaw} {pid : ℤ}
    (h : sampleWorld.records sampleEnv key d pid) :
    d.scm_proxy_pid = .none ∧ sampleWorld.procs.get? pid = some (.daemon key) := by
  rcases sampleWorld_file h.1 with ⟨_, hnone⟩ | rfl | rfl
  · cases hnone
  · obtain ⟨rfl, rfl⟩ := records_unique h sampleWorld_b
    exact ⟨rfl, rfl⟩
  · obtain ⟨rfl, rfl⟩ := records_unique h sampleWorld_c
    exact ⟨rfl, rfl⟩

theorem sampleWorld_procs {n : ℤ} {p : Process} (h : sampleWorld.procs.get? n = some p) :
    n = 2108 ∧ p = .daemon "c".toList ∨ n = 2107 ∧ p = .daemon "b".toList := by
  simp only [sampleWorld, Dict.get?_set] at h
  by_cases hc : n = 2108
  · rw [if_pos hc] at h
    exact .inl ⟨hc, (Option.some.inj h).symm⟩
  · rw [if_neg hc] at h
    by_cases hb : n = 2107
    · rw [if_pos hb] at h
      exact .inr ⟨hb, (Option.some.inj h).symm⟩
    · rw [if_neg hb] at h
      cases h

theorem entries_sampleWorld : Entries sampleEnv sampleWorld where
  names key hkey := by
    have hmem : key ∈ sampleWorld.registry.keys := by
      obtain ⟨v, hv⟩ := Option.ne_none_iff_exists'.1 hkey
      exact Dict.mem_keys_of_mem (Dict.get?_eq_some_iff.1 hv)
    have hall : ∀ key ∈ sampleWorld.registry.keys, '/' ∉ key := by decide +kernel
    exact hall key hmem
  files key content h := by
    rcases sampleWorld_file h with ⟨_, rfl⟩ | rfl | rfl
    · refine .inl ?_
      rintro ⟨d, hd, _⟩
      cases hd
    · exact .inr ⟨_, _, sampleWorld_b⟩
    · exact .inr ⟨_, _, sampleWorld_c⟩
  daemons key d pid h p hp := by
    rw [(sampleWorld_records h).2] at hp
    exact (Option.some.inj hp).symm
  proxies key d pid n h hn := by
    rw [(sampleWorld_records h).1] at hn
    cases hn
  driver key d pid h := by
    have hpid : pid = 2108 ∨ pid = 2107 :=
      (sampleWorld_procs (sampleWorld_records h).2).imp And.left And.left
    refine ⟨?_, by simp [(sampleWorld_records h).1]⟩
    rcases hpid with rfl | rfl <;> decide
  alone key n n' hn hn' := by
    have hne : "c".toList ≠ "b".toList := by decide
    rcases sampleWorld_procs hn with ⟨rfl, hp⟩ | ⟨rfl, hp⟩ <;>
      rcases sampleWorld_procs hn' with ⟨rfl, hp'⟩ | ⟨rfl, hp'⟩
    · rfl
    · exact (hne (Process.daemon.inj (hp.symm.trans hp'))).elim
    · exact (hne (Process.daemon.inj (hp'.symm.trans hp))).elim
    · rfl
  root h := by cases h
  fresh := rfl

theorem gcOrphanDaemons_swept_orphan :
    ∃ w', gcOrphanDaemons sampleEnv "d".toList sampleWorld = .ok () w' ∧
      Swept sampleEnv "d".toList sampleWorld w' :=
  gcOrphanDaemons_swept entries_sampleWorld "d".toList

end Registry

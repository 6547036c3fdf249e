/-
**The signals of the driver.**

The registry keeps pids, which processes outlive: a daemon or a proxy can exit at any time, and the
kernel gives its pid to the next process.  The driver sends its signals by pid, so that a signal reaches
the process it is meant for as long as no pid that is still on record is given away.

Main definitions:

* `Datapath.System.onRecord` — the pids that the registry or a call at work knows;
* `Datapath.Spared` — no such pid is given to a new process.

Main results:

* `Datapath.rightful_of_spared` — **no signal goes astray in a run that spares the pids on record**;
* `Datapath.not_rightful_reused` — a proxy that has exited by itself is signalled all the same.
-/

import ZfsLive.Datapath

set_option relaxedAutoImplicit false
set_option autoImplicit false

namespace Datapath

open Tasks

/-! ### Pids on record -/

/-- The pids of a record, and the processes that it means. -/
def QemuDiskRaw.pids (d : QemuDiskRaw) : List (ℕ × Process) :=
  (d.pid, .daemon d.key) :: (d.scm_proxy_pid.map fun pid => (pid, .proxy d.key)).toList

/-- The pids that a reply tells. -/
def told : (c : Command) → Reply c → List (ℕ × Process)
  | .load _, .found d => d.pids
  | .spawnDaemon key, some pid => [(pid, .daemon key)]
  | .spawnProxy key, some pid => [(pid, .proxy key)]
  | _, _ => []

/-- The pids that a call has met. -/
def Transcript.met (k : Transcript) : List (ℕ × Process) := k.flatMap fun e => told e.1 e.2

/-- The pids in a file of the registry. -/
def Entry.pids : Entry → List (ℕ × Process)
  | .torn => []
  | .saved d => d.pids

/-- The pids that the registry or a call at work knows. -/
def System.onRecord (s : System) : List ℕ :=
  (s.host.registry.values.flatMap Entry.pids ++ s.calls.flatMap fun w => w.task.knows.met).map Prod.fst

theorem System.mem_onRecord {s : System} {pid : ℕ} :
    pid ∈ s.onRecord ↔
      (∃ key d, s.host.registry.get? key = some (.saved d) ∧ ∃ p, (pid, p) ∈ d.pids) ∨
        ∃ w ∈ s.calls, ∃ p, (pid, p) ∈ w.task.knows.met := by
  simp only [onRecord, List.map_append, List.mem_append, List.mem_map, List.mem_flatMap,
    Dict.mem_values, Dict.get?_eq_some_iff]
  refine or_congr ⟨?_, ?_⟩ ⟨?_, ?_⟩
  · rintro ⟨⟨_, p⟩, ⟨entry, ⟨key, hmem⟩, hp⟩, rfl⟩
    cases entry with
    | torn => cases hp
    | saved d => exact ⟨key, d, hmem, p, hp⟩
  · rintro ⟨key, d, hmem, p, hp⟩
    exact ⟨(pid, p), ⟨.saved d, ⟨key, hmem⟩, hp⟩, rfl⟩
  · rintro ⟨⟨_, p⟩, ⟨w, hw, hp⟩, rfl⟩
    exact ⟨w, hw, p, hp⟩
  · rintro ⟨w, hw, p, hp⟩
    exact ⟨(pid, p), ⟨w, hw, hp⟩, rfl⟩

/-- The pid that an event gives to a new process. -/
def Event.given (s : System) : Event → Option ℕ
  | .reuse pid => some pid
  | .step i choice => do
      let w ← s.calls[i]?
      match w.task.prog with
      | .cmd c _ => c.given choice
      | .done _ => none
  | _ => none

/-- The event gives no pid on record to a new process. -/
def Spares (s : System) (e : Event) : Prop := ∀ pid ∈ e.given s, pid ∉ s.onRecord

instance (s : System) (e : Event) : Decidable (Spares s e) :=
  inferInstanceAs (Decidable (∀ pid ∈ e.given s, pid ∉ s.onRecord))

/-- All events of a run spare the pids on record. -/
def Spared (E : Env) (s : System) : List Event → Prop
  | [] => True
  | e :: es => Spares s e ∧ ((s.next E e).elim True fun s' => Spared E s' es)

instance decidableSpared (E : Env) : (s : System) → (es : List Event) → Decidable (Spared E s es)
  | _, [] => .isTrue trivial
  | s, e :: es =>
      match h : s.next E e with
      | none => decidable_of_iff (Spares s e) (by simp [Spared, h])
      | some s' =>
          have := decidableSpared E s' es
          decidable_of_iff (Spares s e ∧ Spared E s' es) (by simp [Spared, h])

/-- Every signal has reached the process that it was meant for, which the driver has started. -/
def Rightful (h : Host) : Prop :=
  ∀ t ∈ h.signals, t.received = t.meant ∧ t.received ≠ .foreign

/-! ### What the scripts do -/

/-- A script signals what it has met, and saves what it has met. -/
def signalling : Discipline Reply Transcript where
  may k c :=
    match c with
    | .kill pid _ meant => (pid, meant) ∈ k.met ∧ meant ≠ .foreign
    | .dump key d => d.key = key ∧ ∀ t ∈ d.pids, t ∈ k.met
    | _ => True
  told c r :=
    match c, r with
    | .load key, .found d => d.key = key
    | _, _ => True
  learn := Transcript.add

/-- The pids of the record have been met. -/
def Knows (k : Transcript) (d : QemuDiskRaw) : Prop := ∀ t ∈ d.pids, t ∈ k.met

variable {α β : Type} {k k' : Transcript} {d : QemuDiskRaw} {key : String}

/-- The script is legal and forgets nothing, and what it returns satisfies `Q`. -/
def Yields (k : Transcript) (p : Script α) (Q : α → Transcript → Prop) : Prop :=
  Obeys signalling k p fun a k' => k.met ⊆ k'.met ∧ Q a k'

@[simp] theorem met_add (c : Command) (r : Reply c) : (k.add c r).met = told c r ++ k.met := rfl

theorem Knows.mono (h : Knows k d) (hk : k.met ⊆ k'.met) : Knows k' d := fun t ht => hk (h t ht)

theorem Yields.pure {Q : α → Transcript → Prop} {a : α} (h : Q a k) :
    Yields k (Pure.pure a : Script α) Q := ⟨List.Subset.refl _, h⟩

theorem Yields.bind {m : Script α} {f : α → Script β} {Q : α → Transcript → Prop}
    {Q' : β → Transcript → Prop} (hm : Yields k m Q)
    (hf : ∀ a k', k.met ⊆ k'.met → Q a k' → Yields k' (f a) Q') : Yields k (m >>= f) Q' := by
  refine obeys_bind.2 (Obeys.mono hm fun a k' hk' => ?_)
  exact Obeys.mono (hf a k' hk'.1 hk'.2) fun b k'' hk'' => ⟨List.Subset.trans hk'.1 hk''.1, hk''.2⟩

theorem Yields.mono {m : Script α} {Q Q' : α → Transcript → Prop} (hm : Yields k m Q)
    (hQ : ∀ a k', k.met ⊆ k'.met → Q a k' → Q' a k') : Yields k m Q' :=
  Obeys.mono hm fun a k' hk' => ⟨hk'.1, hQ a k' hk'.1 hk'.2⟩

/-- A command that the script may issue. -/
theorem yields_issue {c : Command} {Q : Reply c → Transcript → Prop} (hmay : signalling.may k c)
    (hQ : ∀ r, signalling.told c r → Q r (k.add c r)) : Yields k (issue c) Q :=
  ⟨hmay, fun r hr => ⟨List.subset_append_right _ _, hQ r hr⟩⟩

/-- Issue a command and go on. -/
theorem yields_issue_bind {c : Command} {f : Reply c → Script β} {Q : β → Transcript → Prop}
    (hmay : signalling.may k c) (hf : ∀ r k', k.met ⊆ k'.met → told c r ⊆ k'.met → Yields k' (f r) Q) :
    Yields k (issue c >>= f) Q :=
  (yields_issue (Q := fun r k' => told c r ⊆ k'.met) hmay
    fun _ _ => List.subset_append_left _ _).bind fun r k' hk' hr => hf r k' hk' hr

/-- Anything. -/
abbrev Any : α → Transcript → Prop := fun _ _ => True

/-! ### The functions of `qemudisk_raw.py` -/

theorem yields_loadMetadata : Yields k (loadMetadata key) fun r k' =>
    ∀ d, r = .found d → d.key = key ∧ Knows k' d := by
  refine yields_issue trivial fun r hr d hd => ?_
  subst hd
  exact ⟨hr, fun t ht => List.mem_append_left _ ht⟩

theorem yields_saveMetadata (hd : Knows k d) (hkey : d.key = key) :
    Yields k (saveMetadata key d) Any := by
  refine yields_issue_bind (c := .openForWriting key) trivial fun opened k' hk' _ => ?_
  cases opened with
  | false => exact .pure trivial
  | true =>
      refine yields_issue_bind (c := .dump key d) ⟨hkey, hd.mono hk'⟩ fun _ _ _ _ => ?_
      exact .pure trivial

theorem yields_removeMetadata : Yields k (removeMetadata key) Any := yields_issue trivial fun _ _ => trivial

theorem yields_isAlive (pid : ℕ) : Yields k (isAlive pid) Any := yields_issue trivial fun _ _ => trivial

theorem yields_kill {pid : ℕ} {signal : Signal} {meant : Process} (h : (pid, meant) ∈ k.met)
    (hmeant : meant ≠ .foreign) : Yields k (kill pid signal meant) Any :=
  yields_issue ⟨h, hmeant⟩ fun _ _ => trivial

theorem yields_waitForExit (pid n : ℕ) : Yields k (waitForExit pid n) Any := by
  induction n generalizing k with
  | zero => exact .pure trivial
  | succ n ih =>
      refine (yields_isAlive pid).bind fun alive k' _ _ => ?_
      cases alive with
      | false => exact .pure trivial
      | true => exact ih

theorem yields_stopScmProxy (hd : Knows k d) : Yields k (stopScmProxy d) Any := by
  rw [stopScmProxy]
  cases hpid : d.scm_proxy_pid with
  | none => exact .pure trivial
  | some pid =>
      have hmem : (pid, Process.proxy d.key) ∈ k.met := hd _ (by simp [QemuDiskRaw.pids, hpid])
      refine (yields_kill hmem (by simp)).bind fun sent k₁ hk₁ _ => ?_
      cases sent with
      | false => exact .pure trivial
      | true =>
          refine (yields_waitForExit pid 20).bind fun exited k₂ hk₂ _ => ?_
          cases exited with
          | true => exact .pure trivial
          | false => exact (yields_kill (hk₂ (hk₁ hmem)) (by simp)).bind fun _ _ _ _ => .pure trivial

theorem yields_quit (hd : Knows k d) : Yields k (quit d) Any := by
  refine (yields_stopScmProxy hd).bind fun _ k₁ hk₁ _ => ?_
  refine yields_issue_bind (c := .qmpQuit d.qmp_sock) trivial fun stopped k₂ hk₂ _ => ?_
  cases stopped with
  | true => exact (yields_waitForExit d.pid 20).bind fun _ _ _ _ => .pure trivial
  | false =>
      have hmem : (d.pid, Process.daemon d.key) ∈ k₂.met :=
        hk₂ (hk₁ (hd _ (by simp [QemuDiskRaw.pids])))
      refine (yields_kill hmem (by simp)).bind fun _ _ _ _ => ?_
      exact (yields_waitForExit d.pid 20).bind fun _ _ _ _ => .pure trivial

theorem yields_create (device_path : String) : Yields k (create key device_path) fun r k' =>
    ∀ d, r = some d → d.key = key ∧ Knows k' d := by
  refine yields_issue_bind (c := .spawnDaemon key) trivial fun r k' _ hr => .pure fun d hd => ?_
  cases r with
  | none => cases hd
  | some pid =>
      cases hd
      exact ⟨rfl, hr⟩

/-! ### The functions of `datapath.py` -/

theorem yields_gcEntry : Yields k (gcEntry key) Any := by
  refine yields_loadMetadata.bind fun r k₁ _ hr => ?_
  cases r with
  | unreadable => exact yields_removeMetadata
  | missing => exact .pure trivial
  | found d =>
      have hd := (hr d rfl).2
      refine (yields_isAlive d.pid).bind fun alive k₂ hk₂ _ => ?_
      cases alive with
      | false => exact yields_removeMetadata
      | true =>
          refine yields_issue_bind (c := .exists d.device_path) trivial fun found k₃ hk₃ _ => ?_
          split
          · exact .pure trivial
          · exact (yields_quit ((hd.mono hk₂).mono hk₃)).bind fun _ _ _ _ => yields_removeMetadata

theorem yields_gcOrphanDaemons (current_key : String) :
    Yields k (gcOrphanDaemons current_key) Any := by
  have hloop : ∀ (entries : List String) (k : Transcript),
      Yields k (gcEntries current_key entries) Any := by
    intro entries
    induction entries with
    | nil => exact fun _ => .pure trivial
    | cons entry_key entries ih =>
        intro k
        rw [gcEntries]
        split
        · exact ih k
        · exact yields_gcEntry.bind fun _ k' _ _ => ih k'
  exact yields_issue_bind (c := .listdir) trivial fun entries k' _ _ => hloop entries k'

/-- The daemon that `_ensure_qemu_daemon` returns has been met. -/
def Met (key : String) (r : Ensured) (k : Transcript) : Prop :=
  ∀ d, r = some (some d) → d.key = key ∧ Knows k d

theorem yields_spawnRegistered (device_path : String) :
    Yields k (spawnRegistered key device_path) (Met key) := by
  refine (yields_create device_path).bind fun r k₁ _ hr => ?_
  cases r with
  | none => exact .pure (fun d hd => by cases hd)
  | some d =>
      obtain ⟨hkey, hd⟩ := hr d rfl
      refine (yields_saveMetadata hd hkey).bind fun saved k₂ hk₂ _ => ?_
      cases saved with
      | false => exact .pure (fun d hd => by cases hd)
      | true =>
          refine .pure fun d' hd' => ?_
          cases hd'
          exact ⟨hkey, hd.mono hk₂⟩

theorem yields_ensureQemuDaemon (device_path : String) :
    Yields k (ensureQemuDaemon key device_path) (Met key) := by
  refine (yields_gcOrphanDaemons key).bind fun _ k₁ _ _ => ?_
  refine yields_loadMetadata.bind fun r k₂ _ hr => ?_
  cases r with
  | unreadable => exact .pure (fun d hd => by cases hd)
  | missing => exact yields_spawnRegistered device_path
  | found existing =>
      obtain ⟨hkey, hd⟩ := hr existing rfl
      refine (yields_isAlive existing.pid).bind fun alive k₃ hk₃ _ => ?_
      cases alive with
      | true =>
          refine .pure fun d' hd' => ?_
          cases hd'
          exact ⟨hkey, hd.mono hk₃⟩
      | false =>
          refine (yields_quit (hd.mono hk₃)).bind fun _ k₄ _ _ => ?_
          exact yields_removeMetadata.bind fun _ k₅ _ _ => yields_spawnRegistered device_path

theorem yields_stopDaemon : Yields k (stopDaemon key) Any := by
  refine yields_loadMetadata.bind fun r k₁ _ hr => ?_
  cases r with
  | unreadable => exact .pure trivial
  | missing => exact .pure trivial
  | found d =>
      refine (yields_quit (hr d rfl).2).bind fun _ k₂ _ _ => ?_
      exact yields_removeMetadata.bind fun _ _ _ _ => .pure trivial

theorem yields_startProxy (hkey : d.key = key) (hd : Knows k d) :
    Yields k (startProxy key d) Any := by
  refine yields_issue_bind (c := .spawnProxy key) trivial fun r k' hk' hr => ?_
  cases r with
  | none => exact .pure trivial
  | some proxy_pid =>
      have hproxy : Knows k' { d with
          scm_proxy_pid := some proxy_pid, scm_sock_path := some (scmPath key) } := by
        intro t ht
        rcases List.mem_cons.1 ht with rfl | ht
        · exact hk' (hd _ (List.mem_cons_self ..))
        · obtain rfl := List.mem_singleton.1 ht
          subst hkey
          exact hr (List.mem_singleton.2 rfl)
      refine (yields_saveMetadata hproxy hkey).bind fun saved _ _ _ => ?_
      cases saved <;> exact .pure trivial

theorem yields_importFresh (device_path : String) : Yields k (importFresh key device_path) Any := by
  refine (yields_ensureQemuDaemon device_path).bind fun r k₁ _ hr => ?_
  rcases r with _ | _ | d
  · exact .pure trivial
  · exact .pure trivial
  · obtain ⟨hkey, hd⟩ := hr d rfl
    exact yields_startProxy hkey hd

section

variable (E : Env)

theorem yields_attach (uri : String) : Yields k (attach E uri) Any := by
  rw [attach]
  cases parseUri uri with
  | none => exact .pure trivial
  | some device_path =>
      refine yields_issue_bind (c := .exists device_path) trivial fun found k₁ _ _ => ?_
      split
      · refine (yields_ensureQemuDaemon device_path).bind fun r k₂ _ _ => ?_
        cases r <;> exact .pure trivial
      · exact .pure trivial

theorem yields_activate (uri : String) : Yields k (activate E uri) Any := by
  rw [activate]
  cases parseUri uri with
  | none => exact .pure trivial
  | some device_path =>
      refine yields_issue_bind (c := .exists device_path) trivial fun found k₁ _ _ => ?_
      split
      · exact yields_loadMetadata.bind fun _ _ _ _ => .pure trivial
      · exact .pure trivial

theorem yields_deactivate (uri : String) : Yields k (deactivate E uri) Any := by
  rw [deactivate]
  cases parseUri uri with
  | none => exact .pure trivial
  | some device_path => exact yields_loadMetadata.bind fun _ _ _ _ => .pure trivial

theorem yields_detach (uri : String) : Yields k (detach E uri) Any := by
  rw [detach]
  cases parseUri uri with
  | none => exact .pure trivial
  | some device_path => exact yields_stopDaemon

theorem yields_importActivate (uri : String) : Yields k (importActivate E uri) Any := by
  rw [importActivate]
  cases parseUri uri with
  | none => exact .pure trivial
  | some device_path =>
      refine yields_issue_bind (c := .exists device_path) trivial fun found k₁ _ _ => ?_
      split
      · refine yields_loadMetadata.bind fun r k₂ _ hr => ?_
        cases r with
        | unreadable => exact .pure trivial
        | missing => exact yields_importFresh device_path
        | found existing =>
            have hd := (hr existing rfl).2
            refine (yields_isAlive existing.pid).bind fun alive k₃ hk₃ _ => ?_
            cases alive with
            | false =>
                refine (yields_quit (hd.mono hk₃)).bind fun _ k₄ _ _ => ?_
                exact yields_removeMetadata.bind fun _ k₅ _ _ => yields_importFresh device_path
            | true =>
                have hproxy : Yields k₃ (reusableProxy existing) Any := by
                  rw [reusableProxy]
                  split
                  · refine (yields_isAlive _).bind fun alive k₄ _ _ => ?_
                    cases alive <;> exact .pure trivial
                  · exact .pure trivial
                refine hproxy.bind fun path k₄ _ _ => ?_
                cases path with
                | none => exact yields_importFresh device_path
                | some path => exact .pure trivial
      · exact .pure trivial

/-- **All calls are legal.** -/
theorem yields_script (c : Call) : Yields k (c.script E) Any := by
  cases c with
  | attach uri domain => exact yields_attach E uri
  | activate uri domain => exact yields_activate E uri
  | deactivate uri domain => exact yields_deactivate E uri
  | detach uri domain => exact yields_detach E uri
  | importActivate uri domain => exact yields_importActivate E uri
  | close uri => exact yields_detach E uri

end

/-! ### The invariant -/

variable {E : Env} {h h' : Host} {s s' : System}

/-- If the pid is in use, it is by the process it means. -/
def Right (h : Host) (t : ℕ × Process) : Prop := ∀ p, h.procs.get? t.1 = some p → p = t.2

/-- The registry means what it says, and so did the signals. -/
structure Clean (h : Host) : Prop where
  key : ∀ key d, h.registry.get? key = some (.saved d) → d.key = key
  right : ∀ key d, h.registry.get? key = some (.saved d) → ∀ t ∈ d.pids, Right h t
  rightful : Rightful h

/-- What a call has met is right. -/
def Valid (k : Transcript) (h : Host) : Prop := Clean h ∧ ∀ t ∈ k.met, Right h t

/-- The invariant of runs. -/
def Sane (s : System) : Prop :=
  Clean s.host ∧ ∀ w ∈ s.calls, Sound signalling Valid (fun _ _ => True) s.host w.task

theorem Right.leave {t : ℕ × Process} (ht : Right h t) (pid : ℕ) : Right (h.leave pid) t := by
  intro p hp
  rw [Host.leave, Dict.get?_erase] at hp
  split at hp
  · cases hp
  · exact ht p hp

theorem Right.enter {t : ℕ × Process} (ht : Right h t) {pid : ℕ} (p : Process) (hne : t.1 ≠ pid) :
    Right (h.enter pid p) t := by
  intro q hq
  rw [Host.enter, Dict.get?_set, if_neg hne] at hq
  exact ht q hq

/-- A command gives at most one pid away. -/
theorem right_effect {c : Command} {choice : ℕ} (he : Effect choice h c h') {t : ℕ × Process}
    (ht : Right h t) (hne : c.given choice ≠ some t.1) : Right h' t := by
  cases he with
  | idle => exact ht
  | tear => exact ht
  | dump => exact ht
  | remove => exact ht
  | signal => exact ht
  | kill => exact Right.leave (h := { h with signals := _ }) ht _
  | qmpQuit => exact ht.leave _
  | spawnDaemon _ _ hgiven => exact ht.enter _ fun heq => hne (by rw [hgiven, heq]; rfl)
  | spawnProxy _ hgiven => exact ht.enter _ fun heq => hne (by rw [hgiven, heq]; rfl)

/-- What the registry says after a command, it has said before, or the command has saved it. -/
theorem registry_effect {c : Command} {choice : ℕ} (he : Effect choice h c h') {key : String}
    {d : QemuDiskRaw} (hd : h'.registry.get? key = some (.saved d)) :
    h.registry.get? key = some (.saved d) ∨ c = .dump key d := by
  cases he with
  | idle => exact .inl hd
  | tear key' =>
      simp only [Dict.get?_set] at hd
      split at hd
      · cases hd
      · exact .inl hd
  | dump key' d' =>
      simp only [Dict.get?_set] at hd
      split at hd
      · next heq =>
        cases hd
        exact .inr (by rw [heq])
      · exact .inl hd
  | remove key' =>
      simp only [Dict.get?_erase] at hd
      split at hd
      · cases hd
      · exact .inl hd
  | signal => exact .inl hd
  | kill => exact .inl hd
  | qmpQuit => exact .inl hd
  | spawnDaemon => exact .inl hd
  | spawnProxy => exact .inl hd

/-- A signal that a command sends goes to the process that has the pid. -/
theorem signals_effect {c : Command} {choice : ℕ} (he : Effect choice h c h') {t : Sent}
    (ht : t ∈ h'.signals) :
    t ∈ h.signals ∨
      ∃ pid signal, c = .kill pid signal t.meant ∧ h.procs.get? pid = some t.received := by
  cases he with
  | idle => exact .inl ht
  | tear => exact .inl ht
  | dump => exact .inl ht
  | remove => exact .inl ht
  | signal hp =>
      rcases List.mem_cons.1 ht with rfl | ht
      · exact .inr ⟨_, _, rfl, hp⟩
      · exact .inl ht
  | kill hp =>
      rcases List.mem_cons.1 ht with rfl | ht
      · exact .inr ⟨_, _, rfl, hp⟩
      · exact .inl ht
  | qmpQuit => exact .inl ht
  | spawnDaemon => exact .inl ht
  | spawnProxy => exact .inl ht

/-- **A legal command keeps the registry and the signals right**, if it gives no pid on record away. -/
theorem clean_effect {c : Command} {choice : ℕ} (he : Effect choice h c h') (hV : Valid k h)
    (hmay : signalling.may k c)
    (hfresh : ∀ key d, h.registry.get? key = some (.saved d) → ∀ t ∈ d.pids,
      c.given choice ≠ some t.1) : Clean h' := by
  obtain ⟨hclean, hmet⟩ := hV
  refine ⟨fun key d hd => ?_, fun key d hd t ht => ?_, fun t ht => ?_⟩
  · rcases registry_effect he hd with hd | rfl
    · exact hclean.key key d hd
    · exact hmay.1
  · rcases registry_effect he hd with hd | rfl
    · exact right_effect he (hclean.right key d hd t ht) (hfresh key d hd t ht)
    · exact right_effect he (hmet t (hmay.2 t ht)) (by simp [Command.given])
  · rcases signals_effect he ht with ht | ⟨pid, signal, rfl, hp⟩
    · exact hclean.rightful t ht
    · have heq := hmet _ hmay.1 _ hp
      exact ⟨heq, fun hf => hmay.2 (heq.symm.trans hf)⟩

/-- What a call is told is right. -/
theorem told_exec {c : Command} {choice : ℕ} {r : Reply c} (hexec : exec c choice h = some (r, h'))
    (hclean : Clean h) : signalling.told c r ∧ ∀ t ∈ told c r, Right h' t := by
  have hspawned : ∀ (pid : ℕ) (p : Process), Right (h.enter pid p) (pid, p) := by
    intro pid p q hq
    rw [Host.enter, Dict.get?_set, if_pos rfl] at hq
    exact (Option.some.inj hq).symm
  cases c with
  | load key =>
      rw [exec] at hexec
      split at hexec <;> cases hexec
      · exact ⟨trivial, by simp [told]⟩
      · exact ⟨trivial, by simp [told]⟩
      · next d hd => exact ⟨hclean.key key d hd, hclean.right key d hd⟩
  | spawnDaemon key =>
      have hexec : (if Process.daemon key ∈ h.procs.values ∧ choice ≠ 0 then none
          else spawn (.daemon key) choice h) = some ((r : Option ℕ), h') := hexec
      split at hexec
      · cases hexec
      · rcases spawn_eq hexec with ⟨rfl, rfl⟩ | ⟨pid, _, rfl, _, rfl⟩
        · exact ⟨trivial, by simp [told]⟩
        · refine ⟨trivial, fun t ht => ?_⟩
          obtain rfl := List.mem_singleton.1 ht
          exact hspawned pid _
  | spawnProxy key =>
      rcases spawn_eq hexec with ⟨rfl, rfl⟩ | ⟨pid, _, rfl, _, rfl⟩
      · exact ⟨trivial, by simp [told]⟩
      · refine ⟨trivial, fun t ht => ?_⟩
        obtain rfl := List.mem_singleton.1 ht
        exact hspawned pid _
  | openForWriting key => exact ⟨trivial, by simp [told]⟩
  | dump key d => exact ⟨trivial, by simp [told]⟩
  | remove key => exact ⟨trivial, by simp [told]⟩
  | listdir => exact ⟨trivial, by simp [told]⟩
  | «exists» path => exact ⟨trivial, by simp [told]⟩
  | probe pid => exact ⟨trivial, by simp [told]⟩
  | kill pid signal meant => exact ⟨trivial, by simp [told]⟩
  | qmpQuit qmp_sock => exact ⟨trivial, by simp [told]⟩

/-! ### Runs -/

/-- A change of the host that keeps what is right for all calls. -/
theorem Sane.of_host (hs : Sane s) {host : Host} (hclean : Clean host)
    (hright : ∀ w ∈ s.calls, ∀ t ∈ w.task.knows.met, Right s.host t → Right host t) :
    Sane { s with host := host } := by
  refine ⟨hclean, fun w hw => ?_⟩
  obtain ⟨hV, hobeys⟩ := hs.2 w hw
  exact ⟨⟨hclean, fun t ht => hright w hw t ht (hV.2 t ht)⟩, hobeys⟩

theorem Sane.step {i choice : ℕ} (hs : Sane s) (hspare : Spares s (.step i choice))
    (hstep : s.step i choice = some s') : Sane s' := by
  simp only [System.step, Option.bind_eq_bind, Option.bind_eq_some_iff, Option.pure_def,
    Option.some.injEq] at hstep
  obtain ⟨w, hw, ⟨task, host⟩, hadv, rfl⟩ := hstep
  have hmem := List.mem_of_getElem? hw
  -- what the command of the call does
  have hcmd : ∀ c next r, w.task.prog = .cmd c next → Valid w.task.knows s.host →
      signalling.may w.task.knows c → exec c choice s.host = some (r, host) →
      signalling.told c r ∧ Valid (signalling.learn w.task.knows c r) host ∧
        (Clean host ∧ ∀ v ∈ s.calls, ∀ t ∈ v.task.knows.met, Right s.host t → Right host t) := by
    intro c next r hprog hV hmay hexec
    have he := effect_of_exec hexec
    have hgiven : ∀ pid, c.given choice = some pid → pid ∉ s.onRecord := by
      intro pid hpid
      refine hspare pid ?_
      simp [Event.given, hw, hprog, hpid]
    have hothers : ∀ v ∈ s.calls, ∀ t ∈ v.task.knows.met, Right s.host t → Right host t :=
      fun v hv t ht hr => right_effect he hr fun heq => hgiven _ heq (System.mem_onRecord.2 (.inr ⟨v, hv, t.2, ht⟩))
    have hclean : Clean host := clean_effect he hV hmay fun key d hd t ht heq =>
      hgiven _ heq (System.mem_onRecord.2 (.inl ⟨key, d, hd, t.2, ht⟩))
    obtain ⟨htold, htold'⟩ := told_exec hexec hV.1
    refine ⟨htold, ⟨hclean, fun t ht => ?_⟩, hclean, hothers⟩
    rcases List.mem_append.1 ht with ht | ht
    · exact htold' t ht
    · exact hothers w hmem t ht (hV.2 t ht)
  obtain ⟨hsound, _, hclean, hothers⟩ :=
    sound_advance (P := fun _ _ host => Clean host ∧
      ∀ v ∈ s.calls, ∀ t ∈ v.task.knows.met, Right s.host t → Right host t) hcmd (hs.2 w hmem) hadv
  refine ⟨hclean, fun v hv => ?_⟩
  rcases List.mem_or_eq_of_mem_set hv with hv | rfl
  · exact (hs.of_host hclean hothers).2 v hv
  · exact hsound

/-- **One event of a run.** -/
theorem Sane.next {e : Event} (hs : Sane s) (hspare : Spares s e) (hnext : s.next E e = some s') :
    Sane s' := by
  cases e with
  | start c =>
      cases hnext
      refine ⟨hs.1, fun w hw => ?_⟩
      rcases List.mem_append.1 hw with hw | hw
      · exact hs.2 w hw
      · obtain rfl := List.mem_singleton.1 hw
        exact ⟨⟨hs.1, by simp [Transcript.met]⟩, Obeys.mono (yields_script E c) fun _ _ _ => trivial⟩
  | step i choice => exact hs.step hspare hnext
  | answer i =>
      simp only [System.next, Option.bind_eq_bind, Option.bind_eq_some_iff] at hnext
      obtain ⟨w, _, hanswer⟩ := hnext
      split at hanswer
      · cases hanswer
      · cases hanswer
        exact ⟨hs.1, fun v hv => hs.2 v (List.mem_of_mem_eraseIdx hv)⟩
  | exit pid =>
      cases hnext
      refine hs.of_host ⟨hs.1.key, fun key d hd t ht => ?_, hs.1.rightful⟩ fun w hw t ht hr => ?_
      · exact (hs.1.right key d hd t ht).leave pid
      · exact hr.leave pid
  | reuse pid =>
      rw [System.next] at hnext
      split at hnext
      · cases hnext
        have hpid := fun h => hspare pid rfl (System.mem_onRecord.2 h)
        refine hs.of_host ⟨hs.1.key, fun key d hd t ht => ?_, hs.1.rightful⟩ fun w hw t ht hr => ?_
        · exact (hs.1.right key d hd t ht).enter _ fun heq => hpid (.inl ⟨key, d, hd, t.2, heq ▸ ht⟩)
        · exact hr.enter _ fun heq => hpid (.inr ⟨w, hw, t.2, heq ▸ ht⟩)
      · cases hnext
  | device path present =>
      cases hnext
      exact hs.of_host ⟨hs.1.key, hs.1.right, hs.1.rightful⟩ fun _ _ _ _ hr => hr

/-- A run that spares the pids on record. -/
theorem Sane.run (es : List Event) : ∀ {s : System}, Sane s → Spared E s es →
    s.run E es = some s' → Sane s' := by
  induction es with
  | nil =>
      intro s hs _ hrun
      cases hrun
      exact hs
  | cons e es ih =>
      intro s hs hspared hrun
      obtain ⟨s₁, hnext, hrun⟩ := Option.bind_eq_some_iff.1 hrun
      obtain ⟨hspare, hspared⟩ := hspared
      rw [hnext] at hspared
      exact ih (hs.next hspare hnext) hspared hrun

theorem System.Fresh.sane (hs : s.Fresh) : Sane s := by
  obtain ⟨hcalls, _, hregistry, hsignals, _⟩ := hs
  refine ⟨⟨?_, ?_, ?_⟩, ?_⟩
  · simp [hregistry]
  · simp [hregistry]
  · simp [Rightful, hsignals]
  · simp [hcalls]

/-- **Every signal of the driver reaches the daemon or the proxy that it is meant for**, in every run in
which the kernel gives no pid that is on record to a new process. -/
theorem rightful_of_spared (es : List Event) (hs : s.Fresh) (hspared : Spared E s es)
    (hrun : s.run E es = some s') : Rightful s'.host :=
  (hs.sane.run es hspared hrun).1.rightful

/-! ### A host -/

/-- The device key of the examples is the path. -/
def sampleEnv : Env := ⟨id⟩

/-- A host on which nothing has run. -/
def sampleSystem : System := ⟨⟨Dict.empty, Dict.empty, fun _ => true, []⟩, [], []⟩

def sampleUri : String := "raw+qdisk://zfs-live//dev/zvol/tank/vms/u"

/-- A migration to a device: its daemon gets the pid 2107 and its proxy the pid 2108. -/
def migration : List Event :=
  [.start (.importActivate sampleUri "0"), .step 0 0, .step 0 0, .step 0 0, .step 0 0, .step 0 2108,
    .step 0 1, .step 0 0, .step 0 2109, .step 0 1, .step 0 0, .answer 0]

/-- The device is detached: the proxy is signalled first. -/
def stopping : List Event := [.start (.detach sampleUri "0"), .step 0 0, .step 0 1]

theorem fresh_sampleSystem : sampleSystem.Fresh := by
  refine ⟨rfl, rfl, rfl, rfl, ?_⟩
  simp [sampleSystem]

/-- The proxy is at work when the device is detached, and gets the signal. -/
theorem rightful_of_spared_stopping :
    ∃ s', sampleSystem.run sampleEnv (migration ++ stopping) = some s' ∧ s'.host.signals ≠ [] ∧
      Rightful s'.host := by
  have hsome : ((sampleSystem.run sampleEnv (migration ++ stopping)).any
      fun s' => s'.host.signals ≠ []) = true := by decide +kernel
  obtain ⟨s', hrun, hsent⟩ := (Option.any_eq_true _ _).1 hsome
  exact ⟨s', hrun, by simpa using hsent,
    rightful_of_spared _ fresh_sampleSystem (by decide +kernel) hrun⟩

/-- **The proxy exits by itself, as it does once the migration is over, and an unrelated process gets
its pid: that process gets the signal.** -/
theorem not_rightful_reused :
    ¬ ∀ (E : Env) (s s' : System) (es : List Event), s.Fresh → s.run E es = some s' →
      Rightful s'.host := by
  intro h
  have hsome : ((sampleSystem.run sampleEnv (migration ++ [.exit 2108, .reuse 2108] ++ stopping)).any
      fun s' => s'.host.signals.any fun t => t.received = .foreign) = true := by decide +kernel
  obtain ⟨s', hrun, hsent⟩ := (Option.any_eq_true _ _).1 hsome
  obtain ⟨t, ht, hforeign⟩ := List.any_eq_true.1 hsent
  exact (h sampleEnv sampleSystem s' _ fresh_sampleSystem hrun t ht).2 (by simpa using hforeign)

end Datapath

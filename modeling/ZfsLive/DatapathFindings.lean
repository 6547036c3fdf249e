/-
**What a call finds out of a daemon** (`src/datapath/datapath.py`, `src/datapath/qemudisk_raw.py`).

A call reads the record of a device, probes the pid in it, and looks for the zvol; then it clears the
record away, goes by the daemon, or starts one and registers it.  What it has found can be read off the
commands it has run and their replies, and so can what it takes the registry to hold.

Main definitions:

* `Datapath.Finding`, `Datapath.Transcript.finding` — what a call has found;
* `Datapath.caring` — clearing away only what is stale, and registering only what runs.

Main results:

* `Datapath.cares_script` — **all calls keep to this**, but for `detach` and `close`, which are there to
  stop a daemon;
* `Datapath.Finding.pid?_after`, `Datapath.Finding.dead_after` — how a call comes by a finding.
-/

import ZfsLive.DatapathPids

set_option relaxedAutoImplicit false
set_option autoImplicit false

namespace Datapath

open Tasks

/-! ### What a call finds out -/

/-- What a call has found out of the daemon of a device, or made of it. -/
inductive Finding
  /-- There is no record. -/
  | nothing
  | unreadable
  | loaded (d : QemuDiskRaw)
  /-- The daemon on record is alive. -/
  | serving (d : QemuDiskRaw)
  /-- It is not. -/
  | dead (d : QemuDiskRaw)
  /-- It is alive, and its zvol is missing. -/
  | gone (d : QemuDiskRaw)
  /-- The call has started a daemon. -/
  | started (pid : ℕ)
  /-- It has opened the record for the daemon it has started. -/
  | opened (pid : ℕ)
  /-- It rewrites the record of a daemon that was there. -/
  | rewriting (d : QemuDiskRaw)
  deriving DecidableEq, Repr

namespace Finding

/-- `load_metadata` has returned. -/
def ofLoaded : Loaded → Finding
  | .missing => nothing
  | .unreadable => unreadable
  | .found d => loaded d

/-- A pid was probed. -/
def probed (pid : ℕ) (alive : Bool) : Finding → Finding
  | loaded d => if pid = d.pid then (if alive then serving d else dead d) else loaded d
  | f => f

/-- A path was looked for. -/
def looked (path : String) (found : Bool) : Finding → Finding
  | serving d => if path = d.device_path ∧ ¬ (path ≠ "" ∧ found) then gone d else serving d
  | f => f

/-- The record was opened for writing. -/
def torn : Finding → Finding
  | started pid => opened pid
  | serving d => rewriting d
  | f => f

/-- The record was written. -/
def dumped (d : QemuDiskRaw) : Finding → Finding
  | opened _ => serving d
  | f => f

/-- What is known after one more command. -/
def after (key : String) (f : Finding) : (c : Command) → Reply c → Finding
  | .load key', r => if key' = key then ofLoaded r else f
  | .probe pid, r => f.probed pid r
  | .exists path, r => f.looked path r
  | .spawnDaemon key', some pid => if key' = key then started pid else f
  | .openForWriting key', true => if key' = key then f.torn else f
  | .dump key' d, _ => if key' = key then f.dumped d else f
  | .remove key', _ => if key' = key then nothing else f
  | _, _ => f

/-- What the registry has for the device, as far as the call knows. -/
def entry : Finding → Option Entry
  | nothing => none
  | unreadable => some .torn
  | loaded d => some (.saved d)
  | serving d => some (.saved d)
  | dead d => some (.saved d)
  | gone d => some (.saved d)
  | started _ => none
  | opened _ => some .torn
  | rewriting _ => some .torn

/-- The pid of the daemon. -/
def pid? : Finding → Option ℕ
  | nothing => none
  | unreadable => none
  | loaded d => some d.pid
  | serving d => some d.pid
  | dead d => some d.pid
  | gone d => some d.pid
  | started pid => some pid
  | opened pid => some pid
  | rewriting d => some d.pid

/-- The record is to be cleared away. -/
def Stale : Finding → Prop
  | dead _ => True
  | gone _ => True
  | _ => False

end Finding

/-- What a call knows of the daemon of a device. -/
def Transcript.finding (key : String) : Transcript → Finding
  | [] => .nothing
  | ⟨c, r⟩ :: k => (Transcript.finding key k).after key c r

variable {α β : Type} {k k' k'' : Transcript} {d : QemuDiskRaw} {key : String} {b : Bool}

@[simp] theorem finding_add (c : Command) (r : Reply c) :
    (k.add c r).finding key = (k.finding key).after key c r := rfl

/-! ### What the scripts do with it -/

/-- A script clears a record away once it has found it stale or unreadable, unless the call is there to
stop the daemon, and writes a record for a daemon that it has found or started. -/
def caring (stops : Bool) : Discipline Reply Transcript where
  may k c :=
    match c with
    | .qmpQuit sock => stops = true ∨ ∃ key, sock = qmpSock key ∧ (k.finding key).Stale
    | .kill _ _ (.daemon key) => stops = true ∨ (k.finding key).Stale
    | .remove key => stops = true ∨ (k.finding key).Stale ∨ k.finding key = .unreadable
    | .openForWriting key => (∃ pid, k.finding key = .started pid) ∨ ∃ d, k.finding key = .serving d
    | .dump key d => d.key = key ∧ d.qmp_sock = qmpSock key ∧
        (k.finding key = .opened d.pid ∨ ∃ d', k.finding key = .rewriting d' ∧ d'.pid = d.pid)
    | _ => True
  told c r :=
    match c, r with
    | .load key, .found d => d.key = key ∧ d.qmp_sock = qmpSock key
    | _, _ => True
  learn := Transcript.add

/-- The script is legal, and what it returns satisfies `Q`. -/
def Cares (b : Bool) (k : Transcript) (p : Script α) (Q : α → Transcript → Prop) : Prop :=
  Obeys (caring b) k p Q

theorem Cares.pure {Q : α → Transcript → Prop} {a : α} (h : Q a k) :
    Cares b k (Pure.pure a : Script α) Q := h

theorem Cares.bind {m : Script α} {f : α → Script β} {Q : α → Transcript → Prop}
    {Q' : β → Transcript → Prop} (hm : Cares b k m Q) (hf : ∀ a k', Q a k' → Cares b k' (f a) Q') :
    Cares b k (m >>= f) Q' :=
  obeys_bind.2 (Obeys.mono hm hf)

theorem Cares.mono {m : Script α} {Q Q' : α → Transcript → Prop} (hm : Cares b k m Q)
    (hQ : ∀ a k', Q a k' → Q' a k') : Cares b k m Q' :=
  Obeys.mono hm hQ

/-- A command that the script may issue. -/
theorem cares_issue {c : Command} {Q : Reply c → Transcript → Prop} (hmay : (caring b).may k c)
    (hQ : ∀ r, (caring b).told c r → Q r (k.add c r)) : Cares b k (issue c) Q :=
  ⟨hmay, hQ⟩

/-- Issue a command and go on. -/
theorem cares_issue_bind {c : Command} {f : Reply c → Script β} {Q : β → Transcript → Prop}
    (hmay : (caring b).may k c) (hf : ∀ r, (caring b).told c r → Cares b (k.add c r) (f r) Q) :
    Cares b k (issue c >>= f) Q :=
  (cares_issue (Q := fun r k' => k' = k.add c r ∧ (caring b).told c r) hmay
    fun _ hr => ⟨rfl, hr⟩).bind fun r k' hk' => by
      obtain ⟨rfl, hr⟩ := hk'
      exact hf r hr

/-- A stale record stays stale. -/
def Lasts (key : String) (k k' : Transcript) : Prop :=
  (k.finding key).Stale → k'.finding key = k.finding key

theorem Lasts.trans (h : Lasts key k k') (h' : Lasts key k' k'') : Lasts key k k'' := by
  intro hstale
  have heq := h hstale
  rw [← heq]
  exact h' (heq ▸ hstale)

theorem Finding.Stale.probed {f : Finding} (hf : f.Stale) (pid : ℕ) (alive : Bool) :
    f.probed pid alive = f := by
  cases f <;> first | rfl | cases hf

theorem lasts_probe (pid : ℕ) (alive : Bool) : Lasts key k (k.add (.probe pid) alive) :=
  fun hstale => hstale.probed pid alive

/-- The record of the daemon is the one of its device. -/
def Owns (key : String) (d : QemuDiskRaw) : Prop := d.key = key ∧ d.qmp_sock = qmpSock key

/-- The call may clear the record away. -/
def MayClear (b : Bool) (key : String) (k : Transcript) : Prop := b = true ∨ (k.finding key).Stale

theorem MayClear.lasts (h : MayClear b key k) (hk : Lasts key k k') : MayClear b key k' := by
  refine h.imp id fun hstale => ?_
  rw [hk hstale]
  exact hstale

theorem cares_isAlive (pid : ℕ) : Cares b k (isAlive pid) fun r k' => k' = k.add (.probe pid) r :=
  cares_issue trivial fun _ _ => rfl

theorem cares_waitForExit (key : String) (pid n : ℕ) :
    Cares b k (waitForExit pid n) fun _ k' => Lasts key k k' := by
  induction n generalizing k with
  | zero => exact .pure fun _ => rfl
  | succ n ih =>
      refine (cares_isAlive pid).bind fun alive k' hk' => ?_
      subst hk'
      have hlasts : Lasts key k (k.add (.probe pid) alive) := lasts_probe pid alive
      cases alive with
      | false => exact .pure hlasts
      | true => exact ih.mono fun _ _ h => hlasts.trans h

theorem cares_kill {pid : ℕ} {signal : Signal} {meant : Process}
    (hmay : ∀ key, meant = .daemon key → MayClear b key k) :
    Cares b k (kill pid signal meant) fun _ k' => ∀ key, k'.finding key = k.finding key := by
  refine cares_issue ?_ fun _ _ _ => rfl
  cases meant with
  | daemon key => exact hmay key rfl
  | proxy key => exact trivial
  | foreign => exact trivial

theorem Lasts.of_eq (h : k'.finding key = k.finding key) : Lasts key k k' := fun _ => h

theorem cares_stopScmProxy (key : String) : Cares b k (stopScmProxy d) fun _ k' => Lasts key k k' := by
  rw [stopScmProxy]
  cases d.scm_proxy_pid with
  | none => exact .pure fun _ => rfl
  | some pid =>
      have hkill : ∀ (signal : Signal) (k : Transcript), Cares b k (kill pid signal (.proxy d.key))
          fun _ k' => Lasts key k k' :=
        fun signal k => (cares_kill (fun _ h => by cases h)).mono fun _ _ h => .of_eq (h key)
      refine (hkill .SIGTERM k).bind fun sent k₁ h₁ => ?_
      cases sent with
      | false => exact .pure h₁
      | true =>
          refine (cares_waitForExit key pid 20).bind fun exited k₂ h₂ => ?_
          cases exited with
          | true => exact .pure (h₁.trans h₂)
          | false => exact (hkill .SIGKILL k₂).bind fun _ _ h₃ => .pure ((h₁.trans h₂).trans h₃)

/-- `quit` is for a record that may be cleared away. -/
theorem cares_quit (hown : Owns key d) (hmay : MayClear b key k) :
    Cares b k (quit d) fun _ k' => Lasts key k k' := by
  refine (cares_stopScmProxy key).bind fun _ k₁ h₁ => ?_
  refine cares_issue_bind (c := .qmpQuit d.qmp_sock) ?_ fun stopped _ => ?_
  · exact (hmay.lasts h₁).imp id fun hstale => ⟨key, hown.2, hstale⟩
  · have h₂ : Lasts key k (k₁.add (.qmpQuit d.qmp_sock) stopped) := h₁.trans fun _ => rfl
    cases stopped with
    | true => exact (cares_waitForExit key d.pid 20).bind fun _ _ h₃ => .pure (h₂.trans h₃)
    | false =>
        refine (cares_kill fun key' heq => ?_).bind fun _ k₃ h₃ => ?_
        · cases heq
          exact hown.1 ▸ hmay.lasts h₂
        · exact (cares_waitForExit key d.pid 20).bind fun _ _ h₄ =>
            .pure ((h₂.trans (.of_eq (h₃ key))).trans h₄)

/-! ### The functions of `datapath.py` -/

/-- What `load_metadata` returns is what the call has found. -/
theorem cares_loadMetadata : Cares b k (loadMetadata key) fun r k' =>
    k'.finding key = .ofLoaded r ∧ ∀ d, r = .found d → Owns key d := by
  refine cares_issue trivial fun r hr => ⟨if_pos rfl, fun d hd => ?_⟩
  subst hd
  exact hr

/-- A record that was loaded is probed. -/
theorem cares_isAlive_loaded (hk : k.finding key = .loaded d) :
    Cares b k (isAlive d.pid) fun alive k' =>
      k'.finding key = if alive then .serving d else .dead d := by
  refine (cares_isAlive d.pid).mono fun alive k' hk' => ?_
  subst hk'
  change (k.finding key).probed d.pid alive = _
  rw [hk]
  exact if_pos rfl

theorem cares_gcEntry : Cares b k (gcEntry key) Any := by
  refine cares_loadMetadata.bind fun r k₁ hr => ?_
  obtain ⟨hk₁, hr⟩ := hr
  cases r with
  | unreadable => exact cares_issue (.inr (.inr hk₁)) fun _ _ => trivial
  | missing => exact .pure trivial
  | found d =>
      refine (cares_isAlive_loaded hk₁).bind fun alive k₂ hk₂ => ?_
      cases alive with
      | false => exact cares_issue (.inr (.inl (hk₂ ▸ trivial))) fun _ _ => trivial
      | true =>
          refine cares_issue_bind (c := .exists d.device_path) trivial fun found _ => ?_
          split
          · exact .pure trivial
          · next hgone =>
            have hk₃ : (k₂.add (.exists d.device_path) found).finding key = .gone d := by
              rw [finding_add, hk₂]
              exact if_pos ⟨rfl, hgone⟩
            refine (cares_quit (hr d rfl) (.inr (hk₃ ▸ trivial))).bind fun _ k₄ hk₄ => ?_
            refine cares_issue (.inr (.inl ?_)) fun _ _ => trivial
            rw [hk₄ (hk₃ ▸ trivial), hk₃]
            exact trivial

theorem cares_gcOrphanDaemons (current_key : String) :
    Cares b k (gcOrphanDaemons current_key) Any := by
  have hloop : ∀ (entries : List String) (k : Transcript),
      Cares b k (gcEntries current_key entries) Any := by
    intro entries
    induction entries with
    | nil => exact fun _ => .pure trivial
    | cons entry_key entries ih =>
        intro k
        rw [gcEntries]
        split
        · exact ih k
        · exact cares_gcEntry.bind fun _ k' _ => ih k'
  exact cares_issue_bind (c := .listdir) trivial fun entries _ => hloop entries _

/-- The daemon that `_ensure_qemu_daemon` returns is alive and on record, as far as the call knows. -/
def Ready (key : String) (r : Ensured) (k : Transcript) : Prop :=
  ∀ d, r = some (some d) → Owns key d ∧ k.finding key = .serving d

theorem ready_none : Ready key none k := fun _ h => by cases h

theorem ready_some_none : Ready key (some none) k := fun _ h => by cases h

theorem ready_some (hown : Owns key d) (hk : k.finding key = .serving d) :
    Ready key (some (some d)) k := fun d' hd' => by
  cases hd'
  exact ⟨hown, hk⟩

/-- The first record of a daemon, or a new one. -/
theorem cares_saveMetadata (hown : Owns key d)
    (hk : k.finding key = .started d.pid ∨ ∃ d', k.finding key = .serving d' ∧ d'.pid = d.pid) :
    Cares b k (saveMetadata key d) fun saved k' =>
      saved = true → k.finding key = .started d.pid → k'.finding key = .serving d := by
  refine cares_issue_bind (c := .openForWriting key) ?_ fun opened _ => ?_
  · rcases hk with hk | ⟨d', hk, _⟩
    · exact .inl ⟨_, hk⟩
    · exact .inr ⟨d', hk⟩
  · cases opened with
    | false => exact .pure (fun h => by cases h)
    | true =>
        have htorn : (k.add (.openForWriting key) true).finding key = (k.finding key).torn :=
          if_pos rfl
        refine cares_issue_bind (c := .dump key d) ⟨hown.1, hown.2, ?_⟩ fun _ _ => .pure fun _ hk => ?_
        · rw [htorn]
          rcases hk with hk | ⟨d', hk, hpid⟩
          · rw [hk]
            exact .inl rfl
          · rw [hk]
            exact .inr ⟨d', rfl, hpid⟩
        · refine (if_pos rfl : _ = Finding.dumped d _).trans ?_
          rw [htorn, hk]
          rfl

theorem cares_create (device_path : String) : Cares b k (create key device_path) fun r k' =>
    ∀ d, r = some d → Owns key d ∧ k'.finding key = .started d.pid := by
  refine cares_issue_bind (c := .spawnDaemon key) trivial fun r _ => .pure fun d hd => ?_
  cases r with
  | none => cases hd
  | some pid =>
      cases hd
      exact ⟨⟨rfl, rfl⟩, if_pos rfl⟩

theorem cares_spawnRegistered (device_path : String) :
    Cares b k (spawnRegistered key device_path) (Ready key) := by
  refine (cares_create device_path).bind fun r k₁ hr => ?_
  cases r with
  | none => exact .pure ready_some_none
  | some d =>
      obtain ⟨hown, hk₁⟩ := hr d rfl
      refine (cares_saveMetadata hown (.inl hk₁)).bind fun saved k₂ hk₂ => ?_
      cases saved with
      | false => exact .pure ready_some_none
      | true => exact .pure (ready_some hown (hk₂ rfl hk₁))

/-- `quit` and `remove_metadata`, and then the script goes on. -/
theorem cares_clear (hown : Owns key d) (hmay : MayClear b key k) {f : Unit → Script β}
    {Q : β → Transcript → Prop} (hf : ∀ u k', Cares b k' (f u) Q) :
    Cares b k (do quit d; let u ← removeMetadata key; f u) Q := by
  refine (cares_quit hown hmay).bind fun _ k₁ h₁ => ?_
  refine cares_issue_bind (c := .remove key) ?_ fun u _ => hf u _
  exact (hmay.lasts h₁).imp id .inl

theorem cares_ensureQemuDaemon (device_path : String) :
    Cares b k (ensureQemuDaemon key device_path) (Ready key) := by
  refine (cares_gcOrphanDaemons key).bind fun _ k₁ _ => ?_
  refine cares_loadMetadata.bind fun r k₂ hr => ?_
  obtain ⟨hk₂, hr⟩ := hr
  cases r with
  | unreadable => exact .pure ready_none
  | missing => exact cares_spawnRegistered device_path
  | found existing =>
      refine (cares_isAlive_loaded hk₂).bind fun alive k₃ hk₃ => ?_
      cases alive with
      | true => exact .pure (ready_some (hr existing rfl) hk₃)
      | false =>
          exact cares_clear (hr existing rfl) (.inr (hk₃ ▸ trivial)) fun _ _ =>
            cares_spawnRegistered device_path

/-- `detach` and `close` are there to stop the daemon. -/
theorem cares_stopDaemon : Cares true k (stopDaemon key) Any := by
  refine cares_loadMetadata.bind fun r k₁ hr => ?_
  cases r with
  | unreadable => exact .pure trivial
  | missing => exact .pure trivial
  | found d => exact cares_clear (hr.2 d rfl) (.inl rfl) fun _ _ => .pure trivial

theorem cares_startProxy (hown : Owns key d) (hk : k.finding key = .serving d) :
    Cares b k (startProxy key d) Any := by
  refine cares_issue_bind (c := .spawnProxy key) trivial fun r _ => ?_
  cases r with
  | none => exact .pure trivial
  | some proxy_pid =>
      have hown' : Owns key { d with
          scm_proxy_pid := some proxy_pid, scm_sock_path := some (scmPath key) } := hown
      have hk' : (k.add (.spawnProxy key) (some proxy_pid)).finding key = .serving d := hk
      refine (cares_saveMetadata hown' (.inr ⟨d, hk', rfl⟩)).bind fun saved _ _ => ?_
      cases saved <;> exact .pure trivial

theorem cares_importFresh (device_path : String) :
    Cares b k (importFresh key device_path) Any := by
  refine (cares_ensureQemuDaemon device_path).bind fun r k₁ hr => ?_
  rcases r with _ | _ | d
  · exact .pure trivial
  · exact .pure trivial
  · obtain ⟨hown, hk⟩ := hr d rfl
    exact cares_startProxy hown hk

theorem cares_reusableProxy : Cares b k (reusableProxy d) Any := by
  rw [reusableProxy]
  split
  · refine (cares_isAlive _).bind fun alive _ _ => ?_
    cases alive <;> exact .pure trivial
  · exact .pure trivial

/-! ### The calls -/

/-- The call is there to stop the daemon of a device. -/
def Call.stops : Call → Bool
  | .detach _ _ => true
  | .close _ => true
  | _ => false

section

variable (E : Env)

/-- The key of the device that a call attaches. -/
def Call.attaches : Call → Option String
  | .attach uri _ => (parseUri uri).map E.deviceKey
  | _ => none

/-- The daemon with which a call answers is alive and on record, as far as the call knows. -/
def Call.Settles (c : Call) (a : Answer) (k : Transcript) : Prop :=
  ∀ d, a = .attached (some d) → ∀ key, c.attaches E = some key →
    Owns key d ∧ k.finding key = .serving d

theorem cares_attach (uri domain : String) :
    Cares false k (attach E uri) (Call.Settles E (.attach uri domain)) := by
  rw [attach]
  cases hpath : parseUri uri with
  | none => exact .pure fun _ h => by cases h
  | some device_path =>
      refine cares_issue_bind (c := .exists device_path) trivial fun found _ => ?_
      split
      · refine (cares_ensureQemuDaemon device_path).bind fun r k₂ hr => ?_
        cases r with
        | none => exact .pure fun _ h => by cases h
        | some r =>
            refine .pure fun d hd key hkey => ?_
            rw [Call.attaches, hpath] at hkey
            cases hd
            cases hkey
            exact hr d rfl
      · exact .pure fun _ h => by cases h

theorem cares_importActivate (uri : String) : Cares false k (importActivate E uri) Any := by
  rw [importActivate]
  cases parseUri uri with
  | none => exact .pure trivial
  | some device_path =>
      refine cares_issue_bind (c := .exists device_path) trivial fun found _ => ?_
      split
      · refine cares_loadMetadata.bind fun r k₂ hr => ?_
        obtain ⟨hk₂, hr⟩ := hr
        cases r with
        | unreadable => exact .pure trivial
        | missing => exact cares_importFresh device_path
        | found existing =>
            refine (cares_isAlive_loaded hk₂).bind fun alive k₃ hk₃ => ?_
            cases alive with
            | false =>
                exact cares_clear (hr existing rfl) (.inr (hk₃ ▸ trivial)) fun _ _ =>
                  cares_importFresh device_path
            | true =>
                refine cares_reusableProxy.bind fun path k₄ _ => ?_
                cases path with
                | none => exact cares_importFresh device_path
                | some path => exact .pure trivial
      · exact .pure trivial

/-- **All calls are legal**, and only `detach` and `close` stop a daemon that they have not found stale. -/
theorem cares_script (c : Call) : Cares c.stops k (c.script E) (c.Settles E) := by
  have hother : ∀ {p : Script Answer}, c.attaches E = none → Cares c.stops k p Any →
      Cares c.stops k p (c.Settles E) := fun hc hp => hp.mono fun _ _ _ _ _ key hkey => by
    rw [hc] at hkey
    cases hkey
  cases c with
  | attach uri domain => exact cares_attach E uri domain
  | activate uri domain =>
      refine hother rfl ?_
      rw [Call.script, activate]
      cases parseUri uri with
      | none => exact .pure trivial
      | some device_path =>
          refine cares_issue_bind (c := .exists device_path) trivial fun found _ => ?_
          split
          · exact cares_loadMetadata.bind fun _ _ _ => .pure trivial
          · exact .pure trivial
  | deactivate uri domain =>
      refine hother rfl ?_
      rw [Call.script, deactivate]
      cases parseUri uri with
      | none => exact .pure trivial
      | some device_path => exact cares_loadMetadata.bind fun _ _ _ => .pure trivial
  | detach uri domain =>
      refine hother rfl ?_
      rw [Call.script, detach]
      cases parseUri uri with
      | none => exact .pure trivial
      | some device_path => exact cares_stopDaemon
  | importActivate uri domain => exact hother rfl (cares_importActivate E uri)
  | close uri =>
      refine hother rfl ?_
      rw [Call.script, close]
      cases parseUri uri with
      | none => exact .pure trivial
      | some device_path => exact cares_stopDaemon

end

/-! ### How a call comes by a finding -/

variable {c : Command} {h h' : Host} {choice : ℕ}

namespace Finding

@[simp] theorem pid?_probed (f : Finding) (pid : ℕ) (alive : Bool) :
    (f.probed pid alive).pid? = f.pid? := by
  cases f <;> try rfl
  simp only [probed]
  split
  · cases alive <;> rfl
  · rfl

@[simp] theorem pid?_looked (f : Finding) (path : String) (found : Bool) :
    (f.looked path found).pid? = f.pid? := by
  cases f <;> try rfl
  simp only [looked]
  split <;> rfl

@[simp] theorem pid?_torn (f : Finding) : f.torn.pid? = f.pid? := by cases f <;> rfl

/-- A call knows the pid of a daemon from a reply, or from before. -/
theorem pid?_after {f : Finding} {r : Reply c} {pid : ℕ} (hr : (caring b).told c r)
    (hc : ∀ d, c = .dump key d → f.pid? = some d.pid)
    (hpid : (f.after key c r).pid? = some pid) :
    f.pid? = some pid ∨ (pid, Process.daemon key) ∈ told c r := by
  cases c with
  | load key' =>
      simp only [after] at hpid
      split at hpid
      · next heq =>
        subst heq
        cases (r : Loaded) with
        | missing => cases hpid
        | unreadable => cases hpid
        | found d =>
            cases hpid
            exact .inr (List.mem_cons.2 (.inl (by rw [hr.1])))
      · exact .inl hpid
  | probe pid' => exact .inl ((f.pid?_probed pid' r).symm.trans hpid)
  | «exists» path => exact .inl ((f.pid?_looked path r).symm.trans hpid)
  | spawnDaemon key' =>
      cases (r : Option ℕ) with
      | none => exact .inl hpid
      | some pid' =>
          simp only [after] at hpid
          split at hpid
          · next heq =>
            subst heq
            cases hpid
            exact .inr (List.mem_singleton.2 rfl)
          · exact .inl hpid
  | openForWriting key' =>
      cases (r : Bool) with
      | false => exact .inl hpid
      | true =>
          simp only [after] at hpid
          split at hpid
          · exact .inl (by simpa using hpid)
          · exact .inl hpid
  | dump key' d =>
      simp only [after] at hpid
      split at hpid
      · next heq =>
        subst heq
        refine .inl ((hc d rfl).trans ?_)
        cases f <;> first | exact hpid | exact (hc d rfl).symm.trans hpid
      · exact .inl hpid
  | remove key' =>
      simp only [after] at hpid
      split at hpid
      · cases hpid
      · exact .inl hpid
  | listdir => exact .inl hpid
  | kill pid' signal meant => exact .inl hpid
  | qmpQuit sock => exact .inl hpid
  | spawnProxy key' => exact .inl hpid

/-- A daemon that a call has found dead was dead. -/
theorem dead_after {f : Finding} {r : Reply c} (hexec : exec c choice h = some (r, h'))
    (hd : f.after key c r = .dead d) : f = .dead d ∨ h.procs.get? d.pid = none ∧ h' = h := by
  cases c with
  | load key' =>
      simp only [after] at hd
      split at hd
      · cases (r : Loaded) <;> cases hd
      · exact .inl hd
  | probe pid =>
      cases hexec
      cases f <;> first | exact .inl hd | skip
      simp only [after, probed] at hd
      split at hd
      · next heq =>
        split at hd
        · cases hd
        · next hnone =>
          cases hd
          exact .inr ⟨by simpa [heq] using hnone, rfl⟩
      · cases hd
  | «exists» path =>
      cases f <;> first | exact .inl hd | skip
      simp only [after, looked] at hd
      split at hd <;> cases hd
  | spawnDaemon key' =>
      cases (r : Option ℕ) with
      | none => exact .inl hd
      | some pid' =>
          simp only [after] at hd
          split at hd
          · cases hd
          · exact .inl hd
  | openForWriting key' =>
      cases (r : Bool) with
      | false => exact .inl hd
      | true =>
          simp only [after] at hd
          split at hd
          · cases f <;> first | exact .inl hd | cases hd
          · exact .inl hd
  | dump key' d' =>
      simp only [after] at hd
      split at hd
      · cases f <;> first | exact .inl hd | cases hd
      · exact .inl hd
  | remove key' =>
      simp only [after] at hd
      split at hd
      · cases hd
      · exact .inl hd
  | listdir => exact .inl hd
  | kill pid' signal meant => exact .inl hd
  | qmpQuit sock => exact .inl hd
  | spawnProxy key' => exact .inl hd

end Finding

end Datapath

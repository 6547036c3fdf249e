/-
**A daemon and its users** (`src/datapath/datapath.py`).

The daemon of a device serves everyone who attaches the device.  The registry tells a later attach that
there is one already, and nothing tells how many use it: a detach stops it for all.  And what a call has
read of the registry may be outdated when it acts: a sweep stops a daemon whose zvol it has found missing
and which is back, and a call that has found a daemon dead clears away what has been started in its place.

Main definitions:

* `Datapath.Watch` — the system, with the attachments that ought to have a daemon;
* `Datapath.Watch.Outlives` — they have it;
* `Datapath.Considerate` — no call acts on the daemon of a device that others use on an outdated reading,
  or although it needs the device for itself.

Main results:

* `Datapath.untouched` — **a polite call leaves the daemons alone that others use**;
* `Datapath.Tended.next` — the invariant of considerate runs;
* `Datapath.outlives_of_considerate` — **a daemon outlives its users in every considerate run**;
* `Datapath.not_outlives_shared` — the second of two domains detaches, and the first has no daemon.
-/

import ZfsLive.DatapathFindings

set_option relaxedAutoImplicit false
set_option autoImplicit false

namespace Datapath

open Tasks

variable {k : Transcript} {d : QemuDiskRaw} {key : String} {b : Bool}

/-! ### The users of a daemon -/

/-- The system, with what can be seen of it from outside. -/
structure Watch where
  system : System
  /-- The attachments whose zvol has existed ever since, and whose daemon has not crashed. -/
  kept : List Attachment
  /-- The pids of the processes that have exited by themselves, until they are given away again. -/
  crashed : List ℕ

/-- The process that exits by itself. -/
def Event.crashes (h : Host) : Event → List ℕ
  | .exit pid => if (h.procs.get? pid).isSome then [pid] else []
  | _ => []

/-- What is attached after an event. -/
def Event.attachments (s : System) (held : List Attachment) : Event → List Attachment
  | .start c => c.giveUp held
  | .answer i =>
      match s.calls[i]? with
      | some ⟨c, ⟨_, .done a⟩⟩ => c.settle held a
      | _ => held
  | _ => held

/-- These are the attachments of the system. -/
theorem attached_next {E : Env} {s s' : System} {e : Event} (hnext : s.next E e = some s') :
    s'.attached = e.attachments s s.attached := by
  cases e with
  | answer i =>
      simp only [System.next, Option.bind_eq_bind, Option.bind_eq_some_iff] at hnext
      obtain ⟨⟨call, k, prog⟩, hw, hanswer⟩ := hnext
      cases prog with
      | cmd c next => cases hanswer
      | done a =>
          cases hanswer
          simp [Event.attachments, hw]
  | step i choice =>
      simp only [System.next, System.step, Option.bind_eq_bind, Option.bind_eq_some_iff,
        Option.pure_def, Option.some.injEq] at hnext
      obtain ⟨w, _, task, _, rfl⟩ := hnext
      rfl
  | start c => cases hnext; rfl
  | exit pid => cases hnext; rfl
  | reuse pid =>
      rw [System.next] at hnext
      split at hnext
      · cases hnext
        rfl
      · cases hnext
  | device path present => cases hnext; rfl

/-- The zvol of the attached device exists. -/
def Attachment.zvolExists (h : Host) (a : Attachment) : Bool := (parseUri a.uri).any h.devices

def Watch.next (E : Env) (s : Watch) (e : Event) : Option Watch :=
  (s.system.next E e).map fun system =>
    let crashed := e.crashes s.system.host ++ s.crashed.filter fun pid => e.given s.system ≠ some pid
    { system := system
      kept := (e.attachments s.system s.kept).filter fun a =>
        a.zvolExists system.host ∧ a.daemon.pid ∉ crashed
      crashed := crashed }

def Watch.run (E : Env) (s : Watch) : List Event → Option Watch
  | [] => some s
  | e :: es => (s.next E e).bind fun s' => s'.run E es

/-- Nothing is attached yet. -/
def System.watch (s : System) : Watch := ⟨s, [], []⟩

def Running (h : Host) (key : String) (pid : ℕ) : Prop := h.procs.get? pid = some (.daemon key)

instance (h : Host) (key : String) (pid : ℕ) : Decidable (Running h key pid) :=
  inferInstanceAs (Decidable (_ = _))

/-- The daemon is running, and the registry has it. -/
def Served (h : Host) (d : QemuDiskRaw) : Prop :=
  Running h d.key d.pid ∧ ∃ d', h.registry.get? d.key = some (.saved d') ∧ d'.pid = d.pid ∧
    d'.nbd_unix_sock = d.nbd_unix_sock

/-- **Every attachment has the daemon that it was given**, unless its zvol has been away or the daemon has
crashed. -/
def Watch.Outlives (s : Watch) : Prop := ∀ a ∈ s.kept, Served s.system.host a.daemon

/-! ### Considerate calls -/

/-- The command stops the daemon of a device, or changes its record. -/
def Command.touches (key : String) : Command → Bool
  | .qmpQuit sock => sock = qmpSock key
  | .kill _ _ meant => meant = .daemon key
  | .remove key' => key' = key
  | .openForWriting key' => key' = key
  | .dump key' _ => key' = key
  | _ => false

/-- A call with this finding stops a live daemon, or rewrites its record. -/
def Finding.exclusive : Finding → Bool
  | gone _ => true
  | serving _ => true
  | _ => false

namespace Working

/-- The call is about to stop the daemon of a device, or to change its record. -/
def touches (key : String) (w : Working) : Bool :=
  match w.task.prog with
  | .cmd c _ => c.touches key
  | .done _ => false

/-- The call attaches the device, and has started a daemon, which runs, and not registered it yet. -/
def starting (E : Env) (h : Host) (key : String) (w : Working) : Bool :=
  w.call.attaches E = some key &&
    match w.task.knows.finding key with
    | .started pid => Running h key pid
    | .opened pid => Running h key pid
    | _ => false

end Working

/-- The devices that others than the `i`-th call use: they are attached, or being attached. -/
def Watch.users (E : Env) (s : Watch) (i : ℕ) : List String :=
  s.kept.map (fun a => a.daemon.key) ++
    (s.system.calls.eraseIdx i).filterMap fun w => w.call.attaches E

/-- A call that acts on the daemon of a device that others use is no detach and no close, has not found
the zvol missing, and does not rewrite a record; the record is still as it has found it; and no attach
is between starting a daemon for the device and registering it. -/
def Watch.Polite (E : Env) (s : Watch) (i : ℕ) (w : Working) (key : String) : Prop :=
  w.call.stops = false ∧ (w.task.knows.finding key).exclusive = false ∧
    s.system.host.registry.get? key = (w.task.knows.finding key).entry ∧
    ∀ v ∈ s.system.calls.eraseIdx i, v.starting E s.system.host key = false

/-- The call that acts. -/
def Event.actor : Event → Option ℕ
  | .step i _ => some i
  | _ => none

/-- The event spares the pids on record, and the call that acts is polite. -/
def Considerate (E : Env) (s : Watch) (e : Event) : Prop :=
  Spares s.system e ∧ ∀ i ∈ e.actor, ∀ w ∈ s.system.calls[i]?, ∀ key ∈ s.users E i,
    w.touches key = true → s.Polite E i w key

/-- All events of a run are considerate. -/
def ConsiderateRun (E : Env) (s : Watch) : List Event → Prop
  | [] => True
  | e :: es => Considerate E s e ∧ (s.next E e).elim True fun s' => ConsiderateRun E s' es

instance (E : Env) (s : Watch) (i : ℕ) (w : Working) (key : String) :
    Decidable (s.Polite E i w key) :=
  inferInstanceAs (Decidable (_ ∧ _))

instance (E : Env) (s : Watch) (e : Event) : Decidable (Considerate E s e) :=
  inferInstanceAs (Decidable (_ ∧ _))

instance decidableConsiderateRun (E : Env) :
    (s : Watch) → (es : List Event) → Decidable (ConsiderateRun E s es)
  | _, [] => .isTrue trivial
  | s, e :: es =>
      match h : s.next E e with
      | none => decidable_of_iff (Considerate E s e) (by simp [ConsiderateRun, h])
      | some s' =>
          have := decidableConsiderateRun E s' es
          decidable_of_iff (Considerate E s e ∧ ConsiderateRun E s' es) (by simp [ConsiderateRun, h])

/-! ### What a command leaves alone -/

variable {E : Env} {h h' : Host} {s s' : Watch} {c : Command} {choice i : ℕ} {w v : Working}

theorem qmpSock_inj {key key' : String} (h : qmpSock key = qmpSock key') : key = key' := by
  have hlist := congrArg String.toList h
  simp only [qmpSock, String.toList_append, List.append_cancel_left_eq] at hlist
  exact String.toList_inj.1 hlist

/-- A daemon that a command does not touch is running afterwards. -/
theorem Running.effect {pid : ℕ} (hrun : Running h key pid) (he : Effect choice h c h')
    (hV : Valid k h) (hmay : signalling.may k c) (hc : c.touches key = false) :
    Running h' key pid := by
  have hother : ∀ pid', h.procs.get? pid' ≠ some (.daemon key) → pid ≠ pid' := by
    rintro pid' hne rfl
    exact hne hrun
  cases he with
  | idle => exact hrun
  | tear => exact hrun
  | dump => exact hrun
  | remove => exact hrun
  | signal => exact hrun
  | @kill pid' signal meant p hp =>
      have hne : pid ≠ pid' := by
        refine hother pid' fun heq => ?_
        exact of_decide_eq_false hc (hV.2 _ hmay.1 _ heq).symm
      exact (Dict.get?_erase ..).trans ((if_neg hne).trans hrun)
  | @qmpQuit pid' key' hp =>
      have hne : pid ≠ pid' := by
        refine hother pid' fun heq => ?_
        cases hp.symm.trans heq
        simp [Command.touches] at hc
      exact (Dict.get?_erase ..).trans ((if_neg hne).trans hrun)
  | @spawnDaemon pid' key' _ hfree _ =>
      have hne : pid ≠ pid' := hother pid' (by simp [hfree])
      exact (Dict.get?_set ..).trans ((if_neg hne).trans hrun)
  | @spawnProxy pid' key' hfree _ =>
      have hne : pid ≠ pid' := hother pid' (by simp [hfree])
      exact (Dict.get?_set ..).trans ((if_neg hne).trans hrun)

/-- So is its record. -/
theorem Effect.registry (he : Effect choice h c h') (hc : c.touches key = false) :
    h'.registry.get? key = h.registry.get? key := by
  cases he with
  | idle => rfl
  | tear key' => exact (Dict.get?_set ..).trans (if_neg fun heq => by simp [Command.touches, heq] at hc)
  | dump key' d => exact (Dict.get?_set ..).trans (if_neg fun heq => by simp [Command.touches, heq] at hc)
  | remove key' => exact (Dict.get?_erase ..).trans (if_neg fun heq => by simp [Command.touches, heq] at hc)
  | signal => rfl
  | kill => rfl
  | qmpQuit => rfl
  | spawnDaemon => rfl
  | spawnProxy => rfl

/-- A pid that is not given away belongs to whom it has belonged to. -/
theorem Effect.procs {pid : ℕ} {p : Process} (he : Effect choice h c h')
    (hgiven : c.given choice ≠ some pid) (hp : h'.procs.get? pid = some p) :
    h.procs.get? pid = some p := by
  cases he with
  | idle => exact hp
  | tear => exact hp
  | dump => exact hp
  | remove => exact hp
  | signal => exact hp
  | kill =>
      rw [Host.leave, Dict.get?_erase] at hp
      split at hp
      · cases hp
      · exact hp
  | qmpQuit =>
      rw [Host.leave, Dict.get?_erase] at hp
      split at hp
      · cases hp
      · exact hp
  | spawnDaemon _ _ hchoice =>
      subst hchoice
      rw [Host.enter, Dict.get?_set, if_neg fun heq => hgiven (by rw [heq]; rfl)] at hp
      exact hp
  | spawnProxy _ hchoice =>
      subst hchoice
      rw [Host.enter, Dict.get?_set, if_neg fun heq => hgiven (by rw [heq]; rfl)] at hp
      exact hp

/-! ### The invariant -/

/-- The daemon is running, and the registry has this very record. -/
def OnRecord (h : Host) (d : QemuDiskRaw) : Prop :=
  Running h d.key d.pid ∧ h.registry.get? d.key = some (.saved d)

theorem OnRecord.served (hd : OnRecord h d) : Served h d := ⟨hd.1, d, hd.2, rfl, rfl⟩

/-- What an attach may rely on, as far as its daemon has not crashed. -/
def Relies (crashed : List ℕ) (h : Host) (key : String) : Finding → Prop
  | .loaded d => Running h key d.pid → h.registry.get? key = some (.saved d)
  | .serving d => d.pid ∉ crashed → Running h key d.pid ∧ h.registry.get? key = some (.saved d)
  | .started pid => pid ∉ crashed → Running h key pid
  | .opened pid => pid ∉ crashed → Running h key pid ∧ h.registry.get? key = some .torn
  | _ => True

/-- The finding is about a daemon that is running. -/
def Finding.Tenant (h : Host) (key : String) : Finding → Prop
  | loaded d => Running h key d.pid ∧ h.registry.get? key = some (.saved d)
  | serving d => Running h key d.pid ∧ h.registry.get? key = some (.saved d)
  | started pid => Running h key pid
  | opened pid => Running h key pid
  | _ => False

/-- A change of the host that leaves alone what an attach relies on. -/
theorem Relies.of_host {f : Finding} {crashed crashed' : List ℕ} (hf : Relies crashed h key f)
    (hcrashed : ∀ pid, f.pid? = some pid → pid ∈ crashed → pid ∈ crashed')
    (hback : ∀ pid, f.pid? = some pid → Running h' key pid → Running h key pid)
    (hquiet : f.Tenant h key → h'.registry.get? key = h.registry.get? key ∧
      ∀ pid, pid ∉ crashed' → Running h key pid → Running h' key pid) :
    Relies crashed' h' key f := by
  cases f with
  | loaded d =>
      intro hrun'
      have hrun := hback d.pid rfl hrun'
      exact (hquiet ⟨hrun, hf hrun⟩).1.trans (hf hrun)
  | serving d =>
      intro hpid
      have hd := hf fun hmem => hpid (hcrashed d.pid rfl hmem)
      obtain ⟨hreg, hrun⟩ := hquiet hd
      exact ⟨hrun d.pid hpid hd.1, hreg.trans hd.2⟩
  | started pid =>
      intro hpid
      have hrun := hf fun hmem => hpid (hcrashed pid rfl hmem)
      exact (hquiet hrun).2 pid hpid hrun
  | opened pid =>
      intro hpid
      have hd := hf fun hmem => hpid (hcrashed pid rfl hmem)
      obtain ⟨hreg, hrun⟩ := hquiet hd.1
      exact ⟨hrun pid hpid hd.1, hreg.trans hd.2⟩
  | nothing => exact trivial
  | unreadable => exact trivial
  | dead d => exact trivial
  | gone d => exact trivial
  | rewriting d => exact trivial

/-- What a call has found out holds, as far as it matters to the call. -/
structure Aware (E : Env) (crashed : List ℕ) (h : Host) (w : Working) : Prop where
  met : ∀ key pid, (w.task.knows.finding key).pid? = some pid → (pid, .daemon key) ∈ w.task.knows.met
  dead : ∀ key d, w.task.knows.finding key = .dead d → h.procs.get? d.pid = none
  relies : ∀ key, w.call.attaches E = some key → Relies crashed h key (w.task.knows.finding key)

/-- The invariant of considerate runs. -/
structure Tended (E : Env) (s : Watch) : Prop where
  sane : Sane s.system
  socks : ∀ key d, s.system.host.registry.get? key = some (.saved d) → d.qmp_sock = qmpSock key
  cares : ∀ w ∈ s.system.calls, Cares w.call.stops w.task.knows w.task.prog (w.call.Settles E)
  aware : ∀ w ∈ s.system.calls, Aware E s.crashed s.system.host w
  kept : ∀ a ∈ s.kept, OnRecord s.system.host a.daemon

/-- A call that clears a record away or writes one has found it dead or unreadable, or has opened or
started something itself, or acts on a live daemon. -/
theorem finding_of_touches (hmay : (caring false).may k c) (hc : c.touches key = true) :
    (k.finding key).exclusive = true ∨ (∃ d, k.finding key = .dead d) ∨
      ∀ d, (k.finding key).entry ≠ some (.saved d) := by
  have hstale : (k.finding key).Stale → (k.finding key).exclusive = true ∨
      (∃ d, k.finding key = .dead d) ∨ ∀ d, (k.finding key).entry ≠ some (.saved d) := by
    intro hstale
    cases hk : k.finding key <;> rw [hk] at hstale <;> first | exact hstale.elim | skip
    · exact .inr (.inl ⟨_, rfl⟩)
    · exact .inl rfl
  cases c with
  | qmpQuit sock =>
      obtain h | ⟨key', hsock, h⟩ := hmay
      · cases h
      · obtain rfl := qmpSock_inj ((of_decide_eq_true hc).symm.trans hsock)
        exact hstale h
  | kill pid signal meant =>
      obtain rfl := of_decide_eq_true hc
      obtain h | h := hmay
      · cases h
      · exact hstale h
  | remove key' =>
      obtain rfl := of_decide_eq_true hc
      obtain h | h | h := hmay
      · cases h
      · exact hstale h
      · rw [h]
        exact .inr (.inr fun d hd => by cases hd)
  | openForWriting key' =>
      obtain rfl := of_decide_eq_true hc
      obtain ⟨pid, h⟩ | ⟨d, h⟩ := hmay <;> rw [h]
      · exact .inr (.inr fun d hd => by cases hd)
      · exact .inl rfl
  | dump key' d =>
      obtain rfl := of_decide_eq_true hc
      obtain ⟨_, _, h | ⟨d', h, _⟩⟩ := hmay <;> rw [h]
      · exact .inr (.inr fun d hd => by cases hd)
      · exact .inr (.inr fun d hd => by cases hd)
  | load key' => cases hc
  | listdir => cases hc
  | «exists» path => cases hc
  | probe pid => cases hc
  | spawnDaemon key' => cases hc
  | spawnProxy key' => cases hc

/-! ### A command of its own -/

/-- While an attach goes by a daemon that is running, it does not touch it but to register it. -/
theorem untouched_of_tenant (hmay : (caring false).may k c) (hf : (k.finding key).Tenant h key) :
    c.touches key = false ∨ c = .openForWriting key ∨ ∃ d, c = .dump key d := by
  have hfresh : ¬ (k.finding key).Stale := by
    intro hstale
    cases hk : k.finding key <;> rw [hk] at hf hstale <;> first | exact hstale | exact hf
  cases c with
  | qmpQuit sock =>
      refine .inl (decide_eq_false fun hsock => ?_)
      obtain h | ⟨key', hsock', h⟩ := hmay
      · cases h
      · obtain rfl := qmpSock_inj (hsock.symm.trans hsock')
        exact hfresh h
  | kill pid signal meant =>
      refine .inl (decide_eq_false fun hmeant => ?_)
      subst hmeant
      obtain h | h := hmay
      · cases h
      · exact hfresh h
  | remove key' =>
      refine .inl (decide_eq_false fun heq => ?_)
      subst heq
      obtain h | h | h := hmay
      · cases h
      · exact hfresh h
      · rw [h] at hf
        exact hf
  | openForWriting key' =>
      by_cases heq : key' = key
      · exact .inr (.inl (by rw [heq]))
      · exact .inl (decide_eq_false heq)
  | dump key' d =>
      by_cases heq : key' = key
      · exact .inr (.inr ⟨d, by rw [heq]⟩)
      · exact .inl (decide_eq_false heq)
  | load key' => exact .inl rfl
  | listdir => exact .inl rfl
  | «exists» path => exact .inl rfl
  | probe pid => exact .inl rfl
  | spawnDaemon key' => exact .inl rfl
  | spawnProxy key' => exact .inl rfl

section

variable {crashed crashed' : List ℕ} {pid : ℕ} {f : Finding}

/-- A record that was just read is the one in the registry. -/
theorem relies_load {r : Loaded} (hexec : exec (.load key) choice h = some (r, h')) :
    Relies crashed h' key (.ofLoaded r) := by
  rw [exec] at hexec
  split at hexec <;> cases hexec
  · exact trivial
  · exact trivial
  · next hd => exact fun _ => hd

/-- A daemon that was just found alive runs. -/
theorem relies_probe (hf : Relies crashed h key (.loaded d)) (hright : Right h (d.pid, .daemon key)) :
    Relies crashed' h key (if (h.procs.get? d.pid).isSome then .serving d else .dead d) := by
  split
  · next hsome =>
    intro _
    obtain ⟨p, hp⟩ := Option.isSome_iff_exists.1 hsome
    obtain rfl := hright p hp
    exact ⟨hp, hf hp⟩
  · exact trivial

/-- So does a daemon that was just started. -/
theorem relies_spawnDaemon {r : Option ℕ} (hexec : exec (.spawnDaemon key) choice h = some (r, h'))
    (hr : r = some pid) : Relies crashed h' key (.started pid) := by
  have hexec : (if Process.daemon key ∈ h.procs.values ∧ choice ≠ 0 then none
      else spawn (.daemon key) choice h) = some ((r : Option ℕ), h') := hexec
  split at hexec
  · cases hexec
  · rcases spawn_eq hexec with ⟨hnone, _⟩ | ⟨pid', _, hsome, _, rfl⟩
    · cases hnone.symm.trans hr
    · cases hsome.symm.trans hr
      exact fun _ => (Dict.get?_set ..).trans (if_pos rfl)

/-- The record for it is torn while it is written. -/
theorem relies_openForWriting (hf : Relies crashed h key f)
    (hfound : (∃ pid, f = .started pid) ∨ ∃ d, f = .serving d)
    (hcrashed : ∀ pid, f.pid? = some pid → pid ∈ crashed → pid ∈ crashed')
    (hexec : exec (.openForWriting key) choice h = some (true, h')) :
    Relies crashed' h' key f.torn := by
  obtain ⟨pid, rfl⟩ | ⟨d, rfl⟩ := hfound
  · rw [exec] at hexec
    split at hexec <;> cases hexec
    exact fun hpid => ⟨hf fun hmem => hpid (hcrashed pid rfl hmem), (Dict.get?_set ..).trans (if_pos rfl)⟩
  · exact trivial

/-- And then the registry has it. -/
theorem relies_dump {r : Unit} (hf : Relies crashed h key f)
    (hfound : f = .opened d.pid ∨ ∃ d', f = .rewriting d' ∧ d'.pid = d.pid)
    (hcrashed : ∀ pid, f.pid? = some pid → pid ∈ crashed → pid ∈ crashed')
    (hexec : exec (.dump key d) choice h = some (r, h')) :
    Relies crashed' h' key (f.dumped d) := by
  obtain rfl | ⟨d', rfl, _⟩ := hfound
  · intro hpid
    obtain ⟨hrun, htorn⟩ := hf fun hmem => hpid (hcrashed d.pid rfl hmem)
    rw [exec, htorn] at hexec
    cases hexec
    exact ⟨hrun, (Dict.get?_set ..).trans (if_pos rfl)⟩
  · exact trivial

/-- **What an attach relies on still holds after a command of its own.** -/
theorem Relies.own {r : Reply c}
    (hf : Relies crashed h key (k.finding key)) (hexec : exec c choice h = some (r, h'))
    (hV : Valid k h) (hsig : signalling.may k c) (hmay : (caring false).may k c)
    (hmet : ∀ pid, (k.finding key).pid? = some pid → (pid, .daemon key) ∈ k.met)
    (hspare : ∀ pid, (pid, .daemon key) ∈ k.met → c.given choice ≠ some pid)
    (hcrashed : ∀ pid, (pid, .daemon key) ∈ k.met → pid ∈ crashed → pid ∈ crashed') :
    Relies crashed' h' key ((k.finding key).after key c r) := by
  have he := effect_of_exec hexec
  have hcrashed := fun pid hpid => hcrashed pid (hmet pid hpid)
  -- a command that tells nothing of the daemon leaves it alone
  have hstay : ((k.finding key).Tenant h key → c.touches key = false) →
      Relies crashed' h' key (k.finding key) := fun hquiet =>
    hf.of_host hcrashed (fun pid hpid hrun => he.procs (hspare pid (hmet pid hpid)) hrun)
      fun hten => ⟨he.registry (hquiet hten), fun pid _ hrun => hrun.effect he hV hsig (hquiet hten)⟩
  have hleft : (∀ key', c ≠ .openForWriting key') → (∀ key' d, c ≠ .dump key' d) →
      (k.finding key).Tenant h key → c.touches key = false := fun hopen hdump hten =>
    (untouched_of_tenant hmay hten).elim id fun h =>
      h.elim (fun h => absurd h (hopen key)) fun h => h.elim fun d h => absurd h (hdump key d)
  cases c with
  | load key' =>
      simp only [Finding.after]
      split
      · next heq =>
        subst heq
        exact relies_load hexec
      · exact hstay fun _ => rfl
  | probe pid =>
      have hstay := hstay fun _ => rfl
      cases hexec
      cases hk : k.finding key <;> rw [hk] at hf hstay hmet <;> first | exact hstay | skip
      simp only [Finding.after, Finding.probed]
      split
      · next hpid =>
        subst hpid
        exact relies_probe hf (hV.2 _ (hmet _ rfl))
      · exact hstay
  | «exists» path =>
      have hstay := hstay fun _ => rfl
      cases hk : k.finding key <;> rw [hk] at hstay <;> first | exact hstay | skip
      simp only [Finding.after, Finding.looked]
      split
      · exact trivial
      · exact hstay
  | spawnDaemon key' =>
      cases hr : (r : Option ℕ) with
      | none => exact hstay fun _ => rfl
      | some pid =>
          simp only [Finding.after]
          split
          · next heq =>
            subst heq
            exact relies_spawnDaemon hexec hr
          · exact hstay fun _ => rfl
  | openForWriting key' =>
      cases hr : (r : Bool) with
      | false =>
          rw [hr, exec] at hexec
          split at hexec <;> cases hexec
          exact hf.of_host hcrashed (fun _ _ h => h) fun _ => ⟨rfl, fun _ _ h => h⟩
      | true =>
          simp only [Finding.after]
          split
          · next heq =>
            subst heq
            exact relies_openForWriting hf hmay hcrashed (hr ▸ hexec)
          · next heq => exact hstay fun _ => decide_eq_false heq
  | dump key' d =>
      simp only [Finding.after]
      split
      · next heq =>
        subst heq
        exact relies_dump hf hmay.2.2 hcrashed hexec
      · next heq => exact hstay fun _ => decide_eq_false heq
  | remove key' =>
      simp only [Finding.after]
      split
      · exact trivial
      · next heq => exact hstay fun _ => decide_eq_false heq
  | listdir => exact hstay fun _ => rfl
  | kill pid signal meant => exact hstay (hleft (fun _ h => by cases h) fun _ _ h => by cases h)
  | qmpQuit sock => exact hstay (hleft (fun _ h => by cases h) fun _ _ h => by cases h)
  | spawnProxy key' => exact hstay fun _ => rfl

end

/-! ### One command -/

theorem step_cases {s s' : System} (hstep : s.step i choice = some s') :
    ∃ (w : Working) (c : Command) (next : Reply c → Script Answer) (r : Reply c) (host : Host),
      s.calls[i]? = some w ∧ w.task.prog = .cmd c next ∧ exec c choice s.host = some (r, host) ∧
        s' = { s with
          host := host
          calls := s.calls.set i { w with task := ⟨w.task.knows.add c r, next r⟩ } } := by
  simp only [System.step, Option.bind_eq_bind, Option.bind_eq_some_iff, Option.pure_def,
    Option.some.injEq] at hstep
  obtain ⟨w, hw, ⟨task, host⟩, hadv, rfl⟩ := hstep
  rw [advance] at hadv
  split at hadv
  · cases hadv
  · next c next hprog =>
    obtain ⟨⟨r, host'⟩, hexec, heq⟩ := Option.map_eq_some_iff.1 hadv
    cases heq
    exact ⟨w, c, next, r, host, hw, hprog, hexec, rfl⟩

/-- What the registry tells is as the discipline says. -/
theorem told_caring {r : Reply c} (hclean : Clean h)
    (hsocks : ∀ key d, h.registry.get? key = some (.saved d) → d.qmp_sock = qmpSock key)
    (hexec : exec c choice h = some (r, h')) : (caring b).told c r := by
  cases c with
  | load key =>
      rw [exec] at hexec
      split at hexec <;> cases hexec
      · exact trivial
      · exact trivial
      · next d hd => exact ⟨hclean.key key d hd, hsocks key d hd⟩
  | _ => exact trivial

/-- **A polite call leaves the daemons alone that others use.** -/
theorem untouched (ht : Tended E s) (hcon : Considerate E s (.step i choice))
    {next : Reply c → Script Answer} (hw : s.system.calls[i]? = some w)
    (hprog : w.task.prog = .cmd c next) (hkey : key ∈ s.users E i)
    (hused : (∃ d : QemuDiskRaw, Running s.system.host key d.pid ∧
        s.system.host.registry.get? key = some (.saved d)) ∨
      ∃ v ∈ s.system.calls.eraseIdx i, v.starting E s.system.host key = true) :
    c.touches key = false := by
  by_contra htouch
  have htouch : c.touches key = true := by simpa using htouch
  have hmem := List.mem_of_getElem? hw
  obtain ⟨hstop, hexcl, hentry, hstart⟩ :=
    hcon.2 i rfl w hw key hkey (by simpa [Working.touches, hprog] using htouch)
  obtain ⟨d, hrun, hreg⟩ | ⟨v, hv, hstarting⟩ := hused
  · have hcares := ht.cares w hmem
    rw [hprog, hstop] at hcares
    obtain h | ⟨d', hdead⟩ | hentry' := finding_of_touches hcares.1 htouch
    · exact absurd (h.symm.trans hexcl) (by simp)
    · rw [hdead] at hentry
      cases hentry.symm.trans hreg
      have hnone := (ht.aware w hmem).dead key d hdead
      rw [Running, hnone] at hrun
      cases hrun
    · exact hentry' d (hentry.symm.trans hreg)
  · exact absurd (hstarting.symm.trans (hstart v hv)) (by simp)

/-- What others rely on is in use. -/
theorem used_of_tenant (hv : v ∈ s.system.calls.eraseIdx i) (hkey : v.call.attaches E = some key)
    (hten : (v.task.knows.finding key).Tenant h key) :
    (∃ d : QemuDiskRaw, Running h key d.pid ∧ h.registry.get? key = some (.saved d)) ∨
      ∃ v ∈ s.system.calls.eraseIdx i, v.starting E h key = true := by
  cases hf : v.task.knows.finding key <;> rw [hf] at hten <;> first | exact hten.elim | skip
  · exact .inl ⟨_, hten⟩
  · exact .inl ⟨_, hten⟩
  · have hrun : Running h key _ := hten
    exact .inr ⟨v, hv, by simpa [Working.starting, hkey, hf] using hrun⟩
  · have hrun : Running h key _ := hten
    exact .inr ⟨v, hv, by simpa [Working.starting, hkey, hf] using hrun⟩

/-- A change of the host that leaves alone what a call knows. -/
theorem Aware.of_host {crashed crashed' : List ℕ} (hv : Aware E crashed h v)
    (hprocs : ∀ pid key p, (pid, Process.daemon key) ∈ v.task.knows.met →
      h'.procs.get? pid = some p → h.procs.get? pid = some p)
    (hcrashed : ∀ pid key, (pid, Process.daemon key) ∈ v.task.knows.met → pid ∈ crashed →
      pid ∈ crashed')
    (hquiet : ∀ key, v.call.attaches E = some key → (v.task.knows.finding key).Tenant h key →
      h'.registry.get? key = h.registry.get? key ∧
        ∀ pid, pid ∉ crashed' → Running h key pid → Running h' key pid) :
    Aware E crashed' h' v := by
  refine ⟨hv.met, fun key d hd => ?_, fun key hkey => ?_⟩
  · have hmet := hv.met key d.pid (by rw [hd]; rfl)
    cases hp : h'.procs.get? d.pid with
    | none => rfl
    | some p => exact (hprocs _ key p hmet hp).symm.trans (hv.dead key d hd)
  · exact (hv.relies key hkey).of_host (fun pid hpid => hcrashed pid key (hv.met key pid hpid))
      (fun pid hpid => hprocs pid key _ (hv.met key pid hpid)) (hquiet key hkey)

/-- A call knows more after a command of its own. -/
theorem Aware.own {crashed crashed' : List ℕ} {r : Reply c} {next : Reply c → Script Answer}
    (hw : Aware E crashed h w) (hexec : exec c choice h = some (r, h'))
    (hV : Valid w.task.knows h) (hsig : signalling.may w.task.knows c)
    (hmay : (caring w.call.stops).may w.task.knows c) (htold : (caring w.call.stops).told c r)
    (hspare : ∀ pid p, (pid, p) ∈ w.task.knows.met → c.given choice ≠ some pid)
    (hcrashed : ∀ pid p, (pid, p) ∈ w.task.knows.met → pid ∈ crashed → pid ∈ crashed') :
    Aware E crashed' h' { w with task := ⟨w.task.knows.add c r, next r⟩ } := by
  have he := effect_of_exec hexec
  refine ⟨fun key pid hpid => ?_, fun key d hd => ?_, fun key hkey => ?_⟩
  · have hdump : ∀ d, c = .dump key d → (w.task.knows.finding key).pid? = some d.pid := by
      rintro d rfl
      obtain ⟨_, _, hf | ⟨d', hf, hpid⟩⟩ := hmay
      · rw [hf]
        rfl
      · rw [hf]
        exact congrArg some hpid
    obtain h | h := Finding.pid?_after htold hdump hpid
    · exact List.mem_append_right _ (hw.met key pid h)
    · exact List.mem_append_left _ h
  · obtain h | ⟨hnone, rfl⟩ := Finding.dead_after hexec hd
    · have hmet := hw.met key d.pid (by rw [h]; rfl)
      cases hp : h'.procs.get? d.pid with
      | none => rfl
      | some p => exact (he.procs (hspare _ _ hmet) hp).symm.trans (hw.dead key d h)
    · exact hnone
  · have hstop : w.call.stops = false := by
      cases hcall : w.call <;> rw [hcall] at hkey <;> first | rfl | cases hkey
    rw [hstop] at hmay
    exact (hw.relies key hkey).own hexec hV hsig hmay (hw.met key)
      (fun pid hmet => hspare pid _ hmet) fun pid hmet => hcrashed pid _ hmet

/-! ### One event -/

/-- The pids that have crashed, after an event. -/
def Watch.crashedAfter (s : Watch) (e : Event) : List ℕ :=
  e.crashes s.system.host ++ s.crashed.filter fun pid => e.given s.system ≠ some pid

theorem next_eq {e : Event} (hnext : s.next E e = some s') :
    ∃ system, s.system.next E e = some system ∧
      s' = ⟨system, (e.attachments s.system s.kept).filter fun a =>
        a.zvolExists system.host ∧ a.daemon.pid ∉ s.crashedAfter e, s.crashedAfter e⟩ := by
  obtain ⟨system, hsys, rfl⟩ := Option.map_eq_some_iff.1 hnext
  exact ⟨system, hsys, rfl⟩

/-- A pid that has crashed and is on record stays so. -/
theorem mem_crashedAfter {e : Event} {pid : ℕ} (hspare : Spares s.system e)
    (hrec : pid ∈ s.system.onRecord) (hmem : pid ∈ s.crashed) : pid ∈ s.crashedAfter e := by
  refine List.mem_append_right _ (List.mem_filter.2 ⟨hmem, ?_⟩)
  exact decide_eq_true fun hgiven => hspare pid hgiven hrec

theorem onRecord_of_met {pid : ℕ} {p : Process} (hw : w ∈ s.system.calls)
    (hmet : (pid, p) ∈ w.task.knows.met) : pid ∈ s.system.onRecord :=
  System.mem_onRecord.2 (.inr ⟨w, hw, p, hmet⟩)

/-- A command of a call keeps the invariant. -/
theorem Tended.step (ht : Tended E s) (hcon : Considerate E s (.step i choice))
    (hnext : s.next E (.step i choice) = some s') : Tended E s' := by
  obtain ⟨system, hsys, rfl⟩ := next_eq hnext
  have hsane := ht.sane.next hcon.1 hsys
  obtain ⟨w, c, next, r, host, hw, hprog, hexec, rfl⟩ := step_cases hsys
  have hmem := List.mem_of_getElem? hw
  have he := effect_of_exec hexec
  obtain ⟨hV, hsig⟩ := ht.sane.2 w hmem
  rw [hprog] at hsig
  have hcares := ht.cares w hmem
  rw [hprog] at hcares
  have htold : (caring w.call.stops).told c r := told_caring ht.sane.1 ht.socks hexec
  have hgiven : ∀ pid ∈ s.system.onRecord, c.given choice ≠ some pid := by
    intro pid hrec hpid
    exact hcon.1 pid (by simp [Event.given, hw, hprog, hpid]) hrec
  -- the commands of the call leave alone what is in use
  have hquiet : ∀ key ∈ s.users E i, ((∃ d : QemuDiskRaw, Running s.system.host key d.pid ∧
        s.system.host.registry.get? key = some (.saved d)) ∨
      ∃ v ∈ s.system.calls.eraseIdx i, v.starting E s.system.host key = true) →
      host.registry.get? key = s.system.host.registry.get? key ∧
        ∀ pid, Running s.system.host key pid → Running host key pid := by
    intro key hkey hused
    have hc := untouched ht hcon hw hprog hkey hused
    exact ⟨he.registry hc, fun pid hrun => hrun.effect he hV hsig.1 hc⟩
  have hsplit : ∀ v ∈ s.system.calls.set i { w with task := ⟨w.task.knows.add c r, next r⟩ },
      v = { w with task := ⟨w.task.knows.add c r, next r⟩ } ∨ v ∈ s.system.calls.eraseIdx i := by
    intro v hv
    obtain ⟨j, hj⟩ := List.mem_iff_getElem?.1 hv
    rw [List.getElem?_set] at hj
    split at hj
    · split at hj
      · exact .inl (Option.some.inj hj).symm
      · cases hj
    · next hne => exact .inr (List.mem_eraseIdx_iff_getElem?.2 ⟨j, fun h => hne h.symm, hj⟩)
  refine ⟨hsane, fun key d hd => ?_, fun v hv => ?_, fun v hv => ?_, fun a ha => ?_⟩
  · rcases registry_effect he hd with hd | rfl
    · exact ht.socks key d hd
    · exact hcares.1.2.1
  · rcases hsplit v hv with rfl | hv
    · exact hcares.2 r htold
    · exact ht.cares v (List.mem_of_mem_eraseIdx hv)
  · rcases hsplit v hv with rfl | hv
    · exact (ht.aware w hmem).own hexec hV hsig.1 hcares.1 htold
        (fun pid p hmet => hgiven pid (onRecord_of_met hmem hmet))
        fun pid p hmet => mem_crashedAfter hcon.1 (onRecord_of_met hmem hmet)
    · have hmem' := List.mem_of_mem_eraseIdx hv
      refine (ht.aware v hmem').of_host
        (fun pid key p hmet => he.procs (hgiven pid (onRecord_of_met hmem' hmet)))
        (fun pid key hmet => mem_crashedAfter hcon.1 (onRecord_of_met hmem' hmet))
        fun key hkey hten => ?_
      have hused : key ∈ s.users E i :=
        List.mem_append_right _ (List.mem_filterMap.2 ⟨v, hv, hkey⟩)
      obtain ⟨hreg, hrun⟩ := hquiet key hused (used_of_tenant hv hkey hten)
      exact ⟨hreg, fun pid _ => hrun pid⟩
  · have ha := (List.mem_filter.1 ha).1
    have hd := ht.kept a ha
    have hused : a.daemon.key ∈ s.users E i := List.mem_append_left _ (List.mem_map.2 ⟨a, ha, rfl⟩)
    obtain ⟨hreg, hrun⟩ := hquiet _ hused (.inl ⟨a.daemon, hd⟩)
    exact ⟨hrun _ hd.1, hreg.trans hd.2⟩

/-- A change of the surroundings that leaves the registry alone, gives no pid on record away, and lets a
daemon exit only as a crash. -/
theorem Tended.of_host (ht : Tended E s) {host : Host} {kept : List Attachment} {crashed : List ℕ}
    (hsane : Sane { s.system with host := host })
    (hreg : host.registry = s.system.host.registry)
    (hprocs : ∀ pid ∈ s.system.onRecord, ∀ p, host.procs.get? pid = some p →
      s.system.host.procs.get? pid = some p)
    (hcrashed : ∀ pid ∈ s.system.onRecord, pid ∈ s.crashed → pid ∈ crashed)
    (hrun : ∀ key pid, pid ∉ crashed → Running s.system.host key pid → Running host key pid)
    (hkept : ∀ a ∈ kept, a ∈ s.kept ∧ a.daemon.pid ∉ crashed) :
    Tended E ⟨{ s.system with host := host }, kept, crashed⟩ := by
  refine ⟨hsane, fun key d hd => ht.socks key d (hreg ▸ hd), ht.cares, fun v hv => ?_, fun a ha => ?_⟩
  · refine (ht.aware v hv).of_host (fun pid key p hmet => hprocs pid (onRecord_of_met hv hmet) p)
      (fun pid key hmet => hcrashed pid (onRecord_of_met hv hmet)) fun key _ _ => ?_
    exact ⟨by rw [hreg], fun pid => hrun key pid⟩
  · obtain ⟨ha, hpid⟩ := hkept a ha
    have hd := ht.kept a ha
    exact ⟨hrun _ _ hpid hd.1, hreg ▸ hd.2⟩

theorem mem_giveUp {held : List Attachment} {a : Attachment} {c : Call} (ha : a ∈ c.giveUp held) :
    a ∈ held := by
  cases c with
  | detach uri domain => exact (List.mem_filter.1 ha).1
  | _ => exact ha

theorem mem_settle {held : List Attachment} {a : Attachment} {c : Call} {answer : Answer}
    (ha : a ∈ c.settle held answer) :
    a ∈ held ∨ answer = .attached (some a.daemon) ∧ c.attaches E = (parseUri a.uri).map E.deviceKey := by
  cases c with
  | attach uri domain =>
      cases answer with
      | attached d =>
          cases d with
          | none => exact .inl ha
          | some d =>
              rcases List.mem_cons.1 ha with rfl | ha
              · exact .inr ⟨rfl, rfl⟩
              · exact .inl ha
      | _ => exact .inl ha
  | _ => exact .inl ha

/-- A change of the calls, or of what is attached, keeps what the calls know. -/
theorem Aware.keep {e : Event} (hv : Aware E s.crashed s.system.host v) (hmem : v ∈ s.system.calls)
    (hspare : Spares s.system e) : Aware E (s.crashedAfter e) s.system.host v :=
  hv.of_host (fun _ _ _ _ hp => hp)
    (fun _ _ hmet => mem_crashedAfter hspare (onRecord_of_met hmem hmet))
    fun _ _ _ => ⟨rfl, fun _ _ hrun => hrun⟩

/-- So does a call that starts: it knows nothing. -/
theorem Tended.start {c : Call} (ht : Tended E s) (hcon : Considerate E s (.start c))
    (hnext : s.next E (.start c) = some s') : Tended E s' := by
  obtain ⟨system, hsys, rfl⟩ := next_eq hnext
  have hsane := ht.sane.next hcon.1 hsys
  cases hsys
  refine ⟨hsane, ht.socks, fun w hw => ?_, fun w hw => ?_, fun a ha => ?_⟩
  · rcases List.mem_append.1 hw with hw | hw
    · exact ht.cares w hw
    · obtain rfl := List.mem_singleton.1 hw
      exact cares_script E c
  · rcases List.mem_append.1 hw with hw | hw
    · exact (ht.aware w hw).keep hw hcon.1
    · obtain rfl := List.mem_singleton.1 hw
      exact ⟨fun _ _ h => (by cases h), fun _ _ h => (by cases h), fun _ _ => trivial⟩
  · exact ht.kept a (mem_giveUp (List.mem_filter.1 ha).1)

/-- The daemon that an attach answers with is running and on record, if it has not crashed. -/
theorem Tended.onRecord {answer : Answer} {a : Attachment} (ht : Tended E s)
    (hmem : w ∈ s.system.calls) (hdone : w.task.prog = .done answer)
    (hanswer : answer = .attached (some a.daemon)) (hattaches : w.call.attaches E = some key)
    (hpid : a.daemon.pid ∉ s.crashed) : OnRecord s.system.host a.daemon := by
  have hcares := ht.cares w hmem
  rw [hdone] at hcares
  obtain ⟨hown, hserving⟩ := hcares a.daemon hanswer key hattaches
  have hrelies := (ht.aware w hmem).relies key hattaches
  rw [hserving, ← hown.1] at hrelies
  exact hrelies hpid

/-- An answer keeps the invariant. -/
theorem Tended.answer (ht : Tended E s) (hcon : Considerate E s (.answer i))
    (hnext : s.next E (.answer i) = some s') : Tended E s' := by
  obtain ⟨system, hsys, rfl⟩ := next_eq hnext
  have hsane := ht.sane.next hcon.1 hsys
  simp only [System.next, Option.bind_eq_bind, Option.bind_eq_some_iff] at hsys
  obtain ⟨w, hw, hanswer⟩ := hsys
  split at hanswer
  · cases hanswer
  · next answer hdone =>
    cases hanswer
    have hmem := List.mem_of_getElem? hw
    refine ⟨hsane, ht.socks, fun v hv => ?_, fun v hv => ?_, fun a ha => ?_⟩
    · exact ht.cares v (List.mem_of_mem_eraseIdx hv)
    · have hv := List.mem_of_mem_eraseIdx hv
      exact (ht.aware v hv).keep hv hcon.1
    · obtain ⟨ha, hgood⟩ := List.mem_filter.1 ha
      obtain ⟨hzvol, hpid⟩ := of_decide_eq_true hgood
      have hattachments : (Event.answer i).attachments s.system s.kept =
          w.call.settle s.kept answer := by
        obtain ⟨call, k, prog⟩ := w
        cases hdone
        simp [Event.attachments, hw]
      rw [hattachments] at ha
      rcases mem_settle (E := E) ha with ha | ⟨hanswer, hattaches⟩
      · exact ht.kept a ha
      · obtain ⟨path, hpath, _⟩ := (Option.any_eq_true _ _).1 hzvol
        rw [hpath] at hattaches
        refine ht.onRecord hmem hdone hanswer hattaches fun hcrashed => hpid ?_
        exact List.mem_append_right _ (List.mem_filter.2 ⟨hcrashed, by simp [Event.given]⟩)

/-- So does a process that exits, for which the attachments of its daemon do not count any more. -/
theorem Tended.exit {pid : ℕ} (ht : Tended E s) (hcon : Considerate E s (.exit pid))
    (hnext : s.next E (.exit pid) = some s') : Tended E s' := by
  obtain ⟨system, hsys, rfl⟩ := next_eq hnext
  have hsane := ht.sane.next hcon.1 hsys
  cases hsys
  refine ht.of_host hsane rfl (fun pid' _ p hp => ?_) (fun pid' hrec => mem_crashedAfter hcon.1 hrec)
    (fun key pid' hpid hrun => ?_) fun a ha => ?_
  · rw [Host.leave, Dict.get?_erase] at hp
    split at hp
    · cases hp
    · exact hp
  · have hne : pid' ≠ pid := by
      rintro rfl
      have hrun : s.system.host.procs.get? pid' = some (.daemon key) := hrun
      exact hpid (List.mem_append_left _ (by simp [Event.crashes, hrun]))
    exact (Dict.get?_erase ..).trans ((if_neg hne).trans hrun)
  · obtain ⟨ha, hgood⟩ := List.mem_filter.1 ha
    exact ⟨ha, (of_decide_eq_true hgood).2⟩

/-- So does a pid that is given to an unrelated process. -/
theorem Tended.reuse {pid : ℕ} (ht : Tended E s) (hcon : Considerate E s (.reuse pid))
    (hnext : s.next E (.reuse pid) = some s') : Tended E s' := by
  obtain ⟨system, hsys, rfl⟩ := next_eq hnext
  have hsane := ht.sane.next hcon.1 hsys
  rw [System.next] at hsys
  split at hsys
  · next hfree =>
    cases hsys
    refine ht.of_host hsane rfl (fun pid' hrec p hp => ?_)
      (fun pid' hrec => mem_crashedAfter hcon.1 hrec) (fun key pid' _ hrun => ?_) fun a ha => ?_
    · have hne : pid' ≠ pid := fun heq => hcon.1 pid rfl (heq ▸ hrec)
      rw [Host.enter, Dict.get?_set, if_neg hne] at hp
      exact hp
    · have hne : pid' ≠ pid := by
        rintro rfl
        cases hfree.symm.trans hrun
      exact (Dict.get?_set ..).trans ((if_neg hne).trans hrun)
    · obtain ⟨ha, hgood⟩ := List.mem_filter.1 ha
      exact ⟨ha, (of_decide_eq_true hgood).2⟩
  · cases hsys

/-- **One event of a considerate run.** -/
theorem Tended.next {e : Event} (ht : Tended E s) (hcon : Considerate E s e)
    (hnext : s.next E e = some s') : Tended E s' := by
  cases e with
  | start c => exact ht.start hcon hnext
  | step i choice => exact ht.step hcon hnext
  | answer i => exact ht.answer hcon hnext
  | exit pid => exact ht.exit hcon hnext
  | reuse pid => exact ht.reuse hcon hnext
  | device path present =>
      obtain ⟨system, hsys, rfl⟩ := next_eq hnext
      have hsane := ht.sane.next hcon.1 hsys
      cases hsys
      refine ht.of_host hsane rfl (fun _ _ _ hp => hp)
        (fun pid hrec => mem_crashedAfter hcon.1 hrec) (fun _ _ _ hrun => hrun) fun a ha => ?_
      obtain ⟨ha, hgood⟩ := List.mem_filter.1 ha
      exact ⟨ha, (of_decide_eq_true hgood).2⟩

/-! ### Runs -/

theorem Tended.run (es : List Event) : ∀ {s : Watch}, Tended E s → ConsiderateRun E s es →
    s.run E es = some s' → Tended E s' := by
  induction es with
  | nil =>
      intro s ht _ hrun
      cases hrun
      exact ht
  | cons e es ih =>
      intro s ht hcon hrun
      obtain ⟨s₁, hnext, hrun⟩ := Option.bind_eq_some_iff.1 hrun
      obtain ⟨hcon, hcons⟩ := hcon
      rw [hnext] at hcons
      exact ih (ht.next hcon hnext) hcons hrun

theorem System.Fresh.tended {s : System} (hs : s.Fresh) : Tended E s.watch := by
  have hsane := hs.sane
  obtain ⟨hcalls, _, hregistry, _, _⟩ := hs
  have hnone : ∀ w, w ∉ s.calls := by simp [hcalls]
  refine ⟨hsane, fun key d hd => ?_, fun w hw => absurd hw (hnone w), fun w hw => absurd hw (hnone w),
    fun a ha => by cases ha⟩
  simp [System.watch, hregistry] at hd

/-- **A daemon outlives every user of it**, in every run whose events are considerate: every domain that
has attached a URI and not detached it has the daemon that it was given, running and registered, as long
as its zvol exists and the daemon has not crashed. -/
theorem outlives_of_considerate {s : System} {s' : Watch} (es : List Event) (hs : s.Fresh)
    (hcon : ConsiderateRun E s.watch es) (hrun : s.watch.run E es = some s') : s'.Outlives :=
  fun a ha => ((hs.tended.run es hcon hrun).kept a ha).served

/-- A domain attaches the device, for which a daemon is started: it gets the pid 0. -/
def firstAttach (domain : String) : List Event :=
  [.start (.attach sampleUri domain), .step 0 0, .step 0 0, .step 0 0, .step 0 1, .step 0 1,
    .step 0 0, .answer 0]

/-- A domain attaches the device, which has a daemon. -/
def nextAttach (domain : String) : List Event :=
  [.start (.attach sampleUri domain), .step 0 0, .step 0 0, .step 0 0, .step 0 0, .answer 0]

/-- A domain detaches the device: the daemon is told to quit. -/
def sharedDetach (domain : String) : List Event :=
  [.start (.detach sampleUri domain), .step 0 0, .step 0 1]

/-- Two domains attach the device: they are given the same daemon. -/
theorem outlives_of_considerate_shared :
    ∃ s', sampleSystem.watch.run sampleEnv (firstAttach "1" ++ nextAttach "2") = some s' ∧
      s'.kept.length = 2 ∧ s'.Outlives := by
  have hsome : ((sampleSystem.watch.run sampleEnv (firstAttach "1" ++ nextAttach "2")).any
      fun s' => s'.kept.length = 2) = true := by decide +kernel
  obtain ⟨s', hrun, hkept⟩ := (Option.any_eq_true _ _).1 hsome
  exact ⟨s', hrun, by simpa using hkept,
    outlives_of_considerate _ fresh_sampleSystem (by decide +kernel) hrun⟩

/-- **The second of two domains detaches the device, and the first one has no daemon.** -/
theorem not_outlives_shared :
    ¬ ∀ (E : Env) (s : System) (s' : Watch) (es : List Event), s.Fresh → s.watch.run E es = some s' →
      s'.Outlives := by
  intro h
  have hsome : ((sampleSystem.watch.run sampleEnv
      (firstAttach "1" ++ nextAttach "2" ++ sharedDetach "2")).any
        fun s' => s'.kept.any fun a => ¬ Running s'.system.host a.daemon.key a.daemon.pid) = true := by
    decide +kernel
  obtain ⟨s', hrun, hkept⟩ := (Option.any_eq_true _ _).1 hsome
  obtain ⟨a, ha, hstopped⟩ := List.any_eq_true.1 hkept
  exact of_decide_eq_true hstopped (h sampleEnv sampleSystem s' _ fresh_sampleSystem hrun a ha).1

end Datapath

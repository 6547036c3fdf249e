/-
**The daemons of the datapath plugin** (`src/datapath/datapath.py`, `src/datapath/qemudisk_raw.py`,
`src/datapath/nbd_proxy.py`).

Attaching a device starts a `qemu-storage-daemon` for it, and a registry of files, one for each device,
tells later calls its pid.  A migration adds the pid of a proxy process.  Detaching a device stops what
the registry names, and every attach sweeps the registry.

The calls are programs of separate processes, which run side by side: between two commands of a call,
other calls run theirs, processes exit, and the kernel gives the pids of dead processes to others.

Main definitions:

* `Datapath.Command`, `Datapath.exec` — what the calls do to the host, command by command;
* `Datapath.attach`, `Datapath.activate`, `Datapath.deactivate`, `Datapath.detach`,
  `Datapath.importActivate`, `Datapath.close` — the calls;
* `Datapath.Event`, `Datapath.System.next` — the calls at work and their surroundings.
-/

import ZfsLive.Base.Dict
import ZfsLive.Base.Tasks

set_option relaxedAutoImplicit false
set_option autoImplicit false

namespace Datapath

open Tasks

/-! ### The host -/

/-- What a process is: a daemon or a proxy that the driver has started for a key, or neither. -/
inductive Process
  | daemon (key : String)
  | proxy (key : String)
  | foreign
  deriving DecidableEq, Repr

/-- What the registry tells about a device. -/
structure QemuDiskRaw where
  pid : ℕ
  qmp_sock : String
  key : String
  device_path : String
  nbd_unix_sock : String
  scm_proxy_pid : Option ℕ
  scm_sock_path : Option String
  deriving DecidableEq, Repr

/-- A file of the registry; it is torn between being opened for writing and being written. -/
inductive Entry
  | torn
  | saved (d : QemuDiskRaw)
  deriving DecidableEq, Repr

inductive Signal
  | SIGTERM
  | SIGKILL
  deriving DecidableEq, Repr

/-- A signal that was sent, the process it was meant for, and the process that got it. -/
structure Sent where
  signal : Signal
  meant : Process
  received : Process
  deriving DecidableEq, Repr

structure Host where
  /-- The live processes by their pids. -/
  procs : Dict ℕ Process
  /-- The files of the registry. -/
  registry : Dict String Entry
  /-- The paths that exist. -/
  devices : String → Bool
  /-- The signals the driver has sent, the latest first. -/
  signals : List Sent

/-- The host without a process. -/
def Host.leave (h : Host) (pid : ℕ) : Host := { h with procs := h.procs.erase pid }

/-- The host with a new process. -/
def Host.enter (h : Host) (pid : ℕ) (p : Process) : Host := { h with procs := h.procs.set pid p }

/-! ### Commands -/

/-- The result of `load_metadata`. -/
inductive Loaded
  | missing
  | unreadable
  | found (d : QemuDiskRaw)
  deriving DecidableEq, Repr

/-- What the calls do, one step at a time. -/
inductive Command
  /-- `load_metadata`. -/
  | load (key : String)
  /-- The first half of `save_metadata`: the file is opened, which truncates it. -/
  | openForWriting (key : String)
  /-- The second half: the record is written and the file is closed. -/
  | dump (key : String) (d : QemuDiskRaw)
  /-- `remove_metadata`. -/
  | remove (key : String)
  /-- `os.listdir` of the registry. -/
  | listdir
  /-- `os.path.exists`. -/
  | exists (path : String)
  /-- `os.kill(pid, 0)`. -/
  | probe (pid : ℕ)
  /-- `os.kill`, with the process that it is meant for. -/
  | kill (pid : ℕ) (signal : Signal) (meant : Process)
  /-- The QMP command `quit` on a socket. -/
  | qmpQuit (qmp_sock : String)
  /-- `qemudisk_raw.create` starts a daemon and reads its pid. -/
  | spawnDaemon (key : String)
  /-- `start_scm_daemon` forks a proxy. -/
  | spawnProxy (key : String)
  deriving DecidableEq, Repr

/-- The replies: a command that can raise tells whether it did. -/
def Reply : Command → Type
  | .load _ => Loaded
  | .openForWriting _ => Bool
  | .dump _ _ => Unit
  | .remove _ => Unit
  | .listdir => List String
  | .exists _ => Bool
  | .probe _ => Bool
  | .kill _ _ _ => Bool
  | .qmpQuit _ => Bool
  | .spawnDaemon _ => Option ℕ
  | .spawnProxy _ => Option ℕ

/-- What the code relies on besides. -/
structure Env where
  /-- `_device_key`. -/
  deviceKey : String → String

def socketDir : String := "/var/run/nonpersistent/qemu-dp-raw"

def qmpSock (key : String) : String := socketDir ++ "/qmp_sock." ++ key

def nbdSock (key : String) : String := socketDir ++ "/qemu-nbd." ++ key

def scmPath (key : String) : String := socketDir ++ "/scm." ++ key

/-- A new process gets a free pid; the choice `0` is that none is started. -/
def spawn (p : Process) (choice : ℕ) (h : Host) : Option (Option ℕ × Host) :=
  match choice with
  | 0 => some (none, h)
  | pid + 1 => if h.procs.get? pid = none then some (some pid, h.enter pid p) else none

/-- Run a command.  The choice is what the surroundings decide: whether a command that can fail does, and
which pid is concerned. -/
def exec : Exec Reply Host
  | .load key, _, h =>
      match h.registry.get? key with
      | none => some (Loaded.missing, h)
      | some .torn => some (Loaded.unreadable, h)
      | some (.saved d) => some (Loaded.found d, h)
  | .openForWriting key, choice, h =>
      if choice = 0 then some (false, h)
      else some (true, { h with registry := h.registry.set key .torn })
  | .dump key d, _, h =>
      -- a file that was removed meanwhile is not there again
      match h.registry.get? key with
      | none => some ((), h)
      | some _ => some ((), { h with registry := h.registry.set key (.saved d) })
  | .remove key, _, h => some ((), { h with registry := h.registry.erase key })
  | .listdir, _, h => some (h.registry.keys, h)
  | .exists path, _, h => some (h.devices path, h)
  | .probe pid, _, h => some ((h.procs.get? pid).isSome, h)
  | .kill pid signal meant, choice, h =>
      match h.procs.get? pid with
      | none => some (false, h)
      | some p =>
          let h := { h with signals := ⟨signal, meant, p⟩ :: h.signals }
          -- a process can outlive `SIGTERM` for a while
          if signal = .SIGTERM ∧ choice = 0 then some (true, h) else some (true, h.leave pid)
  | .qmpQuit qmp_sock, choice, h =>
      match choice with
      | 0 => some (false, h)
      | pid + 1 =>
          match h.procs.get? pid with
          | some (.daemon key) =>
              if qmpSock key = qmp_sock then some (true, h.leave pid) else none
          | _ => none
  | .spawnDaemon key, choice, h =>
      -- a daemon locks its pid file, and no other one starts for the key while it is alive
      if Process.daemon key ∈ h.procs.values ∧ choice ≠ 0 then none
      else spawn (.daemon key) choice h
  | .spawnProxy key, choice, h => spawn (.proxy key) choice h

/-- The pid that a command gives to a new process. -/
def Command.given : Command → ℕ → Option ℕ
  | .spawnDaemon _, pid + 1 => some pid
  | .spawnProxy _, pid + 1 => some pid
  | _, _ => none

/-- What a command can do to the host. -/
inductive Effect (choice : ℕ) (h : Host) : Command → Host → Prop
  | idle (c : Command) : Effect choice h c h
  | tear (key : String) :
      Effect choice h (.openForWriting key) { h with registry := h.registry.set key .torn }
  | dump (key : String) (d : QemuDiskRaw) :
      Effect choice h (.dump key d) { h with registry := h.registry.set key (.saved d) }
  | remove (key : String) :
      Effect choice h (.remove key) { h with registry := h.registry.erase key }
  | signal {pid : ℕ} {signal : Signal} {meant p : Process} (hp : h.procs.get? pid = some p) :
      Effect choice h (.kill pid signal meant) { h with signals := ⟨signal, meant, p⟩ :: h.signals }
  | kill {pid : ℕ} {signal : Signal} {meant p : Process} (hp : h.procs.get? pid = some p) :
      Effect choice h (.kill pid signal meant)
        ({ h with signals := ⟨signal, meant, p⟩ :: h.signals }.leave pid)
  | qmpQuit {pid : ℕ} {key : String} (hp : h.procs.get? pid = some (.daemon key)) :
      Effect choice h (.qmpQuit (qmpSock key)) (h.leave pid)
  | spawnDaemon {pid : ℕ} {key : String} (hlock : Process.daemon key ∉ h.procs.values)
      (hfree : h.procs.get? pid = none) (hgiven : choice = pid + 1) :
      Effect choice h (.spawnDaemon key) (h.enter pid (.daemon key))
  | spawnProxy {pid : ℕ} {key : String} (hfree : h.procs.get? pid = none) (hgiven : choice = pid + 1) :
      Effect choice h (.spawnProxy key) (h.enter pid (.proxy key))

theorem spawn_eq {p : Process} {choice : ℕ} {h h' : Host} {r : Option ℕ}
    (hs : spawn p choice h = some (r, h')) :
    r = none ∧ h' = h ∨
      ∃ pid, choice = pid + 1 ∧ r = some pid ∧ h.procs.get? pid = none ∧ h' = h.enter pid p := by
  cases choice with
  | zero =>
      cases hs
      exact .inl ⟨rfl, rfl⟩
  | succ pid =>
      rw [spawn] at hs
      split at hs
      · next hfree =>
        cases hs
        exact .inr ⟨pid, rfl, rfl, hfree, rfl⟩
      · cases hs

/-- **Every command does one of these.** -/
theorem effect_of_exec {c : Command} {choice : ℕ} {h h' : Host} {r : Reply c}
    (hexec : exec c choice h = some (r, h')) : Effect choice h c h' := by
  cases c with
  | load key =>
      rw [exec] at hexec
      split at hexec <;> cases hexec <;> exact .idle _
  | openForWriting key =>
      rw [exec] at hexec
      split at hexec <;> cases hexec
      · exact .idle _
      · exact .tear key
  | dump key d =>
      rw [exec] at hexec
      split at hexec <;> cases hexec
      · exact .idle _
      · exact .dump key d
  | remove key => cases hexec; exact .remove key
  | listdir => cases hexec; exact .idle _
  | «exists» path => cases hexec; exact .idle _
  | probe pid => cases hexec; exact .idle _
  | kill pid signal meant =>
      rw [exec] at hexec
      split at hexec
      · cases hexec
        exact .idle _
      · next p hp =>
        split at hexec <;> cases hexec
        · exact .signal hp
        · exact .kill hp
  | qmpQuit qmp_sock =>
      cases choice with
      | zero =>
          cases hexec
          exact .idle _
      | succ pid =>
          rw [exec] at hexec
          split at hexec
          · next key hp =>
            split at hexec
            · next hsock =>
              cases hexec
              exact hsock ▸ .qmpQuit hp
            · cases hexec
          · cases hexec
  | spawnDaemon key =>
      have hexec : (if Process.daemon key ∈ h.procs.values ∧ choice ≠ 0 then none
          else spawn (.daemon key) choice h) = some ((r : Option ℕ), h') := hexec
      split at hexec
      · cases hexec
      · next hlock =>
        rcases spawn_eq hexec with ⟨_, rfl⟩ | ⟨pid, rfl, _, hfree, rfl⟩
        · exact .idle _
        · exact .spawnDaemon (fun hmem => hlock ⟨hmem, Nat.succ_ne_zero pid⟩) hfree rfl
  | spawnProxy key =>
      rcases spawn_eq hexec with ⟨_, rfl⟩ | ⟨pid, rfl, _, hfree, rfl⟩
      · exact .idle _
      · exact .spawnProxy hfree rfl

/-! ### The functions of `qemudisk_raw.py` and `nbd_proxy.py` -/

/-- The programs of the plugin. -/
abbrev Script (α : Type) : Type := Prog Reply α

/-- Run one command. -/
def issue (c : Command) : Script (Reply c) := Prog.issue c

def loadMetadata (key : String) : Script Loaded := issue (.load key)

/-- The result tells whether the record was saved. -/
def saveMetadata (key : String) (d : QemuDiskRaw) : Script Bool := do
  let opened : Bool ← issue (.openForWriting key)
  if opened then
    let _ : Unit ← issue (.dump key d)
    return true
  else
    return false

def removeMetadata (key : String) : Script Unit := issue (.remove key)

/-- `os.kill(pid, 0)`. -/
def isAlive (pid : ℕ) : Script Bool := issue (.probe pid)

def kill (pid : ℕ) (signal : Signal) (meant : Process) : Script Bool :=
  issue (.kill pid signal meant)

/-- Wait for a process to exit, for a number of rounds; the result tells whether it has. -/
def waitForExit (pid : ℕ) : ℕ → Script Bool
  | 0 => return false
  | n + 1 => do
      if ← isAlive pid then waitForExit pid n else return true

/-- `stop_scm_proxy`. -/
def stopScmProxy (d : QemuDiskRaw) : Script Unit :=
  match d.scm_proxy_pid with
  | none => return ()
  | some pid => do
      if ← kill pid .SIGTERM (.proxy d.key) then
        if ← waitForExit pid 20 then
          return ()
        else
          let _ ← kill pid .SIGKILL (.proxy d.key)
          return ()
      else
        return ()

/-- `quit`. -/
def quit (d : QemuDiskRaw) : Script Unit := do
  stopScmProxy d
  let stopped : Bool ← issue (.qmpQuit d.qmp_sock)
  if stopped then
    let _ ← waitForExit d.pid 20
    return ()
  else
    let _ ← kill d.pid .SIGKILL (.daemon d.key)
    let _ ← waitForExit d.pid 20
    return ()

/-- `qemudisk_raw.create`. -/
def create (key device_path : String) : Script (Option QemuDiskRaw) := do
  let pid : Option ℕ ← issue (.spawnDaemon key)
  return pid.map fun pid =>
    { pid := pid, qmp_sock := qmpSock key, key := key, device_path := device_path,
      nbd_unix_sock := nbdSock key, scm_proxy_pid := none, scm_sock_path := none }

/-- `start_scm_daemon`. -/
def startScmDaemon (key : String) : Script (Option ℕ) := issue (.spawnProxy key)

/-! ### The functions of `datapath.py` -/

/-- `parse_uri`: the device path, which starts at the first `/dev/`. -/
def parseUri (uri : String) : Option String :=
  if "raw+qdisk://".toList <+: uri.toList then
    let path := uri.toList.drop "raw+qdisk://".length
    (path.tails.find? fun s => "/dev/".toList <+: s).map String.ofList
  else
    none

/-- One round of `_gc_orphan_daemons`. -/
def gcEntry (entry_key : String) : Script Unit := do
  match ← loadMetadata entry_key with
  | .unreadable => removeMetadata entry_key
  | .missing => return ()
  | .found d => do
      if ← isAlive d.pid then
        let found : Bool ← issue (.exists d.device_path)
        if d.device_path ≠ "" ∧ found then
          return ()
        else
          quit d
          removeMetadata entry_key
      else
        removeMetadata entry_key

/-- The loop of `_gc_orphan_daemons`. -/
def gcEntries (current_key : String) : List String → Script Unit
  | [] => return ()
  | entry_key :: entries => do
      if entry_key = current_key then
        gcEntries current_key entries
      else
        gcEntry entry_key
        gcEntries current_key entries

/-- `_gc_orphan_daemons`. -/
def gcOrphanDaemons (current_key : String) : Script Unit := do
  let entries : List String ← issue .listdir
  gcEntries current_key entries

/-- How a call ends. -/
inductive Answer
  /-- It raises. -/
  | raised
  /-- It returns. -/
  | returned
  /-- `attach` returns, with the daemon of its `Nbd` implementation if there is one. -/
  | attached (d : Option QemuDiskRaw)
  /-- `import_activate` returns the path of a socket. -/
  | socket (path : String)
  deriving DecidableEq, Repr

/-- The result of `_ensure_qemu_daemon`: it can raise, and it can find no daemon. -/
abbrev Ensured : Type := Option (Option QemuDiskRaw)

/-- The end of `_ensure_qemu_daemon`: a daemon that was started and not registered is not returned. -/
def spawnRegistered (key device_path : String) : Script Ensured := do
  match ← create key device_path with
  | none => return some none
  | some d => do
      if ← saveMetadata key d then return some (some d) else return some none

/-- `_ensure_qemu_daemon`. -/
def ensureQemuDaemon (key device_path : String) : Script Ensured := do
  gcOrphanDaemons key
  match ← loadMetadata key with
  | .unreadable => return none
  | .missing => spawnRegistered key device_path
  | .found existing => do
      if ← isAlive existing.pid then
        return some (some existing)
      else
        quit existing
        removeMetadata key
        spawnRegistered key device_path

/-- The end of `detach` and of `close`. -/
def stopDaemon (key : String) : Script Answer := do
  match ← loadMetadata key with
  | .unreadable => return .raised
  | .missing => return .returned
  | .found d => do
      quit d
      removeMetadata key
      return .returned

/-- The end of `import_activate`: a new proxy for the daemon. -/
def startProxy (key : String) (d : QemuDiskRaw) : Script Answer := do
  match ← startScmDaemon key with
  | none => return .raised
  | some proxy_pid => do
      let saved ← saveMetadata key
        { d with scm_proxy_pid := some proxy_pid, scm_sock_path := some (scmPath key) }
      if saved then return .socket (scmPath key) else return .raised

/-- The middle of `import_activate`: the daemon, and then the proxy. -/
def importFresh (key device_path : String) : Script Answer := do
  match ← ensureQemuDaemon key device_path with
  | none => return .raised
  | some none => return .raised
  | some (some d) => startProxy key d

/-- The socket of a proxy that the registry names, if the proxy is alive. -/
def reusableProxy (d : QemuDiskRaw) : Script (Option String) :=
  match d.scm_proxy_pid, d.scm_sock_path with
  | some pid, some path => do
      if ← isAlive pid then return some path else return none
  | _, _ => return none

section

variable (E : Env)

def attach (uri : String) : Script Answer :=
  match parseUri uri with
  | none => return .raised
  | some device_path => do
      let found : Bool ← issue (.exists device_path)
      if found then
        match ← ensureQemuDaemon (E.deviceKey device_path) device_path with
        | none => return .raised
        | some d => return .attached d
      else
        return .raised

/-- `activate` restores tracking bitmaps, for which it looks the daemon up. -/
def activate (uri : String) : Script Answer :=
  match parseUri uri with
  | none => return .raised
  | some device_path => do
      let found : Bool ← issue (.exists device_path)
      if found then
        let _ ← loadMetadata (E.deviceKey device_path)
        return .returned
      else
        return .raised

/-- `deactivate` saves tracking bitmaps, for which it looks the daemon up. -/
def deactivate (uri : String) : Script Answer :=
  match parseUri uri with
  | none => return .returned
  | some device_path => do
      let _ ← loadMetadata (E.deviceKey device_path)
      return .returned

def detach (uri : String) : Script Answer :=
  match parseUri uri with
  | none => return .returned
  | some device_path => stopDaemon (E.deviceKey device_path)

def close (uri : String) : Script Answer :=
  match parseUri uri with
  | none => return .returned
  | some device_path => stopDaemon (E.deviceKey device_path)

def importActivate (uri : String) : Script Answer :=
  match parseUri uri with
  | none => return .raised
  | some device_path => do
      let found : Bool ← issue (.exists device_path)
      if found then
        let key := E.deviceKey device_path
        match ← loadMetadata key with
        | .unreadable => return .raised
        | .missing => importFresh key device_path
        | .found existing => do
            if ← isAlive existing.pid then
              match ← reusableProxy existing with
              | some path => return .socket path
              | none => importFresh key device_path
            else
              quit existing
              removeMetadata key
              importFresh key device_path
      else
        return .raised

end

/-! ### Calls at work -/

/-- A call of the plugin. -/
inductive Call
  | attach (uri domain : String)
  | activate (uri domain : String)
  | deactivate (uri domain : String)
  | detach (uri domain : String)
  | importActivate (uri domain : String)
  | close (uri : String)
  deriving DecidableEq, Repr

/-- The program of a call. -/
def Call.script (E : Env) : Call → Script Answer
  | .attach uri _ => Datapath.attach E uri
  | .activate uri _ => Datapath.activate E uri
  | .deactivate uri _ => Datapath.deactivate E uri
  | .detach uri _ => Datapath.detach E uri
  | .importActivate uri _ => Datapath.importActivate E uri
  | .close uri => Datapath.close E uri

/-- The commands that a call has run and their replies, the latest first. -/
abbrev Transcript : Type := List (Σ c : Command, Reply c)

/-- One more command has run. -/
def Transcript.add (k : Transcript) (c : Command) (r : Reply c) : Transcript := ⟨c, r⟩ :: k

/-- A call at work. -/
structure Working where
  call : Call
  task : Task Reply Transcript Answer

/-- A domain has attached a URI and was given a daemon. -/
structure Attachment where
  uri : String
  domain : String
  daemon : QemuDiskRaw
  deriving DecidableEq, Repr

/-- The host, the calls at work, and what is attached. -/
structure System where
  host : Host
  calls : List Working
  attached : List Attachment

/-- What can happen. -/
inductive Event
  /-- A call starts. -/
  | start (c : Call)
  /-- A call runs its next command. -/
  | step (i choice : ℕ)
  /-- A call that is done answers. -/
  | answer (i : ℕ)
  /-- A process exits or crashes. -/
  | exit (pid : ℕ)
  /-- The kernel gives a free pid to an unrelated process. -/
  | reuse (pid : ℕ)
  /-- A path appears or vanishes. -/
  | device (path : String) (present : Bool)
  deriving DecidableEq, Repr

/-- What is attached once a call has started: a domain that detaches a URI gives it up. -/
def Call.giveUp (attached : List Attachment) : Call → List Attachment
  | .detach uri domain => attached.filter fun a => ¬ (a.uri = uri ∧ a.domain = domain)
  | _ => attached

/-- What is attached once a call has answered. -/
def Call.settle (attached : List Attachment) : Call → Answer → List Attachment
  | .attach uri domain, .attached (some d) => ⟨uri, domain, d⟩ :: attached
  | _, _ => attached

/-- Run the next command of a call. -/
def System.step (s : System) (i choice : ℕ) : Option System := do
  let w ← s.calls[i]?
  let (task, host) ← advance Transcript.add exec choice s.host w.task
  return { s with host := host, calls := s.calls.set i { w with task := task } }

/-- The state after an event, if the event is possible. -/
def System.next (E : Env) (s : System) : Event → Option System
  | .start c =>
      some { s with
        calls := s.calls ++ [⟨c, ⟨[], c.script E⟩⟩]
        attached := c.giveUp s.attached }
  | .step i choice => s.step i choice
  | .answer i => do
      let w ← s.calls[i]?
      match w.task.prog with
      | .cmd _ _ => none
      | .done a => some { s with calls := s.calls.eraseIdx i, attached := w.call.settle s.attached a }
  | .exit pid => some { s with host := s.host.leave pid }
  | .reuse pid =>
      if s.host.procs.get? pid = none then some { s with host := s.host.enter pid .foreign } else none
  | .device path present =>
      some { s with host := { s.host with
        devices := fun p => if p = path then present else s.host.devices p } }

/-- The state after a run, if all its events are possible. -/
def System.run (E : Env) (s : System) : List Event → Option System
  | [] => some s
  | e :: es => (s.next E e).bind fun s' => s'.run E es

/-- Nothing has run on the host yet. -/
def System.Fresh (s : System) : Prop :=
  s.calls = [] ∧ s.attached = [] ∧ s.host.registry = Dict.empty ∧ s.host.signals = [] ∧
    ∀ p ∈ s.host.procs.values, p = .foreign

end Datapath

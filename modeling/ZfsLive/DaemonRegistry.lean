/-
**The registry of the daemons, file by file** (`src/datapath/qemudisk_raw.py`,
`src/datapath/datapath.py`).

The datapath keeps a pickled file for each device, with the pid and the sockets of its
`qemu-storage-daemon`.  `load_metadata` reads it back, and what a crash has left in it decides whether
that succeeds; `quit` stops the processes it names, with commands that can each fail, and with signals
that end the driver itself where they reach it; and `remove_metadata` deletes it.  `detach` and `close`
are these three in a row.

Main definitions:

* `Registry.loadMetadata`, `Registry.removeMetadata`, `Registry.quit` — the steps;
* `Registry.detach`, `Registry.close`, `Registry.deactivate` — the calls;
* `Registry.Spares` — `quit` sends the driver no signal, whatever the processes do;
* `Registry.NeverFail` — each of the calls returns, and the first two leave no file.

Main results:

* `Registry.wp_quit_spares`, `Registry.wp_quit_reaches` — when `quit` ends the driver;
* `Registry.wp_cleanUp` — what `detach` and `close` do, whatever the processes do;
* `Registry.neverFail_iff` — **they never fail exactly where the file can be read back and its record
  spares the driver**;
* `Registry.not_neverFail_empty` — an empty file, as an interrupted `save_metadata` leaves it.
-/

import Mathlib.Algebra.Group.Int.Defs
import ZfsLive.Base.Dict
import ZfsLive.Base.Wp
import ZfsLive.DeviceKeys

set_option relaxedAutoImplicit false
set_option autoImplicit false

namespace Registry

open Paths DeviceKeys Wp

/-! ### Values and exceptions -/

/-- A value of the scripting language, as far as the fields of a record are told apart. -/
inductive Value
  | none
  | int (n : ℤ)
  | str (t : Text)
  /-- Neither a number nor a path, with its text and its truth value. -/
  | object (shown : Text) (truthy : Bool)
  deriving DecidableEq, Repr

def Value.truthy : Value → Bool
  | .none => false
  | .int n => n ≠ 0
  | .str t => t ≠ []
  | .object _ truthy => truthy

/-- `"{}".format(value)`. -/
def Value.format : Value → Text
  | .none => "None".toList
  | .int n => (toString n).toList
  | .str t => t
  | .object shown _ => shown

/-- An exception. -/
inductive PyErr
  | OSError
  | ValueError
  | TypeError
  | AttributeError
  | OverflowError
  | KeyError (key : Text)
  | EOFError
  | UnpicklingError
  | QMPError (text : String)
  deriving DecidableEq, Repr

/-- How a call that does not return ends. -/
inductive Failure
  | raised (e : PyErr)
  /-- A signal has ended the driver itself, and nothing handles that. -/
  | killed
  deriving DecidableEq, Repr

/-! ### Files -/

/-- What a file of the registry unpickles to: a mapping, or something else. -/
inductive Data
  | dict (d : Dict Text Value)
  | object

/-- The module `pickle`, over the contents of files. -/
structure Pickle (β : Type) where
  dumps : Dict Text Value → β
  loads : β → Except PyErr Data
  loads_dumps : ∀ d, loads (dumps d) = .ok (.dict d)
  /-- The content of a file that was opened for writing. -/
  empty : β
  loads_empty : loads empty = .error .EOFError

/-- `data[key]`. -/
def Data.item (data : Data) (key : Text) : Except PyErr Value :=
  match data with
  | .dict d =>
      match d.get? key with
      | some v => .ok v
      | .none => .error (.KeyError key)
  | .object => .error .TypeError

/-- `data.get(key)`. -/
def Data.get (data : Data) (key : Text) : Except PyErr Value :=
  match data with
  | .dict d => .ok ((d.get? key).getD .none)
  | .object => .error .AttributeError

structure QemuDiskRaw where
  pid : Value
  qmp_sock : Value
  key : Value
  device_path : Value
  nbd_unix_sock : Value
  scm_proxy_pid : Value
  scm_sock_path : Value
  deriving DecidableEq, Repr

/-- `QemuDiskRaw.__init__`: a missing NBD socket is one beside the QMP socket. -/
def QemuDiskRaw.init (pid qmp_sock key device_path nbd_unix_sock scm_proxy_pid scm_sock_path : Value) :
    Except PyErr QemuDiskRaw :=
  if nbd_unix_sock.truthy then
    .ok ⟨pid, qmp_sock, key, device_path, nbd_unix_sock, scm_proxy_pid, scm_sock_path⟩
  else
    match qmp_sock with
    | .str t =>
        let nbd_unix_sock := .str (join (dirname t) ("qemu-nbd.".toList ++ key.format))
        .ok ⟨pid, qmp_sock, key, device_path, nbd_unix_sock, scm_proxy_pid, scm_sock_path⟩
    | _ => .error .TypeError

/-- The mapping that `save_metadata` pickles. -/
def QemuDiskRaw.fields (d : QemuDiskRaw) : Dict Text Value where
  items :=
    [("pid".toList, d.pid), ("qmp_sock".toList, d.qmp_sock), ("key".toList, d.key),
      ("device_path".toList, d.device_path), ("nbd_unix_sock".toList, d.nbd_unix_sock),
      ("scm_proxy_pid".toList, d.scm_proxy_pid), ("scm_sock_path".toList, d.scm_sock_path)]
  distinct := by
    change ["pid".toList, "qmp_sock".toList, "key".toList, "device_path".toList,
      "nbd_unix_sock".toList, "scm_proxy_pid".toList, "scm_sock_path".toList].Nodup
    decide +kernel

/-- The end of `load_metadata`: the record in an unpickled file. -/
def Data.record (data : Data) : Except PyErr QemuDiskRaw := do
  let pid ← data.item "pid".toList
  let qmp_sock ← data.item "qmp_sock".toList
  let key ← data.item "key".toList
  let device_path ← data.get "device_path".toList
  let nbd_unix_sock ← data.get "nbd_unix_sock".toList
  let scm_proxy_pid ← data.get "scm_proxy_pid".toList
  let scm_sock_path ← data.get "scm_sock_path".toList
  QemuDiskRaw.init pid qmp_sock key device_path nbd_unix_sock scm_proxy_pid scm_sock_path

/-! ### The host -/

/-- What a process is: a daemon or a proxy that the driver has started for a key, or neither. -/
inductive Process
  | daemon (key : Text)
  | proxy (key : Text)
  | foreign
  deriving DecidableEq, Repr

/-- The ways to tell a process to exit. -/
inductive Order
  | SIGTERM
  | SIGKILL
  | quit
  deriving DecidableEq, Repr

structure World (β : Type) where
  /-- Whether the directory of the registry exists. -/
  root : Bool
  /-- The directories in it, each with the content of its file if it has one. -/
  registry : Dict Text (Option β)
  /-- The other processes that `os.kill` reaches, by its argument. -/
  procs : Dict ℤ Process
  /-- The paths of devices that exist. -/
  devices : Text → Bool
  /-- The processes that were told to exit, the latest first. -/
  told : List (ℤ × Order)
  /-- The commands so far. -/
  tick : ℕ

/-- How a daemon takes the QMP command `quit`. -/
inductive Exchange
  /-- It does not answer, and has not heard the command. -/
  | silent
  /-- It has heard the command, and the connection fails. -/
  | heard
  | answered
  deriving DecidableEq, Repr

/-- How the processes and the files outside the registry react. -/
structure Reactions where
  /-- Which of the processes that were told to exit are gone at a command. -/
  exits : ℕ → List ℤ
  qmp : ℕ → Exchange
  /-- Whether `os.unlink` fails at a path outside the registry. -/
  unlink : Text → Bool
  /-- Whether a number is that of an open file. -/
  isOpen : ℤ → Bool

/-- What the surroundings decide. -/
structure Env (β : Type) extends Reactions where
  pickle : Pickle β
  sha : Sha256
  /-- The pid of the driver. -/
  driver : ℤ
  driver_range : 1 < driver ∧ driver < 2 ^ 31
  /-- The process group of the driver. -/
  group : ℤ
  group_range : 1 < group ∧ group < 2 ^ 31

variable {β : Type}

/-- The content of the file of a key. -/
def World.file (w : World β) (key : Text) : Option β := (w.registry.get? key).join

def World.isTold (w : World β) (n : ℤ) : Prop := ∃ o, (n, o) ∈ w.told

instance (w : World β) (n : ℤ) : Decidable (w.isTold n) :=
  decidable_of_iff (n ∈ w.told.map Prod.fst) (by simp [World.isTold])

def World.tell (w : World β) (n : ℤ) (o : Order) : World β := { w with told := (n, o) :: w.told }

abbrev M (β : Type) := EStateM Failure (World β)

/-- Raise an exception. -/
def raise {α : Type} (e : PyErr) : M β α := throw (.raised e)

/-- `try: … except OSError: …`. -/
def exceptOSError {α : Type} (m h : M β α) : M β α :=
  tryCatch m fun e => if e = .raised .OSError then h else throw e

/-- `try: … except Exception: …`. -/
def exceptException {α : Type} (m h : M β α) : M β α :=
  tryCatch m fun e => if e = .killed then throw e else h

/-- A program that can raise, and sends no signal. -/
def raising {α : Type} (m : EStateM PyErr (World β) α) : M β α := fun w =>
  match m w with
  | .ok a w' => .ok a w'
  | .error e w' => .error (.raised e) w'

def socketDir : Text := "/var/run/nonpersistent/qemu-dp-raw".toList

def qmpSock (key : Text) : Text := socketDir ++ "/qmp_sock.".toList ++ key

section

variable (E : Env β)

/-- Time passes: processes that were told to exit can be gone. -/
def World.pass (w : World β) : World β :=
  { w with
    procs := w.procs.eraseAll fun n => w.isTold n ∧ n ∈ E.exits w.tick
    tick := w.tick + 1 }

/-- A signal to this pid reaches the driver: it is its own, or names the process group it is in. -/
def Env.Reaches (n : ℤ) : Prop := n = 0 ∨ n = E.driver ∨ n = -E.group

instance (n : ℤ) : Decidable (E.Reaches n) := inferInstanceAs (Decidable (_ ∨ _ ∨ _))

/-- `os.kill`, where `none` stands for the signal `0`. -/
def kill (pid : Value) (signal : Option Order) : M β Unit := fun w =>
  let w := w.pass E
  match pid with
  | .int n =>
      if n < -2 ^ 31 ∨ 2 ^ 31 ≤ n then
        .error (.raised .OverflowError) w
      else if E.Reaches n then
        match signal with
        | .none => .ok () w
        | some _ => .error .killed w
      else
        match w.procs.get? n with
        | .none => .error (.raised .OSError) w
        | some _ => .ok () (signal.elim w (w.tell n))
  | _ => .error (.raised .TypeError) w

/-- The process that listens on a socket. -/
def World.listener (w : World β) (sock : Value) : Option ℤ :=
  (w.procs.items.find? fun e =>
    match e.2, sock with
    | .daemon key, .str t => decide (qmpSock key = t)
    | _, _ => false).map Prod.fst

/-- A connection to a QMP socket with the command `quit`. -/
def qmpQuit (qmp_sock : Value) : M β Unit := fun w =>
  let w := w.pass E
  match w.listener qmp_sock with
  | .none => .error (.raised (.QMPError "Failed to connect to QMP socket")) w
  | some n =>
      match E.qmp w.tick with
      | .silent => .error (.raised .OSError) w
      | .heard => .error (.raised (.QMPError "Connection closed unexpectedly")) (w.tell n .quit)
      | .answered => .ok () (w.tell n .quit)

/-- `os.unlink`. -/
def unlink (path : Value) : M β Unit := fun w =>
  match path with
  | .str t =>
      if '\x00' ∈ t then
        .error (.raised .ValueError) w
      else
        match w.registry.items.find? fun e => decide (metaFile e.1 = t) && e.2.isSome with
        | some e => .ok () { w with registry := w.registry.set e.1 .none }
        | .none => if E.unlink t then .error (.raised .OSError) w else .ok () w
  | _ => .error (.raised .TypeError) w

/-- `os.path.exists`. -/
def pathExists (path : Value) : M β Bool := fun w =>
  match path with
  | .str t => .ok (w.devices t) w
  | .int n => .ok (E.isOpen n) w
  | _ => .error (.raised .TypeError) w

/-- `os.rmdir` of the directory of a key. -/
def rmdir (key : Text) : M β Unit := fun w =>
  match w.registry.get? key with
  | some .none => .ok () { w with registry := w.registry.erase key }
  | _ => .error (.raised .OSError) w

/-! ### The functions of `qemudisk_raw.py` -/

/-- `load_metadata`. -/
def loadMetadata (key : Text) : M β (Option QemuDiskRaw) := fun w =>
  match w.file key with
  | .none => .ok .none w
  | some content =>
      match E.pickle.loads content >>= Data.record with
      | .ok d => .ok (some d) w
      | .error e => .error (.raised e) w

/-- `remove_metadata`. -/
def removeMetadata (key : Text) : M β Unit := do
  if ((← get).file key).isSome then
    modify fun w => { w with registry := w.registry.set key .none }
  exceptOSError (rmdir key) (pure ())

/-- Wait for a process to exit, for a number of rounds; the result tells whether it has. -/
def waitForExit (pid : Value) : ℕ → M β Bool
  | 0 => pure false
  | n + 1 => do
      let alive ← exceptOSError (do kill E pid .none; pure true) (pure false)
      if alive then waitForExit pid n else pure true

/-- `stop_scm_proxy`. -/
def stopScmProxy (self : QemuDiskRaw) : M β Unit := do
  if self.scm_proxy_pid = .none then
    return ()
  else
    exceptOSError (do
      kill E self.scm_proxy_pid (some .SIGTERM)
      let exited ← waitForExit E self.scm_proxy_pid 20
      if exited then pure () else kill E self.scm_proxy_pid (some .SIGKILL)) (pure ())
    if self.scm_sock_path.truthy then
      exceptOSError (unlink E self.scm_sock_path) (pure ())

/-- `quit`. -/
def quit (self : QemuDiskRaw) : M β Unit := do
  if self.pid = .none then
    raise (.QMPError "quit() called on a connect_existing() instance")
  else
    stopScmProxy E self
    exceptException (qmpQuit E self.qmp_sock)
      (exceptOSError (kill E self.pid (some .SIGKILL)) (pure ()))
    let _ ← waitForExit E self.pid 20

/-! ### The calls -/

/-- The end of `detach` and of `close`. -/
def cleanUp (key : Text) : M β Unit := do
  match ← loadMetadata E key with
  | .none => return ()
  | some qemu_disk =>
      exceptException (quit E qemu_disk) (pure ())
      removeMetadata key

def detach (uri : Text) : M β Unit :=
  match parseUri uri with
  | .error _ => pure ()
  | .ok (_, device_path) => cleanUp E (deviceKey E.sha device_path)

def close (uri : Text) : M β Unit :=
  match parseUri uri with
  | .error _ => pure ()
  | .ok (_, device_path) => cleanUp E (deviceKey E.sha device_path)

/-- What `_cbt_persist_on_deactivate` does with the device path, the key of the VDI and the registered
daemon: any program that sends no signal. -/
abbrev Persist (β : Type) := Text → Text → Option QemuDiskRaw → EStateM PyErr (World β) Unit

variable (persist : Persist β)

def cbtPersistOnDeactivate (device_path : Text) : M β Unit := do
  let instance_key := deviceKey E.sha device_path
  let vdi_key := vdiUuidFromDevicePath device_path
  let qemu_disk ← loadMetadata E instance_key
  raising (persist device_path vdi_key qemu_disk)

def deactivate (uri : Text) : M β Unit :=
  match parseUri uri with
  | .error _ => pure ()
  | .ok (_, device_path) =>
      exceptException (cbtPersistOnDeactivate E persist device_path) (pure ())

end

/-! ### Files that can be read back -/

/-- The mapping names the daemon: with a pid, a QMP socket and a key, and with an NBD socket or a QMP
socket that is a path. -/
def Complete (d : Dict Text Value) : Prop :=
  (d.get? "pid".toList).isSome ∧ (d.get? "qmp_sock".toList).isSome ∧ (d.get? "key".toList).isSome ∧
    (((d.get? "nbd_unix_sock".toList).getD .none).truthy = true ∨
      ∃ t, d.get? "qmp_sock".toList = some (.str t))

/-- The file unpickles to a mapping that names the daemon. -/
def Readable (P : Pickle β) (content : β) : Prop :=
  ∃ d, P.loads content = .ok (.dict d) ∧ Complete d

theorem init_ok_iff (pid qmp_sock key device_path nbd_unix_sock scm_proxy_pid scm_sock_path : Value) :
    (∃ d, QemuDiskRaw.init pid qmp_sock key device_path nbd_unix_sock scm_proxy_pid scm_sock_path =
        .ok d) ↔
      nbd_unix_sock.truthy = true ∨ ∃ t, qmp_sock = .str t := by
  unfold QemuDiskRaw.init
  by_cases htruthy : nbd_unix_sock.truthy = true
  · simp [htruthy]
  · rw [if_neg htruthy]
    cases qmp_sock <;> simp [htruthy]

theorem record_dict_ok_iff (d : Dict Text Value) :
    (∃ r, (Data.dict d).record = .ok r) ↔ Complete d := by
  rw [Data.record, Complete]
  simp only [Data.item, Data.get]
  cases d.get? "pid".toList with
  | none => simp [bind, Except.bind]
  | some pid =>
      cases d.get? "qmp_sock".toList with
      | none => simp [bind, Except.bind]
      | some qmp_sock =>
          cases d.get? "key".toList with
          | none => simp [bind, Except.bind]
          | some key =>
              simpa [bind, Except.bind] using init_ok_iff pid qmp_sock key _ _ _ _

/-- **What `load_metadata` reads** are the files with a complete mapping. -/
theorem record_ok_iff (P : Pickle β) (content : β) :
    (∃ d, (P.loads content >>= Data.record) = .ok d) ↔ Readable P content := by
  rw [Readable]
  cases P.loads content with
  | error e => simp [bind, Except.bind]
  | ok data =>
      cases data with
      | object => simp [bind, Except.bind, Data.record, Data.item]
      | dict d => simpa [bind, Except.bind] using record_dict_ok_iff d

theorem get?_fields {d : QemuDiskRaw} {key : Text} {v : Value} (h : (key, v) ∈ d.fields.items) :
    d.fields.get? key = some v := Dict.get?_eq_some_iff.2 h

/-- **What was saved is read back.** -/
theorem record_fields (d : QemuDiskRaw) (htruthy : d.nbd_unix_sock.truthy = true) :
    (Data.dict d.fields).record = .ok d := by
  have hpid : d.fields.get? "pid".toList = some d.pid := get?_fields (.head _)
  have hsock : d.fields.get? "qmp_sock".toList = some d.qmp_sock := get?_fields (.tail _ (.head _))
  have hkey : d.fields.get? "key".toList = some d.key := get?_fields (.tail _ (.tail _ (.head _)))
  have hpath : d.fields.get? "device_path".toList = some d.device_path :=
    get?_fields (by simp [QemuDiskRaw.fields])
  have hnbd : d.fields.get? "nbd_unix_sock".toList = some d.nbd_unix_sock :=
    get?_fields (by simp [QemuDiskRaw.fields])
  have hproxy : d.fields.get? "scm_proxy_pid".toList = some d.scm_proxy_pid :=
    get?_fields (by simp [QemuDiskRaw.fields])
  have hscm : d.fields.get? "scm_sock_path".toList = some d.scm_sock_path :=
    get?_fields (by simp [QemuDiskRaw.fields])
  simp only [Data.record, Data.item, Data.get, hpid, hsock, hkey, hpath, hnbd, hproxy, hscm,
    Option.getD_some]
  exact if_pos htruthy

/-! ### What the calls do -/

variable {α : Type}

theorem wp_exceptOSError {m h : M β α} {Q : α → World β → Prop} {X : Failure → World β → Prop}
    {w : World β} : wp (exceptOSError m h) Q X w ↔
      wp m Q
        (fun e w' => (e = .raised .OSError → wp h Q X w') ∧ (e ≠ .raised .OSError → X e w')) w := by
  rw [exceptOSError, wp_tryCatch]
  have hiff : ∀ e w', wp (if e = Failure.raised .OSError then h else throw e) Q X w' ↔
      (e = .raised .OSError → wp h Q X w') ∧ (e ≠ .raised .OSError → X e w') := fun e w' => by
    rw [wp_ite, wp_throw]
  simp only [hiff]

theorem wp_exceptException {m h : M β α} {Q : α → World β → Prop} {X : Failure → World β → Prop}
    {w : World β} : wp (exceptException m h) Q X w ↔
      wp m Q (fun e w' => (e = .killed → X e w') ∧ (e ≠ .killed → wp h Q X w')) w := by
  rw [exceptException, wp_tryCatch]
  have hiff : ∀ e w', wp (if e = Failure.killed then throw e else h) Q X w' ↔
      (e = .killed → X e w') ∧ (e ≠ .killed → wp h Q X w') := fun e w' => by
    rw [wp_ite, wp_throw]
  simp only [hiff]

theorem wp_raising (m : EStateM PyErr (World β) α) (w : World β) :
    wp (raising m) (fun _ _ => True) (fun e _ => e ≠ .killed) w := by
  rw [wp, raising]
  cases m w with
  | ok a w' => trivial
  | error e w' => simp

theorem wp_rmdir (key : Text) (w : World β) :
    wp (rmdir key) (fun _ w' => w' = { w with registry := w.registry.erase key })
      (fun e w' => e = .raised .OSError ∧ w' = w) w := by
  rw [wp, rmdir]
  split
  · next h =>
    split at h <;> cases h
    rfl
  · next h =>
    split at h <;> cases h
    exact ⟨rfl, rfl⟩

/-- The world with another registry. -/
def World.withRegistry (w : World β) (registry : Dict Text (Option β)) : World β :=
  { w with registry := registry }

/-- `remove_metadata` has removed the file of a key, and left the other keys alone. -/
structure Removed (key : Text) (w w' : World β) : Prop where
  gone : w'.file key = none
  others : ∃ registry : Dict Text (Option β), w' = w.withRegistry registry ∧
    (∀ key', key' ≠ key → registry.get? key' = w.registry.get? key') ∧
    (registry.get? key ≠ none → w.registry.get? key ≠ none)

/-- The end of `remove_metadata`: a directory without a file is removed, or stays. -/
theorem wp_rmdir_removed {key : Text} {w : World β} (registry : Dict Text (Option β))
    (hnone : (registry.get? key).join = none)
    (hother : ∀ key', key' ≠ key → registry.get? key' = w.registry.get? key')
    (hkey : registry.get? key ≠ none → w.registry.get? key ≠ none) :
    wp (exceptOSError (rmdir key) (pure ())) (fun _ w' => Removed key w w') (fun _ _ => False)
      (w.withRegistry registry) := by
  rw [wp_exceptOSError]
  refine wp_mono (wp_rmdir key _) ?_ ?_
  · rintro _ _ rfl
    have hgone : (registry.erase key).get? key = none := by rw [Dict.get?_erase, if_pos rfl]
    refine ⟨?_, _, rfl, fun key' hne => ?_, fun h => (h hgone).elim⟩
    · change ((registry.erase key).get? key).join = none
      rw [hgone]
      rfl
    · change (registry.erase key).get? key' = _
      rw [Dict.get?_erase, if_neg hne, hother key' hne]
  · rintro _ _ ⟨rfl, rfl⟩
    refine ⟨fun _ => ?_, fun h => (h rfl).elim⟩
    exact ⟨hnone, registry, rfl, hother, hkey⟩

/-- **`remove_metadata` leaves no file**, and never raises. -/
theorem wp_removeMetadata (key : Text) (w : World β) :
    wp (removeMetadata key) (fun _ w' => Removed key w w') (fun _ _ => False) w := by
  rw [removeMetadata, wp_bind, wp_get]
  dsimp only
  rw [wp_ite]
  refine ⟨fun hfile => ?_, fun hfile => ?_⟩
  · rw [wp_bind, wp_modify]
    refine wp_rmdir_removed (w.registry.set key none) ?_ (fun key' hne => ?_)
      fun _ hnone => ?_
    · rw [Dict.get?_set, if_pos rfl]
      rfl
    · rw [Dict.get?_set, if_neg hne]
    · simp [World.file, hnone] at hfile
  · exact wp_rmdir_removed w.registry (by simpa [World.file] using hfile)
      (fun _ _ => rfl) fun h => h

section

variable (E : Env β)

theorem loadMetadata_none {key : Text} {w : World β} (h : w.file key = none) :
    loadMetadata E key w = .ok none w := by
  rw [loadMetadata, h]

theorem loadMetadata_ok {key : Text} {w : World β} {content : β} {d : QemuDiskRaw}
    (h : w.file key = some content) (hd : (E.pickle.loads content >>= Data.record) = .ok d) :
    loadMetadata E key w = .ok (some d) w := by
  simp only [loadMetadata, h, hd]

theorem loadMetadata_error {key : Text} {w : World β} {content : β}
    (h : w.file key = some content) (hd : ¬ Readable E.pickle content) :
    ∃ e, loadMetadata E key w = .error (.raised e) w := by
  rw [← record_ok_iff] at hd
  cases hrec : E.pickle.loads content >>= Data.record with
  | ok d => exact (hd ⟨d, hrec⟩).elim
  | error e => exact ⟨e, by simp only [loadMetadata, h, hrec]⟩

/-- Loading does not end the driver. -/
theorem wp_loadMetadata (key : Text) (w : World β) :
    wp (loadMetadata E key) (fun _ _ => True) (fun e _ => e ≠ .killed) w := by
  rw [wp, loadMetadata]
  cases w.file key with
  | none => trivial
  | some content =>
      dsimp only
      cases E.pickle.loads content >>= Data.record with
      | ok d => trivial
      | error e =>
          intro hkilled
          cases hkilled

/-! ### Signals that reach the driver -/

/-- `os.kill` takes it for a pid. -/
def Value.IsPid (pid : Value) : Prop := ∃ n, pid = .int n ∧ -2 ^ 31 ≤ n ∧ n < 2 ^ 31

/-- `os.unlink` takes it for a path. -/
def Value.IsPath (path : Value) : Prop := ∃ t, path = .str t ∧ '\x00' ∉ t

/-- A signal to what a record has for a pid reaches the driver. -/
def Env.ReachesValue (pid : Value) : Prop := ∃ n, pid = .int n ∧ E.Reaches n

/-- `stop_scm_proxy` comes to its end: the pid of the proxy is one, and its socket is a path. -/
def QemuDiskRaw.StopsProxy (d : QemuDiskRaw) : Prop :=
  d.scm_proxy_pid = .none ∨
    d.scm_proxy_pid.IsPid ∧ (d.scm_sock_path.truthy = true → d.scm_sock_path.IsPath)

/-- `quit` sends the driver no signal: the pid of the proxy does not reach it, and the pid of the daemon
does not, unless `quit` does not come to it. -/
def Spares (d : QemuDiskRaw) : Prop :=
  d.pid = .none ∨ ¬ E.ReachesValue d.scm_proxy_pid ∧ (d.StopsProxy → ¬ E.ReachesValue d.pid)

/-- How `os.kill` fails: it ends the driver, or the process is gone, or there is no such pid. -/
inductive KillFails (pid : Value) (signal : Option Order) : Failure → Prop
  | killed (hsignal : signal ≠ none) (hreach : E.ReachesValue pid) : KillFails pid signal .killed
  | gone (hpid : pid.IsPid) : KillFails pid signal (.raised .OSError)
  | other (hpid : ¬ pid.IsPid) {e : PyErr} (hne : e ≠ .OSError) : KillFails pid signal (.raised e)

theorem kill_int (n : ℤ) (signal : Option Order) (w : World β) :
    kill E (.int n) signal w =
      if n < -2 ^ 31 ∨ 2 ^ 31 ≤ n then .error (.raised .OverflowError) (w.pass E)
      else if E.Reaches n then signal.elim (.ok () (w.pass E)) fun _ => .error .killed (w.pass E)
      else ((w.pass E).procs.get? n).elim (.error (.raised .OSError) (w.pass E)) fun _ =>
        .ok () (signal.elim (w.pass E) ((w.pass E).tell n)) := by
  simp only [kill]
  cases signal <;> cases (w.pass E).procs.get? n <;> rfl

theorem wp_kill (pid : Value) (signal : Option Order) (w : World β) :
    wp (kill E pid signal) (fun _ _ => pid.IsPid) (fun e _ => KillFails E pid signal e) w := by
  have hother {e : PyErr} (hpid : ∀ n, pid ≠ .int n) (hne : e ≠ .OSError) :
      KillFails E pid signal (.raised e) :=
    .other (fun ⟨n, hn, _⟩ => hpid n hn) hne
  cases pid with
  | none => exact hother (fun _ => by simp) (by simp)
  | str t => exact hother (fun _ => by simp) (by simp)
  | object shown truthy => exact hother (fun _ => by simp) (by simp)
  | int n =>
      rw [wp, kill_int]
      by_cases hrange : n < -2 ^ 31 ∨ 2 ^ 31 ≤ n
      · rw [if_pos hrange]
        refine .other ?_ (by simp)
        rintro ⟨m, hm, hlow, hhigh⟩
        cases hm
        omega
      rw [if_neg hrange]
      have hpid : (Value.int n).IsPid := ⟨n, rfl, by omega⟩
      by_cases hreach : E.Reaches n
      · rw [if_pos hreach]
        cases signal with
        | none => exact hpid
        | some o => exact .killed (by simp) ⟨n, rfl, hreach⟩
      · rw [if_neg hreach]
        cases (w.pass E).procs.get? n with
        | none => exact .gone hpid
        | some p => exact hpid

/-- **An order to exit that reaches the driver ends it.** -/
theorem wp_kill_reaches {pid : Value} (h : E.ReachesValue pid) (signal : Order) (w : World β) :
    wp (kill E pid (some signal)) (fun _ _ => False) (fun e _ => e = .killed) w := by
  obtain ⟨n, rfl, hreach⟩ := h
  have hrange : ¬ (n < -2 ^ 31 ∨ 2 ^ 31 ≤ n) := by
    have hdriver := E.driver_range
    have hgroup := E.group_range
    rcases hreach with rfl | rfl | rfl <;> omega
  rw [wp, kill_int, if_neg hrange, if_pos hreach]
  rfl

/-- Waiting ends nothing, and comes to an end where there is a pid. -/
theorem wp_waitForExit_spares (pid : Value) (k : ℕ) (w : World β) :
    wp (waitForExit E pid k) (fun _ _ => True)
      (fun e _ => ∃ e', e = .raised e' ∧ e' ≠ .OSError ∧ ¬ pid.IsPid) w := by
  induction k generalizing w with
  | zero => trivial
  | succ k ih =>
      rw [waitForExit, wp_bind, wp_exceptOSError, wp_bind]
      refine wp_mono (wp_kill E pid none w) (fun _ w' _ => ?_)
        fun e w' hfails => ⟨fun _ => ?_, fun hne => ?_⟩
      · rw [wp_pure, if_pos rfl]
        exact ih w'
      · rw [wp_pure, if_neg (by simp)]
        trivial
      · cases hfails with
        | killed hsignal _ => exact (hsignal rfl).elim
        | gone _ => exact (hne rfl).elim
        | other hpid hother => exact ⟨_, rfl, hother, hpid⟩

/-- An order to exit to what does not reach the driver. -/
theorem wp_kill_spares {pid : Value} (h : ¬ E.ReachesValue pid) (signal : Order) (w : World β) :
    wp (exceptOSError (kill E pid (some signal)) (pure ())) (fun _ _ => pid.IsPid)
      (fun e _ => e ≠ .killed ∧ ¬ pid.IsPid) w := by
  rw [wp_exceptOSError]
  refine wp_mono (wp_kill E pid _ w) (fun _ _ hpid => hpid) fun e w' hfails => ?_
  cases hfails with
  | killed _ hreach => exact (h hreach).elim
  | gone hpid => exact ⟨fun _ => hpid, fun hne => (hne rfl).elim⟩
  | other hpid hne =>
      refine ⟨fun heq => (hne ?_).elim, fun _ => ⟨by simp, hpid⟩⟩
      cases heq
      rfl

theorem wp_unlink (path : Value) (w : World β) :
    wp (unlink E path) (fun _ _ => path.IsPath)
      (fun e _ => ∃ e', e = .raised e' ∧ (e' = .OSError ↔ path.IsPath)) w := by
  cases path with
  | none => exact ⟨_, rfl, by simp [Value.IsPath]⟩
  | int n => exact ⟨_, rfl, by simp [Value.IsPath]⟩
  | object shown truthy => exact ⟨_, rfl, by simp [Value.IsPath]⟩
  | str t =>
      rw [wp]
      simp only [unlink]
      by_cases hnul : '\x00' ∈ t
      · rw [if_pos hnul]
        exact ⟨_, rfl, by simp [Value.IsPath, hnul]⟩
      · rw [if_neg hnul]
        have hpath : (Value.str t).IsPath := ⟨t, rfl, hnul⟩
        cases w.registry.items.find? fun e => decide (metaFile e.1 = t) && e.2.isSome with
        | some e => exact hpath
        | none =>
            cases E.unlink t with
            | false => exact hpath
            | true => exact ⟨_, rfl, by simp [hpath]⟩

/-- Removing the socket of the proxy. -/
theorem wp_unlink_spares (path : Value) (w : World β) :
    wp (if path.truthy then exceptOSError (unlink E path) (pure ()) else pure ())
      (fun _ _ => path.truthy = true → path.IsPath)
      (fun e _ => e ≠ .killed ∧ ¬ (path.truthy = true → path.IsPath)) w := by
  rw [wp_ite]
  refine ⟨fun htruthy => ?_, fun hfalse htruthy => (hfalse htruthy).elim⟩
  rw [wp_exceptOSError]
  refine wp_mono (wp_unlink E path w) (fun _ _ hpath _ => hpath) fun e w' hfails => ?_
  obtain ⟨e', rfl, hiff⟩ := hfails
  refine ⟨fun hos _ => hiff.1 (Failure.raised.inj hos), fun hne => ⟨by simp, fun himp => ?_⟩⟩
  exact hne (by rw [hiff.2 (himp htruthy)])

/-- The signals to the proxy. -/
theorem wp_signals_spares {pid : Value} (h : ¬ E.ReachesValue pid) (w : World β) :
    wp (exceptOSError (do
      kill E pid (some .SIGTERM)
      let exited ← waitForExit E pid 20
      if exited then pure () else kill E pid (some .SIGKILL)) (pure ()))
      (fun _ _ => pid.IsPid) (fun e _ => e ≠ .killed ∧ ¬ pid.IsPid) w := by
  -- no signal ends the driver, and only what is no pid keeps them from coming to an end
  have hfails {e : Failure} {signal : Order} {w' : World β} (hf : KillFails E pid (some signal) e) :
      (e = .raised .OSError → wp (pure ()) (fun _ _ => pid.IsPid)
        (fun e _ => e ≠ Failure.killed ∧ ¬ pid.IsPid) w') ∧
        (e ≠ .raised .OSError → e ≠ .killed ∧ ¬ pid.IsPid) := by
    cases hf with
    | killed _ hreach => exact (h hreach).elim
    | gone hpid => exact ⟨fun _ => hpid, fun hne => (hne rfl).elim⟩
    | other hpid hne =>
        exact ⟨fun heq => (hne (Failure.raised.inj heq)).elim, fun _ => ⟨by simp, hpid⟩⟩
  rw [wp_exceptOSError, wp_bind]
  refine wp_mono (wp_kill E pid _ w) (fun _ w₁ hpid => ?_) fun e w₁ hf => hfails hf
  rw [wp_bind]
  refine wp_mono (wp_waitForExit_spares E pid 20 w₁) (fun exited w₂ _ => ?_) fun e w₂ hwait => ?_
  · rw [wp_ite]
    refine ⟨fun _ => hpid, fun _ => ?_⟩
    exact wp_mono (wp_kill E pid _ w₂) (fun _ _ hpid => hpid) fun e w₃ hf => hfails hf
  · obtain ⟨_, _, _, hnot⟩ := hwait
    exact (hnot hpid).elim

/-- **`stop_scm_proxy`** does not end the driver where the pid of the proxy does not reach it, and returns
exactly where it comes to its end. -/
theorem wp_stopScmProxy_spares {d : QemuDiskRaw} (h : ¬ E.ReachesValue d.scm_proxy_pid) (w : World β) :
    wp (stopScmProxy E d) (fun _ _ => d.StopsProxy) (fun e _ => e ≠ .killed ∧ ¬ d.StopsProxy) w := by
  rw [stopScmProxy, wp_ite]
  refine ⟨fun hnone => .inl hnone, fun hne => ?_⟩
  rw [wp_bind]
  refine wp_mono (wp_signals_spares E h w) (fun _ w' hpid => ?_) fun e _ hnot => ⟨hnot.1, ?_⟩
  · refine wp_mono (wp_unlink_spares E d.scm_sock_path w') (fun _ _ hpath => .inr ⟨hpid, hpath⟩)
      fun e _ hnot => ⟨hnot.1, ?_⟩
    rintro (hnone | ⟨_, hpath⟩)
    · exact hne hnone
    · exact hnot.2 hpath
  · rintro (hnone | ⟨hpid, _⟩)
    · exact hne hnone
    · exact hnot.2 hpid

theorem wp_stopScmProxy_reaches {d : QemuDiskRaw} (h : E.ReachesValue d.scm_proxy_pid) (w : World β) :
    wp (stopScmProxy E d) (fun _ _ => False) (fun e _ => e = .killed) w := by
  have hne : d.scm_proxy_pid ≠ .none := by
    obtain ⟨n, hn, _⟩ := h
    simp [hn]
  rw [stopScmProxy, if_neg hne, wp_bind, wp_exceptOSError, wp_bind]
  refine wp_mono (wp_kill_reaches E h .SIGTERM w) (fun _ _ hf => hf.elim) ?_
  rintro e w' rfl
  exact ⟨fun hos => (by cases hos), fun _ => rfl⟩

/-- A command that the daemon does not answer. -/
theorem wp_qmpQuit_spares (qmp_sock : Value) (w : World β) :
    wp (qmpQuit E qmp_sock) (fun _ _ => ∃ k, E.qmp k = .answered) (fun e _ => e ≠ .killed) w := by
  rw [wp, qmpQuit]
  cases (w.pass E).listener qmp_sock with
  | none => simp
  | some n =>
      dsimp only
      cases hqmp : E.qmp (w.pass E).tick with
      | silent => simp
      | heard => simp
      | answered => exact ⟨_, hqmp⟩

/-- **`quit` does not end the driver** where the record spares it. -/
theorem wp_quit_spares {d : QemuDiskRaw} (h : Spares E d) (w : World β) :
    wp (quit E d) (fun _ _ => True) (fun e _ => e ≠ .killed) w := by
  rw [quit, wp_ite]
  refine ⟨fun _ => by simp [raise], fun hne => ?_⟩
  obtain ⟨hproxy, hpid⟩ := h.resolve_left hne
  rw [wp_bind]
  refine wp_mono (wp_stopScmProxy_spares E hproxy w) (fun _ w₁ hstops => ?_) fun e _ hf => hf.1
  rw [wp_bind, wp_exceptException]
  have hwait (w₂ : World β) : wp (waitForExit E d.pid 20 >>= fun _ => pure ()) (fun _ _ => True)
      (fun e _ => e ≠ .killed) w₂ := by
    rw [wp_bind]
    refine wp_mono (wp_waitForExit_spares E d.pid 20 w₂) (fun _ _ _ => trivial) ?_
    rintro e w₃ ⟨e', rfl, _⟩
    simp
  refine wp_mono (wp_qmpQuit_spares E d.qmp_sock w₁) (fun _ w₂ _ => hwait w₂) fun e w₂ hne' =>
    ⟨fun hk => (hne' hk).elim, fun _ => ?_⟩
  exact wp_mono (wp_kill_spares E (hpid hstops) .SIGKILL w₂) (fun _ w₃ _ => hwait w₃)
    fun e w₃ hf => hf.1

/-- **Where the record does not spare the driver**, and the daemon does not answer, `quit` ends it. -/
theorem wp_quit_reaches {d : QemuDiskRaw} (h : ¬ Spares E d) (hsilent : ∀ k, E.qmp k ≠ .answered)
    (w : World β) : wp (quit E d) (fun _ _ => False) (fun e _ => e = .killed) w := by
  obtain ⟨hne, hrest⟩ := not_or.1 h
  rw [quit, if_neg hne, wp_bind]
  by_cases hproxy : E.ReachesValue d.scm_proxy_pid
  · exact wp_mono (wp_stopScmProxy_reaches E hproxy w) (fun _ _ hf => hf.elim) fun _ _ hk => hk
  · have hboth : d.StopsProxy ∧ E.ReachesValue d.pid := by
      by_contra hnot
      exact hrest ⟨hproxy, fun hstops hpid => hnot ⟨hstops, hpid⟩⟩
    refine wp_mono (wp_stopScmProxy_spares E hproxy w) (fun _ w₁ _ => ?_)
      fun e _ hf => (hf.2 hboth.1).elim
    rw [wp_bind, wp_exceptException]
    refine wp_mono (wp_qmpQuit_spares E d.qmp_sock w₁) ?_ fun e w₂ hne' =>
      ⟨fun hk => (hne' hk).elim, fun _ => ?_⟩
    · rintro _ w₂ ⟨k, hk⟩
      exact (hsilent k hk).elim
    · rw [wp_exceptOSError]
      refine wp_mono (wp_kill_reaches E hboth.2 .SIGKILL w₂) (fun _ _ hf => hf.elim) ?_
      rintro e w₃ rfl
      exact ⟨fun hos => (by cases hos), fun _ => rfl⟩

/-! ### The calls that never fail -/

/-- The key has no file, or one that can be read back and whose record spares the driver. -/
def Loadable (w : World β) (key : Text) : Prop :=
  ∀ content, w.file key = some content → Readable E.pickle content ∧
    ∀ d, (E.pickle.loads content >>= Data.record) = .ok d → Spares E d

/-- **The end of `detach` and of `close`**: it returns and leaves no file, where the file can be read
back and spares the driver. -/
theorem wp_cleanUp {key : Text} {w : World β} (h : Loadable E w key) :
    wp (cleanUp E key) (fun _ w' => w'.file key = none) (fun _ _ => False) w := by
  rw [cleanUp, wp_bind]
  cases hfile : w.file key with
  | none =>
      rw [wp_of_ok (loadMetadata_none E hfile)]
      exact hfile
  | some content =>
      obtain ⟨hread, hspares⟩ := h content hfile
      obtain ⟨d, hd⟩ := (record_ok_iff _ _).2 hread
      rw [wp_of_ok (loadMetadata_ok E hfile hd)]
      change wp (exceptException (quit E d) (pure ()) >>= fun _ => removeMetadata key) _ _ _
      have hremove (w' : World β) : wp (removeMetadata key) (fun _ w'' => w''.file key = none)
          (fun _ _ => False) w' :=
        wp_mono (wp_removeMetadata key w') (fun _ _ hr => hr.gone) fun _ _ hf => hf
      rw [wp_bind, wp_exceptException]
      exact wp_mono (wp_quit_spares E (hspares d hd) w) (fun _ w' _ => hremove w')
        fun e w' hne => ⟨fun hk => (hne hk).elim, fun _ => hremove w'⟩

/-- Where the file cannot be read back the call raises, and where its record does not spare the driver,
a daemon that does not answer is enough for the call to end it. -/
theorem loadable_of_returns {key : Text} {w : World β} (hsilent : ∀ k, E.qmp k ≠ .answered)
    (hret : returns (cleanUp E key) w = true) : Loadable E w key := by
  intro content hfile
  have hread : Readable E.pickle content := by
    by_contra hnot
    obtain ⟨e, he⟩ := loadMetadata_error E hfile hnot
    have hraise : cleanUp E key w = .error (.raised e) w := bind_error he
    rw [returns, hraise] at hret
    cases hret
  refine ⟨hread, fun d hd => ?_⟩
  by_contra hnot
  have hwp : wp (cleanUp E key) (fun _ _ => False) (fun e _ => e = .killed) w := by
    rw [cleanUp, wp_bind, wp_of_ok (loadMetadata_ok E hfile hd)]
    change wp (exceptException (quit E d) (pure ()) >>= fun _ => removeMetadata key) _ _ _
    rw [wp_bind, wp_exceptException]
    refine wp_mono (wp_quit_reaches E hnot hsilent w) (fun _ _ hf => hf.elim) ?_
    rintro e w' rfl
    exact ⟨fun _ => rfl, fun hne => (hne rfl).elim⟩
  obtain ⟨e, w', herr, _⟩ := exists_error_of_wp hwp
  rw [returns, herr] at hret
  cases hret

/-- None of the calls raises or ends the driver, and no file is left by `detach` or by `close`. -/
structure NeverFail (persist : Persist β) (uri : Text) (w : World β) : Prop where
  detach : returns (detach E uri) w = true
  close : returns (close E uri) w = true
  deactivate : returns (deactivate E persist uri) w = true
  detached : ∀ sr_type device_path, parseUri uri = .ok (sr_type, device_path) →
    (after (Registry.detach E uri) w).file (deviceKey E.sha device_path) = none
  closed : ∀ sr_type device_path, parseUri uri = .ok (sr_type, device_path) →
    (after (Registry.close E uri) w).file (deviceKey E.sha device_path) = none

/-- `deactivate` never fails, whatever its CBT part does. -/
theorem returns_deactivate (persist : Persist β) (uri : Text) (w : World β) :
    returns (deactivate E persist uri) w = true := by
  rw [deactivate]
  split
  · rfl
  · next device_path _ =>
    have hpersist : wp (cbtPersistOnDeactivate E persist device_path) (fun _ _ => True)
        (fun e _ => e ≠ .killed) w := by
      rw [cbtPersistOnDeactivate, wp_bind]
      exact wp_mono (wp_loadMetadata E _ w) (fun _ w' _ => wp_raising _ w') fun _ _ hne => hne
    have hwp : wp (exceptException (cbtPersistOnDeactivate E persist device_path) (pure ()))
        (fun _ _ => True) (fun _ _ => False) w := by
      rw [wp_exceptException]
      exact wp_mono hpersist (fun _ _ _ => trivial) fun _ _ hne => ⟨fun hk => hne hk, fun _ => trivial⟩
    obtain ⟨a, w', hok, _⟩ := exists_ok_of_wp hwp
    rw [returns, hok]

theorem neverFail_of_loadable {persist : Persist β} {uri : Text} {w : World β}
    (h : ∀ sr_type device_path, parseUri uri = .ok (sr_type, device_path) →
      Loadable E w (deviceKey E.sha device_path)) : NeverFail E persist uri w := by
  cases hparse : parseUri uri with
  | error e =>
      refine ⟨?_, ?_, returns_deactivate E persist uri w, ?_, ?_⟩
      · rw [detach, hparse]
        rfl
      · rw [close, hparse]
        rfl
      · intro _ _ hok
        cases hparse.symm.trans hok
      · intro _ _ hok
        cases hparse.symm.trans hok
  | ok parsed =>
      obtain ⟨sr_type, device_path⟩ := parsed
      have hwp := wp_cleanUp E (h sr_type device_path hparse)
      have hret : returns (cleanUp E (deviceKey E.sha device_path)) w = true := by
        obtain ⟨a, w', hok, _⟩ := exists_ok_of_wp hwp
        rw [returns, hok]
      have hgone : (after (cleanUp E (deviceKey E.sha device_path)) w).file
          (deviceKey E.sha device_path) = none :=
        after_of_wp (wp_mono hwp (fun _ _ hg => hg) fun _ _ hf => hf.elim)
      have hdetach : detach E uri = cleanUp E (deviceKey E.sha device_path) := by
        rw [detach, hparse]
      have hclose : close E uri = cleanUp E (deviceKey E.sha device_path) := by
        rw [close, hparse]
      refine ⟨hdetach ▸ hret, hclose ▸ hret, returns_deactivate E persist uri w, ?_, ?_⟩
      · intro _ _ hok
        cases hparse.symm.trans hok
        rw [hdetach]
        exact hgone
      · intro _ _ hok
        cases hparse.symm.trans hok
        rw [hclose]
        exact hgone

/-- The same host, where processes and files react in another way. -/
def Env.reacting (reactions : Reactions) : Env β := { E with toReactions := reactions }

/-- No daemon answers. -/
def Reactions.silenced (reactions : Reactions) : Reactions :=
  { reactions with qmp := fun _ => .silent }

end

/-! ### A file that was never written -/

/-- `pickle` on files that hold a value, or nothing. -/
def samplePickle : Pickle (Option Data) where
  dumps d := some (.dict d)
  loads content := content.elim (.error .EOFError) .ok
  loads_dumps _ := rfl
  empty := none
  loads_empty := rfl

theorem range_4000 : (1 : ℤ) < 4000 ∧ (4000 : ℤ) < 2 ^ 31 := by decide

/-- Surroundings in which the daemons answer, and exit when they are told to. -/
def sampleEnv : Env (Option Data) where
  pickle := samplePickle
  sha := sampleSha256
  exits _ := [2107, 2108]
  qmp _ := .answered
  unlink _ := false
  isOpen _ := false
  driver := 4000
  driver_range := range_4000
  group := 4000
  group_range := range_4000

def sampleUri : Text := "raw+qdisk://zfs-live//dev/zvol/tank/3e2a".toList

/-- `save_metadata` was interrupted after it had opened the file of the device. -/
def interruptedWorld : World (Option Data) where
  root := true
  registry := Dict.empty.set "8988cc58426d7dff".toList (some samplePickle.empty)
  procs := Dict.empty
  devices _ := true
  told := []
  tick := 0

end Registry

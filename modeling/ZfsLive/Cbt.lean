/-
**Changed-block tracking over the life of a volume** (`src/datapath/datapath.py`,
`src/datapath/qemudisk_raw.py`, `src/volume/volume.py`).

A dirty bitmap `cbt-active` on the qemu process of a volume records the writes of the guest.  The hooks
of `Datapath.activate`, `Datapath.deactivate` and `Volume.snapshot` find that process, either in the
driver's registry or among the processes of xenopsd, export its bitmaps over NBD, save what was
exported in a file of the repository, and set up bitmaps from such a file.

Every command waits for its answer, and the guest can write before each of them: `Env.writes` says
which writes come before which command, so that a run of a hook over all `Env`s is every interleaving
of its commands with the writes of the guest.  A command can also fail, as `Env.fault` says.

Main definitions:

* `Cbt.Env`, `Cbt.Host`, `Cbt.CbtM`;
* `Cbt.detectBlockNode`, `Cbt.findXenopsdQemuForDevice` — the process of a device;
* `Cbt.exportBitmap`, `Cbt.prepareBitmapFromPayload` — saving a bitmap, and setting one up;
* `Cbt.activate`, `Cbt.deactivate`, `Cbt.snapshot`, `Cbt.attach`, `Cbt.detach` — the calls, as far as
  they concern the bitmaps.
-/

import Mathlib.Logic.Function.Basic
import ZfsLive.Base.Qemu
import ZfsLive.Base.Wp
import ZfsLive.ChangedBlocks

set_option relaxedAutoImplicit false
set_option autoImplicit false

namespace Cbt

open Qemu ChangedBlocks

/-! ### Surroundings and state -/

/-- A write of a guest, at the process and the node where it arrives. -/
structure GuestWrite where
  qmp_sock : String
  node : String
  range : Write
  deriving DecidableEq, Repr

/-- What a hook meets and does not change. -/
structure Env where
  realpath : String → String
  /-- `_device_key`, a hash of the device path that is taken to have no collisions. -/
  deviceKey : String → String
  deviceKey_injective : Function.Injective deviceKey
  /-- The sorted QMP sockets of xenopsd, if their directory exists. -/
  xenSockets : Option (List String)
  /-- `zfs get xcp:sr` of a dataset; none when it fails. -/
  srProperty : String → Option String
  /-- The commands that fail for a reason of their own, by their position in the run. -/
  fault : ℕ → Bool
  /-- The failing QMP commands that were executed all the same; only their answer did not arrive. -/
  executed : ℕ → Bool
  /-- The writes of the guests before a command, by its position in the run. -/
  writes : ℕ → List GuestWrite

/-- A `QemuDiskRaw`, without the flag `_nbd_server_running`. -/
structure QemuDisk where
  qmp_sock : String
  nbd_unix_sock : String
  block_node_name : String
  deriving DecidableEq, Repr

/-- What happens on a host, as far as the tracking is concerned. -/
inductive Event
  | write (w : GuestWrite)
  | command (qmp_sock : String) (c : Command)
  | takeSnapshot (snap_uuid : String)
  deriving DecidableEq, Repr

/-- The state of the host. -/
structure Host where
  /-- The running qemu processes by their QMP sockets. -/
  processes : Dict String Process
  /-- The saved metadata of the daemons that the driver spawned, by device key. -/
  registry : Dict String QemuDisk
  /-- The saved bitmaps by repository and key; `none` for a file that cannot be read. -/
  pickles : Dict (String × String) (Option Persisted)
  /-- The flag `_nbd_server_running` of the `QemuDiskRaw` in hand. -/
  nbd_server_running : Bool
  /-- The number of commands that were run. -/
  clock : ℕ
  /-- What happened, the latest first. -/
  trace : List Event

/-- Programs over the state of the host. -/
abbrev CbtM (α : Type) : Type := EStateM QmpError Host α

/-- A write of a guest. -/
def Host.guestWrite (h : Host) (w : GuestWrite) : Host :=
  { h with
    processes := h.processes.mapVals fun s p => if s = w.qmp_sock then p.write w.node w.range else p
    trace := .write w :: h.trace }

section

variable (E : Env)

/-- The guests write, and the next command starts. -/
def Host.next (h : Host) : Host :=
  { (E.writes h.clock).foldl Host.guestWrite h with clock := h.clock + 1 }

/-- A command whose answer does not arrive. -/
def Host.execute (h : Host) (qmp_sock : String) (c : Command) : Host :=
  match h.processes.get? qmp_sock with
  | none => h
  | some p =>
      match p.exec c with
      | .error _ => h
      | .ok p' => { h with processes := h.processes.set qmp_sock p' }

/-- `QMPConnection.command` over a fresh connection; the answer is read off the process. -/
def qmpCommand (qmp_sock : String) (c : Command) : CbtM Process := fun h =>
  let h' := { h.next E with trace := .command qmp_sock c :: (h.next E).trace }
  if E.fault h.clock then
    .error .failed (if E.executed h.clock then h'.execute qmp_sock c else h')
  else
    match h'.processes.get? qmp_sock with
    | none => .error .failed h'
    | some p =>
        match p.exec c with
        | .error e => .error e h'
        | .ok p' => .ok p' { h' with processes := h'.processes.set qmp_sock p' }

/-- Read or change the files of the host. -/
def fileCommand {α : Type} (f : Host → Except QmpError (α × Host)) : CbtM α := fun h =>
  let h' := h.next E
  if E.fault h.clock then
    .error .failed h'
  else
    match f h' with
    | .error e => .error e h'
    | .ok (a, h'') => .ok a h''

/-! ### The process of a device -/

/-- `os.path` names the device of a drive: the same text, or the same file. -/
def sameDevice (device_path block_file : String) : Bool :=
  block_file = device_path ∨ block_file = E.realpath device_path ∨
    E.realpath block_file = E.realpath device_path

/-- A value that Python takes for true. -/
def truthy (s : Option String) : Option String := s.filter (· ≠ "")

/-- The first strategy: the node of the first drive with this device. -/
def nodeByPath (p : Process) (device_path : String) : Option String :=
  if device_path = "" then
    none
  else
    p.drives.findSome? fun block =>
      match truthy block.node_name, truthy block.file with
      | some node, some block_file => if sameDevice E device_path block_file then some node else none
      | _, _ => none

/-- The second strategy: the node of the first drive with dirty bitmaps. -/
def nodeByBitmaps (p : Process) : Option String :=
  p.drives.findSome? fun block =>
    (truthy block.node_name).filter fun node => !(p.bitmaps node).items.isEmpty

/-- `_detect_block_node`: the strategies one after the other. -/
def detectBlockNode (qmp_sock device_path : String) : CbtM String := do
  let p ← qmpCommand E qmp_sock .queryBlock
  match nodeByPath E p device_path with
  | some node => return node
  | none =>
      match nodeByBitmaps p with
      | some node => return node
      | none => throw (.driver ("Cannot determine block node name from query-block; " ++
          "supply device_path or block_node_name explicitly"))

/-- The part of a path after its last slash. -/
def basename (path : List Char) : List Char := (path.reverse.takeWhile (· ≠ '/')).reverse

/-- The part of a path before its last slash, if it has one. -/
def parent (path : List Char) : Option (List Char) :=
  match path.reverse.dropWhile (· ≠ '/') with
  | [] => none
  | _ :: rest => some rest.reverse

/-- `_domid_from_qmp_socket`, with `""` for an unrecognised shape. -/
def domidFromQmpSocket (qmp_sock : String) : String :=
  match (basename qmp_sock.toList).dropPrefix? "qmp-libxl-".toList with
  | some domid => String.ofList domid
  | none => ""

/-- The directory of a path. -/
def dirname (path : String) : String := String.ofList ((parent path.toList).getD [])

/-- The NBD socket of a process of xenopsd. -/
def nbdScratch (qmp_sock : String) : String :=
  let domid := domidFromQmpSocket qmp_sock
  if domid = "" then
    dirname qmp_sock ++ "/qemu-nbd.None"
  else
    "/var/run/zfs-live/qmp-libxl-" ++ domid ++ ".nbd"

/-- `QemuDiskRaw.connect_existing`, without a node name. -/
def connectExisting (qmp_sock device_path : String) : CbtM QemuDisk := do
  let node ← detectBlockNode E qmp_sock device_path
  return ⟨qmp_sock, nbdScratch qmp_sock, node⟩

/-- The scan over the sockets: a socket that raises is skipped. -/
def scanSockets (device_path : String) : List String → CbtM (Option QemuDisk)
  | [] => return none
  | sock :: socks => do
      match ← tryCatch (some <$> connectExisting E sock device_path) fun _ => pure none with
      | some qd => return some qd
      | none => scanSockets device_path socks

/-- `_find_xenopsd_qemu_for_device`. -/
def findXenopsdQemuForDevice (device_path : String) : CbtM (Option QemuDisk) :=
  scanSockets E device_path (E.xenSockets.getD [])

/-- `load_metadata`. -/
def loadMetadata (key : String) : CbtM (Option QemuDisk) := do
  let h ← get
  return h.registry.get? key

/-- The process of a device: a daemon of the driver, or else one of xenopsd.  The NBD server of a
daemon is running. -/
def findQemu (device_path : String) : CbtM (Option QemuDisk) := do
  match ← loadMetadata (E.deviceKey device_path) with
  | some qd =>
      modify fun h => { h with nbd_server_running := true }
      return some qd
  | none =>
      modify fun h => { h with nbd_server_running := false }
      findXenopsdQemuForDevice E device_path

/-! ### Bitmaps -/

section

variable (qd : QemuDisk)

def cbtBitmapAdd (name : String) (granularity : ℕ) : CbtM Unit := do
  let _ ← qmpCommand E qd.qmp_sock (.bitmapAdd qd.block_node_name name granularity)

def cbtBitmapRemove (name : String) : CbtM Unit := do
  let _ ← qmpCommand E qd.qmp_sock (.bitmapRemove qd.block_node_name name)

def cbtBitmapClear (name : String) : CbtM Unit := do
  let _ ← qmpCommand E qd.qmp_sock (.bitmapClear qd.block_node_name name)

def cbtBitmapEnable (name : String) : CbtM Unit := do
  let _ ← qmpCommand E qd.qmp_sock (.bitmapEnable qd.block_node_name name)

def cbtBitmapDisable (name : String) : CbtM Unit := do
  let _ ← qmpCommand E qd.qmp_sock (.bitmapDisable qd.block_node_name name)

def cbtBitmapMerge (target : String) (sources : List String) : CbtM Unit := do
  let _ ← qmpCommand E qd.qmp_sock (.bitmapMerge qd.block_node_name target sources)

/-- The bitmaps of the node, by name. -/
def cbtListBitmaps : CbtM Bitmaps := do
  let p ← qmpCommand E qd.qmp_sock .queryNamedBlockNodes
  return p.bitmaps qd.block_node_name

/-- `nbd-server-start`; a server that runs already is as good. -/
def startNbdServer : CbtM Unit :=
  tryCatch
    (do let _ ← qmpCommand E qd.qmp_sock (.nbdServerStart qd.nbd_unix_sock))
    fun e => if e = .serverRunning then pure () else throw e

def ensureNbdServer : CbtM Unit := do
  let h ← get
  if h.nbd_server_running then
    return ()
  else
    startNbdServer E qd
    modify fun h => { h with nbd_server_running := true }

/-- Add an NBD export that shows the bitmap, and describe it. -/
def cbtExportBitmap (name : String) : CbtM NbdDescriptor := do
  let export_name := "cbt_" ++ name
  ensureNbdServer E qd
  let _ ← qmpCommand E qd.qmp_sock (.nbdServerAdd qd.block_node_name export_name name)
  return ⟨some qd.nbd_unix_sock, some export_name, some ("qemu:dirty-bitmap:" ++ name)⟩

/-- `export_bitmap`: freeze the bitmap, and export it. -/
def exportBitmap (name : String) : CbtM BitmapPayload := do
  cbtBitmapDisable E qd name
  let bitmaps ← cbtListBitmaps E qd
  match bitmaps.get? name with
  | none => throw (.driver ("export_bitmap: bitmap '" ++ name ++ "' not found on node " ++
      qd.block_node_name))
  | some info =>
      let nbd ← cbtExportBitmap E qd name
      return ⟨name, some info.granularity, info.dirty.eraseDups.length * info.granularity, some nbd⟩

/-- The granularity that a payload asks for. -/
def payloadShape (payload : BitmapPayload) : ℤ := payload.granularity.getD 65536

/-- Make room for a bitmap of another granularity. -/
def removeStale (name : String) (info : Option Bitmap) : CbtM Unit :=
  match info with
  | some _ => cbtBitmapRemove E qd name
  | none => return ()

/-- `prepare_bitmap_from_payload`: an empty bitmap of the saved granularity, unless there is one of
that name and granularity. -/
def prepareBitmapFromPayload (name : String) : Single → CbtM Unit
  | .other => throw (.driver "prepare_bitmap_from_payload: payload must be a dict")
  | .dict payload => do
      let bitmaps ← cbtListBitmaps E qd
      let info := bitmaps.get? name
      if info.map (fun b => (b.granularity : ℤ)) = some (payloadShape payload) then
        return ()
      else
        removeStale E qd name info
        cbtBitmapAdd E qd name (payloadShape payload).toNat

end

/-! ### The files -/

def ZVOL_DEV_PREFIX : String := "/dev/zvol/"

def vdiUuidFromDevicePath (device_path : String) : String :=
  String.ofList (basename device_path.toList)

/-- `_resolve_sr_uri`: the repository whose dataset is the parent of the zvol. -/
def resolveSrUri (device_path : String) : Option String := do
  let rel ← device_path.toList.dropPrefix? ZVOL_DEV_PREFIX.toList
  let parent_dataset ← parent rel
  let sr_uuid ← truthy (E.srProperty (String.ofList parent_dataset))
  if sr_uuid = "-" then none else some ("file:///var/run/sr-mount/" ++ sr_uuid)

def saveCbtMetadata (sr_uri key : String) (cbt_data : Dict String Single) : CbtM Unit :=
  fileCommand E fun h =>
    .ok ((), { h with pickles := h.pickles.set (sr_uri, key) (some (.dict cbt_data)) })

def loadCbtMetadata (sr_uri key : String) : CbtM (Option Persisted) :=
  fileCommand E fun h =>
    match h.pickles.get? (sr_uri, key) with
    | none => .ok (none, h)
    | some none => .error .failed
    | some (some data) => .ok (some data, h)

/-- The files after a migration: a file under the key of older revisions gets the new key, unless there
is one under the new key already. -/
def migratePickles (pickles : Dict (String × String) (Option Persisted))
    (sr_uri legacy_key new_key : String) : Dict (String × String) (Option Persisted) :=
  match pickles.get? (sr_uri, legacy_key) with
  | none => pickles
  | some data =>
      match pickles.get? (sr_uri, new_key) with
      | none => (pickles.erase (sr_uri, legacy_key)).set (sr_uri, new_key) data
      | some _ => pickles.erase (sr_uri, legacy_key)

def migrateLegacyCbtMetadata (sr_uri legacy_key new_key : String) : CbtM Unit :=
  fileCommand E fun h =>
    .ok ((), { h with pickles := migratePickles h.pickles sr_uri legacy_key new_key })

/-- A migration that fails is logged. -/
def migrateQuietly (sr_uri legacy_key new_key : String) : CbtM Unit :=
  tryCatch (migrateLegacyCbtMetadata E sr_uri legacy_key new_key) fun _ => pure ()

/-! ### The hooks -/

def CBT_PERSISTENT_TRACKING_PREFIX : String := "cbt-active"

/-- The bitmap takes part in deactivation and activation. -/
def isPersistentTrackingBitmap (name : String) : Bool :=
  CBT_PERSISTENT_TRACKING_PREFIX.toList.isPrefixOf name.toList

/-- The loop over the bitmaps of `_cbt_persist_on_deactivate`: a bitmap that fails is left out. -/
def exportEach (qd : QemuDisk) : List String → Dict String Single → CbtM (Dict String Single)
  | [], payload => return payload
  | name :: names, payload => do
      match ← tryCatch (some <$> exportBitmap E qd name) fun _ => pure none with
      | some exported => exportEach qd names (payload.set name (.dict exported))
      | none => exportEach qd names payload

/-- The end of `_cbt_persist_on_deactivate`, with a repository to save to. -/
def persistBitmaps (qd : QemuDisk) (device_path sr_uri : String) (names : List String) :
    CbtM Unit := do
  let vdi_key := vdiUuidFromDevicePath device_path
  migrateQuietly E sr_uri (E.deviceKey device_path) vdi_key
  let payload ← exportEach E qd names Dict.empty
  if payload.items.isEmpty then
    return ()
  else
    saveCbtMetadata E sr_uri vdi_key payload

def cbtPersistOnDeactivate (device_path : String) : CbtM Unit := do
  match ← findQemu E device_path with
  | none => return ()
  | some qd => do
      let all_bitmaps ← cbtListBitmaps E qd
      let names := all_bitmaps.keys.filter isPersistentTrackingBitmap
      match names, resolveSrUri E device_path with
      | _ :: _, some sr_uri => persistBitmaps E qd device_path sr_uri names
      | _, _ => return ()

/-- One round of the loop of `_cbt_restore_on_activate`: other bitmaps are left alone, and a failure
is logged. -/
def prepareTracking (qd : QemuDisk) (name : String) (payload : Single) : CbtM Unit :=
  if isPersistentTrackingBitmap name then
    tryCatch (prepareBitmapFromPayload E qd name payload) fun _ => pure ()
  else
    return ()

/-- The loop over the saved bitmaps of `_cbt_restore_on_activate`. -/
def prepareEach (qd : QemuDisk) : List (String × Single) → CbtM Unit
  | [] => return ()
  | (name, payload) :: rest => do
      prepareTracking E qd name payload
      prepareEach qd rest

def cbtRestoreOnActivate (device_path : String) : CbtM Unit := do
  match ← findQemu E device_path with
  | none => return ()
  | some qd =>
      match resolveSrUri E device_path with
      | none => return ()
      | some sr_uri => do
          let vdi_key := vdiUuidFromDevicePath device_path
          migrateQuietly E sr_uri (E.deviceKey device_path) vdi_key
          match ← loadCbtMetadata E sr_uri vdi_key with
          | some (.dict payload) => prepareEach E qd payload.items
          | _ => return ()

def CBT_SNAPSHOT_BITMAP_PREFIX : String := "cbt-snap-"
def CBT_ACTIVE_BITMAP : String := "cbt-active"

/-- The capture sequence, for a process with a tracking bitmap of this granularity. -/
def captureBitmap (qd : QemuDisk) (granularity : ℕ) (sr snap_uuid : String) : CbtM Unit := do
  let frozen_name := CBT_SNAPSHOT_BITMAP_PREFIX ++ snap_uuid
  cbtBitmapDisable E qd CBT_ACTIVE_BITMAP
  cbtBitmapAdd E qd frozen_name granularity
  cbtBitmapMerge E qd frozen_name [CBT_ACTIVE_BITMAP]
  cbtBitmapClear E qd CBT_ACTIVE_BITMAP
  cbtBitmapEnable E qd CBT_ACTIVE_BITMAP
  let payload ← exportBitmap E qd frozen_name
  saveCbtMetadata E ("file://" ++ sr) snap_uuid (Dict.empty.set frozen_name (.dict payload))

/-- The device path of a VDI. -/
def devicePath (sr_dataset vdi_uuid : String) : String :=
  ZVOL_DEV_PREFIX ++ sr_dataset ++ "/" ++ vdi_uuid

def cbtCaptureAtSnapshot (sr sr_dataset parent_vdi_uuid snap_uuid : String) : CbtM Unit := do
  match ← findQemu E (devicePath sr_dataset parent_vdi_uuid) with
  | none => return ()
  | some qd => do
      let bitmaps ← cbtListBitmaps E qd
      match bitmaps.get? CBT_ACTIVE_BITMAP with
      | none => return ()
      | some active => captureBitmap E qd active.granularity sr snap_uuid

/-! ### The calls -/

/-- A hook that raises is logged. -/
def quietly (m : CbtM Unit) : CbtM Unit := tryCatch m fun _ => pure ()

/-- `Datapath.activate` of a device. -/
def activate (device_path : String) : CbtM Unit := quietly (cbtRestoreOnActivate E device_path)

/-- `Datapath.deactivate` of a device. -/
def deactivate (device_path : String) : CbtM Unit := quietly (cbtPersistOnDeactivate E device_path)

/-- The moment at which `zfs snapshot` runs. -/
def takeSnapshot (snap_uuid : String) : CbtM Unit :=
  fileCommand E fun h => .ok ((), { h with trace := .takeSnapshot snap_uuid :: h.trace })

/-- `Volume.snapshot` of a base VDI, as far as the blocks are concerned: ZFS takes the snapshot, and
then the bitmap is captured. -/
def snapshot (sr sr_dataset vdi_uuid snap_uuid : String) : CbtM Unit := do
  takeSnapshot E snap_uuid
  quietly (cbtCaptureAtSnapshot E sr sr_dataset vdi_uuid snap_uuid)

def BLOCK_NODE_NAME : String := "raw_block_node"

def socketDir : String := "/var/run/nonpersistent/qemu-dp-raw"

/-- The process that `create` spawns: the device on one node, which is exported over NBD. -/
def newDaemon (nbd_sock : String) : Process where
  drives := []
  nodes := Dict.empty.set BLOCK_NODE_NAME Dict.empty
  nbd_server := some nbd_sock
  exports := Dict.empty.set BLOCK_NODE_NAME ⟨BLOCK_NODE_NAME, none⟩

/-- `create`: the sockets of a daemon are named after its key. -/
def createDaemon (key : String) : CbtM QemuDisk :=
  fileCommand E fun h =>
    let qmp_sock := socketDir ++ "/qmp_sock." ++ key
    let nbd_sock := socketDir ++ "/qemu-nbd." ++ key
    .ok (⟨qmp_sock, nbd_sock, BLOCK_NODE_NAME⟩,
      { h with processes := h.processes.set qmp_sock (newDaemon nbd_sock) })

def saveMetadata (key : String) (qd : QemuDisk) : CbtM Unit :=
  fileCommand E fun h => .ok ((), { h with registry := h.registry.set key qd })

def removeMetadata (key : String) : CbtM Unit :=
  fileCommand E fun h => .ok ((), { h with registry := h.registry.erase key })

/-- `_ensure_qemu_daemon`: reuse the daemon of the key if it runs, and spawn one otherwise. -/
def ensureQemuDaemon (key : String) : CbtM (Option QemuDisk) := do
  let h ← get
  match h.registry.get? key with
  | some qd =>
      if (h.processes.get? qd.qmp_sock).isSome then
        return some qd
      else do
        removeMetadata E key
        tryCatch (do let qd ← createDaemon E key; saveMetadata E key qd; return some qd)
          fun _ => pure none
  | none =>
      tryCatch (do let qd ← createDaemon E key; saveMetadata E key qd; return some qd)
        fun _ => pure none

/-- `Datapath.attach` of a device. -/
def attach (device_path : String) : CbtM Unit := do
  let _ ← ensureQemuDaemon E (E.deviceKey device_path)

/-- `QemuDiskRaw.quit`: the process ends, and its bitmaps and exports with it. -/
def quit (qd : QemuDisk) : CbtM Unit :=
  fileCommand E fun h => .ok ((), { h with processes := h.processes.erase qd.qmp_sock })

/-- `Datapath.detach` of a device. -/
def detach (device_path : String) : CbtM Unit := do
  let key := E.deviceKey device_path
  match ← loadMetadata key with
  | none => return ()
  | some qd =>
      quietly (quit E qd)
      removeMetadata E key

end

/-! ### The consumer on this host -/

/-- The answer of the NBD server at a socket: the extents of the bitmap of an export. -/
def Host.fetch (h : Host) (socket export_name bitmap_context : String) :
    Except CbtError (List (ℕ × ℕ)) :=
  match h.processes.values.find? (·.nbd_server = some socket) with
  | none => .error .nbd
  | some p =>
      match p.exports.get? export_name with
      | none => .error .nbd
      | some ⟨_, none⟩ => .error .nbd
      | some ⟨node, some bitmap⟩ =>
          if bitmap_context = "qemu:dirty-bitmap:" ++ bitmap then
            match (p.bitmaps node).get? bitmap with
            | some b => .ok (extents b)
            | none => .error .nbd
          else
            .error .nbd

/-- The host as `Volume.list_changed_blocks` sees it. -/
def Host.cbtEnv (h : Host) : CbtEnv where
  importable := true
  load sr_uri key :=
    match h.pickles.get? (sr_uri, key) with
    | none => .ok none
    | some none => .error .load
    | some (some data) => .ok (some data)
  fetch := h.fetch

end Cbt

/-
**The volume driver** (`src/volume/volume.py`, `src/volume/zfs_operations.py`).

A call of the driver is a sequence of commands: queries and updates of a metabase inside a
`db_context`, and `zfs` commands.  Each command can raise, by itself or because the schedule of the
surroundings says so, and an exception undoes the open transaction but no `zfs` command.

The state is a `World`: the ZFS store, the metabase of each repository, and the working copy of the
open transaction.  What a call meets and does not change is an `Env`.

Main definitions:

* `Volume.Env`, `Volume.World`, `Volume.VolM`;
* `Volume.create`, `Volume.importExisting`, `Volume.destroy`, `Volume.resize`, `Volume.stat`,
  `Volume.snapshot`, `Volume.clone`, `Volume.copy`, `Volume.ls` — the calls, step by step.
-/

import Mathlib.Logic.Function.Basic
import ZfsLive.Base.Wp
import ZfsLive.Base.Zfs
import ZfsLive.Metabase

set_option relaxedAutoImplicit false
set_option autoImplicit false

namespace Volume

open Zfs

/-! ### Surroundings and state -/

/-- The metadata file of a repository, as far as the calls read it. -/
structure SrMeta where
  zpool : String
  /-- The components of the dataset below the pool. -/
  dataset : List String
  volblocksize : Option String
  provisioning : Option String
  deriving DecidableEq, Repr

/-- `dataset_path`. -/
def SrMeta.datasetPath (m : SrMeta) : List String := m.zpool :: m.dataset

/-- What `zfs destroy` and `zfs get used` take: a zvol or a snapshot. -/
inductive ZfsObject
  | zvol (n : ZvolName)
  | snap (s : SnapName)
  deriving DecidableEq, Repr

/-- The zvol that an object is or belongs to. -/
def ZfsObject.owner : ZfsObject → ZvolName
  | .zvol n => n
  | .snap s => s.zvol

/-- What a call meets and does not change. -/
structure Env where
  /-- The metadata of the repositories there are. -/
  srMeta : String → Option SrMeta
  /-- The uuids that `uuid4` gives, one after the other; it gives none twice. -/
  uuid : ℕ → String
  uuid_injective : Function.Injective uuid
  /-- The commands that raise for a reason of their own, by their position in the run. -/
  fault : ℕ → Bool
  /-- The failing streams whose target was received all the same. -/
  received : ℕ → Bool
  /-- The size a zvol of a given block size gets when another one is asked for. -/
  volsizeFor : ℕ → ℕ → ℕ
  /-- The space that is left in a dataset. -/
  available : List String → ℕ
  /-- The space that an object takes in a store. -/
  used : Store → ZfsObject → ℕ
  /-- It depends on its zvol only. -/
  used_local : ∀ z z' object, z'.zvol object.owner = z.zvol object.owner → used z' object = used z object

/-- Uuids that count: no two are as long. -/
theorem replicate_injective : Function.Injective fun n => String.ofList (List.replicate n 'u') := by
  intro m n h
  simpa using congrArg String.length h

/-- Objects that take no space. -/
def noSpace : Store → ZfsObject → ℕ := fun _ _ => 0

theorem noSpace_local (z z' : Store) (object : ZfsObject)
    (_ : z'.zvol object.owner = z.zvol object.owner) : noSpace z' object = noSpace z object := rfl

/-- The state of the host. -/
structure World where
  zfs : Store
  /-- The metabases, as they are committed. -/
  db : String → Metabase
  /-- The working copy of the open transaction. -/
  work : Metabase
  /-- The number of uuids that were drawn. -/
  drawn : ℕ
  /-- The number of commands that were run. -/
  clock : ℕ
  /-- The number of zvols and snapshots that were destroyed. -/
  destroyed : ℕ
  /-- The number of transactions that were committed. -/
  commits : ℕ

/-- What a call can raise. -/
inductive VolError
  /-- An error of the storage interface, with its parameters. -/
  | storage (code : String) (params : List String)
  /-- A `zfs` command was refused. -/
  | zfs (e : ZfsError)
  /-- There is no VDI with this key. -/
  | noVdi (key : String)
  /-- There is a VDI with this uuid already. -/
  | duplicateVdi (uuid : String)
  /-- The metadata of the repository cannot be read. -/
  | noMetadata (sr : String)
  /-- The function is left to the generic implementation. -/
  | unimplemented (function : String)
  /-- A name is `None` where the code takes it for a string. -/
  | noneType
  /-- A command failed for a reason of its own. -/
  | fault
  deriving DecidableEq, Repr

/-- Programs over the state of the host. -/
abbrev VolM (α : Type) : Type := EStateM VolError World α

/-- The state after one more command was started. -/
def World.tick (w : World) : World := { w with clock := w.clock + 1 }

section

variable (E : Env) {α : Type}

/-! ### Commands -/

/-- Run a command: it fails when the schedule says so, and does `f` otherwise. -/
def command (f : World → Except VolError (α × World)) : VolM α := fun w =>
  if E.fault w.clock then
    .error .fault w.tick
  else
    match f w.tick with
    | .ok (a, w') => .ok a w'
    | .error e => .error e w.tick

/-- A `zfs` command that changes the store. -/
def zfsCmd (f : Store → Except ZfsError Store) : VolM Unit :=
  command E fun w =>
    match f w.zfs with
    | .ok z => .ok ((), { w with zfs := z })
    | .error e => .error (.zfs e)

/-- A `zfs` command that reads the store. -/
def zfsGet (f : Store → Except ZfsError α) : VolM α :=
  command E fun w =>
    match f w.zfs with
    | .ok a => .ok (a, w)
    | .error e => .error (.zfs e)

/-- A query or an update of the open transaction. -/
def dbCmd (f : Metabase → Except VolError (α × Metabase)) : VolM α :=
  command E fun w =>
    match f w.work with
    | .ok (a, db) => .ok (a, { w with work := db })
    | .error e => .error e

/-- Open a transaction. -/
def beginTxn (sr : String) : VolM Unit := command E fun w => .ok ((), { w with work := w.db sr })

/-- Commit the open transaction. -/
def commitTxn (sr : String) : VolM Unit :=
  command E fun w => .ok ((), { w with
    db := fun sr' => if sr' = sr then w.work else w.db sr'
    commits := w.commits + 1 })

/-- `with db_context(…) as db`: the transaction is committed when the block ends and dropped when it
raises. -/
def dbContext (sr : String) (body : VolM α) : VolM α := do
  beginTxn E sr
  let a ← body
  commitTxn E sr
  return a

/-- `uuid.uuid4()`. -/
def uuid4 : VolM String := modifyGet fun w => (E.uuid w.drawn, { w with drawn := w.drawn + 1 })

/-- `util.get_sr_metadata`. -/
def getSrMetadata (sr : String) : VolM SrMeta :=
  match E.srMeta sr with
  | some m => pure m
  | none => throw (.noMetadata sr)

/-! ### The metabase -/

def getVdiById (key : String) : VolM Vdi :=
  dbCmd E fun db =>
    match db.getVdiById key with
    | some vdi => .ok (vdi, db)
    | none => .error (.noVdi key)

def getVdiForVolume (id : Option ℕ) : VolM (Option Vdi) :=
  dbCmd E fun db => .ok (id.bind db.getVdiForVolume, db)

def getAllVdis : VolM (List Vdi) := dbCmd E fun db => .ok (db.vdis, db)

def insertNewVolume (vsize : ℕ) : VolM ℕ := dbCmd E fun db => .ok (db.insertNewVolume vsize)

def insertChildVolume (parent_id : Option ℕ) (vsize : Option ℕ) (is_snapshot : Bool := false) :
    VolM ℕ :=
  dbCmd E fun db => .ok (db.insertChildVolume parent_id vsize is_snapshot)

def insertVdi (cols : VdiCols) (volume_id : ℕ) : VolM Unit :=
  dbCmd E fun db =>
    match db.insertVdi cols volume_id with
    | some db' => .ok ((), db')
    | none => .error (.duplicateVdi cols.uuid)

def updateVolumeVsize (volume_id : ℕ) (vsize : Option ℕ) : VolM Unit :=
  dbCmd E fun db => .ok ((), db.updateVolumeVsize volume_id vsize)

def deleteVdi (key : String) : VolM Unit := dbCmd E fun db => .ok ((), db.deleteVdi key)

def deleteVolume (volume_id : ℕ) : VolM Unit := dbCmd E fun db => .ok ((), db.deleteVolume volume_id)

/-- `cb.volumeDestroy`: the callback of libcow, which touches neither the metabase nor a zvol. -/
def volumeDestroy (_volume_id : ℕ) : VolM Unit := dbCmd E fun db => .ok ((), db)

/-! ### ZFS operations -/

/-- The VALID_VOLBLOCKSIZE table. -/
def VALID_VOLBLOCKSIZE : List (String × ℕ) :=
  [("4K", 4096), ("8K", 8192), ("16K", 16384), ("32K", 32768), ("64K", 65536), ("128K", 131072)]

/-- `vol_exists`: a listing that fails counts as a zvol that does not exist. -/
def volExists (zvol_path : ZvolName) : VolM Bool :=
  tryCatch (zfsGet E fun z => .ok (decide (zvol_path ∈ z.names))) fun _ => pure false

def findSnapshotByUuid (pool_name : List String) (snap_id : String) : VolM (Option SnapName) :=
  zfsGet E fun z => .ok (z.findSnapshot pool_name snap_id)

def listZvolSnapshots (vol_name : ZvolName) : VolM (List SnapName) :=
  zfsGet E fun z => z.snapshots vol_name

def findSnapshotClones (snap_name : SnapName) : VolM (List ZvolName) :=
  zfsGet E fun z => .ok (z.clones snap_name)

/-- `log_pool_tree` lists a dataset for the log. -/
def logPoolTree (pool_name : List String) : VolM Unit :=
  zfsGet E fun z => .ok (let _ := z.snapshotsUnder pool_name; ())

def getZvolSizeBytes (vol_name : ZvolName) : VolM ℕ :=
  zfsGet E fun z => z.getProp vol_name Props.volsize

def getZvolUsedBytes (object : ZfsObject) : VolM ℕ :=
  zfsGet E fun z =>
    match object with
    | .zvol n => if n ∈ z.names then .ok (E.used z object) else .error (.noSuchDataset n)
    | .snap s => if z.Has s then .ok (E.used z object) else .error (.noSuchSnapshot s)

/-- `vol_get_property … "copies"`. -/
def volGetCopies (vol_name : ZvolName) : VolM ℕ :=
  zfsGet E fun z => z.getProp vol_name fun _ => z.effectiveCopies vol_name

def volGetRefreservation (vol_name : ZvolName) : VolM ℕ :=
  zfsGet E fun z => z.getProp vol_name Props.refreservation

def volSetRefreservation (vol_name : ZvolName) (reservation : ℕ) : VolM Unit :=
  zfsCmd E fun z => z.setProps vol_name fun p => { p with refreservation := reservation }

/-- `vol_set_property … "readonly" "on"`. -/
def volSetReadonly (vol_name : ZvolName) : VolM Unit :=
  zfsCmd E fun z => z.setProps vol_name fun p => { p with readonly := true }

/-- Without `-s`, `zfs create` reserves the size of the zvol; the driver then reserves it for each
copy. -/
def createZvol (zvol_path : ZvolName) (size_bytes : ℕ) (thin : Bool) (volblocksize : ℕ) :
    VolM Unit := do
  let volsize := E.volsizeFor volblocksize size_bytes
  zfsCmd E fun z => z.create zvol_path volsize volblocksize (if thin then 0 else volsize)
  if thin then
    return ()
  else
    let copies_val ← volGetCopies E zvol_path
    volSetRefreservation E zvol_path (size_bytes * copies_val)

/-- `zfs destroy` of a zvol or a snapshot. -/
def ZfsObject.destroy (z : Store) : ZfsObject → Except ZfsError Store
  | .zvol n => z.destroy n
  | .snap s => z.destroySnap s

def destroyZvol (object : ZfsObject) : VolM Unit :=
  command E fun w =>
    match object.destroy w.zfs with
    | .ok z => .ok ((), { w with zfs := z, destroyed := w.destroyed + 1 })
    | .error e => .error (.zfs e)

def promoteClone (zvol_path : ZvolName) : VolM Unit := zfsCmd E fun z => z.promote zvol_path

/-- `zfs set volsize` takes a smaller size as well. -/
def resizeZvol (vol_path : ZvolName) (new_size : ℕ) : VolM Unit :=
  zfsCmd E fun z => z.setVolsize vol_path fun volblocksize => E.volsizeFor volblocksize new_size

def takeSnapshot (snap_name : SnapName) : VolM Unit := zfsCmd E fun z => z.snapshot snap_name

/-- The name of the snapshot can be `None` where a lookup found nothing. -/
def cloneSnapshot (snap_name : Option SnapName) (clone_name : ZvolName) : VolM SnapName :=
  match snap_name with
  | none => throw .noneType
  | some s => do
      zfsCmd E fun z => z.clone s clone_name
      return s

/-- When the sending side fails, the receiving side can have finished. -/
def volSendReceive (src_snap : SnapName) (dest_vol : ZvolName) : VolM Unit := fun w =>
  if E.fault w.clock ∧ E.received w.clock then
    match w.zfs.receive src_snap dest_vol with
    | .ok z => .error .fault { w.tick with zfs := z }
    | .error _ => .error .fault w.tick
  else
    zfsCmd E (fun z => z.receive src_snap dest_vol) w

def volSetThickRefreservation (vol_name : ZvolName) : VolM Unit := do
  let volsize ← getZvolSizeBytes E vol_name
  let copies ← volGetCopies E vol_name
  volSetRefreservation E vol_name (volsize * copies)

def volSyncThickRefreservation (vol_name : ZvolName) : VolM Unit := do
  let refreservation ← volGetRefreservation E vol_name
  if refreservation > 0 then
    let volsize ← getZvolSizeBytes E vol_name
    let copies ← volGetCopies E vol_name
    let new_reservation := volsize * copies
    if new_reservation ≠ refreservation then
      volSetRefreservation E vol_name new_reservation
    else
      return ()
  else
    return ()

/-- `recover_vdi_vsize`: a resize that was cut short leaves the size `NULL`. -/
def recoverVdiVsize (vdi : Vdi) (pool_name : List String) : VolM Vdi :=
  match vdi.vsize with
  | some _ => pure vdi
  | none => do
      let vsize ← getZvolSizeBytes E ⟨pool_name, vdi.uuid⟩
      updateVolumeVsize E vdi.volume_id (some vsize)
      return { vdi with vsize := some vsize }

/-- Removing the saved changed-block state of a VDI touches neither a zvol nor a metabase. -/
def removeCbtMetadata (_sr _key : String) : VolM Unit := command E fun w => .ok ((), w)

/-! ### Calls -/

/-- What a call tells about a VDI. -/
structure VolInfo where
  key : String
  name : String
  description : String
  read_write : Bool
  virtual_size : Option ℕ
  physical_utilisation : ℕ
  deriving DecidableEq, Repr

/-- The block size of a new zvol: the default of the repository, and 8192 for an unknown one. -/
def defaultVolblocksize (m : SrMeta) : ℕ :=
  (VALID_VOLBLOCKSIZE.lookup ((m.volblocksize.getD "8K").map Char.toUpper)).getD 8192

/-- New zvols of the repository are sparse. -/
def isThin (m : SrMeta) : Bool := m.provisioning.getD "thin" = "thin"

/-- The `copies` property of a dataset; 1 when it cannot be read. -/
def effectiveCopies (sr_dataset : List String) : VolM ℕ :=
  tryCatch (zfsGet E fun z => .ok (z.copies sr_dataset)) fun _ => pure 1

/-- The check of `create` that there is room for a thick zvol. -/
def checkSpace (sr_dataset : List String) (size : ℕ) : VolM Unit := do
  let copies ← effectiveCopies E sr_dataset
  let required := size * copies
  let available ← zfsGet E fun _ => .ok (E.available sr_dataset)
  if required > available then
    throw (.storage "SR_BACKEND_FAILURE_109" ["Insufficient space for thick provisioning",
      s!"Required: {required} bytes ({size} x {copies} copies). Available: {available} bytes"])
  else
    return ()

/-- Only thick zvols need room in advance. -/
def checkProvisioning (m : SrMeta) (size : ℕ) : VolM Unit :=
  if isThin m then pure () else checkSpace E m.datasetPath size

def create (sr name description : String) (size : ℕ) (sharable : Bool) : VolM VolInfo := do
  let m ← getSrMetadata E sr
  checkProvisioning E m size
  let vdi_uuid ← uuid4 E
  let path : ZvolName := ⟨m.datasetPath, vdi_uuid⟩
  let vsize ← dbContext E sr do
    let volume_id ← insertNewVolume E size
    insertVdi E ⟨vdi_uuid, name, description, sharable⟩ volume_id
    createZvol E path size (isThin m) (defaultVolblocksize m)
    let vsize ← getZvolSizeBytes E path
    updateVolumeVsize E volume_id (some vsize)
    return vsize
  let used ← getZvolUsedBytes E (.zvol path)
  return ⟨vdi_uuid, name, description, true, some vsize, used⟩

def importExisting (sr key name description : String) (size : ℕ) (sharable : Bool) :
    VolM VolInfo := do
  let m ← getSrMetadata E sr
  let vol_name : ZvolName := ⟨m.datasetPath, key⟩
  if ← volExists E vol_name then
    let actual_vsize ← dbContext E sr do
      let volume_id ← insertNewVolume E size
      insertVdi E ⟨key, name, description, sharable⟩ volume_id
      let actual_vsize ← getZvolSizeBytes E vol_name
      updateVolumeVsize E volume_id (some actual_vsize)
      return actual_vsize
    let used ← getZvolUsedBytes E (.zvol vol_name)
    return ⟨key, name, description, true, some actual_vsize, used⟩
  else
    throw (.storage "SR_BACKEND_FAILURE_109"
      ["Cannot import_existing -- zvol does not exist", vol_name.text])

/-- Destroy a zvol if it exists. -/
def destroyIfExists (zvol_path : ZvolName) : VolM Unit := do
  if ← volExists E zvol_path then
    destroyZvol E (.zvol zvol_path)

/-- The branch of `destroy` for a snapshot VDI: its clone goes first, then the snapshot. -/
def destroySnapshotVdi (sr_dataset : List String) (vdi : Vdi) : VolM Unit := do
  let snap_name ← findSnapshotByUuid E sr_dataset vdi.uuid
  logPoolTree E sr_dataset
  match snap_name with
  | none => throw (.storage "SR_BACKEND_FAILURE_110" ["Snapshot not found",
      "ZFS-Live snapshot object " ++ "/".intercalate sr_dataset ++ "/*@" ++ vdi.uuid ++
        " missing from backing store"])
  | some snap_name =>
      let clone_path : ZvolName := ⟨sr_dataset, vdi.uuid⟩
      let clones ← findSnapshotClones E snap_name
      let external_deps := clones.filter (· ≠ clone_path)
      if external_deps ≠ [] then
        throw (.storage "SR_BACKEND_FAILURE_111" ["Snapshot has dependents",
          "zfs snapshot " ++ snap_name.zvol.text ++ "@" ++ snap_name.id ++
            " cannot be removed: external dependent clones exist: " ++
            ", ".intercalate (external_deps.map ZvolName.text)])
      else
        destroyIfExists E clone_path
        destroyZvol E (.snap snap_name)

/-- One round of the loop over the snapshots of a base VDI: the first clone of the snapshot, or a new
VDI where there is none. -/
def selectClone (sr_dataset : List String) (vdi : Vdi) (vol_snap : SnapName) : VolM ZvolName := do
  match ← findSnapshotClones E vol_snap with
  | dep :: _ => return dep
  | [] => do
      let clone_volume ← insertChildVolume E (some vdi.volume_id) vdi.vsize
      let clone_uuid ← uuid4 E
      insertVdi E ⟨clone_uuid, "clone", "", false⟩ clone_volume
      let clone_path : ZvolName := ⟨sr_dataset, clone_uuid⟩
      let _ ← cloneSnapshot E (some vol_snap) clone_path
      return clone_path

/-- The loop over the snapshots of a base VDI. -/
def selectClones (sr_dataset : List String) (vdi : Vdi) : List SnapName → VolM (List ZvolName)
  | [] => return []
  | s :: ss => do
      let dep ← selectClone E sr_dataset vdi s
      let deps ← selectClones sr_dataset vdi ss
      return dep :: deps

/-- The loop over the selected clones. -/
def promoteEach : List ZvolName → VolM Unit
  | [] => return ()
  | dep :: deps => do
      promoteClone E dep
      promoteEach deps

/-- Promote the selected clones, if there are any. -/
def promoteClones (sr_dataset : List String) (vol_dependencies : List ZvolName) : VolM Unit :=
  if vol_dependencies ≠ [] then do
    promoteEach E vol_dependencies
    logPoolTree E sr_dataset
  else
    return ()

/-- The branch of `destroy` for a base VDI: every snapshot is handed over to a clone of it. -/
def destroyBaseVdi (sr_dataset : List String) (vdi : Vdi) : VolM Unit := do
  let vol_name : ZvolName := ⟨sr_dataset, vdi.uuid⟩
  logPoolTree E sr_dataset
  let vol_snaps ← listZvolSnapshots E vol_name
  let vol_dependencies ← selectClones E sr_dataset vdi vol_snaps
  promoteClones E sr_dataset vol_dependencies
  destroyZvol E (.zvol vol_name)

/-- The branches of `destroy`. -/
def destroyObjects (sr_dataset : List String) (vdi : Vdi) : VolM Unit :=
  if vdi.snap then destroySnapshotVdi E sr_dataset vdi else destroyBaseVdi E sr_dataset vdi

/-- The transaction of `destroy`. -/
def destroyTxn (sr_dataset : List String) (key : String) : VolM Unit := do
  let vdi ← getVdiById E key
  let vdi ← recoverVdiVsize E vdi sr_dataset
  destroyObjects E sr_dataset vdi
  deleteVdi E key
  volumeDestroy E vdi.volume_id
  deleteVolume E vdi.volume_id

def destroy (sr key : String) : VolM Unit := do
  let m ← getSrMetadata E sr
  dbContext E sr (destroyTxn E m.datasetPath key)
  removeCbtMetadata E sr key
  -- the state under the key of older revisions
  tryCatch (removeCbtMetadata E sr key) fun _ => pure ()

/-- The first transaction of `resize`: the size becomes `NULL` unless the volume would shrink. -/
def resizeFirst (sr : String) (sr_dataset : List String) (key : String) (new_size : ℕ) :
    VolM Vdi :=
  dbContext E sr do
    let vdi ← getVdiById E key
    let vdi ← recoverVdiVsize E vdi sr_dataset
    if new_size < vdi.vsize.getD 0 then
      throw (.storage "SR_BACKEND_FAILURE_79" ["VDI Invalid size", "shrinking not allowed"])
    else
      updateVolumeVsize E vdi.volume_id none
      return vdi

/-- The end of the second transaction of `resize`: the size is recorded again. -/
def recordSize (vol_name : ZvolName) (volume_id vsize : ℕ) : VolM Unit := do
  updateVolumeVsize E volume_id (some vsize)
  volSyncThickRefreservation E vol_name

def resize (sr key : String) (new_size : ℕ) : VolM Unit := do
  let m ← getSrMetadata E sr
  let vdi ← resizeFirst E sr m.datasetPath key new_size
  dbContext E sr do
    let vol_name : ZvolName := ⟨m.datasetPath, vdi.uuid⟩
    resizeZvol E vol_name new_size
    let vsize ← getZvolSizeBytes E vol_name
    recordSize E vol_name vdi.volume_id vsize

/-- The error of `stat` for a snapshot VDI without its snapshot. -/
def snapshotMissing (uuid : String) : VolError :=
  .storage "SR_BACKEND_FAILURE_110"
    ["Snapshot not found", "ZFS snapshot " ++ uuid ++ " missing from backing store"]

def stat (sr key : String) : VolM VolInfo := do
  let m ← getSrMetadata E sr
  let (vdi, object) ← dbContext E sr do
    let vdi ← getVdiById E key
    let vdi ← recoverVdiVsize E vdi m.datasetPath
    if vdi.snap then
      match ← findSnapshotByUuid E m.datasetPath vdi.uuid with
      | none => throw (snapshotMissing vdi.uuid)
      | some s => return (vdi, ZfsObject.snap s)
    else
      return (vdi, ZfsObject.zvol ⟨m.datasetPath, vdi.uuid⟩)
  let used ← getZvolUsedBytes E object
  return ⟨vdi.uuid, vdi.name, vdi.description, !vdi.snap, vdi.vsize, used⟩

/-- The loop of `ls` that recovers the sizes. -/
def recoverEach (sr_dataset : List String) : List Vdi → VolM (List Vdi)
  | [] => return []
  | vdi :: vdis => do
      let vdi ← recoverVdiVsize E vdi sr_dataset
      let vdis ← recoverEach sr_dataset vdis
      return vdi :: vdis

/-- The transaction of `SR.ls`. -/
def ls (sr : String) : VolM (List Vdi) := do
  let m ← getSrMetadata E sr
  dbContext E sr do
    let vdis ← getAllVdis E
    recoverEach E m.datasetPath vdis

/-- The VDI whose zvol is snapshotted, and the volume that becomes the parent: for a snapshot VDI,
the VDI it was taken of, if there still is one. -/
def snapshotParent (vdi : Vdi) : VolM (String × Option ℕ) :=
  if vdi.snap then do
    let parent_vdi ← getVdiForVolume E vdi.parent_id
    return ((parent_vdi.map Vdi.uuid).getD vdi.uuid, vdi.parent_id)
  else
    return (vdi.uuid, some vdi.volume_id)

def snapshot (sr key : String) : VolM VolInfo := do
  let m ← getSrMetadata E sr
  let sr_dataset := m.datasetPath
  let snap_uuid ← uuid4 E
  let (vdi, snap_name) ← dbContext E sr do
    let vdi ← getVdiById E key
    let vdi ← recoverVdiVsize E vdi sr_dataset
    let (parent_vdi_uuid, vol_id) ← snapshotParent E vdi
    let snap_volume ← insertChildVolume E vol_id vdi.vsize true
    let snap_name : SnapName := ⟨⟨sr_dataset, parent_vdi_uuid⟩, snap_uuid⟩
    let clone_path : ZvolName := ⟨sr_dataset, snap_uuid⟩
    takeSnapshot E snap_name
    let _ ← cloneSnapshot E (some snap_name) clone_path
    volSetReadonly E clone_path
    insertVdi E ⟨snap_uuid, vdi.name, vdi.description, vdi.sharable⟩ snap_volume
    return (vdi, snap_name)
  let used ← getZvolUsedBytes E (.snap snap_name)
  return ⟨snap_uuid, vdi.name, vdi.description, false, vdi.vsize, used⟩

/-- The snapshot that `clone` clones, and the parent of the new volume: the snapshot of a snapshot
VDI, or a hidden one of a base VDI. -/
def cloneSource (sr_dataset : List String) (vdi : Vdi) : VolM (Option SnapName × ℕ) :=
  if vdi.snap then do
    let snap_name ← findSnapshotByUuid E sr_dataset vdi.uuid
    return (snap_name, vdi.volume_id)
  else do
    let auto_snap_uuid ← uuid4 E
    let auto_snap ← insertChildVolume E (some vdi.volume_id) vdi.vsize true
    let snap_name : SnapName := ⟨⟨sr_dataset, vdi.uuid⟩, auto_snap_uuid⟩
    takeSnapshot E snap_name
    return (some snap_name, auto_snap)

/-- A thick source makes a thick clone, which `zfs clone` does not. -/
def copyThickness (source_zvol clone_path : ZvolName) : VolM Unit := do
  let refreservation ← volGetRefreservation E source_zvol
  if refreservation > 0 then
    volSetThickRefreservation E clone_path

def clone (sr key : String) : VolM VolInfo := do
  let m ← getSrMetadata E sr
  let sr_dataset := m.datasetPath
  let clone_uuid ← uuid4 E
  let (vdi, snap_name) ← dbContext E sr do
    let vdi ← getVdiById E key
    let vdi ← recoverVdiVsize E vdi sr_dataset
    let (snap_name, snap_parent_id) ← cloneSource E sr_dataset vdi
    let cloned_volume ← insertChildVolume E (some snap_parent_id) vdi.vsize
    let clone_path : ZvolName := ⟨sr_dataset, clone_uuid⟩
    let snap_name ← cloneSnapshot E snap_name clone_path
    copyThickness E snap_name.zvol clone_path
    insertVdi E ⟨clone_uuid, vdi.name, vdi.description, vdi.sharable⟩ cloned_volume
    return (vdi, snap_name)
  let used ← getZvolUsedBytes E (.snap snap_name)
  return ⟨clone_uuid, vdi.name, vdi.description, true, vdi.vsize, used⟩

/-- Try a clean-up step; its failure is logged. -/
def attempt (m : VolM Unit) : VolM Unit := tryCatch m fun _ => pure ()

/-- Make the target of a copy: a clone in the same pool, a received zvol in another one. -/
def transfer (same_pool : Bool) (snap_name : SnapName) (dest_vol : ZvolName) : VolM Unit :=
  if same_pool then do
    let _ ← cloneSnapshot E (some snap_name) dest_vol
  else
    volSendReceive E snap_name dest_vol

/-- A thick source makes a thick copy. -/
def keepThick (src_thick : Bool) (dest_vol : ZvolName) : VolM Unit :=
  if src_thick then volSetThickRefreservation E dest_vol else return ()

/-- The replication of `copy`, which tears down what it made when it fails. -/
def replicate (same_pool src_thick : Bool) (snap_name : SnapName) (dest_vol : ZvolName) :
    VolM Unit :=
  tryCatch
    (do
      transfer E same_pool snap_name dest_vol
      keepThick E src_thick dest_vol)
    fun e => do
      attempt (destroyIfExists E dest_vol)
      attempt (destroyZvol E (.snap snap_name))
      throw e

/-- Destroy a snapshot of a zvol that exists. -/
def dropSnapshot (s : SnapName) : VolM Unit := do
  if ← volExists E s.zvol then
    destroyZvol E (.snap s)

/-- The clean-up of a copy between pools: no snapshot of the replication stays. -/
def dropTransients (snap_name recv_snap : SnapName) : VolM Unit :=
  tryCatch
    (do
      destroyZvol E (.snap snap_name)
      destroyZvol E (.snap recv_snap))
    fun e => do
      attempt (destroyIfExists E recv_snap.zvol)
      attempt (dropSnapshot E snap_name)
      attempt (dropSnapshot E recv_snap)
      throw e

/-- The snapshots of the replication stay in the same pool, where they back the clone. -/
def finishReplication (same_pool : Bool) (snap_name recv_snap : SnapName) : VolM Unit :=
  if same_pool then return () else dropTransients E snap_name recv_snap

/-- The metadata of the target; without it the generic copy does the work. -/
def getDestMetadata (dest_sr : String) : VolM SrMeta :=
  match E.srMeta dest_sr with
  | some m => pure m
  | none => throw (.unimplemented "Volume.copy")

def copy (sr key dest_sr : String) : VolM VolInfo := do
  let src_meta ← getSrMetadata E sr
  let src_sr_dataset := src_meta.datasetPath
  let dest_meta ← getDestMetadata E dest_sr
  let dest_sr_dataset := dest_meta.datasetPath
  let same_pool : Bool := src_meta.zpool = dest_meta.zpool
  let dest_uuid ← uuid4 E
  let snap_token ← uuid4 E
  let src_vol : ZvolName := ⟨src_sr_dataset, key⟩
  let dest_vol : ZvolName := ⟨dest_sr_dataset, dest_uuid⟩
  let snap_name : SnapName := ⟨src_vol, snap_token⟩
  -- the source
  let vdi ← dbContext E sr do
    let vdi ← getVdiById E key
    let vdi ← recoverVdiVsize E vdi src_sr_dataset
    return vdi
  takeSnapshot E snap_name
  let refreservation ← volGetRefreservation E src_vol
  let src_thick : Bool := refreservation > 0
  -- the replication
  replicate E same_pool src_thick snap_name dest_vol
  finishReplication E same_pool snap_name ⟨dest_vol, snap_token⟩
  -- the new VDI
  dbContext E dest_sr do
    let volume_id ← insertNewVolume E (vdi.vsize.getD 0)
    insertVdi E ⟨dest_uuid, vdi.name, vdi.description, vdi.sharable⟩ volume_id
    updateVolumeVsize E volume_id vdi.vsize
  let used ← getZvolUsedBytes E (.zvol dest_vol)
  return ⟨dest_uuid, vdi.name, vdi.description, true, vdi.vsize, used⟩

end

end Volume

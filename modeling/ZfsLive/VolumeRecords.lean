/-
**The records of VDIs** (`src/volume/volume.py`, `src/volume/sr.py`, `src/volume/zfs_operations.py`).

`Volume.stat` and `SR.ls` describe a VDI by a record.  Its keys are the properties that ZFS shows for
the backing of the VDI, overwritten by the custom keys of the VDI, which `Volume.set` and
`Volume.unset` keep in a table of the metabase.

The calls run on the host of `ZfsLive.Volume`, together with the custom keys of each repository and
the properties that were set on each zvol.

Main definitions:

* `Records.Host`, `Records.HostM` — the state, and the programs over it;
* `Records.propertiesDict` — the part of the keys that comes from ZFS;
* `Records.stat`, `Records.ls`, `Records.set`, `Records.unset` — the calls;
* `Records.recordOf` — the record of a VDI, in terms of the state.

Main results:

* `Records.projects_set`, `Records.projects_unset` — the calls without the custom keys are those of
  `ZfsLive.VolumeProperties`;
* `Records.wp_stat` — what `stat` returns when no command fails;
* `Records.get?_customKeysOf`, `Records.get?_allCustomKeys` — the two queries of the custom keys agree.
-/

import Mathlib.Data.List.Dedup
import ZfsLive.VolumeGrowth
import ZfsLive.VolumeProperties

set_option relaxedAutoImplicit false
set_option autoImplicit false

namespace Volume.Records

open Zfs Wp Properties

/-! ### State -/

/-- A table of custom keys: the value at the uuid of a VDI and a key. -/
abbrev CustomKeys := Dict (String × String) String

/-- What the records show and no call changes. -/
structure View where
  U : PyStr
  /-- `int` reads the decimal digits of a number. -/
  int_digits : ∀ n : ℕ, U.int (toString n) = some (n : ℤ)
  /-- The prefix of the image format and of the volumes of a repository, for a VDI. -/
  uriPrefix : String → String → String
  /-- The value of a property that is not set on the zvol itself, with its source. -/
  inherited : ZvolName → String → String × String
  /-- What `zfs get` prints for a snapshot, if it prints a line for the property. -/
  snapshotProperty : SnapName → String → Option (String × String)
  /-- The clean-up is enabled, and the object is neither open nor served and past its grace period. -/
  condemned : ZfsObject → Bool

/-- The state of the host, with the custom keys and the properties of the zvols. -/
structure Host where
  world : World
  /-- The custom keys of each repository, as they are committed. -/
  custom : String → CustomKeys
  /-- The working copy of the custom keys in the open transaction. -/
  work : CustomKeys
  /-- The properties other than `copies` that are set on a zvol itself. -/
  locals : ZvolName → String → Option String

/-- Programs over the host. -/
abbrev HostM (α : Type) : Type := EStateM VolError Host α

/-- A program that knows neither the custom keys nor the properties. -/
def lift {α : Type} (m : VolM α) : HostM α := fun h =>
  match m h.world with
  | .ok a w => .ok a { h with world := w }
  | .error e w => .error e { h with world := w }

/-- What a call tells about a VDI. -/
structure VdiRecord where
  uuid : String
  key : String
  name : String
  description : String
  read_write : Bool
  virtual_size : Option ℕ
  physical_utilisation : ℕ
  uri : List String
  keys : Dict String String
  sharable : Bool

/-! ### Custom keys -/

/-- `get_vdi_custom_keys`. -/
def customKeysOf (table : CustomKeys) (uuid : String) : Dict String String :=
  Dict.ofList ((table.items.filter (·.1.1 = uuid)).map fun e => (e.1.2, e.2))

/-- `get_all_vdi_custom_keys`: the keys of each VDI that has some. -/
def allCustomKeys (table : CustomKeys) : Dict String (Dict String String) :=
  Dict.ofList ((table.items.map (·.1.1)).dedup.map fun uuid => (uuid, customKeysOf table uuid))

/-- The keys of a VDI are the entries at its uuid. -/
theorem get?_customKeysOf (table : CustomKeys) (uuid k : String) :
    (customKeysOf table uuid).get? k = table.get? (uuid, k) := by
  have hnodup : (((table.items.filter (·.1.1 = uuid)).map fun e => (e.1.2, e.2)).map
      Prod.fst).Nodup := by
    rw [List.map_map]
    refine List.Nodup.map_on ?_ (List.Nodup.filter _ (List.Nodup.of_map _ table.distinct))
    rintro ⟨⟨u, k₁⟩, v₁⟩ h₁ ⟨⟨u', k₂⟩, v₂⟩ h₂ heq
    simp only [List.mem_filter, decide_eq_true_eq] at h₁ h₂
    obtain ⟨h₁, rfl⟩ := h₁
    obtain ⟨h₂, rfl⟩ := h₂
    obtain rfl : k₁ = k₂ := heq
    rw [Dict.eq_of_mem h₁ h₂]
  ext v
  rw [customKeysOf, Dict.get?_ofList hnodup, Dict.get?_eq_some_iff, List.mem_map]
  constructor
  · rintro ⟨⟨⟨u, k'⟩, v'⟩, hmem, heq⟩
    obtain ⟨rfl, rfl⟩ : k' = k ∧ v' = v := by simpa using heq
    obtain ⟨hitems, rfl⟩ : ((u, k'), v') ∈ table.items ∧ u = uuid := by simpa using hmem
    exact hitems
  · exact fun hmem => ⟨((uuid, k), v), by simpa using hmem, rfl⟩

/-- **The two queries agree**: a VDI without custom keys is not among those that have some. -/
theorem get?_allCustomKeys (table : CustomKeys) (uuid : String) :
    ((allCustomKeys table).get? uuid).getD Dict.empty = customKeysOf table uuid := by
  have hnodup : (((table.items.map (·.1.1)).dedup.map fun u => (u, customKeysOf table u)).map
      Prod.fst).Nodup := by
    simpa [Function.comp_def] using List.nodup_dedup _
  cases hget : (allCustomKeys table).get? uuid with
  | some keys =>
      obtain ⟨u, -, heq⟩ := List.mem_map.1 ((Dict.get?_ofList hnodup).1 hget)
      obtain ⟨rfl, rfl⟩ := Prod.mk.inj heq
      rfl
  | none =>
      have hnone : table.items.filter (·.1.1 = uuid) = [] := by
        refine List.filter_eq_nil_iff.2 fun e he => ?_
        have hnot : uuid ∉ (table.items.map (·.1.1)).dedup := fun hmem => by
          have hsome : (allCustomKeys table).get? uuid = some (customKeysOf table uuid) :=
            (Dict.get?_ofList hnodup).2 (List.mem_map.2 ⟨uuid, hmem, rfl⟩)
          rw [hget] at hsome
          cases hsome
        rw [List.mem_dedup, List.mem_map] at hnot
        simpa using fun heq => hnot ⟨e, he, heq⟩
      rw [customKeysOf, hnone]
      rfl

/-! ### Properties -/

/-- The type of provisioning that a reservation stands for. -/
def provisioningOf (U : PyStr) (refres_val : String) : String :=
  if refres_val ∈ ["0", "none", "-", ""] then "thin"
  else
    match U.int refres_val with
    | some refres => if refres > 0 then "thick" else "thin"
    | none => "thin"

/-- `format_volblocksize` of a text, which can raise a `ValueError`. -/
def formatVolblocksizeText (U : PyStr) (bytes_val : String) : Option String :=
  (U.int bytes_val).map fun val => if val ≥ 1024 then toString (val / 1024) ++ "K" else toString val

/-- The loop over the mutable properties: each that is there, with its source. -/
def mutableKeys (props : String → Option (String × String)) (keys : Dict String String) :
    List String → Dict String String
  | [] => keys
  | prop :: rest =>
      match props prop with
      | none => mutableKeys props keys rest
      | some (value, source) =>
          mutableKeys props ((keys.set prop value).set (prop ++ "_source") source) rest

/-- The key `provisioning`. -/
def provisioningKey (U : PyStr) (props : String → Option (String × String)) : Dict String String :=
  match props "refreservation" with
  | none => Dict.empty
  | some (refres_val, _) => Dict.empty.set "provisioning" (provisioningOf U refres_val)

/-- The dictionary of `vol_get_zfs_properties_dict`, from what `zfs get` printed.  A block size that is
no number ends the collection; what was collected is returned. -/
def propertiesDict (U : PyStr) (props : String → Option (String × String)) : Dict String String :=
  let keys := provisioningKey U props
  match props "volblocksize" with
  | none => mutableKeys props keys MUTABLE_ZFS_PROPERTIES
  | some (bytes_val, _) =>
      match formatVolblocksizeText U bytes_val with
      | none => keys
      | some size => mutableKeys props (keys.set "volblocksize" size) MUTABLE_ZFS_PROPERTIES

/-- A source as it is told: whom a property is inherited from is left out. -/
def normalSource (source : String) : String :=
  if "inherited".toList <+: source.toList then "inherited" else source

/-- The object exists. -/
def Exists (z : Store) : ZfsObject → Prop
  | .zvol n => n ∈ z.names
  | .snap s => z.Has s

instance (z : Store) : (object : ZfsObject) → Decidable (Exists z object)
  | .zvol n => inferInstanceAs (Decidable (n ∈ z.names))
  | .snap s => inferInstanceAs (Decidable (z.Has s))

/-- The refusal of a command about an object that does not exist. -/
def missing : ZfsObject → VolError
  | .zvol n => .zfs (.noSuchDataset n)
  | .snap s => .zfs (.noSuchSnapshot s)

section

variable (E : Env) (V : View)

/-- The effective value of a property of a zvol, with its source: what is set on the zvol itself, and
otherwise what it inherits. -/
def effective (h : Host) (n : ZvolName) (prop : String) : String × String :=
  if prop = "copies" then
    match (h.world.zfs.zvol n).props.copies with
    | some copies => (toString copies, "local")
    | none => (toString (h.world.zfs.copies n.dataset), (V.inherited n prop).2)
  else
    match h.locals n prop with
    | some value => (value, "local")
    | none => V.inherited n prop

/-- What `zfs get -Hp` prints for a property. -/
def printed (h : Host) (object : ZfsObject) (prop : String) : Option (String × String) :=
  match object with
  | .snap s => V.snapshotProperty s prop
  | .zvol n =>
      if prop = "refreservation" then
        some (toString (h.world.zfs.zvol n).props.refreservation, (V.inherited n prop).2)
      else if prop = "volblocksize" then
        some (toString (h.world.zfs.zvol n).props.volblocksize, (V.inherited n prop).2)
      else
        some (effective V h n prop)

/-- The dictionary that `vol_get_properties_batch` makes of the lines. -/
def batch (h : Host) (object : ZfsObject) (prop : String) : Option (String × String) :=
  (printed V h object prop).map fun p => (p.1, normalSource p.2)

/-- `vol_get_properties_batch`: one `zfs get` for all properties. -/
def volGetPropertiesBatch (object : ZfsObject) : HostM (String → Option (String × String)) := do
  let h ← get
  lift (command E fun w => if Exists w.zfs object then .ok ((), w) else .error (missing object))
  return batch V h object

/-- `vol_get_zfs_properties_dict`: a failure gives an empty dictionary. -/
def volGetZfsPropertiesDict (object : ZfsObject) : HostM (Dict String String) :=
  tryCatch
    (do
      let props ← volGetPropertiesBatch E V object
      return propertiesDict V.U props)
    fun _ => return Dict.empty

/-! ### The metabase -/

/-- `with db_context(…) as db`, with the custom keys. -/
def dbContext {α : Type} (sr : String) (body : HostM α) : HostM α := do
  lift (beginTxn E sr)
  modify fun h => { h with work := h.custom sr }
  let a ← body
  lift (commitTxn E sr)
  modify fun h => { h with custom := fun sr' => if sr' = sr then h.work else h.custom sr' }
  return a

/-- A query of the table of custom keys. -/
def getCustomKeys : HostM CustomKeys := do
  lift (dbCmd E fun db => .ok ((), db))
  return (← get).work

def setVdiCustomKey (key k v : String) : HostM Unit := do
  lift (Volume.setVdiCustomKey E key k v)
  modify fun h => { h with work := h.work.set (key, k) v }

def deleteVdiCustomKey (key k : String) : HostM Unit := do
  lift (Volume.deleteVdiCustomKey E key k)
  modify fun h => { h with work := h.work.erase (key, k) }

/-! ### Calls -/

/-- The backing of a VDI, for `stat`. -/
def statObject (sr_dataset : List String) (vdi : Vdi) : VolM ZfsObject :=
  if vdi.snap then do
    match ← findSnapshotByUuid E sr_dataset vdi.uuid with
    | none => throw (snapshotMissing vdi.uuid)
    | some s => return .snap s
  else
    return .zvol ⟨sr_dataset, vdi.uuid⟩

def stat (sr key : String) : HostM VdiRecord := do
  let m ← lift (getSrMetadata E sr)
  let (vdi, object, custom_keys) ← dbContext E sr do
    let vdi ← lift (getVdiById E key)
    let vdi ← lift (recoverVdiVsize E vdi m.datasetPath)
    let object ← lift (statObject E m.datasetPath vdi)
    let table ← getCustomKeys E
    return (vdi, object, customKeysOf table vdi.uuid)
  let zfs_keys ← volGetZfsPropertiesDict E V object
  let used ← lift (getZvolUsedBytes E object)
  return {
    uuid := vdi.uuid
    key := vdi.uuid
    name := vdi.name
    description := vdi.description
    read_write := !vdi.snap
    virtual_size := vdi.vsize
    physical_utilisation := used
    uri := [V.uriPrefix sr vdi.uuid ++ vdi.uuid]
    keys := (Dict.empty.update zfs_keys).update custom_keys
    sharable := false }

/-- The backing of a VDI, for `ls`: a VDI without one is passed over. -/
def lsObject (sr_dataset : List String) (vdi : Vdi) : VolM (Option ZfsObject) :=
  if vdi.snap then do
    let s ← findSnapshotByUuid E sr_dataset vdi.uuid
    return s.map .snap
  else do
    if ← volExists E ⟨sr_dataset, vdi.uuid⟩ then
      return some (.zvol ⟨sr_dataset, vdi.uuid⟩)
    else
      return none

/-- One round of the loop of `ls`. -/
def listVdi (sr : String) (sr_dataset : List String) (all_custom_keys : Dict String (Dict String String))
    (vdi : Vdi) : HostM (Option VdiRecord) := do
  match ← lift (lsObject E sr_dataset vdi) with
  | none => return none
  | some object => do
      let psize ← lift (getZvolUsedBytes E object)
      let custom_keys := (all_custom_keys.get? vdi.uuid).getD Dict.empty
      let zfs_keys ← volGetZfsPropertiesDict E V object
      return some {
        uuid := vdi.uuid
        key := vdi.uuid
        name := vdi.name
        description := vdi.description
        read_write := !vdi.snap
        virtual_size := vdi.vsize
        physical_utilisation := psize
        uri := [V.uriPrefix sr vdi.uuid ++ vdi.uuid]
        keys := (Dict.empty.update zfs_keys).update custom_keys
        sharable := vdi.sharable }

/-- The loop of `ls` that makes the records. -/
def listEach (sr : String) (sr_dataset : List String)
    (all_custom_keys : Dict String (Dict String String)) : List Vdi → HostM (List VdiRecord)
  | [] => return []
  | vdi :: vdis => do
      let r ← listVdi E V sr sr_dataset all_custom_keys vdi
      let rs ← listEach sr sr_dataset all_custom_keys vdis
      return r.toList ++ rs

/-- The loop of a clean-up: an object that cannot be destroyed is left. -/
def destroyEach : List ZfsObject → VolM Unit
  | [] => return ()
  | object :: objects => do
      attempt (destroyZvol E object)
      destroyEach objects

/-- The clean-up of orphaned zvols. -/
def cleanZvols (sr_dataset : List String) (known : List String) : VolM Unit := do
  let names ← zfsGet E fun z => .ok z.list
  destroyEach E ((names.filter fun n =>
    n.dataset = sr_dataset ∧ n.vol ∉ known ∧ V.condemned (.zvol n)).map .zvol)

/-- The clean-up of orphaned snapshots. -/
def cleanSnapshots (sr_dataset : List String) (known : List String) : VolM Unit := do
  let snaps ← zfsGet E fun z => .ok (z.snapshotsUnder sr_dataset)
  destroyEach E ((snaps.filter fun s => s.id ∉ known ∧ V.condemned (.snap s)).map .snap)

def ls (sr : String) : HostM (List VdiRecord) := do
  let m ← lift (getSrMetadata E sr)
  let (vdis, table) ← dbContext E sr do
    let vdis ← lift (getAllVdis E)
    let table ← getCustomKeys E
    let vdis ← lift (recoverEach E m.datasetPath vdis)
    return (vdis, table)
  let known_uuids := vdis.map Vdi.uuid
  lift (attempt (cleanZvols E V m.datasetPath known_uuids))
  lift (attempt (cleanSnapshots E V m.datasetPath known_uuids))
  listEach E V sr m.datasetPath (allCustomKeys table) vdis

/-- `vol_set_property`. -/
def volSetProperty (vol_name : ZvolName) (prop value : String) : HostM Unit := do
  lift (Volume.volSetProperty E vol_name prop value)
  modify fun h => { h with locals := fun n p =>
    if n = vol_name ∧ p = prop then some value else h.locals n p }

/-- `vol_inherit_property`. -/
def volInheritProperty (vol_name : ZvolName) (prop : String) : HostM Unit := do
  lift (Volume.volInheritProperty E vol_name prop)
  modify fun h => { h with locals := fun n p =>
    if n = vol_name ∧ p = prop then none else h.locals n p }

/-- The part of `set` that deals with the zvol. -/
def setOnZvol (vol_name : ZvolName) (k v : String) : HostM Unit :=
  if k ∈ MUTABLE_ZFS_PROPERTIES then do
    let value ← lift (raiseOr (checkedValue V.U k v))
    volSetProperty E vol_name k value
    lift (syncCopies E vol_name k)
  else if k ∈ IMMUTABLE_ZFS_PROPERTIES then
    lift (refuseImmutable E vol_name k)
  else
    return ()

def set (sr key k v : String) : HostM Unit := do
  let k := stripPrefix k
  let m ← lift (getSrMetadata E sr)
  setOnZvol E V ⟨m.datasetPath, key⟩ k v
  dbContext E sr (setVdiCustomKey E key k v)

/-- The part of `unset` that deals with the zvol. -/
def unsetOnZvol (vol_name : ZvolName) (k : String) : HostM Unit :=
  if k ∈ MUTABLE_ZFS_PROPERTIES then do
    volInheritProperty E vol_name k
    lift (syncCopies E vol_name k)
  else if k ∈ IMMUTABLE_ZFS_PROPERTIES then
    lift (refuseImmutable E vol_name k)
  else
    return ()

def unset (sr key k : String) : HostM Unit := do
  let k := stripPrefix k
  let m ← lift (getSrMetadata E sr)
  unsetOnZvol E ⟨m.datasetPath, key⟩ k
  dbContext E sr (deleteVdiCustomKey E key k)

end

/-! ### What the calls tell -/

/-- The backing of a VDI: its snapshot or its zvol. -/
def backing (z : Store) (ds : List String) (vdi : Vdi) : Option ZfsObject :=
  if vdi.snap then
    (z.findSnapshot ds vdi.uuid).map .snap
  else if (⟨ds, vdi.uuid⟩ : ZvolName) ∈ z.names then
    some (.zvol ⟨ds, vdi.uuid⟩)
  else
    none

/-- A VDI with the size of its zvol, where it had none. -/
def recovered (z : Store) (ds : List String) (vdi : Vdi) : Vdi :=
  { vdi with vsize := some (vdi.vsize.getD (z.zvol ⟨ds, vdi.uuid⟩).props.volsize) }

/-- The keys of a VDI with a given backing. -/
def keysOf (V : View) (h : Host) (sr : String) (object : ZfsObject) (uuid : String) :
    Dict String String :=
  (Dict.empty.update (propertiesDict V.U (batch V h object))).update
    (customKeysOf (h.custom sr) uuid)

/-- The record of a VDI with a given backing. -/
def recordOf (E : Env) (V : View) (h : Host) (sr : String) (vdi : Vdi) (object : ZfsObject) :
    VdiRecord where
  uuid := vdi.uuid
  key := vdi.uuid
  name := vdi.name
  description := vdi.description
  read_write := !vdi.snap
  virtual_size := vdi.vsize
  physical_utilisation := E.used h.world.zfs object
  uri := [V.uriPrefix sr vdi.uuid ++ vdi.uuid]
  keys := keysOf V h sr object vdi.uuid
  sharable := vdi.sharable

/-- There is the VDI `v` with the key, and it can be described. -/
structure Statable (E : Env) (h : Host) (sr key : String) (m : SrMeta) (v : Vdi)
    (object : ZfsObject) : Prop where
  srMeta : E.srMeta sr = some m
  mem : v ∈ (h.world.db sr).vdis
  uuid : v.uuid = key
  sized : v.vsize = none → (⟨m.datasetPath, key⟩ : ZvolName) ∈ h.world.zfs.names
  backing : backing h.world.zfs m.datasetPath v = some object

section

variable {E : Env} {V : View} {α : Type} {h h' : Host} {sr : String} {ds : List String} {v : Vdi}
  {object : ZfsObject}

theorem exists_of_backing {z : Store} (hb : backing z ds v = some object) : Exists z object := by
  rw [backing] at hb
  split_ifs at hb with hsnap hmem
  · obtain ⟨s, hs, rfl⟩ := Option.map_eq_some_iff.1 hb
    exact (Store.findSnapshot_spec hs).2.1
  · cases hb
    exact hmem

@[simp] theorem backing_recovered (z z' : Store) (ds ds' : List String) (v : Vdi) :
    backing z ds (recovered z' ds' v) = backing z ds v := rfl

/-- A VDI that has its size is left as it is. -/
theorem recovered_of_some {z : Store} {x : ℕ} (hx : v.vsize = some x) : recovered z ds v = v := by
  rw [recovered, hx, Option.getD_some, ← hx]

/-- The properties of every zvol are the same in both states. -/
structure Host.SameProps (h h' : Host) : Prop where
  props : ∀ n, (h'.world.zfs.zvol n).props = (h.world.zfs.zvol n).props
  copies : h'.world.zfs.copies = h.world.zfs.copies
  locals : h'.locals = h.locals

theorem Host.SameProps.of_eq (hzfs : h'.world.zfs = h.world.zfs) (hlocals : h'.locals = h.locals) :
    h.SameProps h' := ⟨fun n => by rw [hzfs], by rw [hzfs], hlocals⟩

theorem batch_congr (hp : h.SameProps h') : batch V h' object = batch V h object := by
  funext prop
  simp only [batch, printed, effective, hp.props, hp.copies, hp.locals]

theorem keysOf_congr {uuid : String} (hp : h.SameProps h') (hcustom : h'.custom sr = h.custom sr) :
    keysOf V h' sr object uuid = keysOf V h sr object uuid := by
  rw [keysOf, keysOf, batch_congr hp, hcustom]

theorem recordOf_congr (hp : h.SameProps h') (hcustom : h'.custom sr = h.custom sr)
    (hused : E.used h'.world.zfs object = E.used h.world.zfs object) :
    recordOf E V h' sr v object = recordOf E V h sr v object := by
  rw [recordOf, recordOf, keysOf_congr hp hcustom, hused]

/-! ### Rules -/

@[simp] theorem wp_lift (m : VolM α) (Q : α → Host → Prop) (X : VolError → Host → Prop) (h : Host) :
    wp (lift m) Q X h ↔
      wp m (fun a w => Q a { h with world := w }) (fun e w => X e { h with world := w }) h.world := by
  rw [wp, wp, lift]
  cases m h.world <;> rfl

variable {Q : α → Host → Prop} {X : VolError → Host → Prop}

/-- **A transaction**, with the custom keys. -/
theorem wp_dbContext {body : HostM α}
    (hbegin : (∃ c, E.fault c = true) → ∀ w', h.world.Same w' → X .fault { h with world := w' })
    (hbody : ∀ w₁, h.world.Frame w₁ → w₁.work = h.world.db sr →
      wp body
        (fun a h₂ => ((∃ c, E.fault c = true) → ∀ w, h₂.world.Same w →
            X .fault { h₂ with world := w }) ∧
          ∀ w, h₂.world.Committed sr w → Q a { h₂ with
            world := w
            custom := fun sr' => if sr' = sr then h₂.work else h₂.custom sr' })
        X { h with world := w₁, work := h.custom sr }) :
    wp (dbContext E sr body) Q X h := by
  rw [dbContext, wp_bind, wp_lift]
  refine wp_command hbegin (fun e _ he => by cases he) fun a w₁ h₁ => ?_
  have hframe : h.world.Frame w₁ := by cases h₁; exact ⟨rfl, rfl, rfl, rfl, rfl⟩
  have hwork : w₁.work = h.world.db sr := by cases h₁; rfl
  rw [wp_bind, wp_modify, wp_bind]
  refine wp_mono (hbody w₁ hframe hwork) (fun b h₂ h₂' => ?_) fun _ _ h₂ => h₂
  rw [wp_bind, wp_lift]
  refine wp_command h₂'.1 (fun e _ he => by cases he) fun c w₃ h₃ => ?_
  refine h₂'.2 w₃ ?_
  cases h₃
  exact ⟨rfl, rfl, rfl, rfl, rfl⟩

/-! ### The calls without the custom keys -/

/-- Seen without the custom keys and the properties, the program `p` is `q`. -/
def Projects (p : HostM α) (q : VolM α) : Prop :=
  ∀ h, wp p (fun a h' => q h.world = .ok a h'.world) (fun e h' => q h.world = .error e h'.world) h

namespace Projects

variable {β : Type} {p : HostM α} {q : VolM α}

theorem lift (m : VolM α) : Projects (Records.lift m) m := by
  intro h
  rw [wp_lift, wp]
  rcases hm : m h.world with ⟨a, w⟩ | ⟨e, w⟩ <;> rfl

theorem pure (a : α) : Projects (Pure.pure a) (Pure.pure a) := fun _ => rfl

theorem bind {f : α → HostM β} {g : α → VolM β} (hp : Projects p q)
    (hf : ∀ a, Projects (f a) (g a)) : Projects (p >>= f) (q >>= g) := by
  intro h
  rw [wp_bind]
  refine wp_mono (hp h) (fun a h₁ h₁' => ?_) fun e h₁ h₁' => bind_error h₁'
  rw [bind_ok h₁']
  exact hf a h₁

/-- A step that touches neither the store nor the metabase is not seen. -/
theorem modify_bind {f : Host → Host} (hf : ∀ h, (f h).world = h.world) (hp : Projects p q) :
    Projects (do modify f; p) q := by
  intro h
  rw [wp_bind, wp_modify, ← hf h]
  exact hp (f h)

theorem lift_modify {m : VolM Unit} {f : Host → Host} (hf : ∀ h, (f h).world = h.world) :
    Projects (do Records.lift m; modify f) m := by
  intro h
  rw [wp_bind]
  refine wp_mono (lift m h) (fun a h₁ h₁' => ?_) fun _ _ he => he
  rw [wp_modify, hf]
  exact h₁'

theorem ite {c : Prop} [Decidable c] {p' : HostM α} {q' : VolM α} (hp : Projects p q)
    (hp' : Projects p' q') : Projects (if c then p else p') (if c then q else q') := by
  split
  · exact hp
  · exact hp'

theorem dbContext (hp : Projects p q) : Projects (dbContext E sr p) (Volume.dbContext E sr q) :=
  .bind (.lift _) fun _ => .modify_bind (fun _ => rfl) <|
    .bind hp fun a => .bind (.lift _) fun _ => .modify_bind (fun _ => rfl) (.pure a)

end Projects

/-- **The call `set` is the one of `Volume.set`**, with what it does to the properties and to the custom
keys. -/
theorem projects_set (key k x : String) :
    Projects (set E V sr key k x) (Volume.set E V.U sr key k x) := by
  refine .bind (.lift _) fun m => .bind ?_ fun _ => .dbContext (.lift_modify fun _ => rfl)
  refine .ite (.bind (.lift _) fun value => ?_) (.ite (.lift _) (.pure ()))
  exact .bind (.lift_modify fun _ => rfl) fun _ => .lift _

/-- **The call `unset` is the one of `Volume.unset`.** -/
theorem projects_unset (key k : String) :
    Projects (unset E sr key k) (Volume.unset E sr key k) := by
  refine .bind (.lift _) fun m => .bind ?_ fun _ => .dbContext (.lift_modify fun _ => rfl)
  refine .ite ?_ (.ite (.lift _) (.pure ()))
  exact .bind (.lift_modify fun _ => rfl) fun _ => .lift _

theorem wp_getCustomKeys {Q : CustomKeys → Host → Prop}
    (hfault : (∃ c, E.fault c = true) → ∀ w', h.world.Same w' → X .fault { h with world := w' })
    (hQ : ∀ w', h.world.Frame w' → w'.work = h.world.work → Q h.work { h with world := w' }) :
    wp (getCustomKeys E) Q X h := by
  rw [getCustomKeys, wp_bind, wp_lift]
  refine wp_dbCmd hfault (fun e _ he => by cases he) fun a db w' hdb hwork hframe => ?_
  cases hdb
  exact hQ w' hframe hwork

/-- The reading of the properties changes nothing, and when no command fails it gives those of an object
that exists. -/
theorem wp_volGetZfsPropertiesDict {Q : Dict String String → Host → Prop}
    (hfault : (∃ c, E.fault c = true) → ∀ w', h.world.Same w' →
      Q Dict.empty { h with world := w' })
    (hQ : ∀ w', h.world.Same w' → Q
      (if Exists h.world.zfs object then propertiesDict V.U (batch V h object) else Dict.empty)
      { h with world := w' }) :
    wp (volGetZfsPropertiesDict E V object) Q X h := by
  have hzfs : h.world.tick.zfs = h.world.zfs := rfl
  rw [volGetZfsPropertiesDict, wp_tryCatch, wp_bind, volGetPropertiesBatch, wp_bind, wp_get, wp_bind,
    wp_lift]
  refine wp_command hfault (fun e w' he hw' => ?_) fun a w' hw' => ?_
  · by_cases hex : Exists h.world.zfs object
    · rw [hzfs, if_pos hex] at he
      cases he
    · simpa [hex] using hQ w' hw'
  · by_cases hex : Exists h.world.zfs object
    · rw [hzfs, if_pos hex] at hw'
      cases hw'
      simpa [hex] using hQ _ h.world.same_tick
    · rw [hzfs, if_neg hex] at hw'
      cases hw'

end

/-! ### Without failing commands -/

section

variable {E : Env} {V : View} {w : World} {h : Host} {sr key : String} {ds : List String} {v : Vdi}
  {object : ZfsObject}

theorem wp_getZvolUsedBytes {Q : ℕ → World → Prop} {X : VolError → World → Prop}
    (hq : ¬ ∃ c, E.fault c = true)
    (hX : ∀ e w', ¬ Exists w.zfs object → X e w')
    (hQ : ∀ w', w.Same w' → Exists w.zfs object → Q (E.used w.zfs object) w') :
    wp (getZvolUsedBytes E object) Q X w := by
  cases object with
  | zvol n =>
      refine wp_zfsGet (fun hf => (hq hf).elim) (fun e w' he _ => ?_) fun a w' ha hw' => ?_
      · by_cases hex : n ∈ w.zfs.names
        · simp [hex] at he
        · exact hX _ _ hex
      · by_cases hex : n ∈ w.zfs.names
        · obtain rfl : E.used w.zfs (.zvol n) = a := by simpa [hex] using ha
          exact hQ w' hw' hex
        · simp [hex] at ha
  | snap s =>
      refine wp_zfsGet (fun hf => (hq hf).elim) (fun e w' he _ => ?_) fun a w' ha hw' => ?_
      · by_cases hex : w.zfs.Has s
        · simp [hex] at he
        · exact hX _ _ hex
      · by_cases hex : w.zfs.Has s
        · obtain rfl : E.used w.zfs (.snap s) = a := by simpa [hex] using ha
          exact hQ w' hw' hex
        · simp [hex] at ha

/-- The open transaction after the size of a VDI was recovered in it. -/
def workAfter (z : Store) (ds : List String) (db : Metabase) (vdi : Vdi) : Metabase :=
  match vdi.vsize with
  | some _ => db
  | none => db.updateVolumeVsize vdi.volume_id (some (z.zvol ⟨ds, vdi.uuid⟩).props.volsize)

theorem wp_recovered {Q : Vdi → World → Prop} {X : VolError → World → Prop}
    (hq : ¬ ∃ c, E.fault c = true)
    (hX : ∀ e w', v.vsize = none → (⟨ds, v.uuid⟩ : ZvolName) ∉ w.zfs.names → X e w')
    (hQ : ∀ w', w.Frame w' → w'.work = workAfter w.zfs ds w.work v →
      (v.vsize = none → (⟨ds, v.uuid⟩ : ZvolName) ∈ w.zfs.names) → Q (recovered w.zfs ds v) w') :
    wp (recoverVdiVsize E v ds) Q X w := by
  rw [recoverVdiVsize]
  cases hv : v.vsize with
  | some x =>
      have := hQ w ⟨rfl, rfl, rfl, rfl, rfl⟩ (by rw [workAfter, hv]) fun hnone => by simp [hv] at hnone
      rwa [recovered_of_some hv] at this
  | none =>
      rw [wp_bind]
      refine wp_zfsGet (fun hf => (hq hf).elim) (fun e w' he _ => hX _ _ hv fun hmem => ?_)
        fun x w₁ hx hw₁ => ?_
      · rw [Store.getProp, if_pos hmem] at he
        cases he
      · rw [wp_bind]
        refine wp_dbCmd (fun hf => (hq hf).elim) (fun e _ he => by cases he)
          fun a db w₂ hdb hwork hframe => ?_
        cases hdb
        rw [Store.getProp] at hx
        split_ifs at hx with hmem
        cases hx
        have := hQ w₂ (hw₁.frame.trans hframe) (by rw [workAfter, hv, hwork, hw₁.work]) fun _ => hmem
        rwa [recovered, hv] at this

theorem wp_statObject {Q : ZfsObject → World → Prop} {X : VolError → World → Prop}
    (hq : ¬ ∃ c, E.fault c = true)
    (hX : ∀ e w', backing w.zfs ds v = none → X e w')
    (hQ : ∀ object w', w.Same w' → (∀ o, backing w.zfs ds v = some o → object = o) →
      (Exists w.zfs object → backing w.zfs ds v = some object) → Q object w') :
    wp (statObject E ds v) Q X w := by
  rw [statObject, wp_ite]
  refine ⟨fun hsnap => ?_, fun hbase => ?_⟩
  · rw [wp_bind]
    refine wp_zfsGet (fun hf => (hq hf).elim) (fun e _ he => by cases he) fun s w' hs hw' => ?_
    cases hs
    cases hfind : w.zfs.findSnapshot ds v.uuid with
    | none => exact hX _ _ (by rw [backing, if_pos hsnap, hfind]; rfl)
    | some s =>
        have hb : backing w.zfs ds v = some (.snap s) := by rw [backing, if_pos hsnap, hfind]; rfl
        exact hQ (.snap s) w' hw' (fun o ho => Option.some.inj (hb.symm.trans ho)) fun _ => hb
  · refine hQ _ w ⟨rfl, rfl, rfl, rfl, rfl, rfl⟩ (fun o ho => ?_) fun hex => ?_
    · rw [backing, if_neg hbase] at ho
      split_ifs at ho
      exact Option.some.inj ho
    · exact (if_neg hbase).trans (if_pos hex)

/-- **What `stat` returns**, when no command fails: the record of the VDI, with `sharable` unset. -/
theorem wp_stat (hq : ¬ ∃ c, E.fault c = true) : wp (stat E V sr key)
    (fun r _ => ∃ m v object, Statable E h sr key m v object ∧
      r = { recordOf E V h sr (recovered h.world.zfs m.datasetPath v) object with sharable := false })
    (fun _ _ => ∀ m v object, ¬ Statable E h sr key m v object) h := by
  rw [stat, wp_bind, wp_lift]
  refine wp_getSrMetadata (fun hnone m v o ho => ?_) fun m hm => ?_
  · rw [ho.srMeta] at hnone
    cases hnone
  rw [wp_bind]
  refine wp_dbContext (fun hf => (hq hf).elim) fun w₁ hf₁ hwork₁ => ?_
  rw [wp_bind, wp_lift]
  refine wp_dbCmd (fun hf => (hq hf).elim) (fun e w' he _ m' v o ho => ?_)
    fun v db w₂ hdb hwork₂ hf₂ => ?_
  · have hfind : w₁.work.getVdiById key = some v := by
      rw [hwork₁, ← ho.uuid]
      exact Metabase.getVdiById_eq ho.mem
    simp [hfind] at he
  obtain ⟨hv, huuid⟩ : v ∈ (h.world.db sr).vdis ∧ v.uuid = key := by
    cases hfind : w₁.work.getVdiById key with
    | none => simp [hfind] at hdb
    | some u =>
        obtain ⟨rfl, -⟩ : u = v ∧ _ := by simpa [hfind] using hdb
        rw [← hwork₁]
        exact Metabase.getVdiById_mem hfind
  have hzfs₂ : w₂.zfs = h.world.zfs := hf₂.zfs.trans hf₁.zfs
  -- the VDI that the key stands for is the one that was found
  have hthe : ∀ {m' u o}, Statable E h sr key m' u o → m' = m ∧ u = v := fun ho =>
    ⟨Option.some.inj (ho.srMeta.symm.trans hm),
      Metabase.eq_of_uuid ho.mem hv (ho.uuid.trans huuid.symm)⟩
  rw [wp_bind, wp_lift]
  refine wp_recovered hq (fun e w' hnone hmem m' u o ho => ?_) fun w₃ hf₃ hwork₃ hsized => ?_
  · obtain ⟨rfl, rfl⟩ := hthe ho
    rw [hzfs₂, huuid] at hmem
    exact hmem (ho.sized hnone)
  have hzfs₃ : w₃.zfs = h.world.zfs := hf₃.zfs.trans hzfs₂
  rw [hzfs₂, huuid] at hsized
  rw [hzfs₂, wp_bind, wp_lift]
  refine wp_statObject hq (fun e w' hnone m' u o ho => ?_) fun object w₄ hs₄ hobject hexists => ?_
  · obtain ⟨rfl, rfl⟩ := hthe ho
    rw [hzfs₃, backing_recovered, ho.backing] at hnone
    cases hnone
  rw [hzfs₃, backing_recovered] at hobject hexists
  rw [wp_bind]
  refine wp_getCustomKeys (fun hf => (hq hf).elim) fun w₅ hf₅ _ => ?_
  refine ⟨fun hf => (hq hf).elim, fun w₆ hc₆ => ?_⟩
  have hzfs₆ : w₆.zfs = h.world.zfs := hc₆.zfs.trans (hf₅.zfs.trans (hs₄.zfs.trans hzfs₃))
  rw [wp_bind]
  refine wp_volGetZfsPropertiesDict (fun hf => (hq hf).elim) fun w₇ hs₇ => ?_
  rw [wp_bind, wp_lift]
  refine wp_getZvolUsedBytes hq (fun e w' hnot m' u o ho => hnot ?_) fun w₈ _ hex => ?_
  · obtain ⟨rfl, rfl⟩ := hthe ho
    rw [hobject o ho.backing, hs₇.zfs, hzfs₆]
    exact exists_of_backing ho.backing
  · rw [hs₇.zfs, hzfs₆] at hex
    refine ⟨m, v, object, ⟨hm, hv, huuid, hsized, hexists hex⟩, ?_⟩
    rw [if_pos (by rw [hzfs₆]; exact hex)]
    have hbatch : batch V { h with
        world := w₆, work := h.custom sr
        custom := fun sr' => if sr' = sr then h.custom sr else h.custom sr' } object =
          batch V h object := batch_congr (.of_eq hzfs₆ rfl)
    rw [hs₇.zfs, hzfs₆]
    exact congrArg (fun props =>
      ({ recordOf E V h sr (recovered h.world.zfs m.datasetPath v) object with
        keys := (Dict.empty.update (propertiesDict V.U props)).update
          (customKeysOf (h.custom sr) v.uuid)
        sharable := false } : VdiRecord)) hbatch

end

end Volume.Records

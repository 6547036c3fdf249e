/-
**The identity of a device, rebuilt from its URI and from its dataset** (`src/datapath/datapath.py`,
`src/volume/zfs_live.py`, `src/volume/volume.py`, `src/volume/zfs_operations.py`).

A VDI of a repository has one block device, `/dev/zvol/<sr_dataset>/<uuid>`.  The volume plugin puts it
into the URI that it hands out; the datapath plugin takes it out of the URI again, and from the device
path both of them make the key of the registry, the uuid and the dataset whose marker names the
repository.  Each place builds or cuts the texts on its own.

Main definitions:

* `DeviceKeys.parseUri`, `DeviceKeys.vdiUuidFromDevicePath`, `DeviceKeys.resolveSrUri` — the datapath;
* `DeviceKeys.vdiUri`, `DeviceKeys.captureKey`, `DeviceKeys.legacyKey`,
  `DeviceKeys.activeMetaFile` — the volume plugin;
* `DeviceKeys.OneIdentity` — all of them agree on a VDI.

Main results:

* `DeviceKeys.parseUri_vdiUri` — the URI gives the device path back, whatever the dataset is called;
* `DeviceKeys.oneIdentity` — **one device, one set of keys**.
-/

import ZfsLive.Base.Paths

set_option relaxedAutoImplicit false
set_option autoImplicit false

namespace DeviceKeys

open Paths

/-- `hashlib.sha256(text.encode("utf-8")).hexdigest()`. -/
structure Sha256 where
  hexdigest : Text → Text
  hex : ∀ t, ∀ c ∈ hexdigest t, c ∈ "0123456789abcdef".toList

/-! ### The volume plugin -/

/-- `dataset_path`. -/
def datasetPath (pool_name dataset_name : Text) : Text :=
  if dataset_name = [] then pool_name else pool_name ++ '/' :: dataset_name

/-- `Callbacks.getVolumeUriPrefix`. -/
def getVolumeUriPrefix (zpool dataset : Text) : Text :=
  "zfs-live//dev/zvol/".toList ++ datasetPath zpool dataset ++ ['/']

/-- `uri_prefix` of the raw-qdisk format. -/
def uriPrefix : Text := "raw+qdisk://".toList

/-- The URI of a VDI, as `Volume.create` and `Volume.stat` return it. -/
def vdiUri (zpool dataset vdi_uuid : Text) : Text :=
  uriPrefix ++ (getVolumeUriPrefix zpool dataset ++ vdi_uuid)

/-- `format_zvol_name`. -/
def formatZvolName (pool_name vol_id : Text) : Text := pool_name ++ '/' :: vol_id

section

variable (S : Sha256)

/-- The key by which `_cbt_capture_at_snapshot` looks for the daemon of a VDI. -/
def captureKey (sr_dataset parent_vdi_uuid : Text) : Text :=
  (S.hexdigest ("/dev/zvol/".toList ++ sr_dataset ++ '/' :: parent_vdi_uuid)).take 16

/-- The key whose file `Volume.destroy` tidies besides that of the VDI. -/
def legacyKey (sr_dataset key : Text) : Text :=
  (S.hexdigest ("/dev/zvol/".toList ++ sr_dataset ++ '/' :: key)).take 16

/-- The file that `_zvol_has_active_datapath` opens. -/
def activeMetaFile (zvol_path : Text) : Text :=
  let dev_path := "/dev/zvol/".toList ++ zvol_path
  let key := (S.hexdigest dev_path).take 16
  let meta_dir := "/var/run/nonpersistent/dp-raw-qdisk/".toList ++ key
  join meta_dir "qemu-dp-raw.pickle".toList

end

/-! ### The datapath plugin -/

/-- What `parse_uri` raises, with the URI that it shows. -/
inductive UriError
  | scheme (uri : Text)
  | format (uri : Text)
  deriving DecidableEq, Repr

/-- `parse_uri`: the type of the repository and the device path. -/
def parseUri (uri : Text) : Except UriError (Text × Text) :=
  match stripPrefix "raw+qdisk://".toList uri with
  | none => .error (.scheme uri)
  | some path =>
      match find "/dev/".toList path with
      | none => .error (.format uri)
      | some idx => .ok (rstrip '/' (path.take idx), path.drop idx)

/-- `ZVOL_DEV_PREFIX`. -/
def zvolDevPrefix : Text := "/dev/zvol/".toList

/-- `_vdi_uuid_from_device_path`. -/
def vdiUuidFromDevicePath (device_path : Text) : Text := basename device_path

/-- `_resolve_sr_uri`, over the properties that `zfs get` reads. -/
def resolveSrUri (zfsGetProperty : Text → Text → Option Text) (device_path : Text) : Option Text := do
  let rel ← stripPrefix zvolDevPrefix device_path
  let (parent_dataset, _) ← rsplit rel
  let sr_uuid ← zfsGetProperty parent_dataset "xcp:sr".toList
  if sr_uuid = [] ∨ sr_uuid = "-".toList then none
  else some ("file:///var/run/sr-mount/".toList ++ sr_uuid)

/-- `_device_key`. -/
def deviceKey (S : Sha256) (device_path : Text) : Text := (S.hexdigest device_path).take 16

/-- `_dp_metadata_root`. -/
def dpMetadataRoot : Text := "/var/run/nonpersistent/dp-raw-qdisk".toList

/-- The file of the registry that `save_metadata`, `load_metadata` and `remove_metadata` use. -/
def metaFile (key : Text) : Text := join (join dpMetadataRoot key) "qemu-dp-raw.pickle".toList

/-- `_cbt_metadata_path`. -/
def cbtMetadataPath (sr_uri key : Text) : Text :=
  let mount := (stripPrefix "file://".toList sr_uri).getD sr_uri
  join (join (join mount ".zfs-live".toList) "cbt".toList) (key ++ ".pickle".toList)

/-! ### One identity -/

/-- The device path of a VDI. -/
def devicePath (sr_dataset vdi_uuid : Text) : Text :=
  "/dev/zvol/".toList ++ sr_dataset ++ '/' :: vdi_uuid

/-- The places that rebuild the identity of a VDI agree. -/
structure OneIdentity (S : Sha256) (zpool dataset vdi_uuid : Text) : Prop where
  parsed : parseUri (vdiUri zpool dataset vdi_uuid) =
    .ok ("zfs-live".toList, devicePath (datasetPath zpool dataset) vdi_uuid)
  uuid : vdiUuidFromDevicePath (devicePath (datasetPath zpool dataset) vdi_uuid) = vdi_uuid
  /-- The marker is asked of the dataset of the repository. -/
  marker : ∀ get, resolveSrUri get (devicePath (datasetPath zpool dataset) vdi_uuid) =
    (get (datasetPath zpool dataset) "xcp:sr".toList).bind fun sr_uuid =>
      if sr_uuid = [] ∨ sr_uuid = "-".toList then none
      else some ("file:///var/run/sr-mount/".toList ++ sr_uuid)
  capture : captureKey S (datasetPath zpool dataset) vdi_uuid =
    deviceKey S (devicePath (datasetPath zpool dataset) vdi_uuid)
  legacy : legacyKey S (datasetPath zpool dataset) vdi_uuid =
    deviceKey S (devicePath (datasetPath zpool dataset) vdi_uuid)
  active : activeMetaFile S (formatZvolName (datasetPath zpool dataset) vdi_uuid) =
    metaFile (deviceKey S (devicePath (datasetPath zpool dataset) vdi_uuid))
  /-- `Volume.destroy` tidies the file that the datapath would migrate, where the repository is mounted
  under the uuid that its marker tells. -/
  file : ∀ sr_uuid, cbtMetadataPath ("file://".toList ++ ("/var/run/sr-mount/".toList ++ sr_uuid))
      (legacyKey S (datasetPath zpool dataset) vdi_uuid) =
    cbtMetadataPath ("file:///var/run/sr-mount/".toList ++ sr_uuid)
      (deviceKey S (devicePath (datasetPath zpool dataset) vdi_uuid))

/-- The prefix of the URIs, up to the device path. -/
theorem getVolumeUriPrefix_append (zpool dataset vdi_uuid : Text) :
    getVolumeUriPrefix zpool dataset ++ vdi_uuid =
      "zfs-live/".toList ++ devicePath (datasetPath zpool dataset) vdi_uuid := by
  have hlit : "zfs-live//dev/zvol/".toList = "zfs-live/".toList ++ "/dev/zvol/".toList := by
    decide +kernel
  unfold getVolumeUriPrefix devicePath
  simp only [hlit, List.append_assoc, List.singleton_append]

/-- In what `getVolumeUriPrefix` gives, the first `/dev/` is that of the device path. -/
theorem find_dev (rest : Text) :
    find "/dev/".toList ("zfs-live/".toList ++ ("/dev/zvol/".toList ++ rest)) = some 9 := by
  have hpat : "/dev/".toList = ['/', 'd', 'e', 'v', '/'] := by decide +kernel
  have htype : "zfs-live/".toList = ['z', 'f', 's', '-', 'l', 'i', 'v', 'e', '/'] := by
    decide +kernel
  have hpre : "/dev/zvol/".toList = ['/', 'd', 'e', 'v', '/', 'z', 'v', 'o', 'l', '/'] := by
    decide +kernel
  rw [hpat, htype, hpre]
  rfl

/-- **The URI gives the device path back**, whatever the pool and the dataset are called: the first
`/dev/` is that of the prefix. -/
theorem parseUri_vdiUri (zpool dataset vdi_uuid : Text) :
    parseUri (vdiUri zpool dataset vdi_uuid) =
      .ok ("zfs-live".toList, devicePath (datasetPath zpool dataset) vdi_uuid) := by
  have hfind : find "/dev/".toList
      ("zfs-live/".toList ++ devicePath (datasetPath zpool dataset) vdi_uuid) = some 9 := by
    unfold devicePath
    simp only [List.append_assoc]
    exact find_dev _
  have hlen : "zfs-live/".toList.length = 9 := by decide +kernel
  have htype : rstrip '/' "zfs-live/".toList = "zfs-live".toList := by decide +kernel
  unfold parseUri vdiUri uriPrefix
  simp only [stripPrefix_append, getVolumeUriPrefix_append, hfind, ← hlen, List.take_left,
    List.drop_left, htype]

/-- The two ways to write the metadata directory of a key. -/
theorem join_dpMetadataRoot (S : Sha256) (t : Text) :
    join dpMetadataRoot ((S.hexdigest t).take 16) =
      "/var/run/nonpersistent/dp-raw-qdisk/".toList ++ (S.hexdigest t).take 16 := by
  have hlast : ¬ (dpMetadataRoot = [] ∨ dpMetadataRoot.getLast? = some '/') := by decide +kernel
  have hlit : "/var/run/nonpersistent/dp-raw-qdisk/".toList = dpMetadataRoot ++ ['/'] := by
    decide +kernel
  have hhead : ((S.hexdigest t).take 16).head? ≠ some '/' := by
    intro hhead
    have hmem : '/' ∈ S.hexdigest t := List.mem_of_mem_take (List.mem_of_head? hhead)
    exact absurd (S.hex t _ hmem) (by decide +kernel)
  rw [join, if_neg hhead, if_neg hlast, hlit, List.append_assoc]
  rfl

/-- **One device, one set of keys**, for every pool, every dataset and every uuid without a slash. -/
theorem oneIdentity (S : Sha256) (zpool dataset : Text) {vdi_uuid : Text} (huuid : '/' ∉ vdi_uuid) :
    OneIdentity S zpool dataset vdi_uuid where
  parsed := parseUri_vdiUri zpool dataset vdi_uuid
  uuid := by
    unfold vdiUuidFromDevicePath devicePath
    exact basename_append huuid
  marker get := by
    unfold resolveSrUri devicePath zvolDevPrefix
    simp only [List.append_assoc, stripPrefix_append, Option.bind_eq_bind, Option.bind_some,
      rsplit_append huuid]
  capture := rfl
  legacy := rfl
  active := by
    unfold activeMetaFile metaFile deviceKey
    simp only [join_dpMetadataRoot]
    rfl
  file sr_uuid := by
    have hlit : "file:///var/run/sr-mount/".toList =
        "file://".toList ++ "/var/run/sr-mount/".toList := by decide +kernel
    have hkey : legacyKey S (datasetPath zpool dataset) vdi_uuid =
        deviceKey S (devicePath (datasetPath zpool dataset) vdi_uuid) := rfl
    simp only [hlit, hkey, List.append_assoc]

/-- The hash of `/dev/zvol/tank/dev/zvol/dev/3e2a`. -/
def sampleSha256 : Sha256 where
  hexdigest _ := "8988cc58426d7dffe985217be73f496f87a3892fda9b6f103aeae2f44fd1b7a3".toList
  hex _ c hc := by
    have hall : ("8988cc58426d7dffe985217be73f496f87a3892fda9b6f103aeae2f44fd1b7a3".toList.all
        fun c => decide (c ∈ "0123456789abcdef".toList)) = true := by decide +kernel
    exact of_decide_eq_true (List.all_eq_true.1 hall c hc)

/-- A dataset with a component `dev`. -/
theorem oneIdentity_dev :
    OneIdentity sampleSha256 "tank".toList "dev/zvol/dev".toList "3e2a".toList :=
  oneIdentity sampleSha256 _ _ (by decide +kernel)

end DeviceKeys

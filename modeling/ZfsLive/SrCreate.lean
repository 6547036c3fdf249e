/-
**What a rejected `SR.create` leaves behind** (`src/volume/sr.py`).

`SR.create` checks the device configuration and the datasets, makes the dataset of the SR ready — it
creates it, unless it adopts one, sets its properties, its marker and its mountpoint, mounts it, and
creates the database in it — and only then looks at the `datapath` key.  This module has all that the
call changes in its state: the datasets, their properties and mountpoints, the databases and the metadata.

Main definitions:

* `SrCreate.State`, `SrCreate.create` — the call, from the device configuration as a dictionary;
* `SrCreate.Rejection` — the errors by which the call rejects a configuration;
* `SrCreate.RejectedUnchanged` — a call that ends in one of them has changed nothing.

Main results:

* `SrCreate.wp_chooseDataset` — what the first checks accept;
* `SrCreate.wp_prepare` — what making the dataset ready needs, and where it leads;
* `SrCreate.rejectedUnchanged_iff` — **when a rejected call changes nothing**;
* `SrCreate.not_rejectedUnchanged_datapath` — a misspelt `datapath` leaves the new dataset behind.
-/

import ZfsLive.Metabase
import ZfsLive.Properties
import ZfsLive.SrProbe

set_option relaxedAutoImplicit false
set_option autoImplicit false

namespace ZfsLive.SrCreate

open Datasets Sr Wp

/-! ### The state -/

/-- What `SR.create` reads of the host. -/
structure CreateSite extends Host where
  importable : String → Bool
  strings : PyStr
  /-- `pool_get_ashift`, when it can be read. -/
  ashift : String → Option ℕ
  /-- ZFS accepts a value of a property. -/
  accepts : List String → String → String → Bool
  /-- The database after `create_database`, from the one that is there; `none` when it raises. -/
  createDatabase : Option Metabase → Option Metabase
  /-- The size of a zvol, when it can be read. -/
  volsize : List String → Option ℕ

/-- What the metadata of an SR holds besides its dataset. -/
structure Details where
  name : String
  description : String
  uuid : String
  datapath : String
  vdi_defaults : Dict String String
  sr_settings : Properties.SrSettings

/-- What `SR.create` can change. -/
structure State extends World where
  /-- The mountpoints that were set on datasets. -/
  mountpoints : Dict (List String) String
  /-- The other properties that were set on datasets. -/
  properties : Dict (List String × String) String
  details : Dict String Details
  /-- The databases, by the datasets they are in. -/
  databases : Dict (List String) Metabase

abbrev CreateM := EStateM Fault State

/-- An operation on the datasets and the SRs. -/
def onWorld {α : Type} (m : SrM α) : CreateM α := fun s =>
  match m s.toWorld with
  | .ok a w => .ok a { s with toWorld := w }
  | .error e w => .error e { s with toWorld := w }

/-- An operation on the datasets. -/
def onTree {α : Type} (m : M α) : CreateM α := onWorld (Sr.onTree m)

/-! ### The call -/

section

variable (site : CreateSite)

/-- The keys of the device configuration that decide the dataset. -/
def deviceConfig (configuration : Dict String String) : Configuration where
  path := configuration.get? "path"
  adopt := site.strings.lower ((configuration.get? "adopt").getD "") = "true"
  datapath := configuration.get? "datapath"
  rest := configuration.items

/-- What `_parse_zfs_config` makes of the device configuration. -/
def parsed (configuration : Dict String String) : Properties.Parsed :=
  let pool := (pathParts ((configuration.get? "path").getD "")).headD ""
  Properties.parseZfsConfig site.strings configuration (site.ashift pool)

/-- The host as the checks see it. -/
def checkSite (configuration : Dict String String) : Site where
  toHost := site.toHost
  importable := site.importable
  configErrors _ := (parsed site configuration).errors

def setMountpoint (path : List String) (mountpoint : String) : CreateM Unit :=
  modify fun s => { s with mountpoints := s.mountpoints.set path mountpoint }

/-- The missing parents of a dataset are created with `mountpoint=none`. -/
def createParents : List (List String) → CreateM Unit
  | [] => pure ()
  | parent :: parents => do
      if ¬ (← onTree (datasetExists parent)) then
        onTree (zfsCreate site.toHost parent false)
        setMountpoint parent "none"
      createParents parents

/-- `dataset_create`. -/
def datasetCreate (path : List String) : CreateM Unit := do
  createParents site (datasetGetParents path)
  let t := (← get).tree
  onTree (zfsCreate site.toHost path (site.mountsNew t path))

/-- `dataset_set_properties`. -/
def datasetSetProperties (path : List String) : List (String × String) → CreateM Unit
  | [] => pure ()
  | (prop, value) :: properties => do
      let cmd := ["zfs", "set", prop ++ "=" ++ value, pathText path]
      let _ ← onTree (lookup site.toHost cmd (dataset path))
      if site.accepts path prop value then
        modify fun s => { s with properties := s.properties.set (path, prop) value }
      else onTree (fail site.toHost cmd)
      datasetSetProperties path properties

/-- `dataset_set_mountpoint`. -/
def datasetSetMountpoint (path : List String) (mountpoint : String) : CreateM Unit := do
  onTree (Datasets.datasetSetMountpoint site.toHost path mountpoint)
  setMountpoint path mountpoint

/-- `create_database`, in the dataset that is mounted. -/
def createDatabase (path : List String) (mountpoint : String) : CreateM Unit := do
  match site.createDatabase ((← get).databases.get? path) with
  | none => onTree (fail site.toHost ["create_database", mountpoint])
  | some db => modify fun s => { s with databases := s.databases.set path db }

/-- The dataset, which is there now, is set up for the SR. -/
def setUp (path : List String) (srUuid : SrUuid) (properties : List (String × String)) :
    CreateM Unit := do
  datasetSetProperties site path properties
  onTree (datasetSetSrMarker site.toHost path srUuid.text)
  datasetSetMountpoint site path (srMountPath srUuid)
  if ¬ (← onTree (datasetIsMounted site.toHost (dataset path))) then
    onTree (datasetMount site.toHost path)
  createDatabase site path (srMountPath srUuid)

/-- The steps of `create` between the first checks and the check of the datapath. -/
def prepare (srUuid : SrUuid) (configuration : Dict String String) (info : Meta) : CreateM Unit := do
  if ¬ (deviceConfig site configuration).adopt then datasetCreate site info.path
  setUp site info.path srUuid (parsed site configuration).dataset_props.items

/-- The rows of an adopted zvol: a volume and its VDI, in one transaction. -/
def registerZvol (db : Metabase) (vdiUuid : String) (vdiSize : ℕ) : Option Metabase :=
  let (id, db) := db.insertNewVolume vdiSize
  (db.insertVdi ⟨vdiUuid, vdiUuid, "", false⟩ id).map fun db => db.updateVolumeVsize id (some vdiSize)

/-- The zvols of an adopted dataset get their rows; the ones that could not be registered. -/
def registerZvols (path : List String) : List Name → CreateM (List Name)
  | [] => pure []
  | zvol :: zvols => do
      let databases := (← get).databases
      let registered := (databases.get? path).bind fun db =>
        (site.volsize zvol.path).bind (registerZvol db (zvol.path.getLastD ""))
      match registered with
      | some db =>
          modify fun s => { s with databases := s.databases.set path db }
          registerZvols path zvols
      | none =>
          let failed ← registerZvols path zvols
          pure (zvol :: failed)

def registerAdopted (path : List String) : CreateM Unit := do
  let zvols := datasetListZvols site.toHost (← get).tree path
  let failed ← registerZvols site path zvols
  if failed ≠ [] then
    onWorld (backendFailure "109" ["Adopt incomplete -- " ++ toString failed.length ++ " of " ++
      toString zvols.length ++ " zvols failed to register: " ++
      ", ".intercalate (failed.map Name.text)])

/-- The datapath of the SR's VDIs. -/
def datapathOf (configuration : Dict String String) : String :=
  (configuration.get? "datapath").getD "raw-qdisk"

/-- The valid datapaths. -/
def datapaths : List String := ["tapdisk", "raw-qdisk"]

/-- The check of the datapath, and what follows it. -/
def finish (srUuid : SrUuid) (configuration : Dict String String) (name description : String)
    (info : Meta) : CreateM (Dict String String) := do
  let datapath := datapathOf configuration
  if datapath ∉ datapaths then
    onWorld (backendFailure "109" ["Invalid configuration",
      "datapath must be 'tapdisk' or 'raw-qdisk', got '" ++ datapath ++ "'"])
  let parsed := parsed site configuration
  modify fun s => { s with
    srs := s.srs.set srUuid.text info
    details := s.details.set srUuid.text
      ⟨name, description, srUuid.text, datapath, parsed.vdi_defaults, parsed.sr_settings⟩ }
  if (deviceConfig site configuration).adopt then registerAdopted site info.path
  pure ((configuration.set "zpool" info.zpool).set "dataset" (pathText info.dataset))

/-- `SR.create`. -/
def create (srUuid : SrUuid) (configuration : Dict String String) (name description : String) :
    CreateM (Dict String String) := do
  let info ← onWorld (chooseDataset (checkSite site configuration) srUuid
    (deviceConfig site configuration))
  prepare site srUuid configuration info
  finish site srUuid configuration name description info

end

/-! ### Rejections, and states that are the same -/

/-- The titles of the errors by which `create` rejects a configuration. -/
def rejections : List String :=
  ["Invalid configuration", "ZFS pool not imported", "ZFS pool not found",
    "Dataset not found for adopt", "Dataset already exists", "Cannot create SR inside another SR",
    "Cannot create SR that contains another SR", "Invalid ZFS configuration"]

/-- One of the validation errors of `create`. -/
def Rejection (e : Fault) : Prop :=
  ∃ code title detail, e = .storageError code [title, detail] ∧ title ∈ rejections

/-- The two states have the same datasets with the same properties and mounts, the same metadata and
the same databases. -/
structure Same (s s' : State) : Prop where
  tree : ∀ n, s'.tree.get? n = s.tree.get? n
  mountpoints : ∀ path, s'.mountpoints.get? path = s.mountpoints.get? path
  properties : ∀ k, s'.properties.get? k = s.properties.get? k
  srs : ∀ sr, s'.srs.get? sr = s.srs.get? sr
  details : ∀ sr, s'.details.get? sr = s.details.get? sr
  databases : ∀ path, s'.databases.get? path = s.databases.get? path

theorem Same.refl (s : State) : Same s s :=
  ⟨fun _ => rfl, fun _ => rfl, fun _ => rfl, fun _ => rfl, fun _ => rfl, fun _ => rfl⟩

/-- A call that ends in one of its validation errors has changed nothing. -/
def RejectedUnchanged (site : CreateSite) (srUuid : SrUuid) (configuration : Dict String String)
    (name description : String) (s : State) : Prop :=
  ∀ e s', create site srUuid configuration name description s = .error e s' → Rejection e → Same s s'

variable (site : CreateSite) (srUuid : SrUuid) (configuration : Dict String String)

/-- The first checks accept `m` as the dataset of the SR. -/
structure Accepts (t : Tree) (m : Meta) : Prop where
  target : target srUuid (deviceConfig site configuration) = some m
  imported : t.Has (dataset [m.zpool])
  adopted : (deviceConfig site configuration).adopt = true → t.Has (dataset m.path)
  unclaimed : (deviceConfig site configuration).adopt = false →
    Unclaimed (checkSite site configuration) t m
  properties : (parsed site configuration).errors = []

/-- The dataset could be created next to what is there: its name is legal, and if its parent is there,
the parent is a filesystem. -/
def Creatable (t : Tree) (path : List String) : Prop :=
  path.all site.legal = true ∧ ∀ node, t.get? (dataset path.dropLast) = some node → node.kind = .filesystem

/-- ZFS carries out the commands that make the dataset ready, and its database can be created. -/
structure Feasible (s : State) (m : Meta) : Prop where
  create : (deviceConfig site configuration).adopt = false →
    ∀ path ∈ datasetGetParents m.path ++ [m.path], ¬ s.tree.Has (dataset path) →
      Creatable site s.tree path
  adopt : (deviceConfig site configuration).adopt = true →
    ∀ node, s.tree.get? (dataset m.path) = some node → node.kind = .filesystem
  properties : ∀ e ∈ (parsed site configuration).dataset_props.items,
    site.accepts m.path e.1 e.2 = true
  database : (site.createDatabase (s.databases.get? m.path)).isSome

/-- The dataset is set up for the SR already, to the last property. -/
structure SetUp (s : State) (m : Meta) : Prop where
  node : ∃ node, s.tree.get? (dataset m.path) = some node ∧ node.sr = some srUuid.text ∧
    node.mounted = true
  mountpoint : s.mountpoints.get? m.path = some (srMountPath srUuid)
  properties : ∀ e ∈ (parsed site configuration).dataset_props.items,
    s.properties.get? (m.path, e.1) = some e.2
  database : ∃ db, s.databases.get? m.path = some db ∧ site.createDatabase (some db) = some db

/-! ### The first checks -/

variable {site srUuid configuration}

theorem wp_onWorld {α : Type} (m : SrM α) (Q : α → State → Prop) (X : Fault → State → Prop)
    (s : State) : wp (onWorld m) Q X s ↔
      wp m (fun a w => Q a { s with toWorld := w }) (fun e w => X e { s with toWorld := w })
        s.toWorld := by
  rw [wp, wp, onWorld]
  rcases m s.toWorld with ⟨a, w⟩ | ⟨e, w⟩ <;> rfl

theorem wp_onTree {α : Type} (m : M α) (Q : α → State → Prop) (X : Fault → State → Prop)
    (s : State) : wp (onTree m) Q X s ↔
      wp m (fun a t => Q a { s with tree := t }) (fun e t => X e { s with tree := t }) s.tree := by
  rw [onTree, wp_onWorld, Sr.wp_onTree]

/-- **The checks for a new SR**, whether they pass or not. -/
theorem wp_newDataset_unclaimed {site : Site} (pool : String) (parent : List String)
    (srUuid : SrUuid) (w : World) :
    wp (newDataset site pool parent srUuid)
      (fun ds w' => w' = w ∧ ds = parent ++ [srUuid.text] ∧ Unclaimed site w.tree ⟨pool, ds⟩)
      (fun _ w' => w' = w ∧ ¬ Unclaimed site w.tree ⟨pool, parent ++ [srUuid.text]⟩) w := by
  simp only [newDataset, wp_bind, Sr.wp_onTree, wp_datasetExists, wp_ite, wp_pure, backendFailure,
    wp_throw, decide_eq_true_eq]
  refine ⟨fun hhas => ⟨trivial, fun h => h.absent hhas⟩, fun habsent => ?_⟩
  refine wp_mono (wp_checkParents _ w) ?_ ?_
  · rintro _ w' ⟨rfl, habove⟩
    rw [datasetFindChildSrs, wp_bind, wp_get]
    have hspec := wp_and (findChildSrs_spec (pool :: (parent ++ [srUuid.text]))
      (site.list w'.tree [pool]) w'.tree) (wp_findChildSrs (pool :: (parent ++ [srUuid.text]))
      (site.list w'.tree [pool]) w'.tree)
    refine wp_mono hspec ?_ fun _ _ hf => hf.1.elim
    rintro childSrs t ⟨⟨rfl, hall⟩, -, honly⟩
    constructor
    · intro hne
      refine ⟨rfl, fun h => ?_⟩
      obtain ⟨c, hc⟩ := List.exists_mem_of_ne_nil childSrs hne
      obtain ⟨e, he, hkind, rfl, hpre, hother, hshows⟩ := honly c hc
      exact h.below e he hkind hpre hother hshows
    · intro hnone
      refine ⟨rfl, trivial, habsent, habove, fun e he hkind hpre hother hshows => ?_⟩
      have := hall e he hkind hpre hother hshows
      rw [not_not.1 hnone] at this
      cases this
  · rintro _ w' ⟨rfl, q, hq, hshows⟩
    exact ⟨rfl, fun h => h.above q hq hshows⟩

/-- **The first checks**: they change nothing, and they pass exactly when they accept the dataset. -/
theorem wp_chooseDataset (w : World) :
    wp (chooseDataset (checkSite site configuration) srUuid (deviceConfig site configuration))
      (fun m w' => w' = w ∧ Accepts site srUuid configuration w.tree m)
      (fun _ w' => w' = w ∧ ∀ m, ¬ Accepts site srUuid configuration w.tree m) w := by
  rw [chooseDataset]
  cases hpath : (deviceConfig site configuration).path with
  | none =>
      refine ⟨rfl, fun m h => ?_⟩
      have := h.target
      simp [target, hpath] at this
  | some path =>
      have htarget : ∀ m, target srUuid (deviceConfig site configuration) = some m ↔
          m = ⟨(pathParts path).headD "", if (deviceConfig site configuration).adopt then
            (pathParts path).tail else (pathParts path).tail ++ [srUuid.text]⟩ := by
        intro m
        rw [target, hpath, Option.map_some, Option.some_inj]
        exact eq_comm
      simp only [checkPool, adoptDataset, wp_bind, Sr.wp_onTree, wp_datasetExists, wp_ite, wp_pure,
        backendFailure, wp_throw, decide_eq_true_eq]
      have hno : ¬ w.tree.Has (dataset [(pathParts path).headD ""]) →
          ∀ m, ¬ Accepts site srUuid configuration w.tree m := by
        intro hpool m h
        obtain rfl := (htarget m).1 h.target
        exact hpool h.imported
      refine ⟨fun hpool => ⟨fun hadopt => ⟨fun hhas => ⟨fun herr => ?_, fun herr => ?_⟩,
        fun habsent => ?_⟩, fun hadopt => ?_⟩, fun hpool => ⟨fun _ => ⟨trivial, hno hpool⟩,
        fun _ => ⟨trivial, hno hpool⟩⟩⟩
      · exact ⟨trivial, fun m h => herr h.properties⟩
      · refine ⟨trivial, (htarget _).2 (by rw [if_pos hadopt]), hpool, fun _ => hhas, ?_,
          not_not.1 herr⟩
        intro hnormal
        rw [hnormal] at hadopt
        cases hadopt
      · refine ⟨trivial, fun m h => ?_⟩
        have hm := (htarget m).1 h.target
        rw [if_pos hadopt] at hm
        subst hm
        exact habsent (h.adopted hadopt)
      · rw [Bool.not_eq_true] at hadopt
        refine wp_mono (wp_newDataset_unclaimed _ _ srUuid _) ?_ ?_
        · rintro _ w' ⟨rfl, rfl, hunclaimed⟩
          refine ⟨fun herr => ⟨rfl, fun m h => herr h.properties⟩, fun herr => ⟨rfl, ?_⟩⟩
          refine ⟨(htarget _).2 (by rw [if_neg (by simp [hadopt])]), hpool, ?_, fun _ => hunclaimed,
            not_not.1 herr⟩
          intro h
          rw [hadopt] at h
          cases h
        · rintro _ w' ⟨rfl, hclaimed⟩
          refine ⟨rfl, fun m h => ?_⟩
          have hm := (htarget m).1 h.target
          rw [if_neg (by simp [hadopt])] at hm
          subst hm
          exact hclaimed (h.unclaimed hadopt)

/-! ### Making the dataset ready -/

/-- An error of a command, not one of the call's own. -/
def Internal (e : Fault) : Prop := ∃ message, e = .internalError message

theorem Internal.not_rejection {e : Fault} (h : Internal e) : ¬ Rejection e := by
  obtain ⟨message, rfl⟩ := h
  rintro ⟨code, title, detail, heq, -⟩
  cases heq

/-- **`zfs create`.** -/
theorem wp_zfsCreate (path : List String) (mounted : Bool) (t : Tree) (habsent : ¬ t.Has (dataset path))
    (hparent : t.Has (dataset path.dropLast)) :
    wp (zfsCreate site.toHost path mounted)
      (fun _ t' => Creatable site t path ∧
        t' = t.set (dataset path) ⟨.filesystem, none, mounted, false, none⟩)
      (fun e _ => ¬ Creatable site t path ∧ Internal e) t := by
  obtain ⟨parent, hparent⟩ := Tree.has_iff.1 hparent
  simp only [zfsCreate, wp_bind, wp_get, wp_ite]
  refine ⟨fun hbad => ⟨fun h => ?_, _, rfl⟩, fun hgood => ?_⟩
  · exact hbad.elim (fun hlegal => hlegal h.1) habsent
  · rw [not_or, not_not] at hgood
    rw [hparent]
    simp only [wp_ite, wp_set]
    refine ⟨fun hkind => ⟨⟨hgood.1, fun node hnode => ?_⟩, trivial⟩, fun hkind => ⟨fun h => ?_, _, rfl⟩⟩
    · rw [hparent] at hnode
      exact Option.some.inj hnode ▸ hkind
    · exact hkind (h.2 parent hparent)

/-- The datasets of `t` are still there, and every other one is a filesystem. -/
def Grown (t t' : Tree) : Prop :=
  ∀ n, t'.get? n = t.get? n ∨
    t.get? n = none ∧ ∃ node, t'.get? n = some node ∧ node.kind = .filesystem

theorem Grown.refl (t : Tree) : Grown t t := fun _ => .inl rfl

theorem Grown.set {t : Tree} {n : Name} {node : Node} (h : ¬ t.Has n) (hkind : node.kind = .filesystem) :
    Grown t (t.set n node) := by
  intro m
  rw [Dict.get?_set]
  split
  · next heq =>
      subst heq
      exact .inr ⟨Option.not_isSome_iff_eq_none.1 h, node, rfl, hkind⟩
  · exact .inl rfl

theorem Grown.trans {t t' t'' : Tree} (h : Grown t t') (h' : Grown t' t'') : Grown t t'' := by
  intro n
  rcases h n with heq | ⟨hnone, node, hnode, hkind⟩
  · rw [← heq]
    exact h' n
  · rcases h' n with heq' | ⟨hnone', -⟩
    · exact .inr ⟨hnone, node, heq'.trans hnode, hkind⟩
    · rw [hnode] at hnone'
      cases hnone'

/-- What has been created on the way does not decide whether a dataset can be. -/
theorem Grown.creatable_iff {t t' : Tree} (h : Grown t t') (path : List String) :
    Creatable site t' path ↔ Creatable site t path := by
  refine and_congr_right fun _ => ?_
  rcases h (dataset path.dropLast) with heq | ⟨hnone, node, hnode, hkind⟩
  · rw [heq]
  · rw [hnone, hnode]
    refine iff_of_true (fun node' h => ?_) (fun node' h => by cases h)
    exact Option.some.inj h ▸ hkind

/-- The missing datasets among `paths` could be created. -/
def AllCreatable (site : CreateSite) (t : Tree) (paths : List (List String)) : Prop :=
  ∀ path ∈ paths, ¬ t.Has (dataset path) → Creatable site t path

/-- After a dataset has been created, the longer ones are as missing and as creatable as before. -/
theorem allCreatable_grown {t t' : Tree} {paths : List (List String)} (hgrown : Grown t t')
    (hsame : ∀ path ∈ paths, t'.get? (dataset path) = t.get? (dataset path)) :
    AllCreatable site t' paths ↔ AllCreatable site t paths := by
  refine forall₂_congr fun path hpath => ?_
  rw [Tree.Has, Tree.Has, hsame path hpath, hgrown.creatable_iff]

/-- **The loop over the parents**, from the prefix of length `k` on. -/
theorem wp_createParents {path : List String} (j k : ℕ) (hk : 0 < k) (hlen : k + j ≤ path.length)
    (s : State) (hhas : s.tree.Has (dataset (path.take (k - 1)))) :
    wp (createParents site ((List.range' k j).map path.take))
      (fun _ s' => AllCreatable site s.tree ((List.range' k j).map path.take) ∧
        Grown s.tree s'.tree ∧ s'.tree.Has (dataset (path.take (k + j - 1))) ∧
        s'.tree.get? (dataset path) = s.tree.get? (dataset path) ∧ s'.databases = s.databases)
      (fun e _ => ¬ AllCreatable site s.tree ((List.range' k j).map path.take) ∧ Internal e) s := by
  induction j generalizing k s with
  | zero => exact ⟨by simp [AllCreatable], Grown.refl _, hhas, rfl, rfl⟩
  | succ j ih =>
      have hcons : (List.range' k (j + 1)).map path.take =
          path.take k :: (List.range' (k + 1) j).map path.take := by
        rw [List.range'_succ, List.map_cons]
      -- the paths that come later are longer
      have hlonger : ∀ q ∈ (List.range' (k + 1) j).map path.take, q ≠ path.take k := by
        intro q hq heq
        obtain ⟨i, hi, rfl⟩ := List.mem_map.1 hq
        rw [List.mem_range'_1] at hi
        have := congrArg List.length heq
        rw [List.length_take, List.length_take] at this
        omega
      have hself : path ≠ path.take k := by
        intro heq
        have := congrArg List.length heq
        rw [List.length_take] at this
        omega
      have hend : k + 1 + j - 1 = k + (j + 1) - 1 := by omega
      rw [hcons, createParents, wp_bind, wp_onTree, wp_datasetExists]
      by_cases hpresent : s.tree.Has (dataset (path.take k))
      · rw [if_neg (by simp [hpresent])]
        have hiff : AllCreatable site s.tree (path.take k :: (List.range' (k + 1) j).map path.take) ↔
            AllCreatable site s.tree ((List.range' (k + 1) j).map path.take) := by
          rw [AllCreatable, List.forall_mem_cons]
          exact and_iff_right fun habsent => absurd hpresent habsent
        rw [hiff, ← hend]
        exact ih (k + 1) (by omega) (by omega) s hpresent
      · rw [if_pos (by simp [hpresent]), wp_bind, wp_onTree]
        have hdrop : (path.take k).dropLast = path.take (k - 1) := List.dropLast_take (by omega)
        refine wp_mono (wp_zfsCreate _ _ _ hpresent (by rwa [hdrop])) ?_ ?_
        · rintro _ t ⟨hcreatable, rfl⟩
          have hgrown : Grown s.tree (s.tree.set (dataset (path.take k))
              ⟨.filesystem, none, false, false, none⟩) := Grown.set hpresent rfl
          have hother : ∀ q, q ≠ path.take k → (s.tree.set (dataset (path.take k))
              ⟨.filesystem, none, false, false, none⟩).get? (dataset q) = s.tree.get? (dataset q) := by
            intro q hq
            rw [Dict.get?_set, if_neg fun heq => hq (congrArg Name.path heq)]
          have hiff : AllCreatable site s.tree
              (path.take k :: (List.range' (k + 1) j).map path.take) ↔
              AllCreatable site (s.tree.set (dataset (path.take k))
                ⟨.filesystem, none, false, false, none⟩) ((List.range' (k + 1) j).map path.take) := by
            rw [allCreatable_grown hgrown fun q hq => hother q (hlonger q hq), AllCreatable,
              List.forall_mem_cons]
            exact and_iff_right fun _ => hcreatable
          rw [hiff, ← hend, setMountpoint, wp_bind, wp_modify]
          refine wp_mono (ih (k + 1) (by omega) (by omega) _ ?_) ?_ fun _ _ h => h
          · rw [Nat.add_sub_cancel, Tree.Has, Dict.get?_set, if_pos rfl]
            rfl
          · rintro _ s' ⟨hall, hgrown', hlast, hpath, hdb⟩
            exact ⟨hall, hgrown.trans hgrown', hlast, hpath.trans (hother path hself), hdb⟩
        · rintro e t ⟨hnot, hinternal⟩
          exact ⟨fun hall => hnot (hall _ List.mem_cons_self hpresent), hinternal⟩

/-- **`dataset_create`**, for a dataset that is not there. -/
theorem wp_datasetCreate {path : List String} (hlen : 2 ≤ path.length) (s : State)
    (hpool : s.tree.Has (dataset (path.take 1))) (habsent : ¬ s.tree.Has (dataset path)) :
    wp (datasetCreate site path)
      (fun _ s' => AllCreatable site s.tree (datasetGetParents path ++ [path]) ∧
        (∃ mounted, s'.tree.get? (dataset path) = some ⟨.filesystem, none, mounted, false, none⟩) ∧
        s'.databases = s.databases)
      (fun e _ => ¬ AllCreatable site s.tree (datasetGetParents path ++ [path]) ∧ Internal e) s := by
  rw [datasetCreate, wp_bind, datasetGetParents]
  have hsum : 2 + (path.length - 2) = path.length := by omega
  refine wp_mono (wp_createParents (path.length - 2) 2 (by omega) (by omega) s hpool) ?_ ?_
  · rintro _ s₁ ⟨hparents, hgrown, hlast, hsame, hdb⟩
    rw [hsum, ← List.dropLast_eq_take] at hlast
    have habsent₁ : ¬ s₁.tree.Has (dataset path) := by rwa [Tree.Has, hsame]
    simp only [wp_bind, wp_get, wp_onTree]
    have hiff : AllCreatable site s.tree ((List.range' 2 (path.length - 2)).map path.take ++ [path]) ↔
        Creatable site s₁.tree path := by
      rw [hgrown.creatable_iff, AllCreatable, List.forall_mem_append, List.forall_mem_singleton]
      exact (and_iff_right hparents).trans ⟨fun h => h habsent, fun h _ => h⟩
    rw [hiff]
    refine wp_mono (wp_zfsCreate _ _ _ habsent₁ hlast) ?_ fun _ _ h => h
    rintro _ t ⟨hcreatable, rfl⟩
    exact ⟨hcreatable, ⟨_, by rw [Dict.get?_set, if_pos rfl]⟩, hdb⟩
  · rintro e s₁ ⟨hnot, hinternal⟩
    exact ⟨fun hall => hnot (List.forall_mem_append.1 hall).1, hinternal⟩

/-! ### Setting the dataset up -/

theorem wp_lookup {cmd : List String} {n : Name} {node : Node} {t : Tree} (hnode : t.get? n = some node)
    (Q : Node → Tree → Prop) (X : Fault → Tree → Prop) :
    wp (lookup site.toHost cmd n) Q X t ↔ Q node t := by
  rw [lookup, wp_bind, wp_get, hnode, wp_pure]

theorem wp_fail {α : Type} (cmd : List String) (Q : α → Tree → Prop) (X : Fault → Tree → Prop)
    (t : Tree) : wp (fail site.toHost cmd) Q X t ↔ X (.internalError (site.stderr cmd)) t := Iff.rfl

/-- The properties of a dataset after some of them have been set. -/
def setAll (path : List String) : List (String × String) → Dict (List String × String) String →
    Dict (List String × String) String
  | [], d => d
  | (prop, value) :: properties, d => setAll path properties (d.set (path, prop) value)

theorem get?_setAll_of_ne {path : List String} {properties : List (String × String)}
    {k : List String × String} (hk : ∀ e ∈ properties, k ≠ (path, e.1))
    (d : Dict (List String × String) String) : (setAll path properties d).get? k = d.get? k := by
  induction properties generalizing d with
  | nil => rfl
  | cons e properties ih =>
      rw [List.forall_mem_cons] at hk
      rw [setAll, ih hk.2, Dict.get?_set, if_neg hk.1]

theorem get?_setAll_of_mem {path : List String} {properties : List (String × String)}
    {e : String × String} (he : e ∈ properties) (hdistinct : (properties.map Prod.fst).Nodup)
    (d : Dict (List String × String) String) :
    (setAll path properties d).get? (path, e.1) = some e.2 := by
  induction properties generalizing d with
  | nil => cases he
  | cons e' properties ih =>
      rw [List.map_cons, List.nodup_cons] at hdistinct
      rcases List.mem_cons.1 he with rfl | he
      · rw [setAll, get?_setAll_of_ne, Dict.get?_set, if_pos rfl]
        intro e'' he'' heq
        exact hdistinct.1 (List.mem_map.2 ⟨e'', he'', (congrArg Prod.snd heq).symm⟩)
      · exact ih he hdistinct.2 _

/-- Setting properties changes nothing exactly when they are set already. -/
theorem setAll_same_iff {path : List String} {properties : Dict String String}
    {d : Dict (List String × String) String} :
    (∀ k, (setAll path properties.items d).get? k = d.get? k) ↔
      ∀ e ∈ properties.items, d.get? (path, e.1) = some e.2 := by
  constructor
  · intro hsame e he
    rw [← hsame, get?_setAll_of_mem he properties.distinct]
  · intro hset k
    by_cases hk : ∃ e ∈ properties.items, k = (path, e.1)
    · obtain ⟨e, he, rfl⟩ := hk
      rw [get?_setAll_of_mem he properties.distinct, hset e he]
    · exact get?_setAll_of_ne (fun e he heq => hk ⟨e, he, heq⟩) d

theorem wp_datasetSetProperties {path : List String} (properties : List (String × String)) (s : State)
    (hhas : s.tree.Has (dataset path)) :
    wp (datasetSetProperties site path properties)
      (fun _ s' => (∀ e ∈ properties, site.accepts path e.1 e.2 = true) ∧
        s' = { s with properties := setAll path properties s.properties })
      (fun e _ => ¬ (∀ e ∈ properties, site.accepts path e.1 e.2 = true) ∧ Internal e) s := by
  induction properties generalizing s with
  | nil => exact ⟨by simp, rfl⟩
  | cons e properties ih =>
      obtain ⟨prop, value⟩ := e
      obtain ⟨node, hnode⟩ := Tree.has_iff.1 hhas
      rw [datasetSetProperties, wp_bind, wp_onTree, wp_lookup hnode, List.forall_mem_cons]
      by_cases haccepts : site.accepts path prop value = true
      · rw [if_pos haccepts, wp_bind, wp_modify]
        refine wp_mono (ih _ hhas) ?_ ?_
        · rintro _ s' ⟨hall, rfl⟩
          exact ⟨⟨haccepts, hall⟩, rfl⟩
        · rintro e s' ⟨hnot, hinternal⟩
          exact ⟨fun h => hnot h.2, hinternal⟩
      · rw [if_neg haccepts, wp_bind, wp_onTree, wp_fail]
        exact ⟨fun h => haccepts h.1, _, rfl⟩

/-- What setting a dataset up changes. -/
structure Ready (s s' : State) (path : List String) (srUuid : SrUuid)
    (properties : List (String × String)) (node : Node) (db : Metabase) : Prop where
  tree : ∀ n, s'.tree.get? n = if n = dataset path then
    some { node with sr := some srUuid.text, mounted := true } else s.tree.get? n
  mountpoints : s'.mountpoints = s.mountpoints.set path (srMountPath srUuid)
  properties : s'.properties = setAll path properties s.properties
  srs : s'.srs = s.srs
  details : s'.details = s.details
  databases : s'.databases = s.databases.set path db

/-- **Setting a dataset up**: what it needs, and what it changes. -/
theorem wp_setUp {path : List String} {properties : List (String × String)} {s : State} {node : Node}
    (hnode : s.tree.get? (dataset path) = some node) :
    wp (setUp site path srUuid properties)
      (fun _ s' => (node.kind = .filesystem ∧ ∀ e ∈ properties, site.accepts path e.1 e.2 = true) ∧
        ∃ db, site.createDatabase (s.databases.get? path) = some db ∧
          Ready s s' path srUuid properties node db)
      (fun e _ => ¬ ((node.kind = .filesystem ∧ ∀ e ∈ properties, site.accepts path e.1 e.2 = true) ∧
        (site.createDatabase (s.databases.get? path)).isSome) ∧ Internal e) s := by
  rw [setUp, wp_bind]
  refine wp_mono (wp_datasetSetProperties properties s (Tree.has_iff.2 ⟨node, hnode⟩)) ?_ ?_
  · rintro _ s₁ ⟨haccepts, rfl⟩
    have hmarked : (s.tree.set (dataset path) { node with sr := some srUuid.text }).get? (dataset path) =
        some { node with sr := some srUuid.text } := by
      rw [Dict.get?_set, if_pos rfl]
    simp only [wp_bind, wp_onTree, datasetSetSrMarker, wp_lookup hnode, wp_modify,
      SrCreate.datasetSetMountpoint, Datasets.datasetSetMountpoint, wp_lookup hmarked, wp_ite, wp_pure,
      wp_fail, setMountpoint]
    refine ⟨fun hkind => ?_, fun hkind => ⟨fun h => hkind h.1.1, _, rfl⟩⟩
    rw [wp_of_ok (datasetIsMounted_eq hmarked)]
    have hlast : ∀ t : Tree, (∀ n, t.get? n = if n = dataset path then
          some { node with sr := some srUuid.text, mounted := true } else s.tree.get? n) →
        wp (createDatabase site path (srMountPath srUuid))
          (fun _ s' => (node.kind = .filesystem ∧ ∀ e ∈ properties, site.accepts path e.1 e.2 = true) ∧
            ∃ db, site.createDatabase (s.databases.get? path) = some db ∧
              Ready s s' path srUuid properties node db)
          (fun e _ => ¬ ((node.kind = .filesystem ∧
            ∀ e ∈ properties, site.accepts path e.1 e.2 = true) ∧
              (site.createDatabase (s.databases.get? path)).isSome) ∧ Internal e)
          { s with
            tree := t
            mountpoints := s.mountpoints.set path (srMountPath srUuid)
            properties := setAll path properties s.properties } := by
      intro t ht
      rw [createDatabase, wp_bind, wp_get]
      dsimp only
      cases hdb : site.createDatabase (s.databases.get? path) with
      | none =>
          rw [wp_onTree, wp_fail]
          exact ⟨fun h => by simp at h, _, rfl⟩
      | some db =>
          rw [wp_modify]
          exact ⟨⟨hkind, haccepts⟩, db, rfl, ht, rfl, rfl, rfl, rfl, rfl⟩
    constructor
    · intro hunmounted
      rw [datasetMount, wp_bind, wp_lookup hmarked, wp_modify]
      refine hlast _ fun n => ?_
      rw [Dict.get?_set, Dict.get?_set]
      split <;> rfl
    · intro hmounted
      have hmounted : node.mounted = true := by
        simp only [not_not, decide_eq_true_eq] at hmounted
        exact hmounted.2
      refine hlast _ fun n => ?_
      rw [Dict.get?_set]
      split
      · rw [← hmounted]
      · rfl
  · rintro e s₁ ⟨hnot, hinternal⟩
    exact ⟨fun h => hnot h.1.2, hinternal⟩

/-- The set-up changes nothing exactly when the dataset is set up already. -/
theorem Ready.same_iff {s s' : State} {m : Meta} {node : Node} {db : Metabase}
    (hnode : s.tree.get? (dataset m.path) = some node)
    (hdb : site.createDatabase (s.databases.get? m.path) = some db)
    (hready : Ready s s' m.path srUuid (parsed site configuration).dataset_props.items node db) :
    Same s s' ↔ SetUp site srUuid configuration s m := by
  have htree := hready.tree (dataset m.path)
  rw [if_pos rfl] at htree
  constructor
  · intro hsame
    have heq := hsame.tree (dataset m.path)
    rw [htree, hnode, Option.some_inj] at heq
    have hbase := hsame.databases m.path
    rw [hready.databases, Dict.get?_set, if_pos rfl] at hbase
    refine ⟨⟨node, hnode, by rw [← heq], by rw [← heq]⟩, ?_, ?_, db, hbase.symm, by rwa [← hbase] at hdb⟩
    · rw [← hsame.mountpoints, hready.mountpoints, Dict.get?_set, if_pos rfl]
    · refine setAll_same_iff.1 fun k => ?_
      rw [← hready.properties]
      exact hsame.properties k
  · rintro ⟨⟨node', hnode', hsr, hmounted⟩, hmount, hprops, db', hdb', hcreate⟩
    rw [hnode, Option.some_inj] at hnode'
    subst hnode'
    rw [hdb', hcreate, Option.some_inj] at hdb
    subst hdb
    refine ⟨fun n => ?_, fun path => ?_, fun k => ?_, fun sr => by rw [hready.srs],
      fun sr => by rw [hready.details], fun path => ?_⟩
    · rw [hready.tree]
      split
      · next heq => rw [heq, hnode, ← hsr, ← hmounted]
      · rfl
    · rw [hready.mountpoints, Dict.get?_set]
      split
      · next heq => rw [heq, hmount]
      · rfl
    · rw [hready.properties]
      exact setAll_same_iff.2 hprops k
    · rw [hready.databases, Dict.get?_set]
      split
      · next heq => rw [heq, hdb']
      · rfl

/-- **Making the accepted dataset ready**: it needs what is feasible, and it changes something unless an
adopted dataset is set up already. -/
theorem wp_prepare {s : State} {m : Meta} (haccepts : Accepts site srUuid configuration s.tree m) :
    wp (prepare site srUuid configuration m)
      (fun _ s' => Feasible site configuration s m ∧
        (Same s s' ↔ (deviceConfig site configuration).adopt = true ∧ SetUp site srUuid configuration s m))
      (fun e _ => ¬ Feasible site configuration s m ∧ Internal e) s := by
  rw [prepare]
  cases hadopt : (deviceConfig site configuration).adopt with
  | true =>
      rw [if_neg (by simp)]
      obtain ⟨node, hnode⟩ := Tree.has_iff.1 (haccepts.adopted hadopt)
      have hiff : Feasible site configuration s m ↔ (node.kind = .filesystem ∧
          ∀ e ∈ (parsed site configuration).dataset_props.items,
            site.accepts m.path e.1 e.2 = true) ∧
          (site.createDatabase (s.databases.get? m.path)).isSome := by
        constructor
        · exact fun h => ⟨⟨h.adopt hadopt node hnode, h.properties⟩, h.database⟩
        · rintro ⟨⟨hkind, hprops⟩, hdb⟩
          refine ⟨fun h => ?_, fun _ node' hnode' => ?_, hprops, hdb⟩
          · rw [hadopt] at h
            cases h
          · rw [hnode, Option.some_inj] at hnode'
            exact hnode' ▸ hkind
      rw [hiff]
      refine wp_mono (wp_setUp hnode) ?_ fun _ _ h => h
      rintro _ s' ⟨hcan, db, hdb, hready⟩
      exact ⟨⟨hcan, by rw [hdb]; rfl⟩, (hready.same_iff hnode hdb).trans (and_iff_right rfl).symm⟩
  | false =>
      rw [if_pos (by simp), wp_bind]
      have hpath : ∃ parent, m.path = m.zpool :: (parent ++ [srUuid.text]) := by
        have htarget := haccepts.target
        rw [target, Option.map_eq_some_iff] at htarget
        obtain ⟨path, -, rfl⟩ := htarget
        rw [hadopt, if_neg (by simp)]
        exact ⟨_, rfl⟩
      obtain ⟨parent, hpath⟩ := hpath
      have habsent := (haccepts.unclaimed hadopt).absent
      refine wp_mono (wp_datasetCreate (by simp [hpath]) s ?_ habsent) ?_ ?_
      · rw [hpath]
        exact haccepts.imported
      · rintro _ s₁ ⟨hall, ⟨mounted, hnode⟩, hbases⟩
        have hiff : Feasible site configuration s m ↔
            ((Kind.filesystem = .filesystem ∧ ∀ e ∈ (parsed site configuration).dataset_props.items,
              site.accepts m.path e.1 e.2 = true) ∧
              (site.createDatabase (s₁.databases.get? m.path)).isSome) := by
          rw [hbases]
          constructor
          · exact fun h => ⟨⟨rfl, h.properties⟩, h.database⟩
          · rintro ⟨⟨-, hprops⟩, hdb⟩
            refine ⟨fun _ => hall, fun h => ?_, hprops, hdb⟩
            rw [hadopt] at h
            cases h
        rw [hiff]
        refine wp_mono (wp_setUp hnode) ?_ fun _ _ h => h
        rintro _ s' ⟨hcan, db, hdb, hready⟩
        refine ⟨⟨hcan, by rw [hdb]; rfl⟩, iff_of_false (fun hsame => ?_) (by simp)⟩
        have htree := hready.tree (dataset m.path)
        rw [if_pos rfl, hsame.tree] at htree
        exact habsent (Tree.has_iff.2 ⟨_, htree⟩)
      · rintro e s₁ ⟨hnot, hinternal⟩
        exact ⟨fun h => hnot (h.create hadopt), hinternal⟩

/-! ### The last check -/

theorem wp_registerZvols (path : List String) (zvols : List Name) (s : State) :
    wp (registerZvols site path zvols) (fun _ _ => True) (fun _ _ => False) s := by
  induction zvols generalizing s with
  | nil => trivial
  | cons zvol zvols ih =>
      rw [registerZvols, wp_bind, wp_get]
      dsimp only
      split
      · rw [wp_bind, wp_modify]
        exact ih _
      · rw [wp_bind]
        exact wp_mono (ih s) (fun _ _ _ => trivial) fun _ _ hf => hf

/-- After the check of the datapath nothing is rejected: a zvol that cannot be registered is told in
another error. -/
theorem wp_finish {name description : String} {m : Meta} (s : State)
    (hvalid : datapathOf configuration ∈ datapaths) :
    wp (finish site srUuid configuration name description m) (fun _ _ => True)
      (fun e _ => ¬ Rejection e) s := by
  simp only [finish, wp_bind, wp_ite, wp_modify, wp_pure, implies_true, and_true]
  refine ⟨fun h => absurd hvalid h, fun _ _ => ?_⟩
  rw [registerAdopted, wp_bind, wp_get, wp_bind]
  refine wp_mono (wp_registerZvols _ _ _) ?_ fun _ _ hf => hf.elim
  rintro failed s' -
  rw [wp_ite]
  refine ⟨fun _ => ?_, fun _ => trivial⟩
  rw [wp_onWorld, backendFailure, wp_throw]
  rintro ⟨code, title, detail, heq, -⟩
  simp at heq

/-- A datapath that is not valid is rejected on the spot. -/
theorem finish_of_invalid (name description : String) (m : Meta) (s : State)
    (hinvalid : datapathOf configuration ∉ datapaths) :
    ∃ e, finish site srUuid configuration name description m s = .error e s ∧ Rejection e := by
  have hwp : wp (finish site srUuid configuration name description m) (fun _ _ => False)
      (fun e s' => s' = s ∧ Rejection e) s := by
    rw [finish, if_pos hinvalid, wp_bind, wp_onWorld, backendFailure, wp_throw]
    exact ⟨rfl, _, _, _, rfl, by simp [rejections]⟩
  obtain ⟨e, s', herr, rfl, hrejection⟩ := exists_error_of_wp hwp
  exact ⟨e, herr, hrejection⟩

/-- The state after the first checks is the one before. -/
theorem choose_cases (s : State) :
    (∃ e, onWorld (chooseDataset (checkSite site configuration) srUuid (deviceConfig site configuration))
        s = .error e s ∧ ∀ m, ¬ Accepts site srUuid configuration s.tree m) ∨
      ∃ m, onWorld (chooseDataset (checkSite site configuration) srUuid
        (deviceConfig site configuration)) s = .ok m s ∧ Accepts site srUuid configuration s.tree m := by
  have hwp : wp (onWorld (chooseDataset (checkSite site configuration) srUuid
      (deviceConfig site configuration)))
      (fun m s' => s' = s ∧ Accepts site srUuid configuration s.tree m)
      (fun _ s' => s' = s ∧ ∀ m, ¬ Accepts site srUuid configuration s.tree m) s := by
    rw [wp_onWorld]
    refine wp_mono (wp_chooseDataset s.toWorld) ?_ ?_
    · rintro m w ⟨rfl, haccepts⟩
      exact ⟨rfl, haccepts⟩
    · rintro e w ⟨rfl, hrejects⟩
      exact ⟨rfl, hrejects⟩
  rcases hrun : onWorld (chooseDataset (checkSite site configuration) srUuid
    (deviceConfig site configuration)) s with ⟨m, s'⟩ | ⟨e, s'⟩
  · obtain ⟨rfl, haccepts⟩ := (wp_of_ok hrun).1 hwp
    exact .inr ⟨m, rfl, haccepts⟩
  · obtain ⟨rfl, hrejects⟩ := (wp_of_error hrun).1 hwp
    exact .inl ⟨e, rfl, hrejects⟩

/-- **When a rejected `SR.create` changes nothing**: the datapath is a valid one, or the first checks
reject the configuration, or one of the steps that make the dataset ready fails, or the dataset is
adopted and has been set up for the SR before. -/
theorem rejectedUnchanged_iff (site : CreateSite) (srUuid : SrUuid)
    (configuration : Dict String String) (name description : String) (s : State) :
    RejectedUnchanged site srUuid configuration name description s ↔
      datapathOf configuration ∈ datapaths ∨
        ∀ m, Accepts site srUuid configuration s.tree m → Feasible site configuration s m →
          (deviceConfig site configuration).adopt = true ∧ SetUp site srUuid configuration s m := by
  rcases choose_cases s with ⟨e, hchoose, hrejects⟩ | ⟨m, hchoose, haccepts⟩
  · have hcreate : create site srUuid configuration name description s = .error e s :=
      bind_error hchoose
    refine iff_of_true (fun e' s' herr _ => ?_) (.inr fun m haccepts => absurd haccepts (hrejects m))
    rw [hcreate] at herr
    cases herr
    exact Same.refl s
  have honly : ∀ m', Accepts site srUuid configuration s.tree m' → m' = m := fun m' h =>
    Option.some.inj (h.target.symm.trans haccepts.target)
  have hwp := wp_prepare haccepts
  rcases hprep : prepare site srUuid configuration m s with ⟨u, s₁⟩ | ⟨e, s₁⟩
  · obtain ⟨hfeasible, hsame⟩ := (wp_of_ok hprep).1 hwp
    have hcreate : create site srUuid configuration name description s =
        finish site srUuid configuration name description m s₁ := by
      rw [create, bind_ok hchoose, bind_ok hprep]
    by_cases hvalid : datapathOf configuration ∈ datapaths
    · refine iff_of_true (fun e s' herr hrejection => ?_) (.inl hvalid)
      rw [hcreate] at herr
      exact absurd hrejection ((wp_of_error herr).1 (wp_finish s₁ hvalid))
    · obtain ⟨e, hfinish, hrejection⟩ := finish_of_invalid name description m s₁ hvalid
      rw [hfinish] at hcreate
      constructor
      · intro hunchanged
        refine .inr fun m' haccepts' hfeasible' => ?_
        obtain rfl := honly m' haccepts'
        exact hsame.1 (hunchanged e s₁ hcreate hrejection)
      · rintro (h | hset) e' s' herr -
        · exact absurd h hvalid
        · rw [hcreate] at herr
          cases herr
          exact hsame.2 (hset m haccepts hfeasible)
  · obtain ⟨hinfeasible, hinternal⟩ := (wp_of_error hprep).1 hwp
    refine iff_of_true (fun e' s' herr hrejection => ?_) (.inr fun m' haccepts' hfeasible' => ?_)
    · rw [create, bind_ok hchoose, bind_error hprep] at herr
      cases herr
      exact absurd hrejection hinternal.not_rejection
    · obtain rfl := honly m' haccepts'
      exact absurd hfeasible' hinfeasible

/-! ### A misspelt datapath -/

private def plainSite : CreateSite where
  toHost := lzcHost
  importable _ := false
  strings := Volume.asciiStr
  ashift _ := none
  accepts _ _ _ := true
  createDatabase db := some (db.getD Metabase.empty)
  volsize _ := none

private theorem distinct_emptyPool :
    ([(dataset ["p"], (⟨.filesystem, none, true, false, none⟩ : Node))].map Prod.fst).Nodup := by
  simp

/-- A pool with nothing in it. -/
private def emptyPool : State where
  tree := ⟨[(dataset ["p"], ⟨.filesystem, none, true, false, none⟩)], distinct_emptyPool⟩
  srs := Dict.empty
  mountpoints := Dict.empty
  properties := Dict.empty
  details := Dict.empty
  databases := Dict.empty

private theorem marks_srA : "a" ≠ "" ∧ "a" ≠ "-" := by decide

private def srA : SrUuid := ⟨"a", marks_srA⟩

private def misspelt : Dict String String := (Dict.empty.set "path" "p").set "datapath" "qdisk"

/-- The configuration is rejected, and the dataset of `srA` is there. -/
private def leftBehind : EStateM.Result Fault State (Dict String String) → Bool
  | .error (.storageError _ [title, _]) s =>
      decide (title ∈ rejections ∧ s.tree.Has (dataset ["p", "a"]))
  | _ => false

/-- **A new SR with `datapath=qdisk`** is rejected, and its dataset stays behind. -/
theorem not_rejectedUnchanged_datapath :
    ¬ RejectedUnchanged plainSite srA misspelt "name" "description" emptyPool := by
  intro hunchanged
  have hrun : leftBehind (create plainSite srA misspelt "name" "description" emptyPool) = true := by
    decide +kernel
  unfold leftBehind at hrun
  split at hrun
  · next code title detail s' herr =>
      obtain ⟨hrejection, hhas⟩ := of_decide_eq_true hrun
      have hsame := hunchanged _ s' herr ⟨code, title, detail, rfl, hrejection⟩
      rw [Tree.Has, hsame.tree] at hhas
      revert hhas
      decide
  · cases hrun

end ZfsLive.SrCreate

/-
**Creating and destroying storage repositories.**

An SR lives in a dataset.  A normal `SR.create` makes a dataset of its own below the configured path;
in adopt mode the path itself becomes the SR's dataset, even when it is the root of a pool.  The SR's
metadata remembers the pool and the dataset, and `SR.destroy` destroys what it finds there.

* `Sr.pathParts`, `Sr.Configuration` — the device configuration, as far as it decides the dataset;
* `Sr.create`, `Sr.destroy`;
* `Sr.Step`, `Sr.Run` — sequences of these calls, with volume calls in between.
-/

import Mathlib.Data.List.DropRight
import ZfsLive.Base.Wp
import ZfsLive.Datasets

set_option relaxedAutoImplicit false
set_option autoImplicit false

namespace ZfsLive.Sr

open Datasets

/-- Whether a pool that is not imported could be, and what is wrong with a configuration. -/
structure Site extends Host where
  importable : String → Bool
  /-- The errors `_parse_zfs_config` reports. -/
  configErrors : List (String × String) → List String

/-- The UUID of an SR; what the marker of an SR holds. -/
structure SrUuid where
  text : String
  marks : text ≠ "" ∧ text ≠ "-"
  deriving DecidableEq

/-- A device configuration. -/
structure Configuration where
  path : Option String
  adopt : Bool
  datapath : Option String
  rest : List (String × String)

/-- What the metadata of an SR says about its dataset. -/
structure Meta where
  zpool : String
  dataset : List String
  deriving DecidableEq, Repr

/-- `dataset_path(pool_name, dataset_name)`. -/
def Meta.path (m : Meta) : List String := m.zpool :: m.dataset

/-- The datasets of the host, and the metadata of the SRs on them. -/
structure World where
  tree : Tree
  srs : Dict String Meta

/-- A program over the world. -/
abbrev SrM := EStateM Fault World

/-- An operation on the datasets. -/
def onTree {α : Type} (m : M α) : SrM α := fun w =>
  match m w.tree with
  | .ok a t => .ok a { w with tree := t }
  | .error e t => .error e { w with tree := t }

/-- `path.strip("/").split("/")`. -/
def pathParts (path : String) : List String :=
  (((path.toList.dropWhile (· = '/')).rdropWhile (· = '/')).splitOn '/').map String.ofList

variable (site : Site)

def backendFailure {α : Type} (code : String) (params : List String) : SrM α :=
  throw (.storageError ("SR_BACKEND_FAILURE_" ++ code) params)

def checkPool (pool : String) : SrM Unit := do
  if ← onTree (datasetExists [pool]) then pure ()
  else if site.importable pool then
    backendFailure "107" ["ZFS pool not imported", "pool '" ++ pool ++
      "' exists but is not imported - run 'zpool import " ++ pool ++ "'"]
  else
    backendFailure "107" ["ZFS pool not found", "pool '" ++ pool ++
      "' does not exist - create it first"]

def checkParents : List (List String) → SrM Unit
  | [] => pure ()
  | parent :: parents => do
      if (← onTree (datasetExists parent)) ∧ (← onTree (datasetIsSr parent)) then
        backendFailure "109" ["Cannot create SR inside another SR",
          "parent dataset '" ++ pathText parent ++ "' is already an SR"]
      checkParents parents

/-- The dataset of an adopted SR: the configured path. -/
def adoptDataset (pool : String) (parent : List String) : SrM (List String) := do
  if ← onTree (datasetExists (pool :: parent)) then pure parent
  else
    backendFailure "109" ["Dataset not found for adopt", "dataset '" ++ pathText (pool :: parent) ++
      "' does not exist -- adopt requires an existing dataset"]

/-- The dataset of a new SR: named after its UUID, below the configured path, and checked for
conflicts with other SRs. -/
def newDataset (pool : String) (parent : List String) (srUuid : SrUuid) : SrM (List String) := do
  let datasetName := parent ++ [srUuid.text]
  let srDataset := pool :: datasetName
  if ← onTree (datasetExists srDataset) then
    backendFailure "109" ["Dataset already exists", "dataset '" ++ pathText datasetName ++
      "' already exists in pool '" ++ pool ++ "'"]
  checkParents (datasetGetParents srDataset)
  let childSrs ← onTree (datasetFindChildSrs site.toHost pool srDataset)
  if childSrs ≠ [] then
    backendFailure "109" ["Cannot create SR that contains another SR",
      "child dataset(s) already SR: " ++ ", ".intercalate (childSrs.map pathText)]
  pure datasetName

def srMountPath (srUuid : SrUuid) : String := "/var/run/sr-mount/" ++ srUuid.text

/-- The first half of `create`: the pool and the dataset the SR will live in. -/
def chooseDataset (srUuid : SrUuid) (configuration : Configuration) : SrM Meta := do
  match configuration.path with
  | none =>
      backendFailure "109" ["Invalid configuration",
        "path parameter is required (e.g., path=zpool or path=zpool/storage)"]
  | some path =>
      let pool := (pathParts path).headD ""
      let parent := (pathParts path).tail
      checkPool site pool
      let datasetName ← if configuration.adopt then adoptDataset pool parent
        else newDataset site pool parent srUuid
      let errors := site.configErrors configuration.rest
      if errors ≠ [] then
        backendFailure "109" ["Invalid ZFS configuration", "; ".intercalate errors]
      pure ⟨pool, datasetName⟩

/-- The second half of `create`: the dataset, which is there now, becomes the SR's. -/
def claimDataset (srUuid : SrUuid) (configuration : Configuration) (info : Meta) : SrM Unit := do
  onTree (datasetSetSrMarker site.toHost info.path srUuid.text)
  onTree (datasetSetMountpoint site.toHost info.path (srMountPath srUuid))
  if ¬ (← onTree (datasetIsMounted site.toHost (dataset info.path))) then
    onTree (datasetMount site.toHost info.path)
  let datapath := configuration.datapath.getD "raw-qdisk"
  if datapath ≠ "tapdisk" ∧ datapath ≠ "raw-qdisk" then
    backendFailure "109" ["Invalid configuration",
      "datapath must be 'tapdisk' or 'raw-qdisk', got '" ++ datapath ++ "'"]
  modify fun w => { w with srs := w.srs.set srUuid.text info }

def create (srUuid : SrUuid) (configuration : Configuration) : SrM Unit := do
  let info ← chooseDataset site srUuid configuration
  if ¬ configuration.adopt then onTree (datasetCreate site.toHost info.path)
  claimDataset site srUuid configuration info

def destroy (sr : String) : SrM Unit := do
  match (← get).srs.get? sr with
  | none => throw (.internalError ("no metadata: " ++ sr))
  | some info =>
      if info.dataset = [] then
        backendFailure "109" ["Cannot destroy a pool-root SR",
          "This SR was adopted at the pool root (" ++ info.zpool ++
          "). Use 'xe sr-forget' to remove the XAPI metadata without destroying the pool."]
      onTree (datasetDestroy site.toHost info.path true)
      modify fun w => { w with srs := w.srs.erase sr }

/-! ### Sequences of calls -/

inductive Event
  | create (srUuid : SrUuid) (configuration : Configuration)
  | destroy (sr : String)
  /-- Volume calls: zvols and snapshots come and go. -/
  | volumes

/-- The two trees have the same filesystems. -/
def SameFilesystems (t t' : Tree) : Prop :=
  ∀ n node, node.kind = .filesystem → (t.get? n = some node ↔ t'.get? n = some node)

/-- A create that returns, a destroy however it ends, or volume calls. -/
inductive Step : World → Event → World → Prop
  | create {w w' : World} {srUuid : SrUuid} {configuration : Configuration} :
      create site srUuid configuration w = .ok () w' → Step w (.create srUuid configuration) w'
  | destroy {w : World} {sr : String} : Step w (.destroy sr) (Wp.after (destroy site sr) w)
  | volumes {w : World} {t : Tree} : SameFilesystems w.tree t → Step w .volumes { w with tree := t }

/-- The events of a run, each with the world it leaves. -/
def Run : World → List (Event × World) → Prop
  | _, [] => True
  | w, (e, w') :: run => Step site w e w' ∧ Run w' run

end ZfsLive.Sr

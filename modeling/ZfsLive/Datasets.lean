/-
**The datasets of a host's pools, and the driver's operations on them.**

A node of the tree is a filesystem, a zvol or a snapshot.  What the driver reads of a node is its kind,
the snapshot it is a clone of, whether it is mounted, and the SR marker that was set on it; a dataset
without a marker of its own shows the one of its nearest ancestor that has one.

* `Datasets.Name`, `Datasets.Node`, `Datasets.Tree`;
* `lzcDestroy` — the `lzc_destroy` ioctl, which refuses a node that something else needs;
* `destroyWithRetry`, `lzcRecursiveDestroy`, `datasetDestroy` — destroying through `libzfs_core`;
* `datasetCreate`, `datasetGetParents`, `datasetIsSr`, `datasetFindChildSrs` — what SR creation uses.
-/

import Mathlib.Data.List.Infix
import Mathlib.Tactic.Common
import ZfsLive.Base.Dict

set_option relaxedAutoImplicit false
set_option autoImplicit false

namespace ZfsLive.Datasets

/-! ### The tree -/

/-- The name of a node: the components of its dataset, the pool first, and its snapshot part. -/
structure Name where
  path : List String
  snap : Option String
  deriving DecidableEq, Repr

/-- A dataset's path as the commands print it. -/
def pathText (path : List String) : String := "/".intercalate path

/-- A node's name as the commands print it. -/
def Name.text (n : Name) : String :=
  match n.snap with
  | none => pathText n.path
  | some s => pathText n.path ++ "@" ++ s

/-- The dataset with the given path. -/
def dataset (path : List String) : Name := ⟨path, none⟩

/-- The node is the dataset at `root`, a snapshot of it, or below it. -/
def Name.Under (n : Name) (root : List String) : Prop := root <+: n.path

instance (n : Name) (root : List String) : Decidable (n.Under root) :=
  inferInstanceAs (Decidable (root <+: n.path))

/-- `y` is a snapshot of the dataset `x`, or a descendant of it or a snapshot of one. -/
def Name.Inside (y x : Name) : Prop := x.snap = none ∧ y.Under x.path ∧ y ≠ x

instance (y x : Name) : Decidable (y.Inside x) := inferInstanceAs (Decidable (_ ∧ _ ∧ _))

/-- What `zfs list -o type` prints. -/
inductive Kind
  | filesystem
  | volume
  | snapshot
  deriving DecidableEq, Repr

/-- A filesystem, a zvol or a snapshot. -/
structure Node where
  kind : Kind
  /-- The snapshot it is a clone of. -/
  origin : Option Name
  mounted : Bool
  /-- A process has a file of the mount, or the block device, open. -/
  busy : Bool
  /-- The SR marker that was set on it. -/
  sr : Option String
  deriving DecidableEq, Repr

/-- It is a filesystem that is mounted; nothing else can be. -/
def Node.Mounted (node : Node) : Prop := node.kind = .filesystem ∧ node.mounted = true

instance (node : Node) : Decidable node.Mounted := inferInstanceAs (Decidable (_ ∧ _))

/-- The nodes there are. -/
abbrev Tree := Dict Name Node

namespace Tree

/-- The node exists. -/
def Has (t : Tree) (n : Name) : Prop := (t.get? n).isSome

instance (t : Tree) (n : Name) : Decidable (t.Has n) := inferInstanceAs (Decidable (_ = true))

theorem has_iff {t : Tree} {n : Name} : t.Has n ↔ ∃ node, t.get? n = some node :=
  Option.isSome_iff_exists

/-- The node `n` is a clone of the snapshot `s`. -/
def IsClone (t : Tree) (n s : Name) : Prop := (t.get? n).bind Node.origin = some s

instance (t : Tree) (n s : Name) : Decidable (t.IsClone n s) := inferInstanceAs (Decidable (_ = _))

theorem isClone_iff {t : Tree} {n s : Name} :
    t.IsClone n s ↔ ∃ node, t.get? n = some node ∧ node.origin = some s :=
  Option.bind_eq_some_iff

/-- As long as `y` is there, `x` cannot be destroyed: `y` is inside the dataset `x`, or a clone of the
snapshot `x`. -/
def Blocks (t : Tree) (y x : Name) : Prop := y.Inside x ∨ t.IsClone y x

instance (t : Tree) (y x : Name) : Decidable (t.Blocks y x) := inferInstanceAs (Decidable (_ ∨ _))

/-- Some other node needs `n`. -/
def Held (t : Tree) (n : Name) : Prop := ∃ e ∈ t.items, e.1 ≠ n ∧ t.Blocks e.1 n

instance (t : Tree) (n : Name) : Decidable (t.Held n) := inferInstanceAs (Decidable (∃ _ ∈ _, _))

theorem held_iff {t : Tree} {n : Name} : t.Held n ↔ ∃ m, t.Has m ∧ m ≠ n ∧ t.Blocks m n := by
  constructor
  · rintro ⟨⟨m, node⟩, hmem, hne, hblocks⟩
    exact ⟨m, has_iff.2 ⟨node, Dict.get?_eq_some_iff.2 hmem⟩, hne, hblocks⟩
  · rintro ⟨m, hm, hne, hblocks⟩
    obtain ⟨node, hnode⟩ := has_iff.1 hm
    exact ⟨(m, node), Dict.get?_eq_some_iff.1 hnode, hne, hblocks⟩

/-- The marker a dataset shows: its own, or the one it inherits. -/
def srOf (t : Tree) (path : List String) : Option String :=
  (List.range (path.length + 1)).reverse.findSome? fun k =>
    (t.get? (dataset (path.take k))).bind Node.sr

end Tree

/-! ### Commands -/

/-- What a failing operation raises. -/
inductive Fault
  | internalError (message : String)
  | storageError (code : String) (params : List String)
  deriving DecidableEq, Repr

def Fault.text : Fault → String
  | .internalError message => message
  | .storageError code _ => code

/-- A program over the tree. -/
abbrev M := EStateM Fault Tree

def ENOENT : ℕ := 2

def EBUSY : ℕ := 16

/-- `RETRYABLE_ERRNOS`. -/
def retryableErrnos : List ℕ := [EBUSY]

/-- What the host decides: the order of a listing, the error numbers and texts, and whether
`libzfs_core` can be loaded. -/
structure Host where
  /-- `zfs list -r -H -t all -o name,type`. -/
  list : Tree → List String → List (Name × Kind)
  /-- The error number for a node that something else needs. -/
  refusal : Name → ℕ
  refusal_ne : ∀ n, refusal n ≠ 0 ∧ refusal n ≠ ENOENT
  errnoToStr : ℕ → String
  /-- The error text of a `zfs` command. -/
  stderr : List String → String
  available : Bool
  /-- ZFS takes the text as a component of a dataset's name. -/
  legal : String → Bool
  /-- A new dataset is mounted at once; one below a `mountpoint=none` is not. -/
  mountsNew : Tree → List String → Bool

variable (h : Host)

/-- A `zfs` command fails. -/
def fail {α : Type} (cmd : List String) : M α := throw (.internalError (h.stderr cmd))

/-- The node a `zfs` command names. -/
def lookup (cmd : List String) (n : Name) : M Node := do
  match (← get).get? n with
  | some node => pure node
  | none => fail h cmd

/-- `zfs get -o value mounted`. -/
def zfsGetMounted (n : Name) : M String := do
  let node ← lookup h ["zfs", "get", "mounted", n.text] n
  if node.kind = .filesystem then pure (if node.mounted then "yes" else "no") else pure "-"

/-- `zfs unmount`. -/
def zfsUnmount (n : Name) : M Unit := do
  let cmd := ["zfs", "unmount", n.text]
  let node ← lookup h cmd n
  if node.Mounted ∧ ¬ node.busy then modify fun t => t.set n { node with mounted := false }
  else fail h cmd

/-- `lzc_destroy`: the error number, 0 when the node is gone. -/
def lzcDestroy (n : Name) : M ℕ := do
  let t ← get
  match t.get? n with
  | none => pure ENOENT
  | some node =>
      if node.Mounted ∨ node.busy then pure EBUSY
      else if t.Held n then pure (h.refusal n)
      else do
        set (t.erase n)
        pure 0

/-! ### `lzc` -/

def destroyOne (n : Name) : M ℕ := lzcDestroy h n

/-- The retries of `destroy_with_retry`, after an attempt that gave `rc`. -/
def retry (n : Name) : ℕ → ℕ → M ℕ
  | 0, rc => pure rc
  | k + 1, _ => do
      let rc ← destroyOne h n
      if rc = 0 then pure 0
      else if rc ∉ retryableErrnos then pure rc
      else retry n k rc

def destroyWithRetry (n : Name) (maxAttempts : ℕ) : M ℕ := do
  let rc ← destroyOne h n
  if rc = 0 then pure 0
  else if rc ∉ retryableErrnos then pure rc
  else retry h n (maxAttempts - 1) rc

/-! ### `zfs_operations` -/

def datasetIsMounted (n : Name) : M Bool :=
  tryCatch (do pure (decide ((← zfsGetMounted h n) = "yes"))) fun _ => pure false

def datasetUnmount (n : Name) : M Unit := zfsUnmount h n

/-- A filesystem is unmounted before it is destroyed. -/
def unmountBefore (root : List String) (n : Name) (kind : Kind) : M Unit :=
  if kind = .filesystem then
    tryCatch (do if ← datasetIsMounted h n then datasetUnmount h n) fun exc =>
      throw (.internalError ("lzc recursive destroy of " ++ pathText root ++
        " cannot proceed: unmount of " ++ n.text ++ " failed: " ++ exc.text))
  else pure ()

/-- One round of the walk of `_lzc_recursive_destroy`. -/
def destroyNode (root : List String) (n : Name) (kind : Kind) : M Unit := do
  unmountBefore h root n kind
  let rc ← destroyWithRetry h n 10
  if rc = 0 ∨ rc = ENOENT then pure ()
  else
    throw (.internalError ("lzc recursive destroy of " ++ pathText root ++ " failed at " ++ n.text ++
      ": errno " ++ toString rc ++ " (" ++ h.errnoToStr rc ++ ")"))

def destroyNodes (root : List String) : List (Name × Kind) → M Unit
  | [] => pure ()
  | (n, kind) :: nodes => do
      destroyNode h root n kind
      destroyNodes root nodes

def lzcRecursiveDestroy (root : List String) : M Unit := do
  let t ← get
  if t.Has (dataset root) then destroyNodes h root (h.list t root).reverse
  else fail h ["zfs", "list", "-r", pathText root]

/-- `zfs destroy` without `-r`. -/
def zfsDestroy (n : Name) : M Unit := do
  let rc ← lzcDestroy h n
  if rc = 0 then pure () else fail h ["zfs", "destroy", n.text]

/-- `zfs destroy -r`: everything under the dataset goes, unless something there is busy or has a clone
elsewhere. -/
def zfsDestroyRecursive (root : List String) : M Unit := do
  let t ← get
  let cmd := ["zfs", "destroy", "-r", pathText root]
  if ¬ t.Has (dataset root) then fail h cmd
  else if ∃ e ∈ t.items, e.1.Under root ∧ e.2.busy then fail h cmd
  else if ∃ e ∈ t.items, ¬ e.1.Under root ∧ ∃ s ∈ e.2.origin, s.Under root then fail h cmd
  else set (t.eraseAll fun n => n.Under root)

def datasetDestroy (root : List String) (recursive : Bool) : M Unit := do
  if h.available then
    if recursive then lzcRecursiveDestroy h root
    else do
      let rc ← destroyWithRetry h (dataset root) 10
      if rc = 0 then pure ()
      else
        throw (.internalError ("lzc_destroy(" ++ pathText root ++ ") failed: errno " ++ toString rc ++
          " (" ++ h.errnoToStr rc ++ ")"))
  else if recursive then zfsDestroyRecursive h root
  else zfsDestroy h (dataset root)

/-! ### Creating datasets, and their SR markers -/

/-- `zfs list -H -o name`. -/
def datasetExists (path : List String) : M Bool := do
  pure (decide ((← get).Has (dataset path)))

/-- `zfs create`: the parent must be a filesystem. -/
def zfsCreate (path : List String) (mounted : Bool) : M Unit := do
  let cmd := ["zfs", "create", pathText path]
  let t ← get
  if ¬ path.all h.legal ∨ t.Has (dataset path) then fail h cmd
  else
    match t.get? (dataset path.dropLast) with
    | none => fail h cmd
    | some parent =>
        if parent.kind = .filesystem then
          set (t.set (dataset path) ⟨.filesystem, none, mounted, false, none⟩)
        else fail h cmd

/-- The ancestors of a dataset, without the root of the pool: the prefixes of lengths
`2, …, len(parts) - 1`. -/
def datasetGetParents (path : List String) : List (List String) :=
  (List.range' 2 (path.length - 2)).map path.take

def createParents : List (List String) → M Unit
  | [] => pure ()
  | parent :: parents => do
      if ¬ (← datasetExists parent) then zfsCreate h parent false
      createParents parents

/-- `dataset_create`, with `create_parents`. -/
def datasetCreate (path : List String) : M Unit := do
  createParents h (datasetGetParents path)
  zfsCreate h path (h.mountsNew (← get) path)

/-- `zfs set xcp:sr=…`. -/
def datasetSetSrMarker (path : List String) (srUuid : String) : M Unit := do
  let node ← lookup h ["zfs", "set", "xcp:sr=" ++ srUuid, pathText path] (dataset path)
  modify fun t => t.set (dataset path) { node with sr := some srUuid }

/-- `zfs get -o value xcp:sr`: `-` when there is no marker. -/
def datasetGetSrMarker (path : List String) : M (Option String) := do
  let t ← get
  if t.Has (dataset path) then
    let result := (t.srOf path).getD "-"
    pure (if result ≠ "" ∧ result ≠ "-" then some result else none)
  else pure none

def datasetIsSr (path : List String) : M Bool := do
  pure (← datasetGetSrMarker path).isSome

/-- The filesystems of the pool whose names start with `dataset_path + "/"` and that are SRs. -/
def findChildSrs (path : List String) : List (Name × Kind) → M (List (List String))
  | [] => pure []
  | (n, kind) :: nodes => do
      let childSrs ← findChildSrs path nodes
      if kind = .filesystem ∧ path <+: n.path ∧ n.path ≠ path then
        pure (if ← datasetIsSr n.path then n.path :: childSrs else childSrs)
      else pure childSrs

def datasetFindChildSrs (pool : String) (path : List String) : M (List (List String)) := do
  findChildSrs path (h.list (← get) [pool])

/-- `zfs set mountpoint=…`: only a filesystem has a mountpoint. -/
def datasetSetMountpoint (path : List String) (mountpoint : String) : M Unit := do
  let cmd := ["zfs", "set", "mountpoint=" ++ mountpoint, pathText path]
  let node ← lookup h cmd (dataset path)
  if node.kind = .filesystem then pure () else fail h cmd

/-- `zfs mount`. -/
def datasetMount (path : List String) : M Unit := do
  let node ← lookup h ["zfs", "mount", pathText path] (dataset path)
  modify fun t => t.set (dataset path) { node with mounted := true }

/-! ### Listings -/

/-- How far below a dataset a listing places a node; a snapshot is one level below its dataset. -/
def depth (srDataset : List String) (n : Name) : ℕ :=
  n.path.length - srDataset.length + if n.snap.isSome then 1 else 0

/-- `zfs list -H -d <levels> -t <kind> -o name`. -/
def zfsList (t : Tree) (srDataset : List String) (levels : ℕ) (kind : Kind) : List Name :=
  if t.Has (dataset srDataset) then
    ((h.list t srDataset).filter fun e => e.2 = kind ∧ depth srDataset e.1 ≤ levels).map Prod.fst
  else
    []

def datasetListZvols (t : Tree) (srDataset : List String) : List Name :=
  zfsList h t srDataset 1 .volume

def datasetListSnapshots (t : Tree) (srDataset : List String) : List Name :=
  zfsList h t srDataset 2 .snapshot

end ZfsLive.Datasets

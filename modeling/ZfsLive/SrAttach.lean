/-
**An SR can be found and attached again** (`src/volume/sr.py`).

`SR.create` marks the dataset of an SR, gives it a mountpoint, and names it in the configuration that it
returns.  Later calls find it again: `SR.probe` by its marker, `SR.attach` by a configuration, and
`SR.detach` by the metadata, which are in the dataset and can be read while it is mounted.  This module has
the calls that were missing, and follows the SRs of a host through any sequence of calls, each of which
returns, raises, or is cut short before any of its commands, with reboots, volume calls and other datasets
in between.

Main definitions:

* `SrCreate.attach`, `SrCreate.detach` — the calls;
* `SrCreate.createCut` — a create that is cut short;
* `SrCreate.Step`, `SrCreate.Reaches` — calls, and what others do to the pools;
* `SrCreate.Home`, `SrCreate.Housed` — each SR's dataset has its marker and its mountpoint.

Main results:

* `SrCreate.prepare_eq` — the commands of a create, one after the other;
* `SrCreate.Housed.step` — every call keeps the SRs housed, however it ends;
* `SrCreate.probe_tells` — probing a location at or above an SR tells of it;
* `SrCreate.attach_spec` — what attaching an SR that is housed does;
* `SrCreate.attach_of_probe` — **probe finds every SR, and leads attach to its dataset and mountpoint**.
-/

import ZfsLive.Base.Paths
import ZfsLive.SrCreate

set_option relaxedAutoImplicit false
set_option autoImplicit false

namespace ZfsLive.SrCreate

open Datasets Sr Wp

/-! ### The calls -/

/-- The host as the calls on SRs see it. -/
structure AttachSite extends CreateSite where
  /-- `str.strip`. -/
  strip : String → String
  /-- The available and the used space of a dataset and its quota, unless one of them fails. -/
  sizes : List String → Option (ℤ × ℤ × ℤ)
  /-- The name and the description in the metadata of a mounted SR, and empty texts otherwise. -/
  described : List String → String × String
  /-- ZFS can mount a dataset: nothing is in its way. -/
  mountable : Tree → List String → Bool
  /-- The mountpoint of a dataset for which none was set. -/
  inherited : State → List String → String

/-- The dataset with a name. -/
def named (text : String) : List String := (text.toList.splitOn '/').map String.ofList

/-- `dataset_path`. -/
def datasetPath (poolName datasetName : String) : String :=
  if datasetName = "" then poolName else poolName ++ "/" ++ datasetName

section

variable (site : AttachSite)

/-- The site of the calls that look at no configuration. -/
def callSite : Site := checkSite site.toCreateSite Dict.empty

/-- The site of a probe. -/
def probeSite : ProbeSite where
  toSite := callSite site
  strip := site.strip
  sizes := site.sizes
  described := site.described

/-- `configuration[key]`. -/
def getKey (configuration : Dict String String) (key : String) : CreateM String :=
  match configuration.get? key with
  | some value => pure value
  | none => throw (.internalError ("no key: " ++ key))

/-- `zfs get mountpoint`. -/
def getDatasetMountpoint (path : List String) : CreateM String := do
  let _ ← onTree (lookup site.toHost ["zfs", "get", "mountpoint", pathText path] (dataset path))
  let s ← get
  return (s.mountpoints.get? path).getD (site.inherited s path)

/-- `dataset_mount`. -/
def mountDataset (path : List String) : CreateM Unit := do
  if site.mountable (← get).tree path then onTree (datasetMount site.toHost path)
  else onTree (fail site.toHost ["zfs", "mount", pathText path])

/-- The dataset is mounted, if it is not; its mountpoint. -/
def ensureMounted (srDataset : List String) : CreateM String := do
  let mountpoint ← getDatasetMountpoint site srDataset
  if ¬ (← onTree (datasetIsMounted site.toHost (dataset srDataset))) then
    mountDataset site srDataset
  return mountpoint

/-- `SR.attach`. -/
def attach (configuration : Dict String String) : CreateM String := do
  let poolName ← getKey configuration "zpool"
  let datasetName ← getKey configuration "dataset"
  let srDataset := named (datasetPath poolName datasetName)
  if ¬ (← onTree (datasetExists [poolName])) then
    onWorld (backendFailure "107" ["ZFS pool not imported",
      "pool '" ++ poolName ++ "' is not imported - import it first"])
  if ¬ (← onTree (datasetExists srDataset)) then
    onWorld (backendFailure "107" ["Dataset not found",
      "dataset '" ++ datasetPath poolName datasetName ++ "' does not exist"])
  ensureMounted site srDataset

/-- The metadata of an SR, which are in its dataset. -/
def getSrMetadata (sr : String) : CreateM Meta := do
  match (← get).srs.get? sr with
  | none => throw (.internalError ("no metadata: " ++ sr))
  | some info =>
      if ← onTree (datasetIsMounted site.toHost (dataset info.path)) then pure info
      else throw (.internalError ("no metadata: " ++ sr))

/-- `SR.detach`. -/
def detach (sr : String) : CreateM Unit := do
  let info ← getSrMetadata site sr
  if ← onTree (datasetIsMounted site.toHost (dataset info.path)) then
    onTree (datasetUnmount site.toHost (dataset info.path))

/-- `SR.destroy`, of an SR whose metadata can be read. -/
def destroy (sr : String) : CreateM Unit := do
  let _ ← getSrMetadata site sr
  onWorld (Sr.destroy (callSite site) sr)

end

/-! ### Sequences of calls -/

inductive Call
  | create (srUuid : SrUuid) (configuration : Dict String String) (name description : String)
  | destroy (sr : String)
  | attach (configuration : Dict String String)
  | detach (sr : String)
  | probe (configuration : Configuration)

/-- The state after a call, however it ends. -/
def perform (site : AttachSite) (s : State) : Call → State
  | .create srUuid configuration name description =>
      after (create site.toCreateSite srUuid configuration name description) s
  | .destroy sr => after (destroy site sr) s
  | .attach configuration => after (attach site configuration) s
  | .detach sr => after (detach site sr) s
  | .probe configuration => after (onWorld (probe (probeSite site) configuration)) s

/-- One parent of `createParents`. -/
def createParent (site : CreateSite) (parent : List String) : CreateM Unit := do
  if ¬ (← onTree (datasetExists parent)) then
    onTree (zfsCreate site.toHost parent false)
    setMountpoint parent "none"

/-- The commands of `prepare`, each with the checks before it. -/
def prepareSteps (site : CreateSite) (srUuid : SrUuid) (configuration : Dict String String)
    (info : Meta) : List (CreateM Unit) :=
  (if ¬ (deviceConfig site configuration).adopt then
    (datasetGetParents info.path).map (createParent site) ++ [do
      let t := (← get).tree
      onTree (zfsCreate site.toHost info.path (site.mountsNew t info.path))]
  else []) ++
  (parsed site configuration).dataset_props.items.map
    (fun property => SrCreate.datasetSetProperties site info.path [property]) ++
  [onTree (datasetSetSrMarker site.toHost info.path srUuid.text),
    SrCreate.datasetSetMountpoint site info.path (srMountPath srUuid),
    do
      if ¬ (← onTree (datasetIsMounted site.toHost (dataset info.path))) then
        onTree (datasetMount site.toHost info.path),
    SrCreate.createDatabase site info.path (srMountPath srUuid)]

def runSteps : List (CreateM Unit) → CreateM Unit
  | [] => pure ()
  | step :: steps => do
      step
      runSteps steps

/-- `SR.create`, cut short after some of the commands that make the dataset ready. -/
def createCut (site : CreateSite) (srUuid : SrUuid) (configuration : Dict String String) (k : ℕ) :
    CreateM Unit := do
  let info ← onWorld (chooseDataset (checkSite site configuration) srUuid (deviceConfig site configuration))
  runSteps ((prepareSteps site srUuid configuration info).take k)

/-- The datasets of the SRs are still there, with their markers and their mountpoints. -/
structure KeepsSrs (s s' : State) : Prop where
  srs : s'.srs = s.srs
  node : ∀ sr m, s.srs.get? sr = some m → ∀ node, s.tree.get? (dataset m.path) = some node →
    node.kind = .filesystem → ∃ node', s'.tree.get? (dataset m.path) = some node' ∧
      node'.kind = .filesystem ∧ node'.sr = node.sr
  mountpoint : ∀ sr m, s.srs.get? sr = some m →
    s'.mountpoints.get? m.path = s.mountpoints.get? m.path

/-- An adopted dataset is clear of the SRs there are, and a new SR is not made in a pool whose root is
one. -/
def Clear (site : AttachSite) (s : State) : Call → Prop
  | .create srUuid configuration _ _ =>
      Sr.Clear s.toWorld (.create srUuid (deviceConfig site.toCreateSite configuration))
  | _ => True

/-- A clear call, however it ends; or a create that is cut short; or what else leaves the SRs' datasets
alone: volumes and other datasets come and go and are in use or not, datasets are mounted and unmounted, the
host is rebooted.  A destroy that is cut short is one that finds a dataset in use. -/
inductive Step (site : AttachSite) : State → State → Prop
  | call {s : State} (c : Call) : Clear site s c → Step site s (perform site s c)
  | cut {s : State} (srUuid : SrUuid) (configuration : Dict String String) (k : ℕ) :
      Sr.Clear s.toWorld (.create srUuid (deviceConfig site.toCreateSite configuration)) →
      Step site s (after (createCut site.toCreateSite srUuid configuration k) s)
  | outside {s s' : State} : KeepsSrs s s' → Step site s s'

/-- Any number of steps. -/
def Reaches (site : AttachSite) : State → State → Prop := Relation.ReflTransGen (Step site)

/-! ### Where an SR lives -/

/-- The dataset has the marker and the mountpoint of the SR. -/
structure Labelled (s : State) (sr : String) (path : List String) : Prop where
  node : ∃ node, s.tree.get? (dataset path) = some node ∧ node.kind = .filesystem ∧ node.sr = some sr
  mountpoint : s.mountpoints.get? path = some ("/var/run/sr-mount/" ++ sr)

/-- The SR's dataset is labelled, and its name can be written down. -/
structure Home (s : State) (sr : String) (m : Meta) : Prop extends Labelled s sr m.path where
  marks : sr ≠ "" ∧ sr ≠ "-"
  plain : ∀ c ∈ m.path, '/' ∉ c.toList
  written : m.dataset ≠ [""]

/-- Every SR has a dataset of its own. -/
structure Housed (s : State) : Prop where
  separate : Separate s.toWorld
  home : ∀ sr m, s.srs.get? sr = some m → Home s sr m

variable {site : AttachSite} {s s' s'' : State} {sr : String} {m m' : Meta} {srUuid : SrUuid}
  {configuration : Dict String String}

theorem Home.marked (hh : Home s sr m) : MarkedSr s.tree m.path := by
  obtain ⟨node, hnode, hkind, hsr⟩ := hh.node
  exact ⟨node, hnode, hkind, sr, hsr, hh.marks⟩

theorem Housed.inv (hh : Housed s) : Inv s.toWorld :=
  ⟨hh.separate, fun sr m hm => (hh.home sr m hm).marked⟩

/-- What is kept of a node, as far as its home is concerned. -/
theorem exists_of_keeps {n : Name} {t t' : Tree} {node : Node} (hkeep : Keeps n t t')
    (hnode : t.get? n = some node) :
    ∃ node', t'.get? n = some node' ∧ node'.kind = node.kind ∧ node'.sr = node.sr := by
  obtain ⟨node', hnode', hcore⟩ := hkeep node hnode
  obtain ⟨hkind, -, -, hsr⟩ := core_eq_iff.1 hcore
  exact ⟨node', hnode', hkind, hsr⟩

/-- An operation on the datasets does to the state what it does to them. -/
theorem preserves_of_keeps {α : Type} {op : M α} {R : State → State → Prop}
    (hop : ∀ n, Preserves (Keeps n) op)
    (hR : ∀ s t, (∀ n, Keeps n s.tree t) → R s { s with tree := t }) : Preserves R (onTree op) := by
  refine Preserves.of_wp fun s => ?_
  rw [wp_onTree]
  exact wp_mono (wp_forall fun n => (hop n).wp s.tree) (fun _ _ h => hR s _ h) fun _ _ h => hR s _ h

/-! ### What a create does to the other SRs -/

/-- What the steps of a create of the SR `srUuid` in the dataset of `m` change of what is there: its marker
and its mountpoint. -/
structure Claimed (srUuid : SrUuid) (m : Meta) (s s' : State) : Prop where
  srs : s'.srs = s.srs
  tree : ∀ n node, s.tree.get? n = some node → ∃ node', s'.tree.get? n = some node' ∧
    node'.kind = node.kind ∧ (node'.sr = node.sr ∨ n = dataset m.path ∧ node'.sr = some srUuid.text)
  mountpoints : ∀ path, s.tree.Has (dataset path) →
    s'.mountpoints.get? path = s.mountpoints.get? path ∨
      path = m.path ∧ s'.mountpoints.get? path = some (srMountPath srUuid)

namespace Claimed

theorem refl (srUuid : SrUuid) (m : Meta) (s : State) : Claimed srUuid m s s :=
  ⟨rfl, fun _ node hnode => ⟨node, hnode, rfl, .inl rfl⟩, fun _ _ => .inl rfl⟩

theorem trans (h : Claimed srUuid m s s') (h' : Claimed srUuid m s' s'') : Claimed srUuid m s s'' := by
  refine ⟨h'.srs.trans h.srs, fun n node hnode => ?_, fun path hhas => ?_⟩
  · obtain ⟨node', hnode', hkind, hsr⟩ := h.tree n node hnode
    obtain ⟨node'', hnode'', hkind', hsr'⟩ := h'.tree n node' hnode'
    refine ⟨node'', hnode'', hkind'.trans hkind, ?_⟩
    rcases hsr' with hsr' | hsr'
    · rw [hsr']
      exact hsr
    · exact .inr hsr'
  · obtain ⟨node, hnode⟩ := Tree.has_iff.1 hhas
    obtain ⟨node', hnode', -⟩ := h.tree _ node hnode
    rcases h'.mountpoints path (Tree.has_iff.2 ⟨node', hnode'⟩) with hmount | hmount
    · rw [hmount]
      exact h.mountpoints path hhas
    · exact .inr hmount

instance : Std.Refl (Claimed srUuid m) := ⟨refl srUuid m⟩

instance : IsTrans State (Claimed srUuid m) := ⟨fun _ _ _ => trans⟩

/-- A change of the datasets that keeps every node. -/
theorem of_keeps {t : Tree} (hkeep : ∀ n, Keeps n s.tree t) :
    Claimed srUuid m s { s with tree := t } := by
  refine ⟨rfl, fun n node hnode => ?_, fun _ _ => .inl rfl⟩
  obtain ⟨node', hnode', hkind, hsr⟩ := exists_of_keeps (hkeep n) hnode
  exact ⟨node', hnode', hkind, .inl hsr⟩

/-- A change of what is neither a dataset nor a mountpoint. -/
theorem of_eq (hsrs : s'.srs = s.srs) (htree : s'.tree = s.tree)
    (hmount : s'.mountpoints = s.mountpoints) : Claimed srUuid m s s' := by
  refine ⟨hsrs, ?_, fun path _ => .inl (by rw [hmount])⟩
  rw [htree]
  exact (refl srUuid m s).tree

end Claimed

theorem preserves_onTree {α : Type} {op : M α} (hop : ∀ n, Preserves (Keeps n) op) :
    Preserves (Claimed srUuid m) (onTree op) :=
  preserves_of_keeps hop fun _ _ h => .of_keeps h

theorem preserves_lookup (n : Name) (cmd : List String) (k : Name) :
    Preserves (Keeps n) (lookup site.toHost cmd k) := by
  refine Preserves.of_wp fun t => wp_mono (lookup_spec cmd k t) ?_ ?_
  · rintro _ t' ⟨rfl, -⟩
    exact Keeps.refl n t'
  · rintro _ t' rfl
    exact Keeps.refl n t'

theorem preserves_fail {α : Type} (n : Name) (cmd : List String) :
    Preserves (Keeps n) (fail site.toHost cmd : M α) := .throw _

/-- A parent that is created is not there before. -/
theorem preserves_createParent (parent : List String) :
    Preserves (Claimed srUuid m) (createParent site.toCreateSite parent) := by
  refine Preserves.of_wp fun s => ?_
  rw [createParent, wp_bind, wp_onTree, wp_datasetExists]
  by_cases hpresent : s.tree.Has (dataset parent)
  · rw [if_neg (by simp [hpresent])]
    exact Claimed.refl srUuid m s
  · rw [if_pos (by simp [hpresent]), wp_bind, wp_onTree]
    have hkeep := wp_forall fun n => (preserves_zfsCreate (h := site.toHost) n parent false).wp s.tree
    refine wp_mono hkeep (fun _ t ht => ?_) fun _ t ht => .of_keeps ht
    -- what has a mountpoint to keep is there, and this parent was not
    refine ⟨rfl, (Claimed.of_keeps ht : Claimed srUuid m s _).tree, fun path hhas => .inl ?_⟩
    refine (Dict.get?_set ..).trans (if_neg ?_)
    rintro rfl
    exact hpresent hhas

theorem preserves_datasetSetProperties (path : List String) (properties : List (String × String)) :
    Preserves (Claimed srUuid m) (datasetSetProperties site.toCreateSite path properties) := by
  induction properties with
  | nil => exact .pure ()
  | cons e properties ih =>
      refine (preserves_onTree fun n => preserves_lookup n _ _).bind fun _ => ?_
      exact .ite (fun _ => .bind (.modify fun s => .of_eq rfl rfl rfl) fun _ => ih) fun _ =>
        .bind (preserves_onTree fun n => preserves_fail n _) fun _ => ih

theorem preserves_datasetSetSrMarker :
    Preserves (Claimed srUuid m) (onTree (datasetSetSrMarker site.toHost m.path srUuid.text)) := by
  refine Preserves.of_wp fun s => ?_
  rw [wp_onTree, datasetSetSrMarker, wp_bind]
  refine wp_mono (lookup_spec _ _ s.tree) ?_ ?_
  · rintro node t ⟨rfl, hnode⟩
    rw [wp_modify]
    refine ⟨rfl, fun n node' hnode' => ?_, fun _ _ => .inl rfl⟩
    by_cases hn : n = dataset m.path
    · subst hn
      obtain rfl : node = node' := Option.some.inj (hnode.symm.trans hnode')
      exact ⟨_, (Dict.get?_set ..).trans (if_pos rfl), rfl, .inr ⟨rfl, rfl⟩⟩
    · exact ⟨node', (Dict.get?_set ..).trans ((if_neg hn).trans hnode'), rfl, .inl rfl⟩
  · rintro _ t rfl
    exact Claimed.refl srUuid m s

theorem preserves_datasetSetMountpoint : Preserves (Claimed srUuid m)
    (SrCreate.datasetSetMountpoint site.toCreateSite m.path (srMountPath srUuid)) := by
  have hop : ∀ n, Preserves (Keeps n)
      (Datasets.datasetSetMountpoint site.toHost m.path (srMountPath srUuid)) := fun n =>
    (preserves_lookup n _ _).bind fun _ => .ite (fun _ => .pure ()) fun _ => preserves_fail n _
  refine (preserves_onTree hop).bind fun _ => .modify fun s => ?_
  refine ⟨rfl, (Claimed.refl srUuid m s).tree, fun path _ => ?_⟩
  by_cases hpath : path = m.path
  · exact .inr ⟨hpath, (Dict.get?_set ..).trans (if_pos hpath)⟩
  · exact .inl ((Dict.get?_set ..).trans (if_neg hpath))

theorem preserves_createDatabase (path : List String) (mountpoint : String) :
    Preserves (Claimed srUuid m) (createDatabase site.toCreateSite path mountpoint) := by
  refine Preserves.get_bind fun s => ?_
  split
  · exact preserves_onTree (fun n => preserves_fail n _) s
  · exact .of_eq rfl rfl rfl

/-- **Each command that makes a dataset ready** claims that dataset, and nothing else. -/
theorem preserves_prepareSteps (step : CreateM Unit)
    (hstep : step ∈ prepareSteps site.toCreateSite srUuid configuration m) :
    Preserves (Claimed srUuid m) step := by
  rw [prepareSteps, List.mem_append, List.mem_append] at hstep
  rcases hstep with (hcreate | hproperty) | hlast
  · split at hcreate
    · rcases List.mem_append.1 hcreate with hparent | hleaf
      · obtain ⟨parent, -, rfl⟩ := List.mem_map.1 hparent
        exact preserves_createParent parent
      · rw [List.mem_singleton.1 hleaf]
        exact .get_bind fun s => preserves_onTree (fun n => preserves_zfsCreate n m.path _) s
    · exact absurd hcreate List.not_mem_nil
  · obtain ⟨property, -, rfl⟩ := List.mem_map.1 hproperty
    exact preserves_datasetSetProperties m.path [property]
  · simp only [List.mem_cons, List.not_mem_nil, or_false] at hlast
    rcases hlast with rfl | rfl | rfl | rfl
    · exact preserves_datasetSetSrMarker
    · exact preserves_datasetSetMountpoint
    · refine (preserves_onTree fun n => preserves_datasetIsMounted _).bind fun b => ?_
      exact .ite (fun _ => preserves_onTree fun n => preserves_datasetMount n m.path) fun _ => .pure ()
    · exact preserves_createDatabase _ _

theorem preserves_runSteps {steps : List (CreateM Unit)}
    (hsteps : ∀ step ∈ steps, Preserves (Claimed srUuid m) step) :
    Preserves (Claimed srUuid m) (runSteps steps) := by
  induction steps with
  | nil => exact .pure ()
  | cons step steps ih =>
      rw [List.forall_mem_cons] at hsteps
      exact hsteps.1.bind fun _ => ih hsteps.2

theorem runSteps_append (steps steps' : List (CreateM Unit)) :
    runSteps (steps ++ steps') = (do runSteps steps; runSteps steps') := by
  induction steps with
  | nil => rfl
  | cons step steps ih =>
      rw [List.cons_append, runSteps, runSteps, ih, bind_assoc]

theorem runSteps_singleton (step : CreateM Unit) : runSteps [step] = step := bind_pure_unit

theorem createParents_eq (parents : List (List String)) :
    SrCreate.createParents site.toCreateSite parents =
      runSteps (parents.map (createParent site.toCreateSite)) := by
  induction parents with
  | nil => rfl
  | cons parent parents ih =>
      rw [SrCreate.createParents, List.map_cons, runSteps, createParent, ih, bind_assoc]
      refine bind_congr fun found => ?_
      split
      · rw [bind_assoc]
      · rfl

theorem datasetSetProperties_eq (path : List String) (properties : List (String × String)) :
    SrCreate.datasetSetProperties site.toCreateSite path properties = runSteps
      (properties.map fun property => SrCreate.datasetSetProperties site.toCreateSite path [property]) := by
  induction properties with
  | nil => rfl
  | cons property properties ih =>
      obtain ⟨prop, value⟩ := property
      rw [SrCreate.datasetSetProperties, List.map_cons, runSteps, SrCreate.datasetSetProperties, ih,
        bind_assoc]
      refine bind_congr fun _ => ?_
      split
      · rw [bind_assoc]
        rfl
      · rw [bind_assoc]
        rfl

/-- The steps after the properties. -/
theorem setUp_eq (path : List String) (properties : List (String × String)) :
    setUp site.toCreateSite path srUuid properties = (do
      SrCreate.datasetSetProperties site.toCreateSite path properties
      runSteps [onTree (datasetSetSrMarker site.toHost path srUuid.text),
        SrCreate.datasetSetMountpoint site.toCreateSite path (srMountPath srUuid),
        do
          if ¬ (← onTree (datasetIsMounted site.toHost (dataset path))) then
            onTree (datasetMount site.toHost path),
        SrCreate.createDatabase site.toCreateSite path (srMountPath srUuid)]) := by
  simp only [setUp, runSteps, bind_assoc, bind_pure_unit]
  refine bind_congr fun _ => bind_congr fun _ => bind_congr fun _ => bind_congr fun mounted => ?_
  split
  · rfl
  · rw [pure_bind]

/-- **`prepare` is its commands, one after the other.** -/
theorem prepare_eq : prepare site.toCreateSite srUuid configuration m =
    runSteps (prepareSteps site.toCreateSite srUuid configuration m) := by
  rw [prepareSteps, runSteps_append, runSteps_append, prepare, setUp_eq, ← datasetSetProperties_eq,
    bind_assoc]
  split
  · rw [runSteps_append, ← createParents_eq, SrCreate.datasetCreate, runSteps_singleton, bind_assoc,
      bind_assoc]
  · rfl

/-- **Making a dataset ready** claims that dataset, and nothing else, wherever it stops. -/
theorem preserves_prepare :
    Preserves (Claimed srUuid m) (prepare site.toCreateSite srUuid configuration m) := by
  rw [prepare_eq]
  exact preserves_runSteps preserves_prepareSteps

/-! ### Names -/

theorem plain_pathParts (path : String) : ∀ c ∈ pathParts path, '/' ∉ c.toList := by
  intro c hc
  rw [pathParts, List.mem_map] at hc
  obtain ⟨l, hl, rfl⟩ := hc
  rw [String.toList_ofList]
  exact Paths.not_mem_of_mem_splitOn hl

/-- The configured path does not end in a slash. -/
theorem tail_pathParts_ne (path : String) : (pathParts path).tail ≠ [""] := by
  intro htail
  set text := (path.toList.dropWhile (· = '/')).rdropWhile (· = '/') with htext
  have hsplit : (text.splitOn '/').tail = [[]] := by
    rw [pathParts, ← htext, ← List.map_tail] at htail
    obtain ⟨l, hl, hempty⟩ := List.map_eq_singleton_iff.1 htail
    rw [hl, String.ofList_eq_empty_iff.1 hempty]
  have hlast : text.getLast? = some '/' := Paths.getLast?_of_tail_splitOn hsplit
  have hne : text ≠ [] := by
    rintro hnil
    rw [hnil] at hlast
    cases hlast
  rw [List.getLast?_eq_some_getLast hne, Option.some_inj] at hlast
  exact List.rdropWhile_last_not _ _ hne (decide_eq_true hlast)

theorem toList_pathText (path : List String) :
    (pathText path).toList = ['/'].intercalate (path.map String.toList) := by
  rw [pathText, String.toList_intercalate]
  rfl

/-- The dataset that is written down is the dataset. -/
theorem named_pathText {path : List String} (hplain : ∀ c ∈ path, '/' ∉ c.toList) (hne : path ≠ []) :
    named (pathText path) = path := by
  rw [named, toList_pathText, List.splitOn_intercalate]
  · rw [List.map_map]
    simp
  · simpa using hplain
  · simpa using hne

theorem pathText_eq_empty {path : List String} (h : pathText path = "") : path = [] ∨ path = [""] := by
  have htext := congrArg String.toList h
  rw [toList_pathText] at htext
  cases path with
  | nil => exact .inl rfl
  | cons c path =>
      cases path with
      | nil => exact .inr (by simpa using htext)
      | cons d path => simp at htext

/-- **The keys of the configuration name the dataset.** -/
theorem named_datasetPath (hplain : ∀ c ∈ m.path, '/' ∉ c.toList) (hwritten : m.dataset ≠ [""]) :
    named (datasetPath m.zpool (pathText m.dataset)) = m.path := by
  rw [datasetPath]
  split
  · next hempty =>
      rw [Meta.path, (pathText_eq_empty hempty).resolve_right hwritten] at hplain ⊢
      simpa [pathText] using named_pathText hplain (by simp)
  · next hsome =>
      have hjoin : m.zpool ++ "/" ++ pathText m.dataset = pathText m.path := by
        rw [Meta.path]
        cases hds : m.dataset with
        | nil => exact absurd (by rw [hds]; rfl) hsome
        | cons c cs => rw [pathText, pathText, String.intercalate_cons_cons]
      rw [hjoin, named_pathText hplain (by simp [Meta.path])]

/-! ### Creating -/

/-- A normal create aims at a dataset of its own, named after its uuid. -/
theorem exists_parent (haccepts : Accepts site.toCreateSite srUuid configuration s.tree m)
    (hadopt : (deviceConfig site.toCreateSite configuration).adopt = false) :
    ∃ path, m = ⟨(pathParts path).headD "", (pathParts path).tail ++ [srUuid.text]⟩ := by
  have htarget := haccepts.target
  rw [target, Option.map_eq_some_iff] at htarget
  obtain ⟨path, -, rfl⟩ := htarget
  rw [hadopt, if_neg (by simp)]
  exact ⟨path, rfl⟩

theorem wp_registerZvols_kept (path : List String) (zvols : List Name) (s : State) :
    wp (registerZvols site.toCreateSite path zvols)
      (fun _ s' => s'.toWorld = s.toWorld ∧ s'.mountpoints = s.mountpoints)
      (fun _ s' => s'.toWorld = s.toWorld ∧ s'.mountpoints = s.mountpoints) s := by
  induction zvols generalizing s with
  | nil => exact ⟨rfl, rfl⟩
  | cons zvol zvols ih =>
      rw [registerZvols, wp_bind, wp_get]
      dsimp only
      split
      · rw [wp_bind, wp_modify]
        exact ih _
      · rw [wp_bind]
        exact ih s

/-- What follows the check of the datapath changes no dataset and no mountpoint, and registers the SR. -/
structure Filed (srUuid : SrUuid) (m : Meta) (s s' : State) : Prop where
  tree : s'.tree = s.tree
  mountpoints : s'.mountpoints = s.mountpoints
  srs : s'.srs = s.srs ∨ s'.srs = s.srs.set srUuid.text m

theorem preserves_finish {name description : String} : Preserves (Filed srUuid m)
    (finish site.toCreateSite srUuid configuration name description m) := by
  refine Preserves.of_wp fun s => ?_
  simp only [finish, wp_bind, wp_ite, wp_modify, wp_pure, wp_onWorld, backendFailure, wp_throw]
  refine ⟨fun _ => ⟨rfl, rfl, .inl rfl⟩, fun _ => ⟨fun _ => ?_, fun _ => ⟨rfl, rfl, .inr rfl⟩⟩⟩
  rw [registerAdopted, wp_bind, wp_get, wp_bind]
  have hfiled : ∀ s' : State, s'.toWorld = { s.toWorld with srs := s.srs.set srUuid.text m } ∧
      s'.mountpoints = s.mountpoints → Filed srUuid m s s' := by
    rintro s' ⟨hworld, hmount⟩
    rw [World.mk.injEq] at hworld
    exact ⟨hworld.1, hmount, .inr hworld.2⟩
  refine wp_mono (wp_registerZvols_kept _ _ _) (fun failed s' hs' => ?_) fun _ s' hs' => hfiled s' hs'
  rw [wp_ite]
  refine ⟨fun _ => ?_, fun _ => hfiled s' hs'⟩
  rw [wp_onWorld, backendFailure, wp_throw]
  exact hfiled _ hs'

theorem wp_setUp_labelled {path : List String} {properties : List (String × String)}
    (hhas : s.tree.Has (dataset path)) :
    wp (setUp site.toCreateSite path srUuid properties)
      (fun _ s' => Labelled s' srUuid.text path) (fun _ _ => True) s := by
  obtain ⟨node, hnode⟩ := Tree.has_iff.1 hhas
  refine wp_mono (wp_setUp hnode) ?_ fun _ _ _ => trivial
  rintro _ s' ⟨⟨hkind, -⟩, db, -, hready⟩
  have hnode' := hready.tree (dataset path)
  rw [if_pos rfl] at hnode'
  refine ⟨⟨_, hnode', hkind, rfl⟩, ?_⟩
  rw [hready.mountpoints, Dict.get?_set, if_pos rfl]
  rfl

/-- **A dataset that is ready** is labelled, and a new one has a legal name. -/
theorem wp_prepare_labelled (haccepts : Accepts site.toCreateSite srUuid configuration s.tree m) :
    wp (prepare site.toCreateSite srUuid configuration m)
      (fun _ s' => Labelled s' srUuid.text m.path) (fun _ _ => True) s := by
  rw [prepare]
  cases hadopt : (deviceConfig site.toCreateSite configuration).adopt with
  | true =>
      rw [if_neg (by simp)]
      exact wp_setUp_labelled (haccepts.adopted hadopt)
  | false =>
      rw [if_pos (by simp), wp_bind]
      obtain ⟨path, rfl⟩ := exists_parent haccepts hadopt
      refine wp_mono (wp_datasetCreate (by simp [Meta.path]) s haccepts.imported
        (haccepts.unclaimed hadopt).absent) ?_ fun _ _ _ => trivial
      · rintro _ s₁ ⟨-, ⟨mounted, hnode⟩, -⟩
        exact wp_setUp_labelled (Tree.has_iff.2 ⟨_, hnode⟩)

/-- An adopting create aims at the configured path. -/
theorem exists_path (haccepts : Accepts site.toCreateSite srUuid configuration s.tree m)
    (hadopt : (deviceConfig site.toCreateSite configuration).adopt = true) :
    ∃ path, m.path = pathParts path ∧ m.dataset = (pathParts path).tail := by
  have htarget := haccepts.target
  rw [target, Option.map_eq_some_iff] at htarget
  obtain ⟨path, -, rfl⟩ := htarget
  obtain ⟨pool, parent, hparts⟩ := exists_pathParts path
  rw [if_pos hadopt]
  exact ⟨path, by rw [Meta.path, hparts]; rfl, rfl⟩

theorem plain_of_feasible (hlegal : ∀ c, site.legal c = true → '/' ∉ c.toList)
    (haccepts : Accepts site.toCreateSite srUuid configuration s.tree m)
    (hfeasible : Feasible site.toCreateSite configuration s m) : ∀ c ∈ m.path, '/' ∉ c.toList := by
  cases hadopt : (deviceConfig site.toCreateSite configuration).adopt with
  | true =>
      obtain ⟨path, hpath, -⟩ := exists_path haccepts hadopt
      rw [hpath]
      exact plain_pathParts path
  | false =>
      have hcreatable := hfeasible.create hadopt m.path (by simp) (haccepts.unclaimed hadopt).absent
      exact fun c hc => hlegal c (List.all_eq_true.1 hcreatable.1 c hc)

theorem written_of_accepts (haccepts : Accepts site.toCreateSite srUuid configuration s.tree m) :
    m.dataset ≠ [""] := by
  cases hadopt : (deviceConfig site.toCreateSite configuration).adopt with
  | true =>
      obtain ⟨path, -, hdataset⟩ := exists_path haccepts hadopt
      rw [hdataset]
      exact tail_pathParts_ne path
  | false =>
      obtain ⟨path, rfl⟩ := exists_parent haccepts hadopt
      intro hempty
      have hlast := congrArg List.getLast? hempty
      rw [List.getLast?_concat, List.getLast?_singleton, Option.some_inj] at hlast
      exact srUuid.marks.1 hlast

theorem Claimed.of_filed (h : Claimed srUuid m s s') (hfiled : Filed srUuid m s' s'') :
    Claimed srUuid m s { s'' with srs := s.srs } :=
  h.trans (.of_eq h.srs.symm hfiled.tree hfiled.mountpoints)

/-- A create that is cut short claims one dataset, or does nothing. -/
theorem createCut_cases (site : AttachSite) (srUuid : SrUuid) (configuration : Dict String String) (k : ℕ)
    (s : State) :
    after (createCut site.toCreateSite srUuid configuration k) s = s ∨
      ∃ m, Accepts site.toCreateSite srUuid configuration s.tree m ∧
        Claimed srUuid m s (after (createCut site.toCreateSite srUuid configuration k) s) := by
  rcases choose_cases s with ⟨e, hchoose, -⟩ | ⟨m, hchoose, haccepts⟩
  · left
    rw [createCut, after_of_error (bind_error hchoose)]
  · right
    refine ⟨m, haccepts, ?_⟩
    have hsteps : Preserves (Claimed srUuid m)
        (runSteps ((prepareSteps site.toCreateSite srUuid configuration m).take k)) :=
      preserves_runSteps fun step hstep => preserves_prepareSteps step (List.mem_of_mem_take hstep)
    have hcut : createCut site.toCreateSite srUuid configuration k s =
        runSteps ((prepareSteps site.toCreateSite srUuid configuration m).take k) s := bind_ok hchoose
    rw [after, hcut]
    exact hsteps s

/-- **A create, however it ends**: it does nothing, or it claims one dataset, and if it registers the SR,
the SR has its home there. -/
theorem create_cases (hlegal : ∀ c, site.legal c = true → '/' ∉ c.toList) {name description : String}
    (hafter : after (create site.toCreateSite srUuid configuration name description) s = s') :
    s' = s ∨ ∃ m, Accepts site.toCreateSite srUuid configuration s.tree m ∧
      Claimed srUuid m s { s' with srs := s.srs } ∧
      (s'.srs = s.srs ∨ s'.srs = s.srs.set srUuid.text m ∧ Home s' srUuid.text m) := by
  rcases choose_cases s with ⟨e, hchoose, -⟩ | ⟨m, hchoose, haccepts⟩
  · left
    rw [← hafter, create, after_of_error (bind_error hchoose)]
  right
  refine ⟨m, haccepts, ?_⟩
  have hpreserves : Preserves (Claimed srUuid m) (prepare site.toCreateSite srUuid configuration m) :=
    preserves_prepare
  have hprepared := wp_and (hpreserves.wp s)
    (wp_and (wp_prepare_labelled haccepts) (wp_prepare haccepts))
  rcases hprep : prepare site.toCreateSite srUuid configuration m s with ⟨_, s₁⟩ | ⟨e, s₁⟩
  · obtain ⟨hclaimed, hlabelled, hfeasible, -⟩ := (wp_of_ok hprep).1 hprepared
    have hfiled : Filed srUuid m s₁ s' := by
      have hcreate : create site.toCreateSite srUuid configuration name description s =
          finish site.toCreateSite srUuid configuration name description m s₁ := by
        rw [create, bind_ok hchoose, bind_ok hprep]
      rw [← hafter, after, hcreate]
      exact preserves_finish s₁
    refine ⟨hclaimed.of_filed hfiled, hfiled.srs.imp (fun h => h.trans hclaimed.srs) fun h => ?_⟩
    refine ⟨h.trans (by rw [hclaimed.srs]), ⟨⟨?_, ?_⟩, srUuid.marks, ?_, written_of_accepts haccepts⟩⟩
    · rw [hfiled.tree]
      exact hlabelled.node
    · rw [hfiled.mountpoints]
      exact hlabelled.mountpoint
    · exact plain_of_feasible hlegal haccepts hfeasible
  · obtain ⟨hclaimed, -⟩ := (wp_of_error hprep).1 hprepared
    have hstop : s' = s₁ := by
      rw [← hafter, create, after_of_error ((bind_ok hchoose).trans (bind_error hprep))]
    subst hstop
    exact ⟨hclaimed.of_filed ⟨rfl, rfl, .inl rfl⟩, .inl hclaimed.srs⟩

/-! ### What the calls keep -/

/-- A dataset that is claimed for another SR is not the home of this one. -/
theorem Home.claimed (hh : Home s sr m')
    (hclaimed : Claimed srUuid m s { s' with srs := s.srs })
    (hother : sr ≠ srUuid.text → m'.path ≠ m.path) : Home s' sr m' := by
  obtain ⟨node, hnode, hkind, hsr⟩ := hh.node
  obtain ⟨node', hnode', hkind', hsr'⟩ := hclaimed.tree _ node hnode
  refine ⟨⟨⟨node', hnode', hkind'.trans hkind, ?_⟩, ?_⟩, hh.marks, hh.plain, hh.written⟩
  · rcases hsr' with hsr' | ⟨hpath, hsr'⟩
    · exact hsr'.trans hsr
    · rw [hsr', not_imp_not.1 hother (congrArg Name.path hpath)]
  · rcases hclaimed.mountpoints m'.path hh.marked.has with hmount | ⟨hpath, hmount⟩
    · exact hmount.trans hh.mountpoint
    · refine Eq.trans hmount ?_
      rw [not_imp_not.1 hother hpath]
      rfl

/-- A new SR whose dataset is clear of the others leaves them separate. -/
theorem separate_set {w w' : World} {u : String} (hs : Separate w) (hsrs : w'.srs = w.srs.set u m)
    (hother : ∀ v m', w.srs.get? v = some m' → v ≠ u → ¬ m.path <+: m'.path ∧ ¬ m'.path <+: m.path) :
    Separate w' := by
  have hget : ∀ v m', w'.srs.get? v = some m' →
      (v = u ∧ m' = m) ∨ (v ≠ u ∧ w.srs.get? v = some m') := by
    intro v m' hv
    rw [hsrs, Dict.get?_set] at hv
    split at hv
    · next heq => exact .inl ⟨heq, (Option.some.inj hv).symm⟩
    · next hne => exact .inr ⟨hne, hv⟩
  intro v₁ m₁ v₂ m₂ h₁ h₂ hne
  rcases hget v₁ m₁ h₁ with ⟨rfl, rfl⟩ | ⟨hne₁, h₁⟩
  · rcases hget v₂ m₂ h₂ with ⟨rfl, -⟩ | ⟨hne₂, h₂⟩
    · exact absurd rfl hne
    · exact (hother v₂ m₂ h₂ hne₂).1
  · rcases hget v₂ m₂ h₂ with ⟨rfl, rfl⟩ | ⟨hne₂, h₂⟩
    · exact (hother v₁ m₁ h₁ hne₁).2
    · exact hs v₁ m₁ v₂ m₂ h₁ h₂ hne

/-- **A dataset that is claimed** leaves the SRs housed, and gives the one it is claimed for a home if that
one is registered. -/
theorem Housed.claimed (hlist : ∀ t root, Listed t root (site.list t root)) (hh : Housed s)
    (hclear : Sr.Clear s.toWorld (.create srUuid (deviceConfig site.toCreateSite configuration)))
    (haccepts : Accepts site.toCreateSite srUuid configuration s.tree m)
    (hclaimed : Claimed srUuid m s { s' with srs := s.srs })
    (hsrs : s'.srs = s.srs ∨ s'.srs = s.srs.set srUuid.text m ∧ Home s' srUuid.text m) : Housed s' := by
  -- adopting is up to the caller, and a normal create has looked for itself
  have hother : ∀ v m', s.srs.get? v = some m' → v ≠ srUuid.text →
      ¬ m.path <+: m'.path ∧ ¬ m'.path <+: m.path := by
    intro v m' hv hne
    have hclear := hclear m haccepts.target v m' hv hne
    cases hadopt : (deviceConfig site.toCreateSite configuration).adopt with
    | true => rwa [hadopt, if_pos rfl] at hclear
    | false =>
        rw [hadopt, if_neg (by decide)] at hclear
        exact Unclaimed.clear (w := s.toWorld) hlist (haccepts.unclaimed hadopt)
          (hh.home v m' hv).marked hclear
  have hold : ∀ v m', s.srs.get? v = some m' → Home s' v m' := by
    intro v m' hv
    refine (hh.home v m' hv).claimed hclaimed fun hne heq => ?_
    exact (hother v m' hv hne).1 (heq ▸ List.prefix_refl _)
  rcases hsrs with hsrs | ⟨hsrs, hhome⟩
  · refine ⟨fun u m₁ v m₂ hu hv => ?_, fun v m' hv => hold v m' (hsrs ▸ hv)⟩
    exact hh.separate u m₁ v m₂ (hsrs ▸ hu) (hsrs ▸ hv)
  · refine ⟨separate_set hh.separate hsrs hother, fun v m' hv => ?_⟩
    rw [hsrs, Dict.get?_set] at hv
    split at hv
    · next heq =>
        cases hv
        exact heq ▸ hhome
    · exact hold v m' hv

/-- **A create keeps the SRs housed**, however it ends. -/
theorem Housed.create (hlist : ∀ t root, Listed t root (site.list t root))
    (hlegal : ∀ c, site.legal c = true → '/' ∉ c.toList) {name description : String} (hh : Housed s)
    (hclear : Clear site s (.create srUuid configuration name description)) :
    Housed (perform site s (.create srUuid configuration name description)) := by
  generalize hafter : perform site s (.create srUuid configuration name description) = s'
  rcases create_cases hlegal hafter with rfl | ⟨m, haccepts, hclaimed, hsrs⟩
  · exact hh
  · exact hh.claimed hlist hclear haccepts hclaimed hsrs

/-- **A create that is cut short keeps the SRs housed.** -/
theorem Housed.createCut (hlist : ∀ t root, Listed t root (site.list t root)) (hh : Housed s) {k : ℕ}
    (hclear : Sr.Clear s.toWorld (.create srUuid (deviceConfig site.toCreateSite configuration))) :
    Housed (after (SrCreate.createCut site.toCreateSite srUuid configuration k) s) := by
  rcases createCut_cases site srUuid configuration k s with heq | ⟨m, haccepts, hclaimed⟩
  · rwa [heq]
  · refine hh.claimed hlist hclear haccepts ?_ (.inl hclaimed.srs)
    rw [← hclaimed.srs]
    exact hclaimed

/-- The SR keeps its home as long as its dataset keeps the marker and the mountpoint. -/
theorem Home.of_node (hh : Home s sr m)
    (hmount : s'.mountpoints.get? m.path = s.mountpoints.get? m.path)
    (hnode : ∀ node, s.tree.get? (dataset m.path) = some node → node.kind = .filesystem →
      ∃ node', s'.tree.get? (dataset m.path) = some node' ∧ node'.kind = .filesystem ∧
        node'.sr = node.sr) : Home s' sr m := by
  obtain ⟨node, hget, hkind, hsr⟩ := hh.node
  obtain ⟨node', hget', hkind', hsr'⟩ := hnode node hget hkind
  exact ⟨⟨⟨node', hget', hkind', hsr'.trans hsr⟩, hmount.trans hh.mountpoint⟩, hh.marks, hh.plain,
    hh.written⟩

theorem Home.of_keeps (hh : Home s sr m) (hmount : s'.mountpoints = s.mountpoints)
    (hkeep : Keeps (dataset m.path) s.tree s'.tree) : Home s' sr m := by
  refine hh.of_node (by rw [hmount]) fun node hnode hkind => ?_
  obtain ⟨node', hnode', hkind', hsr'⟩ := exists_of_keeps hkeep hnode
  exact ⟨node', hnode', hkind'.trans hkind, hsr'⟩

/-- Every node is still there, mounted or not, and all else is as before. -/
structure OnlyMounts (s s' : State) : Prop where
  tree : ∀ n, Keeps n s.tree s'.tree
  rest : s' = { s with tree := s'.tree }

instance : Std.Refl OnlyMounts := ⟨fun _ => ⟨fun n => Keeps.refl n _, rfl⟩⟩

instance : IsTrans State OnlyMounts := ⟨fun s s' s'' h h' => by
  refine ⟨fun n => (h.tree n).trans (h'.tree n), ?_⟩
  have hrest := h'.rest
  rw [h.rest] at hrest
  exact hrest⟩

theorem onlyMounts_onTree {α : Type} {op : M α} (hop : ∀ n, Preserves (Keeps n) op) :
    Preserves OnlyMounts (onTree op) :=
  preserves_of_keeps hop fun _ _ h => ⟨h, rfl⟩

theorem onlyMounts_datasetExists (path : List String) :
    Preserves OnlyMounts (onTree (datasetExists path)) :=
  onlyMounts_onTree fun _ => .of_after_eq fun _ => rfl

theorem onlyMounts_getKey (configuration : Dict String String) (key : String) :
    Preserves OnlyMounts (getKey configuration key) := by
  rw [getKey]
  split
  · exact .pure _
  · exact .throw _

theorem onlyMounts_backendFailure {α : Type} (code : String) (params : List String) :
    Preserves OnlyMounts (onWorld (backendFailure code params) : CreateM α) := .of_after_eq fun _ => rfl

theorem onlyMounts_check {α : Type} {c : Prop} [Decidable c] {code : String} {params : List String}
    {rest : CreateM α} (hrest : Preserves OnlyMounts rest) :
    Preserves OnlyMounts (if c then (do let _ : Unit ← onWorld (backendFailure code params); rest)
      else rest) :=
  .ite (fun _ => (onlyMounts_backendFailure code params).bind fun _ => hrest) fun _ => hrest

theorem onlyMounts_mountDataset (path : List String) : Preserves OnlyMounts (mountDataset site path) := by
  refine .get_bind fun s => ?_
  split
  · exact onlyMounts_onTree (fun n => preserves_datasetMount n path) s
  · exact onlyMounts_onTree (fun n => preserves_fail n _) s

theorem onlyMounts_ensureMounted (path : List String) :
    Preserves OnlyMounts (ensureMounted site path) := by
  have hread : Preserves OnlyMounts (getDatasetMountpoint site path) :=
    (onlyMounts_onTree fun n => preserves_lookup n _ _).bind fun _ => .get_bind fun s => Std.Refl.refl s
  refine hread.bind fun mountpoint => ?_
  refine (onlyMounts_onTree fun _ => preserves_datasetIsMounted _).bind fun b => ?_
  exact .ite (fun _ => (onlyMounts_mountDataset path).bind fun _ => .pure _) fun _ => .pure _

/-- **Attaching** mounts something, or nothing. -/
theorem onlyMounts_attach : Preserves OnlyMounts (attach site configuration) := by
  refine (onlyMounts_getKey _ _).bind fun poolName => (onlyMounts_getKey _ _).bind fun datasetName => ?_
  refine (onlyMounts_datasetExists _).bind fun pool => onlyMounts_check ?_
  refine (onlyMounts_datasetExists _).bind fun there => onlyMounts_check ?_
  exact onlyMounts_ensureMounted _

theorem onlyMounts_getSrMetadata : Preserves OnlyMounts (getSrMetadata site sr) := by
  refine .get_bind fun s => ?_
  split
  · exact Std.Refl.refl s
  · refine Preserves.bind (onlyMounts_onTree fun _ => preserves_datasetIsMounted _) (fun b => ?_) s
    exact .ite (fun _ => .pure _) fun _ => .throw _

theorem onlyMounts_detach : Preserves OnlyMounts (detach site sr) := by
  refine onlyMounts_getSrMetadata.bind fun info => ?_
  refine (onlyMounts_onTree fun _ => preserves_datasetIsMounted _).bind fun b => ?_
  exact .ite (fun _ => onlyMounts_onTree fun n => preserves_zfsUnmount n _) fun _ => .pure ()

theorem Housed.onlyMounts (hh : Housed s) (h : OnlyMounts s s') : Housed s' := by
  rw [h.rest]
  exact ⟨hh.separate, fun sr m hm => (hh.home sr m hm).of_keeps rfl (h.tree _)⟩

/-- **A destroy keeps the other SRs housed**, and this one as long as it is registered. -/
theorem Housed.destroyed {w : World} (hh : Housed s) (hd : Destroyed sr s.toWorld w) :
    Housed { s with toWorld := w } := by
  refine ⟨(inv_destroy hh.inv hd).separate, fun v m hv => ?_⟩
  have hother : v ≠ sr → s.srs.get? v = some m → Home { s with toWorld := w } v m := by
    intro hne hv
    refine (hh.home v m hv).of_keeps rfl (hd.1 _ fun m' hm' => ?_)
    exact not_under_of_separate hh.separate hm' hv hne (List.prefix_refl _)
  rcases hd.2 with ⟨hsrs, hkept⟩ | hsrs
  · have hv : s.srs.get? v = some m := hsrs ▸ hv
    by_cases hne : v = sr
    · subst hne
      exact (hh.home v m hv).of_keeps rfl (hkept m hv)
    · exact hother hne hv
  · have hv : (s.srs.erase sr).get? v = some m := hsrs ▸ hv
    rw [Dict.get?_erase] at hv
    split at hv
    · cases hv
    · next hne => exact hother hne hv

theorem Housed.destroy (hlist : ∀ t root, Listed t root (site.list t root)) (hh : Housed s) (sr : String) :
    Housed (after (SrCreate.destroy site sr) s) := by
  refine after_of_wp ?_
  rw [SrCreate.destroy, wp_bind]
  refine wp_mono (onlyMounts_getSrMetadata.wp s) (fun _ s' h => ?_) fun _ _ h => hh.onlyMounts h
  rw [wp_onWorld]
  have hdestroy : Preserves (Destroyed sr) (Sr.destroy (callSite site) sr) := preserves_destroy hlist sr
  exact wp_mono (hdestroy.wp s'.toWorld) (fun _ _ hd => (hh.onlyMounts h).destroyed hd) fun _ _ hd =>
    (hh.onlyMounts h).destroyed hd

theorem after_probe (configuration : Configuration) (s : State) :
    after (onWorld (probe (probeSite site) configuration)) s = s := by
  refine after_of_wp (P := (· = s)) ?_
  rw [wp_onWorld]
  refine wp_mono (probe_spec configuration s.toWorld) ?_ fun _ _ hf => hf.elim
  rintro entries w ⟨rfl, -⟩
  rfl

/-- **Every step keeps the SRs housed.** -/
theorem Housed.step (hlist : ∀ t root, Listed t root (site.list t root))
    (hlegal : ∀ c, site.legal c = true → '/' ∉ c.toList) (hh : Housed s) (hstep : Step site s s') :
    Housed s' := by
  cases hstep with
  | call c hclear =>
      cases c with
      | create srUuid configuration name description => exact hh.create hlist hlegal hclear
      | destroy sr => exact hh.destroy hlist sr
      | attach configuration => exact hh.onlyMounts (onlyMounts_attach s)
      | detach sr => exact hh.onlyMounts (onlyMounts_detach s)
      | probe configuration =>
          rw [perform, after_probe]
          exact hh
  | cut srUuid configuration k hclear => exact hh.createCut hlist hclear
  | outside hkeeps =>
      obtain ⟨hsrs, hnode, hmount⟩ := hkeeps
      refine ⟨fun u m v m' hu hv => ?_, fun sr m hm => ?_⟩
      · exact hh.separate u m v m' (hsrs ▸ hu) (hsrs ▸ hv)
      · rw [hsrs] at hm
        exact (hh.home sr m hm).of_node (hmount sr m hm) (hnode sr m hm)

/-- **In every state that is reached**, every SR is housed. -/
theorem Housed.reaches (hlist : ∀ t root, Listed t root (site.list t root))
    (hlegal : ∀ c, site.legal c = true → '/' ∉ c.toList) (hh : Housed s) (hreaches : Reaches site s s') :
    Housed s' := by
  induction hreaches with
  | refl => exact hh
  | tail _ hstep ih => exact ih.step hlist hlegal hstep

theorem housed_of_none (hnew : s.srs = Dict.empty) : Housed s := by
  constructor
  · intro u m v m' hu
    rw [hnew] at hu
    cases hu
  · intro u m hu
    rw [hnew] at hu
    cases hu

/-! ### Attaching -/

/-- The dataset of an SR is mounted, and nothing else has changed. -/
def MountedAt (s s' : State) (path : List String) : Prop :=
  ∃ node t, s.tree.get? (dataset path) = some node ∧ s' = { s with tree := t } ∧
    ∀ n, t.get? n = if n = dataset path then some { node with mounted := true } else s.tree.get? n

theorem wp_ensureMounted (hh : Home s sr m)
    (hmountable : (∃ node, s.tree.get? (dataset m.path) = some node ∧ node.mounted = true) ∨
      site.mountable s.tree m.path = true) :
    wp (ensureMounted site m.path)
      (fun mountpoint s' => mountpoint = "/var/run/sr-mount/" ++ sr ∧ MountedAt s s' m.path)
      (fun _ _ => False) s := by
  obtain ⟨node, hnode, hkind, -⟩ := hh.node
  rw [ensureMounted, getDatasetMountpoint]
  simp only [wp_bind, wp_onTree, wp_lookup hnode, wp_get, wp_pure, wp_ite,
    wp_of_ok (datasetIsMounted_eq hnode), hh.mountpoint, Option.getD_some, true_and]
  refine ⟨fun hunmounted => ?_, fun hmounted => ?_⟩
  · have hcan : site.mountable s.tree m.path = true := by
      refine hmountable.resolve_left ?_
      rintro ⟨node', hnode', hmounted⟩
      refine hunmounted ?_
      obtain rfl : node = node' := Option.some.inj (hnode.symm.trans hnode')
      exact decide_eq_true ⟨hkind, hmounted⟩
    rw [mountDataset, wp_bind, wp_get, if_pos hcan, wp_onTree, datasetMount, wp_bind, wp_lookup hnode,
      wp_modify]
    exact ⟨node, _, hnode, rfl, fun n => Dict.get?_set ..⟩
  · have hmounted : node.Mounted := by simpa using hmounted
    refine ⟨node, s.tree, hnode, rfl, fun n => ?_⟩
    split
    · next heq =>
        rw [heq, hnode, ← hmounted.2]
    · rfl

/-- **Attaching an SR that is housed**, by a configuration that names its dataset. -/
theorem attach_spec (hh : Home s sr m) (hpool : s.tree.Has (dataset [m.zpool]))
    (hzpool : configuration.get? "zpool" = some m.zpool)
    (hdataset : configuration.get? "dataset" = some (pathText m.dataset))
    (hmountable : (∃ node, s.tree.get? (dataset m.path) = some node ∧ node.mounted = true) ∨
      site.mountable s.tree m.path = true) :
    ∃ s', attach site configuration s = .ok ("/var/run/sr-mount/" ++ sr) s' ∧ MountedAt s s' m.path := by
  have hattach : wp (attach site configuration)
      (fun mountpoint s' => mountpoint = "/var/run/sr-mount/" ++ sr ∧ MountedAt s s' m.path)
      (fun _ _ => False) s := by
    have hhas : s.tree.Has (dataset m.path) := hh.marked.has
    simp only [attach, getKey, hzpool, hdataset, wp_bind, wp_pure, named_datasetPath hh.plain hh.written,
      wp_onTree, wp_datasetExists, hpool, hhas, decide_true, not_true_eq_false, if_false]
    exact wp_ensureMounted hh hmountable
  obtain ⟨_, s', hok, rfl, hmounted⟩ := exists_ok_of_wp hattach
  exact ⟨s', hok, hmounted⟩

/-- The metadata of an SR that is mounted can be read. -/
theorem MountedAt.getSrMetadata (hh : Home s sr m) (hm : s.srs.get? sr = some m)
    (h : MountedAt s s' m.path) : getSrMetadata site sr s' = .ok m s' := by
  obtain ⟨node, t, hnode, rfl, htree⟩ := h
  obtain ⟨node', hnode', hkind, -⟩ := hh.node
  obtain rfl : node = node' := Option.some.inj (hnode.symm.trans hnode')
  have hmounted := htree (dataset m.path)
  rw [if_pos rfl] at hmounted
  have hread : wp (SrCreate.getSrMetadata site sr)
      (fun info s' => info = m ∧ s' = { s with tree := t }) (fun _ _ => False) { s with tree := t } := by
    rw [SrCreate.getSrMetadata, wp_bind, wp_get]
    simp only [hm, wp_bind, wp_onTree, wp_of_ok (datasetIsMounted_eq hmounted), wp_ite, wp_pure]
    exact ⟨fun _ => ⟨trivial, trivial⟩, fun hnot => absurd (decide_eq_true ⟨hkind, rfl⟩) hnot⟩
  obtain ⟨_, _, hok, rfl, rfl⟩ := exists_ok_of_wp hread
  exact hok

/-! ### Probing -/

/-- An SR in a location is among the ones that are there. -/
theorem wp_existingSrs_mem {site : ProbeSite} {pool : String} {parent path : List String} {t : Tree}
    (hlist : Listed t [pool] (site.list t [pool])) (hmarked : MarkedSr t path)
    (hbelow : pool :: parent <+: path) (hhas : t.Has (dataset (pool :: parent))) :
    wp (existingSrs site pool (pool :: parent)) (fun srDatasets t' => t' = t ∧ path ∈ srDatasets)
      (fun _ _ => False) t := by
  obtain ⟨node, hnode, hkind, -⟩ := id hmarked
  have hmem : (dataset path, Kind.filesystem) ∈ site.list t [pool] := by
    refine (hlist.mem (dataset path) .filesystem).2 ⟨?_, node, hnode, hkind⟩
    exact (List.prefix_append [pool] parent).trans hbelow
  simp only [existingSrs, wp_bind, wp_datasetExists, wp_datasetIsSr, wp_ite, wp_pure]
  refine ⟨fun _ => ?_, fun hnot => absurd (decide_eq_true hhas) hnot⟩
  rw [datasetFindChildSrs, wp_bind, wp_get]
  refine wp_mono (findChildSrs_spec _ _ t) ?_ fun _ _ hf => hf
  rintro childSrs t' ⟨rfl, hfound⟩
  refine ⟨rfl, ?_⟩
  by_cases hself : path = pool :: parent
  · rw [if_pos (decide_eq_true (hself ▸ hmarked.shows)), hself]
    exact List.mem_cons_self
  · have hchild : path ∈ childSrs := hfound _ hmem rfl hbelow hself hmarked.shows
    split
    · exact List.mem_cons_of_mem _ hchild
    · exact hchild

/-- The entry tells of the SR, and which dataset it is in. -/
structure Tells (entry : ProbeEntry) (sr : String) (m : Meta) : Prop where
  complete : entry.complete = true
  zpool : entry.zpool = some m.zpool
  dataset : entry.dataset = some (pathText m.dataset)
  uuid : ∀ info, entry.sr = some info → info.uuid = sr

theorem wp_probeEntry {site : ProbeSite} (hh : Home s sr m) (configuration : Configuration) :
    wp (probeEntry site m.zpool configuration m.path) (fun entry w => w = s.toWorld ∧ Tells entry sr m)
      (fun _ _ => False) s.toWorld := by
  obtain ⟨node, hnode, -, hsr⟩ := hh.node
  have hmarker : s.tree.srOf m.path = some sr := by
    simp [Tree.srOf, List.range_succ, hnode, hsr]
  have hhas : s.tree.Has (dataset m.path) := hh.marked.has
  rw [probeEntry, wp_bind, Sr.wp_onTree, datasetGetSrMarker, wp_bind, wp_get, if_pos hhas, hmarker, wp_pure,
    Option.getD_some, if_pos hh.marks, wp_pure]
  refine ⟨rfl, rfl, rfl, rfl, fun info hinfo => ?_⟩
  obtain ⟨_, -, rfl⟩ := Option.map_eq_some_iff.1 hinfo
  rfl

theorem wp_probeEntries_tells {site : ProbeSite} (hh : Home s sr m)
    (configuration : Configuration) (srDatasets : List (List String)) :
    wp (probeEntries site m.zpool configuration srDatasets)
      (fun entries w => w = s.toWorld ∧ (m.path ∈ srDatasets → ∃ entry ∈ entries, Tells entry sr m))
      (fun _ _ => False) s.toWorld := by
  induction srDatasets with
  | nil => exact ⟨rfl, fun h => absurd h List.not_mem_nil⟩
  | cons srDataset srDatasets ih =>
      have hentry : wp (probeEntry site m.zpool configuration srDataset)
          (fun entry w => w = s.toWorld ∧ (m.path = srDataset → Tells entry sr m)) (fun _ _ => False)
          s.toWorld := by
        by_cases hself : m.path = srDataset
        · subst hself
          exact wp_mono (wp_probeEntry hh configuration) (fun _ _ h => ⟨h.1, fun _ => h.2⟩)
            fun _ _ hf => hf
        · rw [probeEntry, wp_bind, Sr.wp_onTree]
          refine wp_mono (wp_datasetGetSrMarker srDataset s.tree) ?_ fun _ _ hf => hf
          rintro _ t rfl
          exact ⟨rfl, fun h => absurd h hself⟩
      rw [probeEntries, wp_bind]
      refine wp_mono hentry ?_ fun _ _ hf => hf
      rintro entry w ⟨rfl, htells⟩
      rw [wp_bind]
      refine wp_mono ih ?_ fun _ _ hf => hf
      rintro entries w ⟨rfl, hrest⟩
      refine ⟨rfl, fun hmem => ?_⟩
      rcases List.mem_cons.1 hmem with hself | hmem
      · exact ⟨entry, List.mem_cons_self, htells hself⟩
      · obtain ⟨entry', hentry', htells'⟩ := hrest hmem
        exact ⟨entry', List.mem_cons_of_mem _ hentry', htells'⟩

/-- **Probing a location above an SR**, or the SR itself, tells of it. -/
theorem probe_tells {path : String} {configuration : Configuration}
    (hlist : ∀ t root, Listed t root (site.list t root)) (hh : Home s sr m)
    (hpath : configuration.path = some path) (hbelow : pathParts (site.strip path) <+: m.path)
    (hnamed : pathParts (site.strip path) ≠ [""]) (hpool : s.tree.Has (dataset [m.zpool]))
    (hlocation : s.tree.Has (dataset (pathParts (site.strip path)))) :
    ∃ entries, probe (probeSite site) configuration s.toWorld = .ok entries s.toWorld ∧
      ∃ entry ∈ entries, Tells entry sr m := by
  obtain ⟨pool, parent, hparts⟩ := exists_pathParts (site.strip path)
  have hhead : pool = m.zpool := (List.cons_prefix_cons.1 (hparts ▸ hbelow)).1
  subst hhead
  have hprobe : wp (probe (probeSite site) configuration)
      (fun entries w => w = s.toWorld ∧ ∃ entry ∈ entries, Tells entry sr m) (fun _ _ => False)
      s.toWorld := by
    have hstrip : pathParts ((probeSite site).strip path) = m.zpool :: parent := hparts
    rw [probe, hpath]
    dsimp only
    rw [hstrip, if_neg (hparts ▸ hnamed), List.headD_cons, wp_bind, Sr.wp_onTree, wp_datasetExists,
      if_pos (decide_eq_true hpool), wp_bind, Sr.wp_onTree]
    refine wp_mono (wp_existingSrs_mem (hlist s.tree [m.zpool]) hh.marked (hparts ▸ hbelow)
      (hparts ▸ hlocation)) ?_ fun _ _ hf => hf
    rintro srDatasets t ⟨rfl, hmem⟩
    rw [wp_bind]
    refine wp_mono (wp_probeEntries_tells hh configuration srDatasets) ?_ fun _ _ hf => hf
    rintro entries w ⟨rfl, hentries⟩
    rw [wp_bind]
    refine wp_mono (wp_createError _ s.toWorld) ?_ fun _ _ hf => hf
    rintro error w ⟨rfl, -⟩
    obtain ⟨entry, hentry, htells⟩ := hentries hmem
    exact ⟨rfl, entry, List.mem_append_left _ hentry, htells⟩
  obtain ⟨entries, _, hok, rfl, htells⟩ := exists_ok_of_wp hprobe
  exact ⟨entries, hok, htells⟩

private def attachSite : AttachSite where
  toHost := lzcHost
  importable _ := false
  strings := Volume.asciiStr
  ashift _ := none
  accepts _ _ _ := true
  createDatabase db := some (db.getD Metabase.empty)
  volsize _ := none
  strip := id
  sizes _ := some (1, 1, 0)
  described _ := ("", "")
  mountable _ _ := true
  inherited _ _ := "none"

private theorem legal_attachSite (c : String) (hc : attachSite.legal c = true) : '/' ∉ c.toList := by
  intro hslash
  have hall := List.all_eq_true.1 (of_decide_eq_true hc).2 _ hslash
  revert hall
  decide

private theorem distinct_barePool :
    ([(dataset ["p"], (⟨.filesystem, none, true, false, none⟩ : Node))].map Prod.fst).Nodup := by
  simp

private def barePool : State where
  tree := ⟨[(dataset ["p"], ⟨.filesystem, none, true, false, none⟩)], distinct_barePool⟩
  srs := Dict.empty
  mountpoints := Dict.empty
  properties := Dict.empty
  details := Dict.empty
  databases := Dict.empty

private theorem marks_firstSr : "a" ≠ "" ∧ "a" ≠ "-" := by decide

private def firstSr : SrUuid := ⟨"a", marks_firstSr⟩

private theorem marks_otherSr : "b" ≠ "" ∧ "b" ≠ "-" := by decide

private def otherSr : SrUuid := ⟨"b", marks_otherSr⟩

/-- A create that was cut short has left a dataset with no marker. -/
private def cutShort : State :=
  after (createCut attachSite.toCreateSite otherSr (Dict.empty.set "path" "p") 1) barePool

/-- A new SR, created in the pool after that, and detached. -/
private def detached : State :=
  perform attachSite (perform attachSite cutShort
    (.create firstSr (Dict.empty.set "path" "p") "name" "description")) (.detach "a")

private theorem srs_cutShort : cutShort.srs.items = [] := by decide +kernel

private theorem reaches_detached : Reaches attachSite barePool detached := by
  refine .tail (.tail (.single (.cut otherSr (Dict.empty.set "path" "p") 1 ?_)) (.call _ ?_))
    (.call _ trivial)
  · intro _ _ v m' hv
    cases hv
  · intro _ _ v m' hv
    have hmem : (v, m') ∈ cutShort.srs.items := Dict.get?_eq_some_iff.1 hv
    rw [srs_cutShort] at hmem
    cases hmem

private theorem parents_detached (p q : List String) (hq : detached.tree.Has (dataset q)) (hp : p <+: q)
    (hne : p ≠ []) : detached.tree.Has (dataset p) := by
  have hnames : ∀ e ∈ detached.tree.items, ∀ k < e.1.path.length,
      detached.tree.Has (dataset (e.1.path.take (k + 1))) := by decide +kernel
  obtain ⟨node, hnode⟩ := Tree.has_iff.1 hq
  have hlen := List.length_pos_iff.2 hne
  have htake := hnames _ (Dict.get?_eq_some_iff.1 hnode) (p.length - 1)
    (by have := hp.length_le; change _ < q.length; omega)
  rw [Nat.sub_add_cancel hlen] at htake
  rwa [List.prefix_iff_eq_take.1 hp]

end ZfsLive.SrCreate

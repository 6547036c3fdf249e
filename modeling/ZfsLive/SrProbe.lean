/-
**Do `SR.probe` and `SR.create` agree on where an SR may be made?** (`src/volume/sr.py`)

Both refuse a place below an SR.  `SR.create` walks up from the dataset that it is about to make and
stops below the root of the pool.  `SR.probe` walks up from the configured location, and then looks at
the location itself, which can be the root of the pool.

Main definitions:

* `Sr.probe` — the call;
* `Sr.Agree` — probe reports the location ready exactly when the checks of create pass.

Main results:

* `Sr.probe_spec` — probe returns, changes nothing, and ends with the entry on readiness;
* `Sr.agree_iff` — **they agree exactly when the location is not the root of a pool that shows an SR
  marker**;
* `Sr.not_agree_adopted_root` — an adopted pool.
-/

import ZfsLive.SrNesting

set_option relaxedAutoImplicit false
set_option autoImplicit false

namespace ZfsLive.Sr

open Datasets Wp

/-! ### The call -/

/-- What is told about an SR that is there already. -/
structure SrInfo where
  sr : String
  name : String
  uuid : String
  description : String
  free_space : ℤ
  total_space : ℤ

/-- What `SR.probe` reads besides the datasets. -/
structure ProbeSite extends Site where
  /-- `str.strip`. -/
  strip : String → String
  /-- The available and the used space of a dataset and its quota, unless one of them fails. -/
  sizes : List String → Option (ℤ × ℤ × ℤ)
  /-- The name and the description in the metadata of a mounted SR, and empty texts otherwise. -/
  described : List String → String × String

/-- An entry of the answer. -/
structure ProbeEntry where
  configuration : Configuration
  /-- The keys `zpool` and `dataset` of the configuration. -/
  zpool : Option String
  dataset : Option String
  complete : Bool
  sr : Option SrInfo
  extra_info : List (String × String)

section

variable (site : ProbeSite)

/-- `_probe_sr_info`. -/
def probeSrInfo (srDataset : List String) (srUuid : Option String) : Option SrInfo :=
  (site.sizes srDataset).map fun (free_space, used_space, quota) =>
    { sr := pathText srDataset
      name := (site.described srDataset).1
      uuid := srUuid.getD ""
      description := (site.described srDataset).2
      free_space
      total_space := if quota > 0 then quota else used_space + free_space }

/-- The SRs at or under the location. -/
def existingSrs (pool : String) (location : List String) : M (List (List String)) := do
  if ← datasetExists location then
    let own ← datasetIsSr location
    let children ← datasetFindChildSrs site.toHost pool location
    return if own then location :: children else children
  else
    return []

/-- The entry of an SR that is there already; its path is that of its parent. -/
def probeEntry (pool : String) (configuration : Configuration) (srDataset : List String) :
    SrM ProbeEntry := do
  let srUuid ← onTree (datasetGetSrMarker srDataset)
  return { configuration := { configuration with path := some (pathText srDataset.dropLast) }
           zpool := some pool
           dataset := some (pathText srDataset.tail)
           complete := true
           sr := probeSrInfo site srDataset srUuid
           extra_info := [("dataset", pathText srDataset)] }

def probeEntries (pool : String) (configuration : Configuration) :
    List (List String) → SrM (List ProbeEntry)
  | [] => return []
  | srDataset :: srDatasets => do
      let entry ← probeEntry site pool configuration srDataset
      let entries ← probeEntries pool configuration srDatasets
      return entry :: entries

/-- The first ancestor that is an SR. -/
def findAncestor : List (List String) → SrM (Option (List String))
  | [] => return none
  | parent :: parents => do
      if (← onTree (datasetExists parent)) ∧ (← onTree (datasetIsSr parent)) then
        return some parent
      else
        findAncestor parents

/-- Why no SR can be made at the location. -/
def createError (location : List String) : SrM (Option String) := do
  let exists' ← onTree (datasetExists location)
  if location.tail ≠ [] ∧ ¬ exists' then
    return some ("parent dataset '" ++ pathText location ++ "' does not exist")
  else
    match ← findAncestor (datasetGetParents location) with
    | some parent => return some ("ancestor dataset '" ++ pathText parent ++ "' is already an SR")
    | none =>
        if ← onTree (datasetIsSr location) then
          return some ("dataset '" ++ pathText location ++ "' is already an SR")
        else
          return none

/-- An entry about the configuration itself. -/
def ownEntry (configuration : Configuration) (complete : Bool)
    (extra_info : List (String × String)) : ProbeEntry :=
  ⟨configuration, none, none, complete, none, extra_info⟩

/-- `SR.probe`. -/
def probe (configuration : Configuration) : SrM (List ProbeEntry) := do
  match configuration.path with
  | none =>
      return [ownEntry configuration false [("hint", "supply 'path' as <pool>[/<parent-dataset>]")]]
  | some path =>
      let location := pathParts (site.strip path)
      if location = [""] then
        return [ownEntry configuration false [("error", "'path' is empty")]]
      else
        let pool := location.headD ""
        if ← onTree (datasetExists [pool]) then
          let srDatasets ← onTree (existingSrs site pool location)
          let entries ← probeEntries site pool configuration srDatasets
          let error ← createError location
          return entries ++
            [ownEntry configuration error.isNone (error.toList.map fun e => ("error", e))]
        else if site.importable pool then
          return [ownEntry configuration false
            [("error", "pool '" ++ pool ++ "' exists but is not imported")]]
        else
          return [ownEntry configuration false [("error", "pool '" ++ pool ++ "' does not exist")]]

end

/-! ### What a probe and a create make of a location -/

/-- The last entry of an answer says that an SR can be made. -/
def ready (entries : List ProbeEntry) : Bool := (entries.getLast?.map ProbeEntry.complete).getD false

/-- The answer of probe in a world. -/
def probed (site : ProbeSite) (configuration : Configuration) (w : World) : List ProbeEntry :=
  match probe site configuration w with
  | .ok entries _ => entries
  | .error _ _ => []

/-- Probe reports the location ready exactly when the checks of a normal create pass on the dataset and
on the SRs around it. -/
def Agree (site : ProbeSite) (srUuid : SrUuid) (configuration : Configuration) (path : String)
    (w : World) : Prop :=
  ready (probed site configuration w) = true ↔
    returns (newDataset site.toSite ((pathParts path).headD "") (pathParts path).tail srUuid) w = true

/-- Nothing is named after the uuid. -/
def Fresh (srUuid : SrUuid) (t : Tree) : Prop := ∀ n, t.Has n → srUuid.text ∉ n.path

/-! ### The checks of create -/

variable {site : ProbeSite} {w : World}

/-- **The check of the parents, whether it passes or not.** -/
theorem wp_checkParents (parents : List (List String)) (w : World) :
    wp (checkParents parents) (fun _ w' => w' = w ∧ ∀ p ∈ parents, ¬ ShowsSr w.tree p)
      (fun _ w' => w' = w ∧ ∃ p ∈ parents, ShowsSr w.tree p) w := by
  induction parents with
  | nil => exact ⟨rfl, by simp⟩
  | cons parent parents ih =>
      simp only [checkParents, wp_bind, wp_onTree, wp_datasetExists, wp_datasetIsSr, wp_ite]
      refine ⟨fun hshows => ?_, fun hnot => ?_⟩
      · exact ⟨rfl, parent, List.mem_cons_self, of_decide_eq_true hshows.2⟩
      refine wp_mono ih ?_ ?_
      · rintro _ w' ⟨rfl, hrest⟩
        refine ⟨rfl, fun p hp hs => ?_⟩
        rcases List.mem_cons.1 hp with rfl | hp
        · exact hnot ⟨decide_eq_true hs.1, decide_eq_true hs⟩
        · exact hrest p hp hs
      · rintro _ w' ⟨rfl, p, hp, hs⟩
        exact ⟨rfl, p, List.mem_cons_of_mem _ hp, hs⟩

/-- Only SRs below the path are found. -/
theorem wp_findChildSrs (path : List String) (nodes : List (Name × Kind)) (t : Tree) :
    wp (findChildSrs path nodes)
      (fun childSrs t' => t' = t ∧ ∀ c ∈ childSrs, ∃ e ∈ nodes, e.2 = .filesystem ∧
        e.1.path = c ∧ path <+: c ∧ c ≠ path ∧ ShowsSr t c)
      (fun _ _ => False) t := by
  induction nodes with
  | nil => exact ⟨rfl, by simp⟩
  | cons e nodes ih =>
      obtain ⟨n, kind⟩ := e
      rw [findChildSrs, wp_bind]
      refine wp_mono ih ?_ fun _ _ hf => hf
      rintro childSrs t' ⟨rfl, hrest⟩
      have hkeep : ∀ c ∈ childSrs, ∃ e ∈ (n, kind) :: nodes, e.2 = .filesystem ∧
          e.1.path = c ∧ path <+: c ∧ c ≠ path ∧ ShowsSr t' c := by
        intro c hc
        obtain ⟨e, he, heq⟩ := hrest c hc
        exact ⟨e, List.mem_cons_of_mem _ he, heq⟩
      rw [wp_ite]
      constructor
      · rintro ⟨hkind, hpre, hne⟩
        rw [wp_bind, wp_datasetIsSr, wp_pure]
        refine ⟨rfl, fun c hc => ?_⟩
        split at hc
        · next hshows =>
            rcases List.mem_cons.1 hc with rfl | hc
            · exact ⟨_, List.mem_cons_self, hkind, rfl, hpre, hne, of_decide_eq_true hshows⟩
            · exact hkeep c hc
        · exact hkeep c hc
      · exact fun _ => ⟨rfl, hkeep⟩

/-- **The checks of a new SR with a fresh uuid look at its parents only.** -/
theorem wp_newDataset {pool : String} {parent : List String} {srUuid : SrUuid}
    (hlist : Listed w.tree [pool] (site.list w.tree [pool])) (hfresh : Fresh srUuid w.tree) :
    wp (newDataset site.toSite pool parent srUuid)
      (fun _ w' => w' = w ∧
        ∀ p ∈ datasetGetParents (pool :: (parent ++ [srUuid.text])), ¬ ShowsSr w.tree p)
      (fun _ w' => w' = w ∧
        ∃ p ∈ datasetGetParents (pool :: (parent ++ [srUuid.text])), ShowsSr w.tree p) w := by
  have habsent : ∀ n : Name, pool :: (parent ++ [srUuid.text]) <+: n.path → ¬ w.tree.Has n := by
    intro n hn hhas
    exact hfresh n hhas (hn.subset (by simp))
  simp only [newDataset, wp_bind, wp_onTree, wp_datasetExists, wp_ite, wp_pure]
  refine ⟨fun hhas => ?_, fun _ => ?_⟩
  · exact absurd (of_decide_eq_true hhas) (habsent _ (List.prefix_refl _))
  refine wp_mono (wp_checkParents _ w) ?_ fun _ _ h => h
  rintro _ w' ⟨rfl, hparents⟩
  rw [datasetFindChildSrs, wp_bind, wp_get]
  refine wp_mono (wp_findChildSrs _ _ _) ?_ fun _ _ hf => hf.elim
  rintro childSrs t' ⟨rfl, hchildren⟩
  have hnone : childSrs = [] := by
    refine List.eq_nil_iff_forall_not_mem.2 fun c hc => ?_
    obtain ⟨⟨n, kind⟩, he, -, rfl, hpre, -⟩ := hchildren c hc
    obtain ⟨-, node, hnode, -⟩ := (hlist.mem n kind).1 he
    exact habsent n hpre (Tree.has_iff.2 ⟨node, hnode⟩)
  exact ⟨fun hne => absurd hnone hne, fun _ => ⟨rfl, hparents⟩⟩

/-! ### What probe reports -/

theorem wp_datasetFindChildSrs (pool : String) (path : List String) (t : Tree) :
    wp (datasetFindChildSrs site.toHost pool path) (fun _ t' => t' = t) (fun _ _ => False) t := by
  rw [datasetFindChildSrs, wp_bind, wp_get]
  exact wp_mono (wp_findChildSrs _ _ _) (fun _ _ h => h.1) fun _ _ hf => hf

theorem wp_existingSrs (pool : String) (location : List String) (t : Tree) :
    wp (existingSrs site pool location) (fun _ t' => t' = t) (fun _ _ => False) t := by
  rw [existingSrs, wp_bind, wp_datasetExists, wp_ite]
  refine ⟨fun _ => ?_, fun _ => rfl⟩
  rw [wp_bind, wp_datasetIsSr, wp_bind]
  exact wp_datasetFindChildSrs pool location t

theorem wp_datasetGetSrMarker (path : List String) (t : Tree) :
    wp (datasetGetSrMarker path) (fun _ t' => t' = t) (fun _ _ => False) t := by
  rw [datasetGetSrMarker, wp_bind, wp_get, wp_ite]
  exact ⟨fun _ => rfl, fun _ => rfl⟩

theorem wp_probeEntries (pool : String) (configuration : Configuration)
    (srDatasets : List (List String)) (w : World) :
    wp (probeEntries site pool configuration srDatasets) (fun _ w' => w' = w) (fun _ _ => False) w := by
  induction srDatasets with
  | nil => rfl
  | cons srDataset srDatasets ih =>
      rw [probeEntries, wp_bind, probeEntry, wp_bind, wp_onTree]
      refine wp_mono (wp_datasetGetSrMarker srDataset w.tree) ?_ fun _ _ hf => hf
      rintro _ t rfl
      rw [wp_pure, wp_bind]
      refine wp_mono ih ?_ fun _ _ hf => hf
      rintro _ w' rfl
      rfl

theorem wp_findAncestor (parents : List (List String)) (w : World) :
    wp (findAncestor parents)
      (fun found w' => w' = w ∧ (found = none ↔ ∀ p ∈ parents, ¬ ShowsSr w.tree p))
      (fun _ _ => False) w := by
  induction parents with
  | nil => exact ⟨rfl, by simp⟩
  | cons parent parents ih =>
      simp only [findAncestor, wp_bind, wp_onTree, wp_datasetExists, wp_datasetIsSr, wp_ite, wp_pure]
      refine ⟨fun hshows => ⟨trivial, ?_⟩, fun hnot => ?_⟩
      · have hs : ShowsSr w.tree parent := of_decide_eq_true hshows.2
        exact iff_of_false (by simp) fun h => h parent List.mem_cons_self hs
      · refine wp_mono ih ?_ fun _ _ hf => hf
        rintro found w' ⟨rfl, hfound⟩
        refine ⟨rfl, hfound.trans ?_⟩
        have hs : ¬ ShowsSr w'.tree parent :=
          fun hs => hnot ⟨decide_eq_true hs.1, decide_eq_true hs⟩
        rw [List.forall_mem_cons]
        exact (and_iff_right hs).symm

/-- **When probe finds a location ready**: it is there, unless it is a pool, and neither it nor one of
its ancestors below the root of the pool shows a marker. -/
theorem wp_createError (location : List String) (w : World) :
    wp (createError location)
      (fun error w' => w' = w ∧ (error = none ↔
        (location.tail = [] ∨ w.tree.Has (dataset location)) ∧
          (∀ p ∈ datasetGetParents location, ¬ ShowsSr w.tree p) ∧ ¬ ShowsSr w.tree location))
      (fun _ _ => False) w := by
  rw [createError, wp_bind, wp_onTree, wp_datasetExists, wp_ite]
  refine ⟨fun habsent => ⟨rfl, iff_of_false (by simp) fun h => ?_⟩, fun hthere => ?_⟩
  · rcases h.1 with h | h
    · exact habsent.1 h
    · exact habsent.2 (decide_eq_true h)
  have hhere : location.tail = [] ∨ w.tree.Has (dataset location) := by
    by_contra hnot
    rw [not_or] at hnot
    exact hthere ⟨hnot.1, by simpa using hnot.2⟩
  rw [wp_bind]
  refine wp_mono (wp_findAncestor _ w) ?_ fun _ _ hf => hf
  rintro found w' ⟨rfl, hfound⟩
  rcases found with _ | parent
  · have hparents := hfound.1 rfl
    rw [wp_bind, wp_onTree, wp_datasetIsSr, wp_ite]
    refine ⟨fun hs => ⟨rfl, iff_of_false (by simp) fun h => h.2.2 (of_decide_eq_true hs)⟩,
      fun hs => ⟨rfl, iff_of_true rfl ⟨hhere, hparents, by simpa using hs⟩⟩⟩
  · refine ⟨rfl, iff_of_false (by simp) fun h => ?_⟩
    cases hfound.2 h.2.1

/-- **Probe returns and changes nothing**, whatever it is asked. -/
theorem probe_spec (configuration : Configuration) (w : World) :
    wp (probe site configuration)
      (fun entries w' => w' = w ∧ ∀ path, configuration.path = some path →
        w.tree.Has (dataset [(pathParts (site.strip path)).headD ""]) →
        pathParts (site.strip path) ≠ [""] →
        (ready entries = true ↔
          ((pathParts (site.strip path)).tail = [] ∨
              w.tree.Has (dataset (pathParts (site.strip path)))) ∧
            (∀ p ∈ datasetGetParents (pathParts (site.strip path)), ¬ ShowsSr w.tree p) ∧
            ¬ ShowsSr w.tree (pathParts (site.strip path))))
      (fun _ _ => False) w := by
  rw [probe]
  cases hpath : configuration.path with
  | none => exact ⟨rfl, nofun⟩
  | some path =>
      dsimp only
      rw [wp_ite]
      refine ⟨fun hempty => ⟨rfl, ?_⟩, fun _ => ?_⟩
      · rintro _ ⟨⟩ - hne
        exact absurd hempty hne
      rw [wp_bind, wp_onTree, wp_datasetExists, wp_ite]
      refine ⟨fun _ => ?_, fun hpool => ?_⟩
      · rw [wp_bind, wp_onTree]
        refine wp_mono (wp_existingSrs _ _ w.tree) ?_ fun _ _ hf => hf
        rintro srDatasets t rfl
        rw [wp_bind]
        refine wp_mono (wp_probeEntries _ configuration srDatasets w) ?_ fun _ _ hf => hf
        rintro entries w' rfl
        rw [wp_bind]
        refine wp_mono (wp_createError _ w') ?_ fun _ _ hf => hf
        rintro error w'' ⟨rfl, herror⟩
        refine ⟨rfl, ?_⟩
        rintro _ ⟨⟩ - -
        rw [← herror, ready, List.getLast?_concat]
        exact Option.isNone_iff_eq_none
      · rw [wp_ite]
        have hnot : ∀ {P : Prop}, w.tree.Has (dataset [(pathParts (site.strip path)).headD ""]) → P :=
          fun h => absurd (decide_eq_true h) hpool
        refine ⟨fun _ => ⟨rfl, ?_⟩, fun _ => ⟨rfl, ?_⟩⟩
        · rintro _ ⟨⟩ h
          exact hnot h
        · rintro _ ⟨⟩ h
          exact hnot h

/-! ### Where they agree -/

theorem mem_datasetGetParents_child {location p : List String} {name : String} :
    p ∈ datasetGetParents (location ++ [name]) ↔
      p ∈ datasetGetParents location ∨ 2 ≤ location.length ∧ p = location := by
  simp only [datasetGetParents, List.mem_map, List.mem_range'_1, List.length_append,
    List.length_singleton]
  constructor
  · rintro ⟨k, hk, rfl⟩
    rw [List.take_append_of_le_length (by omega)]
    rcases Nat.lt_or_ge k location.length with hlt | hge
    · exact .inl ⟨k, by omega, rfl⟩
    · exact .inr ⟨by omega, List.take_of_length_le hge⟩
  · rintro (⟨k, hk, rfl⟩ | ⟨hlen, rfl⟩)
    · exact ⟨k, by omega, List.take_append_of_le_length (by omega)⟩
    · exact ⟨p.length, by omega, by simp⟩

theorem exists_pathParts (path : String) : ∃ pool parent, pathParts path = pool :: parent := by
  refine List.exists_cons_of_ne_nil fun hnil => ?_
  rw [pathParts, List.map_eq_nil_iff] at hnil
  exact List.splitOn_ne_nil _ _ hnil

/-- **Probe and create agree exactly when the location is not the root of a pool that shows an SR
marker**, for a location that is there, in an imported pool, and a fresh uuid. -/
theorem agree_iff (site : ProbeSite) (hlist : ∀ t root, Listed t root (site.list t root))
    (srUuid : SrUuid) (configuration : Configuration) (path : String) (w : World)
    (hpath : configuration.path = some path) (hstrip : site.strip path = path)
    (hnamed : ¬ w.tree.Has (dataset [""])) (hpool : w.tree.Has (dataset [(pathParts path).headD ""]))
    (hparent : w.tree.Has (dataset (pathParts path))) (hfresh : Fresh srUuid w.tree) :
    Agree site srUuid configuration path w ↔
      ¬ ((pathParts path).tail = [] ∧ ShowsSr w.tree (pathParts path)) := by
  obtain ⟨entries, w', hprobe, rfl, hready⟩ := exists_ok_of_wp (probe_spec configuration w)
  have hprobed : probed site configuration w' = entries := by rw [probed, hprobe]
  have hne : pathParts path ≠ [""] := by
    intro hempty
    rw [hempty] at hparent
    exact hnamed hparent
  have hready := hready path hpath (by rwa [hstrip]) (by rwa [hstrip])
  rw [hstrip] at hready
  rw [Agree, hprobed, hready]
  obtain ⟨pool, parent, hparts⟩ := exists_pathParts path
  have hcreate : returns (newDataset site.toSite pool parent srUuid) w' = true ↔
      ∀ p ∈ datasetGetParents (pool :: (parent ++ [srUuid.text])), ¬ ShowsSr w'.tree p := by
    have hchecks : wp (newDataset site.toSite pool parent srUuid) _ _ w' :=
      wp_newDataset (hlist w'.tree [pool]) hfresh
    rcases hrun : newDataset site.toSite pool parent srUuid w' with ⟨ds, w''⟩ | ⟨e, w''⟩
    · rw [wp_of_ok hrun] at hchecks
      exact iff_of_true (by rw [returns, hrun]) hchecks.2
    · rw [wp_of_error hrun] at hchecks
      obtain ⟨-, p, hp, hs⟩ := hchecks
      exact iff_of_false (by simp [returns, hrun]) fun h => h p hp hs
  rw [hparts] at hparent ⊢
  have hchild : (∀ p ∈ datasetGetParents (pool :: (parent ++ [srUuid.text])), ¬ ShowsSr w'.tree p) ↔
      (∀ p ∈ datasetGetParents (pool :: parent), ¬ ShowsSr w'.tree p) ∧
        (parent ≠ [] → ¬ ShowsSr w'.tree (pool :: parent)) := by
    have hlen : 2 ≤ (pool :: parent).length ↔ parent ≠ [] := by
      cases parent with
      | nil => simp
      | cons c cs => simp
    rw [← List.cons_append]
    simp only [mem_datasetGetParents_child, or_imp, forall_and, hlen, and_imp]
    exact and_congr_right fun _ => ⟨fun h hne => h _ hne rfl, fun h p hne hp => hp ▸ h hne⟩
  rw [List.headD_cons, List.tail_cons, hcreate, hchild, or_iff_right_of_imp fun _ => hparent,
    and_iff_right hparent]
  by_cases hroot : parent = []
  · subst hroot
    have hnone : datasetGetParents [pool] = [] := rfl
    simp [hnone]
  · simp [hroot]

private def probeSite : ProbeSite where
  toSite := { lzcHost with importable := fun _ => false, configErrors := fun _ => [] }
  strip := id
  sizes _ := some (1, 1, 0)
  described _ := ("", "")

/-- The SR `tank/other`, and a filesystem beside it. -/
private def besideSr : World where
  tree :=
    { items := [(dataset ["tank"], ⟨.filesystem, none, true, false, none⟩),
        (dataset ["tank", "other"], ⟨.filesystem, none, true, false, some "sr"⟩),
        (dataset ["tank", "vms"], ⟨.filesystem, none, true, false, none⟩)]
      distinct := by simp [dataset] }
  srs := Dict.empty

/-- A pool that is an SR. -/
private def adoptedPool : World where
  tree := ⟨[(dataset ["tank"], ⟨.filesystem, none, true, false, some "sr"⟩)], by simp⟩
  srs := Dict.empty

private def atPath (path : String) : Configuration := ⟨some path, false, none, []⟩

private def newSr : SrUuid := ⟨"u", by decide⟩

private theorem fresh_of_items {t : Tree} (h : ∀ e ∈ t.items, "u" ∉ e.1.path) : Fresh newSr t := by
  intro n hn
  obtain ⟨node, hnode⟩ := Tree.has_iff.1 hn
  exact h (n, node) (Dict.get?_eq_some_iff.1 hnode)

/-- A location beside an SR, in a pool that is no SR itself: both say that an SR can be made there. -/
theorem agree_iff_sibling :
    (Agree probeSite newSr (atPath "tank/vms") "tank/vms" besideSr ↔
      ¬ ((pathParts "tank/vms").tail = [] ∧ ShowsSr besideSr.tree (pathParts "tank/vms"))) ∧
    Wp.returns (newDataset probeSite.toSite "tank" ["vms"] newSr) besideSr = true :=
  ⟨agree_iff probeSite listed_listByName newSr (atPath "tank/vms") "tank/vms" besideSr rfl rfl
    (by decide +kernel) (by decide +kernel) (by decide +kernel)
    (fresh_of_items (by simp [besideSr, dataset])),
    by decide +kernel⟩

/-- **Probe refuses an adopted pool, and create does not.** -/
theorem not_agree_adopted_root : ¬ ∀ (site : ProbeSite) (srUuid : SrUuid)
    (configuration : Configuration) (path : String) (w : World),
    (∀ t root, Listed t root (site.list t root)) → configuration.path = some path →
    site.strip path = path → ¬ w.tree.Has (dataset [""]) →
    w.tree.Has (dataset [(pathParts path).headD ""]) → w.tree.Has (dataset (pathParts path)) →
    Fresh srUuid w.tree → Agree site srUuid configuration path w := by
  intro hall
  have hagree := hall probeSite newSr (atPath "tank") "tank" adoptedPool listed_listByName
    rfl rfl (by decide +kernel) (by decide +kernel) (by decide +kernel)
    (fresh_of_items (by simp [adoptedPool, dataset]))
  have hcreate : returns (newDataset probeSite.toSite ((pathParts "tank").headD "")
      (pathParts "tank").tail newSr) adoptedPool = true := by decide +kernel
  have hready := hagree.2 hcreate
  revert hready
  decide +kernel

end ZfsLive.Sr

/-
**What `SR.ls` destroys** (`src/volume/sr.py`, `src/volume/zfs_operations.py`).

A zvol or a snapshot on disk that the metabase does not know is an orphan.  `SR.ls` looks for orphans
under the dataset of the SR, first among the zvols and then among the snapshots, passes over what is
known, open or served, and, when the SR is configured so, destroys those that are old enough.  The zvols
are listed one level deep.  The snapshots are listed two levels deep, whatever they are snapshots of.

Main definitions:

* `Orphans.zvolFindOrphans`, `Orphans.zsnapFindOrphans`, `Orphans.ls`;
* `Orphans.Scoped`, `Orphans.KeepsScope` — what an object that is destroyed must be;
* `Orphans.Confined` — nothing else gets past the checks.

Main results:

* `Orphans.mem_asked_ls` — **what is passed to `destroy_zvol`**, told in terms of the first tree;
* `Orphans.scoped_iff` — everything destroyed is in scope exactly when the scan is confined;
* `Orphans.not_scoped_own_snapshot` — an operator's snapshot of the SR's own filesystem.
-/

import ZfsLive.DatasetsFrame
import ZfsLive.Properties

set_option relaxedAutoImplicit false
set_option autoImplicit false

namespace ZfsLive.Orphans

open Datasets Wp

/-! ### The scan -/

/-- What the scan reads of the host besides the datasets. -/
structure Site extends Host where
  /-- `fuser` can be run. -/
  fuser : Bool
  /-- The pid in the metadata of a device's datapath, when there is one that can be read. -/
  recorded : List String → Option ℕ
  alive : ℕ → Bool
  /-- `zfs get -Hp`, when it can be read. -/
  property : Name → String → Option String
  /-- `int(text)`, where it raises no `ValueError`. -/
  int : String → Option ℤ
  /-- The clock when the zvols, and when the snapshots, are cleaned up. -/
  zvolsAt : ℤ
  snapshotsAt : ℤ

/-- An orphan, with its size and its creation stamp as they are printed. -/
structure Orphan where
  name : Name
  size : String
  creation : String

section

variable (site : Site)

/-- A process has the device of the zvol open. -/
def Open (t : Tree) (path : List String) : Prop :=
  ∃ node ∈ t.get? (dataset path), node.kind = .volume ∧ node.busy = true

instance (t : Tree) (path : List String) : Decidable (Open t path) :=
  inferInstanceAs (Decidable (∃ _ ∈ _, _))

/-- `_zvol_device_is_open`: without `fuser`, nothing is taken to be open. -/
def zvolDeviceIsOpen (t : Tree) (path : List String) : Bool := site.fuser && decide (Open t path)

/-- `_zvol_has_active_datapath`. -/
def zvolHasActiveDatapath (path : List String) : Bool :=
  match site.recorded path with
  | none => false
  | some pid => pid ≠ 0 && site.alive pid

/-- The loops of `zvol_find_orphans` and `zsnap_find_orphans`: `uuid` is the part of the name that the
metabase would know, and `size` is the property that is reported. -/
def findOrphans (uuid : Name → Option String) (size : String) (t : Tree) (known : List String) :
    List Name → List Orphan
  | [] => []
  | n :: names =>
      let orphans := findOrphans uuid size t known names
      match uuid n with
      | none => orphans
      | some u =>
          if u ∈ known then orphans
          else if zvolDeviceIsOpen site t n.path then orphans
          else if zvolHasActiveDatapath site n.path then orphans
          else
            ⟨n, (site.property n size).getD "?", (site.property n "creation").getD "?"⟩ :: orphans

/-- `zvol_find_orphans`: a zvol is known by the last component of its name. -/
def zvolFindOrphans (t : Tree) (srDataset : List String) (known : List String) : List Orphan :=
  findOrphans site (fun n => n.path.getLast?) "volsize" t known (datasetListZvols site.toHost t srDataset)

/-- `zsnap_find_orphans`: a snapshot is known by what follows the `@`. -/
def zsnapFindOrphans (t : Tree) (srDataset : List String) (known : List String) : List Orphan :=
  findOrphans site Name.snap "used" t known (datasetListSnapshots site.toHost t srDataset)

/-- The datasets, and the objects that were passed to `destroy_zvol`. -/
structure Scan where
  tree : Tree
  asked : List Name

abbrev ScanM := EStateM Fault Scan

/-- An operation on the datasets. -/
def onTree {α : Type} (m : M α) : ScanM α := fun s =>
  match m s.tree with
  | .ok a t => .ok a { s with tree := t }
  | .error e t => .error e { s with tree := t }

/-- What `destroy_zvol` runs. -/
def destroyNode (n : Name) : M Unit := do
  if site.available then
    let rc ← destroyWithRetry site.toHost n 10
    if rc = 0 then pure ()
    else
      throw (.internalError ("lzc_destroy(" ++ n.text ++ ") failed: errno " ++ toString rc ++
        " (" ++ site.errnoToStr rc ++ ")"))
  else zfsDestroy site.toHost n

/-- `destroy_zvol`. -/
def destroyZvol (n : Name) : ScanM Unit := do
  modify fun s => { s with asked := s.asked ++ [n] }
  onTree (destroyNode site n)

/-- The orphan is past its grace period; a stamp that does not parse never is. -/
def oldEnough (now grace : ℤ) (creation : String) : Bool :=
  if grace > 0 then
    match site.int creation with
    | none => false
    | some creation_ts => ¬ now - creation_ts < grace
  else
    true

/-- The loop of `zvol_destroy_orphans` and `zsnap_destroy_orphans`. -/
def destroyOrphans (now grace : ℤ) : List Orphan → ScanM Unit
  | [] => pure ()
  | orphan :: orphans => do
      if oldEnough site now grace orphan.creation then
        tryCatch (destroyZvol site orphan.name) fun _ => pure ()
      destroyOrphans now grace orphans

def zvolDestroyOrphans (grace : ℤ) (orphans : List Orphan) : ScanM Unit :=
  destroyOrphans site site.zvolsAt grace orphans

def zsnapDestroyOrphans (grace : ℤ) (orphans : List Orphan) : ScanM Unit :=
  destroyOrphans site site.snapshotsAt grace orphans

/-- `orphan_grace_period_seconds`, an hour by default. -/
def graceOf (settings : Properties.SrSettings) : ℤ :=
  settings.orphan_grace_period_seconds.getD 3600

/-- `SR.ls`, after it has read the VDIs of the metabase. -/
def ls (srDataset : List String) (known : List String) (settings : Properties.SrSettings) :
    ScanM Unit := do
  let orphans := zvolFindOrphans site (← get).tree srDataset known
  if settings.auto_cleanup_orphans = some "true" then
    tryCatch (zvolDestroyOrphans site (graceOf settings) orphans) fun _ => pure ()
  let snapOrphans := zsnapFindOrphans site (← get).tree srDataset known
  if settings.auto_cleanup_orphans = some "true" then
    tryCatch (zsnapDestroyOrphans site (graceOf settings) snapOrphans) fun _ => pure ()

/-! ### Orphans, and what a sweep may touch -/

/-- A datapath process that serves the device is recorded and alive. -/
def LiveDatapath (path : List String) : Prop :=
  ∃ pid, site.recorded path = some pid ∧ pid ≠ 0 ∧ site.alive pid = true

/-- The dataset is a zvol right under the SR's. -/
def ChildZvol (t : Tree) (srDataset path : List String) : Prop :=
  (∃ c, path = srDataset ++ [c]) ∧ ∃ node, t.get? (dataset path) = some node ∧ node.kind = .volume

/-- The creation stamp parses, and is at least the grace period old. -/
def Aged (now grace : ℤ) (n : Name) : Prop :=
  0 < grace → ∃ ts, site.int ((site.property n "creation").getD "?") = some ts ∧ grace ≤ now - ts

/-- The object is a zvol right under the SR's dataset or a snapshot of one, not known by its name, not
open, not served, and past its grace period. -/
structure Scoped (t : Tree) (srDataset : List String) (known : List String)
    (settings : Properties.SrSettings) (n : Name) : Prop where
  child : ChildZvol t srDataset n.path
  unknown : ∀ u, (n.snap.or n.path.getLast?) = some u → u ∉ known
  closed : ¬ Open t n.path
  idle : ¬ LiveDatapath site n.path
  aged : Aged site (if n.snap.isSome then site.snapshotsAt else site.zvolsAt) (graceOf settings) n

/-- What `SR.ls` passes to `destroy_zvol`. -/
def asked (t : Tree) (srDataset : List String) (known : List String)
    (settings : Properties.SrSettings) : List Name :=
  (after (ls site srDataset known settings) ⟨t, []⟩).asked

/-- Everything that `SR.ls` destroys is in scope. -/
def KeepsScope (t : Tree) (srDataset : List String) (known : List String)
    (settings : Properties.SrSettings) : Prop :=
  ∀ n ∈ asked site t srDataset known settings, Scoped site t srDataset known settings n

/-- The object gets past the checks that the scans make. -/
structure Passed (t : Tree) (known : List String) (settings : Properties.SrSettings) (n : Name) :
    Prop where
  unknown : ∀ u, (n.snap.or n.path.getLast?) = some u → u ∉ known
  unseen : site.fuser = true → ¬ Open t n.path
  idle : ¬ LiveDatapath site n.path
  aged : Aged site (if n.snap.isSome then site.snapshotsAt else site.zvolsAt) (graceOf settings) n

/-- When orphans are destroyed, no snapshot of the SR's own dataset, or of a dataset right under it
that is not a zvol, gets past the checks; and without `fuser` nothing that does is open. -/
def Confined (t : Tree) (srDataset : List String) (known : List String)
    (settings : Properties.SrSettings) : Prop :=
  settings.auto_cleanup_orphans = some "true" →
    (∀ n, t.Has n → n.snap.isSome → (n.path = srDataset ∨ ∃ c, n.path = srDataset ++ [c]) →
      ¬ ChildZvol t srDataset n.path → ¬ Passed site t known settings n) ∧
    (site.fuser = false → ∀ n, t.Has n → ChildZvol t srDataset n.path →
      Passed site t known settings n → ¬ Open t n.path)

end

/-- Snapshots are the nodes with a snapshot part in their names. -/
def Consistent (t : Tree) : Prop :=
  ∀ n node, t.get? n = some node → (node.kind = .snapshot ↔ n.snap.isSome)

variable {site : Site} {t t' : Tree} {srDataset known : List String}
  {settings : Properties.SrSettings} {n m : Name}

/-! ### The listings -/

theorem mem_zfsList {levels : ℕ} {kind : Kind} (hX : t.Has (dataset srDataset))
    (hlist : Listed t srDataset (site.list t srDataset)) :
    n ∈ zfsList site.toHost t srDataset levels kind ↔
      n.Under srDataset ∧ depth srDataset n ≤ levels ∧
        ∃ node, t.get? n = some node ∧ node.kind = kind := by
  rw [zfsList, if_pos hX, List.mem_map]
  constructor
  · rintro ⟨⟨m, kind'⟩, hmem, rfl⟩
    obtain ⟨hlisted, hkeep⟩ := List.mem_filter.1 hmem
    obtain ⟨rfl, hdepth⟩ := of_decide_eq_true hkeep
    obtain ⟨hunder, hnode⟩ := (hlist.mem m _).1 hlisted
    exact ⟨hunder, hdepth, hnode⟩
  · rintro ⟨hunder, hdepth, hnode⟩
    refine ⟨(n, kind), List.mem_filter.2 ⟨(hlist.mem n kind).2 ⟨hunder, hnode⟩, ?_⟩, rfl⟩
    exact decide_eq_true ⟨rfl, hdepth⟩

/-- A path under another one, by at most one component. -/
theorem prefix_length_le_iff {p q : List String} :
    p <+: q ∧ q.length - p.length ≤ 1 ↔ q = p ∨ ∃ c, q = p ++ [c] := by
  constructor
  · rintro ⟨⟨r, rfl⟩, hlen⟩
    rcases r with _ | ⟨c, _ | ⟨d, r⟩⟩
    · exact .inl (List.append_nil p)
    · exact .inr ⟨c, rfl⟩
    · simp at hlen
  · rintro (rfl | ⟨c, rfl⟩)
    · exact ⟨List.prefix_refl _, by simp⟩
    · exact ⟨List.prefix_append _ _, by simp⟩

/-- **The zvols that are listed are the ones right under the SR's dataset.** -/
theorem mem_datasetListZvols (hcons : Consistent t)
    (hX : ∃ node, t.get? (dataset srDataset) = some node ∧ node.kind = .filesystem)
    (hlist : Listed t srDataset (site.list t srDataset)) :
    n ∈ datasetListZvols site.toHost t srDataset ↔ n.snap = none ∧ ChildZvol t srDataset n.path := by
  obtain ⟨root, hroot, hkind⟩ := hX
  rw [datasetListZvols, mem_zfsList (Tree.has_iff.2 ⟨root, hroot⟩) hlist]
  constructor
  · rintro ⟨hunder, hdepth, node, hnode, hvol⟩
    have hsnap : n.snap = none := by
      have := (hcons n node hnode).not.1 (by simp [hvol])
      simpa using this
    have hn : n = dataset n.path := by
      cases n
      cases hsnap
      rfl
    rw [depth, hsnap] at hdepth
    refine ⟨hsnap, ?_, node, by rwa [← hn], hvol⟩
    rcases prefix_length_le_iff.1 ⟨hunder, by simpa using hdepth⟩ with heq | hchild
    · rw [hn, heq, hroot] at hnode
      cases hnode
      rw [hkind] at hvol
      cases hvol
    · exact hchild
  · rintro ⟨hsnap, hchild, node, hnode, hvol⟩
    have hn : n = dataset n.path := by
      cases n
      cases hsnap
      rfl
    obtain ⟨hunder, hlen⟩ := prefix_length_le_iff.2 (.inr hchild)
    exact ⟨hunder, by simpa [depth, hsnap] using hlen, node, by rwa [hn], hvol⟩

/-- **The snapshots that are listed are those of the SR's dataset and of every dataset right under
it.** -/
theorem mem_datasetListSnapshots (hcons : Consistent t) (hX : t.Has (dataset srDataset))
    (hlist : Listed t srDataset (site.list t srDataset)) :
    n ∈ datasetListSnapshots site.toHost t srDataset ↔
      t.Has n ∧ n.snap.isSome ∧ (n.path = srDataset ∨ ∃ c, n.path = srDataset ++ [c]) := by
  rw [datasetListSnapshots, mem_zfsList hX hlist, ← prefix_length_le_iff]
  constructor
  · rintro ⟨hunder, hdepth, node, hnode, hkind⟩
    have hsnap := (hcons n node hnode).1 hkind
    rw [depth, if_pos hsnap] at hdepth
    exact ⟨Tree.has_iff.2 ⟨node, hnode⟩, hsnap, hunder, by omega⟩
  · rintro ⟨hhas, hsnap, hunder, hlen⟩
    obtain ⟨node, hnode⟩ := Tree.has_iff.1 hhas
    refine ⟨hunder, ?_, node, hnode, (hcons n node hnode).2 hsnap⟩
    rw [depth, if_pos hsnap]
    omega

/-! ### The checks -/

theorem zvolHasActiveDatapath_iff (path : List String) :
    zvolHasActiveDatapath site path = true ↔ LiveDatapath site path := by
  rw [zvolHasActiveDatapath, LiveDatapath]
  cases site.recorded path with
  | none => simp
  | some pid => simp

theorem oldEnough_iff {now grace : ℤ} :
    oldEnough site now grace ((site.property n "creation").getD "?") = true ↔
      Aged site now grace n := by
  rw [oldEnough, Aged]
  by_cases hgrace : 0 < grace
  · rw [if_pos hgrace]
    cases site.int ((site.property n "creation").getD "?") with
    | none => simp [hgrace]
    | some ts => simp [hgrace]
  · rw [if_neg hgrace]
    exact iff_of_true rfl fun h => absurd h hgrace

/-- The names of the orphans that are past the grace period. -/
def expired (site : Site) (now grace : ℤ) (orphans : List Orphan) : List Name :=
  (orphans.filter fun o => oldEnough site now grace o.creation).map Orphan.name

theorem expired_cons (now grace : ℤ) (o : Orphan) (orphans : List Orphan) :
    expired site now grace (o :: orphans) =
      if oldEnough site now grace o.creation then o.name :: expired site now grace orphans
      else expired site now grace orphans := by
  rw [expired, List.filter_cons]
  split <;> rfl

/-- What the loops of the scans make of one name, whose unknown part is `u`. -/
structure Past (site : Site) (t : Tree) (known : List String) (now grace : ℤ) (u : Option String)
    (n : Name) : Prop where
  unknown : ∃ v, u = some v ∧ v ∉ known
  unseen : site.fuser = true → ¬ Open t n.path
  idle : ¬ LiveDatapath site n.path
  aged : Aged site now grace n

theorem name_mem_of_mem_findOrphans {uuid : Name → Option String} {size : String}
    {names : List Name} {o : Orphan} (ho : o ∈ findOrphans site uuid size t known names) :
    o.name ∈ names := by
  induction names with
  | nil => cases ho
  | cons m names ih =>
      rw [findOrphans] at ho
      have hrest : o ∈ findOrphans site uuid size t known names → o.name ∈ m :: names :=
        fun h => List.mem_cons_of_mem m (ih h)
      split at ho
      · exact hrest ho
      split at ho
      · exact hrest ho
      split at ho
      · exact hrest ho
      split at ho
      · exact hrest ho
      rcases List.mem_cons.1 ho with rfl | ho
      · exact List.mem_cons_self
      · exact hrest ho

/-- **The orphans that are past the grace period**, by their names. -/
theorem mem_expired {uuid : Name → Option String} {size : String} {now grace : ℤ}
    {names : List Name} :
    n ∈ expired site now grace (findOrphans site uuid size t known names) ↔
      n ∈ names ∧ Past site t known now grace (uuid n) n := by
  induction names with
  | nil => simp [findOrphans, expired]
  | cons m names ih =>
      have hskip : ¬ Past site t known now grace (uuid m) m →
          (n ∈ names ∧ Past site t known now grace (uuid n) n ↔
            n ∈ m :: names ∧ Past site t known now grace (uuid n) n) := by
        intro hm
        rw [List.mem_cons]
        constructor
        · exact fun ⟨hn, hp⟩ => ⟨.inr hn, hp⟩
        · rintro ⟨rfl | hn, hp⟩
          · exact absurd hp hm
          · exact ⟨hn, hp⟩
      rw [findOrphans]
      cases hu : uuid m with
      | none =>
          rw [ih]
          refine hskip ?_
          rintro ⟨⟨v, hv, -⟩, -⟩
          rw [hu] at hv
          cases hv
      | some u =>
          rw [hu] at hskip
          dsimp only
          split
          · next hknown =>
              rw [ih]
              refine hskip ?_
              rintro ⟨⟨v, hv, hnew⟩, -⟩
              exact hnew (Option.some.inj hv ▸ hknown)
          split
          · next hopen =>
              rw [ih]
              simp only [zvolDeviceIsOpen, Bool.and_eq_true, decide_eq_true_eq] at hopen
              exact hskip fun hp => hp.unseen hopen.1 hopen.2
          split
          · next hactive =>
              rw [ih]
              exact hskip fun hp => hp.idle ((zvolHasActiveDatapath_iff _).1 hactive)
          next hknown hopen hactive =>
            simp only [zvolDeviceIsOpen, Bool.and_eq_true, decide_eq_true_eq, not_and] at hopen
            rw [zvolHasActiveDatapath_iff] at hactive
            rw [expired_cons]
            split
            · next hold =>
                rw [List.mem_cons, List.mem_cons, ih, or_and_right]
                refine or_congr_left ⟨?_, And.left⟩
                rintro rfl
                exact ⟨rfl, ⟨u, hu, hknown⟩, hopen, hactive, oldEnough_iff.1 hold⟩
            · next hyoung =>
                rw [ih]
                exact hskip fun hp => hyoung (oldEnough_iff.2 hp.aged)

/-! ### The clean-up -/

/-- Of the nodes that may go, some are gone, with everything inside them; the rest is as it was. -/
def Removes (may : Name → Prop) (t t' : Tree) : Prop :=
  ∀ n, t'.get? n = t.get? n ∨ may n ∧ t'.get? n = none ∧ ∀ m, m.Inside n → ¬ t'.Has m

variable {may : Name → Prop}

theorem Removes.has (hr : Removes may t t') (hn : t'.Has n) : t'.get? n = t.get? n := by
  rcases hr n with heq | ⟨-, hnone, -⟩
  · exact heq
  · rw [Tree.Has, hnone] at hn
    cases hn

instance : Std.Refl (Removes may) := ⟨fun _ _ => .inl rfl⟩

instance : IsTrans Tree (Removes may) where
  trans t₁ t₂ t₃ h₁ h₂ n := by
    rcases h₂ n with heq | hgone
    · rcases h₁ n with heq' | ⟨hmay, hnone, hinside⟩
      · exact .inl (heq.trans heq')
      · refine .inr ⟨hmay, heq.trans hnone, fun m hm hhas => hinside m hm ?_⟩
        rw [Tree.Has, ← h₂.has hhas]
        exact hhas
    · exact .inr hgone

theorem preserves_lzcDestroy (hm : may m) :
    Preserves (Removes may) (lzcDestroy site.toHost m) := by
  have hsame : ∀ t : Tree, Removes may t t := Std.Refl.refl
  refine Preserves.get_bind fun t => ?_
  cases hnode : t.get? m with
  | none => exact hsame t
  | some node =>
      by_cases hbusy : node.Mounted ∨ node.busy
      · simp only [if_pos hbusy]
        exact hsame t
      · by_cases hheld : t.Held m
        · simp only [if_neg hbusy, if_pos hheld]
          exact hsame t
        · simp only [if_neg hbusy, if_neg hheld]
          change Removes may t (t.erase m)
          intro n
          rw [Dict.get?_erase]
          by_cases hn : n = m
          · subst hn
            refine .inr ⟨hm, if_pos rfl, fun x hx hhas => hheld ?_⟩
            refine Tree.held_iff.2 ⟨x, ?_, hx.2.2, .inl hx⟩
            rwa [Tree.Has, Dict.get?_erase, if_neg hx.2.2] at hhas
          · exact .inl (if_neg hn)

theorem preserves_destroyNode (hm : may m) :
    Preserves (Removes may) (destroyNode site m) := by
  have hone : Preserves (Removes may) (lzcDestroy site.toHost m) := preserves_lzcDestroy hm
  refine .ite (fun _ => ?_) fun _ => ?_
  · exact (preserves_destroyWithRetry hone 10).bind fun rc =>
      .ite (fun _ => .pure ()) fun _ => .throw _
  · exact hone.bind fun rc => .ite (fun _ => .pure ()) fun _ => .throw _

theorem wp_onTree {α : Type} (m : M α) (Q : α → Scan → Prop) (X : Fault → Scan → Prop) (s : Scan) :
    wp (onTree m) Q X s ↔
      wp m (fun a t => Q a { s with tree := t }) (fun e t => X e { s with tree := t }) s.tree := by
  rw [wp, wp, onTree]
  rcases m s.tree with ⟨a, t⟩ | ⟨e, t⟩ <;> rfl

/-- **The clean-up**: it does not raise, and asks for every orphan that is past the grace period. -/
theorem wp_destroyOrphans {now grace : ℤ} {orphans : List Orphan}
    (hmay : ∀ o ∈ orphans, may o.name) (s : Scan) :
    wp (destroyOrphans site now grace orphans)
      (fun _ s' => s'.asked = s.asked ++ expired site now grace orphans ∧
        Removes may s.tree s'.tree)
      (fun _ _ => False) s := by
  induction orphans generalizing s with
  | nil => exact ⟨by simp [expired], Std.Refl.refl s.tree⟩
  | cons o orphans ih =>
      rw [List.forall_mem_cons] at hmay
      rw [destroyOrphans, expired_cons]
      by_cases hold : oldEnough site now grace o.creation = true
      · rw [if_pos hold, if_pos hold]
        have hrest : ∀ t, Removes may s.tree t → wp (destroyOrphans site now grace orphans)
            (fun _ s' => s'.asked = s.asked ++ o.name :: expired site now grace orphans ∧
              Removes may s.tree s'.tree)
            (fun _ _ => False) ⟨t, s.asked ++ [o.name]⟩ := by
          intro t ht
          refine wp_mono (ih hmay.2 _) ?_ fun _ _ hf => hf
          rintro _ s' ⟨hasked, hrem⟩
          exact ⟨by simpa using hasked, trans_of (Removes may) ht hrem⟩
        simp only [destroyZvol, wp_bind, wp_tryCatch, wp_modify, wp_onTree, wp_pure]
        exact wp_mono ((preserves_destroyNode hmay.1).wp _) (fun _ => hrest) fun _ => hrest
      · rw [if_neg hold, if_neg hold]
        exact ih hmay.2 s

/-- **What `SR.ls` asks for**: the zvols found in the first tree, and the snapshots found in what is
left when those are gone. -/
theorem wp_ls (hclean : settings.auto_cleanup_orphans = some "true")
    (hmay : ∀ o ∈ zvolFindOrphans site t srDataset known, may o.name) :
    wp (ls site srDataset known settings)
      (fun _ s => ∃ t', Removes may t t' ∧ s.asked =
        expired site site.zvolsAt (graceOf settings) (zvolFindOrphans site t srDataset known) ++
          expired site site.snapshotsAt (graceOf settings) (zsnapFindOrphans site t' srDataset known))
      (fun _ _ => False) ⟨t, []⟩ := by
  simp only [ls, if_pos hclean, wp_bind, wp_get, wp_tryCatch, wp_pure, zvolDestroyOrphans,
    zsnapDestroyOrphans]
  refine wp_mono (wp_destroyOrphans hmay ⟨t, []⟩) ?_ fun _ _ hf => hf.elim
  rintro _ s ⟨hasked, hrem⟩
  refine wp_mono (@wp_destroyOrphans site (fun _ => True) _ _ _ (fun _ _ => trivial) s) ?_
    fun _ _ hf => hf.elim
  rintro _ s' ⟨hasked', -⟩
  exact ⟨s.tree, hrem, by rw [hasked', hasked, List.nil_append]⟩

/-- Nothing is destroyed unless the SR is configured so. -/
theorem asked_of_disabled (hclean : settings.auto_cleanup_orphans ≠ some "true") :
    asked site t srDataset known settings = [] := by
  simp only [asked, ls, if_neg hclean]
  rfl

/-- The first tree tells whether a snapshot is there after the zvols have been destroyed, and whether
its zvol is open. -/
theorem snapshot_of_removes (hr : Removes may t t') (hmay : ∀ m, may m → m.snap = none)
    (hsnap : n.snap.isSome) : (t'.Has n ↔ t.Has n) ∧ (t'.Has n → (Open t' n.path ↔ Open t n.path)) := by
  have hsame : t'.get? n = t.get? n := by
    rcases hr n with heq | ⟨hm, -⟩
    · exact heq
    · rw [hmay n hm] at hsnap
      cases hsnap
  refine ⟨by rw [Tree.Has, Tree.Has, hsame], fun hhas => ?_⟩
  rcases hr (dataset n.path) with heq | ⟨-, -, hgone⟩
  · rw [Open, Open, heq]
  · refine absurd hhas (hgone n ⟨rfl, List.prefix_refl _, ?_⟩)
    rintro heq
    rw [heq] at hsnap
    cases hsnap

theorem Consistent.of_removes (hcons : Consistent t) (hr : Removes may t t') : Consistent t' := by
  intro n node hnode
  rw [hr.has (Tree.has_iff.2 ⟨node, hnode⟩)] at hnode
  exact hcons n node hnode

/-- **What is passed to `destroy_zvol`**, told in terms of the first tree: destroying zvols takes no
snapshot away, and none of the zvols that have one. -/
theorem mem_asked_ls (hcons : Consistent t)
    (hX : ∃ node, t.get? (dataset srDataset) = some node ∧ node.kind = .filesystem)
    (hlist : ∀ t, Listed t srDataset (site.list t srDataset))
    (hclean : settings.auto_cleanup_orphans = some "true") :
    n ∈ asked site t srDataset known settings ↔ Passed site t known settings n ∧
      (n.snap = none ∧ ChildZvol t srDataset n.path ∨
        t.Has n ∧ n.snap.isSome ∧ (n.path = srDataset ∨ ∃ c, n.path = srDataset ++ [c])) := by
  have hmay : ∀ o ∈ zvolFindOrphans site t srDataset known,
      o.name.snap = none ∧ ChildZvol t srDataset o.name.path := fun o ho =>
    (mem_datasetListZvols hcons hX (hlist t)).1 (name_mem_of_mem_findOrphans ho)
  obtain ⟨_, s, hok, t', hrem, hasked⟩ := exists_ok_of_wp
    (@wp_ls site t srDataset known settings (fun n => n.snap = none ∧ ChildZvol t srDataset n.path)
      hclean hmay)
  have hX' : t'.Has (dataset srDataset) := by
    obtain ⟨root, hroot, -⟩ := hX
    rcases hrem (dataset srDataset) with heq | ⟨⟨-, ⟨c, hc⟩, -⟩, -⟩
    · exact Tree.has_iff.2 ⟨root, heq.trans hroot⟩
    · exact absurd hc (by simp [dataset])
  rw [asked, after_of_ok hok, hasked, List.mem_append, zvolFindOrphans, zsnapFindOrphans, mem_expired,
    mem_expired, mem_datasetListZvols hcons hX (hlist t),
    mem_datasetListSnapshots (hcons.of_removes hrem) hX' (hlist t')]
  refine Iff.trans (or_congr ?_ ?_) and_or_left.symm
  · constructor
    · rintro ⟨⟨hsnap, hchild⟩, ⟨v, hv, hnew⟩, hunseen, hidle, haged⟩
      refine ⟨⟨fun u hu => ?_, hunseen, hidle, by rwa [if_neg (by simp [hsnap])]⟩, hsnap, hchild⟩
      rw [hsnap, Option.none_or, hv] at hu
      exact Option.some.inj hu ▸ hnew
    · rintro ⟨⟨hnew, hunseen, hidle, haged⟩, hsnap, hchild⟩
      obtain ⟨c, hc⟩ := hchild.1
      rw [if_neg (by simp [hsnap])] at haged
      have hlast : n.path.getLast? = some c := by simp [hc]
      exact ⟨⟨hsnap, hchild⟩, ⟨c, hlast, hnew c (by rw [hsnap, Option.none_or, hlast])⟩, hunseen, hidle,
        haged⟩
  · constructor
    · rintro ⟨⟨hhas, hsnap, hpath⟩, ⟨v, hv, hnew⟩, hunseen, hidle, haged⟩
      obtain ⟨hhas', hopen⟩ := snapshot_of_removes hrem (fun m hm => hm.1) hsnap
      refine ⟨⟨fun u hu => ?_, fun hf => by rw [← hopen hhas]; exact hunseen hf, hidle,
        by rwa [if_pos hsnap]⟩, hhas'.1 hhas, hsnap, hpath⟩
      rw [hv, Option.some_or] at hu
      exact Option.some.inj hu ▸ hnew
    · rintro ⟨⟨hnew, hunseen, hidle, haged⟩, hhas, hsnap, hpath⟩
      obtain ⟨hhas', hopen⟩ := snapshot_of_removes hrem (fun m hm => hm.1) hsnap
      rw [if_pos hsnap] at haged
      obtain ⟨v, hv⟩ := Option.isSome_iff_exists.1 hsnap
      exact ⟨⟨hhas'.2 hhas, hsnap, hpath⟩, ⟨v, hv, hnew v (by rw [hv, Option.some_or])⟩,
        fun hf => by rw [hopen (hhas'.2 hhas)]; exact hunseen hf, hidle, haged⟩

/-- **What `SR.ls` destroys is in scope exactly when nothing else gets past the checks.** -/
theorem scoped_iff (hcons : Consistent t)
    (hX : ∃ node, t.get? (dataset srDataset) = some node ∧ node.kind = .filesystem)
    (hlist : ∀ t, Listed t srDataset (site.list t srDataset)) :
    KeepsScope site t srDataset known settings ↔ Confined site t srDataset known settings := by
  rw [KeepsScope]
  by_cases hclean : settings.auto_cleanup_orphans = some "true"
  · simp only [mem_asked_ls hcons hX hlist hclean]
    constructor
    · intro hscoped _
      refine ⟨fun n hhas hsnap hpath hnot hpassed => ?_, fun _ n hhas hchild hpassed => ?_⟩
      · exact hnot (hscoped n ⟨hpassed, .inr ⟨hhas, hsnap, hpath⟩⟩).child
      · refine (hscoped n ⟨hpassed, ?_⟩).closed
        cases hsnap : n.snap with
        | none => exact .inl ⟨rfl, hchild⟩
        | some u => exact .inr ⟨hhas, rfl, .inr hchild.1⟩
    · rintro hconf n ⟨hpassed, hwhere⟩
      obtain ⟨hforeign, hblind⟩ := hconf hclean
      have hchild : t.Has n ∧ ChildZvol t srDataset n.path := by
        rcases hwhere with ⟨hsnap, hchild⟩ | ⟨hhas, hsnap, hpath⟩
        · refine ⟨?_, hchild⟩
          obtain ⟨-, node, hnode, -⟩ := hchild
          have hn : n = dataset n.path := by
            cases n
            cases hsnap
            rfl
          rw [hn]
          exact Tree.has_iff.2 ⟨node, hnode⟩
        · exact ⟨hhas, not_not.1 fun hnot => hforeign n hhas hsnap hpath hnot hpassed⟩
      refine ⟨hchild.2, hpassed.unknown, ?_, hpassed.idle, hpassed.aged⟩
      cases hf : site.fuser with
      | true => exact hpassed.unseen hf
      | false => exact hblind hf n hchild.1 hchild.2 hpassed
  · rw [asked_of_disabled hclean]
    exact iff_of_true (by simp) fun h => absurd h hclean

/-! ### Snapshots of the SR's own filesystem -/

/-- A host whose clock shows 10000, and whose stamps are read as `100` or as nothing. -/
private def quietSite : Site where
  toHost := lzcHost
  fuser := true
  recorded _ := none
  alive _ := false
  property _ prop := if prop = "creation" then some "100" else none
  int text := if text = "100" then some 100 else none
  zvolsAt := 10000
  snapshotsAt := 10000

/-- An SR with an orphaned zvol and a snapshot that the operator has made of the SR's dataset. -/
private def backedUp : Tree where
  items := [(dataset ["p", "sr"], ⟨.filesystem, none, true, false, some "sr"⟩),
    (dataset ["p", "sr", "v"], ⟨.volume, none, false, false, none⟩),
    (⟨["p", "sr"], some "backup"⟩, ⟨.snapshot, none, false, false, none⟩)]
  distinct := by simp [dataset]

private def cleaned : Properties.SrSettings := ⟨some "true", none⟩

/-- **The operator's snapshot of the SR's dataset is destroyed** by an `SR.ls` that cleans up orphans,
an hour after it was made. -/
theorem not_scoped_own_snapshot :
    ⟨["p", "sr"], some "backup"⟩ ∈ asked quietSite backedUp ["p", "sr"] [] cleaned ∧
      ¬ KeepsScope quietSite backedUp ["p", "sr"] [] cleaned := by
  have hasked : ⟨["p", "sr"], some "backup"⟩ ∈ asked quietSite backedUp ["p", "sr"] [] cleaned := by
    decide +kernel
  refine ⟨hasked, fun hscoped => ?_⟩
  obtain ⟨c, hc⟩ := (hscoped _ hasked).child.1
  simp at hc

/-- The same tree without that snapshot. -/
private def notBackedUp : Tree where
  items := [(dataset ["p", "sr"], ⟨.filesystem, none, true, false, some "sr"⟩),
    (dataset ["p", "sr", "v"], ⟨.volume, none, false, false, none⟩)]
  distinct := by simp [dataset]

theorem scoped_iff_orphaned_zvol :
    KeepsScope quietSite notBackedUp ["p", "sr"] [] cleaned := by
  have hnosnap : ∀ e ∈ notBackedUp.items, e.1.snap = none ∧ e.2.kind ≠ .snapshot := by
    simp [notBackedUp, dataset]
  have hcons : Consistent notBackedUp := by
    intro n node hnode
    obtain ⟨hn, hkind⟩ := hnosnap (n, node) (Dict.get?_eq_some_iff.1 hnode)
    have hsnap : n.snap = none := hn
    exact iff_of_false hkind (by simp [hsnap])
  refine (scoped_iff hcons ⟨_, rfl, rfl⟩ fun t => listed_listByName t _).2 fun _ => ⟨?_, ?_⟩
  · intro n hhas hsnap
    obtain ⟨node, hnode⟩ := Tree.has_iff.1 hhas
    rw [(hnosnap (n, node) (Dict.get?_eq_some_iff.1 hnode)).1] at hsnap
    cases hsnap
  · intro hf
    cases hf

end ZfsLive.Orphans

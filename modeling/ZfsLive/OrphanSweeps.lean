/-
**Sweep after sweep** (`src/volume/sr.py`, `src/volume/zfs_operations.py`).

An orphan that cannot be destroyed is left for the next `SR.ls`.  A zvol is refused as long as it has
snapshots, and zvols come before snapshots in every sweep; a snapshot is refused as long as it has clones,
and an orphaned clone may stand behind its origin in the listing.  So it takes several sweeps to clear a
family of orphans, and what a user still needs keeps everything that it rests on.

On a host on which nothing else happens the sweeps come to an end: what is gone then is what is orphaned
itself and needed by nothing but such orphans, whatever the order of the listings is, and as many sweeps as
there are datasets and snapshots are enough.

Main definitions:

* `Orphans.Doomed` — what a sweep asks for and would destroy if nothing needed it;
* `Orphans.sweeps` — one `SR.ls` after the other, each with the clock it reads.

Main results:

* `Orphans.round_sweep` — **a sweep is a round** in the sense of `Pruning`;
* `Orphans.sweeps_converge` — **what sweeps destroy in the end**.
-/

import ZfsLive.Base.Pruning
import ZfsLive.Orphans

set_option relaxedAutoImplicit false
set_option autoImplicit false

namespace ZfsLive.Orphans

open Datasets Wp Pruning Teardown

/-- Nothing of the node is mounted or open. -/
def Quiet (t : Tree) (n : Name) : Prop :=
  ∃ node, t.get? n = some node ∧ ¬ (node.Mounted ∨ node.busy = true)

/-- The scans look at the zvols right under the SR's dataset, and at the snapshots of it and of what is
right under it. -/
def Sought (t : Tree) (srDataset : List String) (n : Name) : Prop :=
  n.snap = none ∧ ChildZvol t srDataset n.path ∨
    n.snap.isSome ∧ (n.path = srDataset ∨ ∃ c, n.path = srDataset ++ [c])

/-- A sweep asks for the node, and would destroy it if nothing needed it. -/
structure Doomed (site : Site) (t : Tree) (srDataset known : List String)
    (settings : Properties.SrSettings) (n : Name) : Prop where
  sought : Sought t srDataset n
  passed : Passed site t known settings n
  quiet : Quiet t n

/-- The host when its clock shows `clock.1` as the zvols, and `clock.2` as the snapshots are cleaned up. -/
def Site.atClock (site : Site) (clock : ℤ × ℤ) : Site :=
  { site with zvolsAt := clock.1, snapshotsAt := clock.2 }

/-- The tree after an `SR.ls`. -/
def sweep (site : Site) (srDataset known : List String) (settings : Properties.SrSettings) (t : Tree)
    (clock : ℤ × ℤ) : Tree :=
  (after (ls (site.atClock clock) srDataset known settings) ⟨t, []⟩).tree

/-- The tree after one `SR.ls` for each clock. -/
def sweeps (site : Site) (srDataset known : List String) (settings : Properties.SrSettings) (t : Tree)
    (clocks : List (ℤ × ℤ)) : Tree :=
  clocks.foldl (sweep site srDataset known settings) t

/-- The names that there are. -/
def names (t : Tree) : Finset Name := t.keys.toFinset

/-- Some nodes are gone, with everything inside them; the rest, and the SR's dataset, is as it was. -/
abbrev Left (srDataset : List String) : Tree → Tree → Prop := Removes (· ≠ dataset srDataset)

variable {site : Site} {t t₀ t' : Tree} {srDataset known : List String}
  {settings : Properties.SrSettings} {n m : Name} {may doomed : Name → Prop}

/-! ### What is left of a tree -/

theorem mem_names : n ∈ names t ↔ t.Has n := by
  rw [names, List.mem_toFinset, Dict.mem_keys_iff, Tree.has_iff]

theorem names_erase (t : Tree) (n : Name) : names (t.erase n) = (names t).erase n := by
  ext m
  rw [Finset.mem_erase, names, names, List.mem_toFinset, List.mem_toFinset, Dict.mem_keys_erase]

theorem Removes.quiet (hr : Removes may t₀ t) (hn : t.Has n) : Quiet t n ↔ Quiet t₀ n := by
  rw [Quiet, Quiet, hr.has hn]

/-- What blocks a node still blocks it as long as it stands. -/
theorem Removes.free_iff (hr : Removes may t₀ t) :
    Free t₀.Blocks (names t : Set Name) n ↔ ¬ t.Held n := by
  rw [Tree.held_iff, Free]
  push Not
  refine forall_congr' fun m => ?_
  rw [Finset.mem_coe, mem_names]
  refine forall_congr' fun hm => ?_
  rw [Tree.Blocks, Tree.Blocks, Tree.IsClone, Tree.IsClone, hr.has hm]

/-- The dataset of a node that stands is open if it was. -/
theorem Removes.open_iff (hr : Removes may t₀ t) (hn : t.Has n) :
    Open t n.path ↔ Open t₀ n.path := by
  have hsame : t.get? (dataset n.path) = t₀.get? (dataset n.path) := by
    rcases hr (dataset n.path) with heq | ⟨-, hnone, hinside⟩
    · exact heq
    · -- the dataset is gone, and with it what was inside
      by_cases hne : n = dataset n.path
      · rw [Tree.Has, hne, hnone] at hn
        cases hn
      · exact absurd hn (hinside n ⟨rfl, List.prefix_refl _, hne⟩)
  rw [Open, Open, hsame]

theorem Removes.passed_iff (hr : Removes may t₀ t) (hn : t.Has n) :
    Passed site t known settings n ↔ Passed site t₀ known settings n := by
  have hopen := hr.open_iff hn
  constructor
  · exact fun h => ⟨h.unknown, fun hf => hopen.not.1 (h.unseen hf), h.idle, h.aged⟩
  · exact fun h => ⟨h.unknown, fun hf => hopen.not.2 (h.unseen hf), h.idle, h.aged⟩

theorem eq_dataset (hn : n.snap = none) : n = dataset n.path := by
  cases n
  cases hn
  rfl

theorem Removes.childZvol_iff (hr : Removes may t₀ t) (hn : n.snap = none) :
    ChildZvol t srDataset n.path ↔ t.Has n ∧ ChildZvol t₀ srDataset n.path := by
  rw [ChildZvol, ChildZvol, ← eq_dataset hn]
  constructor
  · rintro ⟨hpath, node, hnode, hkind⟩
    have hhas := Tree.has_iff.2 ⟨node, hnode⟩
    exact ⟨hhas, hpath, node, (hr.has hhas).symm.trans hnode, hkind⟩
  · rintro ⟨hhas, hpath, node, hnode, hkind⟩
    exact ⟨hpath, node, (hr.has hhas).trans hnode, hkind⟩

theorem Left.root (hr : Left srDataset t₀ t) : t.get? (dataset srDataset) = t₀.get? (dataset srDataset) :=
  (hr (dataset srDataset)).resolve_right fun h => h.1 rfl

/-! ### What is found -/

section

variable (hcons : Consistent t₀)
  (hX : ∃ node, t₀.get? (dataset srDataset) = some node ∧ node.kind = .filesystem)
  (hlist : ∀ t, Listed t srDataset (site.list t srDataset)) (hr : Left srDataset t₀ t)

include hcons hX hlist hr

theorem mem_expired_zvols :
    n ∈ expired site site.zvolsAt (graceOf settings) (zvolFindOrphans site t srDataset known) ↔
      n.snap = none ∧ ChildZvol t₀ srDataset n.path ∧ t.Has n ∧ Passed site t₀ known settings n := by
  rw [zvolFindOrphans, mem_expired,
    mem_datasetListZvols (hcons.of_removes hr) (by rwa [hr.root]) (hlist t)]
  constructor
  · rintro ⟨⟨hsnap, hchild⟩, ⟨v, hv, hnew⟩, hunseen, hidle, haged⟩
    obtain ⟨hhas, hchild₀⟩ := (hr.childZvol_iff hsnap).1 hchild
    refine ⟨hsnap, hchild₀, hhas, (hr.passed_iff hhas).1 ⟨fun u hu => ?_, hunseen, hidle, ?_⟩⟩
    · rw [hsnap, Option.none_or, hv] at hu
      exact Option.some.inj hu ▸ hnew
    · rwa [if_neg (by simp [hsnap])]
  · rintro ⟨hsnap, hchild₀, hhas, hpassed⟩
    obtain ⟨hnew, hunseen, hidle, haged⟩ := (hr.passed_iff hhas).2 hpassed
    obtain ⟨c, hc⟩ := hchild₀.1
    have hlast : n.path.getLast? = some c := by simp [hc]
    rw [if_neg (by simp [hsnap])] at haged
    exact ⟨⟨hsnap, (hr.childZvol_iff hsnap).2 ⟨hhas, hchild₀⟩⟩,
      ⟨c, hlast, hnew c (by rw [hsnap, Option.none_or, hlast])⟩, hunseen, hidle, haged⟩

theorem mem_expired_snapshots :
    n ∈ expired site site.snapshotsAt (graceOf settings) (zsnapFindOrphans site t srDataset known) ↔
      n.snap.isSome ∧ (n.path = srDataset ∨ ∃ c, n.path = srDataset ++ [c]) ∧ t.Has n ∧
        Passed site t₀ known settings n := by
  have hroot : t.Has (dataset srDataset) := by
    obtain ⟨node, hnode, -⟩ := hX
    exact Tree.has_iff.2 ⟨node, hr.root.trans hnode⟩
  rw [zsnapFindOrphans, mem_expired,
    mem_datasetListSnapshots (hcons.of_removes hr) hroot (hlist t)]
  constructor
  · rintro ⟨⟨hhas, hsnap, hpath⟩, ⟨v, hv, hnew⟩, hunseen, hidle, haged⟩
    refine ⟨hsnap, hpath, hhas, (hr.passed_iff hhas).1 ⟨fun u hu => ?_, hunseen, hidle, ?_⟩⟩
    · rw [hv, Option.some_or] at hu
      exact Option.some.inj hu ▸ hnew
    · rwa [if_pos hsnap]
  · rintro ⟨hsnap, hpath, hhas, hpassed⟩
    obtain ⟨hnew, hunseen, hidle, haged⟩ := (hr.passed_iff hhas).2 hpassed
    obtain ⟨v, hv⟩ := Option.isSome_iff_exists.1 hsnap
    rw [if_pos hsnap] at haged
    exact ⟨⟨hhas, hsnap, hpath⟩, ⟨v, hv, hnew v (by rw [hv, Option.some_or])⟩, hunseen, hidle, haged⟩

end

/-! ### One destroy -/

/-- `lzc_destroy` takes a node away that nothing needs, and changes nothing otherwise. -/
theorem lzcDestroy_cases (h : Host) (t : Tree) (n : Name) :
    Quiet t n ∧ ¬ t.Held n ∧ lzcDestroy h n t = .ok 0 (t.erase n) ∨
      ¬ (Quiet t n ∧ ¬ t.Held n) ∧ ∃ rc, rc ≠ 0 ∧ lzcDestroy h n t = .ok rc t := by
  cases hnode : t.get? n with
  | none =>
      refine .inr ⟨fun hq => ?_, ENOENT, by decide, by simp [lzcDestroy, Wp.get_bind, hnode, Wp.pure_apply]⟩
      obtain ⟨⟨node, hnode', -⟩, -⟩ := hq
      rw [hnode] at hnode'
      cases hnode'
  | some node =>
      by_cases hbusy : node.Mounted ∨ node.busy = true
      · refine .inr ⟨fun hq => ?_, EBUSY, by decide,
          by simp [lzcDestroy, Wp.get_bind, hnode, hbusy, Wp.pure_apply]⟩
        obtain ⟨⟨node', hnode', hquiet⟩, -⟩ := hq
        rw [hnode] at hnode'
        exact hquiet (Option.some.inj hnode' ▸ hbusy)
      · obtain ⟨hmounted, hopen⟩ := not_or.1 hbusy
        have hopen : node.busy = false := by simpa using hopen
        by_cases hheld : t.Held n
        · exact .inr ⟨fun hq => hq.2 hheld, h.refusal n, (h.refusal_ne n).1,
            lzcDestroy_of_held hnode hmounted hopen hheld⟩
        · exact .inl ⟨⟨node, hnode, hbusy⟩, hheld, lzcDestroy_of_free hnode hmounted hopen hheld⟩

/-- **`destroy_zvol` takes a node away exactly when nothing needs it and nothing has it open.** -/
theorem after_destroyNode (site : Site) (t : Tree) (n : Name) :
    Quiet t n ∧ ¬ t.Held n ∧ after (destroyNode site n) t = t.erase n ∨
      ¬ (Quiet t n ∧ ¬ t.Held n) ∧ after (destroyNode site n) t = t := by
  rw [destroyNode]
  rcases lzcDestroy_cases site.toHost t n with ⟨hquiet, hheld, hok⟩ | ⟨hnot, rc, hrc, hok⟩
  · refine .inl ⟨hquiet, hheld, ?_⟩
    split
    · have hretry : destroyWithRetry site.toHost n 10 t = .ok 0 (t.erase n) :=
        destroyWithRetry_eq hok fun h => absurd h (by decide)
      exact after_of_ok (a := ()) (by rw [bind_ok hretry, if_pos rfl]; rfl)
    · exact after_of_ok (a := ()) (by rw [zfsDestroy, bind_ok hok, if_pos rfl]; rfl)
  · refine .inr ⟨hnot, ?_⟩
    split
    · have hretry : destroyWithRetry site.toHost n 10 t = .ok rc t := destroyWithRetry_eq hok fun _ => rfl
      rw [after, bind_ok hretry, if_neg hrc]
      rfl
    · rw [zfsDestroy, after, bind_ok hok, if_neg hrc]
      rfl

/-- One destroy, as a step of a round. -/
theorem prunes_destroyNode (site : Site) (hr : Left srDataset t₀ t) (hd : Quiet t₀ n → doomed n) :
    Prunes doomed t₀.Blocks (names t) (names (after (destroyNode site n) t)) ∧
      (Quiet t₀ n → Free t₀.Blocks (names t : Set Name) n →
        ¬ (after (destroyNode site n) t).Has n) := by
  rcases after_destroyNode site t n with ⟨hquiet, hheld, hafter⟩ | ⟨hnot, hafter⟩
  · have hhas : t.Has n := by
      obtain ⟨node, hnode, -⟩ := hquiet
      exact Tree.has_iff.2 ⟨node, hnode⟩
    rw [hafter, names_erase]
    refine ⟨.erase n .refl (hd ((hr.quiet hhas).1 hquiet)) (hr.free_iff.2 hheld), fun _ _ herased => ?_⟩
    rw [← mem_names, names_erase] at herased
    exact Finset.notMem_erase n _ herased
  · rw [hafter]
    refine ⟨.refl, fun hquiet hfree hhas => hnot ⟨(hr.quiet hhas).2 hquiet, hr.free_iff.1 hfree⟩⟩

/-! ### One sweep -/

/-- **A loop over orphans** takes away those that were free when it began, and no others but doomed ones. -/
theorem wp_destroyOrphans_prunes (doomed : Name → Prop) {now grace : ℤ} {orphans : List Orphan}
    (hroot : ∀ o ∈ orphans, o.name ≠ dataset srDataset)
    (hd : ∀ n ∈ expired site now grace orphans, Quiet t₀ n → doomed n) (s : Scan)
    (hr : Left srDataset t₀ s.tree) :
    wp (destroyOrphans site now grace orphans)
      (fun _ s' => Left srDataset t₀ s'.tree ∧
        Prunes doomed t₀.Blocks (names s.tree) (names s'.tree) ∧
          ∀ n ∈ expired site now grace orphans, Quiet t₀ n → Free t₀.Blocks (names s.tree : Set Name) n →
            ¬ s'.tree.Has n)
      (fun _ _ => False) s := by
  induction orphans generalizing s with
  | nil =>
      refine ⟨hr, .refl, fun n hn => ?_⟩
      simp [expired] at hn
  | cons o orphans ih =>
      obtain ⟨hroot_o, hroot⟩ := List.forall_mem_cons.1 hroot
      rw [expired_cons] at hd ⊢
      rw [destroyOrphans]
      by_cases hold : oldEnough site now grace o.creation = true
      · rw [if_pos hold] at hd ⊢
        rw [if_pos hold]
        obtain ⟨hd_o, hd⟩ := List.forall_mem_cons.1 hd
        obtain ⟨hprunes, hgone⟩ := prunes_destroyNode site hr hd_o
        have hstep : Left srDataset s.tree (after (destroyNode site o.name) s.tree) :=
          @preserves_destroyNode site o.name (· ≠ dataset srDataset) hroot_o s.tree
        have hleft := trans_of (Left srDataset) hr hstep
        have hrest := ih hroot hd ⟨after (destroyNode site o.name) s.tree, s.asked ++ [o.name]⟩ hleft
        have hall : wp (destroyOrphans site now grace orphans)
            (fun _ s' => Left srDataset t₀ s'.tree ∧
              Prunes doomed t₀.Blocks (names s.tree) (names s'.tree) ∧
                ∀ n ∈ o.name :: expired site now grace orphans, Quiet t₀ n →
                  Free t₀.Blocks (names s.tree : Set Name) n → ¬ s'.tree.Has n)
            (fun _ _ => False) ⟨after (destroyNode site o.name) s.tree, s.asked ++ [o.name]⟩ := by
          refine wp_mono hrest ?_ fun _ _ hf => hf
          rintro _ s' ⟨hleft', hprunes', hgone'⟩
          refine ⟨hleft', hprunes.trans hprunes', fun n hn hquiet hfree => ?_⟩
          rcases List.mem_cons.1 hn with rfl | hn
          · rw [← mem_names] at hgone ⊢
            exact fun hn => hgone hquiet hfree (hprunes'.subset hn)
          · exact hgone' n hn hquiet (free_of_subset hprunes.subset hfree)
        simp only [destroyZvol, wp_bind, wp_tryCatch, wp_modify, wp_onTree, wp_pure]
        exact wp_of_after hall
      · rw [if_neg hold] at hd ⊢
        rw [if_neg hold]
        exact ih hroot hd s hr

section

variable (hcons : Consistent t₀)
  (hX : ∃ node, t₀.get? (dataset srDataset) = some node ∧ node.kind = .filesystem)
  (hlist : ∀ t, Listed t srDataset (site.list t srDataset))
  (hclean : settings.auto_cleanup_orphans = some "true")

include hcons hX hlist hclean

/-- **A sweep is a round**: first of the zvols that it finds, then of the snapshots that it finds after
that. -/
theorem wp_ls_round (hr : Left srDataset t₀ t) :
    wp (ls site srDataset known settings)
      (fun _ s => Left srDataset t₀ s.tree ∧
        Round (Doomed site t₀ srDataset known settings) t₀.Blocks (names t) (names s.tree))
      (fun _ _ => False) ⟨t, []⟩ := by
  have hzvols := fun n => @mem_expired_zvols site t t₀ srDataset known settings n hcons hX hlist hr
  have hroot : ∀ o ∈ zvolFindOrphans site t srDataset known, o.name ≠ dataset srDataset := by
    intro o ho heq
    obtain ⟨-, ⟨c, hc⟩, -⟩ := (mem_datasetListZvols (hcons.of_removes hr) (by rwa [hr.root])
      (hlist t)).1 (name_mem_of_mem_findOrphans ho)
    rw [heq] at hc
    simp [dataset] at hc
  simp only [ls, if_pos hclean, wp_bind, wp_get, wp_tryCatch, wp_pure, zvolDestroyOrphans,
    zsnapDestroyOrphans]
  refine wp_mono (wp_destroyOrphans_prunes (Doomed site t₀ srDataset known settings) hroot
    (fun n hn hquiet => ?_) ⟨t, []⟩ hr) ?_ fun _ _ hf => hf.elim
  · obtain ⟨hsnap, hchild, -, hpassed⟩ := (hzvols n).1 hn
    exact ⟨.inl ⟨hsnap, hchild⟩, hpassed, hquiet⟩
  rintro _ s ⟨hr₁, hprunes₁, hgone₁⟩
  have hsnaps := fun n =>
    @mem_expired_snapshots site s.tree t₀ srDataset known settings n hcons hX hlist hr₁
  have hroot₁ : ∀ o ∈ zsnapFindOrphans site s.tree srDataset known, o.name ≠ dataset srDataset := by
    intro o ho heq
    have hhas : s.tree.Has (dataset srDataset) := by
      obtain ⟨node, hnode, -⟩ := hX
      exact Tree.has_iff.2 ⟨node, hr₁.root.trans hnode⟩
    obtain ⟨-, hsnap, -⟩ := (mem_datasetListSnapshots (hcons.of_removes hr₁) hhas (hlist s.tree)).1
      (name_mem_of_mem_findOrphans ho)
    rw [heq] at hsnap
    cases hsnap
  refine wp_mono (wp_destroyOrphans_prunes (Doomed site t₀ srDataset known settings) hroot₁
    (fun n hn hquiet => ?_) s hr₁) ?_ fun _ _ hf => hf.elim
  · obtain ⟨hsnap, hpath, -, hpassed⟩ := (hsnaps n).1 hn
    exact ⟨.inr ⟨hsnap, hpath⟩, hpassed, hquiet⟩
  rintro _ s' ⟨hr₂, hprunes₂, hgone₂⟩
  refine ⟨hr₂, hprunes₁.trans hprunes₂, fun n hn hd hfree hn₂ => ?_⟩
  have hn₁ := hprunes₂.subset hn₂
  rw [mem_names] at hn hn₁ hn₂
  rcases hd.sought with ⟨hsnap, hchild⟩ | ⟨hsnap, hpath⟩
  · exact hgone₁ n ((hzvols n).2 ⟨hsnap, hchild, hn, hd.passed⟩) hd.quiet hfree hn₁
  · exact hgone₂ n ((hsnaps n).2 ⟨hsnap, hpath, hn₁, hd.passed⟩) hd.quiet
      (free_of_subset hprunes₁.subset hfree) hn₂

end

/-! ### Sweep after sweep -/

theorem Passed.atClock {c c' : ℤ × ℤ} (hc : c ≤ c')
    (h : Passed (site.atClock c) t known settings n) :
    Passed (site.atClock c') t known settings n := by
  refine ⟨h.unknown, h.unseen, h.idle, fun hgrace => ?_⟩
  obtain ⟨ts, hts, hold⟩ := h.aged hgrace
  refine ⟨ts, hts, hold.trans (Int.sub_le_sub_right ?_ ts)⟩
  split
  · exact hc.2
  · exact hc.1

/-- What is doomed by one clock is doomed by a later one. -/
theorem Doomed.atClock {c c' : ℤ × ℤ} (hc : c ≤ c')
    (h : Doomed (site.atClock c) t srDataset known settings n) :
    Doomed (site.atClock c') t srDataset known settings n :=
  ⟨h.sought, h.passed.atClock hc, h.quiet⟩

section

variable (hcons : Consistent t₀)
  (hX : ∃ node, t₀.get? (dataset srDataset) = some node ∧ node.kind = .filesystem)
  (hlist : ∀ t, Listed t srDataset (site.list t srDataset))
  (hclean : settings.auto_cleanup_orphans = some "true")

include hcons hX hlist hclean

theorem round_sweep (c : ℤ × ℤ) (hr : Left srDataset t₀ t) :
    Left srDataset t₀ (sweep site srDataset known settings t c) ∧
      Round (Doomed (site.atClock c) t₀ srDataset known settings) t₀.Blocks (names t)
        (names (sweep site srDataset known settings t c)) := by
  obtain ⟨_, s, hok, hround⟩ := exists_ok_of_wp
    (@wp_ls_round (site.atClock c) t t₀ srDataset known settings hcons hX hlist hclean hr)
  rw [sweep, after_of_ok hok]
  exact hround

theorem rounds_sweeps (clocks : List (ℤ × ℤ)) (hr : Left srDataset t₀ t) :
    Left srDataset t₀ (sweeps site srDataset known settings t clocks) ∧
      Rounds t₀.Blocks (clocks.map fun c => Doomed (site.atClock c) t₀ srDataset known settings) (names t)
        (names (sweeps site srDataset known settings t clocks)) := by
  induction clocks generalizing t with
  | nil => exact ⟨hr, rfl⟩
  | cons c clocks ih =>
      obtain ⟨hleft, hround⟩ := round_sweep hcons hX hlist hclean c hr
      obtain ⟨hleft', hrest⟩ := ih hleft
      exact ⟨hleft', _, hround, hrest⟩

end

/-- **What sweeps destroy in the end**, when nothing else happens: what stands is as it was; nothing is
gone but what is orphaned by the last clock and needed by nothing but what is gone too; and of what is
orphaned by the first clock all of that is gone after as many sweeps as there are datasets and
snapshots. -/
theorem sweeps_converge (first last : ℤ × ℤ) {clocks : List (ℤ × ℤ)} (hcons : Consistent t)
    (hX : ∃ node, t.get? (dataset srDataset) = some node ∧ node.kind = .filesystem)
    (hlist : ∀ t, Listed t srDataset (site.list t srDataset))
    (hclean : settings.auto_cleanup_orphans = some "true")
    (hclocks : ∀ c ∈ clocks, first ≤ c ∧ c ≤ last) :
    (∀ n, (sweeps site srDataset known settings t clocks).Has n →
      (sweeps site srDataset known settings t clocks).get? n = t.get? n) ∧
    (∀ n, t.Has n → ¬ (sweeps site srDataset known settings t clocks).Has n →
      Goes (Doomed (site.atClock last) t srDataset known settings) t.Blocks (names t) n) ∧
    ((names t).card ≤ clocks.length → ∀ n,
      Goes (Doomed (site.atClock first) t srDataset known settings) t.Blocks (names t) n →
        ¬ (sweeps site srDataset known settings t clocks).Has n) := by
  obtain ⟨hleft, hrounds⟩ := @rounds_sweeps site t t srDataset known settings hcons hX hlist hclean clocks
    (Std.Refl.refl t)
  have hlater : ∀ d ∈ clocks.map fun c => Doomed (site.atClock c) t srDataset known settings,
      (∀ n, d n → Doomed (site.atClock last) t srDataset known settings n) ∧
        ∀ n, Doomed (site.atClock first) t srDataset known settings n → d n := by
    intro d hd
    obtain ⟨c, hc, rfl⟩ := List.mem_map.1 hd
    exact ⟨fun n h => h.atClock (hclocks c hc).2, fun n h => h.atClock (hclocks c hc).1⟩
  refine ⟨fun n hn => hleft.has hn, fun n hn hgone => ?_, fun hcard n hgoes hn => ?_⟩
  · rw [← mem_names] at hn hgone
    exact goes_of_rounds (fun d hd => (hlater d hd).1) hrounds (fun x hx hnx => absurd hx hnx) n hn hgone
  · rw [← mem_names] at hn
    exact gone_of_rounds (fun d hd => (hlater d hd).2) (Finset.Subset.refl _) (by simpa using hcard)
      hrounds hgoes hn

/-- A host on which nothing is open or served, and on which all was made at `100`. -/
def idleSite : Site where
  toHost := lzcHost
  fuser := true
  recorded _ := none
  alive _ := false
  property _ prop := if prop = "creation" then some "100" else some "65536"
  int text := if text = "100" then some 100 else if text = "65536" then some 65536 else none
  zvolsAt := 0
  snapshotsAt := 0

/-- An SR with an orphaned zvol and an orphaned snapshot of it. -/
def orphaned : Tree where
  items := [(dataset ["p", "sr"], ⟨.filesystem, none, true, false, some "sr"⟩),
    (dataset ["p", "sr", "v"], ⟨.volume, none, false, false, none⟩),
    (⟨["p", "sr", "v"], some "s"⟩, ⟨.snapshot, none, false, false, none⟩)]
  distinct := by simp [dataset]

theorem consistent_orphaned : Consistent orphaned := by
  have hall : ∀ e ∈ orphaned.items, (e.2.kind = .snapshot ↔ e.1.snap.isSome) := by
    simp [orphaned, dataset]
  exact fun n node hnode => hall (n, node) (Dict.get?_eq_some_iff.1 hnode)

theorem passed_orphaned (hopen : ¬ Open orphaned n.path) :
    Passed (idleSite.atClock (10000, 10000)) orphaned [] ⟨some "true", none⟩ n := by
  refine ⟨fun _ _ => List.not_mem_nil, fun _ => hopen, ?_, fun _ => ⟨100, rfl, ?_⟩⟩
  · rintro ⟨pid, hpid, -⟩
    cases hpid
  · split <;> decide

/-- The zvol goes in the second sweep at the latest, since nothing but its snapshot needs it. -/
theorem sweeps_converge_orphaned :
    ¬ (sweeps idleSite ["p", "sr"] [] ⟨some "true", none⟩ orphaned
      [(10000, 10000), (10000, 10000), (10000, 10000)]).Has (dataset ["p", "sr", "v"]) := by
  have hnames : ∀ y ∈ names orphaned, y = dataset ["p", "sr"] ∨ y = dataset ["p", "sr", "v"] ∨
      y = ⟨["p", "sr", "v"], some "s"⟩ := by decide
  have hsnap : Goes (Doomed (idleSite.atClock (10000, 10000)) orphaned ["p", "sr"] [] ⟨some "true", none⟩)
      orphaned.Blocks (names orphaned) ⟨["p", "sr", "v"], some "s"⟩ := by
    refine .intro _ ⟨.inr ⟨rfl, .inr ⟨"v", rfl⟩⟩, passed_orphaned (by decide), _, rfl, by decide⟩ ?_
    intro y hy hne hblocks
    rcases hnames y hy with rfl | rfl | rfl
    · exact absurd hblocks (by decide)
    · exact absurd hblocks (by decide)
    · exact absurd rfl hne
  have hgoes : Goes (Doomed (idleSite.atClock (10000, 10000)) orphaned ["p", "sr"] [] ⟨some "true", none⟩)
      orphaned.Blocks (names orphaned) (dataset ["p", "sr", "v"]) := by
    refine .intro _ ⟨.inl ⟨rfl, ⟨"v", rfl⟩, _, rfl, rfl⟩, passed_orphaned (by decide), _, rfl,
      by decide⟩ ?_
    intro y hy hne hblocks
    rcases hnames y hy with rfl | rfl | rfl
    · exact absurd hblocks (by decide)
    · exact absurd rfl hne
    · exact hsnap
  exact (sweeps_converge (10000, 10000) (10000, 10000) consistent_orphaned ⟨_, rfl, rfl⟩
    (fun t => listed_listByName t _) rfl (by simp)).2.2 (by decide) _ hgoes

end ZfsLive.Orphans

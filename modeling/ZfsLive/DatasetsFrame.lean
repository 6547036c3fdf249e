/-
**What the operations on datasets leave alone.**

Destroying a tree of datasets changes nothing outside it, and as long as it fails its root is still
there; creating a dataset changes nothing that is there.

* `Keeps` — a node is still there, with all but its mount state;
* `preserves_destroyNodes`, `preserves_datasetDestroy` — a destroy keeps every node it does not visit;
* `datasetDestroy_error_keeps_root` — a destroy that raises keeps its root;
* `preserves_datasetCreate`, `datasetCreate_spec` — creating keeps every node, and makes a filesystem.
-/

import ZfsLive.Base.Loop
import ZfsLive.DatasetsDestroy

set_option relaxedAutoImplicit false
set_option autoImplicit false

namespace ZfsLive.Datasets

open Wp

variable {h : Host}

/-- The node `n` of `t` is there in `t'` too; it may have been mounted or unmounted. -/
def Keeps (n : Name) (t t' : Tree) : Prop :=
  ∀ node, t.get? n = some node → ∃ node', t'.get? n = some node' ∧ node'.core = node.core

namespace Keeps

variable {n m : Name} {t t' t'' : Tree} {node node' : Node}

theorem refl (n : Name) (t : Tree) : Keeps n t t := fun node hnode => ⟨node, hnode, rfl⟩

theorem trans (h₁ : Keeps n t t') (h₂ : Keeps n t' t'') : Keeps n t t'' := by
  intro node hnode
  obtain ⟨node', hnode', hcore'⟩ := h₁ node hnode
  obtain ⟨node'', hnode'', hcore''⟩ := h₂ node' hnode'
  exact ⟨node'', hnode'', hcore''.trans hcore'⟩

instance : Std.Refl (Keeps n) := ⟨refl n⟩

instance : IsTrans Tree (Keeps n) := ⟨fun _ _ _ => trans⟩

theorem set_of_ne (hne : n ≠ m) : Keeps n t (t.set m node) := by
  intro node' hnode'
  exact ⟨node', by rw [Dict.get?_set, if_neg hne, hnode'], rfl⟩

theorem set_of_core (hnode : t.get? m = some node) (hcore : node'.core = node.core) :
    Keeps n t (t.set m node') := by
  by_cases hne : n = m
  · subst hne
    intro node₁ hnode₁
    obtain rfl : node = node₁ := by simpa [hnode] using hnode₁
    exact ⟨node', by rw [Dict.get?_set, if_pos rfl], hcore⟩
  · exact set_of_ne hne

theorem erase_of_ne (hne : n ≠ m) : Keeps n t (t.erase m) := by
  intro node hnode
  exact ⟨node, by rw [Dict.get?_erase, if_neg hne, hnode], rfl⟩

theorem has (hk : Keeps n t t') (hn : t.Has n) : t'.Has n := by
  obtain ⟨node, hnode⟩ := Tree.has_iff.1 hn
  obtain ⟨node', hnode', -⟩ := hk node hnode
  exact Tree.has_iff.2 ⟨node', hnode'⟩

end Keeps

/-! ### Reading -/

theorem lookup_spec (cmd : List String) (n : Name) (t : Tree) :
    wp (lookup h cmd n) (fun node t' => t' = t ∧ t.get? n = some node) (fun _ t' => t' = t) t := by
  simp only [lookup, wp_bind, wp_get]
  cases hn : t.get? n with
  | none => exact rfl
  | some node => exact ⟨rfl, rfl⟩

/-- Reading whether a filesystem is mounted changes nothing and does not raise. -/
theorem datasetIsMounted_spec (n : Name) (t : Tree) :
    wp (datasetIsMounted h n) (fun _ t' => t' = t) (fun _ _ => False) t := by
  rw [datasetIsMounted, wp_tryCatch]
  simp only [zfsGetMounted, wp_bind, wp_pure]
  refine wp_mono (lookup_spec _ n t) ?_ fun _ _ ht => ht
  rintro node t' ⟨rfl, -⟩
  split <;> simp

theorem preserves_datasetIsMounted {R : Tree → Tree → Prop} [Std.Refl R] (n : Name) :
    Preserves R (datasetIsMounted h n) := by
  refine Preserves.of_after_eq fun t => ?_
  obtain ⟨b, t', hok, rfl⟩ := exists_ok_of_wp (datasetIsMounted_spec (h := h) n t)
  exact after_of_ok hok

/-! ### Destroying -/

theorem preserves_zfsUnmount (n m : Name) : Preserves (Keeps n) (zfsUnmount h m) := by
  refine Preserves.of_wp fun t => ?_
  simp only [zfsUnmount, wp_bind]
  refine wp_mono (lookup_spec _ m t) ?_ ?_
  · rintro node t' ⟨rfl, hnode⟩
    rw [wp_ite, wp_modify]
    exact ⟨fun _ => Keeps.set_of_core hnode rfl, fun _ => Keeps.refl n t'⟩
  · rintro _ t' rfl
    exact Keeps.refl n t'

theorem preserves_lzcDestroy {n m : Name} (hne : n ≠ m) : Preserves (Keeps n) (lzcDestroy h m) := by
  refine Preserves.get_bind fun t => ?_
  cases hm : t.get? m with
  | none => exact Keeps.refl n t
  | some node =>
      by_cases hbusy : node.Mounted ∨ node.busy
      · simp only [if_pos hbusy]
        exact Keeps.refl n t
      · by_cases hheld : t.Held m
        · simp only [if_neg hbusy, if_pos hheld]
          exact Keeps.refl n t
        · simp only [if_neg hbusy, if_neg hheld]
          exact Keeps.erase_of_ne hne

/-- An attempt returns, and changes nothing unless it returns 0. -/
theorem destroyOne_ok (m : Name) (t : Tree) :
    ∃ rc t', destroyOne h m t = .ok rc t' ∧ (rc ≠ 0 → t' = t) := by
  refine exists_ok_of_wp ?_
  simp only [destroyOne, lzcDestroy, wp_bind, wp_get]
  cases hm : t.get? m with
  | none => exact fun _ => rfl
  | some node =>
      simp only [wp_ite, wp_pure, wp_bind, wp_set]
      refine ⟨?_, fun _ => ⟨?_, ?_⟩⟩ <;> simp

section

variable {R : Tree → Tree → Prop} [Std.Refl R] [IsTrans Tree R] {m : Name}

/-- What one attempt keeps, all of them do. -/
theorem preserves_retry (hone : Preserves R (lzcDestroy h m)) (k rc : ℕ) :
    Preserves R (retry h m k rc) := by
  induction k generalizing rc with
  | zero => exact Preserves.pure rc
  | succ k ih =>
      refine Preserves.bind hone fun rc' => ?_
      exact .ite (fun _ => .pure 0) fun _ => .ite (fun _ => .pure rc') fun _ => ih rc'

theorem preserves_destroyWithRetry (hone : Preserves R (lzcDestroy h m)) (k : ℕ) :
    Preserves R (destroyWithRetry h m k) := by
  refine Preserves.bind hone fun rc => ?_
  exact .ite (fun _ => .pure 0) fun _ => .ite (fun _ => .pure rc) fun _ => preserves_retry hone _ rc

end

theorem retry_ok (m : Name) (k rc₀ : ℕ) (t : Tree) :
    ∃ rc t', retry h m k rc₀ t = .ok rc t' ∧ (rc ≠ 0 → t' = t) := by
  induction k generalizing rc₀ t with
  | zero => exact ⟨rc₀, t, rfl, fun _ => rfl⟩
  | succ k ih =>
      obtain ⟨rc, t', hone, hsame⟩ := destroyOne_ok (h := h) m t
      rw [retry, bind_ok hone]
      by_cases h0 : rc = 0
      · rw [if_pos h0]
        exact ⟨0, t', rfl, fun hne => absurd rfl hne⟩
      · rw [if_neg h0, hsame h0]
        split
        · exact ⟨rc, t, rfl, fun _ => rfl⟩
        · exact ih rc t

theorem destroyWithRetry_ok (m : Name) (k : ℕ) (t : Tree) :
    ∃ rc t', destroyWithRetry h m k t = .ok rc t' ∧ (rc ≠ 0 → t' = t) := by
  obtain ⟨rc, t', hone, hsame⟩ := destroyOne_ok (h := h) m t
  rw [destroyWithRetry, bind_ok hone]
  by_cases h0 : rc = 0
  · rw [if_pos h0]
    exact ⟨0, t', rfl, fun hne => absurd rfl hne⟩
  · rw [if_neg h0, hsame h0]
    split
    · exact ⟨rc, t, rfl, fun _ => rfl⟩
    · exact retry_ok m _ rc t

variable {root : List String}

theorem preserves_unmountBefore (n m : Name) (kind : Kind) :
    Preserves (Keeps n) (unmountBefore h root m kind) := by
  refine .ite (fun _ => .tryCatch ?_ fun _ => .throw _) fun _ => .pure ()
  refine (preserves_datasetIsMounted m).bind fun b => ?_
  exact .ite (fun _ => preserves_zfsUnmount n m) fun _ => .pure ()

theorem preserves_destroyNode {n m : Name} (hne : n ≠ m) (kind : Kind) :
    Preserves (Keeps n) (destroyNode h root m kind) := by
  refine (preserves_unmountBefore n m kind).bind fun _ => ?_
  refine (preserves_destroyWithRetry (preserves_lzcDestroy hne) 10).bind fun rc => ?_
  exact .ite (fun _ => .pure ()) fun _ => .throw _

/-- A round that raises has not destroyed its node. -/
theorem destroyNode_error_keeps {n : Name} {kind : Kind} {t t' : Tree} {e : Fault}
    (herr : destroyNode h root n kind t = .error e t') : Keeps n t t' := by
  rcases Loop.bind_eq_error.1 herr with hunmount | ⟨_, t₁, hunmount, hrest⟩
  · have : Keeps n t (after (unmountBefore h root n kind) t) :=
      preserves_unmountBefore n n kind t
    rwa [after_of_error hunmount] at this
  · have hkeep : Keeps n t (after (unmountBefore h root n kind) t) :=
      preserves_unmountBefore n n kind t
    rw [after_of_ok hunmount] at hkeep
    obtain ⟨rc, t₂, hretry, hsame⟩ := destroyWithRetry_ok (h := h) n 10 t₁
    rw [bind_ok hretry] at hrest
    by_cases hrc : rc = 0 ∨ rc = ENOENT
    · rw [if_pos hrc] at hrest
      cases hrest
    · rw [if_neg hrc] at hrest
      cases hrest
      rw [hsame (not_or.1 hrc).1]
      exact hkeep

/-- **A destroy keeps every node it does not visit.** -/
theorem preserves_destroyNodes {n : Name} {l : List (Name × Kind)} (hn : ∀ e ∈ l, n ≠ e.1) :
    Preserves (Keeps n) (destroyNodes h root l) := by
  induction l with
  | nil => exact .pure ()
  | cons e l ih =>
      refine (preserves_destroyNode (hn e List.mem_cons_self) e.2).bind fun _ => ?_
      exact ih fun e he => hn e (List.mem_cons_of_mem _ he)

theorem destroyNodes_append (l l' : List (Name × Kind)) :
    destroyNodes h root (l ++ l') = (do destroyNodes h root l; destroyNodes h root l' : M Unit) := by
  induction l with
  | nil => rfl
  | cons e l ih =>
      rw [List.cons_append, destroyNodes, destroyNodes, ih, bind_assoc]

/-- A listing starts with its root. -/
theorem Listed.eq_cons {t : Tree} {l : List (Name × Kind)} (hl : Listed t root l)
    (hroot : t.Has (dataset root)) :
    ∃ kind l', l = (dataset root, kind) :: l' ∧ ∀ e ∈ l', dataset root ≠ e.1 := by
  obtain ⟨node, hnode⟩ := Tree.has_iff.1 hroot
  have hmem := (hl.mem (dataset root) node.kind).2 ⟨List.prefix_refl root, node, hnode, rfl⟩
  cases l with
  | nil => cases hmem
  | cons e l' =>
      have hfirst : e.1 = dataset root := by
        by_contra hne
        have htail := (List.mem_cons.1 hmem).resolve_left fun heq => hne (heq ▸ rfl)
        have hunder := ((hl.mem e.1 e.2).1 List.mem_cons_self).1
        exact (List.pairwise_cons.1 hl.descends).1 _ htail ⟨rfl, hunder, hne⟩
      refine ⟨e.2, l', by rw [← hfirst], fun e' he' heq => ?_⟩
      refine (List.nodup_cons.1 hl.nodup).1 (List.mem_map.2 ⟨e', he', ?_⟩)
      rw [hfirst, heq]

theorem zfsDestroyRecursive_spec (t : Tree) :
    wp (zfsDestroyRecursive h root) (fun _ t' => t' = t.eraseAll fun n => n.Under root)
      (fun _ t' => t' = t) t := by
  simp only [zfsDestroyRecursive, wp_bind, wp_get, wp_ite, wp_set, fail, wp_throw, implies_true,
    and_self]

section Listing

variable (hlist : ∀ t root, Listed t root (h.list t root))
include hlist

/-- **A recursive destroy keeps everything outside its tree.** -/
theorem preserves_datasetDestroy {n : Name} (hn : ¬ n.Under root) :
    Preserves (Keeps n) (datasetDestroy h root true) := by
  rw [datasetDestroy]
  split
  · refine Preserves.get_bind fun t => ?_
    have hwalk : Preserves (Keeps n) (destroyNodes h root (h.list t root).reverse) := by
      refine preserves_destroyNodes fun e he hne => hn ?_
      rw [hne]
      exact (((hlist t root).mem e.1 e.2).1 (List.mem_reverse.1 he)).1
    exact Preserves.ite (fun _ => hwalk) (fun _ => .throw _) t
  · refine Preserves.of_wp fun t => wp_mono (zfsDestroyRecursive_spec t) ?_ ?_
    · rintro _ t' rfl node hnode
      exact ⟨node, by rw [Dict.get?_eraseAll, if_neg hn, hnode], rfl⟩
    · rintro _ t' rfl
      exact Keeps.refl n t'

/-- A recursive destroy that raises has not destroyed its root. -/
theorem datasetDestroy_error_keeps_root {t t' : Tree} {e : Fault}
    (herr : datasetDestroy h root true t = .error e t') : Keeps (dataset root) t t' := by
  rw [datasetDestroy] at herr
  split at herr
  · by_cases hroot : t.Has (dataset root)
    · obtain ⟨kind, l', hl, hrest⟩ := (hlist t root).eq_cons hroot
      have hwalk : destroyNodes h root (l'.reverse ++ [(dataset root, kind)]) t = .error e t' := by
        rw [← List.reverse_cons, ← hl, ← lzcRecursiveDestroy_eq hroot]
        exact herr
      have hkeep : Keeps (dataset root) t (after (destroyNodes h root l'.reverse) t) :=
        preserves_destroyNodes (fun e' he' => hrest e' (List.mem_reverse.1 he')) t
      rw [destroyNodes_append] at hwalk
      rcases Loop.bind_eq_error.1 hwalk with hfirst | ⟨_, t₁, hfirst, hlast⟩
      · rwa [after_of_error hfirst] at hkeep
      · rw [after_of_ok hfirst] at hkeep
        rcases Loop.bind_eq_error.1 hlast with hnode | ⟨_, t₂, -, hdone⟩
        · exact hkeep.trans (destroyNode_error_keeps hnode)
        · cases hdone
    · intro node hnode
      exact absurd (Tree.has_iff.2 ⟨node, hnode⟩) hroot
  · obtain rfl := (wp_of_error herr).1 (zfsDestroyRecursive_spec t)
    exact Keeps.refl _ t'

end Listing

/-! ### Creating -/

theorem zfsCreate_spec (path : List String) (mounted : Bool) (t : Tree) :
    wp (zfsCreate h path mounted)
      (fun _ t' => ¬ t.Has (dataset path) ∧
        t' = t.set (dataset path) ⟨.filesystem, none, mounted, false, none⟩)
      (fun _ t' => t' = t) t := by
  simp only [zfsCreate, wp_bind, wp_get, wp_ite, fail, wp_throw, implies_true, true_and]
  intro hfree
  cases hparent : t.get? (dataset path.dropLast) with
  | none => exact rfl
  | some parent =>
      simp only [wp_ite, wp_set, wp_throw, implies_true, and_true]
      exact fun _ => fun hhas => hfree (.inr hhas)

theorem preserves_zfsCreate (n : Name) (path : List String) (mounted : Bool) :
    Preserves (Keeps n) (zfsCreate h path mounted) := by
  refine Preserves.of_wp fun t => wp_mono (zfsCreate_spec path mounted t) ?_ ?_
  · rintro _ t' ⟨hfree, rfl⟩
    intro node hnode
    have hne : n ≠ dataset path := by
      rintro rfl
      exact hfree (Tree.has_iff.2 ⟨node, hnode⟩)
    exact Keeps.set_of_ne hne node hnode
  · rintro _ t' rfl
    exact Keeps.refl n t'

theorem preserves_createParents (n : Name) (parents : List (List String)) :
    Preserves (Keeps n) (createParents h parents) := by
  induction parents with
  | nil => exact .pure ()
  | cons parent parents ih =>
      refine Preserves.bind (Preserves.of_after_eq fun _ => rfl) fun b => ?_
      exact .ite (fun _ => (preserves_zfsCreate n parent false).bind fun _ => ih) fun _ => ih

theorem preserves_datasetCreate (n : Name) (path : List String) :
    Preserves (Keeps n) (datasetCreate h path) := by
  refine (preserves_createParents n _).bind fun _ => ?_
  exact Preserves.get_bind fun t => preserves_zfsCreate n path _ t

theorem datasetSetSrMarker_spec (path : List String) (srUuid : String) (t : Tree) :
    wp (datasetSetSrMarker h path srUuid)
      (fun _ t' => ∃ node, t.get? (dataset path) = some node ∧
        t' = t.set (dataset path) { node with sr := some srUuid })
      (fun _ _ => True) t := by
  rw [datasetSetSrMarker, wp_bind]
  refine wp_mono (lookup_spec _ _ t) ?_ fun _ _ _ => trivial
  rintro node t' ⟨rfl, hnode⟩
  rw [wp_modify]
  exact ⟨node, hnode, rfl⟩

theorem datasetSetMountpoint_spec (path : List String) (mountpoint : String) (t : Tree) :
    wp (datasetSetMountpoint h path mountpoint)
      (fun _ t' => t' = t ∧ ∃ node, t.get? (dataset path) = some node ∧ node.kind = .filesystem)
      (fun _ _ => True) t := by
  rw [datasetSetMountpoint, wp_bind]
  refine wp_mono (lookup_spec _ _ t) ?_ fun _ _ _ => trivial
  rintro node t' ⟨rfl, hnode⟩
  rw [wp_ite]
  exact ⟨fun hk => ⟨rfl, node, hnode, hk⟩, fun _ => trivial⟩

theorem preserves_datasetMount (n : Name) (path : List String) :
    Preserves (Keeps n) (datasetMount h path) := by
  refine Preserves.of_wp fun t => ?_
  rw [datasetMount, wp_bind]
  refine wp_mono (lookup_spec _ _ t) ?_ ?_
  · rintro node t' ⟨rfl, hnode⟩
    rw [wp_modify]
    exact Keeps.set_of_core hnode rfl
  · rintro _ t' rfl
    exact Keeps.refl n t'

end ZfsLive.Datasets

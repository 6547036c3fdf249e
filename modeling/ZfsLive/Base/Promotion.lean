/-
Handing the snapshots of a zvol over to clones of it, in any order.

Promoting a clone of a snapshot moves the snapshot to the clone, and all older ones with it; a clone of
one of those then has its origin at the clone that was promoted, and moves the older part on when its
own turn comes.  At any time the snapshots are cut into consecutive groups, each held by a clone of its
last snapshot, and the rest by the zvol itself; a promotion cuts one group in two.

* `Zfs.Store.promoteAll` — promotions, one after the other;
* `Zfs.Chain` — the groups, and where the clones that were not promoted have their origins;
* `Zfs.Chain.split` — **what one promotion does**;
* `Zfs.Chain.promoteAll` — what all of them do, whatever their order;
* `Zfs.Chain.mem_group_iff` — when every snapshot had its turn, each is held by its own clone;
* `Zfs.Selects`, `Zfs.HandedOver` — a clone chosen for each snapshot, and what is wanted in the end;
* `Zfs.Selects.handedOver` — **promoting the chosen clones hands every snapshot over**.
-/

import Mathlib.Data.List.Nodup
import Mathlib.Data.List.Pairwise
import ZfsLive.Base.Zfs

set_option relaxedAutoImplicit false
set_option autoImplicit false

namespace Zfs

/-! ### Promotions one after the other -/

/-- Promote the clones, one after the other. -/
def Store.promoteAll (z : Store) : List ZvolName → Except ZfsError Store
  | [] => .ok z
  | c :: cs =>
      match z.promote c with
      | .ok z' => z'.promoteAll cs
      | .error e => .error e

theorem Store.promoteAll_cons {z z' : Store} {c : ZvolName} {cs : List ZvolName}
    (h : z.promoteAll (c :: cs) = .ok z') :
    ∃ z₁, z.promote c = .ok z₁ ∧ z₁.promoteAll cs = .ok z' := by
  rw [promoteAll] at h
  split at h
  · next z₁ hz => exact ⟨z₁, hz, h⟩
  · cases h

/-! ### Chains of holders -/

/-- A zvol and the snapshots that it has from the list that is handed over. -/
abbrev Group : Type := ZvolName × List Snap

/-- The snapshots that a zvol has of its own. -/
def Store.own (z : Store) (v n : ZvolName) : List Snap := if n = v then [] else (z.zvol n).snaps

/-- The snapshots that `v` had in `z` are held by the groups in `z'`, oldest first: by `v`, or by a
clone of the last one of the group.  A clone that holds nothing has its origin at the holder. -/
structure Chain (z z' : Store) (v : ZvolName) (groups : List Group) : Prop where
  names : z'.names = z.names
  props : ∀ n, (z'.zvol n).props = (z.zvol n).props
  flat : groups.flatMap Prod.snd = (z.zvol v).snaps
  holders : (groups.map Prod.fst).Nodup
  mem : v ∈ groups.map Prod.fst
  holds : ∀ g ∈ groups, (z'.zvol g.1).snaps = g.2 ++ z.own v g.1
  last : ∀ g ∈ groups, g.1 ≠ v → ∃ A t, g.2 = A ++ [t] ∧ (z.zvol g.1).origin = some ⟨v, t.id⟩
  others : ∀ n, n ∉ groups.map Prod.fst → (z'.zvol n).snaps = (z.zvol n).snaps
  clones : ∀ g ∈ groups, ∀ t ∈ g.2, ∀ n ∈ z.names, n ∉ groups.map Prod.fst →
    (z.zvol n).origin = some ⟨v, t.id⟩ → (z'.zvol n).origin = some ⟨g.1, t.id⟩

namespace Chain

open Store

variable {z z' z'' : Store} {v c d : ZvolName} {groups gs gs' : List Group} {A B : List Snap} {t : Snap}

/-- Nothing was promoted yet. -/
theorem refl (z : Store) (v : ZvolName) : Chain z z v [(v, (z.zvol v).snaps)] where
  names := rfl
  props _ := rfl
  flat := by simp
  holders := by simp
  mem := by simp
  holds g hg := by
    obtain rfl := List.mem_singleton.1 hg
    simp [own]
  last g hg hne := by
    obtain rfl := List.mem_singleton.1 hg
    exact absurd rfl hne
  others _ _ := rfl
  clones g hg t _ n _ _ horigin := by
    obtain rfl := List.mem_singleton.1 hg
    exact horigin

/-- A snapshot lies in one group only. -/
theorem eq_of_id (hids : (z.zvol v).ids.Nodup) (h : Chain z z' v groups) {g g' : Group} {t t' : Snap}
    (hg : g ∈ groups) (hg' : g' ∈ groups) (ht : t ∈ g.2) (ht' : t' ∈ g'.2) (hid : t.id = t'.id) :
    g = g' ∧ t = t' := by
  rw [Zvol.ids, ← h.flat] at hids
  have htt : t = t' := List.inj_on_of_nodup_map hids (List.mem_flatMap.2 ⟨g, hg, ht⟩)
    (List.mem_flatMap.2 ⟨g', hg', ht'⟩) hid
  refine ⟨?_, htt⟩
  by_contra hne
  have hdisj := (List.nodup_flatMap.1 (List.Nodup.of_map _ hids)).2
  have hsymm : Std.Symm (Function.onFun List.Disjoint (Prod.snd : Group → List Snap)) :=
    ⟨fun _ _ h _ hb ha => h ha hb⟩
  exact hdisj.forall hg hg' hne ht (htt ▸ ht')

/-- The snapshots of a group, apart from each other and from the rest of it. -/
theorem ids_nodup (hids : (z.zvol v).ids.Nodup) (h : Chain z z' v groups) {g : Group}
    (hg : g ∈ groups) : (g.2.map Snap.id).Nodup := by
  rw [Zvol.ids, ← h.flat, List.map_flatMap] at hids
  exact (List.nodup_flatMap.1 hids).1 g hg

/-- What a promotion moves: the group up to the snapshot. -/
theorem moved_eq (hids : (z.zvol v).ids.Nodup) (h : Chain z z' v (gs ++ (d, A ++ t :: B) :: gs')) :
    z'.moved ⟨d, t.id⟩ = A ++ [t] ∧ z'.kept ⟨d, t.id⟩ = B ++ z.own v d := by
  have hg : (d, A ++ t :: B) ∈ gs ++ (d, A ++ t :: B) :: gs' := by simp
  have hsnaps : (z'.zvol d).snaps = A ++ t :: (B ++ z.own v d) := by
    rw [h.holds _ hg, List.append_assoc, List.cons_append]
  have hA : ∀ u ∈ A, u.id ≠ t.id := by
    have hnodup := h.ids_nodup hids hg
    rw [List.map_append, List.map_cons, List.nodup_append] at hnodup
    exact fun u hu => hnodup.2.2 _ (List.mem_map_of_mem hu) _ (List.mem_cons_self ..)
  have hsplit : splitAt t.id (A ++ t :: (B ++ z.own v d)) = A.length + 1 := by
    have hidx : A.findIdx (·.id = t.id) = A.length := by simpa using hA
    rw [splitAt, List.findIdx_append, hidx, if_neg (Nat.lt_irrefl _), List.findIdx_cons]
    simp
  have hcut : A ++ t :: (B ++ z.own v d) = (A ++ [t]) ++ (B ++ z.own v d) := by simp
  have hlen : (A ++ [t]).length = A.length + 1 := by simp
  rw [moved, kept]
  simp only [hsnaps, hsplit]
  rw [hcut]
  exact ⟨List.take_left' hlen, List.drop_left' hlen⟩

/-- The clone that is promoted next holds nothing yet, and has its origin at the holder of its
snapshot. -/
theorem promote_eq (h : Chain z z' v (gs ++ (d, A ++ t :: B) :: gs')) (hc : c ∈ z.names)
    (horigin : (z.zvol c).origin = some ⟨v, t.id⟩)
    (hnew : c ∉ (gs ++ (d, A ++ t :: B) :: gs').map Prod.fst) (hok : z'.promote c = .ok z'') :
    z'' = z'.turned c ⟨d, t.id⟩ := by
  have ho := h.clones (d, A ++ t :: B) (by simp) t (by simp) c hc hnew horigin
  obtain ⟨_, s, hs, _, rfl⟩ := promote_ok hok
  obtain rfl : (⟨d, t.id⟩ : SnapName) = s := by simpa [ho] using hs
  rfl

/-- The groups that a promotion does not cut. -/
theorem ne_of_mem (h : Chain z z' v (gs ++ (d, A ++ t :: B) :: gs'))
    (hnew : c ∉ (gs ++ (d, A ++ t :: B) :: gs').map Prod.fst) {g : Group} (hg : g ∈ gs ∨ g ∈ gs') :
    g ∈ gs ++ (d, A ++ t :: B) :: gs' ∧ g.1 ≠ c ∧ g.1 ≠ d := by
  have hmem : g ∈ gs ++ (d, A ++ t :: B) :: gs' := by
    rw [List.mem_append, List.mem_cons]
    exact hg.imp_right .inr
  have hholders := h.holders
  rw [List.map_append, List.map_cons, List.nodup_append, List.nodup_cons] at hholders
  obtain ⟨_, ⟨hd, _⟩, hdisj⟩ := hholders
  refine ⟨hmem, fun heq => hnew (heq ▸ List.mem_map_of_mem hmem), fun heq => ?_⟩
  obtain hg | hg := hg
  · exact hdisj g.1 (List.mem_map_of_mem hg) d (List.mem_cons_self ..) heq
  · have hfst : g.1 ∈ gs'.map Prod.fst := List.mem_map_of_mem hg
    exact hd (heq ▸ hfst)

/-- The snapshot that a group ends with, when the group is cut before it. -/
theorem last_of_cut {t' : Snap} {A' : List Snap} (heq : A ++ t :: B = A' ++ [t']) (hne : t' ≠ t) :
    ∃ B', B = B' ++ [t'] := by
  rcases B.eq_nil_or_concat with rfl | ⟨B', u, rfl⟩
  · have := List.append_inj_right' heq rfl
    exact absurd (List.singleton_injective this).symm hne
  · have hlast : A ++ t :: B' ++ [u] = A' ++ [t'] := by simpa using heq
    have := List.append_inj_right' hlast rfl
    exact ⟨B', by rw [List.concat_eq_append, List.singleton_injective this]⟩

/-- The groups after a promotion: that of the clone, the one that was cut, and the others. -/
theorem mem_cut (h : Chain z z' v (gs ++ (d, A ++ t :: B) :: gs'))
    (hnew : c ∉ (gs ++ (d, A ++ t :: B) :: gs').map Prod.fst) {g : Group}
    (hg : g ∈ gs ++ (c, A ++ [t]) :: (d, B) :: gs') :
    g = (c, A ++ [t]) ∨ g = (d, B) ∨ g ∈ gs ++ (d, A ++ t :: B) :: gs' ∧ g.1 ≠ c ∧ g.1 ≠ d := by
  simp only [List.mem_append, List.mem_cons] at hg
  obtain hg | hg | hg | hg := hg
  · exact .inr (.inr (h.ne_of_mem hnew (.inl hg)))
  · exact .inl hg
  · exact .inr (.inl hg)
  · exact .inr (.inr (h.ne_of_mem hnew (.inr hg)))

section Follow

variable {n : ZvolName} {u : Snap} (hids : (z.zvol v).ids.Nodup)
  (h : Chain z z' v (gs ++ (d, A ++ t :: B) :: gs')) (hn : n ∈ z.names)
  (hout : n ∉ (gs ++ (d, A ++ t :: B) :: gs').map Prod.fst) (hnc : n ≠ c) (hnd : n ≠ d)
  (horigin : (z.zvol n).origin = some ⟨v, u.id⟩)

include hids h hn hout hnc hnd horigin

/-- A clone of a snapshot that a promotion moves follows it. -/
theorem origin_of_moved (hu : u ∈ A ++ [t]) :
    ((z'.turned c ⟨d, t.id⟩).zvol n).origin = some ⟨c, u.id⟩ := by
  have hu' : u ∈ A ++ t :: B := by
    rw [List.append_cons]
    exact List.mem_append.2 (.inl hu)
  have hmoved : u.id ∈ (z'.moved ⟨d, t.id⟩).map Snap.id :=
    (h.moved_eq hids).1 ▸ List.mem_map_of_mem hu
  rw [zvol_turned, promoted_of_ne z' hnc hnd, follow,
    h.clones (d, A ++ t :: B) (by simp) u hu' n hn hout horigin, Option.map_some,
    if_pos ⟨rfl, hmoved⟩]

/-- A clone of a snapshot that a promotion leaves in place stays one. -/
theorem origin_of_kept (hu : u ∈ B) :
    ((z'.turned c ⟨d, t.id⟩).zvol n).origin = some ⟨d, u.id⟩ := by
  have hcut : (d, A ++ t :: B) ∈ gs ++ (d, A ++ t :: B) :: gs' := by simp
  have hu' : u ∈ A ++ t :: B := List.mem_append.2 (.inr (List.mem_cons_of_mem _ hu))
  have hnot : u.id ∉ (z'.moved ⟨d, t.id⟩).map Snap.id := by
    have hnodup := h.ids_nodup hids hcut
    rw [List.append_cons, List.map_append, List.nodup_append] at hnodup
    rw [(h.moved_eq hids).1]
    exact fun hmem => hnodup.2.2 _ hmem _ (List.mem_map_of_mem hu) rfl
  rw [zvol_turned, promoted_of_ne z' hnc hnd, follow, h.clones _ hcut u hu' n hn hout horigin,
    Option.map_some, if_neg fun hcond => hnot hcond.2]

end Follow

/-- **A promotion cuts a group in two**: the clone takes it up to the snapshot, and the rest stays. -/
theorem split (hwf : WF z) (h : Chain z z' v (gs ++ (d, A ++ t :: B) :: gs')) (hc : c ∈ z.names)
    (horigin : (z.zvol c).origin = some ⟨v, t.id⟩)
    (hfirst : ∀ n ∈ (gs ++ (d, A ++ t :: B) :: gs').map Prod.fst,
      (z.zvol n).origin ≠ some ⟨v, t.id⟩)
    (hok : z'.promote c = .ok z'') :
    Chain z z'' v (gs ++ (c, A ++ [t]) :: (d, B) :: gs') := by
  have hnew : c ∉ (gs ++ (d, A ++ t :: B) :: gs').map Prod.fst := fun hmem => hfirst c hmem horigin
  have hids : (z.zvol v).ids.Nodup := hwf.nodup v (hwf.origin_has c hc _ horigin).1
  have hcv : c ≠ v := fun heq => hwf.origin_ne hc horigin heq.symm
  have hcut : (d, A ++ t :: B) ∈ gs ++ (d, A ++ t :: B) :: gs' := by simp
  have hdc : d ≠ c := fun heq => hnew (heq ▸ List.mem_map_of_mem hcut)
  obtain ⟨hmoved, hkept⟩ := h.moved_eq hids
  obtain rfl := h.promote_eq hc horigin hnew hok
  have hfst : ∀ n, n ∉ (gs ++ (c, A ++ [t]) :: (d, B) :: gs').map Prod.fst →
      n ≠ c ∧ n ≠ d ∧ n ∉ (gs ++ (d, A ++ t :: B) :: gs').map Prod.fst := by
    intro n hn
    simp only [List.map_append, List.map_cons, List.mem_append, List.mem_cons, not_or] at hn ⊢
    exact ⟨hn.2.1, hn.2.2.1, hn.1, hn.2.2.1, hn.2.2.2⟩
  refine ⟨h.names, fun n => ?_, ?_, ?_, ?_, fun g hg => ?_, fun g hg hgv => ?_, fun n hn => ?_,
    fun g hg u hu n hn hout hn_origin => ?_⟩
  · rw [zvol_turned, props_promoted, h.props]
  · rw [← h.flat]
    simp
  · rw [List.map_append, List.map_cons, List.perm_middle.nodup_iff, List.nodup_cons]
    have hholders := h.holders
    rw [List.map_append, List.map_cons] at hholders hnew
    exact ⟨hnew, hholders⟩
  · have hmem := h.mem
    simp only [List.map_append, List.map_cons, List.mem_append, List.mem_cons] at hmem ⊢
    exact hmem.imp_right .inr
  · obtain rfl | rfl | ⟨hold, hgc, hgd⟩ := h.mem_cut hnew hg
    · rw [zvol_turned, promoted_self, own, if_neg hcv, ← h.others c hnew, ← hmoved]
    · rw [zvol_turned, promoted_origin z' (s := ⟨d, t.id⟩) hdc]
      exact hkept
    · rw [zvol_turned, promoted_of_ne z' hgc hgd]
      exact h.holds g hold
  · obtain rfl | rfl | ⟨hold, hgc, hgd⟩ := h.mem_cut hnew hg
    · exact ⟨A, t, rfl, horigin⟩
    · obtain ⟨A', t', hlast, ho⟩ := h.last _ hcut hgv
      obtain ⟨B', hB⟩ := last_of_cut hlast fun heq =>
        hfirst d (List.mem_map_of_mem hcut) (heq ▸ ho)
      exact ⟨B', t', hB, ho⟩
    · exact h.last g hold hgv
  · obtain ⟨hnc, hnd, hold⟩ := hfst n hn
    rw [zvol_turned, promoted_of_ne z' hnc hnd]
    exact h.others n hold
  · obtain ⟨hnc, hnd, hold⟩ := hfst n hout
    obtain rfl | rfl | ⟨hmem, _, hgd⟩ := h.mem_cut hnew hg
    · exact h.origin_of_moved hids hn hold hnc hnd hn_origin hu
    · exact h.origin_of_kept hids hn hold hnc hnd hn_origin hu
    · rw [zvol_turned, promoted_of_ne z' hnc hnd, follow,
        h.clones g hmem u hu n hn hold hn_origin, Option.map_some, if_neg fun hcond => hgd hcond.1]

/-- Every snapshot is in some group. -/
theorem exists_cut (h : Chain z z' v groups) (ht : t ∈ (z.zvol v).snaps) :
    ∃ gs d A B gs', groups = gs ++ (d, A ++ t :: B) :: gs' := by
  rw [← h.flat] at ht
  obtain ⟨⟨d, seg⟩, hg, hseg⟩ := List.mem_flatMap.1 ht
  obtain ⟨gs, gs', rfl⟩ := List.append_of_mem hg
  obtain ⟨A, B, rfl⟩ := List.append_of_mem hseg
  exact ⟨gs, d, A, B, gs', rfl⟩

/-- Clones of snapshots of `v`, of no snapshot twice and of none that had its turn. -/
structure Waiting (z : Store) (v : ZvolName) (groups : List Group) (deps : List ZvolName) : Prop where
  clone : ∀ c ∈ deps, c ∈ z.names ∧ ∃ t ∈ (z.zvol v).snaps, (z.zvol c).origin = some ⟨v, t.id⟩
  distinct : (deps.map fun c => (z.zvol c).origin).Nodup
  first : ∀ c ∈ deps, ∀ n ∈ groups.map Prod.fst, (z.zvol n).origin ≠ (z.zvol c).origin

variable {deps : List ZvolName}

/-- One clone is promoted, and the others wait. -/
theorem step (hwf : WF z) (h : Chain z z' v groups) (hwait : Waiting z v groups (c :: deps))
    (hok : z'.promote c = .ok z'') :
    ∃ groups', Chain z z'' v groups' ∧ Waiting z v groups' deps ∧
      ∀ n, n ∈ groups'.map Prod.fst ↔ n = c ∨ n ∈ groups.map Prod.fst := by
  obtain ⟨hc, t, ht, horigin⟩ := hwait.clone c (List.mem_cons_self ..)
  obtain ⟨gs, d, A, B, gs', rfl⟩ := h.exists_cut ht
  have hfst : ∀ n, n ∈ (gs ++ (c, A ++ [t]) :: (d, B) :: gs').map Prod.fst ↔
      n = c ∨ n ∈ (gs ++ (d, A ++ t :: B) :: gs').map Prod.fst := by
    intro n
    simp only [List.map_append, List.map_cons, List.mem_append, List.mem_cons]
    exact or_left_comm
  refine ⟨_, h.split hwf hc horigin (horigin ▸ hwait.first c (List.mem_cons_self ..)) hok,
    ⟨fun c' hc' => hwait.clone c' (List.mem_cons_of_mem _ hc'),
      (List.nodup_cons.1 hwait.distinct).2, fun c' hc' n hn heq => ?_⟩, hfst⟩
  obtain rfl | hn := (hfst n).1 hn
  · exact (List.nodup_cons.1 hwait.distinct).1 (List.mem_map.2 ⟨c', hc', heq.symm⟩)
  · exact hwait.first c' (List.mem_cons_of_mem _ hc') n hn heq

/-- A promotion is refused only where the clone has a snapshot with the name of one of `v`. -/
theorem exists_promote (hwf : WF z) (h : Chain z z' v groups)
    (hwait : Waiting z v groups (c :: deps))
    (hclash : ∀ u ∈ (z.zvol v).snaps, u.id ∉ (z.zvol c).ids) : ∃ z'', z'.promote c = .ok z'' := by
  obtain ⟨hc, t, ht, horigin⟩ := hwait.clone c (List.mem_cons_self ..)
  have hnew : c ∉ groups.map Prod.fst := fun hmem =>
    hwait.first c (List.mem_cons_self ..) c hmem rfl
  obtain ⟨gs, d, A, B, gs', rfl⟩ := h.exists_cut ht
  have hids : (z.zvol v).ids.Nodup := hwf.nodup v (hwf.origin_has c hc _ horigin).1
  have ho := h.clones (d, A ++ t :: B) (by simp) t (by simp) c hc hnew horigin
  have hsub : ∀ u ∈ A ++ [t], u ∈ (z.zvol v).snaps := by
    intro u hu
    rw [← h.flat, List.mem_flatMap]
    refine ⟨(d, A ++ t :: B), by simp, ?_⟩
    rw [List.append_cons]
    exact List.mem_append.2 (.inl hu)
  have hnot : ¬ ∃ u ∈ z'.moved ⟨d, t.id⟩, u.id ∈ (z'.zvol c).ids := by
    rw [(h.moved_eq hids).1, Zvol.ids, h.others c hnew]
    rintro ⟨u, hu, hid⟩
    exact hclash u (hsub u hu) hid
  refine ⟨z'.turned c ⟨d, t.id⟩, ?_⟩
  rw [Store.promote, if_neg (not_not.2 (h.names ▸ hc)), ho]
  simp only [if_neg hnot]

/-- **Promoting the clones, in any order**: each of them becomes a holder. -/
theorem promoteAll (hwf : WF z) (h : Chain z z' v groups) (hwait : Waiting z v groups deps)
    (hok : z'.promoteAll deps = .ok z'') :
    ∃ groups', Chain z z'' v groups' ∧
      ∀ n, n ∈ groups'.map Prod.fst ↔ n ∈ groups.map Prod.fst ∨ n ∈ deps := by
  induction deps generalizing z' groups with
  | nil =>
      cases hok
      exact ⟨groups, h, by simp⟩
  | cons c deps ih =>
      obtain ⟨z₁, hpromote, hrest⟩ := promoteAll_cons hok
      obtain ⟨groups₁, h₁, hwait₁, hfst⟩ := h.step hwf hwait hpromote
      obtain ⟨groups', hchain, hholders⟩ := ih h₁ hwait₁ hrest
      refine ⟨groups', hchain, fun n => ?_⟩
      rw [hholders, hfst, List.mem_cons, or_assoc, or_left_comm]

/-- The promotions go through where no clone has a snapshot with the name of one of `v`. -/
theorem exists_promoteAll (hwf : WF z) (h : Chain z z' v groups) (hwait : Waiting z v groups deps)
    (hclash : ∀ c ∈ deps, ∀ u ∈ (z.zvol v).snaps, u.id ∉ (z.zvol c).ids) :
    ∃ z'', z'.promoteAll deps = .ok z'' := by
  induction deps generalizing z' groups with
  | nil => exact ⟨z', rfl⟩
  | cons c deps ih =>
      obtain ⟨z₁, hz₁⟩ := h.exists_promote hwf hwait (hclash c (List.mem_cons_self ..))
      obtain ⟨groups₁, h₁, hwait₁, _⟩ := h.step hwf hwait hz₁
      obtain ⟨z'', hz''⟩ := ih h₁ hwait₁ fun c' hc' => hclash c' (List.mem_cons_of_mem _ hc')
      refine ⟨z'', ?_⟩
      rw [Store.promoteAll, hz₁]
      exact hz''

/-! ### When every snapshot had its turn -/

/-- A holder other than `v` holds the snapshot that it is a clone of. -/
theorem mem_of_holder (hids : (z.zvol v).ids.Nodup) (h : Chain z z' v groups) {g : Group}
    (hg : g ∈ groups) (hgv : g.1 ≠ v) (ht : t ∈ (z.zvol v).snaps)
    (horigin : (z.zvol g.1).origin = some ⟨v, t.id⟩) : t ∈ g.2 := by
  obtain ⟨A, u, hseg, ho⟩ := h.last g hg hgv
  have hu : u ∈ g.2 := by rw [hseg]; simp
  have huv : u ∈ (z.zvol v).snaps := by
    rw [← h.flat]
    exact List.mem_flatMap.2 ⟨g, hg, hu⟩
  have hid : t.id = u.id := by
    rw [horigin] at ho
    exact congrArg SnapName.id (Option.some.inj ho)
  rwa [List.inj_on_of_nodup_map hids ht huv hid]

/-- Every snapshot had its turn: each has a holder that is a clone of it. -/
def Done (z : Store) (v : ZvolName) (groups : List Group) : Prop :=
  ∀ t ∈ (z.zvol v).snaps, ∃ c ∈ groups.map Prod.fst, c ≠ v ∧ (z.zvol c).origin = some ⟨v, t.id⟩

/-- **At the end every clone holds its own snapshot only**, and `v` none. -/
theorem mem_group_iff (hids : (z.zvol v).ids.Nodup) (h : Chain z z' v groups)
    (hdone : Done z v groups) {g : Group} (hg : g ∈ groups) :
    t ∈ g.2 ↔ t ∈ (z.zvol v).snaps ∧ g.1 ≠ v ∧ (z.zvol g.1).origin = some ⟨v, t.id⟩ := by
  constructor
  · intro ht
    have htv : t ∈ (z.zvol v).snaps := by
      rw [← h.flat]
      exact List.mem_flatMap.2 ⟨g, hg, ht⟩
    obtain ⟨c, hc, hcv, horigin⟩ := hdone t htv
    obtain ⟨g', hg', rfl⟩ := List.mem_map.1 hc
    have ht' := h.mem_of_holder hids hg' hcv htv horigin
    obtain ⟨rfl, _⟩ := h.eq_of_id hids hg hg' ht ht' rfl
    exact ⟨htv, hcv, horigin⟩
  · rintro ⟨htv, hgv, horigin⟩
    exact h.mem_of_holder hids hg hgv htv horigin

end Chain

/-! ### Choosing the clones -/

/-- A clone is chosen for each snapshot, one after the other: one that is there, or a new one where
there is none. -/
inductive Selects : Store → List (SnapName × ZvolName) → Store → Prop
  | nil (z : Store) : Selects z [] z
  | found {z z' : Store} {s : SnapName} {c : ZvolName} {pairs : List (SnapName × ZvolName)} :
      c ∈ z.names → (z.zvol c).origin = some s → Selects z pairs z' → Selects z ((s, c) :: pairs) z'
  | made {z z₁ z' : Store} {s : SnapName} {c : ZvolName} {pairs : List (SnapName × ZvolName)} :
      (∀ n ∈ z.names, (z.zvol n).origin ≠ some s) → z.clone s c = .ok z₁ → Selects z₁ pairs z' →
      Selects z ((s, c) :: pairs) z'

/-- The snapshots of `v` went to the clones chosen for them, and nothing else changed: what else was
cloned from a snapshot is still a clone of it, under its new name. -/
structure HandedOver (z z' : Store) (v : ZvolName) (pairs : List (SnapName × ZvolName)) : Prop where
  bare : (z'.zvol v).snaps = []
  owns : ∀ n t, z'.Owns n t ↔ n ≠ v ∧ z.Owns n t ∨ z.Owns v t ∧ (⟨v, t.id⟩, n) ∈ pairs
  follow : ∀ p ∈ pairs, ∀ n ∈ z.names, n ≠ p.2 → (z.zvol n).origin = some p.1 →
    (z'.zvol n).origin = some ⟨p.2, p.1.id⟩
  props : ∀ n ∈ z.names, n ∈ z'.names ∧ (z'.zvol n).props = (z.zvol n).props

namespace Selects

open Store

variable {z z₁ z₂ : Store} {v : ZvolName} {pairs : List (SnapName × ZvolName)}

/-- Choosing changes no zvol that is there, and adds no snapshot. -/
theorem spec (hwf : WF z) (h : Selects z pairs z₁) :
    WF z₁ ∧ (∀ n ∈ z.names, n ∈ z₁.names ∧ z₁.zvol n = z.zvol n) ∧
      (∀ n t, z₁.Owns n t ↔ z.Owns n t) ∧
      ∀ p ∈ pairs, p.2 ∈ z₁.names ∧ (z₁.zvol p.2).origin = some p.1 := by
  induction h with
  | nil z => exact ⟨hwf, fun _ hn => ⟨hn, rfl⟩, fun _ _ => Iff.rfl, nofun⟩
  | found hc horigin _ ih =>
      obtain ⟨hwf', hsame, howns, hpairs⟩ := ih hwf
      refine ⟨hwf', hsame, howns, fun p hp => ?_⟩
      obtain rfl | hp := List.mem_cons.1 hp
      · exact ⟨(hsame _ hc).1, by rw [(hsame _ hc).2, horigin]⟩
      · exact hpairs p hp
  | @made z z₂ z' s c pairs _ hclone _ ih =>
      obtain ⟨hwf', hsame, howns, hpairs⟩ := ih (hwf.clone hclone)
      obtain ⟨_, hnew, _, t, _, _, rfl⟩ := clone_ok hclone
      refine ⟨hwf', fun n hn => ?_, fun n t => (howns n t).trans (owns_clone hclone), fun p hp => ?_⟩
      · obtain ⟨hn', heq⟩ := hsame n (mem_names_put.2 (.inr hn))
        exact ⟨hn', heq.trans (zvol_put_of_ne z _ fun h => hnew (h ▸ hn))⟩
      · obtain rfl | hp := List.mem_cons.1 hp
        · obtain ⟨hc, heq⟩ := hsame c (mem_names_put.2 (.inl rfl))
          exact ⟨hc, by rw [heq, zvol_put_self]⟩
        · exact hpairs p hp

variable (hwf : WF z) (hv : v ∈ z.names)
  (hlist : (pairs.map Prod.fst).Perm ((z.zvol v).ids.map (SnapName.mk v)))

include hlist

/-- What is listed are the snapshots of `v`. -/
theorem exists_snap {p : SnapName × ZvolName} (hp : p ∈ pairs) :
    ∃ t ∈ (z.zvol v).snaps, (⟨v, t.id⟩ : SnapName) = p.1 := by
  obtain ⟨id, hid, hs⟩ := List.mem_map.1 (hlist.mem_iff.1 (List.mem_map_of_mem hp))
  obtain ⟨t, ht, rfl⟩ := List.mem_map.1 hid
  exact ⟨t, ht, hs⟩

/-- Every snapshot of `v` is listed. -/
theorem exists_pair {t : Snap} (ht : t ∈ (z.zvol v).snaps) : ∃ c, (⟨v, t.id⟩, c) ∈ pairs := by
  have hmem : (⟨v, t.id⟩ : SnapName) ∈ pairs.map Prod.fst :=
    hlist.mem_iff.2 (List.mem_map_of_mem (List.mem_map_of_mem ht))
  obtain ⟨⟨s, c⟩, hp, rfl⟩ := List.mem_map.1 hmem
  exact ⟨c, hp⟩

include hwf

/-- No zvol is chosen for a snapshot of its own. -/
theorem ne_of_mem (h : Selects z pairs z₁) {p : SnapName × ZvolName} (hp : p ∈ pairs) : p.2 ≠ v := by
  obtain ⟨hwf₁, _, _, hpairs⟩ := h.spec hwf
  obtain ⟨t, _, hs⟩ := exists_snap hlist hp
  exact fun heq => hwf₁.origin_ne (hpairs p hp).1 (hpairs p hp).2 (hs ▸ heq.symm)

include hv

theorem nodup_fst : (pairs.map Prod.fst).Nodup :=
  hlist.nodup_iff.2 ((hwf.nodup v hv).map fun _ _ heq => congrArg SnapName.id heq)

/-- The chosen clones wait for their promotion. -/
theorem waiting (h : Selects z pairs z₁) :
    Chain.Waiting z₁ v [(v, (z₁.zvol v).snaps)] (pairs.map Prod.snd) := by
  obtain ⟨hwf₁, hsame, _, hpairs⟩ := h.spec hwf
  obtain ⟨_, hvv⟩ := hsame v hv
  have hnodup := nodup_fst hwf hv hlist
  refine ⟨fun c hc => ?_, ?_, fun c hc n hn heq => ?_⟩
  · obtain ⟨p, hp, rfl⟩ := List.mem_map.1 hc
    obtain ⟨t, ht, hs⟩ := exists_snap hlist hp
    exact ⟨(hpairs p hp).1, t, hvv ▸ ht, by rw [(hpairs p hp).2, ← hs]⟩
  · have heq : (pairs.map Prod.snd).map (fun c => (z₁.zvol c).origin) =
        (pairs.map Prod.fst).map some := by
      rw [List.map_map, List.map_map]
      exact List.map_congr_left fun p hp => (hpairs p hp).2
    rw [heq]
    exact hnodup.map (Option.some_injective _)
  · obtain ⟨p, hp, rfl⟩ := List.mem_map.1 hc
    obtain ⟨t, _, hs⟩ := exists_snap hlist hp
    rw [(hpairs p hp).2, ← hs] at heq
    obtain rfl : n = v := by simpa using hn
    exact hwf₁.origin_ne (hsame n hv).1 heq rfl

section Promoted

variable {groups : List Group}
  (hholders : ∀ n, n ∈ groups.map Prod.fst ↔ n = v ∨ n ∈ pairs.map Prod.snd)

include hholders

/-- Every snapshot had its turn, when the holders are `v` and the chosen clones. -/
theorem done (h : Selects z pairs z₁) : Chain.Done z₁ v groups := by
  obtain ⟨_, hsame, _, hpairs⟩ := h.spec hwf
  intro t ht
  obtain ⟨c, hp⟩ := exists_pair hlist ((hsame v hv).2 ▸ ht)
  exact ⟨c, (hholders c).2 (.inr (List.mem_map_of_mem hp)), ne_of_mem hwf hlist h hp,
    (hpairs _ hp).2⟩

omit hv in
/-- A holder was chosen for the snapshot that it is a clone of. -/
theorem holder_iff (h : Selects z pairs z₁) {n : ZvolName} (hn : n ∈ groups.map Prod.fst)
    (id : String) : n ≠ v ∧ (z₁.zvol n).origin = some ⟨v, id⟩ ↔ (⟨v, id⟩, n) ∈ pairs := by
  obtain ⟨_, _, _, hpairs⟩ := h.spec hwf
  constructor
  · rintro ⟨hnv, horigin⟩
    obtain ⟨⟨s, c⟩, hp, rfl⟩ := List.mem_map.1 (((hholders n).1 hn).resolve_left hnv)
    have hs := (hpairs _ hp).2
    rw [horigin] at hs
    rwa [Option.some.inj hs]
  · exact fun hp => ⟨ne_of_mem hwf hlist h hp, (hpairs _ hp).2⟩

/-- What each zvol has in the end: nothing was added to it but the snapshot that it was chosen for. -/
theorem owns_iff (h : Selects z pairs z₁) (hchain : Chain z₁ z₂ v groups) (n : ZvolName) (t : Snap) :
    z₂.Owns n t ↔ n ≠ v ∧ z₁.Owns n t ∨ z₁.Owns v t ∧ (⟨v, t.id⟩, n) ∈ pairs := by
  obtain ⟨hwf₁, hsame, _, hpairs⟩ := h.spec hwf
  have hv₁ := (hsame v hv).1
  have hids : (z₁.zvol v).ids.Nodup := hwf₁.nodup v hv₁
  by_cases hn : n ∈ groups.map Prod.fst
  · obtain ⟨g, hg, rfl⟩ := List.mem_map.1 hn
    simp only [Owns, hchain.names, hchain.holds g hg, List.mem_append,
      hchain.mem_group_iff hids (done hwf hv hlist hholders h) hg,
      holder_iff hwf hlist hholders h hn t.id, own]
    by_cases hgv : g.1 = v
    · simp [hgv, hv₁]
    · have hmem : g.1 ∈ z₁.names := by
        obtain ⟨p, hp, hpg⟩ := List.mem_map.1 (((hholders g.1).1 hn).resolve_left hgv)
        exact hpg ▸ (hpairs p hp).1
      simp only [hgv, hmem, hv₁, if_false, true_and, ne_eq, not_false_eq_true]
      exact or_comm
  · have hnv : n ≠ v := fun heq => hn ((hholders n).2 (.inl heq))
    have hnp : (⟨v, t.id⟩, n) ∉ pairs := fun hp =>
      hn ((hholders n).2 (.inr (List.mem_map_of_mem hp)))
    simp only [Owns, hchain.names, hchain.others n hn, hnp, hnv, and_false, or_false, ne_eq,
      not_false_eq_true, true_and]

/-- What else was cloned from a snapshot follows it to the clone that was chosen. -/
theorem follow_eq (h : Selects z pairs z₁) (hchain : Chain z₁ z₂ v groups)
    {p : SnapName × ZvolName} (hp : p ∈ pairs) {n : ZvolName} (hn : n ∈ z₁.names) (hnp : n ≠ p.2)
    (horigin : (z₁.zvol n).origin = some p.1) : (z₂.zvol n).origin = some ⟨p.2, p.1.id⟩ := by
  obtain ⟨hwf₁, hsame, _, hpairs⟩ := h.spec hwf
  obtain ⟨hv₁, hvv⟩ := hsame v hv
  obtain ⟨t, ht, hs⟩ := exists_snap hlist hp
  rw [← hs] at horigin
  have hnv : n ≠ v := fun heq => hwf₁.origin_ne hn horigin heq.symm
  have hout : n ∉ groups.map Prod.fst := by
    intro hmem
    have hpn := (holder_iff hwf hlist hholders h hmem t.id).1 ⟨hnv, horigin⟩
    exact hnp (congrArg Prod.snd (List.inj_on_of_nodup_map (nodup_fst hwf hv hlist) hpn hp hs))
  obtain ⟨g, hg, hgp⟩ := List.mem_map.1 ((hholders p.2).2 (.inr (List.mem_map_of_mem hp)))
  have htg : t ∈ g.2 :=
    (hchain.mem_group_iff (hwf₁.nodup v hv₁) (done hwf hv hlist hholders h) hg).2
      ⟨hvv ▸ ht, hgp ▸ ne_of_mem hwf hlist h hp, by rw [hgp, (hpairs p hp).2, hs]⟩
  rw [hchain.clones g hg t htg n hn hout horigin, hgp, ← hs]

end Promoted

/-- **Promoting the chosen clones, one after the other, hands every snapshot over**, whatever the order
in which the snapshots are listed. -/
theorem handedOver (h : Selects z pairs z₁) (hok : z₁.promoteAll (pairs.map Prod.snd) = .ok z₂) :
    HandedOver z z₂ v pairs := by
  obtain ⟨hwf₁, hsame, howns, _⟩ := h.spec hwf
  obtain ⟨hv₁, _⟩ := hsame v hv
  obtain ⟨groups, hchain, hholders⟩ :=
    (Chain.refl z₁ v).promoteAll hwf₁ (h.waiting hwf hv hlist) hok
  simp only [List.map_cons, List.map_nil, List.mem_singleton] at hholders
  have hbare : (z₂.zvol v).snaps = [] := by
    refine List.eq_nil_iff_forall_not_mem.2 fun t ht => ?_
    have howns₂ : z₂.Owns v t := ⟨hchain.names ▸ hv₁, ht⟩
    obtain ⟨hne, _⟩ | ⟨_, hp⟩ := (owns_iff hwf hv hlist hholders h hchain v t).1 howns₂
    · exact hne rfl
    · exact ne_of_mem hwf hlist h hp rfl
  refine ⟨hbare, fun n t => ?_, fun p hp n hn hnp horigin => ?_, fun n hn => ?_⟩
  · rw [← howns, ← howns]
    exact owns_iff hwf hv hlist hholders h hchain n t
  · obtain ⟨hn₁, hnn⟩ := hsame n hn
    rw [← hnn] at horigin
    exact follow_eq hwf hv hlist hholders h hchain hp hn₁ hnp horigin
  · obtain ⟨hn₁, hnn⟩ := hsame n hn
    exact ⟨hchain.names ▸ hn₁, by rw [hchain.props, hnn]⟩

end Selects

end Zfs

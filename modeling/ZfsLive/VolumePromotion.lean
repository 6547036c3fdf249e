/-
**The promotion loop of `destroy`** (`src/volume/volume.py`).

Before `destroy` removes the zvol of a base VDI it hands the snapshots of the zvol over: it lists them,
chooses a clone of each, makes one where there is none, and promotes the chosen clones one after the
other.  `ZfsLive/VolumeDestroy.lean` follows the call for the order in which the snapshots were taken;
here the list comes in any order, and any clone can have been chosen.

Main results:

* `Volume.promoteEach_promoteAll` — the loop over the clones is `Store.promoteAll`;
* `Volume.wp_selectClones_selects` — what the loop over the snapshots chooses;
* `Volume.handsOver` — **for every order and every choice the snapshots are handed over**, and the zvol
  can be destroyed;
* `Volume.wp_promotionLoop` — the two loops of the code do that.
-/

import ZfsLive.Base.Promotion
import ZfsLive.VolumeReach

set_option relaxedAutoImplicit false
set_option autoImplicit false

namespace Volume

open Zfs Wp

variable {E : Env} {w w₁ w₂ : World} {v : ZvolName} {pairs : List (SnapName × ZvolName)}

/-! ### The loops of the code -/

theorem wp_promoteEach_promoteAll (deps : List ZvolName) (w : World) :
    wp (promoteEach E deps) (fun _ w' => w.zfs.promoteAll deps = .ok w'.zfs) (fun _ _ => True) w := by
  induction deps generalizing w with
  | nil => exact rfl
  | cons d deps ih =>
      rw [promoteEach, wp_bind]
      refine wp_zfsCmd (fun _ _ _ => trivial) (fun _ _ _ _ => trivial) fun w₁ hz _ => ?_
      refine wp_mono (ih w₁) (fun _ w₂ h₂ => ?_) fun _ _ h => h
      rw [Store.promoteAll, hz]
      exact h₂

/-- The loop over the clones promotes them, one after the other. -/
theorem promoteEach_promoteAll {deps : List ZvolName} (h : promoteEach E deps w = .ok () w₁) :
    w.zfs.promoteAll deps = .ok w₁.zfs :=
  (wp_of_ok h).1 (wp_promoteEach_promoteAll deps w)

/-- It goes through where no command fails and the promotions do. -/
theorem exists_promoteEach (hf : ∀ c, E.fault c = false) {deps : List ZvolName} {z : Store}
    (h : w.zfs.promoteAll deps = .ok z) : ∃ w', promoteEach E deps w = .ok () w' := by
  induction deps generalizing w with
  | nil => exact ⟨w, rfl⟩
  | cons d deps ih =>
      obtain ⟨z₁, hz₁, hrest⟩ := Store.promoteAll_cons h
      have hcmd : promoteClone E d w = .ok () { w.tick with zfs := z₁ } := by
        rw [promoteClone, zfsCmd, command, if_neg (by simp [hf]),
          show w.tick.zfs = w.zfs from rfl, hz₁]
      obtain ⟨w', hw'⟩ := ih (w := { w.tick with zfs := z₁ }) hrest
      exact ⟨w', by rw [promoteEach, bind_ok hcmd, hw']⟩

/-- One round of the loop over the snapshots: a clone that is there, or a new one. -/
theorem wp_selectClone_selects {ds : List String} {vdi : Vdi} {s : SnapName}
    {Q : ZvolName → World → Prop} (hwf : WF w.zfs)
    (hfound : ∀ d w', d ∈ w.zfs.names → (w.zfs.zvol d).origin = some s → w'.zfs = w.zfs → Q d w')
    (hmade : ∀ d w', (∀ n ∈ w.zfs.names, (w.zfs.zvol n).origin ≠ some s) →
      w.zfs.clone s d = .ok w'.zfs → Q d w') :
    wp (selectClone E ds vdi s) Q (fun _ _ => True) w := by
  rw [selectClone, wp_bind]
  refine wp_zfsGet (fun _ _ _ => trivial) (fun _ _ _ _ => trivial) fun clones w₁ hclones hs₁ => ?_
  obtain rfl : w.zfs.clones s = clones := by simpa using hclones
  rcases hd : w.zfs.clones s with _ | ⟨d, rest⟩
  · have hnone : ∀ n ∈ w.zfs.names, (w.zfs.zvol n).origin ≠ some s := by
      intro n hn ho
      have hmem := Store.mem_clones.2 ⟨hn, (hwf.origin_pool n hn s ho).symm, ho⟩
      rw [hd] at hmem
      cases hmem
    simp only [wp_bind, cloneSnapshot, wp_pure]
    refine wp_dbCmd (fun _ _ _ => trivial) (fun _ _ _ _ => trivial) fun id db w₂ _ _ hf₂ => ?_
    refine wp_uuid4 fun w₃ hd₃ => ?_
    refine wp_dbCmd (fun _ _ _ => trivial) (fun _ _ _ _ => trivial) fun _ db w₄ _ _ hf₄ => ?_
    refine wp_zfsCmd (fun _ _ _ => trivial) (fun _ _ _ _ => trivial) fun w₅ hz _ => ?_
    rw [hf₄.zfs, hd₃.zfs, hf₂.zfs, hs₁.zfs] at hz
    exact hmade _ w₅ hnone hz
  · have hmem := Store.mem_clones.1 (hd ▸ List.mem_cons_self .. : d ∈ w.zfs.clones s)
    exact hfound d w₁ hmem.1 hmem.2.2 hs₁.zfs

/-- **The loop over the snapshots chooses a clone of each.** -/
theorem wp_selectClones_selects {ds : List String} {vdi : Vdi} (ss : List SnapName) (w : World)
    (hwf : WF w.zfs) :
    wp (selectClones E ds vdi ss)
      (fun deps w' => deps.length = ss.length ∧ Selects w.zfs (ss.zip deps) w'.zfs)
      (fun _ _ => True) w := by
  induction ss generalizing w with
  | nil => exact ⟨rfl, .nil w.zfs⟩
  | cons s ss ih =>
      rw [selectClones, wp_bind]
      refine wp_selectClone_selects hwf (fun d w₁ hmem ho hz => ?_) fun d w₁ hnone hz => ?_
      · rw [wp_bind]
        refine wp_mono (ih w₁ (hz ▸ hwf)) (fun deps w₂ h₂ => ?_) fun _ _ h => h
        exact ⟨congrArg Nat.succ h₂.1, .found hmem ho (hz ▸ h₂.2)⟩
      · rw [wp_bind]
        refine wp_mono (ih w₁ (hwf.clone hz)) (fun deps w₂ h₂ => ?_) fun _ _ h => h
        exact ⟨congrArg Nat.succ h₂.1, .made hnone hz h₂.2⟩

/-! ### Every order and every choice -/

theorem names_of_snapshots {z : Store} {ss : List SnapName} (h : z.snapshots v = .ok ss) :
    v ∈ z.names ∧ ss = (z.zvol v).ids.map (SnapName.mk v) := by
  rw [Store.snapshots] at h
  split at h
  · next hv =>
    cases h
    exact ⟨hv, rfl⟩
  · cases h

/-- A zvol without snapshots that is not open can be destroyed. -/
theorem exists_destroy_of_handedOver {z z' : Store} (hv : v ∈ z.names) (h : HandedOver z z' v pairs)
    (hidle : (z.zvol v).props.busy = false) : ∃ z'', z'.destroy v = .ok z'' := by
  obtain ⟨hmem, hprops⟩ := h.props v hv
  exact Store.exists_destroy hmem (by rw [hprops, hidle]) h.bare

/-- **The two loops of `destroy`**, over the snapshots in any order, hand each of them over. -/
theorem wp_promotionLoop {ds : List String} {vdi : Vdi} {ss listing : List SnapName} (w : World)
    (hwf : WF w.zfs) (hss : w.zfs.snapshots v = .ok ss) (horder : listing.Perm ss) :
    wp (do
        let deps ← selectClones E ds vdi listing
        promoteEach E deps
        return deps)
      (fun deps w' => HandedOver w.zfs w'.zfs v (listing.zip deps)) (fun _ _ => True) w := by
  obtain ⟨hv, rfl⟩ := names_of_snapshots hss
  rw [wp_bind]
  refine wp_mono (wp_selectClones_selects listing w hwf) (fun deps w₁ h₁ => ?_) fun _ _ h => h
  obtain ⟨hlen, hsel⟩ := h₁
  rw [wp_bind]
  refine wp_mono (wp_promoteEach_promoteAll deps w₁) (fun _ w₂ h₂ => ?_) fun _ _ h => h
  have hfst : (listing.zip deps).map Prod.fst = listing := List.map_fst_zip (by omega)
  have hsnd : (listing.zip deps).map Prod.snd = deps := List.map_snd_zip (by omega)
  exact hsel.handedOver hwf hv (hfst.symm ▸ horder) (hsnd.symm ▸ h₂)

/-- **The promotion loop hands every snapshot over**, for every order in which the snapshots of the zvol
are listed and every choice of clones: whenever the promotions go through, and they do unless a command
fails or a chosen clone has a snapshot of the same name.  The zvol can be destroyed then. -/
theorem handsOver {ss : List SnapName} (hwf : WF w.zfs) (hss : w.zfs.snapshots v = .ok ss)
    (horder : (pairs.map Prod.fst).Perm ss) (hsel : Selects w.zfs pairs w₁.zfs) :
    (∀ w₂, promoteEach E (pairs.map Prod.snd) w₁ = .ok () w₂ →
      HandedOver w.zfs w₂.zfs v pairs ∧
        ((w.zfs.zvol v).props.busy = false → ∃ z, w₂.zfs.destroy v = .ok z)) ∧
      ((∀ c, E.fault c = false) →
        (∀ p ∈ pairs, ∀ t, w.zfs.Owns v t → t.id ∉ (w₁.zfs.zvol p.2).ids) →
          ∃ w₂, promoteEach E (pairs.map Prod.snd) w₁ = .ok () w₂) := by
  obtain ⟨hv, rfl⟩ := names_of_snapshots hss
  constructor
  · intro w₂ hrun
    have hover := hsel.handedOver hwf hv horder (promoteEach_promoteAll hrun)
    exact ⟨hover, exists_destroy_of_handedOver hv hover⟩
  · intro hf hclash
    obtain ⟨hwf₁, hsame, _⟩ := hsel.spec hwf
    obtain ⟨z, hz⟩ := (Chain.refl w₁.zfs v).exists_promoteAll hwf₁ (hsel.waiting hwf hv horder)
      fun c hc t ht => by
        obtain ⟨p, hp, rfl⟩ := List.mem_map.1 hc
        exact hclash p hp t ⟨hv, (hsame v hv).2 ▸ ht⟩
    exact exists_promoteEach hf hz

/-- A disk with two snapshots; the newer one is hidden, and its clone was destroyed. -/
def twoSnapshots : World :=
  sampleWorld [.create "disk" "" 65536 false, .snapshot "", .clone "", .destroy "uu"]

/-- The newer snapshot is listed first and gets a new clone, and the older one its only clone. -/
def newestFirst : List (SnapName × ZvolName) :=
  [(⟨⟨["tank", "vms"], ""⟩, "uuu"⟩, ⟨["tank", "vms"], "uuuu"⟩),
    (⟨⟨["tank", "vms"], ""⟩, "u"⟩, ⟨["tank", "vms"], "u"⟩)]

theorem handsOver_newestFirst :
    ∃ w₁ w₂, promoteEach (sampleEnv fun _ => false) (newestFirst.map Prod.snd) w₁ = .ok () w₂ ∧
      HandedOver twoSnapshots.zfs w₂.zfs ⟨["tank", "vms"], ""⟩ newestFirst := by
  have hwf : WF twoSnapshots.zfs := (reachable_sampleWorld _ (by decide +kernel)).settled.tidy.wf
  obtain ⟨z, hz⟩ : ∃ z, twoSnapshots.zfs.clone ⟨⟨["tank", "vms"], ""⟩, "uuu"⟩
      ⟨["tank", "vms"], "uuuu"⟩ = .ok z :=
    Store.exists_clone (by decide +kernel) (by decide +kernel) rfl
  obtain ⟨w₁, rfl⟩ : ∃ w₁ : World, w₁.zfs = z := ⟨{ twoSnapshots with zfs := z }, rfl⟩
  obtain ⟨_, _, _, t, _, _, hput⟩ := Store.clone_ok hz
  have hold : w₁.zfs.zvol ⟨["tank", "vms"], "u"⟩ = twoSnapshots.zfs.zvol ⟨["tank", "vms"], "u"⟩ := by
    rw [hput]
    exact Store.zvol_put_of_ne _ _ (by decide)
  have hsel : Selects twoSnapshots.zfs newestFirst w₁.zfs := by
    refine .made (by decide +kernel) hz (.found ?_ ?_ (.nil _))
    · exact (Store.names_clone hz).2 (.inr (by decide +kernel))
    · rw [hold]
      decide +kernel
  have hids : (twoSnapshots.zfs.zvol ⟨["tank", "vms"], ""⟩).ids.map
      (SnapName.mk ⟨["tank", "vms"], ""⟩) = (newestFirst.map Prod.fst).reverse := by decide +kernel
  have hss : twoSnapshots.zfs.snapshots ⟨["tank", "vms"], ""⟩ =
      .ok (newestFirst.map Prod.fst).reverse := by
    rw [Store.snapshots, if_pos (by decide +kernel), hids]
  obtain ⟨hover, hrun⟩ := handsOver (E := sampleEnv fun _ => false) hwf hss
    (List.reverse_perm _).symm hsel
  obtain ⟨w₂, hw₂⟩ := hrun (fun _ => rfl) fun p hp t _ => by
    simp only [newestFirst, List.mem_cons, List.not_mem_nil, or_false] at hp
    obtain rfl | rfl := hp
    · simp [hput, Zvol.ids]
    · have hnone : (twoSnapshots.zfs.zvol ⟨["tank", "vms"], "u"⟩).ids = [] := by decide +kernel
      simp [hold, hnone]
  exact ⟨_, w₂, hw₂, (hover w₂ hw₂).1⟩

end Volume

/-
**The two ways to copy a VDI by send and receive** (`src/volume/volume.py`, `src/shim/xe_wrapper.py`).

`Volume.copy` between two pools and `_invoke_cross_host_copy` between two hosts do the same work: they
snapshot the source, send the snapshot, and register what arrived.  A received zvol comes with the
snapshot that was sent.  `Volume.copy` destroys this snapshot at both ends before it registers the zvol;
the wrapper destroys it at the source only, and the new VDI keeps a snapshot that nothing knows of.

Main definitions:

* `XeWrapper.SameEnd` — the source is as it was, and the destination has one more VDI, with the content
  of the source, without snapshots, which a later destroy removes without a trace;
* `XeWrapper.Copying` — a run of one of the two.

Main results:

* `Zfs.Store.sentAndDropped` — a transient snapshot, from its making to its removal at both ends;
* `Volume.wp_copy_crossPool` — what `copy` leaves between two pools;
* `Volume.wp_destroy_unsnapped` — what a destroy of a zvol without snapshots leaves;
* `XeWrapper.sameEnd_iff` — **a copy between pools ends so exactly when the recorded size is that of
  the zvol; a copy between hosts never does**.
-/

import ZfsLive.VolumeContent
import ZfsLive.XeWrapper

set_option relaxedAutoImplicit false
set_option autoImplicit false

namespace Zfs.Store

/-! ### A transient snapshot -/

/-- The stores differ in the reservations of their zvols only. -/
structure Reserved (z z' : Store) : Prop where
  names : z'.names = z.names
  zvol : ∀ n, ∃ r, z'.zvol n =
    { z.zvol n with props := { (z.zvol n).props with refreservation := r } }

variable {z z₁ z₂ z₃ z₄ z₅ : Store} {s : SnapName} {n : ZvolName}

theorem Reserved.refl (z : Store) : Reserved z z where
  names := rfl
  zvol _ := ⟨_, rfl⟩

theorem Reserved.setProps {r : ℕ}
    (h : z.setProps n (fun p => { p with refreservation := r }) = .ok z₁) : Reserved z z₁ := by
  obtain ⟨hn, rfl⟩ := setProps_ok h
  refine ⟨if_pos hn, fun m => ?_⟩
  by_cases hm : m = n
  · subst hm
    exact ⟨r, zvol_put_self ..⟩
  · exact ⟨_, zvol_put_of_ne _ _ hm⟩

/-- What a snapshot records. -/
theorem snapshot_eq (h : z.snapshot s = .ok z₁) :
    s.zvol ∈ z.names ∧ s.id ∉ (z.zvol s.zvol).ids ∧
      z₁ = z.put s.zvol { z.zvol s.zvol with
        snaps := (z.zvol s.zvol).snaps ++ [⟨s.id, (z.zvol s.zvol).props.volsize,
          (z.zvol s.zvol).props.volblocksize, (z.zvol s.zvol).props.content⟩] } := by
  rw [snapshot] at h
  split_ifs at h with hn hs
  cases h
  exact ⟨by simpa using hn, hs, rfl⟩

/-- The snapshots of the target, and what it has of the source. -/
structure RoundTrip (z z' : Store) (m n : ZvolName) : Prop where
  source : (z'.zvol m).snaps = (z.zvol m).snaps
  there : n ∈ z'.names
  bare : (z'.zvol n).snaps = []
  volsize : (z'.zvol n).props.volsize = (z.zvol m).props.volsize
  content : (z'.zvol n).props.content = (z.zvol m).props.content

/-- **A snapshot is taken, sent, received, and destroyed at both ends.** -/
theorem sentAndDropped (h₁ : z.snapshot s = .ok z₁) (h₂ : z₁.receive s n = .ok z₂) (h₃ : Reserved z₂ z₃)
    (h₄ : z₃.destroySnap s = .ok z₄) (h₅ : z₄.destroySnap ⟨n, s.id⟩ = .ok z₅) :
    RoundTrip z z₅ s.zvol n := by
  obtain ⟨hs, hid, rfl⟩ := snapshot_eq h₁
  obtain ⟨_, hn, t, ht, htid, rfl⟩ := receive_ok h₂
  rw [mem_names_put, not_or] at hn
  rw [zvol_put_self, List.mem_append, List.mem_singleton] at ht
  have hsid : ∀ u ∈ (z.zvol s.zvol).snaps, u.id ≠ s.id := fun u hu heq =>
    hid (heq ▸ List.mem_map_of_mem hu)
  obtain rfl := ht.resolve_left fun hold => hsid t hold htid
  obtain ⟨_, _, rfl⟩ := destroySnap_ok h₄
  obtain ⟨_, _, rfl⟩ := destroySnap_ok h₅
  obtain ⟨r, hr⟩ := h₃.zvol n
  obtain ⟨r', hr'⟩ := h₃.zvol s.zvol
  rw [zvol_put_self] at hr
  rw [zvol_put_of_ne _ _ (Ne.symm hn.1), zvol_put_self] at hr'
  have hsnaps : (z.zvol s.zvol).snaps.filter (fun u => u.id ≠ s.id) = (z.zvol s.zvol).snaps :=
    List.filter_eq_self.2 fun u hu => by simpa using hsid u hu
  refine ⟨?_, mem_names_put.2 (.inl rfl), ?_, ?_, ?_⟩
  · rw [zvol_put_of_ne _ _ (Ne.symm hn.1), zvol_put_self, hr']
    simpa using hsnaps
  · rw [zvol_put_self, zvol_put_of_ne _ _ hn.1, hr]
    simp
  · rw [zvol_put_self, zvol_put_of_ne _ _ hn.1, hr]
  · rw [zvol_put_self, zvol_put_of_ne _ _ hn.1, hr]

end Zfs.Store

namespace Volume

open Zfs Wp

variable {E : Env} {w w' : World} {s r : SnapName} {n : ZvolName} {sr dest_sr key : String}
  {m dm : SrMeta} {vdi : Vdi}

/-! ### The parts of `copy` -/

/-- A thick copy gets a reservation, and nothing else changes. -/
theorem wp_keepThick_reserved (src_thick : Bool) :
    wp (keepThick E src_thick n) (fun _ w' => Store.Reserved w.zfs w'.zfs ∧ w'.db = w.db)
      (fun _ _ => True) w := by
  rw [keepThick, wp_ite]
  refine ⟨fun _ => ?_, fun _ => ⟨.refl _, rfl⟩⟩
  simp only [volSetThickRefreservation, wp_bind]
  refine wp_zfsGet (fun _ _ _ => trivial) (fun _ _ _ _ => trivial) fun _ w₁ _ hs₁ => ?_
  refine wp_zfsGet (fun _ _ _ => trivial) (fun _ _ _ _ => trivial) fun _ w₂ _ hs₂ => ?_
  refine wp_zfsCmd (fun _ _ _ => trivial) (fun _ _ _ _ => trivial) fun w₃ hz₃ hs₃ => ?_
  rw [hs₂.zfs, hs₁.zfs] at hz₃
  exact ⟨.setProps hz₃, hs₃.db.trans (hs₂.db.trans hs₁.db)⟩

/-- The replication between pools receives the snapshot. -/
theorem wp_replicate_crossPool (src_thick : Bool) :
    wp (replicate E false src_thick s n)
      (fun _ w' => (∃ z, w.zfs.receive s n = .ok z ∧ Store.Reserved z w'.zfs) ∧ w'.db = w.db)
      (fun _ _ => True) w := by
  rw [replicate]
  refine wp_guarded ?_ fun e w' => wp_throw_after fun _ => wp_throw_after fun _ => trivial
  rw [wp_bind, transfer, if_neg Bool.false_ne_true, wp, volSendReceive]
  by_cases hfault : E.fault w.clock ∧ E.received w.clock
  · rw [if_pos hfault]
    rcases w.zfs.receive s n with e | z <;> trivial
  · rw [if_neg hfault]
    refine wp_zfsCmd (Q := fun _ w₁ => wp (keepThick E src_thick n) _ _ w₁) (X := fun _ _ => True)
      (fun _ _ _ => trivial) (fun _ _ _ _ => trivial) fun w₁ hz₁ hs₁ => ?_
    refine wp_mono (wp_keepThick_reserved src_thick) (fun _ w₂ h₂ => ?_) fun _ _ h => h
    exact ⟨⟨w₁.zfs, hz₁, h₂.1⟩, h₂.2.trans hs₁.db⟩

/-- Both snapshots of the replication are destroyed. -/
theorem wp_dropTransients_both :
    wp (dropTransients E s r)
      (fun _ w' => (∃ z, w.zfs.destroySnap s = .ok z ∧ z.destroySnap r = .ok w'.zfs) ∧ w'.db = w.db)
      (fun _ _ => True) w := by
  rw [dropTransients]
  refine wp_guarded ?_ fun e w' =>
    wp_throw_after fun _ => wp_throw_after fun _ => wp_throw_after fun _ => trivial
  rw [wp_bind]
  refine wp_destroyZvol (fun _ _ _ => trivial) (fun _ _ _ _ => trivial) fun w₁ hz₁ hd₁ => ?_
  refine wp_destroyZvol (fun _ _ _ => trivial) (fun _ _ _ _ => trivial) fun w₂ hz₂ hd₂ => ?_
  exact ⟨⟨w₁.zfs, hz₁, hz₂⟩, hd₂.db.trans hd₁.db⟩

/-- The metabase has one more row: that of a base VDI with the uuid `key` and a size. -/
def AddsRow (db db' : Metabase) (key : String) (vsize : Option ℕ) : Prop :=
  ∃ v, (∀ c, c ∈ db'.vdis ↔ c = v ∨ c ∈ db.vdis) ∧ v ∉ db.vdis ∧ v.uuid = key ∧ v.snap = false ∧
    v.vsize = vsize

theorem AddsRow.unique {db db' : Metabase} {key : String} {a b : Option ℕ}
    (h : AddsRow db db' key a) (h' : AddsRow db db' key b) : a = b := by
  obtain ⟨v, hv, hnew, _, _, rfl⟩ := h
  obtain ⟨v', hv', _, _, _, rfl⟩ := h'
  obtain rfl | hold := (hv' v).1 ((hv v).2 (.inl rfl))
  · rfl
  · exact absurd hold hnew

/-- The last transaction of `copy` adds the row of the new VDI. -/
theorem wp_registerCopy_row {cols : VdiCols} {size : ℕ} {vsize : Option ℕ} :
    wp (dbContext E sr do
        let volume_id ← insertNewVolume E size
        insertVdi E cols volume_id
        updateVolumeVsize E volume_id vsize)
      (fun _ w' => w'.zfs = w.zfs ∧ AddsRow (w.db sr) (w'.db sr) cols.uuid vsize)
      (fun _ _ => True) w := by
  refine wp_dbContext (fun _ _ _ => trivial) fun w₁ hf₁ hwork₁ => ?_
  simp only [wp_bind]
  refine wp_dbCmd (fun _ _ _ => trivial) (fun _ _ _ _ => trivial) fun id db w₂ hins hwork₂ hf₂ => ?_
  cases hins
  refine wp_dbCmd (fun _ _ _ => trivial) (fun _ _ _ _ => trivial) fun _ db₃ w₃ hvdi hwork₃ hf₃ => ?_
  split at hvdi
  · next db' hdb =>
    cases hvdi
    refine wp_dbCmd (fun _ _ _ => trivial) (fun _ _ _ _ => trivial) fun _ db₄ w₄ hup hwork₄ hf₄ => ?_
    cases hup
    rw [hwork₂, hwork₁] at hdb
    rw [hwork₃, hwork₁] at hwork₄
    refine ⟨fun _ _ _ => trivial, fun w₅ hc => ⟨?_, ?_⟩⟩
    · rw [hc.zfs, hf₄.zfs, hf₃.zfs, hf₂.zfs, hf₁.zfs]
    · have hrows : w₅.db sr = db₃.updateVolumeVsize (w.db sr).next vsize := by
        rw [hc.db, ← hwork₄]
        exact if_pos rfl
      rw [hrows]
      refine ⟨(⟨none, false, vsize, none⟩ : VolumeRow).join (w.db sr).next cols,
        fun c => Metabase.mem_vdis_insertSized hdb, fun hmem => ?_, rfl, rfl, rfl⟩
      exact Nat.lt_irrefl _ (Metabase.volume_id_lt hmem)
  · cases hvdi

/-- **`copy` between two pools**: the zvol has made the round trip, and the new row has the size that
is on record for the source, or that of its zvol where none is. -/
theorem wp_copy_crossPool (hm : E.srMeta sr = some m) (hdm : E.srMeta dest_sr = some dm)
    (hpool : m.zpool ≠ dm.zpool) (hvdi : vdi ∈ (w.db sr).vdis) :
    wp (copy E sr vdi.uuid dest_sr) (fun info w' =>
      Store.RoundTrip w.zfs w'.zfs ⟨m.datasetPath, vdi.uuid⟩ ⟨dm.datasetPath, info.key⟩ ∧
      AddsRow (w.db dest_sr) (w'.db dest_sr) info.key
        (some (vdi.vsize.getD (w.zfs.zvol ⟨m.datasetPath, vdi.uuid⟩).props.volsize)))
      (fun _ _ => True) w := by
  have hne : dest_sr ≠ sr := by
    rintro rfl
    exact hpool (congrArg SrMeta.zpool (Option.some.inj (hm.symm.trans hdm)))
  rw [copy, wp_bind]
  refine wp_getSrMetadata (fun _ => trivial) fun m' hm' => ?_
  obtain rfl := Option.some.inj (hm.symm.trans hm')
  rw [wp_bind, getDestMetadata, hdm]
  simp only [wp_pure, decide_eq_false hpool]
  rw [wp_bind]
  refine wp_uuid4 fun w₁ hd₁ => ?_
  rw [wp_bind]
  refine wp_uuid4 fun w₂ hd₂ => ?_
  -- the source
  rw [wp_bind]
  refine wp_dbContext (fun _ _ _ => trivial) fun w₃ hf₃ hwork₃ => ?_
  rw [wp_bind]
  refine wp_dbCmd (fun _ _ _ => trivial) (fun _ _ _ _ => trivial) fun vdi₀ db w₄ hget _ hf₄ => ?_
  rw [hwork₃, hd₂.db, hd₁.db, Metabase.getVdiById_eq hvdi] at hget
  cases hget
  simp only [wp_bind, wp_pure]
  refine wp_mono (wp_recoverVdiVsize_size ..) (fun vdi' w₅ h₅ => ?_) fun _ _ _ => trivial
  obtain ⟨hf₅, _, hsize⟩ := h₅
  have hf := (hf₃.trans hf₄).trans hf₅
  rw [hf₄.zfs, hf₃.zfs, hd₂.zfs, hd₁.zfs] at hsize
  refine ⟨fun _ _ _ => trivial, fun w₆ hc => ?_⟩
  have hzfs₆ : w₆.zfs = w.zfs := by rw [hc.zfs, hf.zfs, hd₂.zfs, hd₁.zfs]
  have hdb₆ : w₆.db dest_sr = w.db dest_sr := by
    rw [hc.db, hf.db, hd₂.db, hd₁.db]
    exact if_neg hne
  refine wp_zfsCmd (fun _ _ _ => trivial) (fun _ _ _ _ => trivial) fun w₇ hsnap hs₇ => ?_
  rw [hzfs₆] at hsnap
  refine wp_zfsGet (fun _ _ _ => trivial) (fun _ _ _ _ => trivial) fun refreservation w₈ _ hs₈ => ?_
  -- the replication
  refine wp_mono (wp_replicate_crossPool _) (fun _ w₉ h₉ => ?_) fun _ _ _ => trivial
  obtain ⟨⟨z, hrecv, hres⟩, hdb₉⟩ := h₉
  rw [hs₈.zfs] at hrecv
  rw [finishReplication, if_neg Bool.false_ne_true]
  refine wp_mono wp_dropTransients_both (fun _ w₁₀ h₁₀ => ?_) fun _ _ _ => trivial
  obtain ⟨⟨z', hdrop, hdrop'⟩, hdb₁₀⟩ := h₁₀
  have htrip := Store.sentAndDropped hsnap hrecv hres hdrop hdrop'
  have hdb : w₁₀.db dest_sr = w.db dest_sr := by
    rw [hdb₁₀, hdb₉, hs₈.db, hs₇.db, hdb₆]
  -- the new VDI
  refine wp_mono wp_registerCopy_row (fun _ w₁₁ h₁₁ => ?_) fun _ _ _ => trivial
  obtain ⟨hzfs₁₁, hrow⟩ := h₁₁
  refine wp_zfsGet (fun _ _ _ => trivial) (fun _ _ _ _ => trivial) fun used w₁₂ _ hs₁₂ => ?_
  rw [hdb, hsize] at hrow
  refine ⟨?_, ?_⟩
  · rw [hs₁₂.zfs, hzfs₁₁]
    exact htrip
  · rw [hs₁₂.db]
    exact hrow

/-! ### Destroying what arrived -/

/-- The last command of the branch for a base VDI destroys its zvol. -/
theorem wp_destroyBaseVdi_gone {ds : List String} :
    wp (destroyBaseVdi E ds vdi) (fun _ w' => (⟨ds, vdi.uuid⟩ : ZvolName) ∉ w'.zfs.names)
      (fun _ _ => True) w := by
  simp only [destroyBaseVdi, wp_bind]
  refine wp_mono (wp_true ..) (fun _ w₁ _ => ?_) fun _ _ h => h
  refine wp_mono (wp_true ..) (fun ss w₂ _ => ?_) fun _ _ h => h
  refine wp_mono (wp_true ..) (fun deps w₃ _ => ?_) fun _ _ h => h
  refine wp_mono (wp_true ..) (fun _ w₄ _ => ?_) fun _ _ h => h
  refine wp_destroyZvol (fun _ _ _ => trivial) (fun _ _ _ _ => trivial) fun w₅ hz _ hmem => ?_
  exact ((Store.names_destroy hz).1 hmem).2 rfl

/-- A destroy of a base VDI that returns has destroyed its zvol. -/
theorem wp_destroy_gone (hm : E.srMeta sr = some m) (hvdi : vdi ∈ (w.db sr).vdis)
    (hbase : vdi.snap = false) :
    wp (destroy E sr vdi.uuid)
      (fun _ w' => (⟨m.datasetPath, vdi.uuid⟩ : ZvolName) ∉ w'.zfs.names) (fun _ _ => True) w := by
  rw [destroy, wp_bind]
  refine wp_getSrMetadata (fun _ => trivial) fun m' hm' => ?_
  obtain rfl := Option.some.inj (hm.symm.trans hm')
  rw [wp_bind]
  refine wp_dbContext (fun _ _ _ => trivial) fun w₁ _ hwork₁ => ?_
  rw [destroyTxn, wp_bind]
  refine wp_dbCmd (fun _ _ _ => trivial) (fun _ _ _ _ => trivial) fun vdi₀ db w₂ hget _ _ => ?_
  rw [hwork₁, Metabase.getVdiById_eq hvdi] at hget
  cases hget
  rw [wp_bind]
  refine wp_recoverVdiVsize (fun _ _ _ => trivial) (fun _ _ _ _ => trivial) fun vdi' w₃ _ hrec => ?_
  have hsame := hrec.same
  have huuid : vdi'.uuid = vdi.uuid := by rw [hsame]
  have hsnap : vdi'.snap = vdi.snap := by rw [hsame]
  rw [wp_bind, destroyObjects, if_neg (by simp [hsnap, hbase])]
  refine wp_mono wp_destroyBaseVdi_gone (fun _ w₄ hgone => ?_) fun _ _ h => h
  rw [huuid] at hgone
  simp only [wp_bind, deleteVdi, volumeDestroy, deleteVolume]
  refine wp_dbCmd (fun _ _ _ => trivial) (fun _ _ _ _ => trivial) fun _ _ w₅ _ _ hf₅ => ?_
  refine wp_dbCmd (fun _ _ _ => trivial) (fun _ _ _ _ => trivial) fun _ _ w₆ _ _ hf₆ => ?_
  refine wp_dbCmd (fun _ _ _ => trivial) (fun _ _ _ _ => trivial) fun _ _ w₇ _ _ hf₇ => ?_
  refine ⟨fun _ _ _ => trivial, fun w₈ hc => ?_⟩
  have hzfs : w₈.zfs = w₄.zfs := by rw [hc.zfs, hf₇.zfs, hf₆.zfs, hf₅.zfs]
  refine wp_command (fun _ _ _ => trivial) (fun _ _ _ _ => trivial) fun _ w₉ h₉ => ?_
  cases h₉
  rw [wp_tryCatch]
  refine wp_command (fun _ w' hs => ?_) (fun e _ he => by cases he) fun _ w₁₀ h₁₀ => ?_
  · change _ ∉ w'.zfs.names
    rw [hs.zfs]
    exact hzfs ▸ hgone
  · cases h₁₀
    exact hzfs ▸ hgone

/-- **Without snapshots nothing is left** of a base VDI, and no VDI is made. -/
theorem wp_destroy_unsnapped (hT : Tidy E w) (hm : E.srMeta sr = some m)
    (hvdi : vdi ∈ (w.db sr).vdis) (hbase : vdi.snap = false)
    (hbare : (w.zfs.zvol ⟨m.datasetPath, vdi.uuid⟩).snaps = []) :
    wp (destroy E sr vdi.uuid) (fun _ w' => (⟨m.datasetPath, vdi.uuid⟩ : ZvolName) ∉ w'.zfs.names ∧
      ∀ c, c ∈ (w'.db sr).vdis ↔ c ∈ (w.db sr).vdis ∧ c.uuid ≠ vdi.uuid) (fun _ _ => True) w := by
  have hrows := wp_mono (wp_destroy hT sr vdi.uuid) (fun _ _ h => h) fun _ _ _ => trivial
  refine wp_mono (wp_and (wp_destroy_gone hm hvdi hbase) hrows) (fun _ w' h => ?_) fun _ _ h => h.1
  obtain ⟨hgone, m', vdi₀, vdi', hm', hvdi₀, huuid, hsame, hfin⟩ := h
  obtain rfl := Option.some.inj (hm.symm.trans hm')
  obtain rfl := Metabase.eq_of_uuid hvdi₀ hvdi huuid
  obtain ⟨new, _, hlen, hiff⟩ := hfin.rows
  have hnil : new = [] := by
    have hsnap : vdi'.snap = false := by rw [hsame]; exact hbase
    rw [orphans, hsnap, Zvol.ids, hbare] at hlen
    exact List.length_eq_zero_iff.1 hlen
  subst hnil
  exact ⟨hgone, fun c => by simpa using hiff c⟩

end Volume

namespace XeWrapper

open Zfs Volume Wp

/-! ### The two paths -/

/-- How a copy of the zvol `src` to `dest` should end, when the source goes from `z` to `z'` and the
destination from `w` to `w'`. -/
structure SameEnd (E : Env) (z z' : Store) (sr : String) (w w' : World) (src dest : ZvolName) :
    Prop where
  source : (z'.zvol src).snaps = (z.zvol src).snaps
  there : dest ∈ w'.zfs.names
  content : (w'.zfs.zvol dest).props.content = (z.zvol src).props.content
  bare : (w'.zfs.zvol dest).snaps = []
  row : AddsRow (w.db sr) (w'.db sr) dest.vol (some (w'.zfs.zvol dest).props.volsize)
  /-- A later destroy of the new VDI removes it, and makes no other. -/
  destroyed : ∀ w'', destroy E sr dest.vol w' = .ok () w'' →
    dest ∉ w''.zfs.names ∧ ∀ c, c ∈ (w''.db sr).vdis ↔ c ∈ (w.db sr).vdis

/-- **Between pools** the recorded size decides. -/
theorem sameEnd_copy_iff {E : Env} {w w' : World} {sr dest_sr : String} {m dm : SrMeta} {vdi : Vdi}
    {info : VolInfo} (hT : Tidy E w) (hm : E.srMeta sr = some m) (hdm : E.srMeta dest_sr = some dm)
    (hpool : m.zpool ≠ dm.zpool) (hvdi : vdi ∈ (w.db sr).vdis)
    (hrun : copy E sr vdi.uuid dest_sr w = .ok info w') :
    SameEnd E w.zfs w'.zfs dest_sr w w' ⟨m.datasetPath, vdi.uuid⟩ ⟨dm.datasetPath, info.key⟩ ↔
      ∀ x, vdi.vsize = some x → x = (w.zfs.zvol ⟨m.datasetPath, vdi.uuid⟩).props.volsize := by
  obtain ⟨htrip, hrow⟩ := (wp_of_ok hrun).1 (wp_copy_crossPool hm hdm hpool hvdi)
  have hT' : Tidy E w' :=
    ((wp_of_ok hrun).1 (wp_copy hT sr vdi.uuid dest_sr)).outcome.tidy hT
  constructor
  · intro hend x hx
    have hsize := AddsRow.unique hrow hend.row
    rw [hx, htrip.volsize] at hsize
    exact Option.some.inj hsize
  · intro hsize
    have heq : vdi.vsize.getD (w.zfs.zvol ⟨m.datasetPath, vdi.uuid⟩).props.volsize =
        (w'.zfs.zvol ⟨dm.datasetPath, info.key⟩).props.volsize := by
      rw [htrip.volsize]
      cases hx : vdi.vsize with
      | none => rfl
      | some x => exact hsize x hx
    rw [heq] at hrow
    refine ⟨htrip.source, htrip.there, htrip.content, htrip.bare, hrow, fun w'' hd => ?_⟩
    obtain ⟨v, hv, hnew, huuid, hbase, _⟩ := hrow
    have hmem : v ∈ (w'.db dest_sr).vdis := (hv v).2 (.inl rfl)
    have hd' : destroy E dest_sr v.uuid w' = .ok () w'' := by rw [huuid]; exact hd
    have hbare := htrip.bare
    rw [← huuid] at hbare ⊢
    obtain ⟨hgone, hrows⟩ := (wp_of_ok hd').1 (wp_destroy_unsnapped hT' hdm hmem hbase hbare)
    refine ⟨hgone, fun c => ?_⟩
    rw [hrows, hv]
    constructor
    · rintro ⟨rfl | hc, hne⟩
      · exact absurd rfl hne
      · exact hc
    · refine fun hc => ⟨.inr hc, fun heq => hnew ?_⟩
      rwa [← Metabase.eq_of_uuid ((hv c).2 (.inr hc)) hmem heq]

/-- Registering a zvol leaves the store as it is. -/
theorem wp_importExisting_zfs {E : Env} {sr key name description : String} {size : ℕ} {w : World} :
    wp (importExisting E sr key name description size false) (fun _ w' => w'.zfs = w.zfs)
      (fun _ _ => True) w := by
  rw [importExisting, wp_bind]
  refine wp_getSrMetadata (fun _ => trivial) fun m hm => ?_
  rw [wp_bind]
  have hbody : ∀ w₁, w₁.zfs = w.zfs → wp (dbContext E sr do
      let volume_id ← insertNewVolume E size
      insertVdi E ⟨key, name, description, false⟩ volume_id
      let actual_vsize ← getZvolSizeBytes E ⟨m.datasetPath, key⟩
      updateVolumeVsize E volume_id (some actual_vsize)
      return actual_vsize) (fun _ w' => w'.zfs = w.zfs) (fun _ _ => True) w₁ := by
    intro w₁ hw₁
    refine wp_dbContext (fun _ _ _ => trivial) fun w₂ hf₂ _ => ?_
    simp only [wp_bind, wp_pure]
    refine wp_dbCmd (fun _ _ _ => trivial) (fun _ _ _ _ => trivial) fun _ _ w₃ _ _ hf₃ => ?_
    refine wp_dbCmd (fun _ _ _ => trivial) (fun _ _ _ _ => trivial) fun _ _ w₄ _ _ hf₄ => ?_
    refine wp_zfsGet (fun _ _ _ => trivial) (fun _ _ _ _ => trivial) fun _ w₅ _ hs₅ => ?_
    refine wp_dbCmd (fun _ _ _ => trivial) (fun _ _ _ _ => trivial) fun _ _ w₆ _ _ hf₆ => ?_
    refine ⟨fun _ _ _ => trivial, fun w₇ hc => ?_⟩
    rw [hc.zfs, hf₆.zfs, hs₅.zfs, hf₄.zfs, hf₃.zfs, hf₂.zfs, hw₁]
  refine wp_volExists (fun _ w₁ _ => by rw [if_neg Bool.false_ne_true]; trivial) fun w₁ hs₁ => ?_
  rw [wp_ite]
  refine ⟨fun _ => ?_, fun _ => trivial⟩
  rw [wp_bind]
  refine wp_mono (hbody w₁ hs₁.zfs) (fun _ w₂ hw₂ => ?_) fun _ _ _ => trivial
  rw [wp_bind]
  refine wp_zfsGet (fun _ _ _ => trivial) (fun _ _ _ _ => trivial) fun _ w₃ _ hs₃ => ?_
  exact hs₃.zfs.trans hw₂

/-- The zvol `n` of the destination has the one snapshot that it was received with. -/
def Received (n : ZvolName) (h : Hosts) : Prop := ∃ t, (h.dest.zfs.zvol n).snaps = [t]

variable {C : Wrapper} {srcSr srcVdi destSr : String} {n : ZvolName} {s : SnapName} {h : Hosts}

/-- A pipeline that succeeds has received the zvol with its snapshot. -/
theorem wp_sendReceive_received :
    wp (sendReceive C s n) (fun ok h' => ok = true → Received n h') (fun _ _ => True) h := by
  rw [wp, sendReceive]
  rcases ht : h.src.zfs.stream s with _ | t
  · exact fun hnone => by cases hnone
  · dsimp only
    by_cases hfault : C.dest.fault h.dest.clock = true ∧ ¬ C.dest.received h.dest.clock = true
    · rw [if_pos hfault]
      exact fun hnone => by cases hnone
    · rw [if_neg hfault]
      rcases hz : h.dest.zfs.receiveStream t n with e | z
      · exact fun hnone => by cases hnone
      · refine fun _ => ⟨t, ?_⟩
        rw [Store.receiveStream] at hz
        split_ifs at hz
        cases hz
        exact congrArg Zvol.snaps (Store.zvol_put_self ..)

/-- The registration of a zvol that returns its uuid keeps the snapshot. -/
theorem wp_register_received (hr : Received n h) :
    wp (register C srcVdi destSr n)
      (fun o h' => ∀ uuid, o = some uuid → uuid = C.newUuid ∧ Received n h') (fun _ _ => True) h := by
  rw [register]
  split
  · trivial
  · next size hsize =>
    rw [wp_bind, wp, importRemote]
    by_cases hreached : C.reached = true
    · rw [if_pos hreached]
      rcases hrun : importExisting C.dest destSr C.newUuid
        (orDefault (C.vdiParam srcVdi "name-label") "")
        (orDefault (C.vdiParam srcVdi "name-description") "") size false h.dest with ⟨a, w⟩ | ⟨e, w⟩
      · have hzfs := (wp_of_ok hrun).1 wp_importExisting_zfs
        dsimp only
        rw [wp_ite]
        refine ⟨fun _ => ?_, fun _ => ?_⟩
        · rintro uuid ⟨⟩
          refine ⟨rfl, ?_⟩
          obtain ⟨t, ht⟩ := hr
          exact ⟨t, by rw [← ht, ← hzfs]⟩
        · rw [wp_bind]
          exact wp_mono (wp_true ..) (fun _ _ _ _ hnone => by cases hnone) fun _ _ _ => trivial
      · dsimp only
        rw [if_neg Bool.false_ne_true, wp_bind]
        exact wp_mono (wp_true ..) (fun _ _ _ _ hnone => by cases hnone) fun _ _ _ => trivial
    · rw [if_neg hreached]
      dsimp only
      rw [if_neg Bool.false_ne_true, wp_bind]
      exact wp_mono (wp_true ..) (fun _ _ _ _ hnone => by cases hnone) fun _ _ _ => trivial

theorem wp_invokeCrossHostCopy_received {base : List String}
    (hbase : destPath C destSr = some base) :
    wp (invokeCrossHostCopy C srcSr srcVdi destSr)
      (fun o h' => ∀ uuid, o = some uuid → uuid = C.newUuid ∧ Received ⟨base, uuid⟩ h')
      (fun _ _ => True) h := by
  rw [invokeCrossHostCopy]
  cases hsrc : srZfsPath (C.src.srMeta srcSr) with
  | none => exact fun _ hnone => by cases hnone
  | some srcBase =>
      simp only [hbase, transfer, wp_bind]
      refine wp_mono (wp_true ..) (fun taken h₁ _ => ?_) fun _ _ h => h
      rw [wp_ite]
      refine ⟨fun _ => ?_, fun _ _ hnone => by cases hnone⟩
      rw [wp_bind]
      refine wp_mono wp_sendReceive_received (fun sent h₂ hr => ?_) fun _ _ h => h
      rw [wp_ite]
      refine ⟨fun hsent => ?_, fun _ => ?_⟩
      · obtain ⟨t, ht⟩ := hr hsent
        rw [wp_bind, cleanupSourceSnap, wp_modify]
        refine wp_mono (wp_register_received (n := ⟨base, C.newUuid⟩) ⟨t, ?_⟩)
          (fun o h₃ h₃' uuid hsome => ?_) fun _ _ h => h
        · rw [← ht]
          split
          · split <;> rfl
          · rfl
        · obtain ⟨rfl, hr₃⟩ := h₃' uuid hsome
          exact ⟨rfl, hr₃⟩
      · simp only [wp_bind]
        refine wp_mono (wp_true ..) (fun _ h₃ _ => ?_) fun _ _ h => h
        exact wp_mono (wp_true ..) (fun _ _ _ _ hnone => by cases hnone) fun _ _ h => h

/-- **Between hosts** the new VDI keeps the snapshot that was sent. -/
theorem not_sameEnd_crossHost {h' : Hosts} {uuid : String} {base : List String}
    (hbase : destPath C destSr = some base)
    (hrun : invokeCrossHostCopy C srcSr srcVdi destSr h = .ok (some uuid) h') (src : ZvolName) :
    ¬ SameEnd C.dest h.src.zfs h'.src.zfs destSr h.dest h'.dest src ⟨base, uuid⟩ := by
  intro hend
  obtain ⟨-, t, ht⟩ := (wp_of_ok hrun).1 (wp_invokeCrossHostCopy_received hbase) uuid rfl
  rw [hend.bare] at ht
  cases ht

/-- A run of one of the two. -/
inductive Copying where
  | volumeCopy (E : Env) (w w' : World) (sr dest_sr : String) (m dm : SrMeta) (vdi : Vdi)
      (info : VolInfo)
  | crossHost (C : Wrapper) (h h' : Hosts) (srcSr srcVdi destSr uuid : String)
      (srcBase destBase : List String)

/-- The repositories are on record, and the run returns the new VDI. -/
def Copying.Succeeds : Copying → Prop
  | volumeCopy E w w' sr dest_sr m dm vdi info =>
      Tidy E w ∧ E.srMeta sr = some m ∧ E.srMeta dest_sr = some dm ∧ m.zpool ≠ dm.zpool ∧
        vdi ∈ (w.db sr).vdis ∧ copy E sr vdi.uuid dest_sr w = .ok info w'
  | crossHost C h h' srcSr srcVdi destSr uuid srcBase destBase =>
      srZfsPath (C.src.srMeta srcSr) = some srcBase ∧ destPath C destSr = some destBase ∧
        invokeCrossHostCopy C srcSr srcVdi destSr h = .ok (some uuid) h'

/-- The run ends as it should. -/
def Copying.EndsRight : Copying → Prop
  | volumeCopy E w w' _ dest_sr m dm vdi info =>
      SameEnd E w.zfs w'.zfs dest_sr w w' ⟨m.datasetPath, vdi.uuid⟩ ⟨dm.datasetPath, info.key⟩
  | crossHost C h h' _ srcVdi destSr uuid srcBase destBase =>
      SameEnd C.dest h.src.zfs h'.src.zfs destSr h.dest h'.dest ⟨srcBase, srcVdi⟩ ⟨destBase, uuid⟩

/-- The run is one between pools, and no other size than that of its zvol is on record for the
source. -/
def Copying.BetweenPools : Copying → Prop
  | volumeCopy _ w _ _ _ m _ vdi _ =>
      ∀ x, vdi.vsize = some x → x = (w.zfs.zvol ⟨m.datasetPath, vdi.uuid⟩).props.volsize
  | crossHost .. => False

/-- The stores of both hosts are sound, the uuid is new, and every cleanup succeeds. -/
def Copying.Undisturbed : Copying → Prop
  | volumeCopy .. => True
  | crossHost C h .. =>
      C.srcCleanup = true ∧ C.destCleanup = true ∧ WF h.src.zfs ∧ WF h.dest.zfs ∧ Fresh C h

/-- **A copy by send and receive ends as it should** exactly when it is one between pools, and no other
size than that of its zvol is on record for the source. -/
theorem sameEnd_iff {c : Copying} (hrun : c.Succeeds) : c.EndsRight ↔ c.BetweenPools := by
  cases c with
  | volumeCopy E w w' sr dest_sr m dm vdi info =>
      obtain ⟨hT, hm, hdm, hpool, hvdi, hrun⟩ := hrun
      exact sameEnd_copy_iff hT hm hdm hpool hvdi hrun
  | crossHost C h h' srcSr srcVdi destSr uuid srcBase destBase =>
      obtain ⟨-, hbase, hrun⟩ := hrun
      exact iff_of_false (not_sameEnd_crossHost hbase hrun _) id

/-- A host with a repository in each of two pools. -/
def twoPools : Env :=
  { sampleEnv fun _ => false with
    srMeta := fun sr =>
      if sr = "sr" then some ⟨"tank", ["vms"], none, none⟩
      else if sr = "far" then some ⟨"pool", ["vms"], none, none⟩
      else none }

/-- A disk was created in the first one. -/
def oneDisk : World := Volume.after (create twoPools "sr" "disk" "" 65536 false) emptyWorld

theorem tidy_oneDisk : Tidy twoPools oneDisk := by
  have hT := tidy_emptyWorld twoPools
  have hcreate : Outcome twoPools emptyWorld oneDisk :=
    of_wp (wp_mono (wp_create hT ..) (fun _ _ h => h.outcome) fun _ _ h => h)
  exact hcreate.tidy hT

/-- The uuid that a copy between hosts returns. -/
private def uuidReturned : EStateM.Result Raised Hosts (Option String) → Option String
  | .ok o _ => o
  | .error _ _ => none

private theorem exists_of_uuidReturned
    {r : EStateM.Result Raised Hosts (Option String)} {uuid : String}
    (h : uuidReturned r = some uuid) : ∃ h', r = .ok (some uuid) h' := by
  rcases r with ⟨o, h'⟩ | ⟨e, h'⟩
  · exact ⟨h', congrArg (EStateM.Result.ok · h') h⟩
  · cases h

/-- The disk is copied to the other pool, and a zvol to another host. -/
theorem sameEnd_iff_disk :
    (∃ info w', copy twoPools "sr" "" "far" oneDisk = .ok info w' ∧
      SameEnd twoPools oneDisk.zfs w'.zfs "far" oneDisk w' ⟨["tank", "vms"], ""⟩
        ⟨["pool", "vms"], info.key⟩) ∧
    ∃ h', invokeCrossHostCopy (sample fun _ => false) "sr" "vdi" "sr" sampleHosts =
        .ok (some "new") h' ∧
      ¬ SameEnd (sampleEnv fun _ => false) sampleHosts.src.zfs h'.src.zfs "sr" sampleHosts.dest
        h'.dest ⟨["tank", "vms"], "vdi"⟩ ⟨["tank", "vms"], "new"⟩ := by
  constructor
  · obtain ⟨info, w', hrun, -⟩ := exists_of_holdsAfter (m := copy twoPools "sr" "" "far")
      (w := oneDisk) (p := fun _ _ => true) (by decide +kernel)
    have hvdi : (⟨"", "disk", "", false, 0, none, false, some 65536⟩ : Vdi) ∈
        (oneDisk.db "sr").vdis := by decide +kernel
    have hsucceeds : (Copying.volumeCopy twoPools oneDisk w' "sr" "far" ⟨"tank", ["vms"], none, none⟩
        ⟨"pool", ["vms"], none, none⟩ ⟨"", "disk", "", false, 0, none, false, some 65536⟩
        info).Succeeds := ⟨tidy_oneDisk, rfl, rfl, by decide, hvdi, hrun⟩
    refine ⟨info, w', hrun, (sameEnd_iff hsucceeds).2 ?_⟩
    intro x hx
    cases hx
    decide +kernel
  · obtain ⟨h', hrun⟩ := exists_of_uuidReturned
      (show uuidReturned (invokeCrossHostCopy (sample fun _ => false) "sr" "vdi" "sr" sampleHosts) =
        some "new" by decide +kernel)
    have hsucceeds : (Copying.crossHost (sample fun _ => false) sampleHosts h' "sr" "vdi" "sr" "new"
        ["tank", "vms"] ["tank", "vms"]).Succeeds := ⟨rfl, rfl, hrun⟩
    exact ⟨h', hrun, (sameEnd_iff hsucceeds).1⟩

/-- **A VDI is copied to another host**: the snapshot that was sent stays on the new zvol. -/
theorem not_sameEnd_received :
    ¬ ∀ c : Copying, c.Undisturbed → c.Succeeds → c.EndsRight := by
  intro hends
  obtain ⟨h', hrun⟩ := exists_of_uuidReturned
    (show uuidReturned (invokeCrossHostCopy (sample fun _ => false) "sr" "vdi" "sr" sampleHosts) =
      some "new" by decide +kernel)
  have hbase : destPath (sample fun _ => false) "sr" = some ["tank", "vms"] := rfl
  have hsound : WF sampleHosts.dest.zfs := (tidy_emptyWorld (sampleEnv fun _ => false)).wf
  exact not_sameEnd_crossHost hbase hrun _
    (hends (.crossHost (sample fun _ => false) sampleHosts h' "sr" "vdi" "sr" "new" ["tank", "vms"]
      ["tank", "vms"]) ⟨rfl, rfl, wf_sampleHosts, hsound, fresh_sampleHosts _⟩ ⟨rfl, hbase, hrun⟩)

end XeWrapper

/-
**Listing and asking** (`src/volume/sr.py`, `src/volume/volume.py`).

`SR.ls` and `Volume.stat` make the same record of a VDI in two places.  `ls` first recovers the sizes
that were lost and, where it is configured so, destroys what the metabase does not know; of what the
records show of a VDI that is known, this can change the space that its zvol takes, when a snapshot of
the zvol is destroyed.  Otherwise the two places differ for `sharable` only: `ls` tells what the metabase
has, and `stat` always tells `False`.

Main definitions:

* `Records.Swept` — what a clean-up leaves as it is;
* `Records.SameRecord` — `stat` returns a given record;
* `Records.Untouched` — a clean-up destroys no snapshot of the zvol of a VDI.

Main results:

* `Records.wp_ls` — the records that `ls` returns when no command fails;
* `Records.sameRecord_iff` — **a listed record is what `stat` returns after the listing exactly when the
  VDI is not sharable, and before the listing when, moreover, its space is the same**;
* `Records.not_sameRecord_sharable` — a sharable VDI is listed as one and described as not sharable.
-/

import ZfsLive.VolumeReach
import ZfsLive.VolumeRecords

set_option relaxedAutoImplicit false
set_option autoImplicit false

namespace Volume.Records

open Zfs Wp Properties

/-! ### The clean-up -/

/-- A clean-up that knows the VDIs `known` destroys no snapshot of the zvol. -/
def Spared (V : View) (known : List String) (z : Store) (n : ZvolName) : Prop :=
  ∀ id ∈ (z.zvol n).ids, id ∈ known ∨ V.condemned (.snap ⟨n, id⟩) = false

/-- What a clean-up that knows the VDIs `known` leaves as it is. -/
structure Swept (V : View) (known : List String) (z z' : Store) : Prop where
  props : ∀ n, (z'.zvol n).props = (z.zvol n).props
  spared : ∀ n, Spared V known z n → z'.zvol n = z.zvol n
  copies : z'.copies = z.copies
  names : ∀ n, n.vol ∈ known → (n ∈ z'.names ↔ n ∈ z.names)
  find : ∀ ds id, id ∈ known → z'.findSnapshot ds id = z.findSnapshot ds id

namespace Swept

variable {V : View} {known : List String} {z z' z'' : Store}

theorem refl (z : Store) : Swept V known z z :=
  ⟨fun _ => rfl, fun _ _ => rfl, rfl, fun _ _ => Iff.rfl, fun _ _ _ => rfl⟩

theorem trans (h : Swept V known z z') (h' : Swept V known z' z'') : Swept V known z z'' where
  props n := (h'.props n).trans (h.props n)
  spared n hn := by
    have heq := h.spared n hn
    exact (h'.spared n (by rwa [Spared, heq])).trans heq
  copies := h'.copies.trans h.copies
  names n hn := (h'.names n hn).trans (h.names n hn)
  find ds id hid := (h'.find ds id hid).trans (h.find ds id hid)

/-- The object is one that the clean-up takes for an orphan. -/
def Orphaned (V : View) (known : List String) : ZfsObject → Prop
  | .zvol n => n.vol ∉ known
  | .snap s => s.id ∉ known ∧ V.condemned (.snap s) = true

theorem of_destroy {object : ZfsObject} (hu : Orphaned V known object)
    (h : object.destroy z = .ok z') : Swept V known z z' := by
  cases object with
  | zvol n =>
      have hz : z.destroy n = .ok z' := h
      obtain ⟨_, _, _, heq⟩ := Store.destroy_ok hz
      refine ⟨fun m => by rw [heq], fun m _ => by rw [heq], by rw [heq], fun m hm => ?_,
        fun ds id _ => ?_⟩
      · rw [Store.names_destroy hz]
        exact and_iff_left fun heq => hu (heq ▸ hm)
      · rw [Store.findSnapshot, Store.findSnapshot, Store.snapshotsUnder_destroy hz]
  | snap s =>
      have hz : z.destroySnap s = .ok z' := h
      obtain ⟨hs, _, heq⟩ := Store.destroySnap_ok hz
      refine ⟨Store.props_destroySnap hz, fun m hm => ?_, by rw [heq]; rfl,
        fun m _ => Store.names_destroySnap hz, fun ds id hid => ?_⟩
      · -- a zvol that is spared is not the one whose snapshot was destroyed
        rw [heq]
        refine z.zvol_put_of_ne _ fun hms => ?_
        rcases hm s.id (hms ▸ hs.2) with hknown | hnot
        · exact hu.1 hknown
        · rw [hms, hu.2] at hnot
          cases hnot
      · exact Store.findSnapshot_destroySnap hz ds fun heq => hu.1 (heq ▸ hid)

end Swept

section

variable {E : Env} {V : View} {ds known : List String} {w : World}

/-- The clean-up destroys unknown objects and nothing else. -/
def Sweeping (V : View) (known : List String) (w w' : World) : Prop :=
  Swept V known w.zfs w'.zfs ∧ w'.db = w.db

instance : Std.Refl (Sweeping V known) := ⟨fun w => ⟨Swept.refl w.zfs, rfl⟩⟩

instance : IsTrans World (Sweeping V known) :=
  ⟨fun _ _ _ h h' => ⟨h.1.trans h'.1, h'.2.trans h.2⟩⟩

theorem sweeping_of_same {w' : World} (h : w.Same w') : Sweeping V known w w' := by
  refine ⟨?_, h.db⟩
  rw [h.zfs]
  exact Swept.refl _

theorem preserves_zfsGet {α : Type} (f : Store → Except ZfsError α) :
    Preserves (Sweeping V known) (zfsGet E f) :=
  .of_wp fun _ => wp_zfsGet (fun _ _ hs => sweeping_of_same hs) (fun _ _ _ hs => sweeping_of_same hs)
    fun _ _ _ hs => sweeping_of_same hs

theorem preserves_destroyEach {objects : List ZfsObject}
    (hu : ∀ object ∈ objects, Swept.Orphaned V known object) :
    Preserves (Sweeping V known) (destroyEach E objects) := by
  induction objects with
  | nil => exact .pure ()
  | cons object objects ih =>
      refine .bind (.tryCatch (.of_wp fun w => ?_) fun _ => .pure ()) fun _ =>
        ih fun o ho => hu o (List.mem_cons_of_mem _ ho)
      refine wp_destroyZvol (fun _ _ hs => sweeping_of_same hs) (fun _ _ _ hs => sweeping_of_same hs)
        fun w' hz hd => ⟨Swept.of_destroy (hu object List.mem_cons_self) hz, hd.db⟩

theorem preserves_cleanZvols : Preserves (Sweeping V known) (cleanZvols E V ds known) := by
  refine .bind (preserves_zfsGet _) fun names => preserves_destroyEach fun object hmem => ?_
  obtain ⟨n, hn, rfl⟩ := List.mem_map.1 hmem
  obtain ⟨_, _, hunknown, _⟩ : n ∈ names ∧ n.dataset = ds ∧ n.vol ∉ known ∧
    V.condemned (.zvol n) = true := by simpa using hn
  exact hunknown

theorem preserves_cleanSnapshots : Preserves (Sweeping V known) (cleanSnapshots E V ds known) := by
  refine .bind (preserves_zfsGet _) fun snaps => preserves_destroyEach fun object hmem => ?_
  obtain ⟨s, hs, rfl⟩ := List.mem_map.1 hmem
  obtain ⟨_, horphan⟩ : s ∈ snaps ∧ s.id ∉ known ∧ V.condemned (.snap s) = true := by
    simpa using hs
  exact horphan

end

/-! ### Recovery -/

section

variable {E : Env} {V : View} {ds : List String} {sr : String}

theorem pairwise_vdis (db : Metabase) : db.vdis.Pairwise fun v v' => v.volume_id ≠ v'.volume_id := by
  rw [Metabase.vdis, List.pairwise_filterMap]
  refine (List.pairwise_map.1 db.rows.distinct).imp fun hne v hv v' hv' => ?_
  obtain ⟨_, _, rfl⟩ := Option.map_eq_some_iff.1 hv
  obtain ⟨_, _, rfl⟩ := Option.map_eq_some_iff.1 hv'
  exact hne

theorem recovered_mem_workAfter {z : Store} {db : Metabase} {v : Vdi} (hv : v ∈ db.vdis) :
    recovered z ds v ∈ (workAfter z ds db v).vdis := by
  cases hsize : v.vsize with
  | some x => rwa [workAfter, hsize, recovered_of_some hsize]
  | none =>
      rw [workAfter, hsize]
      refine Metabase.mem_vdis_updateVolumeVsize.2 ⟨v, hv, ?_⟩
      rw [if_pos rfl, recovered, hsize, Option.getD_none]

theorem mem_workAfter_of_ne {z : Store} {db : Metabase} {v u : Vdi} (hu : u ∈ db.vdis)
    (hne : u.volume_id ≠ v.volume_id) : u ∈ (workAfter z ds db v).vdis := by
  rw [workAfter]
  split
  · exact hu
  · exact Metabase.mem_vdis_updateVolumeVsize.2 ⟨u, hu, by rw [if_neg hne]⟩

/-- **The loop of `ls` recovers every size.** -/
theorem wp_recoverEach {w : World} (hq : ¬ ∃ c, E.fault c = true) {vdis : List Vdi}
    (hmem : ∀ v ∈ vdis, v ∈ w.work.vdis)
    (hpair : vdis.Pairwise fun v v' => v.volume_id ≠ v'.volume_id) :
    wp (recoverEach E ds vdis)
      (fun vdis' w' => vdis' = vdis.map (recovered w.zfs ds) ∧ w.Frame w' ∧
        (∀ v ∈ vdis, v.vsize = none → (⟨ds, v.uuid⟩ : ZvolName) ∈ w.zfs.names) ∧
        (∀ v ∈ vdis, recovered w.zfs ds v ∈ w'.work.vdis) ∧
        ∀ u ∈ w.work.vdis, (∀ v ∈ vdis, u.volume_id ≠ v.volume_id) → u ∈ w'.work.vdis)
      (fun _ _ => True) w := by
  induction vdis generalizing w with
  | nil => exact ⟨rfl, ⟨rfl, rfl, rfl, rfl, rfl⟩, by simp, by simp, fun u hu _ => hu⟩
  | cons v vdis ih =>
      obtain ⟨hne, hpair⟩ := List.pairwise_cons.1 hpair
      have hv := hmem v List.mem_cons_self
      rw [recoverEach, wp_bind]
      refine wp_recovered hq (fun _ _ _ _ => trivial) fun w₁ hf₁ hwork₁ hsized => ?_
      rw [wp_bind]
      have hrest : ∀ u ∈ vdis, u ∈ w₁.work.vdis := fun u hu => by
        rw [hwork₁]
        exact mem_workAfter_of_ne (hmem u (List.mem_cons_of_mem _ hu)) (hne u hu).symm
      refine wp_mono (ih hrest hpair) ?_ fun _ _ _ => trivial
      rintro vdis' w₂ ⟨rfl, hf₂, hsized₂, hin₂, hold₂⟩
      rw [hf₁.zfs] at hsized₂ hin₂
      refine ⟨by rw [hf₁.zfs]; rfl, hf₁.trans hf₂, ?_, ?_, fun u hu hne' => ?_⟩
      · rintro u hu
        rcases List.mem_cons.1 hu with rfl | hu
        · exact hsized
        · exact hsized₂ u hu
      · rintro u hu
        rcases List.mem_cons.1 hu with rfl | hu
        · exact hold₂ _ (hwork₁ ▸ recovered_mem_workAfter hv) hne
        · exact hin₂ u hu
      · refine hold₂ u ?_ fun v' hv' => hne' v' (List.mem_cons_of_mem _ hv')
        rw [hwork₁]
        exact mem_workAfter_of_ne hu (hne' v List.mem_cons_self)

end

/-! ### The listing -/

section

variable {E : Env} {V : View} {h h' : Host} {ds : List String} {sr : String}

/-- The state differs at most in the open transaction and in the number of commands. -/
structure Host.Still (h h' : Host) : Prop where
  zfs : h'.world.zfs = h.world.zfs
  db : h'.world.db = h.world.db
  custom : h'.custom = h.custom
  locals : h'.locals = h.locals

theorem Host.Still.sameProps (hs : h.Still h') : h.SameProps h' := .of_eq hs.zfs hs.locals

theorem Host.Still.trans {h'' : Host} (hs : h.Still h') (hs' : h'.Still h'') : h.Still h'' :=
  ⟨hs'.zfs.trans hs.zfs, hs'.db.trans hs.db, hs'.custom.trans hs.custom, hs'.locals.trans hs.locals⟩

/-- The record that a listing makes of a VDI, if its backing is there. -/
def listed (E : Env) (V : View) (h : Host) (sr : String) (ds : List String) (vdi : Vdi) :
    Option VdiRecord :=
  (backing h.world.zfs ds vdi).map (recordOf E V h sr vdi)

theorem listed_congr (hs : h.Still h') (v : Vdi) : listed E V h' sr ds v = listed E V h sr ds v := by
  rw [listed, listed, hs.zfs]
  congr 1
  funext object
  exact recordOf_congr hs.sameProps (by rw [hs.custom]) (by rw [hs.zfs])

theorem wp_lsObject {w : World} {v : Vdi} (hq : ¬ ∃ c, E.fault c = true) :
    wp (lsObject E ds v) (fun object w' => object = backing w.zfs ds v ∧ w.Same w')
      (fun _ _ => True) w := by
  rw [lsObject, wp_ite]
  refine ⟨fun hsnap => ?_, fun hbase => ?_⟩
  · rw [wp_bind]
    refine wp_zfsGet (fun _ _ _ => trivial) (fun _ _ _ _ => trivial) fun s w' hs hw' => ?_
    cases hs
    exact ⟨(if_pos hsnap).symm, hw'⟩
  · rw [wp_bind]
    refine wp_volExists (fun hf => (hq hf).elim) fun w' hw' => ?_
    by_cases hmem : (⟨ds, v.uuid⟩ : ZvolName) ∈ w.zfs.names
    · rw [decide_eq_true hmem]
      exact ⟨((if_neg hbase).trans (if_pos hmem)).symm, hw'⟩
    · rw [decide_eq_false hmem]
      exact ⟨((if_neg hbase).trans (if_neg hmem)).symm, hw'⟩

theorem wp_listVdi {v : Vdi} {all_custom_keys : Dict String (Dict String String)}
    (hq : ¬ ∃ c, E.fault c = true)
    (hall : (all_custom_keys.get? v.uuid).getD Dict.empty = customKeysOf (h.custom sr) v.uuid) :
    wp (listVdi E V sr ds all_custom_keys v)
      (fun r h' => r = listed E V h sr ds v ∧ h.Still h') (fun _ _ => True) h := by
  rw [listVdi, wp_bind, wp_lift]
  refine wp_mono (wp_lsObject hq) ?_ fun _ _ _ => trivial
  rintro object w₁ ⟨hobject, hw₁⟩
  cases object with
  | none => exact ⟨by rw [listed, ← hobject]; rfl, hw₁.zfs, hw₁.db, rfl, rfl⟩
  | some object =>
      have hex : Exists h.world.zfs object := exists_of_backing hobject.symm
      change wp (lift (getZvolUsedBytes E object) >>= _) _ _ _
      rw [wp_bind, wp_lift]
      refine wp_getZvolUsedBytes hq (fun _ _ _ => trivial) fun w₂ hw₂ _ => ?_
      rw [wp_bind]
      refine wp_volGetZfsPropertiesDict (fun hf => (hq hf).elim) fun w₃ hw₃ => ?_
      have hzfs : w₂.zfs = h.world.zfs := hw₂.zfs.trans hw₁.zfs
      rw [if_pos (by rw [hzfs]; exact hex), hall, wp_pure]
      refine ⟨?_, hw₃.zfs.trans hzfs, hw₃.db.trans (hw₂.db.trans hw₁.db), rfl, rfl⟩
      have hbatch : batch V { h with world := w₂ } object = batch V h object :=
        batch_congr (.of_eq hzfs rfl)
      rw [hbatch, listed, ← hobject, hw₁.zfs]
      rfl

theorem wp_listEach {vdis : List Vdi} {all_custom_keys : Dict String (Dict String String)}
    (hq : ¬ ∃ c, E.fault c = true)
    (hall : ∀ uuid, (all_custom_keys.get? uuid).getD Dict.empty = customKeysOf (h.custom sr) uuid) :
    wp (listEach E V sr ds all_custom_keys vdis)
      (fun rs h' => rs = vdis.filterMap (listed E V h sr ds) ∧ h.Still h') (fun _ _ => True) h := by
  induction vdis generalizing h with
  | nil => exact ⟨rfl, rfl, rfl, rfl, rfl⟩
  | cons v vdis ih =>
      rw [listEach, wp_bind]
      refine wp_mono (wp_listVdi hq (hall v.uuid)) ?_ fun _ _ _ => trivial
      rintro r h₁ ⟨rfl, hs₁⟩
      rw [wp_bind]
      refine wp_mono (ih (by rw [hs₁.custom]; exact hall)) ?_ fun _ _ _ => trivial
      rintro rs h₂ ⟨rfl, hs₂⟩
      refine ⟨?_, hs₁.trans hs₂⟩
      have hrest : vdis.filterMap (listed E V h₁ sr ds) = vdis.filterMap (listed E V h sr ds) :=
        congrArg (vdis.filterMap ·) (funext fun v => listed_congr hs₁ v)
      rw [hrest, List.filterMap_cons]
      cases listed E V h sr ds v <;> rfl

/-- What a listing finds and leaves. -/
structure Listed (E : Env) (V : View) (sr : String) (m : SrMeta) (h h' : Host)
    (rs : List VdiRecord) : Prop where
  srMeta : E.srMeta sr = some m
  records : rs = ((h.world.db sr).vdis.map (recovered h.world.zfs m.datasetPath)).filterMap
    (listed E V h' sr m.datasetPath)
  swept : Swept V ((h.world.db sr).vdis.map Vdi.uuid) h.world.zfs h'.world.zfs
  sized : ∀ v ∈ (h.world.db sr).vdis, v.vsize = none →
    (⟨m.datasetPath, v.uuid⟩ : ZvolName) ∈ h.world.zfs.names
  renewed : ∀ v ∈ (h.world.db sr).vdis,
    recovered h.world.zfs m.datasetPath v ∈ (h'.world.db sr).vdis
  custom : h'.custom sr = h.custom sr
  locals : h'.locals = h.locals

/-- **What `ls` returns**, when no command fails: the records of the VDIs whose backing is there. -/
theorem wp_ls (hq : ¬ ∃ c, E.fault c = true) :
    wp (ls E V sr) (fun rs h' => ∃ m, Listed E V sr m h h' rs) (fun _ _ => True) h := by
  rw [ls, wp_bind, wp_lift]
  refine wp_getSrMetadata (fun _ => trivial) fun m hm => ?_
  rw [wp_bind]
  refine wp_dbContext (fun _ _ _ => trivial) fun w₁ hf₁ hwork₁ => ?_
  rw [wp_bind, wp_lift]
  refine wp_dbCmd (fun _ _ _ => trivial) (fun _ _ _ _ => trivial) fun vdis db w₂ hdb hwork₂ hf₂ => ?_
  cases hdb
  rw [wp_bind]
  refine wp_getCustomKeys (fun _ _ _ => trivial) fun w₃ hf₃ hwork₃ => ?_
  rw [wp_bind, wp_lift]
  have hzfs₃ : w₃.zfs = h.world.zfs := hf₃.zfs.trans (hf₂.zfs.trans hf₁.zfs)
  have hwork : w₃.work = h.world.db sr := hwork₃.trans (hwork₂.trans hwork₁)
  refine wp_mono (wp_recoverEach hq (fun v hv => ?_) (pairwise_vdis _)) ?_ fun _ _ _ => trivial
  · rw [hwork, ← hwork₁]
    exact hv
  rintro vdis w₄ ⟨rfl, hf₄, hsized, hrecovered, -⟩
  rw [hzfs₃, hwork₁] at hsized hrecovered
  rw [hzfs₃, hwork₁]
  refine ⟨fun _ _ _ => trivial, fun w₅ hc₅ => ?_⟩
  have hzfs₅ : w₅.zfs = h.world.zfs := hc₅.zfs.trans (hf₄.zfs.trans hzfs₃)
  have hdb₅ : w₅.db sr = w₄.work := by rw [hc₅.db]; exact if_pos rfl
  have hknown : ((h.world.db sr).vdis.map (recovered h.world.zfs m.datasetPath)).map Vdi.uuid =
      (h.world.db sr).vdis.map Vdi.uuid := by
    rw [List.map_map]
    rfl
  dsimp only
  rw [hknown, wp_bind, wp_lift]
  refine wp_mono ((Preserves.tryCatch preserves_cleanZvols fun _ => .pure ()).wp _) ?_
    fun _ _ _ => trivial
  rintro - w₆ ⟨hs₆, hdb₆⟩
  rw [wp_bind, wp_lift]
  refine wp_mono ((Preserves.tryCatch preserves_cleanSnapshots fun _ => .pure ()).wp _) ?_
    fun _ _ _ => trivial
  rintro - w₇ ⟨hs₇, hdb₇⟩
  refine wp_mono (wp_listEach hq fun uuid => ?_) ?_ fun _ _ _ => trivial
  · rw [get?_allCustomKeys]
    exact congrArg (customKeysOf · uuid) (if_pos rfl).symm
  rintro rs h₈ ⟨rfl, hs₈⟩
  have hswept : Swept V ((h.world.db sr).vdis.map Vdi.uuid) h.world.zfs h₈.world.zfs := by
    rw [hs₈.zfs, ← hzfs₅]
    exact hs₆.trans hs₇
  refine ⟨m, hm, ?_, hswept, hsized, fun v hv => ?_, ?_, hs₈.locals⟩
  · exact congrArg (List.filterMap · _) (funext fun v => (listed_congr hs₈ v).symm)
  · rw [hs₈.db]
    change _ ∈ (w₇.db sr).vdis
    rw [hdb₇, hdb₆, hdb₅]
    exact hrecovered v hv
  · rw [hs₈.custom]
    exact if_pos rfl

end

/-! ### Listing and asking -/

/-- The same surroundings, in which no command fails for a reason of its own. -/
def quiet (E : Env) : Env := { E with fault := fun _ => false }

theorem quiet_fault (E : Env) : ¬ ∃ c, (quiet E).fault c = true := by simp [quiet]

/-- `stat` on the key of a record returns the record. -/
def SameRecord (E : Env) (V : View) (sr : String) (h : Host) (r : VdiRecord) : Prop :=
  ∃ h', stat E V sr r.key h = .ok r h'

/-- The VDI with the key is not sharable. -/
def Unshared (h : Host) (sr key : String) : Prop :=
  ∀ v ∈ (h.world.db sr).vdis, v.uuid = key → v.sharable = false

/-- The VDI with the key takes the same space in both states. -/
def SameSpace (E : Env) (sr : String) (h h' : Host) (key : String) : Prop :=
  ∀ m v object, Statable E h sr key m v object →
    E.used h'.world.zfs object = E.used h.world.zfs object

/-- The clean-up of a listing destroys no snapshot of the zvol of the VDI with the key. -/
def Untouched (E : Env) (V : View) (sr : String) (h : Host) (key : String) : Prop :=
  ∀ m v object, Statable E h sr key m v object →
    Spared V ((h.world.db sr).vdis.map Vdi.uuid) h.world.zfs object.owner

section

variable {E : Env} {V : View} {h h' : Host} {sr key : String} {m : SrMeta} {v : Vdi}
  {object : ZfsObject} {r : VdiRecord} {rs : List VdiRecord}

/-- A VDI is described in one way. -/
theorem Statable.unique {m' : SrMeta} {v' : Vdi} {object' : ZfsObject}
    (hs : Statable E h sr key m v object) (hs' : Statable E h sr key m' v' object') :
    m' = m ∧ v' = v ∧ object' = object := by
  obtain rfl : m' = m := Option.some.inj (hs'.srMeta.symm.trans hs.srMeta)
  obtain rfl : v' = v := Metabase.eq_of_uuid hs'.mem hs.mem (hs'.uuid.trans hs.uuid.symm)
  exact ⟨rfl, rfl, Option.some.inj (hs'.backing.symm.trans hs.backing)⟩

/-- What `stat` returns for a VDI that can be described. -/
theorem stat_iff (hq : ¬ ∃ c, E.fault c = true) (hs : Statable E h sr key m v object) :
    (∃ h', stat E V sr key h = .ok r h') ↔
      r = { recordOf E V h sr (recovered h.world.zfs m.datasetPath v) object with
        sharable := false } := by
  have hwp : wp (stat E V sr key) _ _ h := wp_stat hq
  rcases hstat : stat E V sr key h with ⟨r₀, h₀⟩ | ⟨e, h₀⟩
  · obtain ⟨m', v', object', hs', rfl⟩ := (wp_of_ok hstat).1 hwp
    obtain ⟨rfl, rfl, rfl⟩ := hs.unique hs'
    constructor
    · rintro ⟨h', heq⟩
      cases heq
      rfl
    · rintro rfl
      exact ⟨h₀, rfl⟩
  · exact absurd hs ((wp_of_error hstat).1 hwp m v object)

/-- `stat` tells of no VDI that it is sharable. -/
theorem sharable_of_stat (hq : ¬ ∃ c, E.fault c = true) (hs : stat E V sr key h = .ok r h') :
    r.sharable = false := by
  obtain ⟨m, v, object, -, rfl⟩ := (wp_of_ok hs).1 (wp_stat (V := V) hq)
  rfl

/-- A record is what `stat` makes of it when it tells that the VDI is not sharable. -/
theorem eq_unshared_iff : r = { r with sharable := false } ↔ r.sharable = false := by
  obtain ⟨⟩ := r
  simp

/-- The VDI of a listed record can be described, before the listing and after it. -/
theorem Listed.statable (hl : Listed E V sr m h h' rs) (hr : r ∈ rs) : ∃ v object,
    Statable E h sr r.key m v object ∧
      Statable E h' sr r.key m (recovered h.world.zfs m.datasetPath v) object ∧
      r = recordOf E V h' sr (recovered h.world.zfs m.datasetPath v) object := by
  rw [hl.records, List.mem_filterMap] at hr
  obtain ⟨u, hu, hr⟩ := hr
  obtain ⟨v, hv, rfl⟩ := List.mem_map.1 hu
  obtain ⟨object, hb, rfl⟩ := Option.map_eq_some_iff.1 hr
  have hb₀ : backing h.world.zfs m.datasetPath v = some object := by
    have hknown : v.uuid ∈ (h.world.db sr).vdis.map Vdi.uuid := List.mem_map_of_mem hv
    rw [backing_recovered, backing, hl.swept.find _ _ hknown] at hb
    simpa only [backing, hl.swept.names ⟨_, v.uuid⟩ hknown] using hb
  exact ⟨v, object, ⟨hl.srMeta, hv, rfl, hl.sized v hv, hb₀⟩,
    ⟨hl.srMeta, hl.renewed v hv, rfl, fun hnone => by simp [recovered] at hnone, hb⟩, rfl⟩

end

/-- **A listed record is what `stat` returns exactly when the VDI is not sharable**: in the state that the
listing leaves, and in the state before it unless the clean-up destroys a snapshot of the VDI's zvol; then
it must take the same space all the same. -/
theorem sameRecord_iff {E : Env} {V : View} {sr : String} {h h' : Host} {rs : List VdiRecord}
    (hls : ls (quiet E) V sr h = .ok rs h') : ∀ r ∈ rs,
      (SameRecord (quiet E) V sr h' r ↔ Unshared h sr r.key) ∧
        (Untouched (quiet E) V sr h r.key → (SameRecord (quiet E) V sr h r ↔ Unshared h sr r.key)) ∧
          (SameRecord (quiet E) V sr h r ↔
            Unshared h sr r.key ∧ SameSpace (quiet E) sr h h' r.key) := by
  intro r hr
  obtain ⟨m, hl⟩ := (wp_of_ok hls).1 (wp_ls (V := V) (quiet_fault E))
  obtain ⟨v, object, hs, hs', heq⟩ := hl.statable hr
  have hrow : Unshared h sr r.key ↔ r.sharable = false := by
    rw [heq]
    constructor
    · exact fun hun => hun v hs.mem rfl
    · intro hfalse u hu huuid
      rw [Metabase.eq_of_uuid hu hs.mem (huuid.trans rfl)]
      exact hfalse
  have hagain : recovered h'.world.zfs m.datasetPath (recovered h.world.zfs m.datasetPath v) =
      recovered h.world.zfs m.datasetPath v := recovered_of_some rfl
  have hspace : SameSpace (quiet E) sr h h' r.key ↔
      E.used h'.world.zfs object = E.used h.world.zfs object := by
    constructor
    · exact fun hsame => hsame m v object hs
    · intro hused m₁ v₁ object₁ hs₁
      obtain ⟨-, -, rfl⟩ := hs.unique hs₁
      exact hused
  have hbefore : SameRecord (quiet E) V sr h r ↔
      Unshared h sr r.key ∧ E.used h'.world.zfs object = E.used h.world.zfs object := by
    rw [SameRecord, stat_iff (quiet_fault E) hs, hrow]
    constructor
    · intro hsame
      have hused : r.physical_utilisation = E.used h.world.zfs object :=
        congrArg VdiRecord.physical_utilisation hsame
      exact ⟨congrArg VdiRecord.sharable hsame, by rw [← hused, heq]; rfl⟩
    · rintro ⟨hunshared, hused⟩
      have hprops : h.SameProps h' := ⟨hl.swept.props, hl.swept.copies, hl.locals⟩
      rw [← recordOf_congr (E := quiet E) hprops hl.custom hused, ← heq]
      exact eq_unshared_iff.2 hunshared
  refine ⟨?_, fun huntouched => ?_, by rw [hbefore, hspace]⟩
  · rw [SameRecord, stat_iff (quiet_fault E) hs', hagain, ← heq, eq_unshared_iff, hrow]
  · rw [hbefore]
    exact and_iff_left (E.used_local _ _ _ (hl.swept.spared _ (huntouched m v object hs)))

/-! ### A repository with a disk -/

/-- `int` of the digits of a number. -/
def digitsInt (s : String) : Option ℤ :=
  if s.toList ≠ [] ∧ s.toList.all Char.isDigit then some (Nat.ofDigitChars 10 s.toList 0) else none

theorem digitsInt_toString (n : ℕ) : digitsInt (toString n) = some (n : ℤ) := by
  have hlist : (toString n).toList = Nat.toDigits 10 n := by simp
  rw [digitsInt, hlist, if_pos, Nat.ofDigitChars_ten_toDigits]
  refine ⟨Nat.toDigits_ne_nil, List.all_eq_true.2 fun c hc => ?_⟩
  exact Nat.isDigit_of_mem_toDigits (by decide) (by decide) hc

/-- Properties that are off unless they are set, and a clean-up that takes every orphan. -/
def plainView : View where
  U := { asciiStr with int := digitsInt }
  int_digits := digitsInt_toString
  uriPrefix := fun _ _ => "vdi:"
  inherited := fun _ _ => ("off", "default")
  snapshotProperty := fun _ _ => none
  condemned := fun _ => true

/-- A host on which nothing but some calls has happened. -/
def hostAfter (cs : List Call) : Host where
  world := sampleWorld cs
  custom := fun _ => Dict.empty
  work := Dict.empty
  locals := fun _ _ => none

/-- The listing has a VDI that is told to be sharable, or not. -/
def lists (cs : List Call) (sharable : Bool) : Bool :=
  match ls (quiet (sampleEnv fun _ => false)) plainView "sr" (hostAfter cs) with
  | .ok rs _ => rs.any (·.sharable = sharable)
  | .error _ _ => false

theorem exists_of_lists {cs : List Call} {sharable : Bool} (h : lists cs sharable = true) : ∃ rs h',
    ls (quiet (sampleEnv fun _ => false)) plainView "sr" (hostAfter cs) = .ok rs h' ∧
      ∃ r ∈ rs, r.sharable = sharable := by
  rw [lists] at h
  rcases hls : ls (quiet (sampleEnv fun _ => false)) plainView "sr" (hostAfter cs) with
    ⟨rs, h'⟩ | ⟨e, h'⟩
  · rw [hls] at h
    exact ⟨rs, h', rfl, by simpa using h⟩
  · rw [hls] at h
    cases h

/-- A disk that is not sharable; the clean-up finds the hidden snapshot of a clone that is gone. -/
theorem sameRecord_disk : ∃ rs h', ls (quiet (sampleEnv fun _ => false)) plainView "sr"
      (hostAfter [.create "disk" "" 65536 false, .clone "", .destroy "u"]) = .ok rs h' ∧
    ∃ r ∈ rs, SameRecord (quiet (sampleEnv fun _ => false)) plainView "sr" h' r := by
  have hlists : lists [.create "disk" "" 65536 false, .clone "", .destroy "u"] false = true := by
    decide +kernel
  obtain ⟨rs, h', hls, r, hr, -⟩ := exists_of_lists hlists
  have hunshared : ∀ v ∈ ((hostAfter [.create "disk" "" 65536 false, .clone "",
      .destroy "u"]).world.db "sr").vdis, v.sharable = false := by decide +kernel
  exact ⟨rs, h', hls, r, hr, (sameRecord_iff hls r hr).1.2 fun v hv _ => hunshared v hv⟩

/-- **A sharable disk is listed as sharable and described as not sharable.** -/
theorem not_sameRecord_sharable : ¬ ∀ (E : Env) (V : View) (sr : String) (h h' : Host)
    (rs : List VdiRecord), ls (quiet E) V sr h = .ok rs h' → ∀ r ∈ rs,
      SameRecord (quiet E) V sr h r ∨ SameRecord (quiet E) V sr h' r := by
  intro hall
  have hlists : lists [.create "disk" "" 65536 true] true = true := by decide +kernel
  obtain ⟨rs, h', hls, r, hr, hshared⟩ := exists_of_lists hlists
  have hfalse : r.sharable = false := by
    rcases hall _ _ _ _ _ _ hls r hr with ⟨_, hstat⟩ | ⟨_, hstat⟩
    · exact sharable_of_stat (quiet_fault _) hstat
    · exact sharable_of_stat (quiet_fault _) hstat
  rw [hshared] at hfalse
  cases hfalse

end Volume.Records

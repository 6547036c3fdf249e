/-
**A VDI whose recorded size is unknown or right.**

A size that a resize has made unknown is recovered by whoever reads the VDI next.  Every call of the
driver but `resize` keeps the metabase right in this sense: it says nothing about the size of the VDI,
or it says the size of its zvol.

Main definitions:

* `Recovery.Tracked` — a VDI, with the size of its zvol;
* `Recovery.Tracked.Right`, `Recovery.Tracked.Good` — a metabase, and a state, that are right about it;
* `Recovery.Tracked.Keeps` — a program that keeps it so, however it ends.

Main results:

* `Recovery.Tracked.Keeps.stat`, `Recovery.Tracked.Keeps.snapshot`, `Recovery.Tracked.Keeps.destroy`, … —
  **the calls keep it so**; `Recovery.Tracked.Keeps.resizeFirst` — and so does the first transaction of
  a resize.
-/

import ZfsLive.VolumeResize

set_option relaxedAutoImplicit false
set_option autoImplicit false

namespace Volume.Recovery

open Zfs Wp

/-! ### A VDI whose size is unknown or right -/

/-- A VDI: its repository, its uuid, the id of its volume, and the size of its zvol. -/
structure Tracked where
  E : Env
  sr : String
  info : SrMeta
  registered : E.srMeta sr = some info
  key : String
  id : ℕ
  size : ℕ

namespace Tracked

variable (T : Tracked)

/-- The dataset of the repository. -/
def dataset : List String := T.info.datasetPath

/-- The zvol of the VDI. -/
def zvol : ZvolName := ⟨T.dataset, T.key⟩

/-- The metabase knows no size of the VDI, or the right one. -/
structure Right (db : Metabase) : Prop where
  next : T.id < db.next
  id : ∀ v ∈ db.vdis, v.uuid = T.key ↔ v.volume_id = T.id
  size : ∀ v ∈ db.vdis, v.uuid = T.key → v.vsize = none ∨ v.vsize = some T.size

/-- So it is in the committed metabase and, in a transaction, in the working copy; and no new object
will get the uuid of the VDI. -/
structure Good (tx : Bool) (w : World) : Prop where
  zvol : (w.zfs.zvol T.zvol).props.volsize = T.size
  db : T.Right (w.db T.sr)
  work : tx = true → T.Right w.work
  uuids : ∀ j, w.drawn ≤ j → T.E.uuid j ≠ T.key

/-- The program keeps it so, and returns values that satisfy `P`. -/
def Keeps {α : Type} (tx : Bool) (P : α → Prop) (p : VolM α) : Prop :=
  ∀ w, T.Good tx w → wp p (fun a w' => P a ∧ T.Good tx w') (fun _ w' => T.Good tx w') w

end Tracked

variable {T : Tracked} {tx : Bool} {α β : Type} {w w' : World} {db : Metabase}

/-- Any value. -/
def Any (_ : α) : Prop := True

namespace Tracked.Good

theorem of_same (h : T.Good tx w) (hs : w.Same w') : T.Good tx w' where
  zvol := by rw [hs.zfs]; exact h.zvol
  db := by rw [hs.db]; exact h.db
  work htx := by rw [hs.work]; exact h.work htx
  uuids := by rw [hs.drawn]; exact h.uuids

theorem of_sameDb (h : T.Good tx w) (hs : w.SameDb w')
    (hz : (w'.zfs.zvol T.zvol).props.volsize = T.size) : T.Good tx w' where
  zvol := hz
  db := by rw [hs.db]; exact h.db
  work htx := by rw [hs.work]; exact h.work htx
  uuids := by rw [hs.drawn]; exact h.uuids

theorem of_frame {tx' : Bool} (h : T.Good tx w) (hf : w.Frame w') (hwork : T.Right w'.work) :
    T.Good tx' w' where
  zvol := by rw [hf.zfs]; exact h.zvol
  db := by rw [hf.db]; exact h.db
  work _ := hwork
  uuids := by rw [hf.drawn]; exact h.uuids

/-- A commit makes the working copy the metabase. -/
theorem of_committed (hz : (w.zfs.zvol T.zvol).props.volsize = T.size) (hwork : T.Right w.work)
    (huuids : ∀ j, w.drawn ≤ j → T.E.uuid j ≠ T.key) (hc : w.Committed T.sr w') :
    T.Good false w' where
  zvol := by rw [hc.zfs]; exact hz
  db := by rw [hc.db]; simpa using hwork
  work := nofun
  uuids := by rw [hc.drawn]; exact huuids

theorem committed (h : T.Good true w) (hc : w.Committed T.sr w') : T.Good false w' :=
  of_committed h.zvol (h.work rfl) h.uuids hc

theorem outside (h : T.Good tx w) : T.Good false w := ⟨h.zvol, h.db, nofun, h.uuids⟩

end Tracked.Good

/-! ### Updates of the metabase -/

namespace Tracked.Right

theorem insertVolume (h : T.Right db) (parent_id : Option ℕ) (snap : Bool) (vsize : Option ℕ) :
    T.Right (db.insertVolume parent_id snap vsize) where
  next := Nat.lt_succ_of_lt h.next
  id v hv := h.id v (Metabase.mem_vdis_insertVolume.1 hv)
  size v hv := h.size v (Metabase.mem_vdis_insertVolume.1 hv)

theorem of_subset {db' : Metabase} (h : T.Right db) (hnext : db'.next = db.next)
    (hsub : ∀ v ∈ db'.vdis, v ∈ db.vdis) : T.Right db' where
  next := hnext ▸ h.next
  id v hv := h.id v (hsub v hv)
  size v hv := h.size v (hsub v hv)

theorem insertVdi {db' : Metabase} {cols : VdiCols} {id : ℕ} (h : T.Right db)
    (hok : db.insertVdi cols id = some db') (hkey : cols.uuid ≠ T.key) (hid : id ≠ T.id) :
    T.Right db' where
  next := by
    rw [Metabase.insertVdi] at hok
    split at hok
    · cases hok
      exact h.next
    · cases hok
  id v hv := by
    rcases Metabase.mem_vdis_of_insertVdi hok hv with ⟨huuid, hvid⟩ | hv
    · rw [huuid, hvid]
      exact iff_of_false hkey hid
    · exact h.id v hv
  size v hv heq := by
    rcases Metabase.mem_vdis_of_insertVdi hok hv with ⟨huuid, -⟩ | hv
    · exact absurd (huuid.symm.trans heq) hkey
    · exact h.size v hv heq

/-- The size of the VDI is only ever made unknown or right. -/
theorem updateVolumeVsize (h : T.Right db) {id : ℕ} {x : Option ℕ}
    (hx : id = T.id → x = none ∨ x = some T.size) : T.Right (db.updateVolumeVsize id x) where
  next := h.next
  id v hv := by
    obtain ⟨u, hu, rfl⟩ := Metabase.mem_vdis_updateVolumeVsize.1 hv
    split <;> exact h.id u hu
  size v hv heq := by
    obtain ⟨u, hu, rfl⟩ := Metabase.mem_vdis_updateVolumeVsize.1 hv
    by_cases hid : u.volume_id = id
    · rw [if_pos hid] at heq ⊢
      exact hx (hid ▸ (h.id u hu).1 heq)
    · rw [if_neg hid] at heq ⊢
      exact h.size u hu heq

end Tracked.Right

/-! ### Commands -/

namespace Tracked.Keeps

variable {P : α → Prop} {R : β → Prop}

theorem pure {a : α} (ha : P a) : T.Keeps tx P (Pure.pure a) := fun _ h => ⟨ha, h⟩

theorem throw (e : VolError) : T.Keeps tx P (throw e) := fun _ h => h

theorem bind {p : VolM α} {f : α → VolM β} (hp : T.Keeps tx P p)
    (hf : ∀ a, P a → T.Keeps tx R (f a)) : T.Keeps tx R (p >>= f) := by
  intro w hw
  rw [wp_bind]
  refine wp_mono (hp w hw) ?_ fun _ _ h => h
  rintro a w' ⟨ha, hw'⟩
  exact hf a ha w' hw'

theorem mono {P' : α → Prop} {p : VolM α} (hp : T.Keeps tx P p) (hP : ∀ a, P a → P' a) :
    T.Keeps tx P' p := by
  intro w hw
  refine wp_mono (hp w hw) ?_ fun _ _ h => h
  rintro a w' ⟨ha, hw'⟩
  exact ⟨hP a ha, hw'⟩

theorem ite {c : Prop} [Decidable c] {p q : VolM α} (hp : T.Keeps tx P p) (hq : T.Keeps tx P q) :
    T.Keeps tx P (if c then p else q) := by
  split
  · exact hp
  · exact hq

theorem tryCatch {p : VolM α} {g : VolError → VolM α} (hp : T.Keeps tx P p)
    (hg : ∀ e, T.Keeps tx P (g e)) : T.Keeps tx P (tryCatch p g) := by
  intro w hw
  rw [wp_tryCatch]
  exact wp_mono (hp w hw) (fun _ _ h => h) fun e w' hw' => hg e w' hw'

theorem getSrMetadata : T.Keeps tx (fun m => m.datasetPath = T.dataset)
    (getSrMetadata T.E T.sr) := by
  refine fun _ hw => wp_getSrMetadata (fun _ => hw) fun m hm => ⟨?_, hw⟩
  obtain rfl : T.info = m := Option.some.inj (T.registered.symm.trans hm)
  rfl

/-- A uuid that is drawn is not the one of the VDI. -/
theorem uuid4 : T.Keeps tx (· ≠ T.key) (uuid4 T.E) := by
  intro w hw
  refine wp_uuid4 fun w' hd => ⟨hw.uuids _ (Nat.le_refl _), ?_⟩
  refine ⟨by rw [hd.zfs]; exact hw.zvol, by rw [hd.db]; exact hw.db,
    fun htx => by rw [hd.work]; exact hw.work htx, fun j hj => hw.uuids j ?_⟩
  rw [hd.drawn] at hj
  omega

theorem zfsGet (f : Store → Except ZfsError α) : T.Keeps tx Any (zfsGet T.E f) := fun _ hw =>
  wp_zfsGet (fun _ _ hs => hw.of_same hs) (fun _ _ _ hs => hw.of_same hs)
    fun _ _ _ hs => ⟨trivial, hw.of_same hs⟩

/-- A command that keeps the size of the zvol. -/
theorem zfsCmd {f : Store → Except ZfsError Store}
    (hf : ∀ z z', f z = .ok z' → (z'.zvol T.zvol).props.volsize = (z.zvol T.zvol).props.volsize) :
    T.Keeps tx Any (zfsCmd T.E f) := fun _ hw =>
  wp_zfsCmd (fun _ _ hs => hw.of_same hs) (fun _ _ _ hs => hw.of_same hs)
    fun _ hz hs => ⟨trivial, hw.of_sameDb hs ((hf _ _ hz).trans hw.zvol)⟩

theorem setProps {n : ZvolName} {f : Props → Props} (hf : ∀ p, (f p).volsize = p.volsize) :
    T.Keeps tx Any (Volume.zfsCmd T.E fun z => z.setProps n f) := by
  refine zfsCmd fun z z' hz => ?_
  rw [(Store.setProps_ok hz).2]
  by_cases hn : T.zvol = n
  · rw [hn, Store.zvol_put_self]
    exact hf _
  · rw [Store.zvol_put_of_ne _ _ hn]

theorem volSetReadonly (n : ZvolName) : T.Keeps tx Any (volSetReadonly T.E n) :=
  setProps fun _ => rfl

theorem volSetRefreservation (n : ZvolName) (r : ℕ) :
    T.Keeps tx Any (volSetRefreservation T.E n r) := setProps fun _ => rfl

theorem takeSnapshot (s : SnapName) : T.Keeps tx Any (takeSnapshot T.E s) := by
  refine zfsCmd fun z z' hz => ?_
  obtain ⟨-, -, t, -, -, rfl⟩ := Store.snapshot_ok hz
  by_cases hn : T.zvol = s.zvol
  · rw [hn, Store.zvol_put_self]
  · rw [Store.zvol_put_of_ne _ _ hn]

theorem cloneSnapshot (s : Option SnapName) {n : ZvolName} (hn : n.vol ≠ T.key) :
    T.Keeps tx Any (cloneSnapshot T.E s n) := by
  cases s with
  | none => exact throw _
  | some s =>
      refine (zfsCmd fun z z' hz => ?_).bind fun _ _ => pure trivial
      obtain ⟨-, -, -, t, -, -, rfl⟩ := Store.clone_ok hz
      rw [Store.zvol_put_of_ne]
      rintro rfl
      exact hn rfl

theorem promoteClone (n : ZvolName) : T.Keeps tx Any (promoteClone T.E n) := by
  refine zfsCmd fun z z' hz => ?_
  obtain ⟨-, s, -, -, rfl⟩ := Store.promote_ok hz
  rw [Store.zvol_turned, Store.props_promoted]

theorem destroyZvol (object : ZfsObject) : T.Keeps tx Any (destroyZvol T.E object) := by
  intro w hw
  refine wp_destroyZvol (fun _ _ hs => hw.of_same hs) (fun _ _ _ hs => hw.of_same hs)
    fun w' hz hd => ⟨trivial, ?_, by rw [hd.db]; exact hw.db,
      fun htx => by rw [hd.work]; exact hw.work htx, by rw [hd.drawn]; exact hw.uuids⟩
  cases object with
  | zvol n =>
      obtain ⟨-, -, -, heq⟩ := Store.destroy_ok hz
      rw [heq]
      exact hw.zvol
  | snap s =>
      rw [Store.props_destroySnap hz]
      exact hw.zvol

/-- A query or an update that keeps the working copy right. -/
theorem dbCmd {f : Metabase → Except VolError (α × Metabase)}
    (hf : ∀ db a db', T.Right db → f db = .ok (a, db') → P a ∧ T.Right db') :
    T.Keeps true P (dbCmd T.E f) := by
  intro w hw
  refine wp_dbCmd (fun _ _ hs => hw.of_same hs) (fun _ _ _ hs => hw.of_same hs)
    fun a db w' hok hwork hframe => ?_
  obtain ⟨ha, hright⟩ := hf _ _ _ (hw.work rfl) hok
  exact ⟨ha, hw.of_frame hframe (hwork ▸ hright)⟩

/-- A transaction on the metabase of the VDI. -/
theorem dbContext {body : VolM α} (hbody : T.Keeps true P body) :
    T.Keeps false P (dbContext T.E T.sr body) := by
  intro w hw
  refine wp_dbContext (fun _ _ hs => hw.of_same hs) fun w₁ hf hwork => ?_
  refine wp_mono (hbody w₁ (hw.of_frame hf (hwork ▸ hw.db))) ?_ fun _ _ h => h.outside
  rintro a w₂ ⟨ha, hw₂⟩
  exact ⟨fun _ _ hs => (hw₂.of_same hs).outside, fun w₃ hc => ⟨ha, hw₂.committed hc⟩⟩

/-! The queries and updates of the driver. -/

/-- A VDI that was read: it is the tracked one exactly when its volume is. -/
def Looked (T : Tracked) (v : Vdi) : Prop := v.uuid = T.key ↔ v.volume_id = T.id

theorem getVdiById (key : String) :
    T.Keeps true (fun v => v.uuid = key ∧ Looked T v) (getVdiById T.E key) := by
  refine dbCmd fun db v db' h hok => ?_
  split at hok
  · next v' hv' =>
      cases hok
      obtain ⟨hmem, huuid⟩ := Metabase.getVdiById_mem hv'
      exact ⟨⟨huuid, h.id v hmem⟩, h⟩
  · cases hok

theorem getVdiForVolume (id : Option ℕ) : T.Keeps true Any (getVdiForVolume T.E id) := by
  refine dbCmd fun db v db' h hok => ?_
  cases hok
  exact ⟨trivial, h⟩

theorem getAllVdis : T.Keeps true (fun vdis => ∀ v ∈ vdis, Looked T v) (getAllVdis T.E) := by
  refine dbCmd fun db v db' h hok => ?_
  cases hok
  exact ⟨h.id, h⟩

theorem insertChildVolume (parent_id vsize : Option ℕ) (snap : Bool) :
    T.Keeps true (· ≠ T.id) (insertChildVolume T.E parent_id vsize snap) := by
  refine dbCmd fun db id db' h hok => ?_
  cases hok
  exact ⟨Nat.ne_of_gt h.next, h.insertVolume _ _ _⟩

theorem insertVdi {cols : VdiCols} {id : ℕ} (hkey : cols.uuid ≠ T.key) (hid : id ≠ T.id) :
    T.Keeps true Any (insertVdi T.E cols id) := by
  refine dbCmd fun db _ db' h hok => ?_
  split at hok
  · next db'' hins =>
      cases hok
      exact ⟨trivial, h.insertVdi hins hkey hid⟩
  · cases hok

theorem updateVolumeVsize {id : ℕ} {x : Option ℕ} (hx : id = T.id → x = none ∨ x = some T.size) :
    T.Keeps true Any (updateVolumeVsize T.E id x) := by
  refine dbCmd fun db _ db' h hok => ?_
  cases hok
  exact ⟨trivial, h.updateVolumeVsize hx⟩

theorem deleteVdi (key : String) : T.Keeps true Any (deleteVdi T.E key) := by
  refine dbCmd fun db _ db' h hok => ?_
  cases hok
  exact ⟨trivial, h.of_subset rfl fun v hv => (Metabase.mem_vdis_deleteVdi.1 hv).1⟩

theorem deleteVolume (id : ℕ) : T.Keeps true Any (deleteVolume T.E id) := by
  refine dbCmd fun db _ db' h hok => ?_
  cases hok
  exact ⟨trivial, h.of_subset rfl fun v hv => (Metabase.mem_vdis_deleteVolume.1 hv).1⟩

theorem volumeDestroy (id : ℕ) : T.Keeps true Any (volumeDestroy T.E id) := by
  refine dbCmd fun db _ db' h hok => ?_
  cases hok
  exact ⟨trivial, h⟩

/-- **Recovering a size records the right one.** -/
theorem recoverVdiVsize {v : Vdi} (hv : Looked T v) :
    T.Keeps true (fun v' => v'.uuid = v.uuid ∧ Looked T v') (recoverVdiVsize T.E v T.dataset) := by
  rw [Volume.recoverVdiVsize]
  split
  · exact pure ⟨rfl, hv⟩
  · intro w hw
    rw [wp_bind]
    refine wp_zfsGet (fun _ _ hs => hw.of_same hs) (fun _ _ _ hs => hw.of_same hs)
      fun x w' hx hs => ?_
    have hsize : v.volume_id = T.id → x = T.size := by
      intro hid
      rw [Store.getProp, hv.2 hid] at hx
      split at hx
      · cases hx
        exact hw.zvol
      · cases hx
    refine bind (updateVolumeVsize fun hid => .inr (congrArg some (hsize hid)))
      (fun _ _ => pure ?_) w' (hw.of_same hs)
    exact ⟨rfl, hv⟩

/-! ### The calls -/

theorem volExists (n : ZvolName) : T.Keeps tx Any (volExists T.E n) :=
  tryCatch (zfsGet _) fun _ => pure trivial

theorem destroyIfExists (n : ZvolName) : T.Keeps tx Any (destroyIfExists T.E n) :=
  (volExists n).bind fun _ _ => ite (destroyZvol _) (pure trivial)

theorem removeCbtMetadata (sr key : String) : T.Keeps tx Any (removeCbtMetadata T.E sr key) := by
  intro w hw
  refine wp_command (fun _ _ hs => hw.of_same hs) (fun _ _ h => by cases h) fun _ w' h => ?_
  cases h
  exact ⟨trivial, hw.of_same w.same_tick⟩

theorem selectClone {v : Vdi} (s : SnapName) :
    T.Keeps true Any (selectClone T.E T.dataset v s) := by
  refine (zfsGet _).bind fun clones _ => ?_
  cases clones with
  | cons dep deps => exact pure trivial
  | nil =>
      refine (insertChildVolume _ _ _).bind fun id hid => uuid4.bind fun u hu => ?_
      exact (insertVdi hu hid).bind fun _ _ => (cloneSnapshot _ hu).bind fun _ _ => pure trivial

theorem selectClones {v : Vdi} (snaps : List SnapName) :
    T.Keeps true Any (selectClones T.E T.dataset v snaps) := by
  induction snaps with
  | nil => exact pure trivial
  | cons s snaps ih =>
      exact (selectClone s).bind fun _ _ => ih.bind fun _ _ => pure trivial

theorem promoteEach (deps : List ZvolName) : T.Keeps tx Any (promoteEach T.E deps) := by
  induction deps with
  | nil => exact pure trivial
  | cons d deps ih => exact (promoteClone d).bind fun _ _ => ih

theorem promoteClones (deps : List ZvolName) :
    T.Keeps tx Any (promoteClones T.E T.dataset deps) :=
  ite ((promoteEach deps).bind fun _ _ => zfsGet _) (pure trivial)

theorem destroyBaseVdi (v : Vdi) : T.Keeps true Any (destroyBaseVdi T.E T.dataset v) :=
  (zfsGet _).bind fun _ _ => (zfsGet _).bind fun snaps _ => (selectClones snaps).bind fun deps _ =>
    (promoteClones deps).bind fun _ _ => destroyZvol _

theorem destroySnapshotVdi (v : Vdi) : T.Keeps true Any (destroySnapshotVdi T.E T.dataset v) := by
  refine (zfsGet _).bind fun snap_name _ => (zfsGet _).bind fun _ _ => ?_
  cases snap_name with
  | none => exact throw _
  | some s =>
      exact (zfsGet _).bind fun _ _ => ite (throw _)
        ((destroyIfExists _).bind fun _ _ => destroyZvol _)

theorem destroyTxn (key : String) : T.Keeps true Any (destroyTxn T.E T.dataset key) :=
  (getVdiById key).bind fun _ hv => (recoverVdiVsize hv.2).bind fun v _ =>
    (ite (destroySnapshotVdi v) (destroyBaseVdi v)).bind fun _ _ => (deleteVdi _).bind fun _ _ =>
      (volumeDestroy _).bind fun _ _ => deleteVolume _

theorem destroy (key : String) : T.Keeps false Any (destroy T.E T.sr key) := by
  refine getSrMetadata.bind fun m hm => ?_
  rw [hm]
  exact (dbContext (destroyTxn key)).bind fun _ _ => (removeCbtMetadata _ _).bind fun _ _ =>
    tryCatch (removeCbtMetadata _ _) fun _ => pure trivial

theorem recoverEach {vdis : List Vdi} (hvdis : ∀ v ∈ vdis, Looked T v) :
    T.Keeps true Any (recoverEach T.E T.dataset vdis) := by
  induction vdis with
  | nil => exact pure trivial
  | cons v vdis ih =>
      refine (recoverVdiVsize (hvdis v List.mem_cons_self)).bind fun _ _ => ?_
      exact (ih fun v hv => hvdis v (List.mem_cons_of_mem _ hv)).bind fun _ _ => pure trivial

theorem ls : T.Keeps false Any (ls T.E T.sr) := by
  refine getSrMetadata.bind fun m hm => dbContext (getAllVdis.bind fun vdis hvdis => ?_)
  rw [hm]
  exact recoverEach hvdis

theorem getZvolUsedBytes (object : ZfsObject) : T.Keeps tx Any (getZvolUsedBytes T.E object) :=
  zfsGet _

theorem stat (key : String) : T.Keeps false Any (stat T.E T.sr key) := by
  refine getSrMetadata.bind fun m hm => ?_
  rw [hm]
  refine bind (dbContext (P := Any) ?_) fun _ _ => (getZvolUsedBytes _).bind fun _ _ => pure trivial
  refine (getVdiById key).bind fun _ hv => (recoverVdiVsize hv.2).bind fun v _ => ite ?_ (pure trivial)
  refine (zfsGet _).bind fun o _ => ?_
  cases o with
  | none => exact throw _
  | some s => exact pure trivial

theorem snapshotParent (v : Vdi) : T.Keeps true Any (snapshotParent T.E v) :=
  ite ((getVdiForVolume _).bind fun _ _ => pure trivial) (pure trivial)

theorem snapshot (key : String) : T.Keeps false Any (snapshot T.E T.sr key) := by
  refine getSrMetadata.bind fun m hm => uuid4.bind fun u hu => ?_
  rw [hm]
  refine bind (dbContext (P := Any) ?_) fun _ _ => (getZvolUsedBytes _).bind fun _ _ => pure trivial
  refine (getVdiById key).bind fun _ hv => (recoverVdiVsize hv.2).bind fun v _ => ?_
  refine (snapshotParent v).bind fun parent _ => (insertChildVolume _ _ _).bind fun id hid => ?_
  refine (takeSnapshot _).bind fun _ _ => (cloneSnapshot _ hu).bind fun _ _ => ?_
  refine (volSetReadonly _).bind fun _ _ => ?_
  exact (insertVdi hu hid).bind fun _ _ => pure trivial

theorem cloneSource (v : Vdi) : T.Keeps true Any (cloneSource T.E T.dataset v) :=
  ite ((zfsGet _).bind fun _ _ => pure trivial)
    (uuid4.bind fun _ _ => (insertChildVolume _ _ _).bind fun _ _ => (takeSnapshot _).bind fun _ _ =>
      pure trivial)

theorem copyThickness (source clone : ZvolName) : T.Keeps tx Any (copyThickness T.E source clone) :=
  (zfsGet _).bind fun _ _ => ite
    ((zfsGet _).bind fun _ _ => (zfsGet _).bind fun _ _ => volSetRefreservation _ _) (pure trivial)

theorem clone (key : String) : T.Keeps false Any (clone T.E T.sr key) := by
  refine getSrMetadata.bind fun m hm => uuid4.bind fun u hu => ?_
  rw [hm]
  refine bind (dbContext (P := Any) ?_) fun _ _ => (getZvolUsedBytes _).bind fun _ _ => pure trivial
  refine (getVdiById key).bind fun _ hv => (recoverVdiVsize hv.2).bind fun v _ => ?_
  refine (cloneSource v).bind fun source _ => (insertChildVolume _ _ _).bind fun id hid => ?_
  refine (cloneSnapshot _ hu).bind fun _ _ => (copyThickness _ _).bind fun _ _ => ?_
  exact (insertVdi hu hid).bind fun _ _ => pure trivial

/-- The first transaction of a resize makes the size unknown, or changes nothing. -/
theorem resizeFirst (key : String) (n : ℕ) :
    T.Keeps false (fun v => v.uuid = key ∧ Looked T v) (resizeFirst T.E T.sr T.dataset key n) := by
  refine dbContext ((getVdiById key).bind fun v hv => (recoverVdiVsize hv.2).bind fun v' hv' => ?_)
  refine ite (throw _) ((updateVolumeVsize fun _ => .inl rfl).bind fun _ _ => pure ?_)
  exact ⟨hv'.1.trans hv.1, hv'.2⟩

theorem recordSize {id vsize : ℕ} (n : ZvolName) (hsize : id = T.id → vsize = T.size) :
    T.Keeps true Any (recordSize T.E n id vsize) := by
  refine (updateVolumeVsize fun hid => .inr (congrArg some (hsize hid))).bind fun _ _ => ?_
  refine (zfsGet _).bind fun _ _ => ite ?_ (pure trivial)
  exact (zfsGet _).bind fun _ _ => (zfsGet _).bind fun _ _ => ite (volSetRefreservation _ _)
    (pure trivial)

end Tracked.Keeps

end Volume.Recovery

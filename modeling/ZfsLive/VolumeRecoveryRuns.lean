/-
**A resize that is cut short, and the recovery of the size.**

`resize` marks the size of its VDI as unknown in a first transaction, and changes the zvol and records
the new size in a second one.  Whoever reads the VDI in between finds the marker and replaces it by the
size of the zvol.  So the marker that a second transaction relies on when it is cut short after
`zfs set volsize` may be gone.

Main definitions:

* `Recovery.Sys`, `Recovery.Label` — one resize, which may be killed, among other calls;
* `Recovery.Safe` — a second transaction that is not cut short after it has changed the size, or that
  still finds the marker.

Main results:

* `Recovery.good_second` — a safe second transaction leaves the metabase right;
* `Recovery.known_of_ls` — a listing that completes leaves the size of the zvol in the metabase;
* `Recovery.recorded_of_safe` — **so it does after every run whose second transactions are safe**;
* `Recovery.not_recorded_cut` — and not after every run.
-/

import ZfsLive.VolumeRecovery

set_option relaxedAutoImplicit false
set_option autoImplicit false

namespace Volume.Recovery

open Zfs Wp

variable {T : Tracked} {tx : Bool} {α : Type} {w w' : World} {db : Metabase}

/-! ### The second transaction -/

section

variable (E : Env) (sr : String) (ds : List String) (key : String) (n : ℕ)

/-- The second transaction of a resize to `n`. -/
def resizeSecond (vdi : Vdi) : VolM Unit :=
  dbContext E sr do
    let vol_name : ZvolName := ⟨ds, vdi.uuid⟩
    resizeZvol E vol_name n
    let vsize ← getZvolSizeBytes E vol_name
    recordSize E vol_name vdi.volume_id vsize

theorem resize_eq : resize E sr key n = (do
    let m ← getSrMetadata E sr
    let vdi ← resizeFirst E sr m.datasetPath key n
    resizeSecond E sr m.datasetPath n vdi) := rfl

/-- The size the zvol gets. -/
def newSize (z : Store) : ℕ := E.volsizeFor (z.zvol ⟨ds, key⟩).props.volblocksize n

/-- The number of commands of the second transaction: a thick zvol has its reservation read and,
where it has to grow, set. -/
def secondLength (z : Store) : ℕ :=
  let reserved := (z.zvol ⟨ds, key⟩).props.refreservation
  if reserved > 0 then if newSize E ds key n z * z.effectiveCopies ⟨ds, key⟩ ≠ reserved then 9 else 8 else 6

/-- The second transaction is cut short after `zfs set volsize`: the first two commands go through and
a later one fails. -/
def CutShort (w : World) : Prop :=
  E.fault w.clock = false ∧ E.fault (w.clock + 1) = false ∧
    (∃ z, w.zfs.setVolsize ⟨ds, key⟩ (fun volblocksize => E.volsizeFor volblocksize n) = .ok z) ∧
    ∃ i, 2 ≤ i ∧ i < secondLength E ds key n w.zfs ∧ E.fault (w.clock + i) = true

/-- The metabase does not know the size of the VDI. -/
def Marked (w : World) : Prop := ∀ v ∈ (w.db sr).vdis, v.uuid = key → v.vsize = none

/-- A second transaction that does no harm: it is not cut short after it has changed the size, or it
changes nothing, or the marker of the first transaction is still there. -/
def Safe (w : World) : Prop :=
  ¬ CutShort E ds key n w ∨ newSize E ds key n w.zfs = (w.zfs.zvol ⟨ds, key⟩).props.volsize ∨
    Marked sr key w

end

/-! Commands that the schedule lets through. -/

section

variable {E : Env} {sr : String}

theorem beginTxn_at {w : World} (hf : E.fault w.clock = false) :
    beginTxn E sr w = .ok () { w.tick with work := w.db sr } := by
  rw [beginTxn, command, if_neg (by simp [hf])]
  rfl

theorem zfsGet_at {f : Store → Except ZfsError α} {w : World} {a : α}
    (hf : E.fault w.clock = false) (h : f w.zfs = .ok a) : zfsGet E f w = .ok a w.tick := by
  rw [zfsGet, command, if_neg (by simp [hf]), show w.tick.zfs = w.zfs from rfl, h]

theorem zfsCmd_at {f : Store → Except ZfsError Store} {w : World} {z : Store}
    (hf : E.fault w.clock = false) (h : f w.zfs = .ok z) :
    zfsCmd E f w = .ok () { w.tick with zfs := z } := by
  rw [zfsCmd, command, if_neg (by simp [hf]), show w.tick.zfs = w.zfs from rfl, h]

theorem zfsCmd_refused {f : Store → Except ZfsError Store} {w : World} {e : ZfsError}
    (hf : E.fault w.clock = false) (h : f w.zfs = .error e) :
    zfsCmd E f w = .error (.zfs e) w.tick := by
  rw [zfsCmd, command, if_neg (by simp [hf]), show w.tick.zfs = w.zfs from rfl, h]

theorem dbCmd_at {f : Metabase → Except VolError (α × Metabase)} {w : World} {a : α} {db : Metabase}
    (hf : E.fault w.clock = false) (h : f w.work = .ok (a, db)) :
    dbCmd E f w = .ok a { w.tick with work := db } := by
  rw [dbCmd, command, if_neg (by simp [hf]), show w.tick.work = w.work from rfl, h]

theorem commitTxn_at {w : World} (hf : E.fault w.clock = false) :
    ∃ w', commitTxn E sr w = .ok () w' ∧ w.Committed sr w' := by
  refine ⟨{ w.tick with
    db := fun sr' => if sr' = sr then w.work else w.db sr', commits := w.commits + 1 }, ?_,
    ⟨rfl, rfl, rfl, rfl, rfl⟩⟩
  rw [commitTxn, command, if_neg (by simp [hf])]
  rfl

theorem command_fault {f : World → Except VolError (α × World)} {w : World}
    (hf : E.fault w.clock = true) : command E f w = .error .fault w.tick := by
  rw [command, if_pos hf]

end

/-- The VDI, with a zvol of another size. -/
def Tracked.resized (T : Tracked) (size : ℕ) : Tracked := { T with size := size }

/-- Recording a size makes the metabase right about it. -/
theorem Tracked.Right.record (h : T.Right db) (size : ℕ) :
    (T.resized size).Right (db.updateVolumeVsize T.id (some size)) where
  next := h.next
  id v hv := by
    obtain ⟨u, hu, rfl⟩ := Metabase.mem_vdis_updateVolumeVsize.1 hv
    split <;> exact h.id u hu
  size v hv heq := by
    obtain ⟨u, hu, rfl⟩ := Metabase.mem_vdis_updateVolumeVsize.1 hv
    by_cases hid : u.volume_id = T.id
    · rw [if_pos hid]
      exact .inr rfl
    · rw [if_neg hid] at heq
      exact absurd ((h.id u hu).1 heq) hid

/-- The metabase is right about some size of the zvol. -/
def SomeGood (T : Tracked) (w : World) : Prop := ∃ size, (T.resized size).Good false w

theorem Tracked.Good.some (h : T.Good tx w) : SomeGood T w := ⟨T.size, h.outside⟩

/-- The end of the second transaction, where the working copy is right about the new size. -/
theorem keeps_recordSize (vdi : Vdi) (huuid : vdi.uuid = T.key) :
    T.Keeps true Any (do
      let vsize ← getZvolSizeBytes T.E ⟨T.dataset, vdi.uuid⟩
      recordSize T.E ⟨T.dataset, vdi.uuid⟩ vdi.volume_id vsize) := by
  intro w hw
  rw [wp_bind]
  refine wp_zfsGet (fun _ _ hs => hw.of_same hs) (fun _ _ _ hs => hw.of_same hs) fun x w' hx hs => ?_
  have hsize : x = T.size := by
    rw [Store.getProp, huuid] at hx
    split at hx
    · cases hx
      exact hw.zvol
    · cases hx
  exact Tracked.Keeps.recordSize _ (fun _ => hsize) w' (hw.of_same hs)

/-- **A second transaction that changes nothing, or that still finds the marker**: the metabase stays
right, wherever the transaction is cut short. -/
theorem wp_second_marked (hw : T.Good false w) {vdi : Vdi} (huuid : vdi.uuid = T.key) {n : ℕ}
    (hright : (T.resized (newSize T.E T.dataset T.key n w.zfs)).Right (w.db T.sr)) :
    wp (resizeSecond T.E T.sr T.dataset n vdi) (fun _ w' => SomeGood T w')
      (fun _ w' => SomeGood T w') w := by
  refine wp_dbContext (fun _ w' hs => (hw.of_same hs).some) fun w₁ hf hwork => ?_
  have hw₁ : T.Good true w₁ := hw.of_frame hf (hwork ▸ hw.db)
  rw [wp_bind]
  refine wp_zfsCmd (fun _ _ hs => (hw₁.of_same hs).some) (fun _ _ _ hs => (hw₁.of_same hs).some)
    fun w₂ hz hs => ?_
  have hw₂ : (T.resized (newSize T.E T.dataset T.key n w.zfs)).Good true w₂ := by
    refine ⟨?_, ?_, fun _ => ?_, ?_⟩
    · rw [(Store.setProps_ok (Store.setVolsize_ok hz).2).2, huuid, hf.zfs]
      exact congrArg (fun v => v.props.volsize) (Store.zvol_put_self _ _ _)
    · rw [hs.db, hf.db]
      exact hright
    · rw [hs.work, hwork]
      exact hright
    · rw [hs.drawn, hf.drawn]
      exact hw.uuids
  have hrecord := keeps_recordSize (T := T.resized (newSize T.E T.dataset T.key n w.zfs)) vdi huuid
  refine wp_mono (hrecord w₂ hw₂) ?_ fun _ w₃ hw₃ => ⟨_, hw₃.outside⟩
  rintro _ w₃ ⟨-, hw₃⟩
  exact ⟨fun _ w₄ hs => ⟨_, (hw₃.of_same hs).outside⟩, fun w₄ hc => ⟨_, hw₃.committed hc⟩⟩

/-- A commit, when the working copy has the size that the zvol has. -/
theorem wp_commit_recorded (hw : T.Good false w) {u : World} {vsize : ℕ}
    (hf : T.E.fault u.clock = false) (hvol : (u.zfs.zvol T.zvol).props.volsize = vsize)
    (hwork : u.work = (w.db T.sr).updateVolumeVsize T.id (some vsize)) (hdrawn : u.drawn = w.drawn) :
    wp (commitTxn T.E T.sr) (fun _ w' => SomeGood T w') (fun _ w' => SomeGood T w') u := by
  obtain ⟨w', hok, hc⟩ : ∃ w', commitTxn T.E T.sr u = .ok () w' ∧ u.Committed T.sr w' :=
    commitTxn_at hf
  refine (wp_of_ok hok).2 ⟨vsize, Tracked.Good.of_committed hvol ?_ (by rw [hdrawn]; exact hw.uuids) hc⟩
  rw [hwork]
  exact hw.db.record _

/-- The number of commands that record a size and commit it. -/
def recordLength (z : Store) (n : ZvolName) (vsize : ℕ) : ℕ :=
  let reserved := (z.zvol n).props.refreservation
  if reserved > 0 then if vsize * z.effectiveCopies n ≠ reserved then 6 else 5 else 3

theorem secondLength_eq (E : Env) (ds : List String) (key : String) (n : ℕ) (z : Store) :
    secondLength E ds key n z = 3 + recordLength z ⟨ds, key⟩ (newSize E ds key n z) := by
  simp only [secondLength, recordLength]
  split
  · split <;> rfl
  · rfl

/-- **The end of a second transaction that is not cut short**: the size is recorded and committed. -/
theorem wp_recordSize_whole (hw : T.Good false w) {u : World} {vsize : ℕ}
    (hmem : T.zvol ∈ u.zfs.names) (hvol : (u.zfs.zvol T.zvol).props.volsize = vsize)
    (hwork : u.work = w.db T.sr) (hdrawn : u.drawn = w.drawn)
    (hcalm : ∀ i, i < recordLength u.zfs T.zvol vsize → T.E.fault (u.clock + i) = false) :
    wp (recordSize T.E T.zvol T.id vsize)
      (fun _ => wp (commitTxn T.E T.sr) (fun _ w' => SomeGood T w') fun _ w' => SomeGood T w')
      (fun _ w' => SomeGood T w') u := by
  have hget : ∀ {α : Type} (f : Props → α), u.zfs.getProp T.zvol f = .ok (f (u.zfs.zvol T.zvol).props) :=
    fun f => if_pos hmem
  have hlen : 3 ≤ recordLength u.zfs T.zvol vsize := by
    rw [recordLength]
    split
    · split <;> decide
    · decide
  have hrecorded : u.work.updateVolumeVsize T.id (some vsize) =
      (w.db T.sr).updateVolumeVsize T.id (some vsize) := by rw [hwork]
  simp only [recordSize, volSyncThickRefreservation, wp_bind]
  rw [updateVolumeVsize, wp_of_ok (dbCmd_at (hcalm 0 (by omega)) rfl), volGetRefreservation,
    wp_of_ok (zfsGet_at (hcalm 1 (by omega)) (hget _))]
  by_cases hpos : (u.zfs.zvol T.zvol).props.refreservation > 0
  · -- a thick zvol
    have hlen : recordLength u.zfs T.zvol vsize =
        if vsize * u.zfs.effectiveCopies T.zvol ≠ (u.zfs.zvol T.zvol).props.refreservation then 6
        else 5 := if_pos hpos
    have hlen' : 5 ≤ recordLength u.zfs T.zvol vsize := by
      rw [hlen]
      split <;> decide
    have hcopies : u.zfs.getProp T.zvol (fun _ => u.zfs.effectiveCopies T.zvol) =
        .ok (u.zfs.effectiveCopies T.zvol) := hget fun _ => u.zfs.effectiveCopies T.zvol
    rw [if_pos hpos, getZvolSizeBytes]
    simp only [wp_bind]
    rw [wp_of_ok (zfsGet_at (hcalm 2 (by omega)) (hget _)), volGetCopies,
      wp_of_ok (zfsGet_at (hcalm 3 (by omega)) hcopies), hvol]
    by_cases hgrow : vsize * u.zfs.effectiveCopies T.zvol ≠ (u.zfs.zvol T.zvol).props.refreservation
    · rw [if_pos hgrow] at hlen ⊢
      rw [volSetRefreservation, wp_of_ok (zfsCmd_at (hcalm 4 (by omega)) (if_pos hmem))]
      refine wp_commit_recorded hw (hcalm 5 (by omega)) ?_ hrecorded hdrawn
      have hself := Store.zvol_put_self u.zfs T.zvol ({ u.zfs.zvol T.zvol with
        props := { (u.zfs.zvol T.zvol).props with
          refreservation := vsize * u.zfs.effectiveCopies T.zvol } })
      exact (congrArg (fun v => v.props.volsize) hself).trans hvol
    · rw [if_neg hgrow]
      exact wp_commit_recorded hw (hcalm 4 (by omega)) hvol hrecorded hdrawn
  · rw [if_neg hpos]
    exact wp_commit_recorded hw (hcalm 2 (by omega)) hvol hrecorded hdrawn

/-- What a second transaction finds after its `zfs set volsize`. -/
theorem resized_spec {E : Env} {ds : List String} {key : String} {n : ℕ} {z z' : Store}
    (hz : z.setVolsize ⟨ds, key⟩ (fun volblocksize => E.volsizeFor volblocksize n) = .ok z') :
    (⟨ds, key⟩ : ZvolName) ∈ z'.names ∧
      (z'.zvol ⟨ds, key⟩).props.volsize = newSize E ds key n z ∧
      ∀ vsize, recordLength z' ⟨ds, key⟩ vsize = recordLength z ⟨ds, key⟩ vsize := by
  obtain ⟨hmem, rfl⟩ := Store.setProps_ok (Store.setVolsize_ok hz).2
  refine ⟨Store.mem_names_put.2 (.inl rfl), ?_, fun vsize => ?_⟩
  · rw [Store.zvol_put_self]
    rfl
  · rw [recordLength, recordLength, Store.effectiveCopies, Store.effectiveCopies, Store.zvol_put_self]
    rfl

/-- **A second transaction that is not cut short**: what it sets the zvol to is what it records. -/
theorem wp_second_whole (hw : T.Good false w) {vdi : Vdi} (huuid : vdi.uuid = T.key)
    (hid : vdi.volume_id = T.id) {n : ℕ} (hwhole : ¬ CutShort T.E T.dataset T.key n w) :
    wp (resizeSecond T.E T.sr T.dataset n vdi) (fun _ w' => SomeGood T w')
      (fun _ w' => SomeGood T w') w := by
  have hsame : ∀ u : World, u.zfs = w.zfs → u.db = w.db → u.drawn = w.drawn → SomeGood T u :=
    fun u hzfs hdb hdrawn => ⟨T.size, by rw [hzfs]; exact hw.zvol, by rw [hdb]; exact hw.db,
      fun hno => absurd hno Bool.false_ne_true, by rw [hdrawn]; exact hw.uuids⟩
  rw [resizeSecond, dbContext, wp_bind]
  cases h0 : T.E.fault w.clock with
  | true =>
      rw [beginTxn, wp_of_error (command_fault h0)]
      exact hsame _ rfl rfl rfl
  | false =>
      rw [wp_of_ok (beginTxn_at h0), huuid, hid]
      simp only [wp_bind]
      cases h1 : T.E.fault (w.clock + 1) with
      | true =>
          rw [resizeZvol, zfsCmd, wp_of_error (command_fault h1)]
          exact hsame _ rfl rfl rfl
      | false =>
          rcases hz : w.zfs.setVolsize ⟨T.dataset, T.key⟩
            (fun volblocksize => T.E.volsizeFor volblocksize n) with e | z
          · -- the zvol is not there, or it is read-only
            rw [resizeZvol, wp_of_error (zfsCmd_refused h1 hz)]
            exact hsame _ rfl rfl rfl
          · obtain ⟨hmem, hvol, hlen⟩ := resized_spec hz
            have hcalm : ∀ i, i < 1 + recordLength z ⟨T.dataset, T.key⟩
                (newSize T.E T.dataset T.key n w.zfs) → T.E.fault (w.clock + 2 + i) = false := by
              intro i hi
              by_contra hne
              refine hwhole ⟨h0, h1, ⟨z, hz⟩, 2 + i, by omega, ?_, ?_⟩
              · rw [secondLength_eq, ← hlen]
                omega
              · rw [← Nat.add_assoc]
                simpa using hne
            have hread : z.getProp ⟨T.dataset, T.key⟩ Props.volsize =
                .ok (newSize T.E T.dataset T.key n w.zfs) := by rw [Store.getProp, if_pos hmem, hvol]
            rw [resizeZvol, wp_of_ok (zfsCmd_at h1 hz), getZvolSizeBytes,
              wp_of_ok (zfsGet_at (hcalm 0 (by omega)) hread)]
            refine wp_recordSize_whole hw hmem hvol rfl rfl fun i hi => ?_
            have := hcalm (1 + i) (Nat.add_lt_add_left hi 1)
            rwa [← Nat.add_assoc] at this

/-- **A safe second transaction.** -/
theorem good_second (hw : T.Good false w) {vdi : Vdi} (huuid : vdi.uuid = T.key)
    (hid : vdi.volume_id = T.id) {n : ℕ} (hsafe : Safe T.E T.sr T.dataset T.key n w) :
    SomeGood T (after (resizeSecond T.E T.sr T.dataset n vdi) w) := by
  rcases hsafe with hwhole | hsame | hmarked
  · exact of_wp (wp_second_whole hw huuid hid hwhole)
  · refine of_wp (wp_second_marked hw huuid ?_)
    have hsize : newSize T.E T.dataset T.key n w.zfs = T.size := hsame.trans hw.zvol
    rw [hsize]
    exact hw.db
  · refine of_wp (wp_second_marked hw huuid ⟨hw.db.next, hw.db.id, ?_⟩)
    exact fun v hv heq => .inl (hmarked v hv heq)

/-! ### The listing that repairs -/

/-- The metabase knows the size of the zvol. -/
def Tracked.Known (T : Tracked) (db : Metabase) : Prop :=
  ∀ v ∈ db.vdis, v.uuid = T.key → v.vsize = some T.size

theorem wp_recoverEach_known {vdis : List Vdi} (hvdis : ∀ v ∈ vdis, Tracked.Keeps.Looked T v)
    {w : World} (hw : T.Good true w)
    (hlost : ∀ v ∈ w.work.vdis, v.uuid = T.key → v.vsize = none →
      ∃ u ∈ vdis, u.uuid = T.key ∧ u.vsize = none) :
    wp (recoverEach T.E T.dataset vdis) (fun _ w' => T.Good true w' ∧ T.Known w'.work)
      (fun _ _ => True) w := by
  induction vdis generalizing w with
  | nil =>
      refine ⟨hw, fun v hv heq => ((hw.work rfl).size v hv heq).resolve_left fun hnone => ?_⟩
      obtain ⟨u, hu, -⟩ := hlost v hv heq hnone
      cases hu
  | cons u us ih =>
      have hu := hvdis u List.mem_cons_self
      have hrest : ∀ v ∈ us, Tracked.Keeps.Looked T v := fun v hv => hvdis v (List.mem_cons_of_mem _ hv)
      have hkeep := Tracked.Keeps.recoverVdiVsize hu w hw
      have hrec : wp (recoverVdiVsize T.E u T.dataset)
          (fun _ w' => ∀ v ∈ w'.work.vdis, v.uuid = T.key → v.vsize = none →
            ∃ u' ∈ us, u'.uuid = T.key ∧ u'.vsize = none) (fun _ _ => True) w := by
        rw [recoverVdiVsize]
        split
        · next x hx =>
            intro v hv heq hnone
            obtain ⟨u', hu', hkey, hnone'⟩ := hlost v hv heq hnone
            rcases List.mem_cons.1 hu' with rfl | hu'
            · rw [hx] at hnone'
              cases hnone'
            · exact ⟨u', hu', hkey, hnone'⟩
        · rw [wp_bind]
          refine wp_zfsGet (fun _ _ _ => trivial) (fun _ _ _ _ => trivial) fun x w₁ _ hs => ?_
          rw [wp_bind]
          refine wp_dbCmd (fun _ _ _ => trivial) (fun _ _ _ _ => trivial)
            fun _ db w₂ hdb hwork _ => ?_
          cases hdb
          intro v hv heq hnone
          rw [hwork, hs.work] at hv
          obtain ⟨v₀, hv₀, rfl⟩ := Metabase.mem_vdis_updateVolumeVsize.1 hv
          by_cases hid : v₀.volume_id = u.volume_id
          · rw [if_pos hid] at hnone
            cases hnone
          · rw [if_neg hid] at heq hnone
            obtain ⟨u', hu', hkey, hnone'⟩ := hlost v₀ hv₀ heq hnone
            rcases List.mem_cons.1 hu' with rfl | hu'
            · exact absurd ((((hw.work rfl).id v₀ hv₀).1 heq).trans (hu.1 hkey).symm) hid
            · exact ⟨u', hu', hkey, hnone'⟩
      rw [recoverEach, wp_bind]
      refine wp_mono (wp_and hkeep hrec) ?_ fun _ _ _ => trivial
      rintro u' w₁ ⟨⟨-, hw₁⟩, hlost₁⟩
      rw [wp_bind]
      exact wp_mono (ih hrest hw₁ hlost₁) (fun _ _ h => h) fun _ _ _ => trivial

/-- **A listing that completes leaves the size of the zvol in the metabase.** -/
theorem known_of_ls {vdis : List Vdi} (hw : T.Good false w) (hls : ls T.E T.sr w = .ok vdis w') :
    T.Known (w'.db T.sr) ∧ (w'.zfs.zvol T.zvol).props.volsize = T.size := by
  have hwp : wp (ls T.E T.sr) (fun _ w' => T.Known (w'.db T.sr) ∧
      (w'.zfs.zvol T.zvol).props.volsize = T.size) (fun _ _ => True) w := by
    rw [ls, wp_bind]
    refine wp_getSrMetadata (fun _ => trivial) fun m hm => ?_
    obtain rfl : T.info = m := Option.some.inj (T.registered.symm.trans hm)
    refine wp_dbContext (fun _ _ _ => trivial) fun w₁ hf hwork => ?_
    have hw₁ : T.Good true w₁ := hw.of_frame hf (hwork ▸ hw.db)
    rw [wp_bind]
    refine wp_dbCmd (fun _ _ _ => trivial) (fun _ _ _ _ => trivial) fun vdis db w₂ hdb hwork₂ hf₂ => ?_
    cases hdb
    have hw₂ : T.Good true w₂ := hw₁.of_frame hf₂ (hwork₂ ▸ hw₁.work rfl)
    have hlost : ∀ v ∈ w₂.work.vdis, v.uuid = T.key → v.vsize = none →
        ∃ u ∈ w₁.work.vdis, u.uuid = T.key ∧ u.vsize = none :=
      fun v hv heq hnone => ⟨v, hwork₂ ▸ hv, heq, hnone⟩
    refine wp_mono (wp_recoverEach_known (hw₁.work rfl).id hw₂ hlost) ?_ fun _ _ _ => trivial
    rintro _ w₃ ⟨hw₃, hknown⟩
    refine ⟨fun _ _ _ => trivial, fun w₄ hc => ⟨?_, by rw [hc.zfs]; exact hw₃.zvol⟩⟩
    rw [hc.db]
    simpa using hknown
  exact (wp_of_ok hls).1 hwp

/-! ### Runs -/

/-- How far the resize has come. -/
inductive Stage
  | idle (new_size : ℕ)
  /-- Its first transaction is committed. -/
  | checked (new_size : ℕ) (vdi : Vdi)
  | over
  deriving DecidableEq, Repr

/-- The host, and one resize. -/
structure Sys where
  world : World
  stage : Stage

/-- A transaction of the resize, its death between the two, or another call. -/
inductive Label
  | first
  | second
  | kill
  | stat (key : String)
  | ls
  | snapshot (key : String)
  | clone (key : String)
  | destroy (key : String)
  deriving DecidableEq, Repr

section

variable (E : Env) (sr : String) (m : SrMeta) (key : String)

/-- One step; `none` where it cannot be taken. -/
def Sys.step (s : Sys) : Label → Option Sys
  | .first =>
      match s.stage with
      | .idle n =>
          match resizeFirst E sr m.datasetPath key n s.world with
          | .ok vdi w => some ⟨w, .checked n vdi⟩
          | .error _ w => some ⟨w, .over⟩
      | _ => none
  | .second =>
      match s.stage with
      | .checked n vdi => some ⟨after (resizeSecond E sr m.datasetPath n vdi) s.world, .over⟩
      | _ => none
  | .kill => some { s with stage := .over }
  | .stat k => some { s with world := after (Volume.stat E sr k) s.world }
  | .ls => some { s with world := after (Volume.ls E sr) s.world }
  | .snapshot k => some { s with world := after (Volume.snapshot E sr k) s.world }
  | .clone k => some { s with world := after (Volume.clone E sr k) s.world }
  | .destroy k => some { s with world := after (Volume.destroy E sr k) s.world }

def Sys.steps (s : Sys) : List Label → Option Sys
  | [] => some s
  | l :: ls => (s.step E sr m key l).bind fun s' => Sys.steps s' ls

/-- The second transaction of the run is safe where it starts. -/
def SafeRun (s : Sys) : List Label → Prop
  | [] => True
  | l :: ls => (l = .second → ∀ n vdi, s.stage = .checked n vdi →
      Safe E sr m.datasetPath key n s.world) ∧ ∀ s', s.step E sr m key l = some s' → SafeRun s' ls

/-- The resize is about to begin; the metabase knows no size of the VDI or the right one, and `uuid4`
does not give the uuid of the VDI again. -/
structure Start (s : Sys) (v : Vdi) : Prop where
  idle : ∃ n, s.stage = .idle n
  vdi : v ∈ (s.world.db sr).vdis
  uuid : v.uuid = key
  size : v.vsize = none ∨ v.vsize = some (s.world.zfs.zvol ⟨m.datasetPath, key⟩).props.volsize
  uuids : ∀ j, s.world.drawn ≤ j → E.uuid j ≠ key

/-- The metabase has the size of the zvol of the VDI. -/
def Recorded (w : World) : Prop :=
  ∀ v ∈ (w.db sr).vdis, v.uuid = key →
    v.vsize = some (w.zfs.zvol ⟨m.datasetPath, key⟩).props.volsize

end

variable {E : Env} {sr key : String} {m : SrMeta}

/-- What every step keeps. -/
structure Inv (T : Tracked) (s : Sys) : Prop where
  good : SomeGood T s.world
  checked : ∀ n vdi, s.stage = .checked n vdi → vdi.uuid = T.key ∧ vdi.volume_id = T.id

theorem Tracked.Keeps.someGood {p : VolM α} {P : α → Prop}
    (hp : ∀ size, (T.resized size).Keeps false P p) (hw : SomeGood T w) : SomeGood T (after p w) := by
  obtain ⟨size, hw⟩ := hw
  exact of_wp (wp_mono (hp size w hw) (fun _ _ h => ⟨size, h.2⟩) fun _ _ h => ⟨size, h⟩)

/-- **Every step keeps the metabase right about the size of the zvol**, if a second transaction is
safe. -/
theorem Inv.step {s s' : Sys} {l : Label} (hi : Inv T s)
    (hsafe : l = .second → ∀ n vdi, s.stage = .checked n vdi →
      Safe T.E T.sr T.dataset T.key n s.world)
    (hs : s.step T.E T.sr T.info T.key l = some s') : Inv T s' := by
  cases l with
  | first =>
      rw [Sys.step] at hs
      split at hs
      · next n hstage =>
          obtain ⟨size, hw⟩ := hi.good
          have hwp := Tracked.Keeps.resizeFirst (T := T.resized size) T.key n s.world hw
          split at hs
          · next vdi w hok =>
              cases hs
              obtain ⟨⟨huuid, hlook⟩, hw'⟩ := (wp_of_ok hok).1 hwp
              refine ⟨⟨size, hw'⟩, fun n' vdi' h => ?_⟩
              cases h
              exact ⟨huuid, hlook.1 huuid⟩
          · next e w herr =>
              cases hs
              exact ⟨⟨size, (wp_of_error herr).1 hwp⟩, fun _ _ h => by cases h⟩
      · cases hs
  | second =>
      rw [Sys.step] at hs
      split at hs
      · next n vdi hstage =>
          cases hs
          obtain ⟨size, hw⟩ := hi.good
          obtain ⟨huuid, hid⟩ := hi.checked n vdi hstage
          exact ⟨good_second (T := T.resized size) hw huuid hid (hsafe rfl n vdi hstage),
            fun _ _ h => by cases h⟩
      · cases hs
  | kill =>
      cases hs
      exact ⟨hi.good, fun _ _ h => by cases h⟩
  | stat k =>
      cases hs
      exact ⟨Tracked.Keeps.someGood (fun _ => Tracked.Keeps.stat k) hi.good, hi.checked⟩
  | ls =>
      cases hs
      exact ⟨Tracked.Keeps.someGood (fun _ => Tracked.Keeps.ls) hi.good, hi.checked⟩
  | snapshot k =>
      cases hs
      exact ⟨Tracked.Keeps.someGood (fun _ => Tracked.Keeps.snapshot k) hi.good, hi.checked⟩
  | clone k =>
      cases hs
      exact ⟨Tracked.Keeps.someGood (fun _ => Tracked.Keeps.clone k) hi.good, hi.checked⟩
  | destroy k =>
      cases hs
      exact ⟨Tracked.Keeps.someGood (fun _ => Tracked.Keeps.destroy k) hi.good, hi.checked⟩

/-- A whole run. -/
theorem Inv.steps {s s' : Sys} {ls : List Label} (hi : Inv T s)
    (hsafe : SafeRun T.E T.sr T.info T.key s ls) (hs : s.steps T.E T.sr T.info T.key ls = some s') :
    Inv T s' := by
  induction ls generalizing s with
  | nil =>
      cases hs
      exact hi
  | cons l ls ih =>
      obtain ⟨s₁, h₁, hs⟩ := Option.bind_eq_some_iff.1 hs
      exact ih (hi.step hsafe.1 h₁) (hsafe.2 s₁ h₁) hs

/-- The VDI at the start of a run. -/
theorem Start.inv (hm : E.srMeta sr = some m) {s : Sys} {v : Vdi} (h : Start E sr m key s v) :
    Inv ⟨E, sr, m, hm, key, v.volume_id, (s.world.zfs.zvol ⟨m.datasetPath, key⟩).props.volsize⟩ s := by
  refine ⟨⟨(s.world.zfs.zvol ⟨m.datasetPath, key⟩).props.volsize, rfl, ⟨?_, ?_, ?_⟩, nofun,
    h.uuids⟩, ?_⟩
  · exact Metabase.volume_id_lt h.vdi
  · intro u hu
    constructor
    · intro heq
      rw [Metabase.eq_of_uuid hu h.vdi (heq.trans h.uuid.symm)]
      rfl
    · intro heq
      rw [Metabase.eq_of_volume_id hu h.vdi heq]
      exact h.uuid
  · intro u hu heq
    obtain rfl := Metabase.eq_of_uuid hu h.vdi (heq.trans h.uuid.symm)
    exact h.size
  · intro n vdi hstage
    obtain ⟨n', hidle⟩ := h.idle
    rw [hidle] at hstage
    cases hstage

/-- **After a run whose second transaction is safe, a listing that completes leaves the size of the zvol
in the metabase.** -/
theorem recorded_of_safe (hm : E.srMeta sr = some m) {s s' : Sys} {v : Vdi}
    (hstart : Start E sr m key s v) {ls : List Label} (hsafe : SafeRun E sr m key s ls)
    (hs : s.steps E sr m key ls = some s') {vdis : List Vdi} {w : World}
    (hls : Volume.ls E sr s'.world = .ok vdis w) : Recorded sr m key w := by
  have hi := (hstart.inv hm).steps hsafe hs
  obtain ⟨size, hw⟩ := hi.good
  obtain ⟨hknown, hvol⟩ := known_of_ls hw hls
  intro u hu heq
  rw [hknown u hu heq]
  exact congrArg some hvol.symm

/-! ### A disk of 64 KiB, to be resized to 128 KiB -/

private def disk : Sys := ⟨sampleWorld [.create "disk" "" 65536 false], .idle 131072⟩

private def tank : SrMeta := ⟨"tank", ["vms"], none, none⟩

private def row : Vdi := ⟨"", "disk", "", false, 0, none, false, some 65536⟩

private theorem start_disk (fault : ℕ → Bool) : Start (sampleEnv fault) "sr" tank "" disk row where
  idle := ⟨_, rfl⟩
  vdi := by decide +kernel
  uuid := rfl
  size := .inr (by decide +kernel)
  uuids := by
    intro j hj heq
    have hdrawn : disk.world.drawn = 1 := by decide +kernel
    have hlen := congrArg String.length heq
    have : j = 0 := by simpa [sampleEnv] using hlen
    omega

/-- The VDI is read between the two transactions. -/
theorem recorded_of_safe_stat : ∃ s' vdis w,
    disk.steps (sampleEnv fun _ => false) "sr" tank "" [.first, .stat "", .second] = some s' ∧
      Volume.ls (sampleEnv fun _ => false) "sr" s'.world = .ok vdis w ∧ Recorded "sr" tank "" w := by
  obtain ⟨s', hs⟩ := Option.isSome_iff_exists.1 (show (disk.steps (sampleEnv fun _ => false) "sr" tank
    "" [.first, .stat "", .second]).isSome = true by decide +kernel)
  have hret : (disk.steps (sampleEnv fun _ => false) "sr" tank "" [.first, .stat "", .second]).all
      (fun s => returns (Volume.ls (sampleEnv fun _ => false) "sr") s.world) = true := by
    decide +kernel
  rw [hs, Option.all_some] at hret
  have hsafe : SafeRun (sampleEnv fun _ => false) "sr" tank "" disk [.first, .stat "", .second] := by
    refine ⟨nofun, fun _ _ => ⟨nofun, fun _ _ => ⟨fun _ _ _ _ => .inl ?_, fun _ _ => trivial⟩⟩⟩
    rintro ⟨-, -, -, i, -, -, hfault⟩
    cases hfault
  rcases hls : Volume.ls (sampleEnv fun _ => false) "sr" s'.world with ⟨vdis, w⟩ | ⟨e, w⟩
  · exact ⟨s', vdis, w, hs, hls, recorded_of_safe rfl (start_disk _) hsafe hs hls⟩
  · rw [returns, hls] at hret
    cases hret

/-- **A resize that is cut short after a `stat`**: the `stat` between its transactions has replaced the
marker by the old size, the second transaction dies after `zfs set volsize`, and the listing keeps
what it finds. -/
theorem not_recorded_cut :
    ¬ ∀ (E : Env) (sr key : String) (m : SrMeta) (s s' : Sys) (v : Vdi) (ls : List Label)
      (vdis : List Vdi) (w : World), E.srMeta sr = some m → Start E sr m key s v →
        s.steps E sr m key ls = some s' → Volume.ls E sr s'.world = .ok vdis w →
          Recorded sr m key w := by
  intro hall
  let E := sampleEnv (· = 20)
  have hend : (disk.steps E "sr" tank "" [.first, .stat "", .second]).all (fun s : Sys =>
      returns (Volume.ls E "sr") s.world &&
        decide (∃ v ∈ ((after (Volume.ls E "sr") s.world).db "sr").vdis, v.uuid = "" ∧
          v.vsize ≠ some ((after (Volume.ls E "sr") s.world).zfs.zvol
            ⟨tank.datasetPath, ""⟩).props.volsize)) = true := by
    decide +kernel
  obtain ⟨s', hs⟩ := Option.isSome_iff_exists.1 (show (disk.steps E "sr" tank ""
    [.first, .stat "", .second]).isSome = true by decide +kernel)
  rw [hs, Option.all_some, Bool.and_eq_true, decide_eq_true_eq] at hend
  obtain ⟨hret, v, hv, hkey, hne⟩ := hend
  rcases hls : Volume.ls E "sr" s'.world with ⟨vdis, w⟩ | ⟨e, w⟩
  · have hafter : after (Volume.ls E "sr") s'.world = w := by rw [after, hls]
    rw [hafter] at hv hne
    exact hne (hall E "sr" "" tank disk s' row _ vdis w rfl (start_disk _) hs hls v hv hkey)
  · rw [returns, hls] at hret
    cases hret

end Volume.Recovery

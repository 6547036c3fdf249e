/-
**The content of derived VDIs.**

`snapshot`, `clone` and `copy` make a VDI out of another one.  The content of a VDI is what its zvol
holds.  A snapshot VDI has its content twice, in its snapshot and in the read-only zvol that is cloned
from it, and in every state that successful calls reach the two agree.  Therefore a clone of a snapshot
VDI, which reads the snapshot, and a copy, which reads the zvol, both hold the content of the VDI.

A snapshot of a snapshot VDI reads neither: it is taken of the VDI that the snapshot VDI was taken of,
with the content that this one has now.

Main definitions:

* `Volume.Frozen` — a read-only zvol that agrees with the snapshots of its name;
* `Volume.Derivation` — the calls that derive a VDI;
* `Volume.bytes` — the content of a zvol, byte by byte.

Main results:

* `Volume.Reachable.frozen` — the zvols of snapshot VDIs are frozen;
* `Volume.derived_iff` — **when a derived VDI has the content of its source**;
* `Volume.not_derived_rewritten` — a snapshot of a snapshot VDI whose base VDI was written since.
-/

import ZfsLive.VolumeReach

set_option relaxedAutoImplicit false
set_option autoImplicit false

namespace Volume

open Zfs Wp

/-! ### Frozen zvols -/

/-- The zvol `n` is read-only, and the snapshots of its name hold what it holds. -/
structure Frozen (z : Store) (n : ZvolName) : Prop where
  readonly : (z.zvol n).props.readonly = true
  holds : ∀ m, z.Holds ⟨m, n.vol⟩ (z.zvol n).props.content

section

variable (E : Env)

/-- The zvols of the snapshot VDIs are frozen. -/
def SnapshotsFrozen (w : World) : Prop :=
  ∀ sr m, E.srMeta sr = some m → ∀ v ∈ (w.db sr).vdis, v.snap = true →
    Frozen w.zfs ⟨m.datasetPath, v.uuid⟩

/-- A call has added frozen snapshot VDIs only. -/
def AddsFrozen (w₀ w : World) : Prop :=
  ∀ sr, ∀ v ∈ (w.db sr).vdis, v.snap = true → Old (w₀.db sr) v ∨
    ∀ m, E.srMeta sr = some m → Frozen w.zfs ⟨m.datasetPath, v.uuid⟩

/-- A call has derived a VDI with the zvol `n` and the content `c`. -/
structure Derived (w₀ : World) (n : ZvolName) (c : Content) (w : World) : Prop where
  content : (w.zfs.zvol n).props.content = c
  adds : AddsFrozen E w₀ w

end

variable {E : Env} {sr key : String} {w₀ w w' : World} {m : SrMeta} {vdi : Vdi} {α : Type}
  {Q : α → World → Prop} {X : VolError → World → Prop} {z : Store} {k : ℕ} {n : ZvolName}
  {c : Content}

/-- A call that destroys nothing leaves a frozen zvol frozen. -/
theorem Frozen.growth (h : Growth E w₀ z k) (hn : n ∈ w₀.zfs.names)
    (hnew : ¬ New E w₀ k n.vol) (hf : Frozen w₀.zfs n) : Frozen z n := by
  refine ⟨(h.readonly n hn).trans hf.readonly, ?_⟩
  intro p t ht hid
  rcases h.new_snaps ⟨p, n.vol⟩ (Store.has_iff_owns.2 ⟨t, ht, hid⟩) with hold | hn'
  · obtain ⟨t₀, ht₀, hid₀⟩ := Store.has_iff_owns.1 hold
    -- the zvol has one snapshot of this name
    have heq : t = t₀ :=
      List.inj_on_of_nodup_map (h.wf.nodup p ht.1) ht.2 (h.owns p t₀ ht₀).2 (hid.trans hid₀.symm)
    rw [(h.grown n hn).content hf.readonly, heq]
    exact hf.holds p t₀ ht₀ hid₀
  · exact absurd hn' hnew

theorem SnapshotsFrozen.growth (hS : Settled E w₀) (h : SnapshotsFrozen E w₀)
    (hg : Growth E w₀ w.zfs w.drawn) (ha : AddsFrozen E w₀ w) : SnapshotsFrozen E w := by
  intro sr m hm v hv hs
  rcases ha sr v hv hs with ⟨v₀, hv₀, huuid, hsnap⟩ | hf
  · have hmem := hS.zvol sr m hm v₀ hv₀
    rw [← huuid]
    exact (h sr m hm v₀ hv₀ (hsnap.trans hs)).growth hg hmem (hS.not_new hv₀)
  · exact hf m hm

/-- A destroy call leaves the zvols of the other snapshot VDIs frozen. -/
theorem SnapshotsFrozen.finished (hS : Settled E w₀) (h : SnapshotsFrozen E w₀) {v : ZvolName}
    (hf : Finished E w₀ sr key v vdi w) : SnapshotsFrozen E w := by
  intro sr' m' hm' v' hv' hs
  have hold : v' ∈ (w₀.db sr').vdis → Frozen w.zfs ⟨m'.datasetPath, v'.uuid⟩ := by
    intro hv'
    have hmem := hS.zvol sr' m' hm' v' hv'
    have hfr := h sr' m' hm' v' hv' hs
    refine ⟨by rw [hf.moved.props _ hmem]; exact hfr.readonly, ?_⟩
    intro p t ht hid
    rw [hf.moved.props _ hmem]
    rcases hf.moved.back p t ht with ht | ⟨ht, _⟩
    · exact hfr.holds _ t ht hid
    · exact hfr.holds _ t ht hid
  by_cases hsr : sr' = sr
  · subst hsr
    obtain ⟨new, hspawn, _, hrows⟩ := hf.rows
    rcases (hrows v').1 hv' with ⟨hv', _⟩ | hv'
    · exact hold hv'
    · -- a VDI that the call has made is a base VDI
      rw [(hspawn.eq v' hv').2] at hs
      cases hs
  · rw [hf.others sr' hsr] at hv'
    exact hold hv'

theorem Frozen.touch (hf : Frozen w.zfs n) (p : ZvolName) (busy : Bool) (written : Content) :
    Frozen (touch p busy written w).zfs n := by
  rw [Volume.touch]
  rcases h : w.zfs.setProps p (touchProps busy written) with e | z
  · exact hf
  · have hprops : (z.zvol n).props.readonly = (w.zfs.zvol n).props.readonly ∧
        (z.zvol n).props.content = (w.zfs.zvol n).props.content := by
      obtain ⟨_, rfl⟩ := Store.setProps_ok h
      by_cases hn : n = p
      · subst hn
        rw [Store.zvol_put_self, touchProps, if_pos hf.readonly]
        exact ⟨rfl, rfl⟩
      · rw [Store.zvol_put_of_ne _ _ hn]
        exact ⟨rfl, rfl⟩
    refine ⟨hprops.1.trans hf.readonly, fun q => ?_⟩
    change z.Holds _ (z.zvol n).props.content
    rw [Store.holds_setProps h, hprops.2]
    exact hf.holds q

theorem SnapshotsFrozen.touch (h : SnapshotsFrozen E w) (p : ZvolName) (busy : Bool)
    (written : Content) : SnapshotsFrozen E (touch p busy written w) := by
  intro sr m hm v hv hs
  rw [(touch_spec p busy written w).1] at hv
  exact (h sr m hm v hv hs).touch p busy written

/-! ### The calls -/

/-- A committed transaction. -/
theorem Mid.adds (h : Mid E w₀ w) (hc : w.Committed sr w')
    (hwork : ∀ v ∈ w.work.vdis, v.snap = true → Old (w₀.db sr) v ∨
      ∀ m, E.srMeta sr = some m → Frozen w.zfs ⟨m.datasetPath, v.uuid⟩) : AddsFrozen E w₀ w' := by
  intro sr' v hv hs
  rw [hc.zfs]
  rw [hc.db] at hv
  by_cases hsr : sr' = sr
  · subst hsr
    exact hwork v (by simpa using hv) hs
  · exact .inl (h.2 sr' v (by simpa [hsr] using hv))

theorem AddsFrozen.of_same (h : AddsFrozen E w₀ w) (hs : w.Same w') : AddsFrozen E w₀ w' := by
  rw [AddsFrozen, hs.zfs, hs.db]
  exact h

theorem Derived.of_same (h : Derived E w₀ n c w) (hs : w.Same w') : Derived E w₀ n c w' := by
  refine ⟨?_, h.adds.of_same hs⟩
  rw [hs.zfs]
  exact h.content

theorem Recovered.same {db db' : Metabase} {vdi' : Vdi} (h : Recovered db db' vdi vdi') :
    SameVdi vdi vdi' := by
  rcases h with ⟨_, rfl⟩ | ⟨x, _, rfl⟩ <;> rfl

/-- The start of most transactions: the VDI is found, and its size is recovered. -/
theorem Mid.find {ds : List String} {rest : Vdi → VolM α} (h : Mid E w₀ w)
    (hwork : w.work = w₀.db sr) (hX : ∀ e w', Mid E w₀ w' → X e w')
    (hQ : ∀ vdi₀ vdi w', Mid E w₀ w' → w.Frame w' → vdi₀ ∈ (w₀.db sr).vdis → vdi₀.uuid = key →
      Recovered (w₀.db sr) w'.work vdi₀ vdi → wp (rest vdi) Q X w') :
    wp (do
      let vdi ← getVdiById E key
      let vdi ← recoverVdiVsize E vdi ds
      rest vdi) Q X w := by
  rw [wp_bind]
  refine h.dbCmd hX fun vdi db w₁ hget hwork₁ hf₁ hmid₁ => ?_
  split at hget
  · next v hv =>
    cases hget
    rw [hwork] at hv hwork₁
    obtain ⟨hmem, huuid⟩ := Metabase.getVdiById_mem hv
    rw [wp_bind]
    refine wp_recoverVdiVsize (fun _ _ hs => hX _ _ (hmid₁.of_same hs))
      (fun _ _ _ hs => hX _ _ (hmid₁.of_same hs)) fun vdi' w₂ hf₂ hrec => ?_
    rw [hwork₁] at hrec
    exact hQ vdi vdi' w₂ (hmid₁.of_frame hf₂) (hf₁.trans hf₂) hmem huuid hrec
  · cases hget

/-- The name of the zvol that a snapshot of the VDI is taken of. -/
def snapshotSource (db : Metabase) (vdi : Vdi) : String :=
  if vdi.snap then
    ((vdi.parent_id.bind db.getVdiForVolume).map Vdi.uuid).getD vdi.uuid
  else
    vdi.uuid

theorem Recovered.snapshotSource {db db' : Metabase} {vdi' : Vdi}
    (h : Recovered db db' vdi vdi') :
    Volume.snapshotSource db' vdi' = Volume.snapshotSource db vdi := by
  rcases h with ⟨rfl, rfl⟩ | ⟨x, rfl, rfl⟩
  · rfl
  · have hparent : (vdi.parent_id.bind
        (db.updateVolumeVsize vdi.volume_id (some x)).getVdiForVolume).map Vdi.uuid =
        (vdi.parent_id.bind db.getVdiForVolume).map Vdi.uuid := by
      cases vdi.parent_id with
      | none => rfl
      | some i => exact Metabase.getVdiForVolume_updateVolumeVsize _ _ _
    simp only [Volume.snapshotSource, hparent]

theorem wp_snapshotParent_source {Q : String × Option ℕ → World → Prop} (h : Mid E w₀ w)
    (hX : ∀ e w', Mid E w₀ w' → X e w')
    (hQ : ∀ p w', Mid E w₀ w' → w.Same w' → p.1 = snapshotSource w.work vdi → Q p w') :
    wp (snapshotParent E vdi) Q X w := by
  rw [snapshotParent, wp_ite]
  refine ⟨fun hs => ?_, fun hs => hQ _ w h ⟨rfl, rfl, rfl, rfl, rfl, rfl⟩ ?_⟩
  · rw [wp_bind]
    refine h.dbCmd hX fun p db w₁ hget hwork₁ hf₁ hmid₁ => ?_
    cases hget
    refine hQ _ w₁ hmid₁ ⟨hf₁.zfs, hf₁.db, hwork₁, hf₁.drawn, hf₁.destroyed, hf₁.commits⟩ ?_
    rw [snapshotSource, if_pos hs]
  · rw [snapshotSource, if_neg hs]

/-- Reading the space that an object takes ends a call that has derived its VDI. -/
theorem wp_used {object : ZfsObject} {P : ℕ → World → Prop}
    (hP : ∀ used w', w.Same w' → P used w') :
    wp (getZvolUsedBytes E object) P (fun _ _ => True) w :=
  wp_zfsGet (fun _ _ _ => trivial) (fun _ _ _ _ => trivial) fun used w' _ hs => hP used w' hs

/-- **`snapshot`.** -/
theorem snapshot_derived (hT : Tidy E w₀) (sr key : String) :
    wp (snapshot E sr key) (fun info w => ∃ m, E.srMeta sr = some m ∧ ∃ vdi ∈ (w₀.db sr).vdis,
      vdi.uuid = key ∧ Derived E w₀ ⟨m.datasetPath, info.key⟩
        (w₀.zfs.zvol ⟨m.datasetPath, snapshotSource (w₀.db sr) vdi⟩).props.content w)
      (fun _ _ => True) w₀ := by
  have hstart := Mid.refl hT
  have hX : ∀ (e : VolError) w', Mid E w₀ w' → True := fun _ _ _ => trivial
  rw [snapshot, wp_bind]
  refine wp_getSrMetadata (fun _ => trivial) fun m hm => ?_
  obtain ⟨hnew, _, hsnap⟩ := hstart.1.next_new hT
  rw [wp_bind]
  refine wp_uuid4 fun w₁ hd => ?_
  have hmid₁ := hstart.of_drew hd
  rw [wp_bind]
  refine hmid₁.dbContext hX fun w₂ hf₂ hmid₂ hwork₂ hold => ?_
  rw [hd.db] at hwork₂
  refine hmid₂.find hwork₂ hX fun vdi₀ vdi w₃ hmid₃ hf₃ hvdi₀ huuid hrec => ?_
  rw [wp_bind]
  refine wp_snapshotParent_source hmid₃ hX fun p w₄ hmid₄ hs₄ hsource => ?_
  obtain ⟨parent_vdi_uuid, vol_id⟩ := p
  obtain rfl : parent_vdi_uuid = snapshotSource (w₀.db sr) vdi₀ := hsource.trans hrec.snapshotSource
  simp only [wp_bind, wp_pure, cloneSnapshot]
  refine hmid₄.dbCmd hX fun id db w₅ hins hwork₅ hf₅ hmid₅ => ?_
  cases hins
  have hzfs₅ : w₅.zfs = w₀.zfs := by rw [hf₅.zfs, hs₄.zfs, hf₃.zfs, hf₂.zfs, hd.zfs]
  -- the snapshot, its clone, and the mark on the clone
  refine hmid₅.zfsCmd hX fun w₆ hz₆ hs₆ => ?_
  have hdrawn₅ : w₅.drawn = w₀.drawn + 1 := by
    rw [hf₅.drawn, hs₄.drawn, hf₃.drawn, hf₂.drawn, hd.drawn]
  have hmid₆ := hmid₅.of_growth hs₆ (hmid₅.1.snapshot (hdrawn₅ ▸ hnew) hz₆)
  refine hmid₆.zfsCmd hX fun w₇ hz₇ hs₇ => ?_
  have hdrawn₆ : w₆.drawn = w₀.drawn + 1 := hs₆.drawn.trans hdrawn₅
  have hmid₇ := hmid₆.of_growth hs₇ (hmid₆.1.clone hT (hdrawn₆ ▸ hnew) hz₇)
  refine hmid₇.zfsCmd hX fun w₈ hz₈ hs₈ => ?_
  have hdrawn₇ : w₇.drawn = w₀.drawn + 1 := hs₇.drawn.trans hdrawn₆
  have hmid₈ := hmid₇.of_growth hs₈ (hmid₇.1.setProps hT (.inl (hdrawn₇ ▸ hnew)) hz₈)
  have hholds := Store.holds_snapshot hz₆
  rw [hzfs₅] at hholds hz₆
  have hcontent : (w₈.zfs.zvol ⟨m.datasetPath, E.uuid w₀.drawn⟩).props.content =
      (w₀.zfs.zvol ⟨m.datasetPath, snapshotSource (w₀.db sr) vdi₀⟩).props.content :=
    (Store.content_setProps hz₈ fun _ => rfl).trans (Store.content_clone hz₇ hholds)
  have hfrozen : Frozen w₈.zfs ⟨m.datasetPath, E.uuid w₀.drawn⟩ := by
    refine ⟨?_, fun q => ?_⟩
    · rw [(Store.setProps_ok hz₈).2]
      exact congrArg (Props.readonly ∘ Zvol.props) (Store.zvol_put_self ..)
    · rw [Store.holds_setProps hz₈, Store.holds_clone hz₇, hcontent]
      intro t ht hid
      -- no other zvol has a snapshot of this name
      rcases (Store.has_snapshot hz₆).1 (Store.has_iff_owns.2 ⟨t, ht, hid⟩) with hq | hq
      · exact absurd rfl (hsnap _ hq)
      · obtain rfl : q = ⟨m.datasetPath, snapshotSource (w₀.db sr) vdi₀⟩ :=
          congrArg SnapName.zvol hq
        exact hholds t ht hid
  refine hmid₈.dbCmd hX fun _ db w₉ hvdi hwork₉ hf₉ hmid₉ => ?_
  split at hvdi
  · next db' hdb =>
    cases hvdi
    refine ⟨hmid₉, fun w₁₀ hc => wp_used fun used w₁₁ hs₁₁ => ⟨m, hm, ?_⟩⟩
    refine ⟨vdi₀, hvdi₀, huuid, Derived.of_same ⟨?_, hmid₉.adds hc fun v hv _ => ?_⟩ hs₁₁⟩
    · rw [hc.zfs, hf₉.zfs]
      exact hcontent
    · rw [hwork₉] at hv
      rw [hs₈.work, hs₇.work, hs₆.work, hwork₅] at hdb
      rcases (Metabase.mem_vdis_insertBoth hdb).1 hv with rfl | hmem
      · refine .inr fun m' hm' => ?_
        obtain rfl : m = m' := Option.some.inj (hm.symm.trans hm')
        rw [hf₉.zfs]
        exact hfrozen
      · rw [hs₄.work] at hmem
        exact .inl (hrec.old (fun c hc => Old.refl hc) v hmem)
  · cases hvdi

/-- The source of a clone holds `c` if the snapshots of a snapshot VDI, and the zvol of a base VDI,
hold it. -/
theorem wp_cloneSource_holds {ds : List String} {Q : Option SnapName × ℕ → World → Prop}
    (hT : Tidy E w₀) (h : Mid E w₀ w) (hX : ∀ e w', Mid E w₀ w' → X e w')
    (hsnap : vdi.snap = true → ∀ n, w.zfs.Holds ⟨n, vdi.uuid⟩ c)
    (hbase : vdi.snap = false → (w.zfs.zvol ⟨ds, vdi.uuid⟩).props.content = c)
    (hQ : ∀ p w', Mid E w₀ w' → w.drawn ≤ w'.drawn → (∀ v, v ∈ w'.work.vdis ↔ v ∈ w.work.vdis) →
      (∀ s, p.1 = some s → w'.zfs.Holds s c) → Q p w') :
    wp (cloneSource E ds vdi) Q X w := by
  rw [cloneSource, wp_ite]
  constructor
  · intro hs
    rw [wp_bind]
    refine h.zfsGet hX fun s w₁ hfind hs₁ hmid₁ => ?_
    refine hQ _ w₁ hmid₁ hs₁.drawn.ge (fun _ => by rw [hs₁.work]) fun r hr => ?_
    obtain rfl : s = some r := hr
    obtain ⟨n, id⟩ := r
    obtain rfl : id = vdi.uuid := (Store.findSnapshot_spec (Except.ok.inj hfind)).2.2
    rw [hs₁.zfs]
    exact hsnap hs n
  · intro hs
    simp only [wp_bind, wp_pure]
    obtain ⟨hnew, _, _⟩ := h.1.next_new hT
    refine wp_uuid4 fun w₁ hd => ?_
    have hmid₁ := h.of_drew hd
    refine hmid₁.dbCmd hX fun id db w₂ hins hwork₂ hf₂ hmid₂ => ?_
    cases hins
    have hdrawn₂ : w₂.drawn = w.drawn + 1 := hf₂.drawn.trans hd.drawn
    refine hmid₂.zfsCmd hX fun w₃ hz₃ hs₃ => ?_
    have hmid₃ := hmid₂.of_growth hs₃ (hmid₂.1.snapshot (hdrawn₂ ▸ hnew) hz₃)
    refine hQ _ w₃ hmid₃ (by rw [hs₃.drawn, hdrawn₂]; omega) (fun v => ?_) fun r hr => ?_
    · rw [hs₃.work, hwork₂, hd.work]
      exact Metabase.mem_vdis_insertVolume
    · cases hr
      have hholds := Store.holds_snapshot hz₃
      rwa [hf₂.zfs, hd.zfs, hbase (by simpa using hs)] at hholds

/-- Changing sizes changes no content. -/
theorem Mid.setSizes_content {f : Props → Props} {Q : Unit → World → Prop} (hT : Tidy E w₀)
    (h : Mid E w₀ w) (hf : ∀ p, SameData p (f p))
    (hX : ∀ e w', Mid E w₀ w' → X e w')
    (hQ : ∀ w', Mid E w₀ w' → w.Sized w' →
      (∀ q, (w'.zfs.zvol q).props.content = (w.zfs.zvol q).props.content) → Q () w') :
    wp (Volume.zfsCmd E fun z => z.setProps n f) Q X w :=
  h.zfsCmd hX fun w' hz hs => hQ w' (h.of_growth hs (h.1.setProps hT (.inr hf) hz))
    ⟨hs, fun _ => Store.names_setProps hz, fun _ => Store.has_setProps hz⟩
    fun _ => Store.content_setProps hz fun p => (hf p).content

theorem wp_volSetThickRefreservation_content {Q : Unit → World → Prop} (hT : Tidy E w₀)
    (h : Mid E w₀ w) (hX : ∀ e w', Mid E w₀ w' → X e w')
    (hQ : ∀ w', Mid E w₀ w' → w.Sized w' →
      (∀ q, (w'.zfs.zvol q).props.content = (w.zfs.zvol q).props.content) → Q () w') :
    wp (volSetThickRefreservation E n) Q X w := by
  simp only [volSetThickRefreservation, wp_bind]
  refine h.zfsGet hX fun volsize w₁ _ hs₁ hmid₁ => ?_
  refine hmid₁.zfsGet hX fun copies w₂ _ hs₂ hmid₂ => ?_
  refine hmid₂.setSizes_content hT (fun _ => ⟨rfl, rfl, rfl⟩) hX fun w₃ hmid₃ hsz hc => ?_
  refine hQ w₃ hmid₃ ((hs₁.trans hs₂).sized.trans hsz) fun q => ?_
  rw [hc, hs₂.zfs, hs₁.zfs]

theorem wp_copyThickness_content {q : ZvolName} {Q : Unit → World → Prop} (hT : Tidy E w₀)
    (h : Mid E w₀ w) (hX : ∀ e w', Mid E w₀ w' → X e w')
    (hQ : ∀ w', Mid E w₀ w' → w.Sized w' →
      (∀ q, (w'.zfs.zvol q).props.content = (w.zfs.zvol q).props.content) → Q () w') :
    wp (copyThickness E n q) Q X w := by
  rw [copyThickness, wp_bind]
  refine h.zfsGet hX fun refreservation w₁ _ hs₁ hmid₁ => ?_
  rw [wp_ite]
  refine ⟨fun _ => ?_, fun _ => hQ w₁ hmid₁ hs₁.sized fun q => by rw [hs₁.zfs]⟩
  refine wp_volSetThickRefreservation_content hT hmid₁ hX fun w₂ hmid₂ hsz hc => ?_
  exact hQ w₂ hmid₂ (hs₁.sized.trans hsz) fun q => by rw [hc, hs₁.zfs]

/-- **`clone`.** -/
theorem clone_derived (hT : Tidy E w₀) (hF : SnapshotsFrozen E w₀) (sr key : String) :
    wp (clone E sr key) (fun info w => ∃ m, E.srMeta sr = some m ∧ Derived E w₀
      ⟨m.datasetPath, info.key⟩ (w₀.zfs.zvol ⟨m.datasetPath, key⟩).props.content w)
      (fun _ _ => True) w₀ := by
  have hstart := Mid.refl hT
  have hX : ∀ (e : VolError) w', Mid E w₀ w' → True := fun _ _ _ => trivial
  rw [clone, wp_bind]
  refine wp_getSrMetadata (fun _ => trivial) fun m hm => ?_
  obtain ⟨hnew, _, _⟩ := hstart.1.next_new hT
  rw [wp_bind]
  refine wp_uuid4 fun w₁ hd => ?_
  have hmid₁ := hstart.of_drew hd
  rw [wp_bind]
  refine hmid₁.dbContext hX fun w₂ hf₂ hmid₂ hwork₂ hold => ?_
  rw [hd.db] at hwork₂
  refine hmid₂.find hwork₂ hX fun vdi₀ vdi w₃ hmid₃ hf₃ hvdi₀ huuid₀ hrec => ?_
  have hsame := hrec.same
  have hold₃ := hrec.old fun c hc => Old.refl hc
  have huuid : vdi.uuid = key := by rw [hsame]; exact huuid₀
  have hsnap : vdi.snap = vdi₀.snap := by rw [hsame]
  have hdrawn₃ : w₃.drawn = w₀.drawn + 1 := by rw [hf₃.drawn, hf₂.drawn, hd.drawn]
  have hzfs₃ : w₃.zfs = w₀.zfs := by rw [hf₃.zfs, hf₂.zfs, hd.zfs]
  rw [wp_bind]
  refine wp_cloneSource_holds hT hmid₃ hX (c := (w₀.zfs.zvol ⟨m.datasetPath, key⟩).props.content)
    (fun hs => ?_) (fun hs => by rw [hzfs₃, huuid]) fun p w₄ hmid₄ hdrawn₄ hrows₄ hholds => ?_
  · rw [hzfs₃, huuid, ← huuid₀]
    exact fun n => (hF sr m hm vdi₀ hvdi₀ (hsnap.symm.trans hs)).holds n
  obtain ⟨snap_name, snap_parent_id⟩ := p
  simp only [wp_bind]
  refine hmid₄.dbCmd hX fun id db w₅ hins hwork₅ hf₅ hmid₅ => ?_
  cases hins
  rcases snap_name with _ | s
  · trivial
  simp only [cloneSnapshot, wp_bind, wp_pure]
  refine hmid₅.zfsCmd hX fun w₆ hz₆ hs₆ => ?_
  have hnew₅ : New E w₀ w₅.drawn (E.uuid w₀.drawn) :=
    hnew.mono (by rw [hf₅.drawn, ← hdrawn₃]; exact hdrawn₄)
  have hmid₆ := hmid₅.of_growth hs₆ (hmid₅.1.clone hT hnew₅ hz₆)
  have hcontent := Store.content_clone hz₆ (hf₅.zfs ▸ hholds s rfl)
  refine wp_copyThickness_content hT hmid₆ hX fun w₇ hmid₇ hsz₇ hcontent₇ => ?_
  refine hmid₇.dbCmd hX fun _ db w₈ hvdi hwork₈ hf₈ hmid₈ => ?_
  split at hvdi
  · next db' hdb =>
    cases hvdi
    refine ⟨hmid₈, fun w₉ hc => wp_used fun used w₁₀ hs₁₀ => ⟨m, hm, ?_⟩⟩
    refine Derived.of_same ⟨?_, hmid₈.adds hc fun v hv hs => ?_⟩ hs₁₀
    · rw [hc.zfs, hf₈.zfs, hcontent₇]
      exact hcontent
    · rw [hwork₈] at hv
      rw [hsz₇.sameDb.work, hs₆.work, hwork₅] at hdb
      rcases (Metabase.mem_vdis_insertBoth hdb).1 hv with rfl | hmem
      · cases hs
      · exact .inl (hold₃ v ((hrows₄ v).1 hmem))
  · cases hvdi

/-- A clean-up ends with the exception that it was started by. -/
theorem wp_throw_after {m f : VolM Unit} {Q : Unit → World → Prop}
    (hf : ∀ w', wp f Q (fun _ _ => True) w') :
    wp (do m; f) Q (fun _ _ => True) w := by
  rw [wp_bind]
  exact wp_mono (wp_true m w) (fun _ w' _ => hf w') fun _ _ h => h

/-- A program whose clean-up raises. -/
theorem wp_guarded {f : VolM Unit} {g : VolError → VolM Unit} {Q : Unit → World → Prop}
    (hf : wp f Q (fun _ _ => True) w) (hg : ∀ e w', wp (g e) Q (fun _ _ => True) w') :
    wp (tryCatch f g) Q (fun _ _ => True) w := by
  rw [wp_tryCatch]
  exact wp_mono hf (fun _ _ h => h) fun e w' _ => hg e w'

theorem wp_keepThick_content {src_thick : Bool} {Q : Unit → World → Prop}
    (hQ : ∀ w', (∀ q, (w'.zfs.zvol q).props.content = (w.zfs.zvol q).props.content) → Q () w') :
    wp (keepThick E src_thick n) Q (fun _ _ => True) w := by
  rw [keepThick, wp_ite]
  refine ⟨fun _ => ?_, fun _ => hQ w fun _ => rfl⟩
  simp only [volSetThickRefreservation, wp_bind]
  refine wp_zfsGet (fun _ _ _ => trivial) (fun _ _ _ _ => trivial) fun _ w₁ _ hs₁ => ?_
  refine wp_zfsGet (fun _ _ _ => trivial) (fun _ _ _ _ => trivial) fun _ w₂ _ hs₂ => ?_
  refine wp_zfsCmd (fun _ _ _ => trivial) (fun _ _ _ _ => trivial) fun w₃ hz₃ _ => hQ w₃ fun q => ?_
  rw [Store.content_setProps hz₃ fun _ => rfl, hs₂.zfs, hs₁.zfs]

/-- The target of a replication gets what the snapshot holds. -/
theorem wp_replicate_content {same_pool src_thick : Bool} {s : SnapName}
    (hs : w.zfs.Holds s c) :
    wp (replicate E same_pool src_thick s n) (fun _ w' => (w'.zfs.zvol n).props.content = c)
      (fun _ _ => True) w := by
  have hthick : ∀ w' : World, (w'.zfs.zvol n).props.content = c →
      wp (keepThick E src_thick n) (fun _ w' => (w'.zfs.zvol n).props.content = c)
        (fun _ _ => True) w' :=
    fun w' hw' => wp_keepThick_content fun _ h => (h n).trans hw'
  rw [replicate]
  refine wp_guarded ?_ fun e w' => wp_throw_after fun _ => wp_throw_after fun _ => trivial
  rw [wp_bind, transfer, wp_ite]
  constructor
  · intro _
    simp only [cloneSnapshot, wp_bind, wp_pure]
    exact wp_zfsCmd (fun _ _ _ => trivial) (fun _ _ _ _ => trivial)
      fun w' hz _ => hthick w' (Store.content_clone hz hs)
  · intro _
    have hcmd : wp (zfsCmd E fun z => z.receive s n)
        (fun _ w' => wp (keepThick E src_thick n) (fun _ w' => (w'.zfs.zvol n).props.content = c)
          (fun _ _ => True) w') (fun _ _ => True) w :=
      wp_zfsCmd (fun _ _ _ => trivial) (fun _ _ _ _ => trivial)
        fun w' hz _ => hthick w' (Store.content_receive hz hs)
    rw [wp, volSendReceive]
    by_cases hfault : E.fault w.clock ∧ E.received w.clock
    · -- the sending side failed
      rw [if_pos hfault]
      rcases w.zfs.receive s n with e | z <;> trivial
    · rw [if_neg hfault]
      exact hcmd

/-- Dropping the snapshots of a replication changes no content. -/
theorem wp_finishReplication_content {same_pool : Bool} {s r : SnapName} :
    wp (finishReplication E same_pool s r)
      (fun _ w' => ∀ n, (w'.zfs.zvol n).props.content = (w.zfs.zvol n).props.content)
      (fun _ _ => True) w := by
  rw [finishReplication, wp_ite]
  refine ⟨fun _ _ => rfl, fun _ => ?_⟩
  rw [dropTransients]
  refine wp_guarded ?_ fun e w' =>
    wp_throw_after fun _ => wp_throw_after fun _ => wp_throw_after fun _ => trivial
  rw [wp_bind]
  refine wp_destroyZvol (fun _ _ _ => trivial) (fun _ _ _ _ => trivial) fun w₁ hz₁ _ => ?_
  refine wp_destroyZvol (fun _ _ _ => trivial) (fun _ _ _ _ => trivial) fun w₂ hz₂ _ => ?_
  intro n
  rw [Store.props_destroySnap hz₂, Store.props_destroySnap hz₁]

/-- **`copy`.** -/
theorem copy_derived (hT : Tidy E w₀) (sr key dest_sr : String) :
    wp (copy E sr key dest_sr) (fun info w => ∃ m m', E.srMeta sr = some m ∧
      E.srMeta dest_sr = some m' ∧ Derived E w₀ ⟨m'.datasetPath, info.key⟩
        (w₀.zfs.zvol ⟨m.datasetPath, key⟩).props.content w) (fun _ _ => True) w₀ := by
  have hstart := Mid.refl hT
  have hX : ∀ (e : VolError) w', Mid E w₀ w' → True := fun _ _ _ => trivial
  rw [copy, wp_bind]
  refine wp_getSrMetadata (fun _ => trivial) fun m hm => ?_
  rw [wp_bind, getDestMetadata]
  rcases hdm : E.srMeta dest_sr with _ | dm
  · trivial
  simp only [wp_pure]
  generalize (decide (m.zpool = dm.zpool)) = same_pool
  obtain ⟨hnew, _, _⟩ := hstart.1.next_new hT
  rw [wp_bind]
  refine wp_uuid4 fun w₁ hd₁ => ?_
  have hmid₁ := hstart.of_drew hd₁
  have hnew₂ := (hmid₁.1.next_new hT).1
  rw [wp_bind]
  refine wp_uuid4 fun w₂ hd₂ => ?_
  have hmid₂ := hmid₁.of_drew hd₂
  have hdrawn₂ : w₂.drawn = w₀.drawn + 2 := by rw [hd₂.drawn, hd₁.drawn]
  have hdest : New E w₀ (w₀.drawn + 2) (E.uuid w₀.drawn) := hnew.mono (by omega)
  have htok : New E w₀ (w₀.drawn + 2) (E.uuid w₁.drawn) := hnew₂.mono (by rw [hd₁.drawn])
  -- the source
  rw [wp_bind]
  refine hmid₂.dbContext hX fun w₃ hf₃ hmid₃ _ hold₃ => ?_
  rw [← bind_pure (getVdiById E key >>= _), bind_assoc]
  refine hmid₃.lookup hold₃ hX fun vdi w₄ hmid₄ hf₄ hold₄ => ?_
  refine ⟨hmid₄, fun w₅ hc₅ => ?_⟩
  have hmid₅ := hmid₄.committed_old hc₅ hold₄
  have hzfs₅ : w₅.zfs = w₀.zfs := by rw [hc₅.zfs, hf₄.zfs, hf₃.zfs, hd₂.zfs, hd₁.zfs]
  have hdrawn₅ : w₅.drawn = w₀.drawn + 2 := by rw [hc₅.drawn, hf₄.drawn, hf₃.drawn, hdrawn₂]
  rw [wp_bind]
  refine hmid₅.zfsCmd hX fun w₆ hz₆ hs₆ => ?_
  have hmid₆ := hmid₅.of_growth hs₆ (hmid₅.1.snapshot (hdrawn₅ ▸ htok) hz₆)
  have hholds := Store.holds_snapshot hz₆
  rw [wp_bind]
  refine hmid₆.zfsGet hX fun refreservation w₇ _ hs₇ hmid₇ => ?_
  have hdrawn₇ : w₇.drawn = w₀.drawn + 2 := by rw [hs₇.drawn, hs₆.drawn, hdrawn₅]
  rw [hzfs₅, ← hs₇.zfs] at hholds
  -- the replication
  rw [wp_bind]
  have hrep : wp (replicate E same_pool (decide (refreservation > 0))
      ⟨⟨m.datasetPath, key⟩, E.uuid w₁.drawn⟩ ⟨dm.datasetPath, E.uuid w₀.drawn⟩)
      (fun _ w' => Mid E w₀ w' ∧ w'.drawn = w₇.drawn) (fun _ _ => True) w₇ :=
    wp_replicate hT hmid₇ (hdrawn₇ ▸ hdest) (hdrawn₇ ▸ htok) hX fun _ h hd _ _ => ⟨h, hd⟩
  refine wp_mono (wp_and hrep (wp_replicate_content hholds)) (fun _ w₈ h₈ => ?_) fun _ _ _ => trivial
  obtain ⟨⟨hmid₈, hdrawn₈⟩, hcontent₈⟩ := h₈
  have hdrawn₈ : w₈.drawn = w₀.drawn + 2 := hdrawn₈.trans hdrawn₇
  rw [wp_bind]
  have hfin : wp (finishReplication E same_pool ⟨⟨m.datasetPath, key⟩, E.uuid w₁.drawn⟩
      ⟨⟨dm.datasetPath, E.uuid w₀.drawn⟩, E.uuid w₁.drawn⟩) (fun _ w' => Mid E w₀ w')
      (fun _ _ => True) w₈ := by
    rw [finishReplication, wp_ite]
    exact ⟨fun _ => hmid₈, fun _ => wp_dropTransients hT hmid₈ (hdrawn₈ ▸ htok) (hdrawn₈ ▸ htok)
      (hdrawn₈ ▸ hdest) hX fun _ h _ _ _ => h⟩
  refine wp_mono (wp_and hfin wp_finishReplication_content) (fun _ w₉ h₉ => ?_) fun _ _ _ => trivial
  obtain ⟨hmid₉, hcontent₉⟩ := h₉
  -- the new VDI
  rw [wp_bind]
  refine hmid₉.dbContext hX fun w₁₀ hf₁₀ hmid₁₀ _ hold₁₀ => ?_
  simp only [wp_bind]
  refine hmid₁₀.dbCmd hX fun id db w₁₁ hins hwork₁₁ hf₁₁ hmid₁₁ => ?_
  cases hins
  refine hmid₁₁.dbCmd hX fun _ db w₁₂ hvdi hwork₁₂ hf₁₂ hmid₁₂ => ?_
  split at hvdi
  · next db' hdb =>
    cases hvdi
    refine hmid₁₂.dbCmd hX fun _ db w₁₃ hup hwork₁₃ hf₁₃ hmid₁₃ => ?_
    cases hup
    refine ⟨hmid₁₃, fun w₁₄ hc => wp_used fun used w₁₅ hs₁₅ => ⟨m, dm, hm, rfl, ?_⟩⟩
    refine Derived.of_same ⟨?_, hmid₁₃.adds hc fun v hv hs => ?_⟩ hs₁₅
    · rw [hc.zfs, hf₁₃.zfs, hf₁₂.zfs, hf₁₁.zfs, hf₁₀.zfs]
      exact (hcontent₉ _).trans hcontent₈
    · rw [hwork₁₃] at hv
      obtain ⟨v', hv', huuid, hsn⟩ := Metabase.exists_of_mem_updateVolumeVsize hv
      rw [hwork₁₂] at hv'
      rw [hwork₁₁] at hdb
      rcases (Metabase.mem_vdis_insertBoth hdb).1 hv' with rfl | hmem
      · rw [← hsn] at hs
        cases hs
      · obtain ⟨v₀, hv₀, huuid₀, hsn₀⟩ := hold₁₀ v' hmem
        exact .inl ⟨v₀, hv₀, huuid₀.trans huuid, hsn₀.trans hsn⟩
  · cases hvdi

/-- A call of `create` adds a base VDI. -/
theorem create_adds (hT : Tidy E w₀) (sr name description : String) (size : ℕ) (sharable : Bool) :
    wp (create E sr name description size sharable) (fun _ w => AddsFrozen E w₀ w)
      (fun _ _ => True) w₀ := by
  have hstart := Mid.refl hT
  have hX : ∀ (e : VolError) w', Mid E w₀ w' → True := fun _ _ _ => trivial
  rw [create, wp_bind]
  refine wp_getSrMetadata (fun _ => trivial) fun m hm => ?_
  rw [wp_bind]
  refine wp_checkProvisioning (fun _ _ _ => trivial) fun w₁ hs₁ => ?_
  have hmid₁ := hstart.of_same hs₁
  obtain ⟨hnew, _, _⟩ := hmid₁.1.next_new hT
  rw [wp_bind]
  refine wp_uuid4 fun w₂ hd => ?_
  have hmid₂ := hmid₁.of_drew hd
  rw [wp_bind]
  refine hmid₂.dbContext hX fun w₃ hf₃ hmid₃ hwork₃ hold => ?_
  simp only [wp_bind, wp_pure]
  refine hmid₃.dbCmd hX fun id db w₄ hins hwork₄ hf₄ hmid₄ => ?_
  cases hins
  refine hmid₄.dbCmd hX fun _ db w₅ hvdi hwork₅ hf₅ hmid₅ => ?_
  split at hvdi
  · next db' hdb =>
    cases hvdi
    have hdrawn₅ : w₅.drawn = w₁.drawn + 1 := by rw [hf₅.drawn, hf₄.drawn, hf₃.drawn, hd.drawn]
    refine wp_createZvol hT hmid₅ (hdrawn₅ ▸ hnew) hX fun w₆ hmid₆ hs₆ _ _ => ?_
    refine hmid₆.zfsGet hX fun vsize w₇ _ hs₇ hmid₇ => ?_
    refine hmid₇.dbCmd hX fun _ db w₈ hup hwork₈ hf₈ hmid₈ => ?_
    cases hup
    refine ⟨hmid₈, fun w₉ hc => wp_used fun _ w₁₀ hs₁₀ => ?_⟩
    refine (hmid₈.adds hc fun v hv hs => ?_).of_same hs₁₀
    rw [hwork₈] at hv
    obtain ⟨v', hv', huuid, hsn⟩ := Metabase.exists_of_mem_updateVolumeVsize hv
    rw [hs₇.work, hs₆.work, hwork₅] at hv'
    rw [hwork₄] at hdb
    rcases (Metabase.mem_vdis_insertBoth hdb).1 hv' with rfl | hmem
    · rw [← hsn] at hs
      cases hs
    · obtain ⟨v₀, hv₀, huuid₀, hsn₀⟩ := hold v' hmem
      exact .inl ⟨v₀, hv₀, huuid₀.trans huuid, hsn₀.trans hsn⟩
  · cases hvdi

/-! ### The states that calls reach -/

/-- **In every state that successful calls reach, the zvol of a snapshot VDI is read-only and holds
what its snapshot holds.** -/
theorem Reachable.frozen (h : Reachable E w) : SnapshotsFrozen E w := by
  induction h with
  | start w _ hvdis =>
      intro sr m _ v hv
      rw [hvdis] at hv
      cases hv
  | touch n busy written _ ih => exact ih.touch n busy written
  | @call w w' sr c hw hc hrun ih =>
      have hS := hw.settled
      have hok : ∀ {α : Type} {m : VolM α} {P X : VolError → World → Prop} {Q : α → World → Prop},
          wp m (fun a w' => Success E w w' ∧ Q a w') (fun e w' => P e w' ∧ X e w') w →
          (∀ a w', Q a w' → AddsFrozen E w w') →
          (fun _ => ()) <$> m = c.run E sr → SnapshotsFrozen E w' := by
        intro α m P X Q hwp hQ heq
        have hpost : wp m (fun _ w' => SnapshotsFrozen E w') (fun _ _ => True) w :=
          wp_mono hwp (fun a w' h => ih.growth hS h.1.outcome.1 (hQ a w' h.2)) fun _ _ _ => trivial
        have hmap := (wp_map (fun _ => ()) m (fun _ w' => SnapshotsFrozen E w') _ w).2 hpost
        rw [heq] at hmap
        exact (wp_of_ok hrun).1 hmap
      cases c with
      | create name description size sharable =>
          exact hok (wp_and (wp_create hS.tidy sr name description size sharable)
            (create_adds hS.tidy sr name description size sharable)) (fun _ _ h => h) rfl
      | importExisting => cases hc
      | resize => cases hc
      | snapshot key =>
          exact hok (wp_and (wp_snapshot hS.tidy sr key) (snapshot_derived hS.tidy sr key))
            (fun _ _ ⟨_, _, _, _, _, hd⟩ => hd.adds) rfl
      | clone key =>
          exact hok (wp_and (wp_clone hS.tidy sr key) (clone_derived hS.tidy ih sr key))
            (fun _ _ ⟨_, _, hd⟩ => hd.adds) rfl
      | copy key dest_sr =>
          exact hok (wp_and (wp_copy hS.tidy sr key dest_sr) (copy_derived hS.tidy sr key dest_sr))
            (fun _ _ ⟨_, _, _, _, hd⟩ => hd.adds) rfl
      | destroy key =>
          obtain ⟨m, vdi₀, vdi, _, _, _, _, hf⟩ :=
            (wp_of_ok hrun).1 (wp_destroy hS.tidy sr key)
          exact ih.finished hS hf

/-! ### Derived VDIs -/

/-- The calls that make a VDI out of another one. -/
inductive Derivation
  | snapshot
  | clone
  | copy (dest_sr : String)
  deriving DecidableEq, Repr

/-- The program of the call. -/
def Derivation.run (E : Env) (sr key : String) : Derivation → VolM VolInfo
  | .snapshot => Volume.snapshot E sr key
  | .clone => Volume.clone E sr key
  | .copy dest_sr => Volume.copy E sr key dest_sr

/-- The repository of the new VDI. -/
def Derivation.target (sr : String) : Derivation → String
  | .copy dest_sr => dest_sr
  | _ => sr

/-- The byte at a place of a zvol: the latest that was written, or zero. -/
def bytes (z : Store) (n : ZvolName) (i : ℕ) : UInt8 :=
  ((z.zvol n).props.content.lookup i).getD 0

theorem bytes_congr {z z' : Store} {n n' : ZvolName}
    (h : (z'.zvol n').props.content = (z.zvol n).props.content) : bytes z' n' = bytes z n := by
  funext i
  rw [bytes, bytes, h]

/-- **A derived VDI has the content of its source** exactly when the call is no snapshot of a snapshot
VDI whose base VDI is still there and holds something else by now. -/
theorem derived_iff (d : Derivation) {m' : SrMeta} {info : VolInfo} (hw : Reachable E w)
    (hm : E.srMeta sr = some m) (hm' : E.srMeta (d.target sr) = some m')
    (hvdi : vdi ∈ (w.db sr).vdis) (hrun : d.run E sr vdi.uuid w = .ok info w') :
    bytes w'.zfs ⟨m'.datasetPath, info.key⟩ = bytes w.zfs ⟨m.datasetPath, vdi.uuid⟩ ↔
      (d = .snapshot → vdi.snap = true →
        ∀ p, vdi.parent_id.bind (w.db sr).getVdiForVolume = some p →
          bytes w.zfs ⟨m.datasetPath, p.uuid⟩ = bytes w.zfs ⟨m.datasetPath, vdi.uuid⟩) := by
  have hT := hw.settled.tidy
  cases d with
  | snapshot =>
      obtain ⟨m₁, hm₁, vdi₁, hvdi₁, huuid, hd⟩ := (wp_of_ok hrun).1 (snapshot_derived hT sr vdi.uuid)
      obtain rfl := Metabase.eq_of_uuid hvdi₁ hvdi huuid
      obtain rfl : m₁ = m := Option.some.inj (hm₁.symm.trans hm)
      obtain rfl : m₁ = m' := Option.some.inj (hm₁.symm.trans hm')
      rw [bytes_congr hd.content, snapshotSource]
      cases hs : vdi₁.snap with
      | false => simp
      | true =>
          cases hp : vdi₁.parent_id.bind (w.db sr).getVdiForVolume with
          | none => simp
          | some p => simp
  | clone =>
      obtain ⟨m₁, hm₁, hd⟩ := (wp_of_ok hrun).1 (clone_derived hT hw.frozen sr vdi.uuid)
      obtain rfl : m₁ = m := Option.some.inj (hm₁.symm.trans hm)
      obtain rfl : m₁ = m' := Option.some.inj (hm₁.symm.trans hm')
      rw [bytes_congr hd.content]
      simp
  | copy dest_sr =>
      obtain ⟨m₁, m₂, hm₁, hm₂, hd⟩ :=
        (wp_of_ok hrun).1 (copy_derived hT sr vdi.uuid dest_sr)
      obtain rfl : m₁ = m := Option.some.inj (hm₁.symm.trans hm)
      obtain rfl : m₂ = m' := Option.some.inj (hm₂.symm.trans hm')
      rw [bytes_congr hd.content]
      simp

/-- A disk was snapshotted and written to after that. -/
def rewritten : World :=
  touch ⟨["tank", "vms"], ""⟩ false [(0, 1)]
    (sampleWorld [.create "disk" "" 65536 false, .snapshot ""])

theorem reachable_rewritten : Reachable (sampleEnv fun _ => false) rewritten :=
  (reachable_sampleWorld _ (by decide +kernel)).touch _ _ _

/-- A test of what a call has returned. -/
def holdsAfter {α : Type} (m : VolM α) (w : World) (p : α → World → Bool) : Bool :=
  match m w with
  | .ok a w' => p a w'
  | .error _ _ => false

theorem exists_of_holdsAfter {m : VolM α} {p : α → World → Bool} (h : holdsAfter m w p = true) :
    ∃ a w', m w = .ok a w' ∧ p a w' = true := by
  rw [holdsAfter] at h
  split at h
  · next a w' hm => exact ⟨a, w', hm, h⟩
  · cases h

/-- The snapshot is cloned. -/
theorem derived_iff_clone :
    ∃ info w', Derivation.clone.run (sampleEnv fun _ => false) "sr" "u" rewritten = .ok info w' ∧
      bytes w'.zfs ⟨["tank", "vms"], info.key⟩ = bytes rewritten.zfs ⟨["tank", "vms"], "u"⟩ := by
  obtain ⟨info, w', hrun, -⟩ := exists_of_holdsAfter
    (m := Derivation.clone.run (sampleEnv fun _ => false) "sr" "u") (w := rewritten)
    (p := fun _ _ => true) (by decide +kernel)
  have hm : (sampleEnv fun _ => false).srMeta "sr" = some ⟨"tank", ["vms"], none, none⟩ := rfl
  have hvdi : ⟨"u", "disk", "", false, 1, some 0, true, some 65536⟩ ∈ (rewritten.db "sr").vdis := by
    decide +kernel
  exact ⟨info, w', hrun,
    (derived_iff .clone reachable_rewritten hm hm hvdi hrun).2 fun h => by cases h⟩

/-- **The snapshot of a snapshot VDI has the content that the disk has by now.** -/
theorem not_derived_rewritten :
    ¬ ∀ (E : Env) (sr : String) (d : Derivation) (w w' : World) (m m' : SrMeta) (vdi : Vdi)
      (info : VolInfo), Reachable E w → E.srMeta sr = some m → E.srMeta (d.target sr) = some m' →
        vdi ∈ (w.db sr).vdis → d.run E sr vdi.uuid w = .ok info w' →
          bytes w'.zfs ⟨m'.datasetPath, info.key⟩ = bytes w.zfs ⟨m.datasetPath, vdi.uuid⟩ := by
  intro h
  obtain ⟨info, w', hrun, hbyte⟩ := exists_of_holdsAfter
    (m := Derivation.snapshot.run (sampleEnv fun _ => false) "sr" "u") (w := rewritten)
    (p := fun info w' => bytes w'.zfs ⟨["tank", "vms"], info.key⟩ 0 = 1) (by decide +kernel)
  have heq := h (sampleEnv fun _ => false) "sr" .snapshot rewritten w'
    ⟨"tank", ["vms"], none, none⟩ ⟨"tank", ["vms"], none, none⟩
    ⟨"u", "disk", "", false, 1, some 0, true, some 65536⟩ info reachable_rewritten rfl rfl
    (by decide +kernel) hrun
  have hold : bytes rewritten.zfs ⟨["tank", "vms"], "u"⟩ 0 = 0 := by decide +kernel
  have hnew : bytes w'.zfs ⟨["tank", "vms"], info.key⟩ 0 = 1 := by simpa using hbyte
  rw [show SrMeta.datasetPath ⟨"tank", ["vms"], none, none⟩ = ["tank", "vms"] from rfl] at heq
  rw [heq, hold] at hnew
  cases hnew

end Volume

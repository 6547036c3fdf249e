/-
**The calls that destroy nothing, one by one.**

For each call, started between two calls: however it ends, the state is an `Outcome`, and when it
returns, the state is a `Success`.  The proofs follow the text of the calls, command by command.

Main results:

* `Volume.wp_create`, `Volume.wp_importExisting`, `Volume.wp_snapshot`, `Volume.wp_clone`,
  `Volume.wp_resize`, `Volume.wp_copy`.
-/

import ZfsLive.VolumeGrowth

set_option relaxedAutoImplicit false
set_option autoImplicit false

namespace Volume

open Zfs Wp

variable {E : Env} {w₀ w : World} {α : Type} {Q : α → World → Prop} {X : VolError → World → Prop}

/-! ### Parts of calls -/

theorem Mid.of_frame {w' : World} (h : Mid E w₀ w) (hf : w.Frame w') : Mid E w₀ w' := by
  rw [Mid, hf.zfs, hf.db, hf.drawn]
  exact h

theorem Mid.of_same {w' : World} (h : Mid E w₀ w) (hs : w.Same w') : Mid E w₀ w' :=
  h.of_frame hs.frame

theorem Mid.of_growth {w' : World} (h : Mid E w₀ w) (hs : w.SameDb w')
    (hg : Growth E w₀ w'.zfs w.drawn) : Mid E w₀ w' := by
  rw [Mid, hs.db, hs.drawn]
  exact ⟨hg, h.2⟩

theorem Mid.of_drew {w' : World} (h : Mid E w₀ w) (hd : w.Drew w') : Mid E w₀ w' := by
  rw [Mid, hd.zfs, hd.db, hd.drawn]
  exact ⟨h.1.draw, h.2⟩

/-- A committed transaction whose VDIs were there before or have their backing. -/
theorem Mid.committed {sr : String} {w' : World} (h : Mid E w₀ w) (hc : w.Committed sr w')
    (hwork : ∀ v ∈ w.work.vdis,
      Old (w₀.db sr) v ∨ ∀ m, E.srMeta sr = some m → Backed w.zfs m.datasetPath v) :
    Outcome E w₀ w' := by
  rw [Outcome, hc.zfs, hc.db, hc.drawn]
  refine ⟨h.1, fun sr' v hv => ?_⟩
  by_cases hsr : sr' = sr
  · subst hsr
    exact hwork v (by simpa using hv)
  · exact .inl (h.2 sr' v (by simpa [hsr] using hv))

/-- A committed transaction of a call that has added at most one snapshot. -/
theorem Mid.success {sr : String} {w' : World} (h : Mid E w₀ w) (hc : w.Committed sr w')
    (hsnaps : ∃ o : Option SnapName, (∀ s, o = some s → New E w₀ w.drawn s.id) ∧
      ∀ s, w.zfs.Has s ↔ w₀.zfs.Has s ∨ o = some s)
    (hwork : ∀ v ∈ w.work.vdis, Old (w₀.db sr) v ∨
      (∀ m, E.srMeta sr = some m → Backed w.zfs m.datasetPath v) ∧ New E w₀ w.drawn v.uuid ∧
        (v.snap = false → ∀ n, ¬ w.zfs.Has ⟨n, v.uuid⟩)) :
    Success E w₀ w' := by
  refine ⟨h.committed hc fun v hv => (hwork v hv).imp_right And.left, ?_, sr, fun sr' v hv => ?_⟩
  · rw [hc.zfs, hc.drawn]
    exact hsnaps
  · rw [hc.zfs, hc.drawn]
    rw [hc.db] at hv
    by_cases hsr : sr' = sr
    · subst hsr
      exact (hwork v (by simpa using hv)).imp_right fun hnew => ⟨rfl, hnew.2⟩
    · exact .inl (h.2 sr' v (by simpa [hsr] using hv))

theorem Outcome.of_same {w' : World} (h : Outcome E w₀ w) (hs : w.Same w') : Outcome E w₀ w' := by
  rw [Outcome, hs.zfs, hs.db, hs.drawn]
  exact h

theorem Success.of_same {w' : World} (h : Success E w₀ w) (hs : w.Same w') : Success E w₀ w' := by
  refine ⟨h.outcome.of_same hs, ?_, ?_⟩
  · rw [hs.zfs, hs.drawn]
    exact h.snaps
  · rw [hs.zfs, hs.db, hs.drawn]
    exact h.rows

/-! Inside a call, a command that raises leaves the call in the middle. -/

theorem Mid.zfsCmd {f : Store → Except ZfsError Store} {Q : Unit → World → Prop}
    (h : Mid E w₀ w) (hX : ∀ e w', Mid E w₀ w' → X e w')
    (hQ : ∀ w', f w.zfs = .ok w'.zfs → w.SameDb w' → Q () w') : wp (zfsCmd E f) Q X w :=
  wp_zfsCmd (fun _ _ hs => hX _ _ (h.of_same hs)) (fun _ _ _ hs => hX _ _ (h.of_same hs)) hQ

theorem Mid.zfsGet {f : Store → Except ZfsError α} (h : Mid E w₀ w)
    (hX : ∀ e w', Mid E w₀ w' → X e w')
    (hQ : ∀ a w', f w.zfs = .ok a → w.Same w' → Mid E w₀ w' → Q a w') : wp (zfsGet E f) Q X w :=
  wp_zfsGet (fun _ _ hs => hX _ _ (h.of_same hs)) (fun _ _ _ hs => hX _ _ (h.of_same hs))
    fun a w' ha hs => hQ a w' ha hs (h.of_same hs)

theorem Mid.dbCmd {f : Metabase → Except VolError (α × Metabase)} (h : Mid E w₀ w)
    (hX : ∀ e w', Mid E w₀ w' → X e w')
    (hQ : ∀ a db w', f w.work = .ok (a, db) → w'.work = db → w.Frame w' → Mid E w₀ w' → Q a w') :
    wp (dbCmd E f) Q X w :=
  wp_dbCmd (fun _ _ hs => hX _ _ (h.of_same hs)) (fun _ _ _ hs => hX _ _ (h.of_same hs))
    fun a db w' hdb hwork hf => hQ a db w' hdb hwork hf (h.of_frame hf)

/-- In a transaction, all VDIs were there before as long as the call adds none. -/
theorem Mid.dbContext {sr : String} {body : VolM α} (h : Mid E w₀ w)
    (hX : ∀ e w', Mid E w₀ w' → X e w')
    (hbody : ∀ w₁, w.Frame w₁ → Mid E w₀ w₁ → w₁.work = w.db sr →
      (∀ v ∈ w₁.work.vdis, Old (w₀.db sr) v) →
      wp body (fun a w' => Mid E w₀ w' ∧ ∀ w'', w'.Committed sr w'' → Q a w'') X w₁) :
    wp (dbContext E sr body) Q X w := by
  refine wp_dbContext (fun _ _ hs => hX _ _ (h.of_same hs)) fun w₁ hf hwork => ?_
  refine wp_mono (hbody w₁ hf (h.of_frame hf) hwork fun v hv => h.2 sr v (hwork ▸ hv))
    (fun a w' ha => ⟨fun _ _ hs => hX _ _ (ha.1.of_same hs), ha.2⟩) fun _ _ he => he

/-- Reading the space that an object takes ends a call that has done its work. -/
theorem wp_getZvolUsedBytes {object : ZfsObject} (h : Success E w₀ w) :
    wp (getZvolUsedBytes E object) (fun _ w => Success E w₀ w) (fun _ w => Outcome E w₀ w) w :=
  wp_zfsGet (fun _ _ hs => h.outcome.of_same hs) (fun _ _ _ hs => h.outcome.of_same hs)
    fun _ _ _ hs => h.of_same hs

theorem wp_checkSpace {ds : List String} {size : ℕ} {Q : Unit → World → Prop}
    (hX : ∀ e w', w.Same w' → X e w') (hQ : ∀ w', w.Same w' → Q () w') :
    wp (checkSpace E ds size) Q X w := by
  have hrest : ∀ w₁, w.Same w₁ → ∀ copies,
      wp (do
        let available ← zfsGet E fun _ => .ok (E.available ds)
        if size * copies > available then
          throw (.storage "SR_BACKEND_FAILURE_109" ["Insufficient space for thick provisioning",
            s!"Required: {size * copies} bytes ({size} x {copies} copies). Available: {available} bytes"])
        else
          return ()) Q X w₁ := by
    intro w₁ h₁ copies
    rw [wp_bind]
    refine wp_zfsGet (fun _ _ hs => hX _ _ (h₁.trans hs)) (fun e _ he => by cases he)
      fun a w₂ _ hs => ?_
    rw [wp_ite]
    exact ⟨fun _ => hX _ _ (h₁.trans hs), fun _ => hQ _ (h₁.trans hs)⟩
  rw [checkSpace, wp_bind, effectiveCopies, wp_tryCatch]
  exact wp_zfsGet (fun _ _ hs => hrest _ hs 1) (fun e _ he => by cases he)
    fun a _ _ hs => hrest _ hs a

theorem wp_checkProvisioning {m : SrMeta} {size : ℕ} {Q : Unit → World → Prop}
    (hX : ∀ e w', w.Same w' → X e w') (hQ : ∀ w', w.Same w' → Q () w') :
    wp (checkProvisioning E m size) Q X w := by
  rw [checkProvisioning, wp_ite]
  exact ⟨fun _ => hQ w ⟨rfl, rfl, rfl, rfl, rfl, rfl⟩, fun _ => wp_checkSpace hX hQ⟩

theorem wp_createZvol (hT : Tidy E w₀) (hmid : Mid E w₀ w) {path : ZvolName}
    (hnew : New E w₀ w.drawn path.vol) {size volblocksize : ℕ} {thin : Bool}
    {Q : Unit → World → Prop} (hX : ∀ e w', Mid E w₀ w' → X e w')
    (hQ : ∀ w', Mid E w₀ w' → w.SameDb w' → path ∈ w'.zfs.names →
      (∀ s, w'.zfs.Has s ↔ w.zfs.Has s) → Q () w') :
    wp (createZvol E path size thin volblocksize) Q X w := by
  rw [createZvol, wp_bind]
  refine hmid.zfsCmd hX fun w₁ hz hs₁ => ?_
  have hmid₁ := hmid.of_growth hs₁ (hmid.1.create hT hnew hz)
  have hpath : path ∈ w₁.zfs.names := (Store.names_create hz).2 (.inl rfl)
  rw [wp_ite]
  refine ⟨fun _ => hQ _ hmid₁ hs₁ hpath fun _ => Store.has_create hz, fun _ => ?_⟩
  rw [wp_bind]
  refine hmid₁.zfsGet hX fun copies w₂ _ hs₂ hmid₂ => ?_
  refine hmid₂.zfsCmd hX fun w₃ hz₃ hs₃ => ?_
  have hnew₂ : New E w₀ w₂.drawn path.vol := by rwa [hs₂.drawn, hs₁.drawn]
  refine hQ _ (hmid₂.of_growth hs₃ (hmid₂.1.setProps hT (.inl hnew₂) hz₃))
    (hs₁.trans (hs₂.sameDb.trans hs₃)) ?_ fun s => ?_
  · rw [Store.names_setProps hz₃, hs₂.zfs]
    exact hpath
  · rw [Store.has_setProps hz₃, hs₂.zfs]
    exact Store.has_create hz

/-! ### `create` -/

theorem wp_create (hT : Tidy E w₀) (sr name description : String) (size : ℕ) (sharable : Bool) :
    wp (create E sr name description size sharable) (fun _ w => Success E w₀ w)
      (fun _ w => Outcome E w₀ w) w₀ := by
  have hstart := Mid.refl hT
  have hX : ∀ (e : VolError) w', Mid E w₀ w' → Outcome E w₀ w' := fun _ _ h => h.outcome
  rw [create, wp_bind]
  refine wp_getSrMetadata (fun _ => hstart.outcome) fun m hm => ?_
  rw [wp_bind]
  refine wp_checkProvisioning (fun _ _ hs => (hstart.of_same hs).outcome) fun w₁ hs₁ => ?_
  have hmid₁ := hstart.of_same hs₁
  obtain ⟨hnew, _, hsnap⟩ := hmid₁.1.next_new hT
  rw [wp_bind]
  refine wp_uuid4 fun w₂ hd => ?_
  have hmid₂ := hmid₁.of_drew hd
  rw [wp_bind]
  refine hmid₂.dbContext hX fun w₃ hf₃ hmid₃ hwork₃ hold => ?_
  simp only [wp_bind, wp_pure]
  refine hmid₃.dbCmd hX fun id db w₄ hins hwork₄ hf₄ hmid₄ => ?_
  cases hins
  refine hmid₄.dbCmd hX fun _ db w₅ hvdi hwork₅ hf₅ hmid₅ => ?_
  split at hvdi
  · next db' hdb =>
    cases hvdi
    have hdrawn₅ : w₅.drawn = w₁.drawn + 1 := by rw [hf₅.drawn, hf₄.drawn, hf₃.drawn, hd.drawn]
    have hzfs₅ : w₅.zfs = w₁.zfs := by rw [hf₅.zfs, hf₄.zfs, hf₃.zfs, hd.zfs]
    refine wp_createZvol hT hmid₅ (hdrawn₅ ▸ hnew) hX fun w₆ hmid₆ hs₆ hpath hhas => ?_
    refine hmid₆.zfsGet hX fun vsize w₇ _ hs₇ hmid₇ => ?_
    refine hmid₇.dbCmd hX fun _ db w₈ hup hwork₈ hf₈ hmid₈ => ?_
    cases hup
    refine ⟨hmid₈, fun w₉ hc => wp_getZvolUsedBytes (hmid₈.success hc ⟨none, by simp, fun s => ?_⟩
      fun v hv => ?_)⟩
    · rw [hf₈.zfs, hs₇.zfs, hhas, hzfs₅, hs₁.zfs]
      simp
    · -- the rows of the transaction: the old ones and the new one
      rw [hwork₈] at hv
      obtain ⟨v', hv', huuid, hsn⟩ := Metabase.exists_of_mem_updateVolumeVsize hv
      rw [hs₇.work, hs₆.work, hwork₅] at hv'
      rw [hwork₄] at hdb
      rcases (Metabase.mem_vdis_insertBoth hdb).1 hv' with rfl | hmem
      · have hu : v.uuid = E.uuid w₁.drawn := huuid.symm
        have hsnapv : v.snap = false := hsn.symm
        have hdrawn₈ : w₈.drawn = w₁.drawn + 1 := by rw [hf₈.drawn, hs₇.drawn, hs₆.drawn, hdrawn₅]
        rw [hf₈.zfs, hs₇.zfs, hu]
        refine .inr ⟨fun m' hm' => ?_, hdrawn₈ ▸ hnew, fun _ n hn => ?_⟩
        · obtain rfl : m = m' := Option.some.inj (hm.symm.trans hm')
          exact ⟨by rw [hu]; exact hpath, by simp [hsnapv], by simp [hsnapv]⟩
        · rw [hhas, hzfs₅] at hn
          exact hsnap _ hn rfl
      · obtain ⟨v₀, hv₀, huuid₀, hsn₀⟩ := hold v' hmem
        exact .inl ⟨v₀, hv₀, huuid₀.trans huuid, hsn₀.trans hsn⟩
  · cases hvdi

/-! ### `importExisting` -/

theorem wp_importExisting (hT : Tidy E w₀) (sr key name description : String) (size : ℕ)
    (sharable : Bool) :
    wp (importExisting E sr key name description size sharable) (fun _ w => Outcome E w₀ w)
      (fun _ w => Outcome E w₀ w) w₀ := by
  have hstart := Mid.refl hT
  have hX : ∀ (e : VolError) w', Mid E w₀ w' → Outcome E w₀ w' := fun _ _ h => h.outcome
  rw [importExisting, wp_bind]
  refine wp_getSrMetadata (fun _ => hstart.outcome) fun m hm => ?_
  rw [wp_bind]
  refine wp_volExists (fun _ w₁ hs₁ => (hstart.of_same hs₁).outcome) fun w₁ hs₁ => ?_
  have hmid₁ := hstart.of_same hs₁
  by_cases hpath : (⟨m.datasetPath, key⟩ : ZvolName) ∈ w₀.zfs.names
  · rw [decide_eq_true hpath]
    simp only [if_true, wp_bind, wp_pure]
    refine hmid₁.dbContext hX fun w₂ hf₂ hmid₂ hwork₂ hold => ?_
    simp only [wp_bind, wp_pure]
    refine hmid₂.dbCmd hX fun id db w₃ hins hwork₃ hf₃ hmid₃ => ?_
    cases hins
    refine hmid₃.dbCmd hX fun _ db w₄ hvdi hwork₄ hf₄ hmid₄ => ?_
    split at hvdi
    · next db' hdb =>
      cases hvdi
      refine hmid₄.zfsGet hX fun vsize w₅ _ hs₅ hmid₅ => ?_
      refine hmid₅.dbCmd hX fun _ db w₆ hup hwork₆ hf₆ hmid₆ => ?_
      cases hup
      have hzfs : w₆.zfs = w₀.zfs := by
        rw [hf₆.zfs, hs₅.zfs, hf₄.zfs, hf₃.zfs, hf₂.zfs, hs₁.zfs]
      refine ⟨hmid₆, fun w₇ hc => ?_⟩
      have hend : Outcome E w₀ w₇ := hmid₆.committed hc fun v hv => by
        rw [hwork₆] at hv
        obtain ⟨v', hv', huuid, hsn⟩ := Metabase.exists_of_mem_updateVolumeVsize hv
        rw [hs₅.work, hwork₄] at hv'
        rw [hwork₃] at hdb
        rcases (Metabase.mem_vdis_insertBoth hdb).1 hv' with rfl | hmem
        · refine .inr fun m' hm' => ?_
          obtain rfl : m = m' := Option.some.inj (hm.symm.trans hm')
          have hsnap : v.snap = false := hsn.symm
          exact ⟨by rw [hzfs, ← huuid]; exact hpath, by simp [hsnap], by simp [hsnap]⟩
        · obtain ⟨v₀, hv₀, huuid₀, hsn₀⟩ := hold v' hmem
          exact .inl ⟨v₀, hv₀, huuid₀.trans huuid, hsn₀.trans hsn⟩
      exact wp_zfsGet (fun _ _ hs => hend.of_same hs) (fun _ _ _ hs => hend.of_same hs)
        fun _ _ _ hs => hend.of_same hs
    · cases hvdi
  · rw [decide_eq_false hpath]
    exact hmid₁.outcome

/-! ### Looking a VDI up -/

/-- The rows of a transaction after the size of a VDI was recovered. -/
theorem Recovered.old {db db' db₀ : Metabase} {vdi vdi' : Vdi} (h : Recovered db db' vdi vdi')
    (hold : ∀ v ∈ db.vdis, Old db₀ v) : ∀ v ∈ db'.vdis, Old db₀ v := by
  rcases h with ⟨rfl, _⟩ | ⟨x, rfl, _⟩
  · exact hold
  · intro v hv
    obtain ⟨v', hv', huuid, hsn⟩ := Metabase.exists_of_mem_updateVolumeVsize hv
    obtain ⟨v₀, hv₀, huuid₀, hsn₀⟩ := hold v' hv'
    exact ⟨v₀, hv₀, huuid₀.trans huuid, hsn₀.trans hsn⟩

/-- The start of most transactions: look the VDI up and recover its size. -/
theorem Mid.lookup {sr key : String} {ds : List String} {rest : Vdi → VolM α}
    (h : Mid E w₀ w) (hold : ∀ v ∈ w.work.vdis, Old (w₀.db sr) v)
    (hX : ∀ e w', Mid E w₀ w' → X e w')
    (hQ : ∀ vdi w', Mid E w₀ w' → w.Frame w' → (∀ v ∈ w'.work.vdis, Old (w₀.db sr) v) →
      wp (rest vdi) Q X w') :
    wp (do
      let vdi ← getVdiById E key
      let vdi ← recoverVdiVsize E vdi ds
      rest vdi) Q X w := by
  rw [wp_bind]
  refine h.dbCmd hX fun vdi db w₁ hget hwork₁ hf₁ hmid₁ => ?_
  split at hget
  · next v hv =>
    cases hget
    rw [wp_bind]
    refine wp_recoverVdiVsize (fun _ _ hs => hX _ _ (hmid₁.of_same hs))
      (fun _ _ _ hs => hX _ _ (hmid₁.of_same hs)) fun vdi' w₂ hf₂ hrec => ?_
    exact hQ vdi' w₂ (hmid₁.of_frame hf₂) (hf₁.trans hf₂) (hrec.old (hwork₁ ▸ hold))
  · cases hget

/-! ### `snapshot` -/

theorem wp_snapshotParent {vdi : Vdi} {Q : String × Option ℕ → World → Prop} (h : Mid E w₀ w)
    (hX : ∀ e w', Mid E w₀ w' → X e w')
    (hQ : ∀ p w', Mid E w₀ w' → w.Same w' → Q p w') : wp (snapshotParent E vdi) Q X w := by
  rw [snapshotParent, wp_ite]
  refine ⟨fun _ => ?_, fun _ => hQ _ w h ⟨rfl, rfl, rfl, rfl, rfl, rfl⟩⟩
  rw [wp_bind]
  refine h.dbCmd hX fun p db w₁ hget hwork₁ hf₁ hmid₁ => ?_
  cases hget
  exact hQ _ w₁ hmid₁ ⟨hf₁.zfs, hf₁.db, hwork₁, hf₁.drawn, hf₁.destroyed, hf₁.commits⟩

theorem wp_snapshot (hT : Tidy E w₀) (sr key : String) :
    wp (snapshot E sr key) (fun _ w => Success E w₀ w) (fun _ w => Outcome E w₀ w) w₀ := by
  have hstart := Mid.refl hT
  have hX : ∀ (e : VolError) w', Mid E w₀ w' → Outcome E w₀ w' := fun _ _ h => h.outcome
  rw [snapshot, wp_bind]
  refine wp_getSrMetadata (fun _ => hstart.outcome) fun m hm => ?_
  obtain ⟨hnew, _, hsnap⟩ := hstart.1.next_new hT
  rw [wp_bind]
  refine wp_uuid4 fun w₁ hd => ?_
  have hmid₁ := hstart.of_drew hd
  rw [wp_bind]
  refine hmid₁.dbContext hX fun w₂ hf₂ hmid₂ hwork₂ hold => ?_
  refine hmid₂.lookup hold hX fun vdi w₃ hmid₃ hf₃ hold₃ => ?_
  rw [wp_bind]
  refine wp_snapshotParent hmid₃ hX fun p w₄ hmid₄ hs₄ => ?_
  obtain ⟨parent_vdi_uuid, vol_id⟩ := p
  simp only [wp_bind, wp_pure, cloneSnapshot]
  refine hmid₄.dbCmd hX fun id db w₅ hins hwork₅ hf₅ hmid₅ => ?_
  cases hins
  have hdrawn₅ : w₅.drawn = w₀.drawn + 1 := by
    rw [hf₅.drawn, hs₄.drawn, hf₃.drawn, hf₂.drawn, hd.drawn]
  have hzfs₅ : w₅.zfs = w₀.zfs := by rw [hf₅.zfs, hs₄.zfs, hf₃.zfs, hf₂.zfs, hd.zfs]
  -- the snapshot, its clone, and the mark on the clone
  refine hmid₅.zfsCmd hX fun w₆ hz₆ hs₆ => ?_
  have hmid₆ := hmid₅.of_growth hs₆ (hmid₅.1.snapshot (hdrawn₅ ▸ hnew) hz₆)
  refine hmid₆.zfsCmd hX fun w₇ hz₇ hs₇ => ?_
  have hdrawn₆ : w₆.drawn = w₀.drawn + 1 := hs₆.drawn.trans hdrawn₅
  have hmid₇ := hmid₆.of_growth hs₇ (hmid₆.1.clone hT (hdrawn₆ ▸ hnew) hz₇)
  refine hmid₇.zfsCmd hX fun w₈ hz₈ hs₈ => ?_
  have hdrawn₇ : w₇.drawn = w₀.drawn + 1 := hs₇.drawn.trans hdrawn₆
  have hmid₈ := hmid₇.of_growth hs₈ (hmid₇.1.setProps hT (.inl (hdrawn₇ ▸ hnew)) hz₈)
  have hhas : ∀ s, w₈.zfs.Has s ↔
      w₀.zfs.Has s ∨ s = ⟨⟨m.datasetPath, parent_vdi_uuid⟩, E.uuid w₀.drawn⟩ := fun s => by
    rw [Store.has_setProps hz₈, Store.has_clone hz₇, Store.has_snapshot hz₆, hzfs₅]
  refine hmid₈.dbCmd hX fun _ db w₉ hvdi hwork₉ hf₉ hmid₉ => ?_
  split at hvdi
  · next db' hdb =>
    cases hvdi
    have hdrawn₉ : w₉.drawn = w₀.drawn + 1 := by rw [hf₉.drawn, hs₈.drawn, hdrawn₇]
    refine ⟨hmid₉, fun w₁₀ hc => wp_getZvolUsedBytes (hmid₉.success hc
      ⟨some ⟨⟨m.datasetPath, parent_vdi_uuid⟩, E.uuid w₀.drawn⟩, fun s hs => ?_, fun s => ?_⟩
      fun v hv => ?_)⟩
    · cases hs
      exact hdrawn₉ ▸ hnew
    · rw [hf₉.zfs, hhas, Option.some.injEq, eq_comm]
    · rw [hwork₉] at hv
      rw [hs₈.work, hs₇.work, hs₆.work, hwork₅] at hdb
      rcases (Metabase.mem_vdis_insertBoth hdb).1 hv with rfl | hmem
      · refine .inr ⟨fun m' hm' => ?_, hdrawn₉ ▸ hnew, fun h => by cases h⟩
        obtain rfl : m = m' := Option.some.inj (hm.symm.trans hm')
        rw [hf₉.zfs]
        refine ⟨?_, fun _ => ?_, fun _ => ?_⟩
        · exact (Store.names_setProps hz₈).2 ((Store.names_clone hz₇).2 (.inl rfl))
        · rw [(Store.setProps_ok hz₈).2]
          exact congrArg (Props.readonly ∘ Zvol.props) (Store.zvol_put_self ..)
        · refine ⟨⟨m.datasetPath, parent_vdi_uuid⟩, List.prefix_refl _, (hhas _).2 (.inr rfl),
            fun n hn => ?_⟩
          rcases (hhas _).1 hn with h | h
          · exact absurd rfl (hsnap _ h)
          · exact congrArg SnapName.zvol h
      · rw [hs₄.work] at hmem
        exact .inl (hold₃ v hmem)
  · cases hvdi

/-! ### `clone` -/

/-- The state differs at most in the sizes of zvols and in the number of commands. -/
structure World.Sized (w w' : World) : Prop where
  sameDb : w.SameDb w'
  names : ∀ n, n ∈ w'.zfs.names ↔ n ∈ w.zfs.names
  has : ∀ s, w'.zfs.Has s ↔ w.zfs.Has s

theorem World.Same.sized {w' : World} (h : w.Same w') : w.Sized w' :=
  ⟨h.sameDb, fun _ => by rw [h.zfs], fun _ => by rw [h.zfs]⟩

theorem World.Sized.trans {w' w'' : World} (h : w.Sized w') (h' : w'.Sized w'') : w.Sized w'' :=
  ⟨h.sameDb.trans h'.sameDb, fun n => (h'.names n).trans (h.names n),
    fun s => (h'.has s).trans (h.has s)⟩

theorem Mid.setSizes {n : ZvolName} {f : Props → Props} {Q : Unit → World → Prop}
    (hT : Tidy E w₀) (h : Mid E w₀ w)
    (hf : ∀ p, SameData p (f p)) (hX : ∀ e w', Mid E w₀ w' → X e w')
    (hQ : ∀ w', Mid E w₀ w' → w.Sized w' → Q () w') :
    wp (Volume.zfsCmd E fun z => z.setProps n f) Q X w :=
  h.zfsCmd hX fun w' hz hs => hQ w' (h.of_growth hs (h.1.setProps hT (.inr hf) hz))
    ⟨hs, fun _ => Store.names_setProps hz, fun _ => Store.has_setProps hz⟩

theorem wp_volSetThickRefreservation {n : ZvolName} {Q : Unit → World → Prop} (hT : Tidy E w₀)
    (h : Mid E w₀ w) (hX : ∀ e w', Mid E w₀ w' → X e w')
    (hQ : ∀ w', Mid E w₀ w' → w.Sized w' → Q () w') :
    wp (volSetThickRefreservation E n) Q X w := by
  simp only [volSetThickRefreservation, wp_bind]
  refine h.zfsGet hX fun volsize w₁ _ hs₁ hmid₁ => ?_
  refine hmid₁.zfsGet hX fun copies w₂ _ hs₂ hmid₂ => ?_
  exact hmid₂.setSizes hT (fun _ => ⟨rfl, rfl, rfl⟩) hX fun w₃ hmid₃ hsz =>
    hQ w₃ hmid₃ ((hs₁.trans hs₂).sized.trans hsz)

theorem wp_copyThickness {n c : ZvolName} {Q : Unit → World → Prop} (hT : Tidy E w₀)
    (h : Mid E w₀ w) (hX : ∀ e w', Mid E w₀ w' → X e w')
    (hQ : ∀ w', Mid E w₀ w' → w.Sized w' → Q () w') : wp (copyThickness E n c) Q X w := by
  rw [copyThickness, wp_bind]
  refine h.zfsGet hX fun refreservation w₁ _ hs₁ hmid₁ => ?_
  rw [wp_ite]
  refine ⟨fun _ => ?_, fun _ => hQ w₁ hmid₁ hs₁.sized⟩
  exact wp_volSetThickRefreservation hT hmid₁ hX fun w₂ hmid₂ hsz =>
    hQ w₂ hmid₂ (hs₁.sized.trans hsz)

/-- The source of a clone: a snapshot there is, or a hidden one under a uuid that is drawn here. -/
theorem wp_cloneSource {ds : List String} {vdi : Vdi} {Q : Option SnapName × ℕ → World → Prop}
    (hT : Tidy E w₀) (h : Mid E w₀ w) (hX : ∀ e w', Mid E w₀ w' → X e w')
    (hQ : ∀ p w', Mid E w₀ w' → w.drawn ≤ w'.drawn → (∀ v, v ∈ w'.work.vdis ↔ v ∈ w.work.vdis) →
      (∃ o : Option SnapName, (∀ s, o = some s → New E w₀ w'.drawn s.id ∧ s.id = E.uuid w.drawn) ∧
        ∀ s, w'.zfs.Has s ↔ w.zfs.Has s ∨ o = some s) →
      (∀ n, n ∈ w'.zfs.names ↔ n ∈ w.zfs.names) → Q p w') :
    wp (cloneSource E ds vdi) Q X w := by
  rw [cloneSource, wp_ite]
  constructor
  · intro _
    rw [wp_bind]
    refine h.zfsGet hX fun s w₁ _ hs₁ hmid₁ => ?_
    exact hQ _ w₁ hmid₁ hs₁.drawn.ge (fun _ => by rw [hs₁.work])
      ⟨none, by simp, fun s => by simp [hs₁.zfs]⟩ fun _ => by rw [hs₁.zfs]
  · intro _
    simp only [wp_bind, wp_pure]
    obtain ⟨hnew, _, _⟩ := h.1.next_new hT
    refine wp_uuid4 fun w₁ hd => ?_
    have hmid₁ := h.of_drew hd
    refine hmid₁.dbCmd hX fun id db w₂ hins hwork₂ hf₂ hmid₂ => ?_
    cases hins
    have hdrawn₂ : w₂.drawn = w.drawn + 1 := hf₂.drawn.trans hd.drawn
    refine hmid₂.zfsCmd hX fun w₃ hz₃ hs₃ => ?_
    have hmid₃ := hmid₂.of_growth hs₃ (hmid₂.1.snapshot (hdrawn₂ ▸ hnew) hz₃)
    have hdrawn₃ : w₃.drawn = w.drawn + 1 := hs₃.drawn.trans hdrawn₂
    have hzfs₂ : w₂.zfs = w.zfs := hf₂.zfs.trans hd.zfs
    refine hQ _ w₃ hmid₃ (by omega) (fun v => ?_)
      ⟨some ⟨⟨ds, vdi.uuid⟩, E.uuid w.drawn⟩, fun s hs => ?_, fun s => ?_⟩ fun n => ?_
    · rw [hs₃.work, hwork₂, hd.work]
      exact Metabase.mem_vdis_insertVolume
    · cases hs
      exact ⟨hdrawn₃ ▸ hnew, rfl⟩
    · rw [Store.has_snapshot hz₃, hzfs₂, Option.some.injEq, eq_comm (a := s)]
    · rw [Store.names_snapshot hz₃, hzfs₂]

theorem wp_clone (hT : Tidy E w₀) (sr key : String) :
    wp (clone E sr key) (fun _ w => Success E w₀ w) (fun _ w => Outcome E w₀ w) w₀ := by
  have hstart := Mid.refl hT
  have hX : ∀ (e : VolError) w', Mid E w₀ w' → Outcome E w₀ w' := fun _ _ h => h.outcome
  rw [clone, wp_bind]
  refine wp_getSrMetadata (fun _ => hstart.outcome) fun m hm => ?_
  obtain ⟨hnew, hvol, hsnap⟩ := hstart.1.next_new hT
  rw [wp_bind]
  refine wp_uuid4 fun w₁ hd => ?_
  have hmid₁ := hstart.of_drew hd
  rw [wp_bind]
  refine hmid₁.dbContext hX fun w₂ hf₂ hmid₂ hwork₂ hold => ?_
  refine hmid₂.lookup hold hX fun vdi w₃ hmid₃ hf₃ hold₃ => ?_
  rw [wp_bind]
  refine wp_cloneSource hT hmid₃ hX fun p w₄ hmid₄ hdrawn₄ hrows₄ ho hnames₄ => ?_
  obtain ⟨o, ho, hhas₄⟩ := ho
  obtain ⟨snap_name, snap_parent_id⟩ := p
  have hdrawn₃ : w₃.drawn = w₀.drawn + 1 := by rw [hf₃.drawn, hf₂.drawn, hd.drawn]
  have hzfs₃ : w₃.zfs = w₀.zfs := by rw [hf₃.zfs, hf₂.zfs, hd.zfs]
  simp only [wp_bind]
  refine hmid₄.dbCmd hX fun id db w₅ hins hwork₅ hf₅ hmid₅ => ?_
  cases hins
  rcases snap_name with _ | s
  · exact hmid₅.outcome
  simp only [cloneSnapshot, wp_bind, wp_pure]
  refine hmid₅.zfsCmd hX fun w₆ hz₆ hs₆ => ?_
  have hnew₅ : New E w₀ w₅.drawn (E.uuid w₀.drawn) :=
    hnew.mono (by rw [hf₅.drawn, ← hdrawn₃]; exact hdrawn₄)
  have hmid₆ := hmid₅.of_growth hs₆ (hmid₅.1.clone hT hnew₅ hz₆)
  refine wp_copyThickness hT hmid₆ hX fun w₇ hmid₇ hsz₇ => ?_
  have hhas₇ : ∀ r, w₇.zfs.Has r ↔ w₀.zfs.Has r ∨ o = some r := fun r => by
    rw [hsz₇.has, Store.has_clone hz₆, hf₅.zfs, hhas₄, hzfs₃]
  have hclone : (⟨m.datasetPath, E.uuid w₀.drawn⟩ : ZvolName) ∈ w₇.zfs.names := by
    rw [hsz₇.names, Store.names_clone hz₆]
    exact .inl rfl
  refine hmid₇.dbCmd hX fun _ db w₈ hvdi hwork₈ hf₈ hmid₈ => ?_
  split at hvdi
  · next db' hdb =>
    cases hvdi
    have hdrawn₈ : w₈.drawn = w₄.drawn := by
      rw [hf₈.drawn, hsz₇.sameDb.drawn, hs₆.drawn, hf₅.drawn]
    refine ⟨hmid₈, fun w₉ hc => wp_getZvolUsedBytes (hmid₈.success hc
      ⟨o, fun s hs => hdrawn₈ ▸ (ho s hs).1, fun s => ?_⟩ fun v hv => ?_)⟩
    · rw [hf₈.zfs, hhas₇]
    · rw [hwork₈] at hv
      rw [hsz₇.sameDb.work, hs₆.work, hwork₅] at hdb
      rw [hf₈.zfs]
      rcases (Metabase.mem_vdis_insertBoth hdb).1 hv with rfl | hmem
      · refine .inr ⟨fun m' hm' => ?_, ?_, fun _ n hn => ?_⟩
        · obtain rfl : m = m' := Option.some.inj (hm.symm.trans hm')
          exact ⟨hclone, by simp [VolumeRow.join], by simp [VolumeRow.join]⟩
        · exact hnew.mono (by rw [hdrawn₈, ← hdrawn₃]; exact hdrawn₄)
        · rcases (hhas₇ _).1 hn with h | h
          · exact hsnap _ h rfl
          · -- the hidden snapshot has a uuid of its own
            have hid := E.uuid_injective ((ho _ h).2 : E.uuid w₀.drawn = E.uuid w₃.drawn)
            omega
      · exact .inl (hold₃ v ((hrows₄ v).1 hmem))
  · cases hvdi

/-! ### `resize` -/

theorem wp_volSyncThickRefreservation {n : ZvolName} {Q : Unit → World → Prop} (hT : Tidy E w₀)
    (h : Mid E w₀ w) (hX : ∀ e w', Mid E w₀ w' → X e w')
    (hQ : ∀ w', Mid E w₀ w' → w.Sized w' → Q () w') :
    wp (volSyncThickRefreservation E n) Q X w := by
  rw [volSyncThickRefreservation, wp_bind]
  refine h.zfsGet hX fun refreservation w₁ _ hs₁ hmid₁ => ?_
  rw [wp_ite]
  refine ⟨fun _ => ?_, fun _ => hQ w₁ hmid₁ hs₁.sized⟩
  simp only [wp_bind]
  refine hmid₁.zfsGet hX fun volsize w₂ _ hs₂ hmid₂ => ?_
  refine hmid₂.zfsGet hX fun copies w₃ _ hs₃ hmid₃ => ?_
  have hsz₃ := ((hs₁.trans hs₂).trans hs₃).sized
  rw [wp_ite]
  refine ⟨fun _ => ?_, fun _ => hQ w₃ hmid₃ hsz₃⟩
  exact hmid₃.setSizes hT (fun _ => ⟨rfl, rfl, rfl⟩) hX fun w₄ hmid₄ hsz₄ => hQ w₄ hmid₄ (hsz₃.trans hsz₄)

/-- A committed transaction that has changed sizes only. -/
theorem Mid.committed_old {sr : String} {w' : World} (h : Mid E w₀ w) (hc : w.Committed sr w')
    (hold : ∀ v ∈ w.work.vdis, Old (w₀.db sr) v) : Mid E w₀ w' := by
  rw [Mid, hc.zfs, hc.db, hc.drawn]
  refine ⟨h.1, fun sr' v hv => ?_⟩
  by_cases hsr : sr' = sr
  · subst hsr
    exact hold v (by simpa using hv)
  · exact h.2 sr' v (by simpa [hsr] using hv)

theorem Old.of_update {db db₀ : Metabase} {id : ℕ} {x : Option ℕ}
    (hold : ∀ v ∈ db.vdis, Old db₀ v) : ∀ v ∈ (db.updateVolumeVsize id x).vdis, Old db₀ v := by
  intro v hv
  obtain ⟨v', hv', huuid, hsn⟩ := Metabase.exists_of_mem_updateVolumeVsize hv
  obtain ⟨v₀, hv₀, huuid₀, hsn₀⟩ := hold v' hv'
  exact ⟨v₀, hv₀, huuid₀.trans huuid, hsn₀.trans hsn⟩

theorem wp_resizeFirst {sr key : String} {ds : List String} {new_size : ℕ}
    {Q : Vdi → World → Prop} (h : Mid E w₀ w) (hX : ∀ e w', Mid E w₀ w' → X e w')
    (hQ : ∀ vdi w', Mid E w₀ w' → w'.zfs = w.zfs → Q vdi w') :
    wp (resizeFirst E sr ds key new_size) Q X w := by
  refine h.dbContext hX fun w₁ hf₁ hmid₁ hwork₁ hold => ?_
  refine hmid₁.lookup hold hX fun vdi w₂ hmid₂ hf₂ hold₂ => ?_
  rw [wp_ite]
  refine ⟨fun _ => hX _ _ hmid₂, fun _ => ?_⟩
  rw [wp_bind]
  refine hmid₂.dbCmd hX fun _ db w₃ hup hwork₃ hf₃ hmid₃ => ?_
  cases hup
  refine ⟨hmid₃, fun w₄ hc => hQ _ _ (hmid₃.committed_old hc (hwork₃ ▸ Old.of_update hold₂)) ?_⟩
  rw [hc.zfs, hf₃.zfs, hf₂.zfs, hf₁.zfs]

/-- The zvol of a call is resized before anything else is done to the store. -/
theorem wp_resizeZvol {n : ZvolName} {new_size : ℕ} {Q : Unit → World → Prop} (h : Mid E w₀ w)
    (hzfs : w.zfs = w₀.zfs) (hX : ∀ e w', Mid E w₀ w' → X e w')
    (hQ : ∀ w', Mid E w₀ w' → w.Sized w' → Q () w') : wp (resizeZvol E n new_size) Q X w := by
  refine h.zfsCmd hX fun w' hz hs => ?_
  have hgrowth : Growth E w₀ w'.zfs w.drawn := (hzfs ▸ h.1).setVolsize (hzfs ▸ hz)
  have hset := (Store.setVolsize_ok hz).2
  exact hQ w' (h.of_growth hs hgrowth)
    ⟨hs, fun _ => Store.names_setProps hset, fun _ => Store.has_setProps hset⟩

theorem wp_resize (hT : Tidy E w₀) (sr key : String) (new_size : ℕ) :
    wp (resize E sr key new_size) (fun _ w => Outcome E w₀ w) (fun _ w => Outcome E w₀ w) w₀ := by
  have hstart := Mid.refl hT
  have hX : ∀ (e : VolError) w', Mid E w₀ w' → Outcome E w₀ w' := fun _ _ h => h.outcome
  rw [resize, wp_bind]
  refine wp_getSrMetadata (fun _ => hstart.outcome) fun m hm => ?_
  rw [wp_bind]
  refine wp_resizeFirst hstart hX fun vdi w₁ hmid₁ hzfs₁ => ?_
  refine hmid₁.dbContext hX fun w₂ hf₂ hmid₂ hwork₂ hold => ?_
  simp only [wp_bind, recordSize]
  refine wp_resizeZvol hmid₂ (hf₂.zfs.trans hzfs₁) hX fun w₃ hmid₃ hsz₃ => ?_
  refine hmid₃.zfsGet hX fun vsize w₄ _ hs₄ hmid₄ => ?_
  refine hmid₄.dbCmd hX fun _ db w₅ hup hwork₅ hf₅ hmid₅ => ?_
  cases hup
  refine wp_volSyncThickRefreservation hT hmid₅ hX fun w₆ hmid₆ hsz₆ => ?_
  refine ⟨hmid₆, fun w₇ hc => (hmid₆.committed_old hc ?_).outcome⟩
  rw [hsz₆.sameDb.work, hwork₅, hs₄.work, hsz₃.sameDb.work]
  exact Old.of_update hold

/-! ### `copy` -/

/-- A step of the clean-up ends well, whatever happens to it. -/
theorem wp_attempt {m : VolM Unit} {Q : Unit → World → Prop}
    (h : wp m Q (fun _ w' => Q () w') w) : wp (attempt m) Q X w := by
  rw [attempt, wp_tryCatch]
  exact h

/-- The object has a name that the call drew. -/
def ZfsObject.IsNew (E : Env) (w₀ : World) (k : ℕ) : ZfsObject → Prop
  | .zvol n => New E w₀ k n.vol
  | .snap s => New E w₀ k s.id

theorem Mid.destroyZvol {object : ZfsObject} {Q : Unit → World → Prop} (hT : Tidy E w₀)
    (h : Mid E w₀ w) (hnew : object.IsNew E w₀ w.drawn)
    (hX : ∀ e w', Mid E w₀ w' → w'.drawn = w.drawn → X e w')
    (hQ : ∀ w', Mid E w₀ w' → w'.drawn = w.drawn → object.destroy w.zfs = .ok w'.zfs → Q () w') :
    wp (destroyZvol E object) Q X w := by
  refine wp_destroyZvol (fun _ _ hs => hX _ _ (h.of_same hs) hs.drawn)
    (fun _ _ _ hs => hX _ _ (h.of_same hs) hs.drawn) fun w' hz hd => hQ w' ?_ hd.drawn hz
  rw [Mid, hd.db, hd.drawn]
  refine ⟨?_, h.2⟩
  rcases object with n | s
  · exact h.1.destroy hT hnew hz
  · exact h.1.destroySnap hT hnew hz

/-- A step of the clean-up: destroy something that the call made, if it is still there. -/
theorem wp_attempt_destroyIf {n : ZvolName} {object : ZfsObject} {Q : Unit → World → Prop}
    (hT : Tidy E w₀) (h : Mid E w₀ w) (hnew : object.IsNew E w₀ w.drawn)
    (hQ : ∀ w', Mid E w₀ w' → w'.drawn = w.drawn → Q () w') :
    wp (attempt (do if ← volExists E n then Volume.destroyZvol E object)) Q X w := by
  refine wp_attempt ?_
  rw [wp_bind]
  refine wp_volExists (fun _ w₁ hs₁ => hQ w₁ (h.of_same hs₁) hs₁.drawn) fun w₁ hs₁ => ?_
  have hmid₁ := h.of_same hs₁
  rw [wp_ite]
  refine ⟨fun _ => ?_, fun _ => hQ w₁ hmid₁ hs₁.drawn⟩
  exact hmid₁.destroyZvol hT (hs₁.drawn ▸ hnew) (fun _ w₂ h₂ hd => hQ w₂ h₂ (hd.trans hs₁.drawn))
    fun w₂ h₂ hd _ => hQ w₂ h₂ (hd.trans hs₁.drawn)

/-- The target of a copy is there after the transfer, in another pool with its snapshot. -/
theorem wp_transfer {same_pool : Bool} {s : SnapName} {n : ZvolName} {Q : Unit → World → Prop}
    (hT : Tidy E w₀) (h : Mid E w₀ w) (hn : New E w₀ w.drawn n.vol) (hs : New E w₀ w.drawn s.id)
    (hX : ∀ e w', Mid E w₀ w' → w'.drawn = w.drawn → X e w')
    (hQ : ∀ w', Mid E w₀ w' → w'.drawn = w.drawn → n ∈ w'.zfs.names →
      (∀ r, w'.zfs.Has r ↔ w.zfs.Has r ∨ same_pool = false ∧ r = ⟨n, s.id⟩) → Q () w') :
    wp (transfer E same_pool s n) Q X w := by
  rw [transfer, wp_ite]
  constructor
  · intro hpool
    simp only [cloneSnapshot, wp_bind, wp_pure]
    refine wp_zfsCmd (fun _ _ hs => hX _ _ (h.of_same hs) hs.drawn)
      (fun _ _ _ hs => hX _ _ (h.of_same hs) hs.drawn) fun w₁ hz hsd => ?_
    refine hQ w₁ (h.of_growth hsd (h.1.clone hT hn hz)) hsd.drawn
      ((Store.names_clone hz).2 (.inl rfl)) fun r => ?_
    simp [Store.has_clone hz, hpool]
  · intro hpool
    have hpool : same_pool = false := by simpa using hpool
    rw [wp, volSendReceive]
    by_cases hfault : E.fault w.clock ∧ E.received w.clock
    · -- the sending side failed
      rw [if_pos hfault]
      rcases hz : w.zfs.receive s n with e | z
      · exact hX _ _ (h.of_same w.same_tick) rfl
      · exact hX _ { w.tick with zfs := z } ⟨h.1.receive hT hn hs hz, h.2⟩ rfl
    · have hcmd : wp (Volume.zfsCmd E fun z => z.receive s n) Q X w := by
        refine wp_zfsCmd (fun _ _ hs => hX _ _ (h.of_same hs) hs.drawn)
          (fun _ _ _ hs => hX _ _ (h.of_same hs) hs.drawn) fun w₁ hz hsd => ?_
        refine hQ w₁ (h.of_growth hsd (h.1.receive hT hn hs hz)) hsd.drawn
          ((Store.names_receive hz).2 (.inl rfl)) fun r => ?_
        simp [Store.has_receive hz, hpool]
      rw [if_neg hfault]
      exact hcmd

theorem wp_keepThick {src_thick : Bool} {n : ZvolName} {Q : Unit → World → Prop} (hT : Tidy E w₀)
    (h : Mid E w₀ w) (hX : ∀ e w', Mid E w₀ w' → X e w')
    (hQ : ∀ w', Mid E w₀ w' → w.Sized w' → Q () w') : wp (keepThick E src_thick n) Q X w := by
  rw [keepThick, wp_ite]
  exact ⟨fun _ => wp_volSetThickRefreservation hT h hX hQ,
    fun _ => hQ w h ⟨⟨rfl, rfl, rfl, rfl, rfl⟩, fun _ => Iff.rfl, fun _ => Iff.rfl⟩⟩

theorem wp_keepThick_drawn (src_thick : Bool) (n : ZvolName) :
    wp (keepThick E src_thick n) (fun _ w' => w'.drawn = w.drawn)
      (fun _ w' => w'.drawn = w.drawn) w := by
  rw [keepThick, wp_ite]
  refine ⟨fun _ => ?_, fun _ => rfl⟩
  simp only [volSetThickRefreservation, wp_bind]
  refine wp_zfsGet (fun _ _ hs => hs.drawn) (fun _ _ _ hs => hs.drawn) fun _ w₁ _ hs₁ => ?_
  refine wp_zfsGet (fun _ _ hs => hs.drawn.trans hs₁.drawn)
    (fun _ _ _ hs => hs.drawn.trans hs₁.drawn) fun _ w₂ _ hs₂ => ?_
  have hdrawn := hs₂.drawn.trans hs₁.drawn
  exact wp_zfsCmd (fun _ _ hs => hs.drawn.trans hdrawn) (fun _ _ _ hs => hs.drawn.trans hdrawn)
    fun _ _ hs => hs.drawn.trans hdrawn

theorem wp_replicate {same_pool src_thick : Bool} {s : SnapName} {n : ZvolName}
    {Q : Unit → World → Prop} (hT : Tidy E w₀) (h : Mid E w₀ w) (hn : New E w₀ w.drawn n.vol)
    (hs : New E w₀ w.drawn s.id) (hX : ∀ e w', Mid E w₀ w' → X e w')
    (hQ : ∀ w', Mid E w₀ w' → w'.drawn = w.drawn → n ∈ w'.zfs.names →
      (∀ r, w'.zfs.Has r ↔ w.zfs.Has r ∨ same_pool = false ∧ r = ⟨n, s.id⟩) → Q () w') :
    wp (replicate E same_pool src_thick s n) Q X w := by
  -- whatever raises, the clean-up starts in the middle of the call
  have hclean : ∀ (e : VolError) w', Mid E w₀ w' → w'.drawn = w.drawn →
      wp (do
        attempt (destroyIfExists E n)
        attempt (Volume.destroyZvol E (.snap s))
        throw e) Q X w' := by
    intro e w₁ hmid₁ hd₁
    rw [wp_bind]
    refine wp_attempt_destroyIf hT hmid₁ (hd₁ ▸ hn) fun w₂ hmid₂ hd₂ => ?_
    rw [wp_bind]
    refine wp_attempt ?_
    have hnew : (ZfsObject.snap s).IsNew E w₀ w₂.drawn := hd₂ ▸ hd₁ ▸ hs
    exact hmid₂.destroyZvol hT hnew (fun _ _ h₃ _ => hX _ _ h₃) fun _ h₃ _ _ => hX _ _ h₃
  rw [replicate, wp_tryCatch, wp_bind]
  refine wp_transfer hT h hn hs hclean fun w₁ hmid₁ hd₁ hn₁ hhas₁ => ?_
  have hthick : wp (keepThick E src_thick n) (fun _ w' => Mid E w₀ w' ∧ w₁.Sized w')
      (fun _ w' => Mid E w₀ w') w₁ :=
    wp_keepThick hT hmid₁ (fun _ _ h => h) fun _ h hsz => ⟨h, hsz⟩
  refine wp_mono (wp_and hthick (wp_keepThick_drawn src_thick n)) (fun _ w₂ h₂ => ?_)
    fun e w₂ h₂ => hclean e w₂ h₂.1 (h₂.2.trans hd₁)
  obtain ⟨⟨hmid₂, hsz⟩, hd₂⟩ := h₂
  exact hQ w₂ hmid₂ (hd₂.trans hd₁) ((hsz.names n).2 hn₁) fun r => (hsz.has r).trans (hhas₁ r)

theorem wp_dropTransients {s r : SnapName} {Q : Unit → World → Prop} (hT : Tidy E w₀)
    (h : Mid E w₀ w) (hs : New E w₀ w.drawn s.id) (hr : New E w₀ w.drawn r.id)
    (hrz : New E w₀ w.drawn r.zvol.vol) (hX : ∀ e w', Mid E w₀ w' → X e w')
    (hQ : ∀ w', Mid E w₀ w' → w'.drawn = w.drawn → (∀ n, n ∈ w'.zfs.names ↔ n ∈ w.zfs.names) →
      (∀ q, w'.zfs.Has q ↔ w.zfs.Has q ∧ q ≠ s ∧ q ≠ r) → Q () w') :
    wp (dropTransients E s r) Q X w := by
  have hclean : ∀ (e : VolError) w', Mid E w₀ w' → w'.drawn = w.drawn →
      wp (do
        attempt (destroyIfExists E r.zvol)
        attempt (dropSnapshot E s)
        attempt (dropSnapshot E r)
        throw e) Q X w' := by
    intro e w₁ hmid₁ hd₁
    rw [wp_bind]
    refine wp_attempt_destroyIf hT hmid₁ (hd₁ ▸ hrz) fun w₂ hmid₂ hd₂ => ?_
    rw [wp_bind]
    refine wp_attempt_destroyIf hT hmid₂ (hd₂ ▸ hd₁ ▸ hs) fun w₃ hmid₃ hd₃ => ?_
    rw [wp_bind]
    exact wp_attempt_destroyIf hT hmid₃ (hd₃ ▸ hd₂ ▸ hd₁ ▸ hr) fun w₄ hmid₄ _ => hX _ _ hmid₄
  rw [dropTransients, wp_tryCatch, wp_bind]
  refine h.destroyZvol hT hs hclean fun w₁ hmid₁ hd₁ hz₁ => ?_
  refine hmid₁.destroyZvol hT (hd₁ ▸ hr) (fun e w₂ h₂ hd₂ => hclean e w₂ h₂ (hd₂.trans hd₁))
    fun w₂ hmid₂ hd₂ hz₂ => ?_
  refine hQ w₂ hmid₂ (hd₂.trans hd₁) (fun n => ?_) fun q => ?_
  · rw [Store.names_destroySnap hz₂, Store.names_destroySnap hz₁]
  · rw [Store.has_destroySnap hz₂, Store.has_destroySnap hz₁, and_assoc]

/-- The last transaction of `copy`: the VDI of the new zvol is put into the destination. -/
theorem wp_registerCopy {dest_sr u : String} {dm : SrMeta} {vdi : Vdi} {o : Option SnapName}
    (hm : E.srMeta dest_sr = some dm) (hmid : Mid E w₀ w) (hu : New E w₀ w.drawn u)
    (hname : (⟨dm.datasetPath, u⟩ : ZvolName) ∈ w.zfs.names)
    (hsnap : ∀ q, w₀.zfs.Has q → q.id ≠ u)
    (ho : ∀ s, o = some s → New E w₀ w.drawn s.id ∧ s.id ≠ u)
    (hhas : ∀ q, w.zfs.Has q ↔ w₀.zfs.Has q ∨ o = some q) :
    wp (do
      dbContext E dest_sr do
        let volume_id ← insertNewVolume E (vdi.vsize.getD 0)
        insertVdi E ⟨u, vdi.name, vdi.description, vdi.sharable⟩ volume_id
        updateVolumeVsize E volume_id vdi.vsize
      let used ← getZvolUsedBytes E (.zvol ⟨dm.datasetPath, u⟩)
      return (⟨u, vdi.name, vdi.description, true, vdi.vsize, used⟩ : VolInfo))
      (fun _ w => Success E w₀ w) (fun _ w => Outcome E w₀ w) w := by
  have hX : ∀ (e : VolError) w', Mid E w₀ w' → Outcome E w₀ w' := fun _ _ h => h.outcome
  rw [wp_bind]
  refine hmid.dbContext hX fun w₁ hf₁ hmid₁ _ hold₁ => ?_
  simp only [wp_bind]
  refine hmid₁.dbCmd hX fun id db w₂ hins hwork₂ hf₂ hmid₂ => ?_
  cases hins
  refine hmid₂.dbCmd hX fun _ db w₃ hvdi hwork₃ hf₃ hmid₃ => ?_
  split at hvdi
  · next db' hdb =>
    cases hvdi
    refine hmid₃.dbCmd hX fun _ db w₄ hup hwork₄ hf₄ hmid₄ => ?_
    cases hup
    have hzfs₄ : w₄.zfs = w.zfs := by rw [hf₄.zfs, hf₃.zfs, hf₂.zfs, hf₁.zfs]
    have hdrawn₄ : w₄.drawn = w.drawn := by rw [hf₄.drawn, hf₃.drawn, hf₂.drawn, hf₁.drawn]
    refine ⟨hmid₄, fun w₅ hc => wp_getZvolUsedBytes (hmid₄.success hc
      ⟨o, fun s hs => hdrawn₄ ▸ (ho s hs).1, fun s => hzfs₄ ▸ hhas s⟩ fun v hv => ?_)⟩
    rw [hwork₄] at hv
    obtain ⟨v', hv', huuid, hsn⟩ := Metabase.exists_of_mem_updateVolumeVsize hv
    rw [hwork₃] at hv'
    rw [hwork₂] at hdb
    rw [hzfs₄]
    rcases (Metabase.mem_vdis_insertBoth hdb).1 hv' with rfl | hmem
    · have hvu : v.uuid = u := huuid.symm
      have hsnapv : v.snap = false := hsn.symm
      refine .inr ⟨fun m' hm' => ?_, hvu ▸ hdrawn₄ ▸ hu, fun _ n hn => ?_⟩
      · obtain rfl : dm = m' := Option.some.inj (hm.symm.trans hm')
        exact ⟨by rw [hvu]; exact hname, by simp [hsnapv], by simp [hsnapv]⟩
      · rw [hvu] at hn
        rcases (hhas _).1 hn with h | h
        · exact hsnap _ h rfl
        · exact (ho _ h).2 rfl
    · obtain ⟨v₀, hv₀, huuid₀, hsn₀⟩ := hold₁ v' hmem
      exact .inl ⟨v₀, hv₀, huuid₀.trans huuid, hsn₀.trans hsn⟩
  · cases hvdi

theorem wp_copy (hT : Tidy E w₀) (sr key dest_sr : String) :
    wp (copy E sr key dest_sr) (fun _ w => Success E w₀ w) (fun _ w => Outcome E w₀ w) w₀ := by
  have hstart := Mid.refl hT
  have hX : ∀ (e : VolError) w', Mid E w₀ w' → Outcome E w₀ w' := fun _ _ h => h.outcome
  rw [copy, wp_bind]
  refine wp_getSrMetadata (fun _ => hstart.outcome) fun m hm => ?_
  rw [wp_bind, getDestMetadata]
  rcases hd : E.srMeta dest_sr with _ | dm
  · exact hstart.outcome
  simp only [wp_pure]
  generalize (decide (m.zpool = dm.zpool)) = same_pool
  obtain ⟨hnew, _, hsnap⟩ := hstart.1.next_new hT
  rw [wp_bind]
  refine wp_uuid4 fun w₁ hd₁ => ?_
  have hmid₁ := hstart.of_drew hd₁
  have hnew₂ := (hmid₁.1.next_new hT).1
  rw [wp_bind]
  refine wp_uuid4 fun w₂ hd₂ => ?_
  have hmid₂ := hmid₁.of_drew hd₂
  have hdrawn₂ : w₂.drawn = w₀.drawn + 2 := by rw [hd₂.drawn, hd₁.drawn]
  have htoken : E.uuid w₁.drawn ≠ E.uuid w₀.drawn := fun heq => by
    have := E.uuid_injective heq
    rw [hd₁.drawn] at this
    omega
  -- the source
  rw [wp_bind]
  refine hmid₂.dbContext hX fun w₃ hf₃ hmid₃ _ hold₃ => ?_
  rw [← bind_pure (getVdiById E key >>= _), bind_assoc]
  refine hmid₃.lookup hold₃ hX fun vdi w₄ hmid₄ hf₄ hold₄ => ?_
  refine ⟨hmid₄, fun w₅ hc₅ => ?_⟩
  have hmid₅ := hmid₄.committed_old hc₅ hold₄
  have hzfs₅ : w₅.zfs = w₀.zfs := by rw [hc₅.zfs, hf₄.zfs, hf₃.zfs, hd₂.zfs, hd₁.zfs]
  have hdrawn₅ : w₅.drawn = w₀.drawn + 2 := by rw [hc₅.drawn, hf₄.drawn, hf₃.drawn, hdrawn₂]
  have hdest : New E w₀ (w₀.drawn + 2) (E.uuid w₀.drawn) := hnew.mono (by omega)
  have htok : New E w₀ (w₀.drawn + 2) (E.uuid w₁.drawn) := hnew₂.mono (by rw [hd₁.drawn])
  rw [wp_bind]
  refine hmid₅.zfsCmd hX fun w₆ hz₆ hs₆ => ?_
  have hmid₆ := hmid₅.of_growth hs₆ (hmid₅.1.snapshot (hdrawn₅ ▸ htok) hz₆)
  rw [wp_bind]
  refine hmid₆.zfsGet hX fun refreservation w₇ _ hs₇ hmid₇ => ?_
  have hdrawn₇ : w₇.drawn = w₀.drawn + 2 := by rw [hs₇.drawn, hs₆.drawn, hdrawn₅]
  -- the replication
  rw [wp_bind]
  refine wp_replicate hT hmid₇ (hdrawn₇ ▸ hdest) (hdrawn₇ ▸ htok) hX
    fun w₈ hmid₈ hdrawn₈ hname₈ hhas₈ => ?_
  have hhas₈ : ∀ q, w₈.zfs.Has q ↔ (w₀.zfs.Has q ∨ q = ⟨⟨m.datasetPath, key⟩, E.uuid w₁.drawn⟩) ∨
      same_pool = false ∧ q = ⟨⟨dm.datasetPath, E.uuid w₀.drawn⟩, E.uuid w₁.drawn⟩ := fun q => by
    rw [hhas₈, hs₇.zfs, Store.has_snapshot hz₆, hzfs₅]
  have hdrawn₈ : w₈.drawn = w₀.drawn + 2 := hdrawn₈.trans hdrawn₇
  -- what is left of the snapshots
  rw [wp_bind, finishReplication, wp_ite]
  constructor
  · intro hpool
    refine wp_registerCopy (o := some ⟨⟨m.datasetPath, key⟩, E.uuid w₁.drawn⟩) hd hmid₈
      (hdrawn₈ ▸ hdest) hname₈ hsnap (fun s hs => ?_) fun q => ?_
    · cases hs
      exact ⟨hdrawn₈ ▸ htok, htoken⟩
    · simp [hhas₈, hpool, eq_comm]
  · intro hpool
    have hpool : same_pool = false := by simpa using hpool
    refine wp_dropTransients hT hmid₈ (hdrawn₈ ▸ htok) (hdrawn₈ ▸ htok) (hdrawn₈ ▸ hdest) hX
      fun w₉ hmid₉ hdrawn₉ hnames₉ hhas₉ => ?_
    refine wp_registerCopy (o := none) hd hmid₉ (hdrawn₉ ▸ hdrawn₈ ▸ hdest) ((hnames₉ _).2 hname₈)
      hsnap (fun s hs => by cases hs) fun q => ?_
    have hold : w₀.zfs.Has q → q.id ≠ E.uuid w₁.drawn := fun hq heq =>
      hT.snap_ne q hq w₁.drawn (by rw [hd₁.drawn]; omega) heq
    rw [hhas₉, hhas₈]
    simp only [hpool, true_and, reduceCtorEq, or_false]
    constructor
    · rintro ⟨(hq | hq) | hq, hne, hne'⟩
      · exact hq
      · exact absurd hq hne
      · exact absurd hq hne'
    · intro hq
      refine ⟨.inl (.inl hq), fun heq => hold hq ?_, fun heq => hold hq ?_⟩ <;> rw [heq]

end Volume

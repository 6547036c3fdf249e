/-
**What a zvol holds is written by its users only.**

The calls of the volume driver make, promote, rename in effect, and destroy zvols and snapshots, and each
of them can be cut short at any command.  Whatever is called in whatever order, on however many
repositories, a zvol that is there at the beginning and at the end of a run holds what it held, and on
top of it what was written to it in between; and what a snapshot holds never changes, with whichever zvol
it is by then.

Main definitions:

* `Volume.Carries` — what a part of a run leaves of the zvols and the snapshots there were;
* `Volume.runHost` — runs on all repositories of a host;
* `Volume.writtenTo` — the bytes that the users of a zvol write.

Main results:

* `Volume.carries_destroy` — `destroy`, however it ends;
* `Volume.Carries.run` — a run, event by event;
* `Volume.isolated_run` — **the content of zvols and snapshots over whole runs**.
-/

import Mathlib.Data.List.Infix
import ZfsLive.VolumeRuns

set_option relaxedAutoImplicit false
set_option autoImplicit false

namespace Volume

open Zfs Wp

/-! ### What a program carries over -/

/-- The content `c` is a part of `d`, and has all of it that lies before `low`. -/
structure Holding (low : ℕ) (c d : Content) : Prop where
  sublist : c.Sublist d
  before : below low c = below low d

theorem Holding.refl (low : ℕ) (c : Content) : Holding low c c := ⟨.refl c, rfl⟩

theorem Holding.trans {low : ℕ} {c d e : Content} (h : Holding low c d) (h' : Holding low d e) :
    Holding low c e := ⟨h.sublist.trans h'.sublist, h.before.trans h'.before⟩

theorem Holding.append {low : ℕ} {c d c' d' : Content} (h : Holding low c d) (h' : Holding low c' d') :
    Holding low (c ++ c') (d ++ d') :=
  ⟨h.sublist.append h'.sublist, by rw [below_append, below_append, h.before, h'.before]⟩

/-- What was cut at the end of a zvol. -/
theorem Holding.below {low size : ℕ} (h : low ≤ size) (c : Content) : Holding low (below size c) c :=
  ⟨below_sublist size c, below_below h c⟩

/-- A zvol that survives is as read-only as it was.  It holds nothing but what it held and what was written
to it, the latter on top, and all of this that lies before `low`, an offset before which it never ended.
A zvol or a snapshot that was not there has a uuid that was drawn since.  A snapshot can be with another
zvol than it was. -/
structure Carries (E : Env) (low : ZvolName → ℕ) (written : ZvolName → Content) (w w' : World) :
    Prop where
  wf : WF w'.zfs
  drawn_le : w.drawn ≤ w'.drawn
  new_names : ∀ n ∈ w'.zfs.names, n ∈ w.zfs.names ∨ New E w w'.drawn n.vol
  readonly : ∀ n ∈ w.zfs.names, n ∈ w'.zfs.names →
    (w'.zfs.zvol n).props.readonly = (w.zfs.zvol n).props.readonly
  content : ∀ n ∈ w.zfs.names, n ∈ w'.zfs.names → Holding (low n) (w'.zfs.zvol n).props.content
    ((if (w.zfs.zvol n).props.readonly then [] else written n) ++ (w.zfs.zvol n).props.content)
  snaps : ∀ n t, w'.zfs.Owns n t → (∃ m, w.zfs.Owns m t) ∨ New E w w'.drawn t.id

/-- Nothing is written. -/
def nothing : ZvolName → Content := fun _ => []

variable {E : Env} {w w₁ w' : World} {z : Store} {k : ℕ} {n : ZvolName} {s : SnapName}
  {low : ZvolName → ℕ} {first second : ZvolName → Content} {α : Type}

/-- A uuid that was drawn in a part of a run was drawn in the run. -/
theorem New.of_le {k' : ℕ} {u : String} (hu : New E w₁ k u) (hw : w.drawn ≤ w₁.drawn) (hk : k ≤ k') :
    New E w k' u := by
  obtain ⟨j, hj, hjk, rfl⟩ := hu
  exact ⟨j, hw.trans hj, hjk.trans_le hk, rfl⟩

namespace Carries

/-- The uuids to come clash with nothing afterwards either. -/
theorem tidy (hT : Tidy E w) (h : Carries E low first w w') : Tidy E w' where
  wf := h.wf
  vol_ne := by
    intro n hn j hj heq
    rcases h.new_names n hn with hn | ⟨i, _, hi, hni⟩
    · exact hT.vol_ne n hn j (h.drawn_le.trans hj) heq
    · have := E.uuid_injective (hni.symm.trans heq)
      omega
  snap_ne := by
    rintro ⟨n, id⟩ hs j hj heq
    obtain ⟨t, ht, rfl⟩ := Store.has_iff_owns.1 hs
    rcases h.snaps n t ht with ⟨m, hm⟩ | ⟨i, _, hi, hni⟩
    · exact hT.snap_ne ⟨m, t.id⟩ (Store.has_iff_owns.2 ⟨t, hm, rfl⟩) j (h.drawn_le.trans hj) heq
    · have := E.uuid_injective (hni.symm.trans heq)
      omega

/-- **One part of a run after the other.**  A zvol that is there at both ends is there in between, since
nothing is made under an old name. -/
theorem trans (hT : Tidy E w) (h : Carries E low first w w₁) (h' : Carries E low second w₁ w') :
    Carries E low (fun n => second n ++ first n) w w' := by
  have hbetween : ∀ n ∈ w.zfs.names, n ∈ w'.zfs.names → n ∈ w₁.zfs.names := fun n hn hn' =>
    (h'.new_names n hn').resolve_right fun hnew =>
      hT.not_mem_of_new (hnew.of_le h.drawn_le (Nat.le_refl _)) hn
  refine ⟨h'.wf, h.drawn_le.trans h'.drawn_le, fun n hn => ?_, fun n hn hn' => ?_,
    fun n hn hn' => ?_, fun n t ht => ?_⟩
  · rcases h'.new_names n hn with hn | hnew
    · exact (h.new_names n hn).imp_right fun hnew => hnew.mono h'.drawn_le
    · exact .inr (hnew.of_le h.drawn_le (Nat.le_refl _))
  · have hn₁ := hbetween n hn hn'
    exact (h'.readonly n hn₁ hn').trans (h.readonly n hn hn₁)
  · have hn₁ := hbetween n hn hn'
    have hcontent := h.content n hn hn₁
    refine (h'.content n hn₁ hn').trans ?_
    rw [h.readonly n hn hn₁]
    split
    · next hro =>
      rw [if_pos hro] at hcontent
      exact hcontent
    · next hro =>
      rw [if_neg hro] at hcontent
      rw [List.append_assoc]
      exact (Holding.refl _ _).append hcontent
  · rcases h'.snaps n t ht with ⟨m, hm⟩ | hnew
    · exact (h.snaps m t hm).imp_right fun hnew => hnew.mono h'.drawn_le
    · exact .inr (hnew.of_le h.drawn_le (Nat.le_refl _))

/-- A command that makes nothing and changes no property. -/
theorem of_props (hwf : WF w'.zfs) (hdrawn : w.drawn ≤ w'.drawn)
    (hnames : ∀ n ∈ w'.zfs.names, n ∈ w.zfs.names)
    (hprops : ∀ n, (w'.zfs.zvol n).props = (w.zfs.zvol n).props)
    (hsnaps : ∀ n t, w'.zfs.Owns n t → ∃ m, w.zfs.Owns m t) : Carries E low nothing w w' where
  wf := hwf
  drawn_le := hdrawn
  new_names := fun n hn => .inl (hnames n hn)
  readonly := fun n _ _ => congrArg Props.readonly (hprops n)
  content := fun n _ _ => by
    rw [hprops n, nothing, ite_self, List.nil_append]
    exact .refl _ _
  snaps := fun n t ht => .inl (hsnaps n t ht)

theorem of_zfs (hT : Tidy E w) (hzfs : w'.zfs = w.zfs) (hdrawn : w.drawn ≤ w'.drawn) :
    Carries E low nothing w w' :=
  .of_props (hzfs ▸ hT.wf) hdrawn (fun _ hn => hzfs ▸ hn) (fun _ => by rw [hzfs])
    fun n _ ht => ⟨n, hzfs ▸ ht⟩

theorem promote (hT : Tidy E w) (hok : w.zfs.promote n = .ok w'.zfs) (hdrawn : w.drawn ≤ w'.drawn) :
    Carries E low nothing w w' := by
  have hwf := hT.wf.promote hok
  obtain ⟨hn, s, hs, _, hzfs⟩ := Store.promote_ok hok
  have hhas := hT.wf.origin_has n hn s hs
  refine .of_props hwf hdrawn (fun m hm => by rwa [hzfs] at hm) (fun m => ?_) fun m t ht => ?_
  · rw [hzfs, Store.zvol_turned, Store.props_promoted]
  · -- a snapshot of the clone or of its origin was with one of the two
    rw [hzfs] at ht
    have hmem := ht.2
    rw [Store.zvol_turned, Store.promoted] at hmem
    split at hmem
    · rcases List.mem_append.1 hmem with hmem | hmem
      · exact ⟨s.zvol, hhas.1, List.mem_of_mem_take hmem⟩
      · exact ⟨n, hn, hmem⟩
    · split at hmem
      · exact ⟨s.zvol, hhas.1, List.mem_of_mem_drop hmem⟩
      · exact ⟨m, ht.1, hmem⟩

theorem destroy {object : ZfsObject} (hT : Tidy E w) (hok : object.destroy w.zfs = .ok w'.zfs)
    (hdrawn : w.drawn ≤ w'.drawn) : Carries E low nothing w w' := by
  cases object with
  | zvol n =>
      refine .of_props (hT.wf.destroy hok) hdrawn (fun m hm => ((Store.names_destroy hok).1 hm).1)
        (fun m => ?_) fun m t ht => ⟨m, (Store.owns_destroy hok).1 ht⟩
      obtain ⟨_, _, _, hzfs⟩ := Store.destroy_ok hok
      rw [hzfs]
  | snap s =>
      exact .of_props (hT.wf.destroySnap hok) hdrawn (fun m hm => (Store.names_destroySnap hok).1 hm)
        (Store.props_destroySnap hok) fun m t ht => ⟨m, Store.owns_of_destroySnap hok ht⟩

/-- A clone under a uuid that was drawn for it. -/
theorem clone (hT : Tidy E w) (hok : w.zfs.clone s n = .ok w'.zfs) (hdrawn : w.drawn ≤ w'.drawn)
    (hnew : New E w w'.drawn n.vol) : Carries E low nothing w w' := by
  have hsame : ∀ m ∈ w.zfs.names, w'.zfs.zvol m = w.zfs.zvol m := by
    intro m hm
    obtain ⟨_, hn, _, _, _, _, hzfs⟩ := Store.clone_ok hok
    rw [hzfs]
    exact w.zfs.zvol_put_of_ne _ fun heq => hn (heq ▸ hm)
  refine ⟨hT.wf.clone hok, hdrawn, fun m hm => ?_, fun m hm _ => by rw [hsame m hm],
    fun m hm _ => ?_, fun m t ht => .inl ⟨m, (Store.owns_clone hok).1 ht⟩⟩
  · rcases (Store.names_clone hok).1 hm with rfl | hm
    · exact .inr hnew
    · exact .inl hm
  · rw [hsame m hm, nothing, ite_self, List.nil_append]
    exact .refl _ _

/-- **The calls that only add.**  The snapshots of a zvol have different names, so that a snapshot under
an old name is an old one. -/
theorem of_growth (h : Growth E w w'.zfs w'.drawn)
    (hlow : ∀ n ∈ w'.zfs.names, low n ≤ (w'.zfs.zvol n).props.volsize) : Carries E low nothing w w' where
  wf := h.wf
  drawn_le := h.drawn_le
  new_names := h.new_names
  readonly := fun n hn _ => h.readonly n hn
  content := fun n hn hn' => by
    rw [nothing, ite_self, List.nil_append]
    rcases h.grown n hn with ⟨-, hsame⟩ | ⟨-, hcut⟩
    · rw [hsame]
      exact .refl _ _
    · rw [hcut]
      exact .below (hlow n hn') _
  snaps := fun n t ht => by
    refine (h.new_snaps ⟨n, t.id⟩ (Store.has_iff_owns.2 ⟨t, ht, rfl⟩)).imp_left fun hhas => ?_
    obtain ⟨t₀, ht₀, hid⟩ := Store.has_iff_owns.1 hhas
    obtain rfl : t₀ = t := List.inj_on_of_nodup_map (h.wf.nodup n ht.1) (h.owns n t₀ ht₀).2 ht.2 hid
    exact ⟨n, ht₀⟩

end Carries

/-! ### Destroying a VDI -/

/-- The program, however it ends, carries over what there was. -/
def Kept (E : Env) (w w' : World) : Prop := Tidy E w → ∀ low, Carries E low nothing w w'

instance : Std.Refl (Kept E) := ⟨fun _ hT _ => .of_zfs hT rfl (Nat.le_refl _)⟩

instance : IsTrans World (Kept E) :=
  ⟨fun _ _ _ h h' hT low => (h hT low).trans hT (h' ((h hT low).tidy hT) low)⟩

theorem kept_of_same (h : w.Same w') : Kept E w w' := fun hT _ => .of_zfs hT h.zfs h.drawn.ge

theorem kept_command {f : World → Except VolError (α × World)}
    (hf : ∀ w a w', f w = .ok (a, w') → w'.zfs = w.zfs ∧ w'.drawn = w.drawn) :
    Preserves (Kept E) (command E f) := by
  refine .of_wp fun w => wp_command (fun _ _ hs => kept_of_same hs) (fun _ _ _ hs => kept_of_same hs)
    fun a w' h => ?_
  obtain ⟨hzfs, hdrawn⟩ := hf w.tick a w' h
  exact fun hT _ => .of_zfs hT hzfs hdrawn.ge

theorem kept_zfsGet (f : Store → Except ZfsError α) : Preserves (Kept E) (zfsGet E f) :=
  .of_wp fun _ => wp_zfsGet (fun _ _ hs => kept_of_same hs) (fun _ _ _ hs => kept_of_same hs)
    fun _ _ _ hs => kept_of_same hs

theorem kept_dbCmd (f : Metabase → Except VolError (α × Metabase)) : Preserves (Kept E) (dbCmd E f) :=
  .of_wp fun _ => wp_dbCmd (fun _ _ hs => kept_of_same hs) (fun _ _ _ hs => kept_of_same hs)
    fun _ _ _ _ _ hf hT _ => .of_zfs hT hf.zfs hf.drawn.ge

theorem kept_volExists (n : ZvolName) : Preserves (Kept E) (volExists E n) :=
  .tryCatch (kept_zfsGet _) fun _ => .pure _

theorem kept_recoverVdiVsize (vdi : Vdi) (ds : List String) :
    Preserves (Kept E) (recoverVdiVsize E vdi ds) := by
  rw [recoverVdiVsize]
  split
  · exact .pure _
  · exact .bind (kept_zfsGet _) fun _ => .bind (kept_dbCmd _) fun _ => .pure _

theorem kept_dbContext {sr : String} {body : VolM α} (hbody : Preserves (Kept E) body) :
    Preserves (Kept E) (dbContext E sr body) := by
  have hbegin : Preserves (Kept E) (beginTxn E sr) :=
    kept_command fun w a w' h => by cases h; exact ⟨rfl, rfl⟩
  have hcommit : Preserves (Kept E) (commitTxn E sr) :=
    kept_command fun w a w' h => by cases h; exact ⟨rfl, rfl⟩
  exact .bind hbegin fun _ => .bind hbody fun _ => .bind hcommit fun _ => .pure _

theorem kept_getSrMetadata (sr : String) : Preserves (Kept E) (getSrMetadata E sr) := by
  rw [getSrMetadata]
  split
  · exact .pure _
  · exact .throw _

theorem kept_removeCbtMetadata (sr key : String) : Preserves (Kept E) (removeCbtMetadata E sr key) :=
  kept_command fun w a w' h => by cases h; exact ⟨rfl, rfl⟩

theorem kept_destroyZvol (object : ZfsObject) : Preserves (Kept E) (destroyZvol E object) :=
  .of_wp fun _ => wp_destroyZvol (fun _ _ hs => kept_of_same hs) (fun _ _ _ hs => kept_of_same hs)
    fun _ hok hd hT _ => .destroy hT hok hd.drawn.ge

theorem kept_promoteClone (n : ZvolName) : Preserves (Kept E) (promoteClone E n) :=
  .of_wp fun _ => wp_zfsCmd (fun _ _ hs => kept_of_same hs) (fun _ _ _ hs => kept_of_same hs)
    fun _ hok hs hT _ => .promote hT hok hs.drawn.ge

/-- A snapshot without a clone is cloned under a uuid that is drawn for the clone. -/
theorem kept_selectClone (ds : List String) (vdi : Vdi) (s : SnapName) :
    Preserves (Kept E) (selectClone E ds vdi s) := by
  refine .of_wp fun w => ?_
  rw [selectClone, wp_bind]
  refine wp_zfsGet (fun _ _ hs => kept_of_same hs) (fun _ _ _ hs => kept_of_same hs)
    fun clones w₁ _ hs₁ => ?_
  cases clones with
  | cons dep rest => exact kept_of_same hs₁
  | nil =>
      simp only [wp_bind, cloneSnapshot, wp_pure]
      refine wp_dbCmd (fun _ _ hs => kept_of_same (hs₁.trans hs))
        (fun _ _ _ hs => kept_of_same (hs₁.trans hs)) fun id db w₂ _ _ hf₂ => ?_
      refine wp_uuid4 fun w₃ hd₃ => ?_
      have hdrawn₂ : w₂.drawn = w.drawn := hf₂.drawn.trans hs₁.drawn
      have hdrawn₃ : w₃.drawn = w.drawn + 1 := hd₃.drawn.trans (congrArg (· + 1) hdrawn₂)
      have hzfs₃ : w₃.zfs = w.zfs := hd₃.zfs.trans (hf₂.zfs.trans hs₁.zfs)
      have hkept : ∀ {w' : World}, w'.zfs = w₃.zfs → w'.drawn = w₃.drawn → Kept E w w' :=
        fun hzfs hdrawn hT _ => .of_zfs hT (hzfs.trans hzfs₃) (by omega)
      refine wp_dbCmd (fun _ _ hs => hkept hs.zfs hs.drawn) (fun _ _ _ hs => hkept hs.zfs hs.drawn)
        fun _ _ w₄ _ _ hf₄ => ?_
      refine wp_zfsCmd (fun _ _ hs => hkept (hs.zfs.trans hf₄.zfs) (hs.drawn.trans hf₄.drawn))
        (fun _ _ _ hs => hkept (hs.zfs.trans hf₄.zfs) (hs.drawn.trans hf₄.drawn)) fun w₅ hok hs₅ hT _ => ?_
      have hdrawn₅ : w₅.drawn = w.drawn + 1 := hs₅.drawn.trans (hf₄.drawn.trans hdrawn₃)
      rw [hf₄.zfs, hzfs₃] at hok
      exact .clone hT hok (by omega) ⟨w.drawn, Nat.le_refl _, by omega, by rw [hdrawn₂]⟩

theorem kept_selectClones (ds : List String) (vdi : Vdi) (snaps : List SnapName) :
    Preserves (Kept E) (selectClones E ds vdi snaps) := by
  induction snaps with
  | nil => exact .pure _
  | cons s snaps ih => exact .bind (kept_selectClone ds vdi s) fun _ => .bind ih fun _ => .pure _

theorem kept_promoteEach (deps : List ZvolName) : Preserves (Kept E) (promoteEach E deps) := by
  induction deps with
  | nil => exact .pure _
  | cons dep deps ih => exact .bind (kept_promoteClone dep) fun _ => ih

theorem kept_promoteClones (ds : List String) (deps : List ZvolName) :
    Preserves (Kept E) (promoteClones E ds deps) :=
  .ite (fun _ => .bind (kept_promoteEach deps) fun _ => kept_zfsGet _) fun _ => .pure _

theorem kept_destroySnapshotVdi (ds : List String) (vdi : Vdi) :
    Preserves (Kept E) (destroySnapshotVdi E ds vdi) := by
  refine .bind (kept_zfsGet _) fun snap_name => .bind (kept_zfsGet _) fun _ => ?_
  cases snap_name with
  | none => exact .throw _
  | some snap_name =>
      refine .bind (kept_zfsGet _) fun clones => .ite (fun _ => .throw _) fun _ => ?_
      refine .bind (.bind (kept_volExists _) fun found => ?_) fun _ => kept_destroyZvol _
      exact .ite (fun _ => kept_destroyZvol _) fun _ => .pure _

theorem kept_destroyBaseVdi (ds : List String) (vdi : Vdi) :
    Preserves (Kept E) (destroyBaseVdi E ds vdi) :=
  .bind (kept_zfsGet _) fun _ => .bind (kept_zfsGet _) fun snaps =>
    .bind (kept_selectClones ds vdi snaps) fun deps => .bind (kept_promoteClones ds deps) fun _ =>
      kept_destroyZvol _

/-- **`destroy`, at whatever command it is cut short.** -/
theorem kept_destroy (sr key : String) : Preserves (Kept E) (Volume.destroy E sr key) := by
  refine .bind (kept_getSrMetadata sr) fun m => .bind (kept_dbContext ?_) fun _ =>
    .bind (kept_removeCbtMetadata sr key) fun _ =>
      .tryCatch (kept_removeCbtMetadata sr key) fun _ => .pure _
  refine .bind (kept_dbCmd _) fun vdi => .bind (kept_recoverVdiVsize vdi _) fun vdi => .bind ?_ fun _ =>
    .bind (kept_dbCmd _) fun _ => .bind (kept_dbCmd _) fun _ => kept_dbCmd _
  exact .ite (fun _ => kept_destroySnapshotVdi _ vdi) fun _ => kept_destroyBaseVdi _ vdi

/-! ### Runs -/

/-- The state after a run on the repositories of a host. -/
def runHost (E : Env) (w : World) (es : List (String × Event)) : World :=
  es.foldl (fun w e => e.2.apply E e.1 w) w

/-- The bytes that an event writes to a zvol that can be written. -/
def Event.written : Event → ZvolName → Content
  | .call _, _ => []
  | .touch m _ bytes, n => if m = n then bytes else []

/-- The bytes that a run writes to a zvol that can be written, the latest first. -/
def writtenTo (n : ZvolName) : List (String × Event) → Content
  | [] => []
  | e :: es => writtenTo n es ++ e.2.written n

theorem Carries.call (hT : Tidy E w) (sr : String) (c : Call)
    (hlow : ∀ n ∈ (Volume.after (c.run E sr) w).zfs.names,
      low n ≤ ((Volume.after (c.run E sr) w).zfs.zvol n).props.volsize) :
    Carries E low nothing w (Volume.after (c.run E sr) w) := by
  by_cases hc : ∃ key, c = .destroy key
  · obtain ⟨key, rfl⟩ := hc
    have hkept : Kept E w (Volume.after (Call.run E sr (.destroy key)) w) :=
      of_wp ((kept_destroy sr key).wp w)
    exact hkept hT low
  · exact .of_growth (Call.outcome hT sr c fun key heq => hc ⟨key, heq⟩).1 hlow

theorem Carries.touch (hT : Tidy E w) (m : ZvolName) (busy : Bool) (bytes : Content)
    (hlow : ∀ n ∈ w.zfs.names, low n ≤ (w.zfs.zvol n).props.volsize) :
    Carries E low (Event.touch m busy bytes).written w (Volume.touch m busy bytes w) := by
  obtain ⟨-, hdrawn, hnames, -, hreadonly, hwf⟩ := touch_spec m busy bytes w
  refine ⟨hwf hT.wf, hdrawn.ge, fun n hn => .inl ((hnames n).1 hn), fun n _ _ => hreadonly n,
    fun n hn _ => ?_, fun n t ht => .inl ⟨n, ?_⟩⟩
  · rw [Volume.touch, Event.written]
    rcases hset : w.zfs.setProps m (touchProps busy bytes) with e | z
    · -- the zvol is not there, and it is another one
      have hm : m ∉ w.zfs.names := fun hm => by
        rw [Store.setProps, if_pos hm] at hset
        cases hset
      rw [if_neg fun heq : m = n => hm (heq ▸ hn), ite_self, List.nil_append]
      exact .refl _ _
    · obtain ⟨_, rfl⟩ := Store.setProps_ok hset
      by_cases hmn : m = n
      · subst hmn
        change Holding _ ((w.zfs.put m _).zvol m).props.content _
        rw [Store.zvol_put_self, if_pos rfl, touchProps]
        split
        · exact .refl _ _
        · exact (Holding.below (hlow m hn) bytes).append (.refl _ _)
      · change Holding _ ((w.zfs.put m _).zvol n).props.content _
        rw [Store.zvol_put_of_ne _ _ (Ne.symm hmn), if_neg hmn, ite_self, List.nil_append]
        exact .refl _ _
  · rw [Volume.touch] at ht
    rcases hset : w.zfs.setProps m (touchProps busy bytes) with e | z <;> rw [hset] at ht
    · exact ht
    · exact (Store.owns_setProps hset).1 ht

/-- In no state of a run does a zvol end before the offset that is given for it. -/
def NeverBelow (E : Env) (low : ZvolName → ℕ) (w : World) (es : List (String × Event)) : Prop :=
  ∀ es₁, es₁ <+: es → ∀ n ∈ (runHost E w es₁).zfs.names,
    low n ≤ ((runHost E w es₁).zfs.zvol n).props.volsize

theorem NeverBelow.tail {e : String × Event} {es : List (String × Event)}
    (h : NeverBelow E low w (e :: es)) : NeverBelow E low (e.2.apply E e.1 w) es :=
  fun es₁ hes₁ => h (e :: es₁) (List.cons_prefix_cons.2 ⟨rfl, hes₁⟩)

theorem Carries.event (hT : Tidy E w) (sr : String) (e : Event)
    (hlow : NeverBelow E low w [(sr, e)]) : Carries E low e.written w (e.apply E sr w) := by
  have hbefore := hlow [] (List.nil_prefix)
  have hafter := hlow [(sr, e)] (List.prefix_refl _)
  cases e with
  | call c => exact .call hT sr c hafter
  | touch m busy bytes => exact .touch hT m busy bytes hbefore

/-- **A run**, whatever its calls do and wherever they are cut short. -/
theorem Carries.run (es : List (String × Event)) (hT : Tidy E w) (hlow : NeverBelow E low w es) :
    Carries E low (fun n => writtenTo n es) w (runHost E w es) := by
  induction es generalizing w with
  | nil => exact .of_zfs hT rfl (Nat.le_refl _)
  | cons e es ih =>
      have hfirst : NeverBelow E low w [e] := fun es₁ hes₁ =>
        hlow es₁ (hes₁.trans (List.cons_prefix_cons.2 ⟨rfl, List.nil_prefix⟩))
      have hevent := Carries.event hT e.1 e.2 hfirst
      exact hevent.trans hT (ih (hevent.tidy hT) hlow.tail)

/-- Nothing is asked of the sizes where nothing is said about the contents. -/
theorem neverBelow_zero (es : List (String × Event)) : NeverBelow E (fun _ => 0) w es :=
  fun _ _ _ _ => Nat.zero_le _

/-- **Isolation over whole runs.**  A zvol that is there at the beginning and at the end of a run holds
nothing but what it held and, unless it is read-only, what was written to it in between; and it holds all
of this that lies before an offset to which no resize in the run cut it off.  A snapshot that is there at
the end was there at the beginning with the same content, or has a uuid that was drawn in the run. -/
theorem isolated_run (es : List (String × Event)) (hT : Tidy E w) :
    (∀ n ∈ w.zfs.names, n ∈ (runHost E w es).zfs.names →
      ((runHost E w es).zfs.zvol n).props.readonly = (w.zfs.zvol n).props.readonly ∧
        ((runHost E w es).zfs.zvol n).props.content.Sublist
          ((if (w.zfs.zvol n).props.readonly then [] else writtenTo n es) ++
            (w.zfs.zvol n).props.content) ∧
        ∀ low, (∀ es₁, es₁ <+: es → low ≤ ((runHost E w es₁).zfs.zvol n).props.volsize) →
          below low ((runHost E w es).zfs.zvol n).props.content =
            below low ((if (w.zfs.zvol n).props.readonly then [] else writtenTo n es) ++
              (w.zfs.zvol n).props.content)) ∧
      ∀ n t, (runHost E w es).zfs.Owns n t → (∃ m, w.zfs.Owns m t) ∨
        ∃ j, w.drawn ≤ j ∧ j < (runHost E w es).drawn ∧ t.id = E.uuid j := by
  have h := Carries.run es hT (neverBelow_zero es)
  refine ⟨fun n hn hn' => ⟨h.readonly n hn hn', (h.content n hn hn').sublist, fun low hlow => ?_⟩,
    h.snaps⟩
  have hnever : NeverBelow E (fun m => if m = n then low else 0) w es := by
    intro es₁ hes₁ m _
    dsimp only
    split_ifs with hm
    · rw [hm]
      exact hlow es₁ hes₁
    · exact Nat.zero_le _
  have hbefore := ((Carries.run es hT hnever).content n hn hn').before
  rwa [if_pos rfl] at hbefore

/-- On this host the clone is resized, and its size is not recorded any more. -/
def cutShortEnv : Env := sampleEnv fun c => c = 52

/-- A disk was written, snapshotted and enlarged.  A snapshot of the snapshot VDI then has the old size on
record and the new one as the size of its zvol, and so has the clone of it. -/
def snapped : World :=
  runHost cutShortEnv emptyWorld
    [("sr", .call (.create "disk" "" 65536 false)), ("sr", .touch ⟨["tank", "vms"], ""⟩ false [(0, 1)]),
      ("sr", .call (.snapshot "")), ("sr", .call (.resize "" 131072)), ("sr", .call (.snapshot "u")),
      ("sr", .call (.clone "uu"))]

/-- The disk, its first snapshot, which does not take it, and the clone are written, and the clone shrinks
to a size that is larger than the one on record. -/
def writtenRun : List (String × Event) :=
  [("sr", .touch ⟨["tank", "vms"], ""⟩ false [(0, 2)]), ("sr", .touch ⟨["tank", "vms"], "u"⟩ false [(0, 3)]),
    ("sr", .touch ⟨["tank", "vms"], "uuu"⟩ false [(0, 4), (100000, 5)]),
    ("sr", .call (.resize "uuu" 98304))]

/-- The end of the clone is lost, and nothing else. -/
theorem isolated_run_cut_short :
    below 131072 ((runHost cutShortEnv snapped writtenRun).zfs.zvol ⟨["tank", "vms"], ""⟩).props.content =
        [(0, 2), (0, 1)] ∧
      ((runHost cutShortEnv snapped writtenRun).zfs.zvol ⟨["tank", "vms"], "u"⟩).props.content.Sublist
        [(0, 1)] ∧
      below 98304
        ((runHost cutShortEnv snapped writtenRun).zfs.zvol ⟨["tank", "vms"], "uuu"⟩).props.content =
        [(0, 4), (0, 1)] := by
  have hT : Tidy cutShortEnv snapped :=
    (Carries.run _ (tidy_emptyWorld _) (neverBelow_zero _)).tidy (tidy_emptyWorld _)
  have h := (isolated_run writtenRun hT).1
  have hdisk : ∀ es₁ ∈ writtenRun.inits, 131072 ≤
      ((runHost cutShortEnv snapped es₁).zfs.zvol ⟨["tank", "vms"], ""⟩).props.volsize := by
    decide +kernel
  have hclone : ∀ es₁ ∈ writtenRun.inits, 98304 ≤
      ((runHost cutShortEnv snapped es₁).zfs.zvol ⟨["tank", "vms"], "uuu"⟩).props.volsize := by
    decide +kernel
  refine ⟨?_, ?_, ?_⟩
  · exact ((h ⟨["tank", "vms"], ""⟩ (by decide +kernel) (by decide +kernel)).2.2 131072
      fun es₁ hes₁ => hdisk es₁ ((List.mem_inits _ _).2 hes₁)).trans (by decide +kernel)
  · exact (h ⟨["tank", "vms"], "u"⟩ (by decide +kernel) (by decide +kernel)).2.1.trans
      (by decide +kernel)
  · exact ((h ⟨["tank", "vms"], "uuu"⟩ (by decide +kernel) (by decide +kernel)).2.2 98304
      fun es₁ hes₁ => hclone es₁ ((List.mem_inits _ _).2 hes₁)).trans (by decide +kernel)

end Volume

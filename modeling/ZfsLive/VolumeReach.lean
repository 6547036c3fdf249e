/-
**Destroying VDIs in the states that successful calls reach.**

Starting from a host without zvols and without VDIs, `create`, `snapshot`, `clone`, `copy` and `destroy`
are called on any repositories, and zvols are opened, closed and written in between.  Every state that
is reached is settled: each VDI has its zvol, and no name is used twice.  In a settled state the outcome
of `destroy` can be read off the store.

Main definitions:

* `Volume.Reachable` — the states;
* `Volume.Deleted` — a destroy call that leaves nothing of a VDI behind;
* `Volume.DestroyFrame` — what a destroy call does to the other VDIs.

Main results:

* `Volume.Reachable.settled` — the invariant of the states;
* `Volume.deleted_iff` — **when a VDI can be deleted**; `Volume.not_deleted_promoted` — a snapshot VDI
  whose base VDI was destroyed first cannot;
* `Volume.destroy_frame` — **what a destroy call leaves as it was**; `Volume.not_rows_subset_orphan` —
  it can add a VDI.
-/

import ZfsLive.VolumeBacking

set_option relaxedAutoImplicit false
set_option autoImplicit false

namespace Volume

open Zfs Wp

/-- The calls whose VDIs all have uuids of the driver's own, and that change no size. -/
def Call.plain : Call → Bool
  | .importExisting .. => false
  | .resize .. => false
  | _ => true

/-- The states that calls that return reach. -/
inductive Reachable (E : Env) : World → Prop
  | start (w : World) : w.zfs.names = [] → (∀ sr, (w.db sr).vdis = []) → Reachable E w
  | call {w w' : World} (sr : String) (c : Call) : Reachable E w → c.plain = true →
      c.run E sr w = .ok () w' → Reachable E w'
  | touch {w : World} (n : ZvolName) (busy : Bool) (written : Content) : Reachable E w →
      Reachable E (touch n busy written w)

variable {E : Env} {sr key : String} {w₀ w w' : World} {m : SrMeta} {vdi : Vdi}

/-! ### The invariant -/

/-- A uuid of a VDI is none of those to come. -/
theorem Settled.not_new (hS : Settled E w₀) {v : Vdi} (hv : v ∈ (w₀.db sr).vdis) {k : ℕ} :
    ¬ New E w₀ k v.uuid := by
  rintro ⟨j, hj, _, hju⟩
  obtain ⟨i, hi, hiu⟩ := hS.drawn sr v hv
  have := E.uuid_injective (hiu.symm.trans hju)
  omega

theorem Settled.success (hS : Settled E w₀) (h : Success E w₀ w) : Settled E w := by
  obtain ⟨o, honew, hhas⟩ := h.snaps
  obtain ⟨sr₁, hrows⟩ := h.rows
  have hnew_has : ∀ {u k}, New E w₀ k u → ∀ n, ¬ w₀.zfs.Has ⟨n, u⟩ := fun hu n hn =>
    hS.tidy.not_has_of_new (s := ⟨n, _⟩) hu hn
  refine ⟨h.outcome.tidy hS.tidy, ?_, ?_, ?_, ?_, ?_⟩
  · intro sr m hm v hv
    rcases h.outcome.2 sr v hv with ⟨v₀, hv₀, huuid, _⟩ | hb
    · exact huuid ▸ h.outcome.1.names _ (hS.zvol sr m hm v₀ hv₀)
    · exact (hb m hm).zvol
  · intro sr v hv
    rcases hrows sr v hv with ⟨v₀, hv₀, huuid, _⟩ | ⟨_, ⟨j, _, hj, hju⟩, _⟩
    · obtain ⟨j, hj, hju⟩ := hS.drawn sr v₀ hv₀
      exact ⟨j, hj.trans_le h.outcome.1.drawn_le, huuid ▸ hju⟩
    · exact ⟨j, hj, hju⟩
  · intro sr sr' v hv v' hv' heq
    rcases hrows sr v hv with ⟨v₀, hv₀, huuid, _⟩ | ⟨hsr, hnew, _⟩ <;>
      rcases hrows sr' v' hv' with ⟨v₀', hv₀', huuid', _⟩ | ⟨hsr', hnew', _⟩
    · exact hS.apart sr sr' v₀ hv₀ v₀' hv₀' (huuid.trans (heq.trans huuid'.symm))
    · exact absurd (huuid.trans heq ▸ hnew') (hS.not_new hv₀)
    · exact absurd (huuid'.trans heq.symm ▸ hnew) (hS.not_new hv₀')
    · exact hsr.trans hsr'.symm
  · intro id n n' hn hn'
    rcases (hhas _).1 hn with hn | hn <;> rcases (hhas _).1 hn' with hn' | hn'
    · exact hS.unique id n n' hn hn'
    · exact absurd hn (hnew_has (honew _ hn') n)
    · exact absurd hn' (hnew_has (honew _ hn) n')
    · exact congrArg SnapName.zvol (Option.some.inj (hn.symm.trans hn'))
  · intro sr v hv hsnap n hn
    rcases hrows sr v hv with ⟨v₀, hv₀, huuid, hs⟩ | ⟨_, _, hbase⟩
    · rcases (hhas _).1 hn with hn | hn
      · exact hS.base sr v₀ hv₀ (hs.trans hsnap) n (huuid ▸ hn)
      · exact hS.not_new hv₀ (huuid ▸ honew _ hn)
    · exact hbase hsnap n hn

/-- A snapshot after a destroy call was there before, under the same name of its own. -/
theorem Moved.has_back {v n : ZvolName} {z : Store} {k : ℕ} {id : String} (h : Moved E w₀ v z k)
    (hn : z.Has ⟨n, id⟩) : ∃ n₀, w₀.zfs.Has ⟨n₀, id⟩ := by
  obtain ⟨t, ht, hid⟩ := Store.has_iff_owns.1 hn
  rcases h.back n t ht with ht | ⟨ht, _⟩
  · exact ⟨n, Store.has_iff_owns.2 ⟨t, ht, hid⟩⟩
  · exact ⟨v, Store.has_iff_owns.2 ⟨t, ht, hid⟩⟩

theorem Settled.finished (hS : Settled E w₀) (hm : E.srMeta sr = some m) {vdi₀ : Vdi}
    (hvdi₀ : vdi₀ ∈ (w₀.db sr).vdis) (hkey : vdi₀.uuid = key)
    (h : Finished E w₀ sr key ⟨m.datasetPath, key⟩ vdi w) : Settled E w := by
  obtain ⟨new, hspawn, _, hrows⟩ := h.rows
  -- a VDI of the new state is an old one that is not deleted, or a new one
  have hcases : ∀ sr' v, v ∈ (w.db sr').vdis →
      v ∈ (w₀.db sr').vdis ∧ v.uuid ≠ key ∨ sr' = sr ∧ v ∈ new := by
    intro sr' v hv
    by_cases hsr : sr' = sr
    · subst hsr
      exact ((hrows v).1 hv).imp_right fun hv => ⟨rfl, hv⟩
    · rw [h.others sr' hsr] at hv
      exact .inl ⟨hv, fun heq => hsr (hS.apart sr' sr v hv vdi₀ hvdi₀ (heq.trans hkey.symm))⟩
  refine ⟨h.moved.tidy hS.tidy, ?_, ?_, ?_, fun id => h.moved.unique id (hS.unique id), ?_⟩
  · intro sr' m' hm' v hv
    rcases hcases sr' v hv with ⟨hv, hne⟩ | ⟨rfl, hv⟩
    · exact h.moved.names _ (hS.zvol sr' m' hm' v hv) fun heq => hne (congrArg ZvolName.vol heq)
    · obtain rfl : m = m' := Option.some.inj (hm.symm.trans hm')
      exact hspawn.zvol v hv
  · intro sr' v hv
    rcases hcases sr' v hv with ⟨hv, _⟩ | ⟨_, hv⟩
    · obtain ⟨j, hj, hju⟩ := hS.drawn sr' v hv
      exact ⟨j, hj.trans_le h.moved.drawn_le, hju⟩
    · obtain ⟨j, _, hj, hju⟩ := hspawn.uuid_new v hv
      exact ⟨j, hj, hju⟩
  · intro sr₁ sr₂ v₁ hv₁ v₂ hv₂ heq
    rcases hcases sr₁ v₁ hv₁ with ⟨hv₁, _⟩ | ⟨hsr₁, hv₁⟩ <;>
      rcases hcases sr₂ v₂ hv₂ with ⟨hv₂, _⟩ | ⟨hsr₂, hv₂⟩
    · exact hS.apart sr₁ sr₂ v₁ hv₁ v₂ hv₂ heq
    · exact absurd (heq ▸ hspawn.uuid_new v₂ hv₂) (hS.not_new hv₁)
    · exact absurd (heq.symm ▸ hspawn.uuid_new v₁ hv₁) (hS.not_new hv₂)
    · exact hsr₁.trans hsr₂.symm
  · intro sr' v hv hsnap n hn
    obtain ⟨n₀, hn₀⟩ := h.moved.has_back hn
    rcases hcases sr' v hv with ⟨hv, _⟩ | ⟨_, hv⟩
    · exact hS.base sr' v hv hsnap n₀ hn₀
    · exact hS.tidy.not_has_of_new (s := ⟨n₀, v.uuid⟩) (hspawn.uuid_new v hv) hn₀

theorem Settled.touch (hS : Settled E w) (n : ZvolName) (busy : Bool) (written : Content) :
    Settled E (touch n busy written w) := by
  obtain ⟨hdb, hdrawn, hnames, hhas, _, _⟩ := touch_spec n busy written w
  refine ⟨hS.tidy.touch n busy written, ?_, ?_, ?_, ?_, ?_⟩
  · intro sr m hm v hv
    exact (hnames _).2 (hS.zvol sr m hm v (hdb ▸ hv))
  · rw [hdb, hdrawn]
    exact hS.drawn
  · rw [hdb]
    exact hS.apart
  · exact fun id n n' hn hn' => hS.unique id n n' ((hhas _).1 hn) ((hhas _).1 hn')
  · intro sr v hv hsnap n hn
    exact hS.base sr v (hdb ▸ hv) hsnap n ((hhas _).1 hn)

/-- **Every state that successful calls reach is settled.** -/
theorem Reachable.settled (h : Reachable E w) : Settled E w := by
  induction h with
  | start w hnames hvdis =>
      have hhas : ∀ s, ¬ w.zfs.Has s := fun s hs => by simpa [hnames] using hs.1
      refine ⟨⟨⟨?_, ?_, ?_, fun _ => 0, ?_⟩, ?_, fun s hs => absurd hs (hhas s)⟩, ?_, ?_, ?_,
        fun id n _ hn => absurd hn (hhas _), ?_⟩ <;> simp [hnames, hvdis]
  | touch n busy written _ ih => exact ih.touch n busy written
  | @call w w' sr c _ hc hrun ih =>
      have hok : ∀ {α : Type} {m : VolM α} {P : World → Prop} {X : VolError → World → Prop},
          wp m (fun _ w' => P w') X w → (fun _ => ()) <$> m = c.run E sr → P w' := by
        intro α m P X hwp heq
        have hmap := (wp_map (fun _ => ()) m (fun _ w' => P w') X w).2 hwp
        rw [heq] at hmap
        exact (wp_of_ok hrun).1 hmap
      cases c with
      | create name description size sharable =>
          exact ih.success (hok (wp_create ih.tidy sr name description size sharable) rfl)
      | importExisting => cases hc
      | snapshot key => exact ih.success (hok (wp_snapshot ih.tidy sr key) rfl)
      | clone key => exact ih.success (hok (wp_clone ih.tidy sr key) rfl)
      | resize => cases hc
      | copy key dest_sr => exact ih.success (hok (wp_copy ih.tidy sr key dest_sr) rfl)
      | destroy key =>
          obtain ⟨m, vdi₀, vdi, hm, hvdi₀, hkey, _, hf⟩ :=
            (wp_of_ok hrun).1 (wp_destroy ih.tidy sr key)
          exact ih.finished hm hvdi₀ hkey hf

/-- The calls return, one after the other. -/
def returnAll (E : Env) (sr : String) : List Call → World → Bool
  | [], _ => true
  | c :: cs, w => c.plain && returns (c.run E sr) w && returnAll E sr cs (after (c.run E sr) w)

/-- Calls that return reach a state. -/
theorem Reachable.calls (sr : String) (cs : List Call) :
    ∀ {w : World}, Reachable E w → returnAll E sr cs w = true →
      Reachable E (runEvents E sr w (cs.map .call)) := by
  induction cs with
  | nil => exact fun h _ => h
  | cons c cs ih =>
      intro w h hret
      simp only [returnAll, Bool.and_eq_true] at hret
      exact ih (h.call sr c hret.1.1 (ok_of_returns hret.1.2)) hret.2

/-- The state of the host of the examples after some calls. -/
def sampleWorld (cs : List Call) : World :=
  runEvents (sampleEnv fun _ => false) "sr" emptyWorld (cs.map .call)

theorem reachable_sampleWorld (cs : List Call)
    (h : returnAll (sampleEnv fun _ => false) "sr" cs emptyWorld = true) :
    Reachable (sampleEnv fun _ => false) (sampleWorld cs) :=
  (Reachable.start emptyWorld rfl fun _ => rfl).calls "sr" cs h

/-! ### Deleting a VDI -/

/-- The destroy call of the VDI `key` returns and leaves nothing of it: no row, no zvol `v`, and no
snapshot of its name. -/
def Deleted (E : Env) (sr key : String) (v : ZvolName) (w : World) : Prop :=
  ∃ w', destroy E sr key w = .ok () w' ∧ (∀ c ∈ (w'.db sr).vdis, c.uuid ≠ key) ∧
    v ∉ w'.zfs.names ∧ ∀ n, ¬ w'.zfs.Has ⟨n, key⟩

/-- The VDI can be destroyed as far as its surroundings go: no command fails by itself, its zvol is not
open, and nothing but its zvol is a clone of its snapshot. -/
structure Unused (E : Env) (v : ZvolName) (vdi : Vdi) (w : World) : Prop where
  faultless : ∀ c, E.fault c = false
  idle : (w.zfs.zvol v).props.busy = false
  alone : vdi.snap = true → ∀ n ∈ w.zfs.names, ∀ m,
    (w.zfs.zvol n).origin = some ⟨m, vdi.uuid⟩ → n = v

/-- **A VDI can be deleted** exactly when it is a base VDI, or the repository has its snapshot and its
zvol has no snapshots. -/
theorem deleted_iff (hw : Reachable E w) (hm : E.srMeta sr = some m) (hvdi : vdi ∈ (w.db sr).vdis)
    (hu : Unused E ⟨m.datasetPath, vdi.uuid⟩ vdi w) :
    Deleted E sr vdi.uuid ⟨m.datasetPath, vdi.uuid⟩ w ↔
      (vdi.snap = true → (∃ n : ZvolName, n.Under m.datasetPath ∧ w.zfs.Has ⟨n, vdi.uuid⟩) ∧
        (w.zfs.zvol ⟨m.datasetPath, vdi.uuid⟩).snaps = []) := by
  have hS := hw.settled
  have hmem := hS.zvol sr m hm vdi hvdi
  have hwp := wp_destroy hS.tidy sr vdi.uuid
  -- the VDI of the call is this one
  have honly : ∀ {m' : SrMeta} {vdi₀ vdi' : Vdi}, E.srMeta sr = some m' → vdi₀ ∈ (w.db sr).vdis →
      vdi₀.uuid = vdi.uuid → SameVdi vdi₀ vdi' → m' = m ∧ vdi'.snap = vdi.snap := by
    intro m' vdi₀ vdi' hm' hvdi₀ huuid hsame
    obtain rfl := Metabase.eq_of_uuid hvdi₀ hvdi huuid
    exact ⟨Option.some.inj (hm'.symm.trans hm), by rw [hsame]⟩
  constructor
  · rintro ⟨w', hd, _⟩ hsnap
    obtain ⟨m', vdi₀, vdi', hm', hvdi₀, huuid, hsame, hf⟩ := (wp_of_ok hd).1 hwp
    obtain ⟨rfl, hsn⟩ := honly hm' hvdi₀ huuid hsame
    exact ⟨hf.under (hsn.trans hsnap), hf.bare (hsn.trans hsnap) hu.faultless hmem⟩
  · intro hplace
    have hD : Deletable E w ⟨m.datasetPath, vdi.uuid⟩ vdi :=
      ⟨hu.faultless, hS, hmem, hu.idle, hu.alone, fun hs => (hplace hs).1, fun hs => (hplace hs).2⟩
    rcases hd : destroy E sr vdi.uuid w with ⟨⟨⟩, w'⟩ | ⟨e, w'⟩
    · obtain ⟨m', vdi₀, vdi', hm', hvdi₀, huuid, hsame, hf⟩ := (wp_of_ok hd).1 hwp
      obtain ⟨rfl, hsn⟩ := honly hm' hvdi₀ huuid hsame
      obtain ⟨new, hspawn, _, hrows⟩ := hf.rows
      refine ⟨w', hd, fun c hc => ?_, hf.vol_gone hu.faultless, fun n hn => ?_⟩
      · rcases (hrows c).1 hc with ⟨_, hne⟩ | hc
        · exact hne
        · exact fun heq => hS.not_new hvdi (heq ▸ hspawn.uuid_new c hc)
      · cases hsnap : vdi.snap with
        | true => exact hf.snap_gone (hsn.trans hsnap) (hS.unique _) n hn
        | false =>
            obtain ⟨n₀, hn₀⟩ := hf.moved.has_back hn
            exact hS.base sr vdi hvdi hsnap n₀ hn₀
    · exact absurd hD (((wp_of_error hd).1 hwp).2 m vdi hm hvdi rfl)

/-- A fresh snapshot can be deleted. -/
theorem deleted_iff_snapshot :
    Deleted (sampleEnv fun _ => false) "sr" "u" ⟨["tank", "vms"], "u"⟩
      (sampleWorld [.create "disk" "" 65536 false, .snapshot ""]) := by
  have halone : ∀ n ∈ (sampleWorld [.create "disk" "" 65536 false, .snapshot ""]).zfs.names,
      n ≠ ⟨["tank", "vms"], "u"⟩ →
        ((sampleWorld [.create "disk" "" 65536 false, .snapshot ""]).zfs.zvol n).origin = none := by
    decide +kernel
  have hm : (sampleEnv fun _ => false).srMeta "sr" = some ⟨"tank", ["vms"], none, none⟩ := rfl
  have hvdi : ⟨"u", "disk", "", false, 1, some 0, true, some 65536⟩ ∈
      ((sampleWorld [.create "disk" "" 65536 false, .snapshot ""]).db "sr").vdis := by decide +kernel
  refine (deleted_iff (reachable_sampleWorld _ (by decide +kernel)) hm hvdi
    ⟨fun _ => rfl, by decide +kernel, fun _ n hn o ho => ?_⟩).2
      fun _ => ⟨⟨⟨["tank", "vms"], ""⟩, by decide +kernel, by decide +kernel⟩, by decide +kernel⟩
  by_contra hne
  rw [halone n hn hne] at ho
  cases ho

/-- **A snapshot VDI cannot be deleted after its base VDI**: the clone that took the snapshot over is
the zvol of the snapshot VDI, which then has a snapshot. -/
theorem not_deleted_promoted :
    ¬ ∀ (E : Env) (sr : String) (w : World) (m : SrMeta) (vdi : Vdi), Reachable E w →
      E.srMeta sr = some m → vdi ∈ (w.db sr).vdis → Unused E ⟨m.datasetPath, vdi.uuid⟩ vdi w →
        Deleted E sr vdi.uuid ⟨m.datasetPath, vdi.uuid⟩ w := by
  intro h
  have hnone : ∀ n ∈ (sampleWorld
      [.create "disk" "" 65536 false, .snapshot "", .destroy ""]).zfs.names,
      ((sampleWorld [.create "disk" "" 65536 false, .snapshot "", .destroy ""]).zfs.zvol n).origin =
        none := by
    decide +kernel
  obtain ⟨w', hd, _⟩ := h (sampleEnv fun _ => false) "sr"
    (sampleWorld [.create "disk" "" 65536 false, .snapshot "", .destroy ""])
    ⟨"tank", ["vms"], none, none⟩ ⟨"u", "disk", "", false, 1, some 0, true, some 65536⟩
    (reachable_sampleWorld _ (by decide +kernel)) rfl (by decide +kernel)
    ⟨fun _ => rfl, by decide +kernel, fun _ n hn o ho => by rw [hnone n hn] at ho; cases ho⟩
  have hnot : returns (destroy (sampleEnv fun _ => false) "sr" "u")
      (sampleWorld [.create "disk" "" 65536 false, .snapshot "", .destroy ""]) = false := by
    decide +kernel
  rw [returns, hd] at hnot
  cases hnot

/-! ### The other VDIs -/

/-- What a destroy call of `vdi` does to the other VDIs.  Its row is deleted, and a VDI is added for
each of its snapshots that has no clone.  The other VDIs keep their rows, their zvols and the contents
of these.  Their snapshots keep their contents too, and are still found, unless the snapshot is handed
over to a clone outside the repository. -/
structure DestroyFrame (E : Env) (sr : String) (m : SrMeta) (vdi : Vdi) (w w' : World) : Prop where
  rows : ∃ new : List Vdi, new.length = orphans w.zfs ⟨m.datasetPath, vdi.uuid⟩ vdi ∧
    (new.map Vdi.uuid).Nodup ∧
    (∀ c ∈ new, c.name = "clone" ∧ c.snap = false ∧ c.parent_id = some vdi.volume_id ∧
      ∀ sr', ∀ v ∈ (w.db sr').vdis, v.uuid ≠ c.uuid) ∧
    ∀ c, c ∈ (w'.db sr).vdis ↔ c ∈ (w.db sr).vdis ∧ c.uuid ≠ vdi.uuid ∨ c ∈ new
  others : ∀ sr', sr' ≠ sr → w'.db sr' = w.db sr'
  zvol : ∀ sr' m', E.srMeta sr' = some m' → ∀ v ∈ (w.db sr').vdis, v.uuid ≠ vdi.uuid →
    (⟨m'.datasetPath, v.uuid⟩ : ZvolName) ∈ w'.zfs.names ∧
      (w'.zfs.zvol ⟨m'.datasetPath, v.uuid⟩).props.content =
        (w.zfs.zvol ⟨m'.datasetPath, v.uuid⟩).props.content
  snapshot : ∀ sr' m', E.srMeta sr' = some m' → ∀ v ∈ (w.db sr').vdis, v.uuid ≠ vdi.uuid →
    ∀ s, w.zfs.findSnapshot m'.datasetPath v.uuid = some s →
      (s.zvol = ⟨m.datasetPath, vdi.uuid⟩ →
        ∀ d ∈ (w.zfs.clones s).head?, d.Under m'.datasetPath) →
      ∃ s', w'.zfs.findSnapshot m'.datasetPath v.uuid = some s' ∧
        ∀ t, w.zfs.Owns s.zvol t → t.id = s.id → w'.zfs.Owns s'.zvol t

/-- A snapshot of another VDI is still found, with its contents. -/
theorem Moved.found {v : ZvolName} {k : ℕ} (h : Moved E w v w'.zfs k) {s : SnapName}
    {ds : List String} {id : String} (huniq : w.zfs.Unique id) (hid : id ≠ v.vol)
    (hs : w.zfs.findSnapshot ds id = some s)
    (hd : s.zvol = v → ∀ d ∈ (w.zfs.clones s).head?, d.Under ds) :
    ∃ s', w'.zfs.findSnapshot ds id = some s' ∧
      ∀ t, w.zfs.Owns s.zvol t → t.id = s.id → w'.zfs.Owns s'.zvol t := by
  obtain ⟨hunder, hhas, hsid⟩ := Store.findSnapshot_spec hs
  obtain ⟨n, sid⟩ := s
  obtain rfl : sid = id := hsid
  -- the snapshot stays at a zvol of the dataset
  have hat : ∀ t, w.zfs.Owns n t → t.id = sid → ∃ d : ZvolName, d.Under ds ∧ w'.zfs.Owns d t := by
    rintro t ht rfl
    rcases h.forth n t ht hid with ht' | ⟨rfl, d, hd', ht'⟩
    · exact ⟨n, hunder, ht'⟩
    · refine ⟨d, ?_, ht'⟩
      rcases hd' with hd' | ⟨_, hdd, _⟩
      · exact hd rfl d hd'
      · rw [ZvolName.Under, hdd]
        exact hunder
  have hhas' : ∀ {t d}, w'.zfs.Owns d t → t.id = sid → w'.zfs.Has ⟨d, sid⟩ := fun ht hti =>
    Store.has_iff_owns.2 ⟨_, ht, hti⟩
  obtain ⟨t, ht, hti⟩ := Store.has_iff_owns.1 hhas
  obtain ⟨d, hdu, hdt⟩ := hat t ht hti
  obtain ⟨s', hs'⟩ := Option.isSome_iff_exists.1
    (Store.findSnapshot_isSome.2 ⟨d, hdu, hhas' hdt hti⟩)
  obtain ⟨_, hs'has, hs'id⟩ := Store.findSnapshot_spec hs'
  obtain ⟨n', sid'⟩ := s'
  obtain rfl : sid' = sid := hs'id
  refine ⟨_, hs', fun t' ht' hti' => ?_⟩
  obtain ⟨d', _, hdt'⟩ := hat t' ht' hti'
  rw [h.unique _ huniq n' d' hs'has (hhas' hdt' hti')]
  exact hdt'

/-- **The frame of `destroy`.** -/
theorem destroy_frame (hw : Reachable E w) (hd : destroy E sr key w = .ok () w') :
    ∃ m vdi, E.srMeta sr = some m ∧ vdi ∈ (w.db sr).vdis ∧ vdi.uuid = key ∧
      DestroyFrame E sr m vdi w w' := by
  have hS := hw.settled
  obtain ⟨m, vdi, vdi', hm, hvdi, rfl, hsame, hf⟩ := (wp_of_ok hd).1 (wp_destroy hS.tidy sr key)
  refine ⟨m, vdi, hm, hvdi, rfl, ?_, hf.others, ?_, ?_⟩
  · obtain ⟨new, hspawn, hlen, hrows⟩ := hf.rows
    refine ⟨new, ?_, hspawn.nodup, fun c hc => ?_, hrows⟩
    · rw [hlen, orphans, orphans, hsame]
    · have heq := (hspawn.eq c hc).2
      refine ⟨by rw [heq]; rfl, by rw [heq]; rfl, ?_, fun sr' v hv hu => ?_⟩
      · rw [heq, hsame]
        rfl
      · exact hS.not_new hv (hu ▸ hspawn.uuid_new c hc)
  · intro sr' m' hm' v hv hne
    have hmem := hS.zvol sr' m' hm' v hv
    exact ⟨hf.moved.names _ hmem fun heq => hne (congrArg ZvolName.vol heq),
      by rw [hf.moved.props _ hmem]⟩
  · intro sr' m' _ v _ hne s hs hunder
    exact hf.moved.found (hS.unique v.uuid) hne hs hunder

/-- A disk is destroyed after it was snapshotted. -/
theorem destroy_frame_base :
    ∃ m vdi, (sampleEnv fun _ => false).srMeta "sr" = some m ∧
      vdi ∈ ((sampleWorld [.create "disk" "" 65536 false, .snapshot ""]).db "sr").vdis ∧
      vdi.uuid = "" ∧ DestroyFrame (sampleEnv fun _ => false) "sr" m vdi
        (sampleWorld [.create "disk" "" 65536 false, .snapshot ""])
        (after (destroy (sampleEnv fun _ => false) "sr" "")
          (sampleWorld [.create "disk" "" 65536 false, .snapshot ""])) :=
  destroy_frame (reachable_sampleWorld _ (by decide +kernel)) (ok_of_returns (by decide +kernel))

/-- **A destroy call can add a VDI**: a base VDI was cloned, the clone was destroyed, and the hidden
snapshot of the base VDI has no clone any more. -/
theorem not_rows_subset_orphan :
    ¬ ∀ (E : Env) (sr key : String) (w w' : World), Reachable E w →
      destroy E sr key w = .ok () w' →
        (∀ c, c ∈ (w'.db sr).vdis ↔ c ∈ (w.db sr).vdis ∧ c.uuid ≠ key) := by
  intro h
  have hrows := h (sampleEnv fun _ => false) "sr" ""
    (sampleWorld [.create "disk" "" 65536 false, .clone "", .destroy "u"]) _
    (reachable_sampleWorld _ (by decide +kernel)) (ok_of_returns (by decide +kernel))
  have hnot : ¬ ∀ c ∈ ((after (destroy (sampleEnv fun _ => false) "sr" "")
      (sampleWorld [.create "disk" "" 65536 false, .clone "", .destroy "u"])).db "sr").vdis,
      c ∈ ((sampleWorld [.create "disk" "" 65536 false, .clone "", .destroy "u"]).db "sr").vdis := by
    decide +kernel
  exact hnot fun c hc => ((hrows c).1 hc).1

end Volume

/-
**What `destroy` does to the store and to the metabase.**

Before the zvol of a base VDI goes, each of its snapshots is handed over to a clone of it: the first
one that is listed, or a new one, which becomes a VDI of its own.  The snapshots keep their names and
their contents; what changes is the zvol that owns them.

Main definitions:

* `Volume.Target` — the clone that takes a snapshot over;
* `Volume.Moved` — the store inside a destroy call, from its start to its end;
* `Volume.Selection` — the loop over the snapshots of a base VDI, after some rounds;
* `Volume.Settled` — the states between calls that succeed;
* `Volume.Undeletable`, `Volume.Completed` — what keeps a VDI from being destroyed; how a call ends.

Main results:

* `Volume.Moved.promote`, `Volume.Moved.destroy`, `Volume.Moved.destroySnap` — one command;
* `Volume.wp_selectClones`, `Volume.wp_promoteEach` — the loops;
* `Volume.wp_destroyObjects`, `Volume.wp_destroy` — **the call**: what it leaves behind, however it
  ends, and when it cannot fail.
-/

import Mathlib.Data.List.Forall2
import ZfsLive.VolumeCalls

set_option relaxedAutoImplicit false
set_option autoImplicit false

namespace Volume

open Zfs Wp

section

variable (E : Env)

/-! ### The store inside a destroy call -/

/-- The clone that takes a snapshot over: the first one there was when the call began, in `w₀`, or a
new one. -/
def Target (w₀ : World) (dataset : List String) (k : ℕ) (s : SnapName) (d : ZvolName) : Prop :=
  (w₀.zfs.clones s).head? = some d ∨
    w₀.zfs.clones s = [] ∧ d.dataset = dataset ∧ New E w₀ k d.vol

/-- What a destroy call has done to the store: it has added zvols, it has handed snapshots of the
zvol `v` over, and it may have destroyed `v` and the snapshot that has the same name. -/
structure Moved (w₀ : World) (v : ZvolName) (z : Store) (k : ℕ) : Prop where
  drawn_le : w₀.drawn ≤ k
  wf : WF z
  names : ∀ n ∈ w₀.zfs.names, n ≠ v → n ∈ z.names
  new_names : ∀ n ∈ z.names, n ∈ w₀.zfs.names ∨ New E w₀ k n.vol
  props : ∀ n ∈ w₀.zfs.names, (z.zvol n).props = (w₀.zfs.zvol n).props
  back : ∀ n t, z.Owns n t → w₀.zfs.Owns n t ∨
    w₀.zfs.Owns v t ∧ Target E w₀ v.dataset k ⟨v, t.id⟩ n
  forth : ∀ n t, w₀.zfs.Owns n t → t.id ≠ v.vol → z.Owns n t ∨
    n = v ∧ ∃ d, Target E w₀ v.dataset k ⟨v, t.id⟩ d ∧ z.Owns d t
  unique : ∀ id, w₀.zfs.Unique id → z.Unique id

/-- The VDI that is made for a snapshot without a clone. -/
def cloneRow (vdi : Vdi) (id : ℕ) (uuid : String) : Vdi :=
  (⟨some vdi.volume_id, false, vdi.vsize, none⟩ : VolumeRow).join id ⟨uuid, "clone", "", false⟩

/-- The VDIs that are made for the snapshots of `vdi`. -/
structure Spawned (w₀ : World) (dataset : List String) (vdi : Vdi) (z : Store) (k : ℕ)
    (new : List Vdi) : Prop where
  nodup : (new.map Vdi.uuid).Nodup
  eq : ∀ c ∈ new, c.volume_id ≠ vdi.volume_id ∧ c = cloneRow vdi c.volume_id c.uuid
  uuid_new : ∀ c ∈ new, New E w₀ k c.uuid
  zvol : ∀ c ∈ new, (⟨dataset, c.uuid⟩ : ZvolName) ∈ z.names

/-- The state in the loop over the snapshots of a base VDI, which started in `w₁`: `done` are the
snapshots it has seen, and `deps` the clones it has selected. -/
structure Selection (w₀ w₁ : World) (v : ZvolName) (vdi : Vdi) (done : List SnapName)
    (deps : List ZvolName) (w : World) : Prop where
  growth : Growth E w₀ w.zfs w.drawn
  same : ∀ n ∈ w₀.zfs.names, w.zfs.zvol n = w₀.zfs.zvol n
  owns : ∀ n t, w.zfs.Owns n t ↔ w₀.zfs.Owns n t
  clones : ∀ s, s ∉ done → w.zfs.clones s = w₀.zfs.clones s
  pairs : List.Forall₂ (fun s d => (d ∈ w.zfs.names ∧ (w.zfs.zvol d).origin = some s) ∧
    Target E w₀ v.dataset w.drawn s d) done deps
  rows : ∃ new, Spawned E w₀ v.dataset vdi w.zfs w.drawn new ∧
    new.length = (done.filter fun s => w₀.zfs.clones s = []).length ∧
    ∀ c, c ∈ w.work.vdis ↔ c ∈ w₁.work.vdis ∨ c ∈ new
  db : w.db = w₁.db
  destroyed : w.destroyed = w₁.destroyed
  commits : w.commits = w₁.commits

/-- The states between calls that succeed. -/
structure Settled (w : World) : Prop where
  tidy : Tidy E w
  zvol : ∀ sr m, E.srMeta sr = some m → ∀ v ∈ (w.db sr).vdis,
    (⟨m.datasetPath, v.uuid⟩ : ZvolName) ∈ w.zfs.names
  drawn : ∀ sr, ∀ v ∈ (w.db sr).vdis, ∃ j < w.drawn, v.uuid = E.uuid j
  apart : ∀ sr sr', ∀ v ∈ (w.db sr).vdis, ∀ v' ∈ (w.db sr').vdis, v.uuid = v'.uuid → sr = sr'
  unique : ∀ id, w.zfs.Unique id
  base : ∀ sr, ∀ v ∈ (w.db sr).vdis, v.snap = false → ∀ n, ¬ w.zfs.Has ⟨n, v.uuid⟩

/-- What keeps the destroy call of the VDI `vdi` with the zvol `v` from failing. -/
structure Deletable (w₀ : World) (v : ZvolName) (vdi : Vdi) : Prop where
  faultless : ∀ c, E.fault c = false
  settled : Settled E w₀
  mem : v ∈ w₀.zfs.names
  idle : (w₀.zfs.zvol v).props.busy = false
  alone : vdi.snap = true → ∀ n ∈ w₀.zfs.names, ∀ m,
    (w₀.zfs.zvol n).origin = some ⟨m, vdi.uuid⟩ → n = v
  under : vdi.snap = true → ∃ n : ZvolName, n.Under v.dataset ∧ w₀.zfs.Has ⟨n, vdi.uuid⟩
  bare : vdi.snap = true → (w₀.zfs.zvol v).snaps = []

/-- The number of VDIs that destroying `vdi` makes: the snapshots of a base VDI without a clone. -/
def orphans (z : Store) (v : ZvolName) (vdi : Vdi) : ℕ :=
  if vdi.snap then 0
  else (((z.zvol v).ids.map (SnapName.mk v)).filter fun s => z.clones s = []).length

/-- The call has raised before it destroyed anything. -/
structure Halted (w₀ w₁ : World) (v : ZvolName) (vdi : Vdi) (w : World) : Prop where
  moved : Moved E w₀ v w.zfs w.drawn
  keeps : w.zfs = w₀.zfs ∨ vdi.snap = false ∧ v ∈ w.zfs.names
  db : w.db = w₁.db
  destroyed : w.destroyed = w₁.destroyed
  commits : w.commits = w₁.commits

/-- The call has raised after it destroyed something, and its transaction is lost. -/
structure CutShort (w₁ w : World) : Prop where
  destroyed : w₁.destroyed < w.destroyed
  commits : w.commits = w₁.commits

/-- The zvols and snapshots of the VDI are gone; the transaction is still open. -/
structure Removed (w₀ w₁ : World) (v : ZvolName) (vdi : Vdi) (w : World) : Prop where
  moved : Moved E w₀ v w.zfs w.drawn
  rows : ∃ new, Spawned E w₀ v.dataset vdi w.zfs w.drawn new ∧ (∀ c ∈ new, c.uuid ≠ vdi.uuid) ∧
    new.length = orphans w₀.zfs v vdi ∧ ∀ c, c ∈ w.work.vdis ↔ c ∈ w₁.work.vdis ∨ c ∈ new
  vol_gone : (∀ c, E.fault c = false) → v ∉ w.zfs.names
  snap_gone : vdi.snap = true → w₀.zfs.Unique vdi.uuid → ∀ n, ¬ w.zfs.Has ⟨n, vdi.uuid⟩
  under : vdi.snap = true → ∃ n : ZvolName, n.Under v.dataset ∧ w₀.zfs.Has ⟨n, vdi.uuid⟩
  bare : vdi.snap = true → (∀ c, E.fault c = false) → v ∈ w₀.zfs.names →
    (w₀.zfs.zvol v).snaps = []
  db : w.db = w₁.db
  destroyed : w₁.destroyed < w.destroyed
  commits : w.commits = w₁.commits

/-- The call has committed that the VDI `key` is gone. -/
structure Finished (w₀ : World) (sr key : String) (v : ZvolName) (vdi : Vdi) (w : World) : Prop where
  moved : Moved E w₀ v w.zfs w.drawn
  rows : ∃ new, Spawned E w₀ v.dataset vdi w.zfs w.drawn new ∧
    new.length = orphans w₀.zfs v vdi ∧
      ∀ c, c ∈ (w.db sr).vdis ↔ c ∈ (w₀.db sr).vdis ∧ c.uuid ≠ key ∨ c ∈ new
  others : ∀ sr', sr' ≠ sr → w.db sr' = w₀.db sr'
  vol_gone : (∀ c, E.fault c = false) → v ∉ w.zfs.names
  snap_gone : vdi.snap = true → w₀.zfs.Unique key → ∀ n, ¬ w.zfs.Has ⟨n, key⟩
  under : vdi.snap = true → ∃ n : ZvolName, n.Under v.dataset ∧ w₀.zfs.Has ⟨n, key⟩
  bare : vdi.snap = true → (∀ c, E.fault c = false) → v ∈ w₀.zfs.names →
    (w₀.zfs.zvol v).snaps = []

end

variable {E : Env} {w₀ w w' : World} {v d : ZvolName} {z z' : Store} {k : ℕ} {t : Snap}
  {snaps : List Snap} {deps : List ZvolName}

theorem Target.mono {ds : List String} {s : SnapName} {k' : ℕ} (h : Target E w₀ ds k s d)
    (hk : k ≤ k') : Target E w₀ ds k' s d :=
  h.imp_right fun h => ⟨h.1, h.2.1, h.2.2.mono hk⟩

namespace Moved

theorem refl (hT : Tidy E w₀) : Moved E w₀ v w₀.zfs w₀.drawn where
  drawn_le := Nat.le_refl _
  wf := hT.wf
  names := fun _ hn _ => hn
  new_names := fun _ hn => .inl hn
  props := fun _ _ => rfl
  back := fun _ _ h => .inl h
  forth := fun _ _ h _ => .inl h
  unique := fun _ h => h

theorem mono {k' : ℕ} (h : Moved E w₀ v z k) (hk : k ≤ k') : Moved E w₀ v z k' where
  drawn_le := h.drawn_le.trans hk
  wf := h.wf
  names := h.names
  new_names := fun n hn => (h.new_names n hn).imp_right fun hn => hn.mono hk
  props := h.props
  back := fun n t ht => (h.back n t ht).imp_right fun ht => ⟨ht.1, ht.2.mono hk⟩
  forth := fun n t ht hid => (h.forth n t ht hid).imp_right
    fun ⟨hn, d, hd, ht⟩ => ⟨hn, d, hd.mono hk, ht⟩
  unique := h.unique

/-- Promoting a clone hands the snapshot over. -/
theorem promote (h : Moved E w₀ v z k) (hand : HandOver z v (t :: snaps) (d :: deps))
    (hd : Target E w₀ v.dataset k ⟨v, t.id⟩ d) (ht : w₀.zfs.Owns v t)
    (hok : z.promote d = .ok z') : Moved E w₀ v z' k := by
  obtain ⟨hnames, hprops⟩ := hand.keeps_head hok
  have howns := fun n u => hand.owns_head h.wf hok (n := n) (u := u)
  have hhas := fun r => hand.has_head h.wf hok (r := r)
  refine ⟨h.drawn_le, h.wf.promote hok, ?_, ?_, ?_, ?_, ?_, ?_⟩
  · exact fun n hn hnv => hnames ▸ h.names n hn hnv
  · exact fun n hn => h.new_names n (hnames ▸ hn)
  · exact fun n hn => (hprops n).trans (h.props n hn)
  · intro n u hu
    rcases (howns n u).1 hu with ⟨rfl, rfl⟩ | ⟨hu, _⟩
    · exact .inr ⟨ht, hd⟩
    · exact h.back n u hu
  · intro n u hu hid
    have hmoved : ∀ m, z.Owns m u → z'.Owns m u ∨ m = v ∧ z'.Owns d u ∧ u = t := by
      intro m hm
      by_cases hcase : m = v ∧ u = t
      · exact .inr ⟨hcase.1, (howns d u).2 (.inl ⟨rfl, hcase.2⟩), hcase.2⟩
      · exact .inl ((howns m u).2 (.inr ⟨hm, hcase⟩))
    rcases h.forth n u hu hid with hu' | ⟨hnv, d', hd', hu'⟩
    · rcases hmoved n hu' with hu'' | ⟨hnv, hu'', rfl⟩
      · exact .inl hu''
      · exact .inr ⟨hnv, d, hd, hu''⟩
    · rcases hmoved d' hu' with hu'' | ⟨_, hu'', rfl⟩
      · exact .inr ⟨hnv, d', hd', hu''⟩
      · exact .inr ⟨hnv, d, hd, hu''⟩
  · intro id hid n m hn hm
    have hz := h.unique id hid
    have hv := hand.has_first
    rcases (hhas _).1 hn with heq | ⟨hn, hne⟩ <;> rcases (hhas _).1 hm with heq' | ⟨hm, hne'⟩
    · exact congrArg SnapName.zvol (heq.trans heq'.symm)
    · obtain rfl : id = t.id := congrArg SnapName.id heq
      exact absurd (by rw [hz m v hm hv]) hne'
    · obtain rfl : id = t.id := congrArg SnapName.id heq'
      exact absurd (by rw [hz n v hn hv]) hne
    · exact hz n m hn hm

/-- The zvol of the VDI goes when it has no snapshots any more. -/
theorem destroy (h : Moved E w₀ v z k) (hok : z.destroy v = .ok z') : Moved E w₀ v z' k := by
  have hnames := fun n => Store.names_destroy hok (m := n)
  have howns := fun n u => Store.owns_destroy hok (m := n) (t := u)
  refine ⟨h.drawn_le, h.wf.destroy hok, ?_, ?_, ?_, ?_, ?_, ?_⟩
  · exact fun n hn hnv => (hnames n).2 ⟨h.names n hn hnv, hnv⟩
  · exact fun n hn => h.new_names n ((hnames n).1 hn).1
  · intro n hn
    obtain ⟨_, _, _, rfl⟩ := Store.destroy_ok hok
    exact h.props n hn
  · exact fun n u hu => h.back n u ((howns n u).1 hu)
  · exact fun n u hu hid => (h.forth n u hu hid).imp (howns n u).2
      fun ⟨hnv, d, hd, hu⟩ => ⟨hnv, d, hd, (howns d u).2 hu⟩
  · intro id hid n m hn hm
    rw [Store.has_destroy hok] at hn hm
    exact h.unique id hid n m hn hm

/-- The snapshot of the VDI goes. -/
theorem destroySnap (h : Moved E w₀ v z k) {s : SnapName} (hs : s.id = v.vol)
    (hok : z.destroySnap s = .ok z') : Moved E w₀ v z' k := by
  have hnames := fun n => Store.names_destroySnap hok (m := n)
  refine ⟨h.drawn_le, h.wf.destroySnap hok, ?_, ?_, ?_, ?_, ?_, ?_⟩
  · exact fun n hn hnv => (hnames n).2 (h.names n hn hnv)
  · exact fun n hn => h.new_names n ((hnames n).1 hn)
  · intro n hn
    rw [← h.props n hn, Store.props_destroySnap hok]
  · exact fun n u hu => h.back n u (Store.owns_of_destroySnap hok hu)
  · intro n u hu hid
    have hne : u.id ≠ s.id := hs ▸ hid
    exact (h.forth n u hu hid).imp (Store.owns_destroySnap_of_ne hok hne)
      fun ⟨hnv, d, hd, hu⟩ => ⟨hnv, d, hd, Store.owns_destroySnap_of_ne hok hne hu⟩
  · intro id hid n m hn hm
    rw [Store.has_destroySnap hok] at hn hm
    exact h.unique id hid n m hn.1 hm.1

/-- The uuids to come clash with nothing afterwards either. -/
theorem tidy (hT : Tidy E w₀) (h : Moved E w₀ v w.zfs w.drawn) : Tidy E w where
  wf := h.wf
  vol_ne := by
    intro n hn j hj heq
    rcases h.new_names n hn with hn | ⟨i, _, hi, hni⟩
    · exact hT.vol_ne n hn j (Nat.le_trans h.drawn_le hj) heq
    · have := E.uuid_injective (hni.symm.trans heq)
      omega
  snap_ne := by
    rintro ⟨n, id⟩ hs j hj heq
    obtain ⟨u, hu, rfl⟩ := Store.has_iff_owns.1 hs
    have hold : ∃ m, w₀.zfs.Owns m u := (h.back n u hu).elim (fun h => ⟨n, h⟩) fun h => ⟨v, h.1⟩
    obtain ⟨m, hm⟩ := hold
    exact hT.snap_ne _ (Store.has_iff_owns.2 ⟨u, hm, rfl⟩) j (Nat.le_trans h.drawn_le hj) heq

end Moved

/-! ### Selecting a clone for every snapshot -/

/-- The store and the metabases are the same. -/
structure World.Quiet (w w' : World) : Prop where
  zfs : w'.zfs = w.zfs
  db : w'.db = w.db
  drawn_le : w.drawn ≤ w'.drawn
  destroyed : w'.destroyed = w.destroyed
  commits : w'.commits = w.commits

theorem World.Frame.quiet (h : w.Frame w') : w.Quiet w' :=
  ⟨h.zfs, h.db, h.drawn.ge, h.destroyed, h.commits⟩

theorem World.Same.quiet (h : w.Same w') : w.Quiet w' := h.frame.quiet

theorem World.Drew.quiet (h : w.Drew w') : w.Quiet w' :=
  ⟨h.zfs, h.db, by rw [h.drawn]; omega, h.destroyed, h.commits⟩

theorem World.Quiet.trans {w'' : World} (h : w.Quiet w') (h' : w'.Quiet w'') : w.Quiet w'' :=
  ⟨h'.zfs.trans h.zfs, h'.db.trans h.db, h.drawn_le.trans h'.drawn_le,
    h'.destroyed.trans h.destroyed, h'.commits.trans h.commits⟩

theorem Spawned.mono {ds : List String} {vdi : Vdi} {new : List Vdi} {k' : ℕ}
    (h : Spawned E w₀ ds vdi z k new) (hk : k ≤ k') (hz : ∀ n ∈ z.names, n ∈ z'.names) :
    Spawned E w₀ ds vdi z' k' new :=
  ⟨h.nodup, h.eq, fun c hc => (h.uuid_new c hc).mono hk, fun c hc => hz _ (h.zvol c hc)⟩

namespace Selection

variable {w₁ : World} {vdi : Vdi} {done : List SnapName} {s : SnapName}

theorem refl (hT : Tidy E w₀) (hzfs : w₁.zfs = w₀.zfs) (hdrawn : w₁.drawn = w₀.drawn) :
    Selection E w₀ w₁ v vdi [] [] w₁ where
  growth := by rw [hzfs, hdrawn]; exact Growth.refl hT
  same := fun _ _ => by rw [hzfs]
  owns := fun _ _ => by rw [hzfs]
  clones := fun _ _ => by rw [hzfs]
  pairs := .nil
  rows := ⟨[], ⟨by simp, by simp, by simp, by simp⟩, rfl, by simp⟩
  db := rfl
  destroyed := rfl
  commits := rfl

/-- The selection so far is a state inside the destroy call. -/
theorem moved (h : Selection E w₀ w₁ v vdi done deps w) : Moved E w₀ v w.zfs w.drawn where
  drawn_le := h.growth.drawn_le
  wf := h.growth.wf
  names := fun n hn _ => h.growth.names n hn
  new_names := h.growth.new_names
  props := fun n hn => by rw [h.same n hn]
  back := fun n t ht => .inl ((h.owns n t).1 ht)
  forth := fun n t ht _ => .inl ((h.owns n t).2 ht)
  unique := by
    have hhas : ∀ n id, w.zfs.Has ⟨n, id⟩ ↔ w₀.zfs.Has ⟨n, id⟩ := fun n id => by
      simp only [Store.has_iff_owns, h.owns]
    intro id hid n m hn hm
    exact hid n m ((hhas n id).1 hn) ((hhas m id).1 hm)

theorem of_same (h : Selection E w₀ w₁ v vdi done deps w) (hs : w.Same w') :
    Selection E w₀ w₁ v vdi done deps w' where
  growth := by rw [hs.zfs, hs.drawn]; exact h.growth
  same := by rw [hs.zfs]; exact h.same
  owns := by rw [hs.zfs]; exact h.owns
  clones := by rw [hs.zfs]; exact h.clones
  pairs := by rw [hs.zfs, hs.drawn]; exact h.pairs
  rows := by rw [hs.zfs, hs.drawn, hs.work]; exact h.rows
  db := hs.db.trans h.db
  destroyed := hs.destroyed.trans h.destroyed
  commits := hs.commits.trans h.commits

/-- A round that finds a clone. -/
theorem found (h : Selection E w₀ w₁ v vdi done deps w) (hs : s ∉ done) {rest : List ZvolName}
    (hd : w.zfs.clones s = d :: rest) :
    Selection E w₀ w₁ v vdi (done ++ [s]) (deps ++ [d]) w := by
  have hmem : d ∈ w.zfs.clones s := hd ▸ List.mem_cons_self ..
  obtain ⟨hdn, _, hdo⟩ := Store.mem_clones.1 hmem
  have hold : w₀.zfs.clones s = d :: rest := (h.clones s hs).symm.trans hd
  refine ⟨h.growth, h.same, h.owns, fun r hr => ?_, ?_, ?_, h.db, h.destroyed, h.commits⟩
  · exact h.clones r fun hmem => hr (List.mem_append_left _ hmem)
  · exact List.rel_append h.pairs (.cons ⟨⟨hdn, hdo⟩, .inl (by rw [hold]; rfl)⟩ .nil)
  · obtain ⟨new, hspawn, hlen, hrows⟩ := h.rows
    exact ⟨new, hspawn, by simp [hlen, hold], hrows⟩

/-- A round that makes a clone. -/
theorem cloned (hT : Tidy E w₀) (h : Selection E w₀ w₁ v vdi done deps w) (hs : s ∉ done)
    (hnil : w.zfs.clones s = []) (hvdi : vdi.volume_id < w.work.next)
    (hz : w.zfs.clone s ⟨v.dataset, E.uuid w.drawn⟩ = .ok w'.zfs)
    (hdrawn : w'.drawn = w.drawn + 1) (hdb : w'.db = w.db)
    (hwork : (w.work.insertVolume (some vdi.volume_id) false vdi.vsize).insertVdi
      ⟨E.uuid w.drawn, "clone", "", false⟩ w.work.next = some w'.work)
    (hdest : w'.destroyed = w.destroyed) (hcom : w'.commits = w.commits) :
    Selection E w₀ w₁ v vdi (done ++ [s]) (deps ++ [⟨v.dataset, E.uuid w.drawn⟩]) w' := by
  obtain ⟨hnew, hvol, _⟩ := h.growth.next_new hT
  obtain ⟨hhas, hfresh, _, t, _, _, heq⟩ := Store.clone_ok hz
  have hne : ∀ n ∈ w.zfs.names, n ≠ ⟨v.dataset, E.uuid w.drawn⟩ := fun n hn heq =>
    hfresh (heq ▸ hn)
  have hnames := fun n => Store.names_clone hz (m := n)
  have hle : w.drawn ≤ w'.drawn := by omega
  have hgrowth : Growth E w₀ w'.zfs w'.drawn := hdrawn ▸ h.growth.draw.clone hT hnew hz
  refine ⟨hgrowth, ?_, ?_, ?_, ?_, ?_, hdb.trans h.db, hdest.trans h.destroyed, hcom.trans h.commits⟩
  · intro n hn
    rw [heq, Store.zvol_put_of_ne _ _ (hne n (h.growth.names n hn))]
    exact h.same n hn
  · intro n u
    rw [← h.owns n u, heq]
    by_cases hn : n = ⟨v.dataset, E.uuid w.drawn⟩
    · subst hn
      simp [Store.Owns, hfresh]
    · simp [Store.Owns, Store.zvol_put_of_ne, hn]
  · intro r hr
    rw [List.mem_append, not_or, List.mem_singleton] at hr
    rw [Store.clones_clone hz hr.2]
    exact h.clones r hr.1
  · refine List.rel_append (h.pairs.imp fun r e hre => ?_) (.cons ⟨⟨?_, ?_⟩, .inr ⟨?_, rfl, ?_⟩⟩ .nil)
    · refine ⟨⟨(hnames e).2 (.inr hre.1.1), ?_⟩, hre.2.mono hle⟩
      rw [heq, Store.zvol_put_of_ne _ _ (hne e hre.1.1)]
      exact hre.1.2
    · exact (hnames _).2 (.inl rfl)
    · rw [heq, Store.zvol_put_self]
    · rw [← h.clones s hs, hnil]
    · exact hdrawn ▸ hnew
  · obtain ⟨new, hspawn, hlen, hrows⟩ := h.rows
    have hspawn' := hspawn.mono hle fun n hn => (hnames n).2 (.inr hn)
    have hrow := fun c => Metabase.mem_vdis_insertBoth hwork (v := c)
    refine ⟨cloneRow vdi w.work.next (E.uuid w.drawn) :: new, ⟨?_, ?_, ?_, ?_⟩, ?_, fun c => ?_⟩
    · rw [List.map_cons, List.nodup_cons]
      refine ⟨fun hmem => ?_, hspawn.nodup⟩
      obtain ⟨c, hc, hcu⟩ := List.mem_map.1 hmem
      exact hvol _ (hspawn.zvol c hc) hcu
    · refine List.forall_mem_cons.2 ⟨⟨?_, rfl⟩, hspawn.eq⟩
      exact Nat.ne_of_gt hvdi
    · exact List.forall_mem_cons.2 ⟨hdrawn ▸ hnew, hspawn'.uuid_new⟩
    · exact List.forall_mem_cons.2 ⟨(hnames _).2 (.inl rfl), hspawn'.zvol⟩
    · have hold : w₀.zfs.clones s = [] := (h.clones s hs).symm.trans hnil
      simp [hlen, hold]
    · rw [hrow, hrows, List.mem_cons, or_left_comm]
      rfl

end Selection

section

variable {α : Type} {Q : α → World → Prop} {X : VolError → World → Prop} {w₁ : World} {vdi : Vdi}
  {sr : String}

theorem Selection.halted {done : List SnapName} (h : Selection E w₀ w₁ v vdi done deps w)
    (hv : v ∈ w₀.zfs.names) (hsnap : vdi.snap = false) (hq : w.Quiet w') :
    Halted E w₀ w₁ v vdi w' where
  moved := by
    rw [hq.zfs]
    exact h.moved.mono hq.drawn_le
  keeps := .inr ⟨hsnap, by rw [hq.zfs]; exact h.growth.names v hv⟩
  db := hq.db.trans h.db
  destroyed := hq.destroyed.trans h.destroyed
  commits := hq.commits.trans h.commits

/-- Between calls that succeed, a round of the selection is not refused. -/
theorem Selection.exists_ok {done : List SnapName} {s : SnapName}
    (hold : ∀ c ∈ w₁.work.vdis, Old (w₀.db sr) c) (hS : Settled E w₀)
    (h : Selection E w₀ w₁ v vdi done deps w) (hs : s.zvol = v) (hhas : w₀.zfs.Has s) :
    (∀ c ∈ w.work.vdis, c.uuid ≠ E.uuid w.drawn) ∧
      ∃ z, w.zfs.clone s ⟨v.dataset, E.uuid w.drawn⟩ = .ok z := by
  obtain ⟨_, hvol, _⟩ := h.growth.next_new hS.tidy
  obtain ⟨new, hspawn, _, hrows⟩ := h.rows
  refine ⟨fun c hc heq => ?_, Store.exists_clone ?_ (fun hmem => hvol _ hmem rfl) (by rw [hs]; rfl)⟩
  · rcases (hrows c).1 hc with hc | hc
    · obtain ⟨c₀, hc₀, huuid, _⟩ := hold c hc
      obtain ⟨j, hj, hcj⟩ := hS.drawn sr c₀ hc₀
      have := E.uuid_injective (hcj.symm.trans (huuid.trans heq))
      have := h.growth.drawn_le
      omega
    · exact hvol _ (hspawn.zvol c hc) heq
  · obtain ⟨n, id⟩ := s
    obtain ⟨u, hu, hid⟩ := Store.has_iff_owns.1 hhas
    exact Store.has_iff_owns.2 ⟨u, (h.owns n u).2 hu, hid⟩

theorem wp_selectClone {done : List SnapName} {s : SnapName} {Q : ZvolName → World → Prop}
    (hT : Tidy E w₀) (hold : ∀ c ∈ w₁.work.vdis, Old (w₀.db sr) c)
    (hvdi : ∃ c ∈ w₁.work.vdis, c.volume_id = vdi.volume_id) (hv : v ∈ w₀.zfs.names)
    (hsnap : vdi.snap = false) (h : Selection E w₀ w₁ v vdi done deps w) (hs : s ∉ done)
    (hsv : s.zvol = v) (hhas : w₀.zfs.Has s)
    (hX : ∀ e w', Halted E w₀ w₁ v vdi w' → ¬ Deletable E w₀ v vdi → X e w')
    (hQ : ∀ d w', Selection E w₀ w₁ v vdi (done ++ [s]) (deps ++ [d]) w' → Q d w') :
    wp (selectClone E v.dataset vdi s) Q X w := by
  have hfault : (∃ c, E.fault c = true) → ∀ w', w.Quiet w' → X .fault w' := fun ⟨c, hc⟩ w' hq =>
    hX _ w' (h.halted hv hsnap hq) fun hD => by simp [hD.faultless c] at hc
  rw [selectClone, wp_bind]
  refine wp_zfsGet (fun hf w' hs => hfault hf w' hs.quiet) (fun e _ he => by cases he)
    fun clones w₂ hclones hs₂ => ?_
  obtain rfl : w.zfs.clones s = clones := by simpa using hclones
  rcases hd : w.zfs.clones s with _ | ⟨d, rest⟩
  · simp only [wp_bind, cloneSnapshot, wp_pure]
    have hnext : vdi.volume_id < w.work.next := by
      obtain ⟨new, _, _, hrows⟩ := h.rows
      obtain ⟨c, hc, hid⟩ := hvdi
      exact hid ▸ Metabase.volume_id_lt ((hrows c).2 (.inl hc))
    refine wp_dbCmd (fun hf w' hs => hfault hf w' (hs₂.trans hs).quiet) (fun e _ he => by cases he)
      fun id db w₃ hins hwork₃ hf₃ => ?_
    cases hins
    have hq₃ := hs₂.quiet.trans hf₃.quiet
    refine wp_uuid4 fun w₄ hd₄ => ?_
    have hdrawn₃ : w₃.drawn = w.drawn := hf₃.drawn.trans hs₂.drawn
    rw [hdrawn₃, hs₂.work]
    have hwork₄ : w₄.work = w.work.insertVolume (some vdi.volume_id) false vdi.vsize := by
      rw [hd₄.work, hwork₃, hs₂.work]
    have hq₄ := hq₃.trans hd₄.quiet
    refine wp_dbCmd (fun hf w' hs => hfault hf w' (hq₄.trans hs.quiet)) (fun e w' he hs => ?_)
      fun _ db w₅ hvdi hwork₅ hf₅ => ?_
    · refine hX _ _ (h.halted hv hsnap (hq₄.trans hs.quiet)) fun hD => ?_
      have hne := (h.exists_ok hold hD.settled hsv hhas).1
      rw [hwork₄] at he
      obtain ⟨db', hdb'⟩ : ∃ db', (w.work.insertVolume (some vdi.volume_id) false
          vdi.vsize).insertVdi ⟨E.uuid w.drawn, "clone", "", false⟩ w.work.next = some db' :=
        Metabase.exists_insertVdi fun c hc => hne c (Metabase.mem_vdis_insertVolume.1 hc)
      simp [hdb'] at he
    · split at hvdi
      · next db' hdb =>
        cases hvdi
        have hq₅ := hq₄.trans hf₅.quiet
        refine wp_zfsCmd (fun hf w' hs => hfault hf w' (hq₅.trans hs.quiet)) (fun e w' he hs => ?_)
          fun w₆ hz hs₆ => ?_
        · refine hX _ _ (h.halted hv hsnap (hq₅.trans hs.quiet)) fun hD => ?_
          obtain ⟨z, hz⟩ := (h.exists_ok hold hD.settled hsv hhas).2
          rw [hq₅.zfs, hz] at he
          cases he
        · rw [hq₅.zfs] at hz
          refine hQ _ _ (h.cloned hT hs hd hnext hz ?_ ?_ ?_ ?_ ?_)
          · rw [hs₆.drawn, hf₅.drawn, hd₄.drawn, hdrawn₃]
          · exact hs₆.db.trans hq₅.db
          · rw [hs₆.work, hwork₅, ← hdb, hwork₄]
          · exact hs₆.destroyed.trans hq₅.destroyed
          · exact hs₆.commits.trans hq₅.commits
      · cases hvdi
  · exact hQ _ _ ((h.found hs hd).of_same hs₂)

/-- **The loop over the snapshots.** -/
theorem wp_selectClones (hT : Tidy E w₀) (hold : ∀ c ∈ w₁.work.vdis, Old (w₀.db sr) c)
    (hvdi : ∃ c ∈ w₁.work.vdis, c.volume_id = vdi.volume_id) (hv : v ∈ w₀.zfs.names)
    (hsnap : vdi.snap = false)
    (hX : ∀ e w', Halted E w₀ w₁ v vdi w' → ¬ Deletable E w₀ v vdi → X e w') (ss : List SnapName) :
    ∀ (done : List SnapName) (deps : List ZvolName) (w : World)
      (Q : List ZvolName → World → Prop), Selection E w₀ w₁ v vdi done deps w → (done ++ ss).Nodup →
      (∀ s ∈ ss, s.zvol = v ∧ w₀.zfs.Has s) →
      (∀ deps' w', Selection E w₀ w₁ v vdi (done ++ ss) (deps ++ deps') w' → Q deps' w') →
      wp (selectClones E v.dataset vdi ss) Q X w := by
  induction ss with
  | nil =>
      intro done deps w Q h _ _ hQ
      exact hQ [] w (by simpa using h)
  | cons s ss ih =>
      intro done deps w Q h hnodup hss hQ
      have hs : s ∉ done := fun hmem =>
        (List.nodup_append.1 hnodup).2.2 s hmem s (List.mem_cons_self ..) rfl
      obtain ⟨hsv, hhas⟩ := hss s (List.mem_cons_self ..)
      rw [selectClones, wp_bind]
      refine wp_selectClone hT hold hvdi hv hsnap h hs hsv hhas hX fun d w₂ h₂ => ?_
      rw [wp_bind]
      refine ih _ _ w₂ _ h₂ (by simpa using hnodup)
        (fun r hr => hss r (List.mem_cons_of_mem _ hr)) fun deps' w₃ h₃ => ?_
      exact hQ _ _ (by simpa using h₃)

/-- **The loop over the selected clones.** -/
theorem wp_promoteEach {Q : Unit → World → Prop} (hsnap : vdi.snap = false)
    (hX : ∀ e w', Halted E w₀ w₁ v vdi w' → ¬ Deletable E w₀ v vdi → X e w')
    (hdb : w.db = w₁.db) (hdest : w.destroyed = w₁.destroyed) (hcom : w.commits = w₁.commits)
    (snaps : List Snap) :
    ∀ (deps : List ZvolName) (w₂ : World), w.SameDb w₂ → HandOver w₂.zfs v snaps deps →
      (∀ p ∈ snaps.zip deps, Target E w₀ v.dataset w.drawn ⟨v, p.1.id⟩ p.2 ∧ w₀.zfs.Owns v p.1) →
      Moved E w₀ v w₂.zfs w.drawn →
      (∀ w', w.SameDb w' → HandOver w'.zfs v [] [] → w'.zfs.names = w₂.zfs.names →
        Moved E w₀ v w'.zfs w.drawn → Q () w') →
      wp (promoteEach E deps) Q X w₂ := by
  induction snaps with
  | nil =>
      intro deps w₂ hsame hand _ hmoved hQ
      obtain rfl : deps = [] := List.length_eq_zero_iff.1 hand.length_eq.symm
      exact hQ w₂ hsame hand rfl hmoved
  | cons t snaps ih =>
      intro deps w₂ hsame hand htarget hmoved hQ
      rcases deps with _ | ⟨d, deps⟩
      · cases hand.length_eq
      have hhalt : ∀ w', w₂.Same w' → Halted E w₀ w₁ v vdi w' := fun w' hs =>
        ⟨by rw [hs.zfs, hs.drawn, hsame.drawn]; exact hmoved, .inr ⟨hsnap, by rw [hs.zfs]; exact hand.mem⟩,
          (hs.db.trans hsame.db).trans hdb, (hs.destroyed.trans hsame.destroyed).trans hdest,
          (hs.commits.trans hsame.commits).trans hcom⟩
      obtain ⟨hd, ht⟩ := htarget (t, d) (List.mem_cons_self ..)
      rw [promoteEach, wp_bind]
      refine wp_zfsCmd (fun ⟨c, hc⟩ w' hs => ?_) (fun e w' he hs => ?_) fun w₃ hz hs₃ => ?_
      · exact hX _ _ (hhalt w' hs) fun hD => by simp [hD.faultless c] at hc
      · -- the clone has no snapshot of this name, since the snapshot has it
        refine hX _ _ (hhalt w' hs) fun hD => ?_
        have hne := hmoved.wf.origin_ne hand.head.1 hand.head.2
        obtain ⟨z, hz⟩ := hand.exists_promote fun hmem =>
          hne (hmoved.unique t.id (hD.settled.unique t.id) _ _ hand.has_first ⟨hand.head.1, hmem⟩)
        rw [hz] at he
        cases he
      · refine ih deps w₃ (hsame.trans hs₃) (hand.tail hmoved.wf hz)
          (fun p hp => htarget p (List.mem_cons_of_mem _ hp)) (hmoved.promote hand hd ht hz)
          fun w' hsame' hand' hnames hmoved' => ?_
        exact hQ w' hsame' hand' (hnames.trans (hand.keeps_head hz).1) hmoved'

/-! ### The branches -/

theorem Halted.of_same (h : Halted E w₀ w₁ v vdi w) (hs : w.Same w') : Halted E w₀ w₁ v vdi w' where
  moved := by rw [hs.zfs, hs.drawn]; exact h.moved
  keeps := by rw [hs.zfs]; exact h.keeps
  db := hs.db.trans h.db
  destroyed := hs.destroyed.trans h.destroyed
  commits := hs.commits.trans h.commits

theorem CutShort.of_same (h : CutShort w₁ w) (hs : w.Same w') : CutShort w₁ w' :=
  ⟨hs.destroyed ▸ h.destroyed, hs.commits.trans h.commits⟩

/-- The call has not touched anything yet. -/
theorem Halted.start (hT : Tidy E w₀) (hzfs : w₁.zfs = w₀.zfs) (hdrawn : w₁.drawn = w₀.drawn) :
    Halted E w₀ w₁ v vdi w₁ :=
  ⟨by rw [hzfs, hdrawn]; exact Moved.refl hT, .inl hzfs, rfl, rfl, rfl⟩

/-- What the selection of clones leaves for the promotions. -/
theorem Selection.handOver (h : Selection E w₀ w₁ v vdi
      (((w₀.zfs.zvol v).ids).map (SnapName.mk v)) deps w) (hv : v ∈ w₀.zfs.names) :
    HandOver w.zfs v (w₀.zfs.zvol v).snaps deps ∧ ∀ p ∈ (w₀.zfs.zvol v).snaps.zip deps,
      Target E w₀ v.dataset w.drawn ⟨v, p.1.id⟩ p.2 ∧ w₀.zfs.Owns v p.1 := by
  have hpairs := h.pairs
  rw [Zvol.ids, List.map_map, List.forall₂_map_left_iff, List.forall₂_iff_zip] at hpairs
  obtain ⟨hlen, hzip⟩ := hpairs
  refine ⟨⟨h.growth.names v hv, by rw [h.same v hv], hlen, fun p hp => (hzip hp).1⟩, fun p hp => ?_⟩
  exact ⟨(hzip hp).2, hv, (List.of_mem_zip hp).1⟩

/-- The zvol after the promotions. -/
theorem Selection.promoted {done : List SnapName} (h : Selection E w₀ w₁ v vdi done deps w) (hsnap : vdi.snap = false)
    (hs : w.SameDb w') (hmem : v ∈ w'.zfs.names) (hmoved : Moved E w₀ v w'.zfs w.drawn) :
    Halted E w₀ w₁ v vdi w' where
  moved := by rw [hs.drawn]; exact hmoved
  keeps := .inr ⟨hsnap, hmem⟩
  db := hs.db.trans h.db
  destroyed := hs.destroyed.trans h.destroyed
  commits := hs.commits.trans h.commits

/-- After the promotions the zvol has no snapshots left, and goes. -/
theorem wp_destroyBare {Q : Unit → World → Prop} {w₂ : World} (hT : Tidy E w₀)
    (hv : v ∈ w₀.zfs.names) (hvol : v.vol = vdi.uuid) (hsnap : vdi.snap = false)
    (hsel : Selection E w₀ w₁ v vdi ((w₀.zfs.zvol v).ids.map (SnapName.mk v)) deps w)
    (hs : w.SameDb w₂) (hand : HandOver w₂.zfs v [] []) (hnames₂ : w₂.zfs.names = w.zfs.names)
    (hmoved : Moved E w₀ v w₂.zfs w.drawn)
    (hX : ∀ e w', Halted E w₀ w₁ v vdi w' → ¬ Deletable E w₀ v vdi → X e w')
    (hQ : ∀ w', Removed E w₀ w₁ v vdi w' → Q () w') : wp (destroyZvol E (.zvol v)) Q X w₂ := by
  have hhalt := hsel.promoted hsnap hs hand.mem hmoved
  refine wp_destroyZvol (fun ⟨c, hc⟩ w' hs' => ?_) (fun e w' he hs' => ?_) fun w₃ hz hd => hQ w₃ ?_
  · exact hX _ _ (hhalt.of_same hs') fun hD => by simp [hD.faultless c] at hc
  · refine hX _ _ (hhalt.of_same hs') fun hD => ?_
    have hidle : (w₂.zfs.zvol v).props.busy = false := by rw [hmoved.props v hv]; exact hD.idle
    obtain ⟨z, hz⟩ := Store.exists_destroy hand.mem hidle hand.owns
    rw [ZfsObject.destroy, hz] at he
    cases he
  · have hnames := fun n => Store.names_destroy hz (m := n)
    obtain ⟨new, hspawn, hlen, hrows⟩ := hsel.rows
    have hne : ∀ c ∈ new, c.uuid ≠ v.vol := fun c hc heq =>
      hT.not_mem_of_new (heq ▸ hspawn.uuid_new c hc) hv
    refine ⟨?_, ⟨new, ⟨hspawn.nodup, hspawn.eq, ?_, fun c hc => ?_⟩, hvol ▸ hne, ?_, fun c => ?_⟩,
      ?_, ?_, ?_, ?_, ?_, ?_, ?_⟩
    · rw [hd.drawn, hs.drawn]
      exact hmoved.destroy hz
    · rw [hd.drawn, hs.drawn]
      exact hspawn.uuid_new
    · exact (hnames _).2 ⟨by rw [hnames₂]; exact hspawn.zvol c hc,
        fun heq => hne c hc (congrArg ZvolName.vol heq)⟩
    · rw [hlen, orphans, hsnap]
      rfl
    · rw [hd.work, hs.work]
      exact hrows c
    · exact fun _ hmem => ((hnames v).1 hmem).2 rfl
    · exact fun h => by rw [hsnap] at h; cases h
    · exact fun h => by rw [hsnap] at h; cases h
    · exact fun h => by rw [hsnap] at h; cases h
    · exact hd.db.trans (hs.db.trans hsel.db)
    · rw [hd.destroyed, hs.destroyed, hsel.destroyed]
      exact Nat.lt_succ_self _
    · exact hd.commits.trans (hs.commits.trans hsel.commits)

theorem wp_destroyBaseVdi {Q : Unit → World → Prop} (hT : Tidy E w₀) (hzfs : w₁.zfs = w₀.zfs)
    (hdrawn : w₁.drawn = w₀.drawn) (hold : ∀ c ∈ w₁.work.vdis, Old (w₀.db sr) c)
    (hvdi : ∃ c ∈ w₁.work.vdis, c.volume_id = vdi.volume_id) {ds : List String}
    (hvds : v = ⟨ds, vdi.uuid⟩) (hsnap : vdi.snap = false)
    (hX : ∀ e w', Halted E w₀ w₁ v vdi w' → ¬ Deletable E w₀ v vdi → X e w')
    (hQ : ∀ w', Removed E w₀ w₁ v vdi w' → Q () w') : wp (destroyBaseVdi E ds vdi) Q X w₁ := by
  obtain rfl : ds = v.dataset := by rw [hvds]
  have hvol : v.vol = vdi.uuid := by rw [hvds]
  have hstart : Halted E w₀ w₁ v vdi w₁ := Halted.start hT hzfs hdrawn
  have hfault : ∀ w₂, Halted E w₀ w₁ v vdi w₂ → (∃ c, E.fault c = true) → ∀ w', w₂.Same w' →
      X .fault w' := fun w₂ h₂ ⟨c, hc⟩ w' hs =>
    hX _ w' (h₂.of_same hs) fun hD => by simp [hD.faultless c] at hc
  simp only [destroyBaseVdi, ← hvds]
  rw [wp_bind]
  refine wp_zfsGet (hfault w₁ hstart) (fun e _ he => by cases he) fun _ w₂ _ hs₂ => ?_
  have hstart₂ := hstart.of_same hs₂
  rw [wp_bind]
  refine wp_zfsGet (hfault w₂ hstart₂) (fun e w' he hs => hX _ _ (hstart₂.of_same hs) fun hD => ?_)
    fun ss w₃ hss hs₃ => ?_
  · rw [hs₂.zfs, hzfs, Store.snapshots, if_pos hD.mem] at he
    cases he
  rw [hs₂.zfs, hzfs, Store.snapshots] at hss
  split at hss
  · next hv =>
    cases hss
    have hsel : Selection E w₀ w₁ v vdi [] [] w₃ :=
      (Selection.refl hT hzfs hdrawn).of_same (hs₂.trans hs₃)
    rw [wp_bind]
    have hnodup : (((w₀.zfs.zvol v).ids).map (SnapName.mk v)).Nodup :=
      (hT.wf.nodup v hv).map fun _ _ h => congrArg SnapName.id h
    refine wp_selectClones hT hold hvdi hv hsnap hX _ [] [] w₃ _ hsel (by simpa using hnodup) ?_
      fun deps w₄ hsel₄ => ?_
    · rintro s hs
      obtain ⟨id, hid, rfl⟩ := List.mem_map.1 hs
      exact ⟨rfl, hv, hid⟩
    simp only [List.nil_append] at hsel₄
    obtain ⟨hand, htarget⟩ := hsel₄.handOver hv
    rw [wp_bind, promoteClones, wp_ite]
    constructor
    · intro _
      rw [wp_bind]
      refine wp_promoteEach hsnap hX hsel₄.db hsel₄.destroyed hsel₄.commits _ deps w₄
        ⟨rfl, rfl, rfl, rfl, rfl⟩ hand htarget hsel₄.moved fun w₅ hs₅ hand₅ hnames₅ hmoved₅ => ?_
      have hhalt₅ := hsel₄.promoted hsnap hs₅ hand₅.mem hmoved₅
      refine wp_zfsGet (hfault w₅ hhalt₅) (fun e _ he => by cases he) fun _ w₆ _ hs₆ => ?_
      exact wp_destroyBare hT hv hvol hsnap hsel₄ (hs₅.trans hs₆.sameDb)
        (by rw [hs₆.zfs]; exact hand₅) (by rw [hs₆.zfs, hnames₅]) (by rw [hs₆.zfs]; exact hmoved₅)
        hX hQ
    · intro hnil
      obtain rfl : deps = [] := by simpa using hnil
      have hsnaps : (w₀.zfs.zvol v).snaps = [] := List.length_eq_zero_iff.1 hand.length_eq
      rw [hsnaps] at hand
      exact wp_destroyBare hT hv hvol hsnap hsel₄ ⟨rfl, rfl, rfl, rfl, rfl⟩ hand rfl hsel₄.moved
        hX hQ
  · cases hss

/-- The snapshot of a snapshot VDI. -/
structure SnapshotOf (w₀ : World) (v : ZvolName) (vdi : Vdi) (s : SnapName) : Prop where
  eq : s = ⟨s.zvol, vdi.uuid⟩
  under : s.zvol.Under v.dataset
  has : w₀.zfs.Has s

/-- The state in which only the snapshot of a snapshot VDI is still to be destroyed. -/
structure LastLeft (E : Env) (w₀ w₁ : World) (v : ZvolName) (vdi : Vdi) (w : World) : Prop where
  db : w.db = w₁.db
  work : w.work = w₁.work
  destroyed_le : w₁.destroyed ≤ w.destroyed
  commits : w.commits = w₁.commits
  moved : Moved E w₀ v w.zfs w.drawn
  has : ∀ r, w.zfs.Has r ↔ w₀.zfs.Has r
  ended : Halted E w₀ w₁ v vdi w ∨ CutShort w₁ w
  clean : Deletable E w₀ v vdi → v ∉ w.zfs.names ∧ ∀ n ∈ w.zfs.names,
    n ∈ w₀.zfs.names ∧ (w.zfs.zvol n).origin = (w₀.zfs.zvol n).origin
  gone : (∀ c, E.fault c = false) → v ∉ w.zfs.names
  bare : (∀ c, E.fault c = false) → v ∈ w₀.zfs.names → (w₀.zfs.zvol v).snaps = []

/-- Nothing was destroyed, since the clone is not there. -/
theorem LastLeft.of_same (hT : Tidy E w₀) (hzfs : w₁.zfs = w₀.zfs) (hdrawn : w₁.drawn = w₀.drawn)
    (hs : w₁.Same w) (hv : (∀ c, E.fault c = false) → v ∉ w₀.zfs.names) :
    LastLeft E w₀ w₁ v vdi w := by
  have hsame : w.zfs = w₀.zfs := hs.zfs.trans hzfs
  refine ⟨hs.db, hs.work, hs.destroyed.ge, hs.commits, ?_, fun r => by rw [hsame],
    .inl ((Halted.start hT hzfs hdrawn).of_same hs), fun hD => absurd hD.mem (hv hD.faultless),
    fun hf => ?_, fun hf hmem => absurd hmem (hv hf)⟩
  · rw [hsame, hs.drawn.trans hdrawn]
    exact Moved.refl hT
  · rw [hsame]
    exact hv hf

/-- The clone was destroyed. -/
theorem LastLeft.of_destroyed (hT : Tidy E w₀) (hdrawn : w₁.drawn = w₀.drawn) {w₂ : World}
    (hs : w₁.Same w) (hz : w₀.zfs.destroy v = .ok w₂.zfs) (hd : w.Destroyed w₂) :
    LastLeft E w₀ w₁ v vdi w₂ := by
  have hnames := fun n => Store.names_destroy hz (m := n)
  have hlt : w₁.destroyed < w₂.destroyed := by
    rw [hd.destroyed, hs.destroyed]
    omega
  have hcom : w₂.commits = w₁.commits := hd.commits.trans hs.commits
  have hgone : v ∉ w₂.zfs.names := fun hmem => ((hnames v).1 hmem).2 rfl
  refine ⟨hd.db.trans hs.db, hd.work.trans hs.work, hlt.le, hcom, ?_, fun r => Store.has_destroy hz,
    .inr ⟨hlt, hcom⟩, fun _ => ⟨hgone, fun n hn => ⟨((hnames n).1 hn).1, ?_⟩⟩, fun _ => hgone,
    fun _ _ => (Store.destroy_ok hz).2.2.1⟩
  · rw [hd.drawn.trans (hs.drawn.trans hdrawn)]
    exact (Moved.refl hT).destroy hz
  · rw [(Store.destroy_ok hz).2.2.2]

/-- The snapshot goes after the clone of the VDI. -/
theorem wp_destroyLast {Q : Unit → World → Prop} {w₂ : World} {s : SnapName}
    (hvol : vdi.uuid = v.vol) (hsnap : vdi.snap = true) (hso : SnapshotOf w₀ v vdi s)
    (hl : LastLeft E w₀ w₁ v vdi w₂)
    (hX : ∀ e w', Halted E w₀ w₁ v vdi w' ∨ CutShort w₁ w' → ¬ Deletable E w₀ v vdi → X e w')
    (hQ : ∀ w', Removed E w₀ w₁ v vdi w' → Q () w') : wp (destroyZvol E (.snap s)) Q X w₂ := by
  have hstop : ∀ w', w₂.Same w' → Halted E w₀ w₁ v vdi w' ∨ CutShort w₁ w' := fun w' hs =>
    hl.ended.imp (fun h => h.of_same hs) fun h => h.of_same hs
  refine wp_destroyZvol (fun ⟨c, hc⟩ w' hs => ?_) (fun e w' he hs => ?_) fun w₃ hz hd => hQ w₃ ?_
  · exact hX _ _ (hstop w' hs) fun hD => by simp [hD.faultless c] at hc
  · refine hX _ _ (hstop w' hs) fun hD => ?_
    obtain ⟨hvn, horigin⟩ := hl.clean hD
    obtain ⟨z, hz⟩ := Store.exists_destroySnap ((hl.has s).2 hso.has) fun n hn ho => by
      obtain ⟨hn₀, ho₀⟩ := horigin n hn
      obtain rfl := hD.alone hsnap n hn₀ s.zvol (by rw [← ho₀, ho, ← hso.eq])
      exact hvn hn
    rw [ZfsObject.destroy, hz] at he
    cases he
  · have hnames := fun n => Store.names_destroySnap hz (m := n)
    have hhas : w₀.zfs.Has ⟨s.zvol, vdi.uuid⟩ := hso.eq ▸ hso.has
    refine ⟨?_, ⟨[], ⟨by simp, by simp, by simp, by simp⟩, by simp, ?_, fun c => ?_⟩, ?_, ?_, ?_, ?_,
      ?_, ?_, ?_⟩
    · rw [hd.drawn]
      exact hl.moved.destroySnap ((congrArg SnapName.id hso.eq).trans hvol) hz
    · rw [orphans, if_pos hsnap]
      rfl
    · rw [hd.work, hl.work]
      simp
    · exact fun hf hmem => hl.gone hf ((hnames v).1 hmem)
    · intro _ huniq n hn
      obtain ⟨hn, hne⟩ := (Store.has_destroySnap hz).1 hn
      rw [hl.has] at hn
      exact hne (by rw [huniq n s.zvol hn hhas, ← hso.eq])
    · exact fun _ => ⟨s.zvol, hso.under, hhas⟩
    · exact fun _ => hl.bare
    · exact hd.db.trans hl.db
    · rw [hd.destroyed]
      have := hl.destroyed_le
      omega
    · exact hd.commits.trans hl.commits

/-- The clone and the snapshot of a snapshot VDI are destroyed. -/
theorem wp_destroyCloneAndSnapshot {Q : Unit → World → Prop} (hT : Tidy E w₀)
    (hzfs : w₁.zfs = w₀.zfs) (hdrawn : w₁.drawn = w₀.drawn) {s : SnapName}
    (hvol : vdi.uuid = v.vol) (hsnap : vdi.snap = true) (hso : SnapshotOf w₀ v vdi s)
    (hX : ∀ e w', Halted E w₀ w₁ v vdi w' ∨ CutShort w₁ w' → ¬ Deletable E w₀ v vdi → X e w')
    (hQ : ∀ w', Removed E w₀ w₁ v vdi w' → Q () w') (hs : w₁.Same w) :
    wp (do
      destroyIfExists E v
      destroyZvol E (.snap s)) Q X w := by
  have hthere : ∀ w₂, w.Same w₂ → ((∀ c, E.fault c = false) → v ∉ w₀.zfs.names) →
      wp (destroyZvol E (.snap s)) Q X w₂ := fun w₂ hs₂ hv =>
    wp_destroyLast hvol hsnap hso (.of_same hT hzfs hdrawn (hs.trans hs₂) hv) hX hQ
  rw [wp_bind, destroyIfExists, wp_bind]
  refine wp_volExists (fun ⟨c, hc⟩ w₂ hs₂ => ?_) fun w₂ hs₂ => ?_
  · -- the listing failed, and the clone stays
    exact hthere w₂ hs₂ fun h => by simp [h c] at hc
  have hzfs₀ : w.zfs = w₀.zfs := hs.zfs.trans hzfs
  have hzfs₂ : w₂.zfs = w₀.zfs := hs₂.zfs.trans hzfs₀
  have hstart : Halted E w₀ w₁ v vdi w₁ := Halted.start hT hzfs hdrawn
  have hstart₂ := hstart.of_same (hs.trans hs₂)
  rw [wp_ite]
  refine ⟨fun _ => ?_, fun hv => hthere w₂ hs₂ fun _ => by simpa [hzfs₀] using hv⟩
  refine wp_destroyZvol (fun ⟨c, hc⟩ w' hs' => ?_) (fun e w' he hs' => ?_) fun w₃ hz hd => ?_
  · exact hX _ w' (.inl (hstart₂.of_same hs')) fun hD => by simp [hD.faultless c] at hc
  · refine hX _ _ (.inl (hstart₂.of_same hs')) fun hD => ?_
    obtain ⟨z, hz⟩ := Store.exists_destroy hD.mem hD.idle (hD.bare hsnap)
    rw [hzfs₂, ZfsObject.destroy, hz] at he
    cases he
  · rw [hzfs₂] at hz
    exact wp_destroyLast hvol hsnap hso (.of_destroyed hT hdrawn (hs.trans hs₂) hz hd) hX hQ

/-- The branch for a snapshot VDI. -/
theorem wp_destroySnapshotVdi {Q : Unit → World → Prop} (hT : Tidy E w₀) (hzfs : w₁.zfs = w₀.zfs)
    (hdrawn : w₁.drawn = w₀.drawn) {ds : List String} (hvds : v = ⟨ds, vdi.uuid⟩)
    (hsnap : vdi.snap = true)
    (hX : ∀ e w', Halted E w₀ w₁ v vdi w' ∨ CutShort w₁ w' → ¬ Deletable E w₀ v vdi → X e w')
    (hQ : ∀ w', Removed E w₀ w₁ v vdi w' → Q () w') : wp (destroySnapshotVdi E ds vdi) Q X w₁ := by
  obtain rfl : ds = v.dataset := by rw [hvds]
  have hvol : vdi.uuid = v.vol := by rw [hvds]
  have hstart : Halted E w₀ w₁ v vdi w₁ := Halted.start hT hzfs hdrawn
  have hfault : ∀ w₂, Halted E w₀ w₁ v vdi w₂ → (∃ c, E.fault c = true) → ∀ w', w₂.Same w' →
      X .fault w' := fun w₂ h₂ ⟨c, hc⟩ w' hs =>
    hX _ w' (.inl (h₂.of_same hs)) fun hD => by simp [hD.faultless c] at hc
  simp only [destroySnapshotVdi, ← hvds]
  rw [wp_bind]
  refine wp_zfsGet (hfault w₁ hstart) (fun e _ he => by cases he) fun o w₂ ho hs₂ => ?_
  obtain rfl : w₁.zfs.findSnapshot v.dataset vdi.uuid = o := by simpa using ho
  rw [hzfs]
  have hstart₂ := hstart.of_same hs₂
  rw [wp_bind]
  refine wp_zfsGet (hfault w₂ hstart₂) (fun e _ he => by cases he) fun _ w₃ _ hs₃ => ?_
  have hstart₃ := hstart₂.of_same hs₃
  rcases hfind : w₀.zfs.findSnapshot v.dataset vdi.uuid with _ | s
  · refine hX _ _ (.inl hstart₃) fun hD => ?_
    have := Store.findSnapshot_isSome.2 (hD.under hsnap)
    rw [hfind] at this
    cases this
  obtain ⟨hunder, hhas, hid⟩ := Store.findSnapshot_spec hfind
  have hso : SnapshotOf w₀ v vdi s := ⟨by rw [← hid], hunder, hhas⟩
  simp only
  rw [wp_bind]
  refine wp_zfsGet (hfault w₃ hstart₃) (fun e _ he => by cases he) fun clones w₄ hclones hs₄ => ?_
  obtain rfl : w₀.zfs.clones s = clones := by
    rw [hs₃.zfs, hs₂.zfs, hzfs] at hclones
    simpa using hclones
  rw [wp_ite]
  refine ⟨fun hext => ?_, fun _ => ?_⟩
  · -- another clone keeps the snapshot
    refine hX _ _ (.inl (hstart₃.of_same hs₄)) fun hD => hext ?_
    refine List.filter_eq_nil_iff.2 fun n hn => ?_
    obtain ⟨hn, _, ho⟩ := Store.mem_clones.1 hn
    simpa using hD.alone hsnap n hn s.zvol (by rw [ho, ← hso.eq])
  · exact wp_destroyCloneAndSnapshot hT hzfs hdrawn hvol hsnap hso hX hQ ((hs₂.trans hs₃).trans hs₄)

/-! ### The call -/

theorem wp_destroyObjects {Q : Unit → World → Prop} (hT : Tidy E w₀) (hzfs : w₁.zfs = w₀.zfs)
    (hdrawn : w₁.drawn = w₀.drawn) (hold : ∀ c ∈ w₁.work.vdis, Old (w₀.db sr) c)
    (hvdi : ∃ c ∈ w₁.work.vdis, c.volume_id = vdi.volume_id) {ds : List String}
    (hvds : v = ⟨ds, vdi.uuid⟩)
    (hX : ∀ e w', Halted E w₀ w₁ v vdi w' ∨ CutShort w₁ w' → ¬ Deletable E w₀ v vdi → X e w')
    (hQ : ∀ w', Removed E w₀ w₁ v vdi w' → Q () w') : wp (destroyObjects E ds vdi) Q X w₁ := by
  rw [destroyObjects, wp_ite]
  constructor
  · exact fun hsnap => wp_destroySnapshotVdi hT hzfs hdrawn hvds hsnap hX hQ
  · exact fun hsnap => wp_destroyBaseVdi hT hzfs hdrawn hold hvdi hvds (by simpa using hsnap)
      (fun e w' h => hX e w' (.inl h)) hQ

theorem Finished.of_same {key : String} (h : Finished E w₀ sr key v vdi w) (hs : w.Same w') :
    Finished E w₀ sr key v vdi w' where
  moved := by rw [hs.zfs, hs.drawn]; exact h.moved
  rows := by rw [hs.zfs, hs.drawn, hs.db]; exact h.rows
  others := by rw [hs.db]; exact h.others
  vol_gone := by rw [hs.zfs]; exact h.vol_gone
  snap_gone := by rw [hs.zfs]; exact h.snap_gone
  under := h.under
  bare := h.bare

/-- The rows of the transaction at its end: the row of the VDI is deleted. -/
theorem Recovered.mem_deleted {db₀ db₁ db : Metabase} {vdi₀ : Vdi} {new : List Vdi}
    (h : Recovered db₀ db₁ vdi₀ vdi) (hvdi : vdi₀ ∈ db₀.vdis)
    (hnew : ∀ c ∈ new, c.volume_id ≠ vdi.volume_id ∧ c.uuid ≠ vdi.uuid)
    (hrows : ∀ c, c ∈ db.vdis ↔ c ∈ db₁.vdis ∨ c ∈ new) (c : Vdi) :
    c ∈ ((db.deleteVdi vdi₀.uuid).deleteVolume vdi.volume_id).vdis ↔
      c ∈ db₀.vdis ∧ c.uuid ≠ vdi₀.uuid ∨ c ∈ new := by
  have hid : vdi.volume_id = vdi₀.volume_id ∧ vdi.uuid = vdi₀.uuid := by
    rcases h with ⟨_, rfl⟩ | ⟨x, _, rfl⟩ <;> exact ⟨rfl, rfl⟩
  -- the update has touched the row of the VDI only
  have hdb₁ : c.volume_id ≠ vdi.volume_id → (c ∈ db₁.vdis ↔ c ∈ db₀.vdis) := by
    intro hne
    rcases h with ⟨rfl, _⟩ | ⟨x, rfl, _⟩
    · exact Iff.rfl
    · rw [Metabase.mem_vdis_updateVolumeVsize]
      constructor
      · rintro ⟨c', hc', rfl⟩
        split at hne
        · next heq => exact absurd (heq.trans hid.1.symm) hne
        · next heq =>
          rw [if_neg heq]
          exact hc'
      · exact fun hc => ⟨c, hc, by rw [if_neg (hid.1 ▸ hne)]⟩
  rw [Metabase.mem_vdis_deleteVolume, Metabase.mem_vdis_deleteVdi, hrows]
  constructor
  · rintro ⟨⟨hc | hc, hne⟩, hne'⟩
    · exact .inl ⟨(hdb₁ hne').1 hc, hne⟩
    · exact .inr hc
  · rintro (⟨hc, hne⟩ | hc)
    · have hne' : c.volume_id ≠ vdi.volume_id := fun heq =>
        hne (congrArg Vdi.uuid (Metabase.eq_of_volume_id hc hvdi (heq.trans hid.1)))
      exact ⟨⟨.inl ((hdb₁ hne').2 hc), hne⟩, hne'⟩
    · obtain ⟨hne', hne⟩ := hnew c hc
      exact ⟨⟨.inr hc, hid.2 ▸ hne⟩, hne'⟩

theorem Deletable.congr {vdi₀ : Vdi} (h : Deletable E w₀ v vdi₀) (huuid : vdi.uuid = vdi₀.uuid)
    (hsnap : vdi.snap = vdi₀.snap) : Deletable E w₀ v vdi where
  faultless := h.faultless
  settled := h.settled
  mem := h.mem
  idle := h.idle
  alone := by rw [huuid, hsnap]; exact h.alone
  under := by rw [huuid, hsnap]; exact h.under
  bare := by rw [hsnap]; exact h.bare

/-- The row of a VDI, up to its size. -/
def SameVdi (vdi₀ vdi : Vdi) : Prop := vdi = { vdi₀ with vsize := vdi.vsize }

/-- The rows are deleted after the objects, and the transaction is committed. -/
theorem Removed.finished {key : String} {vdi₀ : Vdi} {w₂ w₃ : World}
    (h : Removed E w₀ w₁ v vdi w) (hdb : w₁.db = w₀.db)
    (hrec : Recovered (w₀.db sr) w₁.work vdi₀ vdi) (hmem : vdi₀ ∈ (w₀.db sr).vdis)
    (huuid₀ : vdi₀.uuid = key) (huuid : vdi.uuid = key) (hf : w.Frame w₂)
    (hwork : w₂.work = (w.work.deleteVdi key).deleteVolume vdi.volume_id)
    (hc : w₂.Committed sr w₃) : Finished E w₀ sr key v vdi w₃ := by
  have hzfs : w₃.zfs = w.zfs := hc.zfs.trans hf.zfs
  have hdrawn : w₃.drawn = w.drawn := hc.drawn.trans hf.drawn
  obtain ⟨new, hspawn, hne, hlen, hrows⟩ := h.rows
  refine ⟨?_, ⟨new, ?_, hlen, fun c => ?_⟩, fun sr' hsr' => ?_, ?_, ?_, ?_, h.bare⟩
  · rw [hzfs, hdrawn]
    exact h.moved
  · rw [hzfs, hdrawn]
    exact hspawn
  · have hnew : ∀ c ∈ new, c.volume_id ≠ vdi.volume_id ∧ c.uuid ≠ vdi.uuid :=
      fun c hc => ⟨(hspawn.eq c hc).1, hne c hc⟩
    have hdeleted := hrec.mem_deleted hmem hnew hrows c
    rw [huuid₀] at hdeleted
    rw [hc.db, ← hdeleted]
    simp [hwork]
  · rw [hc.db, hf.db.trans (h.db.trans hdb)]
    exact if_neg hsr'
  · rw [hzfs]
    exact h.vol_gone
  · rw [hzfs, ← huuid]
    exact h.snap_gone
  · rw [← huuid]
    exact h.under

/-- How a destroy call that raises ends. -/
def Aborted (E : Env) (w₀ : World) (sr key : String) (w : World) : Prop :=
  w₀.Quiet w ∨ ∃ m vdi₀ vdi, E.srMeta sr = some m ∧ vdi₀ ∈ (w₀.db sr).vdis ∧ vdi₀.uuid = key ∧
    SameVdi vdi₀ vdi ∧ (Halted E w₀ w₀ ⟨m.datasetPath, key⟩ vdi w ∨ CutShort w₀ w ∨
      Finished E w₀ sr key ⟨m.datasetPath, key⟩ vdi w)

/-- Something keeps the VDI from being destroyed. -/
def Undeletable (E : Env) (w₀ : World) (sr key : String) : Prop :=
  ∀ m vdi₀, E.srMeta sr = some m → vdi₀ ∈ (w₀.db sr).vdis → vdi₀.uuid = key →
    ¬ Deletable E w₀ ⟨m.datasetPath, key⟩ vdi₀

theorem undeletable_of_fault {key : String} (hf : ∃ c, E.fault c = true) : Undeletable E w₀ sr key := by
  obtain ⟨c, hc⟩ := hf
  intro m vdi₀ _ _ _ hD
  simp [hD.faultless c] at hc

/-- The row `vdi₀` of the key was read, and its size recovered, which gave `vdi`. -/
structure LookedUp (E : Env) (w₀ : World) (sr key : String) (m : SrMeta) (vdi₀ vdi : Vdi) (w : World) :
    Prop where
  srMeta : E.srMeta sr = some m
  mem : vdi₀ ∈ (w₀.db sr).vdis
  uuid : vdi₀.uuid = key
  frame : w₀.Frame w
  recovered : Recovered (w₀.db sr) w.work vdi₀ vdi

namespace LookedUp

variable {key : String} {m : SrMeta} {vdi₀ : Vdi}

theorem same (h : LookedUp E w₀ sr key m vdi₀ vdi w) : SameVdi vdi₀ vdi := by
  rcases h.recovered with ⟨_, rfl⟩ | ⟨x, _, rfl⟩ <;> rfl

theorem uuid_eq (h : LookedUp E w₀ sr key m vdi₀ vdi w) : vdi.uuid = key := by
  rw [h.same]
  exact h.uuid

theorem exists_volume (h : LookedUp E w₀ sr key m vdi₀ vdi w) :
    ∃ c ∈ w.work.vdis, c.volume_id = vdi.volume_id := by
  have hid : vdi.volume_id = vdi₀.volume_id := by rw [h.same]
  rcases h.recovered with ⟨hdb, _⟩ | ⟨x, hdb, _⟩
  · exact ⟨vdi₀, hdb ▸ h.mem, hid.symm⟩
  · refine ⟨{ vdi₀ with vsize := some x }, ?_, hid.symm⟩
    rw [hdb]
    exact Metabase.mem_vdis_updateVolumeVsize.2 ⟨vdi₀, h.mem, by rw [if_pos rfl]⟩

/-- Any VDI with the key is the one that was found. -/
theorem undeletable (h : LookedUp E w₀ sr key m vdi₀ vdi w)
    (hnot : ¬ Deletable E w₀ ⟨m.datasetPath, key⟩ vdi) : Undeletable E w₀ sr key := by
  intro m' vdi' hm' hmem huuid hD
  obtain rfl : m' = m := Option.some.inj (hm'.symm.trans h.srMeta)
  obtain rfl : vdi' = vdi₀ := Metabase.eq_of_uuid hmem h.mem (huuid.trans h.uuid.symm)
  exact hnot (hD.congr (by rw [h.same]) (by rw [h.same]))

theorem aborted (h : LookedUp E w₀ sr key m vdi₀ vdi w)
    (hend : Halted E w₀ w ⟨m.datasetPath, key⟩ vdi w' ∨ CutShort w w') : Aborted E w₀ sr key w' := by
  refine .inr ⟨m, vdi₀, vdi, h.srMeta, h.mem, h.uuid, h.same, ?_⟩
  have hf := h.frame
  rcases hend with hh | hc
  · exact .inl ⟨hh.moved, hh.keeps, hh.db.trans hf.db, hh.destroyed.trans hf.destroyed,
      hh.commits.trans hf.commits⟩
  · exact .inr (.inl ⟨hf.destroyed ▸ hc.destroyed, hc.commits.trans hf.commits⟩)

end LookedUp

/-- A destroy call starts with the row of the VDI. -/
theorem wp_destroyLookup {α : Type} {key : String} {m : SrMeta} {rest : Vdi → VolM α}
    {Q : α → World → Prop} (hm : E.srMeta sr = some m) (hf : w₀.Frame w) (hwork : w.work = w₀.db sr)
    (hX : ∀ e w', Aborted E w₀ sr key w' → Undeletable E w₀ sr key → X e w')
    (hQ : ∀ vdi₀ vdi w', LookedUp E w₀ sr key m vdi₀ vdi w' → wp (rest vdi) Q X w') :
    wp (do
      let vdi ← getVdiById E key
      let vdi ← recoverVdiVsize E vdi m.datasetPath
      rest vdi) Q X w := by
  rw [wp_bind]
  refine wp_dbCmd (fun hfault w' hs => hX _ _ (.inl (hf.quiet.trans hs.quiet)) (undeletable_of_fault hfault))
    (fun e w' he hs => hX _ _ (.inl (hf.quiet.trans hs.quiet)) fun m' vdi₀ _ hvdi₀ huuid => ?_)
    fun vdi₀ db w₁ hget hwork₁ hf₁ => ?_
  · rw [hwork, ← huuid, Metabase.getVdiById_eq hvdi₀] at he
    cases he
  split at hget
  · next vdi₀ hvdi₀ =>
    cases hget
    obtain ⟨hmem₀, huuid₀⟩ := Metabase.getVdiById_mem hvdi₀
    rw [hwork] at hmem₀ hwork₁
    have hfr₁ := hf.trans hf₁
    rw [wp_bind]
    refine wp_recoverVdiVsize
      (fun hfault w' hs => hX _ _ (.inl (hfr₁.quiet.trans hs.quiet)) (undeletable_of_fault hfault))
      (fun e w' hnot hs => hX _ _ (.inl (hfr₁.quiet.trans hs.quiet)) fun m' vdi' hm' hmem huuid hD => ?_)
      fun vdi w₂ hf₂ hrec => hQ vdi₀ vdi w₂ ⟨hm, hmem₀, huuid₀, hfr₁.trans hf₂, hwork₁ ▸ hrec⟩
    obtain rfl : m' = m := Option.some.inj (hm'.symm.trans hm)
    exact hnot (by rw [hfr₁.zfs, huuid₀]; exact hD.mem)
  · cases hget

/-- The rows are deleted last. -/
theorem wp_deleteRows {key : String} {m : SrMeta} {vdi₀ : Vdi} {Q : Unit → World → Prop}
    (h : LookedUp E w₀ sr key m vdi₀ vdi w₁)
    (hrem : Removed E w₀ w₁ ⟨m.datasetPath, key⟩ vdi w)
    (hX : ∀ e w', Aborted E w₀ sr key w' → Undeletable E w₀ sr key → X e w')
    (hQ : ∀ w', ((∃ c, E.fault c = true) → ∀ w'', w'.Same w'' → Aborted E w₀ sr key w'') →
      (∀ w'', w'.Committed sr w'' → Finished E w₀ sr key ⟨m.datasetPath, key⟩ vdi w'') → Q () w') :
    wp (do
      deleteVdi E key
      volumeDestroy E vdi.volume_id
      deleteVolume E vdi.volume_id) Q X w := by
  have hlost : ∀ w', w.Frame w' → Aborted E w₀ sr key w' := fun w' hfr =>
    h.aborted (.inr ⟨hfr.destroyed ▸ hrem.destroyed, hfr.commits.trans hrem.commits⟩)
  simp only [wp_bind, deleteVdi, volumeDestroy, deleteVolume]
  refine wp_dbCmd (fun hf w' hs => hX _ w' (hlost w' hs.frame) (undeletable_of_fault hf))
    (fun e _ he => by cases he) fun _ db₂ w₂ hdel hwork₂ hf₂ => ?_
  cases hdel
  refine wp_dbCmd (fun hf w' hs => hX _ w' (hlost w' (hf₂.trans hs.frame)) (undeletable_of_fault hf))
    (fun e _ he => by cases he) fun _ db₃ w₃ hcb hwork₃ hf₃ => ?_
  cases hcb
  have hf₂₃ := hf₂.trans hf₃
  refine wp_dbCmd (fun hf w' hs => hX _ w' (hlost w' (hf₂₃.trans hs.frame)) (undeletable_of_fault hf))
    (fun e _ he => by cases he) fun _ db₄ w₄ hdv hwork₄ hf₄ => ?_
  cases hdv
  have hf₂₄ := hf₂₃.trans hf₄
  refine hQ w₄ (fun _ w' hs => hlost w' (hf₂₄.trans hs.frame)) fun w₅ hc => ?_
  exact hrem.finished h.frame.db h.recovered h.mem h.uuid h.uuid_eq hf₂₄
    (by rw [hwork₄, hwork₃, hwork₂]) hc

/-- How a destroy call that returns ends. -/
def Completed (E : Env) (w₀ : World) (sr key : String) (w : World) : Prop :=
  ∃ m vdi₀ vdi, E.srMeta sr = some m ∧ vdi₀ ∈ (w₀.db sr).vdis ∧ vdi₀.uuid = key ∧
    SameVdi vdi₀ vdi ∧ Finished E w₀ sr key ⟨m.datasetPath, key⟩ vdi w

theorem Completed.of_same {key : String} (h : Completed E w₀ sr key w) (hs : w.Same w') :
    Completed E w₀ sr key w' := by
  obtain ⟨m, vdi₀, vdi, hm, hmem, huuid, hsame, hfin⟩ := h
  exact ⟨m, vdi₀, vdi, hm, hmem, huuid, hsame, hfin.of_same hs⟩

theorem Completed.aborted {key : String} (h : Completed E w₀ sr key w) : Aborted E w₀ sr key w := by
  obtain ⟨m, vdi₀, vdi, hm, hmem, huuid, hsame, hfin⟩ := h
  exact .inr ⟨m, vdi₀, vdi, hm, hmem, huuid, hsame, .inr (.inr hfin)⟩

/-- **A destroy call**, however it ends; it cannot fail where nothing keeps the VDI. -/
theorem wp_destroy (hT : Tidy E w₀) (sr key : String) :
    wp (destroy E sr key) (fun _ w => Completed E w₀ sr key w)
      (fun _ w => Aborted E w₀ sr key w ∧ Undeletable E w₀ sr key) w₀ := by
  have hq₀ : w₀.Quiet w₀ := ⟨rfl, rfl, Nat.le_refl _, rfl, rfl⟩
  rw [destroy, wp_bind]
  refine wp_getSrMetadata (fun hnone => ⟨.inl hq₀, fun m _ hm => ?_⟩) fun m hm => ?_
  · rw [hnone] at hm
    cases hm
  rw [wp_bind]
  refine wp_dbContext (fun hf w' hs => ⟨.inl hs.quiet, undeletable_of_fault hf⟩) fun w₁ hf₁ hwork₁ => ?_
  rw [destroyTxn]
  refine wp_destroyLookup hm hf₁ hwork₁ (fun _ _ ha hk => ⟨ha, hk⟩) fun vdi₀ vdi w₂ h => ?_
  rw [wp_bind]
  refine wp_destroyObjects hT h.frame.zfs h.frame.drawn (h.recovered.old fun c hc => Old.refl hc)
    h.exists_volume (by rw [h.uuid_eq]) (fun e w' hend hnD => ⟨h.aborted hend, h.undeletable hnD⟩)
    fun w₃ hrem => ?_
  refine wp_deleteRows h hrem (fun _ _ ha hk => ⟨ha, hk⟩) fun w₄ hlost hfinished => ?_
  refine ⟨fun hf w' hs => ⟨hlost hf w' hs, undeletable_of_fault hf⟩, fun w₅ hc => ?_⟩
  have hdone : Completed E w₀ sr key w₅ :=
    ⟨m, vdi₀, vdi, hm, h.mem, h.uuid, h.same, hfinished w₅ hc⟩
  -- what is removed besides
  rw [wp_bind]
  refine wp_command (fun hf w' hs => ⟨(hdone.of_same hs).aborted, undeletable_of_fault hf⟩)
    (fun e _ he => by cases he) fun _ w₆ h₆ => ?_
  cases h₆
  rw [wp_tryCatch]
  have hdone₆ := hdone.of_same w₅.same_tick
  refine wp_command (fun hf w' hs => hdone₆.of_same hs) (fun e _ he => by cases he) fun _ w₇ h₇ => ?_
  cases h₇
  exact hdone₆.of_same (World.same_tick _)

end

end Volume

/-
**What the calls that destroy nothing do to the store and to the metabases.**

All calls of the volume driver but `destroy` only add: zvols and snapshots under the uuids that the
call drew, and at most one VDI, whose zvol exists when its row is committed.  This holds however the
call ends, since a command that raises ends it between two commands.  What a call that returns did is
said more exactly: it added at most one snapshot.

Main definitions:

* `Volume.Tidy` — the state between two calls: the uuids to come clash with nothing;
* `Volume.Backed` — the backing of a VDI;
* `Volume.Growth` — what a call has done to the store so far;
* `Volume.Outcome`, `Volume.Success` — a call that ended, and a call that returned.

Main results:

* `Volume.Growth.create`, `Volume.Growth.clone`, … — one command of a call;
* `Volume.wp_command`, `Volume.wp_dbContext`, … — running a command and a transaction.

The calls themselves are in `ZfsLive/VolumeCalls.lean`.
-/

import ZfsLive.Volume

set_option relaxedAutoImplicit false
set_option autoImplicit false

namespace Volume

open Zfs Wp

section

variable (E : Env)

/-! ### States between calls -/

/-- The uuids to come clash with no name. -/
structure Tidy (w : World) : Prop where
  wf : WF w.zfs
  vol_ne : ∀ n ∈ w.zfs.names, ∀ j, w.drawn ≤ j → n.vol ≠ E.uuid j
  snap_ne : ∀ s, w.zfs.Has s → ∀ j, w.drawn ≤ j → s.id ≠ E.uuid j

/-- The backing of a VDI: its zvol, and for a snapshot VDI one snapshot, in the dataset of the
repository, and a zvol that is read-only. -/
structure Backed (z : Store) (dataset : List String) (v : Vdi) : Prop where
  zvol : (⟨dataset, v.uuid⟩ : ZvolName) ∈ z.names
  readonly : v.snap = true → (z.zvol ⟨dataset, v.uuid⟩).props.readonly = true
  snapshot : v.snap = true → ∃ n : ZvolName, n.Under dataset ∧ z.Has ⟨n, v.uuid⟩ ∧
    ∀ m, z.Has ⟨m, v.uuid⟩ → m = n

/-- A uuid that the call drew, which started in `w₀` and has drawn `k` by now. -/
def New (w₀ : World) (k : ℕ) (u : String) : Prop := ∃ j, w₀.drawn ≤ j ∧ j < k ∧ u = E.uuid j

/-- A zvol has its size and its content, or it can be written and was resized. -/
def Grown (p p' : Props) : Prop :=
  (p'.volsize = p.volsize ∧ p'.content = p.content) ∨
    (p.readonly = false ∧ p'.content = below p'.volsize p.content)

/-- At most the reservation and the state of the device differ. -/
structure SameData (p p' : Props) : Prop where
  readonly : p'.readonly = p.readonly
  volsize : p'.volsize = p.volsize
  content : p'.content = p.content

/-- What a call has done to the store: it has added names and snapshots under new uuids. -/
structure Growth (w₀ : World) (z : Store) (k : ℕ) : Prop where
  drawn_le : w₀.drawn ≤ k
  wf : WF z
  names : ∀ n ∈ w₀.zfs.names, n ∈ z.names
  new_names : ∀ n ∈ z.names, n ∈ w₀.zfs.names ∨ New E w₀ k n.vol
  readonly : ∀ n ∈ w₀.zfs.names, (z.zvol n).props.readonly = (w₀.zfs.zvol n).props.readonly
  grown : ∀ n ∈ w₀.zfs.names, Grown (w₀.zfs.zvol n).props (z.zvol n).props
  owns : ∀ n t, w₀.zfs.Owns n t → z.Owns n t
  new_snaps : ∀ s, z.Has s → w₀.zfs.Has s ∨ New E w₀ k s.id

/-- A row of a VDI that was there before; its size may have changed. -/
def Old (db₀ : Metabase) (v : Vdi) : Prop := ∃ v₀ ∈ db₀.vdis, v₀.uuid = v.uuid ∧ v₀.snap = v.snap

/-- The state inside a call that has not committed a new VDI yet. -/
def Mid (w₀ w : World) : Prop :=
  Growth E w₀ w.zfs w.drawn ∧ ∀ sr, ∀ v ∈ (w.db sr).vdis, Old (w₀.db sr) v

/-- The state when a call ends, however it ends: every VDI was there before or has its backing. -/
def Outcome (w₀ w : World) : Prop :=
  Growth E w₀ w.zfs w.drawn ∧ ∀ sr, ∀ v ∈ (w.db sr).vdis,
    Old (w₀.db sr) v ∨ ∀ m, E.srMeta sr = some m → Backed w.zfs m.datasetPath v

/-- The state when a call returns: it has added at most one snapshot, and VDIs under new uuids in one
repository only; no snapshot has the uuid of a new base VDI as its name. -/
structure Success (w₀ w : World) : Prop where
  outcome : Outcome E w₀ w
  snaps : ∃ o : Option SnapName, (∀ s, o = some s → New E w₀ w.drawn s.id) ∧
    ∀ s, w.zfs.Has s ↔ w₀.zfs.Has s ∨ o = some s
  rows : ∃ sr₁, ∀ sr, ∀ v ∈ (w.db sr).vdis, Old (w₀.db sr) v ∨
    sr = sr₁ ∧ New E w₀ w.drawn v.uuid ∧ (v.snap = false → ∀ n, ¬ w.zfs.Has ⟨n, v.uuid⟩)

end

variable {E : Env} {w₀ w : World} {z z' : Store} {k : ℕ}

theorem Grown.of_sameData {p p' p'' : Props} (h : Grown p p') (hs : SameData p' p'') : Grown p p'' := by
  rcases h with ⟨hsize, hcontent⟩ | ⟨hro, hcontent⟩
  · exact .inl ⟨hs.volsize.trans hsize, hs.content.trans hcontent⟩
  · exact .inr ⟨hro, by rw [hs.content, hs.volsize, hcontent]⟩

/-- What is read-only keeps its content. -/
theorem Grown.content {p p' : Props} (h : Grown p p') (hro : p.readonly = true) :
    p'.content = p.content := by
  rcases h with h | ⟨hnot, -⟩
  · exact h.2
  · rw [hro] at hnot
    cases hnot

theorem New.mono {u : String} {k' : ℕ} (h : New E w₀ k u) (hk : k ≤ k') : New E w₀ k' u := by
  obtain ⟨j, hj, hjk, rfl⟩ := h
  exact ⟨j, hj, by omega, rfl⟩

/-- A new uuid is no name of a zvol that was there before. -/
theorem Tidy.not_mem_of_new (hT : Tidy E w₀) {n : ZvolName} (hn : New E w₀ k n.vol) :
    n ∉ w₀.zfs.names := by
  obtain ⟨j, hj, _, hjn⟩ := hn
  exact fun hmem => hT.vol_ne n hmem j hj hjn

/-- A new uuid is no name of a snapshot that was there before. -/
theorem Tidy.not_has_of_new (hT : Tidy E w₀) {s : SnapName} (hs : New E w₀ k s.id) :
    ¬ w₀.zfs.Has s := by
  obtain ⟨j, hj, _, hjs⟩ := hs
  exact fun hmem => hT.snap_ne s hmem j hj hjs

namespace Growth

theorem refl (hT : Tidy E w₀) : Growth E w₀ w₀.zfs w₀.drawn where
  drawn_le := Nat.le_refl _
  wf := hT.wf
  names := fun _ hn => hn
  new_names := fun _ hn => .inl hn
  readonly := fun _ _ => rfl
  grown := fun _ _ => .inl ⟨rfl, rfl⟩
  owns := fun _ _ h => h
  new_snaps := fun _ hs => .inl hs

theorem draw (h : Growth E w₀ z k) : Growth E w₀ z (k + 1) where
  drawn_le := Nat.le_succ_of_le h.drawn_le
  wf := h.wf
  names := h.names
  new_names := fun n hn => (h.new_names n hn).imp_right fun hu => hu.mono (Nat.le_succ k)
  readonly := h.readonly
  grown := h.grown
  owns := h.owns
  new_snaps := fun s hs => (h.new_snaps s hs).imp_right fun hu => hu.mono (Nat.le_succ k)

/-- The uuid that is drawn next is new, and nothing has it as its name. -/
theorem next_new (hT : Tidy E w₀) (h : Growth E w₀ z k) :
    New E w₀ (k + 1) (E.uuid k) ∧ (∀ n ∈ z.names, n.vol ≠ E.uuid k) ∧
      ∀ s, z.Has s → s.id ≠ E.uuid k := by
  refine ⟨⟨k, h.drawn_le, Nat.lt_succ_self k, rfl⟩, fun n hn => ?_, fun s hs => ?_⟩
  · rcases h.new_names n hn with hn | ⟨j, _, hj, hjn⟩
    · exact hT.vol_ne n hn k h.drawn_le
    · rw [hjn]
      exact fun heq => hj.ne (E.uuid_injective heq)
  · rcases h.new_snaps s hs with hs | ⟨j, _, hj, hjs⟩
    · exact hT.snap_ne s hs k h.drawn_le
    · rw [hjs]
      exact fun heq => hj.ne (E.uuid_injective heq)

theorem put_new (hT : Tidy E w₀) (h : Growth E w₀ z k) {n : ZvolName} {v : Zvol}
    (hn : New E w₀ k n.vol) (hwf : WF (z.put n v)) (hv : ∀ id ∈ v.ids, New E w₀ k id) :
    Growth E w₀ (z.put n v) k := by
  have hne : ∀ m ∈ w₀.zfs.names, m ≠ n := fun m hm heq => hT.not_mem_of_new hn (heq ▸ hm)
  refine ⟨h.drawn_le, hwf, ?_, ?_, ?_, ?_, ?_, ?_⟩
  · exact fun m hm => Store.mem_names_put.2 (.inr (h.names m hm))
  · intro m hm
    rcases Store.mem_names_put.1 hm with rfl | hm
    · exact .inr hn
    · exact h.new_names m hm
  · intro m hm
    rw [z.zvol_put_of_ne v (hne m hm)]
    exact h.readonly m hm
  · intro m hm
    rw [z.zvol_put_of_ne v (hne m hm)]
    exact h.grown m hm
  · intro m t ht
    refine ⟨Store.mem_names_put.2 (.inr (h.names m ht.1)), ?_⟩
    rw [z.zvol_put_of_ne v (hne m ht.1)]
    exact (h.owns m t ht).2
  · intro s hs
    rcases Store.has_put.1 hs with ⟨_, hid⟩ | ⟨_, hs⟩
    · exact .inr (hv s.id hid)
    · exact h.new_snaps s hs

theorem put_same (h : Growth E w₀ z k) {n : ZvolName} {v : Zvol} (hn : n ∈ z.names)
    (hwf : WF (z.put n v)) (hro : n ∈ w₀.zfs.names → v.props.readonly = (z.zvol n).props.readonly)
    (hgrown : n ∈ w₀.zfs.names → Grown (w₀.zfs.zvol n).props v.props)
    (hold : ∀ t, w₀.zfs.Owns n t → t ∈ v.snaps)
    (hnew : ∀ id ∈ v.ids, id ∈ (z.zvol n).ids ∨ New E w₀ k id) :
    Growth E w₀ (z.put n v) k := by
  refine ⟨h.drawn_le, hwf, ?_, ?_, ?_, ?_, ?_, ?_⟩
  · exact fun m hm => Store.mem_names_put.2 (.inr (h.names m hm))
  · intro m hm
    rcases Store.mem_names_put.1 hm with rfl | hm
    · exact h.new_names m hn
    · exact h.new_names m hm
  · intro m hm
    by_cases hmn : m = n
    · rw [hmn, z.zvol_put_self, hro (hmn ▸ hm)]
      exact h.readonly n (hmn ▸ hm)
    · rw [z.zvol_put_of_ne v hmn]
      exact h.readonly m hm
  · intro m hm
    by_cases hmn : m = n
    · rw [hmn, z.zvol_put_self]
      exact hgrown (hmn ▸ hm)
    · rw [z.zvol_put_of_ne v hmn]
      exact h.grown m hm
  · intro m t ht
    refine ⟨Store.mem_names_put.2 (.inr (h.names m ht.1)), ?_⟩
    by_cases hmn : m = n
    · rw [hmn, z.zvol_put_self]
      exact hold t (hmn ▸ ht)
    · rw [z.zvol_put_of_ne v hmn]
      exact (h.owns m t ht).2
  · intro s hs
    rcases Store.has_put.1 hs with ⟨hsn, hid⟩ | ⟨_, hs⟩
    · rcases hnew s.id hid with hid | hid
      · exact h.new_snaps s ⟨hsn ▸ hn, hsn ▸ hid⟩
      · exact .inr hid
    · exact h.new_snaps s hs

/-! One command of a call. -/

theorem create (hT : Tidy E w₀) (h : Growth E w₀ z k) {n : ZvolName} {a b c : ℕ}
    (hn : New E w₀ k n.vol) (hok : z.create n a b c = .ok z') : Growth E w₀ z' k := by
  have hwf := h.wf.create hok
  obtain ⟨_, rfl⟩ := Store.create_ok hok
  exact h.put_new hT hn hwf (by simp [Zvol.ids])

theorem clone (hT : Tidy E w₀) (h : Growth E w₀ z k) {s : SnapName} {n : ZvolName}
    (hn : New E w₀ k n.vol) (hok : z.clone s n = .ok z') : Growth E w₀ z' k := by
  have hwf := h.wf.clone hok
  obtain ⟨_, _, _, t, _, _, rfl⟩ := Store.clone_ok hok
  exact h.put_new hT hn hwf (by simp [Zvol.ids])

theorem receive (hT : Tidy E w₀) (h : Growth E w₀ z k) {s : SnapName} {n : ZvolName}
    (hn : New E w₀ k n.vol) (hs : New E w₀ k s.id) (hok : z.receive s n = .ok z') :
    Growth E w₀ z' k := by
  have hwf := h.wf.receive hok
  obtain ⟨_, _, t, _, ht, rfl⟩ := Store.receive_ok hok
  exact h.put_new hT hn hwf (by simpa [Zvol.ids, ht] using hs)

theorem snapshot (h : Growth E w₀ z k) {s : SnapName} (hs : New E w₀ k s.id)
    (hok : z.snapshot s = .ok z') : Growth E w₀ z' k := by
  have hwf := h.wf.snapshot hok
  obtain ⟨hn, _, t, ht, _, rfl⟩ := Store.snapshot_ok hok
  refine h.put_same hn hwf (fun _ => rfl) (h.grown _) (fun u hu => ?_) fun id hid => ?_
  · exact List.mem_append_left _ (h.owns _ u hu).2
  · simp only [Zvol.ids, List.map_append, List.mem_append, List.map_cons, List.map_nil,
      List.mem_singleton] at hid
    rcases hid with hid | rfl
    · exact .inl hid
    · exact .inr (ht ▸ hs)

theorem destroySnap (hT : Tidy E w₀) (h : Growth E w₀ z k) {s : SnapName} (hs : New E w₀ k s.id)
    (hok : z.destroySnap s = .ok z') : Growth E w₀ z' k := by
  have hwf := h.wf.destroySnap hok
  obtain ⟨hhas, _, rfl⟩ := Store.destroySnap_ok hok
  refine h.put_same hhas.1 hwf (fun _ => rfl) (h.grown _) (fun u hu => ?_) fun id hid => .inl ?_
  · have hne : u.id ≠ s.id := fun heq =>
      hT.not_has_of_new (s := ⟨s.zvol, s.id⟩) hs (Store.has_iff_owns.2 ⟨u, hu, heq⟩)
    exact List.mem_filter.2 ⟨(h.owns _ u hu).2, by simpa using hne⟩
  · exact (List.filter_sublist.map Snap.id).subset hid

theorem destroy (hT : Tidy E w₀) (h : Growth E w₀ z k) {n : ZvolName} (hn : New E w₀ k n.vol)
    (hok : z.destroy n = .ok z') : Growth E w₀ z' k := by
  have hwf := h.wf.destroy hok
  obtain ⟨_, _, _, rfl⟩ := Store.destroy_ok hok
  have hne : ∀ m ∈ w₀.zfs.names, m ≠ n := fun m hm heq => hT.not_mem_of_new hn (heq ▸ hm)
  have hmem : ∀ m, m ∈ z.names.filter (· ≠ n) ↔ m ∈ z.names ∧ m ≠ n := by simp
  refine ⟨h.drawn_le, hwf, ?_, ?_, h.readonly, h.grown, ?_, ?_⟩
  · exact fun m hm => (hmem m).2 ⟨h.names m hm, hne m hm⟩
  · exact fun m hm => h.new_names m ((hmem m).1 hm).1
  · exact fun m t ht => ⟨(hmem m).2 ⟨h.names m ht.1, hne m ht.1⟩, (h.owns m t ht).2⟩
  · exact fun s hs => h.new_snaps s ⟨((hmem _).1 hs.1).1, hs.2⟩

/-- Changing the reservation of any zvol, or any property of a new one. -/
theorem setProps (hT : Tidy E w₀) (h : Growth E w₀ z k) {n : ZvolName} {f : Props → Props}
    (hf : New E w₀ k n.vol ∨ ∀ p, SameData p (f p)) (hok : z.setProps n f = .ok z') : Growth E w₀ z' k := by
  have hwf := h.wf.setProps hok
  obtain ⟨hn, rfl⟩ := Store.setProps_ok hok
  refine h.put_same hn hwf (fun hold => ?_) (fun hold => ?_) (fun u hu => (h.owns n u hu).2)
    fun id hid => .inl hid
  · exact hf.elim (fun hnew => absurd hold (hT.not_mem_of_new hnew)) fun hf => (hf _).readonly
  · rcases hf with hnew | hf
    · exact absurd hold (hT.not_mem_of_new hnew)
    · exact (h.grown n hold).of_sameData (hf _)

/-- Resizing a zvol, before anything else is done to the store. -/
theorem setVolsize (h : Growth E w₀ w₀.zfs k) {n : ZvolName} {size : ℕ → ℕ}
    (hok : w₀.zfs.setVolsize n size = .ok z') : Growth E w₀ z' k := by
  obtain ⟨hro, hset⟩ := Store.setVolsize_ok hok
  have hwf := h.wf.setProps hset
  obtain ⟨hn, rfl⟩ := Store.setProps_ok hset
  exact h.put_same hn hwf (fun _ => rfl) (fun _ => .inr ⟨hro, rfl⟩) (fun u hu => hu.2)
    fun id hid => .inl hid

end Growth

/-! ### Inside a call -/

theorem Old.refl {db : Metabase} {v : Vdi} (h : v ∈ db.vdis) : Old db v := ⟨v, h, rfl, rfl⟩

theorem Mid.refl (hT : Tidy E w₀) : Mid E w₀ w₀ := ⟨Growth.refl hT, fun _ _ hv => Old.refl hv⟩

theorem Mid.outcome (h : Mid E w₀ w) : Outcome E w₀ w := ⟨h.1, fun sr v hv => .inl (h.2 sr v hv)⟩

/-- The store and the metabases between calls stay tidy. -/
theorem Outcome.tidy (hT : Tidy E w₀) (h : Outcome E w₀ w) : Tidy E w where
  wf := h.1.wf
  vol_ne := by
    intro n hn j hj heq
    rcases h.1.new_names n hn with hn | ⟨i, _, hi, hni⟩
    · exact hT.vol_ne n hn j (Nat.le_trans h.1.drawn_le hj) heq
    · have := E.uuid_injective (hni.symm.trans heq)
      omega
  snap_ne := by
    intro s hs j hj heq
    rcases h.1.new_snaps s hs with hs | ⟨i, _, hi, hsi⟩
    · exact hT.snap_ne s hs j (Nat.le_trans h.1.drawn_le hj) heq
    · have := E.uuid_injective (hsi.symm.trans heq)
      omega

/-! ### Running commands -/

/-- The state differs at most in the number of commands. -/
structure World.Same (w w' : World) : Prop where
  zfs : w'.zfs = w.zfs
  db : w'.db = w.db
  work : w'.work = w.work
  drawn : w'.drawn = w.drawn
  destroyed : w'.destroyed = w.destroyed
  commits : w'.commits = w.commits

/-- The state differs at most in the store and in the number of commands. -/
structure World.SameDb (w w' : World) : Prop where
  db : w'.db = w.db
  work : w'.work = w.work
  drawn : w'.drawn = w.drawn
  destroyed : w'.destroyed = w.destroyed
  commits : w'.commits = w.commits

/-- The state differs at most in the open transaction and in the number of commands. -/
structure World.Frame (w w' : World) : Prop where
  zfs : w'.zfs = w.zfs
  db : w'.db = w.db
  drawn : w'.drawn = w.drawn
  destroyed : w'.destroyed = w.destroyed
  commits : w'.commits = w.commits

/-- The store changed, and one more object was destroyed. -/
structure World.Destroyed (w w' : World) : Prop where
  db : w'.db = w.db
  work : w'.work = w.work
  drawn : w'.drawn = w.drawn
  destroyed : w'.destroyed = w.destroyed + 1
  commits : w'.commits = w.commits

/-- The open transaction was committed. -/
structure World.Committed (w : World) (sr : String) (w' : World) : Prop where
  zfs : w'.zfs = w.zfs
  db : w'.db = fun sr' => if sr' = sr then w.work else w.db sr'
  drawn : w'.drawn = w.drawn
  destroyed : w'.destroyed = w.destroyed
  commits : w'.commits = w.commits + 1

/-- A uuid was drawn. -/
structure World.Drew (w w' : World) : Prop where
  zfs : w'.zfs = w.zfs
  db : w'.db = w.db
  work : w'.work = w.work
  drawn : w'.drawn = w.drawn + 1
  destroyed : w'.destroyed = w.destroyed
  commits : w'.commits = w.commits

theorem World.Same.frame {w w' : World} (h : w.Same w') : w.Frame w' :=
  ⟨h.zfs, h.db, h.drawn, h.destroyed, h.commits⟩

theorem World.Frame.trans {w w' w'' : World} (h : w.Frame w') (h' : w'.Frame w'') : w.Frame w'' :=
  ⟨h'.zfs.trans h.zfs, h'.db.trans h.db, h'.drawn.trans h.drawn, h'.destroyed.trans h.destroyed,
    h'.commits.trans h.commits⟩

theorem World.Same.trans {w w' w'' : World} (h : w.Same w') (h' : w'.Same w'') : w.Same w'' :=
  ⟨h'.zfs.trans h.zfs, h'.db.trans h.db, h'.work.trans h.work, h'.drawn.trans h.drawn,
    h'.destroyed.trans h.destroyed, h'.commits.trans h.commits⟩

theorem World.SameDb.trans {w w' w'' : World} (h : w.SameDb w') (h' : w'.SameDb w'') :
    w.SameDb w'' :=
  ⟨h'.db.trans h.db, h'.work.trans h.work, h'.drawn.trans h.drawn, h'.destroyed.trans h.destroyed,
    h'.commits.trans h.commits⟩

theorem World.Same.sameDb {w w' : World} (h : w.Same w') : w.SameDb w' :=
  ⟨h.db, h.work, h.drawn, h.destroyed, h.commits⟩

theorem World.same_tick (w : World) : w.Same w.tick := ⟨rfl, rfl, rfl, rfl, rfl, rfl⟩

section

variable {α : Type} {Q : α → World → Prop} {X : VolError → World → Prop}

/-- A command fails by the schedule, is refused, or does its work. -/
theorem wp_command {f : World → Except VolError (α × World)}
    (hfault : (∃ c, E.fault c = true) → ∀ w', w.Same w' → X .fault w')
    (herr : ∀ e w', f w.tick = .error e → w.Same w' → X e w')
    (hok : ∀ a w', f w.tick = .ok (a, w') → Q a w') : wp (command E f) Q X w := by
  rw [wp, command]
  by_cases hf : E.fault w.clock
  · simpa [hf] using hfault ⟨_, hf⟩ _ w.same_tick
  · rcases h : f w.tick with e | ⟨a, w'⟩
    · simpa [hf, h] using herr e _ h w.same_tick
    · simpa [hf, h] using hok a w' h

theorem wp_zfsCmd {f : Store → Except ZfsError Store} {Q : Unit → World → Prop}
    (hfault : (∃ c, E.fault c = true) → ∀ w', w.Same w' → X .fault w')
    (herr : ∀ e w', f w.zfs = .error e → w.Same w' → X (.zfs e) w')
    (hok : ∀ w', f w.zfs = .ok w'.zfs → w.SameDb w' → Q () w') : wp (zfsCmd E f) Q X w := by
  have htick : w.tick.zfs = w.zfs := rfl
  refine wp_command hfault (fun e w' he hw' => ?_) fun a w' h => ?_
  · rcases hf : f w.zfs with e' | z <;> simp only [htick, hf] at he
    · cases he
      exact herr e' w' hf hw'
    · cases he
  · rcases hf : f w.zfs with e' | z <;> simp only [htick, hf] at h
    · cases h
    · cases h
      exact hok _ hf ⟨rfl, rfl, rfl, rfl, rfl⟩

theorem wp_zfsGet {f : Store → Except ZfsError α}
    (hfault : (∃ c, E.fault c = true) → ∀ w', w.Same w' → X .fault w')
    (herr : ∀ e w', f w.zfs = .error e → w.Same w' → X (.zfs e) w')
    (hok : ∀ a w', f w.zfs = .ok a → w.Same w' → Q a w') : wp (zfsGet E f) Q X w := by
  have htick : w.tick.zfs = w.zfs := rfl
  refine wp_command hfault (fun e w' he hw' => ?_) fun a w' h => ?_
  · rcases hf : f w.zfs with e' | b <;> simp only [htick, hf] at he
    · cases he
      exact herr e' w' hf hw'
    · cases he
  · rcases hf : f w.zfs with e' | b <;> simp only [htick, hf] at h
    · cases h
    · cases h
      exact hok _ _ hf w.same_tick

theorem wp_dbCmd {f : Metabase → Except VolError (α × Metabase)}
    (hfault : (∃ c, E.fault c = true) → ∀ w', w.Same w' → X .fault w')
    (herr : ∀ e w', f w.work = .error e → w.Same w' → X e w')
    (hok : ∀ a db w', f w.work = .ok (a, db) → w'.work = db → w.Frame w' → Q a w') :
    wp (dbCmd E f) Q X w := by
  have htick : w.tick.work = w.work := rfl
  refine wp_command hfault (fun e w' he hw' => ?_) fun a w' h => ?_
  · rcases hf : f w.work with e' | ⟨b, db⟩ <;> simp only [htick, hf] at he
    · cases he
      exact herr _ w' hf hw'
    · cases he
  · rcases hf : f w.work with e' | ⟨b, db⟩ <;> simp only [htick, hf] at h
    · cases h
    · cases h
      exact hok _ _ _ hf rfl ⟨rfl, rfl, rfl, rfl, rfl⟩

theorem wp_destroyZvol {object : ZfsObject} {Q : Unit → World → Prop}
    (hfault : (∃ c, E.fault c = true) → ∀ w', w.Same w' → X .fault w')
    (herr : ∀ e w', object.destroy w.zfs = .error e → w.Same w' → X (.zfs e) w')
    (hok : ∀ w', object.destroy w.zfs = .ok w'.zfs → w.Destroyed w' → Q () w') :
    wp (destroyZvol E object) Q X w := by
  have htick : w.tick.zfs = w.zfs := rfl
  refine wp_command hfault (fun e w' he hw' => ?_) fun a w' h => ?_
  · rcases hf : object.destroy w.zfs with e' | z <;> simp only [htick, hf] at he
    · cases he
      exact herr e' w' hf hw'
    · cases he
  · rcases hf : object.destroy w.zfs with e' | z <;> simp only [htick, hf] at h
    · cases h
    · cases h
      exact hok _ hf ⟨rfl, rfl, rfl, rfl, rfl⟩

/-- **A transaction**: it starts from the committed metabase, and only its end changes that. -/
theorem wp_dbContext {sr : String} {body : VolM α}
    (hbegin : (∃ c, E.fault c = true) → ∀ w', w.Same w' → X .fault w')
    (hbody : ∀ w₁, w.Frame w₁ → w₁.work = w.db sr →
      wp body (fun a w' => ((∃ c, E.fault c = true) → ∀ w'', w'.Same w'' → X .fault w'') ∧
        ∀ w'', w'.Committed sr w'' → Q a w'') X w₁) :
    wp (dbContext E sr body) Q X w := by
  rw [dbContext, wp_bind]
  refine wp_command hbegin (fun e _ he => by cases he) fun a w₁ h => ?_
  have hframe : w.Frame w₁ := by cases h; exact ⟨rfl, rfl, rfl, rfl, rfl⟩
  have hwork : w₁.work = w.db sr := by cases h; rfl
  rw [wp_bind]
  refine wp_mono (hbody w₁ hframe hwork) (fun b w₂ h₂ => ?_) fun _ _ h₂ => h₂
  rw [wp_bind]
  refine wp_command h₂.1 (fun e _ he => by cases he) fun c w₃ h₃ => ?_
  refine h₂.2 w₃ ?_
  cases h₃
  exact ⟨rfl, rfl, rfl, rfl, rfl⟩

theorem wp_getSrMetadata {sr : String} {Q : SrMeta → World → Prop}
    (hX : E.srMeta sr = none → X (.noMetadata sr) w) (hQ : ∀ m, E.srMeta sr = some m → Q m w) :
    wp (getSrMetadata E sr) Q X w := by
  rw [getSrMetadata]
  rcases h : E.srMeta sr with _ | m
  · exact hX h
  · exact hQ m h

theorem wp_uuid4 {Q : String → World → Prop} (hQ : ∀ w', w.Drew w' → Q (E.uuid w.drawn) w') :
    wp (uuid4 E) Q X w := hQ _ ⟨rfl, rfl, rfl, rfl, rfl, rfl⟩

/-- The listing of `vol_exists` can fail; a zvol it finds is there. -/
theorem wp_volExists {n : ZvolName} {Q : Bool → World → Prop}
    (hfault : (∃ c, E.fault c = true) → ∀ w', w.Same w' → Q false w')
    (hok : ∀ w', w.Same w' → Q (decide (n ∈ w.zfs.names)) w') : wp (volExists E n) Q X w := by
  rw [volExists, wp_tryCatch]
  refine wp_zfsGet hfault (fun e _ he => by cases he) fun b w' hb hw' => ?_
  cases hb
  exact hok w' hw'

/-- The open transaction after the size of a VDI was recovered in it. -/
def Recovered (db db' : Metabase) (vdi vdi' : Vdi) : Prop :=
  db' = db ∧ vdi' = vdi ∨
    ∃ x, db' = db.updateVolumeVsize vdi.volume_id (some x) ∧ vdi' = { vdi with vsize := some x }

theorem wp_recoverVdiVsize {vdi : Vdi} {ds : List String} {Q : Vdi → World → Prop}
    (hfault : (∃ c, E.fault c = true) → ∀ w', w.Same w' → X .fault w')
    (herr : ∀ e w', (⟨ds, vdi.uuid⟩ : ZvolName) ∉ w.zfs.names → w.Same w' → X e w')
    (hQ : ∀ vdi' w', w.Frame w' → Recovered w.work w'.work vdi vdi' → Q vdi' w') :
    wp (recoverVdiVsize E vdi ds) Q X w := by
  rw [recoverVdiVsize]
  split
  · exact hQ vdi w ⟨rfl, rfl, rfl, rfl, rfl⟩ (.inl ⟨rfl, rfl⟩)
  · rw [wp_bind]
    refine wp_zfsGet hfault (fun e w' he hw' => herr _ w' ?_ hw') fun x w' _ hw' => ?_
    · intro hmem
      rw [Store.getProp, if_pos hmem] at he
      cases he
    · rw [wp_bind]
      refine wp_dbCmd (fun hf w'' hw'' => hfault hf w'' (hw'.trans hw''))
        (fun e _ he => by cases he) fun a db w'' hdb hwork hframe => ?_
      cases hdb
      exact hQ _ _ (hw'.frame.trans hframe) (.inr ⟨x, by rw [hwork, hw'.work], rfl⟩)

end

end Volume

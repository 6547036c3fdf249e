/-
**A copy whose command fails** (`src/volume/volume.py`).

`copy` snapshots its source, makes the target from the snapshot, destroys the transient snapshots,
and registers the target.  It cleans up after a command that fails, but not after every one, and
where it does, it tries to destroy the target first: a zvol that was received has a snapshot, and
stays.

Main definitions:

* `Volume.CopyFailures.copySteps` — the commands of a copy, by what they are for;
* `Volume.CopyFailures.CopyStep.Undone` — the steps that leave nothing behind when they fail;
* `Volume.CopyFailures.Pending` — one command fails, and these steps are still to come.

Main results:

* `Volume.CopyFailures.wp_copy_step` — a copy fails in the step whose command fails;
* `Volume.CopyFailures.wp_copy_refused` — a copy that is not well asked for changes nothing;
* `Volume.CopyFailures.allOrNothing_iff` — **the commands whose failure leaves nothing behind**.
-/

import ZfsLive.CopyPaths

set_option relaxedAutoImplicit false
set_option autoImplicit false

namespace Volume.CopyFailures

open Zfs Wp

/-! ### The objects of a store -/

/-- The stores have the same zvols, with the same snapshots. -/
structure SameObjects (z₀ z : Store) : Prop where
  names : ∀ m, m ∈ z.names ↔ m ∈ z₀.names
  snaps : ∀ m ∈ z₀.names, (z.zvol m).snaps = (z₀.zvol m).snaps

/-- The zvols that were there have their snapshots and their origins, and one of them has the
snapshot `s` as well. -/
structure Marked (z₀ z : Store) (s : SnapName) : Prop where
  source : ∃ t : Snap, t.id = s.id ∧ (z.zvol s.zvol).snaps = (z₀.zvol s.zvol).snaps ++ [t]
  others : ∀ m ∈ z₀.names, m ≠ s.zvol → (z.zvol m).snaps = (z₀.zvol m).snaps
  origin : ∀ m ∈ z₀.names, (z.zvol m).origin = (z₀.zvol m).origin

/-- The source of a copy was snapshotted. -/
structure Snapped (z₀ z : Store) (s : SnapName) : Prop extends Marked z₀ z s where
  names : ∀ m, m ∈ z.names ↔ m ∈ z₀.names

/-- The snapshot was replicated: in the same pool to a clone, which has no snapshots, and in another
one to a zvol that came with its snapshot. -/
structure Replicated (z₀ z : Store) (s : SnapName) (n : ZvolName) (same_pool : Bool) : Prop extends
    Marked z₀ z s where
  names : ∀ m, m ∈ z.names ↔ m = n ∨ m ∈ z₀.names
  idle : (z.zvol n).props.busy = false
  cloned : same_pool = true → (z.zvol n).snaps = []
  received : same_pool = false →
    (z.zvol n).origin = none ∧ ∃ t : Snap, t.id = s.id ∧ (z.zvol n).snaps = [t]

/-- The names of a copy: its source is there, and its target and its snapshot are not. -/
structure Clear (z₀ : Store) (s : SnapName) (n : ZvolName) : Prop where
  wf : WF z₀
  source : s.zvol ∈ z₀.names
  fresh : s.id ∉ (z₀.zvol s.zvol).ids
  target : n ∉ z₀.names

/-- The store after an attempt to destroy an object. -/
def afterDestroy (z : Store) (object : ZfsObject) : Store :=
  match object.destroy z with
  | .ok z' => z'
  | .error _ => z

variable {z₀ z z' : Store} {s : SnapName} {n : ZvolName} {same_pool : Bool}

theorem SameObjects.refl (z : Store) : SameObjects z z := ⟨fun _ => Iff.rfl, fun _ _ => rfl⟩

theorem Clear.ne (hc : Clear z₀ s n) : s.zvol ≠ n := fun heq => hc.target (heq ▸ hc.source)

theorem Snapped.not_same (hc : Clear z₀ s n) (h : Snapped z₀ z s) : ¬ SameObjects z₀ z := by
  intro hsame
  obtain ⟨t, -, ht⟩ := h.source
  rw [hsame.snaps _ hc.source] at ht
  simpa using congrArg List.length ht

theorem not_same_of_mem (hc : Clear z₀ s n) (hn : n ∈ z.names) : ¬ SameObjects z₀ z :=
  fun hsame => hc.target ((hsame.names n).1 hn)

/-! What the commands of a copy make. -/

theorem exists_snapshot (hc : Clear z₀ s n) : ∃ z, z₀.snapshot s = .ok z ∧ Snapped z₀ z s := by
  rw [Store.snapshot, if_neg (not_not.2 hc.source), if_neg hc.fresh]
  refine ⟨_, rfl, ⟨?_, fun m _ hm => ?_, fun m hm => ?_⟩, fun m => ?_⟩
  · exact ⟨_, rfl, congrArg Zvol.snaps (Store.zvol_put_self ..)⟩
  · rw [Store.zvol_put_of_ne _ _ hm]
  · by_cases hms : m = s.zvol
    · rw [hms, Store.zvol_put_self]
    · rw [Store.zvol_put_of_ne _ _ hms]
  · rw [Store.mem_names_put]
    exact or_iff_right_of_imp fun heq => heq ▸ hc.source

/-- A new zvol is added beside the snapshot. -/
theorem Snapped.put (hc : Clear z₀ s n) (h : Snapped z₀ z s) {v : Zvol}
    (hbusy : v.props.busy = false) (hcloned : same_pool = true → v.snaps = [])
    (hreceived : same_pool = false → v.origin = none ∧ ∃ t : Snap, t.id = s.id ∧ v.snaps = [t]) :
    Replicated z₀ (z.put n v) s n same_pool := by
  have hne : ∀ m ∈ z₀.names, m ≠ n := fun m hm heq => hc.target (heq ▸ hm)
  refine ⟨⟨?_, fun m hm hms => ?_, fun m hm => ?_⟩, fun m => ?_, ?_, ?_, ?_⟩
  · rw [Store.zvol_put_of_ne _ _ (hne _ hc.source)]
    exact h.source
  · rw [Store.zvol_put_of_ne _ _ (hne m hm)]
    exact h.others m hm hms
  · rw [Store.zvol_put_of_ne _ _ (hne m hm)]
    exact h.origin m hm
  · rw [Store.mem_names_put, h.names]
  · rwa [Store.zvol_put_self]
  · rwa [Store.zvol_put_self]
  · rwa [Store.zvol_put_self]

theorem Snapped.exists_find (h : Snapped z₀ z s) :
    ∃ t, (z.zvol s.zvol).snaps.find? (·.id = s.id) = some t ∧ t.id = s.id := by
  obtain ⟨t, ht, hsnaps⟩ := h.source
  have hmem : t ∈ (z.zvol s.zvol).snaps :=
    hsnaps ▸ List.mem_append_right _ (List.mem_singleton_self t)
  obtain ⟨u, hu⟩ := Option.isSome_iff_exists.1
    (List.find?_isSome (p := (·.id = s.id)).2 ⟨t, hmem, by simpa using ht⟩)
  exact ⟨u, hu, by simpa using List.find?_some hu⟩

theorem Snapped.exists_clone (hc : Clear z₀ s n) (h : Snapped z₀ z s)
    (hpool : n.pool = s.zvol.pool) : ∃ z', z.clone s n = .ok z' ∧ Replicated z₀ z' s n true := by
  obtain ⟨t, ht, -⟩ := h.exists_find
  rw [Store.clone, if_neg (not_not.2 ((h.names _).2 hc.source)),
    if_neg (fun hn => hc.target ((h.names n).1 hn)), if_neg (not_not.2 hpool), ht]
  exact ⟨_, rfl, h.put hc rfl (fun _ => rfl) fun hfalse => by cases hfalse⟩

theorem Snapped.exists_receive (hc : Clear z₀ s n) (h : Snapped z₀ z s) :
    ∃ z', z.receive s n = .ok z' ∧ Replicated z₀ z' s n false := by
  obtain ⟨t, ht, htid⟩ := h.exists_find
  rw [Store.receive, if_neg (not_not.2 ((h.names _).2 hc.source)),
    if_neg (fun hn => hc.target ((h.names n).1 hn)), ht]
  exact ⟨_, rfl, h.put hc rfl (fun htrue => by cases htrue) fun _ => ⟨rfl, t, htid, rfl⟩⟩

theorem Replicated.mem (h : Replicated z₀ z s n same_pool) : n ∈ z.names := (h.names n).2 (.inl rfl)

theorem Replicated.exists_reserve (hc : Clear z₀ s n) (h : Replicated z₀ z s n same_pool) (r : ℕ) :
    ∃ z', z.setProps n (fun p => { p with refreservation := r }) = .ok z' ∧
      Replicated z₀ z' s n same_pool := by
  have hne : ∀ m ∈ z₀.names, m ≠ n := fun m hm heq => hc.target (heq ▸ hm)
  rw [Store.setProps, if_pos h.mem]
  refine ⟨_, rfl, ⟨?_, fun m hm hms => ?_, fun m hm => ?_⟩, fun m => ?_, ?_, ?_, ?_⟩
  · rw [Store.zvol_put_of_ne _ _ hc.ne]
    exact h.source
  · rw [Store.zvol_put_of_ne _ _ (hne m hm)]
    exact h.others m hm hms
  · rw [Store.zvol_put_of_ne _ _ (hne m hm)]
    exact h.origin m hm
  · rw [Store.mem_names_put, h.names]
    exact or_iff_right_of_imp fun heq => .inl heq
  · rw [Store.zvol_put_self]
    exact h.idle
  · rw [Store.zvol_put_self]
    exact h.cloned
  · rw [Store.zvol_put_self]
    exact h.received

/-! What the clean-up undoes. -/

theorem afterDestroy_of_not_mem (hn : n ∉ z.names) : afterDestroy z (.zvol n) = z := by
  rw [afterDestroy, ZfsObject.destroy, Store.destroy, if_pos hn]

theorem Snapped.target (hc : Clear z₀ s n) (h : Snapped z₀ z s) :
    afterDestroy z (.zvol n) = z :=
  afterDestroy_of_not_mem fun hn => hc.target ((h.names n).1 hn)

/-- The clone of a copy in the same pool can be destroyed. -/
theorem Replicated.undone (hc : Clear z₀ s n) (h : Replicated z₀ z s n true) :
    Snapped z₀ (afterDestroy z (.zvol n)) s := by
  rw [afterDestroy, ZfsObject.destroy, Store.destroy, if_neg (not_not.2 h.mem),
    if_neg (by simp [h.idle]), if_neg (not_not.2 (h.cloned rfl))]
  refine ⟨⟨h.source, h.others, h.origin⟩, fun m => ?_⟩
  simp only [List.mem_filter, h.names]
  constructor
  · rintro ⟨rfl | hm, hne⟩
    · simp at hne
    · exact hm
  · exact fun hm => ⟨.inr hm, by simpa using fun heq : m = n => hc.target (heq ▸ hm)⟩

/-- A zvol with snapshots cannot. -/
theorem afterDestroy_of_snaps (hsnaps : (z.zvol n).snaps ≠ []) : afterDestroy z (.zvol n) = z := by
  rw [afterDestroy, ZfsObject.destroy, Store.destroy]
  split_ifs <;> rfl

theorem Replicated.snaps_ne (h : Replicated z₀ z s n false) : (z.zvol n).snaps ≠ [] := by
  obtain ⟨-, t, -, ht⟩ := h.received rfl
  rw [ht]
  exact List.cons_ne_nil t []

/-- No zvol that was there is a clone of the new snapshot. -/
theorem Marked.origin_ne (hc : Clear z₀ s n) (h : Marked z₀ z s) {m : ZvolName}
    (hm : m ∈ z₀.names) : (z.zvol m).origin ≠ some s := by
  rw [h.origin m hm]
  exact fun horigin => hc.fresh (hc.wf.origin_has m hm s horigin).2

theorem Marked.has (h : Marked z₀ z s) (hs : s.zvol ∈ z.names) : z.Has s := by
  obtain ⟨t, ht, hsnaps⟩ := h.source
  refine ⟨hs, List.mem_map.2 ⟨t, ?_, ht⟩⟩
  rw [hsnaps]
  exact List.mem_append_right _ (List.mem_singleton_self t)

/-- The snapshot of the source can be destroyed when there is no clone. -/
theorem Snapped.undone (hc : Clear z₀ s n) (h : Snapped z₀ z s) :
    SameObjects z₀ (afterDestroy z (.snap s)) := by
  obtain ⟨t, ht, hsnaps⟩ := h.source
  have hhas : z.Has s := h.has ((h.names _).2 hc.source)
  have horigin : ¬ ∃ m ∈ z.names, (z.zvol m).origin = some s := by
    rintro ⟨m, hm, hs⟩
    exact h.origin_ne hc ((h.names m).1 hm) hs
  rw [afterDestroy, ZfsObject.destroy, Store.destroySnap, if_neg (not_not.2 hhas), if_neg horigin]
  refine ⟨fun m => ?_, fun m hm => ?_⟩
  · rw [Store.mem_names_put, h.names]
    exact or_iff_right_of_imp fun heq => heq ▸ hc.source
  · by_cases hms : m = s.zvol
    · have hold : (z₀.zvol s.zvol).snaps.filter (fun u => u.id ≠ s.id) = (z₀.zvol s.zvol).snaps :=
        List.filter_eq_self.2 fun u hu => by
          simpa using fun heq : u.id = s.id => hc.fresh (List.mem_map.2 ⟨u, hu, heq⟩)
      rw [hms, Store.zvol_put_self]
      simp [hsnaps, ht, List.filter_append] at hold ⊢
      exact hold
    · rw [Store.zvol_put_of_ne _ _ hms]
      exact h.others m hm hms

theorem mem_afterDestroy_snap {r : SnapName} {m : ZvolName} (hm : m ∈ z.names) :
    m ∈ (afterDestroy z (.snap r)).names := by
  rw [afterDestroy]
  rcases h : (ZfsObject.snap r).destroy z with e | z'
  · exact hm
  · exact (Store.names_destroySnap h).2 hm

/-- Between pools both snapshots of the replication can be destroyed, that of the source first. -/
theorem Replicated.exists_drop (hc : Clear z₀ s n) (h : Replicated z₀ z s n false) :
    ∃ z₁ z₂, z.destroySnap s = .ok z₁ ∧ n ∈ z₁.names ∧ (z₁.zvol n).snaps ≠ [] ∧
      z₁.destroySnap ⟨n, s.id⟩ = .ok z₂ ∧ n ∈ z₂.names := by
  obtain ⟨hlone, t, ht, hsnaps⟩ := h.received rfl
  have horigin : ∀ m ∈ z.names, (z.zvol m).origin ≠ some s := by
    intro m hm hs
    rcases (h.names m).1 hm with rfl | hm
    · rw [hlone] at hs
      cases hs
    · exact h.origin_ne hc hm hs
  obtain ⟨z₁, h₁⟩ := Store.exists_destroySnap (h.has ((h.names _).2 (.inr hc.source))) horigin
  obtain ⟨-, -, hput⟩ := Store.destroySnap_ok h₁
  have hnames : ∀ m, m ∈ z₁.names ↔ m ∈ z.names := fun m => Store.names_destroySnap h₁
  have hzvol : z₁.zvol n = z.zvol n := by rw [hput, Store.zvol_put_of_ne _ _ (Ne.symm hc.ne)]
  have hhas : z₁.Has ⟨n, s.id⟩ := by
    refine ⟨(hnames n).2 h.mem, ?_⟩
    rw [hzvol, Zvol.ids, hsnaps, ← ht]
    exact List.mem_singleton_self t.id
  have horigin₁ : ∀ m ∈ z₁.names, (z₁.zvol m).origin ≠ some ⟨n, s.id⟩ := by
    intro m hm hs
    rcases (h.names m).1 ((hnames m).1 hm) with rfl | hm
    · rw [hzvol, hlone] at hs
      cases hs
    · have hsame : (z₁.zvol m).origin = (z₀.zvol m).origin := by
        rw [hput, ← h.origin m hm, Store.put]
        dsimp only
        split
        · next heq => rw [heq]
        · rfl
      rw [hsame] at hs
      exact hc.target (hc.wf.origin_has m hm _ hs).1
  obtain ⟨z₂, h₂⟩ := Store.exists_destroySnap hhas horigin₁
  refine ⟨z₁, z₂, h₁, (hnames n).2 h.mem, ?_, h₂, (Store.names_destroySnap h₂).2 hhas.1⟩
  rw [hzvol]
  exact h.snaps_ne


/-! ### The commands of a copy -/

/-- What a command of `copy` is for. -/
inductive CopyStep
  /-- The transaction that reads the source. -/
  | read
  | snapshot
  /-- The reservation of the source is read. -/
  | thickness
  | transfer
  /-- The target is given its reservation. -/
  | reserve
  | dropSource
  | dropReceived
  /-- The transaction that registers the target. -/
  | register
  | used
  deriving DecidableEq, Repr

/-- Reading the source, whose size is `recorded` or has to be recovered. -/
def readSteps (recorded : Bool) : List CopyStep :=
  if recorded then [.read, .read, .read] else [.read, .read, .read, .read, .read]

/-- The replication. -/
def replicateSteps (thick : Bool) : List CopyStep :=
  .transfer :: if thick then [.reserve, .reserve, .reserve] else []

/-- Between pools the transient snapshots are destroyed. -/
def finishSteps (same_pool : Bool) : List CopyStep :=
  if same_pool then [] else [.dropSource, .dropReceived]

/-- The commands of a copy, one after the other. -/
def copySteps (recorded same_pool thick : Bool) : List CopyStep :=
  readSteps recorded ++ .snapshot :: .thickness :: (replicateSteps thick ++
    (finishSteps same_pool ++
      [.register, .register, .register, .register, .register, .used]))

/-- The copy leaves nothing behind when it fails in this step. -/
def CopyStep.Undone (recorded same_pool received : Bool) : CopyStep → Prop
  | read => True
  | snapshot => recorded = true
  | transfer => recorded = true ∧ (same_pool = true ∨ received = false)
  | reserve => recorded = true ∧ same_pool = true
  | _ => False

/-- The step whose command is the one at `k`, when the first one is at `c`. -/
def stepAt (k : ℕ) : ℕ → List CopyStep → Option CopyStep
  | _, [] => none
  | c, step :: rest => if c = k then some step else stepAt k (c + 1) rest

/-- Only the command at `k` fails for a reason of its own; the commands of the steps `rest` come
next, and `o` is the one among them that fails. -/
structure Pending (E : Env) (k : ℕ) (o : Option CopyStep) (w : World) (rest : List CopyStep) :
    Prop where
  fault : ∀ i, E.fault i = true ↔ i = k
  step : o = stepAt k w.clock rest

/-- No command fails from now on for a reason of its own. -/
def Calm (E : Env) (w : World) : Prop := ∀ i, w.clock ≤ i → E.fault i = false

section

variable {E : Env} {k : ℕ} {o : Option CopyStep} {step : CopyStep} {rest : List CopyStep} {α : Type}
  {Q : α → World → Prop} {X : VolError → World → Prop} {w w' : World}

theorem Pending.none (h : Pending E k o w []) : o = none := h.step

theorem Pending.of_clock (h : Pending E k o w rest) (hw : w'.clock = w.clock) :
    Pending E k o w' rest := ⟨h.fault, hw ▸ h.step⟩

/-- The next command fails, and none after it. -/
theorem Pending.failed (h : Pending E k o w (step :: rest)) (hc : w.clock = k) :
    o = some step ∧ Calm E w.tick := by
  refine ⟨h.step.trans (if_pos hc), fun i hi => ?_⟩
  have hlt : w.clock < i := hi
  have hne : i ≠ k := by omega
  simpa using mt (h.fault i).1 hne

/-- The next command does not fail. -/
theorem Pending.passed (h : Pending E k o w (step :: rest)) (hc : w.clock ≠ k)
    (hw : w'.clock = w.clock + 1) : Pending E k o w' rest := by
  refine ⟨h.fault, h.step.trans ?_⟩
  rw [hw]
  exact if_neg hc

/-! ### One command -/

/-- The command is the one that fails, or it does its work and is behind. -/
theorem wp_command_step (h : Pending E k o w (step :: rest))
    {f : World → Except VolError (α × World)} {a : α} (hf : f w.tick = .ok (a, w'))
    (hclock : w'.clock = w.clock + 1)
    (hX : o = some step → Calm E w.tick → X .fault w.tick)
    (hQ : Pending E k o w' rest → Q a w') : wp (command E f) Q X w := by
  by_cases hc : w.clock = k
  · rw [wp_of_error (Recovery.command_fault ((h.fault _).2 hc))]
    exact hX (h.failed hc).1 (h.failed hc).2
  · rw [wp, command, if_neg (mt (h.fault _).1 hc), hf]
    exact hQ (h.passed hc hclock)

theorem wp_zfsCmd_step (h : Pending E k o w (step :: rest)) {f : Store → Except ZfsError Store}
    {z : Store} {Q : Unit → World → Prop} (hf : f w.zfs = .ok z)
    (hX : o = some step → Calm E w.tick → X .fault w.tick)
    (hQ : Pending E k o { w.tick with zfs := z } rest → Q () { w.tick with zfs := z }) :
    wp (zfsCmd E f) Q X w := by
  refine wp_command_step h ?_ rfl hX hQ
  rw [show w.tick.zfs = w.zfs from rfl, hf]

theorem wp_zfsGet_step (h : Pending E k o w (step :: rest)) {f : Store → Except ZfsError α} {a : α}
    (hf : f w.zfs = .ok a) (hX : o = some step → Calm E w.tick → X .fault w.tick)
    (hQ : Pending E k o w.tick rest → Q a w.tick) : wp (zfsGet E f) Q X w := by
  refine wp_command_step h ?_ rfl hX hQ
  rw [show w.tick.zfs = w.zfs from rfl, hf]

theorem wp_dbCmd_step (h : Pending E k o w (step :: rest))
    {f : Metabase → Except VolError (α × Metabase)} {a : α} {db : Metabase}
    (hf : f w.work = .ok (a, db)) (hX : o = some step → Calm E w.tick → X .fault w.tick)
    (hQ : Pending E k o { w.tick with work := db } rest → Q a { w.tick with work := db }) :
    wp (dbCmd E f) Q X w := by
  refine wp_command_step h ?_ rfl hX hQ
  rw [show w.tick.work = w.work from rfl, hf]

theorem wp_insertVdi_step {Q : Unit → World → Prop} {cols : VdiCols} {id : ℕ} {db : Metabase}
    (h : Pending E k o w (step :: rest)) (hins : w.work.insertVdi cols id = some db)
    (hX : o = some step → X .fault w.tick)
    (hQ : Pending E k o { w.tick with work := db } rest → Q () { w.tick with work := db }) :
    wp (insertVdi E cols id) Q X w :=
  wp_dbCmd_step h (by rw [hins]) (fun ho _ => hX ho) hQ

theorem wp_getVdiById_step {Q : Vdi → World → Prop} {vdi : Vdi}
    (h : Pending E k o w (step :: rest)) (hvdi : vdi ∈ w.work.vdis)
    (hX : o = some step → X .fault w.tick) (hQ : Pending E k o w.tick rest → Q vdi w.tick) :
    wp (getVdiById E vdi.uuid) Q X w := by
  have hget : w.work.getVdiById vdi.uuid = some vdi := Metabase.getVdiById_eq hvdi
  exact wp_dbCmd_step h (by rw [hget]) (fun ho _ => hX ho) hQ

theorem wp_destroyZvol_step {object : ZfsObject} {Q : Unit → World → Prop} {z : Store}
    (h : Pending E k o w (step :: rest)) (hz : object.destroy w.zfs = .ok z)
    (hX : o = some step → Calm E w.tick → X .fault w.tick)
    (hQ : ∀ w', Pending E k o w' rest → w'.zfs = z → w'.db = w.db → Q () w') :
    wp (destroyZvol E object) Q X w := by
  refine wp_command_step h ?_ rfl hX
    fun h' => hQ { w.tick with zfs := z, destroyed := w.destroyed + 1 } h' rfl rfl
  rw [show w.tick.zfs = w.zfs from rfl, hz]
  rfl

/-- The open transaction is committed. -/
def committed (sr : String) (w : World) : World :=
  { w.tick with
    db := fun sr' => if sr' = sr then w.work else w.db sr'
    commits := w.commits + 1 }

/-- A transaction, from its beginning to its commit. -/
theorem wp_dbContext_step {sr : String} {body : VolM α} (h : Pending E k o w (step :: rest))
    (hbegin : o = some step → X .fault w.tick)
    (hbody : Pending E k o { w.tick with work := w.db sr } rest →
      wp body (fun a w' => ∃ step' rest', Pending E k o w' (step' :: rest') ∧
        (o = some step' → X .fault w'.tick) ∧
        (Pending E k o (committed sr w') rest' → Q a (committed sr w'))) X
        { w.tick with work := w.db sr }) : wp (dbContext E sr body) Q X w := by
  rw [dbContext, wp_bind]
  refine wp_command_step h rfl rfl (fun ho _ => hbegin ho) fun h₁ => ?_
  rw [wp_bind]
  refine wp_mono (hbody h₁) (fun a w' h' => ?_) fun _ _ hX => hX
  obtain ⟨step', rest', h₂, hX, hQ⟩ := h'
  rw [wp_bind]
  exact wp_command_step h₂ rfl rfl (fun ho _ => hX ho) hQ

/-! ### The clean-up -/

/-- The program tries to destroy an object, and its failure is no harm. -/
def Attempts (E : Env) (m : VolM Unit) (object : ZfsObject) : Prop :=
  ∀ w, Calm E w → wp (attempt m)
    (fun _ w' => w'.zfs = afterDestroy w.zfs object ∧ w'.db = w.db ∧ Calm E w') (fun _ _ => False) w

theorem wp_destroyZvol_calm (h : Calm E w) {object : ZfsObject} {Q : Unit → World → Prop}
    (hQ : ∀ w', w'.zfs = afterDestroy w.zfs object → w'.db = w.db → Calm E w' → Q () w')
    (hX : ∀ e w', w'.zfs = afterDestroy w.zfs object → w'.db = w.db → Calm E w' → X e w') :
    wp (destroyZvol E object) Q X w := by
  have hcalm : ∀ i, w.clock + 1 ≤ i → E.fault i = false := fun i hi => h i (by omega)
  have hfault : ¬ E.fault w.clock = true := by simp [h w.clock (Nat.le_refl _)]
  rw [wp, destroyZvol, command, if_neg hfault, show w.tick.zfs = w.zfs from rfl]
  rcases hd : object.destroy w.zfs with e | z
  · exact hX _ _ (by rw [afterDestroy, hd]; rfl) rfl hcalm
  · exact hQ _ (by rw [afterDestroy, hd]) rfl hcalm

theorem attempts_destroyZvol (object : ZfsObject) : Attempts E (destroyZvol E object) object := by
  intro w h
  refine wp_attempt (wp_destroyZvol_calm h ?_ ?_)
  · exact fun w' hz hdb hc => ⟨hz, hdb, hc⟩
  · exact fun _ w' hz hdb hc => ⟨hz, hdb, hc⟩

/-- What can only be destroyed when its zvol is there may be asked for that first. -/
theorem attempts_if_exists {object : ZfsObject} (n : ZvolName)
    (hn : ∀ z : Store, n ∉ z.names → afterDestroy z object = z) :
    Attempts E (do if ← volExists E n then destroyZvol E object) object := by
  intro w h
  have hfault : E.fault w.clock = false := h w.clock (Nat.le_refl _)
  have hcalm : Calm E w.tick := fun i hi => h i (Nat.le_of_succ_le hi)
  have hexists : volExists E n w = .ok (decide (n ∈ w.zfs.names)) w.tick :=
    tryCatch_ok (Recovery.zfsGet_at hfault rfl)
  refine wp_attempt ?_
  rw [wp_bind, wp_of_ok hexists, wp_ite]
  refine ⟨fun _ => ?_, fun hne => ⟨?_, rfl, hcalm⟩⟩
  · refine wp_destroyZvol_calm hcalm ?_ ?_
    · exact fun w' hz hdb hc => ⟨hz, hdb, hc⟩
    · exact fun _ w' hz hdb hc => ⟨hz, hdb, hc⟩
  · exact (hn w.zfs (by simpa using hne)).symm

theorem attempts_destroyIfExists (n : ZvolName) : Attempts E (destroyIfExists E n) (.zvol n) :=
  attempts_if_exists n fun _ => afterDestroy_of_not_mem

theorem attempts_dropSnapshot (s : SnapName) : Attempts E (dropSnapshot E s) (.snap s) := by
  refine attempts_if_exists s.zvol fun z hn => ?_
  rw [afterDestroy, ZfsObject.destroy, Store.destroySnap, if_pos fun hs => hn hs.1]

end

/-! ### The phases of a copy -/

section

variable {E : Env} {k : ℕ} {o : Option CopyStep} {step : CopyStep} {rest : List CopyStep}
  {w : World} {z₀ : Store} {s : SnapName} {n : ZvolName} {sr : String} {vdi : Vdi}

/-- A transaction that changes nothing. -/
theorem db_committed (h : w.work = w.db sr) : (committed sr w).db = w.db := by
  funext sr'
  change (if sr' = sr then w.work else w.db sr') = w.db sr'
  split
  · next heq => rw [h, heq]
  · rfl

/-- Recovering a size changes the metabase. -/
theorem updateVolumeVsize_ne {db : Metabase} {x : ℕ} (hvdi : vdi ∈ db.vdis)
    (hsize : vdi.vsize = none) : db.updateVolumeVsize vdi.volume_id (some x) ≠ db := by
  intro hdb
  have hmem : { vdi with vsize := some x } ∈ (db.updateVolumeVsize vdi.volume_id (some x)).vdis :=
    Metabase.mem_vdis_updateVolumeVsize.2 ⟨vdi, hvdi, (if_pos rfl).symm⟩
  rw [hdb] at hmem
  have heq := congrArg Vdi.vsize (Metabase.eq_of_uuid hmem hvdi rfl)
  rw [hsize] at heq
  cases heq

/-- **The source is read**: only the size that is recovered is new in the metabase. -/
theorem wp_readSource {ds : List String}
    (h : Pending E k o w (readSteps vdi.vsize.isSome ++ rest)) (hvdi : vdi ∈ (w.db sr).vdis)
    (hn : (⟨ds, vdi.uuid⟩ : ZvolName) ∈ w.zfs.names) :
    wp (dbContext E sr do
        let vdi ← getVdiById E vdi.uuid
        let vdi ← recoverVdiVsize E vdi ds
        return vdi)
      (fun _ w' => w'.zfs = w.zfs ∧ (w'.db = w.db ↔ vdi.vsize.isSome = true) ∧
        (∀ sr', ∀ v ∈ (w'.db sr').vdis, ∃ v₀ ∈ (w.db sr').vdis, v₀.uuid = v.uuid) ∧
        Pending E k o w' rest)
      (fun _ w' => o = some .read ∧ w'.zfs = w.zfs ∧ w'.db = w.db) w := by
  rw [readSteps] at h
  cases hsize : vdi.vsize with
  | some x =>
      rw [hsize] at h
      refine wp_dbContext_step h (fun ho => ⟨ho, rfl, rfl⟩) fun h₁ => ?_
      rw [wp_bind]
      refine wp_getVdiById_step h₁ hvdi (fun ho => ⟨ho, rfl, rfl⟩) fun h₂ => ?_
      simp only [recoverVdiVsize, hsize, wp_pure]
      refine ⟨_, _, h₂, fun ho => ⟨ho, rfl, rfl⟩, fun h₃ => ?_⟩
      have hdb : (committed sr ({ w.tick with work := w.db sr } : World).tick).db = w.db :=
        db_committed rfl
      exact ⟨rfl, iff_of_true hdb rfl, fun sr' v hv => ⟨v, hdb ▸ hv, rfl⟩, h₃⟩
  | none =>
      rw [hsize] at h
      refine wp_dbContext_step h (fun ho => ⟨ho, rfl, rfl⟩) fun h₁ => ?_
      rw [wp_bind]
      refine wp_getVdiById_step h₁ hvdi (fun ho => ⟨ho, rfl, rfl⟩) fun h₂ => ?_
      simp only [recoverVdiVsize, hsize, wp_bind, wp_pure, getZvolSizeBytes, updateVolumeVsize]
      refine wp_zfsGet_step h₂ (if_pos hn) (fun ho _ => ⟨ho, rfl, rfl⟩) fun h₃ => ?_
      refine wp_dbCmd_step h₃ rfl (fun ho _ => ⟨ho, rfl, rfl⟩) fun h₄ => ?_
      refine ⟨_, _, h₄, fun ho => ⟨ho, rfl, rfl⟩, fun h₅ => ⟨rfl, ?_, fun sr' v hv => ?_, h₅⟩⟩
      · refine iff_of_false (fun hdb => ?_) Bool.false_ne_true
        exact updateVolumeVsize_ne hvdi hsize ((if_pos rfl).symm.trans (congrFun hdb sr))
      · change v ∈ (if sr' = sr then (w.db sr).updateVolumeVsize vdi.volume_id _
          else w.db sr').vdis at hv
        split at hv
        · next heq =>
          obtain ⟨v₀, hv₀, huuid, -⟩ := Metabase.exists_of_mem_updateVolumeVsize hv
          exact ⟨v₀, heq ▸ hv₀, huuid⟩
        · exact ⟨v, hv, rfl⟩

/-- What the clean-up of the replication leaves. -/
theorem wp_undo (h : Calm E w) (e : VolError) :
    wp (do
        attempt (destroyIfExists E n)
        attempt (destroyZvol E (.snap s))
        (throw e : VolM Unit)) (fun _ _ => False)
      (fun _ w' => w'.zfs = afterDestroy (afterDestroy w.zfs (.zvol n)) (.snap s) ∧ w'.db = w.db)
      w := by
  rw [wp_bind]
  refine wp_mono (attempts_destroyIfExists n w h) (fun _ w₁ h₁ => ?_) fun _ _ h => h.elim
  obtain ⟨hz₁, hdb₁, hc₁⟩ := h₁
  rw [wp_bind]
  refine wp_mono (attempts_destroyZvol (.snap s) w₁ hc₁) (fun _ w₂ h₂ => ?_) fun _ _ h => h.elim
  obtain ⟨hz₂, hdb₂, -⟩ := h₂
  exact ⟨by rw [hz₂, hz₁], by rw [hdb₂, hdb₁]⟩

/-- A replication that failed in a step, before the clean-up: it has made nothing that cannot be
undone, or a zvol that came with a snapshot. -/
def Torn (z₀ z : Store) (s : SnapName) (n : ZvolName) (undone : Prop) : Prop :=
  undone ∧ (Snapped z₀ z s ∨ Replicated z₀ z s n true) ∨ ¬ undone ∧ Replicated z₀ z s n false

/-- The clean-up undoes what can be undone. -/
theorem Torn.same_iff {z : Store} {undone : Prop} (hc : Clear z₀ s n) (h : Torn z₀ z s n undone) :
    SameObjects z₀ (afterDestroy (afterDestroy z (.zvol n)) (.snap s)) ↔ undone := by
  rcases h with ⟨hu, hsnapped | hrep⟩ | ⟨hu, hrep⟩
  · rw [hsnapped.target hc]
    exact iff_of_true (hsnapped.undone hc) hu
  · exact iff_of_true ((hrep.undone hc).undone hc) hu
  · rw [afterDestroy_of_snaps hrep.snaps_ne]
    exact iff_of_false (not_same_of_mem hc (mem_afterDestroy_snap hrep.mem)) hu

/-- The target is made. -/
theorem wp_transfer_step {same_pool : Bool} (hc : Clear z₀ s n)
    (hpool : same_pool = true → n.pool = s.zvol.pool) (hz : Snapped z₀ w.zfs s)
    (h : Pending E k o w (.transfer :: rest)) :
    wp (transfer E same_pool s n)
      (fun _ w' => Replicated z₀ w'.zfs s n same_pool ∧ w'.db = w.db ∧ Pending E k o w' rest)
      (fun _ w' => o = some .transfer ∧ Calm E w' ∧ w'.db = w.db ∧
        Torn z₀ w'.zfs s n (same_pool = true ∨ E.received k = false)) w := by
  rw [transfer]
  cases same_pool with
  | true =>
      obtain ⟨z, hclone, hrep⟩ := hz.exists_clone hc (hpool rfl)
      simp only [if_true, cloneSnapshot, wp_bind, wp_pure]
      refine wp_zfsCmd_step h hclone (fun ho hcalm => ?_) fun h' => ⟨hrep, rfl, h'⟩
      exact ⟨ho, hcalm, rfl, .inl ⟨.inl trivial, .inl hz⟩⟩
  | false =>
      obtain ⟨z, hrecv, hrep⟩ := hz.exists_receive hc
      rw [if_neg Bool.false_ne_true, wp, volSendReceive]
      by_cases hclock : w.clock = k
      · obtain ⟨ho, hcalm⟩ := h.failed hclock
        have hfault : E.fault w.clock = true := (h.fault _).2 hclock
        by_cases hr : E.received w.clock = true
        · rw [if_pos ⟨hfault, hr⟩, hrecv]
          refine ⟨ho, hcalm, rfl, .inr ⟨?_, hrep⟩⟩
          rintro (hfalse | hfalse)
          · cases hfalse
          · rw [← hclock, hr] at hfalse
            cases hfalse
        · rw [if_neg fun hboth => hr hboth.2, zfsCmd, Recovery.command_fault hfault]
          exact ⟨ho, hcalm, rfl, .inl ⟨.inr (hclock ▸ by simpa using hr), .inl hz⟩⟩
      · have hfault : ¬ E.fault w.clock = true := mt (h.fault _).1 hclock
        rw [if_neg fun hboth => hfault hboth.1,
          Recovery.zfsCmd_at (by simpa using hfault) hrecv]
        exact ⟨hrep, rfl, h.passed hclock rfl⟩

/-- The target is given its reservation. -/
theorem wp_keepThick_step {same_pool : Bool} {thick : Bool} (hc : Clear z₀ s n)
    (hz : Replicated z₀ w.zfs s n same_pool)
    (h : Pending E k o w ((if thick then [.reserve, .reserve, .reserve] else []) ++ rest)) :
    wp (keepThick E thick n)
      (fun _ w' => Replicated z₀ w'.zfs s n same_pool ∧ w'.db = w.db ∧ Pending E k o w' rest)
      (fun _ w' => o = some .reserve ∧ Calm E w' ∧ w'.db = w.db ∧
        Replicated z₀ w'.zfs s n same_pool) w := by
  rw [keepThick]
  cases thick with
  | true =>
      simp only [if_true, volSetThickRefreservation, wp_bind]
      refine wp_zfsGet_step h (if_pos hz.mem) (fun ho hcalm => ⟨ho, hcalm, rfl, hz⟩) fun h₁ => ?_
      refine wp_zfsGet_step h₁ (if_pos hz.mem) (fun ho hcalm => ⟨ho, hcalm, rfl, hz⟩) fun h₂ => ?_
      obtain ⟨z, hset, hrep⟩ := hz.exists_reserve hc _
      exact wp_zfsCmd_step h₂ hset (fun ho hcalm => ⟨ho, hcalm, rfl, hz⟩) fun h₃ => ⟨hrep, rfl, h₃⟩
  | false => exact ⟨hz, rfl, h⟩

/-- How a copy fails after its source was read: in a step that it undoes, or not. -/
def Fails (E : Env) (k : ℕ) (o : Option CopyStep) (z₀ : Store) (w : World) (same_pool : Bool)
    (w' : World) : Prop :=
  ∃ step, o = some step ∧ step ≠ .read ∧
    (SameObjects z₀ w'.zfs ↔ step.Undone true same_pool (E.received k)) ∧
    (step.Undone true same_pool (E.received k) → w'.db = w.db)

/-- **The replication** fails in a step that it undoes exactly when the target has no snapshot. -/
theorem wp_replicate_step {same_pool thick : Bool} (hc : Clear z₀ s n)
    (hpool : same_pool = true → n.pool = s.zvol.pool) (hz : Snapped z₀ w.zfs s)
    (h : Pending E k o w (replicateSteps thick ++ rest)) :
    wp (replicate E same_pool thick s n)
      (fun _ w' => Replicated z₀ w'.zfs s n same_pool ∧ w'.db = w.db ∧ Pending E k o w' rest)
      (fun _ w' => Fails E k o z₀ w same_pool w') w := by
  rw [replicate, wp_tryCatch, wp_bind]
  refine wp_mono (wp_transfer_step hc hpool hz h) (fun _ w₁ h₁ => ?_) fun e w₁ h₁ => ?_
  · obtain ⟨hrep, hdb₁, h₁⟩ := h₁
    refine wp_mono (wp_keepThick_step hc hrep h₁) (fun _ w₂ h₂ => ?_) fun e w₂ h₂ => ?_
    · exact ⟨h₂.1, h₂.2.1.trans hdb₁, h₂.2.2⟩
    · obtain ⟨ho, hcalm, hdb₂, hrep⟩ := h₂
      refine wp_mono (wp_undo hcalm e) (fun _ _ h => h.elim) fun _ w₃ h₃ => ?_
      have htorn : Torn z₀ w₂.zfs s n (same_pool = true) := by
        cases same_pool with
        | true => exact .inl ⟨rfl, .inr hrep⟩
        | false => exact .inr ⟨Bool.false_ne_true, hrep⟩
      refine ⟨.reserve, ho, fun heq => (by cases heq), ?_, fun _ => ?_⟩
      · rw [h₃.1, htorn.same_iff hc]
        exact (and_iff_right rfl).symm
      · rw [h₃.2, hdb₂, hdb₁]
  · obtain ⟨ho, hcalm, hdb₁, htorn⟩ := h₁
    refine wp_mono (wp_undo hcalm e) (fun _ _ h => h.elim) fun _ w₂ h₂ => ?_
    refine ⟨.transfer, ho, fun heq => (by cases heq), ?_, fun _ => h₂.2.trans hdb₁⟩
    rw [h₂.1, htorn.same_iff hc]
    exact (and_iff_right rfl).symm

/-- A received zvol outlives the clean-up after a snapshot that was not destroyed. -/
theorem wp_undrop {r : SnapName} (h : Calm E w) (hmem : r.zvol ∈ w.zfs.names)
    (hsnaps : (w.zfs.zvol r.zvol).snaps ≠ []) (e : VolError) :
    wp (do
        attempt (destroyIfExists E r.zvol)
        attempt (dropSnapshot E s)
        attempt (dropSnapshot E r)
        (throw e : VolM Unit)) (fun _ _ => False) (fun _ w' => r.zvol ∈ w'.zfs.names) w := by
  rw [wp_bind]
  refine wp_mono (attempts_destroyIfExists r.zvol w h) (fun _ w₁ h₁ => ?_) fun _ _ h => h.elim
  obtain ⟨hz₁, -, hc₁⟩ := h₁
  rw [wp_bind]
  refine wp_mono (attempts_dropSnapshot s w₁ hc₁) (fun _ w₂ h₂ => ?_) fun _ _ h => h.elim
  obtain ⟨hz₂, -, hc₂⟩ := h₂
  rw [wp_bind]
  refine wp_mono (attempts_dropSnapshot r w₂ hc₂) (fun _ w₃ h₃ => ?_) fun _ _ h => h.elim
  change r.zvol ∈ w₃.zfs.names
  rw [h₃.1, hz₂, hz₁, afterDestroy_of_snaps hsnaps]
  exact mem_afterDestroy_snap (mem_afterDestroy_snap hmem)

theorem Fails.of_mem {same_pool : Bool} {w' : World} (hc : Clear z₀ s n) (hn : n ∈ w'.zfs.names)
    (ho : o = some step) (hread : step ≠ .read)
    (hu : ¬ step.Undone true same_pool (E.received k)) : Fails E k o z₀ w same_pool w' :=
  ⟨step, ho, hread, iff_of_false (not_same_of_mem hc hn) hu, fun h => absurd h hu⟩

/-- **Between pools** the target stays when a transient snapshot is not destroyed. -/
theorem wp_dropTransients_step (hc : Clear z₀ s n) (hz : Replicated z₀ w.zfs s n false)
    (h : Pending E k o w (.dropSource :: .dropReceived :: rest)) :
    wp (dropTransients E s ⟨n, s.id⟩)
      (fun _ w' => n ∈ w'.zfs.names ∧ w'.db = w.db ∧ Pending E k o w' rest)
      (fun _ w' => Fails E k o z₀ w false w') w := by
  obtain ⟨z₁, z₂, h₁, hn₁, hsnaps₁, h₂, hn₂⟩ := hz.exists_drop hc
  rw [dropTransients, wp_tryCatch, wp_bind]
  refine wp_destroyZvol_step h h₁ (fun ho hcalm => ?_) fun w₁ hp₁ hzfs₁ hdb₁ => ?_
  · refine wp_mono (wp_undrop (r := ⟨n, s.id⟩) hcalm hz.mem hz.snaps_ne _) (fun _ _ h => h.elim)
      fun _ w' hn => ?_
    exact .of_mem hc hn ho (fun heq => by cases heq) id
  · rw [← hzfs₁] at hn₁ hsnaps₁ h₂
    refine wp_destroyZvol_step hp₁ h₂ (fun ho hcalm => ?_) fun w₂ hp₂ hzfs₂ hdb₂ => ?_
    · refine wp_mono (wp_undrop (r := ⟨n, s.id⟩) hcalm hn₁ hsnaps₁ _) (fun _ _ h => h.elim)
        fun _ w' hn => ?_
      exact .of_mem hc hn ho (fun heq => by cases heq) id
    · exact ⟨hzfs₂ ▸ hn₂, hdb₂.trans hdb₁, hp₂⟩

theorem wp_finishReplication_step {same_pool : Bool} (hc : Clear z₀ s n)
    (hz : Replicated z₀ w.zfs s n same_pool) (h : Pending E k o w (finishSteps same_pool ++ rest)) :
    wp (finishReplication E same_pool s ⟨n, s.id⟩)
      (fun _ w' => n ∈ w'.zfs.names ∧ w'.db = w.db ∧ Pending E k o w' rest)
      (fun _ w' => Fails E k o z₀ w same_pool w') w := by
  rw [finishReplication]
  cases same_pool with
  | true => exact ⟨hz.mem, rfl, h⟩
  | false => exact wp_dropTransients_step hc hz h

/-- The transaction that registers the target changes no zvol. -/
theorem wp_register_step {cols : VdiCols} {size : ℕ} {vsize : Option ℕ}
    (hnew : ∀ v ∈ (w.db sr).vdis, v.uuid ≠ cols.uuid)
    (h : Pending E k o w (.register :: .register :: .register :: .register :: .register :: rest)) :
    wp (dbContext E sr do
        let volume_id ← insertNewVolume E size
        insertVdi E cols volume_id
        updateVolumeVsize E volume_id vsize)
      (fun _ w' => w'.zfs = w.zfs ∧ Pending E k o w' rest)
      (fun _ w' => o = some .register ∧ w'.zfs = w.zfs) w := by
  refine wp_dbContext_step h (fun ho => ⟨ho, rfl⟩) fun h₁ => ?_
  rw [wp_bind]
  refine wp_dbCmd_step h₁ rfl (fun ho _ => ⟨ho, rfl⟩) fun h₂ => ?_
  have hnew₂ : ∀ v ∈ ((w.db sr).insertVolume none false (some size)).vdis, v.uuid ≠ cols.uuid :=
    fun v hv => hnew v (Metabase.mem_vdis_insertVolume.1 hv)
  obtain ⟨db, hins⟩ : ∃ db, ((w.db sr).insertNewVolume size).2.insertVdi cols
      ((w.db sr).insertNewVolume size).1 = some db := Metabase.exists_insertVdi hnew₂
  rw [wp_bind]
  refine wp_insertVdi_step h₂ hins (fun ho => ⟨ho, rfl⟩) fun h₃ => ?_
  refine wp_dbCmd_step h₃ rfl (fun ho _ => ⟨ho, rfl⟩) fun h₄ => ?_
  exact ⟨_, _, h₄, fun ho => ⟨ho, rfl⟩, fun h₅ => ⟨rfl, h₅⟩⟩

end

/-! ### The whole copy -/

/-- Nothing is left of a call: the zvols, the snapshots and the metabases are as before. -/
structure AsBefore (w w' : World) : Prop where
  objects : SameObjects w.zfs w'.zfs
  rows : w'.db = w.db

/-- The uuids to come are in use nowhere. -/
structure Unused (E : Env) (w : World) : Prop where
  tidy : Tidy E w
  rows : ∀ sr, ∀ v ∈ (w.db sr).vdis, ∀ j, w.drawn ≤ j → v.uuid ≠ E.uuid j

section

variable {E : Env} {k : ℕ} {o : Option CopyStep} {w w₁ w' : World} {sr dest_sr key : String}
  {m dm : SrMeta} {vdi : Vdi} {same_pool recorded : Bool}

theorem CopyStep.undone_iff {step : CopyStep} {received : Bool} (h : step ≠ .read) :
    step.Undone recorded same_pool received ↔
      recorded = true ∧ step.Undone true same_pool received := by
  cases step with
  | read => exact absurd rfl h
  | snapshot => exact (and_iff_left rfl).symm
  | transfer => exact and_congr_right' (and_iff_right rfl).symm
  | reserve => exact and_congr_right' (and_iff_right rfl).symm
  | _ => exact iff_of_false id fun hboth => hboth.2

/-- After the source was read, a recovered size is left of a copy that fails. -/
theorem Fails.asBefore_iff (hdb : w₁.db = w.db ↔ recorded = true)
    (h : Fails E k o w.zfs w₁ same_pool w') :
    ∃ step, o = some step ∧
      (AsBefore w w' ↔ step.Undone recorded same_pool (E.received k)) := by
  obtain ⟨step, ho, hread, hsame, hkept⟩ := h
  refine ⟨step, ho, ?_⟩
  rw [CopyStep.undone_iff hread]
  constructor
  · rintro ⟨hobjects, hrows⟩
    have hu := hsame.1 hobjects
    exact ⟨hdb.1 ((hkept hu).symm.trans hrows), hu⟩
  · rintro ⟨hrec, hu⟩
    exact ⟨hsame.2 hu, (hkept hu).trans (hdb.2 hrec)⟩

/-- **A copy that is well asked for** fails in the step whose command fails, and nowhere else. -/
theorem wp_copy_step (hw : Unused E w) (hk : ∀ i, E.fault i = true ↔ i = k)
    (hm : E.srMeta sr = some m) (hdm : E.srMeta dest_sr = some dm) (hvdi : vdi ∈ (w.db sr).vdis)
    (hn : (⟨m.datasetPath, vdi.uuid⟩ : ZvolName) ∈ w.zfs.names) :
    let same_pool : Bool := m.zpool = dm.zpool
    let thick : Bool := (w.zfs.zvol ⟨m.datasetPath, vdi.uuid⟩).props.refreservation > 0
    let o := stepAt k w.clock (copySteps vdi.vsize.isSome same_pool thick)
    wp (copy E sr vdi.uuid dest_sr) (fun _ _ => o = none)
      (fun _ w' => ∃ step, o = some step ∧
        (AsBefore w w' ↔ step.Undone vdi.vsize.isSome same_pool (E.received k))) w := by
  intro same_pool thick o
  have hpending : Pending E k o w (copySteps vdi.vsize.isSome same_pool thick) := ⟨hk, rfl⟩
  have hc : Clear w.zfs ⟨⟨m.datasetPath, vdi.uuid⟩, E.uuid (w.drawn + 1)⟩
      ⟨dm.datasetPath, E.uuid w.drawn⟩ :=
    ⟨hw.tidy.wf, hn, fun hid => hw.tidy.snap_ne ⟨_, _⟩ ⟨hn, hid⟩ _ (Nat.le_succ _) rfl,
      fun hmem => hw.tidy.vol_ne _ hmem _ (Nat.le_refl _) rfl⟩
  rw [copy, getSrMetadata, hm, getDestMetadata, hdm]
  simp only [wp_bind, wp_pure]
  change wp (dbContext E sr _) _ _ { w with drawn := w.drawn + 2 }
  refine wp_mono (wp_readSource (hpending.of_clock rfl) hvdi hn) (fun _ w₁ h₁ => ?_)
    fun _ w' h => ?_
  · obtain ⟨hzfs₁, hdb₁, hrows₁, h₁⟩ := h₁
    have hfails : ∀ w', Fails E k o w.zfs w₁ same_pool w' → ∃ step, o = some step ∧
        (AsBefore w w' ↔ step.Undone vdi.vsize.isSome same_pool (E.received k)) :=
      fun w' => Fails.asBefore_iff hdb₁
    -- the snapshot
    obtain ⟨z₂, hsnap, hz₂⟩ := exists_snapshot hc
    refine wp_zfsCmd_step h₁ (by rw [hzfs₁]; exact hsnap) (fun ho _ => ?_) fun h₂ => ?_
    · exact hfails _ ⟨_, ho, fun heq => (by cases heq),
        iff_of_true (hzfs₁ ▸ SameObjects.refl _) rfl, fun _ => rfl⟩
    have hthick : (z₂.zvol ⟨m.datasetPath, vdi.uuid⟩).props.refreservation =
        (w.zfs.zvol ⟨m.datasetPath, vdi.uuid⟩).props.refreservation := by
      obtain ⟨-, -, -, -, -, rfl⟩ := Store.snapshot_ok hsnap
      exact congrArg (·.props.refreservation) (Store.zvol_put_self ..)
    refine wp_zfsGet_step h₂ (if_pos ((hz₂.names _).2 hn)) (fun ho _ => ?_) fun h₃ => ?_
    · exact hfails _ ⟨_, ho, fun heq => (by cases heq), iff_of_false (hz₂.not_same hc) id,
        fun hu => hu.elim⟩
    rw [hthick]
    -- the replication
    have hpool : same_pool = true → (⟨dm.datasetPath, E.uuid w.drawn⟩ : ZvolName).pool =
        (⟨m.datasetPath, vdi.uuid⟩ : ZvolName).pool := fun h =>
      congrArg some (of_decide_eq_true h).symm
    refine wp_mono (wp_replicate_step hc hpool hz₂ h₃) (fun _ w₄ h₄ => ?_)
      fun _ w' h => hfails w' h
    obtain ⟨hz₄, hdb₄, h₄⟩ := h₄
    refine wp_mono (wp_finishReplication_step hc hz₄ h₄) (fun _ w₅ h₅ => ?_) fun _ w' h => ?_
    · obtain ⟨hn₅, hdb₅, h₅⟩ := h₅
      -- the new VDI
      have hnew : ∀ v ∈ (w₅.db dest_sr).vdis, v.uuid ≠ E.uuid w.drawn := by
        intro v hv
        rw [hdb₅, hdb₄] at hv
        obtain ⟨v₀, hv₀, huuid⟩ := hrows₁ dest_sr v hv
        rw [← huuid]
        exact hw.rows dest_sr v₀ hv₀ _ (Nat.le_refl _)
      refine wp_mono (wp_register_step hnew h₅) (fun _ w₆ h₆ => ?_) fun _ w' h => ?_
      · obtain ⟨hzfs₆, h₆⟩ := h₆
        have hn₆ := hzfs₆ ▸ hn₅
        refine wp_zfsGet_step h₆ (if_pos hn₆) (fun ho _ => ?_) fun h₇ => h₇.none
        exact hfails _ (.of_mem hc hn₆ ho (fun heq => by cases heq) id)
      · obtain ⟨ho, hzfs⟩ := h
        exact hfails _ (.of_mem hc (hzfs ▸ hn₅) ho (fun heq => by cases heq) id)
    · obtain ⟨step, ho, hread, hsame, hkept⟩ := h
      exact hfails _ ⟨step, ho, hread, hsame, fun hu => (hkept hu).trans hdb₄⟩
  · obtain ⟨ho, hzfs, hrows⟩ := h
    exact ⟨_, ho, iff_of_true ⟨hzfs ▸ SameObjects.refl _, hrows⟩ trivial⟩

/-- The repositories are on record, and so is the VDI, which has its zvol. -/
def WellAsked (E : Env) (w : World) (sr key dest_sr : String) : Prop :=
  ∃ m dm vdi, E.srMeta sr = some m ∧ E.srMeta dest_sr = some dm ∧ vdi ∈ (w.db sr).vdis ∧
    vdi.uuid = key ∧ (⟨m.datasetPath, key⟩ : ZvolName) ∈ w.zfs.names

theorem AsBefore.of_eq (hzfs : w'.zfs = w.zfs) (hdb : w'.db = w.db) : AsBefore w w' :=
  ⟨hzfs ▸ SameObjects.refl _, hdb⟩

/-- Reading a source that is not there changes nothing. -/
theorem wp_readSource_missing {ds : List String} (hwork : w.work = w.db sr)
    (hmissing : ∀ v ∈ (w.db sr).vdis, v.uuid = key → (⟨ds, key⟩ : ZvolName) ∉ w.zfs.names) :
    wp (do
        let vdi ← getVdiById E key
        let vdi ← recoverVdiVsize E vdi ds
        return vdi)
      (fun _ w' => (⟨ds, key⟩ : ZvolName) ∉ w.zfs.names ∧ w'.zfs = w.zfs ∧ w'.db = w.db ∧
        w'.work = w.db sr)
      (fun _ w' => w'.zfs = w.zfs ∧ w'.db = w.db) w := by
  rw [wp_bind]
  refine wp_dbCmd (fun _ _ hs => ⟨hs.zfs, hs.db⟩) (fun _ _ _ hs => ⟨hs.zfs, hs.db⟩)
    fun vdi db w₁ hget hwork₁ hf₁ => ?_
  split at hget
  · next vdi' hvdi =>
    cases hget
    obtain ⟨hmem, huuid⟩ := Metabase.getVdiById_mem hvdi
    have hn := hmissing vdi (hwork ▸ hmem) huuid
    rw [← huuid] at hn ⊢
    simp only [recoverVdiVsize]
    split
    · exact ⟨hn, hf₁.zfs, hf₁.db, hwork₁.trans hwork⟩
    · simp only [wp_bind]
      refine wp_zfsGet (fun _ _ hs => ⟨hs.zfs.trans hf₁.zfs, hs.db.trans hf₁.db⟩)
        (fun _ _ _ hs => ⟨hs.zfs.trans hf₁.zfs, hs.db.trans hf₁.db⟩) fun _ _ hsize _ => ?_
      rw [hf₁.zfs, Store.getProp, if_neg hn] at hsize
      cases hsize
  · cases hget

/-- **A copy that is not well asked for** changes nothing, whatever fails. -/
theorem wp_copy_refused (h : ¬ WellAsked E w sr key dest_sr) :
    wp (copy E sr key dest_sr) (fun _ _ => True) (fun _ w' => AsBefore w w') w := by
  have hrefl : AsBefore w w := .of_eq rfl rfl
  rw [copy, wp_bind]
  refine wp_getSrMetadata (fun _ => hrefl) fun m hm => ?_
  rw [wp_bind, getDestMetadata]
  cases hdm : E.srMeta dest_sr with
  | none => exact hrefl
  | some dm =>
      simp only [wp_pure]
      rw [wp_bind]
      refine wp_uuid4 fun w₁ hd₁ => ?_
      rw [wp_bind]
      refine wp_uuid4 fun w₂ hd₂ => ?_
      have hzfs₂ : w₂.zfs = w.zfs := hd₂.zfs.trans hd₁.zfs
      have hdb₂ : w₂.db = w.db := hd₂.db.trans hd₁.db
      have hX : ∀ w', w'.zfs = w₂.zfs → w'.db = w₂.db → AsBefore w w' := fun w' hz hd =>
        .of_eq (hz.trans hzfs₂) (hd.trans hdb₂)
      rw [wp_bind]
      refine wp_dbContext (fun _ w' hs => hX w' hs.zfs hs.db) fun w₃ hf₃ hwork₃ => ?_
      have hmissing : ∀ v ∈ (w₃.db sr).vdis, v.uuid = key →
          (⟨m.datasetPath, key⟩ : ZvolName) ∉ w₃.zfs.names := by
        intro v hv huuid hn
        rw [hf₃.db, hdb₂] at hv
        rw [hf₃.zfs, hzfs₂] at hn
        exact h ⟨m, dm, v, hm, hdm, hv, huuid, hn⟩
      refine wp_mono (wp_readSource_missing (hwork₃.trans (congrFun hf₃.db.symm sr)) hmissing)
        (fun vdi w₄ h₄ => ?_) fun _ w' hs => hX w' (hs.1.trans hf₃.zfs) (hs.2.trans hf₃.db)
      obtain ⟨hn, hzfs₄, hdb₄, hwork₄⟩ := h₄
      have hzfs₄' := hzfs₄.trans hf₃.zfs
      have hdb₄' := hdb₄.trans hf₃.db
      refine ⟨fun _ w' hs => hX w' (hs.zfs.trans hzfs₄') (hs.db.trans hdb₄'), fun w₅ hc => ?_⟩
      have hdb₅ : w₅.db = w₂.db := by
        rw [hc.db, ← hdb₄']
        funext sr'
        split
        · next heq => rw [hwork₄, hdb₄, heq]
        · rfl
      have hzfs₅ : w₅.zfs = w₂.zfs := hc.zfs.trans hzfs₄'
      rw [wp_bind]
      refine wp_zfsCmd (fun _ w' hs => hX w' (hs.zfs.trans hzfs₅) (hs.db.trans hdb₅))
        (fun _ w' _ hs => hX w' (hs.zfs.trans hzfs₅) (hs.db.trans hdb₅)) fun w₆ hsnap _ => ?_
      rw [hzfs₅, ← hf₃.zfs] at hsnap
      exact absurd (Store.snapshot_ok hsnap).1 hn

end

/-- The command that fails does no harm: it is none of the copy, or the copy undoes the step it is
in. -/
def Harmless (E : Env) (w : World) (sr key dest_sr : String) (k : ℕ) : Prop :=
  ∀ m dm vdi, E.srMeta sr = some m → E.srMeta dest_sr = some dm → vdi ∈ (w.db sr).vdis →
    vdi.uuid = key → (⟨m.datasetPath, key⟩ : ZvolName) ∈ w.zfs.names →
      ∀ step, stepAt k w.clock (copySteps vdi.vsize.isSome (m.zpool = dm.zpool)
          ((w.zfs.zvol ⟨m.datasetPath, key⟩).props.refreservation > 0)) = some step →
        step.Undone vdi.vsize.isSome (m.zpool = dm.zpool) (E.received k)

/-- **A copy whose command fails leaves nothing behind** exactly when the command is in the
transaction that reads the source; or the size of the source is on record and the command takes the
snapshot, clones it, sends it in vain, or reserves space for the clone. -/
theorem allOrNothing_iff {E : Env} {w : World} {sr key dest_sr : String} {k : ℕ} (hw : Unused E w)
    (hk : ∀ i, E.fault i = true ↔ i = k) :
    (∀ e w', copy E sr key dest_sr w = .error e w' → AsBefore w w') ↔
      Harmless E w sr key dest_sr k := by
  by_cases hasked : WellAsked E w sr key dest_sr
  · obtain ⟨m, dm, vdi, hm, hdm, hvdi, rfl, hn⟩ := hasked
    have hrun := wp_copy_step hw hk hm hdm hvdi hn
    constructor
    · intro hbefore m' dm' vdi' hm' hdm' hvdi' huuid _ step hstep
      obtain rfl := Option.some.inj (hm.symm.trans hm')
      obtain rfl := Option.some.inj (hdm.symm.trans hdm')
      obtain rfl := Metabase.eq_of_uuid hvdi' hvdi huuid
      rcases hcopy : copy E sr vdi'.uuid dest_sr w with ⟨info, w'⟩ | ⟨e, w'⟩
      · cases hstep.symm.trans ((wp_of_ok hcopy).1 hrun)
      · obtain ⟨step', hstep', hiff⟩ := (wp_of_error hcopy).1 hrun
        obtain rfl := Option.some.inj (hstep.symm.trans hstep')
        exact hiff.1 (hbefore e w' hcopy)
    · intro hharmless e w' hcopy
      obtain ⟨step, hstep, hiff⟩ := (wp_of_error hcopy).1 hrun
      exact hiff.2 (hharmless m dm vdi hm hdm hvdi rfl hn step hstep)
  · refine iff_of_true (fun e w' hcopy => (wp_of_error hcopy).1 (wp_copy_refused hasked)) ?_
    exact fun m dm vdi hm hdm hvdi huuid hn =>
      absurd ⟨m, dm, vdi, hm, hdm, hvdi, huuid, hn⟩ hasked

open XeWrapper (twoPools oneDisk)

/-- A host with two pools, where the command `k` fails. -/
def failingAt (k : ℕ) : Env := { twoPools with fault := fun i => decide (i = k) }

theorem unused_oneDisk (k : ℕ) : Unused (failingAt k) oneDisk := by
  have hS : Settled twoPools emptyWorld := (Reachable.start emptyWorld rfl fun _ => rfl).settled
  obtain ⟨info, w', hrun, -⟩ := exists_of_holdsAfter
    (m := create twoPools "sr" "disk" "" 65536 false) (w := emptyWorld) (p := fun _ _ => true)
    (by decide +kernel)
  have hS' : Settled twoPools oneDisk := by
    rw [oneDisk, Volume.after, hrun]
    exact hS.success ((wp_of_ok hrun).1 (wp_create hS.tidy ..))
  refine ⟨⟨hS'.tidy.wf, hS'.tidy.vol_ne, hS'.tidy.snap_ne⟩, fun sr v hv j hj heq => ?_⟩
  obtain ⟨i, hi, hiu⟩ := hS'.drawn sr v hv
  have hij := (failingAt k).uuid_injective (hiu.symm.trans heq)
  omega

/-- The row of the disk. -/
def diskRow : Vdi := ⟨"", "disk", "", false, 0, none, false, some 65536⟩

theorem diskRow_mem : diskRow ∈ (oneDisk.db "sr").vdis := by decide +kernel

/-- A program that raises. -/
theorem exists_error_of_returns {α : Type} {m : VolM α} {w : World}
    (h : Wp.returns m w = false) : ∃ e w', m w = .error e w' := by
  rcases hm : m w with ⟨a, w'⟩ | ⟨e, w'⟩
  · rw [Wp.returns, hm] at h
    cases h
  · exact ⟨e, w', rfl⟩

/-- The snapshot of the disk fails. -/
theorem allOrNothing_iff_snapshot :
    ∃ e w', copy (failingAt (oneDisk.clock + 3)) "sr" "" "far" oneDisk = .error e w' ∧
      AsBefore oneDisk w' := by
  obtain ⟨e, w', hrun⟩ := exists_error_of_returns (w := oneDisk)
    (m := copy (failingAt (oneDisk.clock + 3)) "sr" "" "far") (by decide +kernel)
  have hharmless : Harmless (failingAt (oneDisk.clock + 3)) oneDisk "sr" "" "far"
      (oneDisk.clock + 3) := by
    intro m dm vdi hm hdm hvdi huuid _ step hstep
    cases hm
    cases hdm
    obtain rfl : vdi = diskRow := Metabase.eq_of_uuid hvdi diskRow_mem huuid
    obtain rfl : CopyStep.snapshot = step := Option.some.inj (hstep ▸ (by decide +kernel))
    rfl
  exact ⟨e, w', hrun, (allOrNothing_iff (unused_oneDisk _) fun _ => decide_eq_true_iff).2 hharmless
    e w' hrun⟩

/-- **The transient snapshot of the disk is not destroyed**: the zvol in the other pool stays. -/
theorem not_allOrNothing_dropSource :
    ¬ ∀ (E : Env) (w : World) (sr key dest_sr : String) (k : ℕ), Unused E w →
      (∀ i, E.fault i = true ↔ i = k) →
        ∀ e w', copy E sr key dest_sr w = .error e w' → AsBefore w w' := by
  intro hbefore
  obtain ⟨e, w', hrun⟩ := exists_error_of_returns (w := oneDisk)
    (m := copy (failingAt (oneDisk.clock + 6)) "sr" diskRow.uuid "far")
    (by decide +kernel)
  have hw : Unused (failingAt (oneDisk.clock + 6)) oneDisk := unused_oneDisk _
  have hk : ∀ i, (failingAt (oneDisk.clock + 6)).fault i = true ↔
      i = oneDisk.clock + 6 := fun _ => decide_eq_true_iff
  have hm : (failingAt (oneDisk.clock + 6)).srMeta "sr" =
      some ⟨"tank", ["vms"], none, none⟩ := rfl
  have hdm : (failingAt (oneDisk.clock + 6)).srMeta "far" =
      some ⟨"pool", ["vms"], none, none⟩ := rfl
  obtain ⟨step, ho, hiff⟩ := (wp_of_error hrun).1
    (wp_copy_step hw hk hm hdm diskRow_mem (by decide +kernel))
  obtain rfl : CopyStep.dropSource = step := Option.some.inj (ho ▸ (by decide +kernel))
  exact hiff.1 (hbefore _ _ _ _ _ _ hw hk e w' hrun)

end Volume.CopyFailures

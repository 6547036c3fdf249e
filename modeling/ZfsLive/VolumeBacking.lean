/-
**Every VDI keeps its backing, whatever raises.**

A run on a repository starts where the repository has no VDIs yet.  Each of its calls may be cut
short by an exception from any of its commands.  The backing of every VDI survives all calls but a
`destroy` in two situations: an exception hits it after it has destroyed a zvol or a snapshot and
before its transaction is committed, so that the row comes back without its backing; or it hands the
snapshot of a snapshot VDI over to a clone in another repository, where the driver does not find it.

Main definitions:

* `Volume.FullBacking` — the backing of a VDI;
* `Volume.Safe` — the step of a run is none of the two situations.

Main results:

* `Volume.Backing.step` — one step keeps the backing of all VDIs;
* `Volume.fullBacking_of_safe` — **a run of safe steps keeps it**;
* `Volume.not_fullBacking_cut_short` — a destroy call that is cut short does not.
-/

import ZfsLive.VolumeRuns

set_option relaxedAutoImplicit false
set_option autoImplicit false

namespace Volume

open Zfs Wp

/-- The backing of a VDI in a dataset: a base VDI has its zvol; a snapshot VDI has exactly one snapshot
below the dataset, and a zvol that is read-only. -/
def FullBacking (z : Store) (dataset : List String) (v : Vdi) : Prop :=
  (⟨dataset, v.uuid⟩ : ZvolName) ∈ z.names ∧ (v.snap = true →
    (z.zvol ⟨dataset, v.uuid⟩).props.readonly = true ∧
      ∃! n : ZvolName, n.Under dataset ∧ z.Has ⟨n, v.uuid⟩)

theorem Backed.full {z : Store} {ds : List String} {v : Vdi} (h : Backed z ds v) :
    FullBacking z ds v := by
  refine ⟨h.zvol, fun hs => ⟨h.readonly hs, ?_⟩⟩
  obtain ⟨n, hunder, hhas, honly⟩ := h.snapshot hs
  exact ⟨n, ⟨hunder, hhas⟩, fun m hm => honly m hm.2⟩

section

variable (E : Env) (sr : String)

/-- A repository without VDIs, on a host with any zvols. -/
def NewRepository (w : World) : Prop := Tidy E w ∧ (w.db sr).vdis = []

/-- Every VDI of the repository has its backing. -/
def AllBacked (w : World) : Prop :=
  ∀ m, E.srMeta sr = some m → ∀ v ∈ (w.db sr).vdis, FullBacking w.zfs m.datasetPath v

/-- No exception hits the call between the first thing it destroys and its commit. -/
def NotCutShort (key : String) (w : World) : Prop :=
  ∀ e w', destroy E sr key w = .error e w' → ¬ CutShort w w'

/-- The first clone of a snapshot VDI's snapshot that the call will hand over lies in the
repository. -/
def ClonesInside (key : String) (w : World) : Prop :=
  ∀ m, E.srMeta sr = some m → ∀ v ∈ (w.db sr).vdis, v.snap = true →
    w.zfs.Has ⟨⟨m.datasetPath, key⟩, v.uuid⟩ →
      ∀ d ∈ (w.zfs.clones ⟨⟨m.datasetPath, key⟩, v.uuid⟩).head?, d.Under m.datasetPath

/-- The step leaves the VDIs their backing. -/
def Safe (w : World) : Event → Prop
  | .call (.destroy key) => NotCutShort E sr key w ∧ ClonesInside E sr key w
  | _ => True

/-- All steps of a run are safe. -/
def SafeRun (w : World) : List Event → Prop
  | [] => True
  | e :: es => Safe E sr w e ∧ SafeRun (e.apply E sr w) es

/-- The invariant of a run. -/
structure Backing (w : World) : Prop where
  tidy : Tidy E w
  backed : ∀ m, E.srMeta sr = some m → ∀ v ∈ (w.db sr).vdis, Backed w.zfs m.datasetPath v

end

variable {E : Env} {sr : String} {w w' : World}

theorem Backing.outcome (h : Backing E sr w) (ho : Outcome E w w') : Backing E sr w' := by
  refine ⟨ho.tidy h.tidy, fun m hm v hv => ?_⟩
  rcases ho.2 sr v hv with ⟨v₀, hv₀, huuid, hsnap⟩ | hb
  · exact (h.backed m hm v₀ hv₀).growth h.tidy ho.1 huuid hsnap
  · exact hb m hm

theorem Backing.touch (h : Backing E sr w) (n : ZvolName) (busy : Bool) (written : Content) :
    Backing E sr (touch n busy written w) := by
  refine ⟨h.tidy.touch n busy written, fun m hm v hv => ?_⟩
  obtain ⟨hdb, _, hnames, hhas, hro, _⟩ := touch_spec n busy written w
  rw [hdb] at hv
  have hb := h.backed m hm v hv
  refine ⟨(hnames _).2 hb.zvol, fun hs => (hro _).trans (hb.readonly hs), fun hs => ?_⟩
  obtain ⟨n, hunder, hn, honly⟩ := hb.snapshot hs
  exact ⟨n, hunder, (hhas _).2 hn, fun m hm => honly m ((hhas _).1 hm)⟩

/-- A destroy call that commits. -/
theorem Backing.finished {key : String} {m : SrMeta} {vdi : Vdi} (h : Backing E sr w)
    (hm : E.srMeta sr = some m) (hsafe : ClonesInside E sr key w)
    (hf : Finished E w sr key ⟨m.datasetPath, key⟩ vdi w') : Backing E sr w' := by
  refine ⟨hf.moved.tidy h.tidy, fun m' hm' v hv => ?_⟩
  obtain rfl : m = m' := Option.some.inj (hm.symm.trans hm')
  obtain ⟨new, hspawn, _, hrows⟩ := hf.rows
  rcases (hrows v).1 hv with ⟨hv, hne⟩ | hv
  · exact (h.backed m hm v hv).moved hf.moved hne (hsafe m hm v hv)
  · -- a clone that the call has made is a base VDI
    have hsnap : v.snap = false := by rw [(hspawn.eq v hv).2]; rfl
    exact ⟨hspawn.zvol v hv, by simp [hsnap], by simp [hsnap]⟩

/-- A destroy call that raises before it has destroyed anything. -/
theorem Backing.halted {key : String} {m : SrMeta} {vdi₀ vdi : Vdi} (h : Backing E sr w)
    (hm : E.srMeta sr = some m) (hsafe : ClonesInside E sr key w) (hvdi₀ : vdi₀ ∈ (w.db sr).vdis)
    (hkey : vdi₀.uuid = key) (hsame : SameVdi vdi₀ vdi)
    (hh : Halted E w w ⟨m.datasetPath, key⟩ vdi w') : Backing E sr w' := by
  refine ⟨hh.moved.tidy h.tidy, fun m' hm' v hv => ?_⟩
  obtain rfl : m = m' := Option.some.inj (hm.symm.trans hm')
  rw [hh.db] at hv
  have hb := h.backed m hm v hv
  by_cases hv₀ : v.uuid = key
  · -- the VDI of the call itself
    obtain rfl := Metabase.eq_of_uuid hv hvdi₀ (hv₀.trans hkey.symm)
    rcases hh.keeps with hz | ⟨hsnap, hmem⟩
    · rw [hz]
      exact hb
    · have hsnap : v.snap = false := by rw [hsame] at hsnap; exact hsnap
      exact ⟨hv₀ ▸ hmem, by simp [hsnap], by simp [hsnap]⟩
  · exact hb.moved hh.moved hv₀ (hsafe m hm v hv)

theorem Backing.destroy {key : String} (h : Backing E sr w) (hcut : NotCutShort E sr key w)
    (hsafe : ClonesInside E sr key w) : Backing E sr (after (destroy E sr key) w) := by
  have hwp := wp_destroy h.tidy sr key
  rcases hd : Volume.destroy E sr key w with ⟨_, w'⟩ | ⟨e, w'⟩
  · rw [after, hd]
    obtain ⟨m, _, vdi, hm, _, _, _, hf⟩ := (wp_of_ok hd).1 hwp
    exact h.finished hm hsafe hf
  · rw [after, hd]
    rcases ((wp_of_error hd).1 hwp).1 with hq | ⟨m, vdi₀, vdi, hm, hvdi₀, hkey, hsame, hend⟩
    · refine ⟨⟨?_, ?_, ?_⟩, ?_⟩
      · rw [hq.zfs]
        exact h.tidy.wf
      · rw [hq.zfs]
        exact fun n hn j hj => h.tidy.vol_ne n hn j (hq.drawn_le.trans hj)
      · rw [hq.zfs]
        exact fun s hs j hj => h.tidy.snap_ne s hs j (hq.drawn_le.trans hj)
      · rw [hq.zfs, hq.db]
        exact h.backed
    · rcases hend with hh | hc | hf
      · exact h.halted hm hsafe hvdi₀ hkey hsame hh
      · exact absurd hc (hcut e w' hd)
      · exact h.finished hm hsafe hf

/-- **One step of a run.** -/
theorem Backing.step (h : Backing E sr w) (e : Event) (he : Safe E sr w e) :
    Backing E sr (e.apply E sr w) := by
  rcases e with c | ⟨n, busy, written⟩
  · by_cases hc : ∃ key, c = .destroy key
    · obtain ⟨key, rfl⟩ := hc
      exact h.destroy he.1 he.2
    · exact h.outcome (c.outcome h.tidy sr fun key hkey => hc ⟨key, hkey⟩)
  · exact h.touch n busy written

/-- A run of safe steps. -/
theorem Backing.run (es : List Event) : ∀ {w : World}, Backing E sr w → SafeRun E sr w es →
    Backing E sr (runEvents E sr w es) := by
  induction es with
  | nil => exact fun h _ => h
  | cons e es ih => exact fun h hs => ih (h.step e hs.1) hs.2

/-- **The VDIs keep their backing in every run in which no destroy call is cut short between the first
thing it destroys and its commit, and none hands the snapshot of a snapshot VDI over to a clone outside
the repository.** -/
theorem fullBacking_of_safe (es : List Event) (hw : NewRepository E sr w) (hs : SafeRun E sr w es) :
    AllBacked E sr (runEvents E sr w es) := by
  have hstart : Backing E sr w := ⟨hw.1, fun m _ v hv => by rw [hw.2] at hv; cases hv⟩
  exact fun m hm v hv => ((hstart.run es hs).backed m hm v hv).full

theorem notCutShort_of_returns {key : String} (h : returns (destroy E sr key) w = true) :
    NotCutShort E sr key w := by
  intro e w' hd
  rw [returns, hd] at h
  cases h

theorem notCutShort_of_none_destroyed {key : String}
    (h : (after (destroy E sr key) w).destroyed = w.destroyed) : NotCutShort E sr key w := by
  intro e w' hd hcut
  rw [after, hd] at h
  exact absurd h (Nat.ne_of_gt hcut.destroyed)

/-- A disk is created and snapshotted.  Its `destroy` is cut short at `zfs destroy`, when the clone is
promoted already, and called again. -/
theorem fullBacking_of_safe_destroy :
    AllBacked (sampleEnv (· = 24)) "sr" (runEvents (sampleEnv (· = 24)) "sr" emptyWorld
      [.call (.create "disk" "" 65536 false), .call (.snapshot ""), .call (.destroy ""),
        .call (.destroy "")]) := by
  refine fullBacking_of_safe _ ⟨tidy_emptyWorld _, rfl⟩
    ⟨trivial, trivial, ⟨?_, fun m hm => ?_⟩, ⟨?_, fun m hm => ?_⟩, trivial⟩
  · exact notCutShort_of_none_destroyed (by decide +kernel)
  · obtain rfl : (⟨"tank", ["vms"], none, none⟩ : SrMeta) = m := Option.some.inj hm
    decide +kernel
  · exact notCutShort_of_returns (by decide +kernel)
  · obtain rfl : (⟨"tank", ["vms"], none, none⟩ : SrMeta) = m := Option.some.inj hm
    decide +kernel

/-- **A destroy call that is cut short leaves a VDI without its zvol.** -/
theorem not_fullBacking_cut_short :
    ¬ ∀ (E : Env) (sr : String) (w : World) (es : List Event), NewRepository E sr w →
      AllBacked E sr (runEvents E sr w es) := by
  intro h
  -- the command after the destruction of the zvol fails
  have hall := h (sampleEnv (· = 13)) "sr" emptyWorld
    [.call (.create "disk" "" 65536 false), .call (.destroy "")] ⟨tidy_emptyWorld _, rfl⟩ _ rfl
  have hnot : ¬ ∀ v ∈ ((runEvents (sampleEnv (· = 13)) "sr" emptyWorld
      [.call (.create "disk" "" 65536 false), .call (.destroy "")]).db "sr").vdis,
      (⟨["tank", "vms"], v.uuid⟩ : ZvolName) ∈ (runEvents (sampleEnv (· = 13)) "sr" emptyWorld
        [.call (.create "disk" "" 65536 false), .call (.destroy "")]).zfs.names := by
    decide +kernel
  exact hnot fun v hv => (hall v hv).1

end Volume

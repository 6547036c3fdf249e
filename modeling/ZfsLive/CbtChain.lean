/-
**What `Volume.list_changed_blocks` tells along a chain of snapshots.**

The answer for two points of a chain is read off the saved bitmap of the newer one alone.  A snapshot's
bitmap has the writes since the snapshot before it, and nothing is saved for the volume itself until it
is deactivated.

Main definitions:

* `Cbt.Point`, `Cbt.Point.past` — the volume or one of its snapshots, and what happened before it;
* `Cbt.SoundReport` — the answer has the blocks that were written between two points;
* `Cbt.Covered` — those blocks are in the interval that the newer point owns;
* `Cbt.Snapshotted` — what a snapshot does to the bitmaps and to the bitmap files.

Main results:

* `Cbt.Chained.snapshotted`, `Cbt.Chained.guestWrite` — what the bitmaps have along a run;
* `Cbt.soundReport_iff` — **the answer for two points is sound exactly when the newer one is a snapshot
  whose own interval covers the requested blocks, or nothing was written**;
* `Cbt.not_soundReport_two_intervals` — two intervals, of which the answer has one.
-/

import ZfsLive.CbtSnapshot

set_option relaxedAutoImplicit false
set_option autoImplicit false

namespace Cbt

open Qemu ChangedBlocks Wp

/-! ### Points of a chain, and what was written between them -/

/-- A point of a chain: the volume as it is, or a snapshot of it. -/
inductive Point
  | head
  | snapshot (snap_uuid : String)

/-- The key that names a point. -/
def Point.key (vdi_uuid : String) : Point → String
  | .head => vdi_uuid
  | .snapshot snap_uuid => snap_uuid

/-- The part of a trace before a snapshot. -/
def before (snap_uuid : String) (tr : List Event) : List Event :=
  (tr.dropWhile (· ≠ .takeSnapshot snap_uuid)).tail

/-- What happened before a point. -/
def Point.past (tr : List Event) : Point → List Event
  | .head => tr
  | .snapshot snap_uuid => before snap_uuid tr

/-- The point belongs to the chain. -/
def Point.Taken (tr : List Event) : Point → Prop
  | .head => True
  | .snapshot snap_uuid => .takeSnapshot snap_uuid ∈ tr

/-- The writes between a snapshot and a later point. -/
def writtenBetween (qd : QemuDisk) (tr : List Event) (older : String) (newer : Point) : List Write :=
  written qd (since (· = .takeSnapshot older) (newer.past tr))

/-- The answer for two points has a set bit for every requested block that was written between them. -/
def SoundReport (qd : QemuDisk) (sr vdi_uuid : String) (h : Host) (older : String) (newer : Point)
    (offset length : ℕ) : Prop :=
  ∃ r, listChangedBlocks h.cbtEnv sr older (newer.key vdi_uuid) offset length = .ok r ∧
    ∀ b < nblocks offset length r.granularity,
      Touched (writtenBetween qd h.trace older newer) r.granularity (offset / r.granularity + b) →
        r.test b = true

/-- The requested blocks that were written between two points were written since the snapshot just before
the newer one; where the newer one is the volume itself, none was written. -/
def Covered (qd : QemuDisk) (granularity : ℕ) (tr : List Event) (older : String)
    (offset length : ℕ) : Point → Prop
  | .head => ∀ b < nblocks offset length DEFAULT_CBT_GRANULARITY,
      ¬ Touched (writtenBetween qd tr older .head) DEFAULT_CBT_GRANULARITY
        (offset / DEFAULT_CBT_GRANULARITY + b)
  | .snapshot snap_uuid => ∀ b < nblocks offset length granularity,
      Touched (writtenBetween qd tr older (.snapshot snap_uuid)) granularity
        (offset / granularity + b) →
      Touched (written qd (since isSnapshot (before snap_uuid tr))) granularity
        (offset / granularity + b)

/-- No write to the node happens between two states. -/
def NoWrite (qd : QemuDisk) (h h' : Host) : Prop :=
  ∃ news, h'.trace = news ++ h.trace ∧ written qd news = []

/-- No other process listens at the NBD socket of the process in hand. -/
def Alone (qd : QemuDisk) (h : Host) : Prop :=
  ∀ s p, h.processes.get? s = some p → p.nbd_server = some qd.nbd_unix_sock → s = qd.qmp_sock

/-- How a run starts: the tracking bitmap records, and the NBD server of the process listens at its own
socket, if it runs. -/
structure Recording (qd : QemuDisk) (granularity : ℕ) (h : Host) : Prop where
  node : ∃ bs nbd exports b, h.On qd bs nbd exports ∧ nbd.getD qd.nbd_unix_sock = qd.nbd_unix_sock ∧
    bs.get? CBT_ACTIVE_BITMAP = some b ∧ b.granularity = granularity ∧ b.recording = true
  trace : h.trace = []
  alone : Alone qd h

/-- A run that starts with nothing saved for the volume. -/
structure Starts (qd : QemuDisk) (granularity : ℕ) (sr vdi_uuid : String) (h : Host) : Prop
    extends Recording qd granularity h where
  unsaved : h.pickles.get? ("file://" ++ sr, vdi_uuid) = none

/-! ### The invariant -/

/-- The saved file of a snapshot. -/
def savedSnapshot (qd : QemuDisk) (granularity count : ℕ) (snap_uuid : String) : Dict String Single :=
  Dict.empty.set (frozenName snap_uuid) (.dict ⟨frozenName snap_uuid, some granularity, count,
    some (descriptor qd (frozenName snap_uuid))⟩)

/-- The bitmap, the export and the file of a snapshot. -/
structure SnapshotKept (qd : QemuDisk) (granularity : ℕ) (sr : String) (h : Host) (bs : Bitmaps)
    (exports : Dict String Export) (snap_uuid : String) (frz : Bitmap) : Prop where
  frozen : bs.get? (frozenName snap_uuid) = some frz
  recording : frz.recording = false
  gran : frz.granularity = granularity
  shown : exports.get? ("cbt_" ++ frozenName snap_uuid) =
    some ⟨qd.block_node_name, some (frozenName snap_uuid)⟩
  saved : ∃ count, h.pickles.get? ("file://" ++ sr, snap_uuid) =
    some (some (.dict (savedSnapshot qd granularity count snap_uuid)))
  owned : (∃ older, .takeSnapshot older ∈ before snap_uuid h.trace) → ∀ k, k ∈ frz.dirty ↔
    Touched (written qd (since isSnapshot (before snap_uuid h.trace))) granularity k

/-- What the bitmaps have along a run: `cbt-active` has the blocks since the last snapshot, and each
snapshot's bitmap those of its interval. -/
structure Chained (qd : QemuDisk) (granularity : ℕ) (sr vdi_uuid : String) (h : Host) (bs : Bitmaps)
    (nbd : Option String) (exports : Dict String Export) (act : Bitmap) : Prop where
  on : h.On qd bs nbd exports
  socket : nbd.getD qd.nbd_unix_sock = qd.nbd_unix_sock
  active : bs.get? CBT_ACTIVE_BITMAP = some act
  gran : act.granularity = granularity
  recording : act.recording = true
  alone : Alone qd h
  unsaved : h.pickles.get? ("file://" ++ sr, vdi_uuid) = none
  owned : (∃ older, .takeSnapshot older ∈ h.trace) → nbd = some qd.nbd_unix_sock ∧
    ∀ k, k ∈ act.dirty ↔ Touched (written qd (since isSnapshot h.trace)) granularity k
  taken : ∀ snap_uuid, .takeSnapshot snap_uuid ∈ h.trace →
    ∃ frz, SnapshotKept qd granularity sr h bs exports snap_uuid frz

variable {E : Env} {h h' : Host} {qd : QemuDisk} {sr sr_dataset vdi_uuid snap_uuid : String} {g : ℕ}
  {bs : Bitmaps} {nbd : Option String} {exports : Dict String Export} {act : Bitmap}

theorem before_append {a : List Event} (b : List Event) (ha : ∀ e ∈ a, e ≠ .takeSnapshot snap_uuid) :
    before snap_uuid (a ++ b) = before snap_uuid b := by
  rw [before, List.dropWhile_append_of_pos (by simpa using ha), before]

theorem before_self (b : List Event) : before snap_uuid (.takeSnapshot snap_uuid :: b) = b := by
  simp [before]

theorem Starts.chained (hs : Starts qd g sr vdi_uuid h) :
    ∃ bs nbd exports act, Chained qd g sr vdi_uuid h bs nbd exports act := by
  obtain ⟨⟨⟨bs, nbd, exports, b, hon, hsock, hb, hg, hr⟩, htrace, halone⟩, hunsaved⟩ := hs
  refine ⟨bs, nbd, exports, b, hon, hsock, hb, hg, hr, halone, hunsaved, ?_, ?_⟩
  · rintro ⟨older, hmem⟩
    rw [htrace] at hmem
    cases hmem
  · intro older hmem
    rw [htrace] at hmem
    cases hmem

/-- Writes to other processes change no NBD server. -/
theorem Alone.of_arrive (ha : Alone qd h) (hp : ∀ s, s ≠ qd.qmp_sock → ∃ ws,
    h'.processes.get? s = (h.processes.get? s).map (arrive s ws)) : Alone qd h' := by
  intro s p hs hn
  by_contra hne
  obtain ⟨ws, hws⟩ := hp s hne
  rw [hs] at hws
  obtain ⟨p₀, hp₀, rfl⟩ := Option.map_eq_some_iff.1 hws.symm
  rw [(arrive_frame ws p₀).2.1] at hn
  exact hne (ha s p₀ hp₀ hn)

/-- **A write** goes into `cbt-active`, and into no bitmap of a snapshot. -/
theorem Chained.guestWrite (hc : Chained qd g sr vdi_uuid h bs nbd exports act) (w : GuestWrite) :
    ∃ bs' act', Chained qd g sr vdi_uuid (h.guestWrite w) bs' nbd exports act' := by
  obtain ⟨hproc, -, hpk, -, ht⟩ := foldl_guestWrite (s := qd.qmp_sock) [w] h
  have htrace : (h.guestWrite w).trace = [.write w] ++ h.trace := ht
  have hpk' : (h.guestWrite w).pickles = h.pickles := hpk
  have hbefore : ∀ S, before S (h.guestWrite w).trace = before S h.trace := by
    intro S
    rw [htrace, before_append _ (by simp)]
  have hmem : ∀ S, .takeSnapshot S ∈ (h.guestWrite w).trace ↔ .takeSnapshot S ∈ h.trace := by
    intro S
    simp [htrace]
  obtain ⟨p, hp, hbs, hn, he⟩ := hc.on
  obtain ⟨hbs', hn', he'⟩ := Host.On.arrive hbs hn he [w]
  have hpass := passes_recordAll qd bs [.write w]
  refine ⟨_, act.recordAll (written qd [.write w]), ⟨arrive qd.qmp_sock [w] p, ?_, hbs', hn', he'⟩,
    hc.socket, (hpass _).get hc.active, ?_, ?_, ?_, ?_, fun hold => ?_, fun S hS => ?_⟩
  · rw [hp] at hproc
    exact hproc
  · rw [Bitmap.granularity_recordAll, hc.gran]
  · rw [Bitmap.recording_recordAll, hc.recording]
  · exact hc.alone.of_arrive fun s _ => ⟨[w], (foldl_guestWrite (s := s) [w] h).1⟩
  · rw [hpk']
    exact hc.unsaved
  · simp only [hmem] at hold
    obtain ⟨hsock, hact⟩ := hc.owned hold
    refine ⟨hsock, fun k => ?_⟩
    rw [htrace, since_append _ (by simp [isSnapshot]), written_append, touched_append,
      Bitmap.mem_dirty_recordAll, hact, hc.gran]
    simp [hc.recording]
  · rw [hmem] at hS
    obtain ⟨frz, hfrz⟩ := hc.taken S hS
    refine ⟨frz.recordAll (written qd [.write w]), (hpass _).get hfrz.frozen, ?_, ?_, hfrz.shown, ?_, ?_⟩
    · rw [Bitmap.recording_recordAll, hfrz.recording]
    · rw [Bitmap.granularity_recordAll, hfrz.gran]
    · obtain ⟨count, hcount⟩ := hfrz.saved
      rw [hpk']
      exact ⟨count, hcount⟩
    · rw [hbefore]
      intro hold k
      rw [Bitmap.mem_dirty_recordAll, hfrz.recording, hfrz.owned hold]
      simp

theorem written_append_eq_nil {a b : List Event} (hab : written qd (a ++ b) = []) :
    written qd a = [] ∧ written qd b = [] := by
  rw [written_append, List.append_eq_nil_iff] at hab
  exact hab.symm

section Taken

variable {mid writing old : List Event} {S : String}
  (hmid : ∀ e ∈ mid, isSnapshot e = false) (hwrit : ∀ e ∈ writing, isSnapshot e = false)

include hmid

theorem before_taken :
    before snap_uuid (mid ++ .takeSnapshot snap_uuid :: (writing ++ old)) = writing ++ old := by
  rw [before_append, before_self]
  rintro e he rfl
  cases hmid _ he

include hwrit

/-- A call takes its own snapshot and no other. -/
theorem mem_taken : .takeSnapshot S ∈ mid ++ .takeSnapshot snap_uuid :: (writing ++ old) ↔
    S = snap_uuid ∨ .takeSnapshot S ∈ old := by
  rw [List.mem_append, List.mem_cons, Event.takeSnapshot.injEq]
  constructor
  · rintro (hS | hS | hS)
    · cases hmid _ hS
    · exact .inl hS
    · exact .inr ((List.mem_append.1 hS).resolve_left fun ho => by cases hwrit _ ho)
  · rintro (hS | hS)
    · exact .inr (.inl hS)
    · exact .inr (.inr (List.mem_append_right _ hS))

/-- What came before another snapshot stays what it was. -/
theorem before_of_ne (hS : S ≠ snap_uuid) :
    before S (mid ++ .takeSnapshot snap_uuid :: (writing ++ old)) = before S old := by
  rw [before_append, ← List.cons_append, before_append]
  · intro e he
    rcases List.mem_cons.1 he with rfl | he
    · simpa using hS.symm
    · rintro rfl
      cases hwrit _ he
  · rintro e he rfl
    cases hmid _ he

end Taken

/-- What a snapshot leaves while the node is not written to: the trace has `writing` before the moment at
which ZFS takes it, and `mid` after it. -/
structure Snapshotted (qd : QemuDisk) (sr snap_uuid : String) (h h' : Host) (bs bs' : Bitmaps)
    (nbd : Option String) (exports : Dict String Export) (act act' frz : Bitmap)
    (mid writing : List Event) : Prop where
  on : h'.On qd bs' (some (nbd.getD qd.nbd_unix_sock))
    (exports.set ("cbt_" ++ frozenName snap_uuid) ⟨qd.block_node_name, some (frozenName snap_uuid)⟩)
  trace : h'.trace = mid ++ .takeSnapshot snap_uuid :: (writing ++ h.trace)
  calm_mid : ∀ e ∈ mid, isSnapshot e = false
  calm_writing : ∀ e ∈ writing, isSnapshot e = false
  quiet_mid : written qd mid = []
  quiet_writing : written qd writing = []
  other : ∀ s, s ≠ qd.qmp_sock → ∃ ws,
    h'.processes.get? s = (h.processes.get? s).map (arrive s ws)
  absent : bs.get? (frozenName snap_uuid) = none
  unexported : exports.get? ("cbt_" ++ frozenName snap_uuid) = none
  active : bs'.get? CBT_ACTIVE_BITMAP = some act'
  active_granularity : act'.granularity = act.granularity
  active_recording : act'.recording = true
  active_dirty : ∀ k, k ∉ act'.dirty
  frozen : bs'.get? (frozenName snap_uuid) = some frz
  frozen_granularity : frz.granularity = act.granularity
  frozen_recording : frz.recording = false
  mem_frozen : ∀ k, k ∈ frz.dirty ↔ k ∈ act.dirty
  passes : ∀ n b, n ≠ CBT_ACTIVE_BITMAP → n ≠ frozenName snap_uuid → bs.get? n = some b →
    bs'.get? n = some b
  pickles : ∃ count, h'.pickles = h.pickles.set ("file://" ++ sr, snap_uuid)
    (some (.dict (savedSnapshot qd act.granularity count snap_uuid)))

theorem exists_snapshotted (hon : h.On qd bs nbd exports) (hact : bs.get? CBT_ACTIVE_BITMAP = some act)
    (hcap : Captures E sr sr_dataset vdi_uuid qd snap_uuid h)
    (hquiet : NoWrite qd h (after (Cbt.snapshot E sr sr_dataset vdi_uuid snap_uuid) h)) :
    ∃ bs' act' frz mid writing, Snapshotted qd sr snap_uuid h
      (after (Cbt.snapshot E sr sr_dataset vdi_uuid snap_uuid) h) bs bs' nbd exports act act' frz
      mid writing := by
  obtain ⟨h₂, bs₂, bs', act', frz, bef, aft, looking, writing, hw, hpk, hlook, hwrit, hpass, hcd⟩ :=
    exists_captured hon hact hcap
  generalize after (Cbt.snapshot E sr sr_dataset vdi_uuid snap_uuid) h = h' at hcd hquiet ⊢
  have htrace : h'.trace = (aft ++ enabling qd :: bef ++ looking) ++
      .takeSnapshot snap_uuid :: (writing ++ h.trace) := by
    rw [hcd.went.trace, hw.trace]
    simp
  -- no write to the node during the call
  have hnil : written qd (aft ++ enabling qd :: bef) = [] ∧
      written qd (looking ++ .takeSnapshot snap_uuid :: writing) = [] := by
    obtain ⟨news, hnews, hnil⟩ := hquiet
    have hsame : news = (aft ++ enabling qd :: bef) ++
        (looking ++ .takeSnapshot snap_uuid :: writing) := by
      refine List.append_cancel_right (hnews.symm.trans (htrace.trans ?_))
      simp
    rw [hsame] at hnil
    exact written_append_eq_nil hnil
  have haft : written qd aft = [] := (written_append_eq_nil hnil.1).1
  have hlooking : written qd looking = [] := (written_append_eq_nil hnil.2).1
  rw [hnil.2] at hcd
  refine ⟨bs', act', frz, aft ++ enabling qd :: bef ++ looking, writing, {
    on := hcd.on
    trace := htrace
    calm_mid := fun e he => ?_
    calm_writing := fun e he => (hwrit e he).not_isSnapshot
    quiet_mid := by rw [written_append, hnil.1, hlooking]; rfl
    quiet_writing := (written_append_eq_nil (a := [.takeSnapshot snap_uuid])
      (written_append_eq_nil hnil.2).2).2
    other := fun s hs => ⟨_, (hw.trans hcd.went).other s hs⟩
    absent := ?_
    unexported := hcd.unexported
    active := hcd.active
    active_granularity := hcd.active_granularity
    active_recording := hcd.active_recording
    active_dirty := fun k => ?_
    frozen := hcd.frozen
    frozen_granularity := hcd.frozen_granularity
    frozen_recording := hcd.frozen_recording
    mem_frozen := fun k => ⟨fun hk => (hcd.of_mem_frozen k hk).resolve_right ?_, hcd.mem_frozen k⟩
    passes := fun n b hn hn' hb => ?_
    pickles := ?_ }⟩
  · rcases List.mem_append.1 he with he | he
    · rcases List.mem_append.1 he with he | he
      · exact (hcd.calm_after e he).not_isSnapshot
      · rcases List.mem_cons.1 he with rfl | he
        · rfl
        · exact (hcd.calm_before e he).not_isSnapshot
    · exact (hlook e he).not_isSnapshot
  · have := hpass (frozenName snap_uuid)
    rw [Passes, hcd.absent] at this
    exact Option.map_eq_none_iff.1 this.symm
  · rw [hcd.mem_active, haft]
    exact not_touched_nil _ _
  · rw [hnil.1]
    exact not_touched_nil _ _
  · have hb' := (hcd.passes n hn hn').get ((hpass n).get hb)
    rwa [hnil.1, hnil.2] at hb'
  · obtain ⟨count, hpickles⟩ := hcd.pickles
    rw [hpk] at hpickles
    exact ⟨count, hpickles⟩

namespace Snapshotted

variable {bs' : Bitmaps} {act' frz : Bitmap} {mid writing : List Event}

/-- The new snapshot has the bits of its interval. -/
theorem kept_self (hs : Snapshotted qd sr snap_uuid h h' bs bs' nbd exports act act' frz mid writing)
    (hc : Chained qd g sr vdi_uuid h bs nbd exports act) :
    SnapshotKept qd g sr h' bs' (exports.set ("cbt_" ++ frozenName snap_uuid)
      ⟨qd.block_node_name, some (frozenName snap_uuid)⟩) snap_uuid frz := by
  have hbefore : before snap_uuid h'.trace = writing ++ h.trace := by
    rw [hs.trace, before_taken hs.calm_mid]
  obtain ⟨count, hpickles⟩ := hs.pickles
  refine ⟨hs.frozen, hs.frozen_recording, hs.frozen_granularity.trans hc.gran, ?_, ⟨count, ?_⟩, ?_⟩
  · rw [Dict.get?_set, if_pos rfl]
  · rw [hpickles, Dict.get?_set, if_pos rfl, hc.gran]
  · rintro ⟨older, holder⟩ k
    rw [hbefore, List.mem_append] at holder
    have hold : .takeSnapshot older ∈ h.trace :=
      holder.resolve_left fun hmem => by cases hs.calm_writing _ hmem
    rw [hbefore, since_append _ hs.calm_writing, written_append, touched_append, hs.quiet_writing,
      hs.mem_frozen, (hc.owned ⟨older, hold⟩).2]
    simp

/-- The other snapshots keep their bits. -/
theorem kept_of_ne (hs : Snapshotted qd sr snap_uuid h h' bs bs' nbd exports act act' frz mid writing)
    {S : String} {old : Bitmap} (hS : S ≠ snap_uuid) (hf : SnapshotKept qd g sr h bs exports S old) :
    SnapshotKept qd g sr h' bs' (exports.set ("cbt_" ++ frozenName snap_uuid)
      ⟨qd.block_node_name, some (frozenName snap_uuid)⟩) S old := by
  have hname : frozenName S ≠ frozenName snap_uuid := by
    intro heq
    have habsent := hs.absent
    rw [← heq, hf.frozen] at habsent
    cases habsent
  have hshown : "cbt_" ++ frozenName S ≠ "cbt_" ++ frozenName snap_uuid := by
    intro heq
    have hunexported := hs.unexported
    rw [← heq, hf.shown] at hunexported
    cases hunexported
  refine ⟨hs.passes _ _ (frozenName_ne S) hname hf.frozen, hf.recording, hf.gran, ?_, ?_, ?_⟩
  · rw [Dict.get?_set, if_neg hshown]
    exact hf.shown
  · obtain ⟨count, hpickles⟩ := hs.pickles
    obtain ⟨count', hcount'⟩ := hf.saved
    refine ⟨count', ?_⟩
    rw [hpickles, Dict.get?_set, if_neg (by simpa using hS)]
    exact hcount'
  · rw [hs.trace, before_of_ne hs.calm_mid hs.calm_writing hS]
    exact hf.owned

end Snapshotted

/-- **A snapshot** moves the bits of `cbt-active` into its own bitmap, and leaves those of the other
snapshots alone. -/
theorem Chained.snapshotted (hc : Chained qd g sr vdi_uuid h bs nbd exports act)
    (hcap : Captures E sr sr_dataset vdi_uuid qd snap_uuid h) (hne : snap_uuid ≠ vdi_uuid)
    (hquiet : NoWrite qd h (after (Cbt.snapshot E sr sr_dataset vdi_uuid snap_uuid) h)) :
    ∃ bs' nbd' exports' act', Chained qd g sr vdi_uuid
      (after (Cbt.snapshot E sr sr_dataset vdi_uuid snap_uuid) h) bs' nbd' exports' act' := by
  obtain ⟨bs', act', frz, mid, writing, hs⟩ := exists_snapshotted hc.on hc.active hcap hquiet
  refine ⟨bs', some (nbd.getD qd.nbd_unix_sock), _, act', hs.on, hc.socket, hs.active,
    hs.active_granularity.trans hc.gran, hs.active_recording, hc.alone.of_arrive hs.other, ?_,
    fun _ => ⟨by rw [hc.socket], fun k => ?_⟩, fun S hS => ?_⟩
  · obtain ⟨count, hpickles⟩ := hs.pickles
    rw [hpickles, Dict.get?_set, if_neg (by simpa using hne.symm)]
    exact hc.unsaved
  · -- nothing was written since the snapshot
    rw [hs.trace, since_append _ hs.calm_mid, since_cons _ rfl, List.append_nil, hs.quiet_mid]
    exact iff_of_false (hs.active_dirty k) (not_touched_nil _ _)
  · by_cases hSS : S = snap_uuid
    · subst hSS
      exact ⟨frz, hs.kept_self hc⟩
    · rw [hs.trace, mem_taken hs.calm_mid hs.calm_writing] at hS
      obtain ⟨old, hf⟩ := hc.taken S (hS.resolve_left hSS)
      exact ⟨old, hs.kept_of_ne hSS hf⟩

/-- The state after a run. -/
def chainRun (E : Env) (sr sr_dataset vdi_uuid : String) (h : Host) (steps : List ChainStep) : Host :=
  steps.foldl (chainStep E sr sr_dataset vdi_uuid) h

theorem Chained.run (steps : List ChainStep) (hc : Chained qd g sr vdi_uuid h bs nbd exports act)
    (hvdi : .snapshot vdi_uuid ∉ steps)
    (hok : EachSnapshot E sr sr_dataset vdi_uuid (fun snap_uuid h h' =>
      Captures E sr sr_dataset vdi_uuid qd snap_uuid h ∧ NoWrite qd h h') h steps) :
    ∃ bs' nbd' exports' act', Chained qd g sr vdi_uuid
      (chainRun E sr sr_dataset vdi_uuid h steps) bs' nbd' exports' act' := by
  induction steps generalizing h bs nbd exports act with
  | nil => exact ⟨bs, nbd, exports, act, hc⟩
  | cons s steps ih =>
      rw [List.mem_cons, not_or] at hvdi
      cases s with
      | write w =>
          obtain ⟨bs', act', hc'⟩ := hc.guestWrite w
          exact ih hc' hvdi.2 hok
      | snapshot snap_uuid =>
          obtain ⟨⟨hcap, hquiet⟩, hrest⟩ := hok
          have hne : snap_uuid ≠ vdi_uuid := fun heq => hvdi.1 (by rw [heq])
          obtain ⟨bs', nbd', exports', act', hc'⟩ := hc.snapshotted hcap hne hquiet
          exact ih hc' hvdi.2 hrest

/-! ### The report -/

/-- The NBD server of the process in hand answers for its exports. -/
theorem fetch_of_on {name : String} {b : Bitmap} (hon : h.On qd bs (some qd.nbd_unix_sock) exports)
    (halone : Alone qd h) (hex : exports.get? ("cbt_" ++ name) = some ⟨qd.block_node_name, some name⟩)
    (hb : bs.get? name = some b) :
    h.fetch qd.nbd_unix_sock ("cbt_" ++ name) ("qemu:dirty-bitmap:" ++ name) = .ok (extents b) := by
  obtain ⟨p, hp, hbs, hn, he⟩ := hon
  have hfind : h.processes.values.find? (·.nbd_server = some qd.nbd_unix_sock) = some p := by
    rcases hq : h.processes.values.find? (·.nbd_server = some qd.nbd_unix_sock) with _ | q
    · rw [List.find?_eq_none] at hq
      have := hq p (Dict.mem_values.2 ⟨_, Dict.get?_eq_some_iff.1 hp⟩)
      simp [hn] at this
    · obtain ⟨s, hs⟩ := Dict.mem_values.1 (List.mem_of_find?_eq_some hq)
      have hs' := Dict.get?_eq_some_iff.2 hs
      have hsock := halone s q hs' (by simpa using List.find?_some hq)
      rw [hsock, hp] at hs'
      exact hq.trans hs'.symm
  rw [Host.fetch, hfind]
  simp only [he, hex, if_true]
  rw [Process.bitmaps, hbs, Option.getD_some, hb]

theorem reportGranularity_savedSnapshot (env : CbtEnv) (himport : env.importable = true) (hg : 0 < g)
    (count : ℕ) (snap_uuid : String) :
    reportGranularity env (savedSnapshot qd g count snap_uuid) = g := by
  rw [reportGranularity, if_pos himport, savedSnapshot, maxGranularity]
  have hvalues : (Dict.empty.set (frozenName snap_uuid) (Single.dict ⟨frozenName snap_uuid,
      some (g : ℤ), count, some (descriptor qd (frozenName snap_uuid))⟩)).values =
        [.dict ⟨frozenName snap_uuid, some (g : ℤ), count,
          some (descriptor qd (frozenName snap_uuid))⟩] := rfl
  rw [hvalues]
  simp [payloadGranularity, hg]

/-- **The report on a snapshot** has the bits of its bitmap. -/
theorem Chained.report_snapshot (hc : Chained qd g sr vdi_uuid h bs nbd exports act)
    (htaken : .takeSnapshot snap_uuid ∈ h.trace) (older : String) (offset length : ℕ) :
    ∃ r frz, listChangedBlocks h.cbtEnv sr older snap_uuid offset length = .ok r ∧
      r.granularity = g ∧ SnapshotKept qd g sr h bs exports snap_uuid frz ∧
      ∀ b, r.test b = true ↔ b < nblocks offset length g ∧ offset / g + b ∈ frz.dirty := by
  obtain ⟨frz, hf⟩ := hc.taken snap_uuid htaken
  obtain ⟨count, hcount⟩ := hf.saved
  have hg : 0 < g := hf.gran ▸ frz.granularity_pos
  have hload : h.cbtEnv.load ("file://" ++ sr) snap_uuid =
      .ok (some (.dict (savedSnapshot qd g count snap_uuid))) := by
    simp [Host.cbtEnv, hcount]
  obtain ⟨r, hr, hgran, htest⟩ := @listChangedBlocks_spec _ sr older _ _ hload offset length
  rw [reportGranularity_savedSnapshot _ rfl hg] at hgran
  refine ⟨r, frz, hr, hgran, hf, fun b => ?_⟩
  have hon := hc.on
  rw [(hc.owned ⟨_, htaken⟩).1] at hon
  have hanswer : answer h.cbtEnv (.dict ⟨frozenName snap_uuid, some (g : ℤ), count,
      some (descriptor qd (frozenName snap_uuid))⟩) = some (extents frz) := by
    have hfetch := fetch_of_on hon hc.alone hf.shown hf.frozen
    rw [answer, if_pos ⟨rfl, rfl⟩, extractDirtyExtents]
    simp only [descriptor, getKey, bind, Except.bind, Host.cbtEnv, hfetch, Except.toOption]
  have hitems : (savedSnapshot qd g count snap_uuid).items = [(frozenName snap_uuid,
      .dict ⟨frozenName snap_uuid, some (g : ℤ), count, some (descriptor qd (frozenName snap_uuid))⟩)] :=
    rfl
  rw [htest, hgran, hitems]
  refine and_congr_right fun _ => ?_
  simp only [List.mem_singleton, exists_eq_left, hanswer, Option.some.injEq]
  constructor
  · rintro ⟨es, rfl, x, hx, hblock⟩
    have := exists_extents_iff.1 hx
    rwa [hf.gran, hblock] at this
  · intro hk
    refine ⟨_, rfl, (offset / g + b) * g, exists_extents_iff.2 ?_, Nat.mul_div_cancel _ hg⟩
    rwa [hf.gran, Nat.mul_div_cancel _ hg]

/-- **The report on the volume itself** has no bits. -/
theorem Chained.report_head (hc : Chained qd g sr vdi_uuid h bs nbd exports act) (older : String)
    (offset length : ℕ) : ∃ r, listChangedBlocks h.cbtEnv sr older vdi_uuid offset length = .ok r ∧
      r.granularity = DEFAULT_CBT_GRANULARITY ∧ ∀ b, r.test b = false := by
  have hload : h.cbtEnv.load ("file://" ++ sr) vdi_uuid = .ok none := by
    simp [Host.cbtEnv, hc.unsaved]
  exact ⟨_, listChangedBlocks_of_load_none hload offset length, rfl,
    test_emptyChangedBlocksResult offset length DEFAULT_CBT_GRANULARITY⟩

/-- The answer for two points, in a state that a run reaches. -/
theorem Chained.sound_iff (hc : Chained qd g sr vdi_uuid h bs nbd exports act) {older : String}
    {newer : Point} (hnewer : newer.Taken h.trace) (holder : .takeSnapshot older ∈ newer.past h.trace)
    (offset length : ℕ) : SoundReport qd sr vdi_uuid h older newer offset length ↔
      Covered qd g h.trace older offset length newer := by
  cases newer with
  | head =>
      obtain ⟨r, hr, hgran, htest⟩ := hc.report_head older offset length
      rw [SoundReport, Covered]
      constructor
      · rintro ⟨r', hr', hall⟩ b hb ht
        cases hr.symm.trans hr'
        rw [hgran] at hall
        have := hall b hb ht
        rw [htest] at this
        cases this
      · intro hnone
        refine ⟨r, hr, fun b hb ht => ?_⟩
        rw [hgran] at hb ht
        exact absurd ht (hnone b hb)
  | snapshot snap_uuid =>
      obtain ⟨r, frz, hr, hgran, hf, htest⟩ := hc.report_snapshot hnewer older offset length
      have howned := hf.owned ⟨older, holder⟩
      rw [SoundReport, Covered]
      constructor
      · rintro ⟨r', hr', hall⟩ b hb ht
        cases hr.symm.trans hr'
        rw [hgran] at hall
        exact (howned _).1 ((htest b).1 (hall b hb ht)).2
      · intro hcov
        refine ⟨r, hr, fun b hb ht => ?_⟩
        rw [hgran] at hb ht
        exact (htest b).2 ⟨hb, (howned _).2 (hcov b hb ht)⟩

/-- **The answer for two points of a chain is sound exactly when the newer one is a snapshot whose own
interval covers the requested blocks that were written between them, or it is the volume itself and none
was written.** -/
theorem soundReport_iff (E : Env) (sr sr_dataset vdi_uuid : String) (qd : QemuDisk) (g : ℕ)
    (steps : List ChainStep) (h : Host) (hstart : Starts qd g sr vdi_uuid h)
    (hvdi : .snapshot vdi_uuid ∉ steps)
    (hok : EachSnapshot E sr sr_dataset vdi_uuid (fun snap_uuid h h' =>
      Captures E sr sr_dataset vdi_uuid qd snap_uuid h ∧ NoWrite qd h h') h steps)
    (older : String) (newer : Point)
    (hnewer : newer.Taken (chainRun E sr sr_dataset vdi_uuid h steps).trace)
    (holder : .takeSnapshot older ∈ newer.past (chainRun E sr sr_dataset vdi_uuid h steps).trace)
    (offset length : ℕ) :
    SoundReport qd sr vdi_uuid (chainRun E sr sr_dataset vdi_uuid h steps) older newer offset length ↔
      Covered qd g (chainRun E sr sr_dataset vdi_uuid h steps).trace older offset length newer := by
  obtain ⟨bs, nbd, exports, act, hc⟩ := hstart.chained
  obtain ⟨bs', nbd', exports', act', hc'⟩ := hc.run steps hvdi hok
  exact hc'.sound_iff hnewer holder offset length

theorem starts_trackedHost : Starts trackedDisk 65536 "sr" "vdi" trackedHost := by
  refine ⟨⟨⟨_, _, _, _, ⟨_, rfl, rfl, rfl, rfl⟩, rfl, rfl, rfl, rfl⟩, rfl, fun s p hs _ => ?_⟩, rfl⟩
  rw [trackedHost, Dict.get?_set] at hs
  split at hs
  · next heq => exact heq
  · cases hs

/-- A write, and three snapshots of which the second one has it. -/
def threeSnapshots : List ChainStep :=
  [.snapshot "s1", .write ⟨"qmp", BLOCK_NODE_NAME, ⟨0, 512⟩⟩, .snapshot "s2", .snapshot "s3"]

theorem each_threeSnapshots : EachSnapshot (quietEnv none) "sr" "tank" "vdi" (fun snap_uuid h h' =>
    Captures (quietEnv none) "sr" "tank" "vdi" trackedDisk snap_uuid h ∧ NoWrite trackedDisk h h')
    trackedHost threeSnapshots := by
  have hquiet : ∀ h h' : Host, (∃ n, h'.trace = h'.trace.take n ++ h.trace ∧
      written trackedDisk (h'.trace.take n) = []) → NoWrite trackedDisk h h' :=
    fun h h' ⟨n, hn⟩ => ⟨_, hn⟩
  refine ⟨⟨⟨by decide +kernel, by decide +kernel⟩, hquiet _ _ ⟨10, ?_⟩⟩,
    ⟨⟨by decide +kernel, by decide +kernel⟩, hquiet _ _ ⟨10, ?_⟩⟩,
    ⟨⟨by decide +kernel, by decide +kernel⟩, hquiet _ _ ⟨10, ?_⟩⟩, trivial⟩
  all_goals decide +kernel

theorem soundReport_iff_threeSnapshots :
    SoundReport trackedDisk "sr" "vdi"
        (chainRun (quietEnv none) "sr" "tank" "vdi" trackedHost threeSnapshots) "s1" (.snapshot "s2")
        0 131072 ↔
      Covered trackedDisk 65536
        (chainRun (quietEnv none) "sr" "tank" "vdi" trackedHost threeSnapshots).trace "s1" 0 131072
        (.snapshot "s2") :=
  soundReport_iff (quietEnv none) "sr" "tank" "vdi" trackedDisk 65536 threeSnapshots trackedHost
    starts_trackedHost (by simp [threeSnapshots]) each_threeSnapshots "s1" (.snapshot "s2")
    (by rw [Point.Taken]; decide +kernel) (by decide +kernel) 0 131072

/-- **The answer for two snapshots with a third one between them misses a write.** -/
theorem not_soundReport_two_intervals : ¬ ∀ (E : Env) (sr sr_dataset vdi_uuid : String)
    (qd : QemuDisk) (g : ℕ) (steps : List ChainStep) (h : Host), Starts qd g sr vdi_uuid h →
    .snapshot vdi_uuid ∉ steps →
    EachSnapshot E sr sr_dataset vdi_uuid (fun snap_uuid h h' =>
      Captures E sr sr_dataset vdi_uuid qd snap_uuid h ∧ NoWrite qd h h') h steps →
    ∀ older newer, Point.Taken (chainRun E sr sr_dataset vdi_uuid h steps).trace newer →
    .takeSnapshot older ∈ newer.past (chainRun E sr sr_dataset vdi_uuid h steps).trace →
    ∀ offset length, SoundReport qd sr vdi_uuid (chainRun E sr sr_dataset vdi_uuid h steps) older newer
      offset length := by
  intro hall
  have htaken : Point.Taken (chainRun (quietEnv none) "sr" "tank" "vdi" trackedHost
      threeSnapshots).trace (.snapshot "s3") := by
    rw [Point.Taken]
    decide +kernel
  have holder : Event.takeSnapshot "s1" ∈ Point.past (chainRun (quietEnv none) "sr" "tank" "vdi"
      trackedHost threeSnapshots).trace (.snapshot "s3") := by decide +kernel
  have hsound := hall (quietEnv none) "sr" "tank" "vdi" trackedDisk 65536 threeSnapshots trackedHost
    starts_trackedHost (by simp [threeSnapshots]) each_threeSnapshots "s1" (.snapshot "s3") htaken
    holder 0 65536
  obtain ⟨bs, nbd, exports, act, hc⟩ := starts_trackedHost.chained
  obtain ⟨bs', nbd', exports', act', hc'⟩ := hc.run threeSnapshots (by simp [threeSnapshots])
    each_threeSnapshots
  have hcovered := (hc'.sound_iff htaken holder 0 65536).1 hsound 0 (by decide)
  have hbetween : writtenBetween trackedDisk (chainRun (quietEnv none) "sr" "tank" "vdi" trackedHost
      threeSnapshots).trace "s1" (.snapshot "s3") = [⟨0, 512⟩] := by decide +kernel
  have hown : written trackedDisk (since isSnapshot (before "s3" (chainRun (quietEnv none) "sr" "tank"
      "vdi" trackedHost threeSnapshots).trace)) = [] := by decide +kernel
  rw [hbetween, hown] at hcovered
  exact not_touched_nil _ _ (hcovered ⟨_, List.mem_singleton_self _, 0,
    ⟨Nat.zero_le _, (by decide : 0 < 0 + 512)⟩, rfl⟩)

end Cbt

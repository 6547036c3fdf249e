/-
**Which writes does a snapshot lose from the tracking?**

ZFS takes the snapshot first, and the bitmap is switched afterwards: `cbt-active` is disabled, merged
into the snapshot's bitmap, cleared and enabled again.  A write that comes after the snapshot and
before the bitmap is enabled again is in the next interval, and not in `cbt-active`.

Main definitions:

* `Cbt.since`, `Cbt.interval` — parts of the trace;
* `Cbt.ChainStep`, `Cbt.chainStep` — runs of writes and snapshots;
* `Cbt.Owns`, `Cbt.NoWriteLost` — the bitmaps have the blocks of their interval;
* `Cbt.GapRewritten` — the blocks of the gap are written again.

Main results:

* `Cbt.noWriteLost_iff` — one snapshot;
* `Cbt.eachSnapshot_iff` — **no snapshot of a run loses a write exactly when every block that is
  written between a snapshot and the return of its bitmap is written again before the call returns**;
* `Cbt.not_noWriteLost_gap` — one write in the gap.
-/

import ZfsLive.CbtCapture
import ZfsLive.CbtDiscovery

set_option relaxedAutoImplicit false
set_option autoImplicit false

namespace Cbt

open Qemu ChangedBlocks Wp

/-! ### The writes since the last snapshot -/

/-- The part of a trace since the last event of a kind. -/
def since (p : Event → Bool) (tr : List Event) : List Event := tr.takeWhile fun e => !p e

def isSnapshot : Event → Bool
  | .takeSnapshot _ => true
  | _ => false

/-- The part of a trace before the last snapshot, and since the one before it. -/
def interval (tr : List Event) : List Event :=
  since isSnapshot (tr.dropWhile fun e => !isSnapshot e).tail

/-- A write of the guest, or a snapshot with the uuid of the new volume. -/
inductive ChainStep
  | write (w : GuestWrite)
  | snapshot (snap_uuid : String)

section

variable (E : Env) (sr sr_dataset vdi_uuid : String) (qd : QemuDisk)

/-- The state after a step. -/
def chainStep (h : Host) : ChainStep → Host
  | .write w => h.guestWrite w
  | .snapshot snap_uuid => after (snapshot E sr sr_dataset vdi_uuid snap_uuid) h

/-- The program returns. -/
def succeeds {α : Type} (m : CbtM α) (h : Host) : Bool :=
  match m h with
  | .ok _ _ => true
  | .error _ _ => false

/-- Every step of the call succeeds, and it works on the node `qd`. -/
def Captures (snap_uuid : String) (h : Host) : Prop :=
  found E (after (takeSnapshot E snap_uuid) h) (devicePath sr_dataset vdi_uuid) = some qd ∧
    succeeds (do
      takeSnapshot E snap_uuid
      cbtCaptureAtSnapshot E sr sr_dataset vdi_uuid snap_uuid) h = true

/-- `P` holds of every snapshot of a run, with its uuid and the states before and after. -/
def EachSnapshot (P : String → Host → Host → Prop) : Host → List ChainStep → Prop
  | _, [] => True
  | h, .write w :: steps => EachSnapshot P (h.guestWrite w) steps
  | h, .snapshot snap_uuid :: steps =>
      P snap_uuid h (after (snapshot E sr sr_dataset vdi_uuid snap_uuid) h) ∧
        EachSnapshot P (after (snapshot E sr sr_dataset vdi_uuid snap_uuid) h) steps

end

/-- The tracking bitmap of the node records, and has the blocks that were written since the last
snapshot. -/
def Owns (qd : QemuDisk) (granularity : ℕ) (h : Host) : Prop :=
  ∃ bs nbd exports b, h.On qd bs nbd exports ∧ bs.get? CBT_ACTIVE_BITMAP = some b ∧
    b.granularity = granularity ∧ b.recording = true ∧
    ∀ k, Touched (written qd (since isSnapshot h.trace)) granularity k → k ∈ b.dirty

/-- After the snapshot, its bitmap has the blocks that were written in the interval before it, and
`cbt-active` has those that were written since. -/
def NoWriteLost (qd : QemuDisk) (granularity : ℕ) (snap_uuid : String) (h : Host) : Prop :=
  ∃ bs nbd exports act frz, h.On qd bs nbd exports ∧ bs.get? CBT_ACTIVE_BITMAP = some act ∧
    bs.get? (frozenName snap_uuid) = some frz ∧
    (∀ k, Touched (written qd (interval h.trace)) granularity k → k ∈ frz.dirty) ∧
    ∀ k, Touched (written qd (since isSnapshot h.trace)) granularity k → k ∈ act.dirty

/-- The blocks that were written since the last snapshot were written since `cbt-active` was enabled. -/
def GapRewritten (qd : QemuDisk) (granularity : ℕ) (h : Host) : Prop :=
  ∀ k, Touched (written qd (since isSnapshot h.trace)) granularity k →
    Touched (written qd (since (· = enabling qd) h.trace)) granularity k

/-! ### Parts of the trace -/

variable {E : Env} {h h' : Host} {qd : QemuDisk} {sr sr_dataset vdi_uuid snap_uuid : String} {g : ℕ}

theorem since_append {p : Event → Bool} {a : List Event} (b : List Event)
    (ha : ∀ e ∈ a, p e = false) : since p (a ++ b) = a ++ since p b := by
  refine List.takeWhile_append_of_pos fun e he => ?_
  rw [ha e he]
  rfl

theorem since_cons {p : Event → Bool} {e : Event} (b : List Event) (he : p e = true) :
    since p (e :: b) = [] := by
  rw [since, List.takeWhile_cons, he]
  rfl

theorem interval_append {a : List Event} (snap_uuid : String) (b : List Event)
    (ha : ∀ e ∈ a, isSnapshot e = false) :
    interval (a ++ .takeSnapshot snap_uuid :: b) = since isSnapshot b := by
  rw [interval, List.dropWhile_append_of_pos (by simpa using ha)]
  rfl

theorem Calm.not_isSnapshot {e : Event} (he : Calm e) : isSnapshot e = false := by
  cases e with
  | write w => rfl
  | command s c => rfl
  | takeSnapshot snap_uuid => exact he.elim

theorem Calm.ne_enabling {e : Event} (he : Calm e) : decide (e = enabling qd) = false := by
  refine decide_eq_false ?_
  rintro rfl
  exact he _ _ rfl

/-! ### One snapshot -/

/-- Looking for the process takes time, and leaves its node as it is but for the writes. -/
theorem Host.On.went_of_drift {bs : Bitmaps} {nbd : Option String} {exports : Dict String Export}
    (hon : h.On qd bs nbd exports) (hd : Drift h h') : ∃ bs' news, h'.On qd bs' nbd exports ∧
      Went qd h h' news ∧ (∀ e ∈ news, Calm e) ∧ ∀ n, Passes qd bs bs' news n := by
  obtain ⟨news, ht, hev, hp'⟩ := hd.passed
  obtain ⟨p, hp, hbs, hn, he⟩ := hon
  obtain ⟨hbs', hn', he'⟩ := Host.On.arrive hbs hn he (guestWrites news)
  refine ⟨_, news, ⟨_, ?_, hbs', hn', he'⟩, ⟨ht, hd.registry, fun s _ => hp' s⟩, fun e he => ?_,
    passes_recordAll qd bs news⟩
  · rw [hp', hp]
    rfl
  · rcases hev e he with ⟨w, rfl⟩ | ⟨s, rfl⟩
    · trivial
    · intro node name hc
      cases hc

/-- **A snapshot whose steps succeed**: time passes around the moment at which ZFS takes it, and then
the bitmap is captured. -/
theorem exists_captured {bs : Bitmaps} {nbd : Option String} {exports : Dict String Export}
    {b : Bitmap} (hon : h.On qd bs nbd exports) (hb : bs.get? CBT_ACTIVE_BITMAP = some b)
    (hcap : Captures E sr sr_dataset vdi_uuid qd snap_uuid h) :
    ∃ h₂ bs₂ bs' act frz before after' looking writing,
      Went qd h h₂ (looking ++ .takeSnapshot snap_uuid :: writing) ∧ h₂.pickles = h.pickles ∧
      (∀ e ∈ looking, Calm e) ∧ (∀ e ∈ writing, Calm e) ∧
      (∀ n, Passes qd bs bs₂ (looking ++ .takeSnapshot snap_uuid :: writing) n) ∧
      Captured qd sr snap_uuid
        (b.recordAll (written qd (looking ++ .takeSnapshot snap_uuid :: writing))) bs₂ nbd exports h₂
        (after (snapshot E sr sr_dataset vdi_uuid snap_uuid) h) bs' act frz before after' := by
  obtain ⟨hfound, hok⟩ := hcap
  suffices hwp : wp (do
      takeSnapshot E snap_uuid
      cbtCaptureAtSnapshot E sr sr_dataset vdi_uuid snap_uuid) (fun _ h' =>
        ∃ h₂ bs₂ bs' act frz before after' looking writing,
          Went qd h h₂ (looking ++ .takeSnapshot snap_uuid :: writing) ∧ h₂.pickles = h.pickles ∧
          (∀ e ∈ looking, Calm e) ∧ (∀ e ∈ writing, Calm e) ∧
          (∀ n, Passes qd bs bs₂ (looking ++ .takeSnapshot snap_uuid :: writing) n) ∧
          Captured qd sr snap_uuid
            (b.recordAll (written qd (looking ++ .takeSnapshot snap_uuid :: writing))) bs₂ nbd exports
            h₂ h' bs' act frz before after') (fun _ _ => True) h by
    rcases htake : takeSnapshot E snap_uuid h with ⟨⟨⟩, h₀⟩ | ⟨e, h₀⟩
    · rw [wp, bind_ok htake] at hwp
      rw [succeeds, bind_ok htake] at hok
      rw [after, snapshot, bind_ok htake]
      rcases hrun : cbtCaptureAtSnapshot E sr sr_dataset vdi_uuid snap_uuid h₀ with ⟨⟨⟩, h'⟩ | ⟨e, h'⟩
      · rw [quietly, tryCatch_ok hrun]
        rwa [hrun] at hwp
      · simp [hrun] at hok
    · rw [succeeds, bind_error htake] at hok
      cases hok
  rw [wp_bind, takeSnapshot]
  rcases hfault : E.fault h.clock with _ | _
  · refine wp_fileCommand hfault rfl ?_
    have hafter : after (takeSnapshot E snap_uuid) h =
        { h.next E with trace := .takeSnapshot snap_uuid :: (h.next E).trace } := by
      simp only [after, takeSnapshot, fileCommand, hfault, Bool.false_eq_true, if_false]
    rw [hafter] at hfound
    have hon₀ := hon.next (E := E)
    rw [← written_news_nil] at hon₀
    have hw₀ : Went qd h { h.next E with trace := .takeSnapshot snap_uuid :: (h.next E).trace }
        (.takeSnapshot snap_uuid :: E.news h.clock []) := by
      obtain ⟨ht, hr, ho⟩ := went_next E qd h
      exact ⟨congrArg _ ht, hr, ho⟩
    have hpass₀ : ∀ n, Passes qd bs (Bitmaps.recordAll bs (written qd (E.news h.clock [])))
        (.takeSnapshot snap_uuid :: E.news h.clock []) n := passes_recordAll qd bs _
    obtain ⟨h₁, hfind, hd⟩ := findQemu_eq E { h.next E with
      trace := .takeSnapshot snap_uuid :: (h.next E).trace } (devicePath sr_dataset vdi_uuid)
    rw [hfound] at hfind
    obtain ⟨bs₁, news₁, hon₁, hw₁, hcalm₁, hpass₁⟩ := Host.On.went_of_drift (h := { h.next E with
      trace := .takeSnapshot snap_uuid :: (h.next E).trace
      nbd_server_running := _ }) hon₀ hd
    rw [cbtCaptureAtSnapshot, wp_bind, wp_of_ok hfind]
    dsimp only
    rw [wp_bind]
    refine wp_cbtListBitmaps_of_ok hon₁ (fun _ _ => trivial)
      fun h₂ bs₂ news₂ hon₂ hw₂ hc₂ hpk₂ hpass₂ => ?_
    have hpass : ∀ n, Passes qd bs bs₂ ((news₂ ++ news₁) ++
        .takeSnapshot snap_uuid :: E.news h.clock []) n := by
      intro n
      have := (hpass₀ n).trans ((hpass₁ n).trans (hpass₂ n))
      exact this
    have hb₂ := (hpass CBT_ACTIVE_BITMAP).get hb
    rw [hb₂]
    dsimp only
    refine wp_captureBitmap hon₂ hb₂ (fun _ _ => trivial) fun h' bs' act frz before after' hc =>
      ⟨h₂, bs₂, bs', act, frz, before, after', news₂ ++ news₁, E.news h.clock [], ?_, ?_, ?_, ?_, hpass,
        hc⟩
    · have hw₁' : Went qd { h.next E with trace := .takeSnapshot snap_uuid :: (h.next E).trace } h₁
          news₁ := ⟨hw₁.trace, hw₁.registry, hw₁.other⟩
      exact hw₀.trans (hw₁'.trans hw₂)
    · exact hpk₂.trans (hd.pickles.trans (pickles_next E h))
    · exact calm_append (hc₂.calm (by simp)) hcalm₁
    · exact calm_news _
  · have herr : fileCommand E (fun h => .ok ((), { h with
        trace := .takeSnapshot snap_uuid :: h.trace })) h = .error .failed (h.next E) := by
      simp only [fileCommand, hfault, if_true]
    exact (wp_of_error herr).2 trivial

/-- **One snapshot loses no write exactly when the blocks of the gap are written again**, and then
`cbt-active` has the blocks of the next interval. -/
theorem noWriteLost_iff (howns : Owns qd g h)
    (hcap : Captures E sr sr_dataset vdi_uuid qd snap_uuid h) :
    (NoWriteLost qd g snap_uuid (after (snapshot E sr sr_dataset vdi_uuid snap_uuid) h) ↔
        GapRewritten qd g (after (snapshot E sr sr_dataset vdi_uuid snap_uuid) h)) ∧
      (GapRewritten qd g (after (snapshot E sr sr_dataset vdi_uuid snap_uuid) h) →
        Owns qd g (after (snapshot E sr sr_dataset vdi_uuid snap_uuid) h)) := by
  obtain ⟨bs, nbd, exports, b, hon, hb, rfl, hrec, hmem⟩ := howns
  obtain ⟨h₂, bs₂, bs', act, frz, before, aft, looking, writing, hw, -, hlook, hwrit, -, hc⟩ :=
    exists_captured hon hb hcap
  generalize after (snapshot E sr sr_dataset vdi_uuid snap_uuid) h = h' at hc ⊢
  -- the parts of the trace
  have htrace : h'.trace = (aft ++ enabling qd :: (before ++ looking)) ++
      .takeSnapshot snap_uuid :: (writing ++ h.trace) := by
    rw [hc.went.trace, hw.trace]
    simp
  have hcalm : ∀ e ∈ aft ++ enabling qd :: (before ++ looking), isSnapshot e = false := by
    intro e he
    rcases List.mem_append.1 he with he | he
    · exact (hc.calm_after e he).not_isSnapshot
    · rcases List.mem_cons.1 he with rfl | he
      · rfl
      · exact (calm_append hc.calm_before hlook e he).not_isSnapshot
  have hinterval : interval h'.trace = writing ++ since isSnapshot h.trace := by
    rw [htrace, interval_append _ _ hcalm, since_append]
    exact fun e he => (hwrit e he).not_isSnapshot
  have henabled : since (· = enabling qd) h'.trace = aft := by
    rw [htrace, List.append_assoc, since_append _ fun e he => (hc.calm_after e he).ne_enabling]
    rw [List.cons_append, since_cons _ (by simp), List.append_nil]
  -- the snapshot's bitmap has its whole interval
  have hfrozen : ∀ k, Touched (written qd (interval h'.trace)) b.granularity k → k ∈ frz.dirty := by
    intro k hk
    refine hc.mem_frozen k (Bitmap.mem_dirty_recordAll.2 ?_)
    rw [hinterval, written_append, touched_append] at hk
    rw [written_append, touched_append]
    rcases hk with hk | hk
    · exact .inl (hmem k hk)
    · refine .inr ⟨hrec, .inl ?_⟩
      exact hk
  have hgap : GapRewritten qd b.granularity h' ↔
      ∀ k, Touched (written qd (since isSnapshot h'.trace)) b.granularity k → k ∈ act.dirty := by
    rw [GapRewritten, henabled]
    refine forall_congr' fun k => imp_congr_right fun _ => ?_
    rw [hc.mem_active, Bitmap.granularity_recordAll]
  refine ⟨⟨?_, fun hg => ⟨_, _, _, act, frz, hc.on, hc.active, hc.frozen, hfrozen, hgap.1 hg⟩⟩,
    fun hg => ⟨_, _, _, act, hc.on, hc.active, ?_, hc.active_recording, hgap.1 hg⟩⟩
  · rintro ⟨bs₁, nbd₁, ex₁, act₁, frz₁, hon₁, hact₁, -, -, hall⟩
    obtain ⟨p, hp, hbs, -, -⟩ := hc.on
    obtain ⟨p₁, hp₁, hbs₁, -, -⟩ := hon₁
    cases hp.symm.trans hp₁
    cases hbs.symm.trans hbs₁
    cases hc.active.symm.trans hact₁
    exact hgap.2 hall
  · rw [hc.active_granularity, Bitmap.granularity_recordAll]

/-! ### Runs -/

theorem Owns.guestWrite (howns : Owns qd g h) (w : GuestWrite) : Owns qd g (h.guestWrite w) := by
  obtain ⟨bs, nbd, exports, b, hon, hb, hgran, hrec, hmem⟩ := howns
  obtain ⟨p, hp, hbs, hn, he⟩ := hon
  obtain ⟨hbs', hn', he'⟩ := Host.On.arrive hbs hn he [w]
  obtain ⟨hproc, -, -, -, ht⟩ := foldl_guestWrite (s := qd.qmp_sock) [w] h
  refine ⟨_, nbd, exports, b.recordAll (written qd [.write w]),
    ⟨arrive qd.qmp_sock [w] p, ?_, hbs', hn', he'⟩, ?_, ?_, ?_, fun k hk => ?_⟩
  · rw [hp] at hproc
    exact hproc
  · exact (passes_recordAll qd bs [.write w] CBT_ACTIVE_BITMAP).get hb
  · rw [Bitmap.granularity_recordAll, hgran]
  · rw [Bitmap.recording_recordAll, hrec]
  · have htrace : (h.guestWrite w).trace = [.write w] ++ h.trace := ht
    rw [htrace, since_append _ (by simp [isSnapshot]), written_append, touched_append] at hk
    rw [Bitmap.mem_dirty_recordAll, hgran]
    exact hk.imp (hmem k) fun hk => ⟨hrec, hk⟩

/-- **No snapshot of a run loses a write exactly when every block that is written between a snapshot and
the return of its bitmap is written again before the call returns.** -/
theorem eachSnapshot_iff (E : Env) (sr sr_dataset vdi_uuid : String) (qd : QemuDisk) (g : ℕ)
    (steps : List ChainStep) (h : Host) (howns : Owns qd g h)
    (hok : EachSnapshot E sr sr_dataset vdi_uuid
      (fun snap_uuid h _ => Captures E sr sr_dataset vdi_uuid qd snap_uuid h) h steps) :
    EachSnapshot E sr sr_dataset vdi_uuid (fun snap_uuid _ h' => NoWriteLost qd g snap_uuid h') h
        steps ↔
      EachSnapshot E sr sr_dataset vdi_uuid (fun _ _ h' => GapRewritten qd g h') h steps := by
  induction steps generalizing h with
  | nil => exact Iff.rfl
  | cons s steps ih =>
      cases s with
      | write w => exact ih (h.guestWrite w) (howns.guestWrite w) hok
      | snapshot snap_uuid =>
          obtain ⟨hcap, hrest⟩ := hok
          obtain ⟨hiff, hnext⟩ := noWriteLost_iff howns hcap
          rw [EachSnapshot, EachSnapshot, hiff]
          exact and_congr_right fun hg => ih _ (hnext hg) hrest

/-- The daemon of `trackedHost`. -/
def trackedDisk : QemuDisk := ⟨"qmp", "nbd", BLOCK_NODE_NAME⟩

theorem owns_trackedHost : Owns trackedDisk 65536 trackedHost :=
  ⟨_, _, _, _, ⟨_, rfl, rfl, rfl, rfl⟩, rfl, rfl, rfl, fun _ hk => (not_touched_nil _ _ hk).elim⟩

theorem eachSnapshot_iff_twoSnapshots :
    EachSnapshot (quietEnv none) "sr" "tank" "vdi" (fun s _ h' => NoWriteLost trackedDisk 65536 s h')
        trackedHost [.write ⟨"qmp", BLOCK_NODE_NAME, ⟨0, 512⟩⟩, .snapshot "s1", .snapshot "s2"] ↔
      EachSnapshot (quietEnv none) "sr" "tank" "vdi" (fun _ _ h' => GapRewritten trackedDisk 65536 h')
        trackedHost [.write ⟨"qmp", BLOCK_NODE_NAME, ⟨0, 512⟩⟩, .snapshot "s1", .snapshot "s2"] :=
  eachSnapshot_iff (quietEnv none) "sr" "tank" "vdi" trackedDisk 65536 _ trackedHost owns_trackedHost
    ⟨⟨by decide +kernel, by decide +kernel⟩, ⟨by decide +kernel, by decide +kernel⟩, trivial⟩

/-- Surroundings in which the guest writes after ZFS took the snapshot, before `cbt-active` is
disabled. -/
def gapEnv : Env :=
  { quietEnv none with
    writes := fun n => if n = 2 then [⟨"qmp", BLOCK_NODE_NAME, ⟨0, 512⟩⟩] else [] }

/-- **A snapshot that loses a write.** -/
theorem not_noWriteLost_gap : ¬ ∀ (E : Env) (sr sr_dataset vdi_uuid : String) (qd : QemuDisk) (g : ℕ)
    (steps : List ChainStep) (h : Host), Owns qd g h →
    EachSnapshot E sr sr_dataset vdi_uuid
      (fun snap_uuid h _ => Captures E sr sr_dataset vdi_uuid qd snap_uuid h) h steps →
    EachSnapshot E sr sr_dataset vdi_uuid (fun snap_uuid _ h' => NoWriteLost qd g snap_uuid h') h
      steps := by
  intro hall
  have hcap : Captures gapEnv "sr" "tank" "vdi" trackedDisk "s1" trackedHost :=
    ⟨by decide +kernel, by decide +kernel⟩
  obtain ⟨hlost, -⟩ := hall gapEnv "sr" "tank" "vdi" trackedDisk 65536 [.snapshot "s1"] trackedHost
    owns_trackedHost ⟨hcap, trivial⟩
  have hgap := (noWriteLost_iff owns_trackedHost hcap).1.1 hlost 0
  have hsince : written trackedDisk (since isSnapshot
      (after (snapshot gapEnv "sr" "tank" "vdi" "s1") trackedHost).trace) = [⟨0, 512⟩] := by
    decide +kernel
  have henabled : written trackedDisk (since (· = enabling trackedDisk)
      (after (snapshot gapEnv "sr" "tank" "vdi" "s1") trackedHost).trace) = [] := by decide +kernel
  rw [hsince, henabled] at hgap
  exact not_touched_nil _ _ (hgap ⟨_, List.mem_singleton_self _, 0,
    ⟨Nat.zero_le _, (by decide : 0 < 0 + 512)⟩, rfl⟩)

end Cbt

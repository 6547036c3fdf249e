/-
**Delta backups of a volume** (`docs/backup-integration.md`): from the writes of the guest to the image of
the backup.

A backup client asks `Volume.list_changed_blocks` what has changed between one snapshot and the next, and
copies those blocks from the newer one.  This module follows a write from the guest through the bitmap of
its interval, the file of the snapshot, the NBD server and the bit string to the image.  The guest may write
at any moment; the blocks that it writes while a snapshot is captured have to be written again before the
call returns, for else no bitmap has them (`Cbt.noWriteLost_iff`).

Main definitions:

* `Cbt.Wired` — the connections lead to honest NBD servers;
* `Cbt.Accounts` — what the bitmaps account for along a run;
* `Cbt.Next`, `Cbt.told`, `Cbt.backUp` — the chain of snapshots, and what the client makes of it.

Main results:

* `Cbt.Accounts.run` — the bitmap of every snapshot has the blocks of its interval;
* `Cbt.backUp_restores` — **a chain of delta backups leads to the content of its last snapshot**;
* `Cbt.told_iff_written` — **a delta has exactly the blocks that were written between its snapshots**,
  where the guest does not write during the calls.
-/

import ZfsLive.Base.Delta
import ZfsLive.CbtChain
import ZfsLive.ChangedBlocksServed

set_option relaxedAutoImplicit false
set_option autoImplicit false

namespace Cbt

open Qemu ChangedBlocks NbdClient NbdServer Wp

/-! ### The client -/

/-- Whoever asks an NBD server of the host for a bitmap that it shows reaches it.  The server keeps to the
protocol, and tells the bytes of the dirty blocks up to the end of the disk. -/
def Wired (h : Host) (connect : String → String → String → Option Sock) : Prop :=
  ∀ socket export_name bitmap_context es, h.fetch socket export_name bitmap_context = .ok es →
    ∃ (s : Sock) (S : Server) (rest : List UInt8),
      connect socket export_name bitmap_context = some s ∧ s.incoming = S.stream ++ rest ∧
        S.Conforms ∧ (∀ e ∈ es, e.1 < S.export_size) ∧
        S.Honest fun x => Marks es x ∧ x < S.export_size

/-- The report on two snapshots tells the block of byte `x`. -/
def told (env : CbtEnv) (sr older newer : String) (offset length x : ℕ) : Bool :=
  match listChangedBlocks env sr older newer offset length with
  | .error _ => false
  | .ok r => decide (offset / r.granularity ≤ x / r.granularity) &&
      r.test (x / r.granularity - offset / r.granularity)

/-- The image of a backup of the snapshot `older`, after the deltas along a chain of later snapshots. -/
def backUp {α : Type} (env : CbtEnv) (sr : String) (offset length : ℕ) (version : String → ℕ → α)
    (image : ℕ → α) (older : String) (chain : List String) : ℕ → α :=
  Delta.patches version (fun older newer => told env sr older newer offset length) image older chain

/-- `older` is the last snapshot before `newer`. -/
def Next (tr : List Event) (older newer : String) : Prop :=
  .takeSnapshot newer ∈ tr ∧ (before newer tr).find? isSnapshot = some (.takeSnapshot older)

/-- A byte changes only when the guest writes it. -/
def ChangedByWrites {α : Type} (qd : QemuDisk) (content : List Event → ℕ → α) : Prop :=
  ∀ e tr x, content (e :: tr) x ≠ content tr x → ∃ w ∈ written qd [e], w.Covers x

/-! ### What the bitmaps account for -/

/-- The bitmap, the export and the file of a snapshot; the bitmap has the blocks of its interval. -/
structure Accounted (qd : QemuDisk) (granularity : ℕ) (sr : String) (h : Host) (bs : Bitmaps)
    (exports : Dict String Export) (snap_uuid : String) (frz : Bitmap) : Prop where
  frozen : bs.get? (frozenName snap_uuid) = some frz
  recording : frz.recording = false
  gran : frz.granularity = granularity
  shown : exports.get? ("cbt_" ++ frozenName snap_uuid) =
    some ⟨qd.block_node_name, some (frozenName snap_uuid)⟩
  saved : ∃ count, h.pickles.get? ("file://" ++ sr, snap_uuid) =
    some (some (.dict (savedSnapshot qd granularity count snap_uuid)))
  owned : ∀ k, Touched (written qd (since isSnapshot (before snap_uuid h.trace))) granularity k →
    k ∈ frz.dirty

/-- **What the bitmaps account for along a run**: `cbt-active` has the blocks since the last snapshot, the
bitmap of each snapshot those of its interval, and no snapshot is taken twice. -/
structure Accounts (qd : QemuDisk) (granularity : ℕ) (sr : String) (h : Host) (bs : Bitmaps)
    (nbd : Option String) (exports : Dict String Export) (act : Bitmap) : Prop where
  on : h.On qd bs nbd exports
  socket : nbd.getD qd.nbd_unix_sock = qd.nbd_unix_sock
  active : bs.get? CBT_ACTIVE_BITMAP = some act
  gran : act.granularity = granularity
  recording : act.recording = true
  alone : Alone qd h
  owned : ∀ k, Touched (written qd (since isSnapshot h.trace)) granularity k → k ∈ act.dirty
  once : (h.trace.filter isSnapshot).Nodup
  taken : ∀ snap_uuid, .takeSnapshot snap_uuid ∈ h.trace → nbd = some qd.nbd_unix_sock ∧
    ∃ frz, Accounted qd granularity sr h bs exports snap_uuid frz

variable {E : Env} {h h' : Host} {qd : QemuDisk} {sr sr_dataset vdi_uuid snap_uuid : String} {g : ℕ}
  {bs : Bitmaps} {nbd : Option String} {exports : Dict String Export} {act frz : Bitmap}
  {connect : String → String → String → Option Sock} {older newer : String} {tr : List Event}

theorem Recording.accounts (hs : Recording qd g h) :
    ∃ bs nbd exports act, Accounts qd g sr h bs nbd exports act := by
  obtain ⟨⟨bs, nbd, exports, b, hon, hsock, hb, hg, hr⟩, htrace, halone⟩ := hs
  refine ⟨bs, nbd, exports, b, hon, hsock, hb, hg, hr, halone, ?_, ?_, ?_⟩
  · intro k hk
    rw [htrace] at hk
    exact absurd hk (not_touched_nil _ _)
  · rw [htrace]
    exact List.nodup_nil
  · intro S hS
    rw [htrace] at hS
    cases hS

/-- **A write** goes into `cbt-active`. -/
theorem Accounts.guestWrite (hc : Accounts qd g sr h bs nbd exports act) (w : GuestWrite) :
    ∃ bs' act', Accounts qd g sr (h.guestWrite w) bs' nbd exports act' := by
  obtain ⟨hproc, -, hpk, -, ht⟩ := foldl_guestWrite (s := qd.qmp_sock) [w] h
  have htrace : (h.guestWrite w).trace = [.write w] ++ h.trace := ht
  have hpk' : (h.guestWrite w).pickles = h.pickles := hpk
  obtain ⟨p, hp, hbs, hn, he⟩ := hc.on
  obtain ⟨hbs', hn', he'⟩ := Host.On.arrive hbs hn he [w]
  have hpass := passes_recordAll qd bs [.write w]
  refine ⟨_, act.recordAll (written qd [.write w]), ⟨arrive qd.qmp_sock [w] p, ?_, hbs', hn', he'⟩,
    hc.socket, (hpass _).get hc.active, ?_, ?_, ?_, fun k hk => ?_, ?_, fun S hS => ?_⟩
  · rw [hp] at hproc
    exact hproc
  · rw [Bitmap.granularity_recordAll, hc.gran]
  · rw [Bitmap.recording_recordAll, hc.recording]
  · exact hc.alone.of_arrive fun s _ => ⟨[w], (foldl_guestWrite (s := s) [w] h).1⟩
  · rw [htrace, since_append _ (by simp [isSnapshot]), written_append, touched_append] at hk
    rw [Bitmap.mem_dirty_recordAll, hc.gran]
    exact hk.imp (hc.owned k) fun hk => ⟨hc.recording, hk⟩
  · rw [htrace]
    exact hc.once
  · have hS' : .takeSnapshot S ∈ h.trace := by
      rw [htrace] at hS
      simpa using hS
    obtain ⟨hnbd, frz, hf⟩ := hc.taken S hS'
    refine ⟨hnbd, frz.recordAll (written qd [.write w]), (hpass _).get hf.frozen, ?_, ?_, hf.shown, ?_,
      fun k hk => ?_⟩
    · rw [Bitmap.recording_recordAll, hf.recording]
    · rw [Bitmap.granularity_recordAll, hf.gran]
    · rw [hpk']
      exact hf.saved
    · rw [htrace, before_append _ (by simp)] at hk
      exact Bitmap.mem_dirty_recordAll.2 (.inl (hf.owned k hk))

/-- The trace of a captured snapshot has no other snapshot, and ends with what happened since `cbt-active`
was enabled. -/
theorem parts_of_captured {h₂ : Host} {b : Bitmap} {bs' : Bitmaps} {bef aft looking writing : List Event}
    (hw : Went qd h h₂ (looking ++ .takeSnapshot snap_uuid :: writing)) (hlook : ∀ e ∈ looking, Calm e)
    (hwrit : ∀ e ∈ writing, Calm e)
    (hcd : Captured qd sr snap_uuid b bs nbd exports h₂ h' bs' act frz bef aft) :
    h'.trace = (aft ++ enabling qd :: bef ++ looking) ++ .takeSnapshot snap_uuid ::
        (writing ++ h.trace) ∧
      (∀ e ∈ aft ++ enabling qd :: bef ++ looking, isSnapshot e = false) ∧
      (∀ e ∈ writing, isSnapshot e = false) ∧ since (· = enabling qd) h'.trace = aft := by
  have htrace : h'.trace = (aft ++ enabling qd :: bef ++ looking) ++
      .takeSnapshot snap_uuid :: (writing ++ h.trace) := by
    rw [hcd.went.trace, hw.trace]
    simp
  refine ⟨htrace, fun e he => ?_, fun e he => (hwrit e he).not_isSnapshot, ?_⟩
  · rcases List.mem_append.1 he with he | he
    · rcases List.mem_append.1 he with he | he
      · exact (hcd.calm_after e he).not_isSnapshot
      · rcases List.mem_cons.1 he with rfl | he
        · rfl
        · exact (hcd.calm_before e he).not_isSnapshot
    · exact (hlook e he).not_isSnapshot
  · rw [htrace, List.append_assoc, List.append_assoc,
      since_append _ fun e he => (hcd.calm_after e he).ne_enabling, List.cons_append,
      since_cons _ (by simp), List.append_nil]

/-- **A snapshot** moves the bits of `cbt-active` into its own bitmap, which has the whole interval; the
blocks that were written since ZFS took it are in `cbt-active` again. -/
theorem Accounts.snapshotted (hc : Accounts qd g sr h bs nbd exports act)
    (hcap : Captures E sr sr_dataset vdi_uuid qd snap_uuid h)
    (hgap : GapRewritten qd g (after (Cbt.snapshot E sr sr_dataset vdi_uuid snap_uuid) h)) :
    ∃ bs' nbd' exports' act', Accounts qd g sr
      (after (Cbt.snapshot E sr sr_dataset vdi_uuid snap_uuid) h) bs' nbd' exports' act' := by
  obtain ⟨h₂, bs₂, bs', act', frz, bef, aft, looking, writing, hw, hpk, hlook, hwrit, hpass, hcd⟩ :=
    exists_captured hc.on hc.active hcap
  generalize after (Cbt.snapshot E sr sr_dataset vdi_uuid snap_uuid) h = h' at hcd hgap ⊢
  obtain ⟨htrace, hmid, hwrit', henabled⟩ := parts_of_captured hw hlook hwrit hcd
  have hbefore : before snap_uuid h'.trace = writing ++ h.trace := by
    rw [htrace, before_taken hmid]
  obtain ⟨count, hpickles⟩ := hcd.pickles
  rw [hpk] at hpickles
  have hfresh : bs.get? (frozenName snap_uuid) = none := by
    have := hpass (frozenName snap_uuid)
    rw [Passes, hcd.absent] at this
    exact Option.map_eq_none_iff.1 this.symm
  have hnew : .takeSnapshot snap_uuid ∉ h.trace := by
    intro hmem
    obtain ⟨-, frz', hf⟩ := hc.taken _ hmem
    rw [hf.frozen] at hfresh
    cases hfresh
  have hgran : act'.granularity = g := by
    rw [hcd.active_granularity, Bitmap.granularity_recordAll, hc.gran]
  refine ⟨bs', some (nbd.getD qd.nbd_unix_sock), _, act', hcd.on, hc.socket, hcd.active, hgran,
    hcd.active_recording, ?_, fun k hk => ?_, ?_, fun S hS => ⟨?_, ?_⟩⟩
  · exact hc.alone.of_arrive fun s hs => ⟨_, (hw.trans hcd.went).other s hs⟩
  · have hk' := hgap k hk
    rw [henabled, ← hgran, hcd.active_granularity] at hk'
    exact (hcd.mem_active k).2 hk'
  · rw [htrace, List.filter_append, List.filter_eq_nil_iff.2 fun e he => by simp [hmid e he],
      List.nil_append, List.filter_cons_of_pos (by rfl), List.filter_append,
      List.filter_eq_nil_iff.2 fun e he => by simp [hwrit' e he], List.nil_append, List.nodup_cons]
    exact ⟨fun hmem => hnew (List.mem_of_mem_filter hmem), hc.once⟩
  · rw [hc.socket]
  · by_cases hSS : S = snap_uuid
    · subst hSS
      refine ⟨frz, hcd.frozen, hcd.frozen_recording, ?_, ?_, ⟨count, ?_⟩, fun k hk => ?_⟩
      · rw [hcd.frozen_granularity, Bitmap.granularity_recordAll, hc.gran]
      · rw [Dict.get?_set, if_pos rfl]
      · rw [hpickles, Dict.get?_set, if_pos rfl, savedSnapshot, Bitmap.granularity_recordAll, hc.gran]
      · rw [hbefore, since_append _ hwrit', written_append, touched_append] at hk
        refine hcd.mem_frozen k (Bitmap.mem_dirty_recordAll.2 (hk.imp (hc.owned k) fun hk => ?_))
        refine ⟨hc.recording, ?_⟩
        rw [hc.gran, written_append, touched_append]
        exact .inl hk
    · rw [htrace, mem_taken hmid hwrit'] at hS
      obtain ⟨-, frz', hf⟩ := hc.taken S (hS.resolve_left hSS)
      have hname : frozenName S ≠ frozenName snap_uuid := by
        intro heq
        rw [← heq, hf.frozen] at hfresh
        cases hfresh
      have hshown : "cbt_" ++ frozenName S ≠ "cbt_" ++ frozenName snap_uuid := by
        intro heq
        have := hcd.unexported
        rw [← heq, hf.shown] at this
        cases this
      refine ⟨_, (hcd.passes _ (frozenName_ne S) hname).get ((hpass _).get hf.frozen), ?_, ?_, ?_, ?_,
        fun k hk => ?_⟩
      · rw [Bitmap.recording_recordAll, Bitmap.recording_recordAll, hf.recording]
      · rw [Bitmap.granularity_recordAll, Bitmap.granularity_recordAll, hf.gran]
      · rw [Dict.get?_set, if_neg hshown]
        exact hf.shown
      · obtain ⟨count', hcount'⟩ := hf.saved
        refine ⟨count', ?_⟩
        rw [hpickles, Dict.get?_set, if_neg (by simpa using hSS)]
        exact hcount'
      · rw [htrace, before_of_ne hmid hwrit' hSS] at hk
        exact Bitmap.mem_dirty_recordAll.2 (.inl (Bitmap.mem_dirty_recordAll.2 (.inl (hf.owned k hk))))

theorem Accounts.run (steps : List ChainStep) (hc : Accounts qd g sr h bs nbd exports act)
    (hok : EachSnapshot E sr sr_dataset vdi_uuid (fun snap_uuid h h' =>
      Captures E sr sr_dataset vdi_uuid qd snap_uuid h ∧ GapRewritten qd g h') h steps) :
    ∃ bs' nbd' exports' act', Accounts qd g sr
      (chainRun E sr sr_dataset vdi_uuid h steps) bs' nbd' exports' act' := by
  induction steps generalizing h bs nbd exports act with
  | nil => exact ⟨bs, nbd, exports, act, hc⟩
  | cons s steps ih =>
      cases s with
      | write w =>
          obtain ⟨bs', act', hc'⟩ := hc.guestWrite w
          exact ih hc' hok
      | snapshot snap_uuid =>
          obtain ⟨⟨hcap, hgap⟩, hrest⟩ := hok
          obtain ⟨bs', nbd', exports', act', hc'⟩ := hc.snapshotted hcap hgap
          exact ih hc' hrest

/-! ### The delta between two snapshots -/

/-- A bitmap that an NBD server shows is served, with a dirty byte in each of its dirty blocks. -/
theorem Wired.served (hwired : Wired h connect) {name : String} (count : ℕ)
    (hfetch : h.fetch qd.nbd_unix_sock ("cbt_" ++ name) ("qemu:dirty-bitmap:" ++ name) =
      .ok (extents frz)) :
    ∃ dirty, Served connect (.dict ⟨name, some (g : ℤ), count, some (descriptor qd name)⟩) dirty ∧
      ∀ k, (∃ x, dirty x ∧ x / frz.granularity = k) ↔ k ∈ frz.dirty := by
  obtain ⟨s, S, rest, hconnect, hs, hS, hwithin, hhonest⟩ := hwired _ _ _ _ hfetch
  refine ⟨_, ⟨_, _, _, _, s, S, rest, rfl, rfl, hconnect, hs, hS, hhonest⟩, fun k => ?_⟩
  constructor
  · rintro ⟨x, ⟨hx, -⟩, rfl⟩
    exact exists_extents_iff.1 hx
  · intro hk
    have hdiv : k * frz.granularity / frz.granularity = k := Nat.mul_div_cancel k frz.granularity_pos
    exact ⟨k * frz.granularity, ⟨exists_extents_iff.2 (by rwa [hdiv]),
      hwithin _ (List.mem_map_of_mem hk)⟩, hdiv⟩

/-- **The report on a snapshot whose bitmap is served** has the bits of the bitmap. -/
theorem report_served (hwired : Wired h connect) (hon : h.On qd bs (some qd.nbd_unix_sock) exports)
    (halone : Alone qd h) (hfrozen : bs.get? (frozenName newer) = some frz)
    (hgran : frz.granularity = g) (hshown : exports.get? ("cbt_" ++ frozenName newer) =
      some ⟨qd.block_node_name, some (frozenName newer)⟩) {count : ℕ}
    (hsaved : h.pickles.get? ("file://" ++ sr, newer) =
      some (some (.dict (savedSnapshot qd g count newer)))) (older : String) (offset length : ℕ) :
    ∃ r, listChangedBlocks (overNbd h.cbtEnv.load connect) sr older newer offset length = .ok r ∧
      r.granularity = g ∧
      ∀ b, r.test b = true ↔ b < nblocks offset length g ∧ offset / g + b ∈ frz.dirty := by
  have hg : 0 < g := hgran ▸ frz.granularity_pos
  have hload : (overNbd h.cbtEnv.load connect).load ("file://" ++ sr) newer =
      .ok (some (.dict (savedSnapshot qd g count newer))) := by
    simp [overNbd, Host.cbtEnv, hsaved]
  obtain ⟨r, hr, hrg, htest⟩ := @listChangedBlocks_spec _ sr older _ _ hload offset length
  rw [reportGranularity_savedSnapshot _ rfl hg] at hrg
  obtain ⟨dirty, hserved, hdirty⟩ := hwired.served (g := g) count (fetch_of_on hon halone hshown hfrozen)
  obtain ⟨es, hanswer, hmarks⟩ := hserved.answer h.cbtEnv.load
  have hitems : (savedSnapshot qd g count newer).items = [(frozenName newer,
      .dict ⟨frozenName newer, some (g : ℤ), count, some (descriptor qd (frozenName newer))⟩)] := rfl
  refine ⟨r, hr, hrg, fun b => ?_⟩
  rw [htest, hrg, hitems, ← hdirty, hgran]
  simp only [List.mem_singleton, exists_eq_left, hanswer, Option.some.injEq, hmarks,
    exists_eq_left', InBlock]

theorem lt_nblocks (hg : 0 < g) {offset length x : ℕ} (hx : offset ≤ x ∧ x < offset + length) :
    offset / g ≤ x / g ∧ x / g - offset / g < nblocks offset length g := by
  have hle : offset / g ≤ x / g := Nat.div_le_div_right hx.1
  have hlt : x / g + 1 ≤ (offset + length + (g - 1)) / g := by
    rw [Nat.le_div_iff_mul_le hg, Nat.add_mul, Nat.one_mul]
    have := Nat.div_mul_le_self x g
    omega
  rw [nblocks_eq hg]
  omega

/-- The client is told of a byte exactly when its block is dirty. -/
theorem told_iff {env : CbtEnv} {r : Report} {offset length x : ℕ} {dirty : ℕ → Prop}
    (hr : listChangedBlocks env sr older newer offset length = .ok r) (hgran : r.granularity = g)
    (hg : 0 < g)
    (htest : ∀ b, r.test b = true ↔ b < nblocks offset length g ∧ dirty (offset / g + b))
    (hx : offset ≤ x ∧ x < offset + length) :
    told env sr older newer offset length x = true ↔ dirty (x / g) := by
  obtain ⟨hle, hlt⟩ := lt_nblocks hg hx
  rw [told, hr]
  simp only [hgran, Bool.and_eq_true, decide_eq_true_iff, htest, hle, hlt, true_and,
    Nat.add_sub_cancel' hle]

theorem Accounts.told_iff (hc : Accounts qd g sr h bs nbd exports act) (hwired : Wired h connect)
    (hnewer : .takeSnapshot newer ∈ h.trace) (older : String) (offset length : ℕ) :
    ∃ frz, Accounted qd g sr h bs exports newer frz ∧ ∀ x, offset ≤ x ∧ x < offset + length →
      (told (overNbd h.cbtEnv.load connect) sr older newer offset length x = true ↔
        x / g ∈ frz.dirty) := by
  obtain ⟨hnbd, frz, hf⟩ := hc.taken newer hnewer
  obtain ⟨count, hsaved⟩ := hf.saved
  obtain ⟨r, hr, hgran, htest⟩ := report_served hwired (hnbd ▸ hc.on) hc.alone hf.frozen hf.gran hf.shown
    hsaved older offset length
  exact ⟨frz, hf, fun x hx => Cbt.told_iff hr hgran (hf.gran ▸ frz.granularity_pos) htest hx⟩

/-! ### Consecutive snapshots -/

theorem before_of_once {pre rest : List Event}
    (honce : ((pre ++ .takeSnapshot snap_uuid :: rest).filter isSnapshot).Nodup) :
    before snap_uuid (pre ++ .takeSnapshot snap_uuid :: rest) = rest := by
  rw [before_append, before_self]
  rintro e he rfl
  rw [List.filter_append, List.filter_cons_of_pos (by rfl), List.nodup_append] at honce
  exact honce.2.2 _ (List.mem_filter.2 ⟨he, rfl⟩) _ List.mem_cons_self rfl

/-- Between a snapshot and the next one there is no snapshot. -/
theorem Next.before_eq (hnext : Next tr older newer) (honce : (tr.filter isSnapshot).Nodup) :
    before newer tr = since isSnapshot (before newer tr) ++ .takeSnapshot older :: before older tr := by
  obtain ⟨hmem, hfind⟩ := hnext
  obtain ⟨-, seg, rest, hseg, hclean⟩ := List.find?_eq_some_iff_append.1 hfind
  have hclean' : ∀ e ∈ seg, isSnapshot e = false := fun e he => by simpa using hclean e he
  obtain ⟨pre, old, rfl⟩ := List.append_of_mem hmem
  rw [before_of_once honce] at hseg ⊢
  subst hseg
  have hsplit : pre ++ .takeSnapshot newer :: (seg ++ .takeSnapshot older :: rest) =
      (pre ++ .takeSnapshot newer :: seg) ++ .takeSnapshot older :: rest := by simp
  rw [hsplit] at honce ⊢
  rw [before_of_once honce, since_append _ hclean', since_cons _ rfl, List.append_nil]

/-- The writes between two consecutive snapshots are those of the interval before the newer one. -/
theorem Next.writtenBetween_eq (hnext : Next tr older newer) :
    writtenBetween qd tr older (.snapshot newer) = written qd (since isSnapshot (before newer tr)) := by
  obtain ⟨-, seg, rest, hseg, hclean⟩ := List.find?_eq_some_iff_append.1 hnext.2
  have hclean' : ∀ e ∈ seg, isSnapshot e = false := fun e he => by simpa using hclean e he
  rw [writtenBetween, Point.past, hseg, since_append _ hclean', since_cons _ rfl, since_append _ ?_,
    since_cons _ (by simp)]
  intro e he
  refine decide_eq_false ?_
  rintro rfl
  cases hclean' _ he

/-- A stretch of a run in which a byte changes has a write to it. -/
theorem ChangedByWrites.append {α : Type} {content : List Event → ℕ → α}
    (hcontent : ChangedByWrites qd content) {x : ℕ} (seg : List Event)
    (hne : content (seg ++ tr) x ≠ content tr x) : ∃ w ∈ written qd seg, w.Covers x := by
  induction seg with
  | nil => exact absurd rfl hne
  | cons e seg ih =>
      have hcons : written qd (e :: seg) = written qd seg ++ written qd [e] := written_append [e] seg
      rw [hcons]
      by_cases hseg : content (seg ++ tr) x = content tr x
      · rw [← hseg] at hne
        obtain ⟨w, hw, hcovers⟩ := hcontent e (seg ++ tr) x hne
        exact ⟨w, List.mem_append_right _ hw, hcovers⟩
      · obtain ⟨w, hw, hcovers⟩ := ih hseg
        exact ⟨w, List.mem_append_left _ hw, hcovers⟩

/-- **The delta between two snapshots misses nothing.** -/
theorem Accounts.tells {α : Type} {content : List Event → ℕ → α}
    (hc : Accounts qd g sr h bs nbd exports act) (hwired : Wired h connect)
    (hcontent : ChangedByWrites qd content) (hnext : Next h.trace older newer) (offset length : ℕ) :
    Delta.Tells {x | offset ≤ x ∧ x < offset + length}
      (told (overNbd h.cbtEnv.load connect) sr older newer offset length)
      (content (before older h.trace)) (content (before newer h.trace)) := by
  intro x hx hne
  obtain ⟨frz, hf, htold⟩ := hc.told_iff hwired hnext.1 older offset length
  rw [htold x hx]
  refine hf.owned _ ?_
  -- the byte was written after `older`, and there the interval of `newer` starts
  rw [hnext.before_eq hc.once, List.append_cons] at hne
  obtain ⟨w, hw, hcovers⟩ := hcontent.append _ hne.symm
  have hnone : written qd [.takeSnapshot older] = [] := rfl
  rw [written_append, hnone, List.nil_append] at hw
  exact ⟨w, hw, x, hcovers, rfl⟩

/-! ### A disk of two blocks -/

/-- A server for a disk of two blocks, of which the first one is dirty if there are extents. -/
def firstBlock (es : List (ℕ × ℕ)) : Server :=
  { twoBlocks with
    answer := fun _ _ => []
    last := fun _ _ => .status 7 [⟨65536, if es = [] then 0 else 1⟩, ⟨65536, 0⟩] }

theorem conforms_firstBlock (es : List (ℕ × ℕ)) : (firstBlock es).Conforms :=
  { conforms_twoBlocks with
    answer := fun _ _ t ht => absurd ht (List.not_mem_nil)
    last := fun _ _ => by
      rw [firstBlock]
      dsimp only
      split
      · exact ⟨by decide, by decide, by decide⟩
      · exact ⟨by decide, by decide, by decide⟩ }

theorem honest_firstBlock {es : List (ℕ × ℕ)} (hes : ∀ e ∈ es, e = (0, 65536)) :
    (firstBlock es).Honest fun x => Marks es x ∧ x < 131072 := by
  have hrequests : requests (firstBlock es).export_size = [⟨0, 0, 131072⟩] :=
    (by decide : requests twoBlocks.export_size = [⟨0, 0, 131072⟩])
  have htold : (firstBlock es).told ⟨0, 0, 131072⟩ =
      [⟨65536, if es = [] then 0 else 1⟩, ⟨65536, 0⟩] := rfl
  have hmarks : ∀ x, Marks es x ↔ es ≠ [] ∧ x < 65536 := by
    intro x
    constructor
    · rintro ⟨e, he, -, hlt⟩
      rw [hes e he] at hlt
      exact ⟨List.ne_nil_of_mem he, hlt⟩
    · rintro ⟨hne, hlt⟩
      obtain ⟨e, he⟩ := List.exists_mem_of_ne_nil es hne
      exact ⟨e, he, by rw [hes e he]; exact ⟨Nat.zero_le x, hlt⟩⟩
  refine ⟨fun b hb => hb.2, fun r hr => ?_, fun r hr x hx b hb => ?_⟩
  · rw [hrequests, List.mem_singleton] at hr
    subst hr
    rw [htold]
    simp
  · rw [hrequests, List.mem_singleton] at hr
    subst hr
    rw [htold, place, place, place, List.mem_cons, List.mem_singleton] at hx
    obtain ⟨hle, hlt⟩ := hb
    rw [hmarks]
    obtain rfl | rfl := hx
    · have hlt' : b < 65536 := by simpa using hlt
      dsimp only
      by_cases hnil : es = []
      · simp [hnil]
      · rw [if_neg hnil]
        exact ⟨fun _ => ⟨⟨hnil, hlt'⟩, by omega⟩, fun _ => rfl⟩
    · dsimp only at hle ⊢
      omega

/-- The connections of a host whose bitmaps have the first block at most. -/
def firstBlocks (h : Host) (socket export_name bitmap_context : String) : Option Sock :=
  match h.fetch socket export_name bitmap_context with
  | .ok es => some ⟨(firstBlock es).stream, 0, fun _ => 1, []⟩
  | .error _ => none

/-- What a server tells is a bitmap of its process. -/
theorem exists_of_fetch {socket export_name bitmap_context : String} {es : List (ℕ × ℕ)}
    (hfetch : h.fetch socket export_name bitmap_context = .ok es) :
    ∃ p ∈ h.processes.values, ∃ node ∈ p.nodes.values, ∃ b ∈ node.values, es = extents b := by
  rw [Host.fetch] at hfetch
  split at hfetch
  · cases hfetch
  · next p hfind =>
    split at hfetch
    · cases hfetch
    · cases hfetch
    · next node bitmap _ =>
      split at hfetch
      · split at hfetch
        · next b hb =>
          rw [Process.bitmaps] at hb
          rcases hnode : p.nodes.get? node with _ | bitmaps
          · rw [hnode] at hb
            cases hb
          · rw [hnode] at hb
            cases hfetch
            exact ⟨p, List.mem_of_find?_eq_some hfind, bitmaps,
              Dict.mem_values.2 ⟨_, Dict.get?_eq_some_iff.1 hnode⟩, b,
              Dict.mem_values.2 ⟨_, Dict.get?_eq_some_iff.1 hb⟩, rfl⟩
        · cases hfetch
      · cases hfetch

theorem wired_firstBlocks (hbitmaps : ∀ p ∈ h.processes.values, ∀ node ∈ p.nodes.values,
    ∀ b ∈ node.values, ∀ e ∈ extents b, e = (0, 65536)) : Wired h (firstBlocks h) := by
  intro socket export_name bitmap_context es hfetch
  obtain ⟨p, hp, node, hnode, b, hb, rfl⟩ := exists_of_fetch hfetch
  have hes := hbitmaps p hp node hnode b hb
  refine ⟨⟨(firstBlock (extents b)).stream, 0, fun _ => 1, []⟩, firstBlock (extents b), [], ?_,
    (List.append_nil _).symm, conforms_firstBlock _, ?_, honest_firstBlock hes⟩
  · rw [firstBlocks, hfetch]
  · intro e he
    rw [hes e he]
    exact (by decide : 0 < twoBlocks.export_size)

/-! ### Backups -/

/-- **A chain of delta backups leads to the content of its last snapshot**: in every run of guest writes and
snapshots in which each bitmap is captured, and the blocks that are written after ZFS took the snapshot are
written again once `cbt-active` is enabled, with the bitmaps behind honest servers.  A client that has the
content of a snapshot, and copies what it is told along the snapshots after it, has the content of the last
one on the whole of the extent that it asks for. -/
theorem backUp_restores {α : Type} (E : Env) (sr sr_dataset vdi_uuid : String) (qd : QemuDisk) (g : ℕ)
    (steps : List ChainStep) (h : Host) (hstart : Recording qd g h)
    (hok : EachSnapshot E sr sr_dataset vdi_uuid (fun snap_uuid h h' =>
      Captures E sr sr_dataset vdi_uuid qd snap_uuid h ∧ GapRewritten qd g h') h steps)
    (connect : String → String → String → Option Sock)
    (hwired : Wired (chainRun E sr sr_dataset vdi_uuid h steps) connect)
    (content : List Event → ℕ → α) (hcontent : ChangedByWrites qd content)
    (older : String) (chain : List String)
    (hchain : List.IsChain (Next (chainRun E sr sr_dataset vdi_uuid h steps).trace) (older :: chain))
    (offset length : ℕ) (image : ℕ → α)
    (himage : ∀ x, offset ≤ x ∧ x < offset + length →
      image x = content (before older (chainRun E sr sr_dataset vdi_uuid h steps).trace) x) :
    ∀ x, offset ≤ x ∧ x < offset + length →
      backUp (overNbd (chainRun E sr sr_dataset vdi_uuid h steps).cbtEnv.load connect) sr offset length
          (fun snap_uuid => content (before snap_uuid
            (chainRun E sr sr_dataset vdi_uuid h steps).trace)) image older chain x =
        content (before ((older :: chain).getLast (List.cons_ne_nil _ _))
          (chainRun E sr sr_dataset vdi_uuid h steps).trace) x := by
  obtain ⟨bs, nbd, exports, act, hc⟩ := hstart.accounts
  obtain ⟨bs', nbd', exports', act', hc'⟩ := hc.run steps hok
  exact Delta.eqOn_patches
    (hchain.imp fun _ _ hnext => hc'.tells hwired hcontent hnext offset length) himage

/-- Surroundings in which the guest writes a block while the first snapshot is captured, and writes it again
before the call returns. -/
def rewritingEnv : Env :=
  { quietEnv none with
    writes := fun n => if n = 2 ∨ n = 9 then [⟨"qmp", BLOCK_NODE_NAME, ⟨0, 512⟩⟩] else [] }

/-- The host after `threeSnapshots` in these surroundings. -/
def backedUpHost : Host := chainRun rewritingEnv "sr" "tank" "vdi" trackedHost threeSnapshots

/-- How often a byte has been written. -/
def writeCount (tr : List Event) (x : ℕ) : ℕ :=
  (written trackedDisk tr).countP fun w => w.offset ≤ x ∧ x < w.offset + w.length

theorem changedByWrites_writeCount : ChangedByWrites trackedDisk writeCount := by
  intro e tr x hne
  by_contra hclean
  refine hne ?_
  have hcons : written trackedDisk (e :: tr) = written trackedDisk tr ++ written trackedDisk [e] :=
    written_append [e] tr
  rw [writeCount, hcons, List.countP_append, writeCount, Nat.add_eq_left, List.countP_eq_zero]
  intro w hw hcovers
  exact hclean ⟨w, hw, by simpa [Write.Covers] using hcovers⟩

theorem gapRewritten_of_subset (hsubset : written qd (since isSnapshot h.trace) ⊆
    written qd (since (· = enabling qd) h.trace)) : GapRewritten qd g h := by
  rintro k ⟨w, hw, hk⟩
  exact ⟨w, hsubset hw, hk⟩

/-- The image of `s1`, in which the first byte has been written no time, becomes that of `s3`, in which it
has been written three times. -/
theorem backUp_restores_threeSnapshots :
    backUp (overNbd backedUpHost.cbtEnv.load (firstBlocks backedUpHost)) "sr" 0 131072
      (fun snap_uuid => writeCount (before snap_uuid backedUpHost.trace)) (fun _ => 0) "s1" ["s2", "s3"]
      0 = 3 := by
  have hok : EachSnapshot rewritingEnv "sr" "tank" "vdi" (fun snap_uuid h h' =>
      Captures rewritingEnv "sr" "tank" "vdi" trackedDisk snap_uuid h ∧
        GapRewritten trackedDisk 65536 h') trackedHost threeSnapshots :=
    ⟨⟨⟨by decide +kernel, by decide +kernel⟩, gapRewritten_of_subset (by decide +kernel)⟩,
      ⟨⟨by decide +kernel, by decide +kernel⟩, gapRewritten_of_subset (by decide +kernel)⟩,
      ⟨⟨by decide +kernel, by decide +kernel⟩, gapRewritten_of_subset (by decide +kernel)⟩, trivial⟩
  have hwired : Wired backedUpHost (firstBlocks backedUpHost) :=
    wired_firstBlocks (by decide +kernel)
  have hchain : List.IsChain (Next backedUpHost.trace) ["s1", "s2", "s3"] :=
    .cons_cons ⟨by decide +kernel, by decide +kernel⟩
      (.cons_cons ⟨by decide +kernel, by decide +kernel⟩ (.singleton _))
  have hempty : before "s1" backedUpHost.trace = [] := by decide +kernel
  have hthree : writeCount (before "s3" backedUpHost.trace) 0 = 3 := by decide +kernel
  refine (backUp_restores rewritingEnv "sr" "tank" "vdi" trackedDisk 65536 threeSnapshots trackedHost
    starts_trackedHost.toRecording hok (firstBlocks backedUpHost) hwired writeCount changedByWrites_writeCount "s1"
    ["s2", "s3"] hchain 0 131072 (fun _ => 0) (fun x _ => ?_) 0 (by decide)).trans hthree
  have hzero : writeCount (before "s1" backedUpHost.trace) x = 0 := by
    rw [hempty]
    rfl
  exact hzero.symm

/-- **A delta has exactly the blocks that were written between its snapshots**: in every run of guest writes
and snapshots in which the guest does not write while a snapshot is captured, with the bitmaps behind honest
servers, a client is told of a byte exactly when the guest wrote to its block. -/
theorem told_iff_written (E : Env) (sr sr_dataset vdi_uuid : String) (qd : QemuDisk) (g : ℕ)
    (steps : List ChainStep) (h : Host) (hstart : Starts qd g sr vdi_uuid h)
    (hvdi : .snapshot vdi_uuid ∉ steps)
    (hok : EachSnapshot E sr sr_dataset vdi_uuid (fun snap_uuid h h' =>
      Captures E sr sr_dataset vdi_uuid qd snap_uuid h ∧ NoWrite qd h h') h steps)
    (connect : String → String → String → Option Sock)
    (hwired : Wired (chainRun E sr sr_dataset vdi_uuid h steps) connect) (older newer : String)
    (hnext : Next (chainRun E sr sr_dataset vdi_uuid h steps).trace older newer)
    (offset length x : ℕ) (hx : offset ≤ x ∧ x < offset + length) :
    told (overNbd (chainRun E sr sr_dataset vdi_uuid h steps).cbtEnv.load connect) sr older newer offset
        length x = true ↔
      Touched (writtenBetween qd (chainRun E sr sr_dataset vdi_uuid h steps).trace older
        (.snapshot newer)) g (x / g) := by
  obtain ⟨bs, nbd, exports, act, hc⟩ := hstart.chained
  obtain ⟨bs', nbd', exports', act', hc'⟩ := hc.run steps hvdi hok
  obtain ⟨frz, hf⟩ := hc'.taken newer hnext.1
  obtain ⟨count, hsaved⟩ := hf.saved
  obtain ⟨r, hr, hgran, htest⟩ := report_served hwired ((hc'.owned ⟨_, hnext.1⟩).1 ▸ hc'.on) hc'.alone
    hf.frozen hf.gran hf.shown hsaved older offset length
  rw [told_iff hr hgran (hf.gran ▸ frz.granularity_pos) htest hx, hnext.writtenBetween_eq]
  exact hf.owned ⟨older, List.mem_of_find?_eq_some hnext.2⟩ (x / g)

/-- The first block is told between `s1` and `s2`, and the second one is not. -/
theorem told_iff_written_threeSnapshots :
    let h := chainRun (quietEnv none) "sr" "tank" "vdi" trackedHost threeSnapshots
    told (overNbd h.cbtEnv.load (firstBlocks h)) "sr" "s1" "s2" 0 131072 5 = true ∧
      told (overNbd h.cbtEnv.load (firstBlocks h)) "sr" "s1" "s2" 0 131072 65536 = false := by
  intro h
  have hwired : Wired h (firstBlocks h) := wired_firstBlocks (by decide +kernel)
  have hnext : Next h.trace "s1" "s2" := ⟨by decide +kernel, by decide +kernel⟩
  have htold : ∀ x, 0 ≤ x ∧ x < 0 + 131072 →
      (told (overNbd h.cbtEnv.load (firstBlocks h)) "sr" "s1" "s2" 0 131072 x = true ↔
        Touched (writtenBetween trackedDisk h.trace "s1" (.snapshot "s2")) 65536 (x / 65536)) :=
    told_iff_written (quietEnv none) "sr" "tank" "vdi" trackedDisk 65536 threeSnapshots trackedHost
      starts_trackedHost (by simp [threeSnapshots]) each_threeSnapshots (firstBlocks h) hwired "s1" "s2"
      hnext 0 131072
  have hwritten : writtenBetween trackedDisk h.trace "s1" (.snapshot "s2") = [⟨0, 512⟩] := by
    decide +kernel
  rw [hwritten] at htold
  refine ⟨(htold 5 (by decide)).2 ⟨_, List.mem_singleton_self _, 5, ⟨by decide, by decide⟩, rfl⟩, ?_⟩
  rw [← Bool.not_eq_true, htold 65536 (by decide)]
  rintro ⟨w, hw, x, hcovers, hblock⟩
  obtain rfl := List.mem_singleton.1 hw
  obtain ⟨-, hlt⟩ := hcovers
  dsimp only at hlt
  omega

end Cbt

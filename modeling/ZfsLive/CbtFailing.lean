/-
**A capture that fails half-way.**

`Volume.snapshot` swallows the exceptions of the capture.  The capture disables `cbt-active`, copies
its bits into the bitmap of the snapshot, clears it, enables it again, and then exports and saves the
copy.  A command that raises in between leaves what the commands before it have done.

Main definitions:

* `Cbt.Records` — what the file that is saved for a snapshot records;
* `Cbt.Survives` — `cbt-active` records, and no block has gone from it that the file does not record;
* `Cbt.Harmless` — the commands that may raise, told by the schedule of the surroundings.

Main results:

* `Cbt.wp_capture` — the capture from the listing of the bitmaps on, command by command;
* `Cbt.survives_iff` — **the tracking survives a snapshot exactly when what raises is harmless**;
* `Cbt.not_survives_add` — a bitmap that cannot be added stops the tracking.
-/

import ZfsLive.CbtSnapshot

set_option relaxedAutoImplicit false
set_option autoImplicit false

namespace Cbt

open Qemu ChangedBlocks Wp

/-! ### Dirty blocks that survive a failure -/

/-- A bitmap of a node of a process. -/
def bitmapOf (p : Process) (node name : String) : Option Bitmap :=
  (p.nodes.get? node).bind fun bs => bs.get? name

/-- The file that is saved for a snapshot records block `k`: it names an export of the process that
shows the bitmap of the snapshot, and the block is dirty there. -/
def Records (qd : QemuDisk) (sr snap_uuid : String) (h : Host) (k : ℕ) : Prop :=
  ∃ data payload nbd name p frz,
    h.pickles.get? ("file://" ++ sr, snap_uuid) = some (some (.dict data)) ∧
    data.get? (frozenName snap_uuid) = some (.dict payload) ∧ payload.nbd_export = some nbd ∧
    nbd.export_name = some name ∧ h.processes.get? qd.qmp_sock = some p ∧
    p.exports.get? name = some ⟨qd.block_node_name, some (frozenName snap_uuid)⟩ ∧
    bitmapOf p qd.block_node_name (frozenName snap_uuid) = some frz ∧ k ∈ frz.dirty

/-- The tracking bitmap of the node records, and every block of `dirty` is in it or is recorded by the
file of the snapshot. -/
def Survives (qd : QemuDisk) (sr snap_uuid : String) (dirty : List ℕ) (h : Host) : Prop :=
  ∃ p act, h.processes.get? qd.qmp_sock = some p ∧
    bitmapOf p qd.block_node_name CBT_ACTIVE_BITMAP = some act ∧ act.recording = true ∧
    ∀ k ∈ dirty, k ∈ act.dirty ∨ Records qd sr snap_uuid h k

section

variable (E : Env) (qd : QemuDisk)

/-- The writes that reach the node in hand before the commands from number `m` up to number `n`. -/
def between (m n : ℕ) : List Write := (List.range' m (n - m)).flatMap (E.reach qd)

/-- The number of commands of a capture after the listing of the bitmaps: the NBD server of xenopsd's
processes has to be started. -/
def captureLength (running : Bool) : ℕ := if running then 9 else 10

/-- Command `i` of a capture raises, counted from the listing of the bitmaps: the surroundings say so,
or an export is to be added to an NBD server that does not run. -/
def Fails (c : ℕ) (running : Bool) (nbd : Option String) (i : ℕ) : Prop :=
  E.fault (c + i) = true ∨ i + 1 = captureLength running ∧ running = true ∧ nbd = none

/-- A failure of command `j` is harmless: it is the listing, the first `disable` where it was not
executed, or a command from the executed `enable` on, where the guest writes all blocks of `dirty`
again. -/
def HarmlessAt (c : ℕ) (granularity : ℕ) (dirty : List ℕ) (j : ℕ) : Prop :=
  j = 0 ∨ j = 1 ∧ E.executed (c + 1) = false ∨
    (j = 5 ∧ E.executed (c + 5) = true ∨ 6 ≤ j) ∧
      ∀ k ∈ dirty, Touched (between E qd (c + 6) (c + j + 1)) granularity k

/-- No command of the capture raises, or the first one that does is harmless. -/
def Harmless (c : ℕ) (running : Bool) (nbd : Option String) (granularity : ℕ) (dirty : List ℕ) :
    Prop :=
  (∀ i ≤ captureLength running, ¬ Fails E c running nbd i) ∨
    ∃ j ≤ captureLength running, Fails E c running nbd j ∧ (∀ i < j, ¬ Fails E c running nbd i) ∧
      HarmlessAt E qd c granularity dirty j

end

/-! ### Processes -/

variable {E : Env} {h h' : Host} {qd : QemuDisk} {p p' : Process} {node name sr snap_uuid : String}
  {c : ℕ} {running : Bool} {nbd : Option String} {g : ℕ} {dirty : List ℕ}

theorem bitmapOf_arrive (s : String) (ws : List GuestWrite) (p : Process) (node name : String) :
    bitmapOf (arrive s ws p) node name =
      (bitmapOf p node name).map fun b => b.recordAll (arriving s node ws) := by
  rw [bitmapOf, get?_nodes_arrive, bitmapOf]
  rcases p.nodes.get? node with _ | bs
  · rfl
  · exact Bitmaps.get?_recordAll ..

/-- A change of the bitmaps of a node that goes through. -/
theorem exec_onNode {f : Bitmaps → Except QmpError Bitmaps} {bs bs' : Bitmaps}
    (hbs : p.nodes.get? node = some bs) (hf : f bs = .ok bs') :
    p.onNode node f = .ok { p with nodes := p.nodes.set node bs' } := by
  simp only [Process.onNode, hbs, hf]

theorem bitmapOf_set (bs' : Bitmaps) (name : String) :
    bitmapOf { p with nodes := p.nodes.set node bs' } node name = bs'.get? name := by
  change ((p.nodes.set node bs').get? node).bind _ = _
  rw [Dict.get?_set, if_pos rfl]
  rfl

/-- What a process has, as far as the capture goes: the tracking bitmap, the bitmap of the snapshot,
its NBD server and the export of the snapshot. -/
structure Looks (qd : QemuDisk) (snap_uuid : String) (p : Process) (act : Bitmap)
    (frz : Option Bitmap) (nbd : Option String) (shown : Option Export) : Prop where
  act : bitmapOf p qd.block_node_name CBT_ACTIVE_BITMAP = some act
  frz : bitmapOf p qd.block_node_name (frozenName snap_uuid) = frz
  nbd : p.nbd_server = nbd
  shown : p.exports.get? ("cbt_" ++ frozenName snap_uuid) = shown

variable {act : Bitmap} {frz : Option Bitmap} {shown : Option Export}

theorem Looks.arrive (hl : Looks qd snap_uuid p act frz nbd shown) (ws : List GuestWrite) :
    Looks qd snap_uuid (arrive qd.qmp_sock ws p)
      (act.recordAll (arriving qd.qmp_sock qd.block_node_name ws))
      (frz.map fun b => b.recordAll (arriving qd.qmp_sock qd.block_node_name ws)) nbd shown := by
  obtain ⟨_, hn, he⟩ := arrive_frame (s := qd.qmp_sock) ws p
  refine ⟨?_, ?_, hn.trans hl.nbd, by rw [he]; exact hl.shown⟩
  · rw [bitmapOf_arrive, hl.act]
    rfl
  · rw [bitmapOf_arrive, hl.frz]

/-- The node in hand exists. -/
theorem Looks.exists_node (hl : Looks qd snap_uuid p act frz nbd shown) :
    ∃ bs, p.nodes.get? qd.block_node_name = some bs ∧ bs.get? CBT_ACTIVE_BITMAP = some act ∧
      bs.get? (frozenName snap_uuid) = frz := by
  have hact := hl.act
  have hfrz := hl.frz
  rw [bitmapOf] at hact hfrz
  rcases hbs : p.nodes.get? qd.block_node_name with _ | bs
  · rw [hbs] at hact
    cases hact
  · rw [hbs] at hact hfrz
    exact ⟨bs, rfl, hact, hfrz⟩

/-- **A command that changes the bitmaps of the node in hand**, and what the process looks like
afterwards. -/
theorem Looks.onNode (hl : Looks qd snap_uuid p act frz nbd shown)
    {f : Bitmaps → Except QmpError Bitmaps} {act' : Bitmap} {frz' : Option Bitmap}
    (hf : ∀ bs, bs.get? CBT_ACTIVE_BITMAP = some act → bs.get? (frozenName snap_uuid) = frz →
      ∃ bs', f bs = .ok bs' ∧ bs'.get? CBT_ACTIVE_BITMAP = some act' ∧
        bs'.get? (frozenName snap_uuid) = frz') :
    ∃ p', p.onNode qd.block_node_name f = .ok p' ∧ Looks qd snap_uuid p' act' frz' nbd shown := by
  obtain ⟨bs, hbs, hact, hfrz⟩ := hl.exists_node
  obtain ⟨bs', hf', hact', hfrz'⟩ := hf bs hact hfrz
  refine ⟨_, exec_onNode hbs hf', ?_, ?_, hl.nbd, hl.shown⟩
  · rw [bitmapOf_set, hact']
  · rw [bitmapOf_set, hfrz']

/-! ### Commands that may raise -/

/-- One command has passed. -/
structure Passed (h h' : Host) : Prop where
  clock : h'.clock = h.clock + 1
  pickles : h'.pickles = h.pickles
  running : h'.nbd_server_running = h.nbd_server_running

/-- **A command that the process would not refuse**: it returns, or it raises, and then it was executed
or not. -/
theorem wp_unrefused {s : String} {cmd : Command} {Q : Process → Host → Prop}
    {X : QmpError → Host → Prop} (hp : h.processes.get? s = some p)
    (hexec : (arrive s (E.writes h.clock) p).exec cmd = .ok p')
    (hok : E.fault h.clock = false → ∀ h', h'.processes.get? s = some p' → Passed h h' → Q p' h')
    (herr : E.fault h.clock = true → ∀ h', h'.processes.get? s =
      some (if E.executed h.clock then p' else arrive s (E.writes h.clock) p) → Passed h h' →
      X .failed h') : wp (qmpCommand E s cmd) Q X h := by
  cases hfault : E.fault h.clock with
  | false =>
      exact wp_qmpCommand hfault hp hexec fun h' hp' hk hpk _ =>
        hok hfault h' hp' ⟨hk.clock, hpk, hk.running⟩
  | true =>
      obtain ⟨-, -, hk, hf, -⟩ := foldl_guestWrite (s := s) (E.writes h.clock) h
      let asked : Host := { h.next E with trace := .command s cmd :: (h.next E).trace }
      have hasked : asked.processes.get? s = some (arrive s (E.writes h.clock) p) := by
        change (h.next E).processes.get? s = _
        rw [get?_next, hp]
        rfl
      have hres : qmpCommand E s cmd h = .error .failed
          (if E.executed h.clock then asked.execute s cmd else asked) := by
        simp only [qmpCommand, hfault, if_true]
        rfl
      refine (wp_of_error hres).2 (herr hfault _ ?_ ?_)
      · split
        · simp only [Host.execute, hasked, hexec]
          exact (Dict.get?_set ..).trans (if_pos rfl)
        · exact hasked
      · split
        · obtain ⟨-, -, hk', hf', hc', -⟩ := execute_frame asked s cmd
          exact ⟨hc', hk'.trans hk, hf'.trans hf⟩
        · exact ⟨rfl, hk, hf⟩

/-- The state of a capture before command `i`. -/
structure Stage (c : ℕ) (qd : QemuDisk) (sr snap_uuid : String) (i : ℕ) (act : Bitmap)
    (frz : Option Bitmap) (nbd : Option String) (shown : Option Export) (running : Bool)
    (h : Host) : Prop where
  process : ∃ p, h.processes.get? qd.qmp_sock = some p ∧ Looks qd snap_uuid p act frz nbd shown
  clock : h.clock = c + i
  unsaved : h.pickles.get? ("file://" ++ sr, snap_uuid) = none
  running : h.nbd_server_running = running

section

variable {i : ℕ} {Q : Process → Host → Prop} {X : QmpError → Host → Prop} {cmd : Command}

/-- **A command that changes the bitmaps of the node in hand, or raises.** -/
theorem Stage.onNode (hs : Stage c qd sr snap_uuid i act frz nbd shown running h)
    {f : Bitmaps → Except QmpError Bitmaps} {act' : Bitmap} {frz' : Option Bitmap}
    (hc : ∀ p : Process, p.exec cmd = p.onNode qd.block_node_name f)
    (hf : ∀ bs, bs.get? CBT_ACTIVE_BITMAP = some (act.recordAll (E.reach qd (c + i))) →
      bs.get? (frozenName snap_uuid) = frz.map (fun b => b.recordAll (E.reach qd (c + i))) →
      ∃ bs', f bs = .ok bs' ∧ bs'.get? CBT_ACTIVE_BITMAP = some act' ∧
        bs'.get? (frozenName snap_uuid) = frz')
    (hok : E.fault (c + i) = false → ∀ p' h',
      Stage c qd sr snap_uuid (i + 1) act' frz' nbd shown running h' → Q p' h')
    (herr : E.fault (c + i) = true → ∀ h', Stage c qd sr snap_uuid (i + 1)
      (if E.executed (c + i) then act' else act.recordAll (E.reach qd (c + i)))
      (if E.executed (c + i) then frz' else frz.map fun b => b.recordAll (E.reach qd (c + i)))
      nbd shown running h' → X .failed h') : wp (qmpCommand E qd.qmp_sock cmd) Q X h := by
  obtain ⟨p, hp, hl⟩ := hs.process
  have hl' := hl.arrive (E.writes h.clock)
  rw [hs.clock] at hl'
  obtain ⟨p', hexec, hlook⟩ := hl'.onNode hf
  rw [← hs.clock] at hok herr
  refine wp_unrefused hp (by rw [hc, hs.clock]; exact hexec) (fun hfault h' hp' hm => ?_)
    fun hfault h' hp' hm => ?_
  · refine hok hfault p' h' ⟨⟨p', hp', hlook⟩, ?_, ?_, hm.running.trans hs.running⟩
    · rw [hm.clock, hs.clock, Nat.add_assoc]
    · rw [hm.pickles, hs.unsaved]
  · refine herr hfault h' ⟨⟨_, hp', ?_⟩, ?_, ?_, hm.running.trans hs.running⟩
    · split
      · exact hlook
      · rw [hs.clock]
        exact hl'
    · rw [hm.clock, hs.clock, Nat.add_assoc]
    · rw [hm.pickles, hs.unsaved]

/-- A command that changes nothing, or raises. -/
theorem Stage.query (hs : Stage c qd sr snap_uuid i act frz nbd shown running h)
    (hc : ∀ p : Process, p.exec cmd = .ok p)
    (hok : E.fault (c + i) = false → ∀ p' h', Looks qd snap_uuid p'
        (act.recordAll (E.reach qd (c + i))) (frz.map fun b => b.recordAll (E.reach qd (c + i)))
        nbd shown →
      Stage c qd sr snap_uuid (i + 1) (act.recordAll (E.reach qd (c + i)))
        (frz.map fun b => b.recordAll (E.reach qd (c + i))) nbd shown running h' → Q p' h')
    (herr : E.fault (c + i) = true → ∀ h', Stage c qd sr snap_uuid (i + 1)
      (act.recordAll (E.reach qd (c + i))) (frz.map fun b => b.recordAll (E.reach qd (c + i)))
      nbd shown running h' → X .failed h') : wp (qmpCommand E qd.qmp_sock cmd) Q X h := by
  obtain ⟨p, hp, hl⟩ := hs.process
  have hl' := hl.arrive (E.writes h.clock)
  rw [hs.clock] at hl'
  have hstage : ∀ h', h'.processes.get? qd.qmp_sock = some (arrive qd.qmp_sock (E.writes h.clock) p) →
      Passed h h' → Stage c qd sr snap_uuid (i + 1) (act.recordAll (E.reach qd (c + i)))
        (frz.map fun b => b.recordAll (E.reach qd (c + i))) nbd shown running h' := by
    intro h' hp' hm
    refine ⟨⟨_, hp', by rw [hs.clock]; exact hl'⟩, ?_, ?_, hm.running.trans hs.running⟩
    · rw [hm.clock, hs.clock, Nat.add_assoc]
    · rw [hm.pickles, hs.unsaved]
  rw [← hs.clock] at hok herr
  refine wp_unrefused hp (hc _) (fun hfault h' hp' hm => ?_) fun hfault h' hp' hm => ?_
  · refine hok hfault _ h' ?_ ?_
    · rw [hs.clock]
      exact hl'
    · rw [hs.clock]
      exact hstage h' hp' hm
  · rw [ite_self] at hp'
    refine herr hfault h' ?_
    rw [hs.clock]
    exact hstage h' hp' hm

end

/-- **A command that the process refuses.** -/
theorem wp_refused {s : String} {cmd : Command} {e : QmpError} {Q : Process → Host → Prop}
    {X : QmpError → Host → Prop} (hp : h.processes.get? s = some p)
    (hexec : (arrive s (E.writes h.clock) p).exec cmd = .error e)
    (hX : ∀ e' h', (E.fault h.clock = true → e' = .failed) → (E.fault h.clock = false → e' = e) →
      h'.processes.get? s = some (arrive s (E.writes h.clock) p) → Passed h h' → X e' h') :
    wp (qmpCommand E s cmd) Q X h := by
  obtain ⟨-, -, hk, hf, -⟩ := foldl_guestWrite (s := s) (E.writes h.clock) h
  let asked : Host := { h.next E with trace := .command s cmd :: (h.next E).trace }
  have hasked : asked.processes.get? s = some (arrive s (E.writes h.clock) p) := by
    change (h.next E).processes.get? s = _
    rw [get?_next, hp]
    rfl
  have hexecute : asked.execute s cmd = asked := by simp only [Host.execute, hasked, hexec]
  cases hfault : E.fault h.clock with
  | false =>
      have hres : qmpCommand E s cmd h = .error e asked := by
        simp only [qmpCommand, hfault, Bool.false_eq_true, if_false]
        simp only [asked] at hasked
        simp only [hasked, hexec]
        rfl
      refine (wp_of_error hres).2 (hX _ _ ?_ (fun _ => rfl) hasked ⟨rfl, hk, hf⟩)
      rw [hfault]
      intro hno
      cases hno
  | true =>
      have hres : qmpCommand E s cmd h = .error .failed asked := by
        simp only [qmpCommand, hfault, if_true]
        change EStateM.Result.error _ (if E.executed h.clock then asked.execute s cmd else asked) = _
        rw [hexecute, ite_self]
      refine (wp_of_error hres).2 (hX _ _ (fun _ => rfl) ?_ hasked ⟨rfl, hk, hf⟩)
      rw [hfault]
      intro hno
      cases hno

/-! ### What the commands do to the two bitmaps -/

section

variable {bs : Bitmaps} {a b : Bitmap}

theorem onBitmap_active (f : Bitmap → Bitmap) (ha : bs.get? CBT_ACTIVE_BITMAP = some a) :
    ∃ bs', onBitmap node CBT_ACTIVE_BITMAP f bs = .ok bs' ∧
      bs'.get? CBT_ACTIVE_BITMAP = some (f a) ∧
      bs'.get? (frozenName snap_uuid) = bs.get? (frozenName snap_uuid) := by
  refine ⟨_, onBitmap_ok f ha, ?_, ?_⟩
  · rw [Dict.get?_set, if_pos rfl]
  · rw [Dict.get?_set, if_neg (frozenName_ne snap_uuid)]

theorem onBitmap_frozen (f : Bitmap → Bitmap) (hb : bs.get? (frozenName snap_uuid) = some b) :
    ∃ bs', onBitmap node (frozenName snap_uuid) f bs = .ok bs' ∧
      bs'.get? CBT_ACTIVE_BITMAP = bs.get? CBT_ACTIVE_BITMAP ∧
      bs'.get? (frozenName snap_uuid) = some (f b) := by
  refine ⟨_, onBitmap_ok f hb, ?_, ?_⟩
  · rw [Dict.get?_set, if_neg (frozenName_ne snap_uuid).symm]
  · rw [Dict.get?_set, if_pos rfl]

theorem addBitmap_frozen (hg : 0 < g) (hb : bs.get? (frozenName snap_uuid) = none) :
    ∃ bs', addBitmap node (frozenName snap_uuid) g bs = .ok bs' ∧
      bs'.get? CBT_ACTIVE_BITMAP = bs.get? CBT_ACTIVE_BITMAP ∧
      bs'.get? (frozenName snap_uuid) = some ⟨g, hg, true, []⟩ := by
  refine ⟨_, addBitmap_ok hb hg, ?_, ?_⟩
  · rw [Dict.get?_set, if_neg (frozenName_ne snap_uuid).symm]
  · rw [Dict.get?_set, if_pos rfl]

theorem mergeBitmaps_frozen (ha : bs.get? CBT_ACTIVE_BITMAP = some a)
    (hb : bs.get? (frozenName snap_uuid) = some b) (hg : a.granularity = b.granularity) :
    ∃ bs', mergeBitmaps node (frozenName snap_uuid) [CBT_ACTIVE_BITMAP] bs = .ok bs' ∧
      bs'.get? CBT_ACTIVE_BITMAP = bs.get? CBT_ACTIVE_BITMAP ∧
      bs'.get? (frozenName snap_uuid) = some { b with dirty := a.dirty ++ b.dirty } := by
  refine ⟨_, mergeBitmaps_ok hb ha hg, ?_, ?_⟩
  · rw [Dict.get?_set, if_neg (frozenName_ne snap_uuid).symm]
  · rw [Dict.get?_set, if_pos rfl]

end

/-- A command on the tracking bitmap. -/
theorem Stage.onActive {i : ℕ} {Q : Process → Host → Prop} {X : QmpError → Host → Prop}
    {cmd : Command} (hs : Stage c qd sr snap_uuid i act frz nbd shown running h) (f : Bitmap → Bitmap)
    (hc : ∀ p : Process,
      p.exec cmd = p.onNode qd.block_node_name (onBitmap qd.block_node_name CBT_ACTIVE_BITMAP f))
    (hok : E.fault (c + i) = false → ∀ p' h', Stage c qd sr snap_uuid (i + 1)
      (f (act.recordAll (E.reach qd (c + i)))) (frz.map fun b => b.recordAll (E.reach qd (c + i)))
      nbd shown running h' → Q p' h')
    (herr : E.fault (c + i) = true → ∀ h', Stage c qd sr snap_uuid (i + 1)
      (if E.executed (c + i) then f (act.recordAll (E.reach qd (c + i)))
        else act.recordAll (E.reach qd (c + i)))
      (frz.map fun b => b.recordAll (E.reach qd (c + i))) nbd shown running h' → X .failed h') :
    wp (qmpCommand E qd.qmp_sock cmd) Q X h := by
  refine hs.onNode hc (fun bs ha hb => ?_) hok fun hfault h' hs' => ?_
  · obtain ⟨bs', hok, ha', hb'⟩ := onBitmap_active f ha
    exact ⟨bs', hok, ha', hb'.trans hb⟩
  · rw [ite_self] at hs'
    exact herr hfault h' hs'

/-- A command on the bitmap of the snapshot. -/
theorem Stage.onFrozen {i : ℕ} {Q : Process → Host → Prop} {X : QmpError → Host → Prop}
    {cmd : Command} (hs : Stage c qd sr snap_uuid i act frz nbd shown running h) (b' : Bitmap)
    {f : Bitmaps → Except QmpError Bitmaps} (hc : ∀ p : Process, p.exec cmd = p.onNode qd.block_node_name f)
    (hf : ∀ bs, bs.get? CBT_ACTIVE_BITMAP = some (act.recordAll (E.reach qd (c + i))) →
      bs.get? (frozenName snap_uuid) = frz.map (fun b => b.recordAll (E.reach qd (c + i))) →
      ∃ bs', f bs = .ok bs' ∧ bs'.get? CBT_ACTIVE_BITMAP = bs.get? CBT_ACTIVE_BITMAP ∧
        bs'.get? (frozenName snap_uuid) = some b')
    (hok : E.fault (c + i) = false → ∀ p' h', Stage c qd sr snap_uuid (i + 1)
      (act.recordAll (E.reach qd (c + i))) (some b') nbd shown running h' → Q p' h')
    (herr : E.fault (c + i) = true → ∀ h' o, o = some b' ∨
        o = frz.map (fun b => b.recordAll (E.reach qd (c + i))) →
      Stage c qd sr snap_uuid (i + 1) (act.recordAll (E.reach qd (c + i))) o nbd shown running h' →
      X .failed h') : wp (qmpCommand E qd.qmp_sock cmd) Q X h := by
  refine hs.onNode hc (fun bs ha hb => ?_) hok fun hfault h' hs' => ?_
  · obtain ⟨bs', hok, ha', hb'⟩ := hf bs ha hb
    exact ⟨bs', hok, ha'.trans ha, hb'⟩
  · rw [ite_self] at hs'
    refine herr hfault h' _ ?_ hs'
    split
    · exact .inl rfl
    · exact .inr rfl

/-! ### What a failure leaves -/

section

variable {i : ℕ}

theorem captureLength_ge (running : Bool) : 9 ≤ captureLength running := by
  cases running <;> decide

theorem not_fails (hf : E.fault (c + i) = false) (hi : i + 1 ≠ captureLength running) :
    ¬ Fails E c running nbd i := by
  rintro (h | ⟨h, -⟩)
  · rw [hf] at h
    cases h
  · exact hi h

/-- One more command has gone through. -/
theorem forall_lt_succ {P : ℕ → Prop} (h : ∀ j < i, P j) (hi : P i) : ∀ j < i + 1, P j := by
  intro j hj
  rcases Nat.lt_succ_iff_lt_or_eq.1 hj with hj | rfl
  · exact h j hj
  · exact hi

/-- The first failure decides. -/
theorem harmless_iff_at (hi : i ≤ captureLength running) (hf : Fails E c running nbd i)
    (hlt : ∀ j < i, ¬ Fails E c running nbd j) :
    Harmless E qd c running nbd g dirty ↔ HarmlessAt E qd c g dirty i := by
  constructor
  · rintro (hnone | ⟨j, -, hj, hbefore, hat⟩)
    · exact absurd hf (hnone i hi)
    · obtain rfl : j = i := by
        rcases Nat.lt_trichotomy j i with h | h | h
        · exact absurd hj (hlt j h)
        · exact h
        · exact absurd hf (hbefore i h)
      exact hat
  · exact fun hat => .inr ⟨i, hi, hf, hlt, hat⟩

/-- A tracking bitmap that is disabled does not survive. -/
theorem Stage.dead (hs : Stage c qd sr snap_uuid i act frz nbd shown running h)
    (hrec : act.recording = false) : ¬ Survives qd sr snap_uuid dirty h := by
  rintro ⟨p', act', hp', hact', hrec', -⟩
  obtain ⟨p, hp, hl⟩ := hs.process
  rw [hp] at hp'
  cases hp'
  rw [hl.act] at hact'
  cases hact'
  rw [hrec] at hrec'
  cases hrec'

/-- A tracking bitmap that still has its bits survives. -/
theorem Stage.alive (hs : Stage c qd sr snap_uuid i act frz nbd shown running h)
    (hrec : act.recording = true) (hsub : ∀ k ∈ dirty, k ∈ act.dirty) :
    Survives qd sr snap_uuid dirty h := by
  obtain ⟨p, hp, hl⟩ := hs.process
  exact ⟨p, act, hp, hl.act, hrec, fun k hk => .inl (hsub k hk)⟩

/-- Without a file, the tracking bitmap itself must have the bits. -/
theorem Stage.survives_iff_unsaved (hs : Stage c qd sr snap_uuid i act frz nbd shown running h)
    (hrec : act.recording = true) :
    Survives qd sr snap_uuid dirty h ↔ ∀ k ∈ dirty, k ∈ act.dirty := by
  refine ⟨?_, hs.alive hrec⟩
  rintro ⟨p', act', hp', hact', -, hall⟩ k hk
  obtain ⟨p, hp, hl⟩ := hs.process
  rw [hp] at hp'
  cases hp'
  rw [hl.act] at hact'
  cases hact'
  rcases hall k hk with h | ⟨_, _, _, _, _, _, hfile, -⟩
  · exact h
  · rw [hs.unsaved] at hfile
    cases hfile

end

theorem between_self (n : ℕ) : between E qd n n = [] := by
  simp [between]

theorem between_succ {m n : ℕ} (hmn : m ≤ n) :
    between E qd m (n + 1) = between E qd m n ++ E.reach qd n := by
  rw [between, between, Nat.succ_sub hmn, List.range'_concat, List.flatMap_append]
  simp [Nat.add_sub_cancel' hmn]

/-! ### From the enabling on -/

/-- The tracking survives exactly when what raised was harmless. -/
def Told (E : Env) (qd : QemuDisk) (sr snap_uuid : String) (c : ℕ) (running : Bool)
    (nbd : Option String) (g : ℕ) (dirty : List ℕ) (h : Host) : Prop :=
  Survives qd sr snap_uuid dirty h ↔ Harmless E qd c running nbd g dirty

/-- The state before command `i`, after the enabling: the tracking bitmap has the blocks that were
written since, and the bitmap of the snapshot has those of `dirty`. -/
structure Late (E : Env) (c : ℕ) (qd : QemuDisk) (sr snap_uuid : String) (g : ℕ) (dirty : List ℕ)
    (i : ℕ) (act frz : Bitmap) (nbd : Option String) (shown : Option Export) (running : Bool)
    (h : Host) : Prop where
  stage : Stage c qd sr snap_uuid i act (some frz) nbd shown running h
  recording : act.recording = true
  granularity : act.granularity = g
  act : ∀ k, k ∈ act.dirty ↔ Touched (between E qd (c + 6) (c + i)) g k
  frz : ∀ k ∈ dirty, k ∈ frz.dirty

section

variable {i : ℕ} {act frz : Bitmap} {shown shown' : Option Export} {nbd' nbd'' : Option String}
  {flag : Bool}

/-- The tracking bitmap records the writes before the next command. -/
theorem Late.next (hl : Late E c qd sr snap_uuid g dirty i act frz nbd' shown running h)
    (hi : 6 ≤ i) {frz' : Bitmap}
    (hs : Stage c qd sr snap_uuid (i + 1) (act.recordAll (E.reach qd (c + i))) (some frz') nbd''
      shown' flag h') (hfrz : ∀ k ∈ frz.dirty, k ∈ frz'.dirty) :
    Late E c qd sr snap_uuid g dirty (i + 1) (act.recordAll (E.reach qd (c + i))) frz' nbd''
      shown' flag h' where
  stage := hs
  recording := (Bitmap.recording_recordAll ..).trans hl.recording
  granularity := (Bitmap.granularity_recordAll ..).trans hl.granularity
  act := by
    intro k
    rw [Bitmap.mem_dirty_recordAll, hl.act, hl.granularity, ← Nat.add_assoc, between_succ (by omega),
      touched_append]
    simp [hl.recording]
  frz := fun k hk => hfrz k (hl.frz k hk)

/-- A failure after the enabling. -/
theorem Late.told (hl : Late E c qd sr snap_uuid g dirty (i + 1) act frz nbd' shown flag h)
    (hi : i = 5 ∧ E.executed (c + 5) = true ∨ 6 ≤ i) (hle : i ≤ captureLength running) (hf : Fails E c running nbd i)
    (hlt : ∀ j < i, ¬ Fails E c running nbd j) :
    Told E qd sr snap_uuid c running nbd g dirty h := by
  rw [Told, harmless_iff_at hle hf hlt, hl.stage.survives_iff_unsaved hl.recording]
  have hne : i ≠ 0 ∧ i ≠ 1 := by omega
  simp only [HarmlessAt, hne.1, hne.2, false_and, false_or, hi, true_and, hl.act, Nat.add_assoc]

theorem mem_dirty_recordAll_of_mem {b : Bitmap} (ws : List Write) {k : ℕ} (hk : k ∈ b.dirty) :
    k ∈ (b.recordAll ws).dirty :=
  Bitmap.mem_dirty_recordAll.2 (.inl hk)

/-- **The last step: the file is saved.** -/
theorem wp_save (hl : Late E c qd sr snap_uuid g dirty (captureLength running) act frz nbd'
      (some ⟨qd.block_node_name, some (frozenName snap_uuid)⟩) flag h)
    (hlt : ∀ j < captureLength running, ¬ Fails E c running nbd j) {payload : BitmapPayload}
    (hpayload : payload.nbd_export = some (descriptor qd (frozenName snap_uuid))) :
    wp (saveCbtMetadata E ("file://" ++ sr) snap_uuid
        (Dict.empty.set (frozenName snap_uuid) (.dict payload)))
      (fun _ => Told E qd sr snap_uuid c running nbd g dirty)
      (fun _ => Told E qd sr snap_uuid c running nbd g dirty) h := by
  obtain ⟨p, hp, hlook⟩ := hl.stage.process
  have hp' : (h.next E).processes.get? qd.qmp_sock = some (arrive qd.qmp_sock (E.writes h.clock) p) := by
    rw [get?_next, hp]
    rfl
  have hlook' := hlook.arrive (E.writes h.clock)
  rw [hl.stage.clock] at hlook' hp'
  have hge := captureLength_ge running
  cases hfault : E.fault (c + captureLength running) with
  | true =>
      have hres : saveCbtMetadata E ("file://" ++ sr) snap_uuid
          (Dict.empty.set (frozenName snap_uuid) (.dict payload)) h = .error .failed (h.next E) := by
        rw [saveCbtMetadata, fileCommand]
        simp only [hl.stage.clock, hfault, if_true]
      have hstage : Stage c qd sr snap_uuid (captureLength running + 1)
          (act.recordAll (E.reach qd (c + captureLength running)))
          (some (frz.recordAll (E.reach qd (c + captureLength running)))) nbd'
          (some ⟨qd.block_node_name, some (frozenName snap_uuid)⟩) flag (h.next E) := by
        refine ⟨⟨_, hp', hlook'⟩, ?_, ?_, ?_⟩
        · change h.clock + 1 = _
          rw [hl.stage.clock, Nat.add_assoc]
        · rw [pickles_next]
          exact hl.stage.unsaved
        · exact (foldl_guestWrite (s := "") (E.writes h.clock) h).2.2.2.1.trans hl.stage.running
      have hnext := hl.next (by omega) hstage fun k hk => mem_dirty_recordAll_of_mem _ hk
      exact (wp_of_error hres).2 (hnext.told (.inr (by omega)) le_rfl (.inl hfault) hlt)
  | false =>
      refine wp_fileCommand (by rw [hl.stage.clock]; exact hfault) rfl ?_
      have hnone : ∀ j ≤ captureLength running, ¬ Fails E c running nbd j := by
        intro j hj
        rcases Nat.lt_or_eq_of_le hj with hj | rfl
        · exact hlt j hj
        · exact not_fails hfault (by omega)
      refine iff_of_true ?_ (.inl hnone)
      refine ⟨_, _, hp', hlook'.act, (Bitmap.recording_recordAll ..).trans hl.recording,
        fun k hk => .inr ?_⟩
      refine ⟨Dict.empty.set (frozenName snap_uuid) (.dict payload), payload, _, _, _, _, ?_, ?_,
        hpayload, rfl, hp', hlook'.shown, hlook'.frz, mem_dirty_recordAll_of_mem _ (hl.frz k hk)⟩
      · change (Dict.set ..).get? _ = _
        rw [Dict.get?_set, if_pos rfl]
      · rw [Dict.get?_set, if_pos rfl]

/-- Adding the export, and saving the file. -/
theorem wp_addExport (running : Bool) (hl : Late E c qd sr snap_uuid g dirty (captureLength running - 1) act frz nbd'
      none flag h) (hlt : ∀ j < captureLength running - 1, ¬ Fails E c running nbd j)
    (hnbd : nbd' = none → running = true ∧ nbd = none)
    (hnbd' : running = true → nbd = none → nbd' = none) {granularity : Option ℤ} {count : ℕ} :
    wp (do
        let _ ← qmpCommand E qd.qmp_sock (.nbdServerAdd qd.block_node_name
          ("cbt_" ++ frozenName snap_uuid) (frozenName snap_uuid))
        saveCbtMetadata E ("file://" ++ sr) snap_uuid (Dict.empty.set (frozenName snap_uuid)
          (.dict ⟨frozenName snap_uuid, granularity, count,
            some (descriptor qd (frozenName snap_uuid))⟩)))
      (fun _ => Told E qd sr snap_uuid c running nbd g dirty)
      (fun _ => Told E qd sr snap_uuid c running nbd g dirty) h := by
  have hge := captureLength_ge running
  obtain ⟨i, hi⟩ : ∃ i, captureLength running = i + 1 := ⟨captureLength running - 1, by omega⟩
  rw [hi, Nat.add_sub_cancel] at hl hlt
  obtain ⟨p, hp, hlook⟩ := hl.stage.process
  have hlook' := hlook.arrive (E.writes h.clock)
  rw [hl.stage.clock] at hlook'
  obtain ⟨bs, hbs, hact, hfrz⟩ := hlook'.exists_node
  -- the state after the command, for a process that looks like this
  have hnext : ∀ (h' : Host) p' nbd'' shown', h'.processes.get? qd.qmp_sock = some p' →
      Looks qd snap_uuid p' (act.recordAll (E.reach qd (c + i)))
        (some (frz.recordAll (E.reach qd (c + i)))) nbd'' shown' → Passed h h' →
      Late E c qd sr snap_uuid g dirty (i + 1) (act.recordAll (E.reach qd (c + i)))
        (frz.recordAll (E.reach qd (c + i))) nbd'' shown' flag h' := by
    intro h' p' nbd'' shown' hp' hl' hm
    refine hl.next (by omega) ⟨⟨p', hp', hl'⟩, ?_, ?_, hm.running.trans hl.stage.running⟩
      fun k hk => mem_dirty_recordAll_of_mem _ hk
    · rw [hm.clock, hl.stage.clock, Nat.add_assoc]
    · rw [hm.pickles, hl.stage.unsaved]
  rw [wp_bind]
  cases hn : nbd' with
  | none =>
      -- there is no server to add the export to
      obtain ⟨hrunning, hnone⟩ := hnbd hn
      refine wp_refused hp (e := .noServer) ?_ fun e' h' _ _ hp' hm => ?_
      · rw [hl.stage.clock]
        simp only [Process.exec, hlook'.nbd, hn]
      · rw [hl.stage.clock] at hp'
        exact (hnext h' _ _ _ hp' hlook' hm).told (.inr (by omega)) (by omega)
          (.inr ⟨hi.symm, hrunning, hnone⟩) hlt
  | some sock =>
      have hexec : (arrive qd.qmp_sock (E.writes (c + i)) p).exec (.nbdServerAdd qd.block_node_name
          ("cbt_" ++ frozenName snap_uuid) (frozenName snap_uuid)) =
          .ok { arrive qd.qmp_sock (E.writes (c + i)) p with
            exports := (arrive qd.qmp_sock (E.writes (c + i)) p).exports.set
              ("cbt_" ++ frozenName snap_uuid)
              ⟨qd.block_node_name, some (frozenName snap_uuid)⟩ } := by
        simp only [Process.exec, hlook'.nbd, hn, hbs, hfrz, Option.map_some, hlook'.shown]
      have hlooks : Looks qd snap_uuid { arrive qd.qmp_sock (E.writes (c + i)) p with
            exports := (arrive qd.qmp_sock (E.writes (c + i)) p).exports.set
              ("cbt_" ++ frozenName snap_uuid) ⟨qd.block_node_name, some (frozenName snap_uuid)⟩ }
          (act.recordAll (E.reach qd (c + i))) (some (frz.recordAll (E.reach qd (c + i)))) nbd'
          (some ⟨qd.block_node_name, some (frozenName snap_uuid)⟩) :=
        ⟨hlook'.act, hlook'.frz, hlook'.nbd, (Dict.get?_set ..).trans (if_pos rfl)⟩
      refine wp_unrefused hp (by rw [hl.stage.clock]; exact hexec) (fun hfault h' hp' hm => ?_)
        fun hfault h' hp' hm => ?_
      · have hlate := hnext h' _ _ _ hp' hlooks hm
        rw [← hi] at hlate
        refine wp_save hlate ?_ rfl
        rw [hi]
        refine forall_lt_succ hlt ?_
        rintro (hf | ⟨-, hrunning, hnone⟩)
        · rw [← hl.stage.clock, hfault] at hf
          cases hf
        · rw [hnbd' hrunning hnone] at hn
          cases hn
      · rw [hl.stage.clock] at hfault hp'
        have htold : ∀ p' shown', h'.processes.get? qd.qmp_sock = some p' →
            Looks qd snap_uuid p' (act.recordAll (E.reach qd (c + i)))
              (some (frz.recordAll (E.reach qd (c + i)))) nbd' shown' →
            Told E qd sr snap_uuid c running nbd g dirty h' := fun p' shown' hp' hl' =>
          (hnext h' p' nbd' shown' hp' hl' hm).told (.inr (by omega)) (by omega) (.inl hfault) hlt
        split at hp'
        · exact htold _ _ hp' hlooks
        · exact htold _ _ hp' hlook'

/-- Starting the NBD server, unless it runs already. -/
theorem wp_start (hl : Late E c qd sr snap_uuid g dirty 8 act frz nbd none false h)
    (hlt : ∀ j < 8, ¬ Fails E c false nbd j) {Q : Unit → Host → Prop}
    (hQ : ∀ h' act' frz' sock, Late E c qd sr snap_uuid g dirty 9 act' frz' (some sock) none true h' →
      (∀ j < 9, ¬ Fails E c false nbd j) → Q () h') :
    wp (ensureNbdServer E qd) Q (fun _ => Told E qd sr snap_uuid c false nbd g dirty) h := by
  obtain ⟨p, hp, hlook⟩ := hl.stage.process
  have hlook' := hlook.arrive (E.writes h.clock)
  rw [hl.stage.clock] at hlook'
  have hstage : ∀ (h' : Host) p' nbd'' flag', h'.processes.get? qd.qmp_sock = some p' →
      Looks qd snap_uuid p' (act.recordAll (E.reach qd (c + 8)))
        (some (frz.recordAll (E.reach qd (c + 8)))) nbd'' none → h'.clock = h.clock + 1 →
      h'.pickles = h.pickles → h'.nbd_server_running = flag' →
      Late E c qd sr snap_uuid g dirty 9 (act.recordAll (E.reach qd (c + 8)))
        (frz.recordAll (E.reach qd (c + 8))) nbd'' none flag' h' := by
    intro h' p' nbd'' flag' hp' hl' hclock hpk hflag
    refine hl.next (by omega) ⟨⟨p', hp', hl'⟩, ?_, ?_, hflag⟩
      fun k hk => mem_dirty_recordAll_of_mem _ hk
    · rw [hclock, hl.stage.clock, Nat.add_assoc]
    · rw [hpk, hl.stage.unsaved]
  have hfail : ∀ h' p' nbd'', h'.processes.get? qd.qmp_sock = some p' →
      Looks qd snap_uuid p' (act.recordAll (E.reach qd (c + 8)))
        (some (frz.recordAll (E.reach qd (c + 8)))) nbd'' none → Passed h h' →
      E.fault (c + 8) = true → Told E qd sr snap_uuid c false nbd g dirty h' :=
    fun h' p' nbd'' hp' hl' hm hf =>
      (hstage h' p' nbd'' _ hp' hl' hm.clock hm.pickles rfl).told (.inr (by omega)) (by decide)
        (.inl hf) hlt
  have hdone : ∀ h' p' sock, h'.processes.get? qd.qmp_sock = some p' →
      Looks qd snap_uuid p' (act.recordAll (E.reach qd (c + 8)))
        (some (frz.recordAll (E.reach qd (c + 8)))) (some sock) none → Passed h h' →
      E.fault (c + 8) = false → Q () { h' with nbd_server_running := true } :=
    fun h' p' sock hp' hl' hm hf => hQ _ _ _ sock
      (hstage { h' with nbd_server_running := true } p' (some sock) _ hp' hl' hm.clock hm.pickles rfl)
      (forall_lt_succ hlt (not_fails hf (by decide)))
  have hidle : h.nbd_server_running = false := hl.stage.running
  rw [ensureNbdServer]
  simp only [wp_bind, wp_get, hidle, Bool.false_eq_true, if_false, startNbdServer, wp_tryCatch,
    wp_pure, wp_modify]
  cases hn : nbd with
  | none =>
      have hexec : (arrive qd.qmp_sock (E.writes (c + 8)) p).exec (.nbdServerStart qd.nbd_unix_sock) =
          .ok { arrive qd.qmp_sock (E.writes (c + 8)) p with nbd_server := some qd.nbd_unix_sock } := by
        simp only [Process.exec, hlook'.nbd, hn]
      have hlooks : Looks qd snap_uuid
          { arrive qd.qmp_sock (E.writes (c + 8)) p with nbd_server := some qd.nbd_unix_sock }
          (act.recordAll (E.reach qd (c + 8))) (some (frz.recordAll (E.reach qd (c + 8))))
          (some qd.nbd_unix_sock) none := ⟨hlook'.act, hlook'.frz, rfl, hlook'.shown⟩
      refine wp_unrefused hp (by rw [hl.stage.clock]; exact hexec) (fun hfault h' hp' hm => ?_)
        fun hfault h' hp' hm => ?_
      · rw [hl.stage.clock] at hfault
        exact hdone h' _ _ hp' hlooks hm hfault
      · rw [hl.stage.clock] at hfault hp'
        rw [if_neg (by decide), wp_throw]
        rw [← hn]
        split at hp'
        · exact hfail h' _ _ hp' hlooks hm hfault
        · exact hfail h' _ _ hp' hlook' hm hfault
  | some sock =>
      -- a server that runs already is as good
      refine wp_refused hp (e := .serverRunning) ?_ fun e' h' hfail' hdone' hp' hm => ?_
      · rw [hl.stage.clock]
        simp only [Process.exec, hlook'.nbd, hn]
      · rw [hl.stage.clock] at hfail' hdone' hp'
        rw [hn] at hlook'
        cases hf : E.fault (c + 8) with
        | false =>
            rw [hdone' hf, if_pos rfl, wp_pure]
            exact hdone h' _ _ hp' hlook' hm hf
        | true =>
            rw [hfail' hf, if_neg (by decide), wp_throw, ← hn]
            rw [← hn] at hlook'
            exact hfail h' _ _ hp' hlook' hm hf

/-- The NBD server of a daemon runs. -/
theorem wp_ensureNbdServer_running {Q : Unit → Host → Prop} {X : QmpError → Host → Prop}
    (hr : h.nbd_server_running = true) : wp (ensureNbdServer E qd) Q X h ↔ Q () h := by
  rw [ensureNbdServer]
  simp only [wp_bind, wp_get, hr, if_true, wp_pure]

/-- The bitmap is described once it is exported, and the file is saved. -/
theorem wp_describe (hl : Late E c qd sr snap_uuid g dirty 8 act frz nbd none running h)
    (hlt : ∀ j < 8, ¬ Fails E c running nbd j) (info : Bitmap) :
    wp (do
        let shown ← cbtExportBitmap E qd (frozenName snap_uuid)
        saveCbtMetadata E ("file://" ++ sr) snap_uuid (Dict.empty.set (frozenName snap_uuid)
          (.dict ⟨frozenName snap_uuid, some info.granularity,
            info.dirty.eraseDups.length * info.granularity, some shown⟩)))
      (fun _ => Told E qd sr snap_uuid c running nbd g dirty)
      (fun _ => Told E qd sr snap_uuid c running nbd g dirty) h := by
  rw [cbtExportBitmap]
  simp only [bind_assoc, pure_bind]
  cases running with
  | true =>
      rw [wp_bind, wp_ensureNbdServer_running hl.stage.running]
      exact wp_addExport true hl hlt (fun hn => ⟨rfl, hn⟩) fun _ hn => hn
  | false =>
      rw [wp_bind]
      refine wp_start hl hlt fun h' act' frz' sock hl' hlt' =>
        wp_addExport false hl' hlt' (fun hn => ?_) fun hr => ?_
      · cases hn
      · cases hr

/-- **The export of the bitmap of the snapshot, and the file.** -/
theorem wp_export (hl : Late E c qd sr snap_uuid g dirty 6 act frz nbd none running h)
    (hlt : ∀ j < 6, ¬ Fails E c running nbd j) :
    wp (do
        let payload ← exportBitmap E qd (frozenName snap_uuid)
        saveCbtMetadata E ("file://" ++ sr) snap_uuid
          (Dict.empty.set (frozenName snap_uuid) (.dict payload)))
      (fun _ => Told E qd sr snap_uuid c running nbd g dirty)
      (fun _ => Told E qd sr snap_uuid c running nbd g dirty) h := by
  have hge := captureLength_ge running
  rw [exportBitmap, cbtBitmapDisable, cbtListBitmaps]
  simp only [bind_assoc, pure_bind]
  rw [wp_bind]
  -- the bitmap of the snapshot stops recording
  refine hl.stage.onFrozen { frz.recordAll (E.reach qd (c + 6)) with recording := false }
    (fun _ => rfl) (fun bs _ hb => onBitmap_frozen (fun b => { b with recording := false }) hb)
    (fun hf₁ _ h₁ hs₁ => ?_) fun hf₁ h₁ o ho hs₁ => ?_
  · have hl₁ := hl.next (by omega) hs₁ fun k hk => mem_dirty_recordAll_of_mem _ hk
    have hlt₁ := forall_lt_succ hlt (not_fails hf₁ (by omega))
    -- the bitmaps are listed
    rw [wp_bind]
    refine hl₁.stage.query (fun _ => rfl) (fun hf₂ p' h₂ hp₂ hs₂ => ?_) fun hf₂ h₂ hs₂ => ?_
    · have hl₂ := hl₁.next (by omega) hs₂ fun k hk => mem_dirty_recordAll_of_mem _ hk
      obtain ⟨bs, hbs, -, hfrz⟩ := hp₂.exists_node
      have hinfo : (p'.bitmaps qd.block_node_name).get? (frozenName snap_uuid) =
          bs.get? (frozenName snap_uuid) := by
        rw [Process.bitmaps, hbs]
        rfl
      rw [hinfo, hfrz]
      simp only [Option.map_some, bind_assoc, pure_bind]
      exact wp_describe hl₂ (forall_lt_succ hlt₁ (not_fails hf₂ (by omega))) _
    · exact (hl₁.next (by omega) hs₂ fun k hk => mem_dirty_recordAll_of_mem _ hk).told
        (.inr (by omega)) (by omega) (.inl hf₂) hlt₁
  · have htold : ∀ b : Bitmap, (∀ k ∈ frz.dirty, k ∈ b.dirty) → o = some b →
        Told E qd sr snap_uuid c running nbd g dirty h₁ := fun b hsub hb =>
      (hl.next le_rfl (hb ▸ hs₁) hsub).told (.inr le_rfl) (by omega) (.inl hf₁) hlt
    rcases ho with ho | ho
    · exact htold { frz.recordAll (E.reach qd (c + 6)) with recording := false }
        (fun k hk => mem_dirty_recordAll_of_mem (E.reach qd (c + 6)) hk) ho
    · exact htold _ (fun k hk => mem_dirty_recordAll_of_mem _ hk) ho

end

/-! ### Up to the enabling -/

section

variable {i : ℕ} {b frz : Bitmap}

/-- A failure that leaves the tracking bitmap disabled. -/
theorem Stage.told_dead {o : Option Bitmap} {nbd' : Option String} {shown : Option Export}
    (hs : Stage c qd sr snap_uuid (i + 1) act o nbd' shown running h)
    (hrec : act.recording = false) (hle : i ≤ captureLength running) (hf : Fails E c running nbd i)
    (hlt : ∀ j < i, ¬ Fails E c running nbd j) (hat : ¬ HarmlessAt E qd c g dirty i) :
    Told E qd sr snap_uuid c running nbd g dirty h := by
  rw [Told, harmless_iff_at hle hf hlt]
  exact iff_of_false (hs.dead hrec) hat

/-- A failure that leaves the tracking bitmap as it was. -/
theorem Stage.told_alive {o : Option Bitmap} {nbd' : Option String} {shown : Option Export}
    (hs : Stage c qd sr snap_uuid (i + 1) act o nbd' shown running h)
    (hrec : act.recording = true) (hsub : ∀ k ∈ dirty, k ∈ act.dirty)
    (hle : i ≤ captureLength running) (hf : Fails E c running nbd i)
    (hlt : ∀ j < i, ¬ Fails E c running nbd j) (hat : HarmlessAt E qd c g dirty i) :
    Told E qd sr snap_uuid c running nbd g dirty h := by
  rw [Told, harmless_iff_at hle hf hlt]
  exact iff_of_true (hs.alive hrec hsub) hat

/-- In the middle of the capture no failure is harmless. -/
theorem not_harmlessAt (h₂ : 2 ≤ i) (h₅ : i ≤ 5) (he : i = 5 → E.executed (c + 5) = false) :
    ¬ HarmlessAt E qd c g dirty i := by
  rintro (h | ⟨h, -⟩ | ⟨⟨h, hx⟩ | h, -⟩)
  · omega
  · omega
  · rw [he h] at hx
    cases hx
  · omega

theorem mem_dirty_recordAll_of_idle {ws : List Write} {k : ℕ} (hb : b.recording = false) :
    k ∈ (b.recordAll ws).dirty ↔ k ∈ b.dirty := by
  rw [Bitmap.mem_dirty_recordAll, hb]
  simp

/-- **Clearing and enabling.** -/
theorem wp_enable (hs : Stage c qd sr snap_uuid 4 act (some frz) nbd none running h)
    (hrec : act.recording = false) (hg : act.granularity = g) (hsub : ∀ k ∈ dirty, k ∈ frz.dirty)
    (hlt : ∀ j < 4, ¬ Fails E c running nbd j) :
    wp (do
        cbtBitmapClear E qd CBT_ACTIVE_BITMAP
        cbtBitmapEnable E qd CBT_ACTIVE_BITMAP
        let payload ← exportBitmap E qd (frozenName snap_uuid)
        saveCbtMetadata E ("file://" ++ sr) snap_uuid
          (Dict.empty.set (frozenName snap_uuid) (.dict payload)))
      (fun _ => Told E qd sr snap_uuid c running nbd g dirty)
      (fun _ => Told E qd sr snap_uuid c running nbd g dirty) h := by
  have hge := captureLength_ge running
  rw [cbtBitmapClear, cbtBitmapEnable]
  simp only [bind_assoc, pure_bind]
  rw [wp_bind]
  refine hs.onActive (fun b => { b with dirty := [] }) (fun _ => rfl) (fun hf₁ _ h₁ hs₁ => ?_)
    fun hf₁ h₁ hs₁ => ?_
  · have hlt₁ := forall_lt_succ hlt (not_fails hf₁ (by omega))
    generalize hcleared : ({ act.recordAll (E.reach qd (c + 4)) with dirty := [] } : Bitmap) = b at hs₁
    have hrec₁ : b.recording = false := by
      rw [← hcleared]
      exact (Bitmap.recording_recordAll ..).trans hrec
    have hempty : ∀ k, k ∉ (b.recordAll (E.reach qd (c + 5))).dirty := by
      intro k
      rw [mem_dirty_recordAll_of_idle hrec₁, ← hcleared]
      exact List.not_mem_nil
    have hg₁ : (b.recordAll (E.reach qd (c + 5))).granularity = g := by
      rw [Bitmap.granularity_recordAll, ← hcleared]
      exact (Bitmap.granularity_recordAll ..).trans hg
    have hlate : ∀ h', Stage c qd sr snap_uuid (5 + 1)
        { b.recordAll (E.reach qd (c + 5)) with recording := true }
        (some ((frz.recordAll (E.reach qd (c + 4))).recordAll (E.reach qd (c + 5)))) nbd none running
        h' → Late E c qd sr snap_uuid g dirty 6 { b.recordAll (E.reach qd (c + 5)) with recording := true }
          ((frz.recordAll (E.reach qd (c + 4))).recordAll (E.reach qd (c + 5))) nbd none running h' := by
      refine fun h' hs' => ⟨hs', rfl, hg₁, fun k => ?_, fun k hk => ?_⟩
      · rw [between_self]
        exact iff_of_false (hempty k) (not_touched_nil _ _)
      · exact mem_dirty_recordAll_of_mem _ (mem_dirty_recordAll_of_mem _ (hsub k hk))
    rw [wp_bind]
    refine hs₁.onActive (fun b => { b with recording := true }) (fun _ => rfl)
      (fun hf₂ _ h₂ hs₂ => ?_) fun hf₂ h₂ hs₂ => ?_
    · exact wp_export (hlate h₂ hs₂) (forall_lt_succ hlt₁ (not_fails hf₂ (by omega)))
    · cases hexec : E.executed (c + 5) with
      | true =>
          rw [hexec, if_pos rfl] at hs₂
          exact (hlate h₂ hs₂).told (.inl ⟨rfl, hexec⟩) (by omega) (.inl hf₂) hlt₁
      | false =>
          rw [hexec, if_neg (by decide)] at hs₂
          exact hs₂.told_dead ((Bitmap.recording_recordAll ..).trans hrec₁) (by omega) (.inl hf₂) hlt₁
            (not_harmlessAt (by omega) (by omega) fun _ => hexec)
  · refine hs₁.told_dead ?_ (by omega) (.inl hf₁) hlt (not_harmlessAt (by omega) (by omega) (by omega))
    split
    · exact (Bitmap.recording_recordAll ..).trans hrec
    · exact (Bitmap.recording_recordAll ..).trans hrec

/-- **The bits are copied while the tracking bitmap is disabled.** -/
theorem wp_copyBits (hs : Stage c qd sr snap_uuid 2 act none nbd none running h)
    (hrec : act.recording = false) (hg : act.granularity = g) (hsub : ∀ k ∈ dirty, k ∈ act.dirty)
    (hlt : ∀ j < 2, ¬ Fails E c running nbd j) :
    wp (do
        cbtBitmapAdd E qd (frozenName snap_uuid) g
        cbtBitmapMerge E qd (frozenName snap_uuid) [CBT_ACTIVE_BITMAP]
        cbtBitmapClear E qd CBT_ACTIVE_BITMAP
        cbtBitmapEnable E qd CBT_ACTIVE_BITMAP
        let payload ← exportBitmap E qd (frozenName snap_uuid)
        saveCbtMetadata E ("file://" ++ sr) snap_uuid
          (Dict.empty.set (frozenName snap_uuid) (.dict payload)))
      (fun _ => Told E qd sr snap_uuid c running nbd g dirty)
      (fun _ => Told E qd sr snap_uuid c running nbd g dirty) h := by
  have hge := captureLength_ge running
  have hpos : 0 < g := hg ▸ act.granularity_pos
  have hidle : ∀ n, (act.recordAll (E.reach qd n)).recording = false := fun _ =>
    (Bitmap.recording_recordAll ..).trans hrec
  rw [cbtBitmapAdd, cbtBitmapMerge]
  simp only [bind_assoc, pure_bind]
  rw [wp_bind]
  refine hs.onFrozen ⟨g, hpos, true, []⟩ (fun _ => rfl) (fun bs _ hb => addBitmap_frozen hpos hb)
    (fun hf₁ _ h₁ hs₁ => ?_) fun hf₁ h₁ o _ hs₁ => ?_
  · have hlt₁ := forall_lt_succ hlt (not_fails hf₁ (by omega))
    generalize hact₁ : act.recordAll (E.reach qd (c + 2)) = a₁ at hs₁
    have hrec₁ : a₁.recording = false := hact₁ ▸ hidle (c + 2)
    have hg₁ : a₁.granularity = g := by
      rw [← hact₁]
      exact (Bitmap.granularity_recordAll ..).trans hg
    have hsub₁ : ∀ k ∈ dirty, k ∈ a₁.dirty := by
      intro k hk
      rw [← hact₁]
      exact mem_dirty_recordAll_of_mem _ (hsub k hk)
    have hrec₂ : (a₁.recordAll (E.reach qd (c + 3))).recording = false :=
      (Bitmap.recording_recordAll ..).trans hrec₁
    rw [wp_bind]
    generalize hempty : (⟨g, hpos, true, []⟩ : Bitmap) = b at hs₁
    have hgb : (a₁.recordAll (E.reach qd (c + 3))).granularity =
        (b.recordAll (E.reach qd (c + 3))).granularity := by
      rw [Bitmap.granularity_recordAll, Bitmap.granularity_recordAll, hg₁, ← hempty]
    refine hs₁.onFrozen { b.recordAll (E.reach qd (c + 3)) with
        dirty := (a₁.recordAll (E.reach qd (c + 3))).dirty ++ (b.recordAll (E.reach qd (c + 3))).dirty }
      (fun _ => rfl) (fun bs ha hb => mergeBitmaps_frozen ha hb hgb)
      (fun hf₂ _ h₂ hs₂ => ?_) fun hf₂ h₂ o _ hs₂ => ?_
    · refine wp_enable hs₂ hrec₂ ((Bitmap.granularity_recordAll ..).trans hg₁) (fun k hk => ?_)
        (forall_lt_succ hlt₁ (not_fails hf₂ (by omega)))
      exact List.mem_append_left _ (mem_dirty_recordAll_of_mem _ (hsub₁ k hk))
    · exact hs₂.told_dead hrec₂ (by omega) (.inl hf₂) hlt₁
        (not_harmlessAt (by omega) (by omega) (by omega))
  · exact hs₁.told_dead (hidle _) (by omega) (.inl hf₁) hlt
      (not_harmlessAt (by omega) (by omega) (by omega))

/-- **The capture, from the listing of the bitmaps on.** -/
theorem wp_capture (hs : Stage c qd sr snap_uuid 0 act none nbd none running h)
    (hrec : act.recording = true) (hg : act.granularity = g) (hsub : ∀ k ∈ dirty, k ∈ act.dirty) :
    wp (do
        let bitmaps ← cbtListBitmaps E qd
        match bitmaps.get? CBT_ACTIVE_BITMAP with
        | none => return ()
        | some active => captureBitmap E qd active.granularity sr snap_uuid)
      (fun _ => Told E qd sr snap_uuid c running nbd g dirty)
      (fun _ => Told E qd sr snap_uuid c running nbd g dirty) h := by
  have hge := captureLength_ge running
  have hlt : ∀ j < 0, ¬ Fails E c running nbd j := fun j hj => absurd hj (Nat.not_lt_zero j)
  have hrec₁ : (act.recordAll (E.reach qd (c + 0))).recording = true :=
    (Bitmap.recording_recordAll ..).trans hrec
  rw [cbtListBitmaps]
  simp only [bind_assoc, pure_bind]
  rw [wp_bind]
  refine hs.query (fun _ => rfl) (fun hf₁ p' h₁ hp₁ hs₁ => ?_) fun hf₁ h₁ hs₁ => ?_
  · have hlt₁ := forall_lt_succ hlt (not_fails hf₁ (by omega))
    obtain ⟨bs, hbs, hact, -⟩ := hp₁.exists_node
    have hactive : (p'.bitmaps qd.block_node_name).get? CBT_ACTIVE_BITMAP =
        bs.get? CBT_ACTIVE_BITMAP := by
      rw [Process.bitmaps, hbs]
      rfl
    rw [hactive, hact]
    have hsub₁ : ∀ k ∈ dirty, k ∈ (act.recordAll (E.reach qd (c + 0))).dirty := fun k hk =>
      mem_dirty_recordAll_of_mem _ (hsub k hk)
    have hg₁ : (act.recordAll (E.reach qd (c + 0))).granularity = g :=
      (Bitmap.granularity_recordAll ..).trans hg
    generalize act.recordAll (E.reach qd (c + 0)) = a₁ at hs₁ hrec₁ hsub₁ hg₁
    dsimp only
    rw [captureBitmap, cbtBitmapDisable]
    simp only [bind_assoc, pure_bind]
    rw [wp_bind]
    refine hs₁.onActive (fun b => { b with recording := false }) (fun _ => rfl)
      (fun hf₂ _ h₂ hs₂ => ?_) fun hf₂ h₂ hs₂ => ?_
    · rw [hg₁]
      exact wp_copyBits hs₂ rfl ((Bitmap.granularity_recordAll ..).trans hg₁)
        (fun k hk => mem_dirty_recordAll_of_mem (E.reach qd (c + 1)) (hsub₁ k hk))
        (forall_lt_succ hlt₁ (not_fails hf₂ (by omega)))
    · cases hexec : E.executed (c + 1) with
      | true =>
          rw [hexec, if_pos rfl] at hs₂
          refine hs₂.told_dead rfl (by omega) (.inl hf₂) hlt₁ ?_
          rintro (h | ⟨-, h⟩ | ⟨⟨h, -⟩ | h, -⟩)
          · cases h
          · rw [hexec] at h
            cases h
          · cases h
          · omega
      | false =>
          rw [hexec, if_neg (by decide)] at hs₂
          exact hs₂.told_alive ((Bitmap.recording_recordAll ..).trans hrec₁)
            (fun k hk => mem_dirty_recordAll_of_mem _ (hsub₁ k hk)) (by omega) (.inl hf₂) hlt₁
            (.inr (.inl ⟨rfl, hexec⟩))
  · exact hs₁.told_alive hrec₁ (fun k hk => mem_dirty_recordAll_of_mem _ (hsub k hk)) (by omega)
      (.inl hf₁) hlt (.inl rfl)

end

/-! ### The call -/

/-- The process of a volume before a snapshot: it has the tracking bitmap, and nothing in it or in the
repository is named after the new snapshot. -/
structure Tracked (qd : QemuDisk) (sr snap_uuid : String) (b : Bitmap) (nbd : Option String)
    (h : Host) : Prop where
  process : ∃ p, h.processes.get? qd.qmp_sock = some p ∧ Looks qd snap_uuid p b none nbd none
  recording : b.recording = true
  unsaved : h.pickles.get? ("file://" ++ sr, snap_uuid) = none

/-- **The tracking survives a snapshot that returns exactly when no command of the capture raises, or
the first one that does is harmless.** -/
theorem survives_iff (E : Env) (sr sr_dataset vdi_uuid snap_uuid : String) (qd : QemuDisk) (b : Bitmap)
    (nbd : Option String) (h : Host) (htracked : Tracked qd sr snap_uuid b nbd h)
    (hreturns : succeeds (snapshot E sr sr_dataset vdi_uuid snap_uuid) h = true)
    (hfound : found E (after (takeSnapshot E snap_uuid) h) (devicePath sr_dataset vdi_uuid) = some qd) :
    Survives qd sr snap_uuid b.dirty (after (snapshot E sr sr_dataset vdi_uuid snap_uuid) h) ↔
      Harmless E qd (clockFound E (after (takeSnapshot E snap_uuid) h) (devicePath sr_dataset vdi_uuid))
        (h.registry.get? (E.deviceKey (devicePath sr_dataset vdi_uuid))).isSome nbd b.granularity
        b.dirty := by
  have hfault : E.fault h.clock = false := by
    by_contra hfault
    have htake : takeSnapshot E snap_uuid h = .error .failed (h.next E) := by
      rw [takeSnapshot, fileCommand]
      simp only [Bool.not_eq_false] at hfault
      simp only [hfault, if_true]
    rw [succeeds, snapshot, bind_error htake] at hreturns
    cases hreturns
  let h₀ : Host := { h.next E with trace := .takeSnapshot snap_uuid :: (h.next E).trace }
  have htake : takeSnapshot E snap_uuid h = .ok () h₀ := by
    simp only [takeSnapshot, fileCommand, hfault, Bool.false_eq_true, if_false]
    rfl
  have hafter : after (takeSnapshot E snap_uuid) h = h₀ := by rw [after, htake]
  have hregistry : h₀.registry = h.registry := (went_next E qd h).registry
  rw [hafter] at hfound ⊢
  obtain ⟨h₁, hfind, hclock, hd⟩ := findQemu_run E h₀ (devicePath sr_dataset vdi_uuid)
  rw [hfound] at hfind
  rw [hregistry] at hd
  obtain ⟨p, hp, hlook⟩ := htracked.process
  have hlook₀ := hlook.arrive (E.writes h.clock)
  obtain ⟨ws, hws⟩ := hd.process qd.qmp_sock
  have hp₁ : h₁.processes.get? qd.qmp_sock =
      some (arrive qd.qmp_sock ws (arrive qd.qmp_sock (E.writes h.clock) p)) := by
    rw [hws]
    change ((h.next E).processes.get? _).map _ = _
    rw [get?_next, hp]
    rfl
  have hstage : Stage (clockFound E h₀ (devicePath sr_dataset vdi_uuid)) qd sr snap_uuid 0 _ none nbd
      none (h.registry.get? (E.deviceKey (devicePath sr_dataset vdi_uuid))).isSome h₁ :=
    ⟨⟨_, hp₁, hlook₀.arrive ws⟩, hclock, by
      rw [hd.pickles]
      exact (congrArg (Dict.get? · _) (pickles_next E h)).trans htracked.unsaved, hd.running⟩
  have hsub : ∀ k ∈ b.dirty, k ∈ ((b.recordAll (arriving qd.qmp_sock qd.block_node_name
      (E.writes h.clock))).recordAll (arriving qd.qmp_sock qd.block_node_name ws)).dirty :=
    fun k hk => mem_dirty_recordAll_of_mem _ (mem_dirty_recordAll_of_mem _ hk)
  have hwp := wp_capture (E := E) hstage
    ((Bitmap.recording_recordAll ..).trans ((Bitmap.recording_recordAll ..).trans htracked.recording))
    ((Bitmap.granularity_recordAll ..).trans (Bitmap.granularity_recordAll ..)) hsub
  suffices hrun : wp (snapshot E sr sr_dataset vdi_uuid snap_uuid) (fun _ => Told E qd sr snap_uuid
      (clockFound E h₀ (devicePath sr_dataset vdi_uuid))
      (h.registry.get? (E.deviceKey (devicePath sr_dataset vdi_uuid))).isSome nbd b.granularity b.dirty)
      (fun _ => Told E qd sr snap_uuid (clockFound E h₀ (devicePath sr_dataset vdi_uuid))
      (h.registry.get? (E.deviceKey (devicePath sr_dataset vdi_uuid))).isSome nbd b.granularity b.dirty)
      h by
    exact after_of_wp hrun
  rw [snapshot, wp_bind, wp_of_ok htake, quietly, wp_tryCatch, cbtCaptureAtSnapshot, wp_bind,
    wp_of_ok hfind]
  exact hwp

/-- The daemon of a volume with one dirty block. -/
def dirtyHost : Host :=
  { trackedHost with
    processes := Dict.empty.set "qmp"
      ⟨[], Dict.empty.set BLOCK_NODE_NAME
        (Dict.empty.set "cbt-active" ⟨65536, default_granularity_pos, true, [0]⟩), some "nbd", Dict.empty⟩ }

theorem tracked_dirtyHost :
    Tracked trackedDisk "sr" "s1" ⟨65536, by decide, true, [0]⟩ (some "nbd") dirtyHost :=
  ⟨⟨_, rfl, rfl, rfl, rfl, rfl⟩, rfl, rfl⟩

/-- Surroundings in which `cbt-active` cannot be disabled: the capture ends there. -/
def refusingEnv : Env :=
  { quietEnv none with fault := fun n => n = 2 }

theorem survives_iff_refused :
    Survives trackedDisk "sr" "s1" [0] (after (snapshot refusingEnv "sr" "tank" "vdi" "s1") dirtyHost) ↔
      Harmless refusingEnv trackedDisk (clockFound refusingEnv
        (after (takeSnapshot refusingEnv "s1") dirtyHost) "/dev/zvol/tank/vdi") true (some "nbd")
        65536 [0] :=
  survives_iff refusingEnv "sr" "tank" "vdi" "s1" trackedDisk _ (some "nbd") dirtyHost
    tracked_dirtyHost (by decide +kernel) (by decide +kernel)

/-- Surroundings in which the bitmap of the snapshot cannot be added. -/
def failingEnv : Env :=
  { quietEnv none with fault := fun n => n = 3 }

/-- **A bitmap that cannot be added stops the tracking.** -/
theorem not_survives_add : ¬ ∀ (E : Env) (sr sr_dataset vdi_uuid snap_uuid : String) (qd : QemuDisk)
    (b : Bitmap) (nbd : Option String) (h : Host), Tracked qd sr snap_uuid b nbd h →
    succeeds (snapshot E sr sr_dataset vdi_uuid snap_uuid) h = true →
    found E (after (takeSnapshot E snap_uuid) h) (devicePath sr_dataset vdi_uuid) = some qd →
    Survives qd sr snap_uuid b.dirty (after (snapshot E sr sr_dataset vdi_uuid snap_uuid) h) := by
  intro hall
  obtain ⟨p, act, hp, hact, hrec, -⟩ := hall failingEnv "sr" "tank" "vdi" "s1" trackedDisk _ _ dirtyHost
    tracked_dirtyHost (by decide +kernel) (by decide +kernel)
  have hstopped : ((after (snapshot failingEnv "sr" "tank" "vdi" "s1") dirtyHost).processes.get?
      "qmp").all (fun p => (bitmapOf p BLOCK_NODE_NAME "cbt-active").all fun b => !b.recording) =
      true := by decide +kernel
  have hstopped' : (bitmapOf p BLOCK_NODE_NAME "cbt-active").all (fun b => !b.recording) = true := by
    change Dict.get? _ "qmp" = _ at hp
    rwa [hp] at hstopped
  change bitmapOf p BLOCK_NODE_NAME "cbt-active" = _ at hact
  rw [hact] at hstopped'
  simp [hrec] at hstopped'

end Cbt

/-
**Is the tracking of a volume durable over its activations?**

A volume is activated, written, deactivated and detached again and again.  Deactivation saves a
description of the bitmaps: where an NBD server shows them.  The server is the daemon of the volume,
which detaching quits, and with it go the bitmaps.

Main definitions:

* `Cbt.daemonOf` — the daemon of a key;
* `Cbt.cycle`, `Cbt.cycles` — activation, writes, deactivation, detaching and attaching again;
* `Cbt.Ready` — a daemon with its tracking bitmap, or with the file to set it up from;
* `Cbt.Stale` — the saved bitmaps are described by exports that nobody serves.

Main results:

* `Cbt.deactivate_saves` — what a deactivation saves;
* `Cbt.cycle_stale` — a cycle leaves a volume ready, and its file stale;
* `Cbt.durable_iff` — **after any number of cycles the report has the blocks that were written in them
  exactly when no requested block was written**;
* `Cbt.not_durable_one_cycle` — one cycle with one write.
-/

import ZfsLive.CbtChain
import ZfsLive.CbtTracking

set_option relaxedAutoImplicit false
set_option autoImplicit false

namespace Cbt

open Qemu ChangedBlocks Wp

/-! ### Cycles of a device, and what becomes of a write -/

/-- The daemon that `create` spawns for a key. -/
def daemonOf (key : String) : QemuDisk :=
  ⟨socketDir ++ "/qmp_sock." ++ key, socketDir ++ "/qemu-nbd." ++ key, BLOCK_NODE_NAME⟩

/-- One cycle on a volume that is attached: it is activated, written, deactivated, detached, and attached
again. -/
def cycle (E : Env) (d : String) (h : Host) (ws : List GuestWrite) : Host :=
  let activated := after (activate E d) h
  let deactivated := after (deactivate E d) (ws.foldl Host.guestWrite activated)
  after (attach E d) (after (detach E d) deactivated)

def cycles (E : Env) (d : String) (h : Host) (wss : List (List GuestWrite)) : Host :=
  wss.foldl (cycle E d) h

/-- A volume at the start: its daemon serves it and tracks it, its bitmaps were not exported before, and
what is saved of it has granularities that qemu accepts. -/
structure Attached (E : Env) (d : String) (h : Host) : Prop where
  registry : h.registry.get? (E.deviceKey d) = some (daemonOf (E.deviceKey d))
  node : ∃ bs exports b, h.On (daemonOf (E.deviceKey d)) bs
      (some (daemonOf (E.deviceKey d)).nbd_unix_sock) exports ∧
    bs.get? CBT_ACTIVE_BITMAP = some b ∧ b.recording = true ∧
    ∀ name, exports.get? ("cbt_" ++ name) = none
  alone : Alone (daemonOf (E.deviceKey d)) h
  saved : ∀ name payload, (savedPayload E h d).get? name = some (.dict payload) →
    0 < payloadShape payload
  trace : h.trace = []

/-- The report on the volume has a set bit for every requested block that was written. -/
def Durable (qd : QemuDisk) (sr older vdi_uuid : String) (h : Host) (offset length : ℕ) : Prop :=
  ∃ r, listChangedBlocks h.cbtEnv sr older vdi_uuid offset length = .ok r ∧
    ∀ b < nblocks offset length r.granularity,
      Touched (written qd h.trace) r.granularity (offset / r.granularity + b) → r.test b = true

/-- The bitmaps on record for a volume. -/
def onRecord (sr vdi_uuid : String) (h : Host) : Dict String Single :=
  match h.pickles.get? ("file://" ++ sr, vdi_uuid) with
  | some (some (.dict multi)) => multi
  | _ => Dict.empty

/-- No requested block was written, at the granularity on record. -/
def NothingWritten (qd : QemuDisk) (sr vdi_uuid : String) (h : Host) (offset length : ℕ) : Prop :=
  let granularity := reportGranularity h.cbtEnv (onRecord sr vdi_uuid h)
  ∀ b < nblocks offset length granularity,
    ¬ Touched (written qd h.trace) granularity (offset / granularity + b)

variable {E : Env} {h h' : Host} {d : String} {qd : QemuDisk} {bs : Bitmaps} {socket : String}
  {exports : Dict String Export} {X : QmpError → Host → Prop}

/-! ### Saving the bitmaps -/

/-- What is saved of a bitmap: its granularity and its export. -/
def SavedFor (qd : QemuDisk) (name : String) (single : Single) : Prop :=
  ∃ (granularity count : ℕ), 0 < granularity ∧
    single = .dict ⟨name, some granularity, count, some (descriptor qd name)⟩

/-- The same bitmaps are there. -/
def SameNames (bs bs' : Bitmaps) : Prop := ∀ n, (bs'.get? n).isSome = (bs.get? n).isSome

theorem sameNames_recordAll (bs : Bitmaps) (ws : List Write) : SameNames bs (Bitmaps.recordAll bs ws) := by
  intro n
  rw [Bitmaps.get?_recordAll, Option.isSome_map]

theorem wp_exportBitmap {name : String} {b : Bitmap} {Q : BitmapPayload → Host → Prop}
    (hE : ∀ n, E.fault n = false) (hrun : h.nbd_server_running = true)
    (hon : h.On qd bs (some socket) exports) (hb : bs.get? name = some b)
    (hex : exports.get? ("cbt_" ++ name) = none)
    (hQ : ∀ h' bs' payload, h'.On qd bs' (some socket)
        (exports.set ("cbt_" ++ name) ⟨qd.block_node_name, some name⟩) →
      h'.nbd_server_running = true → SameNames bs bs' → SavedFor qd name (.dict payload) →
      Q payload h') :
    wp (exportBitmap E qd name) Q X h := by
  -- freezing the bitmap
  rw [exportBitmap, wp_bind, cbtBitmapDisable, wp_bind]
  have hb₀ : (Bitmaps.recordAll bs (E.reach qd h.clock)).get? name =
      some (b.recordAll (E.reach qd h.clock)) := by
    rw [Bitmaps.get?_recordAll, hb]
    rfl
  refine wp_onNode hon (hE _) (fun _ => rfl) (onBitmap_ok _ hb₀) fun _ h₁ hon₁ hk₁ _ _ => ?_
  have hsame₁ : SameNames bs (Dict.set (Bitmaps.recordAll bs (E.reach qd h.clock)) name
      { b.recordAll (E.reach qd h.clock) with recording := false }) := by
    intro n
    rw [Dict.get?_set]
    split
    · next hn => rw [hn, hb]; rfl
    · exact sameNames_recordAll ..
  generalize Dict.set (Bitmaps.recordAll bs (E.reach qd h.clock)) name
    { b.recordAll (E.reach qd h.clock) with recording := false } = bs₁ at hon₁ hsame₁
  -- reading its granularity
  rw [wp_pure, wp_bind]
  refine wp_cbtListBitmaps hon₁ (hE _) fun h₂ hon₂ hk₂ _ _ => ?_
  obtain ⟨info, hinfo⟩ : ∃ info, (Bitmaps.recordAll bs₁ (E.reach qd h₁.clock)).get? name = some info := by
    refine Option.isSome_iff_exists.1 ?_
    rw [sameNames_recordAll, hsame₁, hb]
    rfl
  rw [hinfo]
  dsimp only
  -- the export
  have hrun₂ : h₂.nbd_server_running = true := (hk₂.running.trans hk₁.running).trans hrun
  rw [wp_bind, cbtExportBitmap, wp_bind, ensureNbdServer, wp_bind, wp_get, if_pos hrun₂, wp_pure,
    wp_bind]
  obtain ⟨p, hp, hbs, hn, he⟩ := hon₂
  obtain ⟨hbs', hn', he'⟩ := Host.On.arrive hbs hn he (E.writes h₂.clock)
  have hinfo' : (Bitmaps.recordAll (Bitmaps.recordAll bs₁ (E.reach qd h₁.clock))
      (arriving qd.qmp_sock qd.block_node_name (E.writes h₂.clock))).get? name = some (info.recordAll
        (arriving qd.qmp_sock qd.block_node_name (E.writes h₂.clock))) := by
    rw [Bitmaps.get?_recordAll, hinfo]
    rfl
  have hexec : (arrive qd.qmp_sock (E.writes h₂.clock) p).exec
      (.nbdServerAdd qd.block_node_name ("cbt_" ++ name) name) =
        .ok { arrive qd.qmp_sock (E.writes h₂.clock) p with
          exports := exports.set ("cbt_" ++ name) ⟨qd.block_node_name, some name⟩ } := by
    simp only [Process.exec, hn', hbs', hinfo', he', hex]
  refine wp_qmpCommand (hE _) hp hexec fun h₃ hp₃ hk₃ _ _ => ?_
  rw [wp_pure, wp_pure]
  refine hQ h₃ _ _ ⟨_, hp₃, hbs', hn', rfl⟩ (hk₃.running.trans hrun₂) (fun n => ?_)
    ⟨info.granularity, _, info.granularity_pos, rfl⟩
  rw [sameNames_recordAll, sameNames_recordAll, hsame₁]

theorem wp_exportEach (hE : ∀ n, E.fault n = false) {names : List String} (hnames : names.Nodup)
    {Q : Dict String Single → Host → Prop} {acc : Dict String Single} {h : Host} {bs : Bitmaps}
    {exports : Dict String Export} (hrun : h.nbd_server_running = true)
    (hon : h.On qd bs (some socket) exports) (hthere : ∀ n ∈ names, (bs.get? n).isSome)
    (hclean : ∀ n ∈ names, exports.get? ("cbt_" ++ n) = none)
    (hQ : ∀ h' payload, (∀ n single, payload.get? n = some single →
        acc.get? n = some single ∨ SavedFor qd n single) →
      (∀ n, n ∈ names ∨ (acc.get? n).isSome → (payload.get? n).isSome) → Q payload h') :
    wp (exportEach E qd names acc) Q X h := by
  induction names generalizing h bs exports acc with
  | nil =>
      refine hQ h acc (fun n single hs => .inl hs) fun n hn => ?_
      exact hn.resolve_left List.not_mem_nil
  | cons name names ih =>
      rw [List.nodup_cons] at hnames
      obtain ⟨b, hb⟩ := Option.isSome_iff_exists.1 (hthere name (List.mem_cons_self ..))
      rw [exportEach, wp_bind, wp_tryCatch, wp_map]
      refine wp_exportBitmap hE hrun hon hb (hclean name (List.mem_cons_self ..))
        fun h₁ bs₁ exported hon₁ hrun₁ hsame₁ hsaved => ?_
      refine ih hnames.2 hrun₁ hon₁ (fun n hn => ?_) (fun n hn => ?_)
        fun h' payload hall hkeys => hQ h' payload (fun n single hs => ?_) fun n hn => ?_
      · rw [hsame₁]
        exact hthere n (List.mem_cons_of_mem _ hn)
      · rw [Dict.get?_set, if_neg]
        · exact hclean n (List.mem_cons_of_mem _ hn)
        · intro heq
          rw [String.append_right_inj] at heq
          exact hnames.1 (heq ▸ hn)
      · rcases hall n single hs with hacc | hnew
        · rw [Dict.get?_set] at hacc
          split at hacc
          · next hname =>
            cases hacc
            exact .inr (hname ▸ hsaved)
          · exact .inl hacc
        · exact .inr hnew
      · refine hkeys n ?_
        rw [Dict.get?_set]
        rcases hn with hn | hn
        · rcases List.mem_cons.1 hn with rfl | hn
          · exact .inr (by rw [if_pos rfl]; rfl)
          · exact .inl hn
        · refine .inr ?_
          split
          · rfl
          · exact hn

/-- The saved file of a volume after a deactivation. -/
def Stale (d sr_uri : String) (qd : QemuDisk) (h : Host) : Prop :=
  ∃ payload, h.pickles.get? (sr_uri, vdiUuidFromDevicePath d) = some (some (.dict payload)) ∧
    (∀ n single, payload.get? n = some single → SavedFor qd n single) ∧
    (payload.get? CBT_ACTIVE_BITMAP).isSome

/-- **A deactivation saves a description of every tracking bitmap.** -/
theorem deactivate_saves (hE : ∀ n, E.fault n = false) {sr_uri : String}
    (hsr : resolveSrUri E d = some sr_uri) (hreg : h.registry.get? (E.deviceKey d) = some qd)
    (hon : h.On qd bs (some socket) exports) (hactive : (bs.get? CBT_ACTIVE_BITMAP).isSome)
    (hclean : ∀ n, exports.get? ("cbt_" ++ n) = none) :
    Stale d sr_uri qd (after (deactivate E d) h) := by
  suffices hwp : wp (deactivate E d) (fun _ h' => Stale d sr_uri qd h') (fun _ _ => False) h by
    obtain ⟨_, h', hok, hstale⟩ := exists_ok_of_wp hwp
    rwa [after, hok]
  obtain ⟨h₁, hfind, hd⟩ := findQemu_eq E h d
  rw [found, hreg] at hfind
  rw [hreg] at hd
  obtain ⟨bs₁, hon₁, hsame₁⟩ : ∃ bs', h₁.On qd bs' (some socket) exports ∧
      ∀ n, shape bs' n = shape bs n :=
    Host.On.drift (h := { h with nbd_server_running := true }) hon hd
  have hrun₁ : h₁.nbd_server_running = true := hd.running
  rw [deactivate, quietly, wp_tryCatch, cbtPersistOnDeactivate, wp_bind, wp_of_ok hfind]
  dsimp only
  rw [wp_bind]
  refine wp_cbtListBitmaps hon₁ (hE _) fun h₂ hon₂ hk₂ _ _ => ?_
  have hactive₂ : ((Bitmaps.recordAll bs₁ (E.reach qd h₁.clock)).get? CBT_ACTIVE_BITMAP).isSome := by
    have := congrArg Option.isSome (hsame₁ CBT_ACTIVE_BITMAP)
    rw [shape, shape, Option.isSome_map, Option.isSome_map] at this
    rw [sameNames_recordAll, this, hactive]
  generalize Bitmaps.recordAll bs₁ (E.reach qd h₁.clock) = bs₂ at hon₂ hactive₂ ⊢
  -- the tracking bitmaps, of which there is one
  have hmem : CBT_ACTIVE_BITMAP ∈ bs₂.keys.filter isPersistentTrackingBitmap := by
    obtain ⟨b, hb⟩ := Option.isSome_iff_exists.1 hactive₂
    exact List.mem_filter.2 ⟨Dict.mem_keys_of_mem (Dict.get?_eq_some_iff.1 hb), by decide⟩
  have hthere : ∀ n ∈ bs₂.keys.filter isPersistentTrackingBitmap, (bs₂.get? n).isSome := by
    intro n hn
    obtain ⟨⟨_, b⟩, hb, rfl⟩ := List.mem_map.1 (List.mem_filter.1 hn).1
    rw [Dict.get?_eq_some_iff.2 hb]
    rfl
  have hnodup : (bs₂.keys.filter isPersistentTrackingBitmap).Nodup := bs₂.distinct.filter _
  generalize bs₂.keys.filter isPersistentTrackingBitmap = names at hmem hthere hnodup ⊢
  rw [hsr]
  obtain ⟨name, rest, rfl⟩ := List.exists_cons_of_ne_nil (List.ne_nil_of_mem hmem)
  dsimp only
  -- saving them
  rw [persistBitmaps, wp_bind]
  refine wp_migrateQuietly (hE _) fun h₃ hh₃ => ?_
  have hrun₃ : h₃.nbd_server_running = true := by
    rw [hh₃]
    exact (foldl_guestWrite (s := "") (E.writes h₂.clock) h₂).2.2.2.1.trans (hk₂.running.trans hrun₁)
  have hon₃ : h₃.On qd (Bitmaps.recordAll bs₂ (E.reach qd h₂.clock)) (some socket) exports := by
    rw [hh₃]
    exact hon₂.next
  rw [wp_bind]
  refine wp_exportEach hE hnodup hrun₃ hon₃ (fun n hn => ?_) (fun n _ => hclean n)
    fun h₄ payload hall hkeys => ?_
  · rw [sameNames_recordAll]
    exact hthere n hn
  · have hsaved : (payload.get? CBT_ACTIVE_BITMAP).isSome := hkeys _ (.inl hmem)
    have hne : payload.items.isEmpty = false := by
      obtain ⟨single, hs⟩ := Option.isSome_iff_exists.1 hsaved
      rw [List.isEmpty_eq_false_iff]
      exact List.ne_nil_of_mem (Dict.get?_eq_some_iff.1 hs)
    rw [hne, if_neg Bool.false_ne_true]
    refine wp_fileCommand (hE _) rfl ⟨payload, ?_, fun n single hs => ?_, hsaved⟩
    · rw [Dict.get?_set, if_pos rfl]
    · refine (hall n single hs).resolve_left ?_
      simp

/-! ### The other processes -/

/-- The processes but for the one in hand got writes, and nothing else. -/
def Others (qd : QemuDisk) (h h' : Host) : Prop :=
  ∀ s, s ≠ qd.qmp_sock → ∃ ws, h'.processes.get? s = (h.processes.get? s).map (arrive s ws)

theorem Others.trans {h₁ h₂ h₃ : Host} (ho : Others qd h₁ h₂) (ho' : Others qd h₂ h₃) :
    Others qd h₁ h₃ := by
  intro s hs
  obtain ⟨ws, hws⟩ := ho s hs
  obtain ⟨ws', hws'⟩ := ho' s hs
  exact ⟨ws ++ ws', by rw [hws', hws, Option.map_map, arrive_append]⟩

theorem others_next (E : Env) (qd : QemuDisk) (h : Host) : Others qd h (h.next E) :=
  fun s _ => ⟨_, get?_next E h s⟩

/-- A hook, once the process is found. -/
theorem after_hook {k : Option QemuDisk → CbtM Unit} {r : Option QemuDisk} {h₁ : Host}
    (hfind : findQemu E d h = .ok r h₁) :
    after (quietly (findQemu E d >>= k)) h = after (k r) h₁ := by
  rcases hrun : k r h₁ with ⟨⟨⟩, h'⟩ | ⟨e, h'⟩
  · rw [after_of_ok hrun, quietly, after_of_ok (tryCatch_ok ((bind_ok hfind).trans hrun))]
  · rw [after_of_error hrun, quietly, after, tryCatch_error ((bind_ok hfind).trans hrun)]
    rfl

/-- A hook keeps the registry and the other processes. -/
theorem hook_frame {k : Option QemuDisk → CbtM Unit} (hfound : found E h d = some qd)
    (hk : Issues qd (k (some qd))) :
    (after (quietly (findQemu E d >>= k)) h).registry = h.registry ∧
      Others qd h (after (quietly (findQemu E d >>= k)) h) := by
  obtain ⟨h₁, hfind, hd⟩ := findQemu_eq E h d
  rw [hfound] at hfind
  obtain ⟨news, ⟨-, hr, ho⟩, -⟩ := hk h₁
  rw [after_hook hfind]
  have hfirst : Others qd h h₁ := fun s _ => hd.process s
  exact ⟨hr.trans hd.registry, hfirst.trans fun s hs => ⟨_, ho s hs⟩⟩

theorem activate_frame (hfound : found E h d = some qd) :
    (after (activate E d) h).registry = h.registry ∧ Others qd h (after (activate E d) h) := by
  refine hook_frame hfound ?_
  exact issues_activation E qd d

theorem deactivate_frame (hfound : found E h d = some qd) :
    (after (deactivate E d) h).registry = h.registry ∧ Others qd h (after (deactivate E d) h) := by
  refine hook_frame hfound ?_
  exact issues_deactivation E qd d

/-- **Detaching**: the daemon ends, and is forgotten. -/
theorem detach_quits (hE : ∀ n, E.fault n = false) (hreg : h.registry.get? (E.deviceKey d) = some qd) :
    (after (detach E d) h).registry.get? (E.deviceKey d) = none ∧
      (after (detach E d) h).pickles = h.pickles ∧ Others qd h (after (detach E d) h) := by
  suffices hwp : wp (detach E d) (fun _ h' => h'.registry.get? (E.deviceKey d) = none ∧
      h'.pickles = h.pickles ∧ Others qd h h') (fun _ _ => False) h by
    obtain ⟨_, h', hok, hq⟩ := exists_ok_of_wp hwp
    rwa [after_of_ok hok]
  have hload : loadMetadata (E.deviceKey d) h = .ok (some qd) h := by rw [← hreg]; rfl
  rw [detach, wp_bind, wp_of_ok hload]
  dsimp only
  rw [wp_bind, quietly, wp_tryCatch, quit]
  refine wp_fileCommand (hE _) rfl ?_
  rw [removeMetadata]
  refine wp_fileCommand (hE _) rfl ⟨?_, ?_, ?_⟩
  · rw [Dict.get?_erase, if_pos rfl]
  · change (Host.next E _).pickles = _
    rw [pickles_next]
    exact pickles_next E h
  · have hquit : Others qd (h.next E) { h.next E with
        processes := (h.next E).processes.erase qd.qmp_sock } := by
      intro s hs
      refine ⟨[], ?_⟩
      rw [Dict.get?_erase, if_neg hs]
      exact (congrFun Option.map_id _).symm
    exact (others_next E qd h).trans (hquit.trans (others_next E qd _))

/-- **Attaching** spawns a daemon without bitmaps. -/
theorem attach_spawns (hE : ∀ n, E.fault n = false) (hreg : h.registry.get? (E.deviceKey d) = none) :
    (after (attach E d) h).registry.get? (E.deviceKey d) = some (daemonOf (E.deviceKey d)) ∧
      (after (attach E d) h).pickles = h.pickles ∧
      Others (daemonOf (E.deviceKey d)) h (after (attach E d) h) ∧
      ∃ bs exports, (after (attach E d) h).On (daemonOf (E.deviceKey d)) bs
        (some (daemonOf (E.deviceKey d)).nbd_unix_sock) exports ∧
        ∀ n, exports.get? ("cbt_" ++ n) = none := by
  suffices hwp : wp (attach E d) (fun _ h' =>
      h'.registry.get? (E.deviceKey d) = some (daemonOf (E.deviceKey d)) ∧ h'.pickles = h.pickles ∧
      Others (daemonOf (E.deviceKey d)) h h' ∧ ∃ bs exports, h'.On (daemonOf (E.deviceKey d)) bs
        (some (daemonOf (E.deviceKey d)).nbd_unix_sock) exports ∧
        ∀ n, exports.get? ("cbt_" ++ n) = none) (fun _ _ => False) h by
    obtain ⟨_, h', hok, hq⟩ := exists_ok_of_wp hwp
    rwa [after_of_ok hok]
  rw [attach, wp_bind, ensureQemuDaemon, wp_bind, wp_get, hreg]
  dsimp only
  rw [wp_tryCatch, wp_bind, createDaemon]
  refine wp_fileCommand (hE _) rfl ?_
  rw [wp_bind, saveMetadata]
  refine wp_fileCommand (hE _) rfl ⟨?_, ?_, ?_, ?_⟩
  · exact (Dict.get?_set ..).trans (if_pos rfl)
  · change (Host.next E _).pickles = _
    rw [pickles_next]
    exact pickles_next E h
  · have hnew : Others (daemonOf (E.deviceKey d)) (h.next E) { h.next E with
        processes := (h.next E).processes.set (daemonOf (E.deviceKey d)).qmp_sock
          (newDaemon (daemonOf (E.deviceKey d)).nbd_unix_sock) } := by
      intro s hs
      refine ⟨[], ?_⟩
      rw [Dict.get?_set, if_neg hs]
      exact (congrFun Option.map_id _).symm
    exact (others_next E _ h).trans (hnew.trans (others_next E _ _))
  · have hon : Host.On { h.next E with
        processes := (h.next E).processes.set (daemonOf (E.deviceKey d)).qmp_sock
          (newDaemon (daemonOf (E.deviceKey d)).nbd_unix_sock) } (daemonOf (E.deviceKey d)) Dict.empty
        (some (daemonOf (E.deviceKey d)).nbd_unix_sock)
        (Dict.empty.set BLOCK_NODE_NAME ⟨BLOCK_NODE_NAME, none⟩) :=
      ⟨_, (Dict.get?_set ..).trans (if_pos rfl), (Dict.get?_set ..).trans (if_pos rfl), rfl, rfl⟩
    refine ⟨_, _, hon.next (E := E), fun n => ?_⟩
    rw [Dict.get?_set, if_neg]
    · rfl
    · intro heq
      have := congrArg (fun s => s.toList.take 1) heq
      simp [BLOCK_NODE_NAME] at this

/-! ### Cycles -/

/-- An activation leaves a tracking bitmap: there is one, or one is set up. -/
structure Ready (E : Env) (d : String) (h : Host) : Prop where
  registry : h.registry.get? (E.deviceKey d) = some (daemonOf (E.deviceKey d))
  alone : Alone (daemonOf (E.deviceKey d)) h
  node : ∃ bs exports, h.On (daemonOf (E.deviceKey d)) bs
      (some (daemonOf (E.deviceKey d)).nbd_unix_sock) exports ∧
    (∀ n, exports.get? ("cbt_" ++ n) = none) ∧
    (loopShape (savedPayload E h d).items CBT_ACTIVE_BITMAP (shape bs CBT_ACTIVE_BITMAP)).isSome

theorem preparedShape_isSome {name : String} {payload : Single} {old : Option (ℕ × Bool)}
    (hold : old.isSome ∨ ∃ p, payload = .dict p ∧ isPersistentTrackingBitmap name = true)
    (hpos : ∀ p, payload = .dict p → 0 < payloadShape p) : (preparedShape name payload old).isSome := by
  cases payload with
  | other =>
      rcases hold with hold | ⟨p, hp, _⟩
      · exact hold
      · cases hp
  | dict p =>
      have hp := hpos p rfl
      rw [preparedShape]
      split
      · rw [restoredShape]
        split
        · next heq =>
          cases old with
          | none => cases heq
          | some _ => rfl
        · rfl
      · next hno =>
        refine hold.resolve_right ?_
        rintro ⟨_, _, hyes⟩
        exact hno hyes

theorem Attached.ready (ha : Attached E d h) : Ready E d h := by
  obtain ⟨bs, exports, b, hon, hb, -, hclean⟩ := ha.node
  refine ⟨ha.registry, ha.alone, bs, exports, hon, hclean, ?_⟩
  have hold : (shape bs CBT_ACTIVE_BITMAP).isSome := by rw [shape, hb]; rfl
  rw [loopShape, lookup_items]
  split
  · next payload hp =>
    refine preparedShape_isSome (.inl hold) fun p hpay => ?_
    subst hpay
    exact ha.saved _ p hp
  · exact hold

theorem Alone.of_others (ha : Alone qd h) (ho : Others qd h h') : Alone qd h' := ha.of_arrive ho

/-- Writes keep the node in hand and its bitmaps. -/
theorem foldl_guestWrite_on (ws : List GuestWrite) (hon : h.On qd bs (some socket) exports) :
    (ws.foldl Host.guestWrite h).On qd
      (Bitmaps.recordAll bs (arriving qd.qmp_sock qd.block_node_name ws)) (some socket) exports := by
  obtain ⟨p, hp, hbs, hn, he⟩ := hon
  obtain ⟨hbs', hn', he'⟩ := Host.On.arrive hbs hn he ws
  refine ⟨_, ?_, hbs', hn', he'⟩
  rw [(foldl_guestWrite ws h).1, hp]
  rfl

/-- The migration leaves the file under the new key alone. -/
theorem get?_migratePickles {pickles : Dict (String × String) (Option Persisted)}
    {sr_uri legacy_key new_key : String} {data : Option Persisted} (hne : legacy_key ≠ new_key)
    (hnew : pickles.get? (sr_uri, new_key) = some data) :
    (migratePickles pickles sr_uri legacy_key new_key).get? (sr_uri, new_key) = some data := by
  rw [migratePickles, hnew]
  split
  · exact hnew
  · dsimp only
    rw [Dict.get?_erase, if_neg (by simpa using Ne.symm hne)]
    exact hnew

/-- **A cycle** leaves the volume ready for the next one, and what it saved stale: the daemon that showed
the bitmaps is gone. -/
theorem cycle_stale (hE : ∀ n, E.fault n = false) {sr_uri : String}
    (hsr : resolveSrUri E d = some sr_uri) (hkey : E.deviceKey d ≠ vdiUuidFromDevicePath d)
    (hready : Ready E d h) (ws : List GuestWrite) :
    Ready E d (cycle E d h ws) ∧ Stale d sr_uri (daemonOf (E.deviceKey d)) (cycle E d h ws) := by
  obtain ⟨bs, exports, hon, hclean, hsome⟩ := hready.node
  -- activation
  have hfound : found E h d = some (daemonOf (E.deviceKey d)) := by rw [found, hready.registry]
  obtain ⟨h₁, bs₁, hact, hon₁, hsh₁⟩ := activate_shape hE hfound hon
  obtain ⟨hreg₁, hoth₁⟩ := activate_frame hfound
  rw [after_of_ok hact] at hreg₁ hoth₁
  have hactive₁ : (bs₁.get? CBT_ACTIVE_BITMAP).isSome := by
    have := hsh₁ CBT_ACTIVE_BITMAP ▸ hsome
    rwa [shape, Option.isSome_map] at this
  -- writes
  obtain ⟨-, hreg₂, -⟩ := foldl_guestWrite (s := "") ws h₁
  have hon₂ := foldl_guestWrite_on ws hon₁
  have hoth₂ : Others (daemonOf (E.deviceKey d)) h₁ (ws.foldl Host.guestWrite h₁) :=
    fun s _ => ⟨ws, (foldl_guestWrite (s := s) ws h₁).1⟩
  rw [← sameNames_recordAll bs₁ (arriving _ _ ws)] at hactive₁
  -- deactivation
  have hreg₂' : (ws.foldl Host.guestWrite h₁).registry.get? (E.deviceKey d) =
      some (daemonOf (E.deviceKey d)) := by rw [hreg₂, hreg₁, hready.registry]
  have hfound₂ : found E (ws.foldl Host.guestWrite h₁) d = some (daemonOf (E.deviceKey d)) := by
    rw [found, hreg₂']
  obtain ⟨payload, hsaved, hall, hthere⟩ := deactivate_saves hE hsr hreg₂' hon₂ hactive₁ hclean
  obtain ⟨hreg₃, hoth₃⟩ := deactivate_frame hfound₂
  -- detaching and attaching
  rw [hreg₂, hreg₁] at hreg₃
  obtain ⟨hreg₄, hpk₄, hoth₄⟩ := detach_quits hE (hreg₃ ▸ hready.registry)
  obtain ⟨hreg₅, hpk₅, hoth₅, bs₅, exports₅, hon₅, hclean₅⟩ := attach_spawns hE hreg₄
  have hcycle : cycle E d h ws = after (attach E d) (after (detach E d)
      (after (deactivate E d) (ws.foldl Host.guestWrite h₁))) := by
    rw [cycle, after_of_ok hact]
  rw [hcycle]
  rw [← hpk₄, ← hpk₅] at hsaved
  refine ⟨⟨hreg₅, ?_, bs₅, exports₅, hon₅, hclean₅, ?_⟩, payload, hsaved, hall, hthere⟩
  · exact hready.alone.of_others (hoth₁.trans (hoth₂.trans (hoth₃.trans (hoth₄.trans hoth₅))))
  · have hpayload : savedPayload E (after (attach E d) (after (detach E d)
        (after (deactivate E d) (ws.foldl Host.guestWrite h₁)))) d = payload := by
      rw [savedPayload, hsr]
      dsimp only
      rw [get?_migratePickles hkey hsaved]
    obtain ⟨single, hsingle⟩ := Option.isSome_iff_exists.1 hthere
    obtain ⟨g, count, hg, rfl⟩ := hall _ _ hsingle
    rw [hpayload, loopShape, lookup_items, hsingle]
    refine preparedShape_isSome (.inr ⟨_, rfl, by decide⟩) fun p hp => ?_
    cases hp
    simpa [payloadShape] using hg

theorem cycles_stale (hE : ∀ n, E.fault n = false) {sr_uri : String}
    (hsr : resolveSrUri E d = some sr_uri) (hkey : E.deviceKey d ≠ vdiUuidFromDevicePath d)
    (wss : List (List GuestWrite)) {h : Host} (hready : Ready E d h) :
    Ready E d (cycles E d h wss) ∧
      (wss ≠ [] → Stale d sr_uri (daemonOf (E.deviceKey d)) (cycles E d h wss)) := by
  induction wss generalizing h with
  | nil => exact ⟨hready, fun hne => absurd rfl hne⟩
  | cons ws wss ih =>
      obtain ⟨hnext, hstale⟩ := cycle_stale hE hsr hkey hready ws
      refine ⟨(ih hnext).1, fun _ => ?_⟩
      cases wss with
      | nil => exact hstale
      | cons ws' wss => exact (ih hnext).2 (by simp)

/-! ### The report -/

/-- Nobody serves an export that the process in hand does not have. -/
theorem fetch_gone {nbd : Option String} {name : String} (context : String) (halone : Alone qd h)
    (hon : h.On qd bs nbd exports) (hex : exports.get? name = none) :
    h.fetch qd.nbd_unix_sock name context = .error .nbd := by
  obtain ⟨p, hp, -, -, he⟩ := hon
  rw [Host.fetch]
  split
  · rfl
  · next q hq =>
    obtain ⟨s, hs⟩ := Dict.mem_values.1 (List.mem_of_find?_eq_some hq)
    have hs' := Dict.get?_eq_some_iff.2 hs
    have hsock := halone s q hs' (by simpa using List.find?_some hq)
    rw [hsock, hp, Option.some.injEq] at hs'
    subst hs'
    rw [he, hex]

/-- **The report on a stale file** has no bits. -/
theorem stale_report {sr : String} (hstale : Stale d ("file://" ++ sr) qd h) (halone : Alone qd h)
    {nbd : Option String} (hon : h.On qd bs nbd exports)
    (hclean : ∀ n, exports.get? ("cbt_" ++ n) = none) (older : String) (offset length : ℕ) :
    ∃ r, listChangedBlocks h.cbtEnv sr older (vdiUuidFromDevicePath d) offset length = .ok r ∧
      r.granularity = reportGranularity h.cbtEnv (onRecord sr (vdiUuidFromDevicePath d) h) ∧
      ∀ b, r.test b = false := by
  obtain ⟨multi, hload, hall, -⟩ := hstale
  have hload' : h.cbtEnv.load ("file://" ++ sr) (vdiUuidFromDevicePath d) =
      .ok (some (.dict multi)) := by
    simp [Host.cbtEnv, hload]
  have hrecord : onRecord sr (vdiUuidFromDevicePath d) h = multi := by rw [onRecord, hload]
  obtain ⟨r, hr, hgran, htest⟩ := @listChangedBlocks_spec _ sr older _ _ hload' offset length
  refine ⟨r, hr, by rw [hgran, hrecord], fun b => ?_⟩
  rw [← Bool.not_eq_true, htest]
  rintro ⟨-, ⟨name, single⟩, hin, extents, hanswer, -⟩
  obtain ⟨g, count, -, rfl⟩ := hall name single (Dict.get?_eq_some_iff.2 hin)
  have hfetch := (extractDirtyExtents_of_answer hanswer).2
  have hgone := fetch_gone ("qemu:dirty-bitmap:" ++ name) halone hon (hclean name)
  simp only [extractDirtyExtents, descriptor, getKey, bind, Except.bind, Host.cbtEnv, hgone] at hfetch
  cases hfetch

/-- **After any number of cycles the report has the blocks that were written in them exactly when no
requested block was written.** -/
theorem durable_iff (E : Env) (hE : ∀ n, E.fault n = false) (d sr older : String)
    (hsr : resolveSrUri E d = some ("file://" ++ sr)) (hkey : E.deviceKey d ≠ vdiUuidFromDevicePath d)
    (h : Host) (hstart : Attached E d h) (wss : List (List GuestWrite)) (offset length : ℕ) :
    Durable (daemonOf (E.deviceKey d)) sr older (vdiUuidFromDevicePath d) (cycles E d h wss) offset
        length ↔
      NothingWritten (daemonOf (E.deviceKey d)) sr (vdiUuidFromDevicePath d) (cycles E d h wss) offset
        length := by
  by_cases hwss : wss = []
  · -- nothing was written, and the report exists
    subst hwss
    have hnothing (g k : ℕ) :
        ¬ Touched (written (daemonOf (E.deviceKey d)) (cycles E d h []).trace) g k := by
      rw [cycles, List.foldl_nil, hstart.trace]
      exact not_touched_nil g k
    obtain ⟨r, hr⟩ := exists_listChangedBlocks (cycles E d h []).cbtEnv sr older
      (vdiUuidFromDevicePath d) offset length
    exact iff_of_true ⟨r, hr, fun b _ ht => absurd ht (hnothing _ _)⟩ fun b _ => hnothing _ _
  · obtain ⟨hready, hstale⟩ := cycles_stale hE hsr hkey wss hstart.ready
    obtain ⟨bs, exports, hon, hclean, -⟩ := hready.node
    obtain ⟨r, hr, hgran, hnone⟩ :=
      stale_report (hstale hwss) hready.alone hon hclean older offset length
    rw [NothingWritten, ← hgran]
    constructor
    · rintro ⟨r', hr', hall⟩ b hb ht
      cases hr.symm.trans hr'
      exact Bool.false_ne_true ((hnone b).symm.trans (hall b hb ht))
    · exact fun hnothing => ⟨r, hr, fun b hb ht => absurd ht (hnothing b hb)⟩

/-- The host of a volume that its daemon serves and tracks. -/
def servedHost : Host where
  processes := Dict.empty.set (daemonOf "/dev/zvol/tank/vdi").qmp_sock
    ⟨[], Dict.empty.set BLOCK_NODE_NAME
      (Dict.empty.set "cbt-active" ⟨65536, default_granularity_pos, true, []⟩),
      some (daemonOf "/dev/zvol/tank/vdi").nbd_unix_sock, Dict.empty⟩
  registry := Dict.empty.set "/dev/zvol/tank/vdi" (daemonOf "/dev/zvol/tank/vdi")
  pickles := Dict.empty
  nbd_server_running := false
  clock := 0
  trace := []

theorem attached_servedHost : Attached (quietEnv none) "/dev/zvol/tank/vdi" servedHost := by
  refine ⟨rfl, ⟨_, _, _, ⟨_, rfl, rfl, rfl, rfl⟩, rfl, rfl, fun _ => rfl⟩, fun s p hs _ => ?_,
    fun name payload hp => ?_, rfl⟩
  · rw [servedHost, Dict.get?_set] at hs
    split at hs
    · next heq => exact heq
    · cases hs
  · have hnone : (savedPayload (quietEnv none) servedHost "/dev/zvol/tank/vdi").items = [] := by
      decide +kernel
    have := Dict.get?_eq_some_iff.1 hp
    rw [hnone] at this
    cases this

/-- A write to the third block, and one to the fourth. -/
def elsewhere : List (List GuestWrite) :=
  [[⟨(daemonOf "/dev/zvol/tank/vdi").qmp_sock, BLOCK_NODE_NAME, ⟨131072, 512⟩⟩],
    [⟨(daemonOf "/dev/zvol/tank/vdi").qmp_sock, BLOCK_NODE_NAME, ⟨196608, 4096⟩⟩]]

theorem durable_iff_elsewhere :
    Durable (daemonOf "/dev/zvol/tank/vdi") "/var/run/sr-mount/sr" "s1"
        (vdiUuidFromDevicePath "/dev/zvol/tank/vdi")
        (cycles (quietEnv none) "/dev/zvol/tank/vdi" servedHost elsewhere) 0 65536 ↔
      NothingWritten (daemonOf "/dev/zvol/tank/vdi") "/var/run/sr-mount/sr"
        (vdiUuidFromDevicePath "/dev/zvol/tank/vdi")
        (cycles (quietEnv none) "/dev/zvol/tank/vdi" servedHost elsewhere) 0 65536 :=
  durable_iff (quietEnv none) (fun _ => rfl) "/dev/zvol/tank/vdi" "/var/run/sr-mount/sr" "s1"
    (by decide +kernel) (by decide +kernel) servedHost attached_servedHost elsewhere 0 65536

/-- **A write of one cycle is not in the report.** -/
theorem not_durable_one_cycle : ¬ ∀ (E : Env) (_ : ∀ n, E.fault n = false) (d sr older : String)
    (_ : resolveSrUri E d = some ("file://" ++ sr)) (_ : E.deviceKey d ≠ vdiUuidFromDevicePath d)
    (h : Host) (_ : Attached E d h) (wss : List (List GuestWrite)) (offset length : ℕ),
    Durable (daemonOf (E.deviceKey d)) sr older (vdiUuidFromDevicePath d) (cycles E d h wss) offset
      length := by
  intro hall
  have hsr : resolveSrUri (quietEnv none) "/dev/zvol/tank/vdi" =
      some ("file://" ++ "/var/run/sr-mount/sr") := by decide +kernel
  have hkey : (quietEnv none).deviceKey "/dev/zvol/tank/vdi" ≠
      vdiUuidFromDevicePath "/dev/zvol/tank/vdi" := by decide +kernel
  let ws : List GuestWrite :=
    [⟨(daemonOf "/dev/zvol/tank/vdi").qmp_sock, BLOCK_NODE_NAME, ⟨0, 512⟩⟩]
  obtain ⟨r, hr, hbits⟩ := hall (quietEnv none) (fun _ => rfl) "/dev/zvol/tank/vdi"
    "/var/run/sr-mount/sr" "s1" hsr hkey servedHost attached_servedHost [ws] 0 65536
  obtain ⟨hready, hstale⟩ := cycles_stale (E := quietEnv none) (fun _ => rfl) hsr hkey [ws]
    attached_servedHost.ready
  obtain ⟨bs, exports, hon, hclean, -⟩ := hready.node
  obtain ⟨r', hr', -, hnone⟩ := stale_report (hstale (by simp)) hready.alone hon hclean "s1" 0
    65536
  cases hr.symm.trans hr'
  have hgran : r.granularity = 65536 := by
    have : (match listChangedBlocks (cycles (quietEnv none) "/dev/zvol/tank/vdi" servedHost
        [ws]).cbtEnv "/var/run/sr-mount/sr" "s1" (vdiUuidFromDevicePath "/dev/zvol/tank/vdi") 0 65536 with
      | .ok r => r.granularity
      | .error _ => 0) = 65536 := by decide +kernel
    rwa [hr] at this
  have hwritten : written (daemonOf "/dev/zvol/tank/vdi")
      (cycles (quietEnv none) "/dev/zvol/tank/vdi" servedHost [ws]).trace = [⟨0, 512⟩] := by
    decide +kernel
  have hbit := hbits 0 (by rw [hgran]; decide) ?_
  · exact Bool.false_ne_true ((hnone 0).symm.trans hbit)
  · refine ⟨⟨0, 512⟩, ?_, 0, ⟨Nat.zero_le _, (by decide : 0 < 0 + 512)⟩, ?_⟩
    · have hmem := List.mem_singleton_self (⟨0, 512⟩ : Write)
      rwa [← hwritten] at hmem
    · rw [hgran]

end Cbt

/-
**Whose bitmaps the hooks touch.**

A volume that no daemon of the driver serves is looked for among the qemu processes of xenopsd.  The
scan asks one process after the other, and takes the first one with a drive on the device or, where
there is no such drive, with any drive that has dirty bitmaps.

Main definitions:

* `Cbt.Carries` — a process has the device in a drive;
* `Cbt.Issues` — the commands that a program issues;
* `Cbt.Isolated` — a hook works on the node of its own device only.

Main results:

* `Cbt.isolation_iff` — **the scan finds the device's own process, and the hooks keep to it, exactly
  when no process with bitmaps comes before the first one that has the device**;
* `Cbt.not_isolation_foreign_bitmap` — a hook that clears the bitmap of another volume.
-/

import ZfsLive.CbtCapture

set_option relaxedAutoImplicit false
set_option autoImplicit false

namespace Cbt

open Qemu ChangedBlocks Wp

/-! ### The process that carries a device -/

/-- A drive of the process, on this node, is the device. -/
def Carries (E : Env) (p : Process) (device_path node : String) : Prop :=
  device_path ≠ "" ∧ ∃ block ∈ p.drives, truthy block.node_name = some node ∧
    ∃ block_file, truthy block.file = some block_file ∧ sameDevice E device_path block_file = true

/-- The scan returns a process only if it has the device, on that node, and nothing where no process
has it. -/
def LookupCorrect (E : Env) (h : Host) (device_path : String) : Prop :=
  ∃ r h', findXenopsdQemuForDevice E device_path h = .ok r h' ∧
    (∀ qd, r = some qd → ∃ p, h.processes.get? qd.qmp_sock = some p ∧
      Carries E p device_path qd.block_node_name) ∧
    ((∀ s p node, h.processes.get? s = some p → ¬ Carries E p device_path node) → r = none)

/-- The node belongs to the device: to the daemon that is registered for it, or to a process of
xenopsd that has it in a drive on that node. -/
def Own (E : Env) (h : Host) (device_path qmp_sock node : String) : Prop :=
  (∃ qd, h.registry.get? (E.deviceKey device_path) = some qd ∧ qd.qmp_sock = qmp_sock ∧
      qd.block_node_name = node) ∨
    ∃ p, h.processes.get? qmp_sock = some p ∧ Carries E p device_path node

/-- The program lists and changes the bitmaps of the device's own node only. -/
def Isolated (E : Env) (h : Host) (device_path : String) (m : CbtM Unit) : Prop :=
  ∃ news, (after m h).trace = news ++ h.trace ∧ ∀ s c, Event.command s c ∈ news → c ≠ .queryBlock →
    ∃ node, Own E h device_path s node ∧ (c.node = none ∨ c.node = some node)

/-- The socket with this number answers, and this process is behind it. -/
def Answers (E : Env) (h : Host) (n : ℕ) (socks : List String) (i : ℕ) (p : Process) : Prop :=
  ∃ sock, socks[i]? = some sock ∧ E.fault (n + i) = false ∧ h.processes.get? sock = some p

/-- A process that answers and has a drive with bitmaps does not come before the first one that answers
and has the device. -/
def NoForeignBitmap (E : Env) (h : Host) (device_path : String) : Prop :=
  ∀ i p, Answers E h h.clock (E.xenSockets.getD []) i p → nodeByBitmaps p ≠ none →
    ∃ j ≤ i, ∃ q node, Answers E h h.clock (E.xenSockets.getD []) j q ∧ Carries E q device_path node

/-! ### The lookup -/

variable {E : Env} {h : Host} {p : Process} {d node : String} {α β : Type}

theorem carries_of_nodeByPath (hn : nodeByPath E p d = some node) : Carries E p d node := by
  rw [nodeByPath] at hn
  split at hn
  · cases hn
  · next hd =>
    obtain ⟨block, hblock, hb⟩ := List.exists_of_findSome?_eq_some hn
    split at hb
    · next n f hnode hfile =>
      split at hb
      · next hsame =>
        cases hb
        exact ⟨hd, block, hblock, hnode, f, hfile, hsame⟩
      · cases hb
    · cases hb

theorem not_carries_of_nodeByPath (hn : nodeByPath E p d = none) : ¬ Carries E p d node := by
  rintro ⟨hd, block, hblock, hnode, f, hfile, hsame⟩
  rw [nodeByPath, if_neg hd, List.findSome?_eq_none_iff] at hn
  have := hn block hblock
  simp [hnode, hfile, hsame] at this

/-- **The search is right exactly when no process with bitmaps comes before the device's own.** -/
theorem firstMatch_correct_iff (socks : List String) (n : ℕ) :
    (∀ qd, firstMatch E h d n socks = some qd → ∃ p, h.processes.get? qd.qmp_sock = some p ∧
        Carries E p d qd.block_node_name) ↔
      ∀ i p, Answers E h n socks i p → nodeByBitmaps p ≠ none →
        ∃ j ≤ i, ∃ q node, Answers E h n socks j q ∧ Carries E q d node := by
  induction socks generalizing n with
  | nil =>
      refine ⟨fun _ i p hp => ?_, fun _ qd hqd => by cases hqd⟩
      obtain ⟨sock, hsock, _⟩ := hp
      simp at hsock
  | cons sock socks ih =>
      -- the sockets behind the first one are asked one command later
      have hshift : ∀ i p, Answers E h n (sock :: socks) (i + 1) p ↔
          Answers E h (n + 1) socks i p := by
        intro i p
        simp only [Answers, List.getElem?_cons_succ, Nat.add_assoc, Nat.add_comm 1 i]
      have hhead : ∀ p, Answers E h n (sock :: socks) 0 p ↔
          E.fault n = false ∧ h.processes.get? sock = some p := by
        intro p
        simp [Answers]
      rw [firstMatch]
      rcases hask : askSocket E h d n sock with _ | node
      · -- no answer, or neither the device nor bitmaps
        have hnone : ∀ p, Answers E h n (sock :: socks) 0 p →
            nodeByBitmaps p = none ∧ ∀ node, ¬ Carries E p d node := by
          intro p hp
          obtain ⟨hf, hp⟩ := (hhead p).1 hp
          rw [askSocket, hf, hp] at hask
          have hdet : (nodeByPath E p d).or (nodeByBitmaps p) = none := hask
          obtain ⟨h₁, h₂⟩ := Option.or_eq_none_iff.1 hdet
          exact ⟨h₂, fun node => not_carries_of_nodeByPath h₁⟩
        simp only
        rw [ih]
        constructor
        · intro hall i p hp hb
          cases i with
          | zero => exact absurd (hnone p hp).1 hb
          | succ i =>
              obtain ⟨j, hj, q, node, hq, hc⟩ := hall i p ((hshift i p).1 hp) hb
              exact ⟨j + 1, by omega, q, node, (hshift j q).2 hq, hc⟩
        · intro hall i p hp hb
          obtain ⟨j, hj, q, node, hq, hc⟩ := hall (i + 1) p ((hshift i p).2 hp) hb
          cases j with
          | zero => exact absurd hc ((hnone q hq).2 node)
          | succ j => exact ⟨j, by omega, q, node, (hshift j q).1 hq, hc⟩
      · obtain ⟨p, hf, hp, hdet⟩ : ∃ p, E.fault n = false ∧ h.processes.get? sock = some p ∧
            (nodeByPath E p d).or (nodeByBitmaps p) = some node := by
          rw [askSocket] at hask
          split at hask
          · cases hask
          · next hf =>
            obtain ⟨p, hp, hdet⟩ := Option.bind_eq_some_iff.1 hask
            exact ⟨p, by simpa using hf, hp, hdet⟩
        have hans : Answers E h n (sock :: socks) 0 p := (hhead p).2 ⟨hf, hp⟩
        constructor
        · intro hall i p' hp' hb
          obtain ⟨q, hq, hc⟩ := hall _ rfl
          obtain rfl : p = q := Option.some.inj (hp.symm.trans hq)
          exact ⟨0, Nat.zero_le i, p, node, hans, hc⟩
        · intro hall qd hqd
          cases hqd
          refine ⟨p, hp, ?_⟩
          rcases hpath : nodeByPath E p d with _ | node'
          · -- found by its bitmaps, so that it should have the device
            rw [hpath, Option.none_or] at hdet
            obtain ⟨j, hj, q, node', hq, hc⟩ := hall 0 p hans (by simp [hdet])
            obtain rfl : j = 0 := by omega
            obtain rfl : p = q := Option.some.inj (hp.symm.trans ((hhead q).1 hq).2)
            exact absurd hc (not_carries_of_nodeByPath hpath)
          · rw [hpath, Option.some_or] at hdet
            cases hdet
            exact carries_of_nodeByPath hpath

theorem lookupCorrect_iff : LookupCorrect E h d ↔ NoForeignBitmap E h d := by
  obtain ⟨h', hscan, _⟩ := scanSockets_eq E d (E.xenSockets.getD []) h
  rw [NoForeignBitmap, ← firstMatch_correct_iff]
  constructor
  · rintro ⟨r, h'', hr, hcarries, _⟩
    cases hscan.symm.trans hr
    exact hcarries
  · intro hcarries
    refine ⟨_, h', hscan, hcarries, fun hnone => ?_⟩
    rcases hm : firstMatch E h d h.clock (E.xenSockets.getD []) with _ | qd
    · rfl
    · obtain ⟨p, hp, hc⟩ := hcarries qd hm
      exact absurd hc (hnone _ p _ hp)

/-! ### The commands that a program issues -/

/-- The command is to the process in hand, and to no other node of it. -/
def OnNode (qd : QemuDisk) (s : String) (c : Command) : Prop :=
  s = qd.qmp_sock ∧ (c.node = none ∨ c.node = some qd.block_node_name)

/-- All commands between two states are to the node in hand; the other processes got their writes. -/
def Works (qd : QemuDisk) (h h' : Host) : Prop :=
  ∃ news, Went qd h h' news ∧ ∀ s c, Event.command s c ∈ news → OnNode qd s c

instance (qd : QemuDisk) : Std.Refl (Works qd) :=
  ⟨fun h => ⟨[], .refl h, by simp⟩⟩

instance (qd : QemuDisk) : IsTrans Host (Works qd) := by
  refine ⟨fun h₁ h₂ h₃ h h' => ?_⟩
  obtain ⟨news, hw, hall⟩ := h
  obtain ⟨news', hw', hall'⟩ := h'
  refine ⟨news' ++ news, hw.trans hw', fun s c hc => ?_⟩
  rcases List.mem_append.1 hc with hc | hc
  · exact hall' s c hc
  · exact hall s c hc

/-- All commands that the program issues are to the node in hand. -/
def Issues (qd : QemuDisk) (m : CbtM α) : Prop := Preserves (Works qd) m

/-- Time passes. -/
theorem works_next (E : Env) (qd : QemuDisk) (h : Host) : Works qd h (h.next E) := by
  refine ⟨_, went_next E qd h, fun s c hc => ?_⟩
  simp [Env.news] at hc

/-- A command to the node in hand. -/
theorem issues_command (E : Env) (qd : QemuDisk) {c : Command}
    (hc : c.node = none ∨ c.node = some qd.block_node_name) :
    Issues qd (qmpCommand E qd.qmp_sock c) := by
  intro h
  obtain ⟨ht, hr, ho⟩ := went_next E qd h
  -- the trace has the command, whether it succeeds or not
  have hwent : ∀ h' : Host, h'.trace = .command qd.qmp_sock c :: (h.next E).trace →
      h'.registry = (h.next E).registry →
      (∀ s, s ≠ qd.qmp_sock → h'.processes.get? s = (h.next E).processes.get? s) →
      Works qd h h' := by
    intro h' ht' hr' ho'
    refine ⟨E.news h.clock [.command qd.qmp_sock c], ⟨?_, hr'.trans hr, fun s hs => ?_⟩,
      fun s c' hc' => ?_⟩
    · rw [ht', ht]
      rfl
    · rw [ho' s hs, ho s hs, Env.news, Env.news, guestWrites_append]
      simp [guestWrites]
    · simp only [Env.news, List.singleton_append, List.mem_cons, Event.command.injEq,
        List.mem_reverse, List.mem_map, reduceCtorEq, and_false, exists_false, or_false] at hc'
      rw [hc'.1, hc'.2]
      exact ⟨rfl, hc⟩
  rw [after, qmpCommand]
  split
  · next hres =>
    split at hres
    · cases hres
    · split at hres
      · cases hres
      · split at hres <;> cases hres
        exact hwent _ rfl rfl fun s hs => (Dict.get?_set ..).trans (if_neg hs)
  · next hres =>
    split at hres
    · cases hres
      split
      · obtain ⟨ht', hr', -, -, -, ho'⟩ := execute_frame
          { h.next E with trace := .command qd.qmp_sock c :: (h.next E).trace } qd.qmp_sock c
        exact hwent _ ht' hr' ho'
      · exact hwent _ rfl rfl fun _ _ => rfl
    · split at hres
      · cases hres
        exact hwent _ rfl rfl fun _ _ => rfl
      · split at hres <;> cases hres
        exact hwent _ rfl rfl fun _ _ => rfl

/-- A change of the saved bitmaps. -/
theorem issues_fileCommand (E : Env) (qd : QemuDisk) {f : Host → Except QmpError (α × Host)}
    (hf : ∀ h a h', f h = .ok (a, h') →
      h'.trace = h.trace ∧ h'.registry = h.registry ∧ h'.processes = h.processes) :
    Issues qd (fileCommand E f) := by
  intro h
  have hnext := works_next E qd h
  rw [after, fileCommand]
  split
  · next hres =>
    split at hres
    · cases hres
    · split at hres
      · cases hres
      · next hok =>
        cases hres
        obtain ⟨news, ⟨ht, hr, ho⟩, hall⟩ := hnext
        obtain ⟨ht', hr', hp'⟩ := hf _ _ _ hok
        exact ⟨news, ⟨ht'.trans ht, hr'.trans hr, fun s hs => by rw [hp', ho s hs]⟩, hall⟩
  · next hres =>
    split at hres
    · cases hres
      exact hnext
    · split at hres
      · cases hres
        exact hnext
      · cases hres

section

variable (E : Env) (qd : QemuDisk)

theorem issues_cbtListBitmaps : Issues qd (cbtListBitmaps E qd) :=
  .bind (issues_command E qd (.inl rfl)) fun _ => .pure _

theorem issues_exportBitmap (name : String) : Issues qd (exportBitmap E qd name) := by
  refine .bind (.bind (issues_command E qd (.inr rfl)) fun _ => .pure _) fun _ => ?_
  refine .bind (issues_cbtListBitmaps E qd) fun bitmaps => ?_
  split
  · exact .throw _
  · refine .bind (.bind ?_ fun _ => ?_) fun _ => .pure _
    · -- the NBD server is started if it does not run
      refine .bind (.of_after_eq fun _ => rfl) fun h => ?_
      split
      · exact .pure _
      · refine .bind (.tryCatch (.bind (issues_command E qd (.inl rfl)) fun _ => .pure _) fun e => ?_)
          fun _ h =>
            ⟨[], ⟨rfl, rfl, fun _ _ => (congrFun Option.map_id _).symm⟩, by simp⟩
        split
        · exact .pure _
        · exact .throw _
    · exact .bind (issues_command E qd (.inr rfl)) fun _ => .pure _

theorem issues_prepareBitmapFromPayload (name : String) (payload : Single) :
    Issues qd (prepareBitmapFromPayload E qd name payload) := by
  cases payload with
  | other => exact .throw _
  | dict payload =>
      refine .bind (issues_cbtListBitmaps E qd) fun bitmaps => ?_
      dsimp only
      split
      · exact .pure _
      · refine .bind ?_ fun _ => .bind (issues_command E qd (.inr rfl)) fun _ => .pure _
        cases bitmaps.get? name with
        | none => exact .pure _
        | some b => exact .bind (issues_command E qd (.inr rfl)) fun _ => .pure _

theorem issues_exportEach (names : List String) (payload : Dict String Single) :
    Issues qd (exportEach E qd names payload) := by
  induction names generalizing payload with
  | nil => exact .pure _
  | cons name names ih =>
      refine .bind (.tryCatch (.map (issues_exportBitmap E qd name)) fun _ => .pure _) fun r => ?_
      cases r with
      | none => exact ih _
      | some exported => exact ih _

theorem issues_prepareEach (items : List (String × Single)) :
    Issues qd (prepareEach E qd items) := by
  induction items with
  | nil => exact .pure _
  | cons item items ih =>
      obtain ⟨name, payload⟩ := item
      refine .bind ?_ fun _ => ih
      rw [prepareTracking]
      split
      · exact .tryCatch (issues_prepareBitmapFromPayload E qd name payload) fun _ => .pure _
      · exact .pure _

theorem issues_saveCbtMetadata (sr_uri key : String)
    (data : Dict String Single) : Issues qd (saveCbtMetadata E sr_uri key data) :=
  issues_fileCommand E qd fun h a h' hok => by cases hok; exact ⟨rfl, rfl, rfl⟩

theorem issues_migrateQuietly (sr_uri legacy_key new_key : String) :
    Issues qd (migrateQuietly E sr_uri legacy_key new_key) := by
  refine .tryCatch (issues_fileCommand E qd fun h a h' hok => ?_) fun _ => .pure _
  cases hok
  exact ⟨rfl, rfl, rfl⟩

theorem issues_loadCbtMetadata (sr_uri key : String) :
    Issues qd (loadCbtMetadata E sr_uri key) := by
  refine issues_fileCommand E qd fun h a h' hok => ?_
  split at hok
  · cases hok
    exact ⟨rfl, rfl, rfl⟩
  · cases hok
  · cases hok
    exact ⟨rfl, rfl, rfl⟩

theorem issues_persistBitmaps (device_path sr_uri : String) (names : List String) :
    Issues qd (persistBitmaps E qd device_path sr_uri names) := by
  refine .bind (issues_migrateQuietly E qd _ _ _) fun _ => .bind (issues_exportEach E qd _ _) fun _ => ?_
  split
  · exact .pure _
  · exact issues_saveCbtMetadata E qd _ _ _

theorem issues_captureBitmap (granularity : ℕ) (sr snap_uuid : String) :
    Issues qd (captureBitmap E qd granularity sr snap_uuid) := by
  refine .bind (.bind (issues_command E qd (.inr rfl)) fun _ => .pure _) fun _ => ?_
  refine .bind (.bind (issues_command E qd (.inr rfl)) fun _ => .pure _) fun _ => ?_
  refine .bind (.bind (issues_command E qd (.inr rfl)) fun _ => .pure _) fun _ => ?_
  refine .bind (.bind (issues_command E qd (.inr rfl)) fun _ => .pure _) fun _ => ?_
  refine .bind (.bind (issues_command E qd (.inr rfl)) fun _ => .pure _) fun _ => ?_
  exact .bind (issues_exportBitmap E qd _) fun _ => issues_saveCbtMetadata E qd _ _ _

end

/-! ### The hooks -/

/-- A hook that works on the process that `findQemu` finds. -/
theorem isolated_of_found {m : Option QemuDisk → CbtM Unit} (hnone : m none = pure ())
    (hsome : ∀ qd, Issues qd (m (some qd))) (hf : NoForeignBitmap E h d) :
    Isolated E h d (findQemu E d >>= m) := by
  obtain ⟨h', hfind, hd⟩ := findQemu_eq E h d
  obtain ⟨news, hnews, hev, -⟩ := hd.passed
  have hquery : ∀ s c, Event.command s c ∈ news → c = .queryBlock := by
    intro s c hc
    rcases hev _ hc with ⟨w, hw⟩ | ⟨s', hs'⟩
    · cases hw
    · cases hs'
      rfl
  rw [Isolated, after, bind_ok hfind, ← after]
  rcases hfound : found E h d with _ | qd
  · rw [hnone]
    exact ⟨news, hnews, fun s c hc hne => absurd (hquery s c hc) hne⟩
  · obtain ⟨news', hw, hall⟩ := hsome qd h'
    refine ⟨news' ++ news, by rw [hw.trace, hnews, List.append_assoc], fun s c hc hne => ?_⟩
    rcases List.mem_append.1 hc with hc | hc
    · obtain ⟨rfl, hnode⟩ := hall s c hc
      refine ⟨qd.block_node_name, ?_, hnode⟩
      rw [found] at hfound
      split at hfound
      · next qd' hreg =>
        cases hfound
        exact .inl ⟨_, hreg, rfl, rfl⟩
      · exact .inr (((firstMatch_correct_iff _ _).2 hf) qd hfound)
    · exact absurd (hquery s c hc) hne

/-- An activation works on the process that it finds. -/
theorem issues_activation (E : Env) (qd : QemuDisk) (device_path : String) :
    Issues qd (match resolveSrUri E device_path with
      | none => return ()
      | some sr_uri => do
          migrateQuietly E sr_uri (E.deviceKey device_path) (vdiUuidFromDevicePath device_path)
          match ← loadCbtMetadata E sr_uri (vdiUuidFromDevicePath device_path) with
          | some (.dict payload) => prepareEach E qd payload.items
          | _ => return ()) := by
  split
  · exact .pure _
  · refine .bind (issues_migrateQuietly E qd _ _ _) fun _ =>
      .bind (issues_loadCbtMetadata E qd _ _) fun r => ?_
    split
    · exact issues_prepareEach E qd _
    · exact .pure _

/-- A deactivation works on the process that it finds. -/
theorem issues_deactivation (E : Env) (qd : QemuDisk) (device_path : String) :
    Issues qd (do
      let all_bitmaps ← cbtListBitmaps E qd
      let names := all_bitmaps.keys.filter isPersistentTrackingBitmap
      match names, resolveSrUri E device_path with
      | _ :: _, some sr_uri => persistBitmaps E qd device_path sr_uri names
      | _, _ => return ()) := by
  refine .bind (issues_cbtListBitmaps E qd) fun _ => ?_
  dsimp only
  split
  · exact issues_persistBitmaps E qd _ _ _
  · exact .pure _

/-- The hooks of a device work on its own node only. -/
def HooksIsolated (E : Env) (h : Host) (device_path : String) : Prop :=
  Isolated E h device_path (cbtRestoreOnActivate E device_path) ∧
    Isolated E h device_path (cbtPersistOnDeactivate E device_path) ∧
    ∀ sr sr_dataset vdi_uuid snap_uuid, device_path = devicePath sr_dataset vdi_uuid →
      Isolated E h device_path (cbtCaptureAtSnapshot E sr sr_dataset vdi_uuid snap_uuid)

theorem hooksIsolated (hf : NoForeignBitmap E h d) : HooksIsolated E h d := by
  refine ⟨isolated_of_found rfl (fun qd => issues_activation E qd d) hf,
    isolated_of_found rfl (fun qd => issues_deactivation E qd d) hf,
    fun sr sr_dataset vdi_uuid snap_uuid hd => ?_⟩
  subst hd
  refine isolated_of_found rfl (fun qd => ?_) hf
  refine .bind (issues_cbtListBitmaps E qd) fun _ => ?_
  split
  · exact .pure _
  · exact issues_captureBitmap E qd _ _ _

/-- **The scan finds the device's own process, and the hooks keep to it, exactly when no process with
bitmaps comes before the first one that has the device.** -/
theorem isolation_iff (E : Env) (h : Host) (device_path : String) :
    LookupCorrect E h device_path ∧ HooksIsolated E h device_path ↔
      NoForeignBitmap E h device_path :=
  ⟨fun hl => lookupCorrect_iff.1 hl.1, fun hf => ⟨lookupCorrect_iff.2 hf, hooksIsolated hf⟩⟩

theorem default_granularity_pos : 0 < ChangedBlocks.DEFAULT_CBT_GRANULARITY := by decide

/-- A host with one process of xenopsd, which has another volume of the repository and tracks it. -/
def foreignHost : Host where
  processes := Dict.empty.set "/var/run/xen/qmp-libxl-1"
    ⟨[⟨some "ide0", some "/dev/zvol/tank/other"⟩],
      Dict.empty.set "ide0"
        (Dict.empty.set "cbt-active" ⟨65536, default_granularity_pos, true, [0]⟩), none, Dict.empty⟩
  registry := Dict.empty
  pickles := Dict.empty
  nbd_server_running := false
  clock := 0
  trace := []

/-- Surroundings without failures and writes, in which the SR at `tank` has the uuid `sr`. -/
def quietEnv (xenSockets : Option (List String)) : Env where
  realpath := id
  deviceKey := id
  deviceKey_injective := Function.injective_id
  xenSockets := xenSockets
  srProperty dataset := if dataset = "tank" then some "sr" else none
  fault _ := false
  executed _ := false
  writes _ := []

/-- The daemon of a volume in the SR at `tank`, with a bitmap that records. -/
def trackedHost : Host where
  processes := Dict.empty.set "qmp"
    ⟨[], Dict.empty.set BLOCK_NODE_NAME
      (Dict.empty.set "cbt-active" ⟨65536, default_granularity_pos, true, []⟩),
      some "nbd", Dict.empty⟩
  registry := Dict.empty.set "/dev/zvol/tank/vdi" ⟨"qmp", "nbd", BLOCK_NODE_NAME⟩
  pickles := Dict.empty
  nbd_server_running := false
  clock := 0
  trace := []

/-- **A snapshot of a volume that no process has clears the bitmap of another volume.** -/
theorem not_isolation_foreign_bitmap :
    ¬ ∀ (E : Env) (h : Host) (device_path : String),
      LookupCorrect E h device_path ∧ HooksIsolated E h device_path := by
  intro hall
  have hf := lookupCorrect_iff.1
    (hall (quietEnv (some ["/var/run/xen/qmp-libxl-1"])) foreignHost "/dev/zvol/tank/vdi").1
  obtain ⟨j, hj, q, node, ⟨sock, hsock, -, hq⟩, hc⟩ := hf 0 _ ⟨_, rfl, rfl, rfl⟩ (by decide +kernel)
  obtain rfl : j = 0 := by omega
  cases hsock
  cases hq
  obtain ⟨_, block, hblock, _, f, hfile, hsame⟩ := hc
  rw [List.mem_singleton] at hblock
  subst hblock
  cases hfile
  exact absurd hsame (by decide +kernel)

end Cbt

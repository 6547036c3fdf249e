/-
**Copying a VDI to another host** (`src/shim/xe_wrapper.py`).

`_invoke_cross_host_copy` snapshots the source zvol, sends the snapshot to the other host, destroys it
here, and has the other host register what arrived with `Volume.import_existing`.  When a step fails it
undoes what it did and returns `None`, and `main` lets `xe.real` copy once more.

The two hosts have a store and metabases of their own.  A command is seen by its exit status only; a
command over ssh can also fail because the host is not reached, or because the connection is lost when
the command has run.

Main definitions:

* `XeWrapper.Wrapper`, `XeWrapper.Hosts`, `XeWrapper.invokeCrossHostCopy`;
* `XeWrapper.NothingLeft` — no snapshot at the source, no zvol and no row at the destination;
* `XeWrapper.LateFailure` — `import_existing` fails after it has committed.

Main results:

* `XeWrapper.importExisting_cases` — how the schedule decides what `import_existing` does;
* `XeWrapper.nothingLeft_iff` — **a copy that gives up leaves nothing behind exactly when it does not
  fail late**;
* `XeWrapper.not_nothingLeft_used` — the size of the new zvol cannot be read.
-/

import ZfsLive.VolumeRecoveryRuns

set_option relaxedAutoImplicit false
set_option autoImplicit false

namespace XeWrapper

open Zfs Volume Wp

/-! ### The wrapper -/

/-- What the wrapper meets. -/
structure Wrapper where
  src : Env
  dest : Env
  /-- What `uuid4` gives. -/
  newUuid : String
  /-- The metadata of the destination can be read over ssh. -/
  sshReads : Bool
  /-- The clean-up commands are run. -/
  srcCleanup : Bool
  destCleanup : Bool
  /-- `xe.real vdi-param-get`. -/
  vdiParam : String → String → Option String
  /-- `int(text)`, where it raises no `ValueError`. -/
  int : String → Option ℕ
  /-- The destination is reached for `import_existing`. -/
  reached : Bool
  /-- The connection holds until `import_existing` has ended. -/
  connected : Bool

/-- The two hosts. -/
structure Hosts where
  src : World
  dest : World

/-- An exception that the function does not handle. -/
inductive Raised
  | valueError (text : String)
  deriving DecidableEq, Repr

abbrev HostM := EStateM Raised Hosts

/-- Run a command at the source, and tell whether it succeeded. -/
def atSource (m : VolM Unit) : HostM Bool := fun h =>
  match m h.src with
  | .ok _ w => .ok true { h with src := w }
  | .error _ w => .ok false { h with src := w }

/-- The dataset of an SR, from its metadata. -/
def srZfsPath (info : Option SrMeta) : Option (List String) :=
  info.bind fun m => if m.zpool = "" then none else some m.datasetPath

/-- `value or default`. -/
def orDefault (value : Option String) (default : String) : String :=
  if value.getD "" = "" then default else value.getD ""

section

variable (C : Wrapper)

/-- `zfs send | ssh zfs receive`: the pipeline can fail when the target has been received. -/
def sendReceive (snapName : SnapName) (destZvol : ZvolName) : HostM Bool := fun h =>
  let failed := C.dest.fault h.dest.clock
  match h.src.zfs.stream snapName with
  | none => .ok false { h with dest := h.dest.tick }
  | some t =>
      if failed ∧ ¬ C.dest.received h.dest.clock then .ok false { h with dest := h.dest.tick }
      else
        match h.dest.zfs.receiveStream t destZvol with
        | .ok z => .ok (!failed) { h with dest := { h.dest.tick with zfs := z } }
        | .error _ => .ok false { h with dest := h.dest.tick }

/-- `_cleanup_source_snap`. -/
def cleanupSourceSnap (snapName : SnapName) : HostM Unit :=
  modify fun h =>
    match h.src.zfs.destroySnap snapName with
    | .ok z => if C.srcCleanup then { h with src := { h.src with zfs := z } } else h
    | .error _ => h

/-- `_cleanup_dest_zvol`. -/
def cleanupDestZvol (destZvol : ZvolName) : HostM Unit :=
  modify fun h =>
    match h.dest.zfs.destroyRecursive destZvol with
    | .ok z => if C.destCleanup then { h with dest := { h.dest with zfs := z } } else h
    | .error _ => h

/-- `Volume.import_existing` at the destination, over ssh. -/
def importRemote (destSr name description : String) (size : ℕ) : HostM Bool := fun h =>
  if C.reached then
    match importExisting C.dest destSr C.newUuid name description size false h.dest with
    | .ok _ w => .ok C.connected { h with dest := w }
    | .error _ w => .ok false { h with dest := w }
  else
    .ok false h

/-- The size of the source, as xapi tells it. -/
def srcSize (srcVdi : String) : Option ℕ :=
  C.int (orDefault (C.vdiParam srcVdi "virtual-size") "0")

/-- The new zvol gets its row, or goes. -/
def register (srcVdi destSr : String) (destZvol : ZvolName) : HostM (Option String) :=
  match srcSize C srcVdi with
  | none => throw (.valueError (orDefault (C.vdiParam srcVdi "virtual-size") "0"))
  | some size => do
      let name := orDefault (C.vdiParam srcVdi "name-label") ""
      let description := orDefault (C.vdiParam srcVdi "name-description") ""
      if ← importRemote C destSr name description size then
        return some C.newUuid
      else
        cleanupDestZvol C destZvol
        return none

/-- The snapshot that is sent. -/
def snapName (srcZvol : ZvolName) : SnapName := ⟨srcZvol, "xe-wrapper-" ++ C.newUuid⟩

/-- The steps from the snapshot on. -/
def transfer (srcVdi destSr : String) (srcZvol destZvol : ZvolName) : HostM (Option String) := do
  if ← atSource (takeSnapshot C.src (snapName C srcZvol)) then
    if ← sendReceive C (snapName C srcZvol) destZvol then
      cleanupSourceSnap C (snapName C srcZvol)
      register C srcVdi destSr destZvol
    else
      cleanupDestZvol C destZvol
      cleanupSourceSnap C (snapName C srcZvol)
      return none
  else
    return none

/-- The dataset of the destination. -/
def destPath (destSr : String) : Option (List String) :=
  if C.sshReads then srZfsPath (C.dest.srMeta destSr) else none

/-- `_invoke_cross_host_copy`. -/
def invokeCrossHostCopy (srcSr srcVdi destSr : String) : HostM (Option String) :=
  match srZfsPath (C.src.srMeta srcSr) with
  | none => return none
  | some srcBase =>
      match destPath C destSr with
      | none => return none
      | some destBase => transfer C srcVdi destSr ⟨srcBase, srcVdi⟩ ⟨destBase, C.newUuid⟩

end

/-! ### A copy that gives up -/

/-- The source has the snapshots that it had, and the destination the zvols and the rows. -/
structure NothingLeft (destSr : String) (h h' : Hosts) : Prop where
  source : ∀ s, h'.src.zfs.Has s ↔ h.src.zfs.Has s
  zvols : ∀ n, n ∈ h'.dest.zfs.names ↔ n ∈ h.dest.zfs.names
  rows : ∀ v, v ∈ (h'.dest.db destSr).vdis ↔ v ∈ (h.dest.db destSr).vdis

/-- A copy that returns `None` has left nothing behind. -/
def GivesUpClean (C : Wrapper) (srcSr srcVdi destSr : String) (h : Hosts) : Prop :=
  ∀ h', invokeCrossHostCopy C srcSr srcVdi destSr h = .ok none h' → NothingLeft destSr h h'

/-- Nothing has the new uuid. -/
structure Fresh (C : Wrapper) (h : Hosts) : Prop where
  zvols : ∀ n ∈ h.dest.zfs.names, n.vol ≠ C.newUuid
  rows : ∀ sr, ∀ v ∈ (h.dest.db sr).vdis, v.uuid ≠ C.newUuid
  snapshots : ∀ s, h.src.zfs.Has s → s.id ≠ "xe-wrapper-" ++ C.newUuid

/-- No command fails among the `k` commands of the schedule from `c` on. -/
def Calm (E : Env) (c k : ℕ) : Prop := ∀ i < k, E.fault (c + i) = false

/-- The destination registers the new zvol, and fails after the commit: the first seven commands of
`import_existing` succeed, and the last one, or the connection, fails. -/
structure LateFailure (C : Wrapper) (srcSr srcVdi destSr : String) (h : Hosts) : Prop where
  source : ∃ srcBase, srZfsPath (C.src.srMeta srcSr) = some srcBase ∧
    (⟨srcBase, srcVdi⟩ : ZvolName) ∈ h.src.zfs.names
  dest : (destPath C destSr).isSome
  snapshot : C.src.fault h.src.clock = false
  received : C.dest.fault h.dest.clock = false
  size : (srcSize C srcVdi).isSome
  reached : C.reached = true
  committed : Calm C.dest (h.dest.clock + 1) 7
  failed : C.dest.fault (h.dest.clock + 8) = true ∨ C.connected = false

/-! ### Runs of a known number of commands -/

/-- From `w`, the program runs `k` commands and returns `a` in `w'`; a fault among them makes it raise,
with the store and the committed metabases as they were. -/
structure Steps {α : Type} (E : Env) (p : VolM α) (w : World) (k : ℕ) (a : α) (w' : World) : Prop where
  clock : w'.clock = w.clock + k
  ok : Calm E w.clock k → p w = .ok a w'
  error : ¬ Calm E w.clock k → ∃ e w'', p w = .error e w'' ∧ w''.db = w.db ∧ w''.zfs = w.zfs

theorem calm_add {E : Env} {c j k : ℕ} : Calm E c (j + k) ↔ Calm E c j ∧ Calm E (c + j) k := by
  constructor
  · refine fun h => ⟨fun i hi => h i (by omega), fun i hi => ?_⟩
    rw [Nat.add_assoc]
    exact h (j + i) (by omega)
  · rintro ⟨hj, hk⟩ i hi
    by_cases hlt : i < j
    · exact hj i hlt
    · have := hk (i - j) (by omega)
      rwa [Nat.add_assoc, Nat.add_sub_cancel' (by omega)] at this

theorem calm_one {E : Env} {c : ℕ} : Calm E c 1 ↔ E.fault c = false := by
  constructor
  · exact fun h => h 0 (by omega)
  · intro h i hi
    obtain rfl : i = 0 := by omega
    exact h

namespace Steps

variable {α β : Type} {E : Env} {w w₁ w' : World}

theorem command {f : World → Except VolError (α × World)} {a : α} (hf : f w.tick = .ok (a, w'))
    (hclock : w'.clock = w.clock + 1) : Steps E (Volume.command E f) w 1 a w' where
  clock := hclock
  ok hcalm := by
    rw [Volume.command, if_neg (by simp [calm_one.1 hcalm]), hf]
  error hfault := by
    rw [calm_one, Bool.not_eq_false] at hfault
    exact ⟨.fault, w.tick, by rw [Volume.command, if_pos hfault], rfl, rfl⟩

theorem pure (a : α) : Steps E (Pure.pure a) w 0 a w where
  clock := rfl
  ok _ := rfl
  error h := absurd (fun i hi => absurd hi (Nat.not_lt_zero i)) h

/-- One part after the other. -/
theorem bind {p : VolM α} {f : α → VolM β} {j k : ℕ} {a : α} {b : β} (hp : Steps E p w j a w₁)
    (hf : Steps E (f a) w₁ k b w') (hdb : w₁.db = w.db) (hzfs : w₁.zfs = w.zfs) :
    Steps E (p >>= f) w (j + k) b w' where
  clock := by rw [hf.clock, hp.clock, Nat.add_assoc]
  ok hcalm := by
    rw [calm_add, ← hp.clock] at hcalm
    rw [bind_ok (hp.ok hcalm.1), hf.ok hcalm.2]
  error hfault := by
    rw [calm_add, ← hp.clock] at hfault
    by_cases hj : Calm E w.clock j
    · obtain ⟨e, w'', herr, hdb', hzfs'⟩ := hf.error fun hk => hfault ⟨hj, hk⟩
      exact ⟨e, w'', by rw [bind_ok (hp.ok hj), herr], hdb'.trans hdb, hzfs'.trans hzfs⟩
    · obtain ⟨e, w'', herr, hsame⟩ := hp.error hj
      exact ⟨e, w'', bind_error herr, hsame⟩

/-- What is returned at the end costs no command. -/
theorem andReturn {p : VolM α} {k : ℕ} {a : α} (hp : Steps E p w k a w') (b : β) :
    Steps E (p >>= fun _ => Pure.pure b) w k b w' where
  clock := hp.clock
  ok hcalm := by rw [bind_ok (hp.ok hcalm)]; rfl
  error hfault := by
    obtain ⟨e, w'', herr, hsame⟩ := hp.error hfault
    exact ⟨e, w'', bind_error herr, hsame⟩

end Steps

/-! ### `import_existing` -/

/-- The metabase of the repository has one more row: that of the zvol `n`, with its size. -/
structure Registered (sr : String) (n : ZvolName) (w w' : World) : Prop where
  zfs : w'.zfs = w.zfs
  row : ∃ v, (∀ c, c ∈ (w'.db sr).vdis ↔ c = v ∨ c ∈ (w.db sr).vdis) ∧ v.uuid = n.vol ∧
    v.snap = false ∧ v.vsize = some (w.zfs.zvol n).props.volsize

theorem dbContext_steps {α : Type} {E : Env} {w w₁ w₂ w₃ : World} {sr : String} {body : VolM α}
    {k : ℕ} {a : α} (hbegin : Steps E (beginTxn E sr) w 1 () w₁) (hbody : Steps E body w₁ k a w₂)
    (hend : Steps E (do commitTxn E sr; return a) w₂ 1 a w₃) (hdb₁ : w₁.db = w.db)
    (hzfs₁ : w₁.zfs = w.zfs) (hdb₂ : w₂.db = w₁.db) (hzfs₂ : w₂.zfs = w₁.zfs) :
    Steps E (dbContext E sr body) w (1 + (k + 1)) a w₃ := by
  have hrest : Steps E (do
      let a ← body
      commitTxn E sr
      return a) w₁ (k + 1) a w₃ := hbody.bind hend hdb₂ hzfs₂
  exact hbegin.bind hrest hdb₁ hzfs₁

/-- The transaction of `import_existing`, for a zvol that is there and a new uuid. -/
theorem steps_importTxn (E : Env) (name description : String) (size : ℕ) (sharable : Bool)
    {w : World} {sr key : String} {ds : List String} (hthere : (⟨ds, key⟩ : ZvolName) ∈ w.zfs.names)
    (hfresh : ∀ v ∈ (w.db sr).vdis, v.uuid ≠ key) :
    ∃ w' vsize, Registered sr ⟨ds, key⟩ w w' ∧
      Steps E (dbContext E sr do
        let volume_id ← insertNewVolume E size
        insertVdi E ⟨key, name, description, sharable⟩ volume_id
        let actual_vsize ← getZvolSizeBytes E ⟨ds, key⟩
        updateVolumeVsize E volume_id (some actual_vsize)
        return actual_vsize) w 6 vsize w' := by
  have hnew : ∃ db, ((w.db sr).insertVolume none false (some size)).insertVdi
      ⟨key, name, description, sharable⟩ (w.db sr).next = some db :=
    Metabase.exists_insertVdi fun v hv => hfresh v (Metabase.mem_vdis_insertVolume.1 hv)
  obtain ⟨db, hdb⟩ := hnew
  let size' := (w.zfs.zvol ⟨ds, key⟩).props.volsize
  let after := db.updateVolumeVsize (w.db sr).next (some size')
  let w₁ : World := { w.tick with work := w.db sr }
  let w₂ : World := { w₁.tick with work := (w.db sr).insertVolume none false (some size) }
  let w₃ : World := { w₂.tick with work := db }
  let w₄ : World := w₃.tick
  let w₅ : World := { w₄.tick with work := after }
  let w₆ : World := { w₅.tick with
    db := fun sr' => if sr' = sr then after else w.db sr', commits := w.commits + 1 }
  have hins : Steps E (insertNewVolume E size) w₁ 1 (w.db sr).next w₂ := by
    rw [insertNewVolume, dbCmd]
    exact Steps.command rfl rfl
  have hvdi : Steps E (insertVdi E ⟨key, name, description, sharable⟩ (w.db sr).next) w₂ 1 () w₃ := by
    rw [insertVdi, dbCmd]
    refine Steps.command ?_ rfl
    have hins : w₂.tick.work.insertVdi ⟨key, name, description, sharable⟩ (w.db sr).next = some db := hdb
    rw [hins]
  have hget : Steps E (getZvolSizeBytes E ⟨ds, key⟩) w₃ 1 size' w₄ := by
    rw [getZvolSizeBytes, zfsGet]
    refine Steps.command ?_ rfl
    have hprop : w₃.tick.zfs.getProp ⟨ds, key⟩ Props.volsize = .ok size' := if_pos hthere
    rw [hprop]
  have hup : Steps E (updateVolumeVsize E (w.db sr).next (some size')) w₄ 1 () w₅ := by
    rw [updateVolumeVsize, dbCmd]
    exact Steps.command rfl rfl
  have hcommit : Steps E (commitTxn E sr) w₅ 1 () w₆ := by
    rw [commitTxn]
    exact Steps.command rfl rfl
  have hbegin : Steps E (beginTxn E sr) w 1 () w₁ := by
    rw [beginTxn]
    exact Steps.command rfl rfl
  refine ⟨w₆, size', ⟨rfl, ?_⟩, ?_⟩
  · refine ⟨(⟨none, false, some size', none⟩ : VolumeRow).join (w.db sr).next
      ⟨key, name, description, sharable⟩, fun c => ?_, rfl, rfl, rfl⟩
    have hrows : w₆.db sr = after := if_pos rfl
    rw [hrows]
    exact Metabase.mem_vdis_insertSized hdb
  · have hbody : Steps E (do
        let volume_id ← insertNewVolume E size
        insertVdi E ⟨key, name, description, sharable⟩ volume_id
        let actual_vsize ← getZvolSizeBytes E ⟨ds, key⟩
        updateVolumeVsize E volume_id (some actual_vsize)
        return actual_vsize) w₁ (1 + (1 + (1 + (1 + 0)))) size' w₅ :=
      hins.bind (hvdi.bind (hget.bind (hup.bind (Steps.pure size') rfl rfl) rfl rfl) rfl rfl) rfl rfl
    have hend : Steps E (do
        commitTxn E sr
        return size') w₅ 1 size' w₆ := hcommit.andReturn size'
    exact dbContext_steps hbegin hbody hend rfl rfl rfl rfl

theorem volExists_of_mem {E : Env} {w : World} {n : ZvolName} (hn : n ∈ w.zfs.names) :
    volExists E n w = .ok (!E.fault w.clock) w.tick := by
  cases hf : E.fault w.clock with
  | true =>
      have hget : zfsGet E (fun z => .ok (decide (n ∈ z.names))) w = .error .fault w.tick := by
        rw [zfsGet, command, if_pos hf]
      rw [volExists, tryCatch_error hget]
      rfl
  | false =>
      have hget : zfsGet E (fun z => .ok (decide (n ∈ z.names))) w = .ok true w.tick := by
        rw [zfsGet, command, if_neg (by simp [hf])]
        simp [World.tick, hn]
      rw [volExists, tryCatch_ok hget]
      rfl

theorem getZvolUsedBytes_of_mem {E : Env} {w : World} {n : ZvolName} (hn : n ∈ w.zfs.names) :
    getZvolUsedBytes E (.zvol n) w =
      if E.fault w.clock then .error .fault w.tick else .ok (E.used w.zfs (.zvol n)) w.tick := by
  rw [getZvolUsedBytes, zfsGet, command]
  have hmem : n ∈ w.tick.zfs.names := hn
  simp only [hmem, if_true]
  rfl

/-- **`import_existing`**, for a zvol that is there and a new uuid: the first seven commands decide
whether the row is committed, and the eighth whether the call succeeds. -/
theorem importExisting_cases {E : Env} {w : World} {sr key name description : String} {size : ℕ}
    {m : SrMeta} (hm : E.srMeta sr = some m)
    (hthere : (⟨m.datasetPath, key⟩ : ZvolName) ∈ w.zfs.names)
    (hfresh : ∀ v ∈ (w.db sr).vdis, v.uuid ≠ key) :
    (¬ Calm E w.clock 7 ∧ ∃ e w', importExisting E sr key name description size false w = .error e w' ∧
      w'.db = w.db ∧ w'.zfs = w.zfs) ∨
    (Calm E w.clock 7 ∧ ∃ w', Registered sr ⟨m.datasetPath, key⟩ w w' ∧
      ((E.fault (w.clock + 7) = true ∧
          ∃ e, importExisting E sr key name description size false w = .error e w') ∨
        (E.fault (w.clock + 7) = false ∧
          ∃ a, importExisting E sr key name description size false w = .ok a w'))) := by
  have hmeta : getSrMetadata E sr w = .ok m w := by
    rw [getSrMetadata, hm]
    rfl
  rw [importExisting, bind_ok hmeta, bind_ok (volExists_of_mem hthere)]
  cases hf : E.fault w.clock with
  | true =>
      refine .inl ⟨fun hcalm => ?_, _, w.tick, rfl, rfl, rfl⟩
      have := hcalm 0 (by omega)
      simp [hf] at this
  | false =>
      obtain ⟨w', vsize, hreg, hsteps⟩ := steps_importTxn E name description size false (w := w.tick) hthere hfresh
      have hseven : Calm E w.clock 7 ↔ Calm E w.tick.clock 6 := by
        rw [show 7 = 1 + 6 from rfl, calm_add, calm_one, hf]
        simp [World.tick]
      by_cases hcalm : Calm E w.tick.clock 6
      · refine .inr ⟨hseven.2 hcalm, w'.tick, ⟨hreg.zfs, hreg.row⟩, ?_⟩
        have hclock : w'.clock = w.clock + 7 := hsteps.clock
        have hthere' : (⟨m.datasetPath, key⟩ : ZvolName) ∈ w'.zfs.names := by
          rw [hreg.zfs]
          exact hthere
        rw [if_pos (by rfl), bind_ok (hsteps.ok hcalm)]
        have hused := getZvolUsedBytes_of_mem (E := E) hthere'
        rw [hclock] at hused
        cases hlast : E.fault (w.clock + 7) with
        | true =>
            rw [if_pos hlast] at hused
            exact .inl ⟨rfl, _, bind_error hused⟩
        | false =>
            rw [if_neg (by simp [hlast])] at hused
            exact .inr ⟨rfl, _, bind_ok hused⟩
      · obtain ⟨e, w'', herr, hdb, hzfs⟩ := hsteps.error hcalm
        exact .inl ⟨fun h => hcalm (hseven.1 h), e, w'',
          by rw [if_pos (by rfl), bind_error herr], hdb, hzfs⟩

/-! ### Undoing -/

/-- A snapshot is taken and destroyed again. -/
theorem exists_destroySnap_of_snapshot {z z₁ : Store} {s : SnapName} (hwf : WF z)
    (h : z.snapshot s = .ok z₁) (hnew : ¬ z.Has s) :
    ∃ z₂, z₁.destroySnap s = .ok z₂ ∧ ∀ r, z₂.Has r ↔ z.Has r := by
  have hhas : z₁.Has s := (Store.has_snapshot h).2 (.inr rfl)
  have horigin : ∀ n ∈ z₁.names, (z₁.zvol n).origin ≠ some s := by
    obtain ⟨hn, _, t, _, _, rfl⟩ := Store.snapshot_ok h
    intro m hm horig
    rw [Store.mem_names_put] at hm
    by_cases heq : m = s.zvol
    · subst heq
      rw [Store.zvol_put_self] at horig
      exact hnew (hwf.origin_has _ hn _ horig)
    · rw [Store.zvol_put_of_ne _ _ heq] at horig
      exact hnew (hwf.origin_has _ (hm.resolve_left heq) _ horig)
  obtain ⟨z₂, hz₂⟩ := Store.exists_destroySnap hhas horigin
  refine ⟨z₂, hz₂, fun r => ?_⟩
  rw [Store.has_destroySnap hz₂, Store.has_snapshot h]
  constructor
  · rintro ⟨hr | hr, hne⟩
    · exact hr
    · exact absurd hr hne
  · exact fun hr => ⟨.inl hr, fun heq => hnew (heq ▸ hr)⟩

/-- `z` is `z₀`, or has `n` besides, which nothing uses. -/
structure Spare (z₀ z : Store) (n : ZvolName) : Prop where
  names : ∀ m, m ∈ z.names ↔ m ∈ z₀.names ∨ m = n ∧ n ∈ z.names
  idle : n ∈ z.names → (z.zvol n).props.busy = false
  unused : ∀ m ∈ z.names, (z.zvol m).origin.map SnapName.zvol ≠ some n

namespace Spare

theorem refl {z : Store} {n : ZvolName} (hwf : WF z) (hn : n ∉ z.names) : Spare z z n where
  names m := ⟨.inl, fun h => h.elim id fun h => absurd h.2 hn⟩
  idle h := absurd h hn
  unused m hm horig := by
    obtain ⟨s, hs, rfl⟩ := Option.map_eq_some_iff.1 horig
    exact hn (hwf.origin_has m hm s hs).1

theorem receiveStream {z : Store} {n : ZvolName} (hwf : WF z) (hn : n ∉ z.names) (t : Snap) :
    ∃ z', z.receiveStream t n = .ok z' ∧ n ∈ z'.names ∧ Spare z z' n := by
  refine ⟨_, by rw [Store.receiveStream, if_neg hn], Store.mem_names_put.2 (.inl rfl), ?_, ?_, ?_⟩
  · intro m
    simp [or_comm]
  · intro _
    rw [Store.zvol_put_self]
  · intro m hm
    by_cases heq : m = n
    · subst heq
      rw [Store.zvol_put_self]
      simp
    · rw [Store.zvol_put_of_ne _ _ heq]
      exact (refl hwf hn).unused m ((Store.mem_names_put.1 hm).resolve_left heq)

/-- With or without the zvol, `zfs destroy -r` leaves what was there. -/
theorem destroyRecursive {z₀ z : Store} {n : ZvolName} (h : Spare z₀ z n) (hn : n ∉ z₀.names) :
    (∃ z', z.destroyRecursive n = .ok z' ∧ ∀ m, m ∈ z'.names ↔ m ∈ z₀.names) ∨
      (∃ e, z.destroyRecursive n = .error e) ∧ ∀ m, m ∈ z.names ↔ m ∈ z₀.names := by
  by_cases hthere : n ∈ z.names
  · have hfree : ¬ ∃ m ∈ z.names, m ≠ n ∧ (z.zvol m).origin.map SnapName.zvol = some n := by
      rintro ⟨m, hm, _, horig⟩
      exact h.unused m hm horig
    refine .inl ⟨_, by rw [Store.destroyRecursive, if_neg (not_not.2 hthere),
      if_neg (by simp [h.idle hthere]), if_neg hfree], fun m => ?_⟩
    simp only [List.mem_filter, decide_eq_true_eq, h.names m]
    constructor
    · rintro ⟨hm | ⟨rfl, _⟩, hne⟩
      · exact hm
      · exact absurd rfl hne
    · exact fun hm => ⟨.inl hm, fun heq => hn (heq ▸ hm)⟩
  · refine .inr ⟨⟨_, by rw [Store.destroyRecursive, if_pos hthere]⟩, fun m => ?_⟩
    simp [h.names m, hthere]

end Spare

/-- The zvol is gone, and the rest of both hosts is as it was. -/
theorem cleanupDestZvol_spare {C : Wrapper} {h : Hosts} {z₀ : Store} {n : ZvolName}
    (hclean : C.destCleanup = true) (hspare : Spare z₀ h.dest.zfs n) (hn : n ∉ z₀.names) :
    ∃ h', cleanupDestZvol C n h = .ok () h' ∧ h'.src = h.src ∧ h'.dest.db = h.dest.db ∧
      ∀ m, m ∈ h'.dest.zfs.names ↔ m ∈ z₀.names := by
  refine ⟨_, rfl, ?_⟩
  obtain ⟨z', hz', hnames⟩ | ⟨⟨e, he⟩, hnames⟩ := hspare.destroyRecursive hn
  · simp only [hz', hclean, if_true]
    exact ⟨trivial, trivial, hnames⟩
  · simp only [he]
    exact ⟨trivial, trivial, hnames⟩

/-- The source has its old snapshots again. -/
theorem cleanupSourceSnap_snapshot {C : Wrapper} {h : Hosts} {z : Store} {s : SnapName}
    (hclean : C.srcCleanup = true) (hwf : WF z) (hsnap : z.snapshot s = .ok h.src.zfs)
    (hnew : ¬ z.Has s) :
    ∃ h', cleanupSourceSnap C s h = .ok () h' ∧ h'.dest = h.dest ∧
      ∀ r, h'.src.zfs.Has r ↔ z.Has r := by
  obtain ⟨z₂, hz₂, hhas⟩ := exists_destroySnap_of_snapshot hwf hsnap hnew
  refine ⟨_, rfl, ?_⟩
  simp only [hz₂, hclean, if_true]
  exact ⟨trivial, hhas⟩

/-! ### Giving up -/

/-- What the run `r` ends in: if it is `None`, the hosts are as they were. -/
def Ends (destSr : String) (h : Hosts) (r : EStateM.Result Raised Hosts (Option String)) : Prop :=
  ∀ h', r = .ok none h' → NothingLeft destSr h h'

theorem ends_none {destSr : String} {h h' : Hosts} :
    Ends destSr h (.ok none h') ↔ NothingLeft destSr h h' := by
  constructor
  · exact fun hends => hends h' rfl
  · rintro hleft _ ⟨⟩
    exact hleft

theorem ends_some {destSr uuid : String} {h h' : Hosts} : Ends destSr h (.ok (some uuid) h') :=
  nofun

theorem ends_error {destSr : String} {h h' : Hosts} {e : Raised} : Ends destSr h (.error e h') :=
  nofun

/-- The new zvol has arrived, and the source is as it was. -/
structure Arrived (n : ZvolName) (h h' : Hosts) : Prop where
  source : ∀ s, h'.src.zfs.Has s ↔ h.src.zfs.Has s
  there : n ∈ h'.dest.zfs.names
  spare : Spare h.dest.zfs h'.dest.zfs n
  db : h'.dest.db = h.dest.db

/-- The end of a copy that gives up: the zvol goes. -/
theorem ends_cleanup {C : Wrapper} {destSr : String} {n : ZvolName} {h h₁ : Hosts}
    (hclean : C.destCleanup = true) (hn : n ∉ h.dest.zfs.names)
    (hsource : ∀ s, h₁.src.zfs.Has s ↔ h.src.zfs.Has s) (hspare : Spare h.dest.zfs h₁.dest.zfs n) :
    Ends destSr h ((do
      cleanupDestZvol C n
      return (none : Option String)) h₁) ↔
      ∀ v, v ∈ (h₁.dest.db destSr).vdis ↔ v ∈ (h.dest.db destSr).vdis := by
  obtain ⟨h₂, hrun, hsrc, hdb, hnames⟩ := cleanupDestZvol_spare hclean hspare hn
  rw [bind_ok hrun]
  change Ends destSr h (.ok none h₂) ↔ _
  rw [ends_none, ← hdb]
  constructor
  · exact fun hleft => hleft.rows
  · exact fun hrows => ⟨by rw [hsrc]; exact hsource, hnames, hrows⟩

theorem importRemote_cases (name description : String) (size : ℕ) {C : Wrapper} {destSr : String}
    {m : SrMeta} {h : Hosts} (hm : C.dest.srMeta destSr = some m)
    (hthere : (⟨m.datasetPath, C.newUuid⟩ : ZvolName) ∈ h.dest.zfs.names)
    (hfresh : ∀ v ∈ (h.dest.db destSr).vdis, v.uuid ≠ C.newUuid) :
    (¬ (C.reached = true ∧ Calm C.dest h.dest.clock 7) ∧
      ∃ w', importRemote C destSr name description size h = .ok false { h with dest := w' } ∧
        w'.db = h.dest.db ∧ w'.zfs = h.dest.zfs) ∨
    ((C.reached = true ∧ Calm C.dest h.dest.clock 7) ∧
      ∃ w', Registered destSr ⟨m.datasetPath, C.newUuid⟩ h.dest w' ∧
        importRemote C destSr name description size h =
          .ok (!C.dest.fault (h.dest.clock + 7) && C.connected) { h with dest := w' }) := by
  by_cases hreached : C.reached = true
  · rw [importRemote, if_pos hreached]
    obtain ⟨hcalm, e, w', hrun, hsame⟩ | ⟨hcalm, w', hreg, hend⟩ :=
      importExisting_cases hm hthere hfresh
    · exact .inl ⟨fun h => hcalm h.2, w', by rw [hrun], hsame⟩
    · refine .inr ⟨⟨hreached, hcalm⟩, w', hreg, ?_⟩
      obtain ⟨hlast, e, hrun⟩ | ⟨hlast, a, hrun⟩ := hend
      · rw [hrun, hlast]
        rfl
      · rw [hrun, hlast]
        rfl
  · refine .inl ⟨fun h => hreached h.1, h.dest, ?_, rfl, rfl⟩
    rw [importRemote, if_neg hreached]

/-- When the registration fails, the zvol goes; a row that is committed stays. -/
theorem ends_register {C : Wrapper} {srcVdi destSr : String} {m : SrMeta} {h h₁ : Hosts}
    (hclean : C.destCleanup = true) (hm : C.dest.srMeta destSr = some m)
    (hn : (⟨m.datasetPath, C.newUuid⟩ : ZvolName) ∉ h.dest.zfs.names)
    (hrows : ∀ v ∈ (h.dest.db destSr).vdis, v.uuid ≠ C.newUuid)
    (harr : Arrived ⟨m.datasetPath, C.newUuid⟩ h h₁) :
    Ends destSr h (register C srcVdi destSr ⟨m.datasetPath, C.newUuid⟩ h₁) ↔
      ¬ ((srcSize C srcVdi).isSome ∧ (C.reached = true ∧ Calm C.dest h₁.dest.clock 7) ∧
        (C.dest.fault (h₁.dest.clock + 7) = true ∨ C.connected = false)) := by
  -- the end of a copy whose registration has failed in `w'`
  have hgone : ∀ w' : World, Spare h.dest.zfs w'.zfs ⟨m.datasetPath, C.newUuid⟩ →
      (Ends destSr h ((do
        cleanupDestZvol C ⟨m.datasetPath, C.newUuid⟩
        return (none : Option String)) { h₁ with dest := w' }) ↔
          ∀ v, v ∈ (w'.db destSr).vdis ↔ v ∈ (h.dest.db destSr).vdis) :=
    fun w' hspare => ends_cleanup hclean hn harr.source hspare
  rw [register]
  cases hsize : srcSize C srcVdi with
  | none => exact iff_of_true ends_error (by simp)
  | some size =>
      dsimp only
      obtain ⟨hfail, w', hrun, hdb, hzfs⟩ | ⟨hcommit, w', hreg, hrun⟩ :=
        importRemote_cases (orDefault (C.vdiParam srcVdi "name-label") "")
          (orDefault (C.vdiParam srcVdi "name-description") "") size hm harr.there (by simpa [harr.db] using hrows)
      · rw [bind_ok hrun]
        refine iff_of_true ((hgone w' ?_).2 ?_) fun hlate => hfail hlate.2.1
        · rw [hzfs]
          exact harr.spare
        · rw [hdb, harr.db]
          exact fun v => Iff.rfl
      · rw [bind_ok hrun]
        cases hend : (!C.dest.fault (h₁.dest.clock + 7) && C.connected) with
        | true =>
            rw [Bool.and_eq_true, Bool.not_eq_true'] at hend
            exact iff_of_true ends_some (by simp [hend])
        | false =>
            rw [Bool.and_eq_false_iff, Bool.not_eq_false'] at hend
            refine iff_of_false (fun hends => ?_) (not_not.2 ⟨rfl, hcommit, hend⟩)
            obtain ⟨v, hv, huuid, _⟩ := hreg.row
            have hall := (hgone w' (hreg.zfs ▸ harr.spare)).1 hends
            exact hrows v ((hall v).1 ((hv v).2 (.inl rfl))) huuid

theorem exists_stream {z : Store} {s : SnapName} (h : z.Has s) : ∃ t, z.stream s = some t := by
  rw [Store.stream, if_pos h.1]
  obtain ⟨t, ht, hid⟩ := List.mem_map.1 h.2
  exact Option.isSome_iff_exists.1 (List.find?_isSome.2 ⟨t, ht, by simpa using hid⟩)

/-- The pipeline leaves the source alone, and at most the new zvol at the destination. -/
theorem sendReceive_cases {C : Wrapper} {h : Hosts} {s : SnapName} {n : ZvolName}
    (hwf : WF h.dest.zfs) (hn : n ∉ h.dest.zfs.names) (hs : h.src.zfs.Has s) :
    ∃ h', sendReceive C s n h = .ok (!C.dest.fault h.dest.clock) h' ∧ h'.src = h.src ∧
      h'.dest.db = h.dest.db ∧ h'.dest.clock = h.dest.clock + 1 ∧
      Spare h.dest.zfs h'.dest.zfs n ∧
      (C.dest.fault h.dest.clock = false → n ∈ h'.dest.zfs.names) := by
  obtain ⟨t, ht⟩ := exists_stream hs
  obtain ⟨z', hz', hthere, hspare⟩ := Spare.receiveStream hwf hn t
  simp only [sendReceive, ht, hz']
  cases hf : C.dest.fault h.dest.clock with
  | false => exact ⟨_, if_neg (by simp), rfl, rfl, rfl, hspare, fun _ => hthere⟩
  | true =>
      cases hr : C.dest.received h.dest.clock with
      | false => exact ⟨_, if_pos (by simp), rfl, rfl, rfl, .refl hwf hn, nofun⟩
      | true => exact ⟨_, if_neg (by simp), rfl, rfl, rfl, hspare, nofun⟩

theorem srMeta_of_destPath {C : Wrapper} {destSr : String} {base : List String}
    (h : destPath C destSr = some base) :
    ∃ m, C.dest.srMeta destSr = some m ∧ m.datasetPath = base := by
  rw [destPath] at h
  split_ifs at h
  obtain ⟨m, hm, hpath⟩ := Option.bind_eq_some_iff.1 h
  split_ifs at hpath
  exact ⟨m, hm, Option.some.inj hpath⟩

/-- The snapshot at the source fails on a fault, or where the zvol is not there. -/
theorem atSource_takeSnapshot {C : Wrapper} {h : Hosts} {s : SnapName} (hnew : ¬ h.src.zfs.Has s) :
    (¬ (C.src.fault h.src.clock = false ∧ s.zvol ∈ h.src.zfs.names) ∧
      ∃ h', atSource (takeSnapshot C.src s) h = .ok false h' ∧ h'.dest = h.dest ∧
        h'.src.zfs = h.src.zfs) ∨
    ((C.src.fault h.src.clock = false ∧ s.zvol ∈ h.src.zfs.names) ∧
      ∃ h', atSource (takeSnapshot C.src s) h = .ok true h' ∧ h'.dest = h.dest ∧
        h.src.zfs.snapshot s = .ok h'.src.zfs) := by
  cases hf : C.src.fault h.src.clock with
  | true =>
      refine .inl ⟨by simp, { h with src := h.src.tick }, ?_, rfl, rfl⟩
      rw [atSource, takeSnapshot, zfsCmd, command, if_pos hf]
  | false =>
      cases hsnap : h.src.zfs.snapshot s with
      | error e =>
          refine .inl ⟨fun h => ?_, { h with src := h.src.tick }, ?_, rfl, rfl⟩
          · rw [Store.snapshot, if_neg (not_not.2 h.2), if_neg fun hid => hnew ⟨h.2, hid⟩] at hsnap
            cases hsnap
          · rw [atSource, takeSnapshot, zfsCmd, command, if_neg (by simp [hf])]
            simp only [World.tick, hsnap]
      | ok z₁ =>
          refine .inr ⟨⟨rfl, (Store.snapshot_ok hsnap).1⟩,
            { h with src := { h.src.tick with zfs := z₁ } }, ?_, rfl, rfl⟩
          rw [atSource, takeSnapshot, zfsCmd, command, if_neg (by simp [hf])]
          simp only [World.tick, hsnap]

theorem NothingLeft.of_same {destSr : String} {h h' : Hosts} (hsrc : h'.src.zfs = h.src.zfs)
    (hdest : h'.dest = h.dest) : NothingLeft destSr h h' where
  source s := by rw [hsrc]
  zvols n := by rw [hdest]
  rows v := by rw [hdest]

theorem ends_transfer {C : Wrapper} {srcVdi destSr : String} {m : SrMeta} {srcZvol : ZvolName}
    {h : Hosts} (hsclean : C.srcCleanup = true) (hdclean : C.destCleanup = true)
    (hswf : WF h.src.zfs) (hdwf : WF h.dest.zfs) (hfresh : Fresh C h)
    (hm : C.dest.srMeta destSr = some m) :
    Ends destSr h (transfer C srcVdi destSr srcZvol ⟨m.datasetPath, C.newUuid⟩ h) ↔
      ¬ ((C.src.fault h.src.clock = false ∧ srcZvol ∈ h.src.zfs.names) ∧
        C.dest.fault h.dest.clock = false ∧ (srcSize C srcVdi).isSome ∧
        (C.reached = true ∧ Calm C.dest (h.dest.clock + 1) 7) ∧
        (C.dest.fault (h.dest.clock + 8) = true ∨ C.connected = false)) := by
  have hn : (⟨m.datasetPath, C.newUuid⟩ : ZvolName) ∉ h.dest.zfs.names :=
    fun hmem => hfresh.zvols _ hmem rfl
  have hnew : ¬ h.src.zfs.Has (snapName C srcZvol) := fun hs => hfresh.snapshots _ hs rfl
  rw [transfer]
  obtain ⟨hfail, h₁, hrun, hdest, hsrc⟩ | ⟨htaken, h₁, hrun, hdest, hsnap⟩ :=
    atSource_takeSnapshot (C := C) hnew
  · rw [bind_ok hrun]
    exact iff_of_true (ends_none.2 (.of_same hsrc hdest)) fun hlate => hfail hlate.1
  have hhas : h₁.src.zfs.Has (snapName C srcZvol) := (Store.has_snapshot hsnap).2 (.inr rfl)
  obtain ⟨h₂, hsend, hsrc₂, hdb₂, hclock₂, hspare₂, hthere₂⟩ :=
    sendReceive_cases (C := C) (hdest.symm ▸ hdwf) (hdest.symm ▸ hn) hhas
  rw [hdest] at hsend hdb₂ hclock₂ hspare₂ hthere₂
  rw [bind_ok hrun, if_pos rfl, bind_ok hsend]
  cases hf : C.dest.fault h.dest.clock with
  | true =>
      obtain ⟨h₃, hclean₃, hsrc₃, hdb₃, hnames₃⟩ := cleanupDestZvol_spare hdclean hspare₂ hn
      obtain ⟨h₄, hclean₄, hdest₄, hhas₄⟩ := cleanupSourceSnap_snapshot (h := h₃) hsclean hswf
        (by rw [hsrc₃, hsrc₂]; exact hsnap) hnew
      rw [if_neg (by simp), bind_ok hclean₃, bind_ok hclean₄]
      refine iff_of_true (ends_none.2 ⟨hhas₄, ?_, ?_⟩) (by simp)
      · rw [hdest₄]
        exact hnames₃
      · rw [hdest₄, hdb₃, hdb₂]
        exact fun v => Iff.rfl
  | false =>
      obtain ⟨h₃, hclean₃, hdest₃, hhas₃⟩ := cleanupSourceSnap_snapshot (h := h₂) hsclean hswf
        (by rw [hsrc₂]; exact hsnap) hnew
      have harr : Arrived ⟨m.datasetPath, C.newUuid⟩ h h₃ :=
        ⟨hhas₃, hdest₃ ▸ hthere₂ hf, hdest₃ ▸ hspare₂, hdest₃ ▸ hdb₂⟩
      rw [if_pos (by simp), bind_ok hclean₃, ends_register hdclean hm hn (hfresh.rows destSr) harr,
        hdest₃, hclock₂]
      exact not_congr ⟨fun hlate => ⟨htaken, rfl, hlate⟩, fun hlate => hlate.2.2⟩

/-- **A copy that gives up leaves nothing behind**, provided the clean-up commands are run, exactly when
it does not fail after the other host has committed the new row. -/
theorem nothingLeft_iff {C : Wrapper} {srcSr srcVdi destSr : String} {h : Hosts}
    (hsclean : C.srcCleanup = true) (hdclean : C.destCleanup = true) (hswf : WF h.src.zfs)
    (hdwf : WF h.dest.zfs) (hfresh : Fresh C h) :
    GivesUpClean C srcSr srcVdi destSr h ↔ ¬ LateFailure C srcSr srcVdi destSr h := by
  change Ends destSr h (invokeCrossHostCopy C srcSr srcVdi destSr h) ↔ _
  rw [invokeCrossHostCopy]
  cases hsrc : srZfsPath (C.src.srMeta srcSr) with
  | none =>
      refine iff_of_true (ends_none.2 (.of_same rfl rfl)) fun hlate => ?_
      obtain ⟨srcBase, hbase, _⟩ := hlate.source
      rw [hsrc] at hbase
      cases hbase
  | some srcBase =>
      cases hdest : destPath C destSr with
      | none =>
          refine iff_of_true (ends_none.2 (.of_same rfl rfl)) fun hlate => ?_
          have := hlate.dest
          rw [hdest] at this
          cases this
      | some destBase =>
          obtain ⟨m, hm, rfl⟩ := srMeta_of_destPath hdest
          dsimp only
          rw [ends_transfer hsclean hdclean hswf hdwf hfresh hm]
          refine not_congr ⟨?_, fun hlate => ?_⟩
          · rintro ⟨⟨hsnap, hthere⟩, hrecv, hsize, ⟨hreached, hcalm⟩, hfail⟩
            exact ⟨⟨srcBase, hsrc, hthere⟩, by rw [hdest]; rfl, hsnap, hrecv, hsize, hreached, hcalm,
              hfail⟩
          · obtain ⟨srcBase', hbase, hthere⟩ := hlate.source
            obtain rfl : srcBase = srcBase' := by simpa [hsrc] using hbase
            exact ⟨⟨hlate.snapshot, hthere⟩, hlate.received, hlate.size,
              ⟨hlate.reached, hlate.committed⟩, hlate.failed⟩

/-! ### Two hosts -/

/-- A source with one zvol, and an empty destination whose commands fail by the schedule. -/
def sample (fault : ℕ → Bool) : Wrapper where
  src := sampleEnv fun _ => false
  dest := sampleEnv fault
  newUuid := "new"
  sshReads := true
  srcCleanup := true
  destCleanup := true
  vdiParam _ param := if param = "virtual-size" then some "8" else none
  int text := if text = "8" then some 8 else none
  reached := true
  connected := true

def sampleHosts : Hosts where
  src := { emptyWorld with
    zfs := emptyWorld.zfs.put ⟨["tank", "vms"], "vdi"⟩
      ⟨⟨8, 4, 0, false, false, [], none⟩, [], none⟩ }
  dest := emptyWorld

theorem wf_sampleHosts : WF sampleHosts.src.zfs := by
  refine WF.put_new (tidy_emptyWorld (sampleEnv fun _ => false)).wf ?_ ?_ ?_
  · simp [emptyWorld]
  · simp [Zvol.ids]
  · simp

theorem fresh_sampleHosts (fault : ℕ → Bool) : Fresh (sample fault) sampleHosts where
  zvols n hn := nomatch hn
  rows _ v hv := nomatch hv
  snapshots s hs := by
    obtain ⟨hzvol, hid⟩ := hs
    obtain heq | hold := Store.mem_names_put.1 hzvol
    · rw [heq] at hid
      nomatch hid
    · nomatch hold

/-- A copy whose registration fails before its commit. -/
theorem nothingLeft_iff_early : GivesUpClean (sample (· = 5)) "sr" "vdi" "sr" sampleHosts :=
  (nothingLeft_iff rfl rfl wf_sampleHosts (tidy_emptyWorld (sampleEnv (· = 5))).wf
    (fresh_sampleHosts _)).2 fun hlate => nomatch hlate.committed 4 (by omega)

/-- The VDIs of the destination after a copy that was given up. -/
private def rowsLeft : EStateM.Result Raised Hosts (Option String) → ℕ
  | .ok none h => (h.dest.db "sr").vdis.length
  | _ => 0

/-- **The size of the new zvol cannot be read**: `import_existing` has committed the row when
`zfs get used` fails, and the wrapper destroys the zvol under it. -/
theorem not_nothingLeft_used :
    ¬ ∀ (C : Wrapper) (srcSr srcVdi destSr : String) (h : Hosts), C.srcCleanup = true →
      C.destCleanup = true → WF h.src.zfs → WF h.dest.zfs → Fresh C h →
        GivesUpClean C srcSr srcVdi destSr h := by
  intro hall
  have hclean := hall (sample (· = 8)) "sr" "vdi" "sr" sampleHosts rfl rfl wf_sampleHosts
    (tidy_emptyWorld (sampleEnv (· = 8))).wf (fresh_sampleHosts _)
  have hrow : rowsLeft (invokeCrossHostCopy (sample (· = 8)) "sr" "vdi" "sr" sampleHosts) = 1 := by
    decide +kernel
  rcases hrun : invokeCrossHostCopy (sample (· = 8)) "sr" "vdi" "sr" sampleHosts with
    ⟨_ | uuid, h⟩ | ⟨e, h⟩
  · rw [hrun] at hrow
    obtain ⟨v, hv⟩ := List.exists_mem_of_length_pos (Nat.lt_of_lt_of_eq Nat.one_pos hrow.symm)
    exact nomatch ((hclean h hrun).rows v).1 hv
  · rw [hrun] at hrow
    cases hrow
  · rw [hrun] at hrow
    cases hrow

end XeWrapper

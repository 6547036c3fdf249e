/-
**The `xe` wrapper as a whole** (`src/shim/xe_wrapper.py`, `src/shim/xapi_compat.py`).

`main` stands in for `xe`.  It hands every command over to `xe.real`, but for a plain `vdi-copy` between
two zfs-live SRs that it knows how to reach, which it copies itself; when that gives nothing it hands the
command over after all.  It steps aside as soon as xapi routes the copy itself, which it finds out once and
keeps on disk.

What the commands that it runs answer, and whether `xe.real` is found each time, is left open; the copies
themselves are those of `ZfsLive/Volume.lean` and `ZfsLive/XeWrapper.lean`.  `os.execv` ends the program, so
that it is an exit here, like `sys.exit` and an exception that nothing handles.

Main definitions:

* `XeWrapper.Shell`, `XeWrapper.Run` — what `main` meets, and what it leaves;
* `XeWrapper.tryFastPath`, `XeWrapper.stepsAside`, `XeWrapper.main`;
* `XeWrapper.Chosen`, `XeWrapper.Made` — when it may copy, and what a copy is;
* `XeWrapper.call` — one process after the other.

Main results:

* `XeWrapper.made_copy`, `XeWrapper.made_invokeCrossHostCopy` — the two copies, when they return;
* `XeWrapper.main_spec` — **one copy at most, and a uuid only when it is there**;
* `XeWrapper.steps_aside_for_good` — **no call copies any more** once xapi is on record.
-/

import ZfsLive.Base.Dict
import ZfsLive.CopyPaths

set_option relaxedAutoImplicit false
set_option autoImplicit false

namespace XeWrapper

open Zfs Volume Wp

/-! ### Arguments -/

/-- What `_parse_kv_args` keeps of an argument. -/
inductive ArgVal
  | text (s : String)
  /-- `True`, for an argument without `=`. -/
  | bare
  deriving DecidableEq, Repr

/-- `_parse_kv_args`: of several arguments with one key the last one counts. -/
def parseKvArgs (argv : List String) : Dict String ArgVal :=
  argv.foldl (fun out arg =>
    match arg.toList.span (· ≠ '=') with
    | (key, _ :: val) => out.set (String.ofList key) (.text (String.ofList val))
    | (_, []) => out.set arg .bare) Dict.empty

/-- `_is_basic_vdi_copy`. -/
def isBasicVdiCopy (args : Dict String ArgVal) : Bool :=
  if "uuid" ∉ args.keys ∨ "sr-uuid" ∉ args.keys then false
  else if "base-uuid" ∈ args.keys ∨ "into-vdi-uuid" ∈ args.keys then false
  else args.keys.all fun key => key ∈ ["uuid", "sr-uuid", "username", "password"]

/-! ### Runs -/

/-- What `xapi_compat` records of an xapi. -/
structure Compat where
  xapi_version : Option String
  /-- Whether the shim still has to fill the gap. -/
  gaps : Dict String Bool

/-- The file that keeps it. -/
inductive Sidecar
  /-- There is none that can be read and parsed. -/
  | missing
  /-- It is JSON of another kind. -/
  | foreign
  | saved (compat : Compat)

/-- A copy that `main` makes itself; on this host, there is no address. -/
structure FastPath where
  src_sr : String
  dest_sr : String
  src_vdi : String
  dest_host_addr : Option String
  deriving DecidableEq, Repr

/-- What `main` meets. -/
structure Shell where
  wrapper : Wrapper
  /-- `_find_xe_real`, each time it looks. -/
  findXeReal : ℕ → Option String
  /-- `_xe_real`. -/
  xeReal : ℕ → List String → Option String
  /-- `_ssh`. -/
  ssh : ℕ → String → List String → Option String
  localHostUuid : Option String
  findPluginDir : Option String
  /-- The script `Volume.copy` can be run. -/
  executable : Bool
  /-- When the script has succeeded, it says so. -/
  reported : Bool
  /-- `xapi_compat` can be imported. -/
  compatible : Bool
  probeXapiVersion : Option String
  probeRecognisedFeatures : List String
  /-- What there is instead of the sidecar where it cannot be written. -/
  unwritten : Option Sidecar

/-- What `main` leaves: the copies that it has tried, with the uuid that each has returned, and what it has
printed. -/
structure Run where
  hosts : Hosts
  clock : ℕ
  sidecar : Sidecar
  cached : Option Compat
  copies : List (FastPath × Option String)
  out : List String

/-- An exception that `main` does not handle. -/
inductive Uncaught
  /-- `True` is not a `str`. -/
  | typeError
  /-- The sidecar is not an object. -/
  | attributeError
  | copy (e : Raised)
  deriving DecidableEq, Repr

/-- How the program ends when `main` does not return. -/
inductive Exit
  /-- `os.execv`. -/
  | exec (real : String) (argv : List String)
  /-- `sys.exit`. -/
  | code (n : ℕ)
  | raised (e : Uncaught)
  deriving DecidableEq, Repr

abbrev MainM := EStateM Exit Run

section

variable (S : Shell)

/-- `_passthrough`. -/
def passthrough {α : Type} (argv : List String) : MainM α := fun s =>
  match S.findXeReal s.clock with
  | none => .error (.code 127) s
  | some real => .error (.exec real (real :: argv.tail)) s

/-- Run a command, and see what it prints. -/
def ask (reply : ℕ → Option String) : MainM (Option String) := fun s =>
  .ok (reply s.clock) { s with clock := s.clock + 1 }

/-- `_xe_real`. -/
def xe (args : List String) : MainM (Option String) := ask fun n => S.xeReal n args

/-- `not` tells `""` and `None` from nothing else. -/
def truthy (o : Option String) : Option String := o.filter (· ≠ "")

/-- The string that an argument is. -/
def str (v : Option ArgVal) : MainM String :=
  match v with
  | some (.text s) => pure s
  | _ => throw (.raised .typeError)

/-- The question for the type of an SR. -/
def srTypeQuery (sr_uuid : String) : List String :=
  ["sr-param-get", "uuid=" ++ sr_uuid, "param-name=type"]

/-- `_sr_type`. -/
def srType (sr_uuid : String) : MainM (Option String) := xe S (srTypeQuery sr_uuid)

/-- `_vdi_sr`. -/
def vdiSr (vdi_uuid : String) : MainM (Option String) :=
  xe S ["vdi-param-get", "uuid=" ++ vdi_uuid, "param-name=sr-uuid"]

/-- `_sr_host_uuid`: the host of the first PBD. -/
def srHostUuid (sr_uuid : String) : MainM (Option String) := do
  match truthy (← xe S ["pbd-list", "sr-uuid=" ++ sr_uuid, "params=uuid", "--minimal"]) with
  | none => return none
  | some pbd_uuid =>
      let first := String.ofList (pbd_uuid.toList.takeWhile (· ≠ ','))
      xe S ["pbd-param-get", "uuid=" ++ first, "param-name=host-uuid"]

/-- `_host_address`. -/
def hostAddress (host_uuid : String) : MainM (Option String) :=
  xe S ["host-param-get", "uuid=" ++ host_uuid, "param-name=address"]

/-- The part of `_try_fast_path` that finds the hosts. -/
def locate (src_sr dest_sr src_vdi : String) : MainM (Option FastPath) := do
  let dest_host ← srHostUuid S dest_sr
  match truthy S.localHostUuid, truthy dest_host with
  | some local_host, some dest_host =>
      if dest_host = local_host then
        return some ⟨src_sr, dest_sr, src_vdi, none⟩
      else if (← srHostUuid S src_sr) ≠ some local_host then
        return none
      else
        match truthy (← hostAddress S dest_host) with
        | none => return none
        | some addr => return some ⟨src_sr, dest_sr, src_vdi, some addr⟩
  | _, _ => return none

/-- `_try_fast_path`. -/
def tryFastPath (args : Dict String ArgVal) : MainM (Option FastPath) := do
  if isBasicVdiCopy args then
    let src_vdi ← str (args.get? "uuid")
    match truthy (← vdiSr S src_vdi) with
    | none => return none
    | some src_sr =>
        let src_type ← srType S src_sr
        let dest_sr ← str (args.get? "sr-uuid")
        let dest_type ← srType S dest_sr
        if src_type ≠ some "zfs-live" ∨ dest_type ≠ some "zfs-live" then return none
        else locate S src_sr dest_sr src_vdi
  else
    return none

/-! ### Stepping aside -/

/-- `KNOWN_GAPS`. -/
def KNOWN_GAPS : List (String × Option String) :=
  [("VDI.copy", some "VDI_COPY"), ("VDI.list_changed_blocks", some "VDI_CONFIG_CBT"),
    ("VDI.similar_content", none)]

/-- What `get_cached` gives when nothing is cached. -/
def assumed : Compat := ⟨none, Dict.ofList (KNOWN_GAPS.map fun gap => (gap.1, true))⟩

/-- `probe`: a gap without a feature of its own is always there. -/
def probe : Compat where
  xapi_version := S.probeXapiVersion
  gaps := Dict.ofList (KNOWN_GAPS.map fun gap =>
    (gap.1, gap.2.elim true fun feature => feature ∉ S.probeRecognisedFeatures))

/-- `get_cached`. -/
def getCached : MainM Compat := fun s =>
  match s.cached, s.sidecar with
  | some compat, _ => .ok compat s
  | none, .saved compat => .ok compat s
  | none, .missing => .ok assumed s
  | none, .foreign => .error (.raised .attributeError) s

/-- `set_cached`. -/
def setCached (compat : Compat) : MainM Unit :=
  modify fun s =>
    { s with cached := some compat, sidecar := S.unwritten.getD (.saved compat) }

/-- `is_gap_filled`. -/
def isGapFilled (method : String) : MainM Bool := do
  return ((← getCached).gaps.get? method).getD true

/-- The check at the beginning of `main`: xapi routes the copy itself. -/
def stepsAside : MainM Bool := do
  if S.compatible then
    if (← getCached).xapi_version = none then setCached S (probe S)
    return !(← isGapFilled "VDI.copy")
  else
    return false

/-! ### Copying -/

/-- Note what a copy has returned. -/
def note (path : FastPath) (new_uuid : Option String) (s : Run) : Run :=
  { s with copies := s.copies ++ [(path, new_uuid)] }

/-- `_invoke_volume_copy`. -/
def invokeVolumeCopy (path : FastPath) : MainM (Option String) := fun s =>
  if S.executable then
    match copy S.wrapper.src path.src_sr path.src_vdi path.dest_sr s.hosts.src with
    | .ok info w =>
        let new_uuid := if S.reported then truthy (some info.key) else none
        .ok new_uuid (note path new_uuid { s with hosts := { s.hosts with src := w } })
    | .error _ w => .ok none (note path none { s with hosts := { s.hosts with src := w } })
  else
    .ok none s

/-- The call of `_invoke_cross_host_copy`. -/
def copyAcrossHosts (path : FastPath) : MainM (Option String) := fun s =>
  match invokeCrossHostCopy S.wrapper path.src_sr path.src_vdi path.dest_sr s.hosts with
  | .ok o h => .ok (truthy o) (note path (truthy o) { s with hosts := h })
  | .error e h => .error (.raised (.copy e)) (note path none { s with hosts := h })

/-- The fast path that was chosen. -/
def fastCopy (path : FastPath) : MainM (Option String) :=
  match path.dest_host_addr with
  | none =>
      match S.findPluginDir with
      | none => return none
      | some _ => invokeVolumeCopy S path
  | some _ => copyAcrossHosts S path

/-- The scan of the destination, on the host that it is on. -/
def scan (path : FastPath) : MainM (Option String) :=
  match path.dest_host_addr with
  | none => xe S ["sr-scan", "uuid=" ++ path.dest_sr]
  | some addr => ask fun n => S.ssh n addr ["xe", "sr-scan", "uuid=" ++ path.dest_sr]

/-- The end of `main`. -/
def announce (path : FastPath) (new_uuid : String) : MainM ℕ := do
  if (← scan S path) = none then
    return 1
  else if (← xe S ["vdi-param-get", "uuid=" ++ new_uuid, "param-name=uuid"]) ≠ some new_uuid then
    return 1
  else do
    modify fun s => { s with out := s.out ++ [new_uuid] }
    return 0

def main (argv : List String) : MainM ℕ := do
  if argv[1]? ≠ some "vdi-copy" then
    passthrough S argv
  else if ← stepsAside S then
    passthrough S argv
  else
    match ← tryFastPath S (parseKvArgs (argv.drop 2)) with
    | none => passthrough S argv
    | some path =>
        match ← fastCopy S path with
        | none => passthrough S argv
        | some new_uuid => announce S path new_uuid

end

/-! ### What a copy is -/

/-- The zvol `dest` is there, with the content that `src` had in `z`, and a base VDI on record. -/
structure HasCopy (z : Store) (src : ZvolName) (sr : String) (dest : ZvolName) (w : World) : Prop where
  there : dest ∈ w.zfs.names
  content : (w.zfs.zvol dest).props.content = (z.zvol src).props.content
  row : ∃ v ∈ (w.db sr).vdis, v.uuid = dest.vol ∧ v.snap = false

/-- The hosts have got from `h` to `h'`, and `u` is the copy that was to be made. -/
def Made (C : Wrapper) (h h' : Hosts) (path : FastPath) (u : String) : Prop :=
  match path.dest_host_addr with
  | none => ∃ m m', C.src.srMeta path.src_sr = some m ∧ C.src.srMeta path.dest_sr = some m' ∧
      HasCopy h.src.zfs ⟨m.datasetPath, path.src_vdi⟩ path.dest_sr ⟨m'.datasetPath, u⟩ h'.src
  | some _ => ∃ base base', srZfsPath (C.src.srMeta path.src_sr) = some base ∧
      destPath C path.dest_sr = some base' ∧
      HasCopy h.src.zfs ⟨base, path.src_vdi⟩ path.dest_sr ⟨base', u⟩ h'.dest

/-- The zvol of a copy is still there when its size is read, and the row is the last that is written. -/
theorem wp_copy_there {E : Env} {w : World} (sr key dest_sr : String) :
    wp (copy E sr key dest_sr) (fun info w' => ∀ m', E.srMeta dest_sr = some m' →
      (⟨m'.datasetPath, info.key⟩ : ZvolName) ∈ w'.zfs.names ∧
        ∃ v ∈ (w'.db dest_sr).vdis, v.uuid = info.key ∧ v.snap = false) (fun _ _ => True) w := by
  have hX : ∀ (e : VolError) (w' : World), True → True := fun _ _ _ => trivial
  rw [copy, wp_bind]
  refine wp_mono (wp_true ..) (fun m w₁ _ => ?_) hX
  rw [wp_bind, getDestMetadata]
  rcases hdm : E.srMeta dest_sr with _ | dm
  · trivial
  simp only [wp_pure]
  rw [wp_bind]
  refine wp_mono (wp_true ..) (fun dest_uuid w₂ _ => ?_) hX
  rw [wp_bind]
  refine wp_mono (wp_true ..) (fun snap_token w₃ _ => ?_) hX
  rw [wp_bind]
  refine wp_mono (wp_true ..) (fun vdi w₄ _ => ?_) hX
  rw [wp_bind]
  refine wp_mono (wp_true ..) (fun _ w₅ _ => ?_) hX
  rw [wp_bind]
  refine wp_mono (wp_true ..) (fun refreservation w₆ _ => ?_) hX
  rw [wp_bind]
  refine wp_mono (wp_true ..) (fun _ w₇ _ => ?_) hX
  rw [wp_bind]
  refine wp_mono (wp_true ..) (fun _ w₈ _ => ?_) hX
  rw [wp_bind]
  refine wp_mono wp_registerCopy_row (fun _ w₉ h₉ => ?_) hX
  rw [wp_bind]
  refine wp_zfsGet (fun _ _ _ => trivial) (fun _ _ _ _ => trivial) fun used w' hused hs => ?_
  rintro m' ⟨⟩
  obtain ⟨_, v, hv, _, huuid, hsnap, _⟩ := h₉
  have hthere : (⟨dm.datasetPath, dest_uuid⟩ : ZvolName) ∈ w₉.zfs.names := by
    by_contra hgone
    simp only [if_neg hgone] at hused
    cases hused
  refine ⟨hs.zfs ▸ hthere, v, ?_, huuid, hsnap⟩
  rw [hs.db]
  exact (hv v).2 (.inl rfl)

/-- **The copy on one host**, when it returns. -/
theorem made_copy {E : Env} {w : World} (hT : Tidy E w) (sr key dest_sr : String) :
    wp (copy E sr key dest_sr) (fun info w' => ∃ m m', E.srMeta sr = some m ∧
      E.srMeta dest_sr = some m' ∧
        HasCopy w.zfs ⟨m.datasetPath, key⟩ dest_sr ⟨m'.datasetPath, info.key⟩ w')
      (fun _ _ => True) w := by
  refine wp_mono (wp_and (copy_derived hT sr key dest_sr) (wp_copy_there sr key dest_sr))
    (fun info w' h => ?_) fun _ _ _ => trivial
  obtain ⟨⟨m, m', hm, hm', hderived⟩, hthere⟩ := h
  obtain ⟨hzvol, hrow⟩ := hthere m' hm'
  exact ⟨m, m', hm, hm', hzvol, hderived.content, hrow⟩

section

variable {C : Wrapper} {srcSr srcVdi destSr : String} {n : ZvolName} {r : SnapName} {h : Hosts}
  {c : Content}

/-- The snapshot that is sent holds what its zvol held. -/
theorem wp_takeSnapshot_holds :
    wp (atSource (takeSnapshot C.src r))
      (fun taken h' => taken = true → h'.src.zfs.Holds r (h.src.zfs.zvol r.zvol).props.content)
      (fun _ _ => True) h := by
  have hsnap : wp (takeSnapshot C.src r)
      (fun _ w => w.zfs.Holds r (h.src.zfs.zvol r.zvol).props.content) (fun _ _ => True) h.src :=
    wp_zfsCmd (fun _ _ _ => trivial) (fun _ _ _ _ => trivial) fun _ hz _ => Store.holds_snapshot hz
  rw [wp, atSource]
  rcases hrun : takeSnapshot C.src r h.src with ⟨a, w⟩ | ⟨e, w⟩
  · exact fun _ => (wp_of_ok hrun).1 hsnap
  · exact fun hnone => by cases hnone

/-- A zvol that is received gets what the snapshot holds. -/
theorem wp_sendReceive_content (hr : h.src.zfs.Holds r c) :
    wp (sendReceive C r n)
      (fun ok h' => ok = true → n ∈ h'.dest.zfs.names ∧ (h'.dest.zfs.zvol n).props.content = c)
      (fun _ _ => True) h := by
  rw [wp, sendReceive]
  rcases ht : h.src.zfs.stream r with _ | t
  · exact fun hnone => by cases hnone
  · dsimp only
    split_ifs
    · exact fun hnone => by cases hnone
    · rcases hz : h.dest.zfs.receiveStream t n with e | z
      · exact fun hnone => by cases hnone
      · intro _
        rw [Store.receiveStream] at hz
        split_ifs at hz
        cases hz
        rw [Store.stream] at ht
        split_ifs at ht with hmem
        refine ⟨Store.mem_names_put.2 (.inl rfl), ?_⟩
        rw [Store.zvol_put_self]
        have hid : t.id = r.id := by simpa using List.find?_some ht
        exact hr t ⟨hmem, List.mem_of_find?_eq_some ht⟩ hid

/-- `import_existing` writes a row, and leaves the store alone. -/
theorem wp_importExisting_row {E : Env} {sr key name description : String} {size : ℕ} {w : World} :
    wp (importExisting E sr key name description size false)
      (fun _ w' => w'.zfs = w.zfs ∧ ∃ v ∈ (w'.db sr).vdis, v.uuid = key ∧ v.snap = false)
      (fun _ _ => True) w := by
  have hX : ∀ (e : VolError) (w' : World), True → True := fun _ _ _ => trivial
  suffices hrow : wp (importExisting E sr key name description size false)
      (fun _ w' => ∃ v ∈ (w'.db sr).vdis, v.uuid = key ∧ v.snap = false) (fun _ _ => True) w from
    wp_mono (wp_and wp_importExisting_zfs hrow) (fun _ _ h => h) fun _ _ _ => trivial
  rw [importExisting, wp_bind]
  refine wp_mono (wp_true ..) (fun m w₁ _ => ?_) hX
  rw [wp_bind]
  refine wp_mono (wp_true ..) (fun there w₂ _ => ?_) hX
  rw [wp_ite]
  refine ⟨fun _ => ?_, fun _ => trivial⟩
  rw [wp_bind]
  refine wp_dbContext (fun _ _ _ => trivial) fun w₃ _ _ => ?_
  simp only [wp_bind, wp_pure]
  refine wp_dbCmd (fun _ _ _ => trivial) (fun _ _ _ _ => trivial) fun id db w₄ hins hwork₄ _ => ?_
  cases hins
  refine wp_dbCmd (fun _ _ _ => trivial) (fun _ _ _ _ => trivial) fun _ db₅ w₅ hvdi hwork₅ _ => ?_
  split at hvdi
  · next db' hdb =>
    cases hvdi
    refine wp_zfsGet (fun _ _ _ => trivial) (fun _ _ _ _ => trivial) fun vsize w₆ _ hs₆ => ?_
    refine wp_dbCmd (fun _ _ _ => trivial) (fun _ _ _ _ => trivial) fun _ db₇ w₇ hup hwork₇ _ => ?_
    cases hup
    rw [hwork₄] at hdb
    rw [hs₆.work, hwork₅] at hwork₇
    refine ⟨fun _ _ _ => trivial, fun w₈ hc => ?_⟩
    refine wp_mono (wp_zfsGet (fun _ _ _ => trivial) (fun _ _ _ _ => trivial)
      fun used w₉ _ hs₉ => ?_) (fun _ _ h => h) hX
    rw [hs₉.db]
    have hrows : w₈.db sr = db₅.updateVolumeVsize w₃.work.next (some vsize) := by
      rw [hc.db, ← hwork₇]
      exact if_pos rfl
    rw [hrows]
    exact ⟨_, (Metabase.mem_vdis_insertSized hdb).2 (.inl rfl), rfl, rfl⟩
  · cases hvdi

/-- What `import_existing` leaves at the destination, the registration does. -/
theorem wp_register {P : World → Prop}
    (himport : ∀ name description size,
      wp (importExisting C.dest destSr C.newUuid name description size false) (fun _ w => P w)
        (fun _ _ => True) h.dest) :
    wp (register C srcVdi destSr n) (fun o h' => ∀ u, o = some u → u = C.newUuid ∧ P h'.dest)
      (fun _ _ => True) h := by
  have hgiveUp : ∀ h' : Hosts, wp (do cleanupDestZvol C n; return (none : Option String))
      (fun o h' => ∀ u, o = some u → u = C.newUuid ∧ P h'.dest) (fun _ _ => True) h' := by
    intro h'
    rw [wp_bind]
    exact wp_mono (wp_true ..) (fun _ _ _ _ hnone => by cases hnone) fun _ _ _ => trivial
  rw [register]
  split
  · trivial
  · next size hsize =>
    rw [wp_bind, wp, importRemote]
    split_ifs with hreached
    · have hrow := himport (orDefault (C.vdiParam srcVdi "name-label") "")
        (orDefault (C.vdiParam srcVdi "name-description") "") size
      rcases hrun : importExisting C.dest destSr C.newUuid
        (orDefault (C.vdiParam srcVdi "name-label") "")
        (orDefault (C.vdiParam srcVdi "name-description") "") size false h.dest with ⟨a, w⟩ | ⟨e, w⟩
      · dsimp only
        rw [wp_ite]
        refine ⟨fun _ => ?_, fun _ => hgiveUp _⟩
        rintro u ⟨⟩
        exact ⟨rfl, (wp_of_ok hrun).1 hrow⟩
      · exact hgiveUp _
    · exact hgiveUp _

/-- **The copy between hosts**, when it returns a uuid. -/
theorem made_invokeCrossHostCopy :
    wp (invokeCrossHostCopy C srcSr srcVdi destSr) (fun o h' => ∀ u, o = some u →
      ∃ base base', srZfsPath (C.src.srMeta srcSr) = some base ∧ destPath C destSr = some base' ∧
        HasCopy h.src.zfs ⟨base, srcVdi⟩ destSr ⟨base', u⟩ h'.dest) (fun _ _ => True) h := by
  have hX : ∀ (e : Raised) (h' : Hosts), True → True := fun _ _ _ => trivial
  rw [invokeCrossHostCopy]
  cases hsrc : srZfsPath (C.src.srMeta srcSr) with
  | none => exact fun _ hnone => by cases hnone
  | some base =>
      cases hdest : destPath C destSr with
      | none => exact fun _ hnone => by cases hnone
      | some base' =>
          simp only [transfer, wp_bind]
          refine wp_mono wp_takeSnapshot_holds (fun taken h₁ hholds => ?_) hX
          rw [wp_ite]
          refine ⟨fun htaken => ?_, fun _ _ hnone => by cases hnone⟩
          rw [wp_bind]
          refine wp_mono (wp_sendReceive_content (hholds htaken)) (fun sent h₂ harrived => ?_) hX
          rw [wp_ite]
          refine ⟨fun hsent => ?_, fun _ => ?_⟩
          · obtain ⟨hthere, hcontent⟩ := harrived hsent
            rw [wp_bind, cleanupSourceSnap, wp_modify]
            refine wp_mono (wp_register fun _ _ _ => wp_importExisting_row) (fun o h₃ hrow u hu => ?_)
              hX
            obtain ⟨rfl, hzfs, v, hv, huuid, hsnap⟩ := hrow u hu
            have hsame : h₃.dest.zfs = h₂.dest.zfs := by
              rw [hzfs]
              split
              · split <;> rfl
              · rfl
            exact ⟨base, base', rfl, rfl, hsame ▸ hthere, hsame ▸ hcontent, v, hv, huuid, hsnap⟩
          · simp only [wp_bind]
            refine wp_mono (wp_true ..) (fun _ h₃ _ => ?_) hX
            exact wp_mono (wp_true ..) (fun _ _ _ _ hnone => by cases hnone) hX

end

/-! ### Which copies are made -/

/-- The first of the PBDs of an SR is on a host, as `xe.real` has told it. -/
def OnHost (S : Shell) (sr host : String) : Prop :=
  ∃ n n' pbd, S.xeReal n ["pbd-list", "sr-uuid=" ++ sr, "params=uuid", "--minimal"] = some pbd ∧
    S.xeReal n' ["pbd-param-get", "uuid=" ++ String.ofList (pbd.toList.takeWhile (· ≠ ',')),
      "param-name=host-uuid"] = some host

/-- The two hosts of a copy: on this one, or from this one to another, that has an address. -/
def Located (S : Shell) (path : FastPath) : Prop :=
  ∃ here, S.localHostUuid = some here ∧
    match path.dest_host_addr with
    | none => OnHost S path.dest_sr here
    | some addr => OnHost S path.src_sr here ∧ ∃ there, there ≠ here ∧ OnHost S path.dest_sr there ∧
        ∃ n, S.xeReal n ["host-param-get", "uuid=" ++ there, "param-name=address"] = some addr

/-- **The copies that the arguments ask for**: the command is a plain `vdi-copy`, both SRs are of the type
zfs-live, and the hosts are known. -/
structure Chosen (S : Shell) (args : Dict String ArgVal) (path : FastPath) : Prop where
  basic : isBasicVdiCopy args = true
  src_vdi : args.get? "uuid" = some (.text path.src_vdi)
  dest_sr : args.get? "sr-uuid" = some (.text path.dest_sr)
  src_sr : ∃ n, S.xeReal n ["vdi-param-get", "uuid=" ++ path.src_vdi, "param-name=sr-uuid"] =
    some path.src_sr
  src_type : ∃ n, S.xeReal n (srTypeQuery path.src_sr) = some "zfs-live"
  dest_type : ∃ n, S.xeReal n (srTypeQuery path.dest_sr) = some "zfs-live"
  located : Located S path

/-- Nothing is copied, and nothing printed. -/
structure Quiet (s s' : Run) : Prop where
  hosts : s'.hosts = s.hosts
  copies : s'.copies = s.copies
  out : s'.out = s.out

theorem Quiet.refl (s : Run) : Quiet s s := ⟨rfl, rfl, rfl⟩

theorem Quiet.trans {s s' s'' : Run} (h : Quiet s s') (h' : Quiet s' s'') : Quiet s s'' :=
  ⟨h'.hosts.trans h.hosts, h'.copies.trans h.copies, h'.out.trans h.out⟩

section

variable {S : Shell} {s s₀ : Run} {X : Exit → Run → Prop} {args : Dict String ArgVal}
  {argv : List String}

theorem truthy_eq_some {o : Option String} {x : String} :
    truthy o = some x ↔ o = some x ∧ x ≠ "" := by
  rw [truthy, Option.filter_eq_some_iff, decide_eq_true_iff]

theorem wp_xe {Q : Option String → Run → Prop} {query : List String} (hs : Quiet s₀ s)
    (h : ∀ n s', Quiet s₀ s' → Q (S.xeReal n query) s') : wp (xe S query) Q X s :=
  h s.clock { s with clock := s.clock + 1 } (hs.trans ⟨rfl, rfl, rfl⟩)

theorem wp_srHostUuid {Q : Option String → Run → Prop} {sr : String} (hs : Quiet s₀ s)
    (h : ∀ o s', Quiet s₀ s' → (∀ host, o = some host → OnHost S sr host) → Q o s') :
    wp (srHostUuid S sr) Q X s := by
  rw [srHostUuid, wp_bind]
  refine wp_xe hs fun n s₁ hs₁ => ?_
  split
  · exact h none s₁ hs₁ fun _ hnone => by cases hnone
  · next pbd hpbd =>
    exact wp_xe hs₁ fun n' s₂ hs₂ => h _ s₂ hs₂ fun host hhost =>
      ⟨n, n', pbd, (truthy_eq_some.1 hpbd).1, hhost⟩

/-- What is found is where the copy takes place. -/
theorem wp_locate {src_sr dest_sr src_vdi : String} (hs : Quiet s₀ s) :
    wp (locate S src_sr dest_sr src_vdi) (fun o s' => Quiet s₀ s' ∧ ∀ path, o = some path →
      path.src_sr = src_sr ∧ path.dest_sr = dest_sr ∧ path.src_vdi = src_vdi ∧ Located S path) X s := by
  have hnone : ∀ s', Quiet s₀ s' → Quiet s₀ s' ∧ ∀ path, (none : Option FastPath) = some path →
      path.src_sr = src_sr ∧ path.dest_sr = dest_sr ∧ path.src_vdi = src_vdi ∧ Located S path :=
    fun s' hs' => ⟨hs', fun _ h => by cases h⟩
  rw [locate, wp_bind]
  refine wp_srHostUuid hs fun dest_host s₁ hs₁ hdest => ?_
  split
  · next here there hhere hthere =>
    obtain ⟨hlocal, -⟩ := truthy_eq_some.1 hhere
    obtain ⟨rfl, -⟩ := truthy_eq_some.1 hthere
    rw [wp_ite]
    refine ⟨fun heq => ⟨hs₁, ?_⟩, fun hne => ?_⟩
    · rintro path ⟨⟩
      exact ⟨rfl, rfl, rfl, here, hlocal, hdest here (congrArg some heq)⟩
    · rw [wp_bind]
      refine wp_srHostUuid hs₁ fun src_host s₂ hs₂ hsrc => ?_
      rw [wp_ite]
      refine ⟨fun _ => hnone s₂ hs₂, fun heq => ?_⟩
      rw [wp_bind]
      refine wp_xe hs₂ fun n s₃ hs₃ => ?_
      split
      · exact hnone s₃ hs₃
      · next addr haddr =>
        refine ⟨hs₃, ?_⟩
        rintro path ⟨⟩
        exact ⟨rfl, rfl, rfl, here, hlocal, hsrc here (not_not.1 heq), there, hne,
          hdest there rfl, n, (truthy_eq_some.1 haddr).1⟩
  · exact hnone s₁ hs₁

theorem wp_str {Q : String → Run → Prop} {v : Option ArgVal} (herr : X (.raised .typeError) s)
    (h : ∀ x, v = some (.text x) → Q x s) : wp (str v) Q X s := by
  rcases v with _ | x | _
  · exact herr
  · exact h x rfl
  · exact herr

/-- **A path that is found is chosen**, and looking for it changes nothing. -/
theorem wp_tryFastPath (hs : Quiet s₀ s) :
    wp (tryFastPath S args) (fun o s' => Quiet s₀ s' ∧ ∀ path, o = some path → Chosen S args path)
      (fun exit s' => Quiet s₀ s' ∧ exit = .raised .typeError) s := by
  have hnone : ∀ s', Quiet s₀ s' → Quiet s₀ s' ∧ ∀ path, (none : Option FastPath) = some path →
      Chosen S args path := fun s' hs' => ⟨hs', fun _ h => by cases h⟩
  rw [tryFastPath, wp_ite]
  refine ⟨fun hbasic => ?_, fun _ => hnone s hs⟩
  rw [wp_bind]
  refine wp_str ⟨hs, rfl⟩ fun src_vdi hvdi => ?_
  rw [wp_bind]
  refine wp_xe hs fun n₁ s₁ hs₁ => ?_
  split
  · exact hnone s₁ hs₁
  · next src_sr hsr =>
    rw [wp_bind]
    refine wp_xe hs₁ fun n₂ s₂ hs₂ => ?_
    rw [wp_bind]
    refine wp_str ⟨hs₂, rfl⟩ fun dest_sr hdest => ?_
    rw [wp_bind]
    refine wp_xe hs₂ fun n₃ s₃ hs₃ => ?_
    rw [wp_ite, not_or, not_not, not_not]
    refine ⟨fun _ => hnone s₃ hs₃, fun htypes => ?_⟩
    refine wp_mono (wp_locate hs₃) (fun o s' h => ⟨h.1, fun path hpath => ?_⟩) fun _ _ h => h
    obtain ⟨rfl, rfl, rfl, hlocated⟩ := h.2 path hpath
    exact ⟨hbasic, hvdi, hdest, ⟨n₁, (truthy_eq_some.1 hsr).1⟩, ⟨n₂, htypes.1⟩, ⟨n₃, htypes.2⟩,
      hlocated⟩

/-- The check of xapi changes what is recorded of it, and nothing else. -/
theorem wp_stepsAside (hs : Quiet s₀ s) :
    wp (stepsAside S) (fun _ s' => Quiet s₀ s')
      (fun exit s' => Quiet s₀ s' ∧ exit = .raised .attributeError) s := by
  have hget : ∀ {α : Type} {f : Compat → MainM α} {Q : α → Run → Prop} (s' : Run), Quiet s₀ s' →
      (∀ compat, wp (f compat) Q
        (fun exit s'' => Quiet s₀ s'' ∧ exit = .raised .attributeError) s') →
      wp (getCached >>= f) Q (fun exit s'' => Quiet s₀ s'' ∧ exit = .raised .attributeError) s' := by
    intro α f Q s' hs' hf
    rw [wp_bind, wp, getCached]
    split
    · next heq =>
      split at heq <;> cases heq <;> exact hf _
    · next heq =>
      split at heq <;> cases heq
      exact ⟨hs', rfl⟩
  have hfilled : ∀ s', Quiet s₀ s' → wp (do return !(← isGapFilled "VDI.copy")) (fun _ s'' => Quiet s₀ s'')
      (fun exit s'' => Quiet s₀ s'' ∧ exit = .raised .attributeError) s' := by
    intro s' hs'
    rw [isGapFilled, wp_bind]
    exact hget s' hs' fun _ => hs'
  rw [stepsAside, wp_ite]
  refine ⟨fun _ => hget s hs fun compat => ?_, fun _ => hs⟩
  dsimp only
  rw [wp_ite, wp_bind, setCached, wp_modify]
  exact ⟨fun _ => hfilled _ (hs.trans ⟨rfl, rfl, rfl⟩), fun _ => hfilled s hs⟩

/-- The command is handed over as it is, or there is no `xe.real`. -/
def HandedOver (argv : List String) (exit : Exit) : Prop :=
  exit = .code 127 ∨ ∃ real, exit = .exec real (real :: argv.tail)

theorem wp_passthrough {α : Type} {Q : α → Run → Prop} (h : ∀ exit, HandedOver argv exit → X exit s) :
    wp (passthrough S argv) Q X s := by
  rw [wp, passthrough]
  rcases S.findXeReal s.clock with _ | real
  · exact h _ (.inl rfl)
  · exact h _ (.inr ⟨real, rfl⟩)

/-- What the copy by a path has done: it has returned a uuid, or nothing. -/
def Copied (S : Shell) (path : FastPath) (s s' : Run) (o : Option String) : Prop :=
  s'.out = s.out ∧ s'.copies = s.copies ++ [(path, o)] ∧
    ∀ u, o = some u → Made S.wrapper s.hosts s'.hosts path u

/-- The path is tried, or the plugin is not there. -/
theorem wp_fastCopy (hT : Tidy S.wrapper.src s.hosts.src) (path : FastPath) :
    wp (fastCopy S path) (fun o s' => Copied S path s s' o ∨ o = none ∧ s' = s)
      (fun exit s' => Copied S path s s' none ∧ ∃ e, exit = .raised (.copy e)) s := by
  rw [fastCopy]
  split
  · next hhere =>
    split
    · exact .inr ⟨rfl, rfl⟩
    · rw [wp, invokeVolumeCopy]
      by_cases hexec : S.executable = true
      · rw [if_pos hexec]
        have hmade := made_copy hT path.src_sr path.src_vdi path.dest_sr
        rcases hrun : copy S.wrapper.src path.src_sr path.src_vdi path.dest_sr s.hosts.src with
          ⟨info, w⟩ | ⟨e, w⟩
        · refine .inl ⟨rfl, rfl, fun u hu => ?_⟩
          split_ifs at hu
          obtain ⟨hkey, -⟩ := truthy_eq_some.1 hu
          obtain rfl := Option.some.inj hkey
          rw [Made, hhere]
          exact (wp_of_ok hrun).1 hmade
        · exact .inl ⟨rfl, rfl, fun u hu => by cases hu⟩
      · rw [if_neg hexec]
        exact .inr ⟨rfl, rfl⟩
  · next addr haddr =>
    rw [wp, copyAcrossHosts]
    have hmade := @made_invokeCrossHostCopy S.wrapper path.src_sr path.src_vdi path.dest_sr s.hosts
    rcases hrun : invokeCrossHostCopy S.wrapper path.src_sr path.src_vdi path.dest_sr s.hosts with
      ⟨o, h⟩ | ⟨e, h⟩
    · refine .inl ⟨rfl, rfl, fun u hu => ?_⟩
      rw [Made, haddr]
      exact (wp_of_ok hrun).1 hmade u (truthy_eq_some.1 hu).1
    · exact ⟨⟨rfl, rfl, fun u hu => by cases hu⟩, e, rfl⟩

/-- xapi knows the VDI. -/
def Resolves (S : Shell) (u : String) : Prop :=
  ∃ n, S.xeReal n ["vdi-param-get", "uuid=" ++ u, "param-name=uuid"] = some u

/-- The uuid is printed where xapi knows it. -/
theorem wp_announce (path : FastPath) (u : String) :
    wp (announce S path u) (fun code s' => s'.hosts = s.hosts ∧ s'.copies = s.copies ∧
      (code = 0 ∧ s'.out = s.out ++ [u] ∧ Resolves S u ∨ code = 1 ∧ s'.out = s.out)) X s := by
  have hscan : ∀ {Q : Option String → Run → Prop}, (∀ o s', Quiet s s' → Q o s') →
      wp (scan S path) Q X s := by
    intro Q h
    rw [scan]
    split
    · exact h _ _ ⟨rfl, rfl, rfl⟩
    · exact h _ _ ⟨rfl, rfl, rfl⟩
  rw [announce, wp_bind]
  refine hscan fun o s₁ hs₁ => ?_
  rw [wp_ite]
  refine ⟨fun _ => ⟨hs₁.hosts, hs₁.copies, .inr ⟨rfl, hs₁.out⟩⟩, fun _ => ?_⟩
  rw [wp_bind]
  refine wp_xe hs₁ fun n s₂ hs₂ => ?_
  rw [wp_ite]
  refine ⟨fun _ => ⟨hs₂.hosts, hs₂.copies, .inr ⟨rfl, hs₂.out⟩⟩, fun hknown => ?_⟩
  rw [wp_bind, wp_modify]
  refine ⟨hs₂.hosts, hs₂.copies, .inl ⟨rfl, ?_, n, not_not.1 hknown⟩⟩
  rw [hs₂.out]

/-- How a run ends that has not printed a uuid and has no exit code of its own: nothing was copied, or one
copy was tried that has returned nothing; after that the command is handed over, or there was an
exception. -/
structure GaveUp (S : Shell) (argv : List String) (s s' : Run) (exit : Exit) : Prop where
  out : s'.out = s.out
  tried : s'.copies = s.copies ∧ s'.hosts = s.hosts ∨ ∃ path,
    Chosen S (parseKvArgs (argv.drop 2)) path ∧ s'.copies = s.copies ++ [(path, none)]
  ending : HandedOver argv exit ∨ ∃ e, exit = .raised e

theorem Quiet.gaveUp {s' : Run} {exit : Exit} (h : Quiet s s')
    (hexit : HandedOver argv exit ∨ ∃ e, exit = .raised e) : GaveUp S argv s s' exit :=
  ⟨h.out, .inl ⟨h.copies, h.hosts⟩, hexit⟩

/-- **One copy at most, and a uuid only when it is there.**  `main` returns only after a `vdi-copy` between
two zfs-live SRs has made its copy, and prints the uuid where xapi knows it; in all other cases it prints
nothing, and hands the arguments over as they were unless it ends with an exception. -/
theorem main_spec (hT : Tidy S.wrapper.src s.hosts.src) :
    wp (main S argv)
      (fun code s' => ∃ path u, argv[1]? = some "vdi-copy" ∧
        Chosen S (parseKvArgs (argv.drop 2)) path ∧ s'.copies = s.copies ++ [(path, some u)] ∧
        Made S.wrapper s.hosts s'.hosts path u ∧
        (code = 0 ∧ s'.out = s.out ++ [u] ∧ Resolves S u ∨ code = 1 ∧ s'.out = s.out))
      (fun exit s' => GaveUp S argv s s' exit ∧
        (argv[1]? ≠ some "vdi-copy" → s' = s ∧ HandedOver argv exit)) s := by
  have hrefl := Quiet.refl s
  rw [main, wp_ite]
  refine ⟨fun hother => wp_passthrough fun exit hexit =>
    ⟨hrefl.gaveUp (.inl hexit), fun _ => ⟨rfl, hexit⟩⟩, fun hcopy => ?_⟩
  rw [not_not] at hcopy
  have hno : ∀ {p : Prop}, argv[1]? ≠ some "vdi-copy" → p := fun h => absurd hcopy h
  rw [wp_bind]
  refine wp_mono (wp_stepsAside hrefl) (fun aside s₁ hs₁ => ?_) fun exit s' h =>
    ⟨h.1.gaveUp (.inr ⟨_, h.2⟩), hno⟩
  rw [wp_ite]
  refine ⟨fun _ => wp_passthrough fun exit hexit => ⟨hs₁.gaveUp (.inl hexit), hno⟩, fun _ => ?_⟩
  rw [wp_bind]
  refine wp_mono (wp_tryFastPath hs₁) (fun o s₂ h₂ => ?_) fun exit s' h =>
    ⟨h.1.gaveUp (.inr ⟨_, h.2⟩), hno⟩
  obtain ⟨hs₂, hchosen⟩ := h₂
  rcases o with _ | path
  · exact wp_passthrough fun exit hexit => ⟨hs₂.gaveUp (.inl hexit), hno⟩
  have hchosen := hchosen path rfl
  have htried : ∀ {s₃ : Run} {exit : Exit}, Copied S path s₂ s₃ none →
      (HandedOver argv exit ∨ ∃ e, exit = .raised e) → GaveUp S argv s s₃ exit := by
    intro s₃ exit h hexit
    exact ⟨h.1.trans hs₂.out, .inr ⟨path, hchosen, hs₂.copies ▸ h.2.1⟩, hexit⟩
  have hT₂ : Tidy S.wrapper.src s₂.hosts.src := hs₂.hosts ▸ hT
  dsimp only
  rw [wp_bind]
  refine wp_mono (wp_fastCopy hT₂ path) (fun o s₃ h₃ => ?_) fun exit s' h =>
    ⟨htried h.1 (.inr (h.2.elim fun e he => ⟨.copy e, he⟩)), hno⟩
  rcases o with _ | u
  · refine wp_passthrough fun exit hexit => ⟨?_, hno⟩
    obtain h₃ | ⟨-, rfl⟩ := h₃
    · exact htried h₃ (.inl hexit)
    · exact hs₂.gaveUp (.inl hexit)
  · obtain h₃ | ⟨hnone, -⟩ := h₃
    · refine wp_mono (wp_announce path u) (fun code s₄ h₄ => ?_) fun _ _ h => h
      obtain ⟨hhosts, hcopies, hend⟩ := h₄
      refine ⟨path, u, hcopy, hchosen, ?_, ?_, ?_⟩
      · rw [hcopies, h₃.2.1, hs₂.copies]
      · rw [hhosts, ← hs₂.hosts]
        exact h₃.2.2 u rfl
      · rwa [h₃.1, hs₂.out] at hend
    · cases hnone

end

/-! ### The disk of one pool is copied to the other -/

/-- What `xe.real` answers on the host with the two pools. -/
def diskAnswers : List String → Option String
  | ["vdi-param-get", _, "param-name=sr-uuid"] => some "sr"
  | ["sr-param-get", _, "param-name=type"] => some "zfs-live"
  | ["pbd-list", _, _, _] => some "pbd"
  | ["pbd-param-get", "uuid=pbd", "param-name=host-uuid"] => some "host"
  | ["sr-scan", _] => some ""
  | ["vdi-param-get", "uuid=u", "param-name=uuid"] => some "u"
  | _ => none

def diskShell : Shell where
  wrapper := { sample (fun _ => false) with src := twoPools }
  findXeReal _ := some "/usr/bin/xe.real"
  xeReal _ := diskAnswers
  ssh _ _ _ := none
  localHostUuid := some "host"
  findPluginDir := some "org.xen.xapi.storage.zfs-live"
  executable := true
  reported := true
  compatible := true
  probeXapiVersion := none
  probeRecognisedFeatures := []
  unwritten := none

def diskRun : Run where
  hosts := { src := oneDisk, dest := emptyWorld }
  clock := 0
  sidecar := .missing
  cached := none
  copies := []
  out := []

/-- What a run that returns has printed. -/
private def printed : EStateM.Result Exit Run ℕ → List String
  | .ok _ s => s.out
  | .error _ _ => []

/-- The disk is copied, and its uuid printed. -/
theorem main_spec_disk : ∃ code s', main diskShell ["xe", "vdi-copy", "uuid=", "sr-uuid=far"] diskRun =
    .ok code s' ∧ ∃ path, s'.copies = [(path, some "u")] ∧
      Made diskShell.wrapper diskRun.hosts s'.hosts path "u" := by
  have hout : printed (main diskShell ["xe", "vdi-copy", "uuid=", "sr-uuid=far"] diskRun) = ["u"] := by
    decide +kernel
  have hspec := @main_spec diskShell diskRun ["xe", "vdi-copy", "uuid=", "sr-uuid=far"] tidy_oneDisk
  rcases hrun : main diskShell ["xe", "vdi-copy", "uuid=", "sr-uuid=far"] diskRun with
    ⟨code, s'⟩ | ⟨e, s'⟩
  · obtain ⟨path, u, -, -, hcopies, hmade, hend⟩ := (wp_of_ok hrun).1 hspec
    rw [hrun] at hout
    obtain ⟨-, hu, -⟩ | ⟨-, hu⟩ := hend
    · have hlist : s'.out = ["u"] := hout
      rw [hu] at hlist
      cases hlist
      exact ⟨code, s', rfl, path, hcopies, hmade⟩
    · have hlist : s'.out = ["u"] := hout
      rw [hu] at hlist
      cases hlist
  · rw [hrun] at hout
    cases hout

/-! ### Stepping aside for good -/

/-- A call of the wrapper; the hosts are what the calls and everything else have made of them by then. -/
structure Call where
  shell : Shell
  argv : List String
  hosts : Hosts

/-- Each call is a process of its own, which starts without a cache. -/
def Call.start (c : Call) (s : Run) : Run := { s with hosts := c.hosts, cached := none }

def call (s : Run) (c : Call) : Run := Wp.after (main c.shell c.argv) (c.start s)

/-- xapi is on record as one that routes `VDI.copy` itself. -/
def Retired (s : Run) : Prop :=
  ∃ compat, s.sidecar = .saved compat ∧ compat.xapi_version ≠ none ∧
    compat.gaps.get? "VDI.copy" = some false

/-- Nothing is on record of xapi, or not its version. -/
def Unprobed (s : Run) : Prop :=
  s.sidecar = .missing ∨ ∃ compat, s.sidecar = .saved compat ∧ compat.xapi_version = none

section

variable {S : Shell} {s : Run} {argv : List String}

theorem getCached_saved {compat : Compat} (hcached : s.cached = none) (h : s.sidecar = .saved compat) :
    getCached s = .ok compat s := by
  rw [getCached, hcached, h]

/-- What is on record decides, whatever a probe would say by now. -/
theorem stepsAside_retired (hcompatible : S.compatible = true) (hcached : s.cached = none)
    (h : Retired s) : stepsAside S s = .ok true s := by
  obtain ⟨compat, hsidecar, hversion, hgap⟩ := h
  have hget := getCached_saved hcached hsidecar
  have hfilled : isGapFilled "VDI.copy" s = .ok false s := by
    rw [isGapFilled, bind_ok hget, hgap]
    rfl
  rw [stepsAside, if_pos hcompatible, bind_ok hget, if_neg hversion]
  exact bind_ok hfilled

theorem probe_recognised (hfeature : "VDI_COPY" ∈ S.probeRecognisedFeatures) :
    (probe S).gaps.get? "VDI.copy" = some false := by
  refine (Dict.get?_ofList (by simp [KNOWN_GAPS])).2 ?_
  simp [KNOWN_GAPS, hfeature]

/-- The first look at an xapi that routes `VDI.copy` itself is recorded. -/
theorem stepsAside_unprobed (hcompatible : S.compatible = true) (hcached : s.cached = none)
    (hunprobed : Unprobed s) (hfeature : "VDI_COPY" ∈ S.probeRecognisedFeatures) :
    stepsAside S s = .ok true (Wp.after (setCached S (probe S)) s) := by
  obtain ⟨compat, hget, hversion⟩ : ∃ compat, getCached s = .ok compat s ∧
      compat.xapi_version = none := by
    obtain h | ⟨compat, h, hversion⟩ := hunprobed
    · exact ⟨assumed, by rw [getCached, hcached, h], rfl⟩
    · exact ⟨compat, getCached_saved hcached h, hversion⟩
  have hset : setCached S (probe S) s = .ok () (Wp.after (setCached S (probe S)) s) := rfl
  have hfilled : isGapFilled "VDI.copy" (Wp.after (setCached S (probe S)) s) =
      .ok false (Wp.after (setCached S (probe S)) s) := by
    have hprobed : getCached (Wp.after (setCached S (probe S)) s) =
        .ok (probe S) (Wp.after (setCached S (probe S)) s) := rfl
    rw [isGapFilled, bind_ok hprobed, probe_recognised hfeature]
    rfl
  rw [stepsAside, if_pos hcompatible, bind_ok hget, if_pos hversion]
  exact (bind_ok hset).trans (bind_ok hfilled)

theorem after_passthrough {α : Type} : Wp.after (passthrough S argv : MainM α) s = s := by
  rw [Wp.after, passthrough]
  split
  · next heq => split at heq <;> cases heq
  · next heq => split at heq <;> cases heq <;> rfl

/-- `main` does nothing where it steps aside. -/
theorem after_main_aside {s' : Run} (hcopy : argv[1]? = some "vdi-copy")
    (haside : stepsAside S s = .ok true s') : Wp.after (main S argv) s = s' := by
  rw [main, if_neg (not_not.2 hcopy), Wp.after, bind_ok haside]
  exact after_passthrough

theorem after_main_other (hother : argv[1]? ≠ some "vdi-copy") : Wp.after (main S argv) s = s := by
  rw [main, if_pos hother]
  exact after_passthrough

end

section

variable {c : Call} {cs : List Call} {s : Run}

/-- The step: a call finds what is on record, and leaves everything as it was. -/
theorem call_retired (hcompatible : c.shell.compatible = true) (h : Retired s) :
    call s c = c.start s := by
  have hstart : Retired (c.start s) := h
  by_cases hcopy : c.argv[1]? = some "vdi-copy"
  · exact after_main_aside hcopy (stepsAside_retired hcompatible rfl hstart)
  · exact after_main_other hcopy

/-- Any number of calls. -/
theorem foldl_retired (hcompatible : ∀ c' ∈ cs, c'.shell.compatible = true) (h : Retired s) :
    Retired (cs.foldl call s) ∧ (cs.foldl call s).copies = s.copies ∧
      (cs.foldl call s).out = s.out := by
  induction cs generalizing s with
  | nil => exact ⟨h, rfl, rfl⟩
  | cons c cs ih =>
      rw [List.forall_mem_cons] at hcompatible
      rw [List.foldl_cons, call_retired hcompatible.1 h]
      exact ih hcompatible.2 h

/-- **Stepping aside for good.**  As soon as one `vdi-copy` has found an xapi that routes `VDI.copy` itself,
and has put this on record, no call copies or prints anything: not this one, and no later one, whatever its
arguments are and whatever another probe would find. -/
theorem steps_aside_for_good (hcopy : c.argv[1]? = some "vdi-copy") (hunprobed : Unprobed s)
    (hversion : c.shell.probeXapiVersion ≠ none)
    (hfeature : "VDI_COPY" ∈ c.shell.probeRecognisedFeatures) (hwritten : c.shell.unwritten = none)
    (hcompatible : ∀ c' ∈ c :: cs, c'.shell.compatible = true) :
    ∀ before c' later, c :: cs = before ++ c' :: later →
      (call (before.foldl call s) c').hosts = c'.hosts ∧
      (call (before.foldl call s) c').copies = s.copies ∧
      (call (before.foldl call s) c').out = s.out := by
  have hstart : Unprobed (c.start s) := hunprobed
  have hfirst : call s c = Wp.after (setCached c.shell (probe c.shell)) (c.start s) :=
    after_main_aside hcopy
      (stepsAside_unprobed (hcompatible c List.mem_cons_self) rfl hstart hfeature)
  have hretired : Retired (call s c) := by
    rw [hfirst]
    exact ⟨probe c.shell, congrArg (Option.getD · _) hwritten, hversion, probe_recognised hfeature⟩
  rintro (_ | ⟨c₁, before⟩) c' later hsplit
  · obtain ⟨rfl, rfl⟩ := List.cons.inj hsplit
    rw [List.foldl_nil, hfirst]
    exact ⟨rfl, rfl, rfl⟩
  · obtain ⟨rfl, rfl⟩ := List.cons.inj hsplit
    have hall : ∀ c'' ∈ before ++ c' :: later, c''.shell.compatible = true := fun c'' hc =>
      hcompatible c'' (List.mem_cons_of_mem _ hc)
    obtain ⟨hstill, hcopies, hout⟩ := foldl_retired
      (fun c'' hc => hall c'' (List.mem_append_left _ hc)) hretired
    rw [List.foldl_cons, call_retired (hall c' (by simp)) hstill]
    refine ⟨rfl, hcopies.trans ?_, hout.trans ?_⟩
    · rw [hfirst]
      rfl
    · rw [hfirst]
      rfl

end

/-- The host with the two pools, with an xapi that routes `VDI.copy` itself. -/
def routingCall : Call where
  shell := { diskShell with
    probeXapiVersion := some "25.6.0"
    probeRecognisedFeatures := ["VDI_COPY"] }
  argv := ["xe", "vdi-copy", "uuid=", "sr-uuid=far"]
  hosts := diskRun.hosts

/-- A call that would copy the disk comes too late. -/
theorem steps_aside_for_good_disk :
    (call (call diskRun routingCall) { routingCall with shell := diskShell }).copies = [] := by
  have haside := @steps_aside_for_good routingCall [{ routingCall with shell := diskShell }] diskRun
    rfl (.inl rfl) (by decide) (by decide) rfl (by decide)
  exact (haside [routingCall] { routingCall with shell := diskShell } [] rfl).2.1

end XeWrapper

/-
**VDIs that are registered while `SR.ls` sweeps** (`src/volume/sr.py`, `src/volume/volume.py`,
`src/volume/zfs_operations.py`).

`SR.ls` reads the UUIDs of the VDIs that an SR knows, and then lists its zvols and its snapshots, looks
at each one that is none of them, reads the clock, and destroys what is old enough.  It takes no lock.
Meanwhile other calls make zvols and snapshots, and commit their rows at the end.

The calls are programs that run side by side: between two steps of a call, other calls take theirs, and
time passes.  A zvol is named by the dataset of its SR and by its UUID.

Main definitions:

* `Registration.Command`, `Registration.exec` — the steps of the calls;
* `Registration.ls`, `Registration.create`, `Registration.copy`, `Registration.importExisting`,
  `Registration.snapshot` — the calls;
* `Registration.Event`, `Registration.System.next` — the calls at work and their surroundings.
-/

import ZfsLive.Base.Dict
import ZfsLive.Base.Tasks
import ZfsLive.Orphans

set_option relaxedAutoImplicit false
set_option autoImplicit false

namespace Registration

open Tasks

/-! ### The host -/

/-- A zvol right under the dataset of an SR. -/
structure Vol where
  sr : String
  uuid : String
  deriving DecidableEq, Repr

/-- A zvol or a snapshot. -/
inductive Obj
  | zvol (v : Vol)
  | snapshot (v : Vol) (snap : String)
  deriving DecidableEq, Repr

/-- What a call registers: a zvol by its name, and a snapshot by its UUID, whichever zvol of the SR it is
a snapshot of. -/
inductive Claim
  | zvol (v : Vol)
  | snapshot (sr snap : String)
  deriving DecidableEq, Repr

def Claim.uuid : Claim → String
  | zvol v => v.uuid
  | snapshot _ snap => snap

namespace Obj

def claim : Obj → Claim
  | zvol v => .zvol v
  | snapshot v snap => .snapshot v.sr snap

/-- The UUID by which the metabase would know the object. -/
def uuid (o : Obj) : String := o.claim.uuid

/-- The zvol, or the one that it is a snapshot of. -/
def vol : Obj → Vol
  | zvol v => v
  | snapshot v _ => v

/-- The object is a zvol of an SR. -/
def zvolOf (sr : String) : Obj → Bool
  | zvol v => v.sr = sr
  | snapshot _ _ => false

/-- The object is a snapshot of a zvol of an SR. -/
def snapshotOf (sr : String) : Obj → Bool
  | zvol _ => false
  | snapshot v _ => v.sr = sr

end Obj

/-- The creation time of an object, and the snapshot that it is a clone of, whichever zvol has it now. -/
structure Stamp where
  creation : ℤ
  origin : Option Claim
  deriving DecidableEq, Repr

structure Host where
  objects : Dict Obj Stamp
  /-- The committed rows of the metabases. -/
  rows : List Vol
  /-- The UUIDs that are in use, or have been. -/
  seen : List String
  now : ℤ

namespace Host

variable (h : Host)

def Has (o : Obj) : Bool := (h.objects.get? o).isSome

/-- The object has snapshots or clones, and ZFS does not destroy it. -/
def Held (o : Obj) : Prop :=
  ∃ e ∈ h.objects.items, e.2.origin = some o.claim ∨ e.1 ≠ .zvol e.1.vol ∧ o = .zvol e.1.vol

instance (o : Obj) : Decidable (h.Held o) := inferInstanceAs (Decidable (∃ _ ∈ _, _))

/-- The host without an object. -/
def drop (o : Obj) : Host := { h with objects := h.objects.erase o }

/-- The host with a new object. -/
def make (o : Obj) (origin : Option Claim) : Host :=
  { h with objects := h.objects.set o ⟨h.now, origin⟩, seen := o.uuid :: h.seen }

/-- What was registered is there. -/
def Present (c : Claim) : Prop := ∃ o ∈ h.objects.keys, o.claim = c

instance (c : Claim) : Decidable (h.Present c) := inferInstanceAs (Decidable (∃ _ ∈ _, _))

end Host

/-- What the calls rely on besides. -/
structure Env where
  /-- `auto_cleanup_orphans` is `true`. -/
  autoCleanup : String → Bool
  /-- `orphan_grace_period_seconds`. -/
  grace : String → ℤ
  zpool : String → String
  /-- `str(uuid.uuid4())`, by the random bits. -/
  uuid4 : ℕ → String

/-! ### Commands -/

/-- The steps of the calls. -/
inductive Command
  /-- `get_all_vdis`, with what `SR.ls` does before and along with it. -/
  | getAllVdis (sr : String)
  /-- `dataset_list_zvols`. -/
  | listZvols (sr : String)
  /-- `dataset_list_snapshots`. -/
  | listSnapshots (sr : String)
  /-- `_zvol_device_is_open`. -/
  | deviceIsOpen (v : Vol)
  /-- `_zvol_has_active_datapath`. -/
  | hasActiveDatapath (v : Vol)
  /-- The property `creation`. -/
  | creation (o : Obj)
  /-- `int(time.time())`. -/
  | time
  /-- `destroy_zvol`. -/
  | destroy (o : Obj)
  /-- `uuid.uuid4()`. -/
  | uuid4
  /-- A step that changes nothing here and can raise: a lock, a query, a property. -/
  | attempt
  /-- The VDI that a snapshot of a VDI is taken of. -/
  | parent (v : Vol)
  /-- `vol_get_refreservation`. -/
  | refreservation (v : Vol)
  /-- `vol_exists`. -/
  | volExists (v : Vol)
  /-- `get_zvol_size_bytes` and `get_zvol_used_bytes`. -/
  | size (o : Obj)
  /-- `create_zvol`. -/
  | createZvol (v : Vol)
  /-- `take_snapshot`. -/
  | takeSnapshot (v : Vol) (snap : String)
  /-- `clone_snapshot`. -/
  | cloneSnapshot (v : Vol) (snap : String) (clone : Vol)
  /-- The first half of `vol_send_receive`: the zvol appears. -/
  | beginReceive (v : Vol)
  /-- The second half: it is complete and has its snapshot. -/
  | endReceive (v : Vol) (snap : String)
  /-- The rows of a VDI are committed. -/
  | register (v : Vol)
  deriving DecidableEq, Repr

/-- The replies: a command that can raise tells whether it did. -/
def Reply : Command → Type
  | .getAllVdis _ => Option (List String)
  | .listZvols _ => List Obj
  | .listSnapshots _ => List Obj
  | .deviceIsOpen _ => Bool
  | .hasActiveDatapath _ => Option Bool
  | .creation _ => Option ℤ
  | .time => ℤ
  | .destroy _ => Bool
  | .uuid4 => String
  | .attempt => Bool
  | .parent _ => Option String
  | .refreservation _ => Option Bool
  | .volExists _ => Bool
  | .size _ => Bool
  | .createZvol _ => Bool
  | .takeSnapshot _ _ => Bool
  | .cloneSnapshot _ _ _ => Bool
  | .beginReceive _ => Bool
  | .endReceive _ _ => Bool
  | .register _ => Bool

/-- Run a command.  The choice is what the surroundings decide; by the choice `0`, what can fail does. -/
def exec (E : Env) : Exec Reply Host
  | .getAllVdis sr, choice, h =>
      if choice = 0 then some (none, h)
      else some (some ((h.rows.filter fun v => v.sr = sr).map Vol.uuid), h)
  | .listZvols sr, choice, h =>
      some (if choice = 0 then [] else h.objects.keys.filter (Obj.zvolOf sr), h)
  | .listSnapshots sr, choice, h =>
      some (if choice = 0 then [] else h.objects.keys.filter (Obj.snapshotOf sr), h)
  | .deviceIsOpen _, choice, h => some (decide (choice ≠ 0), h)
  | .hasActiveDatapath _, choice, h =>
      some (if choice = 0 then none else some (decide (choice ≠ 1)), h)
  | .creation o, choice, h =>
      some (if choice = 0 then none else (h.objects.get? o).map Stamp.creation, h)
  | .time, _, h => some (h.now, h)
  | .destroy o, choice, h =>
      if choice = 0 ∨ h.Has o = false ∨ h.Held o then some (false, h) else some (true, h.drop o)
  | .uuid4, choice, h =>
      if E.uuid4 choice ∈ h.seen then none
      else some (E.uuid4 choice, { h with seen := E.uuid4 choice :: h.seen })
  | .attempt, choice, h => some (decide (choice ≠ 0), h)
  | .parent _, choice, h => some (if choice = 0 then none else h.seen[choice - 1]?, h)
  | .refreservation _, choice, h =>
      some (if choice = 0 then none else some (decide (choice ≠ 1)), h)
  | .volExists v, choice, h => some (decide (choice ≠ 0) && h.Has (.zvol v), h)
  | .size o, choice, h => some (decide (choice ≠ 0) && h.Has o, h)
  | .createZvol v, choice, h =>
      if choice = 0 ∨ h.Has (.zvol v) = true then some (false, h)
      -- it can fail when the zvol is there already
      else some (decide (choice ≠ 1), h.make (.zvol v) none)
  | .takeSnapshot v snap, choice, h =>
      if choice = 0 ∨ h.Has (.zvol v) = false ∨ h.Has (.snapshot v snap) = true then some (false, h)
      else some (true, h.make (.snapshot v snap) none)
  | .cloneSnapshot v snap clone, choice, h =>
      if choice = 0 ∨ h.Has (.snapshot v snap) = false ∨ h.Has (.zvol clone) = true then
        some (false, h)
      else some (true, h.make (.zvol clone) (some (.snapshot v.sr snap)))
  | .beginReceive v, choice, h =>
      if choice = 0 ∨ h.Has (.zvol v) = true then some (false, h)
      else some (true, h.make (.zvol v) none)
  | .endReceive v snap, choice, h =>
      -- an incomplete zvol is rolled back, or left
      if choice = 0 then some (false, h.drop (.zvol v))
      else if choice = 1 ∨ h.Has (.zvol v) = false ∨ h.Has (.snapshot v snap) = true then
        some (false, h)
      else some (true, h.make (.snapshot v snap) none)
  | .register v, choice, h =>
      if choice = 0 then some (false, h) else some (true, { h with rows := v :: h.rows })

/-- What a command can do to the objects. -/
inductive Effect (h : Host) : Command → Host → Prop
  | idle (c : Command) : Effect h c h
  | destroy (o : Obj) : Effect h (.destroy o) (h.drop o)
  | uuid4 (u : String) : Effect h .uuid4 { h with seen := u :: h.seen }
  | make (c : Command) (o : Obj) (origin : Option Claim) : Effect h c (h.make o origin)
  | rollBack (v : Vol) (snap : String) : Effect h (.endReceive v snap) (h.drop (.zvol v))
  | register (v : Vol) : Effect h (.register v) { h with rows := v :: h.rows }

/-- **Every command does one of these.** -/
theorem effect_of_exec {E : Env} {c : Command} {choice : ℕ} {h h' : Host} {r : Reply c}
    (hexec : exec E c choice h = some (r, h')) : Effect h c h' := by
  cases c with
  | getAllVdis sr =>
      rw [exec] at hexec
      split at hexec <;> cases hexec <;> exact .idle _
  | destroy o =>
      rw [exec] at hexec
      split at hexec <;> cases hexec
      · exact .idle _
      · exact .destroy o
  | uuid4 =>
      rw [exec] at hexec
      split at hexec <;> cases hexec
      exact .uuid4 _
  | createZvol v =>
      rw [exec] at hexec
      split at hexec <;> cases hexec
      · exact .idle _
      · exact .make _ _ _
  | takeSnapshot v snap =>
      rw [exec] at hexec
      split at hexec <;> cases hexec
      · exact .idle _
      · exact .make _ _ _
  | cloneSnapshot v snap clone =>
      rw [exec] at hexec
      split at hexec <;> cases hexec
      · exact .idle _
      · exact .make _ _ _
  | beginReceive v =>
      rw [exec] at hexec
      split at hexec <;> cases hexec
      · exact .idle _
      · exact .make _ _ _
  | endReceive v snap =>
      rw [exec] at hexec
      split at hexec
      · cases hexec
        exact .rollBack v snap
      · split at hexec <;> cases hexec
        · exact .idle _
        · exact .make _ _ _
  | register v =>
      rw [exec] at hexec
      split at hexec <;> cases hexec
      · exact .idle _
      · exact .register v
  | listZvols sr => cases hexec; exact .idle _
  | listSnapshots sr => cases hexec; exact .idle _
  | deviceIsOpen v => cases hexec; exact .idle _
  | hasActiveDatapath v => cases hexec; exact .idle _
  | creation o => cases hexec; exact .idle _
  | time => cases hexec; exact .idle _
  | attempt => cases hexec; exact .idle _
  | parent v => cases hexec; exact .idle _
  | refreservation v => cases hexec; exact .idle _
  | volExists v => cases hexec; exact .idle _
  | size o => cases hexec; exact .idle _

/-! ### `SR.ls` -/

/-- The programs of the volume plugin. -/
abbrev Script (α : Type) : Type := Prog Reply α

/-- Run one command. -/
def issue (c : Command) : Script (Reply c) := Prog.issue c

/-- How a call ends. -/
inductive Answer
  | raised
  /-- `SR.ls` returns. -/
  | listed
  /-- A VDI is registered under the key. -/
  | returned (key : String)
  deriving DecidableEq, Repr

/-- An orphan, with its creation stamp, if that can be read. -/
structure Orphan where
  obj : Obj
  creation : Option ℤ
  deriving DecidableEq, Repr

/-- The orphan is past its grace period; a stamp that was not read never is. -/
def oldEnough (now grace : ℤ) (creation : Option ℤ) : Bool :=
  if grace > 0 then
    match creation with
    | none => false
    | some creation_ts => ¬ now - creation_ts < grace
  else
    true

/-- A stamp that does not parse is as one that was not read. -/
theorem oldEnough_int (site : ZfsLive.Orphans.Site) (now grace : ℤ) (creation : String) :
    ZfsLive.Orphans.oldEnough site now grace creation = oldEnough now grace (site.int creation) := by
  rw [ZfsLive.Orphans.oldEnough]
  rfl

/-- `zvol_find_orphans` and `zsnap_find_orphans`, after the listing. -/
def findOrphans (known : List String) : List Obj → Script (Option (List Orphan))
  | [] => return some []
  | o :: objs => do
      if o.uuid ∈ known then
        findOrphans known objs
      else
        let busy : Bool ← issue (.deviceIsOpen o.vol)
        if busy then
          findOrphans known objs
        else
          let served : Option Bool ← issue (.hasActiveDatapath o.vol)
          match served with
          | none => return none
          | some true => findOrphans known objs
          | some false => do
              let creation : Option ℤ ← issue (.creation o)
              let orphans ← findOrphans known objs
              return orphans.map fun orphans => ⟨o, creation⟩ :: orphans

/-- The loop of `zvol_destroy_orphans` and `zsnap_destroy_orphans`. -/
def destroyEach (now grace : ℤ) : List Orphan → Script Unit
  | [] => return ()
  | orphan :: orphans => do
      if oldEnough now grace orphan.creation then
        let _ : Bool ← issue (.destroy orphan.obj)
        destroyEach now grace orphans
      else
        destroyEach now grace orphans

/-- `zvol_destroy_orphans` and `zsnap_destroy_orphans`. -/
def destroyOrphans (grace : ℤ) (orphans : List Orphan) : Script Unit := do
  let now : ℤ ← issue .time
  destroyEach now grace orphans

section

variable (E : Env)

/-- Find the orphans among some objects, and destroy them when the SR is configured so. -/
def cleanUp (sr : String) (known : List String) (objs : List Obj) : Script Unit := do
  match ← findOrphans known objs with
  | none => return ()
  | some orphans =>
      if orphans ≠ [] ∧ E.autoCleanup sr then destroyOrphans (E.grace sr) orphans else return ()

/-- `SR.ls`. -/
def ls (sr : String) : Script Answer := do
  let known : Option (List String) ← issue (.getAllVdis sr)
  match known with
  | none => return .raised
  | some known => do
      let zvols : List Obj ← issue (.listZvols sr)
      cleanUp E sr known zvols
      let snapshots : List Obj ← issue (.listSnapshots sr)
      cleanUp E sr known snapshots
      return .listed

/-! ### The calls that register VDIs -/

/-- The end of a call: the rows are committed, and the space that the VDI uses is read. -/
def commit (v : Vol) (o : Obj) : Script Answer := do
  let committed : Bool ← issue (.register v)
  if committed then
    let used : Bool ← issue (.size o)
    if used then return .returned v.uuid else return .raised
  else
    return .raised

/-- `Volume.create`. -/
def create (sr : String) : Script Answer := do
  let ready : Bool ← issue .attempt
  if ready then
    let vdi_uuid : String ← issue .uuid4
    let v : Vol := ⟨sr, vdi_uuid⟩
    let created : Bool ← issue (.createZvol v)
    if created then
      let sized : Bool ← issue (.size (.zvol v))
      if sized then commit v (.zvol v) else return .raised
    else
      return .raised
  else
    return .raised

/-- `Volume.import_existing`. -/
def importExisting (sr key : String) : Script Answer := do
  let v : Vol := ⟨sr, key⟩
  let found : Bool ← issue (.volExists v)
  if found then
    let ready : Bool ← issue .attempt
    if ready then
      let sized : Bool ← issue (.size (.zvol v))
      if sized then commit v (.zvol v) else return .raised
    else
      return .raised
  else
    return .raised

/-- `Volume.snapshot`. -/
def snapshot (sr key : String) : Script Answer := do
  let snap_uuid : String ← issue .uuid4
  let parent : Option String ← issue (.parent ⟨sr, key⟩)
  match parent with
  | none => return .raised
  | some parent_vdi_uuid => do
      let base : Vol := ⟨sr, parent_vdi_uuid⟩
      let clone : Vol := ⟨sr, snap_uuid⟩
      let taken : Bool ← issue (.takeSnapshot base snap_uuid)
      if taken then
        let cloned : Bool ← issue (.cloneSnapshot base snap_uuid clone)
        if cloned then
          let readonly : Bool ← issue .attempt
          if readonly then commit clone (.snapshot base snap_uuid) else return .raised
        else
          return .raised
      else
        return .raised

/-- Destroy a zvol if it exists. -/
def destroyIfThere (v : Vol) : Script Unit := do
  let found : Bool ← issue (.volExists v)
  if found then
    let _ : Bool ← issue (.destroy (.zvol v))
    return ()
  else
    return ()

/-- The handler of the second phase of `Volume.copy`. -/
def undoReplication (src dest : Vol) (snap_token : String) : Script Answer := do
  destroyIfThere dest
  let _ : Bool ← issue (.destroy (.snapshot src snap_token))
  return .raised

/-- Destroy a snapshot if its zvol exists. -/
def destroySnapshotIfThere (v : Vol) (snap : String) : Script Unit := do
  let found : Bool ← issue (.volExists v)
  if found then
    let _ : Bool ← issue (.destroy (.snapshot v snap))
    return ()
  else
    return ()

/-- The handler of the third phase. -/
def undoCleanup (src dest : Vol) (snap_token : String) : Script Answer := do
  destroyIfThere dest
  destroySnapshotIfThere src snap_token
  destroySnapshotIfThere dest snap_token
  return .raised

/-- The fourth phase. -/
def registerCopy (dest : Vol) : Script Answer := do
  let ready : Bool ← issue .attempt
  if ready then commit dest (.zvol dest) else return .raised

/-- The third phase and the fourth. -/
def finishCopy (same_pool : Bool) (src dest : Vol) (snap_token : String) : Script Answer := do
  if same_pool then
    registerCopy dest
  else
    let sourceGone : Bool ← issue (.destroy (.snapshot src snap_token))
    if sourceGone then
      let receivedGone : Bool ← issue (.destroy (.snapshot dest snap_token))
      if receivedGone then registerCopy dest else undoCleanup src dest snap_token
    else
      undoCleanup src dest snap_token

/-- The replication of the second phase; the result tells whether it has succeeded. -/
def replicate (same_pool : Bool) (src dest : Vol) (snap_token : String) : Script Bool := do
  if same_pool then
    issue (.cloneSnapshot src snap_token dest)
  else
    let started : Bool ← issue (.beginReceive dest)
    if started then issue (.endReceive dest snap_token) else return false

/-- `Volume.copy`. -/
def copy (sr key dest_sr : String) : Script Answer := do
  let ready : Bool ← issue .attempt
  if ready then
    let same_pool : Bool := E.zpool sr = E.zpool dest_sr
    let dest_uuid : String ← issue .uuid4
    let snap_token : String ← issue .uuid4
    let src : Vol := ⟨sr, key⟩
    let dest : Vol := ⟨dest_sr, dest_uuid⟩
    let read : Bool ← issue .attempt
    if read then
      let taken : Bool ← issue (.takeSnapshot src snap_token)
      if taken then
        let src_thick : Option Bool ← issue (.refreservation src)
        match src_thick with
        | none => return .raised
        | some thick => do
            if ← replicate same_pool src dest snap_token then
              if thick then
                let reserved : Bool ← issue .attempt
                if reserved then finishCopy same_pool src dest snap_token
                else undoReplication src dest snap_token
              else
                finishCopy same_pool src dest snap_token
            else
              undoReplication src dest snap_token
      else
        return .raised
    else
      return .raised
  else
    return .raised

end

/-! ### Calls at work -/

/-- A call of the volume plugin. -/
inductive Call
  | ls (sr : String)
  | create (sr : String)
  | copy (sr key dest_sr : String)
  | importExisting (sr key : String)
  | snapshot (sr key : String)
  deriving DecidableEq, Repr

/-- The program of a call. -/
def Call.script (E : Env) : Call → Script Answer
  | .ls sr => Registration.ls E sr
  | .create sr => Registration.create sr
  | .copy sr key dest_sr => Registration.copy E sr key dest_sr
  | .importExisting sr key => Registration.importExisting sr key
  | .snapshot sr key => Registration.snapshot sr key

/-- The commands that a call has run and their replies, the latest first. -/
abbrev Transcript : Type := List (Σ c : Command, Reply c)

/-- One more command has run. -/
def Transcript.add (k : Transcript) (c : Command) (r : Reply c) : Transcript := ⟨c, r⟩ :: k

/-- The UUIDs that a call has drawn. -/
def Transcript.uuids : Transcript → List String
  | [] => []
  | ⟨.uuid4, (u : String)⟩ :: k => uuids k ++ [u]
  | ⟨_, _⟩ :: k => uuids k

/-- What a call registers, once it has drawn its UUIDs. -/
def Call.claims : Call → List String → List Claim
  | .ls _, _ => []
  | .create sr, u :: _ => [.zvol ⟨sr, u⟩]
  | .copy _ _ dest_sr, u :: _ => [.zvol ⟨dest_sr, u⟩]
  | .importExisting sr key, _ => [.zvol ⟨sr, key⟩]
  | .snapshot sr _, u :: _ => [.zvol ⟨sr, u⟩, .snapshot sr u]
  | _, _ => []

/-- A call at work. -/
structure Working where
  call : Call
  task : Task Reply Transcript Answer

def Working.claims (w : Working) : List Claim := w.call.claims w.task.knows.uuids

/-- The host and the calls at work. -/
structure System where
  host : Host
  calls : List Working
  /-- What the calls that have returned have registered, less what a `Volume.destroy` has removed. -/
  registered : List Claim
  /-- What a `Volume.destroy` has removed, and is not there again. -/
  removed : List Claim

/-- What can happen. -/
inductive Event
  /-- A call starts. -/
  | start (c : Call)
  /-- A call takes its next step. -/
  | step (i choice : ℕ)
  /-- A call that is done answers. -/
  | answer (i : ℕ)
  | tick (seconds : ℕ)
  /-- A zvol or a snapshot is made otherwise. -/
  | arrives (o : Obj)
  /-- A `Volume.destroy` destroys a zvol or a snapshot. -/
  | destroyed (o : Obj)
  /-- It promotes a clone, which takes a snapshot over. -/
  | promoted (v w : Vol) (snap : String)
  /-- It deletes the row. -/
  | unregistered (v : Vol)
  /-- Another call commits a row. -/
  | recorded (v : Vol)
  deriving DecidableEq, Repr

/-- Run the next command of a call. -/
def System.step (E : Env) (s : System) (i choice : ℕ) : Option System := do
  let w ← s.calls[i]?
  let (task, host) ← advance Transcript.add (exec E) choice s.host w.task
  return { s with host := host, calls := s.calls.set i { w with task := task } }

/-- The UUID that the caller brings in. -/
def Call.brings : Call → List String
  | .importExisting _ key => [key]
  | _ => []

/-- A clone is promoted, and takes a snapshot over; when that is its origin, the two zvols swap parts. -/
def Host.promote (h : Host) (v w : Vol) (snap : String) : Host :=
  match h.objects.get? (.snapshot v snap), h.objects.get? (.zvol v), h.objects.get? (.zvol w) with
  | some stamp, some parent, some clone =>
      if v.sr = w.sr ∧ h.Has (.snapshot w snap) = false then
        let objects := (h.objects.erase (.snapshot v snap)).set (.snapshot w snap) stamp
        if clone.origin = some (.snapshot v.sr snap) then
          { h with
            objects := (objects.set (.zvol w) { clone with origin := parent.origin }).set (.zvol v)
              { parent with origin := clone.origin } }
        else { h with objects := objects }
      else h
  | _, _, _ => h

/-- The system after an event, but for what a `Volume.destroy` has undone. -/
def System.react (E : Env) (s : System) : Event → Option System
  | .start c =>
      some { s with
        host := { s.host with seen := c.brings ++ s.host.seen }
        calls := s.calls ++ [⟨c, ⟨[], c.script E⟩⟩] }
  | .step i choice => s.step E i choice
  | .answer i => do
      let w ← s.calls[i]?
      match w.task.prog with
      | .cmd _ _ => none
      | .done (.returned _) =>
          some { s with calls := s.calls.eraseIdx i, registered := w.claims ++ s.registered }
      | .done _ => some { s with calls := s.calls.eraseIdx i }
  | .tick seconds => some { s with host := { s.host with now := s.host.now + seconds } }
  | .arrives o =>
      if s.host.Has o = true then none else some { s with host := s.host.make o none }
  | .destroyed o =>
      some { s with host := s.host.drop o, removed := o.claim :: s.removed }
  | .promoted v w snap => some { s with host := s.host.promote v w snap }
  | .unregistered v =>
      some { s with host := { s.host with rows := s.host.rows.filter fun u => u ≠ v } }
  | .recorded v => some { s with host := { s.host with rows := v :: s.host.rows } }

/-- What has been removed is what is not there, and it is not registered any more. -/
def System.refresh (s : System) : System :=
  let removed := s.removed.filter fun c => ¬ s.host.Present c
  { s with removed := removed, registered := s.registered.filter fun c => c ∉ removed }

/-- The state after an event, if the event is possible. -/
def System.next (E : Env) (s : System) (e : Event) : Option System :=
  (s.react E e).map System.refresh

/-- The state after a run, if all its events are possible. -/
def System.run (E : Env) (s : System) : List Event → Option System
  | [] => some s
  | e :: es => (s.next E e).bind fun s' => s'.run E es

/-- No call is at work or has returned, and the UUIDs of what there is have been seen. -/
def System.Fresh (s : System) : Prop :=
  s.calls = [] ∧ s.registered = [] ∧ s.removed = [] ∧ ∀ o ∈ s.host.objects.keys, o.uuid ∈ s.host.seen

/-- **Everything that a call has registered is there**, unless a `Volume.destroy` has removed it. -/
def System.Safe (s : System) : Prop := ∀ c ∈ s.registered, s.host.Present c

end Registration

/-
**The properties that are reported** (`src/volume/volume.py`, `src/volume/sr.py`).

`Volume.set` and `Volume.unset` change a property of a zvol first, then the reservation of the zvol, and
the custom keys last.  The records of a VDI show its custom keys in place of what ZFS says.  So when a
call is cut short after it has changed the property, a custom key that is there from before keeps
showing the old value.

Main definitions:

* `Records.Call`, `Records.runs` — any number of calls of `set` and `unset` on a VDI;
* `Records.Reported` — what `stat` and `ls` report are the effective values;
* `Records.Safe` — a call that is not cut short after it has changed a property, or that leaves no
  custom key with another value.

Main results:

* `Records.agrees_step` — a safe call keeps what is shown the same as what is effective;
* `Records.reported_of_safe` — **so it stays over every run of safe calls**;
* `Records.not_reported_cut` — and not over every run.
-/

import ZfsLive.VolumeListing
import ZfsLive.VolumeRecoveryRuns

set_option relaxedAutoImplicit false
set_option autoImplicit false

namespace Volume.Records

open Zfs Wp Properties

/-! ### Calls -/

/-- A call about the properties of a VDI. -/
inductive Call
  | set (k v : String)
  | unset (k : String)
  deriving DecidableEq, Repr

/-- The property that a call is about. -/
def Call.property : Call → String
  | .set k _ => stripPrefix k
  | .unset k => stripPrefix k

section

variable (E : Env) (V : View) (sr key : String)

/-- The program of a call. -/
def Call.run : Call → HostM Unit
  | .set k v => Records.set E V sr key k v
  | .unset k => Records.unset E sr key k

/-- The state after some calls, each of which can raise. -/
def runs (h : Host) : List Call → Host
  | [] => h
  | c :: cs => runs (Wp.after (c.run E V sr key) h) cs

/-- The reported value of every mutable property is the effective one. -/
def Reported (n : ZvolName) (h : Host) : Prop :=
  ∀ prop ∈ MUTABLE_ZFS_PROPERTIES,
    (∀ r h', stat (quiet E) V sr key h = .ok r h' →
      r.keys.get? prop = some (effective V h n prop).1) ∧
    ∀ rs h', ls (quiet E) V sr h = .ok rs h' → ∀ r ∈ rs, r.key = key →
      r.keys.get? prop = some (effective V h n prop).1

/-! ### What is shown -/

/-- The value of a property that ZFS shows for the backing of a VDI. -/
def shown (ds : List String) (vdi : Vdi) (h : Host) (prop : String) : Option String :=
  if vdi.snap then
    (h.world.zfs.findSnapshot ds vdi.uuid).bind fun s =>
      (propertiesDict V.U (batch V h (.snap s))).get? prop
  else
    (propertiesDict V.U (batch V h (.zvol ⟨ds, vdi.uuid⟩))).get? prop

/-- Custom keys and ZFS together show the effective value of every mutable property. -/
def Agrees (ds : List String) (vdi : Vdi) (h : Host) : Prop :=
  ∀ prop ∈ MUTABLE_ZFS_PROPERTIES,
    ((h.custom sr).get? (vdi.uuid, prop)).or (shown V ds vdi h prop) =
      some (effective V h ⟨ds, vdi.uuid⟩ prop).1

/-! ### Calls that are cut short -/

/-- The value that a call gives to its property. -/
def Call.value (h : Host) (n : ZvolName) : Call → String
  | .set _ v => v
  | .unset k =>
      if stripPrefix k = "copies" then toString (h.world.zfs.copies n.dataset)
      else (V.inherited n (stripPrefix k)).1

/-- The call changes the property of the zvol. -/
def Call.Changes (h : Host) (n : ZvolName) (c : Call) : Prop :=
  c.property ∈ MUTABLE_ZFS_PROPERTIES ∧ n ∈ h.world.zfs.names ∧ E.fault h.world.clock = false ∧
    match c with
    | .set k v => checkedValue V.U (stripPrefix k) v = .ok v
    | .unset _ => True

/-- The number of copies after a call about `copies`. -/
def Call.copies (h : Host) (n : ZvolName) : Call → ℕ
  | .set _ v => (copiesOf v).getD (h.world.zfs.copies n.dataset)
  | .unset _ => h.world.zfs.copies n.dataset

/-- The number of commands that bring the reservation up to date, for a number of copies. -/
def syncLength (p : Props) (k : String) (copies : ℕ) : ℕ :=
  if k = "copies" then
    if p.refreservation > 0 then
      if p.volsize * copies ≠ p.refreservation then 4 else 3
    else 1
  else 0

def Call.syncLength (h : Host) (n : ZvolName) (c : Call) : ℕ :=
  Records.syncLength (h.world.zfs.zvol n).props c.property (c.copies h n)

/-- One of the `k` commands from `c` on fails for a reason of its own. -/
def Failing (c k : ℕ) : Prop := ∃ i < k, E.fault (c + i) = true

/-- One of the commands after the change fails: those about the reservation, and the three of the
transaction. -/
def Call.CutShort (h : Host) (n : ZvolName) (c : Call) : Prop :=
  Failing E (h.world.clock + 1) (c.syncLength h n + 3)

/-- The custom key of the property when the call was carried out. -/
def Call.entry : Call → Option String
  | .set _ v => some v
  | .unset _ => none

/-- What ZFS shows for the backing of the VDI once the property of its zvol is `value`. -/
def shownAfter (ds : List String) (vdi : Vdi) (h : Host) (prop value : String) : Option String :=
  if vdi.snap then shown V ds vdi h prop else some value

/-- The call does not change the zvol, or custom key and ZFS show the new value afterwards: a call that
is cut short leaves the custom key there is. -/
def Safe (ds : List String) (vdi : Vdi) (h : Host) (c : Call) : Prop :=
  let n : ZvolName := ⟨ds, vdi.uuid⟩
  c.Changes E V h n →
    (c.CutShort E h n → ((h.custom sr).get? (vdi.uuid, c.property)).or
      (shownAfter V ds vdi h c.property (c.value V h n)) = some (c.value V h n)) ∧
    (¬ c.CutShort E h n → c.entry.or (shownAfter V ds vdi h c.property (c.value V h n)) =
      some (c.value V h n))

/-- Every call of a run is safe. -/
def SafeRun (ds : List String) (vdi : Vdi) (h : Host) : List Call → Prop
  | [] => True
  | c :: cs => Safe E V sr ds vdi h c ∧ SafeRun ds vdi (Wp.after (c.run E V sr vdi.uuid) h) cs

end

/-! ### What the records show -/

section

variable {E : Env} {V : View} {h h' : Host} {sr : String} {ds : List String} {v : Vdi}
  {n : ZvolName} {prop : String}

theorem get?_mutableKeys {props : String → Option (String × String)} {names : List String}
    (hsource : ∀ q ∈ names, q ++ "_source" ≠ prop) (keys : Dict String String) :
    (mutableKeys props keys names).get? prop =
      if prop ∈ names then ((props prop).map Prod.fst).or (keys.get? prop) else keys.get? prop := by
  induction names generalizing keys with
  | nil => rfl
  | cons q names ih =>
      have hne := hsource q List.mem_cons_self
      have hrest : ∀ q' ∈ names, q' ++ "_source" ≠ prop := fun q' hq' =>
        hsource q' (List.mem_cons_of_mem _ hq')
      rw [mutableKeys]
      cases hq : props q with
      | none =>
          dsimp only
          rw [ih hrest]
          by_cases hprop : prop = q
          · subst hprop
            simp [hq]
          · simp [hprop]
      | some p =>
          obtain ⟨value, source⟩ := p
          dsimp only
          rw [ih hrest, Dict.get?_set, if_neg (Ne.symm hne), Dict.get?_set]
          by_cases hprop : prop = q
          · subst hprop
            simp [hq]
          · simp [hprop]

/-- A mutable property is shown with its value, unless the block size is no number. -/
theorem get?_propertiesDict {U : PyStr} {props : String → Option (String × String)}
    (hprop : prop ∈ MUTABLE_ZFS_PROPERTIES)
    (hsize : ∀ p, props "volblocksize" = some p → (formatVolblocksizeText U p.1).isSome = true) :
    (propertiesDict U props).get? prop = (props prop).map Prod.fst := by
  have hsource : ∀ q ∈ MUTABLE_ZFS_PROPERTIES, q ++ "_source" ≠ prop := by
    revert prop
    decide
  obtain ⟨hprov, hblock⟩ : prop ≠ "provisioning" ∧ prop ≠ "volblocksize" := by
    revert prop
    decide
  have hkeys : (provisioningKey U props).get? prop = none := by
    rw [provisioningKey]
    split
    · rfl
    · rw [Dict.get?_set, if_neg hprov]
      rfl
  rw [propertiesDict]
  split
  · rw [get?_mutableKeys hsource, if_pos hprop, hkeys, Option.or_none]
  · next b s hb =>
      obtain ⟨t, ht⟩ := Option.isSome_iff_exists.1 (hsize _ hb)
      rw [ht]
      dsimp only
      rw [get?_mutableKeys hsource, if_pos hprop, Dict.get?_set, if_neg hblock, hkeys, Option.or_none]

/-- For a zvol, ZFS shows the effective values. -/
theorem get?_zvol (hprop : prop ∈ MUTABLE_ZFS_PROPERTIES) :
    (propertiesDict V.U (batch V h (.zvol n))).get? prop = some (effective V h n prop).1 := by
  obtain ⟨hres, hblock⟩ : prop ≠ "refreservation" ∧ prop ≠ "volblocksize" := by
    revert prop
    decide
  rw [get?_propertiesDict hprop]
  · rw [batch, printed, if_neg hres, if_neg hblock]
    rfl
  · intro p hp
    obtain ⟨p', hp', rfl⟩ := Option.map_eq_some_iff.1 hp
    rw [printed, if_neg (by decide), if_pos rfl] at hp'
    cases hp'
    rw [formatVolblocksizeText, V.int_digits]
    rfl

theorem shown_base (hbase : v.snap = false) (hprop : prop ∈ MUTABLE_ZFS_PROPERTIES) :
    shown V ds v h prop = some (effective V h ⟨ds, v.uuid⟩ prop).1 := by
  rw [shown, if_neg (by simp [hbase]), get?_zvol hprop]

theorem shown_of_backing {object : ZfsObject} (hb : backing h.world.zfs ds v = some object) :
    shown V ds v h prop = (propertiesDict V.U (batch V h object)).get? prop := by
  rw [backing] at hb
  rw [shown]
  split_ifs at hb ⊢ with hsnap hmem
  · obtain ⟨s, hs, rfl⟩ := Option.map_eq_some_iff.1 hb
    rw [hs]
    rfl
  · cases hb
    rfl

theorem get?_keysOf {object : ZfsObject} {uuid : String} : (keysOf V h sr object uuid).get? prop =
    ((h.custom sr).get? (uuid, prop)).or ((propertiesDict V.U (batch V h object)).get? prop) := by
  rw [keysOf, Dict.get?_update, Dict.get?_update, get?_customKeysOf, Dict.get?_empty, Option.or_none]

/-- **What agrees is reported.** -/
theorem Agrees.reported {m : SrMeta} (ha : Agrees V sr m.datasetPath v h)
    (hm : E.srMeta sr = some m) (hv : v ∈ (h.world.db sr).vdis) :
    Reported E V sr v.uuid ⟨m.datasetPath, v.uuid⟩ h := by
  -- what is told of the VDI, whichever call tells it
  have hkeys : ∀ {m' u object}, Statable (quiet E) h sr v.uuid m' u object →
      ∀ prop ∈ MUTABLE_ZFS_PROPERTIES, (keysOf V h sr object v.uuid).get? prop =
        some (effective V h ⟨m.datasetPath, v.uuid⟩ prop).1 := by
    intro m' u object hs prop hprop
    obtain rfl : m' = m := Option.some.inj (hs.srMeta.symm.trans hm)
    obtain rfl : u = v := Metabase.eq_of_uuid hs.mem hv hs.uuid
    rw [get?_keysOf, ← shown_of_backing hs.backing]
    exact ha prop hprop
  intro prop hprop
  constructor
  · intro r h' hstat
    obtain ⟨m', u, object, hs, rfl⟩ := (wp_of_ok hstat).1 (wp_stat (V := V) (quiet_fault E))
    have huuid : (recovered h.world.zfs m'.datasetPath u).uuid = v.uuid := hs.uuid
    change (keysOf V h sr object (recovered h.world.zfs m'.datasetPath u).uuid).get? prop = _
    rw [huuid]
    exact hkeys hs prop hprop
  · intro rs h' hls r hr hkey
    obtain ⟨m', hl⟩ := (wp_of_ok hls).1 (wp_ls (V := V) (quiet_fault E))
    obtain ⟨u, object, hs, -, heq⟩ := hl.statable hr
    rw [hkey] at hs
    have hsame : keysOf V h' sr object v.uuid = keysOf V h sr object v.uuid :=
      keysOf_congr ⟨hl.swept.props, hl.swept.copies, hl.locals⟩ hl.custom
    have huuid : (recovered h.world.zfs m'.datasetPath u).uuid = v.uuid := hs.uuid
    rw [heq]
    change (keysOf V h' sr object (recovered h.world.zfs m'.datasetPath u).uuid).get? prop = _
    rw [huuid, hsame]
    exact hkeys hs prop hprop

end

/-! ### What a call leaves as it is -/

/-- The calls change neither the snapshots nor the metabase, apart from the custom keys. -/
structure World.Kept (w w' : World) : Prop where
  names : w'.zfs.names = w.zfs.names
  ids : ∀ n, (w'.zfs.zvol n).ids = (w.zfs.zvol n).ids
  copies : w'.zfs.copies = w.zfs.copies
  db : w'.db = w.db

/-- They change no `copies` property, either. -/
structure World.KeptCopies (w w' : World) : Prop extends World.Kept w w' where
  own : ∀ n, (w'.zfs.zvol n).props.copies = (w.zfs.zvol n).props.copies

section

variable {E : Env} {V : View} {w w' w'' : World} {n : ZvolName} {k : String}

theorem World.Kept.trans (hk : World.Kept w w') (hk' : World.Kept w' w'') : World.Kept w w'' :=
  ⟨hk'.names.trans hk.names, fun n => (hk'.ids n).trans (hk.ids n), hk'.copies.trans hk.copies,
    hk'.db.trans hk.db⟩

theorem World.KeptCopies.trans (hk : World.KeptCopies w w') (hk' : World.KeptCopies w' w'') :
    World.KeptCopies w w'' :=
  ⟨hk.toKept.trans hk'.toKept, fun n => (hk'.own n).trans (hk.own n)⟩

theorem World.KeptCopies.of_frame (hf : w.Frame w') : World.KeptCopies w w' :=
  ⟨⟨by rw [hf.zfs], fun n => by rw [hf.zfs], by rw [hf.zfs], hf.db⟩, fun n => by rw [hf.zfs]⟩

instance : Std.Refl World.KeptCopies := ⟨fun _ => .of_frame ⟨rfl, rfl, rfl, rfl, rfl⟩⟩

instance : IsTrans World World.KeptCopies := ⟨fun _ _ _ => .trans⟩

theorem World.Kept.findSnapshot (hk : World.Kept w w') (ds : List String) (id : String) :
    w'.zfs.findSnapshot ds id = w.zfs.findSnapshot ds id := by
  simp only [Store.findSnapshot, Store.snapshotsUnder, Store.list, hk.names, hk.ids]

/-- `zfs set` changes one zvol. -/
theorem kept_setProps {f : Props → Props} (hz : w.zfs.setProps n f = .ok w'.zfs)
    (hd : w.SameDb w') : World.Kept w w' := by
  obtain ⟨hn, heq⟩ := Store.setProps_ok hz
  refine ⟨by rw [heq, Store.put, if_pos hn], fun m => ?_, by rw [heq]; rfl, hd.db⟩
  rw [heq]
  by_cases hm : m = n
  · subst hm
    rw [Store.zvol_put_self]
    rfl
  · rw [Store.zvol_put_of_ne _ _ hm]

theorem preserves_zfsGet_keptCopies {α : Type} (f : Store → Except ZfsError α) :
    Preserves World.KeptCopies (zfsGet E f) :=
  .of_wp fun _ => wp_zfsGet (fun _ _ hs => .of_frame hs.frame) (fun _ _ _ hs => .of_frame hs.frame)
    fun _ _ _ hs => .of_frame hs.frame

theorem preserves_volSetRefreservation (r : ℕ) :
    Preserves World.KeptCopies (volSetRefreservation E n r) := by
  refine .of_wp fun w => wp_zfsCmd (fun _ _ hs => .of_frame hs.frame)
    (fun _ _ _ hs => .of_frame hs.frame) fun w' hz hd => ⟨kept_setProps hz hd, fun m => ?_⟩
  obtain ⟨_, heq⟩ := Store.setProps_ok hz
  rw [heq]
  by_cases hm : m = n
  · subst hm
    rw [Store.zvol_put_self]
  · rw [Store.zvol_put_of_ne _ _ hm]

theorem preserves_syncCopies : Preserves World.KeptCopies (syncCopies E n k) := by
  refine .ite (fun _ => ?_) fun _ => .pure ()
  refine .bind (preserves_zfsGet_keptCopies _) fun refreservation =>
    .ite (fun _ => ?_) fun _ => .pure ()
  refine .bind (preserves_zfsGet_keptCopies _) fun volsize =>
    .bind (preserves_zfsGet_keptCopies _) fun copies => ?_
  exact .ite (fun _ => preserves_volSetRefreservation _) fun _ => .pure ()

/-! ### The commands that fail -/

variable {α : Type} {c j : ℕ}

theorem not_failing_zero : ¬ Failing E c 0 := by rintro ⟨i, hi, -⟩; omega

theorem failing_succ : Failing E c (j + 1) ↔ E.fault c = true ∨ Failing E (c + 1) j := by
  constructor
  · rintro ⟨i, hi, hf⟩
    cases i with
    | zero => exact .inl hf
    | succ i => exact .inr ⟨i, by omega, by rwa [Nat.add_assoc, Nat.add_comm 1 i]⟩
  · rintro (hf | ⟨i, hi, hf⟩)
    · exact ⟨0, by omega, hf⟩
    · exact ⟨i + 1, by omega, by rwa [Nat.add_assoc, Nat.add_comm 1 i] at hf⟩

/-- A command that is not refused: it takes one step of the schedule. -/
theorem wp_command_timed {f : World → Except VolError (α × World)} {a : α}
    {Q : α → World → Prop} {X : VolError → World → Prop} (hf : f w.tick = .ok (a, w'))
    (hclock : w'.clock = w.clock + 1)
    (hQ : (∀ j, Failing E w.clock (j + 1) ↔ Failing E w'.clock j) → Q a w')
    (hX : (∀ j, Failing E w.clock (j + 1)) → X .fault w.tick) : wp (command E f) Q X w := by
  rw [wp, command]
  cases hfault : E.fault w.clock with
  | true =>
      rw [if_pos rfl]
      exact hX fun j => failing_succ.2 (.inl hfault)
  | false =>
      rw [if_neg (by simp), hf]
      refine hQ fun j => ?_
      rw [failing_succ, hclock, hfault]
      simp

/-- `zfs set` of a property of a zvol that is there. -/
theorem wp_setProps_timed {f : Props → Props} {Q : Unit → World → Prop}
    {X : VolError → World → Prop} (hn : n ∈ w.zfs.names)
    (hQ : ∀ w', (∀ j, Failing E w.clock (j + 1) ↔ Failing E w'.clock j) → Q () w')
    (hX : (∀ j, Failing E w.clock (j + 1)) → X .fault w.tick) :
    wp (zfsCmd E fun z => z.setProps n f) Q X w := by
  have hset : w.tick.zfs.setProps n f =
      .ok (w.zfs.put n { w.zfs.zvol n with props := f (w.zfs.zvol n).props }) := if_pos hn
  exact wp_command_timed (by dsimp only; rw [hset]) rfl (hQ _) hX

theorem wp_getProp_timed {f : Props → α} {Q : α → World → Prop} {X : VolError → World → Prop}
    (hn : n ∈ w.zfs.names)
    (hQ : (∀ j, Failing E w.clock (j + 1) ↔ Failing E w.tick.clock j) →
      Q (f (w.zfs.zvol n).props) w.tick)
    (hX : (∀ j, Failing E w.clock (j + 1)) → X .fault w.tick) :
    wp (zfsGet E fun z => z.getProp n f) Q X w := by
  have hget : w.tick.zfs.getProp n f = .ok (f (w.zfs.zvol n).props) := if_pos hn
  exact wp_command_timed (by dsimp only; rw [hget]) rfl hQ hX

/-- **Bringing the reservation up to date** takes a known number of commands. -/
theorem wp_syncCopies_timed (hn : n ∈ w.zfs.names) (rest : ℕ) :
    wp (syncCopies E n k)
      (fun _ w' => Failing E w.clock
        (syncLength (w.zfs.zvol n).props k (w.zfs.effectiveCopies n) + rest) ↔
          Failing E w'.clock rest)
      (fun _ _ => Failing E w.clock
        (syncLength (w.zfs.zvol n).props k (w.zfs.effectiveCopies n) + rest)) w := by
  by_cases hk : k = "copies"
  · rw [syncCopies, if_pos hk, syncLength, if_pos hk, volSyncThickRefreservation, wp_bind]
    by_cases hres : (w.zfs.zvol n).props.refreservation > 0
    · rw [if_pos hres]
      by_cases hne : (w.zfs.zvol n).props.volsize * w.zfs.effectiveCopies n ≠
        (w.zfs.zvol n).props.refreservation
      · rw [if_pos hne, show 4 + rest = rest + 1 + 1 + 1 + 1 by omega]
        refine wp_getProp_timed hn (fun h₁ => ?_) fun h₁ => h₁ _
        rw [if_pos hres, wp_bind]
        refine wp_getProp_timed hn (fun h₂ => ?_) fun h₂ => (h₁ _).2 (h₂ _)
        rw [wp_bind]
        refine wp_getProp_timed hn (fun h₃ => ?_) fun h₃ => (h₁ _).2 ((h₂ _).2 (h₃ _))
        refine (wp_ite ..).2 ⟨fun _ => ?_, fun heq => absurd hne heq⟩
        refine wp_setProps_timed hn (fun w' h₄ => ?_)
          fun h₄ => (h₁ _).2 ((h₂ _).2 ((h₃ _).2 (h₄ _)))
        rw [h₁, h₂, h₃, h₄]
      · rw [if_neg hne, show 3 + rest = rest + 1 + 1 + 1 by omega]
        refine wp_getProp_timed hn (fun h₁ => ?_) fun h₁ => h₁ _
        rw [if_pos hres, wp_bind]
        refine wp_getProp_timed hn (fun h₂ => ?_) fun h₂ => (h₁ _).2 (h₂ _)
        rw [wp_bind]
        refine wp_getProp_timed hn (fun h₃ => ?_) fun h₃ => (h₁ _).2 ((h₂ _).2 (h₃ _))
        refine (wp_ite ..).2 ⟨fun hne' => absurd hne' hne, fun _ => ?_⟩
        rw [wp_pure, h₁, h₂, h₃]
    · rw [if_neg hres, Nat.add_comm 1 rest]
      refine wp_getProp_timed hn (fun h₁ => ?_) fun h₁ => h₁ _
      rw [if_neg hres]
      exact h₁ rest
  · rw [syncCopies, if_neg hk, syncLength, if_neg hk, Nat.zero_add]
    exact Iff.rfl

end

/-! ### The parts of a call -/

/-- A transaction about the custom keys: `set_vdi_custom_key` and `delete_vdi_custom_key`. -/
def customCmd (E : Env) (f : CustomKeys → CustomKeys) : HostM Unit := do
  lift (dbCmd E fun db => .ok ((), db))
  modify fun h => { h with work := f h.work }

/-- A change of a property: `vol_set_property` and `vol_inherit_property`. -/
def changeProperty (E : Env) (n : ZvolName) (k : String) (copies : Option ℕ) (value : Option String) :
    HostM Unit := do
  lift (zfsCmd E fun z => z.setProps n fun p => if k = "copies" then { p with copies := copies } else p)
  modify fun h => { h with locals := fun n' p => if n' = n ∧ p = k then value else h.locals n' p }

theorem setVdiCustomKey_eq (E : Env) (key k x : String) :
    setVdiCustomKey E key k x = customCmd E fun t => t.set (key, k) x := rfl

theorem deleteVdiCustomKey_eq (E : Env) (key k : String) :
    deleteVdiCustomKey E key k = customCmd E fun t => t.erase (key, k) := rfl

theorem volSetProperty_eq (E : Env) (n : ZvolName) (k x : String) :
    volSetProperty E n k x = changeProperty E n k (copiesOf x) (some x) := rfl

theorem volInheritProperty_eq (E : Env) (n : ZvolName) (k : String) :
    volInheritProperty E n k = changeProperty E n k none none := rfl

section

variable {E : Env} {V : View} {h h' : Host} {sr : String} {ds : List String} {v : Vdi}
  {n : ZvolName} {k prop : String} {copies : Option ℕ} {value : Option String}

/-- Neither the properties nor the metabase are changed. -/
structure Host.Unmoved (h h' : Host) : Prop where
  world : World.KeptCopies h.world h'.world
  locals : h'.locals = h.locals

theorem Host.Unmoved.trans {h'' : Host} (hu : h.Unmoved h') (hu' : h'.Unmoved h'') : h.Unmoved h'' :=
  ⟨hu.world.trans hu'.world, hu'.locals.trans hu.locals⟩

theorem Host.Unmoved.effective (hu : h.Unmoved h') (n : ZvolName) (prop : String) :
    effective V h' n prop = effective V h n prop := by
  simp only [Records.effective, hu.world.own, hu.world.copies, hu.locals]

/-- What a change does. -/
structure Changed (n : ZvolName) (k : String) (copies : Option ℕ) (value : Option String)
    (h h' : Host) : Prop where
  kept : World.Kept h.world h'.world
  custom : h'.custom = h.custom
  clock : h'.world.clock = h.world.clock + 1
  props : (h'.world.zfs.zvol n).props =
    if k = "copies" then { (h.world.zfs.zvol n).props with copies := copies }
    else (h.world.zfs.zvol n).props
  locals : h'.locals n = fun p => if p = k then value else h.locals n p

/-- A change fails and leaves everything as it is, or is made. -/
theorem wp_changeProperty : wp (changeProperty E n k copies value)
    (fun _ h' => n ∈ h.world.zfs.names ∧ E.fault h.world.clock = false ∧
      Changed n k copies value h h')
    (fun _ h' => h.Unmoved h' ∧ h'.custom = h.custom) h := by
  rw [changeProperty, wp_bind, wp_lift]
  have hsame : Host.Unmoved h { h with world := h.world.tick } :=
    ⟨.of_frame h.world.same_tick.frame, rfl⟩
  cases hf : E.fault h.world.clock with
  | true => exact (wp_of_error (Recovery.command_fault hf)).2 ⟨hsame, rfl⟩
  | false =>
      by_cases hn : n ∈ h.world.zfs.names
      · rw [wp_of_ok (Recovery.zfsCmd_at hf (if_pos hn)), wp_modify]
        refine ⟨hn, rfl, kept_setProps (n := n) (if_pos hn) ⟨rfl, rfl, rfl, rfl, rfl⟩, rfl, rfl, ?_, ?_⟩
        · exact congrArg Zvol.props (Store.zvol_put_self ..)
        · funext p
          by_cases hp : p = k <;> simp [hp]
      · exact (wp_of_error (Recovery.zfsCmd_refused hf (if_neg hn))).2 ⟨hsame, rfl⟩

theorem Changed.effectiveCopies (hc : Changed n "copies" copies value h h') :
    h'.world.zfs.effectiveCopies n = copies.getD (h.world.zfs.copies n.dataset) := by
  rw [Store.effectiveCopies, hc.props, if_pos rfl, hc.kept.copies]

/-- The value of the property that was changed. -/
theorem Changed.effective_self (hc : Changed n k copies value h h') : (effective V h' n k).1 =
    if k = "copies" then (copies.map toString).getD (toString (h.world.zfs.copies n.dataset))
    else value.getD (V.inherited n k).1 := by
  by_cases hk : k = "copies"
  · rw [effective, if_pos hk, if_pos hk, hc.props, if_pos hk, hc.kept.copies]
    cases copies <;> rfl
  · rw [effective, if_neg hk, if_neg hk, hc.locals]
    dsimp only
    rw [if_pos rfl]
    cases value <;> rfl

/-- The other properties. -/
theorem Changed.effective_of_ne (hc : Changed n k copies value h h') (hp : prop ≠ k) :
    effective V h' n prop = effective V h n prop := by
  by_cases hcopies : prop = "copies"
  · have hk : k ≠ "copies" := fun heq => hp (hcopies.trans heq.symm)
    rw [effective, effective, if_pos hcopies, if_pos hcopies, hc.props, if_neg hk, hc.kept.copies]
  · rw [effective, effective, if_neg hcopies, if_neg hcopies, hc.locals]
    dsimp only
    rw [if_neg hp]

/-- **A transaction about the custom keys** runs three commands, and its end changes the table. -/
theorem wp_customTxn {f : CustomKeys → CustomKeys} : wp (dbContext E sr (customCmd E f))
    (fun _ h' => ¬ Failing E h.world.clock 3 ∧ h.Unmoved h' ∧ h'.custom sr = f (h.custom sr))
    (fun _ h' => Failing E h.world.clock 3 ∧ h.Unmoved h' ∧ h'.custom sr = h.custom sr) h := by
  rw [dbContext, wp_bind, wp_lift]
  refine wp_command_timed rfl rfl (fun h₁ => ?_)
    fun h₁ => ⟨h₁ 2, ⟨.of_frame ⟨rfl, rfl, rfl, rfl, rfl⟩, rfl⟩, rfl⟩
  rw [wp_bind, wp_modify, wp_bind, customCmd, wp_bind, wp_lift]
  refine wp_command_timed rfl rfl (fun h₂ => ?_)
    fun h₂ => ⟨(h₁ 2).2 (h₂ 1), ⟨.of_frame ⟨rfl, rfl, rfl, rfl, rfl⟩, rfl⟩, rfl⟩
  rw [wp_modify, wp_bind, wp_lift]
  refine wp_command_timed rfl rfl (fun h₃ => ?_)
    fun h₃ => ⟨(h₁ 2).2 ((h₂ 1).2 (h₃ 0)), ⟨.of_frame ⟨rfl, rfl, rfl, rfl, rfl⟩, rfl⟩, rfl⟩
  refine ⟨fun hfail => ?_, ⟨⟨⟨rfl, fun _ => rfl, rfl, ?_⟩, fun _ => rfl⟩, rfl⟩, if_pos rfl⟩
  · exact not_failing_zero ((h₃ 0).1 ((h₂ 1).1 ((h₁ 2).1 hfail)))
  · funext sr'
    by_cases hsr : sr' = sr
    · subst hsr
      exact if_pos rfl
    · exact if_neg hsr

/-! ### One call -/

/-- What ZFS shows of a VDI after a call, given the value that its zvol has then. -/
theorem shown_eq (hk : World.Kept h.world h'.world) (hprop : prop ∈ MUTABLE_ZFS_PROPERTIES) :
    shown V ds v h' prop =
      shownAfter V ds v h prop (effective V h' ⟨ds, v.uuid⟩ prop).1 := by
  cases hsnap : v.snap with
  | false => rw [shown_base hsnap hprop, shownAfter, if_neg (by simp [hsnap])]
  | true =>
      rw [shownAfter, if_pos hsnap, shown, shown, if_pos hsnap, if_pos hsnap, hk.findSnapshot]
      rfl

/-- What was shown, in terms of the value of the zvol. -/
theorem Agrees.before (ha : Agrees V sr ds v h) (hprop : prop ∈ MUTABLE_ZFS_PROPERTIES) :
    ((h.custom sr).get? (v.uuid, prop)).or
      (shownAfter V ds v h prop (effective V h ⟨ds, v.uuid⟩ prop).1) =
        some (effective V h ⟨ds, v.uuid⟩ prop).1 := by
  rw [← shown_eq ⟨rfl, fun _ => rfl, rfl, rfl⟩ hprop]
  exact ha prop hprop

/-- The state after a call still agrees, with the same snapshots and the same metabase. -/
def StillAgrees (V : View) (sr : String) (ds : List String) (v : Vdi) (h h' : Host) : Prop :=
  Agrees V sr ds v h' ∧ World.Kept h.world h'.world

theorem stillAgrees_of_unmoved (ha : Agrees V sr ds v h) (hu : h.Unmoved h')
    (hcustom : h'.custom sr = h.custom sr) : StillAgrees V sr ds v h h' := by
  refine ⟨fun p hp => ?_, hu.world.toKept⟩
  rw [shown_eq hu.world.toKept hp, hcustom, hu.effective]
  exact ha.before hp

/-- A change of one property, and of its custom key. -/
theorem stillAgrees_of_changed {h₁ : Host} {entry : Option String} (ha : Agrees V sr ds v h)
    (hk : k ∈ MUTABLE_ZFS_PROPERTIES) (hc : Changed ⟨ds, v.uuid⟩ k copies value h h₁)
    (hu : h₁.Unmoved h')
    (hcustom : ∀ p, (h'.custom sr).get? (v.uuid, p) =
      if p = k then entry else (h.custom sr).get? (v.uuid, p))
    (hentry : entry.or (shownAfter V ds v h k (effective V h₁ ⟨ds, v.uuid⟩ k).1) =
      some (effective V h₁ ⟨ds, v.uuid⟩ k).1) : StillAgrees V sr ds v h h' := by
  have hkept := hc.kept.trans hu.world.toKept
  refine ⟨fun p hp => ?_, hkept⟩
  rw [shown_eq hkept hp, hcustom, hu.effective]
  by_cases hpk : p = k
  · subst hpk
    rw [if_pos rfl]
    exact hentry
  · rw [if_neg hpk, hc.effective_of_ne hpk]
    exact ha.before hp

/-- **A call about a mutable property**, from the change on. -/
theorem wp_mutable {f : CustomKeys → CustomKeys} {entry : Option String} {new : String}
    (ha : Agrees V sr ds v h) (hk : k ∈ MUTABLE_ZFS_PROPERTIES)
    (hnew : (if k = "copies" then (copies.map toString).getD (toString (h.world.zfs.copies ds))
      else value.getD (V.inherited ⟨ds, v.uuid⟩ k).1) = new)
    (hf : ∀ t p, (f t).get? (v.uuid, p) = if p = k then entry else t.get? (v.uuid, p))
    (hsafe : (⟨ds, v.uuid⟩ : ZvolName) ∈ h.world.zfs.names → E.fault h.world.clock = false →
      let cut := Failing E (h.world.clock + 1)
        (syncLength (h.world.zfs.zvol ⟨ds, v.uuid⟩).props k (copies.getD (h.world.zfs.copies ds)) + 3)
      (cut → ((h.custom sr).get? (v.uuid, k)).or (shownAfter V ds v h k new) = some new) ∧
        (¬ cut → entry.or (shownAfter V ds v h k new) = some new)) :
    wp (do
        (do
          changeProperty E ⟨ds, v.uuid⟩ k copies value
          lift (syncCopies E ⟨ds, v.uuid⟩ k))
        dbContext E sr (customCmd E f))
      (fun _ h' => StillAgrees V sr ds v h h') (fun _ h' => StillAgrees V sr ds v h h') h := by
  rw [wp_bind, wp_bind]
  refine wp_mono wp_changeProperty (fun _ h₁ h₁' => ?_) fun _ h₁ h₁' =>
    stillAgrees_of_unmoved ha h₁'.1 (by rw [h₁'.2])
  obtain ⟨hn, hfault, hc⟩ := h₁'
  obtain ⟨hcut, hdone⟩ := hsafe hn hfault
  have hvalue : (effective V h₁ ⟨ds, v.uuid⟩ k).1 = new := hc.effective_self.trans hnew
  have hn₁ : (⟨ds, v.uuid⟩ : ZvolName) ∈ h₁.world.zfs.names := by rw [hc.kept.names]; exact hn
  -- the commands after the change are those that the schedule is asked about
  have hlen : syncLength (h₁.world.zfs.zvol ⟨ds, v.uuid⟩).props k
      (h₁.world.zfs.effectiveCopies ⟨ds, v.uuid⟩) =
        syncLength (h.world.zfs.zvol ⟨ds, v.uuid⟩).props k
          (copies.getD (h.world.zfs.copies ds)) := by
    by_cases hcopies : k = "copies"
    · subst hcopies
      rw [hc.effectiveCopies, hc.props, if_pos rfl]
      rfl
    · rw [syncLength, syncLength, if_neg hcopies, if_neg hcopies]
  -- a call that is cut short keeps the custom key that is there
  have hstop : ∀ h₂ : Host, h₁.Unmoved h₂ → h₂.custom sr = h₁.custom sr →
      Failing E (h.world.clock + 1) (syncLength (h.world.zfs.zvol ⟨ds, v.uuid⟩).props k
        (copies.getD (h.world.zfs.copies ds)) + 3) → StillAgrees V sr ds v h h₂ := by
    intro h₂ hu hcustom hfail
    refine stillAgrees_of_changed ha hk hc hu (fun p => ?_) (by rw [hvalue]; exact hcut hfail)
    rw [hcustom, hc.custom]
    by_cases hp : p = k <;> simp [hp]
  rw [wp_lift]
  refine wp_mono (wp_and (wp_syncCopies_timed hn₁ 3) (preserves_syncCopies.wp _)) ?_ ?_
  · rintro - w₂ ⟨htimed, hkept⟩
    rw [hlen, hc.clock] at htimed
    have hu₂ : h₁.Unmoved { h₁ with world := w₂ } := ⟨hkept, rfl⟩
    refine wp_mono wp_customTxn ?_ ?_
    · rintro - h₃ ⟨hfail, hu₃, hcustom⟩
      refine stillAgrees_of_changed ha hk hc (hu₂.trans hu₃) (fun p => ?_)
        (by rw [hvalue]; exact hdone fun hcut' => hfail (htimed.1 hcut'))
      rw [hcustom, hf]
      exact congrArg (if p = k then entry else ·) (by rw [hc.custom])
    · rintro e h₃ ⟨hfail, hu₃, hcustom⟩
      exact hstop h₃ (hu₂.trans hu₃) hcustom (htimed.2 hfail)
  · rintro e w₂ ⟨htimed, hkept⟩
    rw [hlen, hc.clock] at htimed
    exact hstop _ ⟨hkept, rfl⟩ rfl htimed

theorem StillAgrees.refl (ha : Agrees V sr ds v h) : StillAgrees V sr ds v h h :=
  ⟨ha, rfl, fun _ => rfl, rfl, rfl⟩

theorem preserves_refuseImmutable : Preserves World.KeptCopies (refuseImmutable E n k) := by
  refine .bind ?_ fun _ => .throw _
  refine .ite (fun _ => .bind (preserves_zfsGet_keptCopies _) fun _ => .pure _) fun _ => ?_
  exact .ite (fun _ => .bind (preserves_zfsGet_keptCopies _) fun _ => .pure _) fun _ => .pure _

/-- **A call about another key**: at most the entry of that key changes. -/
theorem wp_other {f : CustomKeys → CustomKeys} (ha : Agrees V sr ds v h)
    (hk : k ∉ MUTABLE_ZFS_PROPERTIES)
    (hf : ∀ t p, p ≠ k → (f t).get? (v.uuid, p) = t.get? (v.uuid, p)) :
    wp ((if k ∈ IMMUTABLE_ZFS_PROPERTIES then lift (refuseImmutable E n k) else return ()) >>= fun _ =>
        dbContext E sr (customCmd E f))
      (fun _ h' => StillAgrees V sr ds v h h') (fun _ h' => StillAgrees V sr ds v h h') h := by
  have htxn : ∀ h₁ : Host, h.Unmoved h₁ → h₁.custom sr = h.custom sr →
      wp (dbContext E sr (customCmd E f)) (fun _ h' => StillAgrees V sr ds v h h')
        (fun _ h' => StillAgrees V sr ds v h h') h₁ := by
    intro h₁ hu₁ hcustom₁
    refine wp_mono wp_customTxn ?_ ?_
    · rintro - h₂ ⟨-, hu₂, hcustom₂⟩
      have hu := hu₁.trans hu₂
      refine ⟨fun p hp => ?_, hu.world.toKept⟩
      have hpk : p ≠ k := fun heq => hk (heq ▸ hp)
      rw [shown_eq hu.world.toKept hp, hcustom₂, hf _ _ hpk, hcustom₁, hu.effective]
      exact ha.before hp
    · rintro e h₂ ⟨-, hu₂, hcustom₂⟩
      exact stillAgrees_of_unmoved ha (hu₁.trans hu₂) (hcustom₂.trans hcustom₁)
  rw [wp_bind, wp_ite]
  refine ⟨fun _ => ?_, fun _ => htxn h ⟨Std.Refl.refl h.world, rfl⟩ rfl⟩
  rw [wp_lift]
  refine wp_mono (preserves_refuseImmutable.wp _) (fun _ w₁ hkept => ?_) fun _ w₁ hkept => ?_
  · exact htxn _ ⟨hkept, rfl⟩ rfl
  · exact stillAgrees_of_unmoved ha ⟨hkept, rfl⟩ rfl

theorem get?_set_key (t : CustomKeys) (uuid k x p : String) :
    (t.set (uuid, k) x).get? (uuid, p) = if p = k then some x else t.get? (uuid, p) := by
  rw [Dict.get?_set]
  by_cases hp : p = k <;> simp [hp]

theorem get?_erase_key (t : CustomKeys) (uuid k p : String) :
    (t.erase (uuid, k)).get? (uuid, p) = if p = k then none else t.get? (uuid, p) := by
  rw [Dict.get?_erase]
  by_cases hp : p = k <;> simp [hp]

/-- A value of a mutable property is passed on as it came. -/
theorem checkedValue_same {U : PyStr} {x y : String} (hx : checkedValue U k x = .ok y) : y = x := by
  cases hlookup : VALID_MUTABLE_VALUES.lookup k with
  | none =>
      rw [checkedValue, hlookup] at hx
      exact (Except.ok.inj hx).symm
  | some valid =>
      rw [checkedValue_eq hlookup] at hx
      split_ifs at hx
      exact (Except.ok.inj hx).symm

/-- The number of copies that was accepted, as a text. -/
theorem copies_of_checked {U : PyStr} {x : String} (hx : checkedValue U "copies" x = .ok x) :
    ∃ c, copiesOf x = some c ∧ toString c = x := by
  have hmem : x ∈ VALID_COPIES := by
    by_contra hnot
    have hlookup : VALID_MUTABLE_VALUES.lookup "copies" = some VALID_COPIES := rfl
    have hnormal : normal U "copies" x ∉ VALID_COPIES := hnot
    rw [checkedValue_eq hlookup, if_pos hnormal] at hx
    cases hx
  simp only [VALID_COPIES, List.mem_cons, List.not_mem_nil, or_false] at hmem
  rcases hmem with rfl | rfl | rfl
  · exact ⟨1, rfl, rfl⟩
  · exact ⟨2, rfl, rfl⟩
  · exact ⟨3, rfl, rfl⟩

/-- **A safe call keeps what is shown the same as what is effective.** -/
theorem wp_call {m : SrMeta} {c : Call} (hm : E.srMeta sr = some m)
    (ha : Agrees V sr m.datasetPath v h) (hsafe : Safe E V sr m.datasetPath v h c) :
    wp (c.run E V sr v.uuid) (fun _ h' => StillAgrees V sr m.datasetPath v h h')
      (fun _ h' => StillAgrees V sr m.datasetPath v h h') h := by
  have hmeta : lift (getSrMetadata E sr) h = .ok m h := by
    rw [lift, getSrMetadata, hm]
    rfl
  cases c with
  | set k x =>
      rw [Call.run, set, wp_bind, wp_of_ok hmeta, setVdiCustomKey_eq]
      by_cases hk : stripPrefix k ∈ MUTABLE_ZFS_PROPERTIES
      · rw [setOnZvol, if_pos hk]
        cases hx : checkedValue V.U (stripPrefix k) x with
        | error e => exact .refl ha
        | ok y =>
            obtain rfl := checkedValue_same hx
            have hf : ∀ (t : CustomKeys) (p : String),
                (t.set (v.uuid, stripPrefix k) y).get? (v.uuid, p) =
                  if p = stripPrefix k then some y else t.get? (v.uuid, p) := fun t p =>
              get?_set_key t v.uuid (stripPrefix k) y p
            have hnew : (if stripPrefix k = "copies" then
                ((copiesOf y).map toString).getD (toString (h.world.zfs.copies m.datasetPath))
                else (some y).getD (V.inherited ⟨m.datasetPath, v.uuid⟩ (stripPrefix k)).1) = y := by
              by_cases hcopies : stripPrefix k = "copies"
              · rw [hcopies] at hx
                obtain ⟨n, hn, rfl⟩ := copies_of_checked hx
                rw [if_pos hcopies, hn]
                rfl
              · exact if_neg hcopies
            have hrun := wp_mutable (E := E) ha hk hnew hf fun hn hfault => hsafe ⟨hk, hn, hfault, hx⟩
            rw [← volSetProperty_eq] at hrun
            exact hrun
      · rw [setOnZvol, if_neg hk]
        exact wp_other ha hk fun t p hp => (get?_set_key t _ _ _ p).trans (if_neg hp)
  | unset k =>
      rw [Call.run, unset, wp_bind, wp_of_ok hmeta, deleteVdiCustomKey_eq]
      by_cases hk : stripPrefix k ∈ MUTABLE_ZFS_PROPERTIES
      · rw [unsetOnZvol, if_pos hk]
        have hf : ∀ (t : CustomKeys) (p : String),
            (t.erase (v.uuid, stripPrefix k)).get? (v.uuid, p) =
              if p = stripPrefix k then none else t.get? (v.uuid, p) := fun t p =>
          get?_erase_key t v.uuid (stripPrefix k) p
        have hnew : (if stripPrefix k = "copies" then
            ((none : Option ℕ).map toString).getD (toString (h.world.zfs.copies m.datasetPath))
            else (none : Option String).getD
              (V.inherited ⟨m.datasetPath, v.uuid⟩ (stripPrefix k)).1) =
                (Call.unset k).value V h ⟨m.datasetPath, v.uuid⟩ := rfl
        rw [volInheritProperty_eq]
        have hrun := wp_mutable (E := E) ha hk hnew hf fun hn hfault => hsafe ⟨hk, hn, hfault, trivial⟩
        exact hrun
      · rw [unsetOnZvol, if_neg hk]
        exact wp_other ha hk fun t p hp => (get?_erase_key t _ _ p).trans (if_neg hp)

end

/-! ### Runs -/

section

variable {E : Env} {V : View} {h : Host} {sr : String} {ds : List String} {v : Vdi} {m : SrMeta}
  {cs : List Call}

/-- A VDI that is no snapshot and has no custom keys yet. -/
theorem agrees_new (hbase : v.snap = false)
    (hnew : ∀ prop ∈ MUTABLE_ZFS_PROPERTIES, (h.custom sr).get? (v.uuid, prop) = none) :
    Agrees V sr ds v h := by
  intro prop hprop
  rw [hnew prop hprop, shown_base hbase hprop]
  rfl

/-- For a VDI that is no snapshot, a call is safe unless it is cut short with a custom key that has
another value. -/
theorem safe_base_iff (hbase : v.snap = false) (c : Call) : Safe E V sr ds v h c ↔
    (c.Changes E V h ⟨ds, v.uuid⟩ → c.CutShort E h ⟨ds, v.uuid⟩ → ∀ x,
      (h.custom sr).get? (v.uuid, c.property) = some x → x = c.value V h ⟨ds, v.uuid⟩) := by
  have hshown : ∀ value, shownAfter V ds v h c.property value = some value := fun value => by
    rw [shownAfter, if_neg (by simp [hbase])]
  rw [Safe]
  refine forall_congr' fun hchange => ?_
  rw [hshown]
  constructor
  · rintro ⟨hcut, -⟩ hfail x hx
    have := hcut hfail
    rw [hx] at this
    exact Option.some.inj this
  · refine fun hkey => ⟨fun hfail => ?_, fun _ => ?_⟩
    · cases hx : (h.custom sr).get? (v.uuid, c.property) with
      | none => rfl
      | some x => exact congrArg some (hkey hfail x hx)
    · cases c <;> rfl

theorem stillAgrees_runs (hm : E.srMeta sr = some m) (ha : Agrees V sr m.datasetPath v h)
    (hsafe : SafeRun E V sr m.datasetPath v h cs) :
    StillAgrees V sr m.datasetPath v h (runs E V sr v.uuid h cs) := by
  induction cs generalizing h with
  | nil => exact .refl ha
  | cons c cs ih =>
      obtain ⟨ha₁, hk₁⟩ := after_of_wp (wp_call hm ha hsafe.1)
      obtain ⟨ha₂, hk₂⟩ := ih ha₁ hsafe.2
      exact ⟨ha₂, hk₁.trans hk₂⟩

end

/-- **After every run of safe calls, the reported values are the effective ones.** -/
theorem reported_of_safe {E : Env} {V : View} {sr : String} {m : SrMeta} {v : Vdi} {h : Host}
    {cs : List Call} (hm : E.srMeta sr = some m) (hv : v ∈ (h.world.db sr).vdis)
    (hstart : Agrees V sr m.datasetPath v h) (hsafe : SafeRun E V sr m.datasetPath v h cs) :
    Reported E V sr v.uuid ⟨m.datasetPath, v.uuid⟩ (runs E V sr v.uuid h cs) := by
  obtain ⟨ha, hk⟩ := stillAgrees_runs hm hstart hsafe
  refine ha.reported hm ?_
  rw [hk.db]
  exact hv

/-! ### A disk whose compression is set -/

private def diskRow : Vdi := ⟨"", "disk", "", false, 0, none, false, some 65536⟩

private def diskHost : Host := hostAfter [.create "disk" "" 65536 false]

/-- The first command of the second transaction of the disk fails. -/
private def diskEnv : Env := sampleEnv (· = diskHost.world.clock + 1)

private def diskCalls : List Call :=
  [.set "_sm_config_compression" "lz4", .set "copies" "2", .set "compression" "zstd",
    .unset "compression"]

private def diskAfter (k : ℕ) : Host := runs diskEnv plainView "sr" "" diskHost (diskCalls.take k)

/-- The first call is cut short after the change, when there is no custom key; the compression is set
again and taken back. -/
theorem reported_of_safe_retried :
    Reported diskEnv plainView "sr" "" ⟨["tank", "vms"], ""⟩
      (runs diskEnv plainView "sr" "" diskHost diskCalls) := by
  have hbase : diskRow.snap = false := rfl
  have hm : diskEnv.srMeta "sr" = some ⟨"tank", ["vms"], none, none⟩ := rfl
  have hv : diskRow ∈ (diskHost.world.db "sr").vdis := by decide +kernel
  refine reported_of_safe (v := diskRow) hm hv (agrees_new hbase fun _ _ => rfl) ⟨?_, ?_, ?_, ?_, trivial⟩
  · exact (safe_base_iff hbase _).2 nofun
  · have hnone : ((diskAfter 1).custom "sr").get? ("", "copies") = none := by decide +kernel
    exact (safe_base_iff hbase _).2 fun _ _ x hx => nomatch hnone.symm.trans hx
  · have hnone : ((diskAfter 2).custom "sr").get? ("", "compression") = none := by decide +kernel
    exact (safe_base_iff hbase _).2 fun _ _ x hx => nomatch hnone.symm.trans hx
  · have hlate : diskHost.world.clock + 1 < (diskAfter 3).world.clock := by decide +kernel
    refine (safe_base_iff hbase _).2 fun _ ⟨i, _, hi⟩ => ?_
    have heq : (diskAfter 3).world.clock + 1 + i = diskHost.world.clock + 1 := of_decide_eq_true hi
    omega

/-- **A call that is cut short**: `zstd` is set on the zvol, the transaction fails, and the custom key
from the call before keeps showing `lz4`. -/
theorem not_reported_cut : ¬ ∀ (E : Env) (V : View) (sr : String) (m : SrMeta) (v : Vdi) (h : Host)
    (cs : List Call), E.srMeta sr = some m → v ∈ (h.world.db sr).vdis → v.snap = false →
      (∀ prop ∈ MUTABLE_ZFS_PROPERTIES, (h.custom sr).get? (v.uuid, prop) = none) →
        Reported E V sr v.uuid ⟨m.datasetPath, v.uuid⟩ (runs E V sr v.uuid h cs) := by
  intro hall
  let E := sampleEnv (· = diskHost.world.clock + 5)
  let calls : List Call := [.set "compression" "lz4", .set "compression" "zstd"]
  let h' := runs E plainView "sr" "" diskHost calls
  have hv : diskRow ∈ (diskHost.world.db "sr").vdis := by decide +kernel
  have hreported := hall E plainView "sr" ⟨"tank", ["vms"], none, none⟩ diskRow diskHost calls
    rfl hv rfl (fun _ _ => rfl) "compression" (by decide)
  have hstale : (match stat (quiet E) plainView "sr" "" h' with
      | .ok r _ => decide (r.keys.get? "compression" =
          some (effective plainView h' ⟨["tank", "vms"], ""⟩ "compression").1)
      | .error _ _ => true) = false := by
    decide +kernel
  rcases hstat : stat (quiet E) plainView "sr" "" h' with ⟨r, h''⟩ | ⟨e, h''⟩
  · rw [hstat] at hstale
    exact of_decide_eq_false hstale (hreported.1 r h'' hstat)
  · rw [hstat] at hstale
    cases hstale

end Volume.Records

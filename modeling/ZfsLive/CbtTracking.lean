/-
**Does tracking resume when a volume is activated?**

Deactivation freezes the tracking bitmaps when it exports them.  Activation sets up the bitmaps that
were saved, and leaves a bitmap alone that is there with the saved granularity: on a process that has
stayed alive, this is the frozen one.

Main definitions:

* `Cbt.shape` — the granularity of a bitmap, and whether it records;
* `Cbt.Tracks`, `Cbt.Resumable` — the tracking bitmaps record, and can be made to record;
* `Cbt.CycleStep`, `Cbt.cycleStep` — runs of activations, deactivations and writes.

Main results:

* `Cbt.activate_shape` — what an activation does to the bitmaps;
* `Cbt.tracksAlways_iff` — **the bitmaps record after every activation of a run exactly when each
  activation meets none that is frozen and saved with its own granularity**;
* `Cbt.not_tracksAlways_deactivate` — deactivating and activating again.
-/

import ZfsLive.CbtDiscovery

set_option relaxedAutoImplicit false
set_option autoImplicit false

namespace Cbt

open Qemu ChangedBlocks Wp

variable {E : Env} {h : Host} {d : String} {qd : QemuDisk} {bs : Bitmaps} {nbd : Option String}
  {exports : Dict String Export}

/-! ### Shapes -/

/-- The granularity of a bitmap, and whether it records. -/
def shape (bs : Bitmaps) (name : String) : Option (ℕ × Bool) :=
  (bs.get? name).map fun b => (b.granularity, b.recording)

@[simp] theorem shape_recordAll (bs : Bitmaps) (ws : List Write) (name : String) :
    shape (Bitmaps.recordAll bs ws) name = shape bs name := by
  simp [shape, Function.comp_def]

theorem shape_set (bs : Bitmaps) (name n : String) (b : Bitmap) :
    shape (bs.set name b) n = if n = name then some (b.granularity, b.recording) else shape bs n := by
  rw [shape, Dict.get?_set]
  split <;> rfl

theorem shape_erase (bs : Bitmaps) (name n : String) :
    shape (bs.erase name) n = if n = name then none else shape bs n := by
  rw [shape, Dict.get?_erase]
  split <;> rfl

/-- The shape after `prepare_bitmap_from_payload`. -/
def restoredShape (payload : BitmapPayload) (old : Option (ℕ × Bool)) : Option (ℕ × Bool) :=
  if old.map (fun s => (s.1 : ℤ)) = some (payloadShape payload) then
    old
  else if 0 < payloadShape payload then
    some ((payloadShape payload).toNat, true)
  else
    none

/-- The shape after a round of the loop over the saved bitmaps. -/
def preparedShape (name : String) (payload : Single) (old : Option (ℕ × Bool)) :
    Option (ℕ × Bool) :=
  match payload with
  | .other => old
  | .dict payload => if isPersistentTrackingBitmap name then restoredShape payload old else old

/-! ### Setting up one bitmap -/

section

variable {X : QmpError → Host → Prop}

theorem wp_cbtBitmapRemove {name : String} {b : Bitmap} {Q : Unit → Host → Prop}
    (hE : ∀ n, E.fault n = false) (hon : h.On qd bs nbd exports) (hb : bs.get? name = some b)
    (hQ : ∀ h' bs', h'.On qd bs' nbd exports →
      (∀ n, shape bs' n = if n = name then none else shape bs n) → bs'.get? name = none → Q () h') :
    wp (cbtBitmapRemove E qd name) Q X h := by
  have hb' : (Bitmaps.recordAll bs (E.reach qd h.clock)).get? name = some _ :=
    (Bitmaps.get?_recordAll ..).trans (congrArg _ hb)
  rw [cbtBitmapRemove, wp_bind]
  refine wp_onNode hon (hE _) (fun _ => rfl) (removeBitmap_ok hb') fun p h' hon' _ _ _ =>
    hQ h' _ hon' (fun n => ?_) ?_
  · rw [shape_erase, shape_recordAll]
  · rw [Dict.get?_erase, if_pos rfl]

theorem wp_cbtBitmapAdd {name : String} {granularity : ℕ} {Q : Unit → Host → Prop}
    (hE : ∀ n, E.fault n = false) (hon : h.On qd bs nbd exports) (hb : bs.get? name = none)
    (hfail : ¬ 0 < granularity → ∀ e h' bs', h'.On qd bs' nbd exports →
      (∀ n, shape bs' n = shape bs n) → X e h')
    (hQ : 0 < granularity → ∀ h' bs', h'.On qd bs' nbd exports →
      (∀ n, shape bs' n = if n = name then some (granularity, true) else shape bs n) → Q () h') :
    wp (cbtBitmapAdd E qd name granularity) Q X h := by
  rw [cbtBitmapAdd, wp_bind]
  have hnone : (Bitmaps.recordAll bs (E.reach qd h.clock)).get? name = none :=
    (Bitmaps.get?_recordAll ..).trans (congrArg _ hb)
  by_cases hg : 0 < granularity
  · refine wp_onNode hon (hE _) (fun _ => rfl) (addBitmap_ok hnone hg) fun p h' hon' _ _ _ =>
      hQ hg h' _ hon' fun n => ?_
    rw [shape_set, shape_recordAll]
  · -- qemu refuses the granularity
    obtain ⟨p, hp, hbs, hn, he⟩ := hon
    obtain ⟨hbs', hn', he'⟩ := Host.On.arrive hbs hn he (E.writes h.clock)
    have hnext : (h.next E).processes.get? qd.qmp_sock = some (arrive qd.qmp_sock (E.writes h.clock) p) := by
      rw [get?_next, hp]
      rfl
    rw [Env.reach] at hnone
    have herr : qmpCommand E qd.qmp_sock (.bitmapAdd qd.block_node_name name granularity) h =
        .error .badGranularity { h.next E with
          trace := .command qd.qmp_sock (.bitmapAdd qd.block_node_name name granularity) ::
            (h.next E).trace } := by
      simp only [qmpCommand, hE, Bool.false_eq_true, if_false, hnext, Process.exec, Process.onNode,
        hbs', addBitmap, hnone, dif_neg hg]
    exact (wp_of_error herr).2 (hfail hg _ _ _ ⟨_, hnext, hbs', hn', he'⟩ fun n => shape_recordAll ..)

end

/-- **What setting up one saved bitmap does.** -/
theorem wp_prepareTracking (hE : ∀ n, E.fault n = false) (hon : h.On qd bs nbd exports)
    (name : String) (payload : Single) {Q : Unit → Host → Prop} {X : QmpError → Host → Prop}
    (hQ : ∀ h' bs', h'.On qd bs' nbd exports → (∀ n, shape bs' n =
      if n = name then preparedShape name payload (shape bs name) else shape bs n) → Q () h') :
    wp (prepareTracking E qd name payload) Q X h := by
  -- leaving the bitmaps as they are
  have hsame : preparedShape name payload (shape bs name) = shape bs name →
      ∀ h' bs', h'.On qd bs' nbd exports → (∀ n, shape bs' n = shape bs n) → Q () h' := by
    intro hp h' bs' hon' hsh
    refine hQ h' bs' hon' fun n => ?_
    rw [hsh]
    split
    · next hn => rw [hn, hp]
    · rfl
  rw [prepareTracking]
  split
  · next htrack =>
    cases payload with
    | other => exact hsame rfl h bs hon fun _ => rfl
    | dict payload =>
        rw [wp_tryCatch, prepareBitmapFromPayload, wp_bind]
        refine wp_cbtListBitmaps hon (hE _) fun h₁ hon₁ _ _ _ => ?_
        have hprep : ∀ old, preparedShape name (.dict payload) old = restoredShape payload old :=
          fun old => if_pos htrack
        have hsh : ((Bitmaps.recordAll bs (E.reach qd h.clock)).get? name).map
            (fun b => (b.granularity : ℤ)) = (shape bs name).map fun s => (s.1 : ℤ) := by
          rw [← shape_recordAll bs (E.reach qd h.clock), shape, Option.map_map]
          rfl
        dsimp only
        rw [hsh, wp_ite]
        refine ⟨fun hkeep => ?_, fun hnew => ?_⟩
        · exact hsame (by rw [hprep, restoredShape, if_pos hkeep]) h₁ _ hon₁
            fun n => shape_recordAll ..
        -- a bitmap of another granularity is removed first
        have hadd : ∀ h₂ bs₂, Host.On h₂ qd bs₂ nbd exports → bs₂.get? name = none →
            (∀ n, n ≠ name → shape bs₂ n = shape bs n) →
            wp (cbtBitmapAdd E qd name (payloadShape payload).toNat) Q
              (fun e h' => wp (pure () : CbtM Unit) Q X h') h₂ := by
          intro h₂ bs₂ hon₂ hnone hsh₂
          refine wp_cbtBitmapAdd hE hon₂ hnone (fun hg e h' bs' hon' hsh' => ?_)
            fun hg h' bs' hon' hsh' => ?_
          · refine hQ h' bs' hon' fun n => ?_
            have hneg : ¬ 0 < payloadShape payload := by omega
            rw [hsh', hprep, restoredShape, if_neg hnew, if_neg hneg]
            split
            · next hn => rw [hn, shape, hnone]; rfl
            · next hn => exact hsh₂ n hn
          · refine hQ h' bs' hon' fun n => ?_
            have hpos : 0 < payloadShape payload := by omega
            rw [hsh', hprep, restoredShape, if_neg hnew, if_pos hpos]
            split
            · rfl
            · next hn => exact hsh₂ n hn
        rw [wp_bind]
        rcases hinfo : (Bitmaps.recordAll bs (E.reach qd h.clock)).get? name with _ | b
        · exact hadd h₁ _ hon₁ hinfo fun n _ => shape_recordAll ..
        · refine wp_cbtBitmapRemove hE hon₁ hinfo fun h₂ bs₂ hon₂ hsh₂ hnone => ?_
          exact hadd h₂ bs₂ hon₂ hnone fun n hn => by rw [hsh₂, if_neg hn, shape_recordAll]
  · next htrack =>
    refine hsame ?_ h bs hon fun _ => rfl
    cases payload with
    | other => rfl
    | dict payload => exact if_neg htrack

/-- The shape after the loop over the saved bitmaps. -/
def loopShape (items : List (String × Single)) (name : String) (old : Option (ℕ × Bool)) :
    Option (ℕ × Bool) :=
  match items.lookup name with
  | some payload => preparedShape name payload old
  | none => old

theorem wp_prepareEach (hE : ∀ n, E.fault n = false) {items : List (String × Single)}
    (hitems : (items.map Prod.fst).Nodup) {Q : Unit → Host → Prop} {X : QmpError → Host → Prop}
    {h : Host} {bs : Bitmaps} (hon : h.On qd bs nbd exports)
    (hQ : ∀ h' bs', h'.On qd bs' nbd exports →
      (∀ n, shape bs' n = loopShape items n (shape bs n)) → Q () h') :
    wp (prepareEach E qd items) Q X h := by
  induction items generalizing h bs with
  | nil => exact hQ h bs hon fun _ => rfl
  | cons item items ih =>
      obtain ⟨name, payload⟩ := item
      rw [List.map_cons, List.nodup_cons] at hitems
      rw [prepareEach, wp_bind]
      refine wp_prepareTracking hE hon name payload fun h₁ bs₁ hon₁ hsh₁ => ?_
      refine ih hitems.2 hon₁ fun h' bs' hon' hsh' => hQ h' bs' hon' fun n => ?_
      rw [hsh', hsh₁, loopShape, loopShape, List.lookup_cons]
      by_cases hn : n = name
      · -- the rest of the loop does not come back to this bitmap
        subst hn
        have hnot : items.lookup n = none := by
          rw [List.lookup_eq_none_iff]
          intro e he
          have : e.1 ≠ n := fun heq => hitems.1 (List.mem_map.2 ⟨e, he, heq⟩)
          simpa using Ne.symm this
        simp [hnot]
      · have hbeq : (n == name) = false := by simpa using hn
        rw [if_neg hn, hbeq]

/-! ### Activation -/

/-- The saved bitmaps that an activation loads. -/
def savedPayload (E : Env) (h : Host) (device_path : String) : Dict String Single :=
  match resolveSrUri E device_path with
  | none => Dict.empty
  | some sr_uri =>
      let vdi_key := vdiUuidFromDevicePath device_path
      match (migratePickles h.pickles sr_uri (E.deviceKey device_path) vdi_key).get?
          (sr_uri, vdi_key) with
      | some (some (.dict payload)) => payload
      | _ => Dict.empty

/-- The process that was found is still there after time has passed. -/
theorem Host.On.drift {h' : Host} (hon : h.On qd bs nbd exports) (hd : Drift h h') :
    ∃ bs', h'.On qd bs' nbd exports ∧ ∀ n, shape bs' n = shape bs n := by
  obtain ⟨p, hp, hbs, hn, he⟩ := hon
  obtain ⟨ws, hws⟩ := hd.process qd.qmp_sock
  obtain ⟨hbs', hn', he'⟩ := Host.On.arrive hbs hn he ws
  refine ⟨_, ⟨Cbt.arrive qd.qmp_sock ws p, ?_, hbs', hn', he'⟩, fun n => shape_recordAll ..⟩
  rw [hws, hp]
  rfl

/-- **What an activation does to the bitmaps of the process it finds.** -/
theorem activate_shape (hE : ∀ n, E.fault n = false) (hfound : found E h d = some qd)
    (hon : h.On qd bs nbd exports) : ∃ h' bs', activate E d h = .ok () h' ∧
      h'.On qd bs' nbd exports ∧
      ∀ n, shape bs' n = loopShape (savedPayload E h d).items n (shape bs n) := by
  obtain ⟨h₁, hfind, hd⟩ := findQemu_eq E h d
  rw [hfound] at hfind
  obtain ⟨bs₁, hon₁, hsh₁⟩ : ∃ bs', h₁.On qd bs' nbd exports ∧ ∀ n, shape bs' n = shape bs n :=
    Host.On.drift (h := { h with nbd_server_running := (h.registry.get? (E.deviceKey d)).isSome })
      hon hd
  have hpk₁ : h₁.pickles = h.pickles := hd.pickles
  suffices hwp : wp (activate E d) (fun _ h' => ∃ bs', h'.On qd bs' nbd exports ∧
      ∀ n, shape bs' n = loopShape (savedPayload E h d).items n (shape bs n))
      (fun _ _ => False) h by
    obtain ⟨_, h', hok, bs', hon', hsh'⟩ := exists_ok_of_wp hwp
    exact ⟨h', bs', hok, hon', hsh'⟩
  rw [activate, quietly, wp_tryCatch, cbtRestoreOnActivate, wp_bind, wp_of_ok hfind]
  dsimp only
  rw [savedPayload]
  rcases hsr : resolveSrUri E d with _ | sr_uri
  · exact ⟨bs₁, hon₁, hsh₁⟩
  · dsimp only
    rw [wp_bind]
    refine wp_migrateQuietly (hE _) fun h₂ hh₂ => ?_
    have hon₂ : h₂.On qd (Bitmaps.recordAll bs₁ (E.reach qd h₁.clock)) nbd exports := by
      rw [hh₂]
      exact hon₁.next
    have hpk₂ : h₂.pickles = migratePickles h.pickles sr_uri (E.deviceKey d)
        (vdiUuidFromDevicePath d) := by
      rw [hh₂, hpk₁]
    have hon₃ := hon₂.next (E := E)
    have hsh₃ : ∀ n, shape (Bitmaps.recordAll (Bitmaps.recordAll bs₁ (E.reach qd h₁.clock))
        (E.reach qd h₂.clock)) n = shape bs n :=
      fun n => (shape_recordAll ..).trans ((shape_recordAll ..).trans (hsh₁ n))
    rw [wp_bind]
    refine wp_loadCbtMetadata (hE _) ?_
    rw [hpk₂]
    rcases (migratePickles h.pickles sr_uri (E.deviceKey d) (vdiUuidFromDevicePath d)).get?
      (sr_uri, vdiUuidFromDevicePath d) with _ | _ | data
    · exact ⟨_, hon₃, hsh₃⟩
    · exact ⟨_, hon₃, hsh₃⟩
    · cases data with
      | dict payload =>
          refine wp_prepareEach hE payload.distinct hon₃ fun h' bs' hon' hsh' => ⟨bs', hon', ?_⟩
          intro n
          rw [hsh', hsh₃]
      | other => exact ⟨_, hon₃, hsh₃⟩

/-! ### Runs -/

/-- The tracking bitmaps of the node in hand record, so that they have the blocks of all writes to
come. -/
def Tracks (h : Host) (qd : QemuDisk) : Prop :=
  ∀ bs nbd exports, h.On qd bs nbd exports → ∀ name b, bs.get? name = some b →
    isPersistentTrackingBitmap name = true →
      b.recording = true ∧ ∀ ws k, Touched ws b.granularity k → k ∈ (b.recordAll ws).dirty

/-- Every tracking bitmap of the node in hand records already, or is saved with another granularity
than its own. -/
def Resumable (E : Env) (h : Host) (device_path : String) (qd : QemuDisk) : Prop :=
  ∀ bs nbd exports, h.On qd bs nbd exports → ∀ name b, bs.get? name = some b →
    isPersistentTrackingBitmap name = true →
      b.recording = true ∨ ∃ payload, (savedPayload E h device_path).get? name = some (.dict payload) ∧
        (b.granularity : ℤ) ≠ payloadShape payload

/-- The process that `findQemu` finds is alive and has its node. -/
def Alive (E : Env) (h : Host) (device_path : String) (qd : QemuDisk) : Prop :=
  found E h device_path = some qd ∧ ∃ bs nbd exports, h.On qd bs nbd exports

/-- A step of a run on one volume. -/
inductive CycleStep
  | activate
  | deactivate
  | write (w : GuestWrite)

/-- The state after a step. -/
def cycleStep (E : Env) (device_path : String) (h : Host) : CycleStep → Host
  | .activate => after (activate E device_path) h
  | .deactivate => after (deactivate E device_path) h
  | .write w => h.guestWrite w

/-- In every activation of the run, the bitmaps of the process that is found record afterwards. -/
def TracksAlways (E : Env) (device_path : String) : Host → List CycleStep → Prop
  | _, [] => True
  | h, s :: steps =>
      (s = .activate → ∀ qd, Alive E h device_path qd → Tracks (cycleStep E device_path h s) qd) ∧
        TracksAlways E device_path (cycleStep E device_path h s) steps

/-- No activation of the run meets a bitmap that is frozen and saved with its own granularity. -/
def ResumableAlways (E : Env) (device_path : String) : Host → List CycleStep → Prop
  | _, [] => True
  | h, s :: steps =>
      (s = .activate → ∀ qd, Alive E h device_path qd → Resumable E h device_path qd) ∧
        ResumableAlways E device_path (cycleStep E device_path h s) steps

theorem lookup_items {κ α : Type} [DecidableEq κ] (dict : Dict κ α) (k : κ) :
    dict.items.lookup k = dict.get? k := rfl

theorem tracks_iff {h' : Host} {bs' : Bitmaps} (hon : h'.On qd bs' nbd exports) : Tracks h' qd ↔
    ∀ n g r, isPersistentTrackingBitmap n = true → shape bs' n = some (g, r) → r = true := by
  constructor
  · intro ht n g r hn hs
    obtain ⟨b, hb, hgr⟩ := Option.map_eq_some_iff.1 hs
    cases hgr
    exact (ht _ _ _ hon n b hb hn).1
  · intro ht bs₁ nbd₁ ex₁ hon₁ n b hb hn
    obtain ⟨p, hp, hbs, -, -⟩ := hon
    obtain ⟨p₁, hp₁, hbs₁, -, -⟩ := hon₁
    cases hp.symm.trans hp₁
    cases hbs.symm.trans hbs₁
    have hrec : b.recording = true := ht n b.granularity b.recording hn (by rw [shape, hb]; rfl)
    exact ⟨hrec, fun ws k hk => Bitmap.mem_dirty_recordAll.2 (.inr ⟨hrec, hk⟩)⟩

/-- **One activation.** -/
theorem tracks_activate_iff (hE : ∀ n, E.fault n = false) (ha : Alive E h d qd) :
    Tracks (after (activate E d) h) qd ↔ Resumable E h d qd := by
  obtain ⟨hfound, bs, nbd, exports, hon⟩ := ha
  obtain ⟨h', bs', hok, hon', hsh⟩ := activate_shape hE hfound hon
  have hafter : after (activate E d) h = h' := by rw [after, hok]
  rw [hafter, tracks_iff hon']
  constructor
  · intro ht bs₁ nbd₁ ex₁ hon₁ n b hb hn
    obtain ⟨p, hp, hbs, -, -⟩ := hon
    obtain ⟨p₁, hp₁, hbs₁, -, -⟩ := hon₁
    cases hp.symm.trans hp₁
    cases hbs.symm.trans hbs₁
    have hold : shape bs n = some (b.granularity, b.recording) := by rw [shape, hb]; rfl
    have hnew := ht n b.granularity b.recording hn
    rw [hsh, loopShape, lookup_items, hold] at hnew
    rcases hs : (savedPayload E h d).get? n with _ | payload
    · exact .inl (hnew (by rw [hs]))
    · rw [hs] at hnew
      cases payload with
      | other => exact .inl (hnew rfl)
      | dict payload =>
          by_cases hg : (b.granularity : ℤ) = payloadShape payload
          · refine .inl (hnew ?_)
            have hkeep : restoredShape payload (some (b.granularity, b.recording)) =
                some (b.granularity, b.recording) := if_pos (congrArg some hg)
            exact (if_pos hn).trans hkeep
          · exact .inr ⟨payload, rfl, hg⟩
  · intro hr n g r hn hs
    rw [hsh, loopShape, lookup_items] at hs
    -- a bitmap that was there records, or was replaced
    have hthere : ∀ b, bs.get? n = some b → b.recording = true ∨
        ∃ payload, (savedPayload E h d).get? n = some (.dict payload) ∧
          (b.granularity : ℤ) ≠ payloadShape payload :=
      fun b hb => hr bs nbd exports hon n b hb hn
    have hold : shape bs n = some (g, r) → r = true ∨
        ∃ payload, (savedPayload E h d).get? n = some (.dict payload) ∧
          (g : ℤ) ≠ payloadShape payload := by
      intro hs'
      obtain ⟨b, hb, hgr⟩ := Option.map_eq_some_iff.1 hs'
      cases hgr
      exact hthere b hb
    rcases hsaved : (savedPayload E h d).get? n with _ | payload
    · rw [hsaved] at hs hold
      rcases hold hs with hr' | ⟨payload, hp, _⟩
      · exact hr'
      · cases hp
    · rw [hsaved] at hs hold
      cases payload with
      | other =>
          rcases hold hs with hr' | ⟨payload, hp, _⟩
          · exact hr'
          · cases hp
      | dict payload =>
          simp only [preparedShape, if_pos hn, restoredShape] at hs
          split at hs
          · next hkeep =>
            rcases hold hs with hr' | ⟨payload', hp, hne⟩
            · exact hr'
            · cases hp
              rw [hs] at hkeep
              exact absurd (Option.some.inj hkeep) hne
          · split at hs
            · cases hs
              rfl
            · cases hs

/-- **The bitmaps record after every activation of a run exactly when each activation meets none that
is frozen and saved with its own granularity.** -/
theorem tracksAlways_iff (E : Env) (hE : ∀ n, E.fault n = false) (d : String) (steps : List CycleStep)
    (h : Host) : TracksAlways E d h steps ↔ ResumableAlways E d h steps := by
  induction steps generalizing h with
  | nil => exact Iff.rfl
  | cons s steps ih =>
      rw [TracksAlways, ResumableAlways, ih]
      refine and_congr_left' (forall_congr' fun hs => forall_congr' fun qd => ?_)
      subst hs
      exact forall_congr' fun ha => tracks_activate_iff hE ha

/-- The shape of a bitmap of the node in hand. -/
def shapeOn (h : Host) (qd : QemuDisk) (name : String) : Option (ℕ × Bool) :=
  (h.processes.get? qd.qmp_sock).bind fun p =>
    (p.nodes.get? qd.block_node_name).bind fun bs => shape bs name

theorem on_of_shapeOn {name : String} {s : ℕ × Bool} (hs : shapeOn h qd name = some s) :
    ∃ bs nbd exports, h.On qd bs nbd exports ∧ shape bs name = some s := by
  obtain ⟨p, hp, hs⟩ := Option.bind_eq_some_iff.1 hs
  obtain ⟨bs, hbs, hs⟩ := Option.bind_eq_some_iff.1 hs
  exact ⟨bs, _, _, ⟨p, hp, hbs, rfl, rfl⟩, hs⟩

theorem not_tracks_of_frozen {name : String} {g : ℕ} (hs : shapeOn h qd name = some (g, false))
    (hn : isPersistentTrackingBitmap name = true) : ¬ Tracks h qd := by
  intro ht
  obtain ⟨bs, nbd, exports, hon, hsh⟩ := on_of_shapeOn hs
  exact Bool.false_ne_true ((tracks_iff hon).1 ht name g false hn hsh)

theorem tracksAlways_iff_written : TracksAlways (quietEnv none) "/dev/zvol/tank/vdi" trackedHost
    [.activate, .write ⟨"qmp", BLOCK_NODE_NAME, ⟨0, 512⟩⟩] ↔
      ResumableAlways (quietEnv none) "/dev/zvol/tank/vdi" trackedHost
        [.activate, .write ⟨"qmp", BLOCK_NODE_NAME, ⟨0, 512⟩⟩] :=
  tracksAlways_iff (quietEnv none) (fun _ => rfl) _ _ _

/-- **A volume that is deactivated and activated again is not tracked.** -/
theorem not_tracksAlways_deactivate : ¬ ∀ (E : Env) (_ : ∀ n, E.fault n = false) (d : String)
    (steps : List CycleStep) (h : Host), TracksAlways E d h steps := by
  intro hall
  obtain ⟨-, ht, -⟩ := hall (quietEnv none) (fun _ => rfl) "/dev/zvol/tank/vdi"
    [.deactivate, .activate] trackedHost
  let qd : QemuDisk := ⟨"qmp", "nbd", BLOCK_NODE_NAME⟩
  let frozen := cycleStep (quietEnv none) "/dev/zvol/tank/vdi" trackedHost .deactivate
  have halive : (shapeOn frozen qd "cbt-active").isSome = true := by decide +kernel
  obtain ⟨s, hs⟩ := Option.isSome_iff_exists.1 halive
  obtain ⟨bs, nbd, exports, hon, -⟩ := on_of_shapeOn hs
  have hfrozen : shapeOn (cycleStep (quietEnv none) "/dev/zvol/tank/vdi" frozen .activate) qd
      "cbt-active" = some (65536, false) := by decide +kernel
  have hfound : found (quietEnv none) frozen "/dev/zvol/tank/vdi" = some qd := by decide +kernel
  exact not_tracks_of_frozen hfrozen (by decide) (ht rfl qd ⟨hfound, bs, nbd, exports, hon⟩)

end Cbt

/-
**Runs of calls.**

A run on a repository is a sequence of calls, which can raise, and of touches: between two calls a
zvol can be opened or closed, and written.

Main definitions:

* `Volume.Call`, `Volume.Event` — what a run is made of;
* `Volume.runEvents` — the state after a run.

Main results:

* `Volume.Call.outcome` — the calls but `destroy`, however they end;
* `Volume.Backed.growth`, `Volume.Backed.moved` — the backing of a VDI through a call.
-/

import ZfsLive.VolumeDestroy

set_option relaxedAutoImplicit false
set_option autoImplicit false

namespace Volume

open Zfs Wp

/-- A call on a repository. -/
inductive Call
  | create (name description : String) (size : ℕ) (sharable : Bool)
  | importExisting (key name description : String) (size : ℕ) (sharable : Bool)
  | snapshot (key : String)
  | clone (key : String)
  | resize (key : String) (new_size : ℕ)
  | copy (key dest_sr : String)
  | destroy (key : String)
  deriving DecidableEq, Repr

/-- What happens on a host. -/
inductive Event
  | call (c : Call)
  /-- A zvol is opened or closed, and bytes are written to it. -/
  | touch (n : ZvolName) (busy : Bool) (written : Content)
  deriving DecidableEq, Repr

section

variable (E : Env) {α : Type}

/-- The program of a call. -/
def Call.run (sr : String) : Call → VolM Unit
  | .create name description size sharable =>
      (fun _ => ()) <$> Volume.create E sr name description size sharable
  | .importExisting key name description size sharable =>
      (fun _ => ()) <$> Volume.importExisting E sr key name description size sharable
  | .snapshot key => (fun _ => ()) <$> Volume.snapshot E sr key
  | .clone key => (fun _ => ()) <$> Volume.clone E sr key
  | .resize key new_size => Volume.resize E sr key new_size
  | .copy key dest_sr => (fun _ => ()) <$> Volume.copy E sr key dest_sr
  | .destroy key => Volume.destroy E sr key

/-- The state when a program ends, however it ends. -/
def after (m : VolM α) (w : World) : World :=
  match m w with
  | .ok _ w' => w'
  | .error _ w' => w'

/-- The program returns. -/
def returns (m : VolM α) (w : World) : Bool :=
  match m w with
  | .ok _ _ => true
  | .error _ _ => false

/-- A read-only zvol cannot be written, and no zvol behind its end. -/
def touchProps (busy : Bool) (written : Content) (p : Props) : Props :=
  { p with
    busy := busy
    content := if p.readonly then p.content else below p.volsize written ++ p.content }

/-- The state after a zvol was touched. -/
def touch (n : ZvolName) (busy : Bool) (written : Content) (w : World) : World :=
  match w.zfs.setProps n (touchProps busy written) with
  | .ok z => { w with zfs := z }
  | .error _ => w

/-- The state after an event. -/
def Event.apply (sr : String) (w : World) : Event → World
  | .call c => after (c.run E sr) w
  | .touch n busy written => Volume.touch n busy written w

/-- The state after a run. -/
def runEvents (sr : String) (w : World) (es : List Event) : World :=
  es.foldl (Event.apply E sr) w

end

variable {E : Env} {w₀ w w' : World} {z : Store} {k : ℕ} {α : Type}

theorem of_wp {m : VolM α} {P : World → Prop} (h : wp m (fun _ w' => P w') (fun _ w' => P w') w) :
    P (after m w) := by
  rcases hm : m w with ⟨a, w'⟩ | ⟨e, w'⟩
  · rw [after, hm]
    exact (wp_of_ok hm).1 h
  · rw [after, hm]
    exact (wp_of_error hm).1 h

theorem ok_of_returns {m : VolM Unit} (h : returns m w = true) : m w = .ok () (after m w) := by
  rcases hm : m w with ⟨⟨⟩, w'⟩ | ⟨e, w'⟩
  · rw [after, hm]
  · rw [returns, hm] at h
    cases h

/-- **The calls but `destroy`**: they only add, and a VDI they add has its backing. -/
theorem Call.outcome (hT : Tidy E w) (sr : String) (c : Call) (hc : ∀ key, c ≠ .destroy key) :
    Outcome E w (after (c.run E sr) w) := by
  have hok : ∀ {α : Type} {m : VolM α}, wp m (fun _ w' => Success E w w') (fun _ w' => Outcome E w w') w →
      Outcome E w (after ((fun _ => ()) <$> m) w) := fun h =>
    of_wp ((wp_map ..).2 (wp_mono h (fun _ _ h => h.outcome) fun _ _ h => h))
  cases c with
  | create name description size sharable => exact hok (wp_create hT sr name description size sharable)
  | importExisting key name description size sharable =>
      exact of_wp ((wp_map ..).2 (wp_importExisting hT sr key name description size sharable))
  | snapshot key => exact hok (wp_snapshot hT sr key)
  | clone key => exact hok (wp_clone hT sr key)
  | resize key new_size => exact of_wp (wp_resize hT sr key new_size)
  | copy key dest_sr => exact hok (wp_copy hT sr key dest_sr)
  | destroy key => exact absurd rfl (hc key)

/-! ### Touches -/

/-- A touch changes neither names nor snapshots nor what a zvol is. -/
theorem touch_spec (n : ZvolName) (busy : Bool) (written : Content) (w : World) :
    (touch n busy written w).db = w.db ∧ (touch n busy written w).drawn = w.drawn ∧
      (∀ m, m ∈ (touch n busy written w).zfs.names ↔ m ∈ w.zfs.names) ∧
      (∀ s, (touch n busy written w).zfs.Has s ↔ w.zfs.Has s) ∧
      (∀ m, ((touch n busy written w).zfs.zvol m).props.readonly = (w.zfs.zvol m).props.readonly) ∧
      (WF w.zfs → WF (touch n busy written w).zfs) := by
  rw [touch]
  rcases h : w.zfs.setProps n (touchProps busy written) with e | z
  · exact ⟨rfl, rfl, fun _ => Iff.rfl, fun _ => Iff.rfl, fun _ => rfl, id⟩
  · refine ⟨rfl, rfl, fun _ => Store.names_setProps h, fun _ => Store.has_setProps h, fun m => ?_,
      fun hwf => hwf.setProps h⟩
    obtain ⟨_, rfl⟩ := Store.setProps_ok h
    change ((w.zfs.put n _).zvol m).props.readonly = _
    by_cases hm : m = n
    · subst hm
      rw [Store.zvol_put_self]
      rfl
    · rw [Store.zvol_put_of_ne _ _ hm]

theorem Tidy.touch (hT : Tidy E w) (n : ZvolName) (busy : Bool) (written : Content) :
    Tidy E (touch n busy written w) := by
  obtain ⟨_, hdrawn, hnames, hhas, _, hwf⟩ := touch_spec n busy written w
  refine ⟨hwf hT.wf, fun m hm => ?_, fun s hs => ?_⟩
  · rw [hdrawn]
    exact hT.vol_ne m ((hnames m).1 hm)
  · rw [hdrawn]
    exact hT.snap_ne s ((hhas s).1 hs)

/-! ### The backing of a VDI through a call -/

theorem Backed.growth {ds : List String} {v v₀ : Vdi} (hT : Tidy E w₀) (h : Growth E w₀ z k)
    (hb : Backed w₀.zfs ds v₀) (huuid : v₀.uuid = v.uuid) (hsnap : v₀.snap = v.snap) :
    Backed z ds v where
  zvol := huuid ▸ h.names _ hb.zvol
  readonly := fun hs => by
    have := hb.readonly (hsnap.trans hs)
    rw [← huuid, h.readonly _ hb.zvol]
    exact this
  snapshot := fun hs => by
    obtain ⟨n, hunder, hhas, honly⟩ := hb.snapshot (hsnap.trans hs)
    rw [← huuid]
    refine ⟨n, hunder, ?_, fun m hm => ?_⟩
    · obtain ⟨t, ht, hid⟩ := Store.has_iff_owns.1 hhas
      exact Store.has_iff_owns.2 ⟨t, h.owns n t ht, hid⟩
    · rcases h.new_snaps _ hm with hm | ⟨j, hj, _, hju⟩
      · exact honly m hm
      · exact absurd hju (hT.vol_ne _ hb.zvol j hj)

/-- Destroying the VDI `key` leaves another one its backing, if the clone that takes its snapshot over
lies in the repository. -/
theorem Backed.moved {ds : List String} {key : String} {v : Vdi}
    (h : Moved E w₀ ⟨ds, key⟩ z k) (hb : Backed w₀.zfs ds v) (hne : v.uuid ≠ key)
    (hunder : v.snap = true → w₀.zfs.Has ⟨⟨ds, key⟩, v.uuid⟩ →
      ∀ d, (w₀.zfs.clones ⟨⟨ds, key⟩, v.uuid⟩).head? = some d → d.Under ds) :
    Backed z ds v where
  zvol := h.names _ hb.zvol fun heq => hne (congrArg ZvolName.vol heq)
  readonly := fun hs => by
    rw [h.props _ hb.zvol]
    exact hb.readonly hs
  snapshot := fun hs => by
    obtain ⟨n, hn, hhas, honly⟩ := hb.snapshot hs
    have huniq := h.unique v.uuid fun m m' hm hm' => (honly m hm).trans (honly m' hm').symm
    -- the snapshot is where it was, or with the clone that took it over
    have hex : ∃ d : ZvolName, d.Under ds ∧ z.Has ⟨d, v.uuid⟩ := by
      obtain ⟨t, ht, hid⟩ := Store.has_iff_owns.1 hhas
      rcases h.forth n t ht (hid ▸ hne) with ht' | ⟨rfl, d, hd, ht'⟩
      · exact ⟨n, hn, Store.has_iff_owns.2 ⟨t, ht', hid⟩⟩
      · refine ⟨d, ?_, Store.has_iff_owns.2 ⟨t, ht', hid⟩⟩
        rw [hid] at hd
        rcases hd with hd | ⟨_, hd, _⟩
        · exact hunder hs hhas d hd
        · exact ⟨[], by rw [List.append_nil]; exact hd.symm⟩
    obtain ⟨d, hd, hd'⟩ := hex
    exact ⟨d, hd, hd', fun m hm => huniq m d hm hd'⟩

/-! ### A host -/

/-- A host with one repository, on which the commands of `fault` fail. -/
def sampleEnv (fault : ℕ → Bool) : Env where
  srMeta sr := if sr = "sr" then some ⟨"tank", ["vms"], none, none⟩ else none
  uuid n := String.ofList (List.replicate n 'u')
  uuid_injective := replicate_injective
  fault := fault
  received _ := false
  volsizeFor _ n := n
  available _ := 0
  used := noSpace
  used_local := noSpace_local

/-- A host without zvols and without VDIs. -/
def emptyWorld : World where
  zfs := ⟨[], fun _ => ⟨⟨0, 0, 0, false, false, [], none⟩, [], none⟩, fun _ => 1⟩
  db := fun _ => Metabase.empty
  work := Metabase.empty
  drawn := 0
  clock := 0
  destroyed := 0
  commits := 0

theorem tidy_emptyWorld (E : Env) : Tidy E emptyWorld where
  wf := ⟨by simp [emptyWorld], by simp [emptyWorld], by simp [emptyWorld],
    fun _ => 0, by simp [emptyWorld]⟩
  vol_ne := by simp [emptyWorld]
  snap_ne := fun s hs => by simp [emptyWorld, Store.Has] at hs

end Volume

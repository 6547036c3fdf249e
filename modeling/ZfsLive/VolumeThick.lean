/-
**The space that thick volumes reserve.**

A thick volume has a reservation of its size for each of its copies.  `resize`, `set`, `unset`, `clone`
and `copy` restore the product from the size that the zvol has.  `create` reserves the size that was
asked for, which ZFS rounds up to whole blocks.

Main definitions:

* `Volume.Guaranteed` — a zvol without a reservation, or with the right one;
* `Volume.Keeps` — what a call does to the zvols that are guaranteed;
* `Volume.ThickCall`, `Volume.runCalls` — sequences of calls.

Main results:

* `Volume.ThickCall.keeps` — every call keeps the guarantee, if it asks for whole blocks;
* `Volume.guaranteed_of_whole_blocks` — **in every run whose thick volumes are created in whole blocks,
  every zvol is guaranteed**;
* `Volume.not_guaranteed_odd` — a thick volume whose size is no multiple of its block size.
-/

import ZfsLive.VolumeGrowth
import ZfsLive.VolumeProperties

set_option relaxedAutoImplicit false
set_option autoImplicit false

namespace Volume

open Zfs Wp Properties

/-! ### The guarantee -/

/-- The zvol reserves nothing, or its size for each of its copies. -/
def Guaranteed (z : Store) (n : ZvolName) : Prop :=
  0 < (z.zvol n).props.refreservation →
    (z.zvol n).props.refreservation = (z.zvol n).props.volsize * z.effectiveCopies n

/-- A zvol that was guaranteed or not there is guaranteed afterwards. -/
def Keeps (z z' : Store) : Prop :=
  ∀ n, (n ∈ z.names → Guaranteed z n) → n ∈ z'.names → Guaranteed z' n

/-- At most the zvol `n` differs between the two stores. -/
structure Only (z z' : Store) (n : ZvolName) : Prop where
  names : ∀ m, m ≠ n → m ∈ z'.names → m ∈ z.names
  zvol : ∀ m, m ≠ n → z'.zvol m = z.zvol m
  copies : z'.copies = z.copies

variable {z z' z'' : Store} {n : ZvolName}

theorem Keeps.refl (z : Store) : Keeps z z := fun _ h => h

theorem Keeps.trans (h : Keeps z z') (h' : Keeps z' z'') : Keeps z z'' :=
  fun n hn => h' n (h n hn)

theorem Only.trans (h : Only z z' n) (h' : Only z' z'' n) : Only z z'' n :=
  ⟨fun m hm hmem => h.names m hm (h'.names m hm hmem),
    fun m hm => (h'.zvol m hm).trans (h.zvol m hm), h'.copies.trans h.copies⟩

/-- **A change of one zvol keeps the guarantee if the zvol is guaranteed afterwards.** -/
theorem Only.keeps (h : Only z z' n) (hn : Guaranteed z' n) : Keeps z z' := by
  intro m hm hmem
  by_cases hne : m = n
  · exact hne ▸ hn
  · have hold := hm (h.names m hne hmem)
    simp only [Guaranteed, Store.effectiveCopies, h.zvol m hne, h.copies] at hold ⊢
    exact hold

theorem only_put (z : Store) (n : ZvolName) (v : Zvol) : Only z (z.put n v) n := by
  refine ⟨fun m hm hmem => ?_, fun m hm => Store.zvol_put_of_ne z v hm, rfl⟩
  exact (Store.mem_names_put.1 hmem).resolve_left hm

theorem only_setProps {f : Props → Props} (h : z.setProps n f = .ok z') : Only z z' n := by
  obtain ⟨_, rfl⟩ := Store.setProps_ok h
  exact only_put z n _

theorem props_setProps {f : Props → Props} (h : z.setProps n f = .ok z') :
    (z'.zvol n).props = f (z.zvol n).props := by
  obtain ⟨_, rfl⟩ := Store.setProps_ok h
  rw [Store.zvol_put_self]

/-- What changes no property keeps the guarantee. -/
theorem keeps_of_props (hnames : ∀ n ∈ z'.names, n ∈ z.names)
    (hprops : ∀ n, (z'.zvol n).props = (z.zvol n).props) (hcopies : z'.copies = z.copies) :
    Keeps z z' := by
  intro n hn hmem
  have hold := hn (hnames n hmem)
  simp only [Guaranteed, Store.effectiveCopies, hprops, hcopies] at hold ⊢
  exact hold

theorem props_put {v : Zvol} (hv : v.props = (z.zvol n).props) (m : ZvolName) :
    ((z.put n v).zvol m).props = (z.zvol m).props := by
  by_cases hne : m = n
  · rw [hne, Store.zvol_put_self, hv]
  · rw [Store.zvol_put_of_ne z v hne]

theorem names_put (hn : n ∈ z.names) (v : Zvol) : ∀ m ∈ (z.put n v).names, m ∈ z.names := by
  intro m hm
  rcases Store.mem_names_put.1 hm with rfl | hm
  · exact hn
  · exact hm

theorem keeps_snapshot {s : SnapName} (h : z.snapshot s = .ok z') : Keeps z z' := by
  obtain ⟨hmem, _, t, _, _, rfl⟩ := Store.snapshot_ok h
  exact keeps_of_props (names_put hmem _) (props_put rfl) rfl

theorem keeps_destroy {object : ZfsObject} (h : object.destroy z = .ok z') : Keeps z z' := by
  cases object with
  | zvol n =>
      obtain ⟨_, _, _, rfl⟩ := Store.destroy_ok h
      exact keeps_of_props (fun m hm => (List.mem_filter.1 hm).1) (fun _ => rfl) rfl
  | snap s =>
      obtain ⟨hs, _, rfl⟩ := Store.destroySnap_ok h
      exact keeps_of_props (names_put hs.1 _) (props_put rfl) rfl

/-- A zvol without a reservation is guaranteed. -/
theorem keeps_put {v : Zvol} (hv : v.props.refreservation = 0) : Keeps z (z.put n v) := by
  refine (only_put z n v).keeps fun hpos => ?_
  rw [Store.zvol_put_self, hv] at hpos
  exact absurd hpos (Nat.lt_irrefl 0)

theorem keeps_clone {s : SnapName} (h : z.clone s n = .ok z') : Keeps z z' := by
  obtain ⟨_, _, _, _, _, _, rfl⟩ := Store.clone_ok h
  exact keeps_put rfl

theorem keeps_receive {s : SnapName} (h : z.receive s n = .ok z') : Keeps z z' := by
  obtain ⟨_, _, _, _, _, rfl⟩ := Store.receive_ok h
  exact keeps_put rfl

/-! ### Programs -/

/-- The program leaves the store as it is. -/
def SameZfs (w w' : World) : Prop := w'.zfs = w.zfs

/-- The program keeps the guarantee. -/
def KeepsZfs (w w' : World) : Prop := Keeps w.zfs w'.zfs

instance : Std.Refl SameZfs := ⟨fun _ => rfl⟩

instance : IsTrans World SameZfs := ⟨fun _ _ _ h h' => Eq.trans h' h⟩

instance : Std.Refl KeepsZfs := ⟨fun w => Keeps.refl w.zfs⟩

instance : IsTrans World KeepsZfs := ⟨fun _ _ _ => Keeps.trans⟩

variable {E : Env} {U : PyStr} {α β : Type} {w w' : World} {sr key k v : String}

theorem keeps_of_same {m : VolM α} (hm : Preserves SameZfs m) : Returns KeepsZfs m := by
  refine (Returns.of_preserves hm).mono fun w w' h => ?_
  rw [KeepsZfs, h]
  exact Keeps.refl w.zfs

theorem same_command {f : World → Except VolError (α × World)}
    (hf : ∀ w a w', f w = .ok (a, w') → w'.zfs = w.zfs) : Preserves SameZfs (command E f) := by
  refine .of_wp fun w => wp_command (fun _ w' hs => hs.zfs) (fun _ _ _ hs => hs.zfs) fun a w' h => ?_
  exact hf w.tick a w' h

theorem same_zfsGet (f : Store → Except ZfsError α) : Preserves SameZfs (zfsGet E f) :=
  .of_wp fun _ => wp_zfsGet (fun _ _ hs => hs.zfs) (fun _ _ _ hs => hs.zfs) fun _ _ _ hs => hs.zfs

theorem same_dbCmd (f : Metabase → Except VolError (α × Metabase)) :
    Preserves SameZfs (dbCmd E f) :=
  .of_wp fun _ => wp_dbCmd (fun _ _ hs => hs.zfs) (fun _ _ _ hs => hs.zfs) fun _ _ _ _ _ hf => hf.zfs

theorem same_uuid4 : Preserves SameZfs (uuid4 E) := fun _ => rfl

theorem same_recoverVdiVsize (vdi : Vdi) (ds : List String) :
    Preserves SameZfs (recoverVdiVsize E vdi ds) := by
  rw [recoverVdiVsize]
  split
  · exact .pure _
  · exact .bind (same_zfsGet _) fun _ => .bind (same_dbCmd _) fun _ => .pure _

/-- **Transactions**: opening and committing one leaves the store as it is. -/
theorem keeps_dbContext {body : VolM α} (hbody : Returns KeepsZfs body) (sr : String) :
    Returns KeepsZfs (dbContext E sr body) := by
  have hbegin : Preserves SameZfs (beginTxn E sr) :=
    same_command fun w a w' h => by cases h; rfl
  have hcommit : Preserves SameZfs (commitTxn E sr) :=
    same_command fun w a w' h => by cases h; rfl
  exact .bind (keeps_of_same hbegin) fun _ => .bind hbody fun _ =>
    .bind (keeps_of_same hcommit) fun _ => .pure _

theorem keeps_zfsCmd {f : Store → Except ZfsError Store} (hf : ∀ z z', f z = .ok z' → Keeps z z') :
    Returns KeepsZfs (zfsCmd E f) :=
  .of_wp fun w => wp_zfsCmd (fun _ _ _ => trivial) (fun _ _ _ _ => trivial)
    fun w' hz _ => hf w.zfs w'.zfs hz

/-! ### Restoring the product -/

/-- Setting the reservation to the product that was read. -/
theorem wp_setProduct {n : ZvolName} {volsize copies : ℕ}
    (hsize : (w.zfs.zvol n).props.volsize = volsize) (hcopies : w.zfs.effectiveCopies n = copies) :
    wp (volSetRefreservation E n (volsize * copies))
      (fun _ w' => Only w.zfs w'.zfs n ∧ Guaranteed w'.zfs n) (fun _ _ => True) w := by
  refine wp_zfsCmd (fun _ _ _ => trivial) (fun _ _ _ _ => trivial) fun w' hz _ => ?_
  have honly := only_setProps hz
  refine ⟨honly, fun _ => ?_⟩
  rw [Store.effectiveCopies, honly.copies, props_setProps hz]
  simp only [Store.effectiveCopies] at hcopies
  rw [hsize, hcopies]

theorem getProp_ok {f : Props → α} {a : α} (h : z.getProp n f = .ok a) :
    n ∈ z.names ∧ f (z.zvol n).props = a := by
  rw [Store.getProp] at h
  split at h
  · next hn =>
    cases h
    exact ⟨hn, rfl⟩
  · cases h

theorem wp_setThick (n : ZvolName) (w : World) : wp (volSetThickRefreservation E n)
    (fun _ w' => Only w.zfs w'.zfs n ∧ Guaranteed w'.zfs n) (fun _ _ => True) w := by
  rw [volSetThickRefreservation, wp_bind]
  refine wp_zfsGet (fun _ _ _ => trivial) (fun _ _ _ _ => trivial) fun volsize w₁ hv hs₁ => ?_
  rw [wp_bind]
  refine wp_zfsGet (fun _ _ _ => trivial) (fun _ _ _ _ => trivial) fun copies w₂ hc hs₂ => ?_
  have hzfs : w₂.zfs = w.zfs := hs₂.zfs.trans hs₁.zfs
  rw [← hzfs]
  refine wp_setProduct ?_ ?_
  · rw [hzfs]
    exact (getProp_ok hv).2
  · rw [hzfs, ← hs₁.zfs]
    exact (getProp_ok hc).2

/-- **After a synchronisation the zvol is guaranteed.** -/
theorem wp_syncThick (n : ZvolName) (w : World) : wp (volSyncThickRefreservation E n)
    (fun _ w' => Only w.zfs w'.zfs n ∧ Guaranteed w'.zfs n) (fun _ _ => True) w := by
  rw [volSyncThickRefreservation, wp_bind]
  refine wp_zfsGet (fun _ _ _ => trivial) (fun _ _ _ _ => trivial) fun reserved w₁ hr hs₁ => ?_
  have hreserved := (getProp_ok hr).2
  rw [wp_ite]
  refine ⟨fun _ => ?_, fun hzero => ?_⟩
  · rw [wp_bind]
    refine wp_zfsGet (fun _ _ _ => trivial) (fun _ _ _ _ => trivial) fun volsize w₂ hv hs₂ => ?_
    rw [wp_bind]
    refine wp_zfsGet (fun _ _ _ => trivial) (fun _ _ _ _ => trivial) fun copies w₃ hc hs₃ => ?_
    have hzfs₂ : w₂.zfs = w.zfs := hs₂.zfs.trans hs₁.zfs
    have hzfs₃ : w₃.zfs = w.zfs := hs₃.zfs.trans hzfs₂
    have hvolsize := (getProp_ok hv).2
    have hcopies := (getProp_ok hc).2
    rw [hs₁.zfs] at hvolsize
    rw [hzfs₂] at hcopies
    rw [wp_ite, ← hzfs₃]
    rw [← hzfs₃] at hvolsize hcopies hreserved
    refine ⟨fun _ => wp_setProduct hvolsize hcopies, fun hsame => ?_⟩
    refine ⟨⟨fun _ _ h => h, fun _ _ => rfl, rfl⟩, fun _ => ?_⟩
    rw [hreserved, hvolsize, hcopies]
    exact (not_not.1 hsame).symm
  · rw [wp_pure, hs₁.zfs]
    refine ⟨⟨fun _ _ h => h, fun _ _ => rfl, rfl⟩, fun hpos => ?_⟩
    rw [hreserved] at hpos
    exact absurd hpos hzero

theorem keeps_setThick (n : ZvolName) : Returns KeepsZfs (volSetThickRefreservation E n) :=
  .of_wp fun w => wp_mono (wp_setThick n w) (fun _ _ h => h.1.keeps h.2) fun _ _ _ => trivial

/-- **A change of one zvol, and a synchronisation after it.** -/
theorem keeps_then_sync {m : VolM Unit} {n : ZvolName}
    (hm : Returns (fun w w' => Only w.zfs w'.zfs n) m) :
    Returns KeepsZfs (m >>= fun _ => volSyncThickRefreservation E n) := by
  refine .of_wp fun w => ?_
  rw [wp_bind]
  refine wp_mono (hm.wp w) (fun _ w₁ h₁ => ?_) fun _ _ _ => trivial
  exact wp_mono (wp_syncThick n w₁) (fun _ _ h => (h₁.trans h.1).keeps h.2) fun _ _ _ => trivial

/-! ### The steps of the calls -/

theorem same_checkProvisioning (m : SrMeta) (size : ℕ) :
    Preserves SameZfs (checkProvisioning E m size) := by
  rw [checkProvisioning]
  refine .ite (fun _ => .pure _) fun _ => ?_
  have hcopies : Preserves SameZfs (effectiveCopies E m.datasetPath) :=
    .tryCatch (same_zfsGet _) fun _ => .pure _
  exact .bind hcopies fun _ => .bind (same_zfsGet _) fun _ => .ite (fun _ => .throw _) fun _ => .pure _

/-- A new zvol is guaranteed when it gets the size that was asked for. -/
theorem keeps_createZvol {n : ZvolName} {size b : ℕ} {thin : Bool}
    (hsize : thin = false → E.volsizeFor b size = size) :
    Returns KeepsZfs (createZvol E n size thin b) := by
  refine .of_wp fun w => ?_
  simp only [createZvol, wp_bind]
  refine wp_zfsCmd (fun _ _ _ => trivial) (fun _ _ _ _ => trivial) fun w₁ hz₁ _ => ?_
  obtain ⟨_, hput⟩ := Store.create_ok hz₁
  rw [wp_ite]
  refine ⟨fun hthin => ?_, fun hthick => ?_⟩
  · rw [wp_pure, KeepsZfs, hput]
    exact keeps_put (if_pos hthin)
  · rw [wp_bind]
    refine wp_zfsGet (fun _ _ _ => trivial) (fun _ _ _ _ => trivial) fun copies w₂ hc hs₂ => ?_
    have hcopies := (getProp_ok hc).2
    rw [← hs₂.zfs] at hcopies
    refine wp_mono (wp_setProduct ?_ hcopies) (fun _ w₃ h => ?_) fun _ _ _ => trivial
    · rw [hs₂.zfs, hput, Store.zvol_put_self]
      exact hsize (by simpa using hthick)
    · rw [hs₂.zfs, hput] at h
      exact ((only_put _ _ _).trans h.1).keeps h.2

/-- The end of `resize`: the size of the zvol changes, and its reservation with it. -/
theorem keeps_resizeSecond (n : ZvolName) (volume_id new_size : ℕ) :
    Returns KeepsZfs (do
      resizeZvol E n new_size
      let vsize ← getZvolSizeBytes E n
      recordSize E n volume_id vsize) := by
  refine .of_wp fun w => ?_
  rw [wp_bind]
  refine wp_zfsCmd (fun _ _ _ => trivial) (fun _ _ _ _ => trivial) fun w₁ hz₁ _ => ?_
  rw [wp_bind]
  refine wp_zfsGet (fun _ _ _ => trivial) (fun _ _ _ _ => trivial) fun vsize w₂ _ hs₂ => ?_
  rw [recordSize, wp_bind]
  refine wp_dbCmd (fun _ _ _ => trivial) (fun _ _ _ _ => trivial) fun _ _ w₃ _ _ hf₃ => ?_
  have hzfs : w₃.zfs = w₁.zfs := hf₃.zfs.trans hs₂.zfs
  refine wp_mono (wp_syncThick n w₃) (fun _ w₄ h => ?_) fun _ _ _ => trivial
  rw [hzfs] at h
  exact ((only_setProps (Store.setVolsize_ok hz₁).2).trans h.1).keeps h.2

/-- A property that does not count for the reservation. -/
theorem keeps_setProps_same (f : Props → Props) (hf : ∀ p, f p = p) :
    Returns KeepsZfs (zfsCmd E fun z => z.setProps n f) := by
  refine keeps_zfsCmd fun z z' hz => ?_
  obtain ⟨hn, rfl⟩ := Store.setProps_ok hz
  exact keeps_of_props (names_put hn _) (props_put (hf _)) rfl

/-- A property is changed, and the reservation follows it where it counts. -/
theorem keeps_syncCopies (f : Props → Props) (hf : k ≠ "copies" → ∀ p, f p = p) :
    Returns KeepsZfs (do
      zfsCmd E fun z => z.setProps n f
      syncCopies E n k) := by
  by_cases hk : k = "copies"
  · simp only [syncCopies, if_pos hk]
    refine keeps_then_sync (.of_wp fun w => ?_)
    exact wp_zfsCmd (fun _ _ _ => trivial) (fun _ _ _ _ => trivial) fun _ hz _ => only_setProps hz
  · simp only [syncCopies, if_neg hk]
    exact .bind (keeps_setProps_same f (hf hk)) fun _ => .pure _

theorem keeps_refuseImmutable : Returns KeepsZfs (refuseImmutable E n k) := by
  refine .of_wp fun w => ?_
  rw [refuseImmutable, wp_bind]
  exact wp_mono (wp_true _ _) (fun _ _ _ => trivial) fun _ _ _ => trivial

theorem keeps_setOnZvol : Returns KeepsZfs (setOnZvol E U n k v) := by
  rw [setOnZvol]
  refine .ite (fun _ => ?_) fun _ => .ite (fun _ => keeps_refuseImmutable) fun _ => .pure _
  have hraise : ∀ r : Except VolError String, Preserves SameZfs (raiseOr r) := by
    intro r
    cases r with
    | ok v => exact .pure v
    | error e => exact .throw e
  refine .bind (keeps_of_same (hraise _)) fun value => ?_
  exact keeps_syncCopies _ fun hk p => if_neg hk

theorem keeps_unsetOnZvol : Returns KeepsZfs (unsetOnZvol E n k) := by
  rw [unsetOnZvol]
  refine .ite (fun _ => ?_) fun _ => .ite (fun _ => keeps_refuseImmutable) fun _ => .pure _
  exact keeps_syncCopies _ fun hk p => if_neg hk

theorem keeps_cloneSnapshot (s : Option SnapName) (n : ZvolName) :
    Returns KeepsZfs (cloneSnapshot E s n) := by
  cases s with
  | none => exact .throw _
  | some s => exact .bind (keeps_zfsCmd fun _ _ => keeps_clone) fun _ => .pure _

theorem keeps_cloneSource (ds : List String) (vdi : Vdi) :
    Returns KeepsZfs (cloneSource E ds vdi) := by
  rw [cloneSource]
  refine .ite (fun _ => .bind (keeps_of_same (same_zfsGet _)) fun _ => .pure _) fun _ => ?_
  exact .bind (keeps_of_same same_uuid4) fun _ => .bind (keeps_of_same (same_dbCmd _)) fun _ =>
    .bind (keeps_zfsCmd fun _ _ => keeps_snapshot) fun _ => .pure _

theorem keeps_copyThickness (n n' : ZvolName) : Returns KeepsZfs (copyThickness E n n') := by
  rw [copyThickness]
  exact .bind (keeps_of_same (same_zfsGet _)) fun _ =>
    .ite (fun _ => keeps_setThick n') fun _ => .pure _

theorem keeps_transfer (same_pool : Bool) (s : SnapName) (n : ZvolName) :
    Returns KeepsZfs (transfer E same_pool s n) := by
  rw [transfer]
  refine .ite (fun _ => .bind (keeps_cloneSnapshot _ n) fun _ => .pure _) fun _ => ?_
  intro w a w' h
  rw [volSendReceive] at h
  split at h
  · split at h <;> cases h
  · exact keeps_zfsCmd (fun _ _ => keeps_receive) w a w' h

theorem keeps_destroyZvol (object : ZfsObject) : Returns KeepsZfs (destroyZvol E object) := by
  refine .of_wp fun w => wp_command (fun _ _ _ => trivial) (fun _ _ _ _ => trivial) fun _ w' h => ?_
  split at h
  · next z hz =>
    cases h
    exact keeps_destroy hz
  · cases h

theorem keeps_replicate (same_pool src_thick : Bool) (s : SnapName) (n : ZvolName) :
    Returns KeepsZfs (replicate E same_pool src_thick s n) := by
  refine .tryCatch (.bind (keeps_transfer same_pool s n) fun _ => ?_) fun e => ?_
  · exact .ite (fun _ => keeps_setThick n) fun _ => .pure _
  · exact wp_bind_false fun _ => wp_bind_false fun _ _ => trivial

theorem keeps_finishReplication (same_pool : Bool) (s r : SnapName) :
    Returns KeepsZfs (finishReplication E same_pool s r) := by
  refine .ite (fun _ => .pure _) fun _ => .tryCatch ?_ fun e => ?_
  · exact .bind (keeps_destroyZvol _) fun _ => keeps_destroyZvol _
  · exact wp_bind_false fun _ => wp_bind_false fun _ => wp_bind_false fun _ _ => trivial

/-! ### The calls -/

/-- The calls that change a size, a reservation or the number of copies. -/
inductive ThickCall
  | create (sr name description : String) (size : ℕ) (sharable : Bool)
  | resize (sr key : String) (new_size : ℕ)
  | set (sr key k v : String)
  | unset (sr key k : String)
  | clone (sr key : String)
  | copy (sr key dest_sr : String)
  deriving DecidableEq

section

variable (E : Env) (U : PyStr)

/-- A call, without its result. -/
def ThickCall.run : ThickCall → VolM Unit
  | .create sr name description size sharable => do
      let _ ← Volume.create E sr name description size sharable
  | .resize sr key new_size => Volume.resize E sr key new_size
  | .set sr key k v => Volume.set E U sr key k v
  | .unset sr key k => Volume.unset E sr key k
  | .clone sr key => do let _ ← Volume.clone E sr key
  | .copy sr key dest_sr => do let _ ← Volume.copy E sr key dest_sr

/-- Calls one after the other, up to one that raises. -/
def runCalls : List ThickCall → VolM Unit
  | [] => return ()
  | c :: cs => do
      c.run E U
      runCalls cs

/-- A thick volume is created in whole blocks of its repository. -/
def ThickCall.WholeBlocks : ThickCall → Prop
  | .create sr _ _ size _ =>
      ∀ m, E.srMeta sr = some m → isThin m = false → defaultVolblocksize m ∣ size
  | _ => True

/-- ZFS rounds a size up to whole blocks. -/
def RoundsUp : Prop := ∀ b size, 0 < b → E.volsizeFor b size = (size + (b - 1)) / b * b

end

theorem defaultVolblocksize_pos (m : SrMeta) : 0 < defaultVolblocksize m := by
  rw [defaultVolblocksize]
  cases h : VALID_VOLBLOCKSIZE.lookup ((m.volblocksize.getD "8K").map Char.toUpper) with
  | none => decide
  | some b =>
      obtain ⟨l, r, heq, _⟩ := List.lookup_eq_some_iff.1 h
      have hmem : b ∈ VALID_VOLBLOCKSIZE.map Prod.snd := by
        rw [heq]
        simp
      have hpos : ∀ b ∈ VALID_VOLBLOCKSIZE.map Prod.snd, 0 < b := by decide
      exact hpos b hmem

theorem RoundsUp.whole (hround : RoundsUp E) {b size : ℕ} (hb : 0 < b) (h : b ∣ size) :
    E.volsizeFor b size = size := by
  obtain ⟨n, rfl⟩ := h
  rw [hround b _ hb, Nat.mul_add_div hb, Nat.div_eq_of_lt (by omega), Nat.add_zero, Nat.mul_comm]

/-- The metadata of the repository comes first in every call. -/
theorem keeps_withMeta {f : SrMeta → VolM α}
    (hf : ∀ m, E.srMeta sr = some m → Returns KeepsZfs (f m)) :
    Returns KeepsZfs (getSrMetadata E sr >>= f) := by
  refine .of_wp fun w => ?_
  rw [wp_bind]
  exact wp_getSrMetadata (fun _ => trivial) fun m hm => (hf m hm).wp w

theorem keeps_create (hround : RoundsUp E) {name description : String} {size : ℕ} {sharable : Bool}
    (hwhole : (ThickCall.create sr name description size sharable).WholeBlocks E) :
    Returns KeepsZfs (create E sr name description size sharable) := by
  refine keeps_withMeta fun m hm => ?_
  have hsize : isThin m = false → E.volsizeFor (defaultVolblocksize m) size = size :=
    fun hthick => hround.whole (defaultVolblocksize_pos m) (hwhole m hm hthick)
  refine .bind (keeps_of_same (same_checkProvisioning m size)) fun _ => ?_
  refine .bind (keeps_of_same same_uuid4) fun vdi_uuid => ?_
  refine .bind (keeps_dbContext ?_ sr) fun _ => .bind (keeps_of_same (same_zfsGet _)) fun _ => .pure _
  refine .bind (keeps_of_same (same_dbCmd _)) fun _ => .bind (keeps_of_same (same_dbCmd _)) fun _ => ?_
  exact .bind (keeps_createZvol hsize) fun _ => .bind (keeps_of_same (same_zfsGet _)) fun _ =>
    .bind (keeps_of_same (same_dbCmd _)) fun _ => .pure _

theorem keeps_resize (sr key : String) (new_size : ℕ) :
    Returns KeepsZfs (resize E sr key new_size) := by
  refine keeps_withMeta fun m _ => .bind (keeps_dbContext ?_ sr) fun vdi => ?_
  · refine .bind (keeps_of_same (same_dbCmd _)) fun vdi => ?_
    refine .bind (keeps_of_same (same_recoverVdiVsize vdi _)) fun vdi => ?_
    exact .ite (fun _ => .throw _) fun _ => .bind (keeps_of_same (same_dbCmd _)) fun _ => .pure _
  · exact keeps_dbContext (keeps_resizeSecond _ _ _) sr

theorem keeps_set (sr key k v : String) : Returns KeepsZfs (set E U sr key k v) :=
  keeps_withMeta fun _ _ => .bind keeps_setOnZvol fun _ =>
    keeps_dbContext (keeps_of_same (same_dbCmd _)) sr

theorem keeps_unset (sr key k : String) : Returns KeepsZfs (unset E sr key k) :=
  keeps_withMeta fun _ _ => .bind keeps_unsetOnZvol fun _ =>
    keeps_dbContext (keeps_of_same (same_dbCmd _)) sr

theorem keeps_call_clone (sr key : String) : Returns KeepsZfs (clone E sr key) := by
  refine keeps_withMeta fun m _ => .bind (keeps_of_same same_uuid4) fun clone_uuid => ?_
  refine .bind (keeps_dbContext ?_ sr) fun _ => .bind (keeps_of_same (same_zfsGet _)) fun _ => .pure _
  refine .bind (keeps_of_same (same_dbCmd _)) fun vdi => ?_
  refine .bind (keeps_of_same (same_recoverVdiVsize vdi _)) fun vdi => ?_
  refine .bind (keeps_cloneSource _ vdi) fun p => .bind (keeps_of_same (same_dbCmd _)) fun _ => ?_
  exact .bind (keeps_cloneSnapshot _ _) fun _ => .bind (keeps_copyThickness _ _) fun _ =>
    .bind (keeps_of_same (same_dbCmd _)) fun _ => .pure _

theorem keeps_call_copy (sr key dest_sr : String) : Returns KeepsZfs (copy E sr key dest_sr) := by
  refine keeps_withMeta fun m _ => ?_
  have hdest : Preserves SameZfs (getDestMetadata E dest_sr) := by
    rw [getDestMetadata]
    split
    · exact .pure _
    · exact .throw _
  refine .bind (keeps_of_same hdest) fun dest_meta => .bind (keeps_of_same same_uuid4) fun _ => ?_
  refine .bind (keeps_of_same same_uuid4) fun _ => .bind (keeps_dbContext ?_ sr) fun vdi => ?_
  · refine .bind (keeps_of_same (same_dbCmd _)) fun vdi => ?_
    exact keeps_of_same (same_recoverVdiVsize vdi _)
  · refine .bind (keeps_zfsCmd fun _ _ => keeps_snapshot) fun _ => ?_
    refine .bind (keeps_of_same (same_zfsGet _)) fun _ => .bind (keeps_replicate _ _ _ _) fun _ => ?_
    refine .bind (keeps_finishReplication _ _ _) fun _ => .bind (keeps_dbContext ?_ dest_sr) fun _ => ?_
    · exact .bind (keeps_of_same (same_dbCmd _)) fun _ => .bind (keeps_of_same (same_dbCmd _)) fun _ =>
        keeps_of_same (same_dbCmd _)
    · exact .bind (keeps_of_same (same_zfsGet _)) fun _ => .pure _

/-- **Every call keeps the guarantee, if it asks for whole blocks.** -/
theorem ThickCall.keeps (hround : RoundsUp E) (c : ThickCall) (hc : c.WholeBlocks E) :
    Returns KeepsZfs (c.run E U) := by
  cases c with
  | create sr name description size sharable =>
      exact .bind (keeps_create hround hc) fun _ => .pure _
  | resize sr key new_size => exact keeps_resize sr key new_size
  | set sr key k v => exact keeps_set sr key k v
  | unset sr key k => exact keeps_unset sr key k
  | clone sr key => exact .bind (keeps_call_clone sr key) fun _ => .pure _
  | copy sr key dest_sr => exact .bind (keeps_call_copy sr key dest_sr) fun _ => .pure _

/-- **In every run whose thick volumes are created in whole blocks, every zvol is guaranteed** that was
guaranteed, or not there, when the run began. -/
theorem guaranteed_of_whole_blocks (hround : RoundsUp E) {calls : List ThickCall}
    (hwhole : ∀ c ∈ calls, c.WholeBlocks E) (hrun : runCalls E U calls w = .ok () w')
    (hstart : n ∈ w.zfs.names → Guaranteed w.zfs n) (hn : n ∈ w'.zfs.names) :
    Guaranteed w'.zfs n := by
  have hkeeps : ∀ calls : List ThickCall, (∀ c ∈ calls, c.WholeBlocks E) →
      Returns KeepsZfs (runCalls E U calls) := by
    intro calls
    induction calls with
    | nil => exact fun _ => .pure _
    | cons c cs ih =>
        intro h
        refine .bind (c.keeps hround (h c (List.mem_cons_self ..))) fun _ => ?_
        exact ih fun a ha => h a (List.mem_cons_of_mem _ ha)
  exact hkeeps calls hwhole w () w' hrun n hstart hn

/-! ### A host -/

/-- A host with one repository of thick volumes in blocks of 8 KiB. -/
def thickEnv : Env where
  srMeta sr := if sr = "sr" then some ⟨"tank", ["vms"], none, some "thick"⟩ else none
  uuid n := String.ofList (List.replicate n 'u')
  uuid_injective := replicate_injective
  fault _ := false
  received _ := false
  volsizeFor b size := (size + (b - 1)) / b * b
  available _ := 1000000
  used := noSpace
  used_local := noSpace_local

/-- A host without zvols and without VDIs, whose datasets keep a number of copies. -/
def bareWorld (copies : ℕ) : World where
  zfs := ⟨[], fun _ => ⟨⟨0, 0, 0, false, false, [], none⟩, [], none⟩, fun _ => copies⟩
  db := fun _ => Metabase.empty
  work := Metabase.empty
  drawn := 0
  clock := 0
  destroyed := 0
  commits := 0

/-- The zvol of the first VDI. -/
def firstZvol : ZvolName := ⟨["tank", "vms"], ""⟩

/-- The calls of the example; the first VDI has the empty key. -/
def thickRun : List ThickCall :=
  [.create "sr" "disk" "" 16384 false, .set "sr" "" "_sm_config_copies" "3", .resize "sr" "" 24576,
    .clone "sr" "", .unset "sr" "" "copies"]

/-- A thick volume of two blocks goes through changes of its copies and of its size. -/
theorem guaranteed_thickRun :
    0 < ((Wp.after (runCalls thickEnv asciiStr thickRun) (bareWorld 2)).zfs.zvol
        firstZvol).props.refreservation ∧
      Guaranteed (Wp.after (runCalls thickEnv asciiStr thickRun) (bareWorld 2)).zfs firstZvol := by
  have hrun : runCalls thickEnv asciiStr thickRun (bareWorld 2) =
      .ok () (Wp.after (runCalls thickEnv asciiStr thickRun) (bareWorld 2)) :=
    ok_after (by decide +kernel)
  have hround : RoundsUp thickEnv := fun _ _ _ => rfl
  have hwhole : ∀ c ∈ thickRun, c.WholeBlocks thickEnv := by
    intro c hc
    simp only [thickRun, List.mem_cons, List.not_mem_nil, or_false] at hc
    rcases hc with rfl | rfl | rfl | rfl | rfl
    · intro m hm _
      cases hm
      decide +kernel
    all_goals trivial
  have hmem : firstZvol ∈
      (Wp.after (runCalls thickEnv asciiStr thickRun) (bareWorld 2)).zfs.names := by decide +kernel
  exact ⟨by decide +kernel,
    guaranteed_of_whole_blocks hround hwhole hrun (by simp [bareWorld]) hmem⟩

/-- **A thick volume of 10000 bytes gets two blocks of 8 KiB, and a reservation for 10000 bytes.** -/
theorem not_guaranteed_odd :
    ¬ ∀ (E : Env) (U : PyStr) (calls : List ThickCall) (w w' : World) (n : ZvolName), RoundsUp E →
      runCalls E U calls w = .ok () w' → (n ∈ w.zfs.names → Guaranteed w.zfs n) →
        n ∈ w'.zfs.names → Guaranteed w'.zfs n := by
  intro h
  have hrun : runCalls thickEnv asciiStr [.create "sr" "disk" "" 10000 false] (bareWorld 1) =
      .ok () (Wp.after (runCalls thickEnv asciiStr [.create "sr" "disk" "" 10000 false])
        (bareWorld 1)) :=
    ok_after (by decide +kernel)
  have hg := h thickEnv asciiStr _ (bareWorld 1) _ firstZvol (fun _ _ _ => rfl) hrun
    (by simp [bareWorld]) (by decide +kernel)
  revert hg
  rw [Guaranteed]
  decide +kernel

end Volume

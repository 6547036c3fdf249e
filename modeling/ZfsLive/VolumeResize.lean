/-
**Resizes that run at the same time.**

`resize` checks the new size in one transaction and changes the zvol in another one, and takes no lock
over both.  Here any number of resizes of one VDI take their steps in any order: the first
transaction, `zfs set volsize`, the read-back of the size, and the commit of the second transaction.
`stat` and `ls`, which recover a size that is `NULL`, can come in between.  A command can fail at any
step, and then its resize is over.

Main definitions:

* `Volume.Sys`, `Volume.Label`, `Volume.Sys.step` — the machine;
* `Volume.Clear` — a step that no other resize has come in the way of.

Main results:

* `Volume.Fits.step` — what every step keeps: a resize that has passed its check will not shrink the
  zvol;
* `Volume.volsize_le_of_clear` — **the zvol never shrinks when the steps are clear**;
* `Volume.steps_resize` — one resize alone is a run of the machine;
* `Volume.not_volsize_le_overlap` — two resizes that overlap can shrink it.
-/

import ZfsLive.VolumeReach

set_option relaxedAutoImplicit false
set_option autoImplicit false

namespace Volume

open Zfs Wp

/-! ### The machine -/

/-- How far a resize has come. -/
inductive Phase
  /-- It has not begun. -/
  | idle (new_size : ℕ)
  /-- Its first transaction is committed. -/
  | checked (new_size : ℕ) (vdi : Vdi)
  /-- It has changed the zvol. -/
  | sized (vdi : Vdi)
  /-- It has read the size back. -/
  | measured (vdi : Vdi) (vsize : ℕ)
  | over
  deriving DecidableEq, Repr

/-- The host, and the resizes of one VDI. -/
structure Sys where
  world : World
  calls : ℕ → Phase

inductive Label
  | first (i : ℕ)
  | set (i : ℕ)
  | read (i : ℕ)
  | commit (i : ℕ)
  | stat
  | ls
  deriving DecidableEq, Repr

section

variable (E : Env) (sr : String) (m : SrMeta) (key : String) {α : Type}

/-- The resize `i` runs a step, and is over when it raises. -/
def Sys.advance (s : Sys) (i : ℕ) (step : VolM α) (next : α → Phase) : Sys :=
  match step s.world with
  | .ok a w => ⟨w, Function.update s.calls i (next a)⟩
  | .error _ w => ⟨w, Function.update s.calls i .over⟩

/-- One step of the machine; `none` where it cannot be taken. -/
def Sys.step (s : Sys) : Label → Option Sys
  | .first i =>
      match s.calls i with
      | .idle n => some (s.advance i (resizeFirst E sr m.datasetPath key n) (.checked n))
      | _ => none
  | .set i =>
      match s.calls i with
      | .checked n vdi =>
          some (s.advance i (resizeZvol E ⟨m.datasetPath, vdi.uuid⟩ n) fun _ => .sized vdi)
      | _ => none
  | .read i =>
      match s.calls i with
      | .sized vdi =>
          some (s.advance i (getZvolSizeBytes E ⟨m.datasetPath, vdi.uuid⟩) (.measured vdi))
      | _ => none
  | .commit i =>
      match s.calls i with
      | .measured vdi vsize =>
          some (s.advance i
            (dbContext E sr (recordSize E ⟨m.datasetPath, vdi.uuid⟩ vdi.volume_id vsize))
            fun _ => .over)
      | _ => none
  | .stat => some { s with world := after (Volume.stat E sr key) s.world }
  | .ls => some { s with world := after (Volume.ls E sr) s.world }

/-- A run of the machine. -/
def Sys.steps (s : Sys) : List Label → Option Sys
  | [] => some s
  | l :: ls => (s.step E sr m key l).bind fun s' => Sys.steps s' ls

/-- The size of the zvol of the VDI. -/
def Sys.volsize (s : Sys) : ℕ := (s.world.zfs.zvol ⟨m.datasetPath, key⟩).props.volsize

/-- The size that the zvol gets when `n` is asked for. -/
def Sys.target (s : Sys) (n : ℕ) : ℕ :=
  E.volsizeFor (s.world.zfs.zvol ⟨m.datasetPath, key⟩).props.volblocksize n

/-- The metabase has no size of the VDI, or one that the zvol has not outgrown. -/
def Recorded (s : Sys) : Prop :=
  ∀ v ∈ (s.world.db sr).vdis, v.uuid = key → ∀ n, v.vsize = some n → s.volsize m key ≤ n

/-- No other resize has come in the way: the check is made against a size that the zvol has not
outgrown, and the zvol does not outgrow the size of a resize that has passed its check. -/
def Clear (s : Sys) : Label → Prop
  | .first _ => Recorded sr m key s
  | .set i => ∀ n vdi, s.calls i = .checked n vdi → ∀ j n' vdi', j ≠ i →
      s.calls j = .checked n' vdi' → s.target E m key n ≤ s.target E m key n'
  | _ => True

/-- All steps of a run are clear. -/
def ClearRun (s : Sys) : List Label → Prop
  | [] => True
  | l :: ls => Clear E sr m key s l ∧ ∀ s', s.step E sr m key l = some s' → ClearRun s' ls

/-- The resizes have not begun. -/
def AllIdle (s : Sys) : Prop := ∀ i, ∃ n, s.calls i = .idle n

end

/-! ### Programs that keep the sizes -/

/-- The zvols keep their sizes and their block sizes. -/
def SameSizes (w w' : World) : Prop :=
  ∀ n, (w'.zfs.zvol n).props.volsize = (w.zfs.zvol n).props.volsize ∧
    (w'.zfs.zvol n).props.volblocksize = (w.zfs.zvol n).props.volblocksize

/-- The program keeps the sizes, however it ends. -/
def KeepsSizes {α : Type} (p : VolM α) : Prop :=
  ∀ w, wp p (fun _ w' => SameSizes w w') (fun _ w' => SameSizes w w') w

variable {E : Env} {sr : String} {m : SrMeta} {key : String} {α β : Type}

theorem SameSizes.of_zfs {w w' : World} (h : w'.zfs = w.zfs) : SameSizes w w' := fun n => by
  rw [h]
  exact ⟨rfl, rfl⟩

theorem SameSizes.trans {w w' w'' : World} (h : SameSizes w w') (h' : SameSizes w' w'') :
    SameSizes w w'' := fun n => ⟨(h' n).1.trans (h n).1, (h' n).2.trans (h n).2⟩

namespace KeepsSizes

theorem pure (a : α) : KeepsSizes (Pure.pure a) := fun _ => SameSizes.of_zfs rfl

theorem throw (e : VolError) : KeepsSizes (throw e : VolM α) := fun _ => SameSizes.of_zfs rfl

theorem bind {p : VolM α} {f : α → VolM β} (hp : KeepsSizes p) (hf : ∀ a, KeepsSizes (f a)) :
    KeepsSizes (p >>= f) := by
  intro w
  rw [wp_bind]
  exact wp_mono (hp w) (fun a w' h => wp_mono (hf a w') (fun _ _ h' => h.trans h')
    fun _ _ h' => h.trans h') fun _ _ h => h

theorem ite {c : Prop} [Decidable c] {p q : VolM α} (hp : KeepsSizes p) (hq : KeepsSizes q) :
    KeepsSizes (if c then p else q) := by
  split
  · exact hp
  · exact hq

theorem zfsGet (f : Store → Except ZfsError α) : KeepsSizes (zfsGet E f) := fun _ =>
  wp_zfsGet (fun _ _ hs => .of_zfs hs.zfs) (fun _ _ _ hs => .of_zfs hs.zfs)
    fun _ _ _ hs => .of_zfs hs.zfs

theorem dbCmd (f : Metabase → Except VolError (α × Metabase)) : KeepsSizes (dbCmd E f) := fun _ =>
  wp_dbCmd (fun _ _ hs => .of_zfs hs.zfs) (fun _ _ _ hs => .of_zfs hs.zfs)
    fun _ _ _ _ _ hf => .of_zfs hf.zfs

/-- Changing the reservation of a zvol. -/
theorem volSetRefreservation (n : ZvolName) (r : ℕ) : KeepsSizes (volSetRefreservation E n r) := by
  refine fun w => wp_zfsCmd (fun _ _ hs => .of_zfs hs.zfs) (fun _ _ _ hs => .of_zfs hs.zfs)
    fun w' hz _ k => ?_
  rw [(Store.setProps_ok hz).2]
  by_cases hk : k = n
  · subst hk
    rw [Store.zvol_put_self]
    exact ⟨rfl, rfl⟩
  · rw [Store.zvol_put_of_ne _ _ hk]
    exact ⟨rfl, rfl⟩

theorem dbContext {body : VolM α} (hb : KeepsSizes body) : KeepsSizes (dbContext E sr body) := by
  refine fun w => wp_dbContext (fun _ _ hs => .of_zfs hs.zfs) fun w₁ hf _ => ?_
  have h₁ : SameSizes w w₁ := .of_zfs hf.zfs
  exact wp_mono (hb w₁) (fun _ w₂ h₂ => ⟨fun _ _ hs => (h₁.trans h₂).trans (.of_zfs hs.zfs),
    fun _ hc => (h₁.trans h₂).trans (.of_zfs hc.zfs)⟩) fun _ _ h₂ => h₁.trans h₂

theorem recoverVdiVsize (vdi : Vdi) (ds : List String) : KeepsSizes (recoverVdiVsize E vdi ds) := by
  rw [Volume.recoverVdiVsize]
  split
  · exact pure _
  · exact (zfsGet _).bind fun _ => (dbCmd _).bind fun _ => pure _

theorem getSrMetadata (sr : String) : KeepsSizes (getSrMetadata E sr) := by
  rw [Volume.getSrMetadata]
  split
  · exact pure _
  · exact throw _

theorem recoverEach (ds : List String) (vdis : List Vdi) : KeepsSizes (recoverEach E ds vdis) := by
  induction vdis with
  | nil => exact pure _
  | cons v vdis ih => exact (recoverVdiVsize v ds).bind fun _ => ih.bind fun _ => pure _

theorem ls (sr : String) : KeepsSizes (ls E sr) :=
  (getSrMetadata sr).bind fun _ => dbContext ((dbCmd _).bind fun _ => recoverEach _ _)

theorem stat (sr key : String) : KeepsSizes (stat E sr key) := by
  refine (getSrMetadata sr).bind fun m => bind (dbContext ?_) fun _ => (zfsGet _).bind fun _ => pure _
  refine (dbCmd _).bind fun vdi => (recoverVdiVsize vdi _).bind fun vdi => ite ?_ (pure _)
  refine (zfsGet _).bind fun o => ?_
  cases o
  · exact throw _
  · exact pure _

theorem resizeFirst (ds : List String) (n : ℕ) : KeepsSizes (resizeFirst E sr ds key n) :=
  dbContext ((dbCmd _).bind fun vdi => (recoverVdiVsize vdi ds).bind fun _ =>
    ite (throw _) ((dbCmd _).bind fun _ => pure _))

theorem recordSize (n : ZvolName) (id vsize : ℕ) : KeepsSizes (recordSize E n id vsize) :=
  (dbCmd _).bind fun _ => (zfsGet _).bind fun _ => ite
    ((zfsGet _).bind fun _ => (zfsGet _).bind fun _ => ite (volSetRefreservation _ _) (pure _))
    (pure _)

end KeepsSizes

/-! ### The steps -/

/-- The size of a VDI after its recovery is the recorded one, or the one of its zvol. -/
theorem wp_recoverVdiVsize_size (vdi : Vdi) (ds : List String) (w : World) :
    wp (recoverVdiVsize E vdi ds)
      (fun vdi' w' => w.Frame w' ∧ vdi'.uuid = vdi.uuid ∧
        vdi'.vsize = some (vdi.vsize.getD (w.zfs.zvol ⟨ds, vdi.uuid⟩).props.volsize))
      (fun _ _ => True) w := by
  rw [recoverVdiVsize]
  split
  · next n hn => exact ⟨⟨rfl, rfl, rfl, rfl, rfl⟩, rfl, by rw [hn]; rfl⟩
  · next hnone =>
    rw [wp_bind]
    refine wp_zfsGet (fun _ _ _ => trivial) (fun _ _ _ _ => trivial) fun n w₁ hn hs₁ => ?_
    rw [Store.getProp] at hn
    split at hn
    · cases hn
      rw [wp_bind]
      exact wp_dbCmd (fun _ _ _ => trivial) (fun _ _ _ _ => trivial)
        fun _ _ _ _ _ hf₂ => ⟨hs₁.frame.trans hf₂, rfl, by rw [hnone]; rfl⟩
    · cases hn

/-- The first transaction lets no size pass that is below the size of the zvol, if the metabase is not
behind. -/
theorem wp_resizeFirst_checked {s : Sys} (hrec : Recorded sr m key s) (n : ℕ) :
    wp (resizeFirst E sr m.datasetPath key n)
      (fun vdi _ => vdi.uuid = key ∧ s.volsize m key ≤ n) (fun _ _ => True) s.world := by
  refine wp_dbContext (fun _ _ _ => trivial) fun w₁ hf₁ hwork₁ => ?_
  rw [wp_bind]
  refine wp_dbCmd (fun _ _ _ => trivial) (fun _ _ _ _ => trivial) fun v db w₂ hget hwork₂ hf₂ => ?_
  split at hget
  · next v hv =>
    cases hget
    obtain ⟨hmem, huuid⟩ := Metabase.getVdiById_mem hv
    rw [wp_bind]
    refine wp_mono (wp_recoverVdiVsize_size v m.datasetPath w₂) (fun vdi w₃ h => ?_) fun _ _ _ => trivial
    obtain ⟨_, huuid', hsize⟩ := h
    rw [wp_ite]
    refine ⟨fun _ => trivial, fun hle => ?_⟩
    rw [wp_bind]
    refine wp_dbCmd (fun _ _ _ => trivial) (fun _ _ _ _ => trivial)
      fun _ _ w₄ _ _ _ => ⟨fun _ _ _ => trivial, fun _ _ => ⟨huuid'.trans huuid, ?_⟩⟩
    rw [hsize, not_lt, Option.getD_some] at hle
    refine le_trans ?_ hle
    cases hv : v.vsize with
    | some x => exact hrec v (hwork₁ ▸ hmem) huuid x hv
    | none => rw [Option.getD_none, huuid, hf₂.zfs, hf₁.zfs, Sys.volsize]
  · cases hget

/-- What every step keeps: a resize that has passed its check will not shrink the zvol. -/
def Fits (E : Env) (m : SrMeta) (key : String) (s : Sys) : Prop :=
  ∀ i n vdi, s.calls i = .checked n vdi → vdi.uuid = key ∧ s.volsize m key ≤ s.target E m key n

theorem Sys.volsize_eq {s s' : Sys} (h : SameSizes s.world s'.world) :
    s'.volsize m key = s.volsize m key ∧ ∀ n, s'.target E m key n = s.target E m key n := by
  obtain ⟨hv, hb⟩ := h ⟨m.datasetPath, key⟩
  exact ⟨hv, fun n => by rw [Sys.target, hb, Sys.target]⟩

/-- A step that keeps the sizes; what it lets pass must fit. -/
theorem Fits.of_same {s s' : Sys} (h : Fits E m key s) (hsame : SameSizes s.world s'.world)
    (hcalls : ∀ i n vdi, s'.calls i = .checked n vdi → s.calls i = .checked n vdi ∨
      vdi.uuid = key ∧ s.volsize m key ≤ s.target E m key n) : Fits E m key s' := by
  obtain ⟨hv, ht⟩ : s'.volsize m key = s.volsize m key ∧ ∀ n, s'.target E m key n = _ :=
    Sys.volsize_eq hsame
  intro i n vdi hi
  rw [hv, ht]
  exact (hcalls i n vdi hi).elim (h i n vdi) id

/-- A step of a resize that keeps the sizes. -/
theorem Fits.advance {s : Sys} {i : ℕ} {p : VolM α} {next : α → Phase} (h : Fits E m key s)
    (hp : KeepsSizes p)
    (hnext : wp p (fun a _ => ∀ n vdi, next a = .checked n vdi →
      vdi.uuid = key ∧ s.volsize m key ≤ s.target E m key n) (fun _ _ => True) s.world) :
    Fits E m key (s.advance i p next) ∧ (s.advance i p next).volsize m key = s.volsize m key := by
  have hkeep := hp s.world
  rw [Sys.advance]
  rcases hs : p s.world with ⟨a, w⟩ | ⟨e, w⟩
  · have hsame := (wp_of_ok hs).1 hkeep
    refine ⟨h.of_same hsame fun j n vdi hj => ?_, (Sys.volsize_eq (E := E) hsame).1⟩
    by_cases hji : j = i
    · subst hji
      exact .inr ((wp_of_ok hs).1 hnext n vdi (by simpa using hj))
    · exact .inl (by simpa [hji] using hj)
  · have hsame := (wp_of_error hs).1 hkeep
    refine ⟨h.of_same hsame fun j n vdi hj => ?_, (Sys.volsize_eq (E := E) hsame).1⟩
    by_cases hji : j = i
    · subst hji
      simp at hj
    · exact .inl (by simpa [hji] using hj)

/-- A later step of a resize. -/
theorem Fits.advance_later {s : Sys} {i : ℕ} {p : VolM α} {next : α → Phase} (h : Fits E m key s)
    (hp : KeepsSizes p) (hnext : ∀ a n vdi, next a ≠ .checked n vdi) :
    Fits E m key (s.advance i p next) ∧ (s.advance i p next).volsize m key = s.volsize m key := by
  refine h.advance hp ?_
  rcases hs : p s.world with ⟨a, w⟩ | ⟨e, w⟩
  · exact (wp_of_ok hs).2 fun n vdi heq => absurd heq (hnext a n vdi)
  · exact (wp_of_error hs).2 trivial

/-- The step that changes the zvol. -/
theorem Fits.set {s : Sys} {i n : ℕ} {vdi : Vdi} (h : Fits E m key s)
    (hi : s.calls i = .checked n vdi) (hc : Clear E sr m key s (.set i)) :
    Fits E m key (s.advance i (resizeZvol E ⟨m.datasetPath, vdi.uuid⟩ n) fun _ => .sized vdi) ∧
      s.volsize m key ≤
        (s.advance i (resizeZvol E ⟨m.datasetPath, vdi.uuid⟩ n) fun _ => .sized vdi).volsize m key := by
  obtain ⟨rfl, hfit⟩ := h i n vdi hi
  rw [Sys.advance]
  have hwp : wp (resizeZvol E ⟨m.datasetPath, vdi.uuid⟩ n)
      (fun _ w => (w.zfs.zvol ⟨m.datasetPath, vdi.uuid⟩).props.volsize = s.target E m vdi.uuid n ∧
        (w.zfs.zvol ⟨m.datasetPath, vdi.uuid⟩).props.volblocksize =
          (s.world.zfs.zvol ⟨m.datasetPath, vdi.uuid⟩).props.volblocksize)
      (fun _ w => SameSizes s.world w) s.world := by
    refine wp_zfsCmd (fun _ _ hs => .of_zfs hs.zfs) (fun _ _ _ hs => .of_zfs hs.zfs)
      fun w hz _ => ?_
    rw [(Store.setProps_ok (Store.setVolsize_ok hz).2).2, Store.zvol_put_self]
    exact ⟨rfl, rfl⟩
  rcases hs : resizeZvol E ⟨m.datasetPath, vdi.uuid⟩ n s.world with ⟨⟨⟩, w⟩ | ⟨e, w⟩
  · obtain ⟨hv, hb⟩ := (wp_of_ok hs).1 hwp
    refine ⟨fun j n' vdi' hj => ?_, hfit.trans_eq hv.symm⟩
    by_cases hji : j = i
    · subst hji
      simp at hj
    · have hj : s.calls j = .checked n' vdi' := by simpa [hji] using hj
      refine ⟨(h j n' vdi' hj).1, ?_⟩
      rw [Sys.volsize, Sys.target, hv, hb]
      exact hc n vdi hi j n' vdi' hji hj
  · have hsame := (wp_of_error hs).1 hwp
    refine ⟨h.of_same hsame fun j n' vdi' hj => ?_, (Sys.volsize_eq (E := E) hsame).1.ge⟩
    by_cases hji : j = i
    · subst hji
      simp at hj
    · exact .inl (by simpa [hji] using hj)

/-- A query of another call. -/
theorem Fits.query {s : Sys} {p : VolM α} (h : Fits E m key s) (hp : KeepsSizes p) :
    Fits E m key { s with world := after p s.world } ∧
      s.volsize m key ≤ Sys.volsize m key { s with world := after p s.world } := by
  have hsame : SameSizes s.world (after p s.world) := of_wp (hp s.world)
  exact ⟨h.of_same hsame fun _ _ _ hi => .inl hi, (Sys.volsize_eq (E := E) hsame).1.ge⟩

/-- **One step of the machine.** -/
theorem Fits.step (hround : ∀ b n, n ≤ E.volsizeFor b n) {s s' : Sys} {l : Label}
    (h : Fits E m key s) (hc : Clear E sr m key s l) (hs : s.step E sr m key l = some s') :
    Fits E m key s' ∧ s.volsize m key ≤ s'.volsize m key := by
  cases l with
  | first i =>
      rw [Sys.step] at hs
      split at hs
      · next n _ =>
        cases hs
        refine (h.advance (KeepsSizes.resizeFirst _ _) ?_).imp_right Eq.ge
        refine wp_mono (wp_resizeFirst_checked hc n) (fun vdi _ hv n' vdi' heq => ?_)
          fun _ _ _ => trivial
        cases heq
        exact ⟨hv.1, hv.2.trans (hround _ _)⟩
      · cases hs
  | set i =>
      rw [Sys.step] at hs
      split at hs
      · next n vdi hi =>
        cases hs
        exact h.set hi hc
      · cases hs
  | read i =>
      rw [Sys.step] at hs
      split at hs
      · cases hs
        exact (h.advance_later (KeepsSizes.zfsGet _) fun _ _ _ heq => by cases heq).imp_right Eq.ge
      · cases hs
  | commit i =>
      rw [Sys.step] at hs
      split at hs
      · cases hs
        exact (h.advance_later (KeepsSizes.dbContext (KeepsSizes.recordSize _ _ _))
          fun _ _ _ heq => by cases heq).imp_right Eq.ge
      · cases hs
  | stat =>
      cases hs
      exact h.query (KeepsSizes.stat sr key)
  | ls =>
      cases hs
      exact h.query (KeepsSizes.ls sr)

/-- A run of clear steps. -/
theorem Fits.steps (hround : ∀ b n, n ≤ E.volsizeFor b n) (ls : List Label) :
    ∀ {s s' : Sys}, Fits E m key s → ClearRun E sr m key s ls → s.steps E sr m key ls = some s' →
      Fits E m key s' ∧ s.volsize m key ≤ s'.volsize m key := by
  induction ls with
  | nil =>
      intro s s' h _ hs
      cases hs
      exact ⟨h, Nat.le_refl _⟩
  | cons l ls ih =>
      intro s s' h hc hs
      obtain ⟨s₁, h₁, hs⟩ := Option.bind_eq_some_iff.1 hs
      obtain ⟨hf₁, hle₁⟩ := h.step hround hc.1 h₁
      obtain ⟨hf', hle'⟩ := ih hf₁ (hc.2 s₁ h₁) hs
      exact ⟨hf', hle₁.trans hle'⟩

theorem Sys.steps_append (ls₁ ls₂ : List Label) : ∀ s : Sys,
    s.steps E sr m key (ls₁ ++ ls₂) =
      (s.steps E sr m key ls₁).bind fun s' => s'.steps E sr m key ls₂ := by
  induction ls₁ with
  | nil => exact fun s => rfl
  | cons l ls₁ ih => exact fun s => by simp [Sys.steps, ih, Option.bind_assoc]

theorem ClearRun.append (ls₁ ls₂ : List Label) : ∀ {s s₁ : Sys},
    ClearRun E sr m key s (ls₁ ++ ls₂) → s.steps E sr m key ls₁ = some s₁ →
      ClearRun E sr m key s ls₁ ∧ ClearRun E sr m key s₁ ls₂ := by
  induction ls₁ with
  | nil =>
      intro s s₁ h hs
      cases hs
      exact ⟨trivial, h⟩
  | cons l ls₁ ih =>
      intro s s₁ h hs
      obtain ⟨s₂, h₂, hs⟩ := Option.bind_eq_some_iff.1 hs
      refine ⟨⟨h.1, fun s' hs' => ?_⟩, (ih (h.2 s₂ h₂) hs).2⟩
      obtain rfl : s₂ = s' := Option.some.inj (h₂.symm.trans hs')
      exact (ih (h.2 s₂ h₂) hs).1

/-- **The zvol never shrinks in a run of clear steps**: between any two states of the run, the first of
which comes before the second, its size has not gone down. -/
theorem volsize_le_of_clear (hround : ∀ b n, n ≤ E.volsizeFor b n) {s s₁ s₂ : Sys}
    {ls₁ ls₂ : List Label} (hs : AllIdle s) (hclear : ClearRun E sr m key s (ls₁ ++ ls₂))
    (h₁ : s.steps E sr m key ls₁ = some s₁) (h₂ : s₁.steps E sr m key ls₂ = some s₂) :
    s₁.volsize m key ≤ s₂.volsize m key := by
  obtain ⟨hc₁, hc₂⟩ := hclear.append ls₁ ls₂ h₁
  have hfit : Fits E m key s := fun i n vdi hi => by
    obtain ⟨n', hn'⟩ := hs i
    rw [hn'] at hi
    cases hi
  exact (((hfit.steps hround ls₁ hc₁ h₁).1).steps hround ls₂ hc₂ h₂).2

/-- A host with a disk of 64 KiB, of which one resize asks for 128 KiB and the others for 96 KiB. -/
def sampleSys : Sys where
  world := sampleWorld [.create "disk" "" 65536 false]
  calls i := .idle (if i = 0 then 131072 else 98304)

theorem allIdle_sampleSys : AllIdle sampleSys := fun _ => ⟨_, rfl⟩

theorem recorded_sampleSys : Recorded "sr" ⟨"tank", ["vms"], none, none⟩ "" sampleSys := by
  have h : ∀ v ∈ (sampleSys.world.db "sr").vdis, v.vsize = some 65536 ∧
      sampleSys.volsize ⟨"tank", ["vms"], none, none⟩ "" = 65536 := by
    decide +kernel
  intro v hv _ n hn
  obtain ⟨hsize, hvol⟩ := h v hv
  rw [hsize] at hn
  cases hn
  exact hvol.le

theorem Sys.calls_advance_of_ne {s : Sys} {i j : ℕ} {p : VolM α} {next : α → Phase} (h : j ≠ i) :
    (s.advance i p next).calls j = s.calls j := by
  rw [Sys.advance]
  split <;> exact Function.update_of_ne h _ _

/-- The size that a resize which has passed its check asks for. -/
def Phase.pending : Phase → Option ℕ
  | .checked n _ => some n
  | _ => none

theorem Phase.pending_eq_some {p : Phase} {n : ℕ} : p.pending = some n ↔ ∃ vdi, p = .checked n vdi := by
  cases p <;> simp [Phase.pending]

private def sampleMeta : SrMeta := ⟨"tank", ["vms"], none, none⟩

/-- The resize `0` has passed its check. -/
private def oneChecked : Sys :=
  sampleSys.advance 0 (resizeFirst (sampleEnv fun _ => false) "sr" ["tank", "vms"] "" 131072)
    (.checked 131072)

/-- The resize `1` has passed its check as well. -/
private def bothChecked : Sys :=
  oneChecked.advance 1 (resizeFirst (sampleEnv fun _ => false) "sr" ["tank", "vms"] "" 98304)
    (.checked 98304)

private theorem bothChecked_of_lt {j : ℕ} (hj : 1 < j) : bothChecked.calls j = .idle 98304 := by
  rw [bothChecked, Sys.calls_advance_of_ne (by omega), oneChecked, Sys.calls_advance_of_ne (by omega)]
  exact congrArg Phase.idle (if_neg (by omega))

private theorem step_oneChecked :
    oneChecked.step (sampleEnv fun _ => false) "sr" sampleMeta "" (.first 1) = some bothChecked := by
  have hidle : oneChecked.calls 1 = .idle 98304 := Sys.calls_advance_of_ne (by decide)
  rw [Sys.step, hidle]
  rfl

/-- The size is `NULL` when the second resize begins. -/
private theorem recorded_oneChecked : Recorded "sr" sampleMeta "" oneChecked := by
  have hnull : ∀ v ∈ (oneChecked.world.db "sr").vdis, v.vsize = none := by decide +kernel
  intro v hv _ n hn
  rw [hnull v hv] at hn
  cases hn

/-- Two resizes overlap; the one that asks for more changes the zvol last. -/
theorem volsize_le_of_clear_overlap : ∃ s₁ s₂ : Sys,
    sampleSys.steps (sampleEnv fun _ => false) "sr" sampleMeta "" [.first 0, .first 1, .set 1] =
      some s₁ ∧
    s₁.steps (sampleEnv fun _ => false) "sr" sampleMeta "" [.set 0] = some s₂ ∧
    s₁.volsize sampleMeta "" ≤ s₂.volsize sampleMeta "" := by
  have hpending : (bothChecked.calls 0).pending = some 131072 ∧
      (bothChecked.calls 1).pending = some 98304 := by decide +kernel
  obtain ⟨⟨v₀, h₀⟩, v₁, h₁⟩ := hpending.imp Phase.pending_eq_some.1 Phase.pending_eq_some.1
  -- the second resize changes the zvol, and then the first one does
  obtain ⟨s₁, hs₁, hothers₁, hover₁⟩ : ∃ s₁,
      bothChecked.step (sampleEnv fun _ => false) "sr" sampleMeta "" (.set 1) = some s₁ ∧
        (∀ j, j ≠ 1 → s₁.calls j = bothChecked.calls j) ∧ (s₁.calls 1).pending = none := by
    rw [Sys.step, h₁]
    refine ⟨_, rfl, fun j hj => Sys.calls_advance_of_ne hj, ?_⟩
    rw [Sys.advance]
    split <;> simp [Phase.pending]
  have hzero₁ : s₁.calls 0 = .checked 131072 v₀ := (hothers₁ 0 (by decide)).trans h₀
  obtain ⟨s₂, hs₂⟩ : ∃ s₂,
      s₁.step (sampleEnv fun _ => false) "sr" sampleMeta "" (.set 0) = some s₂ := by
    rw [Sys.step, hzero₁]
    exact ⟨_, rfl⟩
  have hsteps₁ : sampleSys.steps (sampleEnv fun _ => false) "sr" sampleMeta ""
      [.first 0, .first 1, .set 1] = some s₁ := by
    have hfirst : sampleSys.step (sampleEnv fun _ => false) "sr" sampleMeta "" (.first 0) =
      some oneChecked := rfl
    simp only [Sys.steps, hfirst, step_oneChecked, hs₁, Option.bind_some]
  have hsteps₂ : s₁.steps (sampleEnv fun _ => false) "sr" sampleMeta "" [.set 0] = some s₂ := by
    simp only [Sys.steps, hs₂, Option.bind_some]
  have hclear : ClearRun (sampleEnv fun _ => false) "sr" sampleMeta "" sampleSys
      ([.first 0, .first 1, .set 1] ++ [.set 0]) := by
    refine ⟨recorded_sampleSys, fun s hs => ?_⟩
    obtain rfl : oneChecked = s := Option.some.inj hs
    refine ⟨recorded_oneChecked, fun s hs => ?_⟩
    obtain rfl : bothChecked = s := Option.some.inj (step_oneChecked.symm.trans hs)
    refine ⟨fun n vdi hn j n' vdi' hj hn' => ?_, fun s hs => ?_⟩
    · -- the other one asks for more
      obtain rfl : 98304 = n := (Phase.checked.inj (h₁.symm.trans hn)).1
      obtain rfl | hlt : j = 0 ∨ 1 < j := by omega
      · obtain rfl : 131072 = n' := (Phase.checked.inj (h₀.symm.trans hn')).1
        decide
      · rw [bothChecked_of_lt hlt] at hn'
        cases hn'
    · obtain rfl : s₁ = s := Option.some.inj (hs₁.symm.trans hs)
      refine ⟨fun _ _ _ j n' vdi' hj hn' => ?_, fun _ _ => trivial⟩
      -- nothing else has passed its check only
      obtain rfl | hlt : j = 1 ∨ 1 < j := by omega
      · rw [hn'] at hover₁
        cases hover₁
      · rw [hothers₁ j (by omega), bothChecked_of_lt hlt] at hn'
        cases hn'
  exact ⟨s₁, s₂, hsteps₁, hsteps₂,
    volsize_le_of_clear (fun _ n => Nat.le_refl n) allIdle_sampleSys hclear hsteps₁ hsteps₂⟩

/-- **Two resizes that overlap can shrink the zvol**: both pass their check before either has changed the
size, and the one that asks for less comes last. -/
theorem not_volsize_le_overlap :
    ¬ ∀ (E : Env) (sr : String) (m : SrMeta) (key : String) (s s₁ s₂ : Sys) (ls₁ ls₂ : List Label),
      (∀ b n, n ≤ E.volsizeFor b n) → E.srMeta sr = some m → AllIdle s → Recorded sr m key s →
        s.steps E sr m key ls₁ = some s₁ → s₁.steps E sr m key ls₂ = some s₂ →
          s₁.volsize m key ≤ s₂.volsize m key := by
  intro hall
  have hsizes : ((sampleSys.steps (sampleEnv fun _ => false) "sr" ⟨"tank", ["vms"], none, none⟩ ""
        [.first 0, .first 1, .set 0]).map (Sys.volsize ⟨"tank", ["vms"], none, none⟩ "") =
      some 131072) ∧
      ((sampleSys.steps (sampleEnv fun _ => false) "sr" ⟨"tank", ["vms"], none, none⟩ ""
        ([.first 0, .first 1, .set 0] ++ [.set 1])).map
          (Sys.volsize ⟨"tank", ["vms"], none, none⟩ "") = some 98304) := by
    decide +kernel
  obtain ⟨h₁, h⟩ := hsizes
  obtain ⟨s₁, hs₁, hv₁⟩ := Option.map_eq_some_iff.1 h₁
  rw [Sys.steps_append, hs₁] at h
  obtain ⟨s₂, hs₂, hv₂⟩ := Option.map_eq_some_iff.1 h
  have hle := hall _ _ _ _ _ s₁ s₂ _ [.set 1] (fun _ n => Nat.le_refl n) rfl allIdle_sampleSys
    recorded_sampleSys hs₁ hs₂
  omega

/-! ### One resize alone -/

/-! Commands that do not fail by themselves. -/

theorem beginTxn_ok (hf : ∀ c, E.fault c = false) (w : World) :
    beginTxn E sr w = .ok () { w.tick with work := w.db sr } := by
  rw [beginTxn, command, if_neg (by simp [hf])]
  rfl

theorem zfsCmd_ok (hf : ∀ c, E.fault c = false) {f : Store → Except ZfsError Store} {w : World}
    {z : Store} (h : f w.zfs = .ok z) : zfsCmd E f w = .ok () { w.tick with zfs := z } := by
  rw [zfsCmd, command, if_neg (by simp [hf]), show w.tick.zfs = w.zfs from rfl, h]

theorem zfsCmd_error (hf : ∀ c, E.fault c = false) {f : Store → Except ZfsError Store} {w : World}
    {e : ZfsError} (h : f w.zfs = .error e) : zfsCmd E f w = .error (.zfs e) w.tick := by
  rw [zfsCmd, command, if_neg (by simp [hf]), show w.tick.zfs = w.zfs from rfl, h]

theorem zfsGet_ok (hf : ∀ c, E.fault c = false) {f : Store → Except ZfsError α} {w : World} {a : α}
    (h : f w.zfs = .ok a) : zfsGet E f w = .ok a w.tick := by
  rw [zfsGet, command, if_neg (by simp [hf]), show w.tick.zfs = w.zfs from rfl, h]

/-- Opening the transaction can wait until the size was changed and read back. -/
theorem begin_later (hf : ∀ c, E.fault c = false) {v : ZvolName} {w w' : World} {n : ℕ}
    {rest : ℕ → VolM α} {a : α}
    (h : (do beginTxn E sr
             resizeZvol E v n
             let x ← getZvolSizeBytes E v
             rest x) w = .ok a w') :
    ∃ w₁ x w₂, resizeZvol E v n w = .ok () w₁ ∧ getZvolSizeBytes E v w₁ = .ok x w₂ ∧
      (do beginTxn E sr; rest x) w₂ = .ok a w' := by
  rw [bind_ok (beginTxn_ok hf w)] at h
  rcases hz : w.zfs.setVolsize v (fun volblocksize => E.volsizeFor volblocksize n) with e | z
  · have hset : resizeZvol E v n { w.tick with work := w.db sr } = _ := zfsCmd_error hf hz
    rw [bind_error hset] at h
    cases h
  · have hv : v ∈ z.names := by
      have hprops := (Store.setVolsize_ok hz).2
      rw [Store.names_setProps hprops]
      exact (Store.setProps_ok hprops).1
    have hread : z.getProp v Props.volsize = .ok (z.zvol v).props.volsize := if_pos hv
    have hset : resizeZvol E v n { w.tick with work := w.db sr } = _ := zfsCmd_ok hf hz
    have hget : ∀ u : World, u.zfs = z → getZvolSizeBytes E v u = _ := fun u hu =>
      zfsGet_ok hf (hu ▸ hread)
    refine ⟨_, _, _, zfsCmd_ok hf hz, hget _ rfl, ?_⟩
    rw [bind_ok hset, bind_ok (hget _ rfl)] at h
    rw [bind_ok (beginTxn_ok hf _)]
    exact h

/-- **A resize that runs alone is a run of the machine.** -/
theorem steps_resize (hf : ∀ c, E.fault c = false) (hm : E.srMeta sr = some m) {s : Sys} {w' : World}
    {i n : ℕ} (hi : s.calls i = .idle n) (h : resize E sr key n s.world = .ok () w') :
    s.steps E sr m key [.first i, .set i, .read i, .commit i] =
      some ⟨w', Function.update s.calls i .over⟩ := by
  rw [resize, getSrMetadata, hm] at h
  simp only [pure_bind] at h
  rcases hfirst : resizeFirst E sr m.datasetPath key n s.world with ⟨vdi, w₁⟩ | ⟨e, w₁⟩
  · rw [bind_ok hfirst, dbContext] at h
    simp only [bind_assoc] at h
    obtain ⟨w₂, x, w₃, hset, hget, hrest⟩ := begin_later hf h
    have hcommit : dbContext E sr (recordSize E ⟨m.datasetPath, vdi.uuid⟩ vdi.volume_id x) w₃ =
        .ok () w' := hrest
    simp [Sys.steps, Sys.step, Sys.advance, hi, hfirst, hset, hget, hcommit]
  · rw [bind_error hfirst] at h
    cases h

end Volume

/-
**Dirty bitmaps of a qemu process**, as far as the QMP commands show them.

A block node carries dirty bitmaps.  A write to the node sets the bits of the bitmaps that record, and
of no other; a bitmap stops recording when it is disabled and records again when it is enabled.  The
bitmaps are part of the process and end with it, as do its NBD exports.

* `Qemu.Write`, `Qemu.Bitmap`, `Qemu.Bitmap.recordAll` — writes, and the bits they set;
* `Qemu.Process`, `Qemu.Command`, `Qemu.Process.exec` — a process, and what a command does to it;
* `Qemu.Process.write` — a write of the guest to a node;
* `Qemu.extents` — what an NBD server tells of a bitmap.
-/

import Mathlib.Data.Nat.Notation
import Mathlib.Order.MinMax
import Mathlib.Tactic.Common
import ZfsLive.Base.Dict

set_option relaxedAutoImplicit false
set_option autoImplicit false

namespace Qemu

/-! ### Writes -/

/-- A write to `length` bytes from `offset` on. -/
structure Write where
  offset : ℕ
  length : ℕ
  deriving DecidableEq, Repr

/-- The write changes byte `x`. -/
def Write.Covers (w : Write) (x : ℕ) : Prop := w.offset ≤ x ∧ x < w.offset + w.length

/-- The write changes a byte of block `k`. -/
def Write.Touches (w : Write) (granularity k : ℕ) : Prop := ∃ x, w.Covers x ∧ x / granularity = k

/-- The blocks that a write changes. -/
def Write.blocks (w : Write) (granularity : ℕ) : List ℕ :=
  if w.length = 0 then
    []
  else
    List.range' (w.offset / granularity)
      ((w.offset + w.length - 1) / granularity + 1 - w.offset / granularity)

theorem Write.mem_blocks {w : Write} {granularity k : ℕ} (hg : 0 < granularity) :
    k ∈ w.blocks granularity ↔ w.Touches granularity k := by
  rw [blocks]
  split
  · next hlen =>
    simp only [List.not_mem_nil, false_iff, Touches, Covers]
    rintro ⟨x, hx, _⟩
    omega
  · next hlen =>
    rw [List.mem_range'_1]
    constructor
    · intro hk
      have hlast : k ≤ (w.offset + w.length - 1) / granularity := by omega
      have hend := (Nat.le_div_iff_mul_le hg).1 hlast
      refine ⟨max w.offset (k * granularity), ⟨le_max_left .., by omega⟩, ?_⟩
      rcases le_total w.offset (k * granularity) with h | h
      · rw [max_eq_right h, Nat.mul_div_cancel _ hg]
      · have := (Nat.le_div_iff_mul_le hg).2 h
        rw [max_eq_left h]
        omega
    · rintro ⟨x, ⟨hx₁, hx₂⟩, rfl⟩
      have h₁ := Nat.div_le_div_right (c := granularity) hx₁
      have h₂ : x / granularity ≤ (w.offset + w.length - 1) / granularity :=
        Nat.div_le_div_right (by omega)
      omega

/-- One of the writes changes a byte of block `k`. -/
def Touched (ws : List Write) (granularity k : ℕ) : Prop := ∃ w ∈ ws, w.Touches granularity k

@[simp] theorem not_touched_nil (granularity k : ℕ) : ¬ Touched [] granularity k := by
  simp [Touched]

theorem touched_cons {w : Write} {ws : List Write} {granularity k : ℕ} :
    Touched (w :: ws) granularity k ↔ w.Touches granularity k ∨ Touched ws granularity k := by
  simp [Touched]

theorem touched_append {ws ws' : List Write} {granularity k : ℕ} :
    Touched (ws ++ ws') granularity k ↔ Touched ws granularity k ∨ Touched ws' granularity k := by
  simp only [Touched, List.mem_append, or_and_right, exists_or]

/-! ### Bitmaps -/

/-- A dirty bitmap. -/
structure Bitmap where
  granularity : ℕ
  granularity_pos : 0 < granularity
  recording : Bool
  /-- The dirty blocks, of `granularity` bytes each. -/
  dirty : List ℕ
  deriving DecidableEq

/-- The bitmap after a write to its node. -/
def Bitmap.record (b : Bitmap) (w : Write) : Bitmap :=
  if b.recording then { b with dirty := w.blocks b.granularity ++ b.dirty } else b

/-- The bitmap after writes to its node. -/
def Bitmap.recordAll (b : Bitmap) (ws : List Write) : Bitmap := ws.foldl Bitmap.record b

@[simp] theorem Bitmap.granularity_record (b : Bitmap) (w : Write) :
    (b.record w).granularity = b.granularity := by
  rw [record]; split <;> rfl

@[simp] theorem Bitmap.recording_record (b : Bitmap) (w : Write) :
    (b.record w).recording = b.recording := by
  rw [record]; split <;> rfl

/-- **A write sets the bits of the blocks it touches, in a bitmap that records.** -/
theorem Bitmap.mem_dirty_record {b : Bitmap} {w : Write} {k : ℕ} :
    k ∈ (b.record w).dirty ↔ k ∈ b.dirty ∨ b.recording = true ∧ w.Touches b.granularity k := by
  rw [record]
  split
  · next h =>
    rw [List.mem_append, Write.mem_blocks b.granularity_pos, or_comm]
    simp [h]
  · next h => simp [h]

@[simp] theorem Bitmap.granularity_recordAll (b : Bitmap) (ws : List Write) :
    (b.recordAll ws).granularity = b.granularity := by
  induction ws generalizing b with
  | nil => rfl
  | cons w ws ih => exact (ih (b.record w)).trans (b.granularity_record w)

@[simp] theorem Bitmap.recording_recordAll (b : Bitmap) (ws : List Write) :
    (b.recordAll ws).recording = b.recording := by
  induction ws generalizing b with
  | nil => rfl
  | cons w ws ih => exact (ih (b.record w)).trans (b.recording_record w)

theorem Bitmap.mem_dirty_recordAll {b : Bitmap} {ws : List Write} {k : ℕ} :
    k ∈ (b.recordAll ws).dirty ↔ k ∈ b.dirty ∨ b.recording = true ∧ Touched ws b.granularity k := by
  induction ws generalizing b with
  | nil => simp [recordAll]
  | cons w ws ih =>
      rw [recordAll, List.foldl_cons, ← recordAll, ih, mem_dirty_record, touched_cons,
        granularity_record, recording_record]
      tauto

theorem Bitmap.recordAll_append (b : Bitmap) (ws ws' : List Write) :
    b.recordAll (ws ++ ws') = (b.recordAll ws).recordAll ws' :=
  List.foldl_append

/-- What the NBD server of an export tells of a bitmap: its dirty blocks. -/
def extents (b : Bitmap) : List (ℕ × ℕ) := b.dirty.map fun k => (k * b.granularity, b.granularity)

/-- Byte `x` lies in an extent of a bitmap exactly when its block is dirty. -/
theorem exists_extents_iff {b : Bitmap} {x : ℕ} :
    (∃ e ∈ extents b, e.1 ≤ x ∧ x < e.1 + e.2) ↔ x / b.granularity ∈ b.dirty := by
  simp only [extents, List.mem_map, exists_exists_and_eq_and]
  constructor
  · rintro ⟨k, hk, h₁, h₂⟩
    have : x / b.granularity = k :=
      Nat.div_eq_of_lt_le h₁ (by rwa [Nat.succ_mul])
    exact this ▸ hk
  · intro hk
    refine ⟨_, hk, Nat.div_mul_le_self .., ?_⟩
    have := Nat.lt_div_mul_add (a := x) b.granularity_pos
    omega

/-- The bitmaps of a node, by name. -/
abbrev Bitmaps := Dict String Bitmap

/-- The bitmaps of a node after writes to it. -/
def Bitmaps.recordAll (bs : Bitmaps) (ws : List Write) : Bitmaps :=
  bs.mapVals fun _ b => b.recordAll ws

@[simp] theorem Bitmaps.get?_recordAll (bs : Bitmaps) (ws : List Write) (name : String) :
    (Bitmaps.recordAll bs ws).get? name = (bs.get? name).map fun b => b.recordAll ws :=
  Dict.get?_mapVals ..

/-! ### Processes -/

/-- An entry of `query-block`, as far as a medium is inserted. -/
structure Drive where
  node_name : Option String
  file : Option String
  deriving DecidableEq, Repr

/-- An NBD export with the bitmap it shows, if it shows one. -/
structure Export where
  node : String
  bitmap : Option String
  deriving DecidableEq, Repr

/-- A qemu process. -/
structure Process where
  drives : List Drive
  nodes : Dict String Bitmaps
  /-- The socket its NBD server listens at. -/
  nbd_server : Option String
  exports : Dict String Export

/-- Why a command is refused. -/
inductive QmpError
  /-- The process cannot be reached, or the command failed for a reason of its own. -/
  | failed
  | noNode (node : String)
  | noBitmap (node name : String)
  | bitmapExists (node name : String)
  | badGranularity
  | serverRunning
  | noServer
  | exportExists (name : String)
  /-- An error that the driver raises itself. -/
  | driver (text : String)
  deriving DecidableEq, Repr

/-- The QMP commands of the driver. -/
inductive Command
  | queryBlock
  | queryNamedBlockNodes
  | bitmapAdd (node name : String) (granularity : ℕ)
  | bitmapRemove (node name : String)
  | bitmapClear (node name : String)
  | bitmapEnable (node name : String)
  | bitmapDisable (node name : String)
  | bitmapMerge (node target : String) (bitmaps : List String)
  | nbdServerStart (path : String)
  | nbdServerAdd (device name bitmap : String)
  deriving DecidableEq, Repr

/-- The node whose bitmaps a command reads or changes. -/
def Command.node : Command → Option String
  | .queryBlock | .queryNamedBlockNodes | .nbdServerStart _ => none
  | .bitmapAdd n _ _ | .bitmapRemove n _ | .bitmapClear n _ | .bitmapEnable n _
  | .bitmapDisable n _ | .bitmapMerge n _ _ | .nbdServerAdd n _ _ => some n

/-- Change the bitmaps of a node. -/
def Process.onNode (p : Process) (node : String) (f : Bitmaps → Except QmpError Bitmaps) :
    Except QmpError Process :=
  match p.nodes.get? node with
  | none => .error (.noNode node)
  | some bs =>
      match f bs with
      | .ok bs' => .ok { p with nodes := p.nodes.set node bs' }
      | .error e => .error e

/-- Change a bitmap. -/
def onBitmap (node name : String) (f : Bitmap → Bitmap) (bs : Bitmaps) : Except QmpError Bitmaps :=
  match bs.get? name with
  | none => .error (.noBitmap node name)
  | some b => .ok (bs.set name (f b))

/-- The union of a bitmap with the bitmaps in the list. -/
def merge (node : String) (bs : Bitmaps) : Bitmap → List String → Except QmpError Bitmap
  | b, [] => .ok b
  | b, name :: names =>
      match bs.get? name with
      | none => .error (.noBitmap node name)
      | some src =>
          if src.granularity = b.granularity then
            merge node bs { b with dirty := src.dirty ++ b.dirty } names
          else
            .error .badGranularity

/-- Add an empty bitmap that records. -/
def addBitmap (node name : String) (granularity : ℕ) (bs : Bitmaps) : Except QmpError Bitmaps :=
  match bs.get? name with
  | some _ => .error (.bitmapExists node name)
  | none =>
      if h : 0 < granularity then
        .ok (bs.set name ⟨granularity, h, true, []⟩)
      else
        .error .badGranularity

/-- Remove a bitmap. -/
def removeBitmap (node name : String) (bs : Bitmaps) : Except QmpError Bitmaps :=
  match bs.get? name with
  | none => .error (.noBitmap node name)
  | some _ => .ok (bs.erase name)

/-- Add the bits of the bitmaps in the list to a bitmap. -/
def mergeBitmaps (node target : String) (bitmaps : List String) (bs : Bitmaps) :
    Except QmpError Bitmaps :=
  match bs.get? target with
  | none => .error (.noBitmap node target)
  | some b =>
      match merge node bs b bitmaps with
      | .ok b' => .ok (bs.set target b')
      | .error e => .error e

/-- What a command does. -/
def Process.exec (p : Process) : Command → Except QmpError Process
  | .queryBlock | .queryNamedBlockNodes => .ok p
  | .bitmapAdd node name granularity => p.onNode node (addBitmap node name granularity)
  | .bitmapRemove node name => p.onNode node (removeBitmap node name)
  | .bitmapClear node name => p.onNode node (onBitmap node name fun b => { b with dirty := [] })
  | .bitmapEnable node name =>
      p.onNode node (onBitmap node name fun b => { b with recording := true })
  | .bitmapDisable node name =>
      p.onNode node (onBitmap node name fun b => { b with recording := false })
  | .bitmapMerge node target bitmaps => p.onNode node (mergeBitmaps node target bitmaps)
  | .nbdServerStart path =>
      match p.nbd_server with
      | some _ => .error .serverRunning
      | none => .ok { p with nbd_server := some path }
  | .nbdServerAdd device name bitmap =>
      match p.nbd_server with
      | none => .error .noServer
      | some _ =>
          match p.nodes.get? device with
          | none => .error (.noNode device)
          | some bs =>
              match bs.get? bitmap with
              | none => .error (.noBitmap device bitmap)
              | some _ =>
                  match p.exports.get? name with
                  | some _ => .error (.exportExists name)
                  | none => .ok { p with exports := p.exports.set name ⟨device, some bitmap⟩ }

theorem addBitmap_ok {bs : Bitmaps} {node name : String} {granularity : ℕ}
    (hb : bs.get? name = none) (hg : 0 < granularity) :
    addBitmap node name granularity bs = .ok (bs.set name ⟨granularity, hg, true, []⟩) := by
  rw [addBitmap, hb]
  exact dif_pos hg

/-- Adding a bitmap succeeds for a new name only. -/
theorem of_addBitmap_ok {bs bs' : Bitmaps} {node name : String} {granularity : ℕ}
    (h : addBitmap node name granularity bs = .ok bs') : bs.get? name = none ∧
      ∃ hg : 0 < granularity, bs' = bs.set name ⟨granularity, hg, true, []⟩ := by
  rw [addBitmap] at h
  split at h
  · cases h
  · next hnone =>
    split at h
    · next hg =>
      cases h
      exact ⟨hnone, hg, rfl⟩
    · cases h

theorem removeBitmap_ok {bs : Bitmaps} {node name : String} {b : Bitmap}
    (hb : bs.get? name = some b) : removeBitmap node name bs = .ok (bs.erase name) := by
  rw [removeBitmap, hb]

theorem onBitmap_ok {bs : Bitmaps} {node name : String} {b : Bitmap} (f : Bitmap → Bitmap)
    (hb : bs.get? name = some b) : onBitmap node name f bs = .ok (bs.set name (f b)) := by
  rw [onBitmap, hb]

/-- Merging one bitmap into another one of the same granularity. -/
theorem mergeBitmaps_ok {bs : Bitmaps} {node target source : String} {b src : Bitmap}
    (hb : bs.get? target = some b) (hsrc : bs.get? source = some src)
    (hg : src.granularity = b.granularity) : mergeBitmaps node target [source] bs =
      .ok (bs.set target { b with dirty := src.dirty ++ b.dirty }) := by
  simp only [mergeBitmaps, hb, merge, hsrc, if_pos hg]

/-- A write of the guest to a node. -/
def Process.write (p : Process) (node : String) (w : Write) : Process :=
  { p with nodes := p.nodes.mapVals fun n bs => if n = node then Bitmaps.recordAll bs [w] else bs }

/-- The bitmaps of a node; none when there is no such node. -/
def Process.bitmaps (p : Process) (node : String) : Bitmaps := (p.nodes.get? node).getD Dict.empty

end Qemu

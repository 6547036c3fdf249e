/-
**The changed-block bit string over Python's integers** (`src/volume/volume.py`).

`_pack_extents_to_bitmap` computes with signed integers: it rounds up by a negated floor division,
and an extent can begin before the first byte.  Here the function is taken down over `ℤ`, with the
exceptions that a division, a `bytearray` and an index can raise.

Main definitions:

* `Packing.packExtentsToBitmap`, `Packing.emptyChangedBlocksResult`;
* `Packing.Exact` — what the bit string of some extents has to be, told without any of the code.

Main results:

* `Packing.packBits_eq` — on requests that begin at or after byte zero no exception is raised, and
  the bits are those of the natural-number packing;
* `Packing.exact_packExtentsToBitmap` — the packed bit string is exact, and without extents it is the
  bit string of an empty report.
-/

import Mathlib.Data.Rat.Floor
import ZfsLive.ChangedBlocks

set_option relaxedAutoImplicit false
set_option autoImplicit false

namespace Packing

open BitString

/-! ### Packing -/

/-- What packing can raise. -/
inductive PackError
  | zeroDivision
  /-- A `ValueError`: the count of a `bytearray` is negative. -/
  | negativeCount
  | index
  deriving DecidableEq, Repr

/-- The start of the requested extent, rounded down to a block. -/
def alignedStart (offset granularity : ℤ) : ℤ := offset.fdiv granularity * granularity

/-- The end of the requested extent, rounded up to a block. -/
def alignedEnd (offset length granularity : ℤ) : ℤ :=
  -(-(offset + length)).fdiv granularity * granularity

/-- The number of blocks of the rounded extent. -/
def nblocks (offset length granularity : ℤ) : ℤ :=
  (alignedEnd offset length granularity - alignedStart offset granularity).fdiv granularity

/-- The number of bytes for a bit for each block. -/
def nbytes (offset length granularity : ℤ) : ℤ := (nblocks offset length granularity + 7).fdiv 8

/-- `bits[i] |= x`: a negative index counts from the end. -/
def orAt (bits : List UInt8) (i : ℤ) (x : UInt8) : Except PackError (List UInt8) :=
  let i := if i < 0 then i + bits.length else i
  if 0 ≤ i ∧ i < bits.length then .ok (bits.modify i.toNat (· ||| x)) else .error .index

/-- Set the bit of block `b`. -/
def setBlock (bits : List UInt8) (b : ℤ) : Except PackError (List UInt8) :=
  orAt bits (b.fdiv 8) (mask (b.fmod 8).toNat)

/-- The blocks an extent touches, counted from the start of the rounded extent. -/
def extentBlocks (offset length granularity : ℤ) (extent : ℤ × ℤ) : List ℤ :=
  let aligned_start := alignedStart offset granularity
  let clip_start := max extent.1 aligned_start
  let clip_end := min (extent.1 + extent.2) (alignedEnd offset length granularity)
  if clip_end ≤ clip_start then
    []
  else
    let first_block := (clip_start - aligned_start).fdiv granularity
    let last_block := (clip_end - 1 - aligned_start).fdiv granularity
    (List.range (last_block + 1 - first_block).toNat).map fun i : ℕ => first_block + i

/-- The bit string of a list of extents. -/
def packBits (extents : List (ℤ × ℤ)) (offset length granularity : ℤ) :
    Except PackError (List UInt8) :=
  if granularity = 0 then
    .error .zeroDivision
  else if nbytes offset length granularity < 0 then
    .error .negativeCount
  else
    extents.foldlM
      (fun bits extent => (extentBlocks offset length granularity extent).foldlM setBlock bits)
      (zeros (nbytes offset length granularity).toNat)

/-- The base64 text of the bit string of a list of extents. -/
def packExtentsToBitmap (extents : List (ℤ × ℤ)) (offset length granularity : ℤ) :
    Except PackError String := do
  return String.ofList (encode64 (← packBits extents offset length granularity))

/-- What `Volume.list_changed_blocks` returns. -/
structure Report where
  granularity : ℤ
  bitmap : String
  deriving DecidableEq, Repr

/-- The report of a volume without bitmaps; `b"\x00" * nbytes` is empty for a negative count. -/
def emptyChangedBlocksResult (offset length granularity : ℤ) : Except PackError Report :=
  if granularity = 0 then
    .error .zeroDivision
  else
    .ok ⟨granularity, String.ofList (encode64 (zeros (nbytes offset length granularity).toNat))⟩

/-! ### Exactness -/

/-- Byte `x` lies in one of the extents. -/
def Marks (extents : List (ℤ × ℤ)) (x : ℤ) : Prop := ∃ e ∈ extents, e.1 ≤ x ∧ x < e.1 + e.2

/-- The number of blocks between the start rounded down and the end rounded up. -/
def blockCount (offset length granularity : ℤ) : ℤ :=
  ⌈((offset + length : ℤ) / granularity : ℚ)⌉ - ⌊(offset / granularity : ℚ)⌋

/-- Byte `x` lies in block `b`, counted from the block of `offset`. -/
def InBlock (offset granularity b x : ℤ) : Prop :=
  (⌊(offset / granularity : ℚ)⌋ + b) * granularity ≤ x ∧
    x < (⌊(offset / granularity : ℚ)⌋ + b + 1) * granularity

/-- A byte for every eight blocks, the last one padded, and bit `b` is set exactly when it stands for a
block that shares a byte with one of the extents. -/
def Exact (extents : List (ℤ × ℤ)) (offset length granularity : ℤ) (bits : List UInt8) : Prop :=
  (bits.length : ℤ) = ⌈(blockCount offset length granularity / 8 : ℚ)⌉ ∧
    ∀ b : ℕ, test bits b = true ↔
      b < blockCount offset length granularity ∧ ∃ x, Marks extents x ∧ InBlock offset granularity b x

/-! ### Natural numbers -/

variable {offset length granularity : ℕ}

theorem alignedStart_natCast :
    alignedStart offset granularity = (ChangedBlocks.alignedStart offset granularity : ℕ) := by
  rw [alignedStart, ChangedBlocks.alignedStart, Int.fdiv_eq_ediv_of_nonneg _ (by omega)]
  push_cast
  rfl

/-- Rounding up by a negated floor division. -/
theorem neg_fdiv_neg (hg : 0 < granularity) (a : ℕ) :
    -(-(a : ℤ)).fdiv granularity = ((a + (granularity - 1)) / granularity : ℕ) := by
  have hdiv := Nat.div_add_mod (a + (granularity - 1)) granularity
  have hmod := Nat.mod_lt (a + (granularity - 1)) hg
  generalize (a + (granularity - 1)) / granularity = q at *
  have hq : (-(a : ℤ)) / granularity = -(q : ℤ) := by
    rw [Int.ediv_eq_iff_of_pos (by omega), neg_mul, mul_comm, ← Nat.cast_mul]
    omega
  rw [Int.fdiv_eq_ediv_of_nonneg _ (by omega), hq, neg_neg]

theorem alignedEnd_natCast (hg : 0 < granularity) :
    alignedEnd offset length granularity =
      (ChangedBlocks.alignedEnd offset length granularity : ℕ) := by
  rw [alignedEnd, ChangedBlocks.alignedEnd, Nat.cast_mul, ← neg_fdiv_neg hg, Nat.cast_add]

theorem alignedStart_le_alignedEnd (offset length granularity : ℕ) :
    ChangedBlocks.alignedStart offset granularity ≤
      ChangedBlocks.alignedEnd offset length granularity := by
  rw [ChangedBlocks.alignedStart, ChangedBlocks.alignedEnd]
  exact Nat.mul_le_mul_right _ (Nat.div_le_div_right (by omega))

theorem nblocks_natCast (hg : 0 < granularity) :
    nblocks offset length granularity =
      (ChangedBlocks.nblocks offset length granularity : ℕ) := by
  have hle := alignedStart_le_alignedEnd offset length granularity
  rw [nblocks, ChangedBlocks.nblocks, alignedStart_natCast, alignedEnd_natCast hg,
    ← Nat.cast_sub hle, Int.fdiv_eq_ediv_of_nonneg _ (by omega), Int.natCast_ediv]

theorem nbytes_natCast (hg : 0 < granularity) :
    nbytes offset length granularity =
      ((ChangedBlocks.nblocks offset length granularity + 7) / 8 : ℕ) := by
  rw [nbytes, nblocks_natCast hg, Int.fdiv_eq_ediv_of_nonneg _ (by omega)]
  omega

/-- The part of an extent at or after byte zero. -/
def clipped (extent : ℤ × ℤ) : ℕ × ℕ :=
  (extent.1.toNat, (extent.1 + extent.2).toNat - extent.1.toNat)

/-- The blocks from a byte up to another one. -/
theorem map_range_fdiv {lo first last : ℕ} (hlo : lo ≤ first) (hlast : first < last) :
    (List.range (((last : ℤ) - 1 - lo).fdiv granularity + 1 -
        ((first : ℤ) - lo).fdiv granularity).toNat).map
        (fun i : ℕ => ((first : ℤ) - lo).fdiv granularity + i) =
      (List.range' ((first - lo) / granularity)
        ((last - 1 - lo) / granularity + 1 - (first - lo) / granularity)).map (↑) := by
  have hfirst : ((first : ℤ) - lo).fdiv granularity = ((first - lo) / granularity : ℕ) := by
    rw [← Nat.cast_sub hlo, Int.fdiv_eq_ediv_of_nonneg _ (by omega), Int.natCast_ediv]
  have hlast : ((last : ℤ) - 1 - lo).fdiv granularity = ((last - 1 - lo) / granularity : ℕ) := by
    have hsub : (last : ℤ) - 1 - lo = (last - 1 - lo : ℕ) := by omega
    rw [hsub, Int.fdiv_eq_ediv_of_nonneg _ (by omega), Int.natCast_ediv]
  rw [hfirst, hlast, List.range'_eq_map_range, List.map_map]
  generalize (first - lo) / granularity = a
  generalize (last - 1 - lo) / granularity = c
  have hcount : ((c : ℤ) + 1 - a).toNat = c + 1 - a := by omega
  rw [hcount]
  refine List.map_congr_left fun i _ => ?_
  simp

theorem extentBlocks_natCast (hg : 0 < granularity) {extent : ℤ × ℤ} (hlen : 0 ≤ extent.2) :
    extentBlocks offset length granularity extent =
      (ChangedBlocks.extentBlocks offset length granularity (clipped extent)).map (↑) := by
  rw [extentBlocks, ChangedBlocks.extentBlocks, alignedStart_natCast, alignedEnd_natCast hg]
  generalize ChangedBlocks.alignedStart offset granularity = lo
  generalize ChangedBlocks.alignedEnd offset length granularity = hi
  obtain ⟨first, len⟩ := extent
  -- an extent that begins before byte zero has the same clipped start and end
  have hstart : max first (lo : ℤ) = (max first.toNat lo : ℕ) := by omega
  by_cases hskip : min (first + len) (hi : ℤ) ≤ max first lo
  · have hskip' : min ((clipped (first, len)).1 + (clipped (first, len)).2) hi ≤
        max (clipped (first, len)).1 lo := by
      simp only [clipped]
      omega
    rw [if_pos hskip, if_pos hskip', List.map_nil]
  · have hend : min (first + len) (hi : ℤ) =
        (min ((clipped (first, len)).1 + (clipped (first, len)).2) hi : ℕ) := by
      simp only [clipped] at hlen ⊢
      omega
    rw [hstart, hend] at hskip ⊢
    by_cases hskip' : min ((clipped (first, len)).1 + (clipped (first, len)).2) hi ≤
        max (clipped (first, len)).1 lo
    · exact absurd (Nat.cast_le.2 hskip') hskip
    · rw [if_neg hskip, if_neg hskip']
      exact map_range_fdiv (le_max_right ..) (not_le.1 hskip')

/-! ### Bytes -/

theorem setBlock_natCast {bits : List UInt8} {b : ℕ} (hb : b < 8 * bits.length) :
    setBlock bits b = .ok (mark bits b) := by
  have hbyte : (b : ℤ).fdiv 8 = (b / 8 : ℕ) := by
    rw [Int.fdiv_eq_ediv_of_nonneg _ (by omega), Int.natCast_ediv]
    rfl
  have hbit : ((b : ℤ).fmod 8).toNat = b % 8 := by
    rw [Int.fmod_eq_emod_of_nonneg _ (by omega)]
    omega
  have hpos : ¬ ((b / 8 : ℕ) : ℤ) < 0 := by omega
  rw [setBlock, hbyte, hbit, orAt]
  simp only [if_neg hpos]
  rw [if_pos (by omega), Int.toNat_natCast, mark]

theorem foldlM_setBlock {bs : List ℕ} {bits : List UInt8} (hbs : ∀ b ∈ bs, b < 8 * bits.length) :
    (bs.map fun b : ℕ => (b : ℤ)).foldlM setBlock bits = .ok (bs.foldl mark bits) := by
  induction bs generalizing bits with
  | nil => rfl
  | cons b bs ih =>
      have hb : b < 8 * bits.length := hbs b (List.mem_cons_self ..)
      rw [List.map_cons, List.foldlM_cons, setBlock_natCast hb, List.foldl_cons]
      refine ih fun a ha => ?_
      rw [length_mark]
      exact hbs a (List.mem_cons_of_mem _ ha)

theorem foldlM_extentBlocks (hg : 0 < granularity) {extents : List (ℤ × ℤ)}
    (hlen : ∀ e ∈ extents, 0 ≤ e.2) {bits : List UInt8}
    (hbits : bits.length = (ChangedBlocks.nblocks offset length granularity + 7) / 8) :
    extents.foldlM (fun bits extent =>
        (extentBlocks offset length granularity extent).foldlM setBlock bits) bits =
      .ok ((extents.map clipped).foldl (fun bits extent =>
        (ChangedBlocks.extentBlocks offset length granularity extent).foldl mark bits) bits) := by
  induction extents generalizing bits with
  | nil => rfl
  | cons e extents ih =>
      have hblocks : ∀ b ∈ ChangedBlocks.extentBlocks offset length granularity (clipped e),
          b < 8 * bits.length := by
        intro b hb
        have hlt := ((ChangedBlocks.mem_extentBlocks hg).1 hb).1
        omega
      rw [List.foldlM_cons, extentBlocks_natCast hg (hlen e (List.mem_cons_self ..)),
        foldlM_setBlock hblocks, List.map_cons, List.foldl_cons]
      refine ih (fun a ha => hlen a (List.mem_cons_of_mem _ ha)) ?_
      rw [length_foldl_mark, hbits]

/-- **On requests that begin at or after byte zero no exception is raised, and the bits are those of
the natural-number packing.** -/
theorem packBits_eq (hg : 0 < granularity) {extents : List (ℤ × ℤ)}
    (hlen : ∀ e ∈ extents, 0 ≤ e.2) :
    packBits extents offset length granularity =
      .ok (ChangedBlocks.packBits (extents.map clipped) offset length granularity) := by
  rw [packBits, nbytes_natCast hg, if_neg (by omega), if_neg (by omega), Int.toNat_natCast,
    foldlM_extentBlocks hg hlen (length_zeros _), ChangedBlocks.packBits, ChangedBlocks.emptyBits]

/-! ### The packed bit string is exact -/

theorem floor_natCast_div (a : ℕ) :
    ⌊(((a : ℤ) : ℚ) / ((granularity : ℤ) : ℚ))⌋ = (a / granularity : ℕ) := by
  rw [Int.cast_natCast granularity, Rat.floor_intCast_div_natCast, Int.natCast_ediv]

theorem ceil_natCast_div (hg : 0 < granularity) (a : ℕ) :
    ⌈(((a : ℤ) : ℚ) / ((granularity : ℤ) : ℚ))⌉ = ((a + (granularity - 1)) / granularity : ℕ) := by
  rw [Int.cast_natCast granularity, Rat.ceil_intCast_div_natCast, ← neg_fdiv_neg hg,
    Int.fdiv_eq_ediv_of_nonneg _ (by omega)]

theorem blockCount_natCast (hg : 0 < granularity) :
    blockCount offset length granularity =
      (ChangedBlocks.nblocks offset length granularity : ℕ) := by
  have hle : offset / granularity ≤ (offset + length + (granularity - 1)) / granularity :=
    Nat.div_le_div_right (by omega)
  rw [blockCount, ← Nat.cast_add, ceil_natCast_div hg, floor_natCast_div,
    ChangedBlocks.nblocks_eq hg, Nat.cast_sub hle]

theorem inBlock_natCast (hg : 0 < granularity) {b x : ℕ} :
    InBlock offset granularity b x ↔ ChangedBlocks.InBlock offset granularity b x := by
  rw [InBlock, ChangedBlocks.InBlock, floor_natCast_div, Nat.div_eq_iff hg]
  generalize offset / granularity = s
  norm_cast
  rw [Nat.add_mul _ 1]
  omega

/-- Only bytes at or after byte zero lie in a block. -/
theorem nonneg_of_inBlock {b : ℕ} {x : ℤ} (h : InBlock offset granularity b x) : 0 ≤ x := by
  rw [InBlock, floor_natCast_div] at h
  exact le_trans (by positivity) h.1

theorem marks_clipped {extents : List (ℤ × ℤ)} {x : ℕ} :
    ChangedBlocks.Marks (extents.map clipped) x ↔ Marks extents x := by
  simp only [ChangedBlocks.Marks, Marks, List.mem_map]
  constructor
  · rintro ⟨_, ⟨e, he, rfl⟩, hx⟩
    refine ⟨e, he, ?_⟩
    simp only [clipped] at hx
    omega
  · rintro ⟨e, he, hx⟩
    refine ⟨clipped e, ⟨e, he, rfl⟩, ?_⟩
    simp only [clipped]
    omega

theorem ceil_div_eight (n : ℕ) : ⌈((n : ℤ) / 8 : ℚ)⌉ = ((n + 7) / 8 : ℕ) := by
  have h := @ceil_natCast_div 8 (by omega) n
  simpa using h

theorem exact_packBits (hg : 0 < granularity) (extents : List (ℤ × ℤ)) :
    Exact extents offset length granularity
      (ChangedBlocks.packBits (extents.map clipped) offset length granularity) := by
  have htest := ChangedBlocks.test_packExtents hg (extents.map clipped) offset length
  rw [Exact, blockCount_natCast hg]
  refine ⟨?_, fun b => ?_⟩
  · rw [ceil_div_eight, ChangedBlocks.packBits_eq, length_foldl_mark, ChangedBlocks.emptyBits,
      length_zeros]
  · have hb := htest b
    rw [ChangedBlocks.packExtentsToBitmap, String.toList_ofList, decode64_encode64] at hb
    rw [hb, Nat.cast_lt]
    refine and_congr_right fun _ => ⟨?_, ?_⟩
    · rintro ⟨x, hx, hin⟩
      exact ⟨x, marks_clipped.1 hx, (inBlock_natCast hg).2 hin⟩
    · rintro ⟨x, hx, hin⟩
      lift x to ℕ using nonneg_of_inBlock hin
      exact ⟨x, marks_clipped.2 hx, (inBlock_natCast hg).1 hin⟩

/-- **The packed bit string is exact**: no exception is raised, the text decodes to a byte for every
eight blocks of the rounded extent, and a bit is set exactly when its block shares a byte with one of
the extents.  Without extents the text is that of an empty report. -/
theorem exact_packExtentsToBitmap {offset length granularity : ℤ} (hoffset : 0 ≤ offset)
    (hlength : 0 ≤ length) (hg : 0 < granularity) {extents : List (ℤ × ℤ)}
    (hlen : ∀ e ∈ extents, 0 ≤ e.2) :
    (∃ bitmap, packExtentsToBitmap extents offset length granularity = .ok bitmap ∧
      Exact extents offset length granularity (decode64 bitmap.toList)) ∧
    packExtentsToBitmap [] offset length granularity =
      (emptyChangedBlocksResult offset length granularity).map Report.bitmap := by
  lift offset to ℕ using hoffset
  lift length to ℕ using hlength
  lift granularity to ℕ using hg.le
  have hpos : 0 < granularity := by omega
  constructor
  · refine ⟨_, by rw [packExtentsToBitmap, packBits_eq hpos hlen]; rfl, ?_⟩
    rw [String.toList_ofList, decode64_encode64]
    exact exact_packBits hpos extents
  · rw [packExtentsToBitmap, packBits_eq hpos (by simp), emptyChangedBlocksResult,
      if_neg (by omega), nbytes_natCast hpos, Int.toNat_natCast]
    rfl

/-- Two overlapping extents, one of which begins before byte zero, and an empty one. -/
theorem exact_packExtentsToBitmap_three :
    (∃ bitmap, packExtentsToBitmap [(-2, 7), (4, 3), (100, 0)] 3 10 4 = .ok bitmap ∧
      Exact [(-2, 7), (4, 3), (100, 0)] 3 10 4 (decode64 bitmap.toList)) ∧
    packExtentsToBitmap [] 3 10 4 = (emptyChangedBlocksResult 3 10 4).map Report.bitmap :=
  exact_packExtentsToBitmap (by decide) (by decide) (by decide) (by decide)

end Packing

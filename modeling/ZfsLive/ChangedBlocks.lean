/-
**The changed blocks of a volume** (`src/volume/volume.py`, `src/datapath/cbt_consumer.py`).

`Volume.list_changed_blocks` loads the persisted bitmaps of a volume, fetches the dirty extents of
each one over NBD, and packs them into a bit string over the requested extent.  What it needs from
the host is a `CbtEnv`: whether the consumer modules can be imported, the file with the persisted
bitmaps of a key, and the answer of the NBD server that a descriptor names.

Main definitions:

* `ChangedBlocks.Persisted` — the content of a `cbt/<vdi-uuid>.pickle`;
* `ChangedBlocks.extractDirtyExtentsFor` — the extents of the bitmaps that could be fetched;
* `ChangedBlocks.packExtentsToBitmap`, `ChangedBlocks.listChangedBlocks`.

Main results:

* `ChangedBlocks.test_packExtents` — a bit of the packed string is set exactly when its block shares
  a byte with one of the extents;
* `ChangedBlocks.mem_extractDirtyExtentsFor` — what is fetched is the answers of the bitmaps that
  answer;
* `ChangedBlocks.reportsRecorded_iff` — the report contains all that the bitmaps record exactly when
  the bitmaps that do not answer add no block to those that do.
-/

import Mathlib.Data.Int.Notation
import Mathlib.Data.Nat.Notation
import Mathlib.Order.MinMax
import Mathlib.Tactic.Common
import ZfsLive.Base.BitString
import ZfsLive.Base.Dict

set_option relaxedAutoImplicit false
set_option autoImplicit false

namespace ChangedBlocks

open BitString

/-! ### Persisted bitmaps -/

/-- The `nbd_export` entry of a persisted bitmap; a key can be missing from it. -/
structure NbdDescriptor where
  socket : Option String
  export_name : Option String
  bitmap_context : Option String
  deriving DecidableEq, Repr

/-- The state that `export_bitmap` saves for one bitmap.  An absent `nbd_export` stands for all the
values that Python takes for false. -/
structure BitmapPayload where
  bitmap_name : String
  granularity : Option ℤ
  dirty_count : ℕ
  nbd_export : Option NbdDescriptor
  deriving DecidableEq, Repr

/-- One value of a persisted dictionary. -/
inductive Single
  | dict (payload : BitmapPayload)
  /-- Anything that is not a dictionary. -/
  | other
  deriving DecidableEq, Repr

/-- What a pickle file can hold. -/
inductive Persisted
  /-- The bitmaps of a volume by name. -/
  | dict (bitmaps : Dict String Single)
  /-- Anything that is not a dictionary. -/
  | other

/-- What reading the bitmaps of a volume can raise. -/
inductive CbtError
  /-- The pickle could not be opened or parsed. -/
  | load
  /-- The NBD server could not be reached, or did not keep to the protocol. -/
  | nbd
  /-- A `KeyError`: the descriptor lacks this key. -/
  | missingKey (key : String)
  deriving DecidableEq, Repr

/-- The host as the consumer sees it. -/
structure CbtEnv where
  /-- The modules of the datapath plugin can be imported. -/
  importable : Bool
  /-- The pickle of a key under an SR, if there is one. -/
  load : String → String → Except CbtError (Option Persisted)
  /-- The answer of the NBD server at a socket, for an export and a metadata context. -/
  fetch : String → String → String → Except CbtError (List (ℕ × ℕ))

/-! ### The consumer -/

/-- `d[key]`, for a key that may be missing. -/
def getKey (key : String) : Option String → Except CbtError String
  | some v => .ok v
  | none => .error (.missingKey key)

/-- The dirty extents that the server of one bitmap tells; none for a bitmap without a server. -/
def extractDirtyExtents (env : CbtEnv) : Single → Except CbtError (List (ℕ × ℕ))
  | .other => .ok []
  | .dict payload =>
      match payload.nbd_export with
      | none => .ok []
      | some nbd => do
          let socket ← getKey "socket" nbd.socket
          let export_name ← getKey "export_name" nbd.export_name
          let bitmap_context ← getKey "bitmap_context" nbd.bitmap_context
          env.fetch socket export_name bitmap_context

/-- One round of the loop over the bitmaps: a bitmap whose fetch raises is left out. -/
def extractRound (env : CbtEnv) (result : Dict String (List (ℕ × ℕ))) (item : String × Single) :
    Dict String (List (ℕ × ℕ)) :=
  match extractDirtyExtents env item.2 with
  | .ok extents => result.set item.1 extents
  | .error _ => result

/-- The dirty extents of each bitmap of a volume. -/
def extractDirtyExtentsFor (env : CbtEnv) (sr_uri vdi_key : String) :
    Except CbtError (Dict String (List (ℕ × ℕ))) := do
  match ← env.load sr_uri vdi_key with
  | some (.dict multi) => return multi.items.foldl (extractRound env) Dict.empty
  | _ => return Dict.empty

/-! ### Packing -/

def DEFAULT_CBT_GRANULARITY : ℕ := 65536

/-- The start of the requested extent, rounded down to a block. -/
def alignedStart (offset granularity : ℕ) : ℕ := offset / granularity * granularity

/-- The end of the requested extent, rounded up to a block. -/
def alignedEnd (offset length granularity : ℕ) : ℕ :=
  (offset + length + (granularity - 1)) / granularity * granularity

/-- The number of blocks of the rounded extent. -/
def nblocks (offset length granularity : ℕ) : ℕ :=
  (alignedEnd offset length granularity - alignedStart offset granularity) / granularity

/-- A bit for each block, all clear. -/
def emptyBits (offset length granularity : ℕ) : List UInt8 :=
  zeros ((nblocks offset length granularity + 7) / 8)

/-- The blocks an extent touches, counted from the start of the rounded extent. -/
def extentBlocks (offset length granularity : ℕ) (extent : ℕ × ℕ) : List ℕ :=
  let aligned_start := alignedStart offset granularity
  let clip_start := max extent.1 aligned_start
  let clip_end := min (extent.1 + extent.2) (alignedEnd offset length granularity)
  if clip_end ≤ clip_start then
    []
  else
    let first_block := (clip_start - aligned_start) / granularity
    let last_block := (clip_end - 1 - aligned_start) / granularity
    List.range' first_block (last_block + 1 - first_block)

/-- The bit string of a list of extents. -/
def packBits (extents : List (ℕ × ℕ)) (offset length granularity : ℕ) : List UInt8 :=
  extents.foldl (fun bits extent => (extentBlocks offset length granularity extent).foldl mark bits)
    (emptyBits offset length granularity)

/-- The base64 text of the bit string of a list of extents. -/
def packExtentsToBitmap (extents : List (ℕ × ℕ)) (offset length granularity : ℕ) : String :=
  String.ofList (encode64 (packBits extents offset length granularity))

/-! ### The report -/

/-- What `Volume.list_changed_blocks` returns. -/
structure Report where
  granularity : ℕ
  bitmap : String
  deriving DecidableEq, Repr

/-- Bit `b` of a report. -/
def Report.test (r : Report) (b : ℕ) : Bool := BitString.test (decode64 r.bitmap.toList) b

/-- The report of a volume without bitmaps. -/
def emptyChangedBlocksResult (offset length : ℕ) (granularity : ℕ := DEFAULT_CBT_GRANULARITY) :
    Report where
  granularity := granularity
  bitmap := String.ofList (encode64 (emptyBits offset length granularity))

/-- The granularity a bitmap counts with; none unless it is a positive integer. -/
def payloadGranularity : Single → Option ℕ
  | .dict payload => (payload.granularity.filter (0 < ·)).map Int.toNat
  | .other => none

/-- The coarsest granularity among the bitmaps. -/
def maxGranularity (bitmaps : List Single) : ℕ :=
  ((bitmaps.filterMap payloadGranularity).max?).getD DEFAULT_CBT_GRANULARITY

/-- The granularity of the report on a volume. -/
def resolveChangedBlocksGranularity (env : CbtEnv) (sr_uri vdi_key : String) :
    Except CbtError ℕ :=
  if env.importable then do
    match ← env.load sr_uri vdi_key with
    | some (.dict multi) => return maxGranularity multi.values
    | _ => return DEFAULT_CBT_GRANULARITY
  else
    return DEFAULT_CBT_GRANULARITY

/-- The blocks that changed between the volumes `key` and `key2`: only the state of `key2` is read,
and a failure to read it is reported as no change. -/
def listChangedBlocks (env : CbtEnv) (sr _key key2 : String) (offset length : ℕ) :
    Except CbtError Report :=
  if env.importable then
    let sr_uri := "file://" ++ sr
    match extractDirtyExtentsFor env sr_uri key2 with
    | .error _ => return emptyChangedBlocksResult offset length
    | .ok extents_b => do
        let granularity ← resolveChangedBlocksGranularity env sr_uri key2
        let all_extents := extents_b.values.flatten
        return ⟨granularity, packExtentsToBitmap all_extents offset length granularity⟩
  else
    return emptyChangedBlocksResult offset length

/-! ### What packing sets -/

/-- Byte `x` lies in one of the extents. -/
def Marks (extents : List (ℕ × ℕ)) (x : ℕ) : Prop := ∃ e ∈ extents, e.1 ≤ x ∧ x < e.1 + e.2

/-- Byte `x` lies in block `b` of a rounded extent that starts in the block of `offset`. -/
def InBlock (offset granularity b x : ℕ) : Prop := x / granularity = offset / granularity + b

theorem nblocks_eq {granularity : ℕ} (hg : 0 < granularity) (offset length : ℕ) :
    nblocks offset length granularity =
      (offset + length + (granularity - 1)) / granularity - offset / granularity := by
  rw [nblocks, alignedEnd, alignedStart, ← Nat.sub_mul, Nat.mul_div_cancel _ hg]

theorem mem_extentBlocks {granularity : ℕ} (hg : 0 < granularity) {offset length b : ℕ}
    {e : ℕ × ℕ} : b ∈ extentBlocks offset length granularity e ↔
      b < nblocks offset length granularity ∧
        ∃ x, (e.1 ≤ x ∧ x < e.1 + e.2) ∧ InBlock offset granularity b x := by
  rw [nblocks_eq hg]
  generalize hm : (offset + length + (granularity - 1)) / granularity = m
  generalize hs : offset / granularity = s
  have hblocks : extentBlocks offset length granularity e =
      if min (e.1 + e.2) (m * granularity) ≤ max e.1 (s * granularity) then [] else
        List.range' ((max e.1 (s * granularity) - s * granularity) / granularity)
          ((min (e.1 + e.2) (m * granularity) - 1 - s * granularity) / granularity + 1 -
            (max e.1 (s * granularity) - s * granularity) / granularity) := by
    rw [extentBlocks, alignedEnd, alignedStart, hm, hs]
  have hdiv : ∀ x, (x - s * granularity) / granularity = x / granularity - s := fun x => by
    rw [Nat.mul_comm, Nat.sub_mul_div]
  simp only [hblocks, hdiv, InBlock, hs]
  -- a byte is at or past the start of a block exactly when its block index is
  have hle : ∀ x k, k * granularity ≤ x ↔ k ≤ x / granularity := fun x k =>
    (Nat.le_div_iff_mul_le hg).symm
  constructor
  · intro hb
    split at hb
    · simp at hb
    · next hclip =>
      have hstart := (hle (max e.1 (s * granularity)) s).1 (le_max_right ..)
      have hstart' := (hle (min (e.1 + e.2) (m * granularity) - 1) s).1 (by omega)
      obtain ⟨hfirst, hlast⟩ : max e.1 (s * granularity) / granularity ≤ s + b ∧
          s + b ≤ (min (e.1 + e.2) (m * granularity) - 1) / granularity := by
        rw [List.mem_range'_1] at hb
        omega
      have hreach := (hle _ _).2 hlast
      have hend : s + b < m := by
        by_contra hge
        have := Nat.mul_le_mul_right granularity (not_lt.1 hge)
        omega
      refine ⟨by omega, max e.1 ((s + b) * granularity), ?_, ?_⟩
      · omega
      · rcases le_total e.1 ((s + b) * granularity) with h | h
        · rw [max_eq_right h, Nat.mul_div_cancel _ hg]
        · rw [max_eq_left h]
          have h₁ := (hle _ _).1 h
          have h₂ := Nat.div_le_div_right (c := granularity) (le_max_left e.1 (s * granularity))
          omega
  · rintro ⟨hb, x, ⟨hx₁, hx₂⟩, hx⟩
    have hxs : s * granularity ≤ x := (hle _ _).2 (by omega)
    have hxm : x < m * granularity := by
      by_contra hge
      have := (hle _ _).1 (not_lt.1 hge)
      omega
    have hmax : max e.1 (s * granularity) ≤ x := max_le hx₁ hxs
    have hmin : x < min (e.1 + e.2) (m * granularity) := lt_min hx₂ hxm
    have h₁ := Nat.div_le_div_right (c := granularity) hmax
    have h₂ : x / granularity ≤ (min (e.1 + e.2) (m * granularity) - 1) / granularity :=
      Nat.div_le_div_right (by omega)
    have h₃ := (hle (max e.1 (s * granularity)) s).1 (le_max_right ..)
    rw [if_neg (by omega), List.mem_range'_1]
    omega

theorem packBits_eq (extents : List (ℕ × ℕ)) (offset length granularity : ℕ) :
    packBits extents offset length granularity =
      (extents.flatMap (extentBlocks offset length granularity)).foldl mark
        (emptyBits offset length granularity) := by
  rw [packBits, List.foldl_flatMap]

/-- **A bit is set exactly when its block shares a byte with an extent.** -/
theorem test_packExtents {granularity : ℕ} (hg : 0 < granularity) (extents : List (ℕ × ℕ))
    (offset length b : ℕ) :
    BitString.test (decode64 (packExtentsToBitmap extents offset length granularity).toList) b =
        true ↔
      b < nblocks offset length granularity ∧ ∃ x, Marks extents x ∧ InBlock offset granularity b x := by
  have hbound : ∀ b ∈ extents.flatMap (extentBlocks offset length granularity),
      b < 8 * (emptyBits offset length granularity).length := by
    intro b hb
    obtain ⟨e, _, he⟩ := List.mem_flatMap.1 hb
    have := ((mem_extentBlocks hg).1 he).1
    rw [emptyBits, length_zeros]
    omega
  rw [packExtentsToBitmap, String.toList_ofList, decode64_encode64, packBits_eq,
    test_foldl_mark hbound, emptyBits, test_zeros, Bool.false_or, decide_eq_true_iff,
    List.mem_flatMap]
  constructor
  · rintro ⟨e, he, hb⟩
    obtain ⟨hlt, x, hx, hblock⟩ := (mem_extentBlocks hg).1 hb
    exact ⟨hlt, x, ⟨e, he, hx⟩, hblock⟩
  · rintro ⟨hlt, x, ⟨e, he, hx⟩, hblock⟩
    exact ⟨e, he, (mem_extentBlocks hg).2 ⟨hlt, x, hx, hblock⟩⟩

theorem test_emptyChangedBlocksResult (offset length granularity b : ℕ) :
    (emptyChangedBlocksResult offset length granularity).test b = false := by
  rw [Report.test, emptyChangedBlocksResult, String.toList_ofList, decode64_encode64, emptyBits,
    test_zeros]

/-! ### What is fetched -/

theorem mem_foldl_extractRound (env : CbtEnv) {items : List (String × Single)}
    (hnodup : (items.map Prod.fst).Nodup) {result : Dict String (List (ℕ × ℕ))}
    (hnew : ∀ k ∈ items.map Prod.fst, k ∉ result.keys) {name : String} {extents : List (ℕ × ℕ)} :
    (name, extents) ∈ (items.foldl (extractRound env) result).items ↔
      (name, extents) ∈ result.items ∨
        ∃ single, (name, single) ∈ items ∧ extractDirtyExtents env single = .ok extents := by
  induction items generalizing result with
  | nil => simp
  | cons item items ih =>
      obtain ⟨k, single⟩ := item
      rw [List.map_cons, List.nodup_cons] at hnodup
      have hk : ∀ es, (k, es) ∉ result.items := fun es hes =>
        hnew k (List.mem_cons_self ..) (Dict.mem_keys_of_mem hes)
      rw [List.foldl_cons]
      rcases hfetch : extractDirtyExtents env single with e | es
      · -- the bitmap is left out
        have hround : extractRound env result (k, single) = result := by simp [extractRound, hfetch]
        rw [hround, ih hnodup.2 fun k' hk' => hnew k' (List.mem_cons_of_mem _ hk')]
        refine or_congr_right (exists_congr fun s => ?_)
        simp only [List.mem_cons, Prod.mk.injEq]
        refine ⟨fun h => ⟨.inr h.1, h.2⟩, ?_⟩
        rintro ⟨⟨rfl, rfl⟩ | h, hs⟩
        · rw [hfetch] at hs; cases hs
        · exact ⟨h, hs⟩
      · have hround : extractRound env result (k, single) = result.set k es := by
          simp [extractRound, hfetch]
        have hnew' : ∀ k' ∈ items.map Prod.fst, k' ∉ (result.set k es).keys := by
          intro k' hk' hmem
          obtain ⟨⟨k'', es'⟩, hin, rfl⟩ := List.mem_map.1 hmem
          rw [Dict.mem_items_set] at hin
          split at hin
          · next heq => exact hnodup.1 (heq ▸ hk')
          · exact hnew k'' (List.mem_cons_of_mem _ hk') (Dict.mem_keys_of_mem hin)
        rw [hround, ih hnodup.2 hnew', Dict.mem_items_set]
        by_cases heq : name = k
        · subst heq
          have hnot : ∀ s, (name, s) ∉ items := fun s hs =>
            hnodup.1 (List.mem_map.2 ⟨_, hs, rfl⟩)
          simp only [if_true, hk, hnot, List.mem_cons, Prod.mk.injEq, true_and, or_false, false_and,
            exists_false, false_or, exists_eq_left, hfetch, Except.ok.injEq]
          exact eq_comm
        · simp [heq]

/-- **The extents that are fetched are the answers of the bitmaps that answer.** -/
theorem mem_extractDirtyExtentsFor {env : CbtEnv} {sr_uri vdi_key : String}
    {multi : Dict String Single} (hload : env.load sr_uri vdi_key = .ok (some (.dict multi))) :
    ∃ result, extractDirtyExtentsFor env sr_uri vdi_key = .ok result ∧
      ∀ name extents, (name, extents) ∈ result.items ↔
        ∃ single, (name, single) ∈ multi.items ∧ extractDirtyExtents env single = .ok extents := by
  refine ⟨multi.items.foldl (extractRound env) Dict.empty, ?_, fun name extents => ?_⟩
  · simp [extractDirtyExtentsFor, hload, bind, Except.bind, pure, Except.pure]
  · rw [mem_foldl_extractRound env multi.distinct (by simp [Dict.keys, Dict.empty])]
    simp

/-- The extents that the server of a bitmap tells; none when there is no server to ask, or it does
not answer. -/
def answer (env : CbtEnv) : Single → Option (List (ℕ × ℕ))
  | .other => none
  | .dict payload =>
      if env.importable ∧ payload.nbd_export.isSome then
        (extractDirtyExtents env (.dict payload)).toOption
      else
        none

theorem extractDirtyExtents_cases {env : CbtEnv} (himport : env.importable = true)
    {single : Single} {extents : List (ℕ × ℕ)}
    (h : extractDirtyExtents env single = .ok extents) :
    answer env single = some extents ∨ extents = [] := by
  rcases single with payload | _
  · by_cases hexp : payload.nbd_export.isSome
    · exact .inl (by simp [answer, himport, hexp, h, Except.toOption])
    · rw [Bool.not_eq_true, Option.isSome_eq_false_iff, Option.isNone_iff_eq_none] at hexp
      rw [extractDirtyExtents, hexp] at h
      exact .inr (by cases h; rfl)
  · cases h
    exact .inr rfl

theorem extractDirtyExtents_of_answer {env : CbtEnv} {single : Single} {extents : List (ℕ × ℕ)}
    (h : answer env single = some extents) :
    env.importable = true ∧ extractDirtyExtents env single = .ok extents := by
  rcases single with payload | _
  · rw [answer] at h
    split at h
    · next hc =>
      refine ⟨hc.1, ?_⟩
      rcases hx : extractDirtyExtents env (.dict payload) with _ | es <;> rw [hx] at h
      · cases h
      · simpa [Except.toOption] using h
    · cases h
  · cases h

/-- The granularity of the report on a volume whose bitmaps are `multi`. -/
def reportGranularity (env : CbtEnv) (multi : Dict String Single) : ℕ :=
  if env.importable then maxGranularity multi.values else DEFAULT_CBT_GRANULARITY

theorem reportGranularity_pos (env : CbtEnv) (multi : Dict String Single) :
    0 < reportGranularity env multi := by
  rw [reportGranularity]
  split
  · rw [maxGranularity]
    rcases hmax : (multi.values.filterMap payloadGranularity).max? with _ | g
    · decide
    · obtain ⟨single, _, hg⟩ := List.mem_filterMap.1 (List.max?_mem hmax)
      rcases single with payload | _
      · rw [payloadGranularity, Option.map_eq_some_iff] at hg
        obtain ⟨z, hz, rfl⟩ := hg
        rw [Option.filter_eq_some_iff, decide_eq_true_iff] at hz
        rw [Option.getD_some]
        omega
      · cases hg
  · decide

/-- **The report on a volume sets a bit exactly when a bitmap that answers tells a byte of its
block.** -/
theorem listChangedBlocks_spec {env : CbtEnv} {sr key key2 : String} {multi : Dict String Single}
    (hload : env.load ("file://" ++ sr) key2 = .ok (some (.dict multi))) (offset length : ℕ) :
    ∃ r, listChangedBlocks env sr key key2 offset length = .ok r ∧
      r.granularity = reportGranularity env multi ∧
      ∀ b, r.test b = true ↔ b < nblocks offset length r.granularity ∧
        ∃ item ∈ multi.items, ∃ extents, answer env item.2 = some extents ∧
          ∃ x, Marks extents x ∧ InBlock offset r.granularity b x := by
  by_cases himport : env.importable
  · obtain ⟨result, hresult, hmem⟩ := mem_extractDirtyExtentsFor hload
    refine ⟨⟨maxGranularity multi.values, packExtentsToBitmap result.values.flatten offset length
      (maxGranularity multi.values)⟩, ?_, ?_, fun b => ?_⟩
    · simp [listChangedBlocks, himport, hresult, resolveChangedBlocksGranularity, hload, bind,
        Except.bind, pure, Except.pure]
    · simp [reportGranularity, himport]
    · have hpos := reportGranularity_pos env multi
      rw [reportGranularity, if_pos himport] at hpos
      simp only [Report.test]
      rw [test_packExtents hpos]
      refine and_congr_right fun _ => ⟨?_, ?_⟩
      · rintro ⟨x, ⟨e, he, hx⟩, hblock⟩
        obtain ⟨extents, hext, he⟩ := List.mem_flatten.1 he
        obtain ⟨name, hname⟩ := Dict.mem_values.1 hext
        obtain ⟨single, hin, hfetch⟩ := (hmem name extents).1 hname
        rcases extractDirtyExtents_cases himport hfetch with ha | rfl
        · exact ⟨_, hin, extents, ha, x, ⟨e, he, hx⟩, hblock⟩
        · simp at he
      · rintro ⟨⟨name, single⟩, hin, extents, ha, x, ⟨e, he, hx⟩, hblock⟩
        have hfetch := (extractDirtyExtents_of_answer ha).2
        have hext : extents ∈ result.values :=
          Dict.mem_values.2 ⟨name, (hmem name extents).2 ⟨single, hin, hfetch⟩⟩
        exact ⟨x, ⟨e, List.mem_flatten.2 ⟨extents, hext, he⟩, hx⟩, hblock⟩
  · refine ⟨emptyChangedBlocksResult offset length, ?_, ?_, fun b => ?_⟩
    · simp [listChangedBlocks, himport, pure, Except.pure]
    · simp [reportGranularity, himport, emptyChangedBlocksResult]
    · rw [test_emptyChangedBlocksResult]
      simp only [Bool.false_eq_true, false_iff, not_and, not_exists]
      intro _ item _ extents ha
      exact absurd (extractDirtyExtents_of_answer ha).1 himport

theorem packExtentsToBitmap_nil (offset length granularity : ℕ) :
    packExtentsToBitmap [] offset length granularity =
      (emptyChangedBlocksResult offset length granularity).bitmap := by
  rw [packExtentsToBitmap, packBits, List.foldl_nil, emptyChangedBlocksResult]

/-- The report on a volume for which nothing is saved. -/
theorem listChangedBlocks_of_load_none {env : CbtEnv} {sr key key2 : String}
    (hload : env.load ("file://" ++ sr) key2 = .ok none) (offset length : ℕ) :
    listChangedBlocks env sr key key2 offset length =
      .ok (emptyChangedBlocksResult offset length) := by
  rw [listChangedBlocks]
  split
  · simp only [extractDirtyExtentsFor, hload, bind, Except.bind, pure, Except.pure,
      resolveChangedBlocksGranularity, if_pos ‹_›]
    have hvalues : (Dict.empty : Dict String (List (ℕ × ℕ))).values.flatten = [] := rfl
    rw [hvalues, packExtentsToBitmap_nil]
    rfl
  · rfl

/-- The call returns, whatever is saved. -/
theorem exists_listChangedBlocks (env : CbtEnv) (sr key key2 : String) (offset length : ℕ) :
    ∃ r, listChangedBlocks env sr key key2 offset length = .ok r := by
  rcases hload : env.load ("file://" ++ sr) key2 with e | _ | multi | _
  · refine ⟨emptyChangedBlocksResult offset length, ?_⟩
    simp [listChangedBlocks, extractDirtyExtentsFor, hload, bind, Except.bind, pure, Except.pure]
  · exact ⟨_, listChangedBlocks_of_load_none hload offset length⟩
  · obtain ⟨r, hr, -⟩ := @listChangedBlocks_spec _ sr key _ _ hload offset length
    exact ⟨r, hr⟩
  · rw [listChangedBlocks]
    split
    · simp [extractDirtyExtentsFor, hload, bind, Except.bind, pure, Except.pure,
        resolveChangedBlocksGranularity]
    · exact ⟨_, rfl⟩

/-! ### Unknown and clean -/

/-- Byte `x` is dirty in the bitmap of an entry: as its server tells, or, for a bitmap that does not
answer, as `lost` says. -/
def Recorded (env : CbtEnv) (lost : String → ℕ → Prop) (item : String × Single) (x : ℕ) : Prop :=
  match answer env item.2 with
  | some extents => Marks extents x
  | none => lost item.1 x

/-- The result is an error, or has a set bit for every block in which a bitmap records a byte. -/
def ReportsRecorded (env : CbtEnv) (lost : String → ℕ → Prop) (multi : Dict String Single)
    (offset length : ℕ) : Except CbtError Report → Prop
  | .error _ => True
  | .ok r => ∀ b < nblocks offset length r.granularity,
      (∃ item ∈ multi.items, ∃ x, Recorded env lost item x ∧ InBlock offset r.granularity b x) →
        r.test b = true

/-- A block in which a bitmap that does not answer records a byte is also touched by an extent of a
bitmap that answers. -/
def LostIsAnswered (env : CbtEnv) (lost : String → ℕ → Prop) (multi : Dict String Single)
    (offset length : ℕ) : Prop :=
  ∀ b < nblocks offset length (reportGranularity env multi),
    (∃ item ∈ multi.items, answer env item.2 = none ∧
      ∃ x, lost item.1 x ∧ InBlock offset (reportGranularity env multi) b x) →
    ∃ item ∈ multi.items, ∃ extents, answer env item.2 = some extents ∧
      ∃ x, Marks extents x ∧ InBlock offset (reportGranularity env multi) b x

/-- **When unknown is not reported as clean**: for every persisted payload of `key2` and every
combination of fetch outcomes. -/
theorem reportsRecorded_iff {env : CbtEnv} {sr key key2 : String} {multi : Dict String Single}
    (hload : env.load ("file://" ++ sr) key2 = .ok (some (.dict multi)))
    (lost : String → ℕ → Prop) (offset length : ℕ) :
    ReportsRecorded env lost multi offset length
        (listChangedBlocks env sr key key2 offset length) ↔
      LostIsAnswered env lost multi offset length := by
  obtain ⟨r, hr, hg, hbits⟩ : ∃ r, listChangedBlocks env sr key key2 offset length = .ok r ∧ _ :=
    listChangedBlocks_spec hload offset length
  rw [hr]
  simp only [ReportsRecorded, LostIsAnswered, hbits, hg]
  refine forall_congr' fun b => forall_congr' fun hb => ?_
  constructor
  · rintro h ⟨item, hin, hnone, x, hx, hblock⟩
    exact (h ⟨item, hin, x, by rwa [Recorded, hnone], hblock⟩).2
  · rintro h ⟨item, hin, x, hx, hblock⟩
    refine ⟨hb, ?_⟩
    rcases ha : answer env item.2 with _ | extents
    · rw [Recorded, ha] at hx
      exact h ⟨item, hin, ha, x, hx, hblock⟩
    · rw [Recorded, ha] at hx
      exact ⟨item, hin, extents, ha, x, hx, hblock⟩

/-- A saved bitmap of 64 KiB blocks behind the NBD server at `socket`. -/
def savedBitmap (name socket : String) : String × Single :=
  (name, .dict ⟨name, some 65536, 1, some ⟨some socket, some "vdi", some name⟩⟩)

/-- A host whose pickles all hold `multi`, and whose NBD servers answer as `servers` says. -/
def savedEnv (multi : Dict String Single) (servers : String → Option (List (ℕ × ℕ))) : CbtEnv where
  importable := true
  load _ _ := .ok (some (.dict multi))
  fetch socket _ _ :=
    match servers socket with
    | some extents => .ok extents
    | none => .error .nbd

/-- Two bitmaps, of which one answers with the first two blocks and the other, which records the
second block, does not. -/
theorem reportsRecorded_iff_two_bitmaps :
    let multi : Dict String Single :=
      ⟨[savedBitmap "cbt-active" "live", savedBitmap "cbt-snap-1" "dead"], by decide⟩
    let env := savedEnv multi fun socket => if socket = "live" then some [(0, 131072)] else none
    ReportsRecorded env (fun _ x => 65536 ≤ x ∧ x < 131072) multi 0 262144
        (listChangedBlocks env "sr" "old" "new" 0 262144) ↔
      LostIsAnswered env (fun _ x => 65536 ≤ x ∧ x < 131072) multi 0 262144 := by
  intro multi env
  exact reportsRecorded_iff (by rfl) _ 0 262144

/-- A bitmap that records its first block and whose server is gone: the report is the one of a bitmap
that was fetched and is clean. -/
theorem not_reportsRecorded_dead_server :
    let multi : Dict String Single := ⟨[savedBitmap "cbt-active" "dead"], by decide⟩
    listChangedBlocks (savedEnv multi fun _ => none) "sr" "old" "new" 0 65536 =
        listChangedBlocks (savedEnv multi fun _ => some []) "sr" "old" "new" 0 65536 ∧
      ¬ ReportsRecorded (savedEnv multi fun _ => none) (fun _ x => x < 65536) multi 0 65536
        (listChangedBlocks (savedEnv multi fun _ => none) "sr" "old" "new" 0 65536) := by
  intro multi
  have hclean : listChangedBlocks (savedEnv multi fun _ => none) "sr" "old" "new" 0 65536 =
      .ok ⟨65536, "AA=="⟩ := by decide
  refine ⟨by decide, fun h => ?_⟩
  rw [hclean] at h
  have hbit := h 0 (by decide) ⟨savedBitmap "cbt-active" "dead", List.mem_singleton_self _, 0,
    (by decide : 0 < 65536), rfl⟩
  exact absurd hbit (by decide)

end ChangedBlocks

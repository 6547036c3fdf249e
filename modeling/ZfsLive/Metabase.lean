/-
**The metabase of a storage repository**: the tables of volumes and of VDIs that the volume driver
keeps through libcow.

Every VDI has one volume and a volume at most one VDI, so the two tables are one here: a volume row
carries the VDI row that refers to it, if there is one.  The driver sees a VDI together with its
volume; this joined row is a `Vdi`.

* `Metabase` — rows under ids that are not used twice;
* `Metabase.getVdiById`, `Metabase.insertVdi`, … — the queries and updates the driver makes;
* `Metabase.mem_vdis_insertVdi`, `Metabase.mem_vdis_deleteVdi`, … — the VDIs after each update.
-/

import Mathlib.Data.Nat.Notation
import Mathlib.Tactic.Common
import ZfsLive.Base.Dict

set_option relaxedAutoImplicit false
set_option autoImplicit false

/-- The columns of a VDI that are its own. -/
structure VdiCols where
  uuid : String
  name : String
  description : String
  sharable : Bool
  deriving DecidableEq, Repr

/-- A volume, and its VDI if it has one.  `vsize` is `none` for the SQL `NULL`. -/
structure VolumeRow where
  parent_id : Option ℕ
  snap : Bool
  vsize : Option ℕ
  vdi : Option VdiCols
  deriving DecidableEq, Repr

/-- A VDI with the volume it refers to. -/
structure Vdi where
  uuid : String
  name : String
  description : String
  sharable : Bool
  volume_id : ℕ
  parent_id : Option ℕ
  snap : Bool
  vsize : Option ℕ
  deriving DecidableEq, Repr

/-- The joined row of a volume row and its VDI. -/
def VolumeRow.join (row : VolumeRow) (id : ℕ) (cols : VdiCols) : Vdi where
  uuid := cols.uuid
  name := cols.name
  description := cols.description
  sharable := cols.sharable
  volume_id := id
  parent_id := row.parent_id
  snap := row.snap
  vsize := row.vsize

/-- The VDIs of the rows have different uuids. -/
def UuidsDistinct (rows : Dict ℕ VolumeRow) : Prop :=
  ∀ e ∈ rows.items, ∀ e' ∈ rows.items, ∀ c c', e.2.vdi = some c → e'.2.vdi = some c' →
    c.uuid = c'.uuid → e.1 = e'.1

/-- The rows of a metabase, and the id of the next volume. -/
structure Metabase where
  rows : Dict ℕ VolumeRow
  next : ℕ
  fresh : ∀ e ∈ rows.items, e.1 < next
  distinct : UuidsDistinct rows

namespace Metabase

/-- The metabase of a new repository. -/
def empty : Metabase := ⟨Dict.empty, 0, by simp, by simp [UuidsDistinct]⟩

/-- The VDIs. -/
def vdis (db : Metabase) : List Vdi :=
  db.rows.items.filterMap fun e => e.2.vdi.map (e.2.join e.1)

/-! ### Queries -/

/-- The VDI with the uuid `key`. -/
def getVdiById (db : Metabase) (key : String) : Option Vdi := db.vdis.find? (·.uuid = key)

/-- The VDI of a volume. -/
def getVdiForVolume (db : Metabase) (id : ℕ) : Option Vdi := db.vdis.find? (·.volume_id = id)

/-! ### Updates -/

/-- Add a volume without a VDI; it gets the next id. -/
def insertVolume (db : Metabase) (parent_id : Option ℕ) (snap : Bool) (vsize : Option ℕ) :
    Metabase where
  rows := db.rows.set db.next ⟨parent_id, snap, vsize, none⟩
  next := db.next + 1
  fresh := by
    rintro ⟨id, r⟩ h
    rw [Dict.mem_items_set] at h
    split at h
    · next heq => simp [heq]
    · exact Nat.lt_succ_of_lt (db.fresh _ h)
  distinct := by
    have hold : ∀ e ∈ (db.rows.set db.next ⟨parent_id, snap, vsize, none⟩).items, ∀ c,
        e.2.vdi = some c → e ∈ db.rows.items := by
      rintro ⟨id, r⟩ h c hc
      rw [Dict.mem_items_set] at h
      split at h
      · rw [h] at hc
        cases hc
      · exact h
    exact fun e he e' he' c c' hc hc' =>
      db.distinct e (hold e he c hc) e' (hold e' he' c' hc') c c' hc hc'

/-- `insert_new_volume`. -/
def insertNewVolume (db : Metabase) (vsize : ℕ) : ℕ × Metabase :=
  (db.next, db.insertVolume none false (some vsize))

/-- `insert_child_volume`. -/
def insertChildVolume (db : Metabase) (parent_id : Option ℕ) (vsize : Option ℕ)
    (is_snapshot : Bool := false) : ℕ × Metabase :=
  (db.next, db.insertVolume parent_id is_snapshot vsize)

/-- Change the volume rows, without adding a VDI. -/
def mapRows (db : Metabase) (f : ℕ → VolumeRow → VolumeRow)
    (hf : ∀ id row c, (f id row).vdi = some c → row.vdi = some c) : Metabase where
  rows := db.rows.mapVals f
  next := db.next
  fresh := by
    rintro ⟨id, r⟩ h
    obtain ⟨b, hb, -⟩ := Dict.mem_items_mapVals.1 h
    exact db.fresh (id, b) hb
  distinct := by
    rintro ⟨id, r⟩ h ⟨id', r'⟩ h' c c' hc hc'
    obtain ⟨b, hb, rfl⟩ := Dict.mem_items_mapVals.1 h
    obtain ⟨b', hb', rfl⟩ := Dict.mem_items_mapVals.1 h'
    exact db.distinct _ hb _ hb' c c' (hf _ _ _ hc) (hf _ _ _ hc')

/-- The row of a volume refers to a VDI now. -/
def attach (cols : VdiCols) (volume_id id : ℕ) (row : VolumeRow) : VolumeRow :=
  if id = volume_id then { row with vdi := some cols } else row

/-- `insert_vdi`: the uuids of VDIs differ. -/
def insertVdi (db : Metabase) (cols : VdiCols) (volume_id : ℕ) : Option Metabase :=
  if hnew : ∀ v ∈ db.vdis, v.uuid ≠ cols.uuid then
    some
      { rows := db.rows.mapVals (attach cols volume_id)
        next := db.next
        fresh := by
          rintro ⟨id, r⟩ h
          obtain ⟨b, hb, -⟩ := Dict.mem_items_mapVals.1 h
          exact db.fresh (id, b) hb
        distinct := by
          -- a row that has its VDI from before does not have the new uuid
          have hold : ∀ id b c, (id, b) ∈ db.rows.items → (attach cols volume_id id b).vdi = some c →
              id = volume_id ∧ c = cols ∨ b.vdi = some c ∧ c.uuid ≠ cols.uuid := by
            intro id b c hb hc
            rw [attach] at hc
            split at hc
            · next hid => exact .inl ⟨hid, (Option.some.inj hc).symm⟩
            · refine .inr ⟨hc, hnew (b.join id c) ?_⟩
              exact List.mem_filterMap.2 ⟨(id, b), hb, by simp [hc]⟩
          rintro ⟨id, r⟩ h ⟨id', r'⟩ h' c c' hc hc' heq
          obtain ⟨b, hb, rfl⟩ := Dict.mem_items_mapVals.1 h
          obtain ⟨b', hb', rfl⟩ := Dict.mem_items_mapVals.1 h'
          rcases hold id b c hb hc with ⟨rfl, rfl⟩ | ⟨hc, hne⟩
          · rcases hold id' b' c' hb' hc' with ⟨rfl, _⟩ | ⟨_, hne'⟩
            · rfl
            · exact absurd heq.symm hne'
          · rcases hold id' b' c' hb' hc' with ⟨_, rfl⟩ | ⟨hc', _⟩
            · exact absurd heq hne
            · exact db.distinct (id, b) hb (id', b') hb' c c' hc hc' heq }
  else
    none

/-- `update_volume_vsize`. -/
def updateVolumeVsize (db : Metabase) (volume_id : ℕ) (vsize : Option ℕ) : Metabase :=
  db.mapRows (fun id row => if id = volume_id then { row with vsize := vsize } else row) <| by
    intro id row c hc
    split at hc <;> exact hc

/-- `delete_vdi`. -/
def deleteVdi (db : Metabase) (key : String) : Metabase :=
  db.mapRows (fun _ row => { row with vdi := row.vdi.filter (·.uuid ≠ key) }) <| by
    intro id row c hc
    exact (Option.filter_eq_some_iff.1 hc).1

/-- `delete_volume`. -/
def deleteVolume (db : Metabase) (volume_id : ℕ) : Metabase where
  rows := db.rows.erase volume_id
  next := db.next
  fresh := by
    rintro ⟨id, r⟩ h
    exact db.fresh _ (Dict.mem_items_erase.1 h).1
  distinct := fun e he e' he' =>
    db.distinct e (Dict.mem_items_erase.1 he).1 e' (Dict.mem_items_erase.1 he').1

/-! ### The VDIs after an update -/

variable {db : Metabase} {v : Vdi}

theorem mem_vdis : v ∈ db.vdis ↔
    ∃ id row cols, (id, row) ∈ db.rows.items ∧ row.vdi = some cols ∧ v = row.join id cols := by
  simp only [vdis, List.mem_filterMap, Option.map_eq_some_iff]
  constructor
  · rintro ⟨⟨id, row⟩, hmem, cols, hcols, rfl⟩
    exact ⟨id, row, cols, hmem, hcols, rfl⟩
  · rintro ⟨id, row, cols, hmem, hcols, rfl⟩
    exact ⟨(id, row), hmem, cols, hcols, rfl⟩

theorem volume_id_lt (h : v ∈ db.vdis) : v.volume_id < db.next := by
  obtain ⟨id, row, cols, hmem, _, rfl⟩ := mem_vdis.1 h
  exact db.fresh _ hmem

/-- A volume has at most one VDI. -/
theorem eq_of_volume_id {w : Vdi} (hv : v ∈ db.vdis) (hw : w ∈ db.vdis)
    (h : v.volume_id = w.volume_id) : v = w := by
  obtain ⟨id, row, cols, hmem, hcols, rfl⟩ := mem_vdis.1 hv
  obtain ⟨id', row', cols', hmem', hcols', rfl⟩ := mem_vdis.1 hw
  obtain rfl : id = id' := h
  obtain rfl : row = row' := Dict.eq_of_mem hmem hmem'
  obtain rfl : cols = cols' := Option.some.inj (hcols.symm.trans hcols')
  rfl

/-- The VDIs have different uuids. -/
theorem eq_of_uuid {w : Vdi} (hv : v ∈ db.vdis) (hw : w ∈ db.vdis) (h : v.uuid = w.uuid) : v = w := by
  refine eq_of_volume_id hv hw ?_
  obtain ⟨id, row, cols, hmem, hcols, rfl⟩ := mem_vdis.1 hv
  obtain ⟨id', row', cols', hmem', hcols', rfl⟩ := mem_vdis.1 hw
  exact db.distinct _ hmem _ hmem' cols cols' hcols hcols' h

theorem getVdiById_mem {key : String} (h : db.getVdiById key = some v) :
    v ∈ db.vdis ∧ v.uuid = key :=
  ⟨List.mem_of_find?_eq_some h, by simpa using List.find?_some h⟩

/-- The lookup finds the VDI with the uuid. -/
theorem getVdiById_eq (hv : v ∈ db.vdis) : db.getVdiById v.uuid = some v := by
  rcases h : db.getVdiById v.uuid with _ | w
  · exact absurd hv (by simpa using List.find?_eq_none.1 h v)
  · obtain ⟨hw, huuid⟩ := getVdiById_mem h
    rw [eq_of_uuid hw hv huuid]

theorem getVdiForVolume_mem {id : ℕ} (h : db.getVdiForVolume id = some v) :
    v ∈ db.vdis ∧ v.volume_id = id :=
  ⟨List.mem_of_find?_eq_some h, by simpa using List.find?_some h⟩

/-- The lookup finds the VDI of the volume. -/
theorem getVdiForVolume_eq (hv : v ∈ db.vdis) : db.getVdiForVolume v.volume_id = some v := by
  rcases h : db.getVdiForVolume v.volume_id with _ | w
  · exact absurd hv (by simpa using List.find?_eq_none.1 h v)
  · obtain ⟨hw, hid⟩ := getVdiForVolume_mem h
    rw [eq_of_volume_id hw hv hid]

@[simp] theorem vdis_empty : empty.vdis = [] := rfl

/-- A volume without a VDI adds no VDI. -/
theorem mem_vdis_insertVolume {parent_id : Option ℕ} {snap : Bool} {vsize : Option ℕ} :
    v ∈ (db.insertVolume parent_id snap vsize).vdis ↔ v ∈ db.vdis := by
  simp only [mem_vdis, insertVolume, Dict.mem_items_set]
  constructor
  · rintro ⟨id, r, cols, hmem, hcols, rfl⟩
    split at hmem
    · rw [hmem] at hcols
      cases hcols
    · exact ⟨id, r, cols, hmem, hcols, rfl⟩
  · rintro ⟨id, r, cols, hmem, hcols, rfl⟩
    refine ⟨id, r, cols, ?_, hcols, rfl⟩
    rwa [if_neg (Nat.ne_of_lt (db.fresh _ hmem))]

theorem mem_items_mapRows {f : ℕ → VolumeRow → VolumeRow}
    {hf : ∀ id row c, (f id row).vdi = some c → row.vdi = some c} {id : ℕ} {row : VolumeRow} :
    (id, row) ∈ (db.mapRows f hf).rows.items ↔ ∃ r, (id, r) ∈ db.rows.items ∧ row = f id r :=
  Dict.mem_items_mapVals

/-- A VDI is refused only if its uuid is taken. -/
theorem exists_insertVdi {cols : VdiCols} {id : ℕ} (h : ∀ v ∈ db.vdis, v.uuid ≠ cols.uuid) :
    ∃ db', db.insertVdi cols id = some db' := by
  rw [insertVdi, dif_pos h]
  exact ⟨_, rfl⟩

/-- The VDI of a new row joins those of the other volumes. -/
theorem mem_vdis_insertVdi {db' : Metabase} {cols : VdiCols} {id : ℕ} {row : VolumeRow}
    (h : db.insertVdi cols id = some db') (hrow : (id, row) ∈ db.rows.items) :
    v ∈ db'.vdis ↔ v = row.join id cols ∨ v ∈ db.vdis ∧ v.volume_id ≠ id := by
  rw [insertVdi] at h
  split at h
  · cases h
    simp only [mem_vdis, Dict.mem_items_mapVals, attach]
    constructor
    · rintro ⟨id', r, cols', ⟨r₀, hmem, rfl⟩, hcols, rfl⟩
      by_cases hid : id' = id
      · subst hid
        obtain rfl : r₀ = row := Dict.eq_of_mem hmem hrow
        rw [if_pos rfl] at hcols ⊢
        obtain rfl : cols = cols' := by simpa using hcols
        exact .inl rfl
      · rw [if_neg hid] at hcols ⊢
        exact .inr ⟨⟨id', r₀, cols', hmem, hcols, rfl⟩, hid⟩
    · rintro (rfl | ⟨⟨id', r, cols', hmem, hcols, rfl⟩, hid⟩)
      · exact ⟨id, { row with vdi := some cols }, cols, ⟨row, hrow, by rw [if_pos rfl]⟩, rfl, rfl⟩
      · have hid' : id' ≠ id := hid
        exact ⟨id', r, cols', ⟨r, hmem, by rw [if_neg hid']⟩, hcols, rfl⟩
  · cases h

/-- A VDI after another one was inserted is that one or was there. -/
theorem mem_vdis_of_insertVdi {db' : Metabase} {cols : VdiCols} {id : ℕ}
    (h : db.insertVdi cols id = some db') (hv : v ∈ db'.vdis) :
    (v.uuid = cols.uuid ∧ v.volume_id = id) ∨ v ∈ db.vdis := by
  rw [insertVdi] at h
  split at h
  · cases h
    simp only [mem_vdis, Dict.mem_items_mapVals, attach] at hv
    obtain ⟨id', r, cols', ⟨r₀, hmem, rfl⟩, hcols, rfl⟩ := hv
    by_cases hid : id' = id
    · rw [if_pos hid] at hcols
      obtain rfl : cols = cols' := Option.some.inj hcols
      exact .inl ⟨rfl, hid⟩
    · rw [if_neg hid] at hcols ⊢
      exact .inr (mem_vdis.2 ⟨id', r₀, cols', hmem, hcols, rfl⟩)
  · cases h

/-- A new volume with its VDI. -/
theorem mem_vdis_insertBoth {db' : Metabase} {parent_id : Option ℕ} {snap : Bool}
    {vsize : Option ℕ} {cols : VdiCols}
    (h : (db.insertVolume parent_id snap vsize).insertVdi cols db.next = some db') :
    v ∈ db'.vdis ↔
      v = (⟨parent_id, snap, vsize, none⟩ : VolumeRow).join db.next cols ∨ v ∈ db.vdis := by
  have hmem : (db.next, (⟨parent_id, snap, vsize, none⟩ : VolumeRow)) ∈
      (db.insertVolume parent_id snap vsize).rows.items := by
    rw [insertVolume, Dict.mem_items_set, if_pos rfl]
  rw [mem_vdis_insertVdi h hmem, mem_vdis_insertVolume]
  exact or_congr_right (and_iff_left_of_imp fun hv => Nat.ne_of_lt (volume_id_lt hv))

/-- Updating a size changes no other column of a VDI. -/
theorem mem_vdis_updateVolumeVsize {id : ℕ} {x : Option ℕ} :
    v ∈ (db.updateVolumeVsize id x).vdis ↔
      ∃ w ∈ db.vdis, v = if w.volume_id = id then { w with vsize := x } else w := by
  simp only [updateVolumeVsize, mem_vdis, mem_items_mapRows]
  constructor
  · rintro ⟨id', r, cols, ⟨r₀, hmem, rfl⟩, hcols, rfl⟩
    by_cases hid : id' = id
    · rw [if_pos hid] at hcols ⊢
      exact ⟨r₀.join id' cols, ⟨id', r₀, cols, hmem, hcols, rfl⟩, by simp [VolumeRow.join, hid]⟩
    · rw [if_neg hid] at hcols ⊢
      exact ⟨r₀.join id' cols, ⟨id', r₀, cols, hmem, hcols, rfl⟩, by simp [VolumeRow.join, hid]⟩
  · rintro ⟨w, ⟨id', r, cols, hmem, hcols, rfl⟩, rfl⟩
    by_cases hid : id' = id
    · exact ⟨id', { r with vsize := x }, cols, ⟨r, hmem, by rw [if_pos hid]⟩, hcols,
        by simp [VolumeRow.join, hid]⟩
    · exact ⟨id', r, cols, ⟨r, hmem, by rw [if_neg hid]⟩, hcols, by simp [VolumeRow.join, hid]⟩

/-- A volume and its VDI are inserted, and the size is set. -/
theorem mem_vdis_insertSized {db' : Metabase} {parent_id : Option ℕ} {snap : Bool}
    {vsize x : Option ℕ} {cols : VdiCols}
    (h : (db.insertVolume parent_id snap vsize).insertVdi cols db.next = some db') :
    v ∈ (db'.updateVolumeVsize db.next x).vdis ↔
      v = (⟨parent_id, snap, x, none⟩ : VolumeRow).join db.next cols ∨ v ∈ db.vdis := by
  have hold : ∀ c ∈ db.vdis, c.volume_id ≠ db.next := fun c hc => Nat.ne_of_lt (volume_id_lt hc)
  simp only [mem_vdis_updateVolumeVsize, mem_vdis_insertBoth h]
  constructor
  · rintro ⟨c, rfl | hc, rfl⟩
    · exact .inl (if_pos rfl)
    · rw [if_neg (hold c hc)]
      exact .inr hc
  · rintro (rfl | hv)
    · exact ⟨_, .inl rfl, (if_pos rfl).symm⟩
    · exact ⟨v, .inr hv, (if_neg (hold v hv)).symm⟩

/-- A row after an update of a size has the uuid and the kind of a row before it. -/
theorem exists_of_mem_updateVolumeVsize {id : ℕ} {x : Option ℕ}
    (h : v ∈ (db.updateVolumeVsize id x).vdis) :
    ∃ w ∈ db.vdis, w.uuid = v.uuid ∧ w.snap = v.snap := by
  obtain ⟨w, hw, rfl⟩ := mem_vdis_updateVolumeVsize.1 h
  refine ⟨w, hw, ?_⟩
  split <;> exact ⟨rfl, rfl⟩

/-- Updating a size changes no lookup of a VDI by its volume, up to sizes. -/
theorem getVdiForVolume_updateVolumeVsize (id i : ℕ) (x : Option ℕ) :
    ((db.updateVolumeVsize id x).getVdiForVolume i).map Vdi.uuid =
      (db.getVdiForVolume i).map Vdi.uuid := by
  rcases h : db.getVdiForVolume i with _ | v
  · rcases h' : (db.updateVolumeVsize id x).getVdiForVolume i with _ | v'
    · rfl
    · obtain ⟨hv', hid⟩ := getVdiForVolume_mem h'
      obtain ⟨w, hw, rfl⟩ := mem_vdis_updateVolumeVsize.1 hv'
      have hwi : w.volume_id = i := by
        rw [← hid]
        split <;> rfl
      rw [← hwi, getVdiForVolume_eq hw] at h
      cases h
  · obtain ⟨hv, rfl⟩ := getVdiForVolume_mem h
    have hv' : (if v.volume_id = id then { v with vsize := x } else v) ∈
        (db.updateVolumeVsize id x).vdis := mem_vdis_updateVolumeVsize.2 ⟨v, hv, rfl⟩
    have heq := getVdiForVolume_eq hv'
    have hid : (if v.volume_id = id then { v with vsize := x } else v).volume_id = v.volume_id := by
      split <;> rfl
    rw [hid] at heq
    rw [heq, Option.map_some, Option.map_some]
    split <;> rfl

theorem mem_vdis_deleteVdi {key : String} :
    v ∈ (db.deleteVdi key).vdis ↔ v ∈ db.vdis ∧ v.uuid ≠ key := by
  simp only [deleteVdi, mem_vdis, mem_items_mapRows]
  constructor
  · rintro ⟨id, r, cols, ⟨r₀, hmem, rfl⟩, hcols, rfl⟩
    obtain ⟨hcols, hne⟩ := Option.filter_eq_some_iff.1 hcols
    exact ⟨⟨id, r₀, cols, hmem, hcols, rfl⟩, by simpa [VolumeRow.join] using hne⟩
  · rintro ⟨⟨id, r, cols, hmem, hcols, rfl⟩, hne⟩
    exact ⟨id, { r with vdi := r.vdi.filter (·.uuid ≠ key) }, cols, ⟨r, hmem, rfl⟩,
      Option.filter_eq_some_iff.2 ⟨hcols, by simpa [VolumeRow.join] using hne⟩, rfl⟩

theorem mem_vdis_deleteVolume {id : ℕ} :
    v ∈ (db.deleteVolume id).vdis ↔ v ∈ db.vdis ∧ v.volume_id ≠ id := by
  simp only [deleteVolume, mem_vdis, Dict.mem_items_erase]
  constructor
  · rintro ⟨id', r, cols, ⟨hmem, hid⟩, hcols, rfl⟩
    exact ⟨⟨id', r, cols, hmem, hcols, rfl⟩, hid⟩
  · rintro ⟨⟨id', r, cols, hmem, hcols, rfl⟩, hid⟩
    exact ⟨id', r, cols, ⟨hmem, hid⟩, hcols, rfl⟩

end Metabase

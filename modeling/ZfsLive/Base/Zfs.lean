/-
**ZFS volumes, their snapshots and their clones**, as far as the `zfs` commands show them.

A `Store` is a set of named zvols.  A zvol owns its snapshots, oldest first, and a clone knows the
snapshot it was made from, its origin.  Promoting a clone turns it and its origin round: the snapshot
and all older ones of the origin's zvol move to the clone, and what was cloned from them follows.

* `Zfs.Store` and the commands `create`, `destroy`, `snapshot`, `destroySnap`, `clone`, `receive`,
  `promote`, `setVolsize`, each of which can be refused;
* `Zfs.Store.list`, `Zfs.Store.clones`, `Zfs.Store.findSnapshot` — what `zfs list` shows, in its order;
* `Zfs.WF` — the clone relation is well-founded and its origins exist; every command keeps it.
-/

import Mathlib.Data.List.Sort
import Mathlib.Data.Nat.Notation
import Mathlib.Tactic.Common

set_option relaxedAutoImplicit false
set_option autoImplicit false

namespace Zfs

/-! ### Names -/

/-- The name of a zvol: the components of its dataset, the pool first, and its own name. -/
structure ZvolName where
  dataset : List String
  vol : String
  deriving DecidableEq, Repr

/-- The pool of a zvol. -/
def ZvolName.pool (n : ZvolName) : Option String := n.dataset.head?

/-- A name as the commands print it. -/
def ZvolName.text (n : ZvolName) : String := "/".intercalate (n.dataset ++ [n.vol])

/-- The zvol lies in the dataset or below it. -/
def ZvolName.Under (n : ZvolName) (dataset : List String) : Prop := dataset <+: n.dataset

instance (n : ZvolName) (dataset : List String) : Decidable (n.Under dataset) :=
  inferInstanceAs (Decidable (dataset <+: n.dataset))

/-- The name of a snapshot. -/
structure SnapName where
  zvol : ZvolName
  id : String
  deriving DecidableEq, Repr

/-! ### Stores -/

/-- The bytes that were written to a volume, the latest first. -/
abbrev Content := List (ℕ × UInt8)

/-- The part of a content that lies before an offset. -/
def below (offset : ℕ) (c : Content) : Content := c.filter (·.1 < offset)

theorem below_append (offset : ℕ) (c d : Content) :
    below offset (c ++ d) = below offset c ++ below offset d := List.filter_append ..

/-- A cut further back takes nothing away from what lies before an offset. -/
theorem below_below {offset size : ℕ} (h : offset ≤ size) (c : Content) :
    below offset (below size c) = below offset c := by
  rw [below, below, below, List.filter_filter]
  refine List.filter_congr fun b _ => ?_
  have hlt : b.1 < offset → b.1 < size := fun hb => hb.trans_le h
  simpa using hlt

theorem below_sublist (offset : ℕ) (c : Content) : (below offset c).Sublist c := List.filter_sublist

/-- A snapshot. -/
structure Snap where
  id : String
  volsize : ℕ
  volblocksize : ℕ
  content : Content
  deriving DecidableEq, Repr

/-- What belongs to a zvol alone. -/
structure Props where
  volsize : ℕ
  volblocksize : ℕ
  refreservation : ℕ
  readonly : Bool
  /-- Some process has the block device open. -/
  busy : Bool
  content : Content
  /-- The `copies` property, where it is set on the zvol itself. -/
  copies : Option ℕ
  deriving DecidableEq, Repr

/-- The zvol gets another size; what lies behind the new end is lost. -/
def Props.resize (p : Props) (volsize : ℕ) : Props :=
  { p with volsize := volsize, content := below volsize p.content }

/-- A zvol, with its snapshots, oldest first, and the snapshot it is a clone of. -/
structure Zvol where
  props : Props
  snaps : List Snap
  origin : Option SnapName
  deriving DecidableEq, Repr

/-- The names of the snapshots of a zvol. -/
def Zvol.ids (v : Zvol) : List String := v.snaps.map Snap.id

/-- The zvols there are; `zvol` counts only at the names in `names`. -/
structure Store where
  names : List ZvolName
  zvol : ZvolName → Zvol
  /-- The `copies` property of a dataset, which its zvols inherit unless they have their own. -/
  copies : List String → ℕ

/-- Why a command is refused. -/
inductive ZfsError
  | noSuchDataset (n : ZvolName)
  | noSuchSnapshot (s : SnapName)
  | datasetExists (n : ZvolName)
  | snapshotExists (s : SnapName)
  | busy (n : ZvolName)
  | hasSnapshots (n : ZvolName)
  | hasClones (s : SnapName)
  | crossPool (n : ZvolName)
  | notClone (n : ZvolName)
  | conflict (n : ZvolName)
  | readonly (n : ZvolName)
  deriving DecidableEq, Repr

namespace Store

/-- The snapshot `s` exists. -/
def Has (z : Store) (s : SnapName) : Prop := s.zvol ∈ z.names ∧ s.id ∈ (z.zvol s.zvol).ids

instance (z : Store) (s : SnapName) : Decidable (z.Has s) :=
  inferInstanceAs (Decidable (_ ∧ _))

/-- The zvol `n` exists and owns the snapshot `t`. -/
def Owns (z : Store) (n : ZvolName) (t : Snap) : Prop := n ∈ z.names ∧ t ∈ (z.zvol n).snaps

theorem has_iff_owns {z : Store} {n : ZvolName} {id : String} :
    z.Has ⟨n, id⟩ ↔ ∃ t, z.Owns n t ∧ t.id = id := by
  simp only [Has, Owns, Zvol.ids, List.mem_map]
  constructor
  · rintro ⟨hn, t, ht, hid⟩
    exact ⟨t, ⟨hn, ht⟩, hid⟩
  · rintro ⟨t, ⟨hn, ht⟩, hid⟩
    exact ⟨hn, t, ht, hid⟩

/-- The store with the zvol `n` added or replaced. -/
def put (z : Store) (n : ZvolName) (v : Zvol) : Store :=
  { z with
    names := if n ∈ z.names then z.names else n :: z.names
    zvol := fun m => if m = n then v else z.zvol m }

@[simp] theorem mem_names_put {z : Store} {n m : ZvolName} {v : Zvol} :
    m ∈ (z.put n v).names ↔ m = n ∨ m ∈ z.names := by
  rw [put]
  by_cases hn : n ∈ z.names
  · rw [if_pos hn]
    refine ⟨.inr, ?_⟩
    rintro (rfl | h)
    · exact hn
    · exact h
  · rw [if_neg hn, List.mem_cons]

@[simp] theorem zvol_put_self (z : Store) (n : ZvolName) (v : Zvol) : (z.put n v).zvol n = v :=
  if_pos rfl

theorem zvol_put_of_ne (z : Store) {n m : ZvolName} (v : Zvol) (h : m ≠ n) :
    (z.put n v).zvol m = z.zvol m :=
  if_neg h

/-! ### Commands that change a store -/

/-- `zfs create -V`. -/
def create (z : Store) (n : ZvolName) (volsize volblocksize refreservation : ℕ) :
    Except ZfsError Store :=
  if n ∈ z.names then
    .error (.datasetExists n)
  else
    .ok (z.put n ⟨⟨volsize, volblocksize, refreservation, false, false, [], none⟩, [], none⟩)

/-- `zfs destroy` of a zvol. -/
def destroy (z : Store) (n : ZvolName) : Except ZfsError Store :=
  if n ∉ z.names then
    .error (.noSuchDataset n)
  else if (z.zvol n).props.busy then
    .error (.busy n)
  else if (z.zvol n).snaps ≠ [] then
    .error (.hasSnapshots n)
  else
    .ok { z with names := z.names.filter (· ≠ n) }

/-- `zfs snapshot`. -/
def snapshot (z : Store) (s : SnapName) : Except ZfsError Store :=
  if s.zvol ∉ z.names then
    .error (.noSuchDataset s.zvol)
  else if s.id ∈ (z.zvol s.zvol).ids then
    .error (.snapshotExists s)
  else
    let v := z.zvol s.zvol
    let t : Snap := ⟨s.id, v.props.volsize, v.props.volblocksize, v.props.content⟩
    .ok (z.put s.zvol { v with snaps := v.snaps ++ [t] })

/-- `zfs destroy` of a snapshot. -/
def destroySnap (z : Store) (s : SnapName) : Except ZfsError Store :=
  if ¬ z.Has s then
    .error (.noSuchSnapshot s)
  else if ∃ n ∈ z.names, (z.zvol n).origin = some s then
    .error (.hasClones s)
  else
    let v := z.zvol s.zvol
    .ok (z.put s.zvol { v with snaps := v.snaps.filter (·.id ≠ s.id) })

/-- `zfs clone`. -/
def clone (z : Store) (s : SnapName) (n : ZvolName) : Except ZfsError Store :=
  if s.zvol ∉ z.names then
    .error (.noSuchSnapshot s)
  else if n ∈ z.names then
    .error (.datasetExists n)
  else if n.pool ≠ s.zvol.pool then
    .error (.crossPool n)
  else
    match (z.zvol s.zvol).snaps.find? (·.id = s.id) with
    | none => .error (.noSuchSnapshot s)
    | some t =>
        .ok (z.put n ⟨⟨t.volsize, t.volblocksize, 0, false, false, t.content, none⟩, [], some s⟩)

/-- `zfs send | zfs receive`: the new zvol arrives with its snapshot. -/
def receive (z : Store) (s : SnapName) (n : ZvolName) : Except ZfsError Store :=
  if s.zvol ∉ z.names then
    .error (.noSuchSnapshot s)
  else if n ∈ z.names then
    .error (.datasetExists n)
  else
    match (z.zvol s.zvol).snaps.find? (·.id = s.id) with
    | none => .error (.noSuchSnapshot s)
    | some t =>
        .ok (z.put n ⟨⟨t.volsize, t.volblocksize, 0, false, false, t.content, none⟩, [t], none⟩)

/-- The stream that `zfs send` makes of a snapshot. -/
def stream (z : Store) (s : SnapName) : Option Snap :=
  if s.zvol ∈ z.names then (z.zvol s.zvol).snaps.find? (·.id = s.id) else none

/-- `zfs receive` of a full stream, from this host or from another one. -/
def receiveStream (z : Store) (t : Snap) (n : ZvolName) : Except ZfsError Store :=
  if n ∈ z.names then
    .error (.datasetExists n)
  else
    .ok (z.put n ⟨⟨t.volsize, t.volblocksize, 0, false, false, t.content, none⟩, [t], none⟩)

/-- `zfs destroy -r` of a zvol: its snapshots go with it, unless another zvol is a clone of one. -/
def destroyRecursive (z : Store) (n : ZvolName) : Except ZfsError Store :=
  if n ∉ z.names then
    .error (.noSuchDataset n)
  else if (z.zvol n).props.busy then
    .error (.busy n)
  else if ∃ m ∈ z.names, m ≠ n ∧ (z.zvol m).origin.map SnapName.zvol = some n then
    .error (.hasSnapshots n)
  else
    .ok { z with names := z.names.filter (· ≠ n) }

/-- The position after the snapshot `id`. -/
def splitAt (id : String) (snaps : List Snap) : ℕ := snaps.findIdx (·.id = id) + 1

/-- The snapshots that promoting a clone of `s` moves: `s` and the older ones. -/
def moved (z : Store) (s : SnapName) : List Snap :=
  (z.zvol s.zvol).snaps.take (splitAt s.id (z.zvol s.zvol).snaps)

/-- The snapshots that stay behind. -/
def kept (z : Store) (s : SnapName) : List Snap :=
  (z.zvol s.zvol).snaps.drop (splitAt s.id (z.zvol s.zvol).snaps)

/-- An origin after the clone `c` of `s` was promoted: what was cloned from a moved snapshot follows
it to `c`. -/
def follow (z : Store) (c : ZvolName) (s : SnapName) (origin : Option SnapName) : Option SnapName :=
  origin.map fun r =>
    if r.zvol = s.zvol ∧ r.id ∈ (z.moved s).map Snap.id then ⟨c, r.id⟩ else r

/-- The zvols after the clone `c` of `s` was promoted. -/
def promoted (z : Store) (c : ZvolName) (s : SnapName) (n : ZvolName) : Zvol :=
  if n = c then
    { z.zvol c with snaps := z.moved s ++ (z.zvol c).snaps, origin := (z.zvol s.zvol).origin }
  else if n = s.zvol then
    { z.zvol n with snaps := z.kept s, origin := some ⟨c, s.id⟩ }
  else
    { z.zvol n with origin := z.follow c s (z.zvol n).origin }

/-- The store after the clone `c` of `s` was promoted. -/
def turned (z : Store) (c : ZvolName) (s : SnapName) : Store := { z with zvol := z.promoted c s }

@[simp] theorem names_turned (z : Store) (c : ZvolName) (s : SnapName) :
    (z.turned c s).names = z.names := rfl

@[simp] theorem zvol_turned (z : Store) (c n : ZvolName) (s : SnapName) :
    (z.turned c s).zvol n = z.promoted c s n := rfl

/-- `zfs promote`. -/
def promote (z : Store) (c : ZvolName) : Except ZfsError Store :=
  if c ∉ z.names then
    .error (.noSuchDataset c)
  else
    match (z.zvol c).origin with
    | none => .error (.notClone c)
    | some s =>
        if ∃ t ∈ z.moved s, t.id ∈ (z.zvol c).ids then
          .error (.conflict c)
        else
          .ok (z.turned c s)

/-- `zfs set` of properties of a zvol. -/
def setProps (z : Store) (n : ZvolName) (f : Props → Props) : Except ZfsError Store :=
  if n ∈ z.names then
    .ok (z.put n { z.zvol n with props := f (z.zvol n).props })
  else
    .error (.noSuchDataset n)

/-- `zfs set volsize`, which is refused for a read-only zvol; `size` rounds to whole blocks. -/
def setVolsize (z : Store) (n : ZvolName) (size : ℕ → ℕ) : Except ZfsError Store :=
  if n ∈ z.names ∧ (z.zvol n).props.readonly = true then
    .error (.readonly n)
  else
    z.setProps n fun p => p.resize (size p.volblocksize)

/-- `zfs get` of a property of a zvol. -/
def getProp {α : Type} (z : Store) (n : ZvolName) (f : Props → α) : Except ZfsError α :=
  if n ∈ z.names then .ok (f (z.zvol n).props) else .error (.noSuchDataset n)

/-- The `copies` property of a zvol: its own value or the one it inherits. -/
def effectiveCopies (z : Store) (n : ZvolName) : ℕ :=
  (z.zvol n).props.copies.getD (z.copies n.dataset)

/-! ### Commands that list -/

/-- The zvols in the order of their names. -/
def list (z : Store) : List ZvolName := z.names.insertionSort fun n m => n.text ≤ m.text

/-- The clones of a snapshot, among the zvols of its pool. -/
def clones (z : Store) (s : SnapName) : List ZvolName :=
  z.list.filter fun n => n.pool = s.zvol.pool ∧ (z.zvol n).origin = some s

/-- The snapshots of a zvol, oldest first. -/
def snapshots (z : Store) (n : ZvolName) : Except ZfsError (List SnapName) :=
  if n ∈ z.names then .ok ((z.zvol n).ids.map (SnapName.mk n)) else .error (.noSuchDataset n)

/-- The snapshots in a dataset and below it. -/
def snapshotsUnder (z : Store) (dataset : List String) : List SnapName :=
  (z.list.filter (·.Under dataset)).flatMap fun n => (z.zvol n).ids.map (SnapName.mk n)

/-- The first snapshot with the name `id` in a dataset and below it. -/
def findSnapshot (z : Store) (dataset : List String) (id : String) : Option SnapName :=
  (z.snapshotsUnder dataset).find? (·.id = id)

@[simp] theorem mem_list {z : Store} {n : ZvolName} : n ∈ z.list ↔ n ∈ z.names :=
  List.mem_insertionSort _

theorem mem_clones {z : Store} {s : SnapName} {n : ZvolName} :
    n ∈ z.clones s ↔ n ∈ z.names ∧ n.pool = s.zvol.pool ∧ (z.zvol n).origin = some s := by
  simp [clones]

theorem mem_snapshotsUnder {z : Store} {dataset : List String} {s : SnapName} :
    s ∈ z.snapshotsUnder dataset ↔ s.zvol.Under dataset ∧ z.Has s := by
  obtain ⟨n, id⟩ := s
  simp only [snapshotsUnder, List.mem_flatMap, List.mem_filter, mem_list, decide_eq_true_iff,
    List.mem_map, SnapName.mk.injEq, Has]
  constructor
  · rintro ⟨m, ⟨hm, hunder⟩, id', hid, rfl, rfl⟩
    exact ⟨hunder, hm, hid⟩
  · rintro ⟨hunder, hm, hid⟩
    exact ⟨n, ⟨hm, hunder⟩, id, hid, rfl, rfl⟩

/-- **The lookup finds a snapshot exactly when there is one in the dataset.** -/
theorem findSnapshot_isSome {z : Store} {dataset : List String} {id : String} :
    (z.findSnapshot dataset id).isSome = true ↔
      ∃ n : ZvolName, n.Under dataset ∧ z.Has ⟨n, id⟩ := by
  rw [findSnapshot, List.find?_isSome]
  constructor
  · rintro ⟨⟨n, id'⟩, hmem, hid⟩
    obtain rfl : id' = id := by simpa using hid
    exact ⟨n, mem_snapshotsUnder.1 hmem⟩
  · rintro ⟨n, h⟩
    exact ⟨⟨n, id⟩, mem_snapshotsUnder.2 h, by simp⟩

theorem findSnapshot_spec {z : Store} {dataset : List String} {id : String} {s : SnapName}
    (h : z.findSnapshot dataset id = some s) : s.zvol.Under dataset ∧ z.Has s ∧ s.id = id := by
  have hmem := mem_snapshotsUnder.1 (List.mem_of_find?_eq_some h)
  exact ⟨hmem.1, hmem.2, by simpa using List.find?_some h⟩

/-- At most one zvol has a snapshot of this name. -/
def Unique (z : Store) (id : String) : Prop := ∀ n m, z.Has ⟨n, id⟩ → z.Has ⟨m, id⟩ → n = m

/-! ### What a command does when it is not refused -/

theorem has_put {z : Store} {n : ZvolName} {v : Zvol} {s : SnapName} :
    (z.put n v).Has s ↔ s.zvol = n ∧ s.id ∈ v.ids ∨ s.zvol ≠ n ∧ z.Has s := by
  by_cases hn : s.zvol = n
  · simp [Has, hn]
  · simp [Has, hn, zvol_put_of_ne]

theorem create_ok {z z' : Store} {n : ZvolName} {a b c : ℕ} (h : z.create n a b c = .ok z') :
    n ∉ z.names ∧ z' = z.put n ⟨⟨a, b, c, false, false, [], none⟩, [], none⟩ := by
  rw [create] at h
  split at h
  · cases h
  · next hn =>
    cases h
    exact ⟨hn, rfl⟩

theorem destroy_ok {z z' : Store} {n : ZvolName} (h : z.destroy n = .ok z') :
    n ∈ z.names ∧ (z.zvol n).props.busy = false ∧ (z.zvol n).snaps = [] ∧
      z' = { z with names := z.names.filter (· ≠ n) } := by
  rw [destroy] at h
  split_ifs at h with hn hbusy hsnaps
  cases h
  exact ⟨by simpa using hn, by simpa using hbusy, by simpa using hsnaps, rfl⟩

theorem snapshot_ok {z z' : Store} {s : SnapName} (h : z.snapshot s = .ok z') :
    s.zvol ∈ z.names ∧ s.id ∉ (z.zvol s.zvol).ids ∧
      ∃ t : Snap, t.id = s.id ∧ t.content = (z.zvol s.zvol).props.content ∧
        z' = z.put s.zvol { z.zvol s.zvol with snaps := (z.zvol s.zvol).snaps ++ [t] } := by
  rw [snapshot] at h
  split_ifs at h with hn hs
  cases h
  exact ⟨by simpa using hn, hs, ⟨_, _, _, _⟩, rfl, rfl, rfl⟩

theorem destroySnap_ok {z z' : Store} {s : SnapName} (h : z.destroySnap s = .ok z') :
    z.Has s ∧ (∀ n ∈ z.names, (z.zvol n).origin ≠ some s) ∧
      z' = z.put s.zvol { z.zvol s.zvol with
        snaps := (z.zvol s.zvol).snaps.filter (·.id ≠ s.id) } := by
  rw [destroySnap] at h
  split_ifs at h with hs hc
  cases h
  exact ⟨by simpa using hs, by simpa using hc, rfl⟩

theorem clone_ok {z z' : Store} {s : SnapName} {n : ZvolName} (h : z.clone s n = .ok z') :
    z.Has s ∧ n ∉ z.names ∧ n.pool = s.zvol.pool ∧
      ∃ t ∈ (z.zvol s.zvol).snaps, t.id = s.id ∧
        z' = z.put n ⟨⟨t.volsize, t.volblocksize, 0, false, false, t.content, none⟩, [], some s⟩ := by
  rw [clone] at h
  split_ifs at h with hs hn hp
  split at h
  · cases h
  · next t ht =>
    cases h
    have hmem := List.mem_of_find?_eq_some ht
    have hid : t.id = s.id := by simpa using List.find?_some ht
    exact ⟨⟨by simpa using hs, List.mem_map.2 ⟨t, hmem, hid⟩⟩, hn, by simpa using hp, t, hmem,
      hid, rfl⟩

/-- A clone is refused only where the target exists or lies in another pool. -/
theorem exists_clone {z : Store} {s : SnapName} {n : ZvolName} (hs : z.Has s) (hn : n ∉ z.names)
    (hp : n.pool = s.zvol.pool) : ∃ z', z.clone s n = .ok z' := by
  obtain ⟨t, ht, hid⟩ := List.mem_map.1 hs.2
  rw [clone, if_neg (not_not.2 hs.1), if_neg hn, if_neg (not_not.2 hp)]
  rcases h : (z.zvol s.zvol).snaps.find? (·.id = s.id) with _ | t'
  · exact absurd hid (by simpa using List.find?_eq_none.1 h t ht)
  · simp only [h]
    exact ⟨_, rfl⟩

/-- Destroying a zvol is refused only where it is in use or has snapshots. -/
theorem exists_destroy {z : Store} {n : ZvolName} (hn : n ∈ z.names)
    (hbusy : (z.zvol n).props.busy = false) (hsnaps : (z.zvol n).snaps = []) :
    ∃ z', z.destroy n = .ok z' := by
  rw [destroy, if_neg (not_not.2 hn), if_neg (by simp [hbusy]), if_neg (not_not.2 hsnaps)]
  exact ⟨_, rfl⟩

/-- Destroying a snapshot is refused only where it has clones. -/
theorem exists_destroySnap {z : Store} {s : SnapName} (hs : z.Has s)
    (hclones : ∀ n ∈ z.names, (z.zvol n).origin ≠ some s) : ∃ z', z.destroySnap s = .ok z' := by
  rw [destroySnap, if_neg (not_not.2 hs), if_neg (by simpa using hclones)]
  exact ⟨_, rfl⟩

theorem receive_ok {z z' : Store} {s : SnapName} {n : ZvolName} (h : z.receive s n = .ok z') :
    z.Has s ∧ n ∉ z.names ∧ ∃ t ∈ (z.zvol s.zvol).snaps, t.id = s.id ∧
        z' = z.put n ⟨⟨t.volsize, t.volblocksize, 0, false, false, t.content, none⟩, [t], none⟩ := by
  rw [receive] at h
  split_ifs at h with hs hn
  split at h
  · cases h
  · next t ht =>
    cases h
    have hmem := List.mem_of_find?_eq_some ht
    have hid : t.id = s.id := by simpa using List.find?_some ht
    exact ⟨⟨by simpa using hs, List.mem_map.2 ⟨t, hmem, hid⟩⟩, hn, t, hmem, hid, rfl⟩

theorem promote_ok {z z' : Store} {c : ZvolName} (h : z.promote c = .ok z') :
    c ∈ z.names ∧ ∃ s, (z.zvol c).origin = some s ∧
      (∀ t ∈ z.moved s, t.id ∉ (z.zvol c).ids) ∧ z' = z.turned c s := by
  rw [promote] at h
  split_ifs at h with hc
  split at h
  · cases h
  · next s hs =>
    split_ifs at h with hconf
    cases h
    exact ⟨by simpa using hc, s, hs, by simpa using hconf, rfl⟩

theorem setProps_ok {z z' : Store} {n : ZvolName} {f : Props → Props}
    (h : z.setProps n f = .ok z') :
    n ∈ z.names ∧ z' = z.put n { z.zvol n with props := f (z.zvol n).props } := by
  rw [setProps] at h
  split_ifs at h with hn
  cases h
  exact ⟨hn, rfl⟩

theorem setVolsize_of_writable {z : Store} {n : ZvolName} {size : ℕ → ℕ}
    (h : (z.zvol n).props.readonly = false) :
    z.setVolsize n size = z.setProps n fun p => p.resize (size p.volblocksize) := by
  rw [setVolsize, if_neg]
  simp [h]

/-- The size of a zvol that can be written is set like any other property. -/
theorem setVolsize_ok {z z' : Store} {n : ZvolName} {size : ℕ → ℕ}
    (h : z.setVolsize n size = .ok z') : (z.zvol n).props.readonly = false ∧
      z.setProps n (fun p => p.resize (size p.volblocksize)) = .ok z' := by
  rw [setVolsize] at h
  split_ifs at h with hro
  refine ⟨?_, h⟩
  simpa [(setProps_ok h).1] using hro

/-! ### The names and the snapshots after a command -/

theorem names_create {z z' : Store} {n : ZvolName} {a b c : ℕ} (h : z.create n a b c = .ok z')
    {m : ZvolName} : m ∈ z'.names ↔ m = n ∨ m ∈ z.names := by
  obtain ⟨_, rfl⟩ := create_ok h
  exact mem_names_put

theorem has_create {z z' : Store} {n : ZvolName} {a b c : ℕ} (h : z.create n a b c = .ok z')
    {r : SnapName} : z'.Has r ↔ z.Has r := by
  obtain ⟨hn, rfl⟩ := create_ok h
  have hne : z.Has r → r.zvol ≠ n := fun hr heq => hn (heq ▸ hr.1)
  simp only [has_put, Zvol.ids, List.map_nil, List.not_mem_nil, and_false, false_or]
  exact ⟨And.right, fun hr => ⟨hne hr, hr⟩⟩

theorem names_clone {z z' : Store} {s : SnapName} {n : ZvolName} (h : z.clone s n = .ok z')
    {m : ZvolName} : m ∈ z'.names ↔ m = n ∨ m ∈ z.names := by
  obtain ⟨_, _, _, _, _, _, rfl⟩ := clone_ok h
  exact mem_names_put

theorem has_clone {z z' : Store} {s : SnapName} {n : ZvolName} (h : z.clone s n = .ok z')
    {r : SnapName} : z'.Has r ↔ z.Has r := by
  obtain ⟨_, hn, _, _, _, _, rfl⟩ := clone_ok h
  have hne : z.Has r → r.zvol ≠ n := fun hr heq => hn (heq ▸ hr.1)
  simp only [has_put, Zvol.ids, List.map_nil, List.not_mem_nil, and_false, false_or]
  exact ⟨And.right, fun hr => ⟨hne hr, hr⟩⟩

theorem filter_orderedInsert {α : Type} (r : α → α → Prop) [DecidableRel r] {p : α → Bool} {a : α}
    (ha : p a = false) (l : List α) : (l.orderedInsert r a).filter p = l.filter p := by
  induction l with
  | nil => simp [ha]
  | cons b l ih =>
      rw [List.orderedInsert_cons]
      split
      · simp [ha]
      · rw [List.filter_cons, List.filter_cons, ih]

/-- A new clone of a snapshot is no clone of another one. -/
theorem clones_clone {z z' : Store} {s : SnapName} {n : ZvolName} (h : z.clone s n = .ok z')
    {r : SnapName} (hr : r ≠ s) : z'.clones r = z.clones r := by
  obtain ⟨_, hn, _, t, _, _, rfl⟩ := clone_ok h
  have hlist : ∀ v : Zvol, (z.put n v).list = z.list.orderedInsert (fun n m => n.text ≤ m.text) n :=
    fun v => by rw [list, put, if_neg hn]; rfl
  rw [clones, clones, hlist, filter_orderedInsert]
  · refine List.filter_congr fun m hm => ?_
    have hne : m ≠ n := fun heq => hn (heq ▸ mem_list.1 hm)
    rw [zvol_put_of_ne z _ hne]
  · simp [Ne.symm hr]

theorem filter_orderedInsert_of_pos {α : Type} (r : α → α → Prop) [DecidableRel r] [IsTrans α r]
    {p : α → Bool} {a : α} (ha : p a = true) {l : List α} (hl : l.Pairwise r) :
    (l.orderedInsert r a).filter p = (l.filter p).orderedInsert r a := by
  induction l with
  | nil => simp [ha]
  | cons b l ih =>
      obtain ⟨hb, hl⟩ := List.pairwise_cons.1 hl
      rw [List.orderedInsert_cons]
      split
      · next hab =>
          rw [List.filter_cons_of_pos ha]
          rcases hf : (b :: l).filter p with _ | ⟨c, cs⟩
          · rfl
          · have hc : c ∈ (b :: l).filter p := hf ▸ List.mem_cons_self
            have hac : r a c := by
              rcases List.mem_cons.1 (List.mem_of_mem_filter hc) with rfl | hc
              · exact hab
              · exact trans_of r hab (hb c hc)
            rw [List.orderedInsert_cons, if_pos hac]
      · next hab =>
          by_cases hp : p b
          · rw [List.filter_cons_of_pos hp, List.filter_cons_of_pos hp, ih hl,
              List.orderedInsert_cons, if_neg hab]
          · rw [List.filter_cons_of_neg hp, List.filter_cons_of_neg hp, ih hl]

theorem filter_list (z : Store) (n : ZvolName) :
    ({ z with names := z.names.filter (· ≠ n) } : Store).list = z.list.filter (· ≠ n) := by
  simp only [list]
  generalize z.names = names
  induction names with
  | nil => rfl
  | cons m names ih =>
      by_cases hm : m = n
      · subst hm
        rw [List.insertionSort_cons, filter_orderedInsert _ (by simp), ← ih,
          List.filter_cons_of_neg (by simp)]
      · rw [List.insertionSort_cons, filter_orderedInsert_of_pos _ (by simpa using hm), ← ih,
          List.filter_cons_of_pos (by simpa using hm), List.insertionSort_cons]
        exact List.pairwise_insertionSort _ _


theorem snapshotsUnder_destroy {z z' : Store} {n : ZvolName} (h : z.destroy n = .ok z')
    (dataset : List String) : z'.snapshotsUnder dataset = z.snapshotsUnder dataset := by
  obtain ⟨_, _, hsnaps, rfl⟩ := destroy_ok h
  simp only [snapshotsUnder, filter_list, List.filter_filter]
  induction z.list with
  | nil => rfl
  | cons m names ih =>
      by_cases hm : m = n
      · subst hm
        by_cases hu : m.Under dataset <;> simp_all [Zvol.ids]
      · by_cases hu : m.Under dataset <;> simp_all

theorem snapshotsUnder_destroySnap {z z' : Store} {s : SnapName} (h : z.destroySnap s = .ok z')
    (dataset : List String) :
    z'.snapshotsUnder dataset = (z.snapshotsUnder dataset).filter (· ≠ s) := by
  obtain ⟨hs, _, rfl⟩ := destroySnap_ok h
  have hlist : ∀ v : Zvol, (z.put s.zvol v).list = z.list := fun v => by
    rw [list, put, if_pos hs.1]
    rfl
  rw [snapshotsUnder, snapshotsUnder, hlist, List.filter_flatMap]
  congr 1
  funext m
  by_cases hm : m = s.zvol
  · subst hm
    rw [zvol_put_self, Zvol.ids, Zvol.ids]
    have hiff : ∀ t : Snap, (⟨s.zvol, t.id⟩ : SnapName) = s ↔ t.id = s.id := by
      obtain ⟨n, id⟩ := s
      simp
    rw [List.map_map, List.map_map, List.filter_map]
    congr 1
    exact List.filter_congr fun t _ => by simp [hiff]
  · rw [zvol_put_of_ne z _ hm]
    refine (List.filter_eq_self.2 fun r hr => ?_).symm
    obtain ⟨id, _, rfl⟩ := List.mem_map.1 hr
    simpa using fun heq => hm (congrArg SnapName.zvol heq)

/-- A snapshot that is destroyed does not count for the lookup of another name. -/
theorem findSnapshot_destroySnap {z z' : Store} {s : SnapName} (h : z.destroySnap s = .ok z')
    (dataset : List String) {id : String} (hid : s.id ≠ id) :
    z'.findSnapshot dataset id = z.findSnapshot dataset id := by
  rw [findSnapshot, findSnapshot, snapshotsUnder_destroySnap h, List.find?_filter]
  congr 1
  funext r
  by_cases hr : r.id = id
  · have hne : r ≠ s := fun heq => hid (heq ▸ hr)
    simp [hr, hne]
  · simp [hr]

theorem names_receive {z z' : Store} {s : SnapName} {n : ZvolName} (h : z.receive s n = .ok z')
    {m : ZvolName} : m ∈ z'.names ↔ m = n ∨ m ∈ z.names := by
  obtain ⟨_, _, _, _, _, rfl⟩ := receive_ok h
  exact mem_names_put

theorem has_receive {z z' : Store} {s : SnapName} {n : ZvolName} (h : z.receive s n = .ok z')
    {r : SnapName} : z'.Has r ↔ z.Has r ∨ r = ⟨n, s.id⟩ := by
  obtain ⟨_, hn, t, _, ht, rfl⟩ := receive_ok h
  have hne : z.Has r → r.zvol ≠ n := fun hr heq => hn (heq ▸ hr.1)
  obtain ⟨m, id⟩ := r
  simp only [has_put, Zvol.ids, List.map_cons, List.map_nil, List.mem_singleton, ht,
    SnapName.mk.injEq]
  constructor
  · rintro (h | ⟨_, hr⟩)
    · exact .inr h
    · exact .inl hr
  · rintro (hr | h)
    · exact .inr ⟨hne hr, hr⟩
    · exact .inl h

theorem names_snapshot {z z' : Store} {s : SnapName} (h : z.snapshot s = .ok z') {m : ZvolName} :
    m ∈ z'.names ↔ m ∈ z.names := by
  obtain ⟨hn, _, _, _, _, rfl⟩ := snapshot_ok h
  rw [mem_names_put]
  exact or_iff_right_of_imp fun heq => heq ▸ hn

theorem has_snapshot {z z' : Store} {s : SnapName} (h : z.snapshot s = .ok z') {r : SnapName} :
    z'.Has r ↔ z.Has r ∨ r = s := by
  obtain ⟨hn, _, t, ht, _, rfl⟩ := snapshot_ok h
  obtain ⟨n, id⟩ := s
  obtain ⟨m, id'⟩ := r
  by_cases hmn : m = n
  · subst hmn
    simp [Has, Zvol.ids, ht, or_comm, show m ∈ z.names from hn]
  · simp [has_put, hmn]

theorem names_destroySnap {z z' : Store} {s : SnapName} (h : z.destroySnap s = .ok z')
    {m : ZvolName} : m ∈ z'.names ↔ m ∈ z.names := by
  obtain ⟨hs, _, rfl⟩ := destroySnap_ok h
  rw [mem_names_put]
  exact or_iff_right_of_imp fun heq => heq ▸ hs.1

theorem has_destroySnap {z z' : Store} {s : SnapName} (h : z.destroySnap s = .ok z')
    {r : SnapName} : z'.Has r ↔ z.Has r ∧ r ≠ s := by
  obtain ⟨hs, _, rfl⟩ := destroySnap_ok h
  obtain ⟨n, id⟩ := s
  obtain ⟨m, id'⟩ := r
  by_cases hmn : m = n
  · subst hmn
    simp only [Has, mem_names_put, true_or, zvol_put_self, Zvol.ids, List.mem_map, List.mem_filter,
      true_and, show m ∈ z.names from hs.1, ne_eq, SnapName.mk.injEq, decide_not, Bool.not_eq_true',
      decide_eq_false_iff_not]
    constructor
    · rintro ⟨t, ⟨ht, hne⟩, rfl⟩
      exact ⟨⟨t, ht, rfl⟩, hne⟩
    · rintro ⟨⟨t, ht, rfl⟩, hne⟩
      exact ⟨t, ⟨ht, hne⟩, rfl⟩
  · simp [has_put, hmn]

theorem owns_of_destroySnap {z z' : Store} {s : SnapName} (h : z.destroySnap s = .ok z')
    {n : ZvolName} {t : Snap} (ht : z'.Owns n t) : z.Owns n t := by
  obtain ⟨hs, _, rfl⟩ := destroySnap_ok h
  by_cases hn : n = s.zvol
  · subst hn
    rw [Owns, zvol_put_self] at ht
    exact ⟨hs.1, List.mem_of_mem_filter ht.2⟩
  · rw [Owns, zvol_put_of_ne z _ hn] at ht
    exact ⟨(mem_names_put.1 ht.1).resolve_left hn, ht.2⟩

theorem owns_destroySnap_of_ne {z z' : Store} {s : SnapName} (h : z.destroySnap s = .ok z')
    {n : ZvolName} {t : Snap} (hne : t.id ≠ s.id) (ht : z.Owns n t) : z'.Owns n t := by
  refine ⟨(names_destroySnap h).2 ht.1, ?_⟩
  obtain ⟨_, _, rfl⟩ := destroySnap_ok h
  by_cases hn : n = s.zvol
  · subst hn
    rw [zvol_put_self]
    exact List.mem_filter.2 ⟨ht.2, by simpa using hne⟩
  · rw [zvol_put_of_ne z _ hn]
    exact ht.2

theorem props_destroySnap {z z' : Store} {s : SnapName} (h : z.destroySnap s = .ok z')
    (n : ZvolName) : (z'.zvol n).props = (z.zvol n).props := by
  obtain ⟨_, _, rfl⟩ := destroySnap_ok h
  by_cases hn : n = s.zvol
  · rw [hn, zvol_put_self]
  · rw [zvol_put_of_ne z _ hn]

theorem names_destroy {z z' : Store} {n : ZvolName} (h : z.destroy n = .ok z') {m : ZvolName} :
    m ∈ z'.names ↔ m ∈ z.names ∧ m ≠ n := by
  obtain ⟨_, _, _, rfl⟩ := destroy_ok h
  simp

theorem owns_destroy {z z' : Store} {n : ZvolName} (h : z.destroy n = .ok z') {m : ZvolName}
    {t : Snap} : z'.Owns m t ↔ z.Owns m t := by
  have hnames := @names_destroy _ _ _ h m
  obtain ⟨_, _, hsnaps, rfl⟩ := destroy_ok h
  rw [Owns, hnames, and_assoc, Owns]
  refine and_congr_right fun _ => and_iff_right_of_imp fun ht heq => ?_
  subst heq
  rw [hsnaps] at ht
  exact List.not_mem_nil ht

theorem has_destroy {z z' : Store} {n : ZvolName} (h : z.destroy n = .ok z') {r : SnapName} :
    z'.Has r ↔ z.Has r := by
  obtain ⟨m, id⟩ := r
  simp only [has_iff_owns, owns_destroy h]

theorem names_setProps {z z' : Store} {n : ZvolName} {f : Props → Props}
    (h : z.setProps n f = .ok z') {m : ZvolName} : m ∈ z'.names ↔ m ∈ z.names := by
  obtain ⟨hn, rfl⟩ := setProps_ok h
  rw [mem_names_put]
  exact or_iff_right_of_imp fun heq => heq ▸ hn

theorem has_setProps {z z' : Store} {n : ZvolName} {f : Props → Props}
    (h : z.setProps n f = .ok z') {r : SnapName} : z'.Has r ↔ z.Has r := by
  obtain ⟨hn, rfl⟩ := setProps_ok h
  obtain ⟨m, id⟩ := r
  by_cases hmn : m = n
  · subst hmn
    simp [Has, Zvol.ids, hn]
  · simp [has_put, hmn]

theorem moved_append_kept (z : Store) (s : SnapName) :
    z.moved s ++ z.kept s = (z.zvol s.zvol).snaps :=
  List.take_append_drop ..

theorem mem_moved_of_has {z : Store} {s : SnapName} (h : z.Has s) :
    s.id ∈ (z.moved s).map Snap.id := by
  obtain ⟨t, ht, hid⟩ := List.mem_map.1 h.2
  have hlt : (z.zvol s.zvol).snaps.findIdx (·.id = s.id) < (z.zvol s.zvol).snaps.length :=
    List.findIdx_lt_length_of_exists ⟨t, ht, by simpa using hid⟩
  refine List.mem_map.2 ⟨(z.zvol s.zvol).snaps[(z.zvol s.zvol).snaps.findIdx (·.id = s.id)], ?_, ?_⟩
  · exact List.mem_take_iff_getElem.2 ⟨_, by rw [splitAt]; omega, rfl⟩
  · simpa using List.findIdx_getElem (w := hlt)

/-! ### What snapshots hold -/

/-- Every snapshot with the name `s` holds `c`. -/
def Holds (z : Store) (s : SnapName) (c : Content) : Prop :=
  ∀ t, z.Owns s.zvol t → t.id = s.id → t.content = c

section Holds

variable {z z' : Store} {s r : SnapName} {n m : ZvolName} {c : Content} {t : Snap}

/-- A snapshot holds what its zvol held. -/
theorem holds_snapshot (h : z.snapshot s = .ok z') :
    z'.Holds s (z.zvol s.zvol).props.content := by
  obtain ⟨_, hid, t₀, ht₀, hcontent, rfl⟩ := snapshot_ok h
  intro t ht htid
  have hmem := ht.2
  rw [zvol_put_self, List.mem_append, List.mem_singleton] at hmem
  rcases hmem with hmem | rfl
  · exact absurd (List.mem_map.2 ⟨t, hmem, htid⟩) hid
  · exact hcontent

/-- A clone gets what the snapshot holds. -/
theorem content_clone (h : z.clone s n = .ok z') (hs : z.Holds s c) :
    (z'.zvol n).props.content = c := by
  obtain ⟨hhas, _, _, t, ht, hid, rfl⟩ := clone_ok h
  rw [zvol_put_self]
  exact hs t ⟨hhas.1, ht⟩ hid

/-- A received zvol gets what the snapshot holds. -/
theorem content_receive (h : z.receive s n = .ok z') (hs : z.Holds s c) :
    (z'.zvol n).props.content = c := by
  obtain ⟨hhas, _, t, ht, hid, rfl⟩ := receive_ok h
  rw [zvol_put_self]
  exact hs t ⟨hhas.1, ht⟩ hid

theorem owns_clone (h : z.clone s n = .ok z') : z'.Owns m t ↔ z.Owns m t := by
  obtain ⟨_, hn, _, t₀, _, _, rfl⟩ := clone_ok h
  by_cases hm : m = n
  · subst hm
    simp [Owns, hn]
  · simp [Owns, zvol_put_of_ne _ _ hm, hm]

theorem owns_setProps {f : Props → Props} (h : z.setProps n f = .ok z') :
    z'.Owns m t ↔ z.Owns m t := by
  obtain ⟨hn, rfl⟩ := setProps_ok h
  by_cases hm : m = n
  · subst hm
    simp [Owns, hn]
  · simp [Owns, zvol_put_of_ne _ _ hm, hm]

theorem holds_clone (h : z.clone s n = .ok z') : z'.Holds r c ↔ z.Holds r c := by
  simp only [Holds, owns_clone h]

theorem holds_setProps {f : Props → Props} (h : z.setProps n f = .ok z') :
    z'.Holds r c ↔ z.Holds r c := by
  simp only [Holds, owns_setProps h]

/-- Setting properties that are not the content. -/
theorem content_setProps {f : Props → Props} (h : z.setProps n f = .ok z')
    (hf : ∀ p, (f p).content = p.content) :
    (z'.zvol m).props.content = (z.zvol m).props.content := by
  obtain ⟨_, rfl⟩ := setProps_ok h
  by_cases hm : m = n
  · subst hm
    rw [zvol_put_self]
    exact hf _
  · rw [zvol_put_of_ne _ _ hm]

end Holds

end Store

/-! ### Well-formed stores -/

/-- The names of the snapshots of a zvol differ, every origin exists in the pool of its clones, and
no chain of origins is endless. -/
structure WF (z : Store) : Prop where
  nodup : ∀ n ∈ z.names, (z.zvol n).ids.Nodup
  origin_has : ∀ n ∈ z.names, ∀ s, (z.zvol n).origin = some s → z.Has s
  origin_pool : ∀ n ∈ z.names, ∀ s, (z.zvol n).origin = some s → s.zvol.pool = n.pool
  ranked : ∃ rank : ZvolName → ℕ,
    ∀ n ∈ z.names, ∀ s, (z.zvol n).origin = some s → rank s.zvol < rank n

namespace WF

open Store

theorem origin_ne {z : Store} (h : WF z) {n : ZvolName} (hn : n ∈ z.names) {s : SnapName}
    (hs : (z.zvol n).origin = some s) : s.zvol ≠ n := by
  obtain ⟨rank, hrank⟩ := h.ranked
  intro heq
  have := hrank n hn s hs
  rw [heq] at this
  omega

/-- Adding a zvol whose origin, if it has one, is there already. -/
theorem put_new {z : Store} (h : WF z) {n : ZvolName} (hn : n ∉ z.names) {v : Zvol}
    (hv : v.ids.Nodup)
    (horigin : ∀ s, v.origin = some s → z.Has s ∧ s.zvol.pool = n.pool) : WF (z.put n v) := by
  have hne : ∀ m ∈ z.names, m ≠ n := fun m hm heq => hn (heq ▸ hm)
  have hhas : ∀ s, z.Has s → (z.put n v).Has s := fun s hs =>
    has_put.2 (.inr ⟨hne _ hs.1, hs⟩)
  refine ⟨?_, ?_, ?_, ?_⟩
  · intro m hm
    rcases mem_names_put.1 hm with rfl | hm
    · rwa [zvol_put_self]
    · rw [zvol_put_of_ne z v (hne m hm)]
      exact h.nodup m hm
  · intro m hm s hs
    rcases mem_names_put.1 hm with rfl | hm
    · rw [zvol_put_self] at hs
      exact hhas s (horigin s hs).1
    · rw [zvol_put_of_ne z v (hne m hm)] at hs
      exact hhas s (h.origin_has m hm s hs)
  · intro m hm s hs
    rcases mem_names_put.1 hm with rfl | hm
    · rw [zvol_put_self] at hs
      exact (horigin s hs).2
    · rw [zvol_put_of_ne z v (hne m hm)] at hs
      exact h.origin_pool m hm s hs
  · obtain ⟨rank, hrank⟩ := h.ranked
    -- the new zvol ranks above its origin, and nothing has it as an origin
    refine ⟨fun m => if m = n then (v.origin.map fun s => rank s.zvol + 1).getD 0 else rank m, ?_⟩
    intro m hm s hs
    rcases mem_names_put.1 hm with rfl | hm
    · rw [zvol_put_self] at hs
      have hsn := hne _ (horigin s hs).1.1
      simp [hs, hsn]
    · rw [zvol_put_of_ne z v (hne m hm)] at hs
      have hsn := hne _ (h.origin_has m hm s hs).1
      simpa [hne m hm, hsn] using hrank m hm s hs

/-- Replacing a zvol by one of the same origin that still has the snapshots its clones need. -/
theorem put_same {z : Store} (h : WF z) {n : ZvolName} (hn : n ∈ z.names) {v : Zvol}
    (hv : v.ids.Nodup) (horigin : v.origin = (z.zvol n).origin)
    (hids : ∀ m ∈ z.names, ∀ id, (z.zvol m).origin = some ⟨n, id⟩ → id ∈ v.ids) :
    WF (z.put n v) := by
  have hmem : ∀ m, m ∈ (z.put n v).names ↔ m ∈ z.names := fun m => by
    rw [mem_names_put]
    refine ⟨?_, .inr⟩
    rintro (rfl | hm)
    · exact hn
    · exact hm
  have ho : ∀ m, ((z.put n v).zvol m).origin = (z.zvol m).origin := fun m => by
    by_cases hmn : m = n
    · rw [hmn, zvol_put_self, horigin]
    · rw [zvol_put_of_ne z v hmn]
  refine ⟨?_, ?_, ?_, ?_⟩
  · intro m hm
    by_cases hmn : m = n
    · rwa [hmn, zvol_put_self]
    · rw [zvol_put_of_ne z v hmn]
      exact h.nodup m ((hmem m).1 hm)
  · intro m hm s hs
    rw [ho] at hs
    by_cases hsn : s.zvol = n
    · exact has_put.2 (.inl ⟨hsn, hids m ((hmem m).1 hm) s.id (by rw [hs, ← hsn])⟩)
    · exact has_put.2 (.inr ⟨hsn, h.origin_has m ((hmem m).1 hm) s hs⟩)
  · intro m hm s hs
    rw [ho] at hs
    exact h.origin_pool m ((hmem m).1 hm) s hs
  · obtain ⟨rank, hrank⟩ := h.ranked
    refine ⟨rank, fun m hm s hs => ?_⟩
    rw [ho] at hs
    exact hrank m ((hmem m).1 hm) s hs

theorem create {z z' : Store} (h : WF z) {n : ZvolName} {a b c : ℕ}
    (hok : z.create n a b c = .ok z') : WF z' := by
  obtain ⟨hn, rfl⟩ := create_ok hok
  exact h.put_new hn List.nodup_nil (by simp)

theorem destroy {z z' : Store} (h : WF z) {n : ZvolName} (hok : z.destroy n = .ok z') : WF z' := by
  obtain ⟨hn, _, hsnaps, rfl⟩ := destroy_ok hok
  have hmem : ∀ m, m ∈ z.names.filter (· ≠ n) ↔ m ∈ z.names ∧ m ≠ n := by simp
  refine ⟨fun m hm => h.nodup m ((hmem m).1 hm).1, fun m hm s hs => ?_,
    fun m hm => h.origin_pool m ((hmem m).1 hm).1, ?_⟩
  · have hhas := h.origin_has m ((hmem m).1 hm).1 s hs
    refine ⟨(hmem _).2 ⟨hhas.1, fun heq => ?_⟩, hhas.2⟩
    have hid := hhas.2
    rw [heq, Zvol.ids, hsnaps] at hid
    exact List.not_mem_nil hid
  · obtain ⟨rank, hrank⟩ := h.ranked
    exact ⟨rank, fun m hm => hrank m ((hmem m).1 hm).1⟩

theorem snapshot {z z' : Store} (h : WF z) {s : SnapName} (hok : z.snapshot s = .ok z') : WF z' := by
  obtain ⟨hn, hid, t, ht, _, rfl⟩ := snapshot_ok hok
  refine h.put_same hn ?_ rfl fun m hm id ho => ?_
  · rw [Zvol.ids, List.map_append, List.nodup_append]
    refine ⟨h.nodup _ hn, by simp, ?_⟩
    intro a ha b hb heq
    obtain rfl : b = t.id := by simpa using hb
    exact hid (by rwa [← ht, ← heq])
  · have := (h.origin_has m hm _ ho).2
    simp only [Zvol.ids, List.map_append, List.mem_append]
    exact .inl this

theorem destroySnap {z z' : Store} (h : WF z) {s : SnapName} (hok : z.destroySnap s = .ok z') :
    WF z' := by
  obtain ⟨hs, hclones, rfl⟩ := destroySnap_ok hok
  refine h.put_same hs.1 ?_ rfl fun m hm id ho => ?_
  · exact ((List.filter_sublist ..).map Snap.id).nodup (h.nodup _ hs.1)
  · obtain ⟨t, ht, hid⟩ := List.mem_map.1 (h.origin_has m hm _ ho).2
    refine List.mem_map.2 ⟨t, List.mem_filter.2 ⟨ht, ?_⟩, hid⟩
    have hne : id ≠ s.id := fun heq => hclones m hm (by rw [ho, heq])
    simpa [hid] using hne

theorem clone {z z' : Store} (h : WF z) {s : SnapName} {n : ZvolName}
    (hok : z.clone s n = .ok z') : WF z' := by
  obtain ⟨hs, hn, hpool, t, _, _, rfl⟩ := clone_ok hok
  refine h.put_new hn List.nodup_nil fun r hr => ?_
  obtain rfl : s = r := by simpa using hr
  exact ⟨hs, hpool.symm⟩

theorem receive {z z' : Store} (h : WF z) {s : SnapName} {n : ZvolName}
    (hok : z.receive s n = .ok z') : WF z' := by
  obtain ⟨hs, hn, t, _, _, rfl⟩ := receive_ok hok
  exact h.put_new hn (by simp [Zvol.ids]) (by simp)

theorem setProps {z z' : Store} (h : WF z) {n : ZvolName} {f : Props → Props}
    (hok : z.setProps n f = .ok z') : WF z' := by
  obtain ⟨hn, rfl⟩ := setProps_ok hok
  exact h.put_same hn (h.nodup n hn) rfl fun m hm id ho => (h.origin_has m hm _ ho).2

end WF

/-! ### Promotion -/

namespace Store

theorem promoted_self (z : Store) (c : ZvolName) (s : SnapName) :
    z.promoted c s c =
      { z.zvol c with snaps := z.moved s ++ (z.zvol c).snaps, origin := (z.zvol s.zvol).origin } :=
  if_pos rfl

theorem promoted_origin (z : Store) {c : ZvolName} {s : SnapName} (h : s.zvol ≠ c) :
    z.promoted c s s.zvol = { z.zvol s.zvol with snaps := z.kept s, origin := some ⟨c, s.id⟩ } := by
  rw [promoted, if_neg h, if_pos rfl]

theorem promoted_of_ne (z : Store) {c n : ZvolName} {s : SnapName} (hc : n ≠ c) (ho : n ≠ s.zvol) :
    z.promoted c s n = { z.zvol n with origin := z.follow c s (z.zvol n).origin } := by
  rw [promoted, if_neg hc, if_neg ho]

/-- What a zvol comes from after `c`, a clone of `s`, was promoted. -/
inductive Descends (z : Store) (c : ZvolName) (s : SnapName) : ZvolName → SnapName → Prop
  /-- The clone comes from what its origin came from. -/
  | clone (r : SnapName) (hr : (z.zvol s.zvol).origin = some r) : Descends z c s c r
  /-- The origin comes from the clone. -/
  | origin : Descends z c s s.zvol ⟨c, s.id⟩
  /-- So does what came from a snapshot that has moved. -/
  | moved (n : ZvolName) (q : SnapName) (hc : n ≠ c) (ho : n ≠ s.zvol)
      (hq : (z.zvol n).origin = some q) (hz : q.zvol = s.zvol)
      (hid : q.id ∈ (z.moved s).map Snap.id) : Descends z c s n ⟨c, q.id⟩
  | other (n : ZvolName) (r : SnapName) (hc : n ≠ c) (ho : n ≠ s.zvol)
      (hr : (z.zvol n).origin = some r)
      (hkept : r.zvol = s.zvol → r.id ∉ (z.moved s).map Snap.id) : Descends z c s n r

theorem descends {z : Store} {c n : ZvolName} {s r : SnapName} (hne : s.zvol ≠ c)
    (hr : (z.promoted c s n).origin = some r) : z.Descends c s n r := by
  by_cases hc : n = c
  · subst hc
    rw [promoted_self] at hr
    exact .clone r hr
  · by_cases ho : n = s.zvol
    · subst ho
      rw [promoted_origin z hne] at hr
      obtain rfl := Option.some.inj hr
      exact .origin
    · rw [promoted_of_ne z hc ho] at hr
      obtain ⟨q, hq, hqr⟩ := Option.map_eq_some_iff.1 hr
      split_ifs at hqr with hcond
      · subst hqr
        exact .moved n q hc ho hq hcond.1 hcond.2
      · subst hqr
        exact .other n q hc ho hq fun hz hid => hcond ⟨hz, hid⟩

/-- Promoting changes no zvol but in its snapshots and its origin. -/
@[simp] theorem props_promoted (z : Store) (c n : ZvolName) (s : SnapName) :
    (z.promoted c s n).props = (z.zvol n).props := by
  rw [promoted]
  split_ifs with hc ho
  · rw [hc]
  · rfl
  · rfl

/-- The snapshots after a promotion: the moved ones are at the clone, the kept ones at the origin. -/
theorem has_promoted {z : Store} {c : ZvolName} {s : SnapName} (hne : s.zvol ≠ c)
    (hc : c ∈ z.names) (ho : s.zvol ∈ z.names) {r : SnapName} :
    (z.turned c s).Has r ↔
      r.zvol = c ∧ (r.id ∈ (z.moved s).map Snap.id ∨ z.Has r) ∨
        r.zvol = s.zvol ∧ r.id ∈ (z.kept s).map Snap.id ∨
          r.zvol ≠ c ∧ r.zvol ≠ s.zvol ∧ z.Has r := by
  obtain ⟨n, id⟩ := r
  by_cases hnc : n = c
  · subst hnc
    simp [Has, promoted_self, Zvol.ids, hc, Ne.symm hne]
  · by_cases hno : n = s.zvol
    · subst hno
      simp [Has, promoted_origin z hne, Zvol.ids, hne, ho]
    · simp [Has, promoted_of_ne z hnc hno, Zvol.ids, hnc, hno]

end Store

namespace WF

open Store

section

variable {z : Store} {c n : ZvolName} {s r : SnapName}

/-- The snapshots of the origin of a clone are the ones that move and the ones that stay. -/
theorem ids_origin (z : Store) (s : SnapName) :
    (z.zvol s.zvol).ids = (z.moved s).map Snap.id ++ (z.kept s).map Snap.id := by
  rw [Zvol.ids, ← moved_append_kept, List.map_append]

/-- The origin of the origin of a clone is neither of the two. -/
theorem origin_origin_ne (h : WF z) (hc : c ∈ z.names) (hs : (z.zvol c).origin = some s)
    (hr : (z.zvol s.zvol).origin = some r) : r.zvol ≠ c ∧ r.zvol ≠ s.zvol := by
  obtain ⟨rank, hrank⟩ := h.ranked
  have hlt := hrank s.zvol (h.origin_has c hc s hs).1 r hr
  have hlt' := hrank c hc s hs
  constructor <;> intro heq <;> rw [heq] at hlt <;> omega

theorem nodup_promoted (h : WF z) (hc : c ∈ z.names) (hs : (z.zvol c).origin = some s)
    (hconf : ¬ ∃ t ∈ z.moved s, t.id ∈ (z.zvol c).ids) (hn : n ∈ z.names) :
    (z.promoted c s n).ids.Nodup := by
  have hnodup := h.nodup s.zvol (h.origin_has c hc s hs).1
  rw [ids_origin, List.nodup_append] at hnodup
  by_cases hnc : n = c
  · subst hnc
    rw [promoted_self, Zvol.ids, List.map_append, List.nodup_append]
    refine ⟨hnodup.1, h.nodup n hc, fun a ha b hb heq => ?_⟩
    obtain ⟨t, ht, rfl⟩ := List.mem_map.1 ha
    exact hconf ⟨t, ht, heq ▸ hb⟩
  · by_cases hno : n = s.zvol
    · subst hno
      rw [promoted_origin z hnc]
      exact hnodup.2.1
    · rw [promoted_of_ne z hnc hno]
      exact h.nodup n hn

theorem has_of_descends (h : WF z) (hc : c ∈ z.names) (hs : (z.zvol c).origin = some s)
    (hn : n ∈ z.names) (hd : z.Descends c s n r) : (z.turned c s).Has r := by
  have hhas := h.origin_has c hc s hs
  rw [has_promoted (h.origin_ne hc hs) hc hhas.1]
  cases hd with
  | clone r hr =>
      obtain ⟨hrc, hro⟩ := h.origin_origin_ne hc hs hr
      exact .inr (.inr ⟨hrc, hro, h.origin_has _ hhas.1 r hr⟩)
  | origin => exact .inl ⟨rfl, .inl (mem_moved_of_has hhas)⟩
  | moved n q _ _ _ _ hid => exact .inl ⟨rfl, .inl hid⟩
  | other n r _ _ hr hkept =>
      have hr' := h.origin_has n hn r hr
      by_cases hrc : r.zvol = c
      · exact .inl ⟨hrc, .inr hr'⟩
      · by_cases hro : r.zvol = s.zvol
        · have hid := hr'.2
          rw [hro, ids_origin, List.mem_append] at hid
          exact .inr (.inl ⟨hro, hid.resolve_left (hkept hro)⟩)
        · exact .inr (.inr ⟨hrc, hro, hr'⟩)

theorem pool_of_descends (h : WF z) (hc : c ∈ z.names) (hs : (z.zvol c).origin = some s)
    (hn : n ∈ z.names) (hd : z.Descends c s n r) : r.zvol.pool = n.pool := by
  have hpool := h.origin_pool c hc s hs
  cases hd with
  | clone r hr => rw [← hpool, h.origin_pool _ (h.origin_has c hc s hs).1 r hr]
  | origin => exact hpool.symm
  | moved n q _ _ hq hz _ => rw [← h.origin_pool n hn q hq, hz, hpool]
  | other n r _ _ hr _ => exact h.origin_pool n hn r hr

/-- The ranks after a promotion: the clone takes that of its origin, and the origin comes right above
it. -/
def promotedRank (rank : ZvolName → ℕ) (c o n : ZvolName) : ℕ :=
  if n = c then 2 * rank o else if n = o then 2 * rank o + 1 else 2 * rank n

theorem promotedRank_of_ne {rank : ZvolName → ℕ} {c o n : ZvolName} (hc : n ≠ c) (ho : n ≠ o) :
    promotedRank rank c o n = 2 * rank n := by
  rw [promotedRank, if_neg hc, if_neg ho]

/-- No rank is more than doubled, but for that of the origin. -/
theorem promotedRank_le {rank : ZvolName → ℕ} {c o : ZvolName} (hlt : rank o < rank c)
    (n : ZvolName) : promotedRank rank c o n ≤ 2 * rank n + 1 := by
  rw [promotedRank]
  split_ifs with hc ho
  · rw [hc]
    omega
  · rw [ho]
  · omega

theorem rank_lt_of_descends (h : WF z) (hc : c ∈ z.names) (hs : (z.zvol c).origin = some s)
    {rank : ZvolName → ℕ}
    (hrank : ∀ n ∈ z.names, ∀ s, (z.zvol n).origin = some s → rank s.zvol < rank n)
    (hn : n ∈ z.names) (hd : z.Descends c s n r) :
    promotedRank rank c s.zvol r.zvol < promotedRank rank c s.zvol n := by
  have hclone : promotedRank rank c s.zvol c = 2 * rank s.zvol := if_pos rfl
  cases hd with
  | clone r hr =>
      obtain ⟨hrc, hro⟩ := h.origin_origin_ne hc hs hr
      have hlt := hrank s.zvol (h.origin_has c hc s hs).1 r hr
      rw [promotedRank_of_ne hrc hro, hclone]
      omega
  | origin =>
      have horigin : promotedRank rank c s.zvol s.zvol = 2 * rank s.zvol + 1 := by
        rw [promotedRank, if_neg (h.origin_ne hc hs), if_pos rfl]
      rw [hclone, horigin]
      omega
  | moved n q hnc hno hq hz _ =>
      have hlt := hrank n hn q hq
      rw [hclone, promotedRank_of_ne hnc hno, ← hz]
      omega
  | other n r hnc hno hr _ =>
      have hlt := hrank n hn r hr
      have hle := promotedRank_le (hrank c hc s hs) r.zvol
      rw [promotedRank_of_ne hnc hno]
      omega

end

theorem promote {z z' : Store} (h : WF z) {c : ZvolName} (hok : z.promote c = .ok z') : WF z' := by
  obtain ⟨hc, s, hs, hconf, rfl⟩ := promote_ok hok
  have hd : ∀ n r, ((z.turned c s).zvol n).origin = some r → z.Descends c s n r := fun n r hr =>
    descends (h.origin_ne hc hs) hr
  obtain ⟨rank, hrank⟩ := h.ranked
  refine ⟨fun n hn => ?_, fun n hn r hr => h.has_of_descends hc hs hn (hd n r hr),
    fun n hn r hr => h.pool_of_descends hc hs hn (hd n r hr), promotedRank rank c s.zvol,
    fun n hn r hr => h.rank_lt_of_descends hc hs hrank hn (hd n r hr)⟩
  exact h.nodup_promoted hc hs (fun ⟨t, ht, hid⟩ => hconf t ht hid) hn

end WF

/-! ### Handing over the snapshots of a zvol -/

/-- The clones `deps` can take over the snapshots `snaps`, which are all that `v` owns, one by one:
the first clone has the first snapshot as its origin, and so on. -/
structure HandOver (z : Store) (v : ZvolName) (snaps : List Snap) (deps : List ZvolName) : Prop where
  mem : v ∈ z.names
  owns : (z.zvol v).snaps = snaps
  length_eq : snaps.length = deps.length
  clones : ∀ p ∈ snaps.zip deps, p.2 ∈ z.names ∧ (z.zvol p.2).origin = some ⟨v, p.1.id⟩

namespace HandOver

open Store

variable {z z' : Store} {v d : ZvolName} {t : Snap} {snaps : List Snap} {deps : List ZvolName}

/-- The promotion of the first clone moves the first snapshot. -/
theorem moved_eq (h : HandOver z v (t :: snaps) (d :: deps)) :
    z.moved ⟨v, t.id⟩ = [t] ∧ z.kept ⟨v, t.id⟩ = snaps := by
  have hsplit : splitAt t.id (t :: snaps) = 1 := by simp [splitAt, List.findIdx_cons]
  rw [moved, kept, h.owns, hsplit]
  exact ⟨rfl, rfl⟩

theorem head (h : HandOver z v (t :: snaps) (d :: deps)) :
    d ∈ z.names ∧ (z.zvol d).origin = some ⟨v, t.id⟩ :=
  h.clones (t, d) (List.mem_cons_self ..)

theorem has_first (h : HandOver z v (t :: snaps) deps) : z.Has ⟨v, t.id⟩ :=
  has_iff_owns.2 ⟨t, ⟨h.mem, h.owns ▸ List.mem_cons_self ..⟩, rfl⟩

/-- What the promotion of the first clone does. -/
theorem promote_eq (h : HandOver z v (t :: snaps) (d :: deps)) (hok : z.promote d = .ok z') :
    z' = z.turned d ⟨v, t.id⟩ := by
  obtain ⟨_, s, hs, _, rfl⟩ := promote_ok hok
  obtain rfl : (⟨v, t.id⟩ : SnapName) = s := by simpa [h.head.2] using hs
  rfl

/-- The promotion is refused only if the clone has a snapshot of the same name. -/
theorem exists_promote (h : HandOver z v (t :: snaps) (d :: deps))
    (hconf : t.id ∉ (z.zvol d).ids) : ∃ z', z.promote d = .ok z' := by
  have hnot : ¬ ∃ t' ∈ z.moved ⟨v, t.id⟩, t'.id ∈ (z.zvol d).ids := by
    rw [h.moved_eq.1]
    simpa using hconf
  refine ⟨z.turned d ⟨v, t.id⟩, ?_⟩
  rw [Store.promote, if_neg (not_not.2 h.head.1), h.head.2]
  simp only [if_neg hnot]

/-- **The rest can be handed over after the first clone was promoted.** -/
theorem tail (hwf : WF z) (h : HandOver z v (t :: snaps) (d :: deps))
    (hok : z.promote d = .ok z') : HandOver z' v snaps deps := by
  rw [h.promote_eq hok]
  have hne : v ≠ d := hwf.origin_ne h.head.1 h.head.2
  have hnodup := hwf.nodup v h.mem
  rw [Zvol.ids, h.owns, List.map_cons, List.nodup_cons] at hnodup
  refine ⟨h.mem, ?_, by simpa using h.length_eq, ?_⟩
  · rw [zvol_turned, promoted_origin z (s := ⟨v, t.id⟩) hne]
    exact h.moved_eq.2
  · rintro ⟨t', d'⟩ hp
    obtain ⟨hmem, horigin⟩ := h.clones (t', d') (List.mem_cons_of_mem _ hp)
    have htt : t'.id ≠ t.id := fun heq =>
      hnodup.1 (heq ▸ List.mem_map.2 ⟨t', (List.of_mem_zip hp).1, rfl⟩)
    have hd'v : d' ≠ v := (hwf.origin_ne hmem horigin).symm
    have hd'd : d' ≠ d := by
      rintro rfl
      rw [h.head.2] at horigin
      exact htt (by simpa using (Option.some.inj horigin).symm)
    refine ⟨hmem, ?_⟩
    rw [zvol_turned, promoted_of_ne z hd'd hd'v]
    simp [follow, horigin, h.moved_eq.1, htt]

/-- The snapshots after the first clone was promoted. -/
theorem has_head (hwf : WF z) (h : HandOver z v (t :: snaps) (d :: deps))
    (hok : z.promote d = .ok z') {r : SnapName} :
    z'.Has r ↔ r = ⟨d, t.id⟩ ∨ z.Has r ∧ r ≠ ⟨v, t.id⟩ := by
  rw [h.promote_eq hok]
  have hne : v ≠ d := hwf.origin_ne h.head.1 h.head.2
  have hnodup := hwf.nodup v h.mem
  rw [Zvol.ids, h.owns, List.map_cons, List.nodup_cons] at hnodup
  rw [has_promoted (s := ⟨v, t.id⟩) hne h.head.1 h.mem, h.moved_eq.1, h.moved_eq.2]
  obtain ⟨n, id⟩ := r
  have hv : z.Has ⟨v, id⟩ ↔ id = t.id ∨ id ∈ snaps.map Snap.id := by
    simp [Has, h.mem, Zvol.ids, h.owns, eq_comm]
  simp only [List.map_cons, List.map_nil, List.mem_singleton, SnapName.mk.injEq, ne_eq]
  by_cases hnd : n = d
  · simp only [hnd, Ne.symm hne, true_and, false_and, not_true_eq_false, or_false, not_false_eq_true,
      and_true]
  · by_cases hnv : n = v
    · subst hnv
      simp only [hnd, hv, false_and, true_and, false_or, not_true_eq_false, and_false, or_false]
      constructor
      · intro hid
        exact ⟨.inr hid, fun heq => hnodup.1 (heq ▸ hid)⟩
      · rintro ⟨rfl | hid, hid'⟩
        · exact absurd rfl hid'
        · exact hid
    · simp [hnd, hnv]

/-- The first snapshot goes to the first clone, and every other one stays. -/
theorem owns_head (hwf : WF z) (h : HandOver z v (t :: snaps) (d :: deps))
    (hok : z.promote d = .ok z') {n : ZvolName} {u : Snap} :
    z'.Owns n u ↔ n = d ∧ u = t ∨ z.Owns n u ∧ ¬ (n = v ∧ u = t) := by
  rw [h.promote_eq hok]
  have hne : v ≠ d := hwf.origin_ne h.head.1 h.head.2
  have hnodup := hwf.nodup v h.mem
  rw [Zvol.ids, h.owns, List.map_cons, List.nodup_cons] at hnodup
  have ht : t ∉ snaps := fun hmem => hnodup.1 (List.mem_map.2 ⟨t, hmem, rfl⟩)
  by_cases hnd : n = d
  · subst hnd
    have hnv : n ≠ v := hne.symm
    simp [Owns, promoted_self, h.moved_eq.1, h.head.1, hnv]
  · by_cases hnv : n = v
    · subst hnv
      simp only [Owns, names_turned, h.mem, zvol_turned, true_and, hnd, false_and, false_or, h.owns,
        promoted_origin z (s := ⟨n, t.id⟩) hne, h.moved_eq.2, List.mem_cons]
      refine ⟨fun hu => ⟨.inr hu, fun heq => ht (heq ▸ hu)⟩, fun hu => hu.1.resolve_left hu.2⟩
    · simp [Owns, promoted_of_ne z (s := ⟨v, t.id⟩) hnd hnv, hnd, hnv]

/-- Promoting the first clone keeps the zvols and what belongs to each alone. -/
theorem keeps_head (h : HandOver z v (t :: snaps) (d :: deps)) (hok : z.promote d = .ok z') :
    z'.names = z.names ∧ ∀ n, (z'.zvol n).props = (z.zvol n).props := by
  rw [h.promote_eq hok]
  exact ⟨rfl, fun n => props_promoted z d n _⟩

end HandOver

end Zfs

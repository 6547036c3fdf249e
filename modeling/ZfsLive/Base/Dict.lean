/-
Dictionaries that remember the order in which their keys were inserted.

* `Dict` — a list of entries with distinct keys;
* `Dict.get?`, `Dict.set` — reading an entry, and writing one: in its place, or at the end when the
  key is new;
* `Dict.update`, `Dict.ofList` — writing several entries, one after the other;
* `Dict.mem_items_set`, `Dict.get?_set` — what writing an entry changes.
-/

import Mathlib.Data.List.Nodup
import Mathlib.Tactic.Common

set_option relaxedAutoImplicit false
set_option autoImplicit false

/-- A list of entries with distinct keys. -/
structure Dict (κ α : Type) where
  items : List (κ × α)
  distinct : (items.map Prod.fst).Nodup

namespace Dict

variable {κ α : Type}

/-- The dictionary without entries. -/
def empty : Dict κ α := ⟨[], List.nodup_nil⟩

/-- The keys, in the order of insertion. -/
def keys (d : Dict κ α) : List κ := d.items.map Prod.fst

/-- The values, in the order of insertion. -/
def values (d : Dict κ α) : List α := d.items.map Prod.snd

theorem mem_keys_of_mem {d : Dict κ α} {k : κ} {a : α} (h : (k, a) ∈ d.items) : k ∈ d.keys :=
  List.mem_map.2 ⟨_, h, rfl⟩

theorem eq_of_mem {d : Dict κ α} {k : κ} {a b : α} (ha : (k, a) ∈ d.items)
    (hb : (k, b) ∈ d.items) : a = b :=
  congrArg Prod.snd (List.inj_on_of_nodup_map d.distinct ha hb rfl)

@[simp] theorem mem_values {d : Dict κ α} {a : α} : a ∈ d.values ↔ ∃ k, (k, a) ∈ d.items := by
  simp [values]

@[simp] theorem not_mem_empty (e : κ × α) : e ∉ (empty : Dict κ α).items := List.not_mem_nil

/-- Change every value. -/
def mapVals (d : Dict κ α) (f : κ → α → α) : Dict κ α where
  items := d.items.map fun e => (e.1, f e.1 e.2)
  distinct := by simpa [Function.comp_def] using d.distinct

@[simp] theorem mem_items_mapVals {d : Dict κ α} {f : κ → α → α} {k : κ} {a : α} :
    (k, a) ∈ (d.mapVals f).items ↔ ∃ b, (k, b) ∈ d.items ∧ a = f k b := by
  simp only [mapVals, List.mem_map, Prod.mk.injEq]
  constructor
  · rintro ⟨⟨k', b⟩, hb, rfl, rfl⟩
    exact ⟨b, hb, rfl⟩
  · rintro ⟨b, hb, rfl⟩
    exact ⟨(k, b), hb, rfl, rfl⟩

variable [DecidableEq κ]

/-- Remove the entry at a key. -/
def erase (d : Dict κ α) (k : κ) : Dict κ α where
  items := d.items.filter (·.1 ≠ k)
  distinct := (List.filter_sublist.map Prod.fst).nodup d.distinct

@[simp] theorem mem_items_erase {d : Dict κ α} {k k' : κ} {a : α} :
    (k', a) ∈ (d.erase k).items ↔ (k', a) ∈ d.items ∧ k' ≠ k := by
  simp [erase]

/-- Remove the entries at the keys that satisfy `p`. -/
def eraseAll (d : Dict κ α) (p : κ → Prop) [DecidablePred p] : Dict κ α where
  items := d.items.filter fun e => ¬ p e.1
  distinct := (List.filter_sublist.map Prod.fst).nodup d.distinct

omit [DecidableEq κ] in
@[simp] theorem mem_items_eraseAll {d : Dict κ α} {p : κ → Prop} [DecidablePred p] {k : κ} {a : α} :
    (k, a) ∈ (d.eraseAll p).items ↔ (k, a) ∈ d.items ∧ ¬ p k := by
  simp [eraseAll]

/-- The value at a key. -/
def get? (d : Dict κ α) (k : κ) : Option α := d.items.lookup k

/-- The entries after the value at `k` was written. -/
private def write (items : List (κ × α)) (k : κ) (a : α) : List (κ × α) :=
  match items with
  | [] => [(k, a)]
  | e :: es => if e.1 = k then (k, a) :: es else e :: write es k a

private theorem mem_keys_write {items : List (κ × α)} {k k' : κ} {a : α} :
    k' ∈ (write items k a).map Prod.fst ↔ k' ∈ items.map Prod.fst ∨ k' = k := by
  induction items with
  | nil => simp [write]
  | cons e es ih =>
      by_cases he : e.1 = k
      · rw [write, if_pos he, List.map_cons, List.map_cons, List.mem_cons, List.mem_cons, he]
        tauto
      · simp only [write, if_neg he, List.map_cons, List.mem_cons, ih]
        tauto

private theorem nodup_write {items : List (κ × α)} (h : (items.map Prod.fst).Nodup) (k : κ) (a : α) :
    ((write items k a).map Prod.fst).Nodup := by
  induction items with
  | nil => simp [write]
  | cons e es ih =>
      rw [List.map_cons, List.nodup_cons] at h
      by_cases he : e.1 = k
      · rw [write, if_pos he, List.map_cons, List.nodup_cons, ← he]
        exact h
      · rw [write, if_neg he, List.map_cons, List.nodup_cons, mem_keys_write]
        refine ⟨?_, ih h.2⟩
        rintro (hmem | heq)
        · exact h.1 hmem
        · exact he heq

private theorem mem_write {items : List (κ × α)} (h : (items.map Prod.fst).Nodup) {k k' : κ}
    {a a' : α} : (k', a') ∈ write items k a ↔
      if k' = k then a' = a else (k', a') ∈ items := by
  induction items with
  | nil =>
      by_cases hk : k' = k <;> simp [write, hk]
  | cons e es ih =>
      obtain ⟨hnot, hnodup⟩ : e.1 ∉ es.map Prod.fst ∧ (es.map Prod.fst).Nodup := by
        rwa [List.map_cons, List.nodup_cons] at h
      obtain ⟨k₀, a₀⟩ := e
      have hnotin : ∀ b, (k₀, b) ∉ es := fun b hb => hnot (List.mem_map.2 ⟨_, hb, rfl⟩)
      by_cases he : k₀ = k
      · subst he
        by_cases hk : k' = k₀
        · subst hk
          simp [write, hnotin]
        · simp [write, hk]
      · by_cases hk : k' = k
        · subst hk
          simp [write, he, Ne.symm he, ih hnodup]
        · simp [write, he, hk, ih hnodup]

/-- Write the value at a key. -/
def set (d : Dict κ α) (k : κ) (a : α) : Dict κ α := ⟨write d.items k a, nodup_write d.distinct k a⟩

theorem mem_items_set {d : Dict κ α} {k k' : κ} {a a' : α} :
    (k', a') ∈ (d.set k a).items ↔ if k' = k then a' = a else (k', a') ∈ d.items :=
  mem_write d.distinct

theorem get?_eq_some_iff {d : Dict κ α} {k : κ} {a : α} : d.get? k = some a ↔ (k, a) ∈ d.items := by
  obtain ⟨items, h⟩ := d
  induction items with
  | nil => simp [get?]
  | cons e es ih =>
      obtain ⟨hnot, hnodup⟩ : e.1 ∉ es.map Prod.fst ∧ (es.map Prod.fst).Nodup := by
        rwa [List.map_cons, List.nodup_cons] at h
      obtain ⟨k₀, a₀⟩ := e
      have hnotin : ∀ b, (k₀, b) ∉ es := fun b hb => hnot (List.mem_map.2 ⟨_, hb, rfl⟩)
      have htail := ih hnodup
      simp only [get?] at htail
      by_cases hk : k = k₀
      · subst hk
        simp [get?, hnotin, eq_comm]
      · have hne : (k == k₀) = false := by simpa using hk
        simp [get?, List.lookup_cons, hne, hk, htail]

theorem get?_eq_none_iff {d : Dict κ α} {k : κ} : d.get? k = none ↔ ∀ a, (k, a) ∉ d.items := by
  rw [Option.eq_none_iff_forall_ne_some]
  simp only [ne_eq, get?_eq_some_iff]

@[simp] theorem get?_empty (k : κ) : (empty : Dict κ α).get? k = none := rfl

theorem get?_erase (d : Dict κ α) (k k' : κ) :
    (d.erase k).get? k' = if k' = k then none else d.get? k' := by
  by_cases hk : k' = k
  · rw [if_pos hk, get?_eq_none_iff]
    exact fun a ha => (mem_items_erase.1 ha).2 hk
  · rw [if_neg hk]
    ext b
    rw [get?_eq_some_iff, mem_items_erase, get?_eq_some_iff]
    exact and_iff_left hk

theorem get?_eraseAll (d : Dict κ α) (p : κ → Prop) [DecidablePred p] (k : κ) :
    (d.eraseAll p).get? k = if p k then none else d.get? k := by
  by_cases hk : p k
  · rw [if_pos hk, get?_eq_none_iff]
    exact fun a ha => (mem_items_eraseAll.1 ha).2 hk
  · rw [if_neg hk]
    ext b
    rw [get?_eq_some_iff, mem_items_eraseAll, get?_eq_some_iff]
    exact and_iff_left hk

@[simp] theorem get?_mapVals (d : Dict κ α) (f : κ → α → α) (k : κ) :
    (d.mapVals f).get? k = (d.get? k).map (f k) := by
  ext b
  rw [get?_eq_some_iff, mem_items_mapVals, Option.map_eq_some_iff]
  exact exists_congr fun a => by rw [get?_eq_some_iff, eq_comm]

/-- **Writing an entry changes the value at its key and no other.** -/
theorem get?_set (d : Dict κ α) (k k' : κ) (a : α) :
    (d.set k a).get? k' = if k' = k then some a else d.get? k' := by
  by_cases hk : k' = k
  · rw [if_pos hk, get?_eq_some_iff, mem_items_set, if_pos hk]
  · rw [if_neg hk]
    ext b
    rw [get?_eq_some_iff, mem_items_set, if_neg hk, get?_eq_some_iff]

theorem mem_keys_iff {d : Dict κ α} {k : κ} : k ∈ d.keys ↔ ∃ a, d.get? k = some a := by
  simp only [get?_eq_some_iff]
  constructor
  · intro hk
    obtain ⟨⟨k', a⟩, hmem, rfl⟩ := List.mem_map.1 hk
    exact ⟨a, hmem⟩
  · rintro ⟨a, hmem⟩
    exact mem_keys_of_mem hmem

theorem mem_keys_set {d : Dict κ α} {k k' : κ} {a : α} : k' ∈ (d.set k a).keys ↔ k' = k ∨ k' ∈ d.keys := by
  simp only [mem_keys_iff, get?_set]
  by_cases hk : k' = k
  · simp [hk]
  · simp [hk]

theorem mem_keys_erase {d : Dict κ α} {k k' : κ} : k' ∈ (d.erase k).keys ↔ k' ≠ k ∧ k' ∈ d.keys := by
  simp only [mem_keys_iff, get?_erase]
  by_cases hk : k' = k
  · simp [hk]
  · simp [hk]

/-- Write entries, one after the other. -/
def writeAll (d : Dict κ α) (entries : List (κ × α)) : Dict κ α :=
  entries.foldl (fun d e => d.set e.1 e.2) d

/-- The entries of another dictionary are written over those that are there. -/
def update (d d' : Dict κ α) : Dict κ α := d.writeAll d'.items

/-- The dictionary of a list of entries. -/
def ofList (entries : List (κ × α)) : Dict κ α := empty.writeAll entries

/-- **Entries with distinct keys take the place of those that are there.** -/
theorem get?_writeAll {entries : List (κ × α)} (h : (entries.map Prod.fst).Nodup) (d : Dict κ α)
    (k : κ) : (d.writeAll entries).get? k = (entries.lookup k).or (d.get? k) := by
  induction entries generalizing d with
  | nil => rfl
  | cons e es ih =>
      obtain ⟨hnot, hnodup⟩ : e.1 ∉ es.map Prod.fst ∧ (es.map Prod.fst).Nodup := by
        rwa [List.map_cons, List.nodup_cons] at h
      have hstep : (d.writeAll (e :: es)).get? k = (es.lookup k).or ((d.set e.1 e.2).get? k) :=
        ih hnodup (d.set e.1 e.2)
      rw [hstep, get?_set, List.lookup_cons]
      by_cases hk : k = e.1
      · have hnone : es.lookup k = none :=
          List.lookup_eq_none_iff.2 fun e' he' => by
            have hne : k ≠ e'.1 := fun heq => hnot (List.mem_map.2 ⟨e', he', heq.symm.trans hk⟩)
            simpa using hne
        rw [if_pos hk, hnone, beq_iff_eq.2 hk]
        rfl
      · rw [if_neg hk, beq_eq_false_iff_ne.2 hk]

theorem get?_update (d d' : Dict κ α) (k : κ) :
    (d.update d').get? k = (d'.get? k).or (d.get? k) :=
  get?_writeAll d'.distinct d k

/-- Entries with distinct keys are the entries of their dictionary. -/
theorem get?_ofList {entries : List (κ × α)} (h : (entries.map Prod.fst).Nodup) {k : κ} {a : α} :
    (ofList entries).get? k = some a ↔ (k, a) ∈ entries := by
  rw [ofList, get?_writeAll h, get?_empty, Option.or_none]
  exact get?_eq_some_iff (d := ⟨entries, h⟩)

end Dict

/-
**Setting properties of a volume** (`src/volume/volume.py`).

`Volume.set` checks a value in its normal form, as the device configuration of a repository is checked,
but then passes the value to `zfs set` as it came.

Main definitions:

* `Volume.set`, `Volume.unset` — the calls;
* `Volume.checkedValue` — the check of a value, with the value that is passed on;
* `Volume.ValidatorsAgree` — what the two validators should make of a value.

Main results:

* `Volume.set_rejected` — a rejected value leaves the store and the metabases as they are;
* `Volume.validatorsAgree_iff` — **the validators agree exactly on the values that are in normal form
  or are not accepted**;
* `Volume.not_validatorsAgree_upper` — an upper-case value is accepted and passed on in upper case.
-/

import ZfsLive.Properties

set_option relaxedAutoImplicit false
set_option autoImplicit false

namespace Volume

open Zfs Wp Properties

/-! ### Calls -/

def SM_CONFIG_PREFIX : String := "_sm_config_"

/-- The property that a key of the interface stands for. -/
def stripPrefix (k : String) : String :=
  if SM_CONFIG_PREFIX.toList <+: k.toList then
    String.ofList (k.toList.drop SM_CONFIG_PREFIX.length)
  else
    k

/-- The values that `zfs set copies` takes. -/
def copiesOf (value : String) : Option ℕ := [("1", 1), ("2", 2), ("3", 3)].lookup value

/-- The check of a value of a mutable property.  It is made on the normal form, and the value that is
passed on is the one that came. -/
def checkedValue (U : PyStr) (k v : String) : Except VolError String :=
  match VALID_MUTABLE_VALUES.lookup k with
  | none => .ok v
  | some valid =>
      let check_val := if k ≠ "copies" then U.lower v else v
      if check_val ∉ valid then
        .error (.storage "SR_BACKEND_FAILURE_109" ["Invalid property value",
          k ++ " must be one of: " ++ joinSorted valid ++ ", got '" ++ v ++ "'"])
      else
        .ok v

section

variable (E : Env) (U : PyStr)

/-- `zfs set` of a mutable property; of these, only `copies` matters to the store. -/
def volSetProperty (vol_name : ZvolName) (prop value : String) : VolM Unit :=
  zfsCmd E fun z => z.setProps vol_name fun p =>
    if prop = "copies" then { p with copies := copiesOf value } else p

/-- `zfs inherit`. -/
def volInheritProperty (vol_name : ZvolName) (prop : String) : VolM Unit :=
  zfsCmd E fun z => z.setProps vol_name fun p =>
    if prop = "copies" then { p with copies := none } else p

/-- The value of an immutable property, as it is told to the user. -/
def immutableValue (vol_name : ZvolName) (k : String) : VolM String :=
  if k = "volblocksize" then do
    let volblocksize ← zfsGet E fun z => z.getProp vol_name Props.volblocksize
    return formatVolblocksize volblocksize
  else if k = "provisioning" then do
    let refres ← volGetRefreservation E vol_name
    return if refres > 0 then "thick" else "thin"
  else
    return "unknown"

/-- The refusal to change an immutable property. -/
def refuseImmutable (vol_name : ZvolName) (k : String) : VolM Unit := do
  let current ← immutableValue E vol_name k
  throw (.storage "SR_BACKEND_FAILURE_109" ["Immutable property",
    k ++ " cannot be changed after VDI creation. Current value: " ++ current])

/-- `copies` counts for the reservation of a thick volume. -/
def syncCopies (vol_name : ZvolName) (k : String) : VolM Unit :=
  if k = "copies" then volSyncThickRefreservation E vol_name else return ()

/-- `set_vdi_custom_key`; the custom keys are no part of the metabase here. -/
def setVdiCustomKey (_key _k _v : String) : VolM Unit := dbCmd E fun db => .ok ((), db)

/-- `delete_vdi_custom_key`. -/
def deleteVdiCustomKey (_key _k : String) : VolM Unit := dbCmd E fun db => .ok ((), db)

/-- The end of the check: its error is raised. -/
def raiseOr (r : Except VolError String) : VolM String :=
  match r with
  | .ok v => pure v
  | .error e => throw e

/-- The part of `set` that deals with the zvol. -/
def setOnZvol (vol_name : ZvolName) (k v : String) : VolM Unit :=
  if k ∈ MUTABLE_ZFS_PROPERTIES then do
    let value ← raiseOr (checkedValue U k v)
    volSetProperty E vol_name k value
    syncCopies E vol_name k
  else if k ∈ IMMUTABLE_ZFS_PROPERTIES then
    refuseImmutable E vol_name k
  else
    return ()

def set (sr key k v : String) : VolM Unit := do
  let k := stripPrefix k
  let m ← getSrMetadata E sr
  setOnZvol E U ⟨m.datasetPath, key⟩ k v
  dbContext E sr (setVdiCustomKey E key k v)

/-- The part of `unset` that deals with the zvol. -/
def unsetOnZvol (vol_name : ZvolName) (k : String) : VolM Unit :=
  if k ∈ MUTABLE_ZFS_PROPERTIES then do
    volInheritProperty E vol_name k
    syncCopies E vol_name k
  else if k ∈ IMMUTABLE_ZFS_PROPERTIES then
    refuseImmutable E vol_name k
  else
    return ()

def unset (sr key k : String) : VolM Unit := do
  let k := stripPrefix k
  let m ← getSrMetadata E sr
  unsetOnZvol E ⟨m.datasetPath, key⟩ k
  dbContext E sr (deleteVdiCustomKey E key k)

end

/-! ### The check -/

variable {E : Env} {U : PyStr} {k v : String} {valid : List String}

theorem checkedValue_eq (hk : VALID_MUTABLE_VALUES.lookup k = some valid) :
    checkedValue U k v = if normal U k v ∉ valid then
      .error (.storage "SR_BACKEND_FAILURE_109" ["Invalid property value",
        k ++ " must be one of: " ++ joinSorted valid ++ ", got '" ++ v ++ "'"])
    else .ok v := by
  rw [checkedValue, hk]
  rfl

theorem exists_valid (hk : k ∈ MUTABLE_ZFS_PROPERTIES) :
    ∃ valid, VALID_MUTABLE_VALUES.lookup k = some valid := by
  cases hlookup : VALID_MUTABLE_VALUES.lookup k with
  | some valid => exact ⟨valid, rfl⟩
  | none =>
      obtain ⟨entry, hentry, rfl⟩ := List.mem_map.1 hk
      have hne := List.lookup_eq_none_iff.1 hlookup entry hentry
      simp at hne

/-- A value that is rejected leaves everything as it is. -/
theorem set_rejected {sr key : String} {w : World} {m : SrMeta} {e : VolError}
    (hm : E.srMeta sr = some m) (hk : stripPrefix k ∈ MUTABLE_ZFS_PROPERTIES)
    (he : checkedValue U (stripPrefix k) v = .error e) : set E U sr key k v w = .error e w := by
  have hmeta : getSrMetadata E sr w = .ok m w := by
    rw [getSrMetadata, hm]
    rfl
  rw [set, bind_ok hmeta, setOnZvol, if_pos hk, he]
  rfl

/-- The two validators agree on a value: `set` accepts it exactly when a configuration with it has no
error, and then passes on the valid value that a repository with this configuration gets. -/
def ValidatorsAgree (U : PyStr) (k v : String) : Prop :=
  match checkedValue U k v with
  | .error _ => (parseZfsConfig U (single k v) none).errors ≠ []
  | .ok value =>
      (parseZfsConfig U (single k v) none).errors = [] ∧
        (parseZfsConfig U (single k v) none).dataset_props.get? k = some value ∧
        ∃ valid, VALID_MUTABLE_VALUES.lookup k = some valid ∧ value ∈ valid

/-- The value is in normal form, or its normal form is not valid. -/
def NormalOrInvalid (U : PyStr) (k v : String) : Prop :=
  normal U k v = v ∨ ∀ valid, VALID_MUTABLE_VALUES.lookup k = some valid → normal U k v ∉ valid

/-- **The validators agree exactly on the values that are in normal form or are not accepted.** -/
theorem validatorsAgree_iff (hk : k ∈ MUTABLE_ZFS_PROPERTIES) :
    ValidatorsAgree U k v ↔ NormalOrInvalid U k v := by
  obtain ⟨valid, hvalid⟩ := exists_valid hk
  obtain ⟨herrors, hprops⟩ := parseZfsConfig_single (U := U) (v := v) hvalid
  rw [ValidatorsAgree, checkedValue_eq hvalid, herrors, hprops, validateConfigValue, NormalOrInvalid]
  by_cases hmem : normal U k v ∈ valid
  · simp only [hmem, not_true, if_false, true_and, get?_single_self, Option.some.injEq, hvalid]
    constructor
    · exact fun h => .inl h.1
    · rintro (h | h)
      · exact ⟨h, valid, rfl, by rwa [h] at hmem⟩
      · exact absurd hmem (h valid rfl)
  · simp [hmem, hvalid]

/-- The usual spelling of a compression. -/
theorem validatorsAgree_lz4 : ValidatorsAgree asciiStr "compression" "lz4" :=
  (validatorsAgree_iff (by decide)).2 (.inl (by decide))

/-- **`set` accepts `LZ4` and passes it on in upper case**, where a repository with this configuration
gets `lz4`. -/
theorem not_validatorsAgree_upper :
    ¬ ∀ (U : PyStr) (k v : String), k ∈ MUTABLE_ZFS_PROPERTIES → ValidatorsAgree U k v := by
  intro h
  have hagree := h asciiStr "compression" "LZ4" (by decide)
  have hchecked : checkedValue asciiStr "compression" "LZ4" = .ok "LZ4" := by decide
  rw [ValidatorsAgree, hchecked] at hagree
  obtain ⟨_, _, valid, hvalid, hmem⟩ := hagree
  obtain rfl : VALID_COMPRESSION = valid := by
    rw [← Option.some.injEq, ← hvalid]
    rfl
  exact absurd hmem (by decide)

end Volume

/-
**ZFS properties of repositories and volumes** (`src/volume/zfs_operations.py`, `src/volume/sr.py`).

The values that a property may have are listed once.  `_parse_zfs_config` checks the device
configuration of a repository against them when the repository is created.

* `PyStr` — what the code takes from Python's strings, known here on ASCII text only;
* `Properties.VALID_MUTABLE_VALUES` — the properties that can be changed on a volume;
* `Properties.parseZfsConfig` — the check of a device configuration;
* `Properties.parseZfsConfig_single` — what it makes of a configuration with one mutable property.
-/

import Mathlib.Data.List.Sort
import ZfsLive.Base.Dict
import ZfsLive.Volume

set_option relaxedAutoImplicit false
set_option autoImplicit false

/-- The methods of Python's strings that depend on the tables of Unicode. -/
structure PyStr where
  lower : String → String
  upper : String → String
  /-- `int(text)`, where it raises no `ValueError`. -/
  int : String → Option ℤ
  lower_ascii : ∀ s, (∀ c ∈ s.toList, c.val < 128) →
    lower s = String.ofList (s.toList.map Char.toLower)
  upper_ascii : ∀ s, (∀ c ∈ s.toList, c.val < 128) →
    upper s = String.ofList (s.toList.map Char.toUpper)

/-- Strings of ASCII characters, with the case mappings that these have. -/
def Volume.asciiStr : PyStr where
  lower := fun s => String.ofList (s.toList.map Char.toLower)
  upper := fun s => String.ofList (s.toList.map Char.toUpper)
  int := String.toInt?
  lower_ascii := fun _ _ => rfl
  upper_ascii := fun _ _ => rfl

namespace Properties

/-! ### Valid values -/

def VALID_COMPRESSION : List String :=
  ["off", "on", "lz4", "zstd", "zstd-fast", "gzip", "gzip-1", "gzip-2", "gzip-3", "gzip-4", "gzip-5",
    "gzip-6", "gzip-7", "gzip-8", "gzip-9", "zle", "lzjb"]

def VALID_COPIES : List String := ["1", "2", "3"]

def VALID_SYNC : List String := ["standard", "always", "disabled"]

def VALID_ATIME : List String := ["on", "off"]

def VALID_CACHE : List String := ["all", "metadata", "none"]

def VALID_LOGBIAS : List String := ["latency", "throughput"]

def VALID_PROVISIONING : List String := ["thin", "thick"]

/-- The properties that can be changed on a volume, each with its valid values. -/
def VALID_MUTABLE_VALUES : List (String × List String) :=
  [("compression", VALID_COMPRESSION), ("copies", VALID_COPIES), ("sync", VALID_SYNC),
    ("primarycache", VALID_CACHE), ("secondarycache", VALID_CACHE), ("logbias", VALID_LOGBIAS)]

def MUTABLE_ZFS_PROPERTIES : List String := VALID_MUTABLE_VALUES.map Prod.fst

def IMMUTABLE_ZFS_PROPERTIES : List String := ["volblocksize", "provisioning"]

/-- `", ".join(sorted(valid_set))`. -/
def joinSorted (valid_set : List String) : String :=
  ", ".intercalate (valid_set.insertionSort (· ≤ ·))

/-- `format_volblocksize`. -/
def formatVolblocksize (bytes_val : ℕ) : String :=
  if bytes_val ≥ 1024 then toString (bytes_val / 1024) ++ "K" else toString bytes_val

/-! ### The device configuration -/

/-- The settings of a repository that are kept in its metadata. -/
structure SrSettings where
  auto_cleanup_orphans : Option String
  orphan_grace_period_seconds : Option ℤ
  deriving DecidableEq

/-- What `_parse_zfs_config` returns. -/
structure Parsed where
  dataset_props : Dict String String
  vdi_defaults : Dict String String
  sr_settings : SrSettings
  errors : List String

/-- The error about a value outside the valid ones, if it is one. -/
def validateConfigValue (param value : String) (valid_set : List String) : List String :=
  if value ∉ valid_set then
    [param ++ " must be one of: " ++ joinSorted valid_set ++ ", got '" ++ value ++ "'"]
  else
    []

/-- A property of the dataset: the value is set in its normal form, even when it is not valid. -/
def parseDatasetProp (param : String) (normal : String → String) (valid_set : List String)
    (configuration : Dict String String) (p : Parsed) : Parsed :=
  match configuration.get? param with
  | none => p
  | some raw =>
      let val := normal raw
      { p with
        errors := p.errors ++ validateConfigValue param val valid_set
        dataset_props := p.dataset_props.set param val }

section

variable (U : PyStr)

/-- The block size of new volumes, and the size that counts for the pool. -/
def parseVolblocksize (configuration : Dict String String) (p : Parsed) : Parsed × ℕ :=
  match configuration.get? "volblocksize" with
  | none => (p, 8192)
  | some raw =>
      let val := U.upper raw
      match Volume.VALID_VOLBLOCKSIZE.lookup val with
      | none =>
          -- the sizes are told in their numerical order, which is that of the table
          let known := ", ".intercalate (Volume.VALID_VOLBLOCKSIZE.map Prod.fst)
          ({ p with errors := p.errors ++
            ["volblocksize must be one of: " ++ known ++ ", got '" ++ raw ++ "'"] }, 8192)
      | some bytes => ({ p with vdi_defaults := p.vdi_defaults.set "volblocksize" val }, bytes)

def parseProvisioning (configuration : Dict String String) (p : Parsed) : Parsed :=
  match configuration.get? "provisioning" with
  | none => p
  | some raw =>
      let val := U.lower raw
      { p with
        errors := p.errors ++ validateConfigValue "provisioning" val VALID_PROVISIONING
        vdi_defaults := p.vdi_defaults.set "provisioning" val }

def parseAutoCleanup (configuration : Dict String String) (p : Parsed) : Parsed :=
  match configuration.get? "auto_cleanup_orphans" with
  | none => p
  | some raw =>
      let val := U.lower raw
      if val ∉ ["true", "false"] then
        { p with errors := p.errors ++
          ["auto_cleanup_orphans must be 'true' or 'false', got '" ++ raw ++ "'"] }
      else
        { p with sr_settings := { p.sr_settings with auto_cleanup_orphans := some val } }

def parseGrace (configuration : Dict String String) (p : Parsed) : Parsed :=
  match configuration.get? "orphan_grace_period_seconds" with
  | none => p
  | some raw =>
      match (U.int raw).filter (0 ≤ ·) with
      | some grace =>
          { p with sr_settings := { p.sr_settings with orphan_grace_period_seconds := some grace } }
      | none => { p with errors := p.errors ++
          ["orphan_grace_period_seconds must be a non-negative integer, got '" ++ raw ++ "'"] }

/-- The block size must not be smaller than a sector of the pool; an `ashift` that is not asked for or
cannot be read checks nothing. -/
def checkAshift (ashift : Option ℕ) (effective_volblocksize : ℕ) (p : Parsed) : Parsed :=
  match ashift with
  | none => p
  | some ashift =>
      let min_sector := 1 <<< ashift
      if effective_volblocksize < min_sector then
        let vbs := formatVolblocksize effective_volblocksize
        let ms := formatVolblocksize min_sector
        { p with errors := p.errors ++ ["volblocksize (" ++ vbs ++
          ") is smaller than pool's minimum sector size (" ++ ms ++ "). Use volblocksize >= " ++ ms ++
          " for this pool"] }
      else
        p

/-- The properties of the dataset, in the order in which they are checked. -/
def parseDatasetProps (configuration : Dict String String) (p : Parsed) : Parsed :=
  let p := parseDatasetProp "compression" U.lower VALID_COMPRESSION configuration p
  let p := parseDatasetProp "copies" id VALID_COPIES configuration p
  let p := parseDatasetProp "sync" U.lower VALID_SYNC configuration p
  let p := parseDatasetProp "atime" U.lower VALID_ATIME configuration p
  let p := parseDatasetProp "primarycache" U.lower VALID_CACHE configuration p
  let p := parseDatasetProp "secondarycache" U.lower VALID_CACHE configuration p
  parseDatasetProp "logbias" U.lower VALID_LOGBIAS configuration p

/-- `_parse_zfs_config`. -/
def parseZfsConfig (configuration : Dict String String) (ashift : Option ℕ) : Parsed :=
  let p := parseDatasetProps U configuration ⟨Dict.empty, Dict.empty, ⟨none, none⟩, []⟩
  let (p, effective_volblocksize) := parseVolblocksize U configuration p
  let p := parseProvisioning U configuration p
  let p := parseAutoCleanup U configuration p
  let p := parseGrace U configuration p
  checkAshift ashift effective_volblocksize p

end

/-! ### One mutable property -/

/-- The form of a value in which it is looked up. -/
def normal (U : PyStr) (k v : String) : String := if k ≠ "copies" then U.lower v else v

/-- The configuration with one entry. -/
def single (k v : String) : Dict String String := Dict.empty.set k v

@[simp] theorem get?_single_self (k v : String) : (single k v).get? k = some v := by
  rw [single, Dict.get?_set, if_pos rfl]

theorem get?_single_of_ne {k k' : String} (v : String) (h : k' ≠ k) :
    (single k v).get? k' = none := by
  rw [single, Dict.get?_set, if_neg h]
  rfl

variable {U : PyStr} {k v param : String} {f : String → String} {valid : List String} {p : Parsed}

theorem parseDatasetProp_of_ne (h : param ≠ k) :
    parseDatasetProp param f valid (single k v) p = p := by
  rw [parseDatasetProp, get?_single_of_ne v h]

theorem parseDatasetProp_self : parseDatasetProp k f valid (single k v) p =
    { p with
      errors := p.errors ++ validateConfigValue k (f v) valid
      dataset_props := p.dataset_props.set k (f v) } := by
  rw [parseDatasetProp, get?_single_self]

/-- The later checks pass over a configuration that has none of their keys. -/
theorem parseZfsConfig_of_dataset (h₁ : "volblocksize" ≠ k) (h₂ : "provisioning" ≠ k)
    (h₃ : "auto_cleanup_orphans" ≠ k) (h₄ : "orphan_grace_period_seconds" ≠ k) :
    parseZfsConfig U (single k v) none =
      parseDatasetProps U (single k v) ⟨Dict.empty, Dict.empty, ⟨none, none⟩, []⟩ := by
  simp only [parseZfsConfig, parseVolblocksize, parseProvisioning, parseAutoCleanup, parseGrace,
    checkAshift, get?_single_of_ne v h₁, get?_single_of_ne v h₂, get?_single_of_ne v h₃,
    get?_single_of_ne v h₄]

/-- **What the check makes of one mutable property**: the only possible error is about its value, and
the value that is set is in normal form. -/
theorem parseZfsConfig_single (hk : VALID_MUTABLE_VALUES.lookup k = some valid) :
    (parseZfsConfig U (single k v) none).errors = validateConfigValue k (normal U k v) valid ∧
      (parseZfsConfig U (single k v) none).dataset_props = single k (normal U k v) := by
  obtain ⟨before, rest, heq, _⟩ := List.lookup_eq_some_iff.1 hk
  have hmem : (k, valid) ∈ VALID_MUTABLE_VALUES := by
    rw [heq]
    simp
  simp only [VALID_MUTABLE_VALUES, List.mem_cons, Prod.mk.injEq, List.not_mem_nil, or_false] at hmem
  rcases hmem with ⟨rfl, rfl⟩ | ⟨rfl, rfl⟩ | ⟨rfl, rfl⟩ | ⟨rfl, rfl⟩ | ⟨rfl, rfl⟩ | ⟨rfl, rfl⟩
  all_goals
    rw [parseZfsConfig_of_dataset (by decide) (by decide) (by decide) (by decide)]
    simp [parseDatasetProps, parseDatasetProp_self, parseDatasetProp_of_ne, normal]
    rfl

end Properties

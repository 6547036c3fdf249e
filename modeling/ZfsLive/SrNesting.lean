/-
**Whether the datasets of two SRs can nest.**

A normal `SR.create` looks for SRs above and below the dataset it is about to make, but its walk upward
stops below the root of the pool; an adopting one looks for nothing.  So the datasets of the SRs stay
apart exactly as long as adopting and the roots of pools are kept out of the way by the caller.

Main definitions:

* `Separate` — no SR's dataset is the one of another SR, above it or below it;
* `NeverNest` — that, in every world of a run, and every destroy leaves the other SRs' nodes alone;
* `ClearCreates` — in every create of a run, an adopted dataset is clear of the live SRs, and no new SR
  is made in a pool whose root is one.

Main results:

* `newDataset_spec`, `create_spec` — what the conflict checks of a create guarantee;
* `inv_step` — every step keeps the SR datasets, their markers and their separation;
* `neverNest_iff` — **the SRs of a run never nest exactly when its creates are clear**.
-/

import ZfsLive.DatasetsFrame
import ZfsLive.Sr

set_option relaxedAutoImplicit false
set_option autoImplicit false

namespace ZfsLive.Sr

open Datasets Wp

variable {site : Site}

/-! ### SR markers -/

/-- The dataset shows the marker of an SR. -/
def ShowsSr (t : Tree) (path : List String) : Prop :=
  t.Has (dataset path) ∧ (t.srOf path).getD "-" ≠ "" ∧ (t.srOf path).getD "-" ≠ "-"

instance (t : Tree) (path : List String) : Decidable (ShowsSr t path) :=
  inferInstanceAs (Decidable (_ ∧ _))

/-- The dataset is a filesystem with a marker of its own. -/
def MarkedSr (t : Tree) (path : List String) : Prop :=
  ∃ node, t.get? (dataset path) = some node ∧ node.kind = .filesystem ∧
    ∃ v, node.sr = some v ∧ v ≠ "" ∧ v ≠ "-"

theorem MarkedSr.shows {t : Tree} {path : List String} (hm : MarkedSr t path) : ShowsSr t path := by
  obtain ⟨node, hnode, -, v, hv, hne⟩ := hm
  have hsr : t.srOf path = some v := by
    simp [Tree.srOf, List.range_succ, hnode, hv]
  refine ⟨Tree.has_iff.2 ⟨node, hnode⟩, ?_⟩
  rw [hsr, Option.getD_some]
  exact hne

theorem MarkedSr.of_keeps {t t' : Tree} {path : List String} (hm : MarkedSr t path)
    (hk : Keeps (dataset path) t t') : MarkedSr t' path := by
  obtain ⟨node, hnode, hkind, hsr⟩ := hm
  obtain ⟨node', hnode', hcore⟩ := hk node hnode
  obtain ⟨hk', -, -, hs'⟩ := core_eq_iff.1 hcore
  exact ⟨node', hnode', hk'.trans hkind, by rwa [hs']⟩

theorem datasetIsSr_eq (path : List String) (t : Tree) :
    datasetIsSr path t = .ok (decide (ShowsSr t path)) t := by
  by_cases hhas : t.Has (dataset path)
  · by_cases hmark : (t.srOf path).getD "-" ≠ "" ∧ (t.srOf path).getD "-" ≠ "-" <;>
      simp [datasetIsSr, datasetGetSrMarker, ShowsSr, hhas, hmark, Wp.get_bind, Wp.pure_apply]
  · simp [datasetIsSr, datasetGetSrMarker, ShowsSr, hhas, Wp.get_bind, Wp.pure_apply]

theorem wp_datasetIsSr (path : List String) (Q : Bool → Tree → Prop) (X : Fault → Tree → Prop)
    (t : Tree) : wp (datasetIsSr path) Q X t ↔ Q (decide (ShowsSr t path)) t :=
  wp_of_ok (datasetIsSr_eq path t)

theorem wp_datasetExists (path : List String) (Q : Bool → Tree → Prop) (X : Fault → Tree → Prop)
    (t : Tree) : wp (datasetExists path) Q X t ↔ Q (decide (t.Has (dataset path))) t := Iff.rfl

theorem findChildSrs_spec (path : List String) (nodes : List (Name × Kind)) (t : Tree) :
    wp (findChildSrs path nodes)
      (fun childSrs t' => t' = t ∧ ∀ e ∈ nodes, e.2 = .filesystem → path <+: e.1.path →
        e.1.path ≠ path → ShowsSr t e.1.path → e.1.path ∈ childSrs)
      (fun _ _ => False) t := by
  induction nodes with
  | nil => exact ⟨rfl, by simp⟩
  | cons e nodes ih =>
      obtain ⟨n, kind⟩ := e
      rw [findChildSrs, wp_bind]
      refine wp_mono ih ?_ fun _ _ hf => hf
      rintro childSrs t' ⟨rfl, hrest⟩
      rw [wp_ite]
      constructor
      · rintro -
        rw [wp_bind, wp_datasetIsSr, wp_pure]
        refine ⟨rfl, fun e he hk hp hne hs => ?_⟩
        rcases List.mem_cons.1 he with rfl | he
        · simp [hs]
        · have := hrest e he hk hp hne hs
          split
          · exact List.mem_cons_of_mem _ this
          · exact this
      · intro hnot
        refine ⟨rfl, fun e he hk hp hne hs => ?_⟩
        rcases List.mem_cons.1 he with rfl | he
        · exact absurd ⟨hk, hp, hne⟩ hnot
        · exact hrest e he hk hp hne hs

/-! ### The conflict checks -/

theorem wp_onTree {α : Type} (m : M α) (Q : α → World → Prop) (X : Fault → World → Prop) (w : World) :
    wp (onTree m) Q X w ↔
      wp m (fun a t => Q a { w with tree := t }) (fun e t => X e { w with tree := t }) w.tree := by
  rw [wp, wp, onTree]
  rcases m w.tree with ⟨a, t⟩ | ⟨e, t⟩ <;> rfl

theorem checkParents_spec (parents : List (List String)) (w : World) :
    wp (checkParents parents) (fun _ w' => w' = w ∧ ∀ p ∈ parents, ¬ ShowsSr w.tree p)
      (fun _ _ => True) w := by
  induction parents with
  | nil => exact ⟨rfl, by simp⟩
  | cons parent parents ih =>
      simp only [checkParents, wp_bind, wp_onTree, wp_datasetExists, wp_datasetIsSr, wp_ite]
      refine ⟨fun _ => trivial, fun hnot => ?_⟩
      refine wp_mono ih ?_ fun _ _ _ => trivial
      rintro _ w' ⟨rfl, hrest⟩
      refine ⟨rfl, fun p hp hs => ?_⟩
      rcases List.mem_cons.1 hp with rfl | hp
      · exact hnot ⟨decide_eq_true hs.1, decide_eq_true hs⟩
      · exact hrest p hp hs

/-- **What the checks for a new SR guarantee**: its dataset is not there, no parent of it shows a
marker, and no filesystem below it does. -/
theorem newDataset_spec (pool : String) (parent : List String) (srUuid : SrUuid) (w : World) :
    wp (newDataset site pool parent srUuid)
      (fun ds w' => w' = w ∧ ds = parent ++ [srUuid.text] ∧ ¬ w.tree.Has (dataset (pool :: ds)) ∧
        (∀ p ∈ datasetGetParents (pool :: ds), ¬ ShowsSr w.tree p) ∧
        ∀ e ∈ site.list w.tree [pool], e.2 = .filesystem → pool :: ds <+: e.1.path →
          e.1.path ≠ pool :: ds → ¬ ShowsSr w.tree e.1.path)
      (fun _ _ => True) w := by
  simp only [newDataset, wp_bind, wp_onTree, wp_datasetExists, wp_ite, wp_pure]
  refine ⟨fun _ => trivial, fun hfree => ?_⟩
  refine wp_mono (checkParents_spec _ w) ?_ fun _ _ _ => trivial
  rintro _ w' ⟨rfl, hparents⟩
  rw [datasetFindChildSrs, wp_bind, wp_get]
  refine wp_mono (findChildSrs_spec _ _ _) ?_ fun _ _ hf => hf.elim
  rintro childSrs t' ⟨rfl, hchildren⟩
  refine ⟨fun _ => trivial, fun hnone => ⟨rfl, trivial, by simpa using hfree, hparents, ?_⟩⟩
  intro e he hk hp hne hs
  have := hchildren e he hk hp hne hs
  rw [not_not.1 hnone] at this
  cases this

/-- The dataset a create aims at. -/
def target (srUuid : SrUuid) (configuration : Configuration) : Option Meta :=
  configuration.path.map fun path =>
    ⟨(pathParts path).headD "", if configuration.adopt then (pathParts path).tail
      else (pathParts path).tail ++ [srUuid.text]⟩

/-- The checks of a normal create have found nothing against the dataset. -/
structure Unclaimed (site : Site) (t : Tree) (m : Meta) : Prop where
  absent : ¬ t.Has (dataset m.path)
  above : ∀ p ∈ datasetGetParents m.path, ¬ ShowsSr t p
  below : ∀ e ∈ site.list t [m.zpool], e.2 = .filesystem → m.path <+: e.1.path →
    e.1.path ≠ m.path → ¬ ShowsSr t e.1.path

theorem checkPool_spec (pool : String) (w : World) :
    wp (checkPool site pool) (fun _ w' => w' = w) (fun _ _ => True) w := by
  simp only [checkPool, wp_bind, wp_onTree, wp_datasetExists, wp_ite]
  exact ⟨fun _ => rfl, fun _ => ⟨fun _ => trivial, fun _ => trivial⟩⟩

theorem chooseDataset_spec (srUuid : SrUuid) (configuration : Configuration) (w : World) :
    wp (chooseDataset site srUuid configuration)
      (fun m w' => w' = w ∧ target srUuid configuration = some m ∧
        (configuration.adopt = false → Unclaimed site w.tree m))
      (fun _ _ => True) w := by
  rw [chooseDataset]
  cases hpath : configuration.path with
  | none => exact trivial
  | some path =>
      simp only [wp_bind]
      refine wp_mono (checkPool_spec _ w) ?_ fun _ _ _ => trivial
      rintro _ w' rfl
      rw [wp_ite]
      constructor
      · intro hadopt
        simp only [adoptDataset, wp_bind, wp_onTree, wp_datasetExists, wp_ite, wp_pure]
        refine ⟨fun _ => ⟨fun _ => trivial, fun _ => ⟨trivial, ?_, ?_⟩⟩, fun _ => trivial⟩
        · simp [target, hpath, hadopt]
        · simp [hadopt]
      · intro hadopt
        rw [wp_bind]
        refine wp_mono (newDataset_spec _ _ srUuid w') ?_ fun _ _ _ => trivial
        rintro ds w'' ⟨rfl, rfl, habsent, habove, hbelow⟩
        simp only [wp_ite, wp_pure]
        refine ⟨fun _ => trivial, fun _ => ⟨trivial, ?_, fun _ => ⟨habsent, habove, hbelow⟩⟩⟩
        simp [target, hpath, hadopt]

theorem claimDataset_spec (srUuid : SrUuid) (configuration : Configuration) (m : Meta) (w : World) :
    wp (claimDataset site srUuid configuration m)
      (fun _ w' => w'.srs = w.srs.set srUuid.text m ∧ MarkedSr w'.tree m.path ∧
        ∀ n, n ≠ dataset m.path → Keeps n w.tree w'.tree)
      (fun _ _ => True) w := by
  rw [claimDataset, wp_bind, wp_onTree]
  refine wp_mono (datasetSetSrMarker_spec m.path srUuid.text w.tree) ?_ fun _ _ _ => trivial
  rintro _ t₁ ⟨node, hnode, rfl⟩
  have hkeep : ∀ n, n ≠ dataset m.path →
      Keeps n w.tree (w.tree.set (dataset m.path) { node with sr := some srUuid.text }) :=
    fun n hne => Keeps.set_of_ne hne
  simp only [wp_bind, wp_onTree]
  refine wp_mono (datasetSetMountpoint_spec m.path _ _) ?_ fun _ _ _ => trivial
  rintro _ t₂ ⟨rfl, node', hnode', hkind⟩
  have hmarked : MarkedSr (w.tree.set (dataset m.path) { node with sr := some srUuid.text }) m.path := by
    refine ⟨node', hnode', hkind, srUuid.text, ?_, srUuid.marks⟩
    rw [Dict.get?_set, if_pos rfl] at hnode'
    cases hnode'
    rfl
  refine wp_mono (datasetIsMounted_spec _ _) ?_ fun _ _ _ => trivial
  rintro b t₃ rfl
  rw [wp_ite]
  constructor
  · intro _
    simp only [wp_bind, wp_onTree, wp_ite, wp_modify]
    refine wp_mono (wp_forall fun n => (preserves_datasetMount n m.path).wp _) ?_ fun _ _ _ => trivial
    rintro _ t₄ hmount
    refine ⟨fun _ => trivial, fun _ => ⟨trivial, hmarked.of_keeps (hmount _), fun n hne => ?_⟩⟩
    exact (hkeep n hne).trans (hmount n)
  · intro _
    simp only [wp_bind, wp_ite, wp_modify]
    exact ⟨fun _ => trivial, fun _ => ⟨trivial, hmarked, hkeep⟩⟩

/-- **What a create that returns has done**: the SR is registered with the dataset the create aimed at,
the dataset is marked, and every other node is still there. -/
theorem create_spec (srUuid : SrUuid) (configuration : Configuration) (w : World) :
    wp (create site srUuid configuration)
      (fun _ w' => ∃ m, target srUuid configuration = some m ∧
        (configuration.adopt = false → Unclaimed site w.tree m) ∧
        w'.srs = w.srs.set srUuid.text m ∧ MarkedSr w'.tree m.path ∧
        ∀ n, n ≠ dataset m.path → Keeps n w.tree w'.tree)
      (fun _ _ => True) w := by
  rw [create, wp_bind]
  refine wp_mono (chooseDataset_spec srUuid configuration w) ?_ fun _ _ _ => trivial
  rintro m w' ⟨rfl, htarget, hunclaimed⟩
  rw [wp_ite]
  constructor
  · intro _
    rw [wp_bind, wp_onTree]
    refine wp_mono (wp_forall fun n => (preserves_datasetCreate n m.path).wp _) ?_ fun _ _ _ => trivial
    rintro _ t hkeep
    refine wp_mono (claimDataset_spec srUuid configuration m _) ?_ fun _ _ _ => trivial
    rintro _ w'' ⟨hsrs, hmarked, hkeep'⟩
    exact ⟨m, htarget, hunclaimed, hsrs, hmarked, fun n hne => (hkeep n).trans (hkeep' n hne)⟩
  · intro _
    refine wp_mono (claimDataset_spec srUuid configuration m _) ?_ fun _ _ _ => trivial
    rintro _ w'' hclaimed
    exact ⟨m, htarget, hunclaimed, hclaimed⟩

/-! ### Destroying -/

/-- What a destroy of `sr` does to the world: nothing outside the SR's dataset, and as long as the SR
is registered, its dataset is there. -/
def Destroyed (sr : String) (w w' : World) : Prop :=
  (∀ n, (∀ m, w.srs.get? sr = some m → ¬ Name.Under n m.path) → Keeps n w.tree w'.tree) ∧
    ((w'.srs = w.srs ∧ ∀ m, w.srs.get? sr = some m → Keeps (dataset m.path) w.tree w'.tree) ∨
      w'.srs = w.srs.erase sr)

theorem Destroyed.refl (sr : String) (w : World) : Destroyed sr w w :=
  ⟨fun n _ => Keeps.refl n _, .inl ⟨rfl, fun _ _ => Keeps.refl _ _⟩⟩

section Listing

variable (hlist : ∀ t root, Listed t root (site.list t root))
include hlist

theorem preserves_destroy (sr : String) : Preserves (Destroyed sr) (destroy site sr) := by
  refine Preserves.of_wp fun w => ?_
  rw [destroy, wp_bind, wp_get]
  cases hm : w.srs.get? sr with
  | none => exact Destroyed.refl sr w
  | some info =>
      simp only [wp_ite]
      refine ⟨fun _ => Destroyed.refl sr w, fun _ => ?_⟩
      have houtside : ∀ t, (∀ n : Name, ¬ n.Under info.path → Keeps n w.tree t) →
          ∀ n : Name, (∀ m, w.srs.get? sr = some m → ¬ n.Under m.path) → Keeps n w.tree t :=
        fun t hkeep n hn => hkeep n (hn info hm)
      rw [wp_bind, wp_onTree]
      have hkeep := wp_forall fun n : Name => wp_forall fun hn : ¬ n.Under info.path =>
        (preserves_datasetDestroy (h := site.toHost) hlist hn).wp w.tree
      rcases hr : datasetDestroy site.toHost info.path true w.tree with ⟨_, t⟩ | ⟨e, t⟩
      · rw [wp_of_ok hr] at hkeep ⊢
        exact ⟨houtside t hkeep, .inr rfl⟩
      · rw [wp_of_error hr] at hkeep ⊢
        refine ⟨houtside t hkeep, .inl ⟨rfl, fun m hm' => ?_⟩⟩
        obtain rfl : info = m := by simpa [hm] using hm'
        exact datasetDestroy_error_keeps_root hlist hr

end Listing

/-! ### Runs -/

/-- No SR's dataset is the one of another SR, or above it. -/
def Separate (w : World) : Prop :=
  ∀ u m v m', w.srs.get? u = some m → w.srs.get? v = some m' → u ≠ v → ¬ m.path <+: m'.path

/-- A destroy leaves every node in the dataset of another SR. -/
def OwnOnly (w : World) (e : Event) (w' : World) : Prop :=
  ∀ u, e = .destroy u → ∀ v m (n : Name), w.srs.get? v = some m → v ≠ u → n.Under m.path →
    w.tree.Has n → w'.tree.Has n

/-- The SRs never nest, and no destroy touches another SR. -/
def NeverNest : World → List (Event × World) → Prop
  | w, [] => Separate w
  | w, (e, w') :: run => Separate w ∧ OwnOnly w e w' ∧ NeverNest w' run

/-- An adopted dataset is neither that of a live SR nor above nor below one; a new SR is not made in a
pool whose root is the dataset of a live SR. -/
def Clear (w : World) : Event → Prop
  | .create srUuid configuration => ∀ m, target srUuid configuration = some m →
      ∀ v m', w.srs.get? v = some m' → v ≠ srUuid.text →
        if configuration.adopt then ¬ m.path <+: m'.path ∧ ¬ m'.path <+: m.path
        else m'.path ≠ [m.zpool]
  | _ => True

def ClearCreates : World → List (Event × World) → Prop
  | _, [] => True
  | w, (e, w') :: run => Clear w e ∧ ClearCreates w' run

/-- The registered SRs: separate, and each with a marked dataset. -/
structure Inv (w : World) : Prop where
  separate : Separate w
  marked : ∀ u m, w.srs.get? u = some m → MarkedSr w.tree m.path

theorem mem_datasetGetParents {p q : List String} (hp : p <+: q) (hlen : 2 ≤ p.length)
    (hne : p ≠ q) : p ∈ datasetGetParents q := by
  have hlt : p.length < q.length := by
    refine lt_of_le_of_ne hp.length_le fun heq => hne (hp.eq_of_length heq)
  refine List.mem_map.2 ⟨p.length, ?_, (List.prefix_iff_eq_take.1 hp).symm⟩
  simp only [List.mem_range'_1]
  omega

theorem MarkedSr.has {t : Tree} {path : List String} (hm : MarkedSr t path) : t.Has (dataset path) :=
  hm.shows.1

/-- **The checks keep a new dataset clear of every other SR**, except of one at the pool's root. -/
theorem Unclaimed.clear (hlist : ∀ t root, Listed t root (site.list t root)) {w : World} {m m' : Meta}
    (hu : Unclaimed site w.tree m) (hm' : MarkedSr w.tree m'.path) (hroot : m'.path ≠ [m.zpool]) :
    ¬ m.path <+: m'.path ∧ ¬ m'.path <+: m.path := by
  have hne : m'.path ≠ m.path := by
    intro heq
    exact hu.absent (heq ▸ hm'.has)
  constructor
  · intro hbelow
    obtain ⟨node, hnode, hkind, -⟩ := id hm'
    have hpool : [m.zpool] <+: m'.path := (List.prefix_append [m.zpool] m.dataset).trans hbelow
    have hmem := ((hlist w.tree [m.zpool]).mem (dataset m'.path) .filesystem).2
      ⟨hpool, node, hnode, hkind⟩
    exact hu.below _ hmem rfl hbelow hne hm'.shows
  · intro habove
    have hlen : 2 ≤ m'.path.length := by
      obtain ⟨pool', ds'⟩ := m'
      obtain ⟨rest, hrest⟩ := habove
      have hhead : pool' = m.zpool := (List.cons.inj hrest).1
      cases ds' with
      | nil => exact absurd (by rw [Meta.path, hhead]) hroot
      | cons c cs => simp [Meta.path]
    exact hu.above _ (mem_datasetGetParents habove hlen hne) hm'.shows

/-- **A create that is clear keeps the SRs separate.** -/
theorem inv_create (hlist : ∀ t root, Listed t root (site.list t root)) {w w' : World}
    {srUuid : SrUuid} {configuration : Configuration} (hi : Inv w)
    (hclear : Clear w (.create srUuid configuration))
    (hok : create site srUuid configuration w = .ok () w') : Inv w' := by
  obtain ⟨m, htarget, hunclaimed, hsrs, hmarked, hkeep⟩ :=
    (wp_of_ok hok).1 (create_spec srUuid configuration w)
  have hother : ∀ v m', w.srs.get? v = some m' → v ≠ srUuid.text →
      ¬ m.path <+: m'.path ∧ ¬ m'.path <+: m.path := by
    intro v m' hv hne
    have := hclear m htarget v m' hv hne
    cases hadopt : configuration.adopt with
    | true => rwa [hadopt, if_pos rfl] at this
    | false =>
        rw [hadopt, if_neg (by decide)] at this
        exact (hunclaimed hadopt).clear hlist (hi.marked v m' hv) this
  have hget : ∀ v m', w'.srs.get? v = some m' →
      (v = srUuid.text ∧ m' = m) ∨ (v ≠ srUuid.text ∧ w.srs.get? v = some m') := by
    intro v m' hv
    rw [hsrs, Dict.get?_set] at hv
    split at hv
    · next heq => exact .inl ⟨heq, (Option.some.inj hv).symm⟩
    · next hne => exact .inr ⟨hne, hv⟩
  constructor
  · intro u m₁ v m₂ hu hv hne
    rcases hget u m₁ hu with ⟨rfl, rfl⟩ | ⟨hu', hu⟩
    · rcases hget v m₂ hv with ⟨rfl, -⟩ | ⟨hv', hv⟩
      · exact absurd rfl hne
      · exact (hother v m₂ hv hv').1
    · rcases hget v m₂ hv with ⟨rfl, rfl⟩ | ⟨hv', hv⟩
      · exact (hother u m₁ hu hu').2
      · exact hi.separate u m₁ v m₂ hu hv hne
  · intro v m' hv
    rcases hget v m' hv with ⟨-, rfl⟩ | ⟨hne, hv⟩
    · exact hmarked
    · refine (hi.marked v m' hv).of_keeps (hkeep _ fun heq => ?_)
      have hpath : m'.path = m.path := congrArg Name.path heq
      exact (hother v m' hv hne).1 (hpath ▸ List.prefix_refl _)

/-- Two prefixes of one path: one is a prefix of the other. -/
theorem not_under_of_separate {w : World} (hs : Separate w) {u v : String} {m m' : Meta}
    (hu : w.srs.get? u = some m) (hv : w.srs.get? v = some m') (hne : v ≠ u) {n : Name}
    (hn : n.Under m'.path) : ¬ n.Under m.path := by
  intro hn'
  rcases List.prefix_or_prefix_of_prefix hn hn' with hp | hp
  · exact hs v m' u m hv hu hne hp
  · exact hs u m v m' hu hv (Ne.symm hne) hp

theorem inv_destroy {sr : String} {w w' : World} (hi : Inv w) (hd : Destroyed sr w w') : Inv w' := by
  obtain ⟨houtside, hroot⟩ := hd
  have hother : ∀ v m', w.srs.get? v = some m' → v ≠ sr → MarkedSr w'.tree m'.path := by
    intro v m' hv hne
    refine (hi.marked v m' hv).of_keeps (houtside _ fun m hm => ?_)
    exact not_under_of_separate hi.separate hm hv hne (List.prefix_refl _)
  rcases hroot with ⟨hsrs, hkept⟩ | hsrs
  · constructor
    · intro u m v m' hu hv
      rw [hsrs] at hu hv
      exact hi.separate u m v m' hu hv
    · intro v m' hv
      rw [hsrs] at hv
      by_cases hne : v = sr
      · subst hne
        exact (hi.marked v m' hv).of_keeps (hkept m' hv)
      · exact hother v m' hv hne
  · have hget : ∀ v m', w'.srs.get? v = some m' → v ≠ sr ∧ w.srs.get? v = some m' := by
      intro v m' hv
      rw [hsrs, Dict.get?_erase] at hv
      split at hv
      · cases hv
      · next hne => exact ⟨hne, hv⟩
    constructor
    · intro u m v m' hu hv
      exact hi.separate u m v m' (hget u m hu).2 (hget v m' hv).2
    · intro v m' hv
      exact hother v m' (hget v m' hv).2 (hget v m' hv).1

/-- **Every clear step keeps the invariant, and a destroy leaves the other SRs alone.** -/
theorem inv_step (hlist : ∀ t root, Listed t root (site.list t root)) {w w' : World} {e : Event}
    (hi : Inv w) (hclear : Clear w e) (hstep : Step site w e w') : Inv w' ∧ OwnOnly w e w' := by
  cases hstep with
  | create hok => exact ⟨inv_create hlist hi hclear hok, fun _ he => by cases he⟩
  | @destroy sr =>
      have hd := preserves_destroy hlist sr w
      refine ⟨inv_destroy hi hd, ?_⟩
      rintro u he v m n hv hne hn hhas
      cases he
      exact (hd.1 n fun m' hm' => not_under_of_separate hi.separate hm' hv hne hn).has hhas
  | volumes hsame =>
      refine ⟨⟨hi.separate, fun v m hv => ?_⟩, fun _ he => by cases he⟩
      obtain ⟨node, hnode, hkind, hsr⟩ := hi.marked v m hv
      exact ⟨node, (hsame _ node hkind).1 hnode, hkind, hsr⟩

theorem NeverNest.separate {w : World} {run : List (Event × World)} (hn : NeverNest w run) :
    Separate w := by
  cases run with
  | nil => exact hn
  | cons e run => exact hn.1

/-- A create after which the SRs are separate was clear. -/
theorem clear_of_separate {w w' : World} {e : Event} (hstep : Step site w e w')
    (hs : Separate w') : Clear w e := by
  cases hstep with
  | destroy => exact trivial
  | volumes _ => exact trivial
  | @create _ srUuid configuration hok =>
      obtain ⟨m, htarget, -, hsrs, -⟩ := (wp_of_ok hok).1 (create_spec srUuid configuration w)
      intro m₁ htarget₁ v m' hv hne
      obtain rfl : m = m₁ := by simpa [htarget] using htarget₁
      have hself : w'.srs.get? srUuid.text = some m := by rw [hsrs, Dict.get?_set, if_pos rfl]
      have hv' : w'.srs.get? v = some m' := by rw [hsrs, Dict.get?_set, if_neg hne, hv]
      have hbelow := hs _ _ _ _ hself hv' (Ne.symm hne)
      have habove := hs _ _ _ _ hv' hself hne
      split
      · exact ⟨hbelow, habove⟩
      · intro hroot
        exact habove (hroot ▸ List.prefix_append [m.zpool] m.dataset)

theorem neverNest_iff_of_inv (hlist : ∀ t root, Listed t root (site.list t root)) {w : World}
    (hi : Inv w) {run : List (Event × World)} (hrun : Run site w run) :
    NeverNest w run ↔ ClearCreates w run := by
  induction run generalizing w with
  | nil => exact ⟨fun _ => trivial, fun _ => hi.separate⟩
  | cons e run ih =>
      obtain ⟨e, w'⟩ := e
      obtain ⟨hstep, hrun⟩ := hrun
      constructor
      · rintro ⟨-, -, hrest⟩
        have hclear := clear_of_separate hstep hrest.separate
        exact ⟨hclear, (ih (inv_step hlist hi hclear hstep).1 hrun).1 hrest⟩
      · rintro ⟨hclear, hrest⟩
        obtain ⟨hi', hown⟩ := inv_step hlist hi hclear hstep
        exact ⟨hi.separate, hown, (ih hi' hrun).2 hrest⟩

/-- **The SRs of a run never nest, and no destroy touches another SR, exactly when every create of the
run is clear.** -/
theorem neverNest_iff (hlist : ∀ t root, Listed t root (site.list t root)) {w : World}
    (hnew : w.srs = Dict.empty) {run : List (Event × World)} (hrun : Run site w run) :
    NeverNest w run ↔ ClearCreates w run := by
  have hi : Inv w := by
    constructor
    · intro u m v m' hu
      rw [hnew] at hu
      cases hu
    · intro u m hu
      rw [hnew] at hu
      cases hu
  exact neverNest_iff_of_inv hlist hi hrun

/-! ### An SR in an adopted pool -/

private def lzcSite : Site where
  toHost := lzcHost
  importable _ := false
  configErrors _ := []

/-- A pool with nothing in it. -/
private def emptyPool : World where
  tree := ⟨[(dataset ["p"], ⟨.filesystem, none, true, false, none⟩)], by simp⟩
  srs := Dict.empty

private def adoptPool : Configuration := ⟨some "p", true, none, []⟩

private def normalPool : Configuration := ⟨some "/p/", false, none, []⟩

private def srA : SrUuid := ⟨"a", by decide⟩

private def srB : SrUuid := ⟨"b", by decide⟩

private def adopted : World := after (create lzcSite srA adoptPool) emptyPool

private def nested : World := after (create lzcSite srB normalPool) adopted

/-- **A pool adopted as an SR, and then a new SR with `path` set to the same pool**: both creates
return, and the second SR's dataset is below the first one's. -/
theorem not_neverNest_adopted_pool :
    ∃ (site : Site) (w : World) (run : List (Event × World)),
      (∀ t root, Listed t root (site.list t root)) ∧ w.srs = Dict.empty ∧ Run site w run ∧
        ¬ NeverNest w run := by
  refine ⟨lzcSite, emptyPool, [(.create srA adoptPool, adopted), (.create srB normalPool, nested)],
    listed_listByName, rfl, ⟨.create (ok_after (by decide +kernel)),
    .create (ok_after (by decide +kernel)), trivial⟩, ?_⟩
  intro hnever
  have hseparate : Separate nested := hnever.2.2.2.2
  have hA : nested.srs.get? "a" = some ⟨"p", []⟩ := by decide +kernel
  have hB : nested.srs.get? "b" = some ⟨"p", ["b"]⟩ := by decide +kernel
  exact hseparate _ _ _ _ hA hB (by decide) (by decide)

private def below : Configuration := ⟨some "p/vms", false, none, []⟩

private def first : World := after (create lzcSite srA below) emptyPool

private def second : World := after (create lzcSite srB normalPool) first

theorem neverNest_iff_twoSrs :
    NeverNest emptyPool [(.create srA below, first), (.create srB normalPool, second),
      (.destroy "a", after (destroy lzcSite "a") second)] := by
  have hrun : Run lzcSite emptyPool [(.create srA below, first), (.create srB normalPool, second),
      (.destroy "a", after (destroy lzcSite "a") second)] :=
    ⟨.create (ok_after (by decide +kernel)), .create (ok_after (by decide +kernel)), .destroy, trivial⟩
  refine (neverNest_iff listed_listByName rfl hrun).2 ⟨?_, ?_, trivial, trivial⟩
  · intro m _ v m' hv
    cases hv
  · intro m hm v m' hv _
    have hroot : ∀ e ∈ first.srs.items, e.2.path ≠ ["p"] := by decide +kernel
    cases hm
    exact hroot _ (Dict.get?_eq_some_iff.1 hv)

end ZfsLive.Sr

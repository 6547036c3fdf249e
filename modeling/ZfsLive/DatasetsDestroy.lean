/-
**The recursive destroy walks the reversed listing, and that is enough only for trees without clones
that sort before their origins.**

`lzcRecursiveDestroy` destroys the listed nodes from the last to the first.  The listing puts a dataset
before what is inside it, so the walk respects that dependency; a clone needs its origin gone later
too, and where the clone stands in the listing is a matter of its name.

Main definitions:

* `Listed` — what is assumed of `zfs list -r -t all`;
* `ClonesInside`, `Idle` — every clone of a snapshot in the tree is in the tree; nothing there is busy;
* `Remains` — what is left of a tree at some point of the walk.

Main results:

* `destroyNode_free`, `destroyNode_held` — one round destroys a node that nothing needs, and raises at
  any other;
* `destroyNodes_goesThrough` — the walk is a teardown in the sense of `Teardown`;
* `leavesNothing_iff` — **the recursive destroy returns and leaves nothing exactly when no clone is
  listed before the snapshot it was made from**.
-/

import Mathlib.Data.List.Lex
import Mathlib.Data.List.Sort
import Mathlib.Data.Prod.Lex
import Mathlib.Data.String.Basic
import ZfsLive.Base.Teardown
import ZfsLive.Base.Wp
import ZfsLive.Datasets

set_option relaxedAutoImplicit false
set_option autoImplicit false

namespace ZfsLive.Datasets

variable {h : Host}

/-! ### Listings and trees -/

/-- A listing of the tree under `root`: every node of it once, none before a dataset it is inside. -/
structure Listed (t : Tree) (root : List String) (l : List (Name × Kind)) : Prop where
  mem : ∀ n kind, (n, kind) ∈ l ↔ n.Under root ∧ ∃ node, t.get? n = some node ∧ node.kind = kind
  nodup : (l.map Prod.fst).Nodup
  descends : l.Pairwise fun a b => ¬ a.1.Inside b.1

/-- Every clone of a snapshot under `root` is itself under `root`. -/
def ClonesInside (t : Tree) (root : List String) : Prop :=
  ∀ n s, t.IsClone n s → s.Under root → n.Under root

/-- No node under `root` is busy. -/
def Idle (t : Tree) (root : List String) : Prop :=
  ∀ n node, n.Under root → t.get? n = some node → node.busy = false

/-- What of a node no unmount changes. -/
def Node.core (node : Node) : Node := { node with mounted := false }

theorem core_eq_iff {node node' : Node} :
    node.core = node'.core ↔ node.kind = node'.kind ∧ node.origin = node'.origin ∧
      node.busy = node'.busy ∧ node.sr = node'.sr := by
  simp [Node.core]

/-- Of the nodes of `t₀`, those in `S` are left in `t`; they may have been unmounted. -/
structure Remains (t₀ : Tree) (S : Set Name) (t : Tree) : Prop where
  stands : ∀ n ∈ S, t₀.Has n ∧ (t.get? n).map Node.core = (t₀.get? n).map Node.core
  gone : ∀ n, n ∉ S → t.get? n = none

namespace Remains

variable {t₀ t : Tree} {S : Set Name}

theorem refl (t : Tree) : Remains t {n | t.Has n} t where
  stands _ hn := ⟨hn, rfl⟩
  gone n hn := by simpa [Tree.Has] using hn

theorem exists_node (hr : Remains t₀ S t) {n : Name} (hn : n ∈ S) :
    ∃ node node₀, t.get? n = some node ∧ t₀.get? n = some node₀ ∧ node.core = node₀.core := by
  obtain ⟨hhas, hcore⟩ := hr.stands n hn
  obtain ⟨node₀, hnode₀⟩ := Tree.has_iff.1 hhas
  rw [hnode₀, Option.map_some, Option.map_eq_some_iff] at hcore
  obtain ⟨node, hnode, hcore⟩ := hcore
  exact ⟨node, node₀, hnode, hnode₀, hcore⟩

/-- A node of the first tree that is left is there with its kind. -/
theorem node_of_listed (hr : Remains t₀ S t) {n : Name} {kind : Kind}
    (h₀ : ∃ node, t₀.get? n = some node ∧ node.kind = kind ∧ node.busy = false) (hn : n ∈ S) :
    ∃ node, t.get? n = some node ∧ node.busy = false ∧ node.kind = kind := by
  obtain ⟨node, node₀, hnode, hnode₀, hcore⟩ := hr.exists_node hn
  obtain ⟨node', hnode', hkind, hbusy⟩ := h₀
  obtain rfl : node₀ = node' := by simpa [hnode₀] using hnode'
  obtain ⟨hk, -, hb, -⟩ := core_eq_iff.1 hcore
  exact ⟨node, hnode, hb.trans hbusy, hk.trans hkind⟩

theorem has_iff (hr : Remains t₀ S t) {n : Name} : t.Has n ↔ n ∈ S := by
  constructor
  · intro hn
    by_contra hS
    rw [Tree.Has, hr.gone n hS] at hn
    cases hn
  · intro hn
    obtain ⟨node, _, hnode, _⟩ := hr.exists_node hn
    exact Tree.has_iff.2 ⟨node, hnode⟩

theorem blocks_iff (hr : Remains t₀ S t) {m n : Name} (hm : m ∈ S) :
    t.Blocks m n ↔ t₀.Blocks m n := by
  obtain ⟨node, node₀, hnode, hnode₀, hcore⟩ := hr.exists_node hm
  have horigin := (core_eq_iff.1 hcore).2.1
  simp only [Tree.Blocks, Tree.IsClone, hnode, hnode₀, Option.bind_some, horigin]

/-- A node is held exactly when something that stands blocks it. -/
theorem held_iff (hr : Remains t₀ S t) {n : Name} :
    t.Held n ↔ ¬ Teardown.Free t₀.Blocks S n := by
  rw [Tree.held_iff, Teardown.Free]
  push Not
  refine exists_congr fun m => ?_
  rw [hr.has_iff]
  refine and_congr_right fun hm => ?_
  rw [hr.blocks_iff hm]

theorem unmount (hr : Remains t₀ S t) {n : Name} {node : Node} (hnode : t.get? n = some node) :
    Remains t₀ S (t.set n { node with mounted := false }) where
  stands m hm := by
    refine ⟨(hr.stands m hm).1, ?_⟩
    rw [← (hr.stands m hm).2, Dict.get?_set]
    by_cases hmn : m = n
    · subst hmn
      simp [hnode, Node.core]
    · rw [if_neg hmn]
  gone m hm := by
    rw [Dict.get?_set]
    split
    · next hmn =>
        subst hmn
        rw [hr.gone m hm] at hnode
        cases hnode
    · exact hr.gone m hm

theorem erase (hr : Remains t₀ S t) (n : Name) : Remains t₀ (S \ {n}) (t.erase n) where
  stands m hm := by
    have hne : m ≠ n := hm.2
    rw [Dict.get?_erase, if_neg hne]
    exact hr.stands m hm.1
  gone m hm := by
    rw [Dict.get?_erase]
    split
    · rfl
    · next hne => exact hr.gone m fun hS => hm ⟨hS, hne⟩

end Remains

/-! ### One round of the walk -/

theorem retry_eq {n : Name} {k rc : ℕ} {t : Tree} (hrc : rc ∈ retryableErrnos)
    (hone : destroyOne h n t = .ok rc t) : retry h n k rc t = .ok rc t := by
  induction k with
  | zero => rfl
  | succ k ih =>
      have hne : rc ≠ 0 := by rintro rfl; simp [retryableErrnos, EBUSY] at hrc
      rw [retry, Wp.bind_ok hone, if_neg hne, if_neg (not_not.2 hrc)]
      exact ih

/-- Retrying changes nothing: a busy node stays busy as long as nothing else runs. -/
theorem destroyWithRetry_eq {n : Name} {k rc : ℕ} {t t' : Tree}
    (hone : destroyOne h n t = .ok rc t') (hbusy : rc ∈ retryableErrnos → t' = t) :
    destroyWithRetry h n k t = .ok rc t' := by
  rw [destroyWithRetry, Wp.bind_ok hone]
  by_cases hrc : rc = 0
  · rw [if_pos hrc, hrc]
    rfl
  · rw [if_neg hrc]
    by_cases hmem : rc ∈ retryableErrnos
    · rw [if_neg (not_not.2 hmem)]
      obtain rfl := hbusy hmem
      exact retry_eq hmem hone
    · rw [if_pos hmem]
      rfl

theorem lzcDestroy_of_free {n : Name} {node : Node} {t : Tree} (hnode : t.get? n = some node)
    (hm : ¬ node.Mounted) (hbusy : node.busy = false) (hfree : ¬ t.Held n) :
    lzcDestroy h n t = .ok 0 (t.erase n) := by
  simp [lzcDestroy, Wp.get_bind, hnode, hm, hbusy, hfree, Wp.map_ok (Wp.set_apply (t.erase n) t)]

theorem lzcDestroy_of_held {n : Name} {node : Node} {t : Tree} (hnode : t.get? n = some node)
    (hm : ¬ node.Mounted) (hbusy : node.busy = false) (hheld : t.Held n) :
    lzcDestroy h n t = .ok (h.refusal n) t := by
  simp [lzcDestroy, Wp.get_bind, Wp.pure_apply, hnode, hm, hbusy, hheld]

theorem datasetIsMounted_eq {n : Name} {node : Node} {t : Tree} (hnode : t.get? n = some node) :
    datasetIsMounted h n t = .ok (decide node.Mounted) t := by
  have hlook : lookup h ["zfs", "get", "mounted", n.text] n t = .ok node t := by
    simp [lookup, Wp.get_bind, Wp.pure_apply, hnode]
  have hget : zfsGetMounted h n t =
      .ok (if node.kind = .filesystem then if node.mounted then "yes" else "no" else "-") t := by
    rw [zfsGetMounted, Wp.bind_ok hlook]
    split <;> rfl
  refine Wp.tryCatch_ok ?_
  rw [Wp.bind_ok hget]
  by_cases hk : node.kind = .filesystem
  · by_cases hmount : node.mounted <;> simp [Node.Mounted, hk, hmount, pure, EStateM.pure]
  · simp [Node.Mounted, hk, pure, EStateM.pure]

theorem datasetUnmount_eq {n : Name} {node : Node} {t : Tree} (hnode : t.get? n = some node)
    (hm : node.Mounted) (hbusy : node.busy = false) :
    datasetUnmount h n t = .ok () (t.set n { node with mounted := false }) := by
  have hlook : lookup h ["zfs", "unmount", n.text] n t = .ok node t := by
    simp [lookup, Wp.get_bind, Wp.pure_apply, hnode]
  simp [datasetUnmount, zfsUnmount, Wp.bind_ok hlook, Wp.modify_apply, hm, hbusy]

section Round

variable {t₀ t : Tree} {S : Set Name} {root : List String} {n : Name} {kind : Kind} {node : Node}

/-- The unmount step of a round: the filesystem is not mounted any more, and the tree is otherwise
as it was. -/
theorem unmountBefore_spec (hr : Remains t₀ S t) (hnode : t.get? n = some node)
    (hbusy : node.busy = false) (hkind : node.kind = kind) :
    ∃ t₁ node₁, unmountBefore h root n kind t = .ok () t₁ ∧ Remains t₀ S t₁ ∧
      t₁.get? n = some node₁ ∧ ¬ node₁.Mounted ∧ node₁.busy = false := by
  by_cases hk : kind = .filesystem
  · rw [unmountBefore, if_pos hk]
    by_cases hm : node.Mounted
    · have hunmount : (do if ← datasetIsMounted h n then datasetUnmount h n : M Unit) t =
          .ok () (t.set n { node with mounted := false }) := by
        rw [Wp.bind_ok (datasetIsMounted_eq hnode), if_pos (decide_eq_true hm)]
        exact datasetUnmount_eq hnode hm hbusy
      refine ⟨_, { node with mounted := false }, Wp.tryCatch_ok hunmount, hr.unmount hnode, ?_, ?_,
        hbusy⟩
      · rw [Dict.get?_set, if_pos rfl]
      · simp [Node.Mounted]
    · have hskip : (do if ← datasetIsMounted h n then datasetUnmount h n : M Unit) t = .ok () t := by
        rw [Wp.bind_ok (datasetIsMounted_eq hnode), if_neg (by simpa using hm)]
        rfl
      exact ⟨t, node, Wp.tryCatch_ok hskip, hr, hnode, hm, hbusy⟩
  · rw [unmountBefore, if_neg hk]
    exact ⟨t, node, rfl, hr, hnode, fun hm => hk (hkind ▸ hm.1), hbusy⟩

/-- **A node that nothing needs is destroyed.** -/
theorem destroyNode_free (hr : Remains t₀ S t) (hnode : t.get? n = some node)
    (hbusy : node.busy = false) (hkind : node.kind = kind) (hfree : Teardown.Free t₀.Blocks S n) :
    ∃ t', destroyNode h root n kind t = .ok () t' ∧ Remains t₀ (S \ {n}) t' := by
  obtain ⟨t₁, node₁, hunmount, hr₁, hnode₁, hm₁, hbusy₁⟩ :=
    @unmountBefore_spec h t₀ t S root n kind node hr hnode hbusy hkind
  have hheld : ¬ t₁.Held n := fun hh => hr₁.held_iff.1 hh hfree
  have hone := lzcDestroy_of_free (h := h) hnode₁ hm₁ hbusy₁ hheld
  have hrc : destroyWithRetry h n 10 t₁ = .ok 0 (t₁.erase n) :=
    destroyWithRetry_eq hone (by simp [retryableErrnos, EBUSY])
  refine ⟨t₁.erase n, ?_, hr₁.erase n⟩
  rw [destroyNode, Wp.bind_ok hunmount, Wp.bind_ok hrc]
  simp [pure, EStateM.pure]

/-- **A node that another one needs stops the walk.** -/
theorem destroyNode_held (hr : Remains t₀ S t) (hnode : t.get? n = some node)
    (hbusy : node.busy = false) (hkind : node.kind = kind)
    (hheld : ¬ Teardown.Free t₀.Blocks S n) :
    ∃ e t', destroyNode h root n kind t = .error e t' := by
  obtain ⟨t₁, node₁, hunmount, hr₁, hnode₁, hm₁, hbusy₁⟩ :=
    @unmountBefore_spec h t₀ t S root n kind node hr hnode hbusy hkind
  have hone := lzcDestroy_of_held (h := h) hnode₁ hm₁ hbusy₁ (hr₁.held_iff.2 hheld)
  have hrc : destroyWithRetry h n 10 t₁ = .ok (h.refusal n) t₁ := destroyWithRetry_eq hone fun _ => rfl
  have hrefuse : ¬ (h.refusal n = 0 ∨ h.refusal n = ENOENT) := not_or.2 (h.refusal_ne n)
  exact ⟨_, t₁, by rw [destroyNode, Wp.bind_ok hunmount, Wp.bind_ok hrc, if_neg hrefuse]; rfl⟩

end Round

/-! ### The whole walk -/

/-- **The walk is a teardown**: it returns exactly when every node is free at its turn, and then the
nodes it has visited are gone and the others are left. -/
theorem destroyNodes_goesThrough {t₀ : Tree} {root : List String} {l : List (Name × Kind)}
    (hkind : ∀ e ∈ l, ∃ node, t₀.get? e.1 = some node ∧ node.kind = e.2 ∧ node.busy = false)
    (hnodup : (l.map Prod.fst).Nodup) {t : Tree} {S : Set Name} (hr : Remains t₀ S t)
    (hstand : ∀ e ∈ l, e.1 ∈ S) :
    (Teardown.GoesThrough t₀.Blocks (l.map Prod.fst) S →
      ∃ t', destroyNodes h root l t = .ok () t' ∧ Remains t₀ (S \ {n | n ∈ l.map Prod.fst}) t') ∧
    (¬ Teardown.GoesThrough t₀.Blocks (l.map Prod.fst) S →
      ∃ e t', destroyNodes h root l t = .error e t') := by
  induction l generalizing t S with
  | nil =>
      have hsdiff : S \ {n | n ∈ ([] : List (Name × Kind)).map Prod.fst} = S := by
        ext m
        simp
      rw [hsdiff]
      exact ⟨fun _ => ⟨t, rfl, hr⟩, fun hgo => (hgo trivial).elim⟩
  | cons e l ih =>
      obtain ⟨n, kind⟩ := e
      obtain ⟨hn, hnodup⟩ := List.nodup_cons.1 hnodup
      obtain ⟨node, hnode, hbusy, hnkind⟩ := hr.node_of_listed (hkind _ List.mem_cons_self)
        (hstand _ List.mem_cons_self)
      have hkind' : ∀ e ∈ l, _ := fun e he => hkind e (List.mem_cons_of_mem _ he)
      rw [List.map_cons, Teardown.goesThrough_cons]
      by_cases hfree : Teardown.Free t₀.Blocks S n
      · obtain ⟨t₁, hone, hr₁⟩ := @destroyNode_free h t₀ t S root n kind node hr hnode hbusy hnkind hfree
        have hstand₁ : ∀ e ∈ l, e.1 ∈ S \ {n} := by
          intro e he
          refine ⟨hstand e (List.mem_cons_of_mem _ he), ?_⟩
          intro heq
          exact hn (List.mem_map.2 ⟨e, he, heq⟩)
        have hsdiff : S \ {m | m ∈ n :: l.map Prod.fst} = (S \ {n}) \ {m | m ∈ l.map Prod.fst} := by
          ext m
          simp [and_assoc, not_or]
        obtain ⟨hgo, hstop⟩ := ih hkind' hnodup hr₁ hstand₁
        rw [destroyNodes, Wp.bind_ok hone, hsdiff]
        exact ⟨fun hall => hgo hall.2, fun hnot => hstop fun hrest => hnot ⟨hfree, hrest⟩⟩
      · obtain ⟨exc, t₁, hone⟩ :=
          @destroyNode_held h t₀ t S root n kind node hr hnode hbusy hnkind hfree
        rw [destroyNodes, Wp.bind_error hone]
        exact ⟨fun hgo => (hfree hgo.1).elim, fun _ => ⟨exc, t₁, rfl⟩⟩

/-- The recursive destroy of `root` returns, and no node of the tree under `root` is left. -/
def LeavesNothing (h : Host) (t : Tree) (root : List String) : Prop :=
  ∃ t', lzcRecursiveDestroy h root t = .ok () t' ∧ ∀ n, n.Under root → ¬ t'.Has n

theorem lzcRecursiveDestroy_eq {t : Tree} {root : List String} (hroot : t.Has (dataset root)) :
    lzcRecursiveDestroy h root t = destroyNodes h root (h.list t root).reverse t := by
  rw [lzcRecursiveDestroy, Wp.bind_ok (rfl : (get : M Tree) t = .ok t t), if_pos hroot]

/-- What stands and blocks a listed node is itself listed. -/
theorem Listed.closed {t : Tree} {root : List String} {l : List (Name × Kind)} (hl : Listed t root l)
    (hclones : ClonesInside t root) :
    ∀ x ∈ l.map Prod.fst, ∀ y, t.Has y → t.Blocks y x → y ∈ l.map Prod.fst := by
  intro x hx y hy hblocks
  obtain ⟨⟨x', kind⟩, hmem, rfl⟩ := List.mem_map.1 hx
  have hunder := ((hl.mem _ _).1 hmem).1
  obtain ⟨node, hnode⟩ := Tree.has_iff.1 hy
  refine List.mem_map.2 ⟨(y, node.kind), (hl.mem _ _).2 ⟨?_, node, hnode, rfl⟩, rfl⟩
  rcases hblocks with hinside | hclone
  · exact hunder.trans hinside.2.1
  · exact hclones y _ hclone hunder

/-- **The recursive destroy returns and leaves nothing exactly when no clone is listed before the
snapshot it was made from.** -/
theorem leavesNothing_iff {t : Tree} {root : List String} (hroot : t.Has (dataset root))
    (hl : Listed t root (h.list t root)) (hclones : ClonesInside t root) (hidle : Idle t root) :
    LeavesNothing h t root ↔ (h.list t root).Pairwise fun a b => ¬ t.IsClone a.1 b.1 := by
  have hkind : ∀ e ∈ (h.list t root).reverse,
      ∃ node, t.get? e.1 = some node ∧ node.kind = e.2 ∧ node.busy = false := by
    intro e he
    obtain ⟨hunder, node, hnode, hk⟩ := (hl.mem e.1 e.2).1 (List.mem_reverse.1 he)
    exact ⟨node, hnode, hk, hidle _ _ hunder hnode⟩
  have hstand : ∀ e ∈ (h.list t root).reverse, e.1 ∈ {n | t.Has n} := by
    intro e he
    obtain ⟨node, hnode, -⟩ := hkind e he
    exact Tree.has_iff.2 ⟨node, hnode⟩
  have hnodup : ((h.list t root).reverse.map Prod.fst).Nodup := by
    rw [List.map_reverse]
    exact List.nodup_reverse.2 hl.nodup
  obtain ⟨hgo, hstop⟩ :=
    @destroyNodes_goesThrough h t root _ hkind hnodup t _ (Remains.refl t) hstand
  have horder : Teardown.GoesThrough t.Blocks ((h.list t root).reverse.map Prod.fst) {n | t.Has n} ↔
      (h.list t root).Pairwise fun a b => ¬ t.IsClone a.1 b.1 := by
    have hstand' : ∀ x ∈ (h.list t root).map Prod.fst, x ∈ {n | t.Has n} := by
      intro x hx
      obtain ⟨e, he, rfl⟩ := List.mem_map.1 hx
      exact hstand e (List.mem_reverse.2 he)
    have hclosed : ∀ x ∈ (h.list t root).map Prod.fst, ∀ y ∈ {n | t.Has n}, t.Blocks y x →
        y ∈ (h.list t root).map Prod.fst := hl.closed hclones
    rw [List.map_reverse, Teardown.goesThrough_reverse_iff hl.nodup hstand' hclosed,
      List.pairwise_map]
    constructor
    · exact fun hp => hp.imp fun hb hc => hb (.inr hc)
    · exact fun hp => (hp.and hl.descends).imp fun hb hc => hc.elim hb.2 hb.1
  rw [LeavesNothing, lzcRecursiveDestroy_eq hroot, ← horder]
  constructor
  · rintro ⟨t', hok, -⟩
    by_contra hnot
    obtain ⟨e, t'', herr⟩ := hstop hnot
    rw [hok] at herr
    cases herr
  · intro hall
    obtain ⟨t', hok, hr⟩ := hgo hall
    refine ⟨t', hok, fun n hunder hn => ?_⟩
    obtain ⟨hhas, hnot⟩ := hr.has_iff.1 hn
    obtain ⟨node, hnode⟩ := Tree.has_iff.1 hhas
    have hmem := (hl.mem n node.kind).2 ⟨hunder, node, hnode, rfl⟩
    exact hnot (List.mem_map.2 ⟨_, List.mem_reverse.2 hmem, rfl⟩)

/-! ### Hosts whose listing is right for every tree -/

/-- Datasets by name, a dataset's snapshots after it. -/
def sortKey (n : Name) : List String ×ₗ List String := toLex (n.path, n.snap.toList)

theorem sortKey_lt_of_inside {y x : Name} (hinside : y.Inside x) : sortKey x < sortKey y := by
  obtain ⟨xpath, xsnap⟩ := x
  obtain ⟨ypath, ysnap⟩ := y
  obtain ⟨hsnap, hunder, hne⟩ := hinside
  obtain rfl : xsnap = none := hsnap
  obtain ⟨below, rfl⟩ : xpath <+: ypath := hunder
  rw [sortKey, sortKey, Prod.Lex.toLex_lt_toLex]
  cases below with
  | nil =>
      cases ysnap with
      | none => simp at hne
      | some s => exact .inr ⟨by simp, List.Lex.nil⟩
  | cons c below =>
      have := List.Lex.append_left (· < ·) (List.Lex.nil : List.Lex (· < ·) [] (c :: below)) xpath
      rw [List.append_nil] at this
      exact .inl this

/-- The nodes under `root` in the order of their names. -/
def listByName (t : Tree) (root : List String) : List (Name × Kind) :=
  ((t.items.filter fun e => e.1.Under root).map fun e => (e.1, e.2.kind)).insertionSort
    fun a b => sortKey a.1 ≤ sortKey b.1

theorem listed_listByName (t : Tree) (root : List String) : Listed t root (listByName t root) where
  mem n kind := by
    simp only [listByName, List.mem_insertionSort, List.mem_map, List.mem_filter, decide_eq_true_eq,
      Prod.mk.injEq, Dict.get?_eq_some_iff]
    constructor
    · rintro ⟨⟨m, node⟩, ⟨hmem, hunder⟩, rfl, rfl⟩
      exact ⟨hunder, node, hmem, rfl⟩
    · rintro ⟨hunder, node, hmem, rfl⟩
      exact ⟨(n, node), ⟨hmem, hunder⟩, rfl, rfl⟩
  nodup := by
    have hperm := (List.perm_insertionSort (fun a b : Name × Kind => sortKey a.1 ≤ sortKey b.1)
      ((t.items.filter fun e => e.1.Under root).map fun e => (e.1, e.2.kind))).map Prod.fst
    refine hperm.nodup_iff.2 ?_
    rw [List.map_map]
    exact (List.filter_sublist.map Prod.fst).nodup t.distinct
  descends := by
    have : Std.Total fun a b : Name × Kind => sortKey a.1 ≤ sortKey b.1 := ⟨fun a b => le_total _ _⟩
    have : IsTrans (Name × Kind) fun a b => sortKey a.1 ≤ sortKey b.1 := ⟨fun a b c => le_trans⟩
    refine (List.pairwise_insertionSort (fun a b : Name × Kind => sortKey a.1 ≤ sortKey b.1) _).imp ?_
    intro a b hle hinside
    exact absurd (sortKey_lt_of_inside hinside) (not_lt_of_ge hle)

/-- A host with `libzfs_core`. -/
def lzcHost : Host where
  list := listByName
  refusal _ := 17
  refusal_ne _ := by decide
  errnoToStr _ := "File exists"
  stderr cmd := " ".intercalate cmd
  available := true
  legal s := s ≠ "" ∧ s.toList.all fun c => c.isAlphanum ∨ c ∈ ['-', '_', '.', ':']
  mountsNew _ _ := true

/-! ### A clone that sorts before its origin -/

private def filesystem : Node := ⟨.filesystem, none, true, false, none⟩

private def zvol (origin : Option Name) : Node := ⟨.volume, origin, false, false, none⟩

private def snapshot : Node := ⟨.snapshot, none, false, false, none⟩

/-- An SR with the zvol `b`, its snapshot `s` and a clone of it. -/
private def clonedSr (b clone : String) : Tree where
  items := [(dataset ["p", "sr"], filesystem), (dataset ["p", "sr", "a"], zvol
    (if clone = "a" then some ⟨["p", "sr", b], some "s"⟩ else none)),
    (dataset ["p", "sr", "b"], zvol (if clone = "b" then some ⟨["p", "sr", b], some "s"⟩ else none)),
    (⟨["p", "sr", b], some "s"⟩, snapshot)]
  distinct := by simp [dataset]

theorem clonesInside_of_items {t : Tree} {root : List String}
    (hall : ∀ e ∈ t.items, e.1.Under root) : ClonesInside t root := by
  intro n s hclone _
  obtain ⟨node, hnode, _⟩ := Tree.isClone_iff.1 hclone
  exact hall (n, node) (Dict.get?_eq_some_iff.1 hnode)

theorem idle_of_items {t : Tree} {root : List String} (hall : ∀ e ∈ t.items, e.2.busy = false) :
    Idle t root := fun n node _ hnode => hall (n, node) (Dict.get?_eq_some_iff.1 hnode)

/-- **An SR with a clone whose name sorts before the name of its origin's zvol.** The listing is in the
order of the names and nothing is busy, and yet the destroy raises. -/
theorem not_leavesNothing_clone_first :
    ∃ (h : Host) (t : Tree) (root : List String), t.Has (dataset root) ∧
      Listed t root (h.list t root) ∧
      (((h.list t root).filter fun e => e.1.snap = none).map fun e => e.1.text).Pairwise (· < ·) ∧
      ClonesInside t root ∧ Idle t root ∧ ¬ LeavesNothing h t root := by
  refine ⟨lzcHost, clonedSr "b" "a", ["p", "sr"], by decide, listed_listByName _ _,
    by decide +kernel, clonesInside_of_items (by decide), idle_of_items (by decide), ?_⟩
  rintro ⟨t', hok, -⟩
  have hraises : Wp.returns (lzcRecursiveDestroy lzcHost ["p", "sr"]) (clonedSr "b" "a") = false := by
    decide +kernel
  rw [Wp.returns, hok] at hraises
  cases hraises

theorem leavesNothing_iff_clonedSr :
    LeavesNothing lzcHost (clonedSr "a" "b") ["p", "sr"] :=
  (leavesNothing_iff (h := lzcHost) (t := clonedSr "a" "b") (by decide) (listed_listByName _ _)
    (clonesInside_of_items (by decide)) (idle_of_items (by decide))).2 (by decide +kernel)

end ZfsLive.Datasets

/-
**Taking down a set of things that need each other, one after the other.**

`Blocks y x` says that `x` cannot be taken down as long as `y` stands.  A list is taken down from its
head on; the walk goes through when, at each turn, nothing that still stands blocks the head.

* `Teardown.GoesThrough` — the walk is never blocked;
* `Teardown.goesThrough_iff` — **it is never blocked exactly when the list is a dependency order**: no
  entry comes before one that blocks it;
* `Teardown.goesThrough_reverse_iff` — the same for a list that is walked from its end.
-/

import Mathlib.Data.Set.Insert
import Mathlib.Data.List.Nodup
import Mathlib.Tactic.Common

set_option relaxedAutoImplicit false
set_option autoImplicit false

namespace Teardown

variable {α : Type} {Blocks : α → α → Prop}

/-- Nothing else that stands blocks `x`. -/
def Free (Blocks : α → α → Prop) (S : Set α) (x : α) : Prop := ∀ y ∈ S, y ≠ x → ¬ Blocks y x

/-- Each entry of the list is free when its turn comes; the entries before it are gone by then. -/
def GoesThrough (Blocks : α → α → Prop) : List α → Set α → Prop
  | [], _ => True
  | x :: l, S => Free Blocks S x ∧ GoesThrough Blocks l (S \ {x})

theorem goesThrough_cons {x : α} {l : List α} {S : Set α} :
    GoesThrough Blocks (x :: l) S ↔ Free Blocks S x ∧ GoesThrough Blocks l (S \ {x}) := Iff.rfl

/-- **A walk is never blocked exactly when its list is a dependency order**, provided that whatever
stands and blocks an entry is itself an entry. -/
theorem goesThrough_iff {l : List α} {S : Set α} (hnodup : l.Nodup) (hstand : ∀ x ∈ l, x ∈ S)
    (hclosed : ∀ x ∈ l, ∀ y ∈ S, Blocks y x → y ∈ l) :
    GoesThrough Blocks l S ↔ l.Pairwise fun x y => ¬ Blocks y x := by
  induction l generalizing S with
  | nil => simp [GoesThrough]
  | cons x l ih =>
      obtain ⟨hx, hnodup⟩ := List.nodup_cons.1 hnodup
      have hstand' : ∀ y ∈ l, y ∈ S \ {x} := by
        intro y hy
        refine ⟨hstand y (List.mem_cons_of_mem _ hy), ?_⟩
        rintro rfl
        exact hx hy
      have hclosed' : ∀ y ∈ l, ∀ w ∈ S \ {x}, Blocks w y → w ∈ l := by
        intro y hy w hw hblocks
        have := hclosed y (List.mem_cons_of_mem _ hy) w hw.1 hblocks
        exact (List.mem_cons.1 this).resolve_left hw.2
      rw [goesThrough_cons, List.pairwise_cons, ih hnodup hstand' hclosed']
      refine and_congr_left fun _ => ?_
      constructor
      · intro hfree y hy hblocks
        exact hfree y (hstand' y hy).1 (hstand' y hy).2 hblocks
      · intro hlater y hy hne hblocks
        have := hclosed x List.mem_cons_self y hy hblocks
        exact hlater y ((List.mem_cons.1 this).resolve_left hne) hblocks

/-- A list that is walked from its end: what blocks an entry must come after it. -/
theorem goesThrough_reverse_iff {l : List α} {S : Set α} (hnodup : l.Nodup)
    (hstand : ∀ x ∈ l, x ∈ S) (hclosed : ∀ x ∈ l, ∀ y ∈ S, Blocks y x → y ∈ l) :
    GoesThrough Blocks l.reverse S ↔ l.Pairwise fun x y => ¬ Blocks x y := by
  rw [goesThrough_iff (List.nodup_reverse.2 hnodup)
    (fun x hx => hstand x (List.mem_reverse.1 hx))
    (fun x hx y hy h => List.mem_reverse.2 (hclosed x (List.mem_reverse.1 hx) y hy h)),
    List.pairwise_reverse]

end Teardown

/-
**Taking away what is not wanted, round after round.**

Some elements of a finite set are to go.  An element goes only when nothing else that stands blocks it, so
that one round may have to leave some of them for the next.  Rounds are not coordinated otherwise: a round
takes away elements one at a time in whatever order, and is thorough only in that it leaves none which was
free to go when it began.

What is gone in the end does not depend on the rounds.  It is what is doomed and blocked by nothing but
elements that go themselves, `Pruning.Goes`; as many rounds as there are elements are enough.

* `Pruning.goes_of_rounds` — **nothing else goes**, however many rounds there are;
* `Pruning.gone_of_rounds` — **all of it goes** in as many rounds as there are elements.
-/

import Mathlib.Data.Finset.Card
import ZfsLive.Base.Teardown

set_option relaxedAutoImplicit false
set_option autoImplicit false

namespace Pruning

open Teardown

variable {α : Type} [DecidableEq α]

/-- The element is doomed, and what else in `S` blocks it goes as well. -/
inductive Goes (doomed : α → Prop) (Blocks : α → α → Prop) (S : Finset α) : α → Prop
  | intro (x : α) : doomed x → (∀ y ∈ S, y ≠ x → Blocks y x → Goes doomed Blocks S y) →
      Goes doomed Blocks S x

/-- Doomed elements go one after the other, each when nothing that stands blocks it. -/
inductive Prunes (doomed : α → Prop) (Blocks : α → α → Prop) (S : Finset α) : Finset α → Prop
  | refl : Prunes doomed Blocks S S
  | erase {T : Finset α} (x : α) : Prunes doomed Blocks S T → doomed x → Free Blocks T x →
      Prunes doomed Blocks S (T.erase x)

/-- A round takes away what was doomed and free when it began, and perhaps more. -/
structure Round (doomed : α → Prop) (Blocks : α → α → Prop) (S T : Finset α) : Prop where
  prunes : Prunes doomed Blocks S T
  thorough : ∀ x ∈ S, doomed x → Free Blocks S x → x ∉ T

/-- One round after the other, each with what is doomed by then. -/
def Rounds (Blocks : α → α → Prop) : List (α → Prop) → Finset α → Finset α → Prop
  | [], S, T => S = T
  | doomed :: rest, S, T => ∃ U, Round doomed Blocks S U ∧ Rounds Blocks rest U T

variable {doomed doomed' : α → Prop} {Blocks : α → α → Prop} {S S₀ T U : Finset α} {x y : α}

/-! ### What a round leaves alone -/

theorem Prunes.subset (h : Prunes doomed Blocks S T) : T ⊆ S := by
  induction h with
  | refl => exact Finset.Subset.refl S
  | erase x _ _ _ ih => exact (Finset.erase_subset x _).trans ih

theorem Prunes.trans (h : Prunes doomed Blocks S T) (h' : Prunes doomed Blocks T U) :
    Prunes doomed Blocks S U := by
  induction h' with
  | refl => exact h
  | erase x _ hx hfree ih => exact .erase x ih hx hfree

theorem Prunes.mono (h : Prunes doomed Blocks S T) (hd : ∀ x, doomed x → doomed' x) :
    Prunes doomed' Blocks S T := by
  induction h with
  | refl => exact .refl
  | erase x _ hx hfree ih => exact .erase x ih (hd x hx) hfree

omit [DecidableEq α] in
/-- What is free stays free. -/
theorem free_of_subset (hTS : T ⊆ S) (hfree : Free Blocks S x) : Free Blocks T x :=
  fun y hy => hfree y (hTS hy)

/-- **Only what goes is taken away.**  What blocked an element before it was taken away was taken away
earlier. -/
theorem Prunes.goes (h : Prunes doomed Blocks S T) (hgone : ∀ x ∈ S₀, x ∉ S → Goes doomed Blocks S₀ x) :
    ∀ x ∈ S₀, x ∉ T → Goes doomed Blocks S₀ x := by
  induction h with
  | refl => exact hgone
  | @erase T z _ hz hfree ih =>
      intro x hx hxT
      by_cases hxz : x ∈ T
      · obtain rfl : x = z := by
          by_contra hne
          exact hxT (Finset.mem_erase.2 ⟨hne, hxz⟩)
        refine .intro x hz fun y hy hne hblocks => ih y hy fun hyT => hfree y hyT hne hblocks
      · exact ih x hx hxz

theorem Rounds.subset {ds : List (α → Prop)} (h : Rounds Blocks ds S T) : T ⊆ S := by
  induction ds generalizing S with
  | nil => exact h ▸ Finset.Subset.refl S
  | cons d ds ih =>
      obtain ⟨U, hround, hrest⟩ := h
      exact (ih hrest).trans hround.prunes.subset

/-- **Nothing else goes**, if no round has more that is doomed. -/
theorem goes_of_rounds {ds : List (α → Prop)} (hds : ∀ d ∈ ds, ∀ x, d x → doomed x)
    (h : Rounds Blocks ds S T) (hgone : ∀ x ∈ S₀, x ∉ S → Goes doomed Blocks S₀ x) :
    ∀ x ∈ S₀, x ∉ T → Goes doomed Blocks S₀ x := by
  induction ds generalizing S with
  | nil =>
      cases h
      exact hgone
  | cons d ds ih =>
      obtain ⟨U, hround, hrest⟩ := h
      refine ih (fun d' hd' => hds d' (List.mem_cons_of_mem d hd')) hrest ?_
      exact (hround.prunes.mono (hds d List.mem_cons_self)).goes hgone

/-! ### How long it takes -/

omit [DecidableEq α] in
/-- As long as something is left that goes, something is left that can go at once. -/
theorem exists_free (hTS : T ⊆ S) (hx : Goes doomed Blocks S x) (hxT : x ∈ T) :
    ∃ y ∈ T, doomed y ∧ Free Blocks T y := by
  induction hx with
  | intro x hd _ ih =>
      by_cases hfree : Free Blocks T x
      · exact ⟨x, hxT, hd, hfree⟩
      · obtain ⟨y, hyT, hne, hblocks⟩ : ∃ y ∈ T, y ≠ x ∧ Blocks y x := by
          simpa [Free] using hfree
        exact ih y (hTS hyT) hne hblocks hyT

/-- **All of it goes** in as many rounds as there are elements, if every round has it doomed. -/
theorem gone_of_rounds {ds : List (α → Prop)} (hds : ∀ d ∈ ds, ∀ x, doomed x → d x) (hS : S ⊆ S₀)
    (hcard : S.card ≤ ds.length) (h : Rounds Blocks ds S T) (hx : Goes doomed Blocks S₀ x) : x ∉ T := by
  induction ds generalizing S with
  | nil =>
      obtain rfl : S = T := h
      have hempty := Finset.card_eq_zero.1 (Nat.le_zero.1 hcard)
      exact fun hxS => Finset.notMem_empty x (hempty ▸ hxS)
  | cons d ds ih =>
      have hT := h.subset
      obtain ⟨U, hround, hrest⟩ := h
      intro hxT
      obtain ⟨y, hyS, hdoomed, hfree⟩ := exists_free hS hx (hT hxT)
      have hyU := hround.thorough y hyS (hds d List.mem_cons_self y hdoomed) hfree
      have hless : U.card < S.card :=
        Finset.card_lt_card ((Finset.ssubset_iff_of_subset hround.prunes.subset).2 ⟨y, hyS, hyU⟩)
      have hrounds : U.card ≤ ds.length := Nat.le_of_lt_succ (hless.trans_le hcard)
      exact ih (fun d' hd' => hds d' (List.mem_cons_of_mem d hd')) (hround.prunes.subset.trans hS)
        hrounds hrest hxT

end Pruning

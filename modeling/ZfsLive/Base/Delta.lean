/-
Bringing an image up to date with deltas.

A version is a function on places, and a delta tells the places at which two versions differ.  An image
that agrees with one version is brought to the next one by copying the places of the delta.  A delta may
tell too many places, but on the places that matter it has to tell each one that differs.

* `Delta.patch`, `Delta.patches` — one delta, and a chain of them;
* `Delta.eqOn_patches` — an image agrees with the last version of a chain of deltas that miss nothing.
-/

import Mathlib.Data.Set.Operations
import Mathlib.Tactic.Common

set_option relaxedAutoImplicit false
set_option autoImplicit false

namespace Delta

variable {ι α κ : Type} {s : Set ι} {changed : ι → Bool} {older newer image : ι → α}

/-- The image with the places of a delta from the newer version. -/
def patch (changed : ι → Bool) (newer image : ι → α) : ι → α :=
  fun x => if changed x then newer x else image x

/-- The delta tells the places of `s` at which two versions differ. -/
def Tells (s : Set ι) (changed : ι → Bool) (older newer : ι → α) : Prop :=
  ∀ x ∈ s, older x ≠ newer x → changed x = true

theorem eqOn_patch (hchanged : Tells s changed older newer) (himage : Set.EqOn image older s) :
    Set.EqOn (patch changed newer image) newer s := by
  intro x hx
  rw [patch]
  split
  · rfl
  · next hclean =>
    by_contra hne
    refine hclean (hchanged x hx fun heq => hne ?_)
    rw [himage hx, heq]

/-- The image after the deltas from one version to the next along a chain. -/
def patches (version : κ → ι → α) (changed : κ → κ → ι → Bool) (image : ι → α) : κ → List κ → ι → α
  | _, [] => image
  | older, newer :: chain =>
      patches version changed (patch (changed older newer) (version newer) image) newer chain

/-- **A chain of deltas that miss nothing leads to its last version.** -/
theorem eqOn_patches {version : κ → ι → α} {changed : κ → κ → ι → Bool} {chain : List κ} {first : κ}
    (hchain : List.IsChain (fun older newer => Tells s (changed older newer) (version older)
      (version newer)) (first :: chain))
    (himage : Set.EqOn image (version first) s) :
    Set.EqOn (patches version changed image first chain)
      (version ((first :: chain).getLast (List.cons_ne_nil _ _))) s := by
  induction chain generalizing first image with
  | nil => exact himage
  | cons newer chain ih =>
      rw [List.isChain_cons_cons] at hchain
      rw [List.getLast_cons (List.cons_ne_nil _ _)]
      exact ih hchain.2 (eqOn_patch hchain.1 himage)

end Delta

/-
Weakest preconditions for programs that keep a state and can raise.

`Wp.wp m Q X s` says that the program `m`, started in `s`, ends: with a value and a state that
satisfy `Q`, or with an exception and a state that satisfy `X`.  The rules below take a program
apart along its binds, its handlers and its branches, so that a proof about it follows its text.

* `Wp.wp_bind`, `Wp.wp_tryCatch`, `Wp.wp_ite` — the rules of the connectives;
* `Wp.wp_mono`, `Wp.wp_and` — consequence and conjunction;
* `Wp.Preserves` — what holds between the states before and after, however the program ends;
* `Wp.Returns` — what holds between them when the program returns;
* `Wp.exists_ok_of_wp`, `Wp.exists_error_of_wp` — a program that cannot raise returns, and conversely.
-/

import Mathlib.Order.Defs.Unbundled
import Mathlib.Tactic.Common

set_option relaxedAutoImplicit false
set_option autoImplicit false

namespace Wp

variable {ε σ α β : Type}

/-- The program ends, in `Q` when it returns and in `X` when it raises. -/
def wp (m : EStateM ε σ α) (Q : α → σ → Prop) (X : ε → σ → Prop) (s : σ) : Prop :=
  match m s with
  | .ok a s' => Q a s'
  | .error e s' => X e s'

theorem wp_of_ok {m : EStateM ε σ α} {Q : α → σ → Prop} {X : ε → σ → Prop} {s s' : σ} {a : α}
    (h : m s = .ok a s') : wp m Q X s ↔ Q a s' := by
  rw [wp, h]

theorem wp_of_error {m : EStateM ε σ α} {Q : α → σ → Prop} {X : ε → σ → Prop} {s s' : σ} {e : ε}
    (h : m s = .error e s') : wp m Q X s ↔ X e s' := by
  rw [wp, h]

@[simp] theorem wp_pure (a : α) (Q : α → σ → Prop) (X : ε → σ → Prop) (s : σ) :
    wp (pure a) Q X s ↔ Q a s := Iff.rfl

@[simp] theorem wp_throw (e : ε) (Q : α → σ → Prop) (X : ε → σ → Prop) (s : σ) :
    wp (throw e) Q X s ↔ X e s := Iff.rfl

@[simp] theorem wp_get (Q : σ → σ → Prop) (X : ε → σ → Prop) (s : σ) :
    wp get Q X s ↔ Q s s := Iff.rfl

@[simp] theorem wp_set (s' : σ) (Q : PUnit → σ → Prop) (X : ε → σ → Prop) (s : σ) :
    wp (set s') Q X s ↔ Q ⟨⟩ s' := Iff.rfl

@[simp] theorem wp_modify (f : σ → σ) (Q : PUnit → σ → Prop) (X : ε → σ → Prop) (s : σ) :
    wp (modify f) Q X s ↔ Q ⟨⟩ (f s) := Iff.rfl

/-- **Sequencing**: the rest of the program starts where the first part returns. -/
@[simp] theorem wp_bind (m : EStateM ε σ α) (f : α → EStateM ε σ β) (Q : β → σ → Prop)
    (X : ε → σ → Prop) (s : σ) :
    wp (m >>= f) Q X s ↔ wp m (fun a s' => wp (f a) Q X s') X s := by
  change wp (EStateM.bind m f) Q X s ↔ _
  rcases h : m s with ⟨a, s'⟩ | ⟨e, s'⟩
  · rw [wp_of_ok h, wp, wp, EStateM.bind, h]
  · rw [wp_of_error h, wp, EStateM.bind, h]

@[simp] theorem wp_map (f : α → β) (m : EStateM ε σ α) (Q : β → σ → Prop) (X : ε → σ → Prop)
    (s : σ) : wp (f <$> m) Q X s ↔ wp m (fun a s' => Q (f a) s') X s := by
  change wp (EStateM.map f m) Q X s ↔ _
  rcases h : m s with ⟨a, s'⟩ | ⟨e, s'⟩
  · rw [wp_of_ok h, wp, EStateM.map, h]
  · rw [wp_of_error h, wp, EStateM.map, h]

/-- **Handling**: the handler starts where the body raises; nothing is undone. -/
@[simp] theorem wp_tryCatch (m : EStateM ε σ α) (f : ε → EStateM ε σ α) (Q : α → σ → Prop)
    (X : ε → σ → Prop) (s : σ) :
    wp (tryCatch m f) Q X s ↔ wp m Q (fun e s' => wp (f e) Q X s') s := by
  change wp (EStateM.tryCatch m f) Q X s ↔ _
  rcases h : m s with ⟨a, s'⟩ | ⟨e, s'⟩
  · rw [wp_of_ok h, wp, EStateM.tryCatch, h]
  · rw [wp_of_error h, wp, EStateM.tryCatch, h]
    rfl

@[simp] theorem wp_ite (c : Prop) [Decidable c] (m n : EStateM ε σ α) (Q : α → σ → Prop)
    (X : ε → σ → Prop) (s : σ) :
    wp (if c then m else n) Q X s ↔ (c → wp m Q X s) ∧ (¬ c → wp n Q X s) := by
  by_cases h : c <;> simp [h]

/-! ### Running a program whose first part is known -/

theorem pure_apply (a : α) (s : σ) : (pure a : EStateM ε σ α) s = .ok a s := rfl

theorem get_bind (f : σ → EStateM ε σ β) (s : σ) : (get >>= f) s = f s s := rfl

theorem set_apply (s' s : σ) : (set s' : EStateM ε σ PUnit) s = .ok ⟨⟩ s' := rfl

theorem modify_apply (f : σ → σ) (s : σ) : (modify f : EStateM ε σ PUnit) s = .ok ⟨⟩ (f s) := rfl

theorem bind_ok {m : EStateM ε σ α} {f : α → EStateM ε σ β} {s s' : σ} {a : α}
    (h : m s = .ok a s') : (m >>= f) s = f a s' := by
  change EStateM.bind m f s = _
  rw [EStateM.bind, h]

theorem bind_error {m : EStateM ε σ α} {f : α → EStateM ε σ β} {s s' : σ} {e : ε}
    (h : m s = .error e s') : (m >>= f) s = .error e s' := by
  change EStateM.bind m f s = _
  rw [EStateM.bind, h]

theorem map_ok {m : EStateM ε σ α} {f : α → β} {s s' : σ} {a : α}
    (h : m s = .ok a s') : (f <$> m) s = .ok (f a) s' := by
  change EStateM.map f m s = _
  rw [EStateM.map, h]

theorem map_error {m : EStateM ε σ α} {f : α → β} {s s' : σ} {e : ε}
    (h : m s = .error e s') : (f <$> m) s = .error e s' := by
  change EStateM.map f m s = _
  rw [EStateM.map, h]

theorem tryCatch_ok {m : EStateM ε σ α} {f : ε → EStateM ε σ α} {s s' : σ} {a : α}
    (h : m s = .ok a s') : (tryCatch m f) s = .ok a s' := by
  change EStateM.tryCatch m f s = _
  rw [EStateM.tryCatch, h]

theorem tryCatch_error {m : EStateM ε σ α} {f : ε → EStateM ε σ α} {s s' : σ} {e : ε}
    (h : m s = .error e s') : (tryCatch m f) s = f e s' := by
  change EStateM.tryCatch m f s = _
  rw [EStateM.tryCatch, h]
  rfl

/-! ### Consequence -/

/-- **Consequence.** -/
theorem wp_mono {m : EStateM ε σ α} {Q Q' : α → σ → Prop} {X X' : ε → σ → Prop} {s : σ}
    (h : wp m Q X s) (hQ : ∀ a s', Q a s' → Q' a s') (hX : ∀ e s', X e s' → X' e s') :
    wp m Q' X' s := by
  rcases hm : m s with ⟨a, s'⟩ | ⟨e, s'⟩
  · exact (wp_of_ok hm).2 (hQ a s' ((wp_of_ok hm).1 h))
  · exact (wp_of_error hm).2 (hX e s' ((wp_of_error hm).1 h))

/-- A program that ends, however it does. -/
theorem wp_true (m : EStateM ε σ α) (s : σ) : wp m (fun _ _ => True) (fun _ _ => True) s := by
  rw [wp]
  split <;> trivial

theorem wp_and {m : EStateM ε σ α} {Q Q' : α → σ → Prop} {X X' : ε → σ → Prop} {s : σ}
    (h : wp m Q X s) (h' : wp m Q' X' s) :
    wp m (fun a s' => Q a s' ∧ Q' a s') (fun e s' => X e s' ∧ X' e s') s := by
  rcases hm : m s with ⟨a, s'⟩ | ⟨e, s'⟩
  · exact (wp_of_ok hm).2 ⟨(wp_of_ok hm).1 h, (wp_of_ok hm).1 h'⟩
  · exact (wp_of_error hm).2 ⟨(wp_of_error hm).1 h, (wp_of_error hm).1 h'⟩

theorem wp_forall {ι : Sort*} {m : EStateM ε σ α} {Q : ι → α → σ → Prop}
    {X : ι → ε → σ → Prop} {s : σ} (h : ∀ i, wp m (Q i) (X i) s) :
    wp m (fun a s' => ∀ i, Q i a s') (fun e s' => ∀ i, X i e s') s := by
  rcases hm : m s with ⟨a, s'⟩ | ⟨e, s'⟩
  · exact (wp_of_ok hm).2 fun i => (wp_of_ok hm).1 (h i)
  · exact (wp_of_error hm).2 fun i => (wp_of_error hm).1 (h i)

/-- A program that cannot raise returns. -/
theorem exists_ok_of_wp {m : EStateM ε σ α} {Q : α → σ → Prop} {s : σ}
    (h : wp m Q (fun _ _ => False) s) : ∃ a s', m s = .ok a s' ∧ Q a s' := by
  rcases hm : m s with ⟨a, s'⟩ | ⟨e, s'⟩
  · exact ⟨a, s', rfl, (wp_of_ok hm).1 h⟩
  · exact ((wp_of_error hm).1 h).elim

/-- A program that cannot return raises. -/
theorem exists_error_of_wp {m : EStateM ε σ α} {X : ε → σ → Prop} {s : σ}
    (h : wp m (fun _ _ => False) X s) : ∃ e s', m s = .error e s' ∧ X e s' := by
  rcases hm : m s with ⟨a, s'⟩ | ⟨e, s'⟩
  · exact ((wp_of_ok hm).1 h).elim
  · exact ⟨e, s', rfl, (wp_of_error hm).1 h⟩

/-! ### What a program keeps, whether it returns or raises -/

/-- The state in which a program ends. -/
def after (m : EStateM ε σ α) (s : σ) : σ :=
  match m s with
  | .ok _ s' => s'
  | .error _ s' => s'

theorem after_of_ok {m : EStateM ε σ α} {s s' : σ} {a : α} (h : m s = .ok a s') :
    after m s = s' := by
  rw [after, h]

theorem after_of_error {m : EStateM ε σ α} {s s' : σ} {e : ε} (h : m s = .error e s') :
    after m s = s' := by
  rw [after, h]

/-- What holds however the program ends holds of the state afterwards. -/
theorem after_of_wp {m : EStateM ε σ α} {P : σ → Prop} {s : σ}
    (h : wp m (fun _ => P) (fun _ => P) s) : P (after m s) := by
  rw [wp] at h
  rw [after]
  cases hm : m s with
  | ok a s' =>
      rwa [hm] at h
  | error e s' =>
      rwa [hm] at h

/-- What holds of the state afterwards holds however the program ends. -/
theorem wp_of_after {m : EStateM ε σ α} {P : σ → Prop} {s : σ} (h : P (after m s)) :
    wp m (fun _ => P) (fun _ => P) s := by
  rw [after] at h
  rw [wp]
  cases hm : m s with
  | ok a s' =>
      rwa [hm] at h
  | error e s' =>
      rwa [hm] at h

/-- The program returns. -/
def returns (m : EStateM ε σ α) (s : σ) : Bool :=
  match m s with
  | .ok _ _ => true
  | .error _ _ => false

theorem ok_after {m : EStateM ε σ Unit} {s : σ} (h : returns m s = true) :
    m s = .ok () (after m s) := by
  rcases hm : m s with ⟨a, s'⟩ | ⟨e, s'⟩
  · rw [after_of_ok hm]
  · rw [returns, hm] at h
    cases h

/-- The states before and after the program are related. -/
def Preserves (R : σ → σ → Prop) (m : EStateM ε σ α) : Prop := ∀ s, R s (after m s)

namespace Preserves

variable {R R' : σ → σ → Prop} {m : EStateM ε σ α} {f : α → EStateM ε σ β}

theorem mono (hm : Preserves R m) (hR : ∀ s s', R s s' → R' s s') : Preserves R' m :=
  fun s => hR _ _ (hm s)

theorem of_after_eq [Std.Refl R] (hm : ∀ s, after m s = s) : Preserves R m := by
  intro s
  rw [hm]
  exact Std.Refl.refl s

theorem pure [Std.Refl R] (a : α) : Preserves R (pure a : EStateM ε σ α) := of_after_eq fun _ => rfl

theorem throw [Std.Refl R] (e : ε) : Preserves R (throw e : EStateM ε σ α) :=
  of_after_eq fun _ => rfl

theorem bind [IsTrans σ R] (hm : Preserves R m) (hf : ∀ a, Preserves R (f a)) :
    Preserves R (m >>= f) := by
  intro s
  have := hm s
  rcases hr : m s with ⟨a, s'⟩ | ⟨e, s'⟩
  · rw [after_of_ok hr] at this
    rw [after, bind_ok hr]
    exact trans_of R this (hf a s')
  · rw [after_of_error hr] at this
    rwa [after_of_error (bind_error hr)]

theorem tryCatch [IsTrans σ R] {g : ε → EStateM ε σ α} (hm : Preserves R m)
    (hg : ∀ e, Preserves R (g e)) : Preserves R (tryCatch m g) := by
  intro s
  have := hm s
  rcases hr : m s with ⟨a, s'⟩ | ⟨e, s'⟩
  · rw [after_of_ok hr] at this
    rwa [after_of_ok (tryCatch_ok hr)]
  · rw [after_of_error hr] at this
    rw [after, tryCatch_error hr]
    exact trans_of R this (hg e s')

theorem modify {f : σ → σ} (hf : ∀ s, R s (f s)) :
    Preserves R (modify f : EStateM ε σ PUnit) := hf

/-- A program that first reads the state. -/
theorem get_bind {f : σ → EStateM ε σ β} (hf : ∀ s, R s (after (f s) s)) :
    Preserves R (get >>= f : EStateM ε σ β) := hf

theorem ite {c : Prop} [Decidable c] {m m' : EStateM ε σ α} (hm : c → Preserves R m)
    (hm' : ¬ c → Preserves R m') : Preserves R (if c then m else m') := by
  split
  · exact hm ‹_›
  · exact hm' ‹_›

/-- What is kept may be used in a proof about the results. -/
theorem wp (hm : Preserves R m) (s : σ) : Wp.wp m (fun _ s' => R s s') (fun _ s' => R s s') s := by
  have := hm s
  rcases hr : m s with ⟨a, s'⟩ | ⟨e, s'⟩
  · rw [after_of_ok hr] at this
    exact (wp_of_ok hr).2 this
  · rw [after_of_error hr] at this
    exact (wp_of_error hr).2 this

theorem of_wp (hm : ∀ s, Wp.wp m (fun _ s' => R s s') (fun _ s' => R s s') s) : Preserves R m := by
  intro s
  have := hm s
  rw [after]
  rw [Wp.wp] at this
  split at this <;> exact this

theorem map {g : α → β} (hm : Preserves R m) : Preserves R (g <$> m) := by
  intro s
  have := hm s
  rcases hr : m s with ⟨a, s'⟩ | ⟨e, s'⟩
  · rw [after_of_ok hr] at this
    rwa [after_of_ok (map_ok hr)]
  · rw [after_of_error hr] at this
    rwa [after_of_error (map_error hr)]

end Preserves

/-! ### What a program does when it returns -/

/-- The states before and after the program are related when it returns. -/
def Returns (R : σ → σ → Prop) (m : EStateM ε σ α) : Prop := ∀ s a s', m s = .ok a s' → R s s'

namespace Returns

variable {R R' : σ → σ → Prop} {m : EStateM ε σ α} {f : α → EStateM ε σ β}

theorem mono (hm : Returns R m) (hR : ∀ s s', R s s' → R' s s') : Returns R' m :=
  fun s a s' h => hR s s' (hm s a s' h)

theorem of_preserves (hm : Preserves R m) : Returns R m := by
  intro s a s' h
  rw [← after_of_ok h]
  exact hm s

theorem of_wp (hm : ∀ s, Wp.wp m (fun _ s' => R s s') (fun _ _ => True) s) : Returns R m :=
  fun s _ _ h => (wp_of_ok h).1 (hm s)

theorem wp (hm : Returns R m) (s : σ) : Wp.wp m (fun _ s' => R s s') (fun _ _ => True) s := by
  rcases h : m s with ⟨a, s'⟩ | ⟨e, s'⟩
  · exact (wp_of_ok h).2 (hm s a s' h)
  · exact (wp_of_error h).2 trivial

theorem pure [Std.Refl R] (a : α) : Returns R (pure a : EStateM ε σ α) :=
  of_preserves (.pure a)

theorem throw [Std.Refl R] (e : ε) : Returns R (throw e : EStateM ε σ α) :=
  of_preserves (.throw e)

theorem bind [IsTrans σ R] (hm : Returns R m) (hf : ∀ a, Returns R (f a)) :
    Returns R (m >>= f) := by
  refine of_wp fun s => ?_
  rw [wp_bind]
  refine wp_mono (hm.wp s) (fun a s' hR => ?_) fun _ _ _ => trivial
  exact wp_mono ((hf a).wp s') (fun _ _ hR' => trans_of R hR hR') fun _ _ _ => trivial

theorem ite {c : Prop} [Decidable c] {m m' : EStateM ε σ α} (hm : c → Returns R m)
    (hm' : ¬ c → Returns R m') : Returns R (if c then m else m') := by
  split
  · exact hm ‹_›
  · exact hm' ‹_›

/-- A handler that always raises. -/
theorem tryCatch (hm : Returns R m) {g : ε → EStateM ε σ α}
    (hg : ∀ e s, Wp.wp (g e) (fun _ _ => False) (fun _ _ => True) s) :
    Returns R (tryCatch m g) := by
  refine of_wp fun s => ?_
  rw [wp_tryCatch]
  refine wp_mono (hm.wp s) (fun _ _ h => h) fun e s' _ => ?_
  exact wp_mono (hg e s') (fun _ _ h => h.elim) fun _ _ _ => trivial

end Returns

/-- A program that ends in a `throw` does not return. -/
theorem wp_bind_false {m : EStateM ε σ α} {f : α → EStateM ε σ β}
    (hf : ∀ a s', wp (f a) (fun _ _ => False) (fun _ _ => True) s') (s : σ) :
    wp (m >>= f) (fun _ _ => False) (fun _ _ => True) s := by
  rw [wp_bind]
  exact wp_mono (wp_true m s) (fun a s' _ => hf a s') fun _ _ _ => trivial

end Wp

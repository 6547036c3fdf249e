/-
Two runs of one program, from states that differ where the program should not look.

A program respects a relation on states when its runs from related states end alike: both return the
same value or raise the same error, in states that are related again.  The relation says what the
program may depend on; what it leaves open is what the program does not depend on.

* `Twin.Meets` — two ends of runs are alike;
* `Twin.Respects` — a program respects a relation, with a rule for each construct;
* `Twin.Respects.loop` — a loop respects what its body respects.
-/

import ZfsLive.Base.Loop

set_option relaxedAutoImplicit false
set_option autoImplicit false

namespace Twin

variable {ε σ α β γ : Type} {R : σ → σ → Prop}

/-- Both runs returned the same value, or both raised the same error, in related states. -/
def Meets (R : σ → σ → Prop) : EStateM.Result ε σ α → EStateM.Result ε σ α → Prop
  | .ok a s, .ok b t => a = b ∧ R s t
  | .error e s, .error f t => e = f ∧ R s t
  | _, _ => False

/-- The runs of the program from related states end alike. -/
def Respects (R : σ → σ → Prop) (m : EStateM ε σ α) : Prop := ∀ s t, R s t → Meets R (m s) (m t)

/-- Two ends that are alike are two values or two errors. -/
theorem Meets.cases {x y : EStateM.Result ε σ α} (h : Meets R x y) :
    (∃ a s t, x = .ok a s ∧ y = .ok a t ∧ R s t) ∨
      ∃ e s t, x = .error e s ∧ y = .error e t ∧ R s t := by
  rcases x with ⟨a, s⟩ | ⟨e, s⟩
  · rcases y with ⟨b, t⟩ | ⟨f, t⟩
    · obtain ⟨rfl, hst⟩ := h
      exact .inl ⟨a, s, t, rfl, rfl, hst⟩
    · exact h.elim
  · rcases y with ⟨b, t⟩ | ⟨f, t⟩
    · exact h.elim
    · obtain ⟨rfl, hst⟩ := h
      exact .inr ⟨e, s, t, rfl, rfl, hst⟩

namespace Respects

theorem pure (a : α) : Respects R (Pure.pure a : EStateM ε σ α) := fun _ _ hst => ⟨rfl, hst⟩

theorem throw (e : ε) : Respects R (MonadExcept.throw e : EStateM ε σ α) :=
  fun _ _ hst => ⟨rfl, hst⟩

/-- A program may read what related states agree on. -/
theorem read {f : σ → α} (hf : ∀ s t, R s t → f s = f t) :
    Respects R (do return f (← get) : EStateM ε σ α) :=
  fun s t hst => ⟨hf s t hst, hst⟩

theorem change {f : σ → σ} (hf : ∀ s t, R s t → R (f s) (f t)) :
    Respects R (modify f : EStateM ε σ Unit) :=
  fun s t hst => ⟨rfl, hf s t hst⟩

theorem bind {m : EStateM ε σ α} {f : α → EStateM ε σ β} (hm : Respects R m)
    (hf : ∀ a, Respects R (f a)) : Respects R (m >>= f) := by
  intro s t hst
  obtain ⟨a, s₁, t₁, hs, ht, hst₁⟩ | ⟨e, s₁, t₁, hs, ht, hst₁⟩ := (hm s t hst).cases
  · rw [Wp.bind_ok hs, Wp.bind_ok ht]
    exact hf a s₁ t₁ hst₁
  · rw [Wp.bind_error hs, Wp.bind_error ht]
    exact ⟨rfl, hst₁⟩

theorem ite {c : Prop} [Decidable c] {m n : EStateM ε σ α} (hm : Respects R m)
    (hn : Respects R n) : Respects R (if c then m else n) := by
  by_cases hc : c
  · rwa [if_pos hc]
  · rwa [if_neg hc]

/-- **A loop respects what its body respects.** -/
theorem loop {stuck : ε} {body : β → EStateM ε σ (β ⊕ γ)} (hbody : ∀ b, Respects R (body b))
    (n : ℕ) (b : β) : Respects R (Loop.loop stuck body n b) := by
  induction n generalizing b with
  | zero => exact throw stuck
  | succ n ih =>
      intro s t hst
      rw [Loop.loop_succ, Loop.loop_succ]
      obtain ⟨r, s₁, t₁, hs, ht, hst₁⟩ | ⟨e, s₁, t₁, hs, ht, hst₁⟩ := (hbody b s t hst).cases
      · rw [hs, ht]
        cases r with
        | inl b' => exact ih b' s₁ t₁ hst₁
        | inr c => exact ⟨rfl, hst₁⟩
      · rw [hs, ht]
        exact ⟨rfl, hst₁⟩

end Respects

end Twin

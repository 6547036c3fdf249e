/-
Loops of a stateful, failing program.

A `while` loop of the modelled programs is written as the iteration of a body that either goes on
with a new loop value or leaves the loop with a result.  The iteration is bounded by a number of
rounds, and running out of rounds is an error of its own, `stuck`, which no body raises; a loop
whose body consumes something at every round is then shown never to be stuck.

* `Loop.bind_eq_ok` — a sequence that returns has two parts that return;
* `Loop.loop` — the bounded iteration;
* `Loop.loop_spec` — the invariant rule: what a round preserves holds when the loop is left;
* `Loop.loop_ne_stuck` — a loop with a decreasing measure does not run out of rounds;
* `Loop.wp_loop` — both rules in one, for weakest preconditions.
-/

import Mathlib.Data.Nat.Notation
import ZfsLive.Base.Wp

set_option relaxedAutoImplicit false
set_option autoImplicit false

namespace Loop

variable {ε σ α β γ : Type}

/-- What a sequence returns, its second part returns from the state the first part left. -/
theorem bind_eq_ok {x : EStateM ε σ α} {f : α → EStateM ε σ β} {s s' : σ} {b : β} :
    (x >>= f) s = .ok b s' ↔ ∃ a s₁, x s = .ok a s₁ ∧ f a s₁ = .ok b s' := by
  change EStateM.bind x f s = _ ↔ _
  rw [EStateM.bind]
  rcases x s with ⟨a, s₁⟩ | ⟨e, s₁⟩
  · constructor
    · intro h; exact ⟨a, s₁, rfl, h⟩
    · rintro ⟨_, _, h, h'⟩; cases h; exact h'
  · simp

/-- A sequence raises what its first part raises, or its second part. -/
theorem bind_eq_error {x : EStateM ε σ α} {f : α → EStateM ε σ β} {s s' : σ} {e : ε} :
    (x >>= f) s = .error e s' ↔
      x s = .error e s' ∨ ∃ a s₁, x s = .ok a s₁ ∧ f a s₁ = .error e s' := by
  change EStateM.bind x f s = _ ↔ _
  rw [EStateM.bind]
  rcases x s with ⟨a, s₁⟩ | ⟨e', s₁⟩
  · constructor
    · intro h; exact Or.inr ⟨a, s₁, rfl, h⟩
    · rintro (h | ⟨_, _, h, h'⟩)
      · cases h
      · cases h; exact h'
  · simp

/-- Iterate `body` for at most `n` rounds: `.inl` goes on, `.inr` leaves the loop. -/
def loop (stuck : ε) (body : β → EStateM ε σ (β ⊕ γ)) : ℕ → β → EStateM ε σ γ
  | 0, _ => throw stuck
  | n + 1, b => do
      match ← body b with
      | .inl b' => loop stuck body n b'
      | .inr c => pure c

variable {stuck : ε} {body : β → EStateM ε σ (β ⊕ γ)}

theorem loop_zero (b : β) (s : σ) : loop stuck body 0 b s = .error stuck s := rfl

theorem loop_succ (n : ℕ) (b : β) (s : σ) :
    loop stuck body (n + 1) b s =
      match body b s with
      | .ok (.inl b') s' => loop stuck body n b' s'
      | .ok (.inr c) s' => .ok c s'
      | .error e s' => .error e s' := by
  rw [loop]
  change EStateM.bind _ _ s = _
  rw [EStateM.bind]
  rcases body b s with ⟨r, s'⟩ | ⟨e, s'⟩
  · rcases r with b' | c <;> rfl
  · rfl

/-- **The invariant rule**: an invariant that every round preserves holds of the last loop value,
and the result satisfies what leaving the loop guarantees. -/
theorem loop_spec {I : β → σ → Prop} {Q : γ → σ → Prop}
    (hnext : ∀ b s b' s', I b s → body b s = .ok (.inl b') s' → I b' s')
    (hdone : ∀ b s c s', I b s → body b s = .ok (.inr c) s' → Q c s') :
    ∀ {n : ℕ} {b : β} {s : σ} {c : γ} {s' : σ}, I b s → loop stuck body n b s = .ok c s' → Q c s' := by
  intro n
  induction n with
  | zero => intro b s c s' _ h; simp [loop_zero] at h
  | succ n ih =>
      intro b s c s' hI h
      rw [loop_succ] at h
      rcases hb : body b s with ⟨r, s₁⟩ | ⟨e, s₁⟩
      · rcases r with b₁ | c₁
        · rw [hb] at h
          exact ih (hnext b s b₁ s₁ hI hb) h
        · rw [hb] at h
          simp only [EStateM.Result.ok.injEq] at h
          obtain ⟨rfl, rfl⟩ := h
          exact hdone b s c₁ s₁ hI hb
      · rw [hb] at h
        simp at h

/-- **A measure that decreases at every round bounds the loop**: with more rounds than the
measure the loop is never stuck. -/
theorem loop_ne_stuck (μ : β → σ → ℕ)
    (hdec : ∀ b s b' s', body b s = .ok (.inl b') s' → μ b' s' < μ b s)
    (hbody : ∀ b s s', body b s ≠ .error stuck s') :
    ∀ {n : ℕ} {b : β} {s s' : σ}, μ b s < n → loop stuck body n b s ≠ .error stuck s' := by
  intro n
  induction n with
  | zero => intro b s s' h; omega
  | succ n ih =>
      intro b s s' h
      rw [loop_succ]
      rcases hb : body b s with ⟨r, s₁⟩ | ⟨e, s₁⟩
      · rcases r with b₁ | c₁
        · exact ih (Nat.lt_of_lt_of_le (hdec b s b₁ s₁ hb) (Nat.lt_succ_iff.1 h))
        · simp
      · intro he
        simp only [EStateM.Result.error.injEq] at he
        exact hbody b s s₁ (by rw [hb, he.1])

/-- **Total correctness**: where each round keeps the invariant and decreases the measure, or leaves
the loop with what is wanted, the loop ends with what is wanted. -/
theorem wp_loop {I : β → σ → Prop} {Q : γ → σ → Prop} {X : ε → σ → Prop} (μ : β → σ → ℕ)
    (hbody : ∀ b s, I b s → Wp.wp (body b) (fun r s' =>
      match r with
      | .inl b' => I b' s' ∧ μ b' s' < μ b s
      | .inr c => Q c s') X s) :
    ∀ {n : ℕ} {b : β} {s : σ}, I b s → μ b s < n → Wp.wp (loop stuck body n b) Q X s := by
  intro n
  induction n with
  | zero => intro b s _ h; omega
  | succ n ih =>
      intro b s hI h
      have hround := hbody b s hI
      rw [Wp.wp, loop_succ]
      rcases hb : body b s with ⟨b₁ | c, s₁⟩ | ⟨e, s₁⟩
      · obtain ⟨hI₁, hlt⟩ := (Wp.wp_of_ok hb).1 hround
        exact ih hI₁ (by omega)
      · exact (Wp.wp_of_ok hb).1 hround
      · exact (Wp.wp_of_error hb).1 hround

end Loop

/-
**Programs that run side by side over a shared state.**

A program issues commands, one after the other, and sees their replies.  Several programs run side by
side when, at every moment, any of them may have its next command run.  Between two commands of a
program the shared state can have changed, so that what a program may rely on is what it has been told.

A `Discipline` says what a program knows after the replies it got, and which commands it may issue with
that knowledge.  A program obeys it for itself; what the knowledge is good for is a property of the
shared state that all commands, of whatever program, keep.

* `Tasks.Prog` — programs;
* `Tasks.Obeys` — a program keeps to a discipline, with the rules for its parts;
* `Tasks.Task`, `Tasks.advance` — programs at work, and running the next command of one of them;
* `Tasks.sound_advance` — **the invariant rule**.
-/

import Mathlib.Data.Nat.Notation
import Mathlib.Tactic.Common

set_option relaxedAutoImplicit false
set_option autoImplicit false

namespace Tasks

variable {C : Type} {R : C → Type} {α β K H : Type}

/-! ### Programs -/

/-- A program has returned, or it issues a command and goes on with the reply. -/
inductive Prog (R : C → Type) (α : Type) : Type
  | done (a : α)
  | cmd (c : C) (next : R c → Prog R α)

namespace Prog

/-- One program after the other. -/
def bind : Prog R α → (α → Prog R β) → Prog R β
  | done a, f => f a
  | cmd c next, f => cmd c fun r => (next r).bind f

instance : Monad (Prog R) where
  pure := done
  bind := bind

/-- The program that issues one command. -/
def issue (c : C) : Prog R (R c) := cmd c done

end Prog

/-! ### Disciplines -/

/-- What programs may do with what they know. -/
structure Discipline (R : C → Type) (K : Type) where
  /-- The command may be issued with this knowledge. -/
  may : K → C → Prop
  /-- The replies that a command can have. -/
  told : (c : C) → R c → Prop
  /-- The knowledge after a reply. -/
  learn : K → (c : C) → R c → K

/-- The program keeps to the discipline when it starts with the knowledge `k`, and what it returns
satisfies `Q`. -/
def Obeys (D : Discipline R K) : K → Prog R α → (α → K → Prop) → Prop
  | k, .done a, Q => Q a k
  | k, .cmd c next, Q => D.may k c ∧ ∀ r, D.told c r → Obeys D (D.learn k c r) (next r) Q

variable {D : Discipline R K} {k : K} {Q Q' : α → K → Prop} {c : C}

@[simp] theorem obeys_pure {a : α} : Obeys D k (pure a : Prog R α) Q ↔ Q a k := Iff.rfl

@[simp] theorem obeys_done {a : α} : Obeys D k (.done a : Prog R α) Q ↔ Q a k := Iff.rfl

theorem Obeys.mono {p : Prog R α} (h : Obeys D k p Q) (hQ : ∀ a k, Q a k → Q' a k) :
    Obeys D k p Q' := by
  induction p generalizing k with
  | done a => exact hQ a k h
  | cmd c next ih => exact ⟨h.1, fun r hr => ih r (h.2 r hr)⟩

theorem obeys_bind {p : Prog R α} {f : α → Prog R β} {Q : β → K → Prop} :
    Obeys D k (p >>= f) Q ↔ Obeys D k p fun a k' => Obeys D k' (f a) Q := by
  change Obeys D k (p.bind f) Q ↔ _
  induction p generalizing k with
  | done a => exact Iff.rfl
  | cmd c next ih => exact and_congr_right fun _ => forall_congr' fun r => imp_congr_right fun _ => ih r

/-! ### Programs at work -/

/-- A program at work, and what it knows. -/
structure Task (R : C → Type) (K α : Type) where
  knows : K
  prog : Prog R α

/-- How a command runs: with a choice of the surroundings, it replies and changes the shared state, or
the choice is impossible. -/
abbrev Exec (R : C → Type) (H : Type) : Type := (c : C) → ℕ → H → Option (R c × H)

/-- Run the next command of a task, which learns from the reply. -/
def advance (learn : K → (c : C) → R c → K) (exec : Exec R H) (choice : ℕ) (h : H)
    (t : Task R K α) : Option (Task R K α × H) :=
  match t.prog with
  | .done _ => none
  | .cmd c next => (exec c choice h).map fun (r, h') => (⟨learn t.knows c r, next r⟩, h')

/-- **What a step of a task is**: its next command runs. -/
theorem advance_eq_some {learn : K → (c : C) → R c → K} {exec : Exec R H} {choice : ℕ} {h h' : H}
    {t t' : Task R K α} (hadv : advance learn exec choice h t = some (t', h')) :
    ∃ c next r, t.prog = .cmd c next ∧ exec c choice h = some (r, h') ∧
      t' = ⟨learn t.knows c r, next r⟩ := by
  rw [advance] at hadv
  split at hadv
  · cases hadv
  · next c next hprog =>
    obtain ⟨⟨r, h''⟩, hexec, heq⟩ := Option.map_eq_some_iff.1 hadv
    cases heq
    exact ⟨c, next, r, hprog, hexec, rfl⟩

/-- The knowledge of a task holds of the shared state, and the task keeps to the discipline. -/
def Sound (D : Discipline R K) (V : K → H → Prop) (Q : α → K → Prop) (h : H) (t : Task R K α) : Prop :=
  V t.knows h ∧ Obeys D t.knows t.prog Q

/-- **The invariant rule**: what a command that the task may issue keeps for the knowledge of this task,
the task keeps; what the command does to the shared state besides is `P`. -/
theorem sound_advance {exec : Exec R H} {V : K → H → Prop} {Q : α → K → Prop} {P : C → H → H → Prop}
    {choice : ℕ} {h h' : H} {t t' : Task R K α}
    (hcmd : ∀ c next r, t.prog = .cmd c next → V t.knows h → D.may t.knows c →
      exec c choice h = some (r, h') → D.told c r ∧ V (D.learn t.knows c r) h' ∧ P c h h')
    (ht : Sound D V Q h t) (hadv : advance D.learn exec choice h t = some (t', h')) :
    Sound D V Q h' t' ∧ ∃ c, P c h h' := by
  obtain ⟨k, p⟩ := t
  cases p with
  | done a => cases hadv
  | cmd c next =>
      rw [advance, Option.map_eq_some_iff] at hadv
      obtain ⟨⟨r, h₁⟩, hexec, heq⟩ := hadv
      cases heq
      obtain ⟨hV, hmay, hnext⟩ := ht
      obtain ⟨htold, hV', hP⟩ := hcmd c next r rfl hV hmay hexec
      exact ⟨⟨hV', hnext r htold⟩, c, hP⟩

end Tasks

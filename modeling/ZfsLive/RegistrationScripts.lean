/-
**The scripts of the calls that sweep and register** (`src/volume/sr.py`, `src/volume/volume.py`).

What a call knows is what its commands have replied: the UUIDs that it has drawn, what was listed, the
orphans that it has found and those that were past their grace period when it read the clock.  By this
it can be told what a call destroys: a sweep what has expired for it, and a copy what it has made
itself.  And a call that returns has seen what it registers, or has made it, after the last time that
the call could have destroyed it.

Main definitions:

* `Registration.Call.temporary`, `Registration.Call.expired` — what a call may destroy;
* `Registration.tidy`, `Registration.Tidies` — the scripts that destroy nothing else.

Main results:

* `Registration.tidies_script` — **all calls are tidy**, and have seen there what they register.
-/

import ZfsLive.Registration

set_option relaxedAutoImplicit false
set_option autoImplicit false

namespace Registration

open Tasks

/-! ### What a call has heard and done -/

namespace Transcript

/-- What was listed. -/
def listed : Transcript → List Obj
  | [] => []
  | ⟨.listZvols _, (objs : List Obj)⟩ :: k => objs ++ listed k
  | ⟨.listSnapshots _, (objs : List Obj)⟩ :: k => objs ++ listed k
  | ⟨_, _⟩ :: k => listed k

/-- The orphans that were found since the last listing, up to the reading of the clock. -/
def found : Transcript → List Orphan
  | [] => []
  | ⟨.creation o, (creation : Option ℤ)⟩ :: k => found k ++ [⟨o, creation⟩]
  | ⟨.listZvols _, _⟩ :: _ => []
  | ⟨.listSnapshots _, _⟩ :: _ => []
  | ⟨.time, _⟩ :: _ => []
  | ⟨_, _⟩ :: k => found k

/-- The orphans that were past their grace period when the clock was read. -/
def expired (grace : ℤ) : Transcript → List Obj
  | [] => []
  | ⟨.time, (now : ℤ)⟩ :: k =>
      ((found k).filter fun orphan => oldEnough now grace orphan.creation).map Orphan.obj ++
        expired grace k
  | ⟨_, _⟩ :: k => expired grace k

end Transcript

/-- What a command shows to be there by its reply. -/
def shown : (c : Command) → Reply c → List Claim
  | .size o, true => [o.claim]
  | .cloneSnapshot _ _ clone, true => [.zvol clone]
  | _, _ => []

/-- What a command can remove. -/
def Command.spoils : Command → Option Claim
  | .destroy o => some o.claim
  | .endReceive v _ => some (.zvol v)
  | _ => none

/-- What a call has seen there, and not removed since. -/
def Transcript.made : Transcript → List Claim
  | [] => []
  | ⟨c, r⟩ :: k => shown c r ++ (made k).filter fun claim => c.spoils ≠ some claim

/-- What a call makes and may undo. -/
def Call.temporary : Call → List String → List Claim
  | .copy _ _ dest_sr, [u] => [.zvol ⟨dest_sr, u⟩]
  | .copy sr _ dest_sr, u :: snap_token :: _ =>
      [.zvol ⟨dest_sr, u⟩, .snapshot sr snap_token, .snapshot dest_sr snap_token]
  | _, _ => []

/-- The orphans that a sweep destroys. -/
def Call.expired (E : Env) : Call → Transcript → List Obj
  | .ls sr, k => k.expired (E.grace sr)
  | _, _ => []

namespace Working

variable (E : Env) (w : Working)

def temporary : List Claim := w.call.temporary w.task.knows.uuids

def expired : List Obj := w.call.expired E w.task.knows

/-- The call is about to read the clock. -/
def asksTime : Bool :=
  match w.task.prog with
  | .cmd .time _ => true
  | _ => false

/-- The orphans that are past the grace period by a clock. -/
def expiring (now : ℤ) : List Obj :=
  match w.call with
  | .ls sr =>
      (w.task.knows.found.filter fun orphan => oldEnough now (E.grace sr) orphan.creation).map
        Orphan.obj
  | _ => []

end Working

/-! ### What the scripts do -/

/-- A call destroys what has expired for it, or what it has made itself and may undo. -/
def tidy (E : Env) (call : Call) : Discipline Reply Transcript where
  may k c :=
    match c with
    | .destroy o => o ∈ call.expired E k ∨ o.claim ∈ call.temporary k.uuids
    | .endReceive v _ => .zvol v ∈ call.temporary k.uuids
    | .creation o => o ∈ k.listed
    | _ => True
  told _ _ := True
  learn := Transcript.add

/-- A call that returns has seen there what it registers. -/
def Call.Settles (call : Call) (a : Answer) (k : Transcript) : Prop :=
  ∀ key, a = .returned key → ∀ c ∈ call.claims k.uuids, c ∈ k.made

variable {α β : Type} {E : Env} {call : Call} {k k' : Transcript} {v src dest : Vol} {o : Obj}
  {sr key snap_token : String}

/-- The script is legal, and what it returns satisfies `Q`. -/
def Tidies (E : Env) (call : Call) (k : Transcript) (p : Script α) (Q : α → Transcript → Prop) : Prop :=
  Obeys (tidy E call) k p Q

theorem Tidies.pure {Q : α → Transcript → Prop} {a : α} (h : Q a k) :
    Tidies E call k (Pure.pure a : Script α) Q := h

theorem Tidies.bind {m : Script α} {f : α → Script β} {Q : α → Transcript → Prop}
    {Q' : β → Transcript → Prop} (hm : Tidies E call k m Q)
    (hf : ∀ a k', Q a k' → Tidies E call k' (f a) Q') : Tidies E call k (m >>= f) Q' :=
  obeys_bind.2 (Obeys.mono hm hf)

theorem Tidies.mono {m : Script α} {Q Q' : α → Transcript → Prop} (hm : Tidies E call k m Q)
    (hQ : ∀ a k', Q a k' → Q' a k') : Tidies E call k m Q' :=
  Obeys.mono hm hQ

/-- A command that the script may issue. -/
theorem tidies_issue {c : Command} {Q : Reply c → Transcript → Prop} (hmay : (tidy E call).may k c)
    (hQ : ∀ r, Q r (k.add c r)) : Tidies E call k (issue c) Q :=
  ⟨hmay, fun r _ => hQ r⟩

/-- Issue a command and go on. -/
theorem tidies_issue_bind {c : Command} {f : Reply c → Script β} {Q : β → Transcript → Prop}
    (hmay : (tidy E call).may k c) (hf : ∀ r, Tidies E call (k.add c r) (f r) Q) :
    Tidies E call k (issue c >>= f) Q :=
  (tidies_issue (Q := fun r k' => k' = k.add c r) hmay fun _ => rfl).bind fun r k' hk' => by
    subst hk'
    exact hf r

/-! ### `SR.ls` -/

/-- The orphans that a scan returns are the ones it has found. -/
theorem tidies_findOrphans (known : List String) {objs : List Obj} (hobjs : objs ⊆ k.listed) :
    Tidies E call k (findOrphans known objs) fun r k' =>
      ∀ orphans, r = some orphans → k'.found = k.found ++ orphans := by
  induction objs generalizing k with
  | nil =>
      refine .pure fun orphans h => ?_
      cases h
      exact (List.append_nil _).symm
  | cons o objs ih =>
      have hrest := List.subset_of_cons_subset hobjs
      rw [findOrphans]
      split
      · exact ih hrest
      · refine tidies_issue_bind (c := .deviceIsOpen o.vol) trivial fun busy => ?_
        split
        · exact ih hrest
        · refine tidies_issue_bind (c := .hasActiveDatapath o.vol) trivial fun served => ?_
          rcases served with _ | _ | _
          · exact .pure fun _ h => by cases h
          · refine tidies_issue_bind (c := .creation o) (hobjs (List.mem_cons_self ..))
              fun creation => ?_
            have hrest : objs ⊆ Transcript.listed (((k.add (.deviceIsOpen o.vol) busy).add
                (.hasActiveDatapath o.vol) (some false)).add (.creation o) creation) := hrest
            refine (ih hrest).bind fun r k' hr => ?_
            refine .pure fun orphans h => ?_
            cases r with
            | none => cases h
            | some rest =>
                cases h
                refine (hr rest rfl).trans ?_
                exact List.append_assoc k.found [⟨o, creation⟩] rest
          · exact ih hrest

/-- Nothing but what has expired is destroyed. -/
theorem tidies_destroyEach (now grace : ℤ) {orphans : List Orphan}
    (h : ∀ orphan ∈ orphans, oldEnough now grace orphan.creation = true →
      orphan.obj ∈ call.expired E k) :
    Tidies E call k (destroyEach now grace orphans) fun _ _ => True := by
  induction orphans generalizing k with
  | nil => exact .pure trivial
  | cons orphan orphans ih =>
      have hrest := fun orphan' hmem => h orphan' (List.mem_cons_of_mem _ hmem)
      rw [destroyEach]
      split
      · next hold =>
        refine tidies_issue_bind (c := .destroy orphan.obj)
          (.inl (h orphan (List.mem_cons_self ..) hold)) fun _ => ih ?_
        cases call <;> exact hrest
      · exact ih hrest

theorem tidies_cleanUp (known : List String) {objs : List Obj} (hobjs : objs ⊆ k.listed)
    (hfound : k.found = []) :
    Tidies E (.ls sr) k (cleanUp E sr known objs) fun _ _ => True := by
  refine (tidies_findOrphans known hobjs).bind fun r k₁ hr => ?_
  cases r with
  | none => exact .pure trivial
  | some orphans =>
      have hk₁ : k₁.found = orphans := by simpa [hfound] using hr orphans rfl
      dsimp only
      split
      · refine tidies_issue_bind (c := .time) trivial fun now => tidies_destroyEach now (E.grace sr) ?_
        intro orphan hmem hold
        refine List.mem_append_left _ (List.mem_map.2 ⟨orphan, List.mem_filter.2 ⟨?_, hold⟩, rfl⟩)
        rw [hk₁]
        exact hmem
      · exact .pure trivial

theorem tidies_ls : Tidies E (.ls sr) [] (ls E sr) (Call.Settles (.ls sr)) := by
  have hsettles : ∀ {a : Answer} {k : Transcript}, Call.Settles (.ls sr) a k :=
    fun _ _ _ hc => by cases hc
  refine tidies_issue_bind (c := .getAllVdis sr) trivial fun known => ?_
  cases known with
  | none => exact .pure hsettles
  | some known =>
      refine tidies_issue_bind (c := .listZvols sr) trivial fun zvols => ?_
      refine (tidies_cleanUp known (List.subset_append_left ..) rfl).bind fun _ k₁ _ => ?_
      refine tidies_issue_bind (c := .listSnapshots sr) trivial fun snapshots => ?_
      exact (tidies_cleanUp known (List.subset_append_left ..) rfl).bind fun _ _ _ => .pure hsettles

/-! ### The calls that register VDIs -/

theorem settles_raised : call.Settles .raised k := fun _ h => by cases h

/-- What a call registers is there at the end if it was seen there before, or is what is looked at. -/
theorem tidies_commit (h : ∀ c ∈ call.claims k.uuids, c = o.claim ∨ c ∈ k.made) :
    Tidies E call k (commit v o) call.Settles := by
  refine tidies_issue_bind (c := .register v) trivial fun committed => ?_
  split
  · refine tidies_issue_bind (c := .size o) trivial fun used => ?_
    cases used with
    | false => exact .pure settles_raised
    | true =>
        refine .pure fun _ _ c hc => ?_
        have hfilter : ∀ (c' : Command), c'.spoils = none → c ∈ k.made →
            c ∈ k.made.filter fun claim => c'.spoils ≠ some claim := by
          intro c' hspoils hmade
          exact List.mem_filter.2 ⟨hmade, by simp [hspoils]⟩
        obtain rfl | hmade := h c hc
        · exact List.mem_append_left _ (List.mem_singleton.2 rfl)
        · refine List.mem_append_right _ (List.mem_filter.2 ⟨?_, by simp [Command.spoils]⟩)
          exact List.mem_append_right _ (hfilter (.register v) rfl hmade)
  · exact .pure settles_raised

theorem tidies_create : Tidies E (.create sr) [] (create sr) (Call.Settles (.create sr)) := by
  refine tidies_issue_bind (c := .attempt) trivial fun ready => ?_
  split
  · refine tidies_issue_bind (c := .uuid4) trivial fun u => ?_
    refine tidies_issue_bind (c := .createZvol ⟨sr, u⟩) trivial fun created => ?_
    split
    · refine tidies_issue_bind (c := .size (.zvol ⟨sr, u⟩)) trivial fun sized => ?_
      split
      · exact tidies_commit fun c hc => .inl (List.mem_singleton.1 hc)
      · exact .pure settles_raised
    · exact .pure settles_raised
  · exact .pure settles_raised

theorem tidies_importExisting : Tidies E (.importExisting sr key) [] (importExisting sr key)
    (Call.Settles (.importExisting sr key)) := by
  refine tidies_issue_bind (c := .volExists ⟨sr, key⟩) trivial fun found => ?_
  split
  · refine tidies_issue_bind (c := .attempt) trivial fun ready => ?_
    split
    · refine tidies_issue_bind (c := .size (.zvol ⟨sr, key⟩)) trivial fun sized => ?_
      split
      · exact tidies_commit fun c hc => .inl (List.mem_singleton.1 hc)
      · exact .pure settles_raised
    · exact .pure settles_raised
  · exact .pure settles_raised

theorem tidies_snapshot : Tidies E (.snapshot sr key) [] (snapshot sr key)
    (Call.Settles (.snapshot sr key)) := by
  refine tidies_issue_bind (c := .uuid4) trivial fun u => ?_
  refine tidies_issue_bind (c := .parent ⟨sr, key⟩) trivial fun parent => ?_
  cases parent with
  | none => exact .pure settles_raised
  | some parent =>
      refine tidies_issue_bind (c := .takeSnapshot ⟨sr, parent⟩ u) trivial fun taken => ?_
      split
      · refine tidies_issue_bind (c := .cloneSnapshot ⟨sr, parent⟩ u ⟨sr, u⟩) trivial
          fun cloned => ?_
        cases cloned with
        | false => exact .pure settles_raised
        | true =>
            refine tidies_issue_bind (c := .attempt) trivial fun readonly => ?_
            split
            · refine tidies_commit fun c hc => ?_
              rcases List.mem_cons.1 hc with rfl | hc
              · refine .inr (List.mem_append_right _ (List.mem_filter.2 ⟨?_, rfl⟩))
                exact List.mem_append_left _ (List.mem_singleton.2 rfl)
              · exact .inl (List.mem_singleton.1 hc)
            · exact .pure settles_raised
      · exact .pure settles_raised

/-! ### `Volume.copy` -/

/-- The script draws no UUID. -/
abbrev Draws (k : Transcript) : α → Transcript → Prop := fun _ k' => k'.uuids = k.uuids

theorem tidies_destroyIfThere (h : .zvol dest ∈ call.temporary k.uuids) :
    Tidies E call k (destroyIfThere dest) (Draws k) := by
  refine tidies_issue_bind (c := .volExists dest) trivial fun found => ?_
  split
  · exact tidies_issue_bind (c := .destroy (.zvol dest)) (.inr h) fun _ => .pure rfl
  · exact .pure rfl

theorem tidies_destroySnapshotIfThere (h : .snapshot v.sr snap_token ∈ call.temporary k.uuids) :
    Tidies E call k (destroySnapshotIfThere v snap_token) (Draws k) := by
  refine tidies_issue_bind (c := .volExists v) trivial fun found => ?_
  split
  · exact tidies_issue_bind (c := .destroy (.snapshot v snap_token)) (.inr h) fun _ => .pure rfl
  · exact .pure rfl

/-- What a copy may undo: its destination, and its snapshot on either side. -/
def Undoes (call : Call) (k : Transcript) (src dest : Vol) (snap_token : String) : Prop :=
  call.claims k.uuids = [.zvol dest] ∧
    [.zvol dest, .snapshot src.sr snap_token, .snapshot dest.sr snap_token] ⊆ call.temporary k.uuids

theorem Undoes.of_draws (h : Undoes call k src dest snap_token) (hk : k'.uuids = k.uuids) :
    Undoes call k' src dest snap_token := by
  rw [Undoes, hk]
  exact h

theorem tidies_undoReplication (h : Undoes call k src dest snap_token) :
    Tidies E call k (undoReplication src dest snap_token) call.Settles := by
  refine (tidies_destroyIfThere (h.2 (by simp))).bind fun _ k₁ hk₁ => ?_
  have h₁ := h.of_draws hk₁
  exact tidies_issue_bind (c := .destroy (.snapshot src snap_token)) (.inr (h₁.2 (by simp [Obj.claim])))
    fun _ => .pure settles_raised

theorem tidies_undoCleanup (h : Undoes call k src dest snap_token) :
    Tidies E call k (undoCleanup src dest snap_token) call.Settles := by
  refine (tidies_destroyIfThere (h.2 (by simp))).bind fun _ k₁ hk₁ => ?_
  have h₁ := h.of_draws hk₁
  refine (tidies_destroySnapshotIfThere (h₁.2 (by simp))).bind fun _ k₂ hk₂ => ?_
  have h₂ := h₁.of_draws hk₂
  exact (tidies_destroySnapshotIfThere (h₂.2 (by simp))).bind fun _ _ _ => .pure settles_raised

theorem tidies_registerCopy (h : Undoes call k src dest snap_token) :
    Tidies E call k (registerCopy dest) call.Settles := by
  refine tidies_issue_bind (c := .attempt) trivial fun ready => ?_
  split
  · refine tidies_commit fun c hc => .inl ?_
    have hclaims : call.claims (k.add .attempt ready).uuids = [.zvol dest] := h.1
    rw [hclaims] at hc
    exact List.mem_singleton.1 hc
  · exact .pure settles_raised

theorem tidies_finishCopy (same_pool : Bool) (h : Undoes call k src dest snap_token) :
    Tidies E call k (finishCopy same_pool src dest snap_token) call.Settles := by
  rw [finishCopy]
  split
  · exact tidies_registerCopy h
  · refine tidies_issue_bind (c := .destroy (.snapshot src snap_token)) (.inr (h.2 (by simp [Obj.claim])))
      fun sourceGone => ?_
    have h₁ : Undoes call (k.add (.destroy (.snapshot src snap_token)) sourceGone) src dest snap_token :=
      h.of_draws rfl
    split
    · refine tidies_issue_bind (c := .destroy (.snapshot dest snap_token))
        (.inr (h₁.2 (by simp [Obj.claim]))) fun receivedGone => ?_
      split
      · exact tidies_registerCopy (h₁.of_draws rfl)
      · exact tidies_undoCleanup (h₁.of_draws rfl)
    · exact tidies_undoCleanup h₁

theorem tidies_replicate (same_pool : Bool) (h : Undoes call k src dest snap_token) :
    Tidies E call k (replicate same_pool src dest snap_token) (Draws k) := by
  cases same_pool with
  | true => exact tidies_issue (c := .cloneSnapshot src snap_token dest) trivial fun _ => rfl
  | false =>
      refine tidies_issue_bind (c := .beginReceive dest) trivial fun started => ?_
      cases started with
      | true =>
          exact tidies_issue (c := .endReceive dest snap_token) (h.2 (List.mem_cons_self ..))
            fun _ => rfl
      | false => exact .pure rfl

theorem tidies_copy {dest_sr : String} : Tidies E (.copy sr key dest_sr) [] (copy E sr key dest_sr)
    (Call.Settles (.copy sr key dest_sr)) := by
  refine tidies_issue_bind (c := .attempt) trivial fun ready => ?_
  split
  · refine tidies_issue_bind (c := .uuid4) trivial fun u => ?_
    refine tidies_issue_bind (c := .uuid4) trivial fun snap_token => ?_
    refine tidies_issue_bind (c := .attempt) trivial fun read => ?_
    split
    · refine tidies_issue_bind (c := .takeSnapshot ⟨sr, key⟩ snap_token) trivial fun taken => ?_
      split
      · refine tidies_issue_bind (c := .refreservation ⟨sr, key⟩) trivial fun src_thick => ?_
        cases src_thick with
        | none => exact .pure settles_raised
        | some thick =>
            have h₀ : ∀ k : Transcript, k.uuids = [u, snap_token] →
                Undoes (.copy sr key dest_sr) k ⟨sr, key⟩ ⟨dest_sr, u⟩ snap_token := by
              intro k hk
              refine ⟨?_, ?_⟩ <;> rw [hk]
              · rfl
              · exact List.Subset.refl _
            refine (tidies_replicate _ (h₀ _ rfl)).bind fun done k₁ hk₁ => ?_
            have h₁ := (h₀ _ rfl).of_draws hk₁
            split
            · split
              · refine tidies_issue_bind (c := .attempt) trivial fun reserved => ?_
                split
                · exact tidies_finishCopy _ (h₁.of_draws rfl)
                · exact tidies_undoReplication (h₁.of_draws rfl)
              · exact tidies_finishCopy _ h₁
            · exact tidies_undoReplication h₁
      · exact .pure settles_raised
    · exact .pure settles_raised
  · exact .pure settles_raised

/-- **All calls are tidy**, and have seen there what they register. -/
theorem tidies_script (c : Call) : Tidies E c [] (c.script E) c.Settles := by
  cases c with
  | ls sr => exact tidies_ls
  | create sr => exact tidies_create
  | copy sr key dest_sr => exact tidies_copy
  | importExisting sr key => exact tidies_importExisting
  | snapshot sr key => exact tidies_snapshot

end Registration

/-
**Sweeps that spare what is being registered** (`src/volume/sr.py`, `src/volume/volume.py`,
`src/volume/zfs_operations.py`).

What `SR.ls` destroys it has found unknown some time ago, by a list of UUIDs that is older still.  In
between, the call that has made it can have registered it and returned.  Nothing but the grace period
keeps the two apart: the age of a dataset is taken from its creation, which is the beginning of a
transfer, when the clock is read, and the list is not read again.

Main definitions:

* `Registration.Timely`, `Registration.TimelyRun` — the grace period is long enough for what goes on;
* `Registration.Guarded` — the invariant of timely runs.

Main results:

* `Registration.Guarded.unclaimed_of_spoils` — **no command removes what another call registers**;
* `Registration.safe_of_timely` — **what is registered stays** in every timely run;
* `Registration.not_safe_hour` — a copy that is transferred for an hour is destroyed when it is done.
-/

import ZfsLive.RegistrationScripts

set_option relaxedAutoImplicit false
set_option autoImplicit false

namespace Registration

open Tasks

/-! ### Timely runs -/

/-- What the calls at work register, and those that have returned have registered. -/
def System.claimed (s : System) : List Claim := s.registered ++ s.calls.flatMap Working.claims

/-- The call that takes a step. -/
def Event.actor : Event → Option ℕ
  | .step i _ => some i
  | _ => none

/-- The zvol that a call starts to import. -/
def Event.imports : Event → Option Vol
  | .start (.importExisting sr key) => some ⟨sr, key⟩
  | _ => none

/-- A sweep that reads the clock has found nothing past the grace period that a call registers or has
registered, and a zvol that is imported is neither past it for a sweep at work, nor being made by a copy
at work. -/
def Timely (E : Env) (s : System) (e : Event) : Prop :=
  (∀ i ∈ e.actor, ∀ w ∈ s.calls[i]?, w.asksTime = true →
    ∀ o ∈ w.expiring E s.host.now, o.claim ∉ s.claimed) ∧
  ∀ v ∈ e.imports, ∀ w ∈ s.calls, .zvol v ∉ w.expired E ∧ .zvol v ∉ w.temporary

instance (E : Env) (s : System) (e : Event) : Decidable (Timely E s e) :=
  inferInstanceAs (Decidable (_ ∧ _))

/-- All events of a run are timely. -/
def TimelyRun (E : Env) (s : System) : List Event → Prop
  | [] => True
  | e :: es => Timely E s e ∧ (s.next E e).elim True fun s' => TimelyRun E s' es

instance decidableTimelyRun (E : Env) : (s : System) → (es : List Event) → Decidable (TimelyRun E s es)
  | _, [] => .isTrue trivial
  | s, e :: es =>
      match h : s.next E e with
      | none => decidable_of_iff (Timely E s e) (by simp [TimelyRun, h])
      | some s' =>
          have := decidableTimelyRun E s' es
          decidable_of_iff (Timely E s e ∧ TimelyRun E s' es) (by simp [TimelyRun, h])

/-! ### What commands leave alone -/

variable {E : Env} {call : Call} {k : Transcript} {o : Obj} {key : String}

variable {h h' : Host} {s s' : System} {c : Command} {r : Reply c} {choice i : ℕ} {w u : Working}
  {claim : Claim}

theorem has_iff : h.Has o = true ↔ o ∈ h.objects.keys :=
  Option.isSome_iff_exists.trans Dict.mem_keys_iff.symm

theorem Host.Present.make (hp : h.Present claim) (o : Obj) (origin : Option Claim) :
    (h.make o origin).Present claim := by
  obtain ⟨o', hmem, rfl⟩ := hp
  exact ⟨o', Dict.mem_keys_set.2 (.inr hmem), rfl⟩

theorem Host.Present.drop (hp : h.Present claim) (hne : o.claim ≠ claim) :
    (h.drop o).Present claim := by
  obtain ⟨o', hmem, rfl⟩ := hp
  refine ⟨o', Dict.mem_keys_erase.2 ⟨?_, hmem⟩, rfl⟩
  rintro rfl
  exact hne rfl

/-- What a command cannot remove is there afterwards. -/
theorem Effect.present (he : Effect h c h') (hspoils : c.spoils ≠ some claim)
    (hp : h.Present claim) : h'.Present claim := by
  cases he with
  | idle => exact hp
  | destroy o => exact hp.drop fun heq => hspoils (congrArg some heq)
  | uuid4 u => exact hp
  | make c o origin => exact hp.make o origin
  | rollBack v snap => exact hp.drop fun heq => hspoils (congrArg some heq)
  | register v => exact hp

theorem Effect.seen (he : Effect h c h') : h.seen ⊆ h'.seen := by
  cases he with
  | uuid4 u => exact List.subset_cons_self ..
  | make c o origin => exact List.subset_cons_self ..
  | _ => exact List.Subset.refl _

/-- The UUIDs of what there is have been seen. -/
def Host.Seen (h : Host) : Prop := ∀ o ∈ h.objects.keys, o.uuid ∈ h.seen

theorem Host.Seen.make (hs : h.Seen) (o : Obj) (origin : Option Claim) : (h.make o origin).Seen := by
  intro o' hmem
  rcases Dict.mem_keys_set.1 hmem with rfl | hmem
  · exact List.mem_cons_self ..
  · exact List.mem_cons_of_mem _ (hs o' hmem)

theorem Host.Seen.drop (hs : h.Seen) (o : Obj) : (h.drop o).Seen :=
  fun o' hmem => hs o' (Dict.mem_keys_erase.1 hmem).2

theorem Effect.hostSeen (he : Effect h c h') (hs : h.Seen) : h'.Seen := by
  cases he with
  | idle => exact hs
  | destroy o => exact hs.drop o
  | uuid4 u => exact fun o hmem => List.mem_cons_of_mem _ (hs o hmem)
  | make c o origin => exact hs.make o origin
  | rollBack v snap => exact hs.drop _
  | register v => exact hs

/-- What a command shows is there. -/
theorem present_of_shown (hexec : exec E c choice h = some (r, h')) (hmem : claim ∈ shown c r) :
    h'.Present claim := by
  cases c with
  | size o =>
      cases hr : (r : Bool) with
      | false =>
          rw [hr] at hmem
          cases hmem
      | true =>
          rw [hr] at hmem
          obtain rfl := List.mem_singleton.1 hmem
          rw [exec] at hexec
          obtain ⟨hreply, rfl⟩ := Prod.mk.inj (Option.some.inj hexec)
          have hhas : (decide (choice ≠ 0) && h.Has o) = true := hreply.trans hr
          exact ⟨o, has_iff.1 (Bool.and_eq_true_iff.1 hhas).2, rfl⟩
  | cloneSnapshot v snap clone =>
      cases hr : (r : Bool) with
      | false =>
          rw [hr] at hmem
          cases hmem
      | true =>
          rw [hr] at hmem
          obtain rfl := List.mem_singleton.1 hmem
          rw [hr, exec] at hexec
          split at hexec <;> cases hexec
          exact ⟨.zvol clone, Dict.mem_keys_set.2 (.inl rfl), rfl⟩
  | _ => cases hmem

/-- A UUID that was drawn is a new one. -/
theorem uuid4_fresh {u : String} (hexec : exec E .uuid4 choice h = some (u, h')) :
    u ∉ h.seen ∧ u ∈ h'.seen := by
  rw [exec] at hexec
  split at hexec
  · cases hexec
  · next hfresh =>
    cases hexec
    exact ⟨hfresh, List.mem_cons_self ..⟩

/-! ### What calls have heard -/

theorem mem_claims_append {us : List String} {u : String} (hc : claim ∈ call.claims (us ++ [u])) :
    claim ∈ call.claims us ∨ claim.uuid = u := by
  cases call with
  | ls sr => cases hc
  | importExisting sr key => exact .inl hc
  | create sr =>
      cases us with
      | nil =>
          obtain rfl := List.mem_singleton.1 hc
          exact .inr rfl
      | cons u' us => exact .inl hc
  | copy sr key dest_sr =>
      cases us with
      | nil =>
          obtain rfl := List.mem_singleton.1 hc
          exact .inr rfl
      | cons u' us => exact .inl hc
  | snapshot sr key =>
      cases us with
      | nil =>
          rcases List.mem_cons.1 hc with rfl | hc
          · exact .inr rfl
          · obtain rfl := List.mem_singleton.1 hc
            exact .inr rfl
      | cons u' us => exact .inl hc

theorem mem_temporary_append {us : List String} {u : String}
    (hc : claim ∈ call.temporary (us ++ [u])) : claim ∈ call.temporary us ∨ claim.uuid = u := by
  cases call with
  | copy sr key dest_sr =>
      rcases us with _ | ⟨u₁, _ | ⟨u₂, us⟩⟩
      · obtain rfl := List.mem_singleton.1 hc
        exact .inr rfl
      · rcases List.mem_cons.1 hc with rfl | hc
        · exact .inl (List.mem_singleton.2 rfl)
        · rcases List.mem_cons.1 hc with rfl | hc
          · exact .inr rfl
          · obtain rfl := List.mem_singleton.1 hc
            exact .inr rfl
      · exact .inl hc
  | _ => cases hc

/-- A call draws a UUID by one command only. -/
theorem uuids_add (hc : c ≠ .uuid4) : (k.add c r).uuids = k.uuids := by
  cases c <;> first | rfl | exact absurd rfl hc

/-- The UUIDs of what a call has heard of have been seen. -/
structure Heard (seen : List String) (call : Call) (k : Transcript) : Prop where
  listed : ∀ o ∈ k.listed, o.uuid ∈ seen
  found : ∀ orphan ∈ k.found, orphan.obj ∈ k.listed
  expired : ∀ grace, ∀ o ∈ k.expired grace, o ∈ k.listed
  made : ∀ c ∈ k.made, c.uuid ∈ seen
  claims : ∀ c ∈ call.claims k.uuids, c.uuid ∈ seen
  temporary : ∀ c ∈ call.temporary k.uuids, c.uuid ∈ seen

theorem Heard.mono {seen seen' : List String} (hk : Heard seen call k) (hseen : seen ⊆ seen') :
    Heard seen' call k where
  listed o ho := hseen (hk.listed o ho)
  found := hk.found
  expired := hk.expired
  made c hc := hseen (hk.made c hc)
  claims c hc := hseen (hk.claims c hc)
  temporary c hc := hseen (hk.temporary c hc)

/-- Nothing is listed but what is there. -/
theorem mem_listed_add (hexec : exec E c choice h = some (r, h')) (ho : o ∈ (k.add c r).listed) :
    o ∈ k.listed ∨ o ∈ h.objects.keys := by
  have hkeys : ∀ {p : Obj → Bool} {objs : List Obj}, o ∈ objs ++ k.listed →
      objs = (if choice = 0 then [] else h.objects.keys.filter p) →
      o ∈ k.listed ∨ o ∈ h.objects.keys := by
    intro p objs ho heq
    rcases List.mem_append.1 ho with ho | ho
    · rw [heq] at ho
      split at ho
      · cases ho
      · exact .inr (List.mem_filter.1 ho).1
    · exact .inl ho
  cases c with
  | listZvols sr =>
      rw [exec] at hexec
      exact hkeys ho (Prod.mk.inj (Option.some.inj hexec)).1.symm
  | listSnapshots sr =>
      rw [exec] at hexec
      exact hkeys ho (Prod.mk.inj (Option.some.inj hexec)).1.symm
  | _ => exact .inl ho

theorem listed_add : k.listed ⊆ (k.add c r).listed := by
  cases c <;> first | exact List.Subset.refl _ | exact List.subset_append_right _ _

/-- Nothing is found but what is asked for. -/
theorem mem_found_add {orphan : Orphan} (hmem : orphan ∈ (k.add c r).found) :
    orphan ∈ k.found ∨ c = .creation orphan.obj := by
  cases c with
  | creation o =>
      rcases List.mem_append.1 hmem with hmem | hmem
      · exact .inl hmem
      · obtain rfl := List.mem_singleton.1 hmem
        exact .inr rfl
  | listZvols sr => cases hmem
  | listSnapshots sr => cases hmem
  | time => cases hmem
  | _ => exact .inl hmem

/-- Nothing expires but by the clock. -/
theorem mem_expired_add {grace : ℤ} (hexec : exec E c choice h = some (r, h'))
    (hmem : o ∈ (k.add c r).expired grace) :
    o ∈ k.expired grace ∨ c = .time ∧
      ∃ orphan ∈ k.found, oldEnough h.now grace orphan.creation = true ∧ orphan.obj = o := by
  cases c with
  | time =>
      cases hexec
      rcases List.mem_append.1 hmem with hmem | hmem
      · obtain ⟨orphan, hkept, hobj⟩ := List.mem_map.1 hmem
        obtain ⟨hfound, hold⟩ := List.mem_filter.1 hkept
        exact .inr ⟨rfl, orphan, hfound, hold, hobj⟩
      · exact .inl hmem
  | _ => exact .inl hmem

theorem mem_made_add (hmem : claim ∈ (k.add c r).made) :
    claim ∈ shown c r ∨ claim ∈ k.made ∧ c.spoils ≠ some claim := by
  rcases List.mem_append.1 hmem with hmem | hmem
  · exact .inl hmem
  · obtain ⟨hmade, hspoils⟩ := List.mem_filter.1 hmem
    exact .inr ⟨hmade, of_decide_eq_true hspoils⟩

theorem Heard.own (hk : Heard h.seen call k) (hs : h.Seen)
    (hexec : exec E c choice h = some (r, h')) (hmay : (tidy E call).may k c) :
    Heard h'.seen call (k.add c r) := by
  have he := effect_of_exec hexec
  have hmono := hk.mono he.seen
  refine ⟨fun o ho => ?_, fun orphan hmem => ?_, fun grace o ho => ?_, fun claim hmem => ?_,
    fun claim hmem => ?_, fun claim hmem => ?_⟩
  · rcases mem_listed_add hexec ho with ho | ho
    · exact hmono.listed o ho
    · exact he.seen (hs o ho)
  · rcases mem_found_add hmem with hmem | rfl
    · exact listed_add (hk.found orphan hmem)
    · exact listed_add hmay
  · rcases mem_expired_add hexec ho with ho | ⟨_, orphan, hfound, _, rfl⟩
    · exact listed_add (hk.expired grace o ho)
    · exact listed_add (hk.found orphan hfound)
  · rcases mem_made_add hmem with hmem | ⟨hmem, _⟩
    · obtain ⟨o, ho, rfl⟩ := present_of_shown hexec hmem
      exact he.hostSeen hs o ho
    · exact hmono.made claim hmem
  · by_cases hc : c = .uuid4
    · subst hc
      rcases mem_claims_append hmem with hmem | heq
      · exact hmono.claims claim hmem
      · exact heq ▸ (uuid4_fresh hexec).2
    · rw [uuids_add hc] at hmem
      exact hmono.claims claim hmem
  · by_cases hc : c = .uuid4
    · subst hc
      rcases mem_temporary_append hmem with hmem | heq
      · exact hmono.temporary claim hmem
      · exact heq ▸ (uuid4_fresh hexec).2
    · rw [uuids_add hc] at hmem
      exact hmono.temporary claim hmem

/-! ### The invariant -/

/-- A call makes and may undo nothing that another call registers. -/
def Apart (calls : List Working) : Prop :=
  ∀ (i j : ℕ) (w u : Working), i ≠ j → calls[i]? = some w → calls[j]? = some u →
    ∀ c ∈ w.temporary, c ∉ u.claims

/-- The invariant of timely runs. -/
structure Guarded (E : Env) (s : System) : Prop where
  seen : s.host.Seen
  heard : ∀ w ∈ s.calls, Heard s.host.seen w.call w.task.knows
  tidies : ∀ w ∈ s.calls, Tidies E w.call w.task.knows w.task.prog w.call.Settles
  apart : Apart s.calls
  known : ∀ c ∈ s.registered, c.uuid ∈ s.host.seen
  kept : ∀ w ∈ s.calls, ∀ c ∈ w.temporary, c ∉ s.registered
  spared : ∀ w ∈ s.calls, ∀ o ∈ w.expired E, o.claim ∉ s.claimed
  made : ∀ w ∈ s.calls, ∀ c ∈ w.claims, c ∈ w.task.knows.made → s.host.Present c ∨ c ∈ s.removed
  registered : ∀ c ∈ s.registered, s.host.Present c ∨ c ∈ s.removed

theorem mem_claimed : claim ∈ s.claimed ↔ claim ∈ s.registered ∨ ∃ w ∈ s.calls, claim ∈ w.claims :=
  List.mem_append.trans (or_congr_right List.mem_flatMap)

/-- What has expired for a call, or would expire, has been seen. -/
theorem Heard.seen {seen : List String} (hw : Heard seen w.call w.task.knows) (now : ℤ)
    (ho : o ∈ w.expired E ∨ o ∈ w.expiring E now) : o.claim.uuid ∈ seen := by
  refine hw.listed o ?_
  cases hcall : w.call with
  | ls sr =>
      simp only [Working.expired, Working.expiring, hcall, Call.expired] at ho
      obtain ho | ho := ho
      · exact hw.expired _ o ho
      · obtain ⟨orphan, hkept, rfl⟩ := List.mem_map.1 ho
        exact hw.found orphan (List.mem_filter.1 hkept).1
  | _ =>
      simp only [Working.expired, Working.expiring, hcall, Call.expired] at ho
      obtain ho | ho := ho <;> cases ho

/-- **A command of a call removes nothing that another call registers or that is registered.** -/
theorem Guarded.unclaimed_of_spoils (hg : Guarded E s) (hw : s.calls[i]? = some w)
    (hmay : (tidy E w.call).may w.task.knows c) (hspoils : c.spoils = some claim) :
    claim ∉ s.registered ∧ ∀ j u, i ≠ j → s.calls[j]? = some u → claim ∉ u.claims := by
  have hmem := List.mem_of_getElem? hw
  have htemporary : claim ∈ w.temporary →
      claim ∉ s.registered ∧ ∀ j u, i ≠ j → s.calls[j]? = some u → claim ∉ u.claims :=
    fun h => ⟨hg.kept w hmem claim h, fun j u hne hu => hg.apart i j w u hne hw hu claim h⟩
  cases c with
  | destroy o =>
      cases hspoils
      obtain hexpired | h := hmay
      · have hspared := hg.spared w hmem o hexpired
        exact ⟨fun h => hspared (mem_claimed.2 (.inl h)), fun j u _ hu h =>
          hspared (mem_claimed.2 (.inr ⟨u, List.mem_of_getElem? hu, h⟩))⟩
      · exact htemporary h
  | endReceive v snap =>
      cases hspoils
      exact htemporary hmay
  | _ => cases hspoils

/-- A change of the surroundings that removes nothing but what counts as removed. -/
theorem Guarded.of_host {removed : List Claim} (hg : Guarded E s) (hseen : h'.Seen)
    (hgrows : s.host.seen ⊆ h'.seen) (hremoved : s.removed ⊆ removed)
    (hpresent : ∀ c, s.host.Present c → h'.Present c ∨ c ∈ removed) :
    Guarded E { s with host := h', removed := removed } := by
  have hstays : ∀ c, s.host.Present c ∨ c ∈ s.removed → h'.Present c ∨ c ∈ removed := by
    intro c hc
    rcases hc with hc | hc
    · exact hpresent c hc
    · exact .inr (hremoved hc)
  exact ⟨hseen, fun w hw => (hg.heard w hw).mono hgrows, hg.tidies, hg.apart,
    fun c hc => hgrows (hg.known c hc), hg.kept, hg.spared,
    fun w hw c hc hmade => hstays c (hg.made w hw c hc hmade), fun c hc => hstays c (hg.registered c hc)⟩

/-- What is there again, and what is not registered any more, is left out of the books. -/
theorem Guarded.refresh (hg : Guarded E s) : Guarded E s.refresh ∧ s.refresh.Safe := by
  have hremoved : ∀ c, s.host.Present c ∨ c ∈ s.removed →
      s.host.Present c ∨ c ∈ s.refresh.removed := by
    intro c hc
    by_cases hp : s.host.Present c
    · exact .inl hp
    · exact .inr (List.mem_filter.2 ⟨hc.resolve_left hp, decide_eq_true hp⟩)
  have hregistered : ∀ c ∈ s.refresh.registered, c ∈ s.registered ∧ c ∉ s.refresh.removed := by
    intro c hc
    obtain ⟨hmem, hnot⟩ := List.mem_filter.1 hc
    exact ⟨hmem, of_decide_eq_true hnot⟩
  refine ⟨⟨hg.seen, hg.heard, hg.tidies, hg.apart, fun c hc => ?_, fun w hw c hc hreg => ?_,
    fun w hw o ho hclaimed => ?_, fun w hw c hc hmade => ?_, fun c hc => ?_⟩, fun c hc => ?_⟩
  · exact hg.known c (hregistered c hc).1
  · exact hg.kept w hw c hc (hregistered c hreg).1
  · refine hg.spared w hw o ho (mem_claimed.2 ?_)
    exact (mem_claimed.1 hclaimed).imp_left fun h => (hregistered _ h).1
  · exact hremoved c (hg.made w hw c hc hmade)
  · exact hremoved c (hg.registered c (hregistered c hc).1)
  · obtain ⟨hmem, hnot⟩ := hregistered c hc
    exact (hremoved c (hg.registered c hmem)).resolve_right hnot

/-! ### One command -/

/-- A call after a command. -/
def Working.went (w : Working) (next : Reply c → Script Answer) (r : Reply c) : Working :=
  { w with task := ⟨w.task.knows.add c r, next r⟩ }

theorem step_cases (hstep : s.step E i choice = some s') :
    ∃ (w : Working) (c : Command) (next : Reply c → Script Answer) (r : Reply c) (host : Host),
      s.calls[i]? = some w ∧ w.task.prog = .cmd c next ∧ exec E c choice s.host = some (r, host) ∧
        s' = { s with
          host := host
          calls := s.calls.set i (w.went next r) } := by
  simp only [System.step, Option.bind_eq_bind, Option.bind_eq_some_iff, Option.pure_def,
    Option.some.injEq] at hstep
  obtain ⟨w, hw, ⟨task, host⟩, hadv, rfl⟩ := hstep
  obtain ⟨c, next, r, hprog, hexec, rfl⟩ := advance_eq_some hadv
  exact ⟨w, c, next, r, host, hw, hprog, hexec, rfl⟩

section

variable {next : Reply c → Script Answer}

/-- What a call registers after a command, it registers already, or its UUID has just been drawn. -/
theorem mem_claims_step (hexec : exec E c choice h = some (r, h'))
    (hc : claim ∈ (w.went next r).claims) :
    claim ∈ w.claims ∨ claim.uuid ∉ h.seen := by
  by_cases hcmd : c = .uuid4
  · subst hcmd
    obtain hc | heq := mem_claims_append hc
    · exact .inl hc
    · exact .inr (heq ▸ (uuid4_fresh hexec).1)
  · refine .inl ?_
    rw [Working.claims, Working.went, uuids_add hcmd] at hc
    exact hc

/-- So with what it makes and may undo. -/
theorem mem_temporary_step (hexec : exec E c choice h = some (r, h'))
    (hc : claim ∈ (w.went next r).temporary) :
    claim ∈ w.temporary ∨ claim.uuid ∉ h.seen := by
  by_cases hcmd : c = .uuid4
  · subst hcmd
    obtain hc | heq := mem_temporary_append hc
    · exact .inl hc
    · exact .inr (heq ▸ (uuid4_fresh hexec).1)
  · refine .inl ?_
    rw [Working.temporary, Working.went, uuids_add hcmd] at hc
    exact hc

/-- What expires for a call by a command has been found by it, and is past its grace period. -/
theorem mem_expired_step (hprog : w.task.prog = .cmd c next)
    (hexec : exec E c choice h = some (r, h'))
    (ho : o ∈ (w.went next r).expired E) :
    o ∈ w.expired E ∨ w.asksTime = true ∧ o ∈ w.expiring E h.now := by
  cases hcall : w.call with
  | ls sr =>
      simp only [Working.went, Working.expired, Working.expiring, hcall, Call.expired] at ho ⊢
      obtain ho | ⟨rfl, orphan, hfound, hold, rfl⟩ := mem_expired_add hexec ho
      · exact .inl ho
      · refine .inr ⟨by rw [Working.asksTime, hprog], ?_⟩
        exact List.mem_map.2 ⟨orphan, List.mem_filter.2 ⟨hfound, hold⟩, rfl⟩
  | _ =>
      simp only [Working.went, Working.expired, hcall, Call.expired] at ho
      cases ho

end

/-- A call is the one that has taken a step, or another one. -/
theorem mem_set_cases {calls : List Working} {j : ℕ} (hu : (calls.set i w)[j]? = some u) :
    (i = j ∧ u = w) ∨ (i ≠ j ∧ calls[j]? = some u) := by
  rw [List.getElem?_set] at hu
  split at hu
  · next heq =>
    split at hu
    · exact .inl ⟨heq, (Option.some.inj hu).symm⟩
    · cases hu
  · next hne => exact .inr ⟨hne, hu⟩

/-- What the seen UUIDs tell apart stays apart. -/
theorem Apart.set {calls : List Working} {seen : List String} {w' : Working} (ha : Apart calls)
    (hw : calls[i]? = some w)
    (hclaims : ∀ u ∈ calls, ∀ c ∈ u.claims, c.uuid ∈ seen)
    (htemporary : ∀ u ∈ calls, ∀ c ∈ u.temporary, c.uuid ∈ seen)
    (hclaims' : ∀ c ∈ w'.claims, c ∈ w.claims ∨ c.uuid ∉ seen)
    (htemporary' : ∀ c ∈ w'.temporary, c ∈ w.temporary ∨ c.uuid ∉ seen) :
    Apart (calls.set i w') := by
  intro j l v u hne hv hu c hcv hcu
  obtain ⟨rfl, rfl⟩ | ⟨_, hv'⟩ := mem_set_cases hv
  · obtain ⟨rfl, _⟩ | ⟨_, hu'⟩ := mem_set_cases hu
    · exact hne rfl
    · obtain hcv | hfresh := htemporary' c hcv
      · exact ha _ _ _ _ hne hw hu' c hcv hcu
      · exact hfresh (hclaims u (List.mem_of_getElem? hu') c hcu)
  · obtain ⟨rfl, rfl⟩ | ⟨_, hu'⟩ := mem_set_cases hu
    · obtain hcu | hfresh := hclaims' c hcu
      · exact ha _ _ _ _ hne hv' hw c hcv hcu
      · exact hfresh (htemporary v (List.mem_of_getElem? hv') c hcv)
    · exact ha _ _ _ _ hne hv' hu' c hcv hcu

/-- A command of a call keeps the invariant. -/
theorem Guarded.step (hg : Guarded E s) (htimely : Timely E s (.step i choice))
    (hstep : s.step E i choice = some s') : Guarded E s' := by
  obtain ⟨w, c, next, r, host, hw, hprog, hexec, rfl⟩ := step_cases hstep
  have hmem := List.mem_of_getElem? hw
  have he := effect_of_exec hexec
  obtain ⟨hmay, hnext⟩ : Tidies E w.call w.task.knows (.cmd c next) w.call.Settles :=
    hprog ▸ hg.tidies w hmem
  have hclaims : ∀ claim ∈ (w.went next r).claims, claim ∈ w.claims ∨ claim.uuid ∉ s.host.seen :=
    fun claim => mem_claims_step hexec
  have htemporary : ∀ claim ∈ (w.went next r).temporary,
      claim ∈ w.temporary ∨ claim.uuid ∉ s.host.seen := fun claim => mem_temporary_step hexec
  have hset : ∀ u ∈ s.calls.set i (w.went next r), u = w.went next r ∨
      ∃ j, i ≠ j ∧ s.calls[j]? = some u := by
    intro u hu
    obtain ⟨j, hj⟩ := List.mem_iff_getElem?.1 hu
    obtain ⟨_, rfl⟩ | ⟨hne, hj⟩ := mem_set_cases hj
    · exact .inl rfl
    · exact .inr ⟨j, hne, hj⟩
  -- what the command removes is nobody else's
  have hpresent : ∀ claim, (claim ∈ s.registered ∨ ∃ j u, i ≠ j ∧ s.calls[j]? = some u ∧ claim ∈ u.claims) →
      s.host.Present claim ∨ claim ∈ s.removed → host.Present claim ∨ claim ∈ s.removed := by
    rintro claim hwhose (hp | hremoved)
    · refine .inl (he.present (fun hspoils => ?_) hp)
      obtain ⟨hreg, hothers⟩ := hg.unclaimed_of_spoils hw hmay hspoils
      obtain h | ⟨j, u, hne, hu, h⟩ := hwhose
      · exact hreg h
      · exact hothers j u hne hu h
    · exact .inr hremoved
  refine ⟨he.hostSeen hg.seen, fun u hu => ?_, fun u hu => ?_, ?_, fun claim hc => ?_,
    fun u hu claim hc hreg => ?_, fun u hu o ho hclaimed => ?_, fun u hu claim hc hmade => ?_,
    fun claim hc => hpresent claim (.inl hc) (hg.registered claim hc)⟩
  · obtain rfl | ⟨j, _, hu⟩ := hset u hu
    · exact (hg.heard w hmem).own hg.seen hexec hmay
    · exact (hg.heard u (List.mem_of_getElem? hu)).mono he.seen
  · obtain rfl | ⟨j, _, hu⟩ := hset u hu
    · exact hnext r trivial
    · exact hg.tidies u (List.mem_of_getElem? hu)
  · exact hg.apart.set hw (fun u hu => (hg.heard u hu).claims) (fun u hu => (hg.heard u hu).temporary)
      hclaims htemporary
  · exact he.seen (hg.known claim hc)
  · obtain rfl | ⟨j, _, hu⟩ := hset u hu
    · obtain hc | hfresh := htemporary claim hc
      · exact hg.kept w hmem claim hc hreg
      · exact hfresh (hg.known claim hreg)
    · exact hg.kept u (List.mem_of_getElem? hu) claim hc hreg
  · -- what has expired has been seen, and is nobody's
    have hold : o.claim.uuid ∈ s.host.seen ∧ o.claim ∉ s.claimed := by
      obtain rfl | ⟨j, _, hu⟩ := hset u hu
      · obtain ho | ⟨hasks, ho⟩ := mem_expired_step hprog hexec ho
        · exact ⟨(hg.heard w hmem).seen 0 (.inl ho), hg.spared w hmem o ho⟩
        · exact ⟨(hg.heard w hmem).seen _ (.inr ho), htimely.1 i rfl w hw hasks o ho⟩
      · have hu := List.mem_of_getElem? hu
        exact ⟨(hg.heard u hu).seen 0 (.inl ho), hg.spared u hu o ho⟩
    obtain hreg | ⟨v, hv, hc⟩ := mem_claimed.1 hclaimed
    · exact hold.2 (mem_claimed.2 (.inl hreg))
    · obtain rfl | ⟨j, _, hv⟩ := hset v hv
      · obtain hc | hfresh := hclaims _ hc
        · exact hold.2 (mem_claimed.2 (.inr ⟨w, hmem, hc⟩))
        · exact hfresh hold.1
      · exact hold.2 (mem_claimed.2 (.inr ⟨v, List.mem_of_getElem? hv, hc⟩))
  · obtain rfl | ⟨j, hne, hu⟩ := hset u hu
    · obtain hshown | ⟨hmade, hspoils⟩ := mem_made_add hmade
      · exact .inl (present_of_shown hexec hshown)
      · obtain hc | hfresh := hclaims claim hc
        · refine (hg.made w hmem claim hc hmade).imp_left fun hp => he.present hspoils hp
        · exact absurd ((hg.heard w hmem).made claim hmade) hfresh
    · exact hpresent claim (.inr ⟨j, u, hne, hu, hc⟩)
        (hg.made u (List.mem_of_getElem? hu) claim hc hmade)

/-! ### The other events -/

/-- A call that starts. -/
def Call.begin (E : Env) (c : Call) : Working := ⟨c, ⟨[], c.script E⟩⟩

/-- The only thing that it registers already is what it imports. -/
theorem mem_claims_begin (hc : claim ∈ (call.begin E).claims) :
    ∃ v ∈ Event.imports (.start call), claim = .zvol v ∧ v.uuid ∈ call.brings := by
  cases call with
  | importExisting sr key =>
      obtain rfl := List.mem_singleton.1 hc
      exact ⟨⟨sr, key⟩, rfl, rfl, List.mem_singleton.2 rfl⟩
  | _ => cases hc

theorem temporary_begin : (call.begin E).temporary = [] := by
  cases call <;> rfl

theorem expired_begin : (call.begin E).expired E = [] := by
  cases call <;> rfl

/-- A call that starts to register nothing of what the others make and may undo. -/
theorem Apart.append {calls : List Working} (ha : Apart calls) (hu : u.temporary = [])
    (hclaims : ∀ w ∈ calls, ∀ c ∈ w.temporary, c ∉ u.claims) : Apart (calls ++ [u]) := by
  have hsplit : ∀ {j v}, (calls ++ [u])[j]? = some v → calls[j]? = some v ∨ j = calls.length ∧ v = u := by
    intro j v hv
    rw [List.getElem?_append] at hv
    split at hv
    · exact .inl hv
    · next hge =>
      rw [List.getElem?_singleton] at hv
      split at hv
      · exact .inr ⟨by omega, (Option.some.inj hv).symm⟩
      · cases hv
  intro j l v v' hne hv hv' c hcv hcv'
  obtain hold | ⟨rfl, rfl⟩ := hsplit hv
  · obtain hold' | ⟨_, rfl⟩ := hsplit hv'
    · exact ha j l v v' hne hold hold' c hcv hcv'
    · exact hclaims v (List.mem_of_getElem? hold) c hcv hcv'
  · rw [hu] at hcv
    cases hcv

/-- A zvol that has expired is known by its name. -/
theorem eq_of_claim {v : Vol} (h : o.claim = .zvol v) : o = .zvol v := by
  cases o with
  | zvol v' =>
      cases h
      rfl
  | snapshot v' snap => cases h

/-- A call that starts keeps the invariant. -/
theorem Guarded.start {c : Call} (hg : Guarded E s) (htimely : Timely E s (.start c)) :
    Guarded E { s with
      host := { s.host with seen := c.brings ++ s.host.seen }
      calls := s.calls ++ [c.begin E] } := by
  have hgrows : s.host.seen ⊆ c.brings ++ s.host.seen := List.subset_append_right ..
  have hsplit : ∀ w ∈ s.calls ++ [c.begin E], w ∈ s.calls ∨ w = c.begin E := by
    intro w hw
    exact (List.mem_append.1 hw).imp_right List.mem_singleton.1
  have hbrings : ∀ claim ∈ (c.begin E).claims, claim.uuid ∈ c.brings := by
    intro claim hc
    obtain ⟨v, _, rfl, hv⟩ := mem_claims_begin hc
    exact hv
  refine ⟨fun o ho => hgrows (hg.seen o ho), fun w hw => ?_, fun w hw => ?_, ?_,
    fun claim hc => hgrows (hg.known claim hc), fun w hw claim hc => ?_, fun w hw o ho hclaimed => ?_,
    fun w hw claim hc hmade => ?_, hg.registered⟩
  · obtain hw | rfl := hsplit w hw
    · exact (hg.heard w hw).mono hgrows
    · refine ⟨fun _ h => (by cases h), fun _ h => (by cases h), fun _ _ h => (by cases h),
        fun _ h => (by cases h), fun claim hc => ?_, fun claim hc => ?_⟩
      · exact List.mem_append_left _ (hbrings claim hc)
      · have hc : claim ∈ (c.begin E).temporary := hc
        rw [temporary_begin] at hc
        cases hc
  · obtain hw | rfl := hsplit w hw
    · exact hg.tidies w hw
    · exact tidies_script c
  · exact hg.apart.append temporary_begin fun w hw claim hcw hcu => by
      obtain ⟨v, hv, rfl, _⟩ := mem_claims_begin hcu
      exact (htimely.2 v hv w hw).2 hcw
  · obtain hw | rfl := hsplit w hw
    · exact hg.kept w hw claim hc
    · rw [temporary_begin] at hc
      cases hc
  · obtain hw | rfl := hsplit w hw
    · obtain hreg | ⟨u, hu, hc⟩ := mem_claimed.1 hclaimed
      · exact hg.spared w hw o ho (mem_claimed.2 (.inl hreg))
      · obtain hu | rfl := hsplit u hu
        · exact hg.spared w hw o ho (mem_claimed.2 (.inr ⟨u, hu, hc⟩))
        · obtain ⟨v, hv, heq, _⟩ := mem_claims_begin hc
          exact (htimely.2 v hv w hw).1 (eq_of_claim heq ▸ ho)
    · rw [expired_begin] at ho
      cases ho
  · obtain hw | rfl := hsplit w hw
    · exact hg.made w hw claim hc hmade
    · cases hmade

/-- What a call that returns has registered is there. -/
theorem Guarded.present_of_returned (hg : Guarded E s) (hw : w ∈ s.calls)
    (hdone : w.task.prog = .done (.returned key)) (hc : claim ∈ w.claims) :
    s.host.Present claim ∨ claim ∈ s.removed := by
  have hsettles : Tidies E w.call w.task.knows (.done (.returned key)) w.call.Settles :=
    hdone ▸ hg.tidies w hw
  exact hg.made w hw claim hc (hsettles key rfl claim hc)

/-- The calls at work after an answer. -/
theorem getElem?_eraseIdx_cases {calls : List Working} {j : ℕ} (hu : (calls.eraseIdx i)[j]? = some u) :
    ∃ l, l ≠ i ∧ calls[l]? = some u ∧ l = if j < i then j else j + 1 := by
  rw [List.getElem?_eraseIdx] at hu
  split at hu
  · next hlt => exact ⟨j, by omega, hu, (if_pos hlt).symm⟩
  · next hge => exact ⟨j + 1, by omega, hu, (if_neg hge).symm⟩

/-- An answer keeps the invariant. -/
theorem Guarded.answer {registered : List Claim} (hg : Guarded E s) (hw : s.calls[i]? = some w)
    (hreg : ∀ claim ∈ registered, claim ∈ s.registered ∨
      claim ∈ w.claims ∧ (s.host.Present claim ∨ claim ∈ s.removed)) :
    Guarded E { s with calls := s.calls.eraseIdx i, registered := registered } := by
  have hmem := List.mem_of_getElem? hw
  have hsub : ∀ u ∈ s.calls.eraseIdx i, u ∈ s.calls := fun u hu => List.mem_of_mem_eraseIdx hu
  refine ⟨hg.seen, fun u hu => hg.heard u (hsub u hu), fun u hu => hg.tidies u (hsub u hu), ?_,
    fun claim hc => ?_, fun u hu claim hc h => ?_, fun u hu o ho hclaimed => ?_,
    fun u hu => hg.made u (hsub u hu), fun claim hc => ?_⟩
  · intro j l u v hne hu hv
    obtain ⟨j', _, hu, rfl⟩ := getElem?_eraseIdx_cases hu
    obtain ⟨l', _, hv, rfl⟩ := getElem?_eraseIdx_cases hv
    refine hg.apart _ _ u v ?_ hu hv
    split <;> split <;> omega
  · obtain h | ⟨h, _⟩ := hreg claim hc
    · exact hg.known claim h
    · exact (hg.heard w hmem).claims claim h
  · obtain h | ⟨h, _⟩ := hreg claim h
    · exact hg.kept u (hsub u hu) claim hc h
    · obtain ⟨j, hj⟩ := List.mem_iff_getElem?.1 hu
      obtain ⟨j', hne, hj, _⟩ := getElem?_eraseIdx_cases hj
      exact hg.apart j' i u w hne hj hw claim hc h
  · refine hg.spared u (hsub u hu) o ho (mem_claimed.2 ?_)
    obtain h | ⟨v, hv, h⟩ := mem_claimed.1 hclaimed
    · exact (hreg _ h).imp_right fun h => ⟨w, hmem, h.1⟩
    · exact .inr ⟨v, hsub v hv, h⟩
  · obtain h | ⟨_, h⟩ := hreg claim hc
    · exact hg.registered claim h
    · exact h

/-- What is stored under keys that are there changes no claim. -/
theorem present_set {objects : Dict Obj Stamp} {stamp : Stamp} (ho : o ∈ objects.keys) :
    ({ h with objects := objects.set o stamp } : Host).Present claim ↔
      ({ h with objects := objects } : Host).Present claim := by
  refine exists_congr fun o' => and_congr_left fun _ => Dict.mem_keys_set.trans ?_
  exact or_iff_right_of_imp fun heq => heq ▸ ho

/-- Neither does a snapshot that another zvol of the SR takes over. -/
theorem present_move {v w : Vol} {snap : String} {stamp : Stamp} (hsr : v.sr = w.sr)
    (hsnap : .snapshot v snap ∈ h.objects.keys) :
    ({ h with
        objects := (h.objects.erase (.snapshot v snap)).set (.snapshot w snap) stamp } : Host).Present
      claim ↔ h.Present claim := by
  have hclaim : (Obj.snapshot w snap).claim = (Obj.snapshot v snap).claim := by
    rw [Obj.claim, Obj.claim, hsr]
  constructor
  · rintro ⟨o, ho, rfl⟩
    obtain rfl | ho := Dict.mem_keys_set.1 ho
    · exact ⟨_, hsnap, hclaim.symm⟩
    · exact ⟨o, (Dict.mem_keys_erase.1 ho).2, rfl⟩
  · rintro ⟨o, ho, rfl⟩
    by_cases heq : o = .snapshot v snap
    · subst heq
      exact ⟨_, Dict.mem_keys_set.2 (.inl rfl), hclaim⟩
    · exact ⟨o, Dict.mem_keys_set.2 (.inr (Dict.mem_keys_erase.2 ⟨heq, ho⟩)), rfl⟩

/-- A promotion leaves everything there. -/
theorem Host.promote_keeps (h : Host) (v w : Vol) (snap : String) :
    (h.promote v w snap).seen = h.seen ∧ ∀ c, (h.promote v w snap).Present c ↔ h.Present c := by
  rw [Host.promote]
  split
  · next stamp parent clone hstamp hparent hclone =>
    have hsnap := Dict.mem_keys_iff.2 ⟨stamp, hstamp⟩
    have hkeep : ∀ {u a}, h.objects.get? (.zvol u) = some a →
        .zvol u ∈ ((h.objects.erase (.snapshot v snap)).set (.snapshot w snap) stamp).keys :=
      fun hu => Dict.mem_keys_set.2 (.inr (Dict.mem_keys_erase.2 ⟨by simp, Dict.mem_keys_iff.2 ⟨_, hu⟩⟩))
    split
    · next hmove =>
      dsimp only
      split
      · refine ⟨rfl, fun c => (present_set ?_).trans ((present_set ?_).trans
          (present_move hmove.1 hsnap))⟩
        · exact Dict.mem_keys_set.2 (.inr (hkeep hparent))
        · exact hkeep hclone
      · exact ⟨rfl, fun c => present_move hmove.1 hsnap⟩
    · exact ⟨rfl, fun c => Iff.rfl⟩
  · exact ⟨rfl, fun c => Iff.rfl⟩

/-- **Every event keeps the invariant**, before the books are refreshed. -/
theorem Guarded.react {e : Event} (hg : Guarded E s) (htimely : Timely E s e)
    (hreact : s.react E e = some s') : Guarded E s' := by
  cases e with
  | start c =>
      cases hreact
      exact hg.start htimely
  | step i choice => exact hg.step htimely hreact
  | answer i =>
      simp only [System.react, Option.bind_eq_bind, Option.bind_eq_some_iff] at hreact
      obtain ⟨w, hw, hanswer⟩ := hreact
      split at hanswer
      · cases hanswer
      · next key hdone =>
        cases hanswer
        refine hg.answer hw fun claim hc => ?_
        obtain hc | hc := List.mem_append.1 hc
        · exact .inr ⟨hc, hg.present_of_returned (List.mem_of_getElem? hw) hdone hc⟩
        · exact .inl hc
      · cases hanswer
        exact hg.answer hw fun claim hc => .inl hc
  | tick seconds =>
      cases hreact
      exact hg.of_host hg.seen (List.Subset.refl _) (List.Subset.refl _) fun c hp => .inl hp
  | arrives o =>
      rw [System.react] at hreact
      split at hreact <;> cases hreact
      exact hg.of_host (hg.seen.make o none) (List.subset_cons_self ..) (List.Subset.refl _)
        fun c hp => .inl (hp.make o none)
  | destroyed o =>
      cases hreact
      refine hg.of_host (hg.seen.drop o) (List.Subset.refl _) (List.subset_cons_self ..) fun c hp => ?_
      by_cases hc : o.claim = c
      · exact .inr (hc ▸ List.mem_cons_self ..)
      · exact .inl (hp.drop hc)
  | promoted v w snap =>
      cases hreact
      obtain ⟨hseen, hpresent⟩ := s.host.promote_keeps v w snap
      refine hg.of_host ?_ (by rw [hseen]; exact List.Subset.refl _) (List.Subset.refl _)
        fun c hp => .inl ((hpresent c).2 hp)
      intro o ho
      obtain ⟨o', ho', heq⟩ := (hpresent o.claim).1 ⟨o, ho, rfl⟩
      rw [hseen, Obj.uuid, ← heq]
      exact hg.seen o' ho'
  | unregistered v =>
      cases hreact
      exact hg.of_host hg.seen (List.Subset.refl _) (List.Subset.refl _) fun c hp => .inl hp
  | recorded v =>
      cases hreact
      exact hg.of_host hg.seen (List.Subset.refl _) (List.Subset.refl _) fun c hp => .inl hp

/-! ### Runs -/

theorem Guarded.next {e : Event} (hg : Guarded E s) (htimely : Timely E s e)
    (hnext : s.next E e = some s') : Guarded E s' ∧ s'.Safe := by
  obtain ⟨s₁, hreact, rfl⟩ := Option.map_eq_some_iff.1 hnext
  exact (hg.react htimely hreact).refresh

theorem guarded_of_fresh (hs : s.Fresh) : Guarded E s := by
  obtain ⟨hcalls, hregistered, _, hseen⟩ := hs
  have hnone : ∀ w, w ∉ s.calls := fun w hw => by
    rw [hcalls] at hw
    cases hw
  have hnothing : ∀ c, c ∉ s.registered := fun c hc => by
    rw [hregistered] at hc
    cases hc
  exact ⟨hseen, fun w hw => absurd hw (hnone w), fun w hw => absurd hw (hnone w),
    fun i j w u _ hw => absurd (List.mem_of_getElem? hw) (hnone w), fun c hc => absurd hc (hnothing c),
    fun w hw => absurd hw (hnone w), fun w hw => absurd hw (hnone w), fun w hw => absurd hw (hnone w),
    fun c hc => absurd hc (hnothing c)⟩

/-- A timely run keeps the invariant. -/
theorem Guarded.run {es : List Event} (hg : Guarded E s) (hsafe : s.Safe) (htimely : TimelyRun E s es)
    (hrun : s.run E es = some s') : s'.Safe := by
  induction es generalizing s with
  | nil =>
      cases hrun
      exact hsafe
  | cons e es ih =>
      obtain ⟨s₁, hnext, hrun⟩ := Option.bind_eq_some_iff.1 hrun
      obtain ⟨hevent, hrest⟩ := htimely
      rw [hnext] at hrest
      obtain ⟨hg₁, hsafe₁⟩ := hg.next hevent hnext
      exact ih hg₁ hsafe₁ hrest hrun

/-- **What a call has registered is there as long as no `Volume.destroy` removes it**, in every
interleaving of sweeps with the calls that register VDIs in which the sweeps are timely: they read the
clock when nothing that they have found and is past the grace period belongs to a VDI that a call
registers or has registered, and what is imported is neither past it for a sweep at work nor being made
by a copy at work. -/
theorem safe_of_timely {es : List Event} (hs : s.Fresh) (htimely : TimelyRun E s es)
    (hrun : s.run E es = some s') : s'.Safe := by
  refine (guarded_of_fresh hs).run (fun c hc => ?_) htimely hrun
  rw [hs.2.1] at hc
  cases hc

/-- Two SRs on different pools, with one VDI. -/
def sampleEnv : Env where
  autoCleanup _ := true
  grace _ := 3600
  zpool := id
  uuid4 n := String.ofList (List.replicate (n + 1) 'u')

def sampleSystem : System where
  host :=
    { objects := (Dict.empty : Dict Obj Stamp).set (.zvol ⟨"a", "k"⟩) ⟨0, none⟩
      rows := [⟨"a", "k"⟩]
      seen := ["k"]
      now := 0 }
  calls := []
  registered := []
  removed := []

theorem fresh_sampleSystem : sampleSystem.Fresh := ⟨rfl, rfl, rfl, by decide⟩

/-- The VDI is copied, and the transfer takes some time.  A sweep reads the UUIDs and finds the copy before
it is registered; when the call has returned, the sweep reads the clock. -/
def sweptCopy (seconds : ℕ) : List Event :=
  [.start (.copy "a" "k" "b"), .step 0 1, .step 0 0, .step 0 1, .step 0 1, .step 0 1, .step 0 1,
    .step 0 1, .tick seconds, .step 0 2, .step 0 1, .step 0 1, .step 0 1,
    .start (.ls "b"), .step 1 1, .step 1 1, .step 1 0, .step 1 1, .step 1 1,
    .step 0 1, .step 0 1, .answer 0, .step 0 0]

/-- The transfer takes a minute, and the sweep spares the copy. -/
theorem safe_of_timely_minute :
    ∃ s', sampleSystem.run sampleEnv (sweptCopy 60) = some s' ∧ s'.registered ≠ [] ∧ s'.Safe := by
  have hsome : ((sampleSystem.run sampleEnv (sweptCopy 60)).any
      fun s' => s'.registered ≠ []) = true := by decide +kernel
  obtain ⟨s', hrun, hregistered⟩ := (Option.any_eq_true _ _).1 hsome
  exact ⟨s', hrun, of_decide_eq_true hregistered,
    safe_of_timely fresh_sampleSystem (by decide +kernel) hrun⟩

/-- **The transfer takes as long as the grace period**, and the sweep destroys what the call has
registered. -/
theorem not_safe_hour :
    ¬ ∀ (E : Env) (s s' : System) (es : List Event), s.Fresh → s.run E es = some s' → s'.Safe := by
  intro h
  have hsome : ((sampleSystem.run sampleEnv (sweptCopy 3600 ++ [.step 0 1])).any
      fun s' => s'.registered.any fun c => ¬ s'.host.Present c) = true := by decide +kernel
  obtain ⟨s', hrun, hlost⟩ := (Option.any_eq_true _ _).1 hsome
  obtain ⟨c, hc, habsent⟩ := List.any_eq_true.1 hlost
  exact of_decide_eq_true habsent (h sampleEnv sampleSystem s' _ fresh_sampleSystem hrun c hc)

end Registration

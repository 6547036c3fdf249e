/-
**Which bytes of an export the dirty-extent walk learns about.**

`ZfsLive/NbdClient.lean` translates the client.  This module settles what its result says about the
export.  The request cursor advances by the length that was asked for, while the descriptors of a
reply are placed from the request's offset on for as far as they reach; the protocol lets a server
describe less than was asked for, and then the rest of that request is never asked for again.

* `NbdClient.Consumes` — a client function that reads at least so many bytes when it returns, and is
  never stuck; `NbdClient.fetchDirtyExtents_ne_stuck` follows, so that the bound on the rounds of the
  modelled loops hides no run of the client;
* `NbdClient.Tiles` — the requests of a walk are consecutive and cover the export;
* `NbdClient.WalkComplete` — the descriptors give every byte a status, and the result is the bytes
  of status 1;
* `NbdClient.AnswersReach` — every request is answered to its end, by its own reply or by an earlier
  one;
* `NbdClient.fetchDirtyExtents_complete_iff` — **the walk is complete exactly when the answers
  reach**.
-/

import ZfsLive.NbdServer

set_option relaxedAutoImplicit false
set_option autoImplicit false

namespace NbdClient

open Bytes Loop

/-! ### No loop of the client runs out of rounds -/

/-- `m` is never stuck, and when it returns it has read at least `k` bytes. -/
structure Consumes (k : ℕ) {α : Type} (m : NbdM α) : Prop where
  ne_stuck : ∀ s s', m s ≠ .error .stuck s'
  le : ∀ s a s', m s = .ok a s' → s'.incoming.length + k ≤ s.incoming.length

namespace Consumes

variable {α β : Type} {j k : ℕ}

theorem mono {m : NbdM α} (h : Consumes k m) (hjk : j ≤ k) : Consumes j m :=
  ⟨h.ne_stuck, fun s a s' hs => by have := h.le s a s' hs; omega⟩

theorem pure (a : α) : Consumes 0 (Pure.pure a : NbdM α) := by
  refine ⟨fun s s' h => ?_, fun s b s' h => ?_⟩
  · cases h
  · cases h; simp

theorem raise (e : ProtocolError) : Consumes k (NbdClient.raise e : NbdM α) := by
  refine ⟨fun s s' h => ?_, fun s b s' h => ?_⟩ <;> cases h

theorem throw_struct : Consumes k (throw .struct : NbdM α) := by
  refine ⟨fun s s' h => ?_, fun s b s' h => ?_⟩ <;> cases h

theorem bind {m : NbdM α} {f : α → NbdM β} (hm : Consumes j m) (hf : ∀ a, Consumes k (f a)) :
    Consumes (j + k) (m >>= f) := by
  refine ⟨fun s s' h => ?_, fun s b s' h => ?_⟩
  · rcases bind_eq_error.1 h with h | ⟨a, s₁, _, h⟩
    · exact hm.ne_stuck s s' h
    · exact (hf a).ne_stuck s₁ s' h
  · obtain ⟨a, s₁, h₁, h₂⟩ := bind_eq_ok.1 h
    have := hm.le s a s₁ h₁
    have := (hf a).le s₁ b s' h₂
    omega

/-- A sequence reads at least what its first part reads. -/
theorem bind_left {m : NbdM α} {f : α → NbdM β} (hm : Consumes k m) (hf : ∀ a, Consumes 0 (f a)) :
    Consumes k (m >>= f) := hm.bind hf

/-- A sequence reads at least what its second part reads. -/
theorem bind_right {m : NbdM α} {f : α → NbdM β} (hm : Consumes 0 m) (hf : ∀ a, Consumes k (f a)) :
    Consumes k (m >>= f) := by
  have := hm.bind hf
  rwa [Nat.zero_add] at this

theorem ite {c : Prop} [Decidable c] {m n : NbdM α} (hm : Consumes k m) (hn : Consumes k n) :
    Consumes k (if c then m else n) := by
  split
  · exact hm
  · exact hn

theorem sendAll (data : List UInt8) : Consumes 0 (NbdClient.sendAll data) := by
  refine ⟨fun s s' h => ?_, fun s b s' h => ?_⟩
  · cases h
  · cases h; simp

theorem recvExact (n : ℕ) : Consumes n (NbdClient.recvExact n) := by
  refine ⟨fun s s' h => ?_, fun s a s' h => ?_⟩
  · rw [recvExact_eq] at h
    split at h <;> simp at h
  · rw [recvExact_eq] at h
    split at h
    · simp only [EStateM.Result.ok.injEq] at h
      rw [← h.2, Sock.incoming_advance, List.length_drop]
      omega
    · simp at h

theorem recvBody (n : ℕ) : Consumes 0 (NbdClient.recvBody n) :=
  ite ((recvExact n).mono (Nat.zero_le n)) (pure [])

theorem unpack (n : ℕ) (bs : List UInt8) : Consumes 0 (NbdClient.unpack n bs) :=
  ite (pure _) throw_struct

/-- A loop that has as many rounds as there are bytes left is not stuck when each round that goes
on reads a byte; when it returns it has read at least what its last round reads. -/
theorem loop {body : α → NbdM (α ⊕ β)} (hne : ∀ a s s', body a s ≠ .error .stuck s')
    (hnext : ∀ a s a' s', body a s = .ok (.inl a') s' → s'.incoming.length < s.incoming.length)
    (hdone : ∀ a s b s', body a s = .ok (.inr b) s' → s'.incoming.length + k ≤ s.incoming.length)
    (a : α) : Consumes k (do Loop.loop .stuck body (← rounds) a) := by
  have hrounds : ∀ s : Sock, rounds s = .ok (s.incoming.length + 1) s := fun _ => rfl
  refine ⟨fun s s' h => ?_, fun s b s' h => ?_⟩
  · rcases bind_eq_error.1 h with h | ⟨n, s₁, h₁, h⟩
    · rw [hrounds] at h; cases h
    · rw [hrounds] at h₁
      cases h₁
      exact loop_ne_stuck (fun _ s => s.incoming.length) (fun a s a' s' => hnext a s a' s') hne
        (Nat.lt_succ_self _) h
  · obtain ⟨n, s₁, h₁, h⟩ := bind_eq_ok.1 h
    rw [hrounds] at h₁
    cases h₁
    refine loop_spec (I := fun _ t => t.incoming.length ≤ s.incoming.length)
      (Q := fun _ t => t.incoming.length + k ≤ s.incoming.length) ?_ ?_ (Nat.le_refl _) h
    · intro a t a' t' hI hb
      have := hnext a t a' t' hb
      omega
    · intro a t b t' hI hb
      have := hdone a t b t' hb
      omega

/-- The loop rule for a body whose every round reads at least `k` bytes. -/
theorem loop_of_forall {body : α → NbdM (α ⊕ β)} (h : ∀ a, Consumes (k + 1) (body a)) (a : α) :
    Consumes (k + 1) (do Loop.loop .stuck body (← rounds) a) :=
  loop (fun a => (h a).ne_stuck) (fun a s a' s' hb => by have := (h a).le s _ s' hb; omega)
    (fun a s b s' hb => (h a).le s _ s' hb) a

end Consumes

theorem Consumes.raiseIf (c : Prop) [Decidable c] (e : ProtocolError) :
    Consumes 0 (NbdClient.raiseIf c e) := .ite (.raise e) (.pure ())

theorem consumes_handshake : Consumes 18 handshake := by
  refine .bind_left (.recvExact 18) fun hdr => ?_
  refine .bind_right (.raiseIf _ _) fun _ => .bind_right (.raiseIf _ _) fun _ => ?_
  exact .bind_right (.sendAll _) fun _ => .pure _

theorem consumes_recvOptionReply : Consumes 20 recvOptionReply := by
  refine .bind_left (.recvExact 20) fun hdr => .bind_right (.raiseIf _ _) fun _ => ?_
  exact .bind_right (.recvBody _) fun _ => .pure _

theorem consumes_optStructuredReply : Consumes 20 optStructuredReply := by
  refine .bind_right (.sendAll _) fun _ => .bind_left consumes_recvOptionReply fun r => ?_
  exact .raiseIf _ _

theorem consumes_metaContextRound (id : Option ℕ) : Consumes 20 (metaContextRound id) := by
  refine .bind_left consumes_recvOptionReply fun r => ?_
  refine .bind_right (.raiseIf _ _) fun _ => .bind_right (.raiseIf _ _) fun _ => ?_
  refine .ite (.bind_right (.unpack _ _) fun _ => .pure _) ?_
  exact .ite (.pure _) (.pure _)

theorem consumes_optSetMetaContext (name context : String) :
    Consumes 20 (optSetMetaContext name context) := by
  refine .bind_right (.sendAll _) fun _ => ?_
  have hloop : Consumes 20 (do loop .stuck metaContextRound (← rounds) none) :=
    .loop_of_forall consumes_metaContextRound none
  rw [← bind_assoc]
  refine hloop.bind_left fun id => ?_
  cases id with
  | none => exact .raise _
  | some id => exact .pure _

theorem consumes_optGoRound (size : Option ℕ) : Consumes 20 (optGoRound size) := by
  refine .bind_left consumes_recvOptionReply fun r => ?_
  refine .bind_right (.raiseIf _ _) fun _ => .bind_right (.raiseIf _ _) fun _ => ?_
  refine .ite (.bind_right (.unpack _ _) fun _ => ?_) (.ite (.pure _) (.pure _))
  exact .ite (.bind_right (.unpack _ _) fun _ => .pure _) (.pure _)

theorem consumes_optGo (name : String) : Consumes 20 (optGo name) := by
  refine .bind_right (.sendAll _) fun _ => ?_
  have hloop : Consumes 20 (do loop .stuck optGoRound (← rounds) none) :=
    .loop_of_forall consumes_optGoRound none
  rw [← bind_assoc]
  refine hloop.bind_left fun size => ?_
  cases size with
  | none => exact .raise _
  | some size => exact .pure _

theorem consumes_readStructuredChunk (handle : ℕ) : Consumes 20 (readStructuredChunk handle) := by
  refine .bind_left (.recvExact 20) fun hdr => ?_
  refine .bind_right (.raiseIf _ _) fun _ => .bind_right (.raiseIf _ _) fun _ => ?_
  exact .bind_right (.recvBody _) fun _ => .pure _

theorem consumes_unpackDescriptors (bs : List UInt8) : Consumes 0 (unpackDescriptors bs) := by
  induction bs using unpackDescriptors.induct with
  | case1 => exact .pure _
  | case2 a b c d e f g h rest ih => exact .bind_right ih fun _ => .pure _
  | case3 bs hnil hcons => rw [unpackDescriptors]; exacts [.throw_struct, hnil, hcons]

theorem consumes_chunkDescriptors (id ctype : ℕ) (body : List UInt8) :
    Consumes 0 (chunkDescriptors id ctype body) := by
  refine .ite (.pure _) (.ite (.bind_right (.unpack _ _) fun _ => .raise _) (.ite (.pure _) ?_))
  refine .bind_right (.unpack _ _) fun _ => .ite (.pure _) ?_
  exact consumes_unpackDescriptors _

theorem consumes_chunkRound (id handle : ℕ) (ds : List Descriptor) :
    Consumes 20 (chunkRound id handle ds) := by
  refine .bind_left (consumes_readStructuredChunk handle) fun r => ?_
  exact .bind_right (consumes_chunkDescriptors _ _ _) fun _ => .pure _

/-- The reply to one request. -/
theorem consumes_reply (id handle : ℕ) :
    Consumes 20 (do loop .stuck (chunkRound id handle) (← rounds) []) :=
  .loop_of_forall (consumes_chunkRound id handle) []

/-! ### The rounds of the walk -/

/-- The request the walk makes next. -/
def nextLength (export_size chunk_size : ℕ) (w : Walk) : ℕ := min chunk_size (export_size - w.offset)

/-- What a round of the walk can do: send the next request and keep the descriptors of its reply, or
stop at the end of the export. -/
theorem requestRound_ok {id size chunk : ℕ} {w : Walk} {s s' : Sock} {r : Walk ⊕ List Reply}
    (h : requestRound id size chunk w s = .ok r s') :
    (w.offset < size ∧ s'.incoming.length + 20 ≤ s.incoming.length ∧
        ∃ ds, r = .inl ⟨w.handle + 1, w.offset + nextLength size chunk w,
          w.replies ++ [⟨w.offset, nextLength size chunk w, ds⟩]⟩) ∨
      (size ≤ w.offset ∧ s' = s ∧ r = .inr w.replies) := by
  rw [requestRound] at h
  split at h
  · rename_i hlt
    obtain ⟨_, s₁, hs₁, h⟩ := bind_eq_ok.1 h
    rw [← bind_assoc] at h
    obtain ⟨ds, s₂, hs₂, h⟩ := bind_eq_ok.1 h
    have h₁ := (Consumes.sendAll _).le s _ s₁ hs₁
    have h₂ := (consumes_reply id w.handle).le s₁ ds s₂ hs₂
    cases h
    exact Or.inl ⟨hlt, by omega, ds, rfl⟩
  · rename_i hge
    cases h
    exact Or.inr ⟨by omega, rfl, rfl⟩

theorem requestRound_ne_stuck (id size chunk : ℕ) (w : Walk) (s s' : Sock) :
    requestRound id size chunk w s ≠ .error .stuck s' := by
  rw [requestRound]
  split
  · intro h
    rcases bind_eq_error.1 h with h | ⟨_, s₁, _, h⟩
    · exact (Consumes.sendAll _).ne_stuck s s' h
    · rw [← bind_assoc] at h
      rcases bind_eq_error.1 h with h | ⟨_, s₂, _, h⟩
      · exact (consumes_reply id w.handle).ne_stuck s₁ s' h
      · cases h
  · intro h; cases h

theorem consumes_walkBlockStatus (id size chunk : ℕ) : Consumes 0 (walkBlockStatus id size chunk) := by
  refine .loop (requestRound_ne_stuck id size chunk) ?_ ?_ _
  · intro w s w' s' h
    rcases requestRound_ok h with ⟨_, hlt, _⟩ | ⟨_, _, h⟩
    · omega
    · cases h
  · intro w s rs s' h
    rcases requestRound_ok h with ⟨_, _, _, h⟩ | ⟨_, rfl, _⟩
    · cases h
    · simp

theorem consumes_session (name context : String) : Consumes 0 (session name context) := by
  refine .bind_right (consumes_handshake.mono (by omega)) fun _ => ?_
  refine .bind_right (consumes_optStructuredReply.mono (by omega)) fun _ => ?_
  refine .bind_right ((consumes_optSetMetaContext name context).mono (by omega)) fun id => ?_
  refine .bind_right ((consumes_optGo name).mono (by omega)) fun size => ?_
  exact .bind_right (consumes_walkBlockStatus _ _ _) fun _ => .pure _

/-- **No run of the client ends because the model ran out of rounds.** -/
theorem fetchDirtyExtents_ne_stuck (name context : String) (s s' : Sock) :
    fetchDirtyExtents name context s ≠ .error .stuck s' :=
  (Consumes.bind_right (consumes_session name context) fun _ => .pure _).ne_stuck s s'

/-! ### The requests tile the export -/

/-- The requests `rs` are non-empty, consecutive, and lead from `a` to `b`. -/
def Tiles (a : ℕ) : List Reply → ℕ → Prop
  | [], b => a = b
  | r :: rs, b => r.offset = a ∧ 0 < r.length ∧ Tiles (a + r.length) rs b

theorem Tiles.snoc {rs : List Reply} {a b : ℕ} (h : Tiles a rs b) {r : Reply} (hr : r.offset = b)
    (hpos : 0 < r.length) : Tiles a (rs ++ [r]) (b + r.length) := by
  induction rs generalizing a with
  | nil =>
      obtain rfl : a = b := h
      exact ⟨hr, hpos, rfl⟩
  | cons r₀ rs ih => exact ⟨h.1, h.2.1, ih h.2.2⟩

theorem Tiles.le {rs : List Reply} {a b : ℕ} (h : Tiles a rs b) : a ≤ b := by
  induction rs generalizing a with
  | nil => exact Nat.le_of_eq h
  | cons r rs ih => have := ih h.2.2; omega

theorem Tiles.offset_ge {rs : List Reply} {a b : ℕ} (h : Tiles a rs b) {r : Reply} (hr : r ∈ rs) :
    a ≤ r.offset := by
  induction rs generalizing a with
  | nil => simp at hr
  | cons r₀ rs ih =>
      rcases List.mem_cons.1 hr with rfl | hr
      · exact Nat.le_of_eq h.1.symm
      · have := ih h.2.2 hr; omega

theorem Tiles.length_pos {rs : List Reply} {a b : ℕ} (h : Tiles a rs b) {r : Reply} (hr : r ∈ rs) :
    0 < r.length := by
  induction rs generalizing a with
  | nil => simp at hr
  | cons r₀ rs ih =>
      rcases List.mem_cons.1 hr with rfl | hr
      · exact h.2.1
      · exact ih h.2.2 hr

theorem Tiles.end_le {rs : List Reply} {a b : ℕ} (h : Tiles a rs b) {r : Reply} (hr : r ∈ rs) :
    r.offset + r.length ≤ b := by
  induction rs generalizing a with
  | nil => simp at hr
  | cons r₀ rs ih =>
      rcases List.mem_cons.1 hr with rfl | hr
      · have := h.1; have := h.2.2.le; omega
      · exact ih h.2.2 hr

/-- Every byte between the ends lies in a request. -/
theorem Tiles.exists_request {rs : List Reply} {a b : ℕ} (h : Tiles a rs b) {x : ℕ} (ha : a ≤ x)
    (hb : x < b) : ∃ r ∈ rs, r.offset ≤ x ∧ x < r.offset + r.length := by
  induction rs generalizing a with
  | nil =>
      obtain rfl : a = b := h
      omega
  | cons r rs ih =>
      by_cases hx : x < a + r.length
      · exact ⟨r, List.mem_cons_self .., by have := h.1; omega, by have := h.1; omega⟩
      · obtain ⟨r', hr', h'⟩ := ih h.2.2 (by omega)
        exact ⟨r', List.mem_cons_of_mem _ hr', h'⟩

/-- A request that starts before another one ends does not start after it. -/
theorem Tiles.offset_le {rs : List Reply} {a b : ℕ} (h : Tiles a rs b) {r r' : Reply} (hr : r ∈ rs)
    (hr' : r' ∈ rs) (hlt : r'.offset < r.offset + r.length) : r'.offset ≤ r.offset := by
  induction rs generalizing a with
  | nil => simp at hr
  | cons r₀ rs ih =>
      have h₀ := h.1
      rcases List.mem_cons.1 hr, List.mem_cons.1 hr' with ⟨rfl | hr₁, rfl | hr₂⟩
      · exact Nat.le_refl _
      · have := h.2.2.offset_ge hr₂; omega
      · have := h.2.2.offset_ge hr₁; omega
      · exact ih h.2.2 hr₁ hr₂

/-- **The requests of a walk tile the export.** -/
theorem walkBlockStatus_tiles {id size chunk : ℕ} (hchunk : 0 < chunk) {s s' : Sock}
    {rs : List Reply} (h : walkBlockStatus id size chunk s = .ok rs s') : Tiles 0 rs size := by
  obtain ⟨n, s₁, _, h⟩ := bind_eq_ok.1 h
  refine loop_spec (I := fun w _ => Tiles 0 w.replies w.offset ∧ w.offset ≤ size)
    (Q := fun rs _ => Tiles 0 rs size) ?_ ?_ ?_ h
  · intro w t w' t' hI hb
    rcases requestRound_ok hb with ⟨hlt, _, ds, hr⟩ | ⟨_, _, hr⟩
    · cases hr
      have hle : w.offset + nextLength size chunk w ≤ size := by rw [nextLength]; omega
      have hpos : 0 < nextLength size chunk w := by rw [nextLength]; omega
      exact ⟨hI.1.snoc (r := ⟨_, _, ds⟩) rfl hpos, hle⟩
    · cases hr
  · intro w t rs t' hI hb
    rcases requestRound_ok hb with ⟨_, _, _, hr⟩ | ⟨hge, _, hr⟩
    · cases hr
    · cases hr
      have hend : w.offset = size := by omega
      exact hend ▸ hI.1
  · exact ⟨rfl, Nat.zero_le _⟩

/-! ### What the descriptors cover -/

/-- The byte `b` lies in the extent. -/
def Extent.Covers (x : Extent) (b : ℕ) : Prop := x.offset ≤ b ∧ b < x.offset + x.length

/-- The number of bytes the reply described, from its request's offset on. -/
def Reply.described (r : Reply) : ℕ := (r.descriptors.map Descriptor.ext_len).sum

/-- The placed descriptors cover exactly the described bytes. -/
theorem exists_mem_place (cur : ℕ) (ds : List Descriptor) (b : ℕ) :
    (∃ x ∈ place cur ds, x.Covers b) ↔ cur ≤ b ∧ b < cur + (ds.map Descriptor.ext_len).sum := by
  induction ds generalizing cur with
  | nil => simp [place]
  | cons d ds ih =>
      simp only [place, List.mem_cons, exists_eq_or_imp, ih, List.map_cons, List.sum_cons]
      simp only [Extent.Covers]
      omega

theorem exists_mem_yields (rs : List Reply) (b : ℕ) :
    (∃ x ∈ yields rs, x.Covers b) ↔ ∃ r ∈ rs, r.offset ≤ b ∧ b < r.offset + r.described := by
  constructor
  · rintro ⟨x, hx, hb⟩
    obtain ⟨r, hr, hx⟩ := List.mem_flatMap.1 hx
    exact ⟨r, hr, (exists_mem_place _ _ b).1 ⟨x, hx, hb⟩⟩
  · rintro ⟨r, hr, hb⟩
    obtain ⟨x, hx, hb⟩ := (exists_mem_place _ _ b).2 hb
    exact ⟨x, List.mem_flatMap.2 ⟨r, hr, hx⟩, hb⟩

/-- The bytes of the dirty extents are those with a descriptor of status 1. -/
theorem exists_mem_dirtyExtents (rs : List Reply) (b : ℕ) :
    (∃ e ∈ dirtyExtents rs, e.1 ≤ b ∧ b < e.1 + e.2) ↔
      ∃ x ∈ yields rs, x.Covers b ∧ x.status = 1 := by
  simp only [dirtyExtents, List.mem_map, List.mem_filter, decide_eq_true_eq, Extent.Covers]
  constructor
  · rintro ⟨e, ⟨x, ⟨hx, h1⟩, rfl⟩, hb⟩
    exact ⟨x, hx, hb, h1⟩
  · rintro ⟨x, hx, hb, h1⟩
    exact ⟨_, ⟨x, ⟨hx, h1⟩, rfl⟩, hb⟩

/-- The result tells the whole export: the descriptors give a status to every byte of it, and a byte
lies in a returned extent exactly when some descriptor that covers it has status 1. -/
structure WalkComplete (export_size : ℕ) (replies : List Reply) (extents : List (ℕ × ℕ)) : Prop where
  status : ∀ b < export_size, ∃ x ∈ yields replies, x.Covers b
  dirty : ∀ b, (∃ e ∈ extents, e.1 ≤ b ∧ b < e.1 + e.2) ↔
    ∃ x ∈ yields replies, x.Covers b ∧ x.status = 1

/-- Every request is answered to its end: the descriptors of its own reply, or those of the reply to
an earlier request, reach the last byte that was asked for. -/
def AnswersReach (replies : List Reply) : Prop :=
  ∀ r ∈ replies, ∃ r' ∈ replies,
    r'.offset ≤ r.offset ∧ r.offset + r.length ≤ r'.offset + r'.described

theorem walkComplete_iff {size : ℕ} {rs : List Reply} (ht : Tiles 0 rs size) :
    WalkComplete size rs (dirtyExtents rs) ↔ AnswersReach rs := by
  constructor
  · intro h r hr
    have hpos := ht.length_pos hr
    -- the last byte of the request is covered, by a reply that starts no later
    have hlast : r.offset + r.length - 1 < size := by have := ht.end_le hr; omega
    obtain ⟨r', hr', hle, hlt⟩ := (exists_mem_yields rs _).1 (h.status _ hlast)
    exact ⟨r', hr', ht.offset_le hr hr' (by omega), by omega⟩
  · intro h
    refine ⟨fun b hb => ?_, exists_mem_dirtyExtents rs⟩
    obtain ⟨r, hr, hle, hlt⟩ := ht.exists_request (Nat.zero_le b) hb
    obtain ⟨r', hr', hoff, hreach⟩ := h r hr
    exact (exists_mem_yields rs b).2 ⟨r', hr', by omega, by omega⟩

/-- The result of a connection is the dirty extents of its walk, and the requests of the walk tile
the export. -/
theorem fetchDirtyExtents_ok {name context : String} {s s' : Sock} {extents : List (ℕ × ℕ)}
    (h : fetchDirtyExtents name context s = .ok extents s') :
    ∃ size rs, session name context s = .ok (size, rs) s' ∧ extents = dirtyExtents rs ∧
      Tiles 0 rs size := by
  obtain ⟨⟨size, rs⟩, s₁, hs, h⟩ := bind_eq_ok.1 h
  cases h
  refine ⟨size, rs, hs, rfl, ?_⟩
  obtain ⟨_, _, _, hs⟩ := bind_eq_ok.1 hs
  obtain ⟨_, _, _, hs⟩ := bind_eq_ok.1 hs
  obtain ⟨_, _, _, hs⟩ := bind_eq_ok.1 hs
  obtain ⟨_, _, _, hs⟩ := bind_eq_ok.1 hs
  obtain ⟨_, _, hw, hs⟩ := bind_eq_ok.1 hs
  cases hs
  exact walkBlockStatus_tiles (by decide) hw

/-- **The walk is complete exactly when the answers reach**: for every byte stream and every
connection that returns a list, the list tells the whole export if and only if every request was
answered to its end. -/
theorem fetchDirtyExtents_complete_iff {name context : String} {s s' : Sock}
    {extents : List (ℕ × ℕ)} (h : fetchDirtyExtents name context s = .ok extents s') :
    ∃ size replies, session name context s = .ok (size, replies) s' ∧
      (WalkComplete size replies extents ↔ AnswersReach replies) := by
  obtain ⟨size, rs, hs, rfl, ht⟩ := fetchDirtyExtents_ok h
  exact ⟨size, rs, hs, walkComplete_iff ht⟩

/-- The value a run returns, if it returns one. -/
def value? {α : Type} : EStateM.Result NbdError Sock α → Option α
  | .ok a _ => some a
  | .error _ _ => none

theorem exists_ok_of_value {α : Type} {r : EStateM.Result NbdError Sock α} {a : α}
    (h : value? r = some a) : ∃ s', r = .ok a s' := by
  rcases r with ⟨b, s'⟩ | ⟨e, s'⟩
  · obtain rfl : b = a := by simpa [value?] using h
    exact ⟨s', rfl⟩
  · simp [value?] at h

/-- A server that describes all of a 128 KiB export: the first half clean, the second half dirty. -/
theorem fetchDirtyExtents_complete_iff_full :
    ∃ s', fetchDirtyExtents "cbt" "qemu:dirty-bitmap:cbt"
        (NbdServer.connection 1 131072 [[⟨65536, 0⟩, ⟨65536, 1⟩]]) = .ok [(65536, 65536)] s' ∧
      ∃ size replies, session "cbt" "qemu:dirty-bitmap:cbt"
        (NbdServer.connection 1 131072 [[⟨65536, 0⟩, ⟨65536, 1⟩]]) = .ok (size, replies) s' ∧
        (WalkComplete size replies [(65536, 65536)] ↔ AnswersReach replies) := by
  obtain ⟨s', h⟩ : ∃ s', fetchDirtyExtents "cbt" "qemu:dirty-bitmap:cbt"
      (NbdServer.connection 1 131072 [[⟨65536, 0⟩, ⟨65536, 1⟩]]) = .ok [(65536, 65536)] s' :=
    exists_ok_of_value (by decide +kernel)
  exact ⟨s', h, fetchDirtyExtents_complete_iff h⟩

/-- A server that describes only the first half of the 128 KiB it was asked for: the client returns a
list without having learnt the status of the byte 65536. -/
theorem not_walkComplete_short_reply :
    ∃ s' replies, session "cbt" "qemu:dirty-bitmap:cbt"
        (NbdServer.connection 1 131072 [[⟨65536, 0⟩]]) = .ok (131072, replies) s' ∧
      fetchDirtyExtents "cbt" "qemu:dirty-bitmap:cbt"
        (NbdServer.connection 1 131072 [[⟨65536, 0⟩]]) = .ok [] s' ∧
      ¬ WalkComplete 131072 replies [] := by
  obtain ⟨s', h⟩ : ∃ s', session "cbt" "qemu:dirty-bitmap:cbt"
      (NbdServer.connection 1 131072 [[⟨65536, 0⟩]]) =
        .ok (131072, [⟨0, 131072, [⟨65536, 0⟩]⟩]) s' := exists_ok_of_value (by decide +kernel)
  refine ⟨s', _, h, bind_eq_ok.2 ⟨_, s', h, rfl⟩, fun hw => ?_⟩
  obtain ⟨x, hx, hle, hlt⟩ := hw.status 65536 (by decide)
  obtain rfl : x = ⟨0, 65536, 0⟩ := by simpa [yields, place] using hx
  simp at hlt

end NbdClient

/-
**The changed blocks of a volume, from the servers to the bit string** (`src/volume/volume.py`,
`src/datapath/cbt_consumer.py`, `src/datapath/nbd_client.py`).

`ZfsLive/ChangedBlocks.lean` leaves open what the NBD servers answer, and `ZfsLive/NbdExchange.lean` says
what the client makes of a server that keeps to the protocol.  Here the two are put together: the fetch of
a bitmap is a run of the client over the connection to its socket.

Main definitions:

* `ChangedBlocks.fetchOver`, `ChangedBlocks.overNbd` — the host with its connections;
* `ChangedBlocks.Served` — a bitmap behind an honest server.

Main results:

* `ChangedBlocks.listChangedBlocks_served` — **the report sets the bit of a block exactly when a byte of it
  is dirty** in a bitmap that is served.
-/

import ZfsLive.ChangedBlocks
import ZfsLive.NbdExchange

set_option relaxedAutoImplicit false
set_option autoImplicit false

namespace ChangedBlocks

open NbdClient NbdServer

/-! ### Fetching over a connection -/

/-- `fetch_dirty_extents`: what a client finds at a socket that asks for an export and a context, or `None`
when it cannot connect. -/
def fetchOver (connect : String → String → String → Option Sock)
    (socket export_name bitmap_context : String) : Except CbtError (List (ℕ × ℕ)) :=
  match connect socket export_name bitmap_context with
  | none => .error .nbd
  | some s =>
      match fetchDirtyExtents export_name bitmap_context s with
      | .ok extents _ => .ok extents
      | .error _ _ => .error .nbd

/-- The host with the modules of the datapath plugin. -/
def overNbd (load : String → String → Except CbtError (Option Persisted))
    (connect : String → String → String → Option Sock) : CbtEnv where
  importable := true
  load := load
  fetch := fetchOver connect

/-- **The bitmap is served**: its descriptor is complete, and the server behind it keeps to the protocol and
is honest about the dirty bytes. -/
def Served (connect : String → String → String → Option Sock) (single : Single)
    (dirty : ℕ → Prop) : Prop :=
  ∃ (payload : BitmapPayload) (socket export_name bitmap_context : String) (s : Sock) (S : Server)
    (rest : List UInt8), single = .dict payload ∧
      payload.nbd_export = some ⟨some socket, some export_name, some bitmap_context⟩ ∧
      connect socket export_name bitmap_context = some s ∧ s.incoming = S.stream ++ rest ∧
      S.Conforms ∧ S.Honest dirty

section

variable {load : String → String → Except CbtError (Option Persisted)}
  {connect : String → String → String → Option Sock} {single : Single} {dirty : ℕ → Prop}

/-- The answer of a bitmap that is served marks its dirty bytes. -/
theorem Served.answer (load : String → String → Except CbtError (Option Persisted))
    (h : Served connect single dirty) :
    ∃ extents, answer (overNbd load connect) single = some extents ∧
      ∀ x, Marks extents x ↔ dirty x := by
  obtain ⟨payload, socket, export_name, context, s, S, rest, rfl, hnbd, hconnect, hs, hS, hhonest⟩ := h
  obtain ⟨s', hrun, -, -⟩ := exists_fetchDirtyExtents hS export_name context hs
  refine ⟨dirtyExtents S.replies, ?_, marks_replies hhonest⟩
  have hfetch : fetchOver connect socket export_name context = .ok (dirtyExtents S.replies) := by
    rw [fetchOver, hconnect]
    simp only [hrun]
  have hextract : extractDirtyExtents (overNbd load connect) (.dict payload) =
      .ok (dirtyExtents S.replies) := by
    rw [extractDirtyExtents, hnbd]
    exact hfetch
  rw [ChangedBlocks.answer, hextract, if_pos ⟨rfl, by rw [hnbd]; rfl⟩]
  rfl

/-- **From the servers to the bit string**: where each bitmap of the volume is served, or does not answer,
the call returns, and sets the bit of a block exactly when the block has a byte that is dirty in a bitmap
that is served. -/
theorem listChangedBlocks_served {sr key key2 : String} {multi : Dict String Single}
    {dirtyIn : String → ℕ → Prop}
    (hload : load ("file://" ++ sr) key2 = .ok (some (.dict multi)))
    (hserved : ∀ item ∈ multi.items, Served connect item.2 (dirtyIn item.1) ∨
      ChangedBlocks.answer (overNbd load connect) item.2 = none) (offset length : ℕ) :
    ∃ r, listChangedBlocks (overNbd load connect) sr key key2 offset length = .ok r ∧
      r.granularity = maxGranularity multi.values ∧
      ∀ b, r.test b = true ↔ b < nblocks offset length r.granularity ∧
        ∃ item ∈ multi.items, Served connect item.2 (dirtyIn item.1) ∧
          ∃ x, dirtyIn item.1 x ∧ InBlock offset r.granularity b x := by
  obtain ⟨r, hr, hg, hbits⟩ := @listChangedBlocks_spec (overNbd load connect) sr key key2 multi hload
    offset length
  refine ⟨r, hr, hg.trans (if_pos rfl), fun b => ?_⟩
  rw [hbits b]
  refine and_congr_right fun _ => exists_congr fun item => and_congr_right fun hitem => ?_
  constructor
  · rintro ⟨extents, ha, x, hx, hblock⟩
    obtain hs | hnone := hserved item hitem
    · obtain ⟨extents', ha', hmarks⟩ := hs.answer load
      obtain rfl := Option.some.inj (ha.symm.trans ha')
      exact ⟨hs, x, (hmarks x).1 hx, hblock⟩
    · rw [hnone] at ha
      cases ha
  · rintro ⟨hs, x, hx, hblock⟩
    obtain ⟨extents, ha, hmarks⟩ := hs.answer load
    exact ⟨extents, ha, x, (hmarks x).2 hx, hblock⟩

end

/-- The bitmaps of a volume: one is served, and the socket of the other is dead. -/
def twoBitmaps : Dict String Single := ⟨[savedBitmap "cbt-active" "live", savedBitmap "cbt-old" "dead"],
  by decide⟩

/-- The second of the two blocks has changed. -/
theorem listChangedBlocks_served_twoBlocks : ∃ r,
    listChangedBlocks (overNbd (fun _ _ => .ok (some (.dict twoBitmaps)))
      fun socket _ _ => if socket = "live" then some ⟨twoBlocks.stream, 0, fun _ => 1, []⟩ else none)
      "sr" "old" "new" 0 131072 = .ok r ∧ r.test 1 = true ∧ r.test 0 = false := by
  have hserved : ∀ item ∈ twoBitmaps.items, Served
        (fun socket _ _ => if socket = "live" then some ⟨twoBlocks.stream, 0, fun _ => 1, []⟩ else none)
        item.2 (fun b => 65536 ≤ b ∧ b < 131072) ∨
      answer (overNbd (fun _ _ => .ok (some (.dict twoBitmaps))) fun socket _ _ =>
        if socket = "live" then some ⟨twoBlocks.stream, 0, fun _ => 1, []⟩ else none) item.2 = none := by
    intro item hitem
    obtain rfl | hitem := List.mem_cons.1 hitem
    · exact .inl ⟨_, "live", "vdi", "cbt-active", _, twoBlocks, [], rfl, rfl, rfl,
        (List.append_nil _).symm, conforms_twoBlocks, honest_twoBlocks⟩
    · obtain rfl := List.mem_singleton.1 hitem
      exact .inr rfl
  obtain ⟨r, hr, hg, hbits⟩ := @listChangedBlocks_served (fun _ _ => .ok (some (.dict twoBitmaps))) _
    "sr" "old" "new" twoBitmaps (fun _ b => 65536 ≤ b ∧ b < 131072) rfl hserved 0 131072
  have hgran : maxGranularity twoBitmaps.values = 65536 := by decide
  rw [hg, hgran] at hbits
  refine ⟨r, hr, (hbits 1).2 ⟨by decide, _, List.mem_cons_self, ?_, 65536, by decide, rfl⟩, ?_⟩
  · exact ⟨_, "live", "vdi", "cbt-active", _, twoBlocks, [], rfl, rfl, rfl,
      (List.append_nil _).symm, conforms_twoBlocks, honest_twoBlocks⟩
  · rw [← Bool.not_eq_true, hbits 0]
    rintro ⟨-, item, -, -, x, hx, hblock⟩
    rw [InBlock] at hblock
    omega

end ChangedBlocks

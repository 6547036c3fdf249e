/-
**The container of the bitmaps, saved and set up again.**

A deactivation saves a description of every tracking bitmap that it can export, and an activation sets up
a bitmap for every description that it finds.  In between, the process may have been replaced by one
without bitmaps.  The two hooks agree on the names by a prefix, on the file by a key that older revisions
did not use, and on the granularity by what the description says.

Main definitions:

* `Cbt.exportedOnDeactivate` — the bitmaps whose export succeeds in a deactivation;
* `Cbt.RoundTrip` — the new process has a bitmap for each of them, and no other.

Main results:

* `Cbt.get?_exportEach` — what the loop of the deactivation collects;
* `Cbt.sameGrain_exportBitmap` — a deactivation changes no granularity, whatever fails;
* `Cbt.dirties_activate` — an activation marks nothing but what the guest writes meanwhile;
* `Cbt.roundTrip` — **the bitmaps come back**.
-/

import ZfsLive.CbtCycles
import ZfsLive.CbtFailing

set_option relaxedAutoImplicit false
set_option autoImplicit false

namespace Cbt

open Qemu ChangedBlocks Wp

/-! ### What is exported -/

/-- The bitmap of this name on the node in hand. -/
def Host.bitmap (h : Host) (qd : QemuDisk) (name : String) : Option Bitmap :=
  (h.processes.get? qd.qmp_sock).bind fun p => bitmapOf p qd.block_node_name name

/-- The bitmaps that the loop of `_cbt_persist_on_deactivate` exports, with their descriptions: those
whose `export_bitmap` raises are left out. -/
def exported (E : Env) (qd : QemuDisk) : List String → Host → List (String × BitmapPayload)
  | [], _ => []
  | name :: names, h =>
      match exportBitmap E qd name h with
      | .ok payload h' => (name, payload) :: exported E qd names h'
      | .error _ h' => exported E qd names h'

/-- The bitmaps whose export succeeds in a deactivation. -/
def exportedOnDeactivate (E : Env) (device_path : String) (h : Host) : List String :=
  match findQemu E device_path h with
  | .ok (some qd) h₁ =>
      match cbtListBitmaps E qd h₁, resolveSrUri E device_path with
      | .ok all_bitmaps h₂, some sr_uri =>
          let h₃ := after (migrateQuietly E sr_uri (E.deviceKey device_path)
            (vdiUuidFromDevicePath device_path)) h₂
          (exported E qd (all_bitmaps.keys.filter isPersistentTrackingBitmap) h₃).map Prod.fst
      | _, _ => []
  | _ => []

/-- The commands that the exports of a deactivation issue, by their positions in the run: those between the
migration and the saving of the file. -/
def exporting (E : Env) (device_path : String) (h : Host) (n : ℕ) : Bool :=
  match findQemu E device_path h with
  | .ok (some qd) h₁ =>
      match cbtListBitmaps E qd h₁, resolveSrUri E device_path with
      | .ok all_bitmaps h₂, some sr_uri =>
          let h₃ := after (migrateQuietly E sr_uri (E.deviceKey device_path)
            (vdiUuidFromDevicePath device_path)) h₂
          let names := all_bitmaps.keys.filter isPersistentTrackingBitmap
          h₃.clock ≤ n ∧ n < (after (exportEach E qd names Dict.empty) h₃).clock
      | _, _ => false
  | _ => false

/-- The new process has an empty bitmap that records for each of the bitmaps, with its granularity, and
no other; only what the guest writes meanwhile is marked.  The descriptions are in the file of the VDI,
and nothing is left under the key of older revisions. -/
structure RoundTrip (E : Env) (device_path sr_uri : String) (qd : QemuDisk) (names : List String)
    (granularity : String → Option ℕ) (h h' : Host) : Prop where
  bitmaps : ∃ bs nbd exports, h'.On qd bs nbd exports ∧
    ∀ name, shape bs name = if name ∈ names then (granularity name).map (·, true) else none
  empty : ∃ news, h'.trace = news ++ h.trace ∧ ∀ name b, h'.bitmap qd name = some b →
    ∀ k ∈ b.dirty, Touched (written qd news) b.granularity k
  file : ∃ payload, h'.pickles.get? (sr_uri, vdiUuidFromDevicePath device_path) =
    some (some (.dict payload)) ∧ ∀ name, name ∈ payload.keys ↔ name ∈ names
  legacy : h'.pickles.get? (sr_uri, E.deviceKey device_path) = none

variable {E : Env} {h h' : Host} {d sr_uri : String} {qd : QemuDisk} {bs : Bitmaps}
  {nbd : Option String} {exports : Dict String Export} {α : Type}

/-! ### One command, however it ends -/

/-- What a command does to the trace, to the files and to its process, however it ends. -/
theorem after_qmpCommand (E : Env) (s : String) (c : Command) (h : Host) :
    (after (qmpCommand E s c) h).trace = E.news h.clock [.command s c] ++ h.trace ∧
      (after (qmpCommand E s c) h).pickles = h.pickles ∧
      ((after (qmpCommand E s c) h).processes.get? s = (h.next E).processes.get? s ∨
        ∃ p p', (h.next E).processes.get? s = some p ∧ p.exec c = .ok p' ∧
          (after (qmpCommand E s c) h).processes.get? s = some p') := by
  have htrace : Event.command s c :: (h.next E).trace = E.news h.clock [.command s c] ++ h.trace := by
    rw [Env.news, Host.next, (foldl_guestWrite (s := s) (E.writes h.clock) h).2.2.2.2]
    rfl
  have hpickles := pickles_next E h
  rw [after, qmpCommand]
  split
  · next hres =>
    split at hres
    · cases hres
    · split at hres
      · cases hres
      · next p hp =>
        split at hres <;> cases hres
        next hexec =>
        exact ⟨htrace, hpickles, .inr ⟨p, _, hp, hexec, (Dict.get?_set ..).trans (if_pos rfl)⟩⟩
  · next hres =>
    split at hres
    · cases hres
      split
      · obtain ⟨ht, _, hpk, _⟩ := execute_frame
          { h.next E with trace := .command s c :: (h.next E).trace } s c
        refine ⟨ht.trans htrace, hpk.trans hpickles, ?_⟩
        rw [Host.execute]
        split
        · exact .inl rfl
        · next p hp =>
          split
          · exact .inl rfl
          · next p' hexec => exact .inr ⟨p, p', hp, hexec, (Dict.get?_set ..).trans (if_pos rfl)⟩
      · exact ⟨htrace, hpickles, .inl rfl⟩
    · split at hres
      · cases hres
        exact ⟨htrace, hpickles, .inl rfl⟩
      · split at hres <;> cases hres
        exact ⟨htrace, hpickles, .inl rfl⟩

/-- A change of the files, however it ends, changes no process. -/
theorem after_fileCommand {f : Host → Except QmpError (α × Host)}
    (hf : ∀ h a h', f h = .ok (a, h') → h'.trace = h.trace ∧ h'.processes = h.processes) (h : Host) :
    (after (fileCommand E f) h).trace = E.news h.clock [] ++ h.trace ∧
      (after (fileCommand E f) h).processes = (h.next E).processes := by
  have htrace : (h.next E).trace = E.news h.clock [] ++ h.trace := by
    rw [Env.news, Host.next, (foldl_guestWrite (s := "") (E.writes h.clock) h).2.2.2.2]
    rfl
  rw [after, fileCommand]
  split
  · next hres =>
    split at hres
    · cases hres
    · split at hres
      · cases hres
      · next hok =>
        cases hres
        obtain ⟨ht, hp⟩ := hf _ _ _ hok
        exact ⟨ht.trans htrace, hp⟩
  · next hres =>
    split at hres
    · cases hres
      exact ⟨htrace, rfl⟩
    · split at hres
      · cases hres
        exact ⟨htrace, rfl⟩
      · cases hres

/-- The bitmaps of the node in hand when the next command starts. -/
theorem bitmap_next (E : Env) (h : Host) (qd : QemuDisk) (name : String) :
    (h.next E).bitmap qd name = (h.bitmap qd name).map fun b => b.recordAll (E.reach qd h.clock) := by
  rw [Host.bitmap, Host.bitmap, get?_next]
  rcases h.processes.get? qd.qmp_sock with _ | p
  · rfl
  · exact bitmapOf_arrive ..

/-! ### Granularities -/

/-- The granularity of a bitmap of the node in hand. -/
def Host.grain (h : Host) (qd : QemuDisk) (name : String) : Option ℕ :=
  (h.bitmap qd name).map Bitmap.granularity

/-- The node in hand has the same bitmaps, with the same granularities. -/
def SameGrain (qd : QemuDisk) (h h' : Host) : Prop := ∀ name, h'.grain qd name = h.grain qd name

instance (qd : QemuDisk) : Std.Refl (SameGrain qd) := ⟨fun _ _ => rfl⟩

instance (qd : QemuDisk) : IsTrans Host (SameGrain qd) :=
  ⟨fun _ _ _ h h' name => (h' name).trans (h name)⟩

/-- The command keeps the granularities of a node. -/
def KeepsGrain (node : String) (c : Command) : Prop :=
  ∀ p p' : Process, p.exec c = .ok p' → ∀ name, (bitmapOf p' node name).map Bitmap.granularity =
    (bitmapOf p node name).map Bitmap.granularity

theorem sameGrain_next (E : Env) (qd : QemuDisk) (h : Host) : SameGrain qd h (h.next E) := by
  intro name
  rw [Host.grain, bitmap_next, Host.grain, Option.map_map]
  exact congrArg (Option.map · _) (funext fun b => b.granularity_recordAll _)

theorem sameGrain_qmpCommand {c : Command} (hc : KeepsGrain qd.block_node_name c) :
    Preserves (SameGrain qd) (qmpCommand E qd.qmp_sock c) := by
  intro h
  refine trans_of (SameGrain qd) (sameGrain_next E qd h) fun name => ?_
  rw [Host.grain, Host.grain, Host.bitmap, Host.bitmap]
  rcases (after_qmpCommand E qd.qmp_sock c h).2.2 with heq | ⟨p, p', hp, hexec, hp'⟩
  · rw [heq]
  · rw [hp, hp']
    exact hc p p' hexec name

theorem sameGrain_fileCommand {f : Host → Except QmpError (α × Host)}
    (hf : ∀ h a h', f h = .ok (a, h') → h'.trace = h.trace ∧ h'.processes = h.processes) :
    Preserves (SameGrain qd) (fileCommand E f) := by
  intro h
  refine trans_of (SameGrain qd) (sameGrain_next E qd h) fun name => ?_
  rw [Host.grain, Host.grain, Host.bitmap, Host.bitmap, (after_fileCommand hf h).2]

theorem keepsGrain_queryNamedBlockNodes (node : String) :
    KeepsGrain node .queryNamedBlockNodes := by
  intro p p' hexec name
  cases hexec
  rfl

theorem keepsGrain_bitmapDisable (node name : String) :
    KeepsGrain node (.bitmapDisable node name) := by
  intro p p' hexec n
  simp only [Process.exec, Process.onNode] at hexec
  split at hexec
  · cases hexec
  · next bs hbs =>
    rw [onBitmap] at hexec
    split at hexec
    · next bs' hok =>
      cases hexec
      rw [bitmapOf_set, bitmapOf, hbs]
      split at hok
      · cases hok
      · next b hb =>
        cases hok
        rw [Dict.get?_set]
        split
        · next hn =>
          rw [hn, Option.bind_some, hb]
          rfl
        · rfl
    · cases hexec

theorem keepsGrain_nbdServerStart (node path : String) :
    KeepsGrain node (.nbdServerStart path) := by
  intro p p' hexec name
  simp only [Process.exec] at hexec
  split at hexec <;> cases hexec
  rfl

theorem keepsGrain_nbdServerAdd (node device name bitmap : String) :
    KeepsGrain node (.nbdServerAdd device name bitmap) := by
  intro p p' hexec n
  simp only [Process.exec] at hexec
  split at hexec
  · cases hexec
  · split at hexec
    · cases hexec
    · split at hexec
      · cases hexec
      · split at hexec <;> cases hexec
        rfl

theorem sameGrain_bitmapDisable (E : Env) (qd : QemuDisk) (name : String) :
    Preserves (SameGrain qd) (cbtBitmapDisable E qd name) :=
  .bind (sameGrain_qmpCommand (keepsGrain_bitmapDisable _ _)) fun _ => .pure _

theorem sameGrain_cbtListBitmaps (E : Env) (qd : QemuDisk) :
    Preserves (SameGrain qd) (cbtListBitmaps E qd) :=
  .bind (sameGrain_qmpCommand (keepsGrain_queryNamedBlockNodes _)) fun _ => .pure _

theorem sameGrain_cbtExportBitmap (E : Env) (qd : QemuDisk) (name : String) :
    Preserves (SameGrain qd) (cbtExportBitmap E qd name) := by
  refine .bind (.get_bind fun h => ?_) fun _ =>
    .bind (sameGrain_qmpCommand (keepsGrain_nbdServerAdd _ _ _ _)) fun _ => .pure _
  have hstart : Preserves (SameGrain qd) (startNbdServer E qd) := by
    refine .tryCatch (.bind (sameGrain_qmpCommand (keepsGrain_nbdServerStart _ _)) fun _ => .pure _)
      fun e => ?_
    split
    · exact .pure _
    · exact .throw _
  split
  · exact fun _ => rfl
  · refine Preserves.bind hstart (fun _ => .modify ?_) h
    exact fun _ _ => rfl

/-- **A deactivation changes no granularity**, whatever fails. -/
theorem sameGrain_exportBitmap (E : Env) (qd : QemuDisk) (name : String) :
    Preserves (SameGrain qd) (exportBitmap E qd name) := by
  refine .bind (sameGrain_bitmapDisable E qd name) fun _ =>
    .bind (sameGrain_cbtListBitmaps E qd) fun bitmaps => ?_
  split
  · exact .throw _
  · exact .bind (sameGrain_cbtExportBitmap E qd name) fun _ => .pure _

/-! ### What the loop collects -/

/-- The description tells the granularity of the bitmap. -/
def Describes (h : Host) (qd : QemuDisk) (name : String) (payload : BitmapPayload) : Prop :=
  ∃ g : ℕ, 0 < g ∧ payload.granularity = some (g : ℤ) ∧ h.grain qd name = some g

theorem qmpCommand_ok {s : String} {c : Command} {p : Process}
    (hok : qmpCommand E s c h = .ok p h') : h'.processes.get? s = some p := by
  rw [qmpCommand] at hok
  split at hok
  · cases hok
  · split at hok
    · cases hok
    · split at hok <;> cases hok
      exact (Dict.get?_set ..).trans (if_pos rfl)

/-- The list of the bitmaps is that of the node. -/
theorem get?_cbtListBitmaps {bitmaps : Bitmaps} (hok : cbtListBitmaps E qd h = .ok bitmaps h')
    (name : String) : bitmaps.get? name = h'.bitmap qd name := by
  rcases hcommand : qmpCommand E qd.qmp_sock .queryNamedBlockNodes h with ⟨p, h₁⟩ | ⟨e, h₁⟩
  · have hlist : cbtListBitmaps E qd h = .ok (p.bitmaps qd.block_node_name) h₁ := bind_ok hcommand
    cases hlist.symm.trans hok
    rw [Host.bitmap, qmpCommand_ok hcommand, Process.bitmaps, Option.bind_some, bitmapOf]
    rcases p.nodes.get? qd.block_node_name with _ | bs
    · rfl
    · rfl
  · have hlist : cbtListBitmaps E qd h = .error e h₁ := bind_error hcommand
    cases hlist.symm.trans hok

/-- What is exported of a bitmap is described with its granularity. -/
theorem describes_exportBitmap (E : Env) (qd : QemuDisk) (name : String) (h : Host) :
    wp (exportBitmap E qd name) (fun payload _ => Describes h qd name payload) (fun _ _ => True)
      h := by
  rw [exportBitmap, wp_bind]
  refine wp_mono ((sameGrain_bitmapDisable E qd name).wp h) (fun _ h₁ hgrain₁ => ?_)
    fun _ _ _ => trivial
  have hgrain₂ := sameGrain_cbtListBitmaps E qd h₁
  rw [wp_bind]
  rcases hlist : cbtListBitmaps E qd h₁ with ⟨bitmaps, h₂⟩ | ⟨e, h₂⟩
  · rw [wp_of_ok hlist]
    rw [after_of_ok hlist] at hgrain₂
    have hget := get?_cbtListBitmaps hlist name
    cases hinfo : bitmaps.get? name with
    | none => trivial
    | some info =>
        rw [hinfo] at hget
        have hgrain : h.grain qd name = some info.granularity := by
          rw [← hgrain₁ name, ← hgrain₂ name, Host.grain, ← hget]
          rfl
        dsimp only
        rw [wp_bind]
        refine wp_mono (wp_true _ _) (fun _ _ _ => ?_) fun _ _ _ => trivial
        exact ⟨info.granularity, info.granularity_pos, rfl, hgrain⟩
  · rw [wp_of_error hlist]
    trivial

section

variable {l : List (String × BitmapPayload)} {acc : Dict String Single} {name : String}

/-- The dictionary with these entries written one after the other. -/
def collect (acc : Dict String Single) (l : List (String × BitmapPayload)) : Dict String Single :=
  l.foldl (fun payload e => payload.set e.1 (.dict e.2)) acc

theorem get?_collect_of_not_mem (hname : name ∉ l.map Prod.fst) :
    (collect acc l).get? name = acc.get? name := by
  induction l generalizing acc with
  | nil => rfl
  | cons e l ih =>
      rw [List.map_cons, List.mem_cons, not_or] at hname
      rw [collect, List.foldl_cons, ← collect, ih hname.2, Dict.get?_set, if_neg hname.1]

theorem get?_collect_of_mem (hnodup : (l.map Prod.fst).Nodup) {payload : BitmapPayload}
    (hmem : (name, payload) ∈ l) : (collect acc l).get? name = some (.dict payload) := by
  induction l generalizing acc with
  | nil => cases hmem
  | cons e l ih =>
      rw [List.map_cons, List.nodup_cons] at hnodup
      rw [collect, List.foldl_cons, ← collect]
      rcases List.mem_cons.1 hmem with rfl | hmem
      · rw [get?_collect_of_not_mem hnodup.1, Dict.get?_set, if_pos rfl]
      · exact ih hnodup.2 hmem

end

/-- The loop returns, and collects what is exported. -/
theorem exportEach_eq (E : Env) (qd : QemuDisk) (names : List String) (acc : Dict String Single)
    (h : Host) :
    ∃ h', exportEach E qd names acc h = .ok (collect acc (exported E qd names h)) h' := by
  induction names generalizing acc h with
  | nil => exact ⟨h, rfl⟩
  | cons name names ih =>
      rw [exportEach, exported]
      rcases hexport : exportBitmap E qd name h with ⟨payload, h₁⟩ | ⟨e, h₁⟩
      · obtain ⟨h', hrest⟩ := ih (acc.set name (.dict payload)) h₁
        exact ⟨h', (bind_ok (tryCatch_ok (map_ok hexport))).trans hrest⟩
      · obtain ⟨h', hrest⟩ := ih acc h₁
        refine ⟨h', (bind_ok (a := none) ?_).trans hrest⟩
        exact tryCatch_error (map_error hexport)

/-- **What is exported**: tracking bitmaps of the node, each once, described with their granularity. -/
theorem exported_spec (E : Env) (qd : QemuDisk) {names : List String} (hnames : names.Nodup)
    (h : Host) :
    (∀ e ∈ exported E qd names h, e.1 ∈ names ∧ Describes h qd e.1 e.2) ∧
      ((exported E qd names h).map Prod.fst).Nodup := by
  induction names generalizing h with
  | nil => exact ⟨fun e he => (List.not_mem_nil he).elim, List.nodup_nil⟩
  | cons name names ih =>
      rw [List.nodup_cons] at hnames
      have hgrain := sameGrain_exportBitmap E qd name h
      have hsame {n : String} {payload : BitmapPayload}
          (hd : Describes (after (exportBitmap E qd name) h) qd n payload) :
          Describes h qd n payload := by
        rw [Describes, hgrain n] at hd
        exact hd
      rw [exported]
      rcases hexport : exportBitmap E qd name h with ⟨payload, h₁⟩ | ⟨e, h₁⟩
      · rw [after_of_ok hexport] at hsame
        obtain ⟨hall, hnodup⟩ := ih hnames.2 h₁
        refine ⟨fun e he => ?_, ?_⟩
        · rcases List.mem_cons.1 he with rfl | he
          · exact ⟨.head _, (wp_of_ok hexport).1 (describes_exportBitmap E qd name h)⟩
          · exact ⟨.tail _ (hall e he).1, hsame (hall e he).2⟩
        · rw [List.map_cons, List.nodup_cons]
          refine ⟨fun hmem => ?_, hnodup⟩
          obtain ⟨e, he, heq⟩ := List.mem_map.1 hmem
          exact hnames.1 (heq.subst (hall e he).1)
      · rw [after_of_error hexport] at hsame
        obtain ⟨hall, hnodup⟩ := ih hnames.2 h₁
        exact ⟨fun e he => ⟨.tail _ (hall e he).1, hsame (hall e he).2⟩, hnodup⟩

/-! ### What an activation marks -/

/-- A dirty block of the node in hand was dirty before, or was written since. -/
def Dirties (qd : QemuDisk) (h h' : Host) : Prop :=
  ∃ news, h'.trace = news ++ h.trace ∧ ∀ name b', h'.bitmap qd name = some b' → ∀ k ∈ b'.dirty,
    (∃ b, h.bitmap qd name = some b ∧ b.granularity = b'.granularity ∧ k ∈ b.dirty) ∨
      Touched (written qd news) b'.granularity k

instance (qd : QemuDisk) : Std.Refl (Dirties qd) :=
  ⟨fun _ => ⟨[], rfl, fun _ b' hb' _ hk => .inl ⟨b', hb', rfl, hk⟩⟩⟩

instance (qd : QemuDisk) : IsTrans Host (Dirties qd) := by
  refine ⟨fun h₁ h₂ h₃ h h' => ?_⟩
  obtain ⟨news, ht, hmarks⟩ := h
  obtain ⟨news', ht', hmarks'⟩ := h'
  refine ⟨news' ++ news, by rw [ht', ht, List.append_assoc], fun name b'' hb'' k hk => ?_⟩
  rw [written_append, touched_append]
  rcases hmarks' name b'' hb'' k hk with ⟨b', hb', hg', hk'⟩ | hnew
  · rcases hmarks name b' hb' k hk' with ⟨b, hb, hg, hk''⟩ | hold
    · exact .inl ⟨b, hb, hg.trans hg', hk''⟩
    · exact .inr (.inl (hg' ▸ hold))
  · exact .inr (.inr hnew)

/-- The command marks no block of a node. -/
def MarksNothing (node : String) (c : Command) : Prop :=
  ∀ p p' : Process, p.exec c = .ok p' → ∀ name b', bitmapOf p' node name = some b' →
    ∀ k ∈ b'.dirty, ∃ b, bitmapOf p node name = some b ∧ b.granularity = b'.granularity ∧ k ∈ b.dirty

/-- What the guest writes before a command is marked. -/
theorem bitmap_next_dirty {name : String} {b' : Bitmap} (hb' : (h.next E).bitmap qd name = some b')
    {k : ℕ} (hk : k ∈ b'.dirty) :
    (∃ b, h.bitmap qd name = some b ∧ b.granularity = b'.granularity ∧ k ∈ b.dirty) ∨
      Touched (E.reach qd h.clock) b'.granularity k := by
  rw [bitmap_next] at hb'
  obtain ⟨b, hb, rfl⟩ := Option.map_eq_some_iff.1 hb'
  rw [Bitmap.granularity_recordAll]
  rcases Bitmap.mem_dirty_recordAll.1 hk with hold | ⟨_, hnew⟩
  · exact .inl ⟨b, hb, rfl, hold⟩
  · exact .inr hnew

theorem dirties_qmpCommand {c : Command} (hc : MarksNothing qd.block_node_name c) :
    Preserves (Dirties qd) (qmpCommand E qd.qmp_sock c) := by
  intro h
  obtain ⟨ht, -, hprocess⟩ := after_qmpCommand E qd.qmp_sock c h
  refine ⟨_, ht, fun name b' hb' k hk => ?_⟩
  rw [written_news]
  rcases hprocess with heq | ⟨p, p', hp, hexec, hp'⟩
  · rw [Host.bitmap, heq] at hb'
    exact bitmap_next_dirty hb' hk
  · rw [Host.bitmap, hp'] at hb'
    obtain ⟨b, hb, hg, hkb⟩ := hc p p' hexec name b' hb' k hk
    have hnext : (h.next E).bitmap qd name = some b := by
      rw [Host.bitmap, hp]
      exact hb
    rw [← hg]
    exact bitmap_next_dirty hnext hkb

theorem dirties_fileCommand {f : Host → Except QmpError (α × Host)}
    (hf : ∀ h a h', f h = .ok (a, h') → h'.trace = h.trace ∧ h'.processes = h.processes) :
    Preserves (Dirties qd) (fileCommand E f) := by
  intro h
  obtain ⟨ht, hprocess⟩ := after_fileCommand hf h
  refine ⟨_, ht, fun name b' hb' k hk => ?_⟩
  rw [written_news_nil]
  rw [Host.bitmap, hprocess] at hb'
  exact bitmap_next_dirty hb' hk

theorem marksNothing_queryNamedBlockNodes (node : String) :
    MarksNothing node .queryNamedBlockNodes := by
  intro p p' hexec name b' hb' k hk
  cases hexec
  exact ⟨b', hb', rfl, hk⟩

theorem marksNothing_bitmapAdd (node name : String) (granularity : ℕ) :
    MarksNothing node (.bitmapAdd node name granularity) := by
  intro p p' hexec n b' hb' k hk
  simp only [Process.exec, Process.onNode] at hexec
  split at hexec
  · cases hexec
  · next bs hbs =>
    split at hexec
    · next bs' hadd =>
      cases hexec
      obtain ⟨_, hg, rfl⟩ := of_addBitmap_ok hadd
      rw [bitmapOf_set, Dict.get?_set] at hb'
      split at hb'
      · cases hb'
        cases hk
      · refine ⟨b', ?_, rfl, hk⟩
        rw [bitmapOf, hbs]
        exact hb'
    · cases hexec

theorem marksNothing_bitmapRemove (node name : String) :
    MarksNothing node (.bitmapRemove node name) := by
  intro p p' hexec n b' hb' k hk
  simp only [Process.exec, Process.onNode] at hexec
  split at hexec
  · cases hexec
  · next bs hbs =>
    rw [removeBitmap] at hexec
    split at hexec
    · next bs' hremove =>
      cases hexec
      split at hremove <;> cases hremove
      rw [bitmapOf_set, Dict.get?_erase] at hb'
      split at hb'
      · cases hb'
      · refine ⟨b', ?_, rfl, hk⟩
        rw [bitmapOf, hbs]
        exact hb'
    · cases hexec

theorem dirties_prepareBitmapFromPayload (E : Env) (qd : QemuDisk) (name : String)
    (payload : Single) : Preserves (Dirties qd) (prepareBitmapFromPayload E qd name payload) := by
  cases payload with
  | other => exact .throw _
  | dict payload =>
      refine .bind (.bind (dirties_qmpCommand (marksNothing_queryNamedBlockNodes _)) fun _ =>
        .pure _) fun bitmaps => .ite (fun _ => .pure _) fun _ => ?_
      refine .bind ?_ fun _ =>
        .bind (dirties_qmpCommand (marksNothing_bitmapAdd _ _ _)) fun _ => .pure _
      cases bitmaps.get? name with
      | none => exact .pure _
      | some info =>
          exact .bind (dirties_qmpCommand (marksNothing_bitmapRemove _ _)) fun _ => .pure _

theorem dirties_prepareEach (E : Env) (qd : QemuDisk) (items : List (String × Single)) :
    Preserves (Dirties qd) (prepareEach E qd items) := by
  induction items with
  | nil => exact .pure _
  | cons item items ih =>
      refine .bind (.ite (fun _ => ?_) fun _ => .pure _) fun _ => ih
      exact .tryCatch (dirties_prepareBitmapFromPayload E qd item.1 item.2) fun _ => .pure _

/-- The process of a registered daemon. -/
theorem findQemu_registered (hreg : h.registry.get? (E.deviceKey d) = some qd) :
    findQemu E d h = .ok (some qd) { h with nbd_server_running := true } := by
  have hload : loadMetadata (E.deviceKey d) h = .ok (some qd) h := by rw [← hreg]; rfl
  rw [findQemu, bind_ok hload]
  rfl

theorem preserves_migrateQuietly {R : Host → Host → Prop} [Std.Refl R] [IsTrans Host R]
    (hR : ∀ {α : Type} {f : Host → Except QmpError (α × Host)},
      (∀ h a h', f h = .ok (a, h') → h'.trace = h.trace ∧ h'.processes = h.processes) →
      Preserves R (fileCommand E f)) (sr_uri legacy_key new_key : String) :
    Preserves R (migrateQuietly E sr_uri legacy_key new_key) := by
  refine .tryCatch (hR fun h a h' hok => ?_) fun _ => .pure _
  cases hok
  exact ⟨rfl, rfl⟩

theorem dirties_loadCbtMetadata (E : Env) (qd : QemuDisk) (sr_uri key : String) :
    Preserves (Dirties qd) (loadCbtMetadata E sr_uri key) := by
  refine dirties_fileCommand fun h a h' hok => ?_
  split at hok <;> cases hok <;> exact ⟨rfl, rfl⟩

/-- **An activation marks nothing but what the guest writes meanwhile.** -/
theorem dirties_activate (hreg : h.registry.get? (E.deviceKey d) = some qd) :
    Dirties qd h (after (activate E d) h) := by
  rw [activate, cbtRestoreOnActivate, after_hook (findQemu_registered hreg)]
  have hstart : Dirties qd h { h with nbd_server_running := true } :=
    ⟨[], rfl, fun _ b' hb' _ hk => .inl ⟨b', hb', rfl, hk⟩⟩
  refine trans_of (Dirties qd) hstart ?_
  dsimp only
  cases resolveSrUri E d with
  | none => exact refl_of (Dirties qd) _
  | some sr_uri =>
      refine Preserves.bind (preserves_migrateQuietly dirties_fileCommand _ _ _) (fun _ => ?_) _
      refine .bind (dirties_loadCbtMetadata E qd sr_uri _) fun data => ?_
      rcases data with _ | ⟨payload⟩ | _
      · exact .pure _
      · exact dirties_prepareEach E qd payload.items
      · exact .pure _

/-! ### What a deactivation saves -/

theorem saveCbtMetadata_ok {key : String} {data : Dict String Single}
    (hok : saveCbtMetadata E sr_uri key data h = .ok () h') :
    h'.pickles.get? (sr_uri, key) = some (some (.dict data)) := by
  rw [saveCbtMetadata, fileCommand] at hok
  split at hok
  · cases hok
  · cases hok
    exact (Dict.get?_set ..).trans (if_pos rfl)

theorem migrateQuietly_returns (E : Env) (sr_uri legacy_key new_key : String) (h : Host) :
    ∃ h', migrateQuietly E sr_uri legacy_key new_key h = .ok () h' := by
  have hwp : wp (migrateQuietly E sr_uri legacy_key new_key) (fun _ _ => True) (fun _ _ => False)
      h := by
    rw [migrateQuietly, wp_tryCatch]
    exact wp_mono (wp_true _ _) (fun _ _ _ => trivial) fun _ _ _ => trivial
  obtain ⟨_, h', hok, _⟩ := exists_ok_of_wp hwp
  exact ⟨h', hok⟩

/-- A process that is alive lists its bitmaps. -/
theorem exists_cbtListBitmaps (hfault : E.fault h.clock = false)
    (halive : h.processes.get? qd.qmp_sock ≠ none) :
    ∃ bitmaps h', cbtListBitmaps E qd h = .ok bitmaps h' := by
  obtain ⟨p, hp⟩ := Option.ne_none_iff_exists'.1 halive
  have hwp : wp (cbtListBitmaps E qd) (fun _ _ => True) (fun _ _ => False) h := by
    rw [cbtListBitmaps, wp_bind]
    exact wp_qmpCommand hfault hp rfl fun _ _ _ _ _ => trivial
  obtain ⟨bitmaps, h', hok, _⟩ := exists_ok_of_wp hwp
  exact ⟨bitmaps, h', hok⟩

theorem returns_saveCbtMetadata {key : String} {data : Dict String Single}
    (hfault : E.fault h.clock = false) : returns (saveCbtMetadata E sr_uri key data) h = true := by
  simp only [returns, saveCbtMetadata, fileCommand, hfault, Bool.false_eq_true, if_false]

/-- **A deactivation in which nothing fails but exports** returns: the bitmaps are listed before them, and
the file is saved after them. -/
theorem returns_persist (hsr : resolveSrUri E d = some sr_uri)
    (hreg : h.registry.get? (E.deviceKey d) = some qd)
    (halive : h.processes.get? qd.qmp_sock ≠ none)
    (hfault : ∀ n, E.fault n = true → exporting E d h n = true) :
    returns (cbtPersistOnDeactivate E d) h = true := by
  have hfind := findQemu_registered hreg
  rcases hlist : cbtListBitmaps E qd { h with nbd_server_running := true } with
    ⟨all_bitmaps, h₂⟩ | ⟨e, h₂⟩
  swap
  · -- no export is reached, so that no command fails
    have hnone : E.fault h.clock = false := by
      by_contra hn
      have hexporting := hfault _ (Bool.eq_true_of_not_eq_false hn)
      simp [exporting, hfind, hlist] at hexporting
    obtain ⟨bitmaps, h', hok⟩ : ∃ bitmaps h',
        cbtListBitmaps E qd { h with nbd_server_running := true } = .ok bitmaps h' :=
      exists_cbtListBitmaps hnone halive
    cases hlist.symm.trans hok
  obtain ⟨h₃, hmigrate⟩ := migrateQuietly_returns E sr_uri (E.deviceKey d)
    (vdiUuidFromDevicePath d) h₂
  obtain ⟨h₄, hexport⟩ := exportEach_eq E qd (all_bitmaps.keys.filter isPersistentTrackingBitmap)
    Dict.empty h₃
  have hsaving : E.fault h₄.clock = false := by
    by_contra hn
    have hexporting := hfault _ (Bool.eq_true_of_not_eq_false hn)
    simp [exporting, hfind, hlist, hsr, after_of_ok hmigrate, after_of_ok hexport] at hexporting
  have hpersist : returns (persistBitmaps E qd d sr_uri
      (all_bitmaps.keys.filter isPersistentTrackingBitmap)) h₂ = true := by
    rw [returns, persistBitmaps, bind_ok hmigrate, bind_ok hexport]
    by_cases hempty : (collect Dict.empty (exported E qd
        (all_bitmaps.keys.filter isPersistentTrackingBitmap) h₃)).items.isEmpty = true
    · rw [if_pos hempty]
      rfl
    · rw [if_neg hempty]
      exact returns_saveCbtMetadata hsaving
  cases hnames : all_bitmaps.keys.filter isPersistentTrackingBitmap with
  | nil =>
      have hrun : cbtPersistOnDeactivate E d h = .ok () h₂ := by
        rw [cbtPersistOnDeactivate, bind_ok hfind]
        refine (bind_ok hlist).trans ?_
        rw [hnames]
        rfl
      rw [returns, hrun]
  | cons n names =>
      have hrun : cbtPersistOnDeactivate E d h = persistBitmaps E qd d sr_uri (n :: names) h₂ := by
        rw [cbtPersistOnDeactivate, bind_ok hfind]
        refine (bind_ok hlist).trans ?_
        rw [hsr, hnames]
      rw [hnames] at hpersist
      rwa [returns, hrun]

/-- The file that a deactivation saves: a description of each bitmap that was exported, and of no
other. -/
structure Saved (E : Env) (d sr_uri : String) (qd : QemuDisk) (h h' : Host)
    (payload : Dict String Single) : Prop where
  file : h'.pickles.get? (sr_uri, vdiUuidFromDevicePath d) = some (some (.dict payload))
  exported : ∀ name ∈ exportedOnDeactivate E d h, isPersistentTrackingBitmap name = true ∧
    ∃ p, payload.get? name = some (.dict p) ∧ Describes h qd name p
  other : ∀ name, name ∉ exportedOnDeactivate E d h → payload.get? name = none

/-- A hook that returns has listed the bitmaps: those that it exports are some of the tracking bitmaps
`names`, in the state `h₃` after the old file was moved. -/
theorem persist_reaches (hsr : resolveSrUri E d = some sr_uri)
    (hreg : h.registry.get? (E.deviceKey d) = some qd)
    (hreturns : returns (cbtPersistOnDeactivate E d) h = true) :
    ∃ names h₂ h₃, names.Nodup ∧ (∀ n ∈ names, isPersistentTrackingBitmap n = true) ∧
      migrateQuietly E sr_uri (E.deviceKey d) (vdiUuidFromDevicePath d) h₂ = .ok () h₃ ∧
      SameGrain qd h h₃ ∧
      exportedOnDeactivate E d h = (exported E qd names h₃).map Prod.fst ∧
      (names ≠ [] → cbtPersistOnDeactivate E d h = persistBitmaps E qd d sr_uri names h₂) := by
  have hfind := findQemu_registered hreg
  have hstart : SameGrain qd h { h with nbd_server_running := true } := fun _ => rfl
  have hgrain₂ := sameGrain_cbtListBitmaps E qd { h with nbd_server_running := true }
  rcases hlist : cbtListBitmaps E qd { h with nbd_server_running := true } with
    ⟨all_bitmaps, h₂⟩ | ⟨e, h₂⟩
  swap
  · -- a list that fails ends the hook
    have hraise : cbtPersistOnDeactivate E d h = .error e h₂ := by
      rw [cbtPersistOnDeactivate, bind_ok hfind]
      exact bind_error hlist
    rw [returns, hraise] at hreturns
    cases hreturns
  rw [after_of_ok hlist] at hgrain₂
  obtain ⟨h₃, hmigrate⟩ := migrateQuietly_returns E sr_uri (E.deviceKey d)
    (vdiUuidFromDevicePath d) h₂
  have hgrain₃ := preserves_migrateQuietly (E := E) (R := SameGrain qd) sameGrain_fileCommand sr_uri
    (E.deviceKey d) (vdiUuidFromDevicePath d) h₂
  rw [after_of_ok hmigrate] at hgrain₃
  have hgrain : SameGrain qd h h₃ := trans_of (SameGrain qd) hstart
    (trans_of (SameGrain qd) hgrain₂ hgrain₃)
  have hlisted : exportedOnDeactivate E d h =
      (exported E qd (all_bitmaps.keys.filter isPersistentTrackingBitmap) h₃).map Prod.fst := by
    rw [exportedOnDeactivate, hfind]
    simp only [hlist, hsr, after_of_ok hmigrate]
  have hnames : (all_bitmaps.keys.filter isPersistentTrackingBitmap).Nodup :=
    all_bitmaps.distinct.filter _
  have htracking : ∀ n ∈ all_bitmaps.keys.filter isPersistentTrackingBitmap,
      isPersistentTrackingBitmap n = true := fun n hn => (List.mem_filter.1 hn).2
  refine ⟨_, h₂, h₃, hnames, htracking, hmigrate, hgrain, hlisted, fun hne => ?_⟩
  rw [cbtPersistOnDeactivate, bind_ok hfind]
  refine (bind_ok hlist).trans ?_
  rw [hsr]
  cases hfilter : all_bitmaps.keys.filter isPersistentTrackingBitmap with
  | nil => exact absurd hfilter hne
  | cons n names => rfl

/-- **What a deactivation saves**, where nothing but exports fails. -/
theorem deactivate_saved (hsr : resolveSrUri E d = some sr_uri)
    (hreg : h.registry.get? (E.deviceKey d) = some qd)
    (hreturns : returns (cbtPersistOnDeactivate E d) h = true)
    (hsome : exportedOnDeactivate E d h ≠ []) :
    ∃ payload, Saved E d sr_uri qd h (after (deactivate E d) h) payload := by
  obtain ⟨names, h₂, h₃, hnames, htracking, hmigrate, hgrain, hlisted, hook⟩ :=
    persist_reaches hsr hreg hreturns
  obtain ⟨hspec, hnodup⟩ := exported_spec E qd hnames h₃
  obtain ⟨h₄, hexport⟩ := exportEach_eq E qd names Dict.empty h₃
  rw [hlisted] at hsome
  -- there is something to save
  obtain ⟨⟨name, p⟩, rest, hcons⟩ : ∃ e rest, exported E qd names h₃ = e :: rest :=
    List.exists_cons_of_ne_nil fun hnil => hsome (by rw [hnil]; rfl)
  have hsaved : (collect Dict.empty (exported E qd names h₃)).get? name = some (.dict p) :=
    get?_collect_of_mem hnodup (by rw [hcons]; exact .head _)
  have hfull : (collect Dict.empty (exported E qd names h₃)).items.isEmpty = false := by
    rw [List.isEmpty_eq_false_iff]
    exact List.ne_nil_of_mem (Dict.get?_eq_some_iff.1 hsaved)
  have hpersist : cbtPersistOnDeactivate E d h = saveCbtMetadata E sr_uri (vdiUuidFromDevicePath d)
      (collect Dict.empty (exported E qd names h₃)) h₄ := by
    have hne : names ≠ [] := by
      rintro rfl
      cases hcons
    rw [hook hne, persistBitmaps, bind_ok hmigrate, bind_ok hexport, hfull,
      if_neg Bool.false_ne_true]
  have hafter : after (deactivate E d) h = after (cbtPersistOnDeactivate E d) h := by
    rw [deactivate, quietly, after_of_ok (tryCatch_ok (ok_after hreturns))]
  have hok := ok_after hreturns
  rw [hpersist] at hok
  refine ⟨collect Dict.empty (exported E qd names h₃), ?_, fun n hn => ?_, fun n hn => ?_⟩
  · rw [hafter]
    exact saveCbtMetadata_ok hok
  · rw [hlisted] at hn
    obtain ⟨⟨n, payload⟩, hmem, rfl⟩ := List.mem_map.1 hn
    obtain ⟨hthere, g, hpos, hg, hgrain_n⟩ := hspec _ hmem
    refine ⟨htracking _ hthere, payload, get?_collect_of_mem hnodup hmem, g, hpos, hg, ?_⟩
    exact (hgrain n).symm.trans hgrain_n
  · rw [hlisted] at hn
    rw [get?_collect_of_not_mem hn]
    rfl

/-! ### The round trip -/

/-- Setting up bitmaps changes no file. -/
def SameFiles (h h' : Host) : Prop := h'.pickles = h.pickles

instance : Std.Refl SameFiles := ⟨fun _ => rfl⟩

instance : IsTrans Host SameFiles := ⟨fun _ _ _ h h' => Eq.trans h' h⟩

theorem sameFiles_prepareEach (E : Env) (qd : QemuDisk) (items : List (String × Single)) :
    Preserves SameFiles (prepareEach E qd items) := by
  have hcommand (c : Command) : Preserves SameFiles (qmpCommand E qd.qmp_sock c) :=
    fun h => (after_qmpCommand E qd.qmp_sock c h).2.1
  have hprepare (name : String) (payload : Single) :
      Preserves SameFiles (prepareBitmapFromPayload E qd name payload) := by
    cases payload with
    | other => exact .throw _
    | dict payload =>
        refine .bind (.bind (hcommand _) fun _ => .pure _) fun bitmaps =>
          .ite (fun _ => .pure _) fun _ => .bind ?_ fun _ => .bind (hcommand _) fun _ => .pure _
        cases bitmaps.get? name with
        | none => exact .pure _
        | some info => exact .bind (hcommand _) fun _ => .pure _
  induction items with
  | nil => exact .pure _
  | cons item items ih =>
      refine .bind (.ite (fun _ => ?_) fun _ => .pure _) fun _ => ih
      exact .tryCatch (hprepare item.1 item.2) fun _ => .pure _

/-- An activation migrates the file of older revisions, and changes no other file. -/
theorem pickles_activate (hE : ∀ n, E.fault n = false) (hsr : resolveSrUri E d = some sr_uri)
    (hreg : h.registry.get? (E.deviceKey d) = some qd) {payload : Dict String Single}
    (hsaved : (migratePickles h.pickles sr_uri (E.deviceKey d) (vdiUuidFromDevicePath d)).get?
      (sr_uri, vdiUuidFromDevicePath d) = some (some (.dict payload))) :
    (after (activate E d) h).pickles =
      migratePickles h.pickles sr_uri (E.deviceKey d) (vdiUuidFromDevicePath d) := by
  suffices hwp : wp (activate E d) (fun _ h' => h'.pickles =
      migratePickles h.pickles sr_uri (E.deviceKey d) (vdiUuidFromDevicePath d))
      (fun _ _ => False) h from
    after_of_wp (wp_mono hwp (fun _ _ hq => hq) fun _ _ hf => hf.elim)
  rw [activate, quietly, wp_tryCatch, cbtRestoreOnActivate, wp_bind,
    wp_of_ok (findQemu_registered hreg)]
  dsimp only
  rw [hsr]
  dsimp only
  rw [wp_bind]
  refine wp_migrateQuietly (hE _) fun h₂ hh₂ => ?_
  have hpk₂ : h₂.pickles = migratePickles h.pickles sr_uri (E.deviceKey d)
      (vdiUuidFromDevicePath d) := by rw [hh₂]
  rw [wp_bind]
  refine wp_loadCbtMetadata (hE _) ?_
  rw [hpk₂, hsaved]
  refine wp_mono ((sameFiles_prepareEach E qd payload.items).wp _) (fun _ h' hsame => ?_)
    fun _ h' hsame => ?_
  · exact Eq.trans hsame ((pickles_next E h₂).trans hpk₂)
  · exact Eq.trans hsame ((pickles_next E h₂).trans hpk₂)

/-- The migration leaves nothing under the key of older revisions. -/
theorem get?_migratePickles_legacy (pickles : Dict (String × String) (Option Persisted))
    {sr_uri legacy_key new_key : String} (hne : legacy_key ≠ new_key) :
    (migratePickles pickles sr_uri legacy_key new_key).get? (sr_uri, legacy_key) = none := by
  have hkey : (sr_uri, legacy_key) ≠ (sr_uri, new_key) := by simpa using hne
  rw [migratePickles]
  split
  · next hnone => exact hnone
  · split
    · rw [Dict.get?_set, if_neg hkey, Dict.get?_erase, if_pos rfl]
    · rw [Dict.get?_erase, if_pos rfl]

/-- **The bitmaps come back.**  In the deactivation, of a process that is alive, any commands of the exports
can fail and no others do; in the activation, which finds a new process without bitmaps, nothing fails. -/
theorem roundTrip {E E' : Env} {d sr_uri : String} {qd qd' : QemuDisk} {h h₁ : Host}
    {nbd : Option String} {exports : Dict String Export}
    (hsr : resolveSrUri E d = some sr_uri) (hsr' : resolveSrUri E' d = some sr_uri)
    (hkeys : E'.deviceKey d = E.deviceKey d) (hne : E.deviceKey d ≠ vdiUuidFromDevicePath d)
    (hreg : h.registry.get? (E.deviceKey d) = some qd)
    (halive : h.processes.get? qd.qmp_sock ≠ none)
    (hfault : ∀ n, E.fault n = true → exporting E d h n = true)
    (hsome : exportedOnDeactivate E d h ≠ [])
    (hE' : ∀ n, E'.fault n = false) (hpickles : h₁.pickles = (after (deactivate E d) h).pickles)
    (hreg' : h₁.registry.get? (E'.deviceKey d) = some qd')
    (hon : h₁.On qd' Dict.empty nbd exports) :
    RoundTrip E' d sr_uri qd' (exportedOnDeactivate E d h) (h.grain qd) h₁
      (after (activate E' d) h₁) := by
  have hreturns := returns_persist hsr hreg halive hfault
  obtain ⟨payload, hsaved⟩ := deactivate_saved hsr hreg hreturns hsome
  have hne' : E'.deviceKey d ≠ vdiUuidFromDevicePath d := hkeys ▸ hne
  have hfile : (migratePickles h₁.pickles sr_uri (E'.deviceKey d) (vdiUuidFromDevicePath d)).get?
      (sr_uri, vdiUuidFromDevicePath d) = some (some (.dict payload)) :=
    get?_migratePickles hne' (hpickles ▸ hsaved.file)
  have hfound : found E' h₁ d = some qd' := by rw [found, hreg']
  obtain ⟨h', bs', hok, hon', hshape⟩ := activate_shape hE' hfound hon
  have hafter : after (activate E' d) h₁ = h' := after_of_ok hok
  have hpayload : savedPayload E' h₁ d = payload := by
    rw [savedPayload, hsr']
    dsimp only
    rw [hfile]
  have hpk := pickles_activate hE' hsr' hreg' hfile
  refine ⟨⟨bs', nbd, exports, hafter ▸ hon', fun name => ?_⟩, ?_, ⟨payload, ?_, fun name => ?_⟩, ?_⟩
  · rw [hshape, hpayload, loopShape, lookup_items]
    by_cases hmem : name ∈ exportedOnDeactivate E d h
    · obtain ⟨htracking, p, hget, g, hpos, hg, hgrain⟩ := hsaved.exported name hmem
      have hp : payloadShape p = (g : ℤ) := by rw [payloadShape, hg]; rfl
      rw [if_pos hmem, hget, hgrain]
      change preparedShape name (.dict p) none = some (g, true)
      rw [preparedShape, if_pos htracking, restoredShape, hp, if_neg (by simp),
        if_pos (by exact_mod_cast hpos)]
      rfl
    · rw [if_neg hmem, hsaved.other name hmem]
      rfl
  · obtain ⟨news, ht, hmarks⟩ := dirties_activate hreg'
    refine ⟨news, ht, fun name b hb k hk => ?_⟩
    rcases hmarks name b hb k hk with ⟨b₀, hb₀, _⟩ | htouched
    · obtain ⟨p, hp, hbs, _⟩ := hon
      rw [Host.bitmap, hp, Option.bind_some, bitmapOf, hbs] at hb₀
      cases hb₀
    · exact htouched
  · rw [hpk, hfile]
  · constructor
    · intro hmem
      by_contra hnot
      obtain ⟨⟨_, v⟩, hv, rfl⟩ := List.mem_map.1 hmem
      have hget := Dict.get?_eq_some_iff.2 hv
      rw [hsaved.other _ hnot] at hget
      cases hget
    · intro hmem
      obtain ⟨_, p, hget, _⟩ := hsaved.exported name hmem
      exact Dict.mem_keys_of_mem (Dict.get?_eq_some_iff.1 hget)
  · rw [hpk]
    exact get?_migratePickles_legacy _ hne'

/-- Surroundings in which the sixth command of a deactivation fails: the export of the second bitmap. -/
def partialEnv : Env := { quietEnv none with fault := fun n => n = 5 }

private theorem page_pos : 0 < 4096 := by decide

/-- The daemon of a volume with two tracking bitmaps, one of them frozen, and one of a snapshot. -/
def twoBitmapsHost : Host where
  processes := Dict.empty.set "qmp" ⟨[], Dict.empty.set BLOCK_NODE_NAME
    (((Dict.empty.set "cbt-active" ⟨65536, default_granularity_pos, true, [3]⟩).set "cbt-snap-1"
      ⟨65536, default_granularity_pos, false, []⟩).set "cbt-active-2" ⟨4096, page_pos, false, []⟩),
    some "nbd", Dict.empty⟩
  registry := Dict.empty.set "/dev/zvol/tank/vdi" trackedDisk
  pickles := Dict.empty.set ("file:///var/run/sr-mount/sr", "/dev/zvol/tank/vdi") none
  nbd_server_running := false
  clock := 0
  trace := []

/-- A new daemon of the volume, with these files. -/
def freshHost (pickles : Dict (String × String) (Option Persisted)) : Host where
  processes := Dict.empty.set "qmp" (newDaemon "nbd")
  registry := Dict.empty.set "/dev/zvol/tank/vdi" trackedDisk
  pickles := pickles
  nbd_server_running := false
  clock := 0
  trace := []

@[simp] theorem pickles_freshHost (pickles : Dict (String × String) (Option Persisted)) :
    (freshHost pickles).pickles = pickles := rfl

theorem on_freshHost (pickles : Dict (String × String) (Option Persisted)) :
    (freshHost pickles).On trackedDisk Dict.empty (some "nbd") (newDaemon "nbd").exports :=
  ⟨_, rfl, rfl, rfl, rfl⟩

/-- The command that fails is one of the exports. -/
theorem exporting_partial (n : ℕ) (hn : partialEnv.fault n = true) :
    exporting partialEnv "/dev/zvol/tank/vdi" twoBitmapsHost n = true := by
  obtain rfl : n = 5 := of_decide_eq_true hn
  decide +kernel

theorem roundTrip_partial :
    RoundTrip (quietEnv none) "/dev/zvol/tank/vdi" "file:///var/run/sr-mount/sr" trackedDisk
      (exportedOnDeactivate partialEnv "/dev/zvol/tank/vdi" twoBitmapsHost)
      (twoBitmapsHost.grain trackedDisk)
      (freshHost (after (deactivate partialEnv "/dev/zvol/tank/vdi") twoBitmapsHost).pickles)
      (after (activate (quietEnv none) "/dev/zvol/tank/vdi")
        (freshHost (after (deactivate partialEnv "/dev/zvol/tank/vdi") twoBitmapsHost).pickles)) :=
  roundTrip (by decide +kernel) (by decide +kernel) rfl (by decide +kernel) rfl (by decide +kernel)
    exporting_partial (by decide +kernel) (fun _ => rfl) (pickles_freshHost _) rfl (on_freshHost _)

end Cbt

/-
**What the commands of the tracking hooks do**, with the writes of the guests that come before them.

Main definitions:

* `Cbt.arriving`, `Cbt.arrive` — the writes that reach a node, and a process after writes;
* `Cbt.Host.On` — a process that has the node in hand, its bitmaps and its exports;
* `Cbt.Kept` — what a command to one process keeps.

Main results:

* `Cbt.get?_next` — the processes when a command starts;
* `Cbt.wp_qmpCommand`, `Cbt.wp_onNode`, `Cbt.wp_cbtListBitmaps` — a command that is not refused;
* `Cbt.scanSockets_eq` — the scan over the sockets of xenopsd, as a search in the state.
-/

import ZfsLive.Cbt

set_option relaxedAutoImplicit false
set_option autoImplicit false

namespace Cbt

open Qemu ChangedBlocks Wp

variable {E : Env} {h h' : Host} {s node : String} {p : Process}

/-! ### Writes of the guests -/

/-- The writes that reach a node. -/
def arriving (qmp_sock node : String) (ws : List GuestWrite) : List Write :=
  ws.filterMap fun w => if w.qmp_sock = qmp_sock ∧ w.node = node then some w.range else none

/-- A process after writes. -/
def arrive (qmp_sock : String) (ws : List GuestWrite) (p : Process) : Process :=
  ws.foldl (fun p w => if qmp_sock = w.qmp_sock then p.write w.node w.range else p) p

theorem arrive_cons (w : GuestWrite) (ws : List GuestWrite) :
    arrive s (w :: ws) p = arrive s ws (if s = w.qmp_sock then p.write w.node w.range else p) := rfl

theorem arrive_append (ws ws' : List GuestWrite) :
    arrive s ws' ∘ arrive s ws = arrive s (ws ++ ws') := by
  funext p
  simp only [arrive, List.foldl_append, Function.comp_apply]

/-- Writes keep a process, but for its bitmaps. -/
theorem arrive_frame (ws : List GuestWrite) (p : Process) :
    (arrive s ws p).drives = p.drives ∧ (arrive s ws p).nbd_server = p.nbd_server ∧
      (arrive s ws p).exports = p.exports := by
  induction ws generalizing p with
  | nil => exact ⟨rfl, rfl, rfl⟩
  | cons w ws ih =>
      rw [arrive_cons]
      obtain ⟨hd, hn, he⟩ := ih (if s = w.qmp_sock then p.write w.node w.range else p)
      rw [hd, hn, he]
      split <;> exact ⟨rfl, rfl, rfl⟩

theorem get?_nodes_write (p : Process) (n : String) (w : Write) :
    (p.write n w).nodes.get? node =
      (p.nodes.get? node).map fun bs => if node = n then Bitmaps.recordAll bs [w] else bs := by
  rw [Process.write, Dict.get?_mapVals]

theorem Bitmaps.recordAll_nil (bs : Bitmaps) : Bitmaps.recordAll bs [] = bs := by
  simp [Bitmaps.recordAll, Dict.mapVals, Bitmap.recordAll]

theorem Bitmaps.recordAll_cons (bs : Bitmaps) (w : Write) (ws : List Write) :
    Bitmaps.recordAll (Bitmaps.recordAll bs [w]) ws = Bitmaps.recordAll bs (w :: ws) := by
  simp [Bitmaps.recordAll, Dict.mapVals, Bitmap.recordAll, Function.comp_def]

/-- The bitmaps of a node record the writes that reach it. -/
theorem get?_nodes_arrive (ws : List GuestWrite) (p : Process) :
    (arrive s ws p).nodes.get? node =
      (p.nodes.get? node).map fun bs => Bitmaps.recordAll bs (arriving s node ws) := by
  induction ws generalizing p with
  | nil =>
      simp only [arrive, arriving, List.foldl_nil, List.filterMap_nil, Bitmaps.recordAll_nil]
      rw [Option.map_id']
  | cons w ws ih =>
      rw [arrive_cons, ih]
      by_cases hs : s = w.qmp_sock
      · rw [if_pos hs, get?_nodes_write, Option.map_map]
        refine congrArg (fun f => (p.nodes.get? node).map f) (funext fun bs => ?_)
        by_cases hn : node = w.node
        · simp only [Function.comp_apply, if_pos hn]
          rw [Bitmaps.recordAll_cons, arriving, arriving, List.filterMap_cons,
            if_pos ⟨hs.symm, hn.symm⟩]
        · simp only [Function.comp_apply, if_neg hn]
          rw [arriving, arriving, List.filterMap_cons, if_neg fun hc => hn hc.2.symm]
      · rw [if_neg hs]
        refine congrArg (fun f => (p.nodes.get? node).map f) (funext fun bs => ?_)
        rw [arriving, arriving, List.filterMap_cons, if_neg fun hc => hs hc.1.symm]

theorem bitmaps_arrive (ws : List GuestWrite) (p : Process) :
    (arrive s ws p).bitmaps node = Bitmaps.recordAll (p.bitmaps node) (arriving s node ws) := by
  rw [Process.bitmaps, get?_nodes_arrive, Process.bitmaps]
  rcases p.nodes.get? node with _ | bs
  · rfl
  · rfl

theorem foldl_guestWrite (ws : List GuestWrite) (h : Host) :
    (ws.foldl Host.guestWrite h).processes.get? s = (h.processes.get? s).map (arrive s ws) ∧
      (ws.foldl Host.guestWrite h).registry = h.registry ∧
      (ws.foldl Host.guestWrite h).pickles = h.pickles ∧
      (ws.foldl Host.guestWrite h).nbd_server_running = h.nbd_server_running ∧
      (ws.foldl Host.guestWrite h).trace = (ws.map Event.write).reverse ++ h.trace := by
  induction ws generalizing h with
  | nil => exact ⟨(congrFun Option.map_id _).symm, rfl, rfl, rfl, rfl⟩
  | cons w ws ih =>
      obtain ⟨hp, hr, hk, hf, ht⟩ := ih (h.guestWrite w)
      rw [List.foldl_cons, hp, hr, hk, hf, ht]
      refine ⟨?_, rfl, rfl, rfl, by simp [Host.guestWrite]⟩
      rw [Host.guestWrite, Dict.get?_mapVals, Option.map_map]
      rfl

/-- **The processes when the next command starts.** -/
theorem get?_next (E : Env) (h : Host) (s : String) :
    (h.next E).processes.get? s = (h.processes.get? s).map (arrive s (E.writes h.clock)) :=
  (foldl_guestWrite (E.writes h.clock) h).1

/-- A command whose answer does not arrive touches one process only. -/
theorem execute_frame (h : Host) (s : String) (c : Command) :
    (h.execute s c).trace = h.trace ∧ (h.execute s c).registry = h.registry ∧
      (h.execute s c).pickles = h.pickles ∧
      (h.execute s c).nbd_server_running = h.nbd_server_running ∧
      (h.execute s c).clock = h.clock ∧
      ∀ s', s' ≠ s → (h.execute s c).processes.get? s' = h.processes.get? s' := by
  rw [Host.execute]
  split
  · exact ⟨rfl, rfl, rfl, rfl, rfl, fun _ _ => rfl⟩
  · split
    · exact ⟨rfl, rfl, rfl, rfl, rfl, fun _ _ => rfl⟩
    · exact ⟨rfl, rfl, rfl, rfl, rfl, fun s' hs => (Dict.get?_set ..).trans (if_neg hs)⟩

theorem get?_execute_queryBlock (h : Host) (s s' : String) :
    (h.execute s .queryBlock).processes.get? s' = h.processes.get? s' := by
  rw [Host.execute]
  rcases hp : h.processes.get? s with _ | p
  · rfl
  · change (h.processes.set s p).get? s' = _
    rw [Dict.get?_set]
    split
    · next hs => rw [hs, hp]
    · rfl

/-! ### One command -/

/-- What passing one command keeps: the files, and every process but for the writes that reach it. -/
structure Kept (E : Env) (h h' : Host) (s : String) : Prop where
  clock : h'.clock = h.clock + 1
  registry : h'.registry = h.registry
  running : h'.nbd_server_running = h.nbd_server_running
  other : ∀ s', s' ≠ s → h'.processes.get? s' = (h.processes.get? s').map
    (arrive s' (E.writes h.clock))

/-- What the writes before a command and the command itself add to the trace. -/
def Env.news (E : Env) (n : ℕ) (e : List Event) : List Event :=
  e ++ ((E.writes n).map Event.write).reverse

/-- The writes of a part of a trace, in their order. -/
def guestWrites (tr : List Event) : List GuestWrite :=
  (tr.filterMap fun e => match e with
    | .write w => some w
    | _ => none).reverse

theorem guestWrites_append (a b : List Event) :
    guestWrites (a ++ b) = guestWrites b ++ guestWrites a := by
  rw [guestWrites, List.filterMap_append, List.reverse_append, guestWrites, guestWrites]

theorem guestWrites_writes (ws : List GuestWrite) :
    guestWrites (ws.map Event.write).reverse = ws := by
  rw [guestWrites, List.filterMap_reverse, List.reverse_reverse, List.filterMap_map]
  exact List.filterMap_some

/-- A command that is not refused. -/
theorem wp_qmpCommand {c : Command} {Q : Process → Host → Prop} {X : QmpError → Host → Prop}
    {p' : Process} (hfault : E.fault h.clock = false) (hp : h.processes.get? s = some p)
    (hexec : (arrive s (E.writes h.clock) p).exec c = .ok p')
    (hQ : ∀ h', h'.processes.get? s = some p' → Kept E h h' s → h'.pickles = h.pickles →
      h'.trace = E.news h.clock [.command s c] ++ h.trace → Q p' h') :
    wp (qmpCommand E s c) Q X h := by
  obtain ⟨-, hr, hk, hf, ht⟩ := foldl_guestWrite (s := s) (E.writes h.clock) h
  have hnext : (h.next E).processes.get? s = some (arrive s (E.writes h.clock) p) := by
    rw [get?_next, hp]
    rfl
  have hok : qmpCommand E s c h = .ok p' { h.next E with
      trace := .command s c :: (h.next E).trace
      processes := (h.next E).processes.set s p' } := by
    simp only [qmpCommand, hfault, Bool.false_eq_true, if_false, hnext, hexec]
  refine (wp_of_ok hok).2 (hQ _ ?_ ⟨rfl, hr, hf, fun s' hs' => ?_⟩ hk ?_)
  · rw [Dict.get?_set, if_pos rfl]
  · rw [Dict.get?_set, if_neg hs', get?_next]
  · change Event.command s c :: (h.next E).trace = _
    rw [Env.news, Host.next, ht]
    rfl

/-- A change of the files. -/
theorem wp_fileCommand {α : Type} {f : Host → Except QmpError (α × Host)} {Q : α → Host → Prop}
    {X : QmpError → Host → Prop} {a : α} {h'' : Host} (hfault : E.fault h.clock = false)
    (hf : f (h.next E) = .ok (a, h'')) (hQ : Q a h'') : wp (fileCommand E f) Q X h := by
  have hok : fileCommand E f h = .ok a h'' := by
    simp only [fileCommand, hfault, Bool.false_eq_true, if_false, hf]
  exact (wp_of_ok hok).2 hQ

/-! ### The node in hand -/

/-- The process behind `qd` runs and has its node, with these bitmaps, this NBD server and these
exports. -/
def Host.On (h : Host) (qd : QemuDisk) (bs : Bitmaps) (nbd : Option String)
    (exports : Dict String Export) : Prop :=
  ∃ p, h.processes.get? qd.qmp_sock = some p ∧ p.nodes.get? qd.block_node_name = some bs ∧
    p.nbd_server = nbd ∧ p.exports = exports

/-- The writes that reach the node in hand before a command. -/
def Env.reach (E : Env) (qd : QemuDisk) (n : ℕ) : List Write :=
  arriving qd.qmp_sock qd.block_node_name (E.writes n)

section

variable {qd : QemuDisk} {bs : Bitmaps} {nbd : Option String} {exports : Dict String Export}
  {X : QmpError → Host → Prop}

/-- The node in hand when the next command starts. -/
theorem Host.On.arrive {p : Process} (hp : p.nodes.get? qd.block_node_name = some bs)
    (hn : p.nbd_server = nbd) (he : p.exports = exports) (ws : List GuestWrite) :
    (arrive qd.qmp_sock ws p).nodes.get? qd.block_node_name =
        some (Bitmaps.recordAll bs (arriving qd.qmp_sock qd.block_node_name ws)) ∧
      (Cbt.arrive qd.qmp_sock ws p).nbd_server = nbd ∧
      (Cbt.arrive qd.qmp_sock ws p).exports = exports := by
  obtain ⟨_, hn', he'⟩ := arrive_frame (s := qd.qmp_sock) ws p
  refine ⟨?_, hn'.trans hn, he'.trans he⟩
  rw [get?_nodes_arrive, hp]
  rfl

/-- **A command that changes the bitmaps of the node in hand.** -/
theorem wp_onNode {c : Command} {f : Bitmaps → Except QmpError Bitmaps} {bs' : Bitmaps}
    {Q : Process → Host → Prop} (hon : h.On qd bs nbd exports) (hfault : E.fault h.clock = false)
    (hc : ∀ p : Process, p.exec c = p.onNode qd.block_node_name f)
    (hf : f (Bitmaps.recordAll bs (E.reach qd h.clock)) = .ok bs')
    (hQ : ∀ p h', h'.On qd bs' nbd exports → Kept E h h' qd.qmp_sock → h'.pickles = h.pickles →
      h'.trace = E.news h.clock [.command qd.qmp_sock c] ++ h.trace → Q p h') :
    wp (qmpCommand E qd.qmp_sock c) Q X h := by
  obtain ⟨p, hp, hbs, hn, he⟩ := hon
  obtain ⟨hbs', hn', he'⟩ := Host.On.arrive hbs hn he (E.writes h.clock)
  have hexec : (Cbt.arrive qd.qmp_sock (E.writes h.clock) p).exec c =
      .ok { Cbt.arrive qd.qmp_sock (E.writes h.clock) p with
        nodes := (Cbt.arrive qd.qmp_sock (E.writes h.clock) p).nodes.set qd.block_node_name bs' } := by
    rw [Env.reach] at hf
    simp only [hc, Process.onNode, hbs', hf]
  refine wp_qmpCommand hfault hp hexec fun h' hp' hk hpk ht => hQ _ h' ⟨_, hp', ?_, hn', he'⟩ hk hpk ht
  exact (Dict.get?_set ..).trans (if_pos rfl)

theorem wp_cbtListBitmaps {Q : Bitmaps → Host → Prop} (hon : h.On qd bs nbd exports)
    (hfault : E.fault h.clock = false)
    (hQ : ∀ h', h'.On qd (Bitmaps.recordAll bs (E.reach qd h.clock)) nbd exports →
      Kept E h h' qd.qmp_sock → h'.pickles = h.pickles →
      h'.trace = E.news h.clock [.command qd.qmp_sock .queryNamedBlockNodes] ++ h.trace →
      Q (Bitmaps.recordAll bs (E.reach qd h.clock)) h') : wp (cbtListBitmaps E qd) Q X h := by
  obtain ⟨p, hp, hbs, hn, he⟩ := hon
  obtain ⟨hbs', hn', he'⟩ := Host.On.arrive hbs hn he (E.writes h.clock)
  rw [cbtListBitmaps, wp_bind]
  refine wp_qmpCommand hfault hp rfl fun h' hp' hk hpk ht => ?_
  have := hQ h' ⟨_, hp', hbs', hn', he'⟩ hk hpk ht
  rwa [wp_pure, Process.bitmaps, hbs']

end

/-! ### Files -/

theorem pickles_next (E : Env) (h : Host) : (h.next E).pickles = h.pickles :=
  (foldl_guestWrite (s := "") (E.writes h.clock) h).2.2.1

/-- The node in hand when the next command starts. -/
theorem Host.On.next {qd : QemuDisk} {bs : Bitmaps} {nbd : Option String}
    {exports : Dict String Export} (hon : h.On qd bs nbd exports) :
    (h.next E).On qd (Bitmaps.recordAll bs (E.reach qd h.clock)) nbd exports := by
  obtain ⟨p, hp, hbs, hn, he⟩ := hon
  obtain ⟨hbs', hn', he'⟩ := Host.On.arrive hbs hn he (E.writes h.clock)
  refine ⟨_, ?_, hbs', hn', he'⟩
  rw [get?_next, hp]
  rfl

theorem wp_migrateQuietly {sr_uri legacy_key new_key : String} {Q : Unit → Host → Prop}
    {X : QmpError → Host → Prop} (hfault : E.fault h.clock = false)
    (hQ : ∀ h', h' = { h.next E with
      pickles := migratePickles h.pickles sr_uri legacy_key new_key } → Q () h') :
    wp (migrateQuietly E sr_uri legacy_key new_key) Q X h := by
  rw [migrateQuietly, wp_tryCatch]
  refine wp_fileCommand hfault rfl (hQ _ ?_)
  rw [pickles_next]

theorem wp_loadCbtMetadata {sr_uri key : String} {Q : Option Persisted → Host → Prop}
    {X : QmpError → Host → Prop} (hfault : E.fault h.clock = false)
    (hQ : match h.pickles.get? (sr_uri, key) with
      | none => Q none (h.next E)
      | some none => X .failed (h.next E)
      | some (some data) => Q (some data) (h.next E)) :
    wp (loadCbtMetadata E sr_uri key) Q X h := by
  rw [← pickles_next E] at hQ
  rw [loadCbtMetadata, wp, fileCommand]
  simp only [hfault, Bool.false_eq_true, if_false]
  rcases hget : (h.next E).pickles.get? (sr_uri, key) with _ | _ | data
  all_goals
    rw [hget] at hQ
    exact hQ

/-! ### The scan over the sockets of xenopsd -/

/-- Time has passed: the processes are the same but for the writes of the guests, and were only asked
for their drives. -/
structure Drift (h h' : Host) : Prop where
  registry : h'.registry = h.registry
  pickles : h'.pickles = h.pickles
  running : h'.nbd_server_running = h.nbd_server_running
  passed : ∃ news, h'.trace = news ++ h.trace ∧
    (∀ e ∈ news, (∃ w, e = .write w) ∨ ∃ s, e = .command s .queryBlock) ∧
    ∀ s, h'.processes.get? s = (h.processes.get? s).map (arrive s (guestWrites news))

theorem Drift.refl (h : Host) : Drift h h :=
  ⟨rfl, rfl, rfl, [], rfl, by simp, fun _ => (congrFun Option.map_id _).symm⟩

theorem Drift.trans {h₁ h₂ h₃ : Host} (h : Drift h₁ h₂) (h' : Drift h₂ h₃) : Drift h₁ h₃ := by
  obtain ⟨news, ht, hev, hp⟩ := h.passed
  obtain ⟨news', ht', hev', hp'⟩ := h'.passed
  refine ⟨h'.registry.trans h.registry, h'.pickles.trans h.pickles, h'.running.trans h.running,
    news' ++ news, by rw [ht', ht, List.append_assoc], fun e he => ?_, fun s => ?_⟩
  · rcases List.mem_append.1 he with he | he
    · exact hev' e he
    · exact hev e he
  · rw [hp', hp, Option.map_map, guestWrites_append, ← arrive_append]

theorem Drift.process {h h' : Host} (hd : Drift h h') (s : String) :
    ∃ ws, h'.processes.get? s = (h.processes.get? s).map (arrive s ws) := by
  obtain ⟨news, -, -, hp⟩ := hd.passed
  exact ⟨_, hp s⟩

/-- The node that the strategies find in a process. -/
def detected (E : Env) (p : Process) (device_path : String) : Option String :=
  (nodeByPath E p device_path).or (nodeByBitmaps p)

theorem nodeByPath_arrive (E : Env) (p : Process) (device_path : String) (ws : List GuestWrite) :
    nodeByPath E (arrive s ws p) device_path = nodeByPath E p device_path := by
  rw [nodeByPath, (arrive_frame ws p).1, nodeByPath]

theorem nodeByBitmaps_arrive (p : Process) (ws : List GuestWrite) :
    nodeByBitmaps (arrive s ws p) = nodeByBitmaps p := by
  rw [nodeByBitmaps, (arrive_frame ws p).1, nodeByBitmaps]
  refine congrArg (fun f => p.drives.findSome? f) (funext fun block => ?_)
  refine congrArg (fun f => (truthy block.node_name).filter f) (funext fun n => ?_)
  rw [bitmaps_arrive]
  simp [Bitmaps.recordAll, Dict.mapVals]

/-- Writes change nothing that the strategies look at. -/
theorem detected_arrive (E : Env) (p : Process) (device_path : String) (ws : List GuestWrite) :
    detected E (arrive s ws p) device_path = detected E p device_path := by
  rw [detected, nodeByPath_arrive, nodeByBitmaps_arrive, detected]

/-- What `query-block` answers. -/
theorem qmpCommand_queryBlock (E : Env) (h : Host) (s : String) :
    (∃ h', qmpCommand E s .queryBlock h = .error .failed h' ∧ Drift h h' ∧
        h'.clock = h.clock + 1 ∧ (E.fault h.clock = true ∨ h.processes.get? s = none)) ∨
      ∃ p h', qmpCommand E s .queryBlock h = .ok (arrive s (E.writes h.clock) p) h' ∧
        Drift h h' ∧ h'.clock = h.clock + 1 ∧ E.fault h.clock = false ∧
        h.processes.get? s = some p := by
  obtain ⟨-, hr, hk, hf, ht⟩ := foldl_guestWrite (s := s) (E.writes h.clock) h
  have hnext := get?_next E h
  let asked : Host := { h.next E with trace := .command s .queryBlock :: (h.next E).trace }
  have hpassed : ∀ h' : Host, h'.trace = asked.trace → (∀ s', h'.processes.get? s' =
      (h.processes.get? s').map (arrive s' (E.writes h.clock))) →
      ∃ news, h'.trace = news ++ h.trace ∧
        (∀ e ∈ news, (∃ w, e = .write w) ∨ ∃ s, e = .command s .queryBlock) ∧
        ∀ s', h'.processes.get? s' = (h.processes.get? s').map (arrive s' (guestWrites news)) := by
    intro h' ht' hp'
    refine ⟨E.news h.clock [.command s .queryBlock], ht'.trans ?_, fun e he => ?_, fun s' => ?_⟩
    · change Event.command s .queryBlock :: (h.next E).trace = _
      rw [Env.news, Host.next, ht]
      rfl
    · rcases List.mem_append.1 he with he | he
      · exact .inr ⟨s, List.mem_singleton.1 he⟩
      · obtain ⟨w, _, rfl⟩ := List.mem_map.1 (List.mem_reverse.1 he)
        exact .inl ⟨w, rfl⟩
    · rw [hp', Env.news, guestWrites_append, guestWrites_writes]
      simp [guestWrites]
  rcases hfault : E.fault h.clock with _ | _
  · rcases hp : h.processes.get? s with _ | p
    · refine .inl ⟨asked, ?_, ⟨hr, hk, hf, hpassed _ rfl hnext⟩, rfl, .inr rfl⟩
      simp only [qmpCommand, hfault, Bool.false_eq_true, if_false, hnext, hp, Option.map_none]
      rfl
    · refine .inr ⟨p, { asked with
          processes := asked.processes.set s (arrive s (E.writes h.clock) p) },
        ?_, ⟨hr, hk, hf, hpassed _ rfl fun s' => ?_⟩, rfl, rfl, rfl⟩
      · simp only [qmpCommand, hfault, Bool.false_eq_true, if_false, hnext, hp, Option.map_some,
          Process.exec]
        rfl
      · change (Dict.set ..).get? s' = _
        rw [Dict.get?_set]
        split
        · next hs => rw [hs, hp]; rfl
        · exact hnext s'
  · have herr : qmpCommand E s .queryBlock h = .error .failed
        (if E.executed h.clock then asked.execute s .queryBlock else asked) := by
      simp only [qmpCommand, hfault, if_true]
      rfl
    refine .inl ⟨_, herr, ?_, ?_, .inl rfl⟩
    · split
      · obtain ⟨ht', hr', hk', hf', -, -⟩ := execute_frame asked s .queryBlock
        refine ⟨hr'.trans hr, hk'.trans hk, hf'.trans hf, hpassed _ ht' fun s' => ?_⟩
        rw [get?_execute_queryBlock]
        exact hnext s'
      · exact ⟨hr, hk, hf, hpassed _ rfl hnext⟩
    · split
      · exact (execute_frame asked s .queryBlock).2.2.2.2.1
      · rfl

/-- The node that the socket tells, as the command with the number `n`. -/
def askSocket (E : Env) (h : Host) (device_path : String) (n : ℕ) (sock : String) : Option String :=
  if E.fault n then none else (h.processes.get? sock).bind fun p => detected E p device_path

/-- What connecting to one socket gives. -/
theorem connectExisting_eq (E : Env) (device_path sock : String) (h : Host) :
    ∃ h', Drift h h' ∧ h'.clock = h.clock + 1 ∧
      match askSocket E h device_path h.clock sock with
      | none => ∃ e, connectExisting E sock device_path h = .error e h'
      | some node => connectExisting E sock device_path h = .ok ⟨sock, nbdScratch sock, node⟩ h' := by
  rcases qmpCommand_queryBlock E h sock with ⟨h', hq, hd, hc, hwhy⟩ | ⟨p, h', hq, hd, hc, hf, hp⟩
  · have hnone : askSocket E h device_path h.clock sock = none := by
      rw [askSocket]
      rcases hwhy with hw | hw
      · rw [if_pos hw]
      · rw [hw]
        split <;> rfl
    refine ⟨h', hd, hc, ?_⟩
    rw [hnone]
    exact ⟨_, bind_error (bind_error hq)⟩
  · have hask : askSocket E h device_path h.clock sock = detected E p device_path := by
      rw [askSocket, hf, hp]
      rfl
    refine ⟨h', hd, hc, ?_⟩
    rw [hask, detected]
    have hpath := nodeByPath_arrive (s := sock) E p device_path (E.writes h.clock)
    have hbitmaps := nodeByBitmaps_arrive (s := sock) p (E.writes h.clock)
    rcases h₁ : nodeByPath E p device_path with _ | node
    · rcases h₂ : nodeByBitmaps p with _ | node
      · have hnone : ∃ e, detectBlockNode E sock device_path h = .error e h' := by
          rw [detectBlockNode, bind_ok hq, hpath, h₁, hbitmaps, h₂]
          exact ⟨_, rfl⟩
        obtain ⟨e, he⟩ := hnone
        exact ⟨e, bind_error he⟩
      · refine bind_ok ((bind_ok hq).trans ?_)
        rw [hpath, h₁, hbitmaps, h₂]
        rfl
    · refine bind_ok ((bind_ok hq).trans ?_)
      rw [hpath, h₁]
      rfl

/-- The scan, as a search in the state: the command with the number `n` asks the first socket. -/
def firstMatch (E : Env) (h : Host) (device_path : String) : ℕ → List String → Option QemuDisk
  | _, [] => none
  | n, sock :: socks =>
      match askSocket E h device_path n sock with
      | some node => some ⟨sock, nbdScratch sock, node⟩
      | none => firstMatch E h device_path (n + 1) socks

/-- A socket does not see writes. -/
theorem askSocket_arrive
    (hp : ∀ s, ∃ ws, h'.processes.get? s = (h.processes.get? s).map (arrive s ws))
    (device_path : String) (n : ℕ) (sock : String) :
    askSocket E h' device_path n sock = askSocket E h device_path n sock := by
  obtain ⟨ws, hws⟩ := hp sock
  rw [askSocket, askSocket, hws]
  rcases h.processes.get? sock with _ | p
  · rfl
  · simp only [Option.map_some, Option.bind_some, detected_arrive]

theorem firstMatch_arrive
    (hp : ∀ s, ∃ ws, h'.processes.get? s = (h.processes.get? s).map (arrive s ws))
    (device_path : String) (n : ℕ) (socks : List String) :
    firstMatch E h' device_path n socks = firstMatch E h device_path n socks := by
  induction socks generalizing n with
  | nil => rfl
  | cons sock socks ih => rw [firstMatch, firstMatch, ih, askSocket_arrive hp]

/-- The number of sockets that the scan asks. -/
def asked (E : Env) (h : Host) (device_path : String) : ℕ → List String → ℕ
  | _, [] => 0
  | n, sock :: socks =>
      match askSocket E h device_path n sock with
      | some _ => 1
      | none => asked E h device_path (n + 1) socks + 1

theorem asked_arrive
    (hp : ∀ s, ∃ ws, h'.processes.get? s = (h.processes.get? s).map (arrive s ws))
    (device_path : String) (n : ℕ) (socks : List String) :
    asked E h' device_path n socks = asked E h device_path n socks := by
  induction socks generalizing n with
  | nil => rfl
  | cons sock socks ih => rw [asked, asked, ih, askSocket_arrive hp]

/-- **The scan finds the first socket that answers with a drive the strategies accept.** -/
theorem scanSockets_eq (E : Env) (device_path : String) (socks : List String) (h : Host) :
    ∃ h', scanSockets E device_path socks h =
      .ok (firstMatch E h device_path h.clock socks) h' ∧ Drift h h' ∧
        h'.clock = h.clock + asked E h device_path h.clock socks := by
  induction socks generalizing h with
  | nil => exact ⟨h, rfl, .refl h, rfl⟩
  | cons sock socks ih =>
      obtain ⟨h₁, hd, hc, hask⟩ := connectExisting_eq E device_path sock h
      rw [firstMatch, asked, scanSockets]
      rcases hnode : askSocket E h device_path h.clock sock with _ | node
      · -- the socket is skipped
        rw [hnode] at hask
        obtain ⟨e, he⟩ := hask
        obtain ⟨h₂, hscan, hd₂, hc₂⟩ := ih h₁
        have hskip : tryCatch (some <$> connectExisting E sock device_path) (fun _ => pure none) h =
            .ok none h₁ := tryCatch_error (map_error he)
        refine ⟨h₂, (bind_ok hskip).trans ?_, hd.trans hd₂, ?_⟩
        · rw [hc, firstMatch_arrive hd.process] at hscan
          exact hscan
        · rw [hc₂, hc, asked_arrive hd.process]
          dsimp only
          omega
      · rw [hnode] at hask
        exact ⟨h₁, bind_ok (tryCatch_ok (map_ok hask)), hd, hc⟩

/-- The process that `findQemu` finds. -/
def found (E : Env) (h : Host) (device_path : String) : Option QemuDisk :=
  match h.registry.get? (E.deviceKey device_path) with
  | some qd => some qd
  | none => firstMatch E h device_path h.clock (E.xenSockets.getD [])

/-- The clock when `findQemu` returns. -/
def clockFound (E : Env) (h : Host) (device_path : String) : ℕ :=
  match h.registry.get? (E.deviceKey device_path) with
  | some _ => h.clock
  | none => h.clock + asked E h device_path h.clock (E.xenSockets.getD [])

/-- What `findQemu` returns, and when; time passes while it looks. -/
theorem findQemu_run (E : Env) (h : Host) (d : String) : ∃ h',
    findQemu E d h = .ok (found E h d) h' ∧ h'.clock = clockFound E h d ∧
      Drift { h with nbd_server_running := (h.registry.get? (E.deviceKey d)).isSome } h' := by
  have hload : loadMetadata (E.deviceKey d) h = .ok (h.registry.get? (E.deviceKey d)) h := rfl
  rw [findQemu, bind_ok hload, found, clockFound]
  rcases hreg : h.registry.get? (E.deviceKey d) with _ | qd
  · obtain ⟨h', hscan, hd, hc⟩ := scanSockets_eq E d (E.xenSockets.getD [])
      { h with nbd_server_running := false }
    have hsame : ∀ s, ∃ ws, ({ h with nbd_server_running := false } : Host).processes.get? s =
        (h.processes.get? s).map (arrive s ws) :=
      fun s => ⟨[], (congrFun Option.map_id _).symm⟩
    refine ⟨h', hscan.trans ?_, hc.trans ?_, hd⟩
    · exact congrArg (EStateM.Result.ok · h') (firstMatch_arrive hsame d _ _)
    · exact congrArg (h.clock + ·) (asked_arrive hsame d _ _)
  · exact ⟨_, rfl, rfl, .refl _⟩

theorem findQemu_eq (E : Env) (h : Host) (d : String) : ∃ h',
    findQemu E d h = .ok (found E h d) h' ∧
      Drift { h with nbd_server_running := (h.registry.get? (E.deviceKey d)).isSome } h' := by
  obtain ⟨h', hfind, -, hd⟩ := findQemu_run E h d
  exact ⟨h', hfind, hd⟩

end Cbt

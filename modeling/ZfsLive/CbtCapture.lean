/-
**The capture sequence of a snapshot**, with the writes of the guest that come between its commands.

`Volume.snapshot` moves the bits of `cbt-active` into a bitmap of the snapshot.  The rules below say
what a command does when it succeeds: which part it adds to the trace, and how the bitmaps of the node
follow from the writes in that part.

Main definitions:

* `Cbt.written` — the writes to the node in hand in a part of the trace;
* `Cbt.Went` — what happened between two states, seen from the node in hand;
* `Cbt.Captured` — what a capture leaves;
* `Cbt.Frozen` — what its first four commands leave.

Main result:

* `Cbt.wp_captureBitmap` — **the bits of the snapshot's bitmap and of `cbt-active` after a capture, by
  the writes before and after each command**.
-/

import ZfsLive.CbtRules

set_option relaxedAutoImplicit false
set_option autoImplicit false

namespace Cbt

open Qemu ChangedBlocks Wp

variable {E : Env} {h h' : Host} {qd : QemuDisk} {bs : Bitmaps} {nbd : Option String}
  {exports : Dict String Export} {X : QmpError → Host → Prop}

/-! ### Parts of the trace -/

/-- The writes to the node in hand, in a part of the trace. -/
def written (qd : QemuDisk) (tr : List Event) : List Write :=
  arriving qd.qmp_sock qd.block_node_name (guestWrites tr)

theorem written_append (a b : List Event) :
    written qd (a ++ b) = written qd b ++ written qd a := by
  rw [written, guestWrites_append, arriving, List.filterMap_append]
  rfl

@[simp] theorem written_command (s : String) (c : Command) (tr : List Event) :
    written qd (.command s c :: tr) = written qd tr := by
  simp [written, guestWrites]

theorem written_news (n : ℕ) (c : Command) (s : String) :
    written qd (E.news n [.command s c]) = E.reach qd n := by
  rw [written, Env.news, guestWrites_append, guestWrites_writes]
  simp [guestWrites, Env.reach]

theorem written_news_nil (n : ℕ) : written qd (E.news n []) = E.reach qd n := by
  rw [written, Env.news, List.nil_append, guestWrites_writes, Env.reach]

/-- What happened between two states, seen from the node in hand: the other processes got their
writes. -/
structure Went (qd : QemuDisk) (h h' : Host) (news : List Event) : Prop where
  trace : h'.trace = news ++ h.trace
  registry : h'.registry = h.registry
  other : ∀ s, s ≠ qd.qmp_sock →
    h'.processes.get? s = (h.processes.get? s).map (arrive s (guestWrites news))

theorem Went.refl (h : Host) : Went qd h h [] :=
  ⟨rfl, rfl, fun _ _ => (congrFun Option.map_id _).symm⟩

theorem Went.trans {h₁ h₂ h₃ : Host} {news news' : List Event} (h : Went qd h₁ h₂ news)
    (h' : Went qd h₂ h₃ news') : Went qd h₁ h₃ (news' ++ news) := by
  refine ⟨by rw [h'.trace, h.trace, List.append_assoc], h'.registry.trans h.registry, fun s hs => ?_⟩
  rw [h'.other s hs, h.other s hs, Option.map_map, guestWrites_append, ← arrive_append]

/-- The part of the trace that a command adds: the writes before it, and the command. -/
structure Commanded (qd : QemuDisk) (c : Command) (news : List Event) : Prop where
  mem : ∀ e ∈ news, (∃ w, e = .write w) ∨ e = .command qd.qmp_sock c
  head : ∃ before, news = .command qd.qmp_sock c :: before ∧ ∀ e ∈ before, ∃ w, e = .write w

theorem commanded_news (n : ℕ) (c : Command) :
    Commanded qd c (E.news n [.command qd.qmp_sock c]) := by
  have hbefore : ∀ e ∈ ((E.writes n).map Event.write).reverse, ∃ w, e = Event.write w := by
    intro e he
    obtain ⟨w, _, rfl⟩ := List.mem_map.1 (List.mem_reverse.1 he)
    exact ⟨w, rfl⟩
  refine ⟨fun e he => ?_, _, rfl, hbefore⟩
  rcases List.mem_append.1 he with he | he
  · exact .inr (List.mem_singleton.1 he)
  · exact .inl (hbefore e he)

/-! ### Commands that succeed -/

/-- A command, as far as it succeeds. -/
theorem wp_qmpCommand_of_ok {s : String} {c : Command} {Q : Process → Host → Prop}
    (hX : ∀ e h', X e h') (hQ : ∀ p p' h', h.processes.get? s = some p →
      (arrive s (E.writes h.clock) p).exec c = .ok p' → h'.processes.get? s = some p' →
      Kept E h h' s → h'.pickles = h.pickles →
      h'.trace = E.news h.clock [.command s c] ++ h.trace → Q p' h') :
    wp (qmpCommand E s c) Q X h := by
  rcases hr : qmpCommand E s c h with ⟨p', h'⟩ | ⟨e, h'⟩
  · have hok := hr
    simp only [qmpCommand, get?_next] at hok
    split at hok
    · cases hok
    · next hfault =>
      rcases hp : h.processes.get? s with _ | p
      · simp [hp] at hok
      · rcases hexec : (arrive s (E.writes h.clock) p).exec c with e | p'
        · simp [hp, hexec] at hok
        · exact wp_qmpCommand (Bool.not_eq_true _ ▸ hfault) hp hexec fun h' => hQ p p' h' hp hexec
  · exact (wp_of_error hr).2 (hX e h')

/-- A command that changes the bitmaps of the node in hand, as far as it succeeds. -/
theorem wp_onNode_of_ok {c : Command} {f : Bitmaps → Except QmpError Bitmaps}
    {Q : Process → Host → Prop} (hon : h.On qd bs nbd exports)
    (hc : ∀ p : Process, p.exec c = p.onNode qd.block_node_name f) (hX : ∀ e h', X e h')
    (hQ : ∀ p h' bs' news, f (Bitmaps.recordAll bs (written qd news)) = .ok bs' →
      h'.On qd bs' nbd exports → Went qd h h' news → Commanded qd c news → h'.pickles = h.pickles →
      Q p h') :
    wp (qmpCommand E qd.qmp_sock c) Q X h := by
  obtain ⟨p, hp, hbs, hn, he⟩ := hon
  refine wp_qmpCommand_of_ok hX fun p₀ p' h' hp₀ hexec hp' hk hpk ht => ?_
  cases hp.symm.trans hp₀
  obtain ⟨hbs', hn', he'⟩ := Host.On.arrive hbs hn he (E.writes h.clock)
  rw [hc, Process.onNode, hbs'] at hexec
  rcases hf : f (Bitmaps.recordAll bs (E.reach qd h.clock)) with e | bs'
  · rw [Env.reach] at hf
    simp [hf] at hexec
  · have hf' := hf
    rw [Env.reach] at hf'
    simp only [hf', Except.ok.injEq] at hexec
    subst hexec
    refine hQ _ h' bs' (E.news h.clock [.command qd.qmp_sock c]) ?_ ⟨_, hp', ?_, hn', he'⟩ ?_
      (commanded_news _ _) hpk
    · rw [written_news, hf]
    · exact (Dict.get?_set ..).trans (if_pos rfl)
    · refine ⟨ht, hk.registry, fun s hs => ?_⟩
      rw [hk.other s hs, Env.news, guestWrites_append, guestWrites_writes]
      simp [guestWrites]

/-- What a command does to the bitmaps that it does not name. -/
def Passes (qd : QemuDisk) (bs bs' : Bitmaps) (news : List Event) (n : String) : Prop :=
  bs'.get? n = (bs.get? n).map fun b => b.recordAll (written qd news)

theorem Passes.trans {bs₁ bs₂ bs₃ : Bitmaps} {news news' : List Event} {n : String}
    (hp : Passes qd bs₁ bs₂ news n) (hp' : Passes qd bs₂ bs₃ news' n) :
    Passes qd bs₁ bs₃ (news' ++ news) n := by
  rw [Passes] at hp hp' ⊢
  rw [hp', hp, Option.map_map, written_append]
  refine congrArg (fun f => (bs₁.get? n).map f) (funext fun b => ?_)
  rw [Bitmap.recordAll_append]
  rfl

theorem Passes.get {bs' : Bitmaps} {news : List Event} {n : String} {b : Bitmap}
    (hp : Passes qd bs bs' news n) (hb : bs.get? n = some b) :
    bs'.get? n = some (b.recordAll (written qd news)) := by
  rw [hp, hb, Option.map_some]

theorem passes_recordAll (qd : QemuDisk) (bs : Bitmaps) (news : List Event) (n : String) :
    Passes qd bs (Bitmaps.recordAll bs (written qd news)) news n :=
  Bitmaps.get?_recordAll ..

theorem passes_set {name : String} (b : Bitmap) (news : List Event) {n : String} (hn : n ≠ name) :
    Passes qd bs (Dict.set (Bitmaps.recordAll bs (written qd news)) name b) news n := by
  rw [Passes, Dict.get?_set, if_neg hn]
  exact passes_recordAll qd bs news n

/-- A command that changes one bitmap, as far as it succeeds. -/
theorem wp_onBitmap_of_ok {c : Command} {name : String} {g : Bitmap → Bitmap} {b : Bitmap}
    {Q : Process → Host → Prop} (hon : h.On qd bs nbd exports) (hb : bs.get? name = some b)
    (hc : ∀ p : Process, p.exec c =
      p.onNode qd.block_node_name (onBitmap qd.block_node_name name g)) (hX : ∀ e h', X e h')
    (hQ : ∀ p h' bs' news, h'.On qd bs' nbd exports → Went qd h h' news → Commanded qd c news →
      h'.pickles = h.pickles → bs'.get? name = some (g (b.recordAll (written qd news))) →
      (∀ n, n ≠ name → Passes qd bs bs' news n) → Q p h') :
    wp (qmpCommand E qd.qmp_sock c) Q X h := by
  refine wp_onNode_of_ok hon hc hX fun p h' bs' news hf hon' hw hcmd hpk => ?_
  have hb' : (Bitmaps.recordAll bs (written qd news)).get? name =
      some (b.recordAll (written qd news)) := by
    rw [Bitmaps.get?_recordAll, hb]
    rfl
  rw [onBitmap_ok g hb', Except.ok.injEq] at hf
  subst hf
  refine hQ p h' _ news hon' hw hcmd hpk ?_ fun n hn => passes_set _ news hn
  rw [Dict.get?_set, if_pos rfl]

theorem wp_cbtBitmapAdd_of_ok {name : String} {granularity : ℕ} {Q : Unit → Host → Prop}
    (hon : h.On qd bs nbd exports) (hX : ∀ e h', X e h') (hQ : ∀ h' bs' news
      (hg : 0 < granularity), h'.On qd bs' nbd exports → Went qd h h' news →
      Commanded qd (.bitmapAdd qd.block_node_name name granularity) news → h'.pickles = h.pickles →
      bs.get? name = none → bs'.get? name = some ⟨granularity, hg, true, []⟩ →
      (∀ n, n ≠ name → Passes qd bs bs' news n) → Q () h') :
    wp (cbtBitmapAdd E qd name granularity) Q X h := by
  rw [cbtBitmapAdd, wp_bind]
  refine wp_onNode_of_ok hon (fun _ => rfl) hX fun _ h' bs' news hf hon' hw hc hpk => ?_
  obtain ⟨hnone, hg, rfl⟩ := of_addBitmap_ok hf
  rw [Bitmaps.get?_recordAll, Option.map_eq_none_iff] at hnone
  refine hQ h' _ news hg hon' hw hc hpk hnone ?_ fun n hn => passes_set _ news hn
  rw [Dict.get?_set, if_pos rfl]

theorem wp_cbtBitmapMerge_of_ok {target source : String} {b src : Bitmap} {Q : Unit → Host → Prop}
    (hon : h.On qd bs nbd exports) (hb : bs.get? target = some b) (hsrc : bs.get? source = some src)
    (hg : src.granularity = b.granularity) (hX : ∀ e h', X e h') (hQ : ∀ h' bs' news,
      h'.On qd bs' nbd exports → Went qd h h' news →
      Commanded qd (.bitmapMerge qd.block_node_name target [source]) news → h'.pickles = h.pickles →
      bs'.get? target = some { b.recordAll (written qd news) with
        dirty := (src.recordAll (written qd news)).dirty ++ (b.recordAll (written qd news)).dirty } →
      (∀ n, n ≠ target → Passes qd bs bs' news n) → Q () h') :
    wp (cbtBitmapMerge E qd target [source]) Q X h := by
  rw [cbtBitmapMerge, wp_bind]
  refine wp_onNode_of_ok hon (fun _ => rfl) hX fun _ h' bs' news hf hon' hw hc hpk => ?_
  have hb' := (passes_recordAll qd bs news target).get hb
  have hsrc' := (passes_recordAll qd bs news source).get hsrc
  rw [mergeBitmaps_ok hb' hsrc' (by simpa using hg), Except.ok.injEq] at hf
  subst hf
  refine hQ h' _ news hon' hw hc hpk ?_ fun n hn => passes_set _ news hn
  rw [Dict.get?_set, if_pos rfl]

/-- Looking at the bitmaps, as far as it succeeds. -/
theorem wp_cbtListBitmaps_of_ok {Q : Bitmaps → Host → Prop} (hon : h.On qd bs nbd exports)
    (hX : ∀ e h', X e h') (hQ : ∀ h' bs' news, h'.On qd bs' nbd exports → Went qd h h' news →
      Commanded qd .queryNamedBlockNodes news → h'.pickles = h.pickles →
      (∀ n, Passes qd bs bs' news n) → Q bs' h') :
    wp (cbtListBitmaps E qd) Q X h := by
  obtain ⟨p, hp, hbs, hn, he⟩ := hon
  rw [cbtListBitmaps, wp_bind]
  refine wp_qmpCommand_of_ok hX fun p₀ p' h' hp₀ hexec hp' hk hpk ht => ?_
  cases hp.symm.trans hp₀
  obtain ⟨hbs', hn', he'⟩ := Host.On.arrive hbs hn he (E.writes h.clock)
  cases hexec
  rw [wp_pure, Process.bitmaps, hbs']
  refine hQ h' _ _ ⟨_, hp', hbs', hn', he'⟩ ⟨ht, hk.registry, fun s hs => ?_⟩
    (commanded_news h.clock _) hpk fun n => ?_
  · rw [hk.other s hs, Env.news, guestWrites_append, guestWrites_writes]
    simp [guestWrites]
  · have := passes_recordAll qd bs (E.news h.clock [.command qd.qmp_sock .queryNamedBlockNodes]) n
    rwa [written_news] at this

/-- Time passes before a change of the files. -/
theorem went_next (E : Env) (qd : QemuDisk) (h : Host) :
    Went qd h (h.next E) (E.news h.clock []) := by
  obtain ⟨-, hr, -, -, ht⟩ := foldl_guestWrite (s := "") (E.writes h.clock) h
  refine ⟨ht, hr, fun s _ => ?_⟩
  rw [get?_next, Env.news, List.nil_append, guestWrites_writes]

theorem wp_fileCommand_of_ok {α : Type} {a : α} {f : Host → Host} {Q : α → Host → Prop}
    (hX : ∀ e h', X e h') (hQ : Q a (f (h.next E))) :
    wp (fileCommand E fun h => .ok (a, f h)) Q X h := by
  rcases hfault : E.fault h.clock with _ | _
  · exact wp_fileCommand hfault rfl hQ
  · have herr : fileCommand E (fun h => .ok (a, f h)) h = .error .failed (h.next E) := by
      simp only [fileCommand, hfault, if_true]
    exact (wp_of_error herr).2 (hX _ _)

/-! ### Exporting a bitmap -/

/-- An event that neither takes a snapshot nor enables a bitmap. -/
def Calm : Event → Prop
  | .write _ => True
  | .command _ c => ∀ node name, c ≠ .bitmapEnable node name
  | .takeSnapshot _ => False

theorem Commanded.calm {c : Command} {news : List Event} (hc : Commanded qd c news)
    (hne : ∀ node name, c ≠ .bitmapEnable node name) : ∀ e ∈ news, Calm e := by
  intro e he
  rcases hc.mem e he with ⟨w, rfl⟩ | rfl
  · trivial
  · exact hne

theorem calm_append {a b : List Event} (ha : ∀ e ∈ a, Calm e) (hb : ∀ e ∈ b, Calm e) :
    ∀ e ∈ a ++ b, Calm e := by
  intro e he
  rcases List.mem_append.1 he with he | he
  · exact ha e he
  · exact hb e he

theorem calm_news (n : ℕ) : ∀ e ∈ E.news n [], Calm e := by
  intro e he
  rw [Env.news, List.nil_append] at he
  obtain ⟨w, _, rfl⟩ := List.mem_map.1 (List.mem_reverse.1 he)
  trivial

/-- The NBD server runs afterwards, also when it ran before. -/
theorem wp_startNbdServer_of_ok {Q : Unit → Host → Prop} (hon : h.On qd bs nbd exports)
    (hX : ∀ e h', X e h') (hQ : ∀ h' bs' news,
      h'.On qd bs' (some (nbd.getD qd.nbd_unix_sock)) exports → Went qd h h' news →
      (∀ e ∈ news, Calm e) → h'.pickles = h.pickles → (∀ n, Passes qd bs bs' news n) → Q () h') :
    wp (startNbdServer E qd) Q X h := by
  have hcalm : ∀ e ∈ E.news h.clock [.command qd.qmp_sock (.nbdServerStart qd.nbd_unix_sock)],
      Calm e := (commanded_news _ _).calm (by simp)
  have hpass : ∀ n, Passes qd bs (Bitmaps.recordAll bs (E.reach qd h.clock))
      (E.news h.clock [.command qd.qmp_sock (.nbdServerStart qd.nbd_unix_sock)]) n := by
    intro n
    rw [← written_news h.clock (.nbdServerStart qd.nbd_unix_sock) qd.qmp_sock]
    exact passes_recordAll ..
  obtain ⟨p, hp, hbs, hn, he⟩ := hon
  obtain ⟨hbs', hn', he'⟩ := Host.On.arrive hbs hn he (E.writes h.clock)
  have hnext : (h.next E).processes.get? qd.qmp_sock =
      some (arrive qd.qmp_sock (E.writes h.clock) p) := by
    rw [get?_next, hp]
    rfl
  rw [startNbdServer, wp_tryCatch, wp_bind]
  rcases hfault : E.fault h.clock with _ | _
  · rcases nbd with _ | socket
    · -- the server starts
      have hexec : (arrive qd.qmp_sock (E.writes h.clock) p).exec (.nbdServerStart qd.nbd_unix_sock) =
          .ok { arrive qd.qmp_sock (E.writes h.clock) p with
            nbd_server := some qd.nbd_unix_sock } := by
        simp only [Process.exec, hn']
      refine wp_qmpCommand hfault hp hexec fun h' hp' hk hpk ht => ?_
      refine hQ h' _ _ ⟨_, hp', hbs', rfl, he'⟩ ⟨ht, hk.registry, fun s hs => ?_⟩ hcalm hpk hpass
      rw [hk.other s hs, Env.news, guestWrites_append, guestWrites_writes]
      simp [guestWrites]
    · -- a server that runs is as good
      obtain ⟨ht, hr, hother⟩ := went_next E qd h
      have herr : qmpCommand E qd.qmp_sock (.nbdServerStart qd.nbd_unix_sock) h =
          .error .serverRunning { h.next E with
            trace := .command qd.qmp_sock (.nbdServerStart qd.nbd_unix_sock) ::
              (h.next E).trace } := by
        simp only [qmpCommand, hfault, Bool.false_eq_true, if_false, hnext, Process.exec, hn']
      rw [wp_of_error herr, if_pos rfl]
      refine hQ _ _ _ ⟨_, hnext, hbs', hn', he'⟩ ⟨?_, hr, fun s hs => ?_⟩ hcalm
        (pickles_next E h) hpass
      · rw [ht]
        rfl
      · refine (hother s hs).trans ?_
        simp only [Env.news, guestWrites_append, List.nil_append]
        simp [guestWrites]
  · have herr : ∃ h', qmpCommand E qd.qmp_sock (.nbdServerStart qd.nbd_unix_sock) h =
        .error .failed h' := by
      simp only [qmpCommand, hfault, if_true]
      exact ⟨_, rfl⟩
    obtain ⟨h', herr⟩ := herr
    rw [wp_of_error herr, if_neg (by decide)]
    exact hX _ _

/-- The description of the export of a bitmap. -/
def descriptor (qd : QemuDisk) (name : String) : NbdDescriptor :=
  ⟨some qd.nbd_unix_sock, some ("cbt_" ++ name), some ("qemu:dirty-bitmap:" ++ name)⟩

theorem wp_cbtExportBitmap_of_ok {name : String} {Q : NbdDescriptor → Host → Prop}
    (hon : h.On qd bs nbd exports) (hX : ∀ e h', X e h') (hQ : ∀ h' bs' news,
      h'.On qd bs' (some (nbd.getD qd.nbd_unix_sock))
        (exports.set ("cbt_" ++ name) ⟨qd.block_node_name, some name⟩) →
      exports.get? ("cbt_" ++ name) = none → Went qd h h' news → (∀ e ∈ news, Calm e) →
      h'.pickles = h.pickles → (∀ n, Passes qd bs bs' news n) → Q (descriptor qd name) h') :
    wp (cbtExportBitmap E qd name) Q X h := by
  -- the export itself, once the server runs
  have hadd : ∀ h₁ bs₁ nbd₁ news₁, Host.On h₁ qd bs₁ nbd₁ exports →
      (nbd₁ = nbd ∨ nbd₁ = some (nbd.getD qd.nbd_unix_sock)) → Went qd h h₁ news₁ →
      (∀ e ∈ news₁, Calm e) → h₁.pickles = h.pickles → (∀ n, Passes qd bs bs₁ news₁ n) →
      wp (do
        let _ ← qmpCommand E qd.qmp_sock (.nbdServerAdd qd.block_node_name ("cbt_" ++ name) name)
        return descriptor qd name) Q X h₁ := by
    intro h₁ bs₁ nbd₁ news₁ hon₁ hnbd hw hcalm hpk hpass
    obtain ⟨p, hp, hbs, hn, he⟩ := hon₁
    rw [wp_bind]
    refine wp_qmpCommand_of_ok hX fun p₀ p' h' hp₀ hexec hp' hk hpk' ht => ?_
    cases hp.symm.trans hp₀
    obtain ⟨hbs', hn', he'⟩ := Host.On.arrive hbs hn he (E.writes h₁.clock)
    simp only [Process.exec, hn', hbs', he'] at hexec
    rcases nbd₁ with _ | socket
    · cases hexec
    · rcases hb : (Bitmaps.recordAll bs₁ (arriving qd.qmp_sock qd.block_node_name
        (E.writes h₁.clock))).get? name with _ | b
      · simp [hb] at hexec
      · rcases hex : exports.get? ("cbt_" ++ name) with _ | ex
        · simp only [hb, hex, Except.ok.injEq] at hexec
          subst hexec
          have hsock : some socket = some (nbd.getD qd.nbd_unix_sock) := by
            rcases hnbd with h' | h'
            · rw [← h']
              rfl
            · exact h'
          have hw' : Went qd h₁ h' (E.news h₁.clock [.command qd.qmp_sock
              (.nbdServerAdd qd.block_node_name ("cbt_" ++ name) name)]) := by
            refine ⟨ht, hk.registry, fun s hs => ?_⟩
            rw [hk.other s hs, Env.news, guestWrites_append, guestWrites_writes]
            simp [guestWrites]
          refine hQ h' _ _ ⟨_, hp', hbs', hsock, rfl⟩ hex (hw.trans hw')
            (calm_append ((commanded_news _ _).calm (by simp)) hcalm) (hpk'.trans hpk) fun n => ?_
          refine (hpass n).trans ?_
          have := passes_recordAll qd bs₁ (E.news h₁.clock [.command qd.qmp_sock
            (.nbdServerAdd qd.block_node_name ("cbt_" ++ name) name)]) n
          rwa [written_news] at this
        · simp [hb, hex] at hexec
  rw [cbtExportBitmap, wp_bind, ensureNbdServer, wp_bind, wp_get, wp_ite]
  refine ⟨fun _ => hadd h bs nbd [] hon (.inl rfl) (.refl h) (by simp) rfl fun n => ?_, fun _ => ?_⟩
  · have := passes_recordAll qd bs [] n
    rwa [show written qd [] = [] from rfl, Bitmaps.recordAll_nil] at this
  · rw [wp_bind]
    refine wp_startNbdServer_of_ok hon hX fun h₁ bs₁ news₁ hon₁ hw₁ hcalm₁ hpk₁ hpass₁ => ?_
    exact hadd _ bs₁ _ news₁ hon₁ (.inr rfl) ⟨hw₁.trace, hw₁.registry, hw₁.other⟩ hcalm₁ hpk₁ hpass₁

/-- **What exporting a bitmap does**: it is frozen, shown by the NBD server, and described. -/
theorem wp_exportBitmap_of_ok {name : String} {b : Bitmap} {Q : BitmapPayload → Host → Prop}
    (hon : h.On qd bs nbd exports) (hb : bs.get? name = some b) (hX : ∀ e h', X e h')
    (hQ : ∀ h' bs' news b' count,
      h'.On qd bs' (some (nbd.getD qd.nbd_unix_sock))
        (exports.set ("cbt_" ++ name) ⟨qd.block_node_name, some name⟩) →
      exports.get? ("cbt_" ++ name) = none → Went qd h h' news → (∀ e ∈ news, Calm e) →
      h'.pickles = h.pickles → bs'.get? name = some b' → b'.granularity = b.granularity →
      b'.recording = false → (∀ k ∈ b.dirty, k ∈ b'.dirty) →
      (∀ k ∈ b'.dirty, k ∈ b.dirty ∨ Touched (written qd news) b.granularity k) →
      (∀ n, n ≠ name → Passes qd bs bs' news n) →
      Q ⟨name, some b.granularity, count, some (descriptor qd name)⟩ h') :
    wp (exportBitmap E qd name) Q X h := by
  rw [exportBitmap, wp_bind, cbtBitmapDisable, wp_bind]
  refine wp_onBitmap_of_ok hon hb (fun _ => rfl) hX
    fun _ h₁ bs₁ news₁ hon₁ hw₁ hc₁ hpk₁ hb₁ hpass₁ => ?_
  rw [wp_pure, wp_bind]
  refine wp_cbtListBitmaps_of_ok hon₁ hX fun h₂ bs₂ news₂ hon₂ hw₂ hc₂ hpk₂ hpass₂ => ?_
  have hb₂ := (hpass₂ name).get hb₁
  rw [hb₂]
  dsimp only
  rw [wp_bind]
  refine wp_cbtExportBitmap_of_ok hon₂ hX fun h₃ bs₃ news₃ hon₃ hex hw₃ hcalm₃ hpk₃ hpass₃ => ?_
  have hb₃ := (hpass₃ name).get hb₂
  rw [wp_pure]
  have hdirty : ∀ k, k ∈ ((({ b.recordAll (written qd news₁) with recording := false } :
      Bitmap).recordAll (written qd news₂)).recordAll (written qd news₃)).dirty ↔
        k ∈ (b.recordAll (written qd news₁)).dirty := by
    intro k
    rw [Bitmap.mem_dirty_recordAll, Bitmap.mem_dirty_recordAll]
    simp
  have hcalm : ∀ e ∈ news₃ ++ (news₂ ++ news₁), Calm e :=
    calm_append hcalm₃ (calm_append (hc₂.calm (by simp)) (hc₁.calm (by simp)))
  have hgran : (b.granularity : ℤ) = ((({ b.recordAll (written qd news₁) with recording := false } :
      Bitmap).recordAll (written qd news₂)).granularity : ℤ) := by simp
  rw [← hgran]
  refine hQ h₃ bs₃ (news₃ ++ (news₂ ++ news₁)) _ _ hon₃ hex ((hw₁.trans hw₂).trans hw₃) hcalm
    (hpk₃.trans (hpk₂.trans hpk₁)) hb₃ (by simp) (by simp) (fun k hk => ?_) (fun k hk => ?_)
    fun n hn => ((hpass₁ n hn).trans (hpass₂ n)).trans (hpass₃ n)
  · rw [hdirty, Bitmap.mem_dirty_recordAll]
    exact .inl hk
  · rw [hdirty, Bitmap.mem_dirty_recordAll] at hk
    refine hk.imp id fun hk => ?_
    rw [written_append, written_append, touched_append, touched_append]
    exact .inl (.inl hk.2)

/-! ### The capture -/

/-- The name of the bitmap of a snapshot. -/
def frozenName (snap_uuid : String) : String := CBT_SNAPSHOT_BITMAP_PREFIX ++ snap_uuid

theorem frozenName_ne (snap_uuid : String) : frozenName snap_uuid ≠ CBT_ACTIVE_BITMAP := by
  intro h
  have := congrArg (fun s => s.toList.take 5) h
  simp [frozenName, CBT_SNAPSHOT_BITMAP_PREFIX, CBT_ACTIVE_BITMAP] at this

/-- The command after which `cbt-active` records again. -/
def enabling (qd : QemuDisk) : Event :=
  .command qd.qmp_sock (.bitmapEnable qd.block_node_name CBT_ACTIVE_BITMAP)

/-- What a capture leaves of the bitmap `b`: `frz` in the snapshot's bitmap and `act` in the bitmap of
the volume, with `before` and `after` the parts of the trace around the command that enables it. -/
structure Captured (qd : QemuDisk) (sr snap_uuid : String) (b : Bitmap) (bs : Bitmaps)
    (nbd : Option String) (exports : Dict String Export) (h h' : Host) (bs' : Bitmaps)
    (act frz : Bitmap) (before after : List Event) : Prop where
  on : h'.On qd bs' (some (nbd.getD qd.nbd_unix_sock))
    (exports.set ("cbt_" ++ frozenName snap_uuid) ⟨qd.block_node_name, some (frozenName snap_uuid)⟩)
  absent : bs.get? (frozenName snap_uuid) = none
  unexported : exports.get? ("cbt_" ++ frozenName snap_uuid) = none
  went : Went qd h h' (after ++ enabling qd :: before)
  calm_before : ∀ e ∈ before, Calm e
  calm_after : ∀ e ∈ after, Calm e
  active : bs'.get? CBT_ACTIVE_BITMAP = some act
  active_granularity : act.granularity = b.granularity
  active_recording : act.recording = true
  mem_active : ∀ k, k ∈ act.dirty ↔ Touched (written qd after) b.granularity k
  frozen : bs'.get? (frozenName snap_uuid) = some frz
  frozen_granularity : frz.granularity = b.granularity
  frozen_recording : frz.recording = false
  mem_frozen : ∀ k ∈ b.dirty, k ∈ frz.dirty
  of_mem_frozen : ∀ k ∈ frz.dirty, k ∈ b.dirty ∨
    Touched (written qd (after ++ enabling qd :: before)) b.granularity k
  passes : ∀ n, n ≠ CBT_ACTIVE_BITMAP → n ≠ frozenName snap_uuid →
    Passes qd bs bs' (after ++ enabling qd :: before) n
  pickles : ∃ count, h'.pickles = h.pickles.set ("file://" ++ sr, snap_uuid)
    (some (.dict (Dict.empty.set (frozenName snap_uuid) (.dict ⟨frozenName snap_uuid,
      some b.granularity, count, some (descriptor qd (frozenName snap_uuid))⟩))))

/-- What the first four commands of a capture leave: `frz` in the snapshot's bitmap, and `act`, which is
empty and disabled, in that of the volume. -/
structure Frozen (qd : QemuDisk) (snap_uuid : String) (b : Bitmap) (bs : Bitmaps)
    (nbd : Option String) (exports : Dict String Export) (h h' : Host) (bs' : Bitmaps)
    (act frz : Bitmap) (news : List Event) : Prop where
  on : h'.On qd bs' nbd exports
  absent : bs.get? (frozenName snap_uuid) = none
  went : Went qd h h' news
  calm : ∀ e ∈ news, Calm e
  active : bs'.get? CBT_ACTIVE_BITMAP = some act
  active_granularity : act.granularity = b.granularity
  active_recording : act.recording = false
  active_dirty : act.dirty = []
  frozen : bs'.get? (frozenName snap_uuid) = some frz
  frozen_granularity : frz.granularity = b.granularity
  mem_frozen : ∀ k ∈ b.dirty, k ∈ frz.dirty
  of_mem_frozen : ∀ k ∈ frz.dirty, k ∈ b.dirty ∨ Touched (written qd news) b.granularity k
  passes : ∀ n, n ≠ CBT_ACTIVE_BITMAP → n ≠ frozenName snap_uuid → Passes qd bs bs' news n
  pickles : h'.pickles = h.pickles

/-- The bits are moved to the bitmap of the snapshot. -/
theorem wp_freeze {α : Type} {snap_uuid : String} {b : Bitmap} {rest : CbtM α} {Q : α → Host → Prop}
    (hon : h.On qd bs nbd exports) (hb : bs.get? CBT_ACTIVE_BITMAP = some b) (hX : ∀ e h', X e h')
    (hQ : ∀ h' bs' act frz news,
      Frozen qd snap_uuid b bs nbd exports h h' bs' act frz news → wp rest Q X h') :
    wp (do
      cbtBitmapDisable E qd CBT_ACTIVE_BITMAP
      cbtBitmapAdd E qd (frozenName snap_uuid) b.granularity
      cbtBitmapMerge E qd (frozenName snap_uuid) [CBT_ACTIVE_BITMAP]
      cbtBitmapClear E qd CBT_ACTIVE_BITMAP
      rest) Q X h := by
  have hne := frozenName_ne snap_uuid
  -- disable
  rw [wp_bind, cbtBitmapDisable, wp_bind]
  refine wp_onBitmap_of_ok hon hb (fun _ => rfl) hX
    fun _ h₁ bs₁ news₁ hon₁ hw₁ hc₁ hpk₁ ha₁ hpass₁ => ?_
  -- add
  rw [wp_pure, wp_bind]
  refine wp_cbtBitmapAdd_of_ok hon₁ hX
    fun h₂ bs₂ news₂ hg hon₂ hw₂ hc₂ hpk₂ habsent hf₂ hpass₂ => ?_
  have ha₂ := (hpass₂ _ hne.symm).get ha₁
  -- merge
  rw [wp_bind]
  refine wp_cbtBitmapMerge_of_ok hon₂ hf₂ ha₂ (by simp) hX
    fun h₃ bs₃ news₃ hon₃ hw₃ hc₃ hpk₃ hf₃ hpass₃ => ?_
  have ha₃ := (hpass₃ _ hne.symm).get ha₂
  -- clear
  rw [wp_bind, cbtBitmapClear, wp_bind]
  refine wp_onBitmap_of_ok hon₃ ha₃ (fun _ => rfl) hX
    fun _ h₄ bs₄ news₄ hon₄ hw₄ hc₄ hpk₄ ha₄ hpass₄ => ?_
  have hf₄ := (hpass₄ _ hne).get hf₃
  rw [wp_pure]
  refine hQ h₄ bs₄ _ _ (news₄ ++ (news₃ ++ (news₂ ++ news₁))) {
    on := hon₄
    absent := ?_
    went := ((hw₁.trans hw₂).trans hw₃).trans hw₄
    calm := calm_append (hc₄.calm (by simp)) (calm_append (hc₃.calm (by simp))
      (calm_append (hc₂.calm (by simp)) (hc₁.calm (by simp))))
    active := ha₄
    active_granularity := by simp
    active_recording := by simp
    active_dirty := rfl
    frozen := hf₄
    frozen_granularity := by simp
    mem_frozen := fun k hk => by simp [Bitmap.mem_dirty_recordAll, hk]
    of_mem_frozen := fun k hk => ?_
    passes := fun n hn hn' =>
      (((hpass₁ n hn).trans (hpass₂ n hn')).trans (hpass₃ n hn')).trans (hpass₄ n hn)
    pickles := hpk₄.trans (hpk₃.trans (hpk₂.trans hpk₁)) }
  · have := hpass₁ _ hne
    rw [Passes, habsent] at this
    exact Option.map_eq_none_iff.1 this.symm
  · have hbits : ((k ∈ b.dirty ∨ b.recording = true ∧ Touched (written qd news₁) b.granularity k) ∨
        Touched (written qd news₃) b.granularity k) ∨ Touched (written qd news₄) b.granularity k := by
      simpa [Bitmap.mem_dirty_recordAll] using hk
    simp only [written_append, touched_append]
    rcases hbits with ((hk' | ⟨-, hk'⟩) | hk') | hk' <;> simp only [hk', true_or, or_true]

/-- Tracking goes on, and the bitmap of the snapshot is exported and saved. -/
theorem wp_resume {sr snap_uuid : String} {b act frz : Bitmap} {bs₁ : Bitmaps} {h₁ : Host}
    {news : List Event} {Q : Unit → Host → Prop}
    (hz : Frozen qd snap_uuid b bs nbd exports h h₁ bs₁ act frz news) (hX : ∀ e h', X e h')
    (hQ : ∀ h' bs' act frz before after,
      Captured qd sr snap_uuid b bs nbd exports h h' bs' act frz before after → Q () h') :
    wp (do
      cbtBitmapEnable E qd CBT_ACTIVE_BITMAP
      let payload ← exportBitmap E qd (frozenName snap_uuid)
      saveCbtMetadata E ("file://" ++ sr) snap_uuid
        (Dict.empty.set (frozenName snap_uuid) (.dict payload))) Q X h₁ := by
  have hne := frozenName_ne snap_uuid
  -- enable
  rw [wp_bind, cbtBitmapEnable, wp_bind]
  refine wp_onBitmap_of_ok hz.on hz.active (fun _ => rfl) hX
    fun _ h₂ bs₂ news₂ hon₂ hw₂ hc₂ hpk₂ ha₂ hpass₂ => ?_
  have hf₂ := (hpass₂ _ hne).get hz.frozen
  -- export
  rw [wp_pure, wp_bind]
  refine wp_exportBitmap_of_ok hon₂ hf₂ hX fun h₃ bs₃ news₃ frz₃ count hon₃ hex hw₃ hcalm₃ hpk₃ hf₃
    hg₃ hr₃ hmem₃ hof₃ hpass₃ => ?_
  have ha₃ := (hpass₃ _ hne.symm).get ha₂
  -- save
  refine wp_fileCommand_of_ok hX ?_
  obtain ⟨before₂, rfl, hbefore₂⟩ := hc₂.head
  have hcalm₂ : ∀ e ∈ before₂, Calm e := by
    intro e he
    obtain ⟨w, rfl⟩ := hbefore₂ e he
    trivial
  have hon₄ := hon₃.next (E := E)
  rw [← written_news_nil] at hon₄
  have hpass₄ := passes_recordAll qd bs₃ (E.news h₃.clock [])
  have hwent := hz.went.trans (hw₂.trans (hw₃.trans (went_next E qd h₃)))
  have hnews : (E.news h₃.clock [] ++ news₃) ++ enabling qd :: (before₂ ++ news) =
      E.news h₃.clock [] ++ news₃ ++ (enabling qd :: before₂) ++ news := by simp
  refine hQ _ _ _ _ (before₂ ++ news) (E.news h₃.clock [] ++ news₃) {
    on := hon₄
    absent := hz.absent
    unexported := hex
    went := ?_
    calm_before := calm_append hcalm₂ hz.calm
    calm_after := calm_append (calm_news _) hcalm₃
    active := (hpass₄ _).get ha₃
    active_granularity := by simp [hz.active_granularity]
    active_recording := by simp
    mem_active := fun k => ?_
    frozen := (hpass₄ _).get hf₃
    frozen_granularity := by simpa [hz.frozen_granularity] using hg₃
    frozen_recording := by simpa using hr₃
    mem_frozen := fun k hk => ?_
    of_mem_frozen := fun k hk => ?_
    passes := fun n hn hn' => ?_
    pickles := ⟨count, ?_⟩ }
  · rw [hnews]
    exact ⟨hwent.trace, hwent.registry, hwent.other⟩
  · simp [Bitmap.mem_dirty_recordAll, written_append, touched_append, hz.active_dirty,
      hz.active_recording, hz.active_granularity]
  · rw [Bitmap.mem_dirty_recordAll]
    refine .inl (hmem₃ k ?_)
    simp [Bitmap.mem_dirty_recordAll, hz.mem_frozen k hk]
  · have hfrz : k ∈ frz₃.dirty := by simpa [Bitmap.mem_dirty_recordAll, hr₃] using hk
    have hbits := hof₃ k hfrz
    rw [Bitmap.mem_dirty_recordAll, Bitmap.granularity_recordAll, hz.frozen_granularity,
      written_command] at hbits
    rw [hnews]
    simp only [written_append, touched_append]
    rw [enabling, written_command]
    rcases hbits with (hk' | ⟨-, hk'⟩) | hk'
    · exact (hz.of_mem_frozen k hk').imp id .inl
    · simp only [hk', true_or, or_true]
    · simp only [hk', true_or, or_true]
  · rw [hnews]
    exact (hz.passes n hn hn').trans ((hpass₂ n hn).trans ((hpass₃ n hn').trans (hpass₄ n)))
  · change (h₃.next E).pickles.set _ _ = _
    rw [pickles_next, hpk₃, hpk₂, hz.pickles]
    simp [hz.frozen_granularity]

/-- **The bits after a capture.** -/
theorem wp_captureBitmap {sr snap_uuid : String} {b : Bitmap} {Q : Unit → Host → Prop}
    (hon : h.On qd bs nbd exports) (hb : bs.get? CBT_ACTIVE_BITMAP = some b) (hX : ∀ e h', X e h')
    (hQ : ∀ h' bs' act frz before after,
      Captured qd sr snap_uuid b bs nbd exports h h' bs' act frz before after → Q () h') :
    wp (captureBitmap E qd b.granularity sr snap_uuid) Q X h := by
  rw [captureBitmap, ← frozenName]
  exact wp_freeze hon hb hX fun _ _ _ _ _ hz => wp_resume hz hX hQ

end Cbt

/-
**Does every QMP command get its own reply?** (`QMPConnection` of `src/datapath/qemudisk_raw.py`)

The client reads a message by parsing everything that arrived since the last one, again after every
`recv`, until that is one JSON document.  It has no buffer for what follows a message, and it does not
tell replies from the events that qemu sends on its own.

Main definitions:

* `Qmp.JsonLoads` — `json.loads`, which succeeds exactly on one complete document;
* `Qmp.recvFrom`, `Qmp.connect`, `Qmp.command` — the client;
* `Qmp.Server`, `Qmp.Arrives` — what a server says, and how it arrives, `recv` by `recv`;
* `Qmp.Corresponds` — every command gets its own reply;
* `Qmp.Undisturbed` — the reply of an exchange arrives alone.

Main results:

* `Qmp.recvFrom_eq_reply_iff` — one exchange;
* `Qmp.corresponds_iff` — **every command gets its own reply exactly when every reply arrives alone**;
* `Qmp.not_corresponds_event` — an event before a reply.
-/

import Mathlib.Data.List.Infix
import Mathlib.Data.List.TakeWhile
import ZfsLive.Base.Dict
import ZfsLive.Base.Utf8
import ZfsLive.Base.Wp

set_option relaxedAutoImplicit false
set_option autoImplicit false

namespace Qmp

open Utf8

/-! ### JSON -/

/-- The characters between JSON tokens. -/
def isBlank (c : Char) : Bool := c = ' ' || c = '\t' || c = '\n' || c = '\r'

def Blank (t : List Char) : Prop := ∀ c ∈ t, isBlank c = true

instance (t : List Char) : Decidable (Blank t) :=
  decidable_of_iff (t.all isBlank = true) List.all_eq_true

/-- A document: the members of an object, or anything else. -/
inductive Json (V : Type)
  | object (members : Dict String V)
  | other

/-- `json.loads`, as far as a stream of objects is concerned: it succeeds exactly on one complete
document with blanks around it, and an object is complete at the brace that closes it. -/
structure JsonLoads (V : Type) where
  loads : List Char → Option (Json V)
  /-- The value of an empty object. -/
  empty : V
  /-- The texts of the objects. -/
  Object : List Char → Dict String V → Prop
  head_object {t : List Char} {m : Dict String V} : Object t m → ∃ rest, t = '{' :: rest
  loads_blank {t : List Char} : Blank t → loads t = none
  loads_object {t a b : List Char} {m : Dict String V} : Object t m → Blank a → Blank b →
    loads (a ++ t ++ b) = some (.object m)
  loads_part {t a p : List Char} {m : Dict String V} : Object t m → Blank a → p <+: t → p ≠ t →
    loads (a ++ p) = none
  loads_more {t a b : List Char} {m : Dict String V} : Object t m → Blank a → ¬ Blank b →
    loads (a ++ t ++ b) = none

/-! ### The client -/

/-- What the calls of the client raise. -/
inductive Failure (V : Type)
  /-- `QMPError`: the socket refuses every attempt. -/
  | refused (socket_path : String)
  /-- `QMPError`: no greeting. -/
  | greeting (resp : Dict String V)
  /-- `QMPError`: the capabilities are not accepted. -/
  | capabilities (resp : Dict String V)
  /-- `QMPError`: the reply is an error. -/
  | command (cmd : String) (error : V)
  /-- `QMPError`: the connection was closed. -/
  | closed
  /-- `UnicodeDecodeError`. -/
  | unicode
  /-- `socket.timeout`. -/
  | timeout
  /-- A document that is not an object. -/
  | type

/-- What `_send` writes. -/
structure Request (V : Type) where
  execute : String
  arguments : Option (Dict String V)

/-- A connection. -/
structure Socket (V : Type) where
  /-- The attempts that are refused before one is accepted. -/
  refusals : ℕ
  /-- What the next calls of `recv` return; then nothing arrives. -/
  queue : List (List UInt8)
  /-- What arrives after each of the next requests. -/
  arrivals : List (List (List UInt8))
  sent : List (Request V)
  /-- The messages that were read. -/
  received : List (Dict String V)

abbrev QmpM (V α : Type) : Type := EStateM (Failure V) (Socket V) α

section

variable {V : Type} (J : JsonLoads V)

/-- The loop of `_recv` over the chunks, and the chunks that are left. -/
def recvFrom : List UInt8 → List (List UInt8) → Except (Failure V) (Json V) × List (List UInt8)
  | _, [] => (.error .timeout, [])
  | data, chunk :: chunks =>
      if chunk = [] then
        (.error .closed, chunks)
      else
        match decode (data ++ chunk) with
        | none => (.error .unicode, chunks)
        | some text =>
            match J.loads text with
            | some j => (.ok j, chunks)
            | none => recvFrom (data ++ chunk) chunks

/-- `_recv`. -/
def recv : QmpM V (Dict String V) := fun s =>
  match recvFrom J [] s.queue with
  | (.ok (.object m), rest) => .ok m { s with queue := rest, received := s.received ++ [m] }
  | (.ok .other, rest) => .error .type { s with queue := rest }
  | (.error e, rest) => .error e { s with queue := rest }

/-- `_send`; the server answers. -/
def send (r : Request V) : QmpM V Unit :=
  modify fun s => { s with
    sent := s.sent ++ [r]
    queue := s.queue ++ s.arrivals.headD []
    arrivals := s.arrivals.tail }

/-- `connect`. -/
def connect (socket_path : String) : QmpM V Unit := do
  let s ← get
  if 50 ≤ s.refusals then
    throw (.refused socket_path)
  let greeting ← recv J
  if (greeting.get? "QMP").isNone then
    throw (.greeting greeting)
  send ⟨"qmp_capabilities", none⟩
  let resp ← recv J
  if (resp.get? "return").isNone then
    throw (.capabilities resp)

/-- `command`. -/
def command (cmd : String) (kwargs : Dict String V) : QmpM V V := do
  send ⟨cmd, if kwargs.items.isEmpty then none else some kwargs⟩
  let resp ← recv J
  match resp.get? "error" with
  | some e => throw (.command cmd e)
  | none => return (resp.get? "return").getD J.empty

/-- Commands one after the other, and what each returns or raises. -/
def runCommands : List (String × Dict String V) → Socket V →
    List (Except (Failure V) V) × Socket V
  | [], s => ([], s)
  | (cmd, kwargs) :: cs, s =>
      match command J cmd kwargs s with
      | .ok v s' => (.ok v :: (runCommands cs s').1, (runCommands cs s').2)
      | .error e s' => (.error e :: (runCommands cs s').1, (runCommands cs s').2)

/-! ### The server -/

/-- A message: an object, and the blanks after it. -/
structure Message where
  text : List Char
  blanks : List Char
  members : Dict String V
  object : J.Object text members
  blank : Blank blanks

/-- What a server says from one reply to the next. -/
structure Turn where
  events : List (Message J)
  reply : Message J
  event : ∀ e ∈ events, (e.members.get? "event").isSome = true
  no_event : reply.members.get? "event" = none

/-- What a server says: a greeting, the answer to `qmp_capabilities`, one reply for each command, and
events anywhere after the greeting. -/
structure Server where
  greeting : Turn J
  capabilities : Turn J
  turns : List (Turn J)
  trailing : List (Message J)
  greeting_first : greeting.events = []
  greeting_qmp : (greeting.reply.members.get? "QMP").isSome = true
  accepted : (capabilities.reply.members.get? "return").isSome = true
  reply : ∀ turn ∈ turns, (turn.reply.members.get? "return").isSome =
    (turn.reply.members.get? "error").isNone
  trailing_event : ∀ e ∈ trailing, (e.members.get? "event").isSome = true

/-- The turns, with that of the greeting. -/
def Server.all {J : JsonLoads V} (server : Server J) : List (Turn J) :=
  server.greeting :: server.capabilities :: server.turns

/-- The text of some messages. -/
def textOf (ms : List (Message J)) : List Char := ms.flatMap fun m => m.text ++ m.blanks

/-- The chunks that arrive in each turn.  Each turn brings the rest of its events and all of its reply;
`early` has come with the turn before it, and the next events may come early as well, but a reply
does not come before its command. -/
def Arrives (trailing : List (Message J)) :
    List UInt8 → List (Turn J) → List (List (List UInt8)) → Prop
  | early, [], as => as = [] ∧ early <+: encode (textOf J trailing)
  | _, _ :: _, [] => False
  | early, turn :: turns, a :: as =>
      (∀ chunk ∈ a, chunk ≠ [] ∧ chunk.length ≤ 4096) ∧ early <+: encode (textOf J turn.events) ∧
        ∃ more, early ++ a.flatten =
          encode (textOf J turn.events ++ (turn.reply.text ++ turn.reply.blanks)) ++ more ∧
          Arrives trailing more turns as

/-! ### Commands and their replies -/

/-- What a command returns or raises when it gets this reply. -/
def outcome (c : String × Dict String V) (reply : Dict String V) : Except (Failure V) V :=
  match reply.get? "error" with
  | some e => .error (.command c.1 e)
  | none => .ok ((reply.get? "return").getD J.empty)

/-- The connection before the greeting. -/
def opened (refusals : ℕ) (arrivals : List (List (List UInt8))) : Socket V :=
  ⟨refusals, arrivals.headD [], arrivals.tail, [], []⟩

/-- Connecting succeeds, every command gets its own reply, and no other message is read. -/
def Corresponds (server : Server J) (socket_path : String) (cs : List (String × Dict String V))
    (s : Socket V) : Prop :=
  ∃ s', connect J socket_path s = .ok () s' ∧
    (runCommands J cs s').1 =
      List.zipWith (outcome J) cs (server.turns.map fun turn => turn.reply.members) ∧
    (runCommands J cs s').2.received = server.all.map fun turn => turn.reply.members

/-- One `recv` ends right after the message, blanks apart, and none up to there ends inside a
character. -/
def Alone (m : Message J) (a : List (List UInt8)) : Prop :=
  ∃ n b, Blank b ∧ (a.take n).flatten = encode (m.text ++ b) ∧
    ∀ i ≤ n, (decode (a.take i).flatten).isSome = true

/-- No event is sent before the reply, and the reply arrives alone. -/
def Undisturbed (turn : Turn J) (a : List (List UInt8)) : Prop :=
  turn.events = [] ∧ Alone J turn.reply a

end

/-! ### Texts -/

variable {V : Type} {J : JsonLoads V} {w b t text : List Char} {m : Message J}

theorem isPrefix_append_cases {p a : List Char} (h : p <+: a ++ b) :
    p <+: a ∨ ∃ x, p = a ++ x ∧ x <+: b := by
  rcases List.prefix_or_prefix_of_prefix h (List.prefix_append a b) with h' | ⟨x, rfl⟩
  · exact .inl h'
  · exact .inr ⟨x, rfl, (List.prefix_append_right_inj a).1 h⟩

theorem Blank.append {a : List Char} (ha : Blank a) (hb : Blank b) : Blank (a ++ b) := by
  intro c hc
  rcases List.mem_append.1 hc with hc | hc
  · exact ha c hc
  · exact hb c hc

theorem Blank.of_isPrefix (hb : Blank b) {a : List Char} (h : a <+: b) : Blank a :=
  fun c hc => hb c (h.subset hc)

theorem Blank.of_append_right {a : List Char} (h : Blank (a ++ b)) : Blank b :=
  fun c hc => h c (List.mem_append_right a hc)

/-- A blank is one byte. -/
theorem length_encode_blank {c : Char} (hc : isBlank c = true) :
    (String.utf8EncodeChar c).length = 1 := by
  simp only [isBlank, Bool.or_eq_true, decide_eq_true_eq] at hc
  rcases hc with ((rfl | rfl) | rfl) | rfl
  · decide
  · decide
  · decide
  · decide

/-- Blanks can be cut anywhere. -/
theorem isSome_decode_of_blank {bs : List UInt8} (hw : Blank w) (h : bs <+: encode w) :
    (decode bs).isSome = true := by
  induction w generalizing bs with
  | nil =>
      rw [List.prefix_nil.1 h]
      exact isSome_decode_iff.2 ⟨[], rfl⟩
  | cons c w ih =>
      obtain ⟨x, hx⟩ := List.length_eq_one_iff.1 (length_encode_blank (hw c List.mem_cons_self))
      have hcons : encode (c :: w) = x :: encode w := by
        rw [encode, List.flatMap_cons, hx]
        rfl
      rw [hcons] at h
      rcases bs with _ | ⟨y, bs⟩
      · exact isSome_decode_iff.2 ⟨[], rfl⟩
      · obtain ⟨rfl, hbs⟩ := List.cons_prefix_cons.1 h
        have hc : encode [c] = [y] := by
          rw [encode, List.flatMap_cons, hx]
          rfl
        have := (isSome_decode_append_iff [c] bs).2
          (ih (fun d hd => hw d (List.mem_cons_of_mem c hd)) hbs)
        rwa [hc] at this

/-- The text of a message starts with a brace. -/
theorem Message.exists_text (m : Message J) : ∃ rest, m.text = '{' :: rest := J.head_object m.object

/-- What follows a message: nothing, or a brace. -/
def Opens (t : List Char) : Prop := t = [] ∨ ∃ rest, t = '{' :: rest

theorem opens_textOf (ms : List (Message J)) : Opens (textOf J ms) := by
  cases ms with
  | nil => exact .inl rfl
  | cons m ms =>
      obtain ⟨rest, hrest⟩ := m.exists_text
      refine .inr ⟨rest ++ m.blanks ++ textOf J ms, ?_⟩
      rw [textOf, List.flatMap_cons, hrest]
      rfl

/-- Blanks that follow a message belong to it. -/
theorem isPrefix_blanks (ht : Opens t) (hb : Blank b) (h : b <+: w ++ t) : b <+: w := by
  rcases isPrefix_append_cases h with h | ⟨x, rfl, hx⟩
  · exact h
  · rcases x with _ | ⟨c, x⟩
    · simp
    · have hc := hb.of_append_right c List.mem_cons_self
      rcases ht with rfl | ⟨rest, rfl⟩
      · simp at hx
      · obtain ⟨rfl, -⟩ := List.cons_prefix_cons.1 hx
        cases hc

/-- **What parses is one message**, blanks apart. -/
theorem loads_eq_some {j : Json V} (hw : Blank w) (htext : text <+: w ++ (m.text ++ t))
    (h : J.loads text = some j) :
    ∃ b, Blank b ∧ b <+: t ∧ text = w ++ (m.text ++ b) ∧ j = .object m.members := by
  rcases isPrefix_append_cases htext with hblank | ⟨p, rfl, hp⟩
  · rw [J.loads_blank (hw.of_isPrefix hblank)] at h
    cases h
  rcases isPrefix_append_cases hp with hpart | ⟨b, rfl, hb⟩
  · by_cases hwhole : p = m.text
    · subst hwhole
      refine ⟨[], by simp [Blank], List.nil_prefix, by simp, ?_⟩
      have := J.loads_object (b := []) m.object hw (by simp [Blank])
      rw [List.append_nil, h] at this
      exact Option.some.inj this
    · rw [J.loads_part m.object hw hpart hwhole] at h
      cases h
  · rw [← List.append_assoc] at h
    by_cases hblank : Blank b
    · rw [J.loads_object m.object hw hblank] at h
      exact ⟨b, hblank, hb, rfl, (Option.some.inj h).symm⟩
    · rw [J.loads_more m.object hw hblank] at h
      cases h

/-! ### One message -/

/-- A chunk that does not complete the message is kept. -/
theorem recvFrom_cons {data chunk : List UInt8} {chunks : List (List UInt8)} (hc : chunk ≠ [])
    (htext : decode (data ++ chunk) = some text) (hnone : J.loads text = none) :
    recvFrom J data (chunk :: chunks) = recvFrom J (data ++ chunk) chunks := by
  simp only [recvFrom, hc, if_false, htext, hnone]

/-- **What is read is the next message**, when the bytes are those of a message and what follows it. -/
theorem recvFrom_eq_ok {data z : List UInt8} {chunks rest : List (List UInt8)} {j : Json V}
    (hw : Blank w) (hdata : (decode data).isSome = true)
    (htext : data ++ (chunks.flatten ++ z) = encode (w ++ (m.text ++ t)))
    (h : recvFrom J data chunks = (.ok j, rest)) :
    ∃ taken b, chunks = taken ++ rest ∧ Blank b ∧ b <+: t ∧
      data ++ taken.flatten = encode (w ++ (m.text ++ b)) ∧ j = .object m.members ∧
      ∀ i ≤ taken.length, (decode (data ++ (taken.take i).flatten)).isSome = true := by
  induction chunks generalizing data with
  | nil => simp [recvFrom] at h
  | cons chunk chunks ih =>
      by_cases hc : chunk = []
      · simp [recvFrom, hc] at h
      rcases hdec : decode (data ++ chunk) with _ | text
      · simp [recvFrom, hc, hdec] at h
      have hsome : (decode (data ++ chunk)).isSome = true := by rw [hdec]; rfl
      have hread := decode_eq_some_iff.1 hdec
      have htext' : (data ++ chunk) ++ (chunks.flatten ++ z) = encode (w ++ (m.text ++ t)) := by
        rw [← htext]
        simp
      rcases hload : J.loads text with _ | j'
      · -- the document is not complete
        rw [recvFrom_cons hc hdec hload] at h
        obtain ⟨taken, b, rfl, hb, hbt, htaken, hj, hall⟩ := ih hsome htext' h
        refine ⟨chunk :: taken, b, rfl, hb, hbt, ?_, hj, fun i hi => ?_⟩
        · rw [← htaken]
          simp
        · rcases i with _ | i
          · simpa using hdata
          · simpa using hall i (Nat.le_of_succ_le_succ hi)
      · simp only [recvFrom, hc, if_false, hdec, hload, Prod.mk.injEq, Except.ok.injEq] at h
        obtain ⟨rfl, rfl⟩ := h
        rw [hread] at htext'
        obtain ⟨b, hb, hbt, rfl, hj⟩ := loads_eq_some hw (isPrefix_of_encode_append htext') hload
        refine ⟨[chunk], b, rfl, hb, hbt, by simpa using hread, hj, fun i hi => ?_⟩
        rcases i with _ | i
        · simpa using hdata
        · simpa using hsome

/-- A part of a message is not all of it. -/
theorem encode_ne_whole {u : List Char} (hu : u <+: w ++ m.text) (hne : u ≠ w ++ m.text) :
    encode u ≠ encode (w ++ (m.text ++ b)) := by
  intro h
  have hwhole := encode_injective h
  rw [← List.append_assoc] at hwhole
  refine hne (hu.eq_of_length_le ?_)
  rw [hwhole]
  simp

/-- **A message that arrives alone is read.** -/
theorem recvFrom_of_alone {u : List Char} {chunks : List (List UInt8)} {n : ℕ} (hw : Blank w)
    (hu : u <+: w ++ m.text) (hne : u ≠ w ++ m.text) (hchunks : ∀ chunk ∈ chunks, chunk ≠ [])
    (hb : Blank b) (hn : encode u ++ (chunks.take n).flatten = encode (w ++ (m.text ++ b)))
    (hdec : ∀ i ≤ n, (decode (encode u ++ (chunks.take i).flatten)).isSome = true) :
    ∃ rest b' w', recvFrom J (encode u) chunks = (.ok (.object m.members), rest) ∧ b = b' ++ w' ∧
      rest.flatten = encode w' ++ (chunks.drop n).flatten := by
  induction chunks generalizing u n with
  | nil => exact (encode_ne_whole hu hne (by simpa using hn)).elim
  | cons chunk chunks ih =>
      rcases n with _ | n
      · exact (encode_ne_whole hu hne (by simpa using hn)).elim
      have hc : chunk ≠ [] := hchunks chunk List.mem_cons_self
      have hsome := hdec 1 (by omega)
      simp only [List.take_succ_cons, List.take_zero, List.flatten_cons, List.flatten_nil,
        List.append_nil] at hsome
      obtain ⟨text, hread⟩ := isSome_decode_iff.1 hsome
      rw [List.take_succ_cons, List.flatten_cons, ← List.append_assoc, hread] at hn
      have htext : text <+: w ++ (m.text ++ b) := isPrefix_of_encode_append hn
      have hdecode : decode (encode u ++ chunk) = some text := decode_eq_some_iff.2 hread
      rcases hload : J.loads text with _ | j
      · rw [recvFrom_cons hc hdecode hload, hread]
        rw [← List.append_assoc] at htext
        rcases isPrefix_append_cases htext with hpart | ⟨x, rfl, hx⟩
        · refine ih hpart ?_ (fun c hc => hchunks c (List.mem_cons_of_mem _ hc)) hn fun i hi => ?_
          · rintro rfl
            have := J.loads_object (b := []) m.object hw (by simp [Blank])
            rw [List.append_nil, hload] at this
            cases this
          · have := hdec (i + 1) (by omega)
            rwa [List.take_succ_cons, List.flatten_cons, ← List.append_assoc, hread] at this
        · rw [J.loads_object m.object hw (hb.of_isPrefix hx)] at hload
          cases hload
      · obtain ⟨b', hb', ⟨w', rfl⟩, rfl, rfl⟩ := loads_eq_some hw htext hload
        refine ⟨chunks, b', w', ?_, rfl, ?_⟩
        · simp only [recvFrom, hc, if_false, hdecode, hload]
        · have hrest : (chunks.take n).flatten = encode w' := by
            refine (List.append_right_inj (encode (w ++ (m.text ++ b')))).1 (hn.trans ?_)
            simp
          rw [List.drop_succ_cons, ← hrest, ← List.flatten_append, List.take_append_drop]

/-! ### One exchange -/

theorem textOf_cons (m : Message J) (ms : List (Message J)) :
    textOf J (m :: ms) = m.text ++ (m.blanks ++ textOf J ms) := by
  rw [textOf, List.flatMap_cons, List.append_assoc]
  rfl

section

variable {turn : Turn J} {left a rest : List (List UInt8)} {early more : List UInt8}
  {next : List (Message J)}

/-- The bytes in hand when a turn is awaited, and those that follow. -/
theorem exists_bytes (hleft : left.flatten = encode w ++ early)
    (harr : early ++ a.flatten =
      encode (textOf J turn.events ++ (turn.reply.text ++ turn.reply.blanks)) ++ more)
    (hmore : more <+: encode (textOf J next)) : ∃ z, (left ++ a).flatten ++ z = encode
      (w ++ (textOf J turn.events ++ (turn.reply.text ++ (turn.reply.blanks ++ textOf J next)))) := by
  obtain ⟨z, hz⟩ := hmore
  refine ⟨z, ?_⟩
  calc (left ++ a).flatten ++ z = encode w ++ (early ++ a.flatten) ++ z := by
        rw [List.flatten_append, hleft]
        simp
    _ = encode w ++ (encode (textOf J turn.events ++ (turn.reply.text ++ turn.reply.blanks)) ++
          (more ++ z)) := by
        rw [harr]
        simp
    _ = _ := by
        rw [hz]
        simp

/-- **An exchange that gets its reply was undisturbed**, and only blanks of the reply are left over. -/
theorem undisturbed_of_recvFrom (hw : Blank w) (hleft : left.flatten = encode w ++ early)
    (hearly : early <+: encode (textOf J turn.events))
    (harr : early ++ a.flatten =
      encode (textOf J turn.events ++ (turn.reply.text ++ turn.reply.blanks)) ++ more)
    (hmore : more <+: encode (textOf J next))
    (hread : recvFrom J [] (left ++ a) = (.ok (.object turn.reply.members), rest)) :
    Undisturbed J turn a ∧ ∃ w', Blank w' ∧ rest.flatten = encode w' ++ more := by
  obtain ⟨z, hz⟩ := exists_bytes hleft harr hmore
  have hdata : (decode []).isSome = true := isSome_decode_iff.2 ⟨[], rfl⟩
  rcases hevents : turn.events with _ | ⟨e, es⟩
  · rw [hevents, textOf, List.flatMap_nil, List.nil_append] at hz
    rw [hevents, textOf, List.flatMap_nil, encode_nil, List.prefix_nil] at hearly
    rw [hearly, List.append_nil] at hleft
    rw [hearly, hevents, textOf, List.flatMap_nil, List.nil_append, List.nil_append] at harr
    obtain ⟨taken, b, htaken, hb, hbt, hbytes, -, hall⟩ := recvFrom_eq_ok hw hdata hz hread
    rw [List.nil_append] at hbytes
    have hblanks : b <+: turn.reply.blanks := isPrefix_blanks (opens_textOf next) hb hbt
    obtain ⟨rest', hrest'⟩ := turn.reply.exists_text
    rcases List.append_eq_append_iff.1 htaken with ⟨a', rfl, rfl⟩ | ⟨c', rfl, -⟩
    · rw [List.flatten_append, hleft, encode_append] at hbytes
      have hbytes := List.append_cancel_left hbytes
      refine ⟨⟨hevents, a'.length, b, hb, by simpa using hbytes, fun i hi => ?_⟩, ?_⟩
      · have hi' := hall (left.length + i) (by simpa using hi)
        rw [List.nil_append, List.take_length_add_append, List.flatten_append, hleft,
          isSome_decode_append_iff] at hi'
        rwa [List.take_append_of_le_length hi]
      · obtain ⟨w', hw'⟩ := hblanks
        have hblank := turn.reply.blank
        rw [← hw'] at hblank harr
        refine ⟨w', hblank.of_append_right, ?_⟩
        rw [List.flatten_append, hbytes] at harr
        refine (List.append_right_inj (encode (turn.reply.text ++ b))).1 (harr.trans ?_)
        simp
    · -- the reply is not in what was left over
      rw [List.flatten_append, hbytes] at hleft
      have hlength := (isPrefix_of_encode_append hleft).length_le
      rw [hrest'] at hlength
      simp only [List.cons_append, List.length_append, List.length_cons] at hlength
      omega
  · rw [hevents, textOf_cons, List.append_assoc] at hz
    obtain ⟨_, _, -, -, -, -, hj, -⟩ := recvFrom_eq_ok (m := e) hw hdata hz hread
    -- the first event was read
    have hevent := turn.event e (by rw [hevents]; exact List.mem_cons_self)
    have hmembers : turn.reply.members = e.members := Json.object.inj hj
    rw [← hmembers, turn.no_event] at hevent
    cases hevent

/-- **An undisturbed exchange gets its reply.** -/
theorem recvFrom_of_undisturbed (hw : Blank w) (hleft : left.flatten = encode w ++ early)
    (hearly : early <+: encode (textOf J turn.events))
    (hchunks : ∀ chunk ∈ left ++ a, chunk ≠ []) (h : Undisturbed J turn a) :
    ∃ rest, recvFrom J [] (left ++ a) = (.ok (.object turn.reply.members), rest) := by
  obtain ⟨hevents, n, b, hb, hn, hdec⟩ := h
  rw [hevents, textOf, List.flatMap_nil, encode_nil, List.prefix_nil] at hearly
  rw [hearly, List.append_nil] at hleft
  obtain ⟨rest', hrest'⟩ := turn.reply.exists_text
  have hne : ([] : List Char) ≠ w ++ turn.reply.text := by
    rw [hrest']
    simp
  have hbytes : encode [] ++ ((left ++ a).take (left.length + n)).flatten =
      encode (w ++ (turn.reply.text ++ b)) := by
    rw [List.take_length_add_append, List.flatten_append, hleft, hn]
    simp
  have hall : ∀ i ≤ left.length + n,
      (decode (encode [] ++ ((left ++ a).take i).flatten)).isSome = true := by
    intro i hi
    rw [encode_nil, List.nil_append]
    rcases Nat.lt_or_ge left.length i with hlt | hle
    · obtain ⟨k, rfl⟩ := Nat.exists_eq_add_of_le (Nat.le_of_lt hlt)
      rw [List.take_length_add_append, List.flatten_append, hleft, isSome_decode_append_iff]
      exact hdec k (by omega)
    · rw [List.take_append_of_le_length hle]
      refine isSome_decode_of_blank hw ?_
      rw [← hleft]
      exact List.IsPrefix.flatten (List.take_prefix i left)
  obtain ⟨rest, -, -, hread, -⟩ :=
    recvFrom_of_alone hw List.nil_prefix hne hchunks hb hbytes hall
  exact ⟨rest, hread⟩

end

/-! ### Runs -/

section

variable {s s₁ s₂ : Socket V} {turn : Turn J} {turns : List (Turn J)} {trailing : List (Message J)}

/-- The connection before a turn: blanks are left of the last reply, and events may have come early. -/
def Waiting (trailing : List (Message J)) (turns : List (Turn J)) (s : Socket V) : Prop :=
  ∃ w early, Blank w ∧ s.queue.flatten = encode w ++ early ∧ (∀ chunk ∈ s.queue, chunk ≠ []) ∧
    Arrives J trailing early turns s.arrivals

/-- What may come early belongs to the next events. -/
theorem Arrives.isPrefix {early : List UInt8} {as : List (List (List UInt8))}
    (h : Arrives J trailing early turns as) :
    ∃ next, early <+: encode (textOf J next) := by
  cases turns with
  | nil => exact ⟨trailing, h.2⟩
  | cons turn turns =>
      cases as with
      | nil => exact h.elim
      | cons a as => exact ⟨turn.events, h.2.1⟩

theorem recv_ok {m : Dict String V} {rest : List (List UInt8)}
    (h : recvFrom J [] s.queue = (.ok (.object m), rest)) :
    recv J s = .ok m { s with queue := rest, received := s.received ++ [m] } := by
  simp only [recv, h]

/-- What `recv` leaves of the queue. -/
theorem recvFrom_suffix {data : List UInt8} {chunks rest : List (List UInt8)}
    {r : Except (Failure V) (Json V)} (h : recvFrom J data chunks = (r, rest)) : rest <:+ chunks := by
  induction chunks generalizing data with
  | nil =>
      simp only [recvFrom, Prod.mk.injEq] at h
      rw [← h.2]
  | cons chunk chunks ih =>
      simp only [recvFrom] at h
      split at h
      · rw [← (Prod.mk.inj h).2]
        exact List.suffix_cons chunk chunks
      · split at h
        · rw [← (Prod.mk.inj h).2]
          exact List.suffix_cons chunk chunks
        · split at h
          · rw [← (Prod.mk.inj h).2]
            exact List.suffix_cons chunk chunks
          · exact (ih h).trans (List.suffix_cons chunk chunks)

theorem exists_recvFrom_of_recv {m : Dict String V} (h : recv J s = .ok m s₂) :
    ∃ rest, recvFrom J [] s.queue = (.ok (.object m), rest) ∧
      s₂ = { s with queue := rest, received := s.received ++ [m] } := by
  rw [recv] at h
  split at h
  · next m' rest hread =>
      cases h
      exact ⟨rest, hread, rfl⟩
  · cases h
  · cases h

theorem received_of_recv {m : Dict String V} (h : recv J s = .ok m s₂) :
    s₂.received = s.received ++ [m] := by
  obtain ⟨rest, -, rfl⟩ := exists_recvFrom_of_recv h
  rfl

/-- `recv` logs at most the message that it returns. -/
theorem received_recv (J : JsonLoads V) (s : Socket V) :
    (∃ m s₂, recv J s = .ok m s₂ ∧ s₂.received = s.received ++ [m]) ∨
      ∃ e s₂, recv J s = .error e s₂ ∧ s₂.received = s.received := by
  rw [recv]
  split
  · exact .inl ⟨_, _, rfl, rfl⟩
  · exact .inr ⟨_, _, rfl, rfl⟩
  · exact .inr ⟨_, _, rfl, rfl⟩

/-- **One turn**: its reply is read when it is undisturbed, and another message or none otherwise. -/
theorem recv_turn (s₁ : Socket V) (hwait : Waiting trailing (turn :: turns) s)
    (hqueue : s₁.queue = s.queue ++ s.arrivals.headD []) (harrivals : s₁.arrivals = s.arrivals.tail) :
    ∃ a as, s.arrivals = a :: as ∧
      ((∃ s₂, recv J s₁ = .ok turn.reply.members s₂ ∧ Undisturbed J turn a ∧
          Waiting trailing turns s₂ ∧ s₂.arrivals = as ∧
          s₂.received = s₁.received ++ [turn.reply.members]) ∨
        ¬ Undisturbed J turn a ∧ ∀ m s₂, recv J s₁ = .ok m s₂ → m ≠ turn.reply.members) := by
  obtain ⟨w, early, hw, hleft, hchunks, harr⟩ := hwait
  rcases has : s.arrivals with _ | ⟨a, as⟩
  · rw [has] at harr
    exact harr.elim
  rw [has] at harr hqueue harrivals
  obtain ⟨hsizes, hearly, more, hbytes, hrest⟩ := harr
  obtain ⟨next, hmore⟩ := hrest.isPrefix
  have hall : ∀ chunk ∈ s.queue ++ a, chunk ≠ [] := by
    intro chunk hmem
    rcases List.mem_append.1 hmem with hmem | hmem
    · exact hchunks chunk hmem
    · exact (hsizes chunk hmem).1
  have hback : ∀ rest, recvFrom J [] s₁.queue = (.ok (.object turn.reply.members), rest) →
      Undisturbed J turn a ∧ ∃ w', Blank w' ∧ rest.flatten = encode w' ++ more := by
    intro rest hread
    rw [hqueue] at hread
    exact undisturbed_of_recvFrom hw hleft hearly hbytes hmore hread
  refine ⟨a, as, rfl, ?_⟩
  by_cases hu : Undisturbed J turn a
  · obtain ⟨rest, hread⟩ := recvFrom_of_undisturbed hw hleft hearly hall hu
    change recvFrom J [] (s.queue ++ (a :: as).headD []) = _ at hread
    rw [← hqueue] at hread
    obtain ⟨-, w', hw', hflat⟩ := hback rest hread
    refine .inl ⟨_, recv_ok hread, hu, ⟨w', more, hw', hflat, fun chunk hmem => ?_, ?_⟩, ?_, rfl⟩
    · have := (recvFrom_suffix hread).subset hmem
      rw [hqueue] at this
      exact hall chunk this
    · change Arrives J trailing more turns s₁.arrivals
      rw [harrivals]
      exact hrest
    · exact harrivals
  · refine .inr ⟨hu, ?_⟩
    rintro m s₂ hok rfl
    obtain ⟨rest, hread, -⟩ := exists_recvFrom_of_recv hok
    exact hu (hback rest hread).1

/-- The connection when a request is out. -/
def Socket.answered (s : Socket V) (r : Request V) : Socket V :=
  { s with
    sent := s.sent ++ [r]
    queue := s.queue ++ s.arrivals.headD []
    arrivals := s.arrivals.tail }

theorem bind_send {α : Type} (r : Request V) (k : Unit → QmpM V α) (s : Socket V) :
    (send r >>= k) s = k () (s.answered r) := rfl

/-- What `command` writes. -/
def request (c : String × Dict String V) : Request V :=
  ⟨c.1, if c.2.items.isEmpty then none else some c.2⟩

/-- A run starts with its first command. -/
theorem runCommands_of_ok {c : String × Dict String V} (cs : List (String × Dict String V))
    {m : Dict String V} (h : recv J (s.answered (request c)) = .ok m s₂) :
    runCommands J (c :: cs) s =
      (outcome J c m :: (runCommands J cs s₂).1, (runCommands J cs s₂).2) := by
  obtain ⟨cmd, kwargs⟩ := c
  have hcommand : command J cmd kwargs s =
      match outcome J (cmd, kwargs) m with
      | .ok v => .ok v s₂
      | .error e => .error e s₂ := by
    rw [command, bind_send]
    refine (Wp.bind_ok h).trans ?_
    rw [outcome]
    cases m.get? "error" with
    | none => rfl
    | some e => rfl
  rw [runCommands, hcommand]
  cases outcome J (cmd, kwargs) m with
  | ok v => rfl
  | error e => rfl

theorem runCommands_of_error {c : String × Dict String V} (cs : List (String × Dict String V))
    {e : Failure V} (h : recv J (s.answered (request c)) = .error e s₂) :
    (runCommands J (c :: cs) s).2 = (runCommands J cs s₂).2 := by
  obtain ⟨cmd, kwargs⟩ := c
  have hcommand : command J cmd kwargs s = .error e s₂ := by
    rw [command, bind_send]
    exact Wp.bind_error h
  rw [runCommands, hcommand]

/-- A run logs at most one message for each command. -/
theorem received_runCommands (J : JsonLoads V) (cs : List (String × Dict String V)) (s : Socket V) :
    ∃ log, (runCommands J cs s).2.received = s.received ++ log ∧ log.length ≤ cs.length := by
  induction cs generalizing s with
  | nil => exact ⟨[], by simp [runCommands], le_rfl⟩
  | cons c cs ih =>
      rcases received_recv J (s.answered (request c)) with ⟨m, s₂, hok, hlog⟩ | ⟨e, s₂, herr, hlog⟩
      · obtain ⟨log, hrest, hlength⟩ := ih s₂
        refine ⟨m :: log, ?_, Nat.succ_le_succ hlength⟩
        rw [runCommands_of_ok cs hok, hrest, hlog]
        simp [Socket.answered]
      · obtain ⟨log, hrest, hlength⟩ := ih s₂
        refine ⟨log, ?_, Nat.le_succ_of_le hlength⟩
        rw [runCommands_of_error cs herr, hrest, hlog]
        rfl

/-- **A run of commands**: every command gets its own reply exactly when every reply arrives alone. -/
theorem runCommands_iff {cs : List (String × Dict String V)} (hwait : Waiting trailing turns s)
    (hlength : cs.length = turns.length) :
    ((runCommands J cs s).2.received = s.received ++ turns.map (fun turn => turn.reply.members) ↔
        List.Forall₂ (Undisturbed J) turns s.arrivals) ∧
      (List.Forall₂ (Undisturbed J) turns s.arrivals → (runCommands J cs s).1 =
        List.zipWith (outcome J) cs (turns.map fun turn => turn.reply.members)) := by
  induction turns generalizing s cs with
  | nil =>
      obtain ⟨w, early, -, -, -, harr⟩ := hwait
      rw [List.length_nil, List.length_eq_zero_iff] at hlength
      rw [hlength, harr.1]
      simp [runCommands]
  | cons turn turns ih =>
      rcases cs with _ | ⟨c, cs⟩
      · cases hlength
      have hlength' : cs.length = turns.length := Nat.succ.inj hlength
      obtain ⟨a, as, has, hcases⟩ := recv_turn (s.answered (request c)) hwait rfl rfl
      rw [has, List.forall₂_cons]
      rcases hcases with ⟨s₂, hok, hu, hwait₂, has₂, hlog⟩ | ⟨hu, hother⟩
      · obtain ⟨hiff, hanswers⟩ := ih hwait₂ hlength'
        rw [has₂] at hiff hanswers
        rw [runCommands_of_ok cs hok, List.map_cons, List.zipWith_cons_cons]
        refine ⟨?_, fun h => by rw [hanswers h.2]⟩
        have hreceived : s₂.received ++ turns.map (fun turn => turn.reply.members) =
            s.received ++ turn.reply.members :: turns.map fun turn => turn.reply.members := by
          rw [hlog]
          simp [Socket.answered]
        rw [← hreceived, hiff]
        exact (and_iff_right hu).symm
      · refine ⟨iff_of_false (fun hall => ?_) fun h => hu h.1, fun h => absurd h.1 hu⟩
        rcases received_recv J (s.answered (request c)) with ⟨m, s₂, hok, hlog⟩ | ⟨e, s₂, herr, hlog⟩
        · obtain ⟨log, hrest, -⟩ := received_runCommands J cs s₂
          rw [runCommands_of_ok cs hok, hrest, hlog, List.append_assoc] at hall
          exact hother m s₂ hok (List.cons.inj (List.append_cancel_left hall)).1
        · obtain ⟨log, hrest, hshort⟩ := received_runCommands J cs s₂
          rw [runCommands_of_error cs herr, hrest, hlog] at hall
          have hall := congrArg List.length (List.append_cancel_left hall)
          rw [List.map_cons, List.length_cons, List.length_map] at hall
          omega

/-- What `connect` does with the two messages that it reads. -/
theorem connect_eq (path : String) (hr : s.refusals < 50) :
    connect J path s = (recv J >>= fun greeting =>
      if (greeting.get? "QMP").isNone then throw (.greeting greeting)
      else send ⟨"qmp_capabilities", none⟩ >>= fun _ => recv J >>= fun resp =>
        if (resp.get? "return").isNone then throw (.capabilities resp) else pure ()) s := by
  have hget : ∀ k : Socket V → QmpM V Unit, (get >>= k) s = k s s := fun _ => rfl
  rw [connect, hget, if_neg (Nat.not_le.2 hr)]
  refine congrFun (congrArg (recv J >>= ·) (funext fun greeting => ?_)) s
  split
  · rfl
  · rfl

theorem connect_of_ok {greeting resp : Dict String V} (path : String) (hr : s.refusals < 50)
    (hgreeting : recv J s = .ok greeting s₁) (hqmp : (greeting.get? "QMP").isSome = true)
    (hresp : recv J (s₁.answered ⟨"qmp_capabilities", none⟩) = .ok resp s₂)
    (hreturn : (resp.get? "return").isSome = true) : connect J path s = .ok () s₂ := by
  rw [connect_eq path hr]
  refine (Wp.bind_ok hgreeting).trans ?_
  rw [if_neg (by rw [Option.isNone_iff_eq_none]; exact Option.isSome_iff_ne_none.1 hqmp), bind_send]
  refine (Wp.bind_ok hresp).trans ?_
  rw [if_neg (by rw [Option.isNone_iff_eq_none]; exact Option.isSome_iff_ne_none.1 hreturn)]
  rfl

theorem exists_of_connect {path : String} (hr : s.refusals < 50)
    (h : connect J path s = .ok () s₂) : ∃ greeting s₁ resp, recv J s = .ok greeting s₁ ∧
      recv J (s₁.answered ⟨"qmp_capabilities", none⟩) = .ok resp s₂ := by
  rw [connect_eq path hr] at h
  rcases hgreeting : recv J s with ⟨greeting, s₁⟩ | ⟨e, s₁⟩
  · replace h := (Wp.bind_ok hgreeting).symm.trans h
    split at h
    · cases h
    rw [bind_send] at h
    rcases hresp : recv J (s₁.answered ⟨"qmp_capabilities", none⟩) with ⟨resp, s₃⟩ | ⟨e, s₃⟩
    · replace h := (Wp.bind_ok hresp).symm.trans h
      split at h
      · cases h
      · cases h
        exact ⟨greeting, s₁, resp, rfl, hresp⟩
    · cases (Wp.bind_error hresp).symm.trans h
  · cases (Wp.bind_error hgreeting).symm.trans h

end

section

variable {server : Server J} {arrivals : List (List (List UInt8))} {refusals : ℕ} {path : String}
  {cs : List (String × Dict String V)}

theorem waiting_opened (refusals : ℕ) (hlegal : Arrives J server.trailing [] server.all arrivals) :
    Waiting server.trailing server.all (⟨refusals, [], arrivals, [], []⟩ : Socket V) :=
  ⟨[], [], by simp [Blank], rfl, by simp, hlegal⟩

theorem corresponds_of_undisturbed (hrefusals : refusals < 50)
    (hlegal : Arrives J server.trailing [] server.all arrivals)
    (hreplies : cs.length = server.turns.length)
    (hundisturbed : List.Forall₂ (Undisturbed J) server.all arrivals) :
    Corresponds J server path cs (opened refusals arrivals) := by
  obtain ⟨a₀, as₀, has₀, hcases₀⟩ :=
    recv_turn (opened refusals arrivals) (waiting_opened refusals hlegal) rfl rfl
  have has₀ : arrivals = a₀ :: as₀ := has₀
  rw [has₀, Server.all, List.forall₂_cons] at hundisturbed
  obtain ⟨hu₀, hundisturbed⟩ := hundisturbed
  obtain ⟨s₁, hok₀, -, hwait₁, has₁, hlog₁⟩ := hcases₀.resolve_right fun h => h.1 hu₀
  obtain ⟨a₁, as₁, hsplit, hcases₁⟩ :=
    recv_turn (s₁.answered ⟨"qmp_capabilities", none⟩) hwait₁ rfl rfl
  rw [← has₁, hsplit, List.forall₂_cons] at hundisturbed
  obtain ⟨hu₁, hundisturbed⟩ := hundisturbed
  obtain ⟨s₂, hok₁, -, hwait₂, has₂, hlog₂⟩ := hcases₁.resolve_right fun h => h.1 hu₁
  rw [← has₂] at hundisturbed
  obtain ⟨hiff, hanswers⟩ := runCommands_iff hwait₂ hreplies
  refine ⟨s₂, connect_of_ok path hrefusals hok₀ server.greeting_qmp hok₁ server.accepted,
    hanswers hundisturbed, (hiff.2 hundisturbed).trans ?_⟩
  rw [hlog₂]
  change s₁.received ++ _ ++ _ = _
  rw [hlog₁]
  rfl

theorem undisturbed_of_corresponds (hrefusals : refusals < 50)
    (hlegal : Arrives J server.trailing [] server.all arrivals)
    (hreplies : cs.length = server.turns.length)
    (h : Corresponds J server path cs (opened refusals arrivals)) :
    List.Forall₂ (Undisturbed J) server.all arrivals := by
  obtain ⟨s₂, hconnect, -, hall⟩ := h
  obtain ⟨greeting, s₁, resp, hgreeting, hresp⟩ := exists_of_connect hrefusals hconnect
  have hreceived : s₂.received = [greeting, resp] := by
    rw [received_of_recv hresp]
    change s₁.received ++ _ = _
    rw [received_of_recv hgreeting]
    rfl
  -- the first two messages are those of the server
  obtain ⟨log, hlog, -⟩ := received_runCommands J cs s₂
  have hall' := hall
  rw [hlog, hreceived, Server.all, List.map_cons, List.map_cons] at hall'
  have hfst : greeting = server.greeting.reply.members := (List.cons.inj hall').1
  have hsnd : resp = server.capabilities.reply.members := (List.cons.inj (List.cons.inj hall').2).1
  subst hfst hsnd
  obtain ⟨a₀, as₀, has₀, hcases₀⟩ :=
    recv_turn (opened refusals arrivals) (waiting_opened refusals hlegal) rfl rfl
  have has₀ : arrivals = a₀ :: as₀ := has₀
  obtain ⟨s₁', hok₀, hu₀, hwait₁, has₁, -⟩ :=
    hcases₀.resolve_right fun h => h.2 _ _ hgreeting rfl
  rw [hgreeting] at hok₀
  cases hok₀
  obtain ⟨a₁, as₁, hsplit, hcases₁⟩ :=
    recv_turn (s₁.answered ⟨"qmp_capabilities", none⟩) hwait₁ rfl rfl
  obtain ⟨s₂', hok₁, hu₁, hwait₂, has₂, -⟩ := hcases₁.resolve_right fun h => h.2 _ _ hresp rfl
  rw [hresp] at hok₁
  cases hok₁
  have hrest := (runCommands_iff hwait₂ hreplies).1.1 (by rw [hall, hreceived]; rfl)
  rw [has₂] at hrest
  rw [has₀, ← has₁, hsplit]
  exact .cons hu₀ (.cons hu₁ hrest)

end

/-- **Every command gets its own reply exactly when every reply arrives alone**, for a server that says
what it should and a connection that is accepted. -/
theorem corresponds_iff (J : JsonLoads V) (server : Server J) (arrivals : List (List (List UInt8)))
    (refusals : ℕ) (path : String) (cs : List (String × Dict String V)) (hrefusals : refusals < 50)
    (hlegal : Arrives J server.trailing [] server.all arrivals)
    (hreplies : cs.length = server.turns.length) :
    Corresponds J server path cs (opened refusals arrivals) ↔
      List.Forall₂ (Undisturbed J) server.all arrivals :=
  ⟨undisturbed_of_corresponds hrefusals hlegal hreplies,
    corresponds_of_undisturbed hrefusals hlegal hreplies⟩

/-! ### A server -/

/-- The text without the blanks at its end. -/
def stripEnd (t : List Char) : List Char := (t.reverse.dropWhile isBlank).reverse

/-- The text without the blanks around it. -/
def strip (t : List Char) : List Char := stripEnd (t.dropWhile isBlank)

theorem stripEnd_isPrefix (t : List Char) : stripEnd t <+: t := by
  rw [← List.reverse_suffix, stripEnd, List.reverse_reverse]
  exact List.dropWhile_suffix isBlank

theorem stripEnd_append_blank (t : List Char) (hb : Blank b) : stripEnd (t ++ b) = stripEnd t := by
  rw [stripEnd, List.reverse_append, List.dropWhile_append_of_pos, stripEnd]
  intro c hc
  exact hb c (List.mem_reverse.1 hc)

theorem stripEnd_append (t : List Char) (hb : ¬ Blank b) :
    ∃ x, x ≠ [] ∧ stripEnd (t ++ b) = t ++ x := by
  have hne : b.reverse.dropWhile isBlank ≠ [] := by
    intro hnil
    refine hb fun c hc => ?_
    exact List.dropWhile_eq_nil_iff.1 hnil c (List.mem_reverse.2 hc)
  refine ⟨stripEnd b, by simpa [stripEnd] using hne, ?_⟩
  rw [stripEnd, List.reverse_append, List.dropWhile_append, stripEnd]
  simp [hne]

theorem strip_blank_append {c : Char} {t : List Char} (ha : Blank w) (hc : isBlank c = false) :
    strip (w ++ c :: t) = stripEnd (c :: t) := by
  rw [strip, List.dropWhile_append_of_pos ha, List.dropWhile_cons_of_neg (by simp [hc])]

/-- The texts of a table of objects: each is an object without blanks around it, and none starts
another. -/
structure Texts (table : Dict (List Char) (Dict String V)) : Prop where
  head : ∀ k ∈ table.keys, k.head? = some '{'
  strip : ∀ k ∈ table.keys, stripEnd k = k
  free : ∀ k ∈ table.keys, ∀ k' ∈ table.keys, k <+: k' → k = k'

section

variable {table : Dict (List Char) (Dict String V)} {members : Dict String V}

theorem mem_keys_of_get? (h : table.get? t = some members) : t ∈ table.keys :=
  Dict.mem_keys_of_mem (Dict.get?_eq_some_iff.1 h)

theorem Texts.exists_cons (ht : Texts table) (h : table.get? t = some members) :
    ∃ rest, t = '{' :: rest := by
  obtain ⟨rest, hrest⟩ := List.head?_eq_some_iff.1 (ht.head t (mem_keys_of_get? h))
  exact ⟨rest, hrest⟩

/-- Neither a part of a text nor more than a text is a text. -/
theorem Texts.get?_eq_none (ht : Texts table) (h : table.get? t = some members)
    (hpart : text <+: t ∨ t <+: text) (hne : text ≠ t) : table.get? text = none := by
  by_contra hsome
  obtain ⟨m, hm⟩ := Option.ne_none_iff_exists'.1 hsome
  rcases hpart with hpart | hpart
  · exact hne (ht.free _ (mem_keys_of_get? hm) _ (mem_keys_of_get? h) hpart)
  · exact hne (ht.free _ (mem_keys_of_get? h) _ (mem_keys_of_get? hm) hpart).symm

/-- `json.loads` for the objects of a table. -/
def JsonLoads.ofTable (table : Dict (List Char) (Dict String V)) (empty : V)
    (ht : Texts table) : JsonLoads V where
  loads t := (table.get? (Qmp.strip t)).map .object
  empty := empty
  Object t m := table.get? t = some m
  head_object h := ht.exists_cons h
  loads_blank h := by
    rw [Qmp.strip, List.dropWhile_eq_nil_iff.2 h, Option.map_eq_none_iff, Dict.get?_eq_none_iff]
    intro m hm
    have := ht.head _ (Dict.mem_keys_of_mem hm)
    cases this
  loads_object h ha hb := by
    obtain ⟨rest, rfl⟩ := ht.exists_cons h
    rw [List.append_assoc, List.cons_append, strip_blank_append ha rfl, ← List.cons_append,
      stripEnd_append_blank _ hb, ht.strip _ (mem_keys_of_get? h), h]
    rfl
  loads_part h ha hp hne := by
    rename_i t a p m
    obtain ⟨rest, rfl⟩ := ht.exists_cons h
    rw [Option.map_eq_none_iff]
    rcases p with _ | ⟨c, p⟩
    · rw [List.append_nil, Qmp.strip, List.dropWhile_eq_nil_iff.2 ha]
      exact ht.get?_eq_none h (.inl List.nil_prefix) (by simp [stripEnd])
    · obtain ⟨rfl, -⟩ := List.cons_prefix_cons.1 hp
      rw [strip_blank_append ha rfl]
      refine ht.get?_eq_none h (.inl ((stripEnd_isPrefix _).trans hp)) fun heq => ?_
      exact hne (hp.eq_of_length_le (heq ▸ (stripEnd_isPrefix _).length_le))
  loads_more h ha hb := by
    obtain ⟨rest, rfl⟩ := ht.exists_cons h
    obtain ⟨x, hx, hstrip⟩ := stripEnd_append ('{' :: rest) hb
    rw [List.append_assoc, List.cons_append, strip_blank_append ha rfl, ← List.cons_append, hstrip,
      ht.get?_eq_none h (.inr (List.prefix_append _ x)) (by simpa using hx)]
    rfl

end

def greetingText : List Char := "\x7b\"QMP\": \x7b\x7d\x7d".toList
def returnText : List Char := "\x7b\"return\": \x7b\x7d\x7d".toList
def eventText : List Char := "\x7b\"event\": \"STOP\"\x7d".toList
def crlf : List Char := ['\r', '\n']

/-- A greeting, an empty answer, and an event. -/
def threeTexts : Dict (List Char) (Dict String Unit) :=
  ((Dict.empty.set greetingText (Dict.empty.set "QMP" ())).set returnText
    (Dict.empty.set "return" ())).set eventText (Dict.empty.set "event" ())

theorem texts_threeTexts : Texts threeTexts := ⟨by decide, by decide, by decide⟩

def threeLoads : JsonLoads Unit := .ofTable threeTexts () texts_threeTexts

def eventMessage : Message threeLoads := ⟨eventText, crlf, Dict.empty.set "event" (), rfl, by decide⟩

/-- The empty answer, after an event if `disturbed`. -/
def answerTurn (disturbed : Bool) : Turn threeLoads where
  events := if disturbed then [eventMessage] else []
  reply := ⟨returnText, crlf, Dict.empty.set "return" (), rfl, by decide⟩
  event := by
    cases disturbed with
    | false => simp
    | true => simp [eventMessage, Dict.get?_set]
  no_event := rfl

/-- A server that answers one command. -/
def oneServer (disturbed : Bool) : Server threeLoads where
  greeting := ⟨[], ⟨greetingText, crlf, Dict.empty.set "QMP" (), rfl, by decide⟩, by simp, rfl⟩
  capabilities := answerTurn false
  turns := [answerTurn disturbed]
  trailing := []
  greeting_first := rfl
  greeting_qmp := rfl
  accepted := rfl
  reply := by simp [answerTurn, Dict.get?_set]
  trailing_event := by simp

/-- Every message in a chunk of its own. -/
def oneArrivals (disturbed : Bool) : List (List (List UInt8)) :=
  [[encode (greetingText ++ crlf)], [encode (returnText ++ crlf)],
    (if disturbed then [encode (eventText ++ crlf)] else []) ++ [encode (returnText ++ crlf)]]

theorem arrives_oneArrivals (disturbed : Bool) :
    Arrives threeLoads [] [] (oneServer disturbed).all (oneArrivals disturbed) := by
  refine ⟨by decide, List.nil_prefix, [], rfl, by decide, List.nil_prefix, [], rfl, ?_⟩
  cases disturbed with
  | false => exact ⟨by decide, List.nil_prefix, [], by decide, rfl, List.nil_prefix⟩
  | true => exact ⟨by decide, List.nil_prefix, [], by decide, rfl, List.nil_prefix⟩

theorem corresponds_iff_quiet :
    Corresponds threeLoads (oneServer false) "qmp" [("stop", Dict.empty)]
        (opened 0 (oneArrivals false)) ↔
      List.Forall₂ (Undisturbed threeLoads) (oneServer false).all (oneArrivals false) :=
  corresponds_iff threeLoads (oneServer false) (oneArrivals false) 0 "qmp" [("stop", Dict.empty)]
    (by decide) (arrives_oneArrivals false) rfl

/-- **An event before a reply is taken for it.** -/
theorem not_corresponds_event : ¬ ∀ (V : Type) (J : JsonLoads V) (server : Server J)
    (arrivals : List (List (List UInt8))) (refusals : ℕ) (path : String)
    (cs : List (String × Dict String V)), refusals < 50 →
    Arrives J server.trailing [] server.all arrivals → cs.length = server.turns.length →
    Corresponds J server path cs (opened refusals arrivals) := by
  intro hall
  have hcorresponds := hall Unit threeLoads (oneServer true) (oneArrivals true) 0 "qmp"
    [("stop", Dict.empty)] (by decide) (arrives_oneArrivals true) rfl
  have hundisturbed :=
    undisturbed_of_corresponds (by decide) (arrives_oneArrivals true) rfl hcorresponds
  rw [Server.all, oneArrivals, List.forall₂_cons, List.forall₂_cons, oneServer,
    List.forall₂_cons] at hundisturbed
  obtain ⟨-, -, ⟨hevents, -⟩, -⟩ := hundisturbed
  cases hevents

end Qmp

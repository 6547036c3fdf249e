/-
**The NBD client and a server that keeps to the protocol** (`src/datapath/nbd_client.py`).

The client reads an arbitrary byte stream.  Here the other end is a server that answers as the protocol
lets it: with any option replies before an acknowledgement, with any number of chunks for a request, those
of other contexts and of types that the client passes over among them, and with descriptors that reach past
the end of a request.  The state machine of `ZfsLive/NbdSession.lean` reads what it writes frame by frame.

Main definitions:

* `NbdClient.Leads` — a list of frames that takes a session from one point to another;
* `NbdServer.Server`, `NbdServer.Server.Conforms` — a server, and that it keeps to the protocol;
* `NbdServer.requests` — the requests that it answers;
* `NbdServer.Server.Honest` — its answers reach the ends of the requests, and tell which bytes are dirty.

Main results:

* `NbdServer.Server.leads_frames` — the session with such a server;
* `NbdClient.session_sent` — the requests that the client sends;
* `NbdServer.fetchDirtyExtents_served` — **the client returns, with exactly the dirty bytes of an honest
  server**.
-/

import ZfsLive.NbdSession

set_option relaxedAutoImplicit false
set_option autoImplicit false

namespace NbdClient

open Bytes Loop

/-! ### Frames that are read one after the other -/

/-- The header is complete, and tells the length of the body. -/
structure Frame.Sized (f : Frame) : Prop where
  hdr : f.hdr.length = 20
  body : field 16 4 f.hdr = f.body.length

/-- The bytes of a frame. -/
def Frame.wire (f : Frame) : List UInt8 := f.hdr ++ f.body

/-- The frame is read in the phase `p`, and the session goes on as `next` says. -/
structure Reads (context : String) (p : Phase) (f : Frame) (next : Next) : Prop where
  sized : f.Sized
  header : headerError p f.hdr = none
  step : step context p f = .ok next

/-- **The frames take the session from one point to another.** -/
inductive Leads (context : String) : Next → List Frame → Next → Prop
  | refl (next : Next) : Leads context next [] next
  | cons {p : Phase} {f : Frame} {fs : List Frame} {next next' : Next} :
      Reads context p f next → Leads context next fs next' → Leads context (.inl p) (f :: fs) next'

variable {context : String} {p : Phase} {f : Frame} {fs fs' : List Frame} {a b c next : Next}

theorem Leads.single (h : Reads context p f next) : Leads context (.inl p) [f] next :=
  .cons h (.refl next)

theorem Leads.append (h : Leads context a fs b) (h' : Leads context b fs' c) :
    Leads context a (fs ++ fs') c := by
  induction h with
  | refl next => exact h'
  | cons hread _ ih => exact .cons hread (ih h')

/-- A frame is read from the beginning of the stream. -/
theorem result_watch_wire (h : Reads context p f next) (n : ℕ) (rest : List UInt8) :
    (watch context (n + 1) p (f.wire ++ rest)).result = goOn context n rest (.ok next) := by
  obtain ⟨hhdr, hbody⟩ := h.sized
  have hlen : (f.wire ++ rest).length = 20 + f.body.length + rest.length := by
    rw [Frame.wire, List.length_append, List.length_append, hhdr]
  have htake : (f.wire ++ rest).take 20 = f.hdr := by
    rw [Frame.wire, List.append_assoc, List.take_append_of_le_length (by omega), ← hhdr,
      List.take_length]
  have hdrop : (f.wire ++ rest).drop 20 = f.body ++ rest := by
    rw [Frame.wire, List.append_assoc, ← hhdr, List.drop_left]
  have hrest : (f.wire ++ rest).drop (20 + f.body.length) = rest := by
    rw [← List.drop_drop, hdrop, List.drop_left]
  rw [watch, if_neg (by omega), htake, h.header]
  simp only [hbody]
  rw [if_neg (by omega), hdrop, hrest, List.take_left]
  have hframe : (⟨f.hdr, f.body⟩ : Frame) = f := rfl
  rw [hframe, h.step]
  rcases next with p' | r
  · rfl
  · rfl

/-- **The frames are read, and the rest of the stream is left.** -/
theorem goOn_wire (h : Leads context a fs b) (n : ℕ) (rest : List UInt8) :
    goOn context (fs.length + n) (fs.flatMap Frame.wire ++ rest) (.ok a) =
      goOn context n rest (.ok b) := by
  induction h with
  | refl next => rw [List.length_nil, Nat.zero_add, List.flatMap_nil, List.nil_append]
  | @cons p f fs next next' hread _ ih =>
      have hlen : (f :: fs).length + n = fs.length + n + 1 := by
        rw [List.length_cons]
        omega
      rw [hlen, List.flatMap_cons, List.append_assoc, goOn, result_watch_wire hread, ih]

theorem length_le_wire (h : Leads context a fs b) : fs.length ≤ (fs.flatMap Frame.wire).length := by
  induction h with
  | refl next => exact Nat.le_refl _
  | cons hread _ ih =>
      have := hread.sized.hdr
      rw [List.flatMap_cons, List.length_append, Frame.wire, List.length_append, List.length_cons]
      omega

end NbdClient

namespace NbdServer

open Bytes NbdClient

/-! ### Servers -/

/-- What a chunk tells, where nothing has gone wrong. -/
inductive Told
  /-- No status: a chunk that ends a reply, or one of a type that the client does not know. -/
  | nothing (ctype : ℕ) (body : List UInt8)
  /-- The status of the blocks in a metadata context. -/
  | status (id : ℕ) (ds : List Descriptor)

namespace Told

def ctype : Told → ℕ
  | nothing ctype _ => ctype
  | status .. => NBD_REPLY_TYPE_BLOCK_STATUS

def body : Told → List UInt8
  | nothing _ body => body
  | status id ds => beBytes 4 id ++ NbdServer.descriptors ds

/-- What it tells of one context. -/
def descriptors (context_id : ℕ) : Told → List Descriptor
  | nothing .. => []
  | status id ds => if id = context_id then ds else []

/-- It fits its fields, and is no error. -/
def Fits : Told → Prop
  | nothing ctype body =>
      ctype < 2 ^ 15 ∧ ctype ≠ NBD_REPLY_TYPE_BLOCK_STATUS ∧ body.length < 256 ^ 4
  | status id ds => id < 256 ^ 4 ∧ 4 + 8 * ds.length < 256 ^ 4 ∧
      ∀ d ∈ ds, d.ext_len < 256 ^ 4 ∧ d.status < 256 ^ 4

end Told

/-- A server: what it replies to the two options before it acknowledges them, each with the type of the
reply, and the chunks of its answer to a request for so many bytes from an offset on. -/
structure Server where
  server_flags : ℕ
  context_id : ℕ
  export_size : ℕ
  metaReplies : List (ℕ × List UInt8)
  goReplies : List (ℕ × List UInt8)
  answer : ℕ → ℕ → List Told
  /-- The chunk that ends the answer. -/
  last : ℕ → ℕ → Told

/-- A reply to an option that is neither an error nor an acknowledgement. -/
def Plain (reply : ℕ × List UInt8) : Prop :=
  reply.1 < 2 ^ 31 ∧ reply.1 ≠ NBD_REP_ACK ∧ reply.2.length < 256 ^ 4

instance : DecidablePred Plain := fun _ => inferInstanceAs (Decidable (_ ∧ _ ∧ _))

/-- **The server keeps to the protocol**: it assigns its id to the context, tells the size of the export, and
answers no request with an error. -/
structure Server.Conforms (S : Server) : Prop where
  export_size : S.export_size < 256 ^ 8
  meta_plain : ∀ reply ∈ S.metaReplies, Plain reply
  meta_id : ∀ reply ∈ S.metaReplies, reply.1 = NBD_REP_META_CONTEXT →
    4 ≤ reply.2.length ∧ beNat (reply.2.take 4) = S.context_id
  meta_told : ∃ reply ∈ S.metaReplies, reply.1 = NBD_REP_META_CONTEXT
  go_plain : ∀ reply ∈ S.goReplies, Plain reply
  go_info : ∀ reply ∈ S.goReplies, reply.1 = NBD_REP_INFO → 2 ≤ reply.2.length ∧
    (beNat (reply.2.take 2) = NBD_INFO_EXPORT →
      12 ≤ reply.2.length ∧ beNat ((reply.2.drop 2).take 8) = S.export_size)
  go_told : ∃ reply ∈ S.goReplies, reply.1 = NBD_REP_INFO ∧
    beNat (reply.2.take 2) = NBD_INFO_EXPORT
  answer : ∀ offset length, ∀ t ∈ S.answer offset length, t.Fits
  last : ∀ offset length, (S.last offset length).Fits

/-! ### What it sends -/

def optionFrame (opt : ℕ) (reply : ℕ × List UInt8) : Frame where
  hdr := beBytes 8 NBD_OPTION_REPLY_MAGIC ++ beBytes 4 opt ++ beBytes 4 reply.1 ++
    beBytes 4 reply.2.length
  body := reply.2

def chunkFrame (flags handle : ℕ) (t : Told) : Frame where
  hdr := beBytes 4 NBD_STRUCTURED_REPLY_MAGIC ++ beBytes 2 flags ++ beBytes 2 t.ctype ++
    beBytes 8 handle ++ beBytes 4 t.body.length
  body := t.body

/-- Its bytes are those of an option reply. -/
theorem wire_optionFrame (opt : ℕ) (reply : ℕ × List UInt8) :
    (optionFrame opt reply).wire = optionReply opt reply.1 reply.2 := rfl

/-- Its bytes are those of a chunk. -/
theorem wire_chunkFrame (flags handle : ℕ) (t : Told) :
    (chunkFrame flags handle t).wire = chunk flags t.ctype handle t.body := rfl

/-- A request for the status of a part of the export. -/
structure Request where
  handle : ℕ
  offset : ℕ
  length : ℕ
  deriving DecidableEq, Repr

/-- The number of requests for an export. -/
def requestCount (export_size : ℕ) : ℕ :=
  (export_size + (BLOCK_STATUS_CHUNK - 1)) / BLOCK_STATUS_CHUNK

/-- The request with a number. -/
def request (export_size i : ℕ) : Request where
  handle := i
  offset := i * BLOCK_STATUS_CHUNK
  length := min BLOCK_STATUS_CHUNK (export_size - i * BLOCK_STATUS_CHUNK)

/-- **The requests of a walk over an export.** -/
def requests (export_size : ℕ) : List Request :=
  (List.range (requestCount export_size)).map (request export_size)

namespace Server

variable (S : Server)

/-- The answer to a request. -/
def replyFrames (r : Request) : List Frame :=
  (S.answer r.offset r.length).map (chunkFrame 0 r.handle) ++
    [chunkFrame NBD_REPLY_FLAG_DONE r.handle (S.last r.offset r.length)]

/-- All that it tells the client in answer to a request. -/
def told (r : Request) : List Descriptor :=
  (S.answer r.offset r.length ++ [S.last r.offset r.length]).flatMap
    (Told.descriptors S.context_id)

def replies : List Reply := (requests S.export_size).map fun r => ⟨r.offset, r.length, S.told r⟩

def frames : List Frame :=
  [optionFrame NBD_OPT_STRUCTURED_REPLY (NBD_REP_ACK, [])] ++
    (S.metaReplies.map (optionFrame NBD_OPT_SET_META_CONTEXT) ++
      [optionFrame NBD_OPT_SET_META_CONTEXT (NBD_REP_ACK, [])]) ++
    (S.goReplies.map (optionFrame NBD_OPT_GO) ++ [optionFrame NBD_OPT_GO (NBD_REP_ACK, [])]) ++
    (requests S.export_size).flatMap S.replyFrames

/-- **All that the server sends.** -/
def stream : List UInt8 := hello S.server_flags ++ S.frames.flatMap Frame.wire

end Server

/-! ### Its frames are read -/

section

variable {opt handle flags : ℕ} {reply : ℕ × List UInt8} {t : Told}

theorem sized_optionFrame (h : reply.2.length < 256 ^ 4) : (optionFrame opt reply).Sized where
  hdr := by simp [optionFrame]
  body := by
    have hlen : reply.2.length % 256 ^ 4 = reply.2.length := Nat.mod_eq_of_lt h
    simpa [optionFrame, field_append_right] using hlen

theorem body_optionFrame : (optionFrame opt reply).body = reply.2 := rfl

theorem option_optionFrame (h : opt < 256 ^ 4) : (optionFrame opt reply).option = opt := by
  have hopt : opt % 256 ^ 4 = opt := Nat.mod_eq_of_lt h
  simpa [Frame.option, optionFrame, field_append_left, field_append_right] using hopt

theorem rep_optionFrame (h : reply.1 < 2 ^ 31) : (optionFrame opt reply).rep = reply.1 := by
  have hrep : reply.1 % 256 ^ 4 = reply.1 := Nat.mod_eq_of_lt (by omega)
  simpa [Frame.rep, optionFrame, field_append_left, field_append_right] using hrep

theorem headerError_optionFrame {p : Phase} (hp : ∀ id size w ds, p ≠ .walk id size w ds) :
    headerError p (optionFrame opt reply).hdr = none := by
  have hmagic : field 0 8 (optionFrame opt reply).hdr = NBD_OPTION_REPLY_MAGIC := by
    simp [optionFrame, field_append_left, NBD_OPTION_REPLY_MAGIC]
  cases p with
  | walk id size w ds => exact absurd rfl (hp id size w ds)
  | _ => simp [headerError, hmagic]

theorem and_flagError (h : reply.1 < 2 ^ 31) : reply.1 &&& NBD_REP_FLAG_ERROR = 0 := by
  have hflag : NBD_REP_FLAG_ERROR = 2 ^ 31 := by decide
  rw [hflag, Nat.and_two_pow, Nat.testBit_lt_two_pow h]
  rfl

theorem length_descriptors (ds : List Descriptor) :
    (NbdServer.descriptors ds).length = 8 * ds.length := by
  induction ds with
  | nil => rfl
  | cons d ds ih =>
      have hcons : NbdServer.descriptors (d :: ds) =
          beBytes 4 d.ext_len ++ beBytes 4 d.status ++ NbdServer.descriptors ds := rfl
      rw [hcons, List.length_append, List.length_append, length_beBytes, length_beBytes, ih,
        List.length_cons]
      omega

theorem Told.length_body_lt (h : t.Fits) : t.body.length < 256 ^ 4 := by
  cases t with
  | nothing ctype body => exact h.2.2
  | status id ds =>
      rw [Told.body, List.length_append, length_beBytes, length_descriptors]
      exact h.2.1

theorem Told.ctype_lt (h : t.Fits) : t.ctype < 2 ^ 15 := by
  cases t with
  | nothing ctype body => exact h.1
  | status id ds => exact (by decide : NBD_REPLY_TYPE_BLOCK_STATUS < 2 ^ 15)

theorem sized_chunkFrame (h : t.Fits) : (chunkFrame flags handle t).Sized where
  hdr := by simp [chunkFrame]
  body := by
    have hlen : t.body.length % 256 ^ 4 = t.body.length := Nat.mod_eq_of_lt (Told.length_body_lt h)
    simpa [chunkFrame, field_append_right] using hlen

theorem ctype_chunkFrame (h : t.Fits) : (chunkFrame flags handle t).ctype = t.ctype := by
  have htype : t.ctype % 256 ^ 2 = t.ctype := Nat.mod_eq_of_lt (by have := Told.ctype_lt h; omega)
  simpa [Frame.ctype, chunkFrame, field_append_left, field_append_right] using htype

theorem headerError_chunkFrame {id size : ℕ} {w : Walk} {ds : List Descriptor}
    (hw : w.handle = handle) (hhandle : handle < 256 ^ 8) :
    headerError (.walk id size w ds) (chunkFrame flags handle t).hdr = none := by
  have hmagic : field 0 4 (chunkFrame flags handle t).hdr = NBD_STRUCTURED_REPLY_MAGIC := by
    simp [chunkFrame, field_append_left, NBD_STRUCTURED_REPLY_MAGIC]
  have hsame : field 8 8 (chunkFrame flags handle t).hdr = handle := by
    have hmod : handle % 256 ^ 8 = handle := Nat.mod_eq_of_lt hhandle
    simpa [chunkFrame, field_append_left, field_append_right] using hmod
  rw [headerError, hmagic, hsame, hw]
  simp

end

/-! ### The negotiation -/

section

variable {context : String} {opt c : ℕ} {replies : List (ℕ × List UInt8)} {S : Server}

/-- **Replies that each tell `c` or nothing**: after them `c` is known, if one of them has told it. -/
theorem leads_optionReplies {P : Option ℕ → Phase} {Tells : ℕ × List UInt8 → Prop}
    [DecidablePred Tells] {o : Option ℕ}
    (hread : ∀ reply ∈ replies, ∀ o, Reads context (P o) (optionFrame opt reply)
      (.inl (P (if Tells reply then some c else o))))
    (htold : (∃ reply ∈ replies, Tells reply) ∨ o = some c) :
    Leads context (.inl (P o)) (replies.map (optionFrame opt)) (.inl (P (some c))) := by
  induction replies generalizing o with
  | nil =>
      obtain ⟨reply, hmem, _⟩ | rfl := htold
      · cases hmem
      · exact .refl _
  | cons reply replies ih =>
      rw [List.map_cons]
      refine .cons (hread reply List.mem_cons_self o)
        (ih (fun r hr => hread r (List.mem_cons_of_mem _ hr)) ?_)
      by_cases htells : Tells reply
      · exact .inr (if_pos htells)
      · rw [if_neg htells]
        refine htold.imp_left ?_
        rintro ⟨r, hr, hr'⟩
        obtain rfl | hr := List.mem_cons.1 hr
        · exact absurd hr' htells
        · exact ⟨r, hr, hr'⟩

theorem reads_structuredReply : Reads context .structuredReply
    (optionFrame NBD_OPT_STRUCTURED_REPLY (NBD_REP_ACK, [])) (.inl (.metaContext none)) where
  sized := sized_optionFrame (by decide)
  header := headerError_optionFrame (by simp)
  step := by
    rw [step, option_optionFrame (by decide), rep_optionFrame (by decide), if_neg (by simp)]

theorem leads_metaContext (hS : S.Conforms) : Leads context (.inl (.metaContext none))
    (S.metaReplies.map (optionFrame NBD_OPT_SET_META_CONTEXT) ++
      [optionFrame NBD_OPT_SET_META_CONTEXT (NBD_REP_ACK, [])])
    (.inl (.go S.context_id none)) := by
  have hopt : ∀ reply, (optionFrame NBD_OPT_SET_META_CONTEXT reply).option =
      NBD_OPT_SET_META_CONTEXT := fun _ => option_optionFrame (by decide)
  have hread : ∀ reply ∈ S.metaReplies, ∀ o, Reads context (.metaContext o)
      (optionFrame NBD_OPT_SET_META_CONTEXT reply)
      (.inl (.metaContext (if reply.1 = NBD_REP_META_CONTEXT then some S.context_id else o))) := by
    intro reply hreply o
    obtain ⟨hrep, hack, hlen⟩ := hS.meta_plain reply hreply
    refine ⟨sized_optionFrame hlen, headerError_optionFrame (by simp), ?_⟩
    simp only [step.eq_def]
    rw [hopt, rep_optionFrame hrep, if_neg (not_not.2 rfl), if_neg (not_not.2 (and_flagError hrep))]
    by_cases hmeta : reply.1 = NBD_REP_META_CONTEXT
    · obtain ⟨hfour, hid⟩ := hS.meta_id reply hreply hmeta
      rw [if_pos hmeta, if_pos hmeta, body_optionFrame, if_neg (not_lt.2 hfour), hid]
    · rw [if_neg hmeta, if_neg hmeta, if_neg hack]
  have hack : Reads context (.metaContext (some S.context_id))
      (optionFrame NBD_OPT_SET_META_CONTEXT (NBD_REP_ACK, [])) (.inl (.go S.context_id none)) := by
    refine ⟨sized_optionFrame (by decide), headerError_optionFrame (by simp), ?_⟩
    rw [step, hopt, rep_optionFrame (by decide), if_neg (not_not.2 rfl), if_neg (by decide),
      if_neg (by decide), if_pos rfl]
  exact (leads_optionReplies hread (.inl hS.meta_told)).append (.single hack)

theorem leads_go (hS : S.Conforms) : Leads context (.inl (.go S.context_id none))
    (S.goReplies.map (optionFrame NBD_OPT_GO) ++ [optionFrame NBD_OPT_GO (NBD_REP_ACK, [])])
    (nextRequest S.context_id S.export_size ⟨0, 0, []⟩) := by
  have hopt : ∀ reply, (optionFrame NBD_OPT_GO reply).option = NBD_OPT_GO :=
    fun _ => option_optionFrame (by decide)
  have hread : ∀ reply ∈ S.goReplies, ∀ o, Reads context (.go S.context_id o)
      (optionFrame NBD_OPT_GO reply) (.inl (.go S.context_id
        (if reply.1 = NBD_REP_INFO ∧ beNat (reply.2.take 2) = NBD_INFO_EXPORT then
          some S.export_size else o))) := by
    intro reply hreply o
    obtain ⟨hrep, hack, hlen⟩ := hS.go_plain reply hreply
    refine ⟨sized_optionFrame hlen, headerError_optionFrame (by simp), ?_⟩
    simp only [step.eq_def]
    rw [hopt, rep_optionFrame hrep, if_neg (not_not.2 rfl), if_neg (not_not.2 (and_flagError hrep))]
    by_cases hinfo : reply.1 = NBD_REP_INFO
    · obtain ⟨htwo, hexport⟩ := hS.go_info reply hreply hinfo
      rw [if_pos hinfo, body_optionFrame, if_neg (not_lt.2 htwo)]
      by_cases htype : beNat (reply.2.take 2) = NBD_INFO_EXPORT
      · obtain ⟨htwelve, hsize⟩ := hexport htype
        rw [if_pos ⟨htype, htwelve⟩, if_pos ⟨hinfo, htype⟩, hsize]
      · rw [if_neg fun h => htype h.1, if_neg fun h => htype h.2]
    · rw [if_neg hinfo, if_neg hack, if_neg fun h => hinfo h.1]
  have hack : Reads context (.go S.context_id (some S.export_size))
      (optionFrame NBD_OPT_GO (NBD_REP_ACK, []))
      (nextRequest S.context_id S.export_size ⟨0, 0, []⟩) := by
    refine ⟨sized_optionFrame (by decide), headerError_optionFrame (by simp), ?_⟩
    rw [step, hopt, rep_optionFrame (by decide), if_neg (not_not.2 rfl), if_neg (by decide),
      if_neg (by decide), if_pos rfl]
  exact (leads_optionReplies hread (.inl hS.go_told)).append (.single hack)

end

/-! ### The walk -/

section

variable {context : String} {id size handle i : ℕ} {w : Walk} {ds : List Descriptor} {t : Told}
  {S : Server}

/-- The client reads the descriptors that the server has written. -/
theorem readDescriptors_descriptors (hfit : ∀ d ∈ ds, d.ext_len < 256 ^ 4 ∧ d.status < 256 ^ 4) :
    readDescriptors (NbdServer.descriptors ds) = ds := by
  induction ds with
  | nil => rfl
  | cons d ds ih =>
      obtain ⟨hlen, hstatus⟩ := hfit d List.mem_cons_self
      have hread : readDescriptors (NbdServer.descriptors (d :: ds)) =
          ⟨beNat (beBytes 4 d.ext_len), beNat (beBytes 4 d.status)⟩ ::
            readDescriptors (NbdServer.descriptors ds) := rfl
      rw [hread, ih fun d' hd' => hfit d' (List.mem_cons_of_mem _ hd'), beNat_beBytes_of_lt hlen,
        beNat_beBytes_of_lt hstatus]

/-- **The client takes from a chunk what it tells of its context.** -/
theorem takeChunk_chunkFrame {flags : ℕ} (h : t.Fits) :
    takeChunk id (chunkFrame flags handle t) = .ok (t.descriptors id) := by
  have hbody : (chunkFrame flags handle t).body = t.body := rfl
  have herr : t.ctype ≠ NBD_REPLY_TYPE_ERROR := by
    intro heq
    have hlt := Told.ctype_lt h
    rw [heq] at hlt
    exact absurd hlt (by decide)
  rw [takeChunk, ctype_chunkFrame h, hbody, if_neg herr]
  cases t with
  | nothing ctype body => exact if_pos h.2.1
  | status id' ds =>
      obtain ⟨hid, -, hfit⟩ := h
      have hlen : (Told.status id' ds).body.length = 4 + 8 * ds.length := by
        rw [Told.body, List.length_append, length_beBytes, length_descriptors]
      have htake : (Told.status id' ds).body.take 4 = beBytes 4 id' := by
        rw [Told.body, List.take_append_of_le_length (by rw [length_beBytes]),
          List.take_of_length_le (by rw [length_beBytes])]
      have hdrop : (Told.status id' ds).body.drop 4 = NbdServer.descriptors ds := by
        have hfour := length_beBytes 4 id'
        rw [Told.body, List.drop_append, List.drop_eq_nil_of_le (by omega), hfour]
        rfl
      have htype : (Told.status id' ds).ctype = NBD_REPLY_TYPE_BLOCK_STATUS := rfl
      have hmod : ¬ (4 + 8 * ds.length - 4) % 8 ≠ 0 := by omega
      rw [if_neg (not_not.2 htype), hlen, if_neg (by omega), htake, beNat_beBytes_of_lt hid, hdrop,
        readDescriptors_descriptors hfit, if_neg hmod]
      by_cases hctx : id' = id
      · rw [if_neg (not_not.2 hctx), Told.descriptors, if_pos hctx]
      · rw [if_pos hctx, Told.descriptors, if_neg hctx]

theorem done_chunkFrame {flags : ℕ} (hflags : flags < 256 ^ 2) :
    (chunkFrame flags handle t).done ↔ flags &&& NBD_REPLY_FLAG_DONE ≠ 0 := by
  have hfield : field 4 2 (chunkFrame flags handle t).hdr = flags := by
    have hmod : flags % 256 ^ 2 = flags := Nat.mod_eq_of_lt hflags
    simpa [chunkFrame, field_append_left, field_append_right] using hmod
  rw [Frame.done, hfield]

/-- A chunk that does not end the answer. -/
theorem reads_chunk (hw : w.handle = handle) (hhandle : handle < 256 ^ 8) (h : t.Fits) :
    Reads context (.walk id size w ds) (chunkFrame 0 handle t)
      (.inl (.walk id size w (ds ++ t.descriptors id))) where
  sized := sized_chunkFrame h
  header := headerError_chunkFrame hw hhandle
  step := by
    rw [step, takeChunk_chunkFrame h]
    exact if_neg fun hdone => (done_chunkFrame (by decide)).1 hdone (by decide)

/-- The chunk that ends it. -/
theorem reads_last (hw : w.handle = handle) (hhandle : handle < 256 ^ 8) (h : t.Fits) :
    Reads context (.walk id size w ds) (chunkFrame NBD_REPLY_FLAG_DONE handle t)
      (nextRequest id size (w.answered size (ds ++ t.descriptors id))) where
  sized := sized_chunkFrame h
  header := headerError_chunkFrame hw hhandle
  step := by
    rw [step, takeChunk_chunkFrame h]
    exact if_pos ((done_chunkFrame (by decide)).2 (by decide))

theorem leads_chunks (hw : w.handle = handle) (hhandle : handle < 256 ^ 8) {ts : List Told}
    (hfits : ∀ t ∈ ts, t.Fits) :
    Leads context (.inl (.walk id size w ds)) (ts.map (chunkFrame 0 handle))
      (.inl (.walk id size w (ds ++ ts.flatMap (Told.descriptors id)))) := by
  induction ts generalizing ds with
  | nil =>
      rw [List.flatMap_nil, List.append_nil]
      exact .refl _
  | cons t ts ih =>
      rw [List.map_cons, List.flatMap_cons, ← List.append_assoc]
      exact .cons (reads_chunk hw hhandle (hfits t List.mem_cons_self))
        (ih fun t' ht' => hfits t' (List.mem_cons_of_mem _ ht'))

/-- **The answer to one request.** -/
theorem leads_answer (hS : S.Conforms) {r : Request} (hw : w.handle = r.handle)
    (hhandle : r.handle < 256 ^ 8) :
    Leads context (.inl (.walk S.context_id S.export_size w [])) (S.replyFrames r)
      (nextRequest S.context_id S.export_size (w.answered S.export_size (S.told r))) := by
  rw [Server.replyFrames, Server.told, List.flatMap_append, List.flatMap_singleton]
  exact (leads_chunks hw hhandle (hS.answer r.offset r.length)).append
    (.single (reads_last hw hhandle (hS.last r.offset r.length)))

theorem lt_requestCount : i < requestCount size ↔ i * BLOCK_STATUS_CHUNK < size := by
  have hpos : 0 < BLOCK_STATUS_CHUNK := by decide
  rw [requestCount, Nat.lt_iff_add_one_le, Nat.le_div_iff_mul_le hpos, Nat.add_mul, Nat.one_mul]
  omega

/-- The walk before its request with the number `i`. -/
structure At (size i : ℕ) (w : Walk) : Prop where
  handle : w.handle = i
  offset : w.offset = min (i * BLOCK_STATUS_CHUNK) size

theorem At.offset_lt (h : At size i w) : w.offset < size ↔ i < requestCount size := by
  rw [h.offset, lt_requestCount]
  omega

theorem At.answered (h : At size i w) (hi : i < requestCount size) (ds : List Descriptor) :
    At size (i + 1) (w.answered size ds) ∧ (w.answered size ds).replies =
      w.replies ++ [⟨(request size i).offset, (request size i).length, ds⟩] := by
  have hlt := lt_requestCount.1 hi
  have hoff : w.offset = i * BLOCK_STATUS_CHUNK := by
    rw [h.offset]
    omega
  have hlen : nextLength size BLOCK_STATUS_CHUNK w = (request size i).length := by
    rw [nextLength, request, hoff]
  refine ⟨⟨by rw [Walk.answered, h.handle], ?_⟩, ?_⟩
  · rw [Walk.answered, nextLength, hoff, Nat.add_mul, Nat.one_mul]
    dsimp only
    omega
  · rw [Walk.answered, hlen, hoff]
    rfl

/-- **From one request to the last.** -/
theorem leads_requests (hS : S.Conforms) (k : ℕ) {i : ℕ} {w : Walk}
    (hcount : i + k = requestCount S.export_size) (hw : At S.export_size i w) :
    Leads context (nextRequest S.context_id S.export_size w)
      (((List.range' i k).map (request S.export_size)).flatMap S.replyFrames)
      (.inr (S.export_size, w.replies ++ ((List.range' i k).map (request S.export_size)).map
        fun r => ⟨r.offset, r.length, S.told r⟩)) := by
  induction k generalizing i w with
  | zero =>
      have hend : ¬ w.offset < S.export_size := by
        rw [hw.offset_lt]
        omega
      rw [nextRequest, if_neg hend]
      simpa using Leads.refl _
  | succ k ih =>
      have hi : i < requestCount S.export_size := by omega
      have hhandle : (request S.export_size i).handle < 256 ^ 8 := by
        have hlt := lt_requestCount.1 hi
        have hsize := hS.export_size
        have hle : i ≤ i * BLOCK_STATUS_CHUNK := Nat.le_mul_of_pos_right i (by decide)
        exact lt_of_le_of_lt hle (hlt.trans hsize)
      obtain ⟨hnext, hreplies⟩ := hw.answered hi (S.told (request S.export_size i))
      have hrest := ih (by omega) hnext
      rw [hreplies, List.append_assoc] at hrest
      rw [List.range'_succ, List.map_cons, List.map_cons, List.flatMap_cons, nextRequest,
        if_pos (hw.offset_lt.2 hi)]
      exact (leads_answer hS hw.handle hhandle).append hrest

/-- **The session with a server that keeps to the protocol**: it ends with the size of the export, and with
what the server has told in answer to each request. -/
theorem Server.leads_frames (hS : S.Conforms) :
    Leads context (.inl .structuredReply) S.frames (.inr (S.export_size, S.replies)) := by
  have hwalk : Leads context (nextRequest S.context_id S.export_size ⟨0, 0, []⟩) _ _ :=
    leads_requests hS (requestCount S.export_size) (Nat.zero_add _) ⟨rfl, by simp⟩
  rw [← List.range_eq_range', List.nil_append] at hwalk
  exact (((Leads.single reads_structuredReply).append (leads_metaContext hS)).append
    (leads_go hS)).append hwalk

end

end NbdServer

namespace NbdClient

open Bytes Loop

/-! ### What the client sends -/

/-- The bytes of an option. -/
def optionBytes (opt : ℕ) (payload : List UInt8) : List UInt8 :=
  beBytes 8 IHAVEOPT ++ beBytes 4 opt ++ beBytes 4 payload.length ++ payload

/-- The bytes of a request. -/
def requestBytes (handle offset length : ℕ) : List UInt8 :=
  beBytes 4 NBD_REQUEST_MAGIC ++ beBytes 2 0 ++ beBytes 2 NBD_CMD_BLOCK_STATUS ++ beBytes 8 handle ++
    beBytes 8 offset ++ beBytes 4 length

/-- The export and the one context that is asked for. -/
def metaContextPayload (export_name context : String) : List UInt8 :=
  beBytes 4 (utf8 export_name).length ++ utf8 export_name ++ beBytes 4 1 ++
    (beBytes 4 (utf8 context).length ++ utf8 context)

def goPayload (export_name : String) : List UInt8 :=
  beBytes 4 (utf8 export_name).length ++ utf8 export_name ++ beBytes 2 0

/-- What is sent before the first request. -/
def openingBytes (export_name context : String) : List UInt8 :=
  beBytes 4 NBD_FLAG_C_FIXED_NEWSTYLE ++ optionBytes NBD_OPT_STRUCTURED_REPLY [] ++
    optionBytes NBD_OPT_SET_META_CONTEXT (metaContextPayload export_name context) ++
    optionBytes NBD_OPT_GO (goPayload export_name)

/-- The requests that were answered, from a handle on. -/
def requestsBytes : ℕ → List Reply → List UInt8
  | _, [] => []
  | handle, r :: rs => requestBytes handle r.offset r.length ++ requestsBytes (handle + 1) rs

theorem requestsBytes_snoc (handle : ℕ) (rs : List Reply) (r : Reply) :
    requestsBytes handle (rs ++ [r]) =
      requestsBytes handle rs ++ requestBytes (handle + rs.length) r.offset r.length := by
  induction rs generalizing handle with
  | nil => simp [requestsBytes]
  | cons r₀ rs ih =>
      have hlen : handle + 1 + rs.length = handle + (r₀ :: rs).length := by
        rw [List.length_cons]
        omega
      rw [List.cons_append, requestsBytes, ih, requestsBytes, hlen, List.append_assoc]

/-- A run that returns has sent these bytes. -/
def Sends {α : Type} (m : NbdM α) (data : α → List UInt8) : Prop :=
  ∀ s a s', m s = .ok a s' → s'.sent = s.sent ++ data a

/-- A part of the client that sends nothing. -/
abbrev Silent {α : Type} (m : NbdM α) : Prop := Sends m fun _ => []

section

variable {α β : Type} {m : NbdM α} {f : α → NbdM β} {data : α → List UInt8} {data' : β → List UInt8}

theorem Sends.bind (hm : Sends m data) (hf : ∀ a, Sends (f a) fun b => data' b) :
    ∀ s b s', (m >>= f) s = .ok b s' → ∃ a, s'.sent = s.sent ++ data a ++ data' b := by
  intro s b s' h
  obtain ⟨a, s₁, h₁, h₂⟩ := bind_eq_ok.1 h
  exact ⟨a, by rw [hf a s₁ b s' h₂, hm s a s₁ h₁]⟩

/-- First these bytes, then those. -/
theorem Sends.before {first : List UInt8} (hm : Sends m fun _ => first)
    (hf : ∀ a, Sends (f a) data') : Sends (m >>= f) fun b => first ++ data' b := by
  intro s b s' h
  obtain ⟨a, hsent⟩ := hm.bind hf s b s' h
  rw [hsent, List.append_assoc]

/-- What reads does not send. -/
theorem Silent.before (hm : Silent m) (hf : ∀ a, Sends (f a) data') : Sends (m >>= f) data' := by
  intro s b s' h
  obtain ⟨a, hsent⟩ := hm.bind hf s b s' h
  rw [hsent, List.append_nil]

theorem Sends.after {last : List UInt8} (hm : Sends m fun _ => last) (hf : ∀ a, Silent (f a)) :
    Sends (m >>= f) fun _ => last := by
  intro s b s' h
  obtain ⟨a, hsent⟩ := hm.bind hf s b s' h
  rw [hsent, List.append_nil]

theorem silent_pure (a : α) : Silent (pure a : NbdM α) := by
  intro s b s' h
  cases h
  rw [List.append_nil]

theorem Sends.raise (e : ProtocolError) : Sends (NbdClient.raise e : NbdM α) data := by
  intro s b s' h
  cases h

theorem Sends.throw_struct : Sends (throw .struct : NbdM α) data := by
  intro s b s' h
  cases h

theorem Sends.ite {c : Prop} [Decidable c] {m' : NbdM α} (hm : Sends m data)
    (hm' : Sends m' data) : Sends (if c then m else m') data := by
  split
  · exact hm
  · exact hm'

theorem silent_raiseIf (c : Prop) [Decidable c] (e : ProtocolError) : Silent (raiseIf c e) :=
  .ite (.raise e) (silent_pure ())

theorem silent_recvExact (n : ℕ) : Silent (recvExact n) := by
  intro s a s' h
  rw [recvExact_eq] at h
  split at h
  · cases h
    rw [List.append_nil]
    rfl
  · cases h

theorem silent_recvBody (n : ℕ) : Silent (recvBody n) := .ite (silent_recvExact n) (silent_pure [])

theorem silent_unpack (n : ℕ) (bs : List UInt8) : Silent (unpack n bs) :=
  .ite (silent_pure _) .throw_struct

theorem sends_sendAll (bs : List UInt8) : Sends (sendAll bs) fun _ => bs := by
  intro s a s' h
  cases h
  rfl

/-- A loop of rounds that send nothing. -/
theorem silent_loop {body : α → NbdM (α ⊕ β)} (hbody : ∀ a, Silent (body a)) (a : α) :
    Silent (do loop .stuck body (← rounds) a) := by
  intro s b s' h
  obtain ⟨n, s₁, h₁, h⟩ := bind_eq_ok.1 h
  cases h₁
  refine loop_spec (I := fun _ t => t.sent = s.sent ++ []) (Q := fun _ t => t.sent = s.sent ++ [])
    ?_ ?_ (List.append_nil _).symm h
  · intro a t a' t' hI hb
    rw [hbody a t _ t' hb, hI, List.append_nil, List.append_nil]
  · intro a t b t' hI hb
    rw [hbody a t _ t' hb, hI, List.append_nil, List.append_nil]

end

/-! ### The parts of a session -/

theorem silent_recvOptionReply : Silent recvOptionReply :=
  .before (silent_recvExact 20) fun _ => .before (silent_raiseIf _ _) fun _ =>
    .before (silent_recvBody _) fun _ => silent_pure _

theorem silent_metaContextRound (id : Option ℕ) : Silent (metaContextRound id) := by
  refine .before silent_recvOptionReply fun r => ?_
  refine .before (silent_raiseIf _ _) fun _ => .before (silent_raiseIf _ _) fun _ => ?_
  exact .ite (.before (silent_unpack _ _) fun _ => silent_pure _) (.ite (silent_pure _) (silent_pure _))

theorem silent_optGoRound (size : Option ℕ) : Silent (optGoRound size) := by
  refine .before silent_recvOptionReply fun r => ?_
  refine .before (silent_raiseIf _ _) fun _ => .before (silent_raiseIf _ _) fun _ => ?_
  refine .ite (.before (silent_unpack _ _) fun _ => ?_) (.ite (silent_pure _) (silent_pure _))
  exact .ite (.before (silent_unpack _ _) fun _ => silent_pure _) (silent_pure _)

theorem silent_readStructuredChunk (handle : ℕ) : Silent (readStructuredChunk handle) :=
  .before (silent_recvExact 20) fun _ => .before (silent_raiseIf _ _) fun _ =>
    .before (silent_raiseIf _ _) fun _ => .before (silent_recvBody _) fun _ => silent_pure _

theorem silent_unpackDescriptors (bs : List UInt8) : Silent (unpackDescriptors bs) := by
  rw [unpackDescriptors_eq]
  exact .ite .throw_struct (silent_pure _)

theorem silent_chunkDescriptors (id ctype : ℕ) (body : List UInt8) :
    Silent (chunkDescriptors id ctype body) := by
  refine .ite (silent_pure _) (.ite (.before (silent_unpack _ _) fun _ => .raise _)
    (.ite (silent_pure _) ?_))
  exact .before (silent_unpack _ _) fun _ => .ite (silent_pure _) (silent_unpackDescriptors _)

theorem silent_chunkRound (id handle : ℕ) (ds : List Descriptor) : Silent (chunkRound id handle ds) :=
  .before (silent_readStructuredChunk handle) fun _ =>
    .before (silent_chunkDescriptors _ _ _) fun _ => silent_pure _

theorem sends_sendOption (opt : ℕ) (payload : List UInt8) :
    Sends (sendOption opt payload) fun _ => optionBytes opt payload := sends_sendAll _

theorem sends_handshake :
    Sends handshake fun _ => beBytes 4 NBD_FLAG_C_FIXED_NEWSTYLE := by
  refine .before (silent_recvExact 18) fun hdr => ?_
  refine .before (silent_raiseIf _ _) fun _ => .before (silent_raiseIf _ _) fun _ => ?_
  exact .after (sends_sendAll _) fun _ => silent_pure _

theorem sends_optStructuredReply :
    Sends optStructuredReply fun _ => optionBytes NBD_OPT_STRUCTURED_REPLY [] :=
  .after (sends_sendOption _ _) fun _ => .before silent_recvOptionReply fun _ => silent_raiseIf _ _

theorem sends_optSetMetaContext (export_name context : String) :
    Sends (optSetMetaContext export_name context) fun _ =>
      optionBytes NBD_OPT_SET_META_CONTEXT (metaContextPayload export_name context) := by
  refine .after (sends_sendOption _ _) fun _ => ?_
  rw [← bind_assoc]
  refine .before (silent_loop silent_metaContextRound none) fun id => ?_
  cases id with
  | none => exact .raise _
  | some id => exact silent_pure _

theorem sends_optGo (export_name : String) :
    Sends (optGo export_name) fun _ => optionBytes NBD_OPT_GO (goPayload export_name) := by
  refine .after (sends_sendOption _ _) fun _ => ?_
  rw [← bind_assoc]
  refine .before (silent_loop silent_optGoRound none) fun size => ?_
  cases size with
  | none => exact .raise _
  | some size => exact silent_pure _

/-- A round sends the request that it notes. -/
theorem requestRound_sent {id size chunk : ℕ} {w : Walk} {s s' : Sock} {r : Walk ⊕ List Reply}
    (h : requestRound id size chunk w s = .ok r s') :
    (∃ reply, s'.sent = s.sent ++ requestBytes w.handle reply.offset reply.length ∧
      ∃ offset, r = .inl ⟨w.handle + 1, offset, w.replies ++ [reply]⟩) ∨
    s'.sent = s.sent ∧ r = .inr w.replies := by
  rw [requestRound] at h
  split at h
  · obtain ⟨_, s₁, hs₁, h⟩ := bind_eq_ok.1 h
    rw [← bind_assoc] at h
    obtain ⟨ds, s₂, hs₂, h⟩ := bind_eq_ok.1 h
    have hsent := sends_sendAll _ s _ s₁ hs₁
    have hread := silent_loop (silent_chunkRound id w.handle) [] s₁ ds s₂ hs₂
    cases h
    refine .inl ⟨⟨w.offset, min chunk (size - w.offset), ds⟩, ?_, _, rfl⟩
    rw [hread, hsent, List.append_nil]
    rfl
  · cases h
    exact .inr ⟨rfl, rfl⟩

theorem sends_walkBlockStatus (id size chunk : ℕ) :
    Sends (walkBlockStatus id size chunk) (requestsBytes 0) := by
  intro s rs s' h
  obtain ⟨n, s₁, h₁, h⟩ := bind_eq_ok.1 h
  cases h₁
  refine loop_spec (I := fun w t => w.handle = w.replies.length ∧
      t.sent = s.sent ++ requestsBytes 0 w.replies)
    (Q := fun rs t => t.sent = s.sent ++ requestsBytes 0 rs) ?_ ?_ ⟨rfl, ?_⟩ h
  · rintro w t w' t' ⟨hhandle, hI⟩ hb
    obtain ⟨reply, hsent, offset, heq⟩ | ⟨_, heq⟩ := requestRound_sent hb
    · cases heq
      refine ⟨by rw [hhandle, List.length_append]; rfl, ?_⟩
      rw [hsent, hI, requestsBytes_snoc, Nat.zero_add, hhandle, List.append_assoc]
    · cases heq
  · rintro w t rs t' ⟨_, hI⟩ hb
    obtain ⟨_, _, _, heq⟩ | ⟨hsent, heq⟩ := requestRound_sent hb
    · cases heq
    · cases heq
      rw [hsent, hI]
  · exact (List.append_nil _).symm

/-- **What a session sends**: the opening, and each request with the next handle. -/
theorem session_sent (export_name context : String) :
    Sends (session export_name context) fun r =>
      openingBytes export_name context ++ requestsBytes 0 r.2 := by
  have hwalk : ∀ id size, Sends (do
      let replies ← walkBlockStatus id size
      return (size, replies)) fun r => requestsBytes 0 r.2 := by
    intro id size s r s' h
    obtain ⟨rs, s₁, h₁, h⟩ := bind_eq_ok.1 h
    cases h
    exact sends_walkBlockStatus id size _ s rs _ h₁
  simp only [openingBytes, List.append_assoc]
  refine .before sends_handshake fun _ => .before sends_optStructuredReply fun _ => ?_
  refine .before (sends_optSetMetaContext export_name context) fun id => ?_
  exact .before (sends_optGo export_name) fun size => hwalk id size

end NbdClient

namespace NbdServer

open Bytes NbdClient

/-! ### The dirty bytes -/

/-- The bytes of a request. -/
def Request.wire (r : Request) : List UInt8 := requestBytes r.handle r.offset r.length

/-- **An honest server**: its answer to a request reaches the end of what was asked for, and each of its
descriptors, also where it reaches further, has the status 1 exactly over dirty bytes. -/
structure Server.Honest (S : Server) (dirty : ℕ → Prop) : Prop where
  within : ∀ b, dirty b → b < S.export_size
  reaches : ∀ r ∈ requests S.export_size, r.length ≤ ((S.told r).map Descriptor.ext_len).sum
  tells : ∀ r ∈ requests S.export_size, ∀ x ∈ place r.offset (S.told r), ∀ b, x.Covers b →
    (x.status = 1 ↔ dirty b)

section

variable {context : String} {S : Server} {dirty : ℕ → Prop} {size : ℕ}

/-- The client reads the stream to its end, and leaves what follows. -/
theorem observe_stream (hS : S.Conforms) (rest : List UInt8) :
    (observe context (S.stream ++ rest)).result = (.ok (S.export_size, S.replies), rest) := by
  have hhello : (hello S.server_flags).length = 18 := by simp [hello]
  have hlen : (S.stream ++ rest).length =
      18 + (S.frames.flatMap Frame.wire).length + rest.length := by
    rw [Server.stream, List.length_append, List.length_append, hhello]
  have htake : (S.stream ++ rest).take 18 = hello S.server_flags := by
    rw [Server.stream, List.append_assoc, List.take_append_of_le_length (by omega), ← hhello,
      List.take_length]
  have hdrop : (S.stream ++ rest).drop 18 = S.frames.flatMap Frame.wire ++ rest := by
    rw [Server.stream, List.append_assoc, ← hhello, List.drop_left]
  have hmagic : field 0 8 (hello S.server_flags) = NBDMAGIC := by
    simp [hello, field_append_left, NBDMAGIC]
  have hopts : field 8 8 (hello S.server_flags) = IHAVEOPT := by
    simp [hello, field_append_left, field_append_right, IHAVEOPT]
  rw [observe, if_neg (by omega), htake, hmagic, hopts, if_neg (not_not.2 rfl), if_neg (not_not.2 rfl),
    hdrop]
  have hleads : Leads context _ _ _ := Server.leads_frames hS
  have hle := length_le_wire hleads
  obtain ⟨n, hn⟩ : ∃ n, (S.stream ++ rest).length + 1 = S.frames.length + n :=
    ⟨(S.stream ++ rest).length + 1 - S.frames.length, by omega⟩
  rw [hn]
  exact goOn_wire hleads n rest

/-- The requests are consecutive, and lead to the end of the export. -/
theorem tiles_requests (f : Request → List Descriptor) :
    Tiles 0 ((requests size).map fun r => ⟨r.offset, r.length, f r⟩) size := by
  have hfrom : ∀ k i, i + k = requestCount size →
      Tiles (min (i * BLOCK_STATUS_CHUNK) size)
        (((List.range' i k).map (request size)).map fun r => ⟨r.offset, r.length, f r⟩) size := by
    intro k
    induction k with
    | zero =>
        intro i hcount
        have hend := mt lt_requestCount.2 (Nat.not_lt.2 (Nat.le_of_eq hcount.symm))
        exact min_eq_right (not_lt.1 hend)
    | succ k ih =>
        intro i hcount
        have hlt := lt_requestCount.1 (show i < requestCount size by omega)
        have hpos : 0 < BLOCK_STATUS_CHUNK := by decide
        have hnext : min (i * BLOCK_STATUS_CHUNK) size + (request size i).length =
            min ((i + 1) * BLOCK_STATUS_CHUNK) size := by
          rw [request, Nat.add_mul, Nat.one_mul]
          dsimp only
          omega
        rw [List.range'_succ, List.map_cons, List.map_cons]
        refine ⟨?_, ?_, ?_⟩
        · exact (min_eq_left hlt.le).symm
        · rw [request]
          dsimp only
          omega
        · rw [hnext]
          exact ih (i + 1) (by omega)
  have hall := hfrom (requestCount size) 0 (Nat.zero_add _)
  rw [Nat.zero_mul, Nat.zero_min] at hall
  rw [requests, List.range_eq_range']
  exact hall

theorem requestsBytes_requests (f : Request → List Descriptor) :
    requestsBytes 0 ((requests size).map fun r => ⟨r.offset, r.length, f r⟩) =
      (requests size).flatMap Request.wire := by
  have hfrom : ∀ k i, requestsBytes i
      (((List.range' i k).map (request size)).map fun r => ⟨r.offset, r.length, f r⟩) =
        ((List.range' i k).map (request size)).flatMap Request.wire := by
    intro k
    induction k with
    | zero => exact fun _ => rfl
    | succ k ih =>
        intro i
        rw [List.range'_succ, List.map_cons, List.map_cons, List.flatMap_cons, requestsBytes, ih]
        rfl
  rw [requests, List.range_eq_range']
  exact hfrom _ 0

/-- The extents cover what the server has told as dirty, and that is all. -/
theorem marks_replies (h : S.Honest dirty) (b : ℕ) :
    (∃ e ∈ dirtyExtents S.replies, e.1 ≤ b ∧ b < e.1 + e.2) ↔ dirty b := by
  have hreach : AnswersReach S.replies := by
    intro r hr
    refine ⟨r, hr, Nat.le_refl _, Nat.add_le_add_left ?_ _⟩
    obtain ⟨q, hq, rfl⟩ := List.mem_map.1 hr
    exact h.reaches q hq
  have hcomplete := (walkComplete_iff (tiles_requests S.told)).2 hreach
  have htells : ∀ x ∈ yields S.replies, x.Covers b → (x.status = 1 ↔ dirty b) := by
    intro x hx hb
    obtain ⟨r, hr, hx⟩ := List.mem_flatMap.1 hx
    obtain ⟨q, hq, rfl⟩ := List.mem_map.1 hr
    exact h.tells q hq x hx b hb
  have hdirty := hcomplete.dirty b
  rw [Server.replies] at htells ⊢
  rw [hdirty]
  constructor
  · rintro ⟨x, hx, hb, hone⟩
    exact (htells x hx hb).1 hone
  · intro hb
    obtain ⟨x, hx, hcovers⟩ := hcomplete.status b (h.within b hb)
    exact ⟨x, hx, hcovers, (htells x hx hcovers).2 hb⟩

/-- The run of the client. -/
theorem exists_fetchDirtyExtents (hS : S.Conforms) (export_name context : String) {s : Sock}
    {rest : List UInt8} (hs : s.incoming = S.stream ++ rest) :
    ∃ s', fetchDirtyExtents export_name context s = .ok (dirtyExtents S.replies) s' ∧
      s'.incoming = rest ∧
      s'.sent = s.sent ++ (openingBytes export_name context ++
        (requests S.export_size).flatMap Request.wire) := by
  have hrun := session_observe export_name context s
  rw [hs, observe_stream hS rest] at hrun
  rcases hsession : session export_name context s with ⟨r, s'⟩ | ⟨e, s'⟩
  · rw [hsession] at hrun
    obtain ⟨hr, rfl⟩ := Prod.mk.inj hrun
    cases hr
    refine ⟨s', Wp.bind_ok hsession, rfl, ?_⟩
    rw [session_sent export_name context s _ s' hsession, ← requestsBytes_requests S.told]
    rfl
  · rw [hsession] at hrun
    cases hrun

/-- **The exchange with a server that keeps to the protocol**: however the kernel cuts the stream, the client
returns, has sent the requests that were answered and has read nothing that follows; where the server is
honest, its extents are exactly the dirty bytes. -/
theorem fetchDirtyExtents_served (hS : S.Conforms) (export_name context : String) {s : Sock}
    {rest : List UInt8} (hs : s.incoming = S.stream ++ rest) :
    ∃ extents s', fetchDirtyExtents export_name context s = .ok extents s' ∧
      s'.incoming = rest ∧
      s'.sent = s.sent ++ (openingBytes export_name context ++
        (requests S.export_size).flatMap Request.wire) ∧
      ∀ dirty : ℕ → Prop, S.Honest dirty →
        ∀ b, (∃ e ∈ extents, e.1 ≤ b ∧ b < e.1 + e.2) ↔ dirty b := by
  obtain ⟨s', hrun, hrest, hsent⟩ := exists_fetchDirtyExtents hS export_name context hs
  exact ⟨_, s', hrun, hrest, hsent, fun _ h => marks_replies h⟩

end

/-- An export of two blocks of 64 KiB, of which the second is dirty.  The server tells the first one in a
chunk of its own, and more about a context that nobody has asked for. -/
def twoBlocks : Server where
  server_flags := 3
  context_id := 7
  export_size := 131072
  metaReplies := [(NBD_REP_META_CONTEXT, beBytes 4 7 ++ utf8 "qemu:dirty-bitmap:cbt")]
  goReplies := [(NBD_REP_INFO, beBytes 2 3 ++ beBytes 4 1),
    (NBD_REP_INFO, beBytes 2 NBD_INFO_EXPORT ++ beBytes 8 131072 ++ beBytes 2 0)]
  answer _ _ := [.status 7 [⟨65536, 0⟩], .status 9 [⟨131072, 1⟩]]
  last _ _ := .status 7 [⟨65536, 1⟩]

theorem conforms_twoBlocks : twoBlocks.Conforms where
  export_size := by decide
  meta_plain := by decide +kernel
  meta_id := by decide +kernel
  meta_told := ⟨_, List.mem_singleton_self _, rfl⟩
  go_plain := by decide +kernel
  go_info := by decide +kernel
  go_told := ⟨_, List.mem_cons_of_mem _ (List.mem_singleton_self _), rfl, by decide⟩
  answer _ _ t ht := by
    obtain rfl | ht := List.mem_cons.1 ht
    · exact ⟨by decide, by decide, by decide⟩
    · obtain rfl := List.mem_singleton.1 ht
      exact ⟨by decide, by decide, by decide⟩
  last _ _ := ⟨by decide, by decide, by decide⟩

theorem honest_twoBlocks : twoBlocks.Honest fun b => 65536 ≤ b ∧ b < 131072 := by
  have hrequests : requests twoBlocks.export_size = [⟨0, 0, 131072⟩] := by decide
  refine ⟨fun b hb => hb.2, fun r hr => ?_, fun r hr x hx b hb => ?_⟩
  · rw [hrequests, List.mem_singleton] at hr
    subst hr
    decide
  · rw [hrequests, List.mem_singleton] at hr
    subst hr
    have hplace : place 0 (twoBlocks.told ⟨0, 0, 131072⟩) = [⟨0, 65536, 0⟩, ⟨65536, 65536, 1⟩] := by
      decide
    rw [hplace, List.mem_cons, List.mem_singleton] at hx
    obtain ⟨hle, hlt⟩ := hb
    obtain rfl | rfl := hx
    · dsimp only at hle hlt ⊢
      omega
    · dsimp only at hle hlt ⊢
      omega

/-- The kernel hands the stream out byte by byte. -/
theorem fetchDirtyExtents_served_twoBlocks : ∃ extents s',
    fetchDirtyExtents "vdi" "qemu:dirty-bitmap:cbt" ⟨twoBlocks.stream, 0, fun _ => 1, []⟩ =
      .ok extents s' ∧ ∀ b, (∃ e ∈ extents, e.1 ≤ b ∧ b < e.1 + e.2) ↔ 65536 ≤ b ∧ b < 131072 := by
  obtain ⟨extents, s', hrun, -, -, hdirty⟩ := fetchDirtyExtents_served conforms_twoBlocks "vdi"
    "qemu:dirty-bitmap:cbt"
    (show (⟨twoBlocks.stream, 0, fun _ => 1, []⟩ : Sock).incoming = twoBlocks.stream ++ [] from
      (List.append_nil _).symm)
  exact ⟨extents, s', hrun, hdirty _ honest_twoBlocks⟩

end NbdServer

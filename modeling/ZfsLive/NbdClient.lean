/-
**The NBD client of the changed-block consumer** (`src/datapath/nbd_client.py`).

The client connects to a qemu NBD server, negotiates structured replies and one metadata context,
selects the export, and walks the export with `NBD_CMD_BLOCK_STATUS` requests.  Everything it reads
comes from a byte stream that the server may fill as it likes; the kernel may cut that stream into
`recv` results as it likes.

A connection is a `Sock`: the bytes the server will still send before it closes, the number of bytes
already taken, the schedule by which the kernel hands them out, and what the client has sent.  The
functions below are translated from the source one for one.  The generators of the source are lists
here: a consumer that raises stops the client, so nothing that was yielded before is kept.

Main definitions:

* `NbdClient.recvExact` — read exactly `n` bytes, over any number of `recv` calls;
* `NbdClient.walkBlockStatus` — the requests and, for each, the descriptors of its reply;
* `NbdClient.fetchDirtyExtents` — the entry point.

Main results:

* `NbdClient.recvExact_eq` — what `recvExact` returns does not depend on how the kernel cuts the
  stream.
-/

import Mathlib.Data.Nat.Bitwise
import Mathlib.Tactic.Common
import ZfsLive.Base.Bytes
import ZfsLive.Base.Loop

set_option relaxedAutoImplicit false
set_option autoImplicit false

namespace NbdClient

open Bytes Loop

/-! ### Protocol constants -/

def NBDMAGIC : ℕ := 0x4E42444D41474943
def IHAVEOPT : ℕ := 0x49484156454F5054
def NBD_OPTION_REPLY_MAGIC : ℕ := 0x3E889045565A9
def NBD_REQUEST_MAGIC : ℕ := 0x25609513
def NBD_STRUCTURED_REPLY_MAGIC : ℕ := 0x668E33EF

def NBD_FLAG_C_FIXED_NEWSTYLE : ℕ := 1 <<< 0

def NBD_OPT_GO : ℕ := 7
def NBD_OPT_STRUCTURED_REPLY : ℕ := 8
def NBD_OPT_SET_META_CONTEXT : ℕ := 10

def NBD_REP_ACK : ℕ := 1
def NBD_REP_INFO : ℕ := 3
def NBD_REP_META_CONTEXT : ℕ := 4
def NBD_REP_FLAG_ERROR : ℕ := 1 <<< 31

def NBD_INFO_EXPORT : ℕ := 0

def NBD_CMD_BLOCK_STATUS : ℕ := 7

def NBD_REPLY_TYPE_NONE : ℕ := 0
def NBD_REPLY_TYPE_BLOCK_STATUS : ℕ := 5
def NBD_REPLY_TYPE_ERROR : ℕ := (1 <<< 15) ||| 1
def NBD_REPLY_FLAG_DONE : ℕ := 1 <<< 0

/-- The length of one request is bounded by 2 GiB. -/
def BLOCK_STATUS_CHUNK : ℕ := 2 * 1024 * 1024 * 1024

/-! ### Errors and connections -/

/-- The shapes of an `NBDProtocolError`, each with the values its message shows. -/
inductive ProtocolError
  /-- The stream ended with this many bytes still wanted. -/
  | shortRead (more : ℕ)
  /-- Bad NBD magic. -/
  | badMagic (magic : ℕ)
  /-- Bad IHAVEOPT magic. -/
  | badOptsMagic (magic : ℕ)
  /-- Bad option-reply magic. -/
  | badOptionReplyMagic (magic : ℕ)
  /-- Structured-reply negotiation failed. -/
  | structuredReplyFailed (opt rep : ℕ)
  /-- Unexpected option in reply. -/
  | unexpectedOption (opt : ℕ)
  /-- NBD_OPT_SET_META_CONTEXT failed. -/
  | setMetaContextFailed (rep : ℕ) (body : List UInt8)
  /-- The server did not assign a context id. -/
  | noContextId (context : String)
  /-- NBD_OPT_GO failed. -/
  | optGoFailed (rep : ℕ) (body : List UInt8)
  /-- NBD_OPT_GO completed without NBD_INFO_EXPORT. -/
  | noInfoExport
  /-- Bad structured-reply magic. -/
  | badStructuredReplyMagic (magic : ℕ)
  /-- Handle mismatch. -/
  | handleMismatch (got expected : ℕ)
  /-- The server answered BLOCK_STATUS with an error chunk. -/
  | blockStatusError (code : ℕ) (msg : List UInt8)
  deriving DecidableEq, Repr

/-- What a client function can raise. -/
inductive NbdError
  /-- An `NBDProtocolError`. -/
  | protocol (e : ProtocolError)
  /-- A `struct.error`: a body shorter than the field unpacked from it. -/
  | struct
  /-- A loop of the model ran out of rounds; no run of the client ends so. -/
  | stuck
  deriving DecidableEq, Repr

/-- A connected socket. -/
structure Sock where
  /-- The bytes the server sends from here on, before it closes the connection. -/
  incoming : List UInt8
  /-- The number of bytes already received. -/
  pos : ℕ
  /-- How many bytes the kernel has ready when `pos` bytes were taken; at least one is handed out
  as long as there are any. -/
  ready : ℕ → ℕ
  /-- The bytes the client has sent. -/
  sent : List UInt8

/-- The connection after the next `n` bytes were received. -/
def Sock.advance (s : Sock) (n : ℕ) : Sock :=
  { s with incoming := s.incoming.drop n, pos := s.pos + (s.incoming.take n).length }

/-- The connection after `data` was sent. -/
def Sock.push (s : Sock) (data : List UInt8) : Sock := { s with sent := s.sent ++ data }

@[simp] theorem Sock.incoming_push (s : Sock) (data : List UInt8) :
    (s.push data).incoming = s.incoming := rfl

@[simp] theorem Sock.incoming_advance (s : Sock) (n : ℕ) :
    (s.advance n).incoming = s.incoming.drop n := rfl

theorem Sock.advance_zero (s : Sock) : s.advance 0 = s := by
  simp [Sock.advance]

theorem Sock.advance_advance (s : Sock) (m n : ℕ) :
    (s.advance m).advance n = s.advance (m + n) := by
  simp only [Sock.advance, List.drop_drop, List.length_take, List.length_drop, Sock.mk.injEq,
    true_and, and_true]
  omega

/-- A function of the client: it reads and writes the connection, and may raise. -/
abbrev NbdM (α : Type) : Type := EStateM NbdError Sock α

/-- Raise an `NBDProtocolError`. -/
def raise {α : Type} (e : ProtocolError) : NbdM α := throw (.protocol e)

/-- Raise an `NBDProtocolError` when `c` holds. -/
def raiseIf (c : Prop) [Decidable c] (e : ProtocolError) : NbdM Unit :=
  if c then raise e else pure ()

/-! ### Wire helpers -/

/-- `sock.recv(n)`: between one and `n` bytes, none at the end of the stream. -/
def recv (n : ℕ) : NbdM (List UInt8) := fun s =>
  let k := min n (max 1 (s.ready s.pos))
  .ok (s.incoming.take k) (s.advance k)

/-- One round of the loop of `_recv_exact`. -/
def recvRound (n : ℕ) (buf : List UInt8) : NbdM (List UInt8 ⊕ List UInt8) := do
  if buf.length < n then
    let chunk ← recv (n - buf.length)
    if chunk = [] then raise (.shortRead (n - buf.length))
    else return .inl (buf ++ chunk)
  else return .inr buf

/-- Read exactly `n` bytes or raise. -/
def recvExact (n : ℕ) : NbdM (List UInt8) := loop .stuck (recvRound n) (n + 1) []

/-- The body whose length a header gave: `_recv_exact(sock, length) if length else b""`. -/
def recvBody (length : ℕ) : NbdM (List UInt8) := if length ≠ 0 then recvExact length else pure []

/-- `sock.sendall(data)`. -/
def sendAll (data : List UInt8) : NbdM Unit := modify (·.push data)

/-- `struct.unpack` of one big-endian field of `n` bytes: the byte string has to be that long. -/
def unpack (n : ℕ) (bs : List UInt8) : NbdM ℕ :=
  if bs.length = n then pure (beNat bs) else throw .struct

/-- The bytes of a text on the wire. -/
def utf8 (s : String) : List UInt8 := s.toUTF8.data.toList

/-- More rounds than there are bytes left to read: enough for every loop that reads. -/
def rounds : NbdM ℕ := return (← get).incoming.length + 1

/-! ### Handshake and option negotiation -/

/-- Read NBDMAGIC, IHAVEOPT and the server flags; reply with the client flags. -/
def handshake : NbdM ℕ := do
  let hdr ← recvExact 18
  let magic := field 0 8 hdr
  let opts_magic := field 8 8 hdr
  let server_flags := field 16 2 hdr
  raiseIf (magic ≠ NBDMAGIC) (.badMagic magic)
  raiseIf (opts_magic ≠ IHAVEOPT) (.badOptsMagic opts_magic)
  sendAll (beBytes 4 NBD_FLAG_C_FIXED_NEWSTYLE)
  return server_flags

def sendOption (opt : ℕ) (payload : List UInt8) : NbdM Unit :=
  sendAll (beBytes 8 IHAVEOPT ++ beBytes 4 opt ++ beBytes 4 payload.length ++ payload)

/-- Read one option-reply chunk: the option, the reply type and the payload. -/
def recvOptionReply : NbdM (ℕ × ℕ × List UInt8) := do
  let hdr ← recvExact 20
  let magic := field 0 8 hdr
  let option := field 8 4 hdr
  let reply_type := field 12 4 hdr
  let length := field 16 4 hdr
  raiseIf (magic ≠ NBD_OPTION_REPLY_MAGIC) (.badOptionReplyMagic magic)
  let payload ← recvBody length
  return (option, reply_type, payload)

/-- Enable structured replies. -/
def optStructuredReply : NbdM Unit := do
  sendOption NBD_OPT_STRUCTURED_REPLY []
  let (opt, rep, _) ← recvOptionReply
  raiseIf (opt ≠ NBD_OPT_STRUCTURED_REPLY ∨ rep ≠ NBD_REP_ACK) (.structuredReplyFailed opt rep)

/-- One reply to NBD_OPT_SET_META_CONTEXT; the loop ends at the acknowledgement. -/
def metaContextRound (context_id : Option ℕ) : NbdM (Option ℕ ⊕ Option ℕ) := do
  let (opt, rep, body) ← recvOptionReply
  raiseIf (opt ≠ NBD_OPT_SET_META_CONTEXT) (.unexpectedOption opt)
  raiseIf (rep &&& NBD_REP_FLAG_ERROR ≠ 0) (.setMetaContextFailed rep body)
  if rep = NBD_REP_META_CONTEXT then
    let id ← unpack 4 (body.take 4)
    return .inl (some id)
  if rep = NBD_REP_ACK then return .inr context_id
  return .inl context_id

/-- Bind one metadata context and return the id the server assigned to it. -/
def optSetMetaContext (export_name context : String) : NbdM ℕ := do
  let name := utf8 export_name
  let q := utf8 context
  sendOption NBD_OPT_SET_META_CONTEXT
    (beBytes 4 name.length ++ name ++ beBytes 4 1 ++ (beBytes 4 q.length ++ q))
  match ← loop .stuck metaContextRound (← rounds) none with
  | none => raise (.noContextId context)
  | some id => return id

/-- One reply to NBD_OPT_GO; the loop ends at the acknowledgement. -/
def optGoRound (export_size : Option ℕ) : NbdM (Option ℕ ⊕ Option ℕ) := do
  let (opt, rep, body) ← recvOptionReply
  raiseIf (opt ≠ NBD_OPT_GO) (.unexpectedOption opt)
  raiseIf (rep &&& NBD_REP_FLAG_ERROR ≠ 0) (.optGoFailed rep body)
  if rep = NBD_REP_INFO then
    let info_type ← unpack 2 (body.take 2)
    if info_type = NBD_INFO_EXPORT ∧ 12 ≤ body.length then
      return .inl (some (← unpack 8 ((body.drop 2).take 8)))
    return .inl export_size
  if rep = NBD_REP_ACK then return .inr export_size
  return .inl export_size

/-- Select the export and return its size. -/
def optGo (export_name : String) : NbdM ℕ := do
  let name := utf8 export_name
  sendOption NBD_OPT_GO (beBytes 4 name.length ++ name ++ beBytes 2 0)
  match ← loop .stuck optGoRound (← rounds) none with
  | none => raise .noInfoExport
  | some size => return size

/-! ### Transmission phase: the BLOCK_STATUS walk -/

/-- Send one NBD_CMD request. -/
def request (cmd handle offset length flags : ℕ) : NbdM Unit :=
  sendAll (beBytes 4 NBD_REQUEST_MAGIC ++ beBytes 2 flags ++ beBytes 2 cmd ++ beBytes 8 handle ++
    beBytes 8 offset ++ beBytes 4 length)

/-- Read one chunk of a structured reply: whether it carries the DONE flag, its type and its
body. -/
def readStructuredChunk (expected_handle : ℕ) : NbdM (Bool × ℕ × List UInt8) := do
  let hdr ← recvExact 20
  let magic := field 0 4 hdr
  let flags := field 4 2 hdr
  let ctype := field 6 2 hdr
  let handle := field 8 8 hdr
  let length := field 16 4 hdr
  raiseIf (magic ≠ NBD_STRUCTURED_REPLY_MAGIC) (.badStructuredReplyMagic magic)
  raiseIf (handle ≠ expected_handle) (.handleMismatch handle expected_handle)
  let body ← recvBody length
  return (flags &&& NBD_REPLY_FLAG_DONE ≠ 0, ctype, body)

/-- A status descriptor: a number of bytes and their status. -/
structure Descriptor where
  ext_len : ℕ
  status : ℕ
  deriving DecidableEq, Repr

/-- The descriptors of a BLOCK_STATUS body, eight bytes each. -/
def unpackDescriptors : List UInt8 → NbdM (List Descriptor)
  | [] => pure []
  | a :: b :: c :: d :: e :: f :: g :: h :: rest => do
      let ds ← unpackDescriptors rest
      return ⟨beNat [a, b, c, d], beNat [e, f, g, h]⟩ :: ds
  | _ => throw .struct

/-- What the walk takes from one chunk. -/
def chunkDescriptors (context_id ctype : ℕ) (body : List UInt8) : NbdM (List Descriptor) := do
  if ctype = NBD_REPLY_TYPE_NONE then return []
  if ctype = NBD_REPLY_TYPE_ERROR then
    let err_code ← unpack 4 (body.take 4)
    raise (.blockStatusError err_code (body.drop 6))
  if ctype ≠ NBD_REPLY_TYPE_BLOCK_STATUS then return []
  let ctx ← unpack 4 (body.take 4)
  -- a chunk of a foreign context is skipped
  if ctx ≠ context_id then return []
  unpackDescriptors (body.drop 4)

/-- One chunk of the reply to the current request. -/
def chunkRound (context_id handle : ℕ) (ds : List Descriptor) :
    NbdM (List Descriptor ⊕ List Descriptor) := do
  let (done, ctype, body) ← readStructuredChunk handle
  let new ← chunkDescriptors context_id ctype body
  return if done then .inr (ds ++ new) else .inl (ds ++ new)

/-- A request of the walk with the descriptors of its reply. -/
structure Reply where
  offset : ℕ
  length : ℕ
  descriptors : List Descriptor
  deriving DecidableEq, Repr

/-- Where the walk stands: the next handle and offset, and the replies so far. -/
structure Walk where
  handle : ℕ
  offset : ℕ
  replies : List Reply
  deriving DecidableEq, Repr

/-- One request and its whole reply.  The offset of the next request advances by the length that was
asked for, whatever the reply described. -/
def requestRound (context_id export_size chunk_size : ℕ) (w : Walk) : NbdM (Walk ⊕ List Reply) := do
  if w.offset < export_size then
    let length := min chunk_size (export_size - w.offset)
    request NBD_CMD_BLOCK_STATUS w.handle w.offset length 0
    let ds ← loop .stuck (chunkRound context_id w.handle) (← rounds) []
    return .inl ⟨w.handle + 1, w.offset + length, w.replies ++ [⟨w.offset, length, ds⟩]⟩
  else return .inr w.replies

/-- Issue BLOCK_STATUS requests covering the export and collect the replies. -/
def walkBlockStatus (context_id export_size : ℕ) (chunk_size : ℕ := BLOCK_STATUS_CHUNK) :
    NbdM (List Reply) := do
  loop .stuck (requestRound context_id export_size chunk_size) (← rounds) ⟨0, 0, []⟩

/-- A status extent, as the walk yields it. -/
structure Extent where
  offset : ℕ
  length : ℕ
  status : ℕ
  deriving DecidableEq, Repr

/-- The descriptors of a reply, the first at `cur` and the rest consecutively. -/
def place (cur : ℕ) : List Descriptor → List Extent
  | [] => []
  | d :: ds => ⟨cur, d.ext_len, d.status⟩ :: place (cur + d.ext_len) ds

/-- What the walk yields, in order. -/
def yields (replies : List Reply) : List Extent :=
  replies.flatMap fun r => place r.offset r.descriptors

/-- The dirty extents among what the walk yields: those with status 1. -/
def dirtyExtents (replies : List Reply) : List (ℕ × ℕ) :=
  ((yields replies).filter fun x => x.status = 1).map fun x => (x.offset, x.length)

/-! ### Public entry point -/

/-- The connection up to the end of the walk: the size of the export and the replies. -/
def session (export_name bitmap_context : String) : NbdM (ℕ × List Reply) := do
  let _ ← handshake
  optStructuredReply
  let context_id ← optSetMetaContext export_name bitmap_context
  let export_size ← optGo export_name
  let replies ← walkBlockStatus context_id export_size
  return (export_size, replies)

/-- All dirty extents of the export, as `(offset, length)`. -/
def fetchDirtyExtents (export_name bitmap_context : String) : NbdM (List (ℕ × ℕ)) := do
  let (_, replies) ← session export_name bitmap_context
  return dirtyExtents replies

/-! ### Reading does not depend on the schedule -/

private theorem recvLoop_eq (n : ℕ) : ∀ (fuel : ℕ) (buf : List UInt8) (s : Sock),
    buf.length ≤ n → n - buf.length < fuel →
      loop .stuck (recvRound n) fuel buf s =
        if n - buf.length ≤ s.incoming.length then
          .ok (buf ++ s.incoming.take (n - buf.length)) (s.advance (n - buf.length))
        else
          .error (.protocol (.shortRead (n - buf.length - s.incoming.length)))
            (s.advance s.incoming.length) := by
  intro fuel
  induction fuel with
  | zero => intro buf s _ h; omega
  | succ fuel ih =>
      intro buf s hle hfuel
      rw [loop_succ]
      by_cases hlt : buf.length < n
      · -- the chunk that the next `recv` hands out
        obtain ⟨k, hk, hk₁, hk₂⟩ : ∃ k, recv (n - buf.length) s =
            .ok (s.incoming.take k) (s.advance k) ∧ 1 ≤ k ∧ k ≤ n - buf.length :=
          ⟨_, rfl, by omega, by omega⟩
        have hround : recvRound n buf s =
            if s.incoming.take k = [] then
              .error (.protocol (.shortRead (n - buf.length))) (s.advance k)
            else .ok (.inl (buf ++ s.incoming.take k)) (s.advance k) := by
          simp only [recvRound, if_pos hlt]
          change EStateM.bind _ _ s = _
          rw [EStateM.bind, hk]
          by_cases hnil : s.incoming.take k = [] <;> simp [hnil] <;> rfl
        rw [hround]
        by_cases hnil : s.incoming = []
        · have hnot : ¬ n - buf.length ≤ 0 := by omega
          simp [hnil, hnot, Sock.advance]
        · have hne : s.incoming.take k ≠ [] := by
            simp only [ne_eq, List.take_eq_nil_iff, hnil, or_false]; omega
          have hpos : 0 < s.incoming.length := List.length_pos_iff.2 hnil
          have hbuf : (buf ++ s.incoming.take k).length = buf.length + min k s.incoming.length := by
            simp
          rw [if_neg hne]
          simp only
          rw [ih _ _ (by omega) (by omega), hbuf]
          by_cases hall : n - buf.length ≤ s.incoming.length
          · have hmin : min k s.incoming.length = k := by omega
            have hsub : n - (buf.length + k) = n - buf.length - k := by omega
            rw [hmin, hsub, if_pos (by simp; omega), if_pos hall, Sock.advance_advance,
              Sock.incoming_advance, List.append_assoc]
            have hadd : k + (n - buf.length - k) = n - buf.length := by omega
            rw [← List.take_add, hadd]
          · rw [if_neg (by rw [Sock.incoming_advance, List.length_drop]; omega), if_neg hall,
              Sock.advance_advance, Sock.incoming_advance]
            rcases Nat.le_total k s.incoming.length with hkl | hkl
            · have hmin : min k s.incoming.length = k := by omega
              have e₁ : n - (buf.length + k) - (s.incoming.length - k) =
                  n - buf.length - s.incoming.length := by omega
              have e₂ : k + (s.incoming.length - k) = s.incoming.length := by omega
              rw [hmin, List.length_drop, e₁, e₂]
            · have hmin : min k s.incoming.length = s.incoming.length := by omega
              have hadv : s.advance (k + 0) = s.advance s.incoming.length := by
                simp [Sock.advance, List.drop_eq_nil_of_le hkl, Nat.min_eq_right hkl]
              have e₁ : n - (buf.length + s.incoming.length) - 0 =
                  n - buf.length - s.incoming.length := by omega
              rw [hmin, List.drop_eq_nil_of_le hkl, List.length_nil, hadv, e₁]
      · have hn : n - buf.length = 0 := by omega
        simp only [recvRound, if_neg hlt, hn]
        simp [pure, EStateM.pure, Sock.advance_zero]

/-- **Reading `n` bytes gives the next `n` bytes of the stream**, or fails at its end, however the
kernel cuts the stream. -/
theorem recvExact_eq (n : ℕ) (s : Sock) :
    recvExact n s =
      if n ≤ s.incoming.length then .ok (s.incoming.take n) (s.advance n)
      else .error (.protocol (.shortRead (n - s.incoming.length)))
        (s.advance s.incoming.length) := by
  rw [recvExact, recvLoop_eq n (n + 1) [] s (by simp) (by simp)]
  simp

end NbdClient

/-
**The session of the NBD client, frame by frame.**

`ZfsLive/NbdClient.lean` translates the client byte by byte, with its loops nested in each other.  Seen
from the wire it does something simpler: after the greeting it reads one frame after the other, each a
header of 20 bytes and a body whose length the header gives, and a frame either moves the session on,
or ends it, or is refused.  This module says that as a state machine and shows that the client refines
it; what a session makes of the reports and of the malformed frames that a server can send is then read
off the machine.

Main definitions:

* `NbdClient.Phase`, `NbdClient.step` — the state machine;
* `NbdClient.observe` — the frames that a session reads from a byte stream, and how it ends;
* `NbdClient.Frame.IsError`, `NbdClient.Frame.Malformed` — error reports, and bodies that are too short.

Main results:

* `NbdClient.session_observe` — **the client refines the state machine**;
* `NbdClient.errorsRaise_iff` — **when every error report that is read makes the call raise**;
* `NbdClient.oneErrorKind_iff` — **when nothing but an `NBDProtocolError` escapes**;
* `NbdClient.not_errorsRaise_offset`, `NbdClient.not_oneErrorKind_short` — a report of a subtype that
  the client does not know, and an option reply without a context id.
-/

import ZfsLive.NbdServer
import ZfsLive.NbdWalk

set_option relaxedAutoImplicit false
set_option autoImplicit false

namespace NbdClient

open Bytes Loop

/-! ### Frames -/

/-- A frame: its header and its body. -/
structure Frame where
  hdr : List UInt8
  body : List UInt8
  deriving DecidableEq, Repr

namespace Frame

variable (f : Frame)

/-- The option that an option reply answers. -/
def option : ℕ := field 8 4 f.hdr

/-- The type of an option reply. -/
def rep : ℕ := field 12 4 f.hdr

/-- The chunk ends the reply to its request. -/
def done : Prop := field 4 2 f.hdr &&& NBD_REPLY_FLAG_DONE ≠ 0

instance : Decidable f.done := inferInstanceAs (Decidable (_ ≠ _))

/-- The type of a structured reply chunk. -/
def ctype : ℕ := field 6 2 f.hdr

end Frame

/-! ### The state machine -/

/-- What the session is waiting for. -/
inductive Phase
  /-- The answer to NBD_OPT_STRUCTURED_REPLY. -/
  | structuredReply
  /-- The answers to NBD_OPT_SET_META_CONTEXT, with the id that was assigned last. -/
  | metaContext (context_id : Option ℕ)
  /-- The answers to NBD_OPT_GO, with the size that was told last. -/
  | go (context_id : ℕ) (export_size : Option ℕ)
  /-- The chunks of the reply to a request, with the descriptors so far. -/
  | walk (context_id export_size : ℕ) (w : Walk) (ds : List Descriptor)
  deriving DecidableEq, Repr

/-- What is wrong with a header, before its body is read. -/
def headerError (p : Phase) (hdr : List UInt8) : Option ProtocolError :=
  match p with
  | .walk _ _ w _ =>
      if field 0 4 hdr ≠ NBD_STRUCTURED_REPLY_MAGIC then some (.badStructuredReplyMagic (field 0 4 hdr))
      else if field 8 8 hdr ≠ w.handle then some (.handleMismatch (field 8 8 hdr) w.handle)
      else none
  | _ =>
      if field 0 8 hdr ≠ NBD_OPTION_REPLY_MAGIC then some (.badOptionReplyMagic (field 0 8 hdr))
      else none

/-- How a session goes on: with another frame, or with the size of the export and the replies. -/
abbrev Next := Phase ⊕ (ℕ × List Reply)

/-- The next request of the walk, or its end. -/
def nextRequest (context_id export_size : ℕ) (w : Walk) : Next :=
  if w.offset < export_size then .inl (.walk context_id export_size w [])
  else .inr (export_size, w.replies)

/-- The walk after the reply to a request. -/
def Walk.answered (export_size : ℕ) (w : Walk) (ds : List Descriptor) : Walk :=
  let length := nextLength export_size BLOCK_STATUS_CHUNK w
  ⟨w.handle + 1, w.offset + length, w.replies ++ [⟨w.offset, length, ds⟩]⟩

/-- The descriptors of a list of bytes whose length is a multiple of eight. -/
def readDescriptors : List UInt8 → List Descriptor
  | a :: b :: c :: d :: e :: f :: g :: h :: rest =>
      ⟨beNat [a, b, c, d], beNat [e, f, g, h]⟩ :: readDescriptors rest
  | _ => []

/-- What the walk takes from a chunk. -/
def takeChunk (context_id : ℕ) (f : Frame) : Except NbdError (List Descriptor) :=
  if f.ctype = NBD_REPLY_TYPE_ERROR then
    if f.body.length < 4 then .error .struct
    else .error (.protocol (.blockStatusError (beNat (f.body.take 4)) (f.body.drop 6)))
  else if f.ctype ≠ NBD_REPLY_TYPE_BLOCK_STATUS then .ok []
  else if f.body.length < 4 then .error .struct
  else if beNat (f.body.take 4) ≠ context_id then .ok []
  else if (f.body.length - 4) % 8 ≠ 0 then .error .struct
  else .ok (readDescriptors (f.body.drop 4))

/-- **A frame arrives.** -/
def step (context : String) : Phase → Frame → Except NbdError Next
  | .structuredReply, f =>
      if f.option ≠ NBD_OPT_STRUCTURED_REPLY ∨ f.rep ≠ NBD_REP_ACK then
        .error (.protocol (.structuredReplyFailed f.option f.rep))
      else .ok (.inl (.metaContext none))
  | .metaContext id, f =>
      if f.option ≠ NBD_OPT_SET_META_CONTEXT then .error (.protocol (.unexpectedOption f.option))
      else if f.rep &&& NBD_REP_FLAG_ERROR ≠ 0 then
        .error (.protocol (.setMetaContextFailed f.rep f.body))
      else if f.rep = NBD_REP_META_CONTEXT then
        if f.body.length < 4 then .error .struct
        else .ok (.inl (.metaContext (some (beNat (f.body.take 4)))))
      else if f.rep = NBD_REP_ACK then
        match id with
        | none => .error (.protocol (.noContextId context))
        | some id => .ok (.inl (.go id none))
      else .ok (.inl (.metaContext id))
  | .go id size, f =>
      if f.option ≠ NBD_OPT_GO then .error (.protocol (.unexpectedOption f.option))
      else if f.rep &&& NBD_REP_FLAG_ERROR ≠ 0 then .error (.protocol (.optGoFailed f.rep f.body))
      else if f.rep = NBD_REP_INFO then
        if f.body.length < 2 then .error .struct
        else if beNat (f.body.take 2) = NBD_INFO_EXPORT ∧ 12 ≤ f.body.length then
          .ok (.inl (.go id (some (beNat ((f.body.drop 2).take 8)))))
        else .ok (.inl (.go id size))
      else if f.rep = NBD_REP_ACK then
        match size with
        | none => .error (.protocol .noInfoExport)
        | some size => .ok (nextRequest id size ⟨0, 0, []⟩)
      else .ok (.inl (.go id size))
  | .walk id size w ds, f =>
      match takeChunk id f with
      | .error e => .error e
      | .ok new =>
          if f.done then .ok (nextRequest id size (w.answered size (ds ++ new)))
          else .ok (.inl (.walk id size w (ds ++ new)))

/-! ### Sessions -/

/-- A session over a byte stream: the frames that were read, each with the phase it was read in, how
the session ended, and the bytes that were left. -/
structure Session where
  read : List (Phase × Frame)
  outcome : Except NbdError (ℕ × List Reply)
  rest : List UInt8

/-- The session with one more frame at its beginning. -/
def Session.after (s : Session) (p : Phase) (f : Frame) : Session :=
  { s with read := (p, f) :: s.read }

/-- The frames of a byte stream from a phase on; `n` bounds their number. -/
def watch (context : String) : ℕ → Phase → List UInt8 → Session
  | 0, _, bs => ⟨[], .error .stuck, bs⟩
  | n + 1, p, bs =>
      if bs.length < 20 then ⟨[], .error (.protocol (.shortRead (20 - bs.length))), []⟩
      else
        match headerError p (bs.take 20) with
        | some e => ⟨[], .error (.protocol e), bs.drop 20⟩
        | none =>
            let length := field 16 4 (bs.take 20)
            if bs.length - 20 < length then
              ⟨[], .error (.protocol (.shortRead (length - (bs.length - 20)))), []⟩
            else
              let f : Frame := ⟨bs.take 20, (bs.drop 20).take length⟩
              let rest := bs.drop (20 + length)
              match step context p f with
              | .error e => ⟨[(p, f)], .error e, rest⟩
              | .ok (.inr result) => ⟨[(p, f)], .ok result, rest⟩
              | .ok (.inl p') => (watch context n p' rest).after p f

/-- **The session over a byte stream.** -/
def observe (context : String) (bs : List UInt8) : Session :=
  if bs.length < 18 then ⟨[], .error (.protocol (.shortRead (18 - bs.length))), []⟩
  else if field 0 8 (bs.take 18) ≠ NBDMAGIC then
    ⟨[], .error (.protocol (.badMagic (field 0 8 (bs.take 18)))), bs.drop 18⟩
  else if field 8 8 (bs.take 18) ≠ IHAVEOPT then
    ⟨[], .error (.protocol (.badOptsMagic (field 8 8 (bs.take 18)))), bs.drop 18⟩
  else watch context (bs.length + 1) .structuredReply (bs.drop 18)

/-! ### The client reads frames -/

/-- How a run ended, and the bytes that it left. -/
def outcome {α : Type} : EStateM.Result NbdError Sock α → Except NbdError α × List UInt8
  | .ok a s => (.ok a, s.incoming)
  | .error e s => (.error e, s.incoming)

def Session.result (s : Session) : Except NbdError (ℕ × List Reply) × List UInt8 :=
  (s.outcome, s.rest)

@[simp] theorem Session.result_after (s : Session) (p : Phase) (f : Frame) :
    (s.after p f).result = s.result := rfl

/-- What the state machine makes of the rest of the stream. -/
def goOn (context : String) (n : ℕ) (bs : List UInt8) :
    Except NbdError Next → Except NbdError (ℕ × List Reply) × List UInt8
  | .error e => (.error e, bs)
  | .ok (.inl p) => (watch context n p bs).result
  | .ok (.inr result) => (.ok result, bs)

/-- The client refuses a header. -/
def checkHeader (p : Phase) (hdr : List UInt8) : NbdM Unit :=
  match headerError p hdr with
  | some e => raise e
  | none => pure ()

/-- The client reads a frame. -/
def readFrame (p : Phase) : NbdM Frame := do
  let hdr ← recvExact 20
  checkHeader p hdr
  let body ← recvBody (field 16 4 hdr)
  return ⟨hdr, body⟩

theorem recvBody_eq_recvExact (n : ℕ) : recvBody n = recvExact n := by
  rw [recvBody]
  by_cases hn : n = 0
  · subst hn
    funext s
    rw [if_neg (by simp), recvExact_eq, if_pos (Nat.zero_le _), Sock.advance_zero]
    rfl
  · rw [if_pos hn]

theorem outcome_bind_recvExact {β : Type} (n : ℕ) (k : List UInt8 → NbdM β) (s : Sock) :
    outcome ((recvExact n >>= k) s) =
      if s.incoming.length < n then
        (.error (.protocol (.shortRead (n - s.incoming.length))), [])
      else outcome (k (s.incoming.take n) (s.advance n)) := by
  have hread := recvExact_eq n s
  by_cases hlt : s.incoming.length < n
  · rw [if_neg (by omega)] at hread
    rw [Wp.bind_error hread, if_pos hlt]
    simp [outcome]
  · rw [if_pos (by omega)] at hread
    rw [Wp.bind_ok hread, if_neg hlt]

/-- **Reading a frame and going on with it** is what the state machine does, provided the client goes on
as the machine does. -/
theorem outcome_readFrame {context : String} {p : Phase} {k : Frame → NbdM (ℕ × List Reply)} {n : ℕ}
    {s : Sock}
    (hk : ∀ f s', s'.incoming.length + 20 ≤ s.incoming.length →
      outcome (k f s') = goOn context n s'.incoming (step context p f)) :
    outcome ((readFrame p >>= k) s) = (watch context (n + 1) p s.incoming).result := by
  simp only [readFrame, bind_assoc, pure_bind]
  rw [outcome_bind_recvExact, watch]
  by_cases hhdr : s.incoming.length < 20
  · rw [if_pos hhdr, if_pos hhdr]
    rfl
  rw [if_neg hhdr, if_neg hhdr, checkHeader]
  cases headerError p (s.incoming.take 20) with
  | some e => rfl
  | none =>
      simp only [pure_bind, recvBody_eq_recvExact]
      rw [outcome_bind_recvExact, Sock.incoming_advance, List.length_drop]
      by_cases hbody : s.incoming.length - 20 < field 16 4 (s.incoming.take 20)
      · rw [if_pos hbody, if_pos hbody]
        rfl
      rw [if_neg hbody, if_neg hbody, Sock.advance_advance]
      rw [hk _ _ (by rw [Sock.incoming_advance, List.length_drop]; omega)]
      cases step context p ⟨s.incoming.take 20,
          (s.incoming.drop 20).take (field 16 4 (s.incoming.take 20))⟩ with
      | error e => rfl
      | ok next =>
          cases next with
          | inl p' => rfl
          | inr result => rfl

theorem checkHeader_option {p : Phase} {hdr : List UInt8} (hp : ∀ id size w ds, p ≠ .walk id size w ds) :
    checkHeader p hdr =
      raiseIf (field 0 8 hdr ≠ NBD_OPTION_REPLY_MAGIC) (.badOptionReplyMagic (field 0 8 hdr)) := by
  cases p with
  | walk id size w ds => exact absurd rfl (hp id size w ds)
  | _ =>
      simp only [checkHeader, headerError, raiseIf]
      by_cases hmagic : field 0 8 hdr ≠ NBD_OPTION_REPLY_MAGIC
      · rw [if_pos hmagic, if_pos hmagic]
      · rw [if_neg hmagic, if_neg hmagic]

theorem recvOptionReply_eq {p : Phase} (hp : ∀ id size w ds, p ≠ .walk id size w ds) :
    recvOptionReply = do
      let f ← readFrame p
      return (f.option, f.rep, f.body) := by
  simp only [recvOptionReply, readFrame, bind_assoc, pure_bind, checkHeader_option hp]
  rfl

theorem checkHeader_walk (id size : ℕ) (w : Walk) (ds : List Descriptor) (hdr : List UInt8) :
    checkHeader (.walk id size w ds) hdr = (do
      raiseIf (field 0 4 hdr ≠ NBD_STRUCTURED_REPLY_MAGIC) (.badStructuredReplyMagic (field 0 4 hdr))
      raiseIf (field 8 8 hdr ≠ w.handle) (.handleMismatch (field 8 8 hdr) w.handle)) := by
  rw [checkHeader, headerError, raiseIf, raiseIf]
  by_cases hmagic : field 0 4 hdr ≠ NBD_STRUCTURED_REPLY_MAGIC
  · rw [if_pos hmagic, if_pos hmagic]
    rfl
  · rw [if_neg hmagic, if_neg hmagic, pure_bind]
    by_cases hhandle : field 8 8 hdr ≠ w.handle
    · rw [if_pos hhandle, if_pos hhandle]
    · rw [if_neg hhandle, if_neg hhandle]

theorem readStructuredChunk_eq (id size : ℕ) (w : Walk) (ds : List Descriptor) :
    readStructuredChunk w.handle = do
      let f ← readFrame (.walk id size w ds)
      return (decide f.done, f.ctype, f.body) := by
  simp only [readStructuredChunk, readFrame, bind_assoc, pure_bind, checkHeader_walk]
  rfl

/-! ### The walk -/

theorem length_mod_ne_zero {bs : List UInt8} (hnil : bs = [] → False)
    (hlong : ∀ a b c d e f g h rest, bs = a :: b :: c :: d :: e :: f :: g :: h :: rest → False) :
    bs.length % 8 ≠ 0 := by
  match bs, hnil, hlong with
  | [], hnil, _ => exact (hnil rfl).elim
  | [_], _, _ | [_, _], _, _ | [_, _, _], _, _ | [_, _, _, _], _, _ | [_, _, _, _, _], _, _
  | [_, _, _, _, _, _], _, _ | [_, _, _, _, _, _, _], _, _ => simp
  | _ :: _ :: _ :: _ :: _ :: _ :: _ :: _ :: _, _, hlong =>
      exact (hlong _ _ _ _ _ _ _ _ _ rfl).elim

theorem unpackDescriptors_eq (bs : List UInt8) :
    unpackDescriptors bs =
      if bs.length % 8 ≠ 0 then throw .struct else pure (readDescriptors bs) := by
  fun_induction unpackDescriptors bs with
  | case1 => rfl
  | case2 a b c d e f g h rest ih =>
      rw [ih, readDescriptors]
      have hmod : (a :: b :: c :: d :: e :: f :: g :: h :: rest).length % 8 = rest.length % 8 := by
        simp only [List.length_cons]
        omega
      rw [hmod]
      by_cases hrest : rest.length % 8 ≠ 0
      · rw [if_pos hrest, if_pos hrest]
        rfl
      · rw [if_neg hrest, if_neg hrest, pure_bind]
  | case3 bs hnil hlong =>
      rw [if_pos (length_mod_ne_zero hnil hlong)]

theorem unpack_take (n : ℕ) (bs : List UInt8) :
    unpack n (bs.take n) = if bs.length < n then throw .struct else pure (beNat (bs.take n)) := by
  rw [unpack]
  by_cases hshort : bs.length < n
  · rw [if_pos hshort, if_neg (by rw [List.length_take]; omega)]
  · rw [if_neg hshort, if_pos (by rw [List.length_take]; omega)]

/-- The client takes from a chunk what the state machine takes. -/
theorem chunkDescriptors_eq (id : ℕ) (f : Frame) :
    chunkDescriptors id f.ctype f.body =
      match takeChunk id f with
      | .error e => throw e
      | .ok new => pure new := by
  rw [chunkDescriptors, takeChunk]
  by_cases hnone : f.ctype = NBD_REPLY_TYPE_NONE
  · rw [if_pos hnone, hnone, if_neg (by decide), if_pos (by decide)]
  rw [if_neg hnone]
  by_cases herr : f.ctype = NBD_REPLY_TYPE_ERROR
  · rw [if_pos herr, if_pos herr, unpack_take]
    by_cases hshort : f.body.length < 4
    · rw [if_pos hshort, if_pos hshort]
      rfl
    · rw [if_neg hshort, if_neg hshort]
      rfl
  rw [if_neg herr, if_neg herr]
  by_cases hstatus : f.ctype ≠ NBD_REPLY_TYPE_BLOCK_STATUS
  · rw [if_pos hstatus, if_pos hstatus]
  rw [if_neg hstatus, if_neg hstatus]
  simp only [unpack_take]
  by_cases hshort : f.body.length < 4
  · rw [if_pos hshort, if_pos hshort]
    rfl
  rw [if_neg hshort, if_neg hshort, pure_bind]
  by_cases hctx : beNat (f.body.take 4) ≠ id
  · rw [if_pos hctx, if_pos hctx]
  rw [if_neg hctx, if_neg hctx, unpackDescriptors_eq, List.length_drop]
  by_cases hmod : (f.body.length - 4) % 8 ≠ 0
  · rw [if_pos hmod, if_pos hmod]
  · rw [if_neg hmod, if_neg hmod]

/-- The rest of the walk, from a request whose reply is being read. -/
def finishReply (id size : ℕ) (w : Walk) (ds : List Descriptor) (fuel fuel' : ℕ) :
    NbdM (ℕ × List Reply) := do
  let ds' ← loop .stuck (chunkRound id w.handle) fuel ds
  let rs ← loop .stuck (requestRound id size BLOCK_STATUS_CHUNK) fuel' (w.answered size ds')
  return (size, rs)

/-- The client goes on from a phase as the state machine does, whatever rounds its loops have left. -/
def WalkRefines (context : String) (id size n : ℕ) : Prop :=
  ∀ (w : Walk) (ds : List Descriptor) (s : Sock) (fuel fuel' : ℕ), s.incoming.length < n →
    s.incoming.length < fuel → s.incoming.length ≤ fuel' →
      outcome (finishReply id size w ds fuel fuel' s) =
        (watch context n (.walk id size w ds) s.incoming).result

/-- From one request to the next. -/
theorem outcome_requests {context : String} {id size n : ℕ} (hn : WalkRefines context id size n)
    {w : Walk} {s : Sock} {fuel' : ℕ} (hlt : s.incoming.length < n)
    (hfuel : s.incoming.length < fuel') :
    outcome ((do
      let rs ← loop NbdError.stuck (requestRound id size BLOCK_STATUS_CHUNK) fuel' w
      return (size, rs)) s) = goOn context n s.incoming (.ok (nextRequest id size w)) := by
  obtain ⟨k, rfl⟩ := Nat.exists_eq_succ_of_ne_zero (Nat.ne_of_gt (Nat.zero_lt_of_lt hfuel))
  rw [loop, requestRound, nextRequest]
  by_cases hoff : w.offset < size
  · rw [if_pos hoff, if_pos hoff]
    simp only [bind_assoc, pure_bind]
    exact hn w [] (s.push _) (s.incoming.length + 1) k hlt (Nat.lt_succ_self _)
      (Nat.le_of_lt_succ hfuel)
  · rw [if_neg hoff, if_neg hoff]
    rfl

theorem walkRefines (context : String) (id size n : ℕ) : WalkRefines context id size n := by
  induction n with
  | zero => exact fun _ _ _ _ _ hlt => absurd hlt (Nat.not_lt_zero _)
  | succ n ih =>
      intro w ds s fuel fuel' hlt hfuel hfuel'
      obtain ⟨k, rfl⟩ := Nat.exists_eq_succ_of_ne_zero (Nat.ne_of_gt (Nat.zero_lt_of_lt hfuel))
      rw [finishReply, loop, chunkRound, readStructuredChunk_eq id size w ds]
      simp only [bind_assoc, pure_bind]
      refine outcome_readFrame fun f s' hread => ?_
      rw [chunkDescriptors_eq, step]
      cases takeChunk id f with
      | error e => rfl
      | ok new =>
          simp only [pure_bind]
          by_cases hdone : f.done
          · simp only [hdone, decide_true, if_true, pure_bind]
            have hfuel₁ : s'.incoming.length < fuel' := by omega
            exact outcome_requests ih (by omega) hfuel₁
          · simp only [hdone, decide_false, if_false, Bool.false_eq_true]
            exact ih w (ds ++ new) s' k fuel' (by omega) (by omega) (by omega)

/-! ### The negotiation -/

/-- A sequence that begins with a refusal ends with it. -/
theorem outcome_raiseIf_bind {β : Type} {c : Prop} [Decidable c] {e : ProtocolError}
    {k : Unit → NbdM β} {s : Sock} :
    outcome ((raiseIf c e >>= k) s) =
      if c then (.error (.protocol e), s.incoming) else outcome (k () s) := by
  rw [raiseIf]
  by_cases hc : c
  · rw [if_pos hc, if_pos hc]
    rfl
  · rw [if_neg hc, if_neg hc, pure_bind]

/-- An option is sent before the answers to it are read. -/
theorem exists_sendOption_rounds {β : Type} (opt : ℕ) (payload : List UInt8) (k : ℕ → NbdM β)
    (s : Sock) : ∃ s₁ : Sock, s₁.incoming = s.incoming ∧
      outcome ((sendOption opt payload >>= fun _ => rounds >>= k) s) =
        outcome (k (s₁.incoming.length + 1) s₁) :=
  ⟨s.push _, rfl, rfl⟩

/-- The rest of the session, from a reply to NBD_OPT_GO on. -/
def finishGo (id : ℕ) (size : Option ℕ) (fuel : ℕ) : NbdM (ℕ × List Reply) :=
  loop .stuck optGoRound fuel size >>= fun size =>
    (match size with
      | none => raise .noInfoExport
      | some size => pure size) >>= fun size => do
        let rs ← walkBlockStatus id size
        return (size, rs)

theorem goRefines (context : String) (id n : ℕ) : ∀ (size : Option ℕ) (s : Sock) (fuel : ℕ),
    s.incoming.length < n → s.incoming.length < fuel →
      outcome (finishGo id size fuel s) = (watch context n (.go id size) s.incoming).result := by
  induction n with
  | zero => exact fun _ _ _ hlt => absurd hlt (Nat.not_lt_zero _)
  | succ n ih =>
      intro size s fuel hlt hfuel
      obtain ⟨k, rfl⟩ := Nat.exists_eq_succ_of_ne_zero (Nat.ne_of_gt (Nat.zero_lt_of_lt hfuel))
      rw [finishGo, loop, optGoRound, recvOptionReply_eq (p := .go id size) (by simp)]
      simp only [bind_assoc, pure_bind]
      refine outcome_readFrame fun f s' hread => ?_
      have hgo : ∀ size', outcome (finishGo id size' k s') =
          goOn context n s'.incoming (.ok (.inl (.go id size'))) := fun size' =>
        ih size' s' k (by omega) (by omega)
      rw [outcome_raiseIf_bind, step.eq_def]
      dsimp only
      by_cases hopt : f.option ≠ NBD_OPT_GO
      · rw [if_pos hopt, if_pos hopt]
        rfl
      rw [if_neg hopt, if_neg hopt, outcome_raiseIf_bind]
      by_cases herr : f.rep &&& NBD_REP_FLAG_ERROR ≠ 0
      · rw [if_pos herr, if_pos herr]
        rfl
      rw [if_neg herr, if_neg herr]
      by_cases hinfo : f.rep = NBD_REP_INFO
      · rw [if_pos hinfo, if_pos hinfo]
        simp only [unpack_take]
        by_cases hshort : f.body.length < 2
        · rw [if_pos hshort, if_pos hshort]
          rfl
        rw [if_neg hshort, if_neg hshort, pure_bind]
        by_cases hexport : beNat (f.body.take 2) = NBD_INFO_EXPORT ∧ 12 ≤ f.body.length
        · have hlong : ¬ (f.body.drop 2).length < 8 := by
            rw [List.length_drop]
            omega
          rw [if_pos hexport, if_pos hexport, if_neg hlong, pure_bind, pure_bind]
          exact hgo _
        · rw [if_neg hexport, if_neg hexport]
          exact hgo size
      rw [if_neg hinfo, if_neg hinfo]
      by_cases hack : f.rep = NBD_REP_ACK
      · rw [if_pos hack, if_pos hack]
        cases size with
        | none => rfl
        | some size =>
            have hfuel₁ : s'.incoming.length < s'.incoming.length + 1 := Nat.lt_succ_self _
            exact outcome_requests (walkRefines context id size n) (by omega) hfuel₁
      · rw [if_neg hack, if_neg hack]
        exact hgo size

/-- The rest of the session, from a reply to NBD_OPT_SET_META_CONTEXT on. -/
def finishMetaContext (export_name context : String) (id : Option ℕ) (fuel : ℕ) :
    NbdM (ℕ × List Reply) :=
  loop .stuck metaContextRound fuel id >>= fun id =>
    (match id with
      | none => raise (.noContextId context)
      | some id => pure id) >>= fun id => do
        let size ← optGo export_name
        let rs ← walkBlockStatus id size
        return (size, rs)

theorem metaContextRefines (export_name context : String) (n : ℕ) :
    ∀ (id : Option ℕ) (s : Sock) (fuel : ℕ), s.incoming.length < n → s.incoming.length < fuel →
      outcome (finishMetaContext export_name context id fuel s) =
        (watch context n (.metaContext id) s.incoming).result := by
  induction n with
  | zero => exact fun _ _ _ hlt => absurd hlt (Nat.not_lt_zero _)
  | succ n ih =>
      intro id s fuel hlt hfuel
      obtain ⟨k, rfl⟩ := Nat.exists_eq_succ_of_ne_zero (Nat.ne_of_gt (Nat.zero_lt_of_lt hfuel))
      rw [finishMetaContext, loop, metaContextRound, recvOptionReply_eq (p := .metaContext id) (by simp)]
      simp only [bind_assoc, pure_bind]
      refine outcome_readFrame fun f s' hread => ?_
      have hmeta : ∀ id', outcome (finishMetaContext export_name context id' k s') =
          goOn context n s'.incoming (.ok (.inl (.metaContext id'))) := fun id' =>
        ih id' s' k (by omega) (by omega)
      rw [outcome_raiseIf_bind, step.eq_def]
      dsimp only
      by_cases hopt : f.option ≠ NBD_OPT_SET_META_CONTEXT
      · rw [if_pos hopt, if_pos hopt]
        rfl
      rw [if_neg hopt, if_neg hopt, outcome_raiseIf_bind]
      by_cases herr : f.rep &&& NBD_REP_FLAG_ERROR ≠ 0
      · rw [if_pos herr, if_pos herr]
        rfl
      rw [if_neg herr, if_neg herr]
      by_cases hid : f.rep = NBD_REP_META_CONTEXT
      · rw [if_pos hid, if_pos hid]
        simp only [unpack_take]
        by_cases hshort : f.body.length < 4
        · rw [if_pos hshort, if_pos hshort]
          rfl
        · rw [if_neg hshort, if_neg hshort, pure_bind]
          exact hmeta _
      rw [if_neg hid, if_neg hid]
      by_cases hack : f.rep = NBD_REP_ACK
      · rw [if_pos hack, if_pos hack]
        cases id with
        | none => rfl
        | some id =>
            simp only [pure_bind, optGo, bind_assoc]
            obtain ⟨s₁, hs₁, heq⟩ := exists_sendOption_rounds NBD_OPT_GO _ _ s'
            rw [heq, goOn, ← hs₁]
            exact goRefines context id n none s₁ _ (by rw [hs₁]; omega) (Nat.lt_succ_self _)
      · rw [if_neg hack, if_neg hack]
        exact hmeta id

/-- The session, from the answer to NBD_OPT_STRUCTURED_REPLY on. -/
theorem structuredReplyRefines (export_name context : String) {n : ℕ} {s : Sock}
    (hlt : s.incoming.length < n + 1) :
    outcome ((do
      let (opt, rep, _) ← recvOptionReply
      raiseIf (opt ≠ NBD_OPT_STRUCTURED_REPLY ∨ rep ≠ NBD_REP_ACK) (.structuredReplyFailed opt rep)
      let id ← optSetMetaContext export_name context
      let size ← optGo export_name
      let rs ← walkBlockStatus id size
      return (size, rs)) s) = (watch context (n + 1) .structuredReply s.incoming).result := by
  rw [recvOptionReply_eq (p := .structuredReply) (by simp)]
  simp only [bind_assoc, pure_bind]
  refine outcome_readFrame fun f s' hread => ?_
  rw [outcome_raiseIf_bind, step.eq_def]
  dsimp only
  by_cases hrefused : f.option ≠ NBD_OPT_STRUCTURED_REPLY ∨ f.rep ≠ NBD_REP_ACK
  · rw [if_pos hrefused, if_pos hrefused]
    rfl
  · rw [if_neg hrefused, if_neg hrefused]
    simp only [optSetMetaContext, bind_assoc]
    obtain ⟨s₁, hs₁, heq⟩ := exists_sendOption_rounds NBD_OPT_SET_META_CONTEXT _ _ s'
    rw [heq, goOn, ← hs₁]
    exact metaContextRefines export_name context n none s₁ _ (by rw [hs₁]; omega)
      (Nat.lt_succ_self _)

/-- **The client refines the state machine**: it ends as the session over its byte stream does, and
leaves the bytes that the session leaves. -/
theorem session_observe (export_name context : String) (s : Sock) :
    outcome (session export_name context s) = (observe context s.incoming).result := by
  rw [session, handshake, observe]
  simp only [bind_assoc]
  rw [outcome_bind_recvExact]
  by_cases hshort : s.incoming.length < 18
  · rw [if_pos hshort, if_pos hshort]
    rfl
  rw [if_neg hshort, if_neg hshort, outcome_raiseIf_bind]
  by_cases hmagic : field 0 8 (s.incoming.take 18) ≠ NBDMAGIC
  · rw [if_pos hmagic, if_pos hmagic]
    rfl
  rw [if_neg hmagic, if_neg hmagic, outcome_raiseIf_bind]
  by_cases hopts : field 8 8 (s.incoming.take 18) ≠ IHAVEOPT
  · rw [if_pos hopts, if_pos hopts]
    rfl
  rw [if_neg hopts, if_neg hopts]
  simp only [pure_bind, optStructuredReply, bind_assoc]
  have hlt : (s.incoming.drop 18).length < s.incoming.length + 1 := by
    rw [List.length_drop]
    omega
  exact structuredReplyRefines export_name context (s := ((s.advance 18).push _).push _) hlt

/-! ### Error reports -/

/-- The bit by which a frame reports an error: bit 31 of the type of an option reply, bit 15 of the type
of a chunk. -/
def Frame.errorBit : Phase → Frame → ℕ
  | .walk _ _ _ _, f => f.ctype &&& 1 <<< 15
  | _, f => f.rep &&& NBD_REP_FLAG_ERROR

/-- The frame is an error report. -/
def Frame.IsError (p : Phase) (f : Frame) : Prop := f.errorBit p ≠ 0

instance (p : Phase) (f : Frame) : Decidable (f.IsError p) := inferInstanceAs (Decidable (_ ≠ _))

/-- The frame is an error chunk of a subtype that the client does not know. -/
def Frame.Unknown (p : Phase) (f : Frame) : Prop :=
  (∃ id size w ds, p = .walk id size w ds) ∧ f.IsError p ∧ f.ctype ≠ NBD_REPLY_TYPE_ERROR

/-- Where the session reads an error report, the call raises. -/
def ErrorsRaise (export_name context : String) (s : Sock) : Prop :=
  ∀ p f, (p, f) ∈ (observe context s.incoming).read → f.IsError p →
    ∃ e s', fetchDirtyExtents export_name context s = .error e s'

/-- The session comes to its end over an error chunk of a subtype that the client does not know. -/
def Swallows (context : String) (bs : List UInt8) : Prop :=
  (∃ r, (observe context bs).outcome = .ok r) ∧
    ∃ p f, (p, f) ∈ (observe context bs).read ∧ f.Unknown p

/-- Every frame of a session that comes to its end was accepted. -/
theorem step_of_watch_ok {context : String} {r : ℕ × List Reply} {n : ℕ} {p p' : Phase} {f : Frame}
    {bs : List UInt8} (hok : (watch context n p bs).outcome = .ok r)
    (hread : (p', f) ∈ (watch context n p bs).read) : ∃ next, step context p' f = .ok next := by
  induction n generalizing p bs with
  | zero => cases hok
  | succ n ih =>
      rw [watch] at hok hread
      split at hok
      · cases hok
      rename_i hhdr
      rw [if_neg hhdr] at hread
      split at hok
      · cases hok
      rename_i hnone
      simp only [hnone] at hread
      dsimp only at hok
      split at hok
      · cases hok
      rename_i hbody
      rw [if_neg hbody] at hread
      split at hok
      · cases hok
      · rename_i result hstep
        simp only [hstep, List.mem_singleton, Prod.mk.injEq] at hread
        obtain ⟨rfl, rfl⟩ := hread
        exact ⟨_, hstep⟩
      · rename_i p₁ hstep
        simp only [hstep, Session.after, List.mem_cons, Prod.mk.injEq] at hread
        obtain ⟨rfl, rfl⟩ | hread := hread
        · exact ⟨_, hstep⟩
        · exact ih hok hread

theorem step_of_observe_ok {context : String} {r : ℕ × List Reply} {p : Phase} {f : Frame}
    {bs : List UInt8} (hok : (observe context bs).outcome = .ok r)
    (hread : (p, f) ∈ (observe context bs).read) : ∃ next, step context p f = .ok next := by
  rw [observe] at hok hread
  split_ifs at hok hread
  exact step_of_watch_ok hok hread

/-- An error report that is accepted is one that the client does not know. -/
theorem unknown_of_step_ok {context : String} {p : Phase} {f : Frame} {next : Next}
    (hstep : step context p f = .ok next) (herr : f.IsError p) : f.Unknown p := by
  rw [step.eq_def] at hstep
  cases p with
  | structuredReply =>
      dsimp only at hstep
      split_ifs at hstep with hrefused
      rw [not_or, not_not, not_not] at hrefused
      have hbit : f.rep &&& NBD_REP_FLAG_ERROR ≠ 0 := herr
      rw [hrefused.2] at hbit
      exact absurd (by decide) hbit
  | metaContext id =>
      have hbit : f.rep &&& NBD_REP_FLAG_ERROR ≠ 0 := herr
      dsimp only at hstep
      rw [if_pos hbit] at hstep
      split_ifs at hstep
  | go id size =>
      have hbit : f.rep &&& NBD_REP_FLAG_ERROR ≠ 0 := herr
      dsimp only at hstep
      rw [if_pos hbit] at hstep
      split_ifs at hstep
  | walk id size w ds =>
      refine ⟨⟨id, size, w, ds, rfl⟩, herr, fun htype => ?_⟩
      dsimp only at hstep
      rw [takeChunk, if_pos htype] at hstep
      split_ifs at hstep

/-- The call ends as the session over its byte stream. -/
theorem fetchDirtyExtents_error_iff (export_name : String) {context : String} {s : Sock}
    {e : NbdError} :
    (∃ s', fetchDirtyExtents export_name context s = .error e s') ↔
      (observe context s.incoming).outcome = .error e := by
  have hsession := session_observe export_name context s
  have hfst : (observe context s.incoming).outcome = (outcome (session export_name context s)).1 := by
    rw [hsession]
    rfl
  rw [hfst, fetchDirtyExtents]
  rcases hr : session export_name context s with ⟨⟨size, replies⟩, s'⟩ | ⟨e', s'⟩
  · rw [Wp.bind_ok hr]
    exact iff_of_false (fun ⟨_, h⟩ => nomatch h) nofun
  · rw [Wp.bind_error hr]
    constructor
    · rintro ⟨_, ⟨⟩⟩
      rfl
    · rintro ⟨⟩
      exact ⟨s', rfl⟩

/-- **Every error report that is read makes the call raise**, exactly when the session does not come to
its end over an error chunk of a subtype that the client does not know. -/
theorem errorsRaise_iff (export_name context : String) (s : Sock) :
    ErrorsRaise export_name context s ↔ ¬ Swallows context s.incoming := by
  constructor
  · rintro hraise ⟨⟨r, hok⟩, p, f, hread, hunknown⟩
    obtain ⟨e, s', hrun⟩ := hraise p f hread hunknown.2.1
    rw [(fetchDirtyExtents_error_iff export_name).1 ⟨s', hrun⟩] at hok
    cases hok
  · intro hnot p f hread herr
    cases hend : (observe context s.incoming).outcome with
    | error e => exact ⟨e, (fetchDirtyExtents_error_iff export_name).2 hend⟩
    | ok r =>
        obtain ⟨next, hstep⟩ := step_of_observe_ok hend hread
        exact absurd ⟨⟨r, hend⟩, p, f, hread, unknown_of_step_ok hstep herr⟩ hnot

/-- A server that answers the request with an NBD_REPLY_TYPE_ERROR_OFFSET. -/
def offsetErrorServer : Sock where
  incoming := NbdServer.negotiation 1 512 ++
    NbdServer.chunk NBD_REPLY_FLAG_DONE ((1 <<< 15) ||| 2) 0 (beBytes 4 5 ++ beBytes 2 0 ++ beBytes 8 0)
  pos := 0
  ready := fun _ => 4096
  sent := []

/-- **An error report that is swallowed**: the read failure is taken for an export without dirty
blocks. -/
theorem not_errorsRaise_offset : ¬ ∀ (export_name context : String) (s : Sock),
    ErrorsRaise export_name context s := by
  intro hall
  have hread : (observe "qemu:dirty-bitmap:cbt" offsetErrorServer.incoming).read.any
      (fun pf => decide (pf.2.IsError pf.1)) = true := by decide +kernel
  obtain ⟨⟨p, f⟩, hmem, herr⟩ := List.any_eq_true.1 hread
  obtain ⟨e, s', hrun⟩ := hall "cbt" "qemu:dirty-bitmap:cbt" offsetErrorServer p f hmem
    (of_decide_eq_true herr)
  obtain ⟨s₁, hok⟩ : ∃ s₁, fetchDirtyExtents "cbt" "qemu:dirty-bitmap:cbt" offsetErrorServer =
      .ok [] s₁ := exists_ok_of_value (by decide +kernel)
  rw [hok] at hrun
  cases hrun

/-! ### Malformed frames -/

/-- The body of the frame is too short for the field that the client unpacks from it, or its descriptors
do not fill whole records. -/
def Frame.Malformed : Phase → Frame → Prop
  | .structuredReply, _ => False
  | .metaContext _, f =>
      f.option = NBD_OPT_SET_META_CONTEXT ∧ f.rep = NBD_REP_META_CONTEXT ∧ f.body.length < 4
  | .go _ _, f => f.option = NBD_OPT_GO ∧ f.rep = NBD_REP_INFO ∧ f.body.length < 2
  | .walk id _ _ _, f =>
      (f.ctype = NBD_REPLY_TYPE_ERROR ∨ f.ctype = NBD_REPLY_TYPE_BLOCK_STATUS) ∧ f.body.length < 4 ∨
        f.ctype = NBD_REPLY_TYPE_BLOCK_STATUS ∧ beNat (f.body.take 4) = id ∧
          (f.body.length - 4) % 8 ≠ 0

/-- The call returns a list or raises an `NBDProtocolError`. -/
def OneErrorKind (export_name context : String) (s : Sock) : Prop :=
  ∀ e s', fetchDirtyExtents export_name context s = .error e s' → ∃ e', e = .protocol e'

theorem takeChunk_struct_iff {id : ℕ} {f : Frame} :
    takeChunk id f = .error .struct ↔
      (f.ctype = NBD_REPLY_TYPE_ERROR ∨ f.ctype = NBD_REPLY_TYPE_BLOCK_STATUS) ∧ f.body.length < 4 ∨
        f.ctype = NBD_REPLY_TYPE_BLOCK_STATUS ∧ beNat (f.body.take 4) = id ∧
          (f.body.length - 4) % 8 ≠ 0 := by
  have hne : NBD_REPLY_TYPE_ERROR ≠ NBD_REPLY_TYPE_BLOCK_STATUS := by decide
  rw [takeChunk]
  by_cases herr : f.ctype = NBD_REPLY_TYPE_ERROR
  · by_cases hshort : f.body.length < 4 <;> simp [herr, hshort, hne]
  by_cases hstatus : f.ctype = NBD_REPLY_TYPE_BLOCK_STATUS
  · have hne' : NBD_REPLY_TYPE_BLOCK_STATUS ≠ NBD_REPLY_TYPE_ERROR := hne.symm
    by_cases hshort : f.body.length < 4
    · simp [hstatus, hshort, hne']
    by_cases hctx : beNat (f.body.take 4) = id
    · by_cases hmod : (f.body.length - 4) % 8 = 0 <;> simp [hstatus, hshort, hctx, hmod, hne']
    · simp [hstatus, hshort, hctx, hne']
  · simp [herr, hstatus]

/-- A step fails to unpack exactly the malformed frames. -/
theorem step_struct_iff (context : String) {p : Phase} {f : Frame} :
    step context p f = .error .struct ↔ f.Malformed p := by
  rw [step.eq_def]
  cases p with
  | structuredReply =>
      refine iff_of_false ?_ not_false
      dsimp only
      split_ifs <;> nofun
  | metaContext id =>
      have hbit : NBD_REP_META_CONTEXT &&& NBD_REP_FLAG_ERROR = 0 := by decide
      rw [Frame.Malformed]
      dsimp only
      by_cases hid : f.rep = NBD_REP_META_CONTEXT
      · by_cases hopt : f.option = NBD_OPT_SET_META_CONTEXT <;>
          by_cases hshort : f.body.length < 4 <;> simp [hid, hbit, hopt, hshort]
      · refine iff_of_false ?_ fun h => hid h.2.1
        rw [if_neg hid]
        split_ifs <;> cases id <;> nofun
  | go id size =>
      have hbit : NBD_REP_INFO &&& NBD_REP_FLAG_ERROR = 0 := by decide
      rw [Frame.Malformed]
      dsimp only
      by_cases hinfo : f.rep = NBD_REP_INFO
      · by_cases hopt : f.option = NBD_OPT_GO
        · by_cases hshort : f.body.length < 2
          · simp [hinfo, hbit, hopt, hshort]
          · refine iff_of_false ?_ fun h => hshort h.2.2
            rw [if_neg hshort]
            split_ifs <;> nofun
        · simp [hopt]
      · refine iff_of_false ?_ fun h => hinfo h.2.1
        rw [if_neg hinfo]
        split_ifs <;> cases size <;> nofun
  | walk id size w ds =>
      rw [Frame.Malformed, ← takeChunk_struct_iff]
      dsimp only
      cases takeChunk id f with
      | error e => simp
      | ok new =>
          refine iff_of_false ?_ nofun
          dsimp only
          split_ifs <;> nofun

/-- A session fails to unpack exactly where it reads a malformed frame. -/
theorem watch_struct_iff {context : String} {n : ℕ} {p : Phase} {bs : List UInt8} :
    (watch context n p bs).outcome = .error .struct ↔
      ∃ p' f, (p', f) ∈ (watch context n p bs).read ∧ f.Malformed p' := by
  induction n generalizing p bs with
  | zero => exact iff_of_false nofun fun ⟨_, _, hread, _⟩ => nomatch hread
  | succ n ih =>
      rw [watch]
      by_cases hhdr : bs.length < 20
      · rw [if_pos hhdr]
        exact iff_of_false nofun fun ⟨_, _, hread, _⟩ => nomatch hread
      rw [if_neg hhdr]
      cases headerError p (bs.take 20) with
      | some e => exact iff_of_false nofun fun ⟨_, _, hread, _⟩ => nomatch hread
      | none =>
          dsimp only
          by_cases hbody : bs.length - 20 < field 16 4 (bs.take 20)
          · rw [if_pos hbody]
            exact iff_of_false nofun fun ⟨_, _, hread, _⟩ => nomatch hread
          rw [if_neg hbody]
          generalize hf : (⟨bs.take 20, (bs.drop 20).take (field 16 4 (bs.take 20))⟩ : Frame) = f
          have hmal := step_struct_iff context (p := p) (f := f)
          cases hstep : step context p f with
          | error e =>
              rw [hstep, Except.error.injEq] at hmal
              simp [hmal]
          | ok next =>
              have hnot : ¬ f.Malformed p := fun h => nomatch hstep.symm.trans (hmal.2 h)
              cases next with
              | inr result => simp [hnot]
              | inl p' =>
                  change (watch context n p' _).outcome = .error .struct ↔
                    ∃ q g, (q, g) ∈ (p, f) :: (watch context n p' _).read ∧ g.Malformed q
                  rw [ih]
                  constructor
                  · rintro ⟨q, g, hread, hg⟩
                    exact ⟨q, g, List.mem_cons_of_mem _ hread, hg⟩
                  · rintro ⟨q, g, hread, hg⟩
                    rcases List.mem_cons.1 hread with heq | hread
                    · obtain ⟨rfl, rfl⟩ := Prod.mk.inj heq
                      exact absurd hg hnot
                    · exact ⟨q, g, hread, hg⟩

theorem observe_struct_iff {context : String} {bs : List UInt8} :
    (observe context bs).outcome = .error .struct ↔
      ∃ p f, (p, f) ∈ (observe context bs).read ∧ f.Malformed p := by
  rw [observe]
  by_cases hshort : bs.length < 18
  · rw [if_pos hshort]
    exact iff_of_false nofun fun ⟨_, _, hread, _⟩ => nomatch hread
  rw [if_neg hshort]
  by_cases hmagic : field 0 8 (bs.take 18) ≠ NBDMAGIC
  · rw [if_pos hmagic]
    exact iff_of_false nofun fun ⟨_, _, hread, _⟩ => nomatch hread
  rw [if_neg hmagic]
  by_cases hopts : field 8 8 (bs.take 18) ≠ IHAVEOPT
  · rw [if_pos hopts]
    exact iff_of_false nofun fun ⟨_, _, hread, _⟩ => nomatch hread
  · rw [if_neg hopts]
    exact watch_struct_iff

/-- **The call returns a list or raises an `NBDProtocolError`**, exactly when it reads no malformed
frame. -/
theorem oneErrorKind_iff (export_name context : String) (s : Sock) :
    OneErrorKind export_name context s ↔
      ¬ ∃ p f, (p, f) ∈ (observe context s.incoming).read ∧ f.Malformed p := by
  rw [← observe_struct_iff, ← fetchDirtyExtents_error_iff export_name]
  constructor
  · rintro hone ⟨s', hrun⟩
    obtain ⟨e', he⟩ := hone _ s' hrun
    cases he
  · intro hnot e s' hrun
    cases e with
    | protocol e' => exact ⟨e', rfl⟩
    | struct => exact absurd ⟨s', hrun⟩ hnot
    | stuck => exact absurd hrun (fetchDirtyExtents_ne_stuck export_name context s s')

/-- A server that assigns a context id of no bytes. -/
def shortContextServer : Sock where
  incoming := NbdServer.hello 1 ++ NbdServer.optionReply NBD_OPT_STRUCTURED_REPLY NBD_REP_ACK [] ++
    NbdServer.optionReply NBD_OPT_SET_META_CONTEXT NBD_REP_META_CONTEXT []
  pos := 0
  ready := fun _ => 4096
  sent := []

/-- **A `struct.error` that escapes.** -/
theorem not_oneErrorKind_short : ¬ ∀ (export_name context : String) (s : Sock),
    OneErrorKind export_name context s := by
  intro hall
  have hend : (observe "qemu:dirty-bitmap:cbt" shortContextServer.incoming).outcome =
      .error .struct := by decide +kernel
  obtain ⟨s', hrun⟩ := (fetchDirtyExtents_error_iff "cbt").2 hend
  obtain ⟨e', he⟩ := hall _ _ _ _ s' hrun
  cases he

end NbdClient

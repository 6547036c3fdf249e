/-
**The NBD client does not see how the kernel cuts the stream** (`src/datapath/nbd_client.py`).

A `recv` hands out between one byte and as many as were asked for, as the kernel likes.  All that the
client reads goes through `_recv_exact`, which takes exactly the bytes it was asked for from the stream,
whatever the chunks are; so two runs over the same stream do the same, however it is cut for each.

Main definitions:

* `NbdClient.Sock.cut` — a connection whose stream is cut in another way;
* `NbdClient.SameStream` — two connections that differ only in how the stream is cut.

Main results:

* `NbdClient.respects_session` — every function of the client respects `SameStream`;
* `NbdClient.chunkingIndependent` — **neither the result nor what is read and sent depends on the
  chunks**.
-/

import ZfsLive.Base.Twin
import ZfsLive.NbdClient

set_option relaxedAutoImplicit false
set_option autoImplicit false

namespace NbdClient

open Loop Twin

/-! ### Connections that differ in their chunks -/

/-- The connection whose stream the kernel cuts by another schedule. -/
def Sock.cut (s : Sock) (ready : ℕ → ℕ) : Sock := { s with ready := ready }

/-- The same bytes are still to come, as many were taken, and the same were sent. -/
structure SameStream (s t : Sock) : Prop where
  incoming : s.incoming = t.incoming
  pos : s.pos = t.pos
  sent : s.sent = t.sent

variable {s t : Sock}

theorem sameStream_cut (s : Sock) (ready ready' : ℕ → ℕ) :
    SameStream (s.cut ready) (s.cut ready') := ⟨rfl, rfl, rfl⟩

theorem SameStream.advance (h : SameStream s t) (n : ℕ) : SameStream (s.advance n) (t.advance n) where
  incoming := by rw [Sock.incoming_advance, Sock.incoming_advance, h.incoming]
  pos := by simp only [Sock.advance, h.incoming, h.pos]
  sent := h.sent

theorem SameStream.push (h : SameStream s t) (data : List UInt8) :
    SameStream (s.push data) (t.push data) where
  incoming := h.incoming
  pos := h.pos
  sent := by simp only [Sock.push, h.sent]

/-! ### The wire helpers -/

/-- **`_recv_exact` sees the stream only.** -/
theorem respects_recvExact (n : ℕ) : Respects SameStream (recvExact n) := by
  intro s t hst
  rw [recvExact_eq, recvExact_eq, hst.incoming]
  by_cases hle : n ≤ t.incoming.length
  · rw [if_pos hle, if_pos hle]
    exact ⟨rfl, hst.advance n⟩
  · rw [if_neg hle, if_neg hle]
    exact ⟨rfl, hst.advance _⟩

theorem respects_recvBody (n : ℕ) : Respects SameStream (recvBody n) :=
  .ite (respects_recvExact n) (.pure [])

theorem respects_sendAll (data : List UInt8) : Respects SameStream (sendAll data) :=
  .change fun _ _ hst => hst.push data

theorem respects_unpack (n : ℕ) (bs : List UInt8) : Respects SameStream (unpack n bs) :=
  .ite (.pure _) (.throw _)

theorem respects_raise {α : Type} (e : ProtocolError) : Respects SameStream (raise e : NbdM α) :=
  .throw _

theorem respects_raiseIf (c : Prop) [Decidable c] (e : ProtocolError) :
    Respects SameStream (raiseIf c e) := .ite (respects_raise e) (.pure ())

/-- The bound on the rounds of a loop is a number of bytes of the stream. -/
theorem respects_rounds : Respects SameStream rounds :=
  .read fun _ _ hst => by rw [hst.incoming]

/-! ### The negotiation -/

theorem respects_handshake : Respects SameStream handshake := by
  refine (respects_recvExact 18).bind fun hdr => ?_
  refine (respects_raiseIf _ _).bind fun _ => (respects_raiseIf _ _).bind fun _ => ?_
  exact (respects_sendAll _).bind fun _ => .pure _

theorem respects_recvOptionReply : Respects SameStream recvOptionReply := by
  refine (respects_recvExact 20).bind fun hdr => (respects_raiseIf _ _).bind fun _ => ?_
  exact (respects_recvBody _).bind fun _ => .pure _

theorem respects_optStructuredReply : Respects SameStream optStructuredReply := by
  refine (respects_sendAll _).bind fun _ => respects_recvOptionReply.bind fun r => ?_
  exact respects_raiseIf _ _

theorem respects_metaContextRound (id : Option ℕ) : Respects SameStream (metaContextRound id) := by
  refine respects_recvOptionReply.bind fun r => ?_
  refine (respects_raiseIf _ _).bind fun _ => (respects_raiseIf _ _).bind fun _ => ?_
  refine .ite ((respects_unpack _ _).bind fun _ => .pure _) ?_
  exact .ite (.pure _) (.pure _)

theorem respects_optSetMetaContext (export_name context : String) :
    Respects SameStream (optSetMetaContext export_name context) := by
  refine (respects_sendAll _).bind fun _ => respects_rounds.bind fun n => ?_
  refine (Respects.loop respects_metaContextRound n none).bind fun id => ?_
  cases id with
  | none => exact respects_raise _
  | some id => exact .pure id

theorem respects_optGoRound (size : Option ℕ) : Respects SameStream (optGoRound size) := by
  refine respects_recvOptionReply.bind fun r => ?_
  refine (respects_raiseIf _ _).bind fun _ => (respects_raiseIf _ _).bind fun _ => ?_
  refine .ite ((respects_unpack _ _).bind fun _ => ?_) (.ite (.pure _) (.pure _))
  exact .ite ((respects_unpack _ _).bind fun _ => .pure _) (.pure _)

theorem respects_optGo (export_name : String) : Respects SameStream (optGo export_name) := by
  refine (respects_sendAll _).bind fun _ => respects_rounds.bind fun n => ?_
  refine (Respects.loop respects_optGoRound n none).bind fun size => ?_
  cases size with
  | none => exact respects_raise _
  | some size => exact .pure size

/-! ### The walk -/

theorem respects_readStructuredChunk (handle : ℕ) :
    Respects SameStream (readStructuredChunk handle) := by
  refine (respects_recvExact 20).bind fun hdr => ?_
  refine (respects_raiseIf _ _).bind fun _ => (respects_raiseIf _ _).bind fun _ => ?_
  exact (respects_recvBody _).bind fun _ => .pure _

theorem respects_unpackDescriptors (bs : List UInt8) :
    Respects SameStream (unpackDescriptors bs) := by
  induction bs using unpackDescriptors.induct with
  | case1 => exact .pure _
  | case2 a b c d e f g h rest ih => exact ih.bind fun _ => .pure _
  | case3 bs hnil hcons =>
      rw [unpackDescriptors]
      exacts [.throw _, hnil, hcons]

theorem respects_chunkDescriptors (id ctype : ℕ) (body : List UInt8) :
    Respects SameStream (chunkDescriptors id ctype body) := by
  refine .ite (.pure _) (.ite ((respects_unpack _ _).bind fun _ => respects_raise _) ?_)
  refine .ite (.pure _) ((respects_unpack _ _).bind fun _ => .ite (.pure _) ?_)
  exact respects_unpackDescriptors _

theorem respects_chunkRound (id handle : ℕ) (ds : List Descriptor) :
    Respects SameStream (chunkRound id handle ds) := by
  refine (respects_readStructuredChunk handle).bind fun r => ?_
  exact (respects_chunkDescriptors _ _ _).bind fun _ => .pure _

theorem respects_requestRound (id size chunk : ℕ) (w : Walk) :
    Respects SameStream (requestRound id size chunk w) := by
  refine .ite ?_ (.pure _)
  refine (respects_sendAll _).bind fun _ => respects_rounds.bind fun n => ?_
  exact (Respects.loop (respects_chunkRound id w.handle) n []).bind fun _ => .pure _

theorem respects_walkBlockStatus (id size chunk : ℕ) :
    Respects SameStream (walkBlockStatus id size chunk) :=
  respects_rounds.bind fun n => .loop (respects_requestRound id size chunk) n _

theorem respects_session (export_name context : String) :
    Respects SameStream (session export_name context) := by
  refine respects_handshake.bind fun _ => respects_optStructuredReply.bind fun _ => ?_
  refine (respects_optSetMetaContext export_name context).bind fun id => ?_
  refine (respects_optGo export_name).bind fun size => ?_
  exact (respects_walkBlockStatus _ _ _).bind fun _ => .pure _

/-- **The chunks do not matter**: over the same stream, cut in two ways, the client returns the same
list or raises the same error, has taken as many bytes and has sent the same ones; and `_recv_exact`
takes exactly the next `n` bytes, or raises at the end of the stream. -/
theorem chunkingIndependent (export_name context : String) (s : Sock) (ready ready' : ℕ → ℕ) :
    Meets SameStream (fetchDirtyExtents export_name context (s.cut ready))
        (fetchDirtyExtents export_name context (s.cut ready')) ∧
      ∀ n, recvExact n (s.cut ready) =
        if n ≤ s.incoming.length then .ok (s.incoming.take n) ((s.cut ready).advance n)
        else .error (.protocol (.shortRead (n - s.incoming.length)))
          ((s.cut ready).advance s.incoming.length) := by
  constructor
  · have hfetch : Respects SameStream (fetchDirtyExtents export_name context) :=
      (respects_session export_name context).bind fun _ => .pure _
    exact hfetch _ _ (sameStream_cut s ready ready')
  · exact fun n => recvExact_eq n (s.cut ready)

end NbdClient

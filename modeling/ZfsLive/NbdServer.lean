/-
The other end of the NBD connection: the messages a server sends.

`ZfsLive/NbdClient.lean` reads an arbitrary byte stream.  This module writes the streams of a server
that speaks the protocol: the greeting, the option replies and the chunks of a structured reply, and
the whole stream of a server that answers each request with one BLOCK_STATUS chunk.

* `NbdServer.unpackDescriptors_descriptors` — the client reads the descriptors that were written.
-/

import ZfsLive.NbdClient

set_option relaxedAutoImplicit false
set_option autoImplicit false

namespace NbdServer

open Bytes NbdClient

/-- The greeting of a fixed-newstyle server. -/
def hello (server_flags : ℕ) : List UInt8 :=
  beBytes 8 NBDMAGIC ++ beBytes 8 IHAVEOPT ++ beBytes 2 server_flags

/-- A reply to an option. -/
def optionReply (opt rep : ℕ) (payload : List UInt8) : List UInt8 :=
  beBytes 8 NBD_OPTION_REPLY_MAGIC ++ beBytes 4 opt ++ beBytes 4 rep ++ beBytes 4 payload.length ++
    payload

/-- A chunk of a structured reply. -/
def chunk (flags ctype handle : ℕ) (body : List UInt8) : List UInt8 :=
  beBytes 4 NBD_STRUCTURED_REPLY_MAGIC ++ beBytes 2 flags ++ beBytes 2 ctype ++ beBytes 8 handle ++
    beBytes 4 body.length ++ body

/-- The bytes of a descriptor list. -/
def descriptors (ds : List Descriptor) : List UInt8 :=
  ds.flatMap fun d => beBytes 4 d.ext_len ++ beBytes 4 d.status

/-- **The client reads the descriptors that the server wrote**, where they fit their four bytes. -/
theorem unpackDescriptors_descriptors {ds : List Descriptor}
    (hfit : ∀ d ∈ ds, d.ext_len < 256 ^ 4 ∧ d.status < 256 ^ 4) :
    unpackDescriptors (descriptors ds) = pure ds := by
  induction ds with
  | nil => rfl
  | cons d ds ih =>
      obtain ⟨hlen, hstatus⟩ := hfit d List.mem_cons_self
      have hrest := ih fun d' hd' => hfit d' (List.mem_cons_of_mem _ hd')
      have hread : unpackDescriptors (descriptors (d :: ds)) = (do
          let ds ← unpackDescriptors (descriptors ds)
          return ⟨beNat (beBytes 4 d.ext_len), beNat (beBytes 4 d.status)⟩ :: ds) := rfl
      rw [hread, hrest, pure_bind, beNat_beBytes_of_lt hlen, beNat_beBytes_of_lt hstatus]

/-- The whole reply to a BLOCK_STATUS request, in one chunk. -/
def statusReply (context_id handle : ℕ) (ds : List Descriptor) : List UInt8 :=
  chunk NBD_REPLY_FLAG_DONE NBD_REPLY_TYPE_BLOCK_STATUS handle (beBytes 4 context_id ++ descriptors ds)

/-- The negotiation of a server that grants the structured replies, the context and the export. -/
def negotiation (context_id export_size : ℕ) : List UInt8 :=
  hello 1 ++ optionReply NBD_OPT_STRUCTURED_REPLY NBD_REP_ACK [] ++
    optionReply NBD_OPT_SET_META_CONTEXT NBD_REP_META_CONTEXT (beBytes 4 context_id) ++
    optionReply NBD_OPT_SET_META_CONTEXT NBD_REP_ACK [] ++
    optionReply NBD_OPT_GO NBD_REP_INFO (beBytes 2 NBD_INFO_EXPORT ++ beBytes 8 export_size ++
      beBytes 2 0) ++
    optionReply NBD_OPT_GO NBD_REP_ACK []

/-- The replies to the requests with handles `handle`, `handle + 1`, …. -/
def statusReplies (context_id : ℕ) : ℕ → List (List Descriptor) → List UInt8
  | _, [] => []
  | handle, ds :: dss => statusReply context_id handle ds ++ statusReplies context_id (handle + 1) dss

/-- A connection to a server that answers the requests one by one with `answers`. -/
def connection (context_id export_size : ℕ) (answers : List (List Descriptor)) : Sock where
  incoming := negotiation context_id export_size ++ statusReplies context_id 0 answers
  pos := 0
  ready := fun _ => 4096
  sent := []

end NbdServer

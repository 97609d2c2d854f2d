import Mathlib.Data.List.TakeWhile
import XrtcServer.Server.SignalingWorker

/-!
# When the reply to an offer fits its block

The reply is built in a block of fixed size. The text goes in through `snprintf`, which stops at the
end of the block, and the length that is announced, and given to the `Slice`, is that of the whole
text. So the two agree as long as the text and its terminating zero fit; one byte more and the
client is told to read what was cut off, and soon what lies behind the block.

The lengths are 32 bits wide, so a text of `2^32` bytes or more is announced too short. It does not
reach the client either.
-/

namespace XrtcServer

open ByteString

/-! ## Writing into a block -/

variable {block bytes : ByteString} {offset pos : ℕ}

theorem length_store (h : offset + bytes.length ≤ block.length) :
    (store block offset bytes).length = block.length := by
  rw [store, List.length_append, List.length_append, List.length_take, List.length_drop]
  omega

theorem drop_store (h : offset ≤ block.length) :
    (store block offset bytes).drop offset = bytes ++ block.drop (offset + bytes.length) := by
  have hlen : (block.take offset).length = offset := by
    rw [List.length_take]
    omega
  rw [store, List.append_assoc, List.drop_left' hlen]

theorem le32_eq_drop (s : ByteString) (pos : ℕ) : s.le32 pos = le32 (s.drop pos) 0 := by
  simp [le32, List.getD_eq_getElem?_getD, List.getElem?_drop]

/-- A write at `offset` leaves what stands before it alone. -/
theorem le32_store_of_le (hpos : pos + 4 ≤ offset) (h : offset ≤ block.length) :
    (store block offset bytes).le32 pos = block.le32 pos := by
  have hlen : pos + 4 ≤ (block.take offset).length := by
    rw [List.length_take]
    omega
  rw [store, List.append_assoc, le32_append hlen, ← le32_append (t := block.drop offset) hlen,
    List.take_append_drop]

theorem le32_putLE32 (n : ℕ) (rest : ByteString) : le32 (putLE32 n ++ rest) 0 = n % 2 ^ 32 := by
  rw [le32_append (by simp)]
  simp only [putLE32, le32, List.getD_cons_zero, List.getD_cons_succ, Nat.zero_add,
    UInt8.toNat_ofNat', Nat.toUInt8_eq]
  omega

theorem le32_store_putLE32 (n : ℕ) (h : pos ≤ block.length) :
    (store block pos (putLE32 n)).le32 pos = n % 2 ^ 32 := by
  rw [le32_eq_drop, drop_store h, le32_putLE32]

theorem length_snprintf_le (n : ℕ) (s : ByteString) (hn : 0 < n) : (snprintf n s).length ≤ n := by
  rw [snprintf, List.length_append, List.length_take, List.length_singleton]
  omega

/-- Without a zero in it, a text that fits is written whole and one that does not is cut. -/
theorem snprintf_eq {n : ℕ} {s : ByteString} (h : 0 ∉ s) :
    snprintf n s = s.take (n - 1) ++ [0] := by
  have : s.takeWhile (· ≠ 0) = s := by
    rw [List.takeWhile_eq_self_iff]
    intro b hb
    simpa using fun h0 : b = 0 ↦ h (h0 ▸ hb)
  rw [snprintf, this]

/-! ## The block of a reply -/

section Reply

variable {env : WorkerEnv} {header : ByteString} {root : ResponseJson} {reply : Slice}

/-- Size of the block, announced length, size of the slice and text of a reply. -/
theorem buildReply_spec (hheader : header.length = xheadSize)
    (h : buildReply env header root = some reply) :
    reply.block.length = xheadSize + maxResBuf ∧
      XHead.bodyLen reply.block = (env.writeString root).length % 2 ^ 32 ∧
      reply.size = (xheadSize + XHead.bodyLen reply.block) % 2 ^ 32 ∧
      ∃ rest, reply.block.drop xheadSize = snprintf maxResBuf (env.writeString root) ++ rest := by
  rw [buildReply, Option.map_eq_some_iff] at h
  obtain ⟨fresh, -, rfl⟩ := h
  have hn : (snprintf maxResBuf (env.writeString root)).length ≤ maxResBuf :=
    length_snprintf_le _ _ (by decide)
  have h₀ : ((List.range (xheadSize + maxResBuf)).map fresh).length = xheadSize + maxResBuf := by
    simp
  have h₁ : (store ((List.range (xheadSize + maxResBuf)).map fresh) 0 header).length =
      xheadSize + maxResBuf := by
    rw [length_store (by omega), h₀]
  have h₂ : (store (store ((List.range (xheadSize + maxResBuf)).map fresh) 0 header) 32
      (putLE32 (env.writeString root).length)).length = xheadSize + maxResBuf := by
    rw [length_store (by rw [h₁, length_putLE32]; decide), h₁]
  dsimp only
  refine ⟨?_, ?_, rfl, ?_⟩
  · rw [length_store (by omega), h₂]
  · rw [XHead.bodyLen, le32_store_of_le (by decide) (by omega),
      le32_store_putLE32 _ (by rw [h₁]; decide)]
  · exact ⟨_, drop_store (by omega)⟩

end Reply

/-! ## What the client gets

A reply counts as delivered if the client, who trusts the length in the header, reads the JSON text
and nothing else, and if all that is sent was in the block. -/

/-- The client reads a header and then as many bytes as it announces. -/
def clientReads (bytes : ByteString) : Option ByteString :=
  if xheadSize + XHead.bodyLen bytes ≤ bytes.length then
    some ((bytes.drop xheadSize).take (XHead.bodyLen bytes))
  else none

/-- The slice lies in its block, and the client obtains `json` from it. -/
def Slice.Delivers (reply : Slice) (json : ByteString) : Prop :=
  reply.size ≤ reply.block.length ∧ clientReads reply.data = some json

theorem clientReads_append {s : ByteString} (hs : xheadSize ≤ s.length) (rest : ByteString)
    (h : s.length = xheadSize + XHead.bodyLen (s ++ rest)) :
    clientReads s = some (((s ++ rest).drop xheadSize).take (XHead.bodyLen (s ++ rest))) := by
  rw [XHead.bodyLen_append hs] at h ⊢
  rw [clientReads, if_pos h.ge, List.drop_append_of_le_length hs, List.take_append_of_le_length]
  rw [List.length_drop]
  omega

/-- **One reply.** -/
theorem delivers_buildReply_iff {env : WorkerEnv} {header : ByteString} {root : ResponseJson}
    {reply : Slice} (hheader : header.length = xheadSize) (hnul : 0 ∉ env.writeString root)
    (h : buildReply env header root = some reply) :
    reply.Delivers (env.writeString root) ↔ (env.writeString root).length < maxResBuf := by
  obtain ⟨hblock, hbody, hsize, rest, hdrop⟩ := buildReply_spec hheader h
  rw [snprintf_eq hnul] at hdrop
  generalize env.writeString root = json at *
  have hdata : reply.data ++ reply.block.drop reply.size = reply.block := List.take_append_drop ..
  have hwhole (hin : reply.size ≤ reply.block.length)
      (hlen : reply.size = xheadSize + json.length) : clientReads reply.data =
        some ((json.take (maxResBuf - 1) ++ [0] ++ rest).take json.length) := by
    have hdlen : reply.data.length = reply.size := by
      rw [Slice.data, List.length_take]
      omega
    have hbl : XHead.bodyLen reply.block = json.length := by
      rw [hbody]
      have := hblock ▸ hin
      rw [hlen] at this
      exact Nat.mod_eq_of_lt (by rw [xheadSize, maxResBuf] at this; omega)
    rw [clientReads_append (by omega) (reply.block.drop reply.size) (by rw [hdata]; omega), hdata,
      hbl, hdrop]
  constructor
  · rintro ⟨hin, hread⟩
    rw [clientReads] at hread
    split_ifs at hread with hle
    have hdlen : reply.data.length = reply.size := by
      rw [Slice.data, List.length_take]
      omega
    have hbl : XHead.bodyLen reply.data = XHead.bodyLen reply.block := by
      rw [← hdata, XHead.bodyLen_append (by omega)]
    -- the text read is as long as announced, so nothing was announced too short
    have hlen : json.length = XHead.bodyLen reply.data := by
      rw [← Option.some.inj hread, List.length_take, List.length_drop]
      omega
    have hle' : json.length ≤ maxResBuf := by omega
    rcases hle'.lt_or_eq with hlt | heq
    · exact hlt
    -- a text that fills the block has lost its last byte to the zero
    · have hsize' : reply.size = xheadSize + json.length := by
        rw [hsize, hlen, hbl]
        refine Nat.mod_eq_of_lt ?_
        rw [← hbl, ← hlen, heq]
        decide
      have hcut : (json.take (maxResBuf - 1) ++ [0]).length = json.length := by
        rw [List.length_append, List.length_take, heq]
        decide
      have hwritten := hwhole hin hsize'
      rw [clientReads, if_pos hle, hread, List.take_left' hcut, Option.some_inj] at hwritten
      refine absurd ?_ hnul
      rw [hwritten]
      simp
  · intro hlt
    have hmod : json.length % 2 ^ 32 = json.length :=
      Nat.mod_eq_of_lt (by rw [maxResBuf] at hlt; omega)
    have hlen : reply.size = xheadSize + json.length := by
      rw [hsize, hbody, hmod]
      exact Nat.mod_eq_of_lt (by rw [maxResBuf] at hlt; rw [xheadSize]; omega)
    have hin : reply.size ≤ reply.block.length := by
      rw [hlen, hblock]
      omega
    refine ⟨hin, ?_⟩
    have hall : json.take (maxResBuf - 1) = json := List.take_of_length_le (by omega)
    rw [hwhole hin hlen, hall, List.append_assoc, List.take_left]

/-- Every reply that the message queues lies in its block and delivers its text. -/
def OfferDelivered (env : WorkerEnv) (w : Worker) (msg : RtcMsg) : Prop :=
  ∀ p c c', w.heap p = some c → (w.responseServerOffer env msg).heap p = some c' →
    ∀ reply ∈ c'.replyList.drop c.replyList.length,
      reply.Delivers (env.writeString (Worker.offerResponse msg))

/-- **The exact condition**, for a JSON writer whose texts have no zero in them. -/
theorem offerDelivered_iff {env : WorkerEnv} (hnul : ∀ root, 0 ∉ env.writeString root) (w : Worker)
    (msg : RtcMsg) :
    OfferDelivered env w msg ↔
      (w.Answers env msg → (env.writeString (Worker.offerResponse msg)).length < maxResBuf) := by
  rcases w.responseServerOffer_cases env msg with
    ⟨hno, heq⟩ | ⟨p, c, reply, hp, hconn, hc, hreply, heq⟩
  · refine iff_of_true (fun p c c' hc hc' reply hr ↦ ?_) fun h ↦ absurd h hno
    rw [heq, hc] at hc'
    obtain rfl := Option.some.inj hc'
    simp at hr
  have hanswers : w.Answers env msg := by
    refine ⟨p, c, hp, hconn, hc, fun hz ↦ ?_⟩
    rw [buildReply_eq_none.mpr hz] at hreply
    cases hreply
  have hdel := delivers_buildReply_iff (length_headerOf env c) (hnul _) hreply
  rw [← hdel, OfferDelivered, heq]
  constructor
  · intro h _
    refine h p c { c with replyList := c.replyList ++ [reply] } hc ?_ reply ?_
    · simp [Worker.addReply, Worker.modifyConn, hc]
    · simp
  · intro h q d d' hd hd' r hr
    by_cases hq : q = p
    · subst hq
      rw [hc] at hd
      obtain rfl := Option.some.inj hd
      simp only [Worker.addReply, Worker.modifyConn, Function.update_self, hc, Option.map_some,
        Option.some_inj] at hd'
      subst hd'
      obtain rfl : r = reply := by simpa using hr
      exact h hanswers
    · simp only [Worker.addReply, Worker.modifyConn, Function.update_of_ne hq] at hd'
      rw [hd] at hd'
      obtain rfl := Option.some.inj hd'
      simp at hr

/-! ## Two replies

An offer without tracks, and one that is too long. -/

/-- How `Json::writeString` writes a byte of an ASCII string. -/
def quoted (b : UInt8) : ByteString :=
  if b = 10 then lit "\\n" else if b = 13 then lit "\\r" else if b = 34 then lit "\\\""
  else if b = 92 then lit "\\\\" else if b = 0 then lit "\\u0000" else [b]

/-- `Json::writeString` without indentation, on a successful reply. -/
def compactJson (root : ResponseJson) : ByteString :=
  lit "\x7b\"err_msg\":\"success\",\"err_no\":0,\"offer\":\"" ++
    (root.offer.getD []).flatMap quoted ++ lit "\"\x7d"

theorem zero_notMem_quoted (b : UInt8) : 0 ∉ quoted b := by
  rw [quoted]
  split_ifs with _ _ _ _ hzero
  any_goals decide
  exact fun hmem ↦ hzero (List.mem_singleton.mp hmem).symm

theorem zero_notMem_compactJson (root : ResponseJson) : 0 ∉ compactJson root := by
  rw [compactJson, List.mem_append, List.mem_append, not_or, not_or]
  refine ⟨⟨by decide, fun hmem ↦ ?_⟩, by decide⟩
  obtain ⟨b, -, hb⟩ := List.mem_flatMap.mp hmem
  exact zero_notMem_quoted b hb

theorem length_le_compactJson (root : ResponseJson) :
    (root.offer.getD []).length ≤ (compactJson root).length := by
  have hquoted (s : ByteString) : s.length ≤ (s.flatMap quoted).length := by
    induction s with
    | nil => exact le_rfl
    | cons b s ih =>
      have hpos : 1 ≤ (quoted b).length := by
        rw [quoted]
        split_ifs
        any_goals decide
        exact le_rfl
      rw [List.flatMap_cons, List.length_append, List.length_cons]
      omega
  have hlength := hquoted (root.offer.getD [])
  rw [compactJson, List.length_append, List.length_append]
  omega

def compactEnv : WorkerEnv where
  parse _ := none
  writeString := compactJson
  sendRtcMsg _ := 0
  zmalloc := some fun _ ↦ 0
  past _ := 0

/-- A worker with one connection, accepted on descriptor 5. -/
def oneConnection : Worker := ({ connectionTimeout := 0 } : Worker).newConn 5 100 0

/-- The offer to a viewer who wants audio of a publisher without any. -/
def audioOffer : ByteString :=
  lit "v=0\r\no=- 0 2 IN IP4 127.0.0.1\r\ns=-\r\nt=0 0\r\na=group:BUNDLE audio\r\n" ++
    lit "a=msid-semantic: WMS\r\nm=audio 9 UDP/TLS/RTP/SAVPF 111\r\nc=IN IP4 0.0.0.0\r\n" ++
    lit "a=rtcp:9 IN IP4 0.0.0.0\r\na=ice-ufrag:srv1\r\na=ice-pwd:serverpassword0123456789\r\n" ++
    lit "a=mid:audio\r\na=sendonly\r\na=rtcp-mux\r\na=rtpmap:111 opus/48000/2\r\n"

theorem offerDelivered_audioOffer :
    OfferDelivered compactEnv oneConnection
      { cmdno := cmdnoPull, conn := some 100, fd := 5, sdp := audioOffer } :=
  (offerDelivered_iff zero_notMem_compactJson _ _).mpr fun _ ↦ by decide +kernel

/-- An offer of 4096 bytes. -/
theorem not_offerDelivered :
    ¬∀ (env : WorkerEnv) (w : Worker) (msg : RtcMsg), (∀ root, 0 ∉ env.writeString root) →
      (∀ root, (root.offer.getD []).length ≤ (env.writeString root).length) →
      OfferDelivered env w msg := by
  intro h
  let msg : RtcMsg :=
    { cmdno := cmdnoPush, conn := some 100, fd := 5, sdp := List.replicate 4096 97 }
  have hlong (root : ResponseJson) :
      (root.offer.getD []).length ≤ (compactEnv.writeString root).length :=
    length_le_compactJson root
  have hlt := (offerDelivered_iff zero_notMem_compactJson _ _).mp
    (h compactEnv oneConnection msg zero_notMem_compactJson hlong)
    ⟨100, _, rfl, by decide, rfl, by simp [compactEnv]⟩
  have hle := hlong (Worker.offerResponse msg)
  rw [show (Worker.offerResponse msg).offer.getD [] = List.replicate 4096 97 from rfl,
    List.length_replicate] at hle
  rw [maxResBuf] at hlt
  omega

end XrtcServer

import DetectBase.Foundations.Fragments
import DetectBase.Structure.Types

/-!
# RTP packets of ONVIF metadata

`OnvifMetadataPayloader.cpp`: an XML document is cut into pieces that fit a packet, and each piece
is sent with a header of twelve bytes. The pieces end before a character of several bytes where
that is possible (`DetectBase.Onvif.safeUtf8Chunk`), the marker is set on the last of them, and the
sequence numbers are those of a counter of sixteen bits.

A packet may fail to be sent at three points (`DetectBase.Onvif.PushOutcome`), and the counter moves
between the second and the third. What the loop of `PushXml` does is a matter of the list of
pieces (`DetectBase.Onvif.pushChunks_eq_pushFragments`), and if nothing fails, the packets are these
pieces numbered in a row (`DetectBase.Onvif.pushFragments_of_delivered`).

The receiving side is `DetectBase.Onvif.parsePacket`.
-/

namespace DetectBase.Onvif

/-! ### Headers -/

/-- What a receiver reads from a packet. -/
structure RtpPacket where
  /-- The byte with the version. -/
  version : UInt8
  /-- The marker bit. -/
  marker : Bool
  /-- The payload type, of seven bits. -/
  payloadType : UInt8
  /-- The sequence number. -/
  seq : UInt16
  /-- The timestamp. -/
  timestamp : UInt32
  /-- The source. -/
  ssrc : UInt32
  /-- What comes after the header. -/
  payload : List UInt8
deriving DecidableEq

/-- A number of sixteen bits from its bytes. -/
def readUInt16 (b1 b0 : UInt8) : UInt16 := .ofNat (b1.toNat * 2 ^ 8 + b0.toNat)

/-- A number of thirty-two bits from its bytes. -/
def readUInt32 (b3 b2 b1 b0 : UInt8) : UInt32 :=
  .ofNat (b3.toNat * 2 ^ 24 + b2.toNat * 2 ^ 16 + b1.toNat * 2 ^ 8 + b0.toNat)

/-- **The packet as a receiver reads it**, if there are enough bytes for a header. -/
def parsePacket : List UInt8 → Option RtpPacket
  | b0 :: b1 :: q1 :: q0 :: t3 :: t2 :: t1 :: t0 :: s3 :: s2 :: s1 :: s0 :: payload =>
    some
      { version := b0
        marker := b1 &&& 0x80 ≠ 0
        payloadType := b1 &&& 0x7F
        seq := readUInt16 q1 q0
        timestamp := readUInt32 t3 t2 t1 t0
        ssrc := readUInt32 s3 s2 s1 s0
        payload }
  | _ => none

theorem and_255 (n : ℕ) : n &&& 255 = n % 256 := Nat.and_two_pow_sub_one_eq_mod n 8

theorem readUInt16_bytes (x : UInt16) : readUInt16 (x >>> 8).toUInt8 (x &&& 0xFF).toUInt8 = x := by
  have hbytes : (x >>> 8).toUInt8.toNat * 2 ^ 8 + (x &&& 0xFF).toUInt8.toNat = x.toNat := by
    have hx := x.toNat_lt
    simp [and_255, Nat.shiftRight_eq_div_pow]
    omega
  rw [readUInt16, hbytes, UInt16.ofNat_toNat]

theorem readUInt32_bytes (x : UInt32) :
    readUInt32 (x >>> 24).toUInt8 (x >>> 16).toUInt8 (x >>> 8).toUInt8 (x &&& 0xFF).toUInt8 =
      x := by
  have hbytes : (x >>> 24).toUInt8.toNat * 2 ^ 24 + (x >>> 16).toUInt8.toNat * 2 ^ 16 +
      (x >>> 8).toUInt8.toNat * 2 ^ 8 + (x &&& 0xFF).toUInt8.toNat = x.toNat := by
    have hx := x.toNat_lt
    simp [and_255, Nat.shiftRight_eq_div_pow]
    omega
  rw [readUInt32, hbytes, UInt32.ofNat_toNat]

/-- The second byte of a header: the marker in front of the payload type. -/
def markerAndType (marker : Bool) (payloadType : UInt8) : UInt8 :=
  (if marker then 0x80 else 0x00) ||| (payloadType &&& 0x7F)

theorem markerAndType_and_0x80 (marker : Bool) (payloadType : UInt8) :
    (markerAndType marker payloadType &&& 0x80 ≠ 0) = (marker = true) := by
  have hall : ∀ (m : Bool) (x : BitVec 8),
      (markerAndType m ⟨x⟩ &&& 0x80 ≠ 0) = (m = true) := by
    simp only [eq_iff_iff]
    decide +kernel
  exact hall marker payloadType.toBitVec

theorem markerAndType_and_0x7F (marker : Bool) (payloadType : UInt8) :
    markerAndType marker payloadType &&& 0x7F = payloadType &&& 0x7F := by
  have hall : ∀ (m : Bool) (x : BitVec 8),
      markerAndType m ⟨x⟩ &&& 0x7F = (⟨x⟩ : UInt8) &&& 0x7F := by
    decide +kernel
  exact hall marker payloadType.toBitVec

/-! ### The payloader -/

/-- `OnvifMetadataPayloader`. -/
structure Payloader where
  /-- `appsrc_` is not null. -/
  appsrc : Bool
  /-- `cfg_.payload_type`. -/
  payloadType : UInt8
  /-- `cfg_.mtu`. -/
  mtu : ℕ
  /-- `ssrc_`. -/
  ssrc : UInt32
  /-- `seq_num_`. -/
  seqNum : UInt16
  /-- `packet_count_`. -/
  packetCount : UInt64
  /-- `byte_count_`. -/
  byteCount : UInt64
  /-- `drop_count_`. -/
  dropCount : UInt64
deriving DecidableEq

/-- What becomes of a packet in `PushPacket`. -/
inductive PushOutcome where
  /-- `gst_buffer_new_allocate` returns null. -/
  | allocateFails : PushOutcome
  /-- `gst_buffer_map` returns false. -/
  | mapFails : PushOutcome
  /-- `gst_app_src_push_buffer` does not return `GST_FLOW_OK`. -/
  | flowFails : PushOutcome
  /-- The packet is sent. -/
  | delivered : PushOutcome
deriving DecidableEq

namespace Payloader

/-- `WriteRtpHeader`: the header, and the payloader with the next sequence number. -/
def writeRtpHeader (p : Payloader) (marker : Bool) (timestamp : UInt32) :
    List UInt8 × Payloader :=
  ([0x80, markerAndType marker p.payloadType,
      (p.seqNum >>> 8).toUInt8, (p.seqNum &&& 0xFF).toUInt8,
      (timestamp >>> 24).toUInt8, (timestamp >>> 16).toUInt8, (timestamp >>> 8).toUInt8,
      (timestamp &&& 0xFF).toUInt8,
      (p.ssrc >>> 24).toUInt8, (p.ssrc >>> 16).toUInt8, (p.ssrc >>> 8).toUInt8,
      (p.ssrc &&& 0xFF).toUInt8],
    { p with seqNum := p.seqNum + 1 })

/-- `drop_count_.fetch_add( 1 )`. -/
def drop (p : Payloader) : Payloader := { p with dropCount := p.dropCount + 1 }

/-- **`PushPacket`**: the result, the payloader afterwards, and what has been sent. -/
def pushPacket (p : Payloader) (outcome : PushOutcome) (payload : List UInt8) (marker : Bool)
    (timestamp : UInt32) : Bool × Payloader × Option (List UInt8) :=
  if p.appsrc = false then (false, p, none)
  else match outcome with
    | .allocateFails => (false, p, none)
    | .mapFails => (false, p, none)
    | .flowFails => (false, (p.writeRtpHeader marker timestamp).2, none)
    | .delivered =>
      let (header, p') := p.writeRtpHeader marker timestamp
      let packet := header ++ payload
      (true, { p' with
        packetCount := p'.packetCount + 1
        byteCount := p'.byteCount + .ofNat packet.length }, some packet)

/-- What one packet can carry. -/
def payloadMax (p : Payloader) : ℕ := if p.mtu > 12 then p.mtu - 12 else 1

theorem payloadMax_pos (p : Payloader) : 0 < p.payloadMax := by
  rw [payloadMax]
  split_ifs <;> omega

theorem payloadMax_eq_max (p : Payloader) : p.payloadMax = max (p.mtu - 12) 1 := by
  rw [payloadMax]
  split_ifs <;> omega

end Payloader

/-! ### Where a document is cut -/

/-- The loop of `SafeUtf8Chunk`: back over the bytes that continue a character. -/
def retreat (data : List UInt8) : ℕ → ℕ
  | 0 => 0
  | chunk + 1 =>
    if data.getD (chunk + 1) 0 &&& 0xC0 = 0x80 then retreat data chunk else chunk + 1

/-- `SafeUtf8Chunk`. -/
def safeUtf8Chunk (data : List UInt8) (maxChunk remaining : ℕ) : ℕ :=
  if maxChunk ≥ remaining then remaining
  else
    let chunk := retreat data maxChunk
    if chunk = 0 then maxChunk else chunk

theorem retreat_le (data : List UInt8) (chunk : ℕ) : retreat data chunk ≤ chunk := by
  induction chunk with
  | zero => exact le_rfl
  | succ chunk ih =>
    rw [retreat]
    split_ifs
    · omega
    · exact le_rfl

theorem safeUtf8Chunk_le (data : List UInt8) (maxChunk remaining : ℕ) :
    safeUtf8Chunk data maxChunk remaining ≤ min maxChunk remaining := by
  have hretreat := retreat_le data maxChunk
  rw [safeUtf8Chunk]
  dsimp only
  split_ifs <;> omega

theorem safeUtf8Chunk_pos {data : List UInt8} {maxChunk remaining : ℕ} (hmax : 0 < maxChunk)
    (hremaining : 0 < remaining) : 0 < safeUtf8Chunk data maxChunk remaining := by
  rw [safeUtf8Chunk]
  dsimp only
  split_ifs <;> omega

/-- The pieces of `PushXml`, for packets that can carry `n` bytes. -/
def utf8Cut (n : ℕ) (hn : 0 < n) : Cut UInt8 where
  size data := safeUtf8Chunk data n data.length
  pos _ h := safeUtf8Chunk_pos hn (List.length_pos_of_ne_nil h)
  le data := Nat.le_trans (safeUtf8Chunk_le data n data.length) (Nat.min_le_right ..)

namespace Payloader

/-- The pieces of a document. -/
def fragments (p : Payloader) (data : List UInt8) : List (List UInt8) :=
  (utf8Cut p.payloadMax p.payloadMax_pos).fragments data

/-- The loop of `PushXml` over what is left of the document, with what becomes of each packet. -/
def pushChunks (p : Payloader) (timestamp : UInt32) (outcome : ℕ → PushOutcome)
    (data : List UInt8) : Bool × Payloader × List (List UInt8) :=
  if _h : data = [] then (true, p, [])
  else
    let chunk := safeUtf8Chunk data p.payloadMax data.length
    let marker : Bool := chunk = data.length
    match p.pushPacket (outcome 0) (data.take chunk) marker timestamp with
    | (false, p', sent) => (false, p'.drop, sent.toList)
    | (true, p', sent) =>
      let rest := pushChunks p' timestamp (fun n => outcome (n + 1)) (data.drop chunk)
      (rest.1, rest.2.1, sent.toList ++ rest.2.2)
termination_by data.length
decreasing_by
  have hlen := List.length_pos_of_ne_nil _h
  have hpos : 0 < safeUtf8Chunk data p.payloadMax data.length :=
    safeUtf8Chunk_pos p.payloadMax_pos hlen
  rw [List.length_drop]
  omega

/-- **`PushXml`**: the result, the payloader afterwards, and the packets that have been sent. The
clock is read once. -/
def pushXml (p : Payloader) (timestamp : UInt32) (outcome : ℕ → PushOutcome)
    (document : List UInt8) : Bool × Payloader × List (List UInt8) :=
  if p.appsrc = false ∨ document = [] then (false, p.drop, [])
  else p.pushChunks timestamp outcome document

/-! ### The loop over the pieces -/

/-- `PushPacket` does not change what a packet can carry. -/
theorem payloadMax_pushPacket (p : Payloader) (outcome : PushOutcome) (payload : List UInt8)
    (marker : Bool) (timestamp : UInt32) :
    (p.pushPacket outcome payload marker timestamp).2.1.payloadMax = p.payloadMax := by
  unfold pushPacket
  split_ifs
  · rfl
  · cases outcome <;> rfl

/-- The loop of `PushXml`, over a list of pieces. -/
def pushFragments (p : Payloader) (timestamp : UInt32) (outcome : ℕ → PushOutcome) :
    List (List UInt8) → Bool × Payloader × List (List UInt8)
  | [] => (true, p, [])
  | f :: fs =>
    match p.pushPacket (outcome 0) f fs.isEmpty timestamp with
    | (false, p', sent) => (false, p'.drop, sent.toList)
    | (true, p', sent) =>
      let rest := pushFragments p' timestamp (fun n => outcome (n + 1)) fs
      (rest.1, rest.2.1, sent.toList ++ rest.2.2)

/-- **The loop is about the pieces of the document.** -/
theorem pushChunks_eq_pushFragments (timestamp : UInt32) (data : List UInt8) :
    ∀ (n : ℕ) (hn : 0 < n) (p : Payloader) (outcome : ℕ → PushOutcome), p.payloadMax = n →
      p.pushChunks timestamp outcome data =
        p.pushFragments timestamp outcome ((utf8Cut n hn).fragments data) := by
  intro n hn
  induction data using Cut.fragments.induct (utf8Cut n hn) with
  | case1 =>
    intro p outcome _
    rw [pushChunks, dif_pos rfl, Cut.fragments_nil, pushFragments]
  | case2 data h ih =>
    intro p outcome hp
    have hsize : (utf8Cut n hn).size data = safeUtf8Chunk data n data.length := rfl
    -- the marker is set when nothing is left over
    have hmarker : (decide (safeUtf8Chunk data n data.length = data.length) : Bool) =
        ((utf8Cut n hn).fragments (data.drop (safeUtf8Chunk data n data.length))).isEmpty := by
      have hle := (utf8Cut n hn).le data
      rw [hsize] at hle
      rw [Bool.eq_iff_iff, decide_eq_true_eq, List.isEmpty_iff, Cut.fragments_eq_nil_iff,
        List.drop_eq_nil_iff]
      omega
    rw [pushChunks, dif_neg h, (utf8Cut n hn).fragments_of_ne_nil h, pushFragments]
    dsimp only
    rw [hsize, hp, ← hmarker]
    have hmax := p.payloadMax_pushPacket (outcome 0)
      (data.take (safeUtf8Chunk data n data.length))
      (decide (safeUtf8Chunk data n data.length = data.length)) timestamp
    rcases hpush : p.pushPacket (outcome 0) (data.take (safeUtf8Chunk data n data.length))
      (decide (safeUtf8Chunk data n data.length = data.length)) timestamp with ⟨r, p', sent⟩
    rw [hpush] at hmax
    cases r with
    | false => rfl
    | true =>
      dsimp only at hmax ⊢
      rw [← hsize, ih p' (fun n => outcome (n + 1)) (hmax.trans hp)]

/-- What `PushXml` does, in terms of the pieces of the document. -/
theorem pushXml_eq {p : Payloader} {document : List UInt8} (hsrc : p.appsrc = true)
    (hne : document ≠ []) (timestamp : UInt32) (outcome : ℕ → PushOutcome) :
    p.pushXml timestamp outcome document =
      p.pushFragments timestamp outcome (p.fragments document) := by
  rw [pushXml, if_neg (by simp [hsrc, hne])]
  exact pushChunks_eq_pushFragments timestamp document _ p.payloadMax_pos p outcome rfl

/-! ### The packets that are sent -/

theorem parsePacket_writeRtpHeader (p : Payloader) (marker : Bool) (timestamp : UInt32)
    (payload : List UInt8) :
    parsePacket ((p.writeRtpHeader marker timestamp).1 ++ payload) =
      some ⟨0x80, marker, p.payloadType &&& 0x7F, p.seqNum, timestamp, p.ssrc, payload⟩ := by
  simp only [writeRtpHeader, List.cons_append, List.nil_append, parsePacket, readUInt16_bytes,
    readUInt32_bytes, markerAndType_and_0x7F, markerAndType_and_0x80, Bool.decide_eq_true]

/-- What is left of a payloader whose packet has been sent. -/
def afterSent (p : Payloader) (size : ℕ) : Payloader :=
  { p with
    seqNum := p.seqNum + 1
    packetCount := p.packetCount + 1
    byteCount := p.byteCount + .ofNat (12 + size) }

theorem pushPacket_delivered {p : Payloader} (hsrc : p.appsrc = true) (payload : List UInt8)
    (marker : Bool) (timestamp : UInt32) :
    p.pushPacket .delivered payload marker timestamp =
      (true, p.afterSent payload.length,
        some ((p.writeRtpHeader marker timestamp).1 ++ payload)) := by
  simp only [pushPacket, hsrc, writeRtpHeader, afterSent, List.length_append, List.length_cons,
    List.length_nil, Bool.true_eq_false, if_false]

/-- A packet that is not delivered is not sent, and the loop ends. -/
theorem pushPacket_not_delivered (p : Payloader) {outcome : PushOutcome}
    (h : p.appsrc = false ∨ outcome ≠ .delivered) (payload : List UInt8) (marker : Bool)
    (timestamp : UInt32) :
    (p.pushPacket outcome payload marker timestamp).1 = false ∧
      (p.pushPacket outcome payload marker timestamp).2.2 = none := by
  unfold pushPacket
  split_ifs with hsrc
  · exact ⟨rfl, rfl⟩
  · cases outcome with
    | allocateFails | mapFails | flowFails => exact ⟨rfl, rfl⟩
    | delivered =>
      obtain h | h := h
      · exact absurd h hsrc
      · exact absurd rfl h

end Payloader

/-- **The pieces as packets**, numbered in a row. -/
def numbered (payloadType : UInt8) (ssrc timestamp : UInt32) :
    UInt16 → List (List UInt8) → List RtpPacket
  | _, [] => []
  | seq, f :: fs =>
    ⟨0x80, fs.isEmpty, payloadType &&& 0x7F, seq, timestamp, ssrc, f⟩ ::
      numbered payloadType ssrc timestamp (seq + 1) fs

namespace Payloader

/-- **What `PushXml` sends**: the first so many of the numbered pieces, and all of them when it
returns `true`. -/
theorem exists_pushFragments (timestamp : UInt32) (fs : List (List UInt8)) :
    ∀ (p : Payloader) (outcome : ℕ → PushOutcome), p.appsrc = true → ∃ k ≤ fs.length,
      (p.pushFragments timestamp outcome fs).2.2.map parsePacket =
          ((numbered p.payloadType p.ssrc timestamp p.seqNum fs).take k).map some ∧
        ((p.pushFragments timestamp outcome fs).1 = true → k = fs.length) ∧
        (0 < k → outcome 0 = .delivered) := by
  induction fs with
  | nil => exact fun p outcome _ => ⟨0, le_rfl, rfl, fun _ => rfl, fun h => absurd h (lt_irrefl 0)⟩
  | cons f fs ih =>
    intro p outcome hsrc
    rw [pushFragments]
    by_cases hdel : outcome 0 = .delivered
    · rw [hdel, pushPacket_delivered hsrc]
      obtain ⟨k, hk, hsent, hall, -⟩ :=
        ih (p.afterSent f.length) (fun n => outcome (n + 1)) hsrc
      refine ⟨k + 1, Nat.succ_le_succ hk, ?_, fun h => congrArg (· + 1) (hall h), fun _ => rfl⟩
      rw [List.map_append, Option.toList_some, List.map_singleton, parsePacket_writeRtpHeader,
        numbered, List.take_succ_cons, List.map_cons, hsent]
      rfl
    · obtain ⟨hfalse, hnone⟩ := p.pushPacket_not_delivered (.inr hdel) f fs.isEmpty timestamp
      rcases hpush : p.pushPacket (outcome 0) f fs.isEmpty timestamp with ⟨r, p', sent⟩
      rw [hpush] at hfalse hnone
      obtain rfl : r = false := hfalse
      obtain rfl : sent = none := hnone
      exact ⟨0, Nat.zero_le _, rfl, by rintro ⟨⟩, fun h => absurd h (lt_irrefl 0)⟩

/-- If nothing fails, all the pieces are sent. -/
theorem pushFragments_of_delivered (timestamp : UInt32) (fs : List (List UInt8)) :
    ∀ (p : Payloader) (outcome : ℕ → PushOutcome), p.appsrc = true →
      (∀ n, outcome n = .delivered) → (p.pushFragments timestamp outcome fs).1 = true := by
  induction fs with
  | nil => exact fun _ _ _ _ => rfl
  | cons f fs ih =>
    intro p outcome hsrc hall
    rw [pushFragments, hall 0, pushPacket_delivered hsrc]
    exact ih (p.afterSent f.length) _ hsrc fun n => hall (n + 1)

end Payloader

/-! ### Round trip -/

section Numbered

variable (payloadType : UInt8) (ssrc timestamp : UInt32)

@[simp]
theorem length_numbered (fs : List (List UInt8)) :
    ∀ seq, (numbered payloadType ssrc timestamp seq fs).length = fs.length := by
  induction fs with
  | nil => exact fun _ => rfl
  | cons f fs ih => exact fun seq => congrArg (· + 1) (ih (seq + 1))

theorem map_payload_numbered (fs : List (List UInt8)) :
    ∀ seq, (numbered payloadType ssrc timestamp seq fs).map (·.payload) = fs := by
  induction fs with
  | nil => exact fun _ => rfl
  | cons f fs ih => exact fun seq => congrArg (f :: ·) (ih (seq + 1))

/-- The marker is on the last packet. -/
theorem map_marker_numbered (fs : List (List UInt8)) :
    ∀ seq f, (numbered payloadType ssrc timestamp seq (f :: fs)).map (·.marker) =
      List.replicate fs.length false ++ [true] := by
  induction fs with
  | nil => exact fun _ _ => rfl
  | cons f fs ih =>
    intro seq f'
    rw [numbered, List.map_cons, ih, List.length_cons, List.replicate_succ]
    rfl

/-- The sequence numbers are in a row. -/
theorem map_seq_numbered (fs : List (List UInt8)) :
    ∀ seq, (numbered payloadType ssrc timestamp seq fs).map (·.seq) =
      (List.range fs.length).map fun i => seq + .ofNat i := by
  induction fs with
  | nil => exact fun _ => rfl
  | cons f fs ih =>
    intro seq
    rw [numbered, List.map_cons, ih, List.length_cons, List.range_succ_eq_map, List.map_cons,
      List.map_map]
    refine congrArg₂ List.cons (UInt16.add_zero seq).symm (List.map_congr_left fun i _ => ?_)
    show seq + 1 + UInt16.ofNat i = seq + UInt16.ofNat (i + 1)
    rw [UInt16.ofNat_add, UInt16.add_assoc, UInt16.add_comm 1]
    rfl

/-- The rest of the header is the same for all packets. -/
theorem header_of_mem_numbered {k : RtpPacket} (fs : List (List UInt8)) :
    ∀ seq, k ∈ numbered payloadType ssrc timestamp seq fs → k.version = 0x80 ∧
      k.payloadType = payloadType &&& 0x7F ∧ k.timestamp = timestamp ∧ k.ssrc = ssrc := by
  induction fs with
  | nil =>
    intro seq h
    cases h
  | cons f fs ih =>
    intro seq h
    obtain rfl | h := List.mem_cons.mp h
    · exact ⟨rfl, rfl, rfl, rfl⟩
    · exact ih (seq + 1) h

end Numbered

namespace Payloader

/-- **A document survives its fragmentation.** If no packet fails, `PushXml` sends packets that a
receiver reads so: their payloads are the document in pieces of the right size, the marker is on the
last of them, and the sequence numbers are in a row; the rest of each header is as it was
written. -/
theorem pushXml_roundTrip (p : Payloader) (hsrc : p.appsrc = true) (document : List UInt8)
    (hne : document ≠ []) (timestamp : UInt32) (outcome : ℕ → PushOutcome)
    (hall : ∀ n, outcome n = .delivered) :
    (p.pushXml timestamp outcome document).1 = true ∧ ∃ packets : List RtpPacket,
      (p.pushXml timestamp outcome document).2.2.map parsePacket = packets.map some ∧
      (packets.map (·.payload)).flatten = document ∧
      (∀ k ∈ packets, 1 ≤ k.payload.length ∧ k.payload.length ≤ max (p.mtu - 12) 1) ∧
      packets.map (·.marker) = List.replicate (packets.length - 1) false ++ [true] ∧
      packets.map (·.seq) = (List.range packets.length).map (fun i => p.seqNum + .ofNat i) ∧
      ∀ k ∈ packets, k.version = 0x80 ∧ k.payloadType = p.payloadType &&& 0x7F ∧
        k.timestamp = timestamp ∧ k.ssrc = p.ssrc := by
  rw [pushXml_eq hsrc hne]
  have htrue := pushFragments_of_delivered timestamp (p.fragments document) p outcome hsrc hall
  obtain ⟨k, -, hsent, hk, -⟩ :=
    exists_pushFragments timestamp (p.fragments document) p outcome hsrc
  refine ⟨htrue, numbered p.payloadType p.ssrc timestamp p.seqNum (p.fragments document), ?_, ?_,
    ?_, ?_, ?_, fun k => header_of_mem_numbered _ _ _ _ _⟩
  · rw [hsent, hk htrue, List.take_of_length_le (Nat.le_of_eq (length_numbered ..))]
  · rw [map_payload_numbered]
    exact Cut.flatten_fragments _ document
  · intro k hmem
    have hpiece : k.payload ∈ p.fragments document := by
      rw [← map_payload_numbered p.payloadType p.ssrc timestamp (p.fragments document) p.seqNum]
      exact List.mem_map_of_mem hmem
    rw [← payloadMax_eq_max]
    refine Cut.length_of_mem_fragments (P := fun n => 1 ≤ n ∧ n ≤ p.payloadMax) _ ?_ document _
      hpiece
    intro data h
    exact ⟨Cut.pos _ data h,
      Nat.le_trans (safeUtf8Chunk_le data p.payloadMax data.length) (Nat.min_le_left ..)⟩
  · obtain ⟨f, fs, hfs⟩ : ∃ f fs, p.fragments document = f :: fs :=
      List.exists_cons_of_ne_nil fun h => hne ((Cut.fragments_eq_nil_iff _).mp h)
    rw [hfs, map_marker_numbered, length_numbered]
    rfl
  · rw [map_seq_numbered, length_numbered]

/-- A payloader with room for four bytes in a packet, at the end of its sequence numbers. -/
def narrow : Payloader := ⟨true, 97, 16, 0x01020304, 65535, 0, 0, 0⟩

/-- Seven bytes in packets of four at most. -/
theorem pushXml_roundTrip_narrow :
    let document := [0x3C, 0x61, 0x3E, 0xC3, 0xA9, 0x2F, 0x3E]
    ∃ packets : List RtpPacket,
      (narrow.pushXml 90000 (fun _ => .delivered) document).2.2.map parsePacket =
          packets.map some ∧
        (packets.map (·.payload)).flatten = document ∧ ∀ k ∈ packets, k.payload.length ≤ 4 := by
  obtain ⟨-, packets, hparse, hflatten, hlength, -⟩ := pushXml_roundTrip narrow rfl
    [0x3C, 0x61, 0x3E, 0xC3, 0xA9, 0x2F, 0x3E] (by simp) 90000 (fun _ => .delivered) fun _ => rfl
  exact ⟨packets, hparse, hflatten, fun k hk => (hlength k hk).2⟩

end Payloader

end DetectBase.Onvif

import DetectBase.Foundations.Transition
import DetectBase.Onvif.Payloader

/-!
# What a receiver makes of the packets

A receiver puts the payloads together until it sees a marker, and takes a gap in the sequence
numbers for a loss: then it throws away what it has and everything up to the next marker
(`DetectBase.Onvif.Receiver.receive`). A document of which a packet failed has been cut short, and
the receiver can only know by such a gap.

`PushPacket` takes a sequence number after the buffer has been allocated and mapped. A packet that
fails before that leaves no gap, and the next document is taken for the rest of the one that was cut
short. Nothing else goes wrong: in a run in which a document never takes up the number after one
that was cut short, only documents that were passed to `PushXml` come out, in their order
(`DetectBase.Onvif.sublist_passed`).
-/

namespace DetectBase.Onvif

/-! ### The receiver -/

/-- A receiver. -/
structure Receiver where
  /-- The sequence number that is to come, once there has been a packet. -/
  expected : Option UInt16
  /-- The payloads since the last marker. -/
  collected : List UInt8
  /-- A gap has been seen, and no marker since. -/
  discarding : Bool
  /-- The documents that have been put out. -/
  documents : List (List UInt8)
deriving DecidableEq

namespace Receiver

/-- A receiver that has not had a packet. -/
def new : Receiver := ⟨none, [], false, []⟩

/-- The packet does not have the number that is expected. -/
def gap (r : Receiver) (k : RtpPacket) : Bool := r.expected.any fun seq => seq ≠ k.seq

/-- **A packet arrives.** -/
def receive (r : Receiver) (k : RtpPacket) : Receiver :=
  if r.discarding || r.gap k then ⟨some (k.seq + 1), [], !k.marker, r.documents⟩
  else if k.marker then ⟨some (k.seq + 1), [], false, r.documents ++ [r.collected ++ k.payload]⟩
  else ⟨some (k.seq + 1), r.collected ++ k.payload, false, r.documents⟩

theorem receive_of_discarding {r : Receiver} {k : RtpPacket}
    (h : (r.discarding || r.gap k) = true) :
    r.receive k = ⟨some (k.seq + 1), [], !k.marker, r.documents⟩ := by
  rw [receive, if_pos h]

theorem receive_of_marker {r : Receiver} {k : RtpPacket} (h : (r.discarding || r.gap k) = false)
    (hmarker : k.marker = true) :
    r.receive k = ⟨some (k.seq + 1), [], false, r.documents ++ [r.collected ++ k.payload]⟩ := by
  rw [receive, if_neg (by simp [h]), if_pos hmarker]

theorem receive_of_not_marker {r : Receiver} {k : RtpPacket}
    (h : (r.discarding || r.gap k) = false) (hmarker : k.marker = false) :
    r.receive k = ⟨some (k.seq + 1), r.collected ++ k.payload, false, r.documents⟩ := by
  rw [receive, if_neg (by simp [h]), if_neg (by simp [hmarker])]

@[simp]
theorem expected_receive (r : Receiver) (k : RtpPacket) :
    (r.receive k).expected = some (k.seq + 1) := by
  rw [receive]
  split_ifs <;> rfl

/-- The last packet says what is expected. -/
theorem expected_foldl_receive (packets : List RtpPacket) : ∀ r : Receiver,
    (packets.foldl receive r).expected =
      (packets.getLast?.map (·.seq + 1)).or r.expected := by
  induction packets with
  | nil => exact fun _ => rfl
  | cons k packets ih =>
    intro r
    rw [List.foldl_cons, ih, expected_receive, List.getLast?_cons]
    cases packets.getLast? <;> rfl

/-! ### The packets of a document -/

variable {payloadType : UInt8} {ssrc timestamp : UInt32}

/-- **Packets that are thrown away**: of the packets of a document, from one on that comes after a
gap. -/
theorem foldl_receive_discarded (fs : List (List UInt8)) :
    ∀ (seq : UInt16) (r : Receiver) (f : List UInt8) (n : ℕ), n ≤ fs.length →
      (r.discarding = true ∨ r.expected.any (· ≠ seq) = true) →
      let r' := ((numbered payloadType ssrc timestamp seq (f :: fs)).take (n + 1)).foldl receive r
      r'.documents = r.documents ∧ r'.collected = [] ∧ (r'.discarding = true ↔ n ≠ fs.length) := by
  induction fs with
  | nil =>
    intro seq r f n hn h
    obtain rfl : n = 0 := Nat.le_zero.mp hn
    have hthrown : (r.discarding || r.gap ⟨0x80, true, payloadType &&& 0x7F, seq, timestamp, ssrc,
        f⟩) = true := by
      rw [Bool.or_eq_true]
      exact h
    rw [numbered, List.take_succ_cons, List.take_zero, List.foldl_cons, List.foldl_nil,
      List.isEmpty_nil, receive_of_discarding hthrown]
    exact ⟨rfl, rfl, by simp⟩
  | cons f' fs ih =>
    intro seq r f n hn h
    have hthrown : (r.discarding || r.gap ⟨0x80, false, payloadType &&& 0x7F, seq, timestamp, ssrc,
        f⟩) = true := by
      rw [Bool.or_eq_true]
      exact h
    rw [numbered, List.take_succ_cons, List.foldl_cons, List.isEmpty_cons,
      receive_of_discarding hthrown]
    cases n with
    | zero => exact ⟨rfl, rfl, by simp⟩
    | succ n =>
      have hrest := ih (seq + 1) ⟨some (seq + 1), [], true, r.documents⟩ f' n
        (Nat.le_of_succ_le_succ hn) (.inl rfl)
      rw [List.length_cons, ne_eq, Nat.add_right_cancel_iff]
      exact hrest

/-- **Packets that are put together**: of the packets of a document, from the first on, when there
is no gap. -/
theorem foldl_receive_collected (fs : List (List UInt8)) :
    ∀ (seq : UInt16) (r : Receiver) (f : List UInt8) (n : ℕ), n ≤ fs.length →
      r.discarding = false → r.expected.any (· ≠ seq) = false →
      let r' := ((numbered payloadType ssrc timestamp seq (f :: fs)).take (n + 1)).foldl receive r
      r'.discarding = false ∧
        (n = fs.length → r'.collected = [] ∧
          r'.documents = r.documents ++ [r.collected ++ (f :: fs).flatten]) ∧
        (n ≠ fs.length → r'.documents = r.documents) := by
  induction fs with
  | nil =>
    intro seq r f n hn hdisc hgap
    obtain rfl : n = 0 := Nat.le_zero.mp hn
    have hkept : (r.discarding || r.gap ⟨0x80, true, payloadType &&& 0x7F, seq, timestamp, ssrc,
        f⟩) = false := by
      rw [Bool.or_eq_false_iff]
      exact ⟨hdisc, hgap⟩
    rw [numbered, List.take_succ_cons, List.take_zero, List.foldl_cons, List.foldl_nil,
      List.isEmpty_nil, receive_of_marker hkept rfl]
    exact ⟨rfl, fun _ => ⟨rfl, by simp⟩, fun h => absurd rfl h⟩
  | cons f' fs ih =>
    intro seq r f n hn hdisc hgap
    have hkept : (r.discarding || r.gap ⟨0x80, false, payloadType &&& 0x7F, seq, timestamp, ssrc,
        f⟩) = false := by
      rw [Bool.or_eq_false_iff]
      exact ⟨hdisc, hgap⟩
    rw [numbered, List.take_succ_cons, List.foldl_cons, List.isEmpty_cons,
      receive_of_not_marker hkept rfl]
    cases n with
    | zero => exact ⟨rfl, fun h => absurd h (by simp), fun _ => rfl⟩
    | succ n =>
      have hrest := ih (seq + 1) ⟨some (seq + 1), r.collected ++ f, false, r.documents⟩ f' n
        (Nat.le_of_succ_le_succ hn) rfl (by simp)
      rw [List.length_cons, ne_eq, Nat.add_right_cancel_iff, List.flatten_cons, ← List.append_assoc]
      exact hrest

end Receiver

/-! ### Runs -/

/-- A call of `PushXml`. -/
structure PushCall where
  /-- `xml_document`. -/
  document : List UInt8
  /-- What `Now90kHz` returns. -/
  timestamp : UInt32
  /-- What becomes of each packet. -/
  outcome : ℕ → PushOutcome

/-- A payloader and the receiver of its packets. -/
structure Stream where
  /-- The payloader. -/
  payloader : Payloader
  /-- The last packet that was sent. -/
  last : Option RtpPacket
  /-- The receiver. -/
  receiver : Receiver
  /-- The documents that were passed to `PushXml`. -/
  passed : List (List UInt8)

namespace Stream

/-- A payloader that has not sent a packet yet. -/
def new (p : Payloader) : Stream := ⟨p, none, .new, []⟩

/-- The packets of a call, as the receiver reads them. -/
def packets (s : Stream) (c : PushCall) : List RtpPacket :=
  (s.payloader.pushXml c.timestamp c.outcome c.document).2.2.filterMap parsePacket

/-- **A call of `PushXml`**, and what the receiver makes of the packets. -/
def step (s : Stream) (c : PushCall) : Option Stream :=
  some
    { payloader := (s.payloader.pushXml c.timestamp c.outcome c.document).2.1
      last := (s.packets c).getLast?.or s.last
      receiver := (s.packets c).foldl Receiver.receive s.receiver
      passed := s.passed ++ [c.document] }

/-- **A cut is seen**: the first packet of the document does not have the number after a packet
without a marker. -/
def CutSeen (s : Stream) (c : PushCall) : Prop :=
  s.payloader.appsrc = true → c.document ≠ [] → c.outcome 0 = .delivered →
    ∀ k, s.last = some k → k.marker = false → s.payloader.seqNum ≠ k.seq + 1

/-- What holds between two calls. -/
structure Inv (s : Stream) : Prop where
  /-- The receiver expects the number after that of the last packet. -/
  expected : s.receiver.expected = s.last.map (·.seq + 1)
  /-- After a marker it has nothing. -/
  clean : (∀ k, s.last = some k → k.marker = true) →
    s.receiver.collected = [] ∧ s.receiver.discarding = false
  /-- It has put out nothing but documents. -/
  sublist : s.receiver.documents.Sublist s.passed

theorem inv_new (p : Payloader) : (new p).Inv := ⟨rfl, fun _ => ⟨rfl, rfl⟩, List.Sublist.slnil⟩

/-- A packet that is followed by others of its document has no marker. -/
theorem marker_of_mem_take_numbered {payloadType : UInt8} {ssrc timestamp : UInt32} {k : RtpPacket}
    (fs : List (List UInt8)) : ∀ (seq : UInt16) (n : ℕ), n < fs.length →
      k ∈ (numbered payloadType ssrc timestamp seq fs).take n → k.marker = false := by
  induction fs with
  | nil => exact fun _ n hn => absurd hn (Nat.not_lt_zero n)
  | cons f fs ih =>
    intro seq n hn hk
    cases n with
    | zero => cases hk
    | succ n =>
      rw [numbered, List.take_succ_cons] at hk
      have hn : n < fs.length := Nat.lt_of_succ_lt_succ hn
      obtain rfl | hk := List.mem_cons.mp hk
      · exact List.isEmpty_eq_false_iff.mpr (List.ne_nil_of_length_pos (Nat.zero_lt_of_lt hn))
      · exact ih (seq + 1) n hn hk

/-- The last packet that was sent of a document has a marker only if the document is complete. -/
theorem length_of_getLast_marker {payloadType : UInt8} {ssrc timestamp : UInt32} {seq : UInt16}
    {f : List UInt8} {fs : List (List UInt8)} {n : ℕ} (hn : n ≤ fs.length)
    (last : Option RtpPacket) (hmarker : ∀ k,
      ((numbered payloadType ssrc timestamp seq (f :: fs)).take (n + 1)).getLast?.or last =
        some k → k.marker = true) : n = fs.length := by
  by_contra hcut
  obtain ⟨k, hk⟩ : ∃ k,
      ((numbered payloadType ssrc timestamp seq (f :: fs)).take (n + 1)).getLast? = some k := by
    rw [← Option.ne_none_iff_exists', ne_eq, List.getLast?_eq_none_iff, numbered,
      List.take_succ_cons]
    exact List.cons_ne_nil _ _
  have hfalse : k.marker = false :=
    marker_of_mem_take_numbered (f :: fs) seq (n + 1) (by rw [List.length_cons]; omega)
      (List.mem_of_getLast? hk)
  rw [hmarker k (by rw [hk, Option.some_or])] at hfalse
  cases hfalse

/-- **What a call sends**: nothing, or the first so many of the numbered pieces. -/
theorem packets_cases (s : Stream) (c : PushCall) :
    s.packets c = [] ∨
      ∃ f fs n, s.payloader.fragments c.document = f :: fs ∧ n ≤ fs.length ∧
        s.packets c = (numbered s.payloader.payloadType s.payloader.ssrc c.timestamp
          s.payloader.seqNum (f :: fs)).take (n + 1) ∧
        s.payloader.appsrc = true ∧ c.document ≠ [] ∧ c.outcome 0 = .delivered := by
  by_cases h : s.payloader.appsrc = false ∨ c.document = []
  · left
    rw [packets, Payloader.pushXml, if_pos h]
    rfl
  · rw [not_or, Bool.not_eq_false] at h
    obtain ⟨hsrc, hne⟩ := h
    obtain ⟨f, fs, hfs⟩ : ∃ f fs, s.payloader.fragments c.document = f :: fs :=
      List.exists_cons_of_ne_nil fun h => hne ((Cut.fragments_eq_nil_iff _).mp h)
    obtain ⟨k, hk, hsent, -, hdel⟩ := Payloader.exists_pushFragments c.timestamp
      (s.payloader.fragments c.document) s.payloader c.outcome hsrc
    have hpackets : s.packets c = (numbered s.payloader.payloadType s.payloader.ssrc c.timestamp
        s.payloader.seqNum (f :: fs)).take k := by
      have hread : ∀ l : List (List UInt8), l.filterMap parsePacket =
          (l.map parsePacket).filterMap id := by
        intro l
        rw [List.filterMap_map]
        rfl
      rw [packets, Payloader.pushXml_eq hsrc hne, hread, hsent, hfs, List.filterMap_map]
      exact List.filterMap_some
    cases k with
    | zero => exact .inl (by rw [hpackets, List.take_zero])
    | succ n =>
      rw [hfs] at hk
      exact .inr ⟨f, fs, n, hfs, Nat.le_of_succ_le_succ hk, hpackets, hsrc, hne,
        hdel (Nat.succ_pos n)⟩

/-- **One call keeps the invariant**, if a cut before it is seen. -/
theorem inv_step {s s' : Stream} {c : PushCall} (h : s.Inv) (hok : s.CutSeen c)
    (hstep : s.step c = some s') : s'.Inv := by
  rw [step] at hstep
  cases hstep
  have hexpected : ((s.packets c).foldl Receiver.receive s.receiver).expected =
      ((s.packets c).getLast?.or s.last).map (·.seq + 1) := by
    rw [Receiver.expected_foldl_receive, h.expected, Option.map_or]
  obtain hnil | ⟨f, fs, n, hfs, hn, hpackets, hsrc, hne, hdel⟩ := s.packets_cases c
  · refine ⟨hexpected, ?_, ?_⟩
    · rw [hnil]
      exact h.clean
    · rw [hnil]
      exact h.sublist.trans (List.sublist_append_left ..)
  · have hdoc : (f :: fs).flatten = c.document := by
      rw [← hfs]
      exact Cut.flatten_fragments _ c.document
    rw [hpackets] at hexpected ⊢
    by_cases hgap : s.receiver.discarding = true ∨
        s.receiver.expected.any (· ≠ s.payloader.seqNum) = true
    · obtain ⟨hdocs, hcollected, hdiscarding⟩ := @Receiver.foldl_receive_discarded
        s.payloader.payloadType s.payloader.ssrc c.timestamp fs s.payloader.seqNum s.receiver f n hn
        hgap
      refine ⟨hexpected, fun hmarker => ⟨hcollected, ?_⟩, ?_⟩
      · rw [← Bool.not_eq_true, hdiscarding, not_not]
        exact length_of_getLast_marker hn s.last hmarker
      · rw [hdocs]
        exact h.sublist.trans (List.sublist_append_left ..)
    · rw [not_or, Bool.not_eq_true, Bool.not_eq_true] at hgap
      obtain ⟨hdiscarding, hfull, hpart⟩ := @Receiver.foldl_receive_collected
        s.payloader.payloadType s.payloader.ssrc c.timestamp fs s.payloader.seqNum s.receiver f n hn
        hgap.1 hgap.2
      refine ⟨hexpected, fun hmarker =>
        ⟨(hfull (length_of_getLast_marker hn s.last hmarker)).1, hdiscarding⟩, ?_⟩
      by_cases hall : n = fs.length
      · -- the receiver had nothing, as a cut before this document would have been seen
        have hclean : s.receiver.collected = [] := by
          refine (h.clean fun k hk => ?_).1
          by_contra hmarker
          have hseq := hok hsrc hne hdel k hk (by simpa using hmarker)
          have hnext := hgap.2
          rw [h.expected, hk, Option.map_some, Option.any_some, decide_eq_false_iff_not,
            not_not] at hnext
          exact hseq hnext.symm
        rw [(hfull hall).2, hclean, List.nil_append, hdoc]
        exact h.sublist.append (List.Sublist.refl _)
      · rw [hpart hall]
        exact h.sublist.trans (List.sublist_append_left ..)

theorem passed_of_run : ∀ (calls : List PushCall) {s s' : Stream},
    runFrom step s calls = some s' → s'.passed = s.passed ++ calls.map (·.document) := by
  intro calls
  induction calls with
  | nil =>
    intro s s' h
    cases h
    exact (List.append_nil _).symm
  | cons c calls ih =>
    intro s s' h
    obtain ⟨s₁, hstep, h⟩ := runFrom_cons.mp h
    cases hstep
    rw [ih h, List.map_cons, List.append_assoc]
    rfl

end Stream

/-- **Only documents come out, in their order**, in every run in which no document takes up the
number after one that was cut short. -/
theorem sublist_passed (p : Payloader) (calls : List PushCall) (s : Stream)
    (hok : Guarded Stream.step Stream.CutSeen (.new p) calls)
    (hrun : runFrom Stream.step (.new p) calls = some s) :
    s.receiver.documents.Sublist (calls.map (·.document)) := by
  have hinv : s.Inv := Guarded.invariant (fun s c s' hs hc => Stream.inv_step hs hc) hok
    (Stream.inv_new p) hrun
  have hpassed : s.passed = calls.map (·.document) := Stream.passed_of_run calls hrun
  rw [← hpassed]
  exact hinv.sublist

/-! ### A document that is cut short -/

/-- A payloader with room for two bytes in a packet, and the number of its next packet. -/
def twoBytes (seqNum : UInt16) (packetCount byteCount dropCount : UInt64) : Payloader :=
  ⟨true, 97, 14, 1, seqNum, packetCount, byteCount, dropCount⟩

/-- Four bytes are sent in two packets. -/
theorem pushXml_twoBytes (seqNum : UInt16) (packetCount byteCount dropCount : UInt64)
    (timestamp : UInt32) (outcome : ℕ → PushOutcome) (x : UInt8) :
    (twoBytes seqNum packetCount byteCount dropCount).pushXml timestamp outcome
        [0x3C, x, 0x2F, 0x3E] =
      (twoBytes seqNum packetCount byteCount dropCount).pushFragments timestamp outcome
        [[0x3C, x], [0x2F, 0x3E]] := by
  have hstart : (0x2F : UInt8) &&& 0xC0 ≠ 0x80 := by decide
  have hfour : safeUtf8Chunk [0x3C, x, 0x2F, 0x3E] 2 4 = 2 := by
    simp [safeUtf8Chunk, retreat, hstart]
  have htwo : safeUtf8Chunk [0x2F, 0x3E] 2 2 = 2 := by simp [safeUtf8Chunk]
  rw [Payloader.pushXml_eq rfl (by simp), Payloader.fragments,
    Cut.fragments_of_ne_nil _ (by simp)]
  show Payloader.pushFragments _ _ _ (List.take (safeUtf8Chunk [0x3C, x, 0x2F, 0x3E] 2 4) _ ::
    Cut.fragments _ (List.drop (safeUtf8Chunk [0x3C, x, 0x2F, 0x3E] 2 4) _)) = _
  rw [hfour]
  show Payloader.pushFragments _ _ _ ([0x3C, x] :: Cut.fragments _ [0x2F, 0x3E]) = _
  rw [Cut.fragments_of_ne_nil _ (by simp)]
  show Payloader.pushFragments _ _ _ ([0x3C, x] :: List.take (safeUtf8Chunk [0x2F, 0x3E] 2 2) _ ::
    Cut.fragments _ (List.drop (safeUtf8Chunk [0x2F, 0x3E] 2 2) _)) = _
  rw [htwo]
  show Payloader.pushFragments _ _ _ ([0x3C, x] :: [0x2F, 0x3E] :: Cut.fragments _ []) = _
  rw [Cut.fragments_nil]

/-- A document whose second packet has the given fate. -/
def cutDocument (outcome : PushOutcome) : PushCall :=
  ⟨[0x3C, 0x61, 0x2F, 0x3E], 0, fun n => if n = 1 then outcome else .delivered⟩

/-- A document that is sent. -/
def wholeDocument : PushCall := ⟨[0x3C, 0x62, 0x2F, 0x3E], 1, fun _ => .delivered⟩

/-- What a document that was cut short leaves, with the number of the next packet. -/
def cutStream (seqNum : UInt16) : Stream where
  payloader := twoBytes seqNum 1 14 1
  last := some ⟨0x80, false, 97, 7, 0, 1, [0x3C, 0x61]⟩
  receiver := ⟨some 8, [0x3C, 0x61], false, []⟩
  passed := [[0x3C, 0x61, 0x2F, 0x3E]]

theorem step_cutDocument_allocateFails :
    (Stream.new (twoBytes 7 0 0 0)).step (cutDocument .allocateFails) = some (cutStream 8) := by
  simp only [Stream.step, Stream.packets, Stream.new, cutDocument, pushXml_twoBytes]
  rfl

theorem step_cutDocument_flowFails :
    (Stream.new (twoBytes 7 0 0 0)).step (cutDocument .flowFails) = some (cutStream 9) := by
  simp only [Stream.step, Stream.packets, Stream.new, cutDocument, pushXml_twoBytes]
  rfl

/-- When the packet fails after its number has been taken, the receiver sees the gap, and puts out
neither document. -/
theorem sublist_passed_flowFails : ∃ s,
    runFrom Stream.step (.new (twoBytes 7 0 0 0)) [cutDocument .flowFails, wholeDocument] = some s ∧
      s.receiver.documents.Sublist [[0x3C, 0x61, 0x2F, 0x3E], [0x3C, 0x62, 0x2F, 0x3E]] := by
  have hrun : runFrom Stream.step (.new (twoBytes 7 0 0 0))
      [cutDocument .flowFails, wholeDocument] = (cutStream 9).step wholeDocument := by
    rw [runFrom, step_cutDocument_flowFails]
    rfl
  have hguard : Guarded Stream.step Stream.CutSeen (.new (twoBytes 7 0 0 0))
      [cutDocument .flowFails, wholeDocument] := by
    refine ⟨?_, fun s₁ h1 => ⟨?_, fun s₂ _ => trivial⟩⟩
    · rintro - - - k ⟨⟩
    · rw [step_cutDocument_flowFails] at h1
      cases h1
      rintro - - - k ⟨⟩ -
      decide
  exact ⟨_, hrun, sublist_passed _ _ _ hguard hrun⟩

/-- **A document that was cut short is completed by the next one**, when no number has been taken
for the packet that failed. -/
theorem not_sublist_passed :
    ¬∀ (p : Payloader) (calls : List PushCall) (s : Stream),
      runFrom Stream.step (.new p) calls = some s →
        s.receiver.documents.Sublist (calls.map (·.document)) := by
  intro h
  have hrun : runFrom Stream.step (.new (twoBytes 7 0 0 0))
      [cutDocument .allocateFails, wholeDocument] = (cutStream 8).step wholeDocument := by
    rw [runFrom, step_cutDocument_allocateFails]
    rfl
  have hsub := h _ _ _ hrun
  simp only [Stream.packets, cutStream, wholeDocument, pushXml_twoBytes] at hsub
  exact absurd (hsub.subset List.mem_cons_self) (by decide)

end DetectBase.Onvif

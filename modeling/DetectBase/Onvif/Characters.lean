import DetectBase.Foundations.Utf8
import DetectBase.Onvif.Payloader

/-!
# Packets hold whole characters

The pieces into which `PushXml` cuts a document are texts of their own, if a packet can carry four
bytes: there is a place between two characters among the last four bytes that a piece might hold
(`DetectBase.exists_boundary`), `SafeUtf8Chunk` goes back to it
(`DetectBase.Onvif.retreat_spec`), and does not give up.
-/

namespace DetectBase.Onvif

/-- **The loop of `SafeUtf8Chunk`** stops in front of a byte that does not continue a character, if
there is one. -/
theorem retreat_spec {data : List UInt8} {n k : ℕ} (hk : 0 < k) (hkn : k ≤ n)
    (h : ¬Continues (data.getD k 0)) :
    0 < retreat data n ∧ ¬Continues (data.getD (retreat data n) 0) := by
  induction n with
  | zero => omega
  | succ n ih =>
    rw [retreat]
    split_ifs with hcont
    · have hne : k ≠ n + 1 := by
        rintro rfl
        exact h hcont
      exact ih (by omega)
    · exact ⟨Nat.succ_pos n, hcont⟩

/-- **A piece ends between two characters.** -/
theorem exists_safeUtf8Chunk_eq (cs : List Char) {n : ℕ} (hn : 4 ≤ n) :
    ∃ pre post, cs = pre ++ post ∧
      safeUtf8Chunk (encodeUtf8 cs) n (encodeUtf8 cs).length = (encodeUtf8 pre).length := by
  rw [safeUtf8Chunk]
  split_ifs with hall
  · exact ⟨cs, [], (List.append_nil cs).symm, rfl⟩
  · obtain ⟨k, hk, hkn, hstart⟩ := exists_boundary hn (not_le.mp hall)
    obtain ⟨hpos, hcut⟩ := retreat_spec hk hkn hstart
    have hle := retreat_le (encodeUtf8 cs) n
    obtain ⟨pre, post, heq, hlen⟩ := exists_eq_append_of_not_continues (by omega) hcut
    refine ⟨pre, post, heq, ?_⟩
    dsimp only
    rw [if_neg (Nat.pos_iff_ne_zero.mp hpos), hlen]

/-- **The pieces of a text are texts**, which are the text again. -/
theorem exists_fragments_eq_map {n : ℕ} (hn : 0 < n) (hfour : 4 ≤ n) (cs : List Char) :
    ∃ pieces : List (List Char), pieces.flatten = cs ∧
      (utf8Cut n hn).fragments (encodeUtf8 cs) = pieces.map encodeUtf8 := by
  induction hlen : (encodeUtf8 cs).length using Nat.strong_induction_on generalizing cs with
  | h m ih =>
    rcases eq_or_ne (encodeUtf8 cs) [] with hnil | hne
    · obtain rfl := encodeUtf8_eq_nil_iff.mp hnil
      exact ⟨[], rfl, Cut.fragments_nil _⟩
    · obtain ⟨pre, post, rfl, hsize⟩ := exists_safeUtf8Chunk_eq cs hfour
      have hpos := (utf8Cut n hn).pos _ hne
      have hcut : (utf8Cut n hn).size (encodeUtf8 (pre ++ post)) = (encodeUtf8 pre).length := hsize
      rw [hcut] at hpos
      rw [encodeUtf8_append, List.length_append] at hlen
      obtain ⟨pieces, hflatten, hpieces⟩ :=
        ih (encodeUtf8 post).length (by omega) post rfl
      refine ⟨pre :: pieces, by rw [List.flatten_cons, hflatten], ?_⟩
      rw [(utf8Cut n hn).fragments_of_ne_nil hne, hcut, encodeUtf8_append, List.take_left,
        List.drop_left, hpieces, List.map_cons]

namespace Payloader

/-- **Characters are never split.** If a packet of `p` has room for sixteen bytes, four behind the
header, the pieces of a text are texts, which are the text again, and each packet that is sent
carries one of them, whatever becomes of the packets. -/
theorem pushXml_characters (p : Payloader) (hmtu : 16 ≤ p.mtu) (cs : List Char)
    (timestamp : UInt32) (outcome : ℕ → PushOutcome) :
    ∃ pieces : List (List Char), pieces.flatten = cs ∧
      p.fragments (encodeUtf8 cs) = pieces.map encodeUtf8 ∧
      ∀ packet ∈ (p.pushXml timestamp outcome (encodeUtf8 cs)).2.2,
        ∃ k piece, parsePacket packet = some k ∧ piece ∈ pieces ∧
          k.payload = encodeUtf8 piece := by
  have hfour : 4 ≤ p.payloadMax := by
    rw [payloadMax_eq_max]
    omega
  obtain ⟨pieces, hflatten, hpieces⟩ := exists_fragments_eq_map p.payloadMax_pos hfour cs
  refine ⟨pieces, hflatten, hpieces, fun packet hpacket => ?_⟩
  by_cases hskip : p.appsrc = false ∨ encodeUtf8 cs = []
  · rw [pushXml, if_pos hskip] at hpacket
    cases hpacket
  · obtain ⟨hsrc, hne⟩ := not_or.mp hskip
    rw [pushXml_eq (eq_true_of_ne_false hsrc) hne] at hpacket
    obtain ⟨k, -, hsent, -⟩ := exists_pushFragments timestamp (p.fragments (encodeUtf8 cs)) p
      outcome (eq_true_of_ne_false hsrc)
    have hmem := List.mem_map_of_mem (f := parsePacket) hpacket
    rw [hsent] at hmem
    obtain ⟨packet', hpacket', hparse⟩ := List.mem_map.mp hmem
    have hpayload : packet'.payload ∈ p.fragments (encodeUtf8 cs) := by
      rw [← map_payload_numbered p.payloadType p.ssrc timestamp (p.fragments (encodeUtf8 cs))
        p.seqNum]
      exact List.mem_map_of_mem (List.mem_of_mem_take hpacket')
    rw [fragments, hpieces] at hpayload
    obtain ⟨piece, hpiece, heq⟩ := List.mem_map.mp hpayload
    exact ⟨packet', piece, hparse.symm, hpiece, heq.symm⟩

/-- The smallest packets, and a text of two characters of three bytes each. -/
theorem pushXml_characters_narrow :
    ∃ pieces : List (List Char), pieces.flatten = ['한', '글'] ∧
      narrow.fragments (encodeUtf8 ['한', '글']) = pieces.map encodeUtf8 := by
  obtain ⟨pieces, hflatten, hpieces, -⟩ := pushXml_characters narrow (by decide) ['한', '글'] 0
    fun _ => .delivered
  exact ⟨pieces, hflatten, hpieces⟩

end Payloader

end DetectBase.Onvif

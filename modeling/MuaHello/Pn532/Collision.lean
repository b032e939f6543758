import MuaHello.Pn532.Ack
import MuaHello.Pn532.SearchLimit

/-!
# One byte for every result

`PN532_FrameParser` returns the TFI of an information frame in the same byte as the codes of the
special frames and of its errors, and it does not look at the TFI.  A frame with one of these codes
for a TFI is reported as what it is not.  `PN532_ReadAck` maps the byte once more, into a number
where 1 is a NACK, so there the TFI 1 is another such value.

`code_determines_iff` states for both functions that the TFI is all that can be mistaken, up to the
older bytes `PN532_ReadAck` parses after a failed read.
-/

namespace PN532

variable {m : ℕ → UInt8} {k : ℕ} {frmLen : UInt8}
variable {ppPacket : OutParam (Option ℕ)} {pLen : OutParam UInt8}

/-- What stands behind the start code at `k` is none of the frames the parser knows. -/
def Rejected (m : ℕ → UInt8) (k : ℕ) : Prop := ¬ InfoAt m k ∧ ¬ SpecialAt m k

/-- The returned byte tells which kind of frame stands at `k`. -/
structure Determined (m : ℕ → UInt8) (k : ℕ) (r : ParserResult) : Prop where
  ack : r.code = tfiAck → AckAt m k
  nack : r.code = tfiNack → NackAt m k
  ext : r.code = notSupport → ExtAt m k
  invalid : r.code = invalidFrame → Rejected m k
  info : InfoAt m k → r.code ∉ specialCodes

/-- The checksum-valid frame at `k` has one of the parser's own codes for a TFI. -/
def Collides (m : ℕ → UInt8) (k : ℕ) : Prop := InfoAt m k ∧ tfiAt m k ∈ specialCodes

/-- What the parser returns tells the frames apart unless one of them has a code for a TFI. -/
lemma determined_verdict_iff :
    Determined m k (verdict m k ppPacket pLen) ↔ ¬ Collides m k := by
  rw [verdict]
  constructor
  · rintro h ⟨hinfo, htfi⟩
    have hcode := h.info hinfo
    rw [if_pos hinfo] at hcode
    exact hcode htfi
  · intro hno
    split_ifs with hinfo hack hnack hext
    · have htfi : tfiAt m k ∉ specialCodes := fun htfi => hno ⟨hinfo, htfi⟩
      simp only [specialCodes, List.mem_cons, List.not_mem_nil, or_false, not_or] at htfi
      obtain ⟨h₁, h₂, h₃, h₄⟩ := htfi
      refine ⟨fun h => absurd h h₁, fun h => absurd h h₂, fun h => absurd h h₃,
        fun h => absurd h h₄, fun _ => ?_⟩
      simp only [specialCodes, List.mem_cons, List.not_mem_nil, or_false, not_or]
      exact ⟨h₁, h₂, h₃, h₄⟩
    · refine ⟨fun _ => hack, ?_, ?_, ?_, fun h => absurd h hinfo⟩ <;>
        simp [tfiAck, tfiNack, notSupport, invalidFrame]
    · refine ⟨?_, fun _ => hnack, ?_, ?_, fun h => absurd h hinfo⟩ <;>
        simp [tfiAck, tfiNack, notSupport, invalidFrame]
    · refine ⟨?_, ?_, fun _ => hext, ?_, fun h => absurd h hinfo⟩ <;>
        simp [tfiAck, tfiNack, notSupport, invalidFrame]
    · refine ⟨?_, ?_, ?_, fun _ => ⟨hinfo, ?_⟩, fun h => absurd h hinfo⟩
      · simp [tfiAck, invalidFrame]
      · simp [tfiNack, invalidFrame]
      · simp [notSupport, invalidFrame]
      · rintro (h | h | h)
        · exact hack h
        · exact hnack h
        · exact hext h

/-! ## `PN532_ReadAck` -/

/-- The NACK frame without its postamble. -/
def nackFrame : List UInt8 := startCode ++ [0xFF, 0x00]

/-- The TFIs `PN532_ReadAck` turns into `PN532_NACK`. -/
def LikeNack (tfi : UInt8) : Prop := tfi = tfiNack ∨ tfi = nack

/-- The call returns `PN532_ACK` and `PN532_NACK` only for frames its own read delivered. -/
structure AckCall.Honest (c : AckCall) : Prop where
  ack : c.ret = PN532.ack.toInt8 → ackFrame <:+: c.read.bytes
  nack : c.ret = PN532.nack.toInt8 → nackFrame <:+: c.read.bytes

lemma nack_code_iff (res : UInt8) :
    (if res = tfiAck then ack else if res = tfiNack then nack else res).toInt8 = nack.toInt8
      ↔ LikeNack res := by
  rw [LikeNack]
  split_ifs with h₁ h₂
  · simp only [h₁]; decide
  · simp [h₂]
  · simp only [h₂, false_or]
    constructor
    · intro h
      have hbits := congrArg Int8.toUInt8 h
      rwa [UInt8.toUInt8_toInt8, UInt8.toUInt8_toInt8] at hbits
    · intro h
      rw [h]

/-- **When `PN532_ReadAck` returns `PN532_NACK`.** -/
lemma AckCall.ret_eq_nack_iff (c : AckCall) :
    c.ret = PN532.nack.toInt8 ↔ Shows 0xFF 0x00 LikeNack c.view c.frmLen := by
  have hiff := @code_iff c.view (UInt8.ofInt c.read.ret) none none LikeNack
    (by unfold LikeNack; decide) (by unfold LikeNack; decide)
  have hack : ¬ LikeNack tfiAck := by unfold LikeNack; decide
  have hnack : LikeNack tfiNack := .inl rfl
  simp only [hack, hnack, and_false, and_true, false_or, c.toNat_ret] at hiff
  rw [AckCall.ret, readAck]
  exact (nack_code_iff _).trans hiff

/-- **When `PN532_ReadAck` is honest.** -/
lemma AckCall.honest_iff (c : AckCall) :
    c.Honest ↔ ¬ c.Misread ∧ ¬ c.Mistakes 0xFF 0x00 LikeNack := by
  have hnack : (c.ret = PN532.nack.toInt8 → nackFrame <:+: c.read.bytes) ↔
      ¬ c.Mistakes 0xFF 0x00 LikeNack := by
    rw [c.ret_eq_nack_iff]
    exact c.shows_iff fun h => h.not_special.2.1
  rw [← c.genuine_iff, ← hnack]
  exact ⟨fun h => ⟨h.ack, h.nack⟩, fun h => ⟨h.1, h.2⟩⟩

/-- **Exactly when the returned byte determines the frame.**  Of the parser, also when it reads on
behind the received bytes: unless the frame has one of its codes for a TFI.  Of `PN532_ReadAck`, for
any older bytes and any outcome of the read: unless it mistakes something for an ACK or a NACK, by
its TFI or because nothing was delivered. -/
theorem code_determines_iff (m : ℕ → UInt8) (k : ℕ) (frmLen : UInt8)
    (ppPacket : OutParam (Option ℕ)) (pLen : OutParam UInt8) (h : FirstOccurrence startCode m k)
    (hk : k + 6 ≤ frmLen.toNat) (c : AckCall) :
    (Determined m k (frameParser (some m) frmLen ppPacket pLen) ↔ ¬ Collides m k) ∧
      (c.Honest ↔ ¬ c.Misread ∧ ¬ c.Mistakes 0xFF 0x00 LikeNack) := by
  constructor
  · rw [frameParser_found h hk]
    exact determined_verdict_iff
  · exact c.honest_iff

/-- The version response of a PN532 is reported as the information frame it is, and its ACK as an
ACK that was delivered. -/
theorem code_determines_iff_version :
    Determined
        (listMem [0x00, 0x00, 0xFF, 0x06, 0xFA, 0xD5, 0x03, 0x32, 0x01, 0x06, 0x07, 0xE8]
          fun _ => 0)
        0 (frameParser (some (listMem [0x00, 0x00, 0xFF, 0x06, 0xFA, 0xD5, 0x03, 0x32, 0x01, 0x06,
          0x07, 0xE8] fun _ => 0)) 12 (some none) (some 0)) ∧
      AckCall.Honest ⟨⟨fun _ => 0x5A, 0⟩, .delivered (ackFrame ++ [0x00]) (by decide),
        fun _ => 0⟩ := by
  obtain ⟨hparser, hack⟩ := code_determines_iff
    (listMem [0x00, 0x00, 0xFF, 0x06, 0xFA, 0xD5, 0x03, 0x32, 0x01, 0x06, 0x07, 0xE8] fun _ => 0)
    0 12 (some none) (some 0) ⟨by decide, by simp⟩ (by decide)
    ⟨⟨fun _ => 0x5A, 0⟩, .delivered (ackFrame ++ [0x00]) (by decide), fun _ => 0⟩
  refine ⟨hparser.mpr ?_, hack.mpr ⟨?_, ?_⟩⟩
  · rintro ⟨-, htfi⟩
    exact absurd htfi (by decide)
  · rintro ⟨-, -, hinfo, -⟩
    exact absurd hinfo.1.1 (by decide)
  · rintro ⟨-, -, hinfo, -⟩
    exact absurd hinfo.1.1 (by decide)

/-- A complete frame with TFI 0 is reported with the code of an ACK. -/
theorem code_determines_fails :
    ¬ ((∀ (m : ℕ → UInt8) (k : ℕ) (frmLen : UInt8) (ppPacket : OutParam (Option ℕ))
        (pLen : OutParam UInt8), FirstOccurrence startCode m k → k + 6 ≤ frmLen.toNat →
      (1 ≤ (lenAt m k).toNat → (lenAt m k).toNat ≤ 32 →
        k + 6 + (lenAt m k).toNat ≤ frmLen.toNat) →
      Determined m k (frameParser (some m) frmLen ppPacket pLen)) ∧ ∀ c : AckCall, c.Honest) := by
  rintro ⟨h, -⟩
  have hdet := h (listMem [0x00, 0x00, 0xFF, 0x01, 0xFF, 0x00, 0x00] fun _ => 0) 0 7 none none
    ⟨by decide, by simp⟩ (by decide) (fun _ _ => by decide)
  exact absurd (hdet.ack (by decide)) (by decide)

end PN532

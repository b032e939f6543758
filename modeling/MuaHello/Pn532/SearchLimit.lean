import MuaHello.Pn532.Parser

/-!
# The limit of the search

`PN532_FRAME_LEN_MIN` was lowered to 5 so that an ACK without its postamble counts as a frame.  The
search loop tests the offsets below `frmLen - PN532_FRAME_LEN_MIN`, which leaves out the last one at
which such a frame still fits.  There the parser returns `PN532_INVALID_FRAME` and has not looked.

`specialReported_iff` says that this offset is the only one that is missed.
-/

namespace PN532

variable {m : ℕ → UInt8} {k : ℕ} {frmLen : UInt8}
variable {ppPacket : OutParam (Option ℕ)} {pLen : OutParam UInt8}

/-- The special frame with its start code at `k` is reported with its code. -/
structure SpecialReported (m : ℕ → UInt8) (k : ℕ) (r : ParserResult) : Prop where
  ack : AckAt m k → r.code = tfiAck
  nack : NackAt m k → r.code = tfiNack
  ext : ExtAt m k → r.code = notSupport

/-- LEN and LCS of one of the special frames. -/
def SpecialAt (m : ℕ → UInt8) (k : ℕ) : Prop := AckAt m k ∨ NackAt m k ∨ ExtAt m k

lemma specialReported_verdict : SpecialReported m k (verdict m k ppPacket pLen) := by
  have hinfo : SpecialAt m k → ¬ InfoAt m k := by
    intro hspecial h
    obtain ⟨hack, hnack, hext⟩ := h.1.not_special
    rcases hspecial with h | h | h
    · exact hack h
    · exact hnack h
    · exact hext h
  constructor
  · intro h
    rw [verdict, if_neg (hinfo (.inl h)), if_pos h]
  · intro h
    have hack : ¬ AckAt m k := by simp [h]
    rw [verdict, if_neg (hinfo (.inr (.inl h))), if_neg hack, if_pos h]
  · intro h
    have hack : ¬ AckAt m k := by simp [h]
    have hnack : ¬ NackAt m k := by simp [h]
    rw [verdict, if_neg (hinfo (.inr (.inr h))), if_neg hack, if_neg hnack, if_pos h]

/-- A start code at the last admissible offset is not found. -/
lemma frameParser_last (h : FirstOccurrence startCode m k) (hk : k + frameLenMin = frmLen.toNat) :
    frameParser (some m) frmLen ppPacket pLen = ⟨invalidFrame, ppPacket, pLen⟩ := by
  apply frameParser_not_found
  intro j hj hocc
  refine h.2 j ?_ hocc
  simp only [frameLenMin] at hk
  omega

/-- **Exactly when the search reaches a special frame.**  For every buffer whose first start code
leaves room for a frame of `PN532_FRAME_LEN_MIN` bytes: if and only if it is not a special frame
that ends with the buffer. -/
theorem specialReported_iff (m : ℕ → UInt8) (k : ℕ) (frmLen : UInt8)
    (ppPacket : OutParam (Option ℕ)) (pLen : OutParam UInt8) (h : FirstOccurrence startCode m k)
    (hk : k + frameLenMin ≤ frmLen.toNat) :
    SpecialReported m k (frameParser (some m) frmLen ppPacket pLen) ↔
      ¬ (k + frameLenMin = frmLen.toNat ∧ SpecialAt m k) := by
  simp only [frameLenMin] at hk ⊢
  constructor
  · rintro hrep ⟨hlast, hspecial⟩
    rw [frameParser_last h hlast] at hrep
    rcases hspecial with hat | hat | hat
    · exact absurd (hrep.ack hat) (show ¬ invalidFrame = tfiAck by decide)
    · exact absurd (hrep.nack hat) (show ¬ invalidFrame = tfiNack by decide)
    · exact absurd (hrep.ext hat) (show ¬ invalidFrame = notSupport by decide)
  · intro hnot
    by_cases hroom : k + 6 ≤ frmLen.toNat
    · rw [frameParser_found h hroom]
      exact specialReported_verdict
    · have hnone : ¬ SpecialAt m k := by
        intro hspecial
        exact hnot ⟨by omega, hspecial⟩
      exact ⟨fun hat => absurd (.inl hat) hnone, fun hat => absurd (.inr (.inl hat)) hnone,
        fun hat => absurd (.inr (.inr hat)) hnone⟩

/-- An ACK frame with its postamble is found at the start of the buffer. -/
theorem specialReported_iff_ack :
    (frameParser (some (listMem [0x00, 0x00, 0xFF, 0x00, 0xFF, 0x00] fun _ => 0)) 6 none none).code
      = tfiAck := by
  have hiff := specialReported_iff (listMem [0x00, 0x00, 0xFF, 0x00, 0xFF, 0x00] fun _ => 0) 0 6
    none none ⟨by decide, by simp⟩ (by decide)
  exact (hiff.mpr (by simp)).ack (by decide)

/-- Six bytes that end with an ACK frame behind one other byte are reported as invalid. -/
theorem specialReported_fails :
    ¬ ∀ (m : ℕ → UInt8) (k : ℕ) (frmLen : UInt8) (ppPacket : OutParam (Option ℕ))
      (pLen : OutParam UInt8), FirstOccurrence startCode m k → k + frameLenMin ≤ frmLen.toNat →
        SpecialReported m k (frameParser (some m) frmLen ppPacket pLen) := by
  intro h
  have hrep := h (listMem [0x55, 0x00, 0x00, 0xFF, 0x00, 0xFF] fun _ => 0) 1 6 none none
    ⟨by decide, by decide⟩ (by decide)
  exact absurd (hrep.ack (by decide)) (by decide)

end PN532

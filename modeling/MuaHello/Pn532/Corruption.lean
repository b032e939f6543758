import MuaHello.Pn532.Parser

/-!
# Corrupted frames

One byte of an information frame, from LEN through DCS, arrives as another value.  Behind the start
code every byte is covered by a checksum: LEN and LCS by their sum, the others by the sum that DCS
closes.  `not_infoAt_update` is the arithmetic, and `not_specialAt_update` says that the change does
not make a special frame either, because LEN is at least 2.
-/

namespace PN532

variable {m : ℕ → UInt8} {f : InfoFrame} {J T : List UInt8} {k i : ℕ} {v frmLen : UInt8}
variable {ppPacket : OutParam (Option ℕ)} {pLen : OutParam UInt8}

/-- Replacing one byte moves the sum by the difference. -/
lemma sum_slice_update {a n : ℕ} (ha : a ≤ i) (hi : i < a + n) :
    (slice (Function.update m i v) a n).sum = (slice m a n).sum - m i + v := by
  induction n generalizing a with
  | zero => omega
  | succ n ih =>
      rw [slice_succ, slice_succ, List.sum_cons, List.sum_cons]
      rcases Nat.eq_or_lt_of_le ha with rfl | hlt
      · have htail : slice (Function.update m a v) (a + 1) n = slice m (a + 1) n := by
          apply slice_congr
          intro j _
          rw [Function.update_of_ne (by omega)]
        rw [htail, Function.update_self]
        grind
      · rw [ih hlt (by omega), Function.update_of_ne (by omega)]
        grind

/-- **A checksum notices the change.** -/
lemma not_infoAt_update (h : InfoAt m k) (hi : k + 3 ≤ i) (hend : i < k + 6 + (lenAt m k).toNat)
    (hv : v ≠ m i) : ¬ InfoAt (Function.update m i v) k := by
  obtain ⟨⟨-, -, hlcs⟩, hsum⟩ := h
  rintro ⟨⟨-, -, hlcs'⟩, hsum'⟩
  rw [lenAt, lcsAt] at hlcs hlcs'
  rw [lenAt] at hsum hsum' hend
  rcases (show i = k + 3 ∨ i = k + 4 ∨ k + 5 ≤ i by omega) with rfl | rfl | hbody
  · rw [Function.update_self, Function.update_of_ne (by omega)] at hlcs'
    exact hv (by grind)
  · rw [Function.update_self, Function.update_of_ne (by omega)] at hlcs'
    exact hv (by grind)
  · rw [Function.update_of_ne (by omega), sum_slice_update hbody (by omega), hsum] at hsum'
    exact hv (by grind)

/-- **The change does not make a special frame**: LEN and LCS differ from each special pair in two
bytes. -/
lemma not_specialAt_update (h : LenOk m k) (htwo : 2 ≤ (lenAt m k).toNat) (hi : k + 3 ≤ i) :
    ¬ AckAt (Function.update m i v) k ∧ ¬ NackAt (Function.update m i v) k ∧
      ¬ ExtAt (Function.update m i v) k := by
  obtain ⟨-, hle, hlcs⟩ := h
  simp only [AckAt, NackAt, ExtAt, CodesAt, lenAt, lcsAt, dataBufMax] at htwo hle hlcs ⊢
  by_cases hlen : i = k + 3
  · subst hlen
    have hFF : m (k + 4) ≠ 0xFF := by
      intro heq
      have hone : m (k + 3) = 1 := by
        rw [heq] at hlcs
        grind
      simp [hone] at htwo
    have h00 : m (k + 4) ≠ 0x00 := by
      intro heq
      have hzero : m (k + 3) = 0 := by
        rw [heq] at hlcs
        grind
      simp [hzero] at htwo
    simp [hFF, h00]
  · rw [Function.update_of_ne (by omega : k + 3 ≠ i)]
    refine ⟨?_, ?_, ?_⟩
    · rintro ⟨heq, -⟩
      simp [heq] at htwo
    · rintro ⟨heq, -⟩
      simp [heq] at hle
    · rintro ⟨heq, -⟩
      simp [heq] at hle

/-- **Corruption of a single byte is always detected.**  A frame of at least two bytes behind junk
free of start codes, with any one byte from LEN through DCS replaced, is rejected, and neither cell
is written. -/
theorem corrupted_rejected (m : ℕ → UInt8) (f : InfoFrame) (J T : List UInt8) (frmLen v : UInt8)
    (i : ℕ) (ppPacket : OutParam (Option ℕ)) (pLen : OutParam UInt8) (htwo : 2 ≤ f.len.toNat)
    (hle : f.len.toNat ≤ 32) (hfree : ¬ startCode <:+: J) (hm : Holds m 0 (J ++ f.core ++ T))
    (hfit : J.length + f.core.length ≤ frmLen.toNat) (hi : J.length + 3 ≤ i)
    (hend : i < J.length + f.core.length) (hv : v ≠ m i) :
    frameParser (some (Function.update m i v)) frmLen ppPacket pLen
      = ⟨invalidFrame, ppPacket, pLen⟩ := by
  have hsize := f.toNat_len
  rw [InfoFrame.length_core] at hfit hend
  simp only [holds_append, Nat.zero_add] at hm
  obtain ⟨⟨hJ, hcore⟩, -⟩ := hm
  obtain ⟨hstart, hlen, -⟩ := holds_core.mp hcore
  have hinfo : InfoAt m J.length := infoAt_of_holds (by rw [dataBufMax]; omega) hcore
  have hstart' : Holds (Function.update m i v) J.length startCode :=
    hstart.update_of_le (by simpa [startCode] using hi)
  have hfirst := firstOccurrence_append unbordered_startCode hfree (hJ.update_of_le (by omega))
    hstart'
  have hbad := not_infoAt_update hinfo hi (by rw [hlen]; omega) hv
  obtain ⟨hack, hnack, hext⟩ := @not_specialAt_update m _ i v hinfo.1 (by rw [hlen]; omega) hi
  rw [frameParser_found hfirst (by omega), verdict, if_neg hbad, if_neg hack, if_neg hnack,
    if_neg hext]

/-- The command frame `D4 02` behind a byte of junk, with DCS off by one. -/
theorem corrupted_rejected_version :
    frameParser
        (some (Function.update
          (listMem [0x00, 0x00, 0x00, 0xFF, 0x02, 0xFE, 0xD4, 0x02, 0x2A] fun _ => 0) 8 0x2B))
        9 (some none) (some 0)
      = ⟨invalidFrame, some none, some 0⟩ :=
  corrupted_rejected _ ⟨0xD4, [0x02], by simp⟩ [0x00] [] 9 0x2B 8 _ _ (by decide) (by decide)
    (by decide) (by decide) (by decide) (by simp) (by decide) (by decide)

end PN532

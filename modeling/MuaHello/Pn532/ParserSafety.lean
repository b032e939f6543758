import MuaHello.Pn532.Parser

/-!
# What the frame parser looks at

`frmLen` tells the parser how many bytes it was given.  The search honours it: no test of the
search loop reaches past it.  The checksum part does not.  LEN comes from the frame, and
`parseData` dereferences every byte up to `p[5 + LEN]` without comparing it with `frmLen`.

`ReadsInside` is what a caller relies on; `DeclaredFits` is the comparison the code leaves out.
`readsInside_iff` shows that the one holds exactly where the other does.
-/

namespace PN532

open Probe

variable {m m' : ℕ → UInt8} {k : ℕ} {frmLen : UInt8}
variable {ppPacket : OutParam (Option ℕ)} {pLen : OutParam UInt8}

/-- The parser stays inside the bytes it was given: it reads none past them, a packet it reports
lies within them, and it returns the same whatever follows them in memory. -/
structure ReadsInside (m : ℕ → UInt8) (frmLen : UInt8) : Prop where
  reads : ∀ ppPacket pLen, ∀ a ∈ frameParserReads (some m) frmLen ppPacket pLen,
    a < frmLen.toNat
  packet : ∀ (pLen : UInt8) (code : UInt8) (off : ℕ) (n : UInt8),
    frameParser (some m) frmLen (some none) (some pLen) = ⟨code, some (some off), some n⟩ →
      off + n.toNat ≤ frmLen.toNat
  stable : ∀ m' : ℕ → UInt8, (∀ i < frmLen.toNat, m i = m' i) → ∀ ppPacket pLen,
    frameParser (some m') frmLen ppPacket pLen = frameParser (some m) frmLen ppPacket pLen

/-- A frame whose LEN and LCS the parser accepts is complete in the buffer. -/
def DeclaredFits (m : ℕ → UInt8) (frmLen : UInt8) : Prop :=
  ∀ k, FirstOccurrence startCode m k → k + 6 ≤ frmLen.toNat → LenOk m k →
    k + 6 + (lenAt m k).toNat ≤ frmLen.toNat

/-! ## The addresses read behind the start code -/

/-- The data checksum reads the TFI, the packet and the byte behind it. -/
lemma reads_parseData (h : LenOk m k) :
    (parseData k (lenAt m k) ppPacket pLen).reads m
      = [k + 5] ++ (List.range' (k + 6) ((lenAt m k).toNat - 1)
          ++ ([k + (5 + (lenAt m k).toNat)] ++ if InfoAt m k then [k + 5] else [])) := by
  have hrun := @run_parseData m k (some none) pLen h
  rw [parseData, run_bind, run_get, run_bind, run_sumLoop] at hrun
  rw [parseData, reads_bind, reads_get, run_get, reads_bind, run_sumLoop, reads_sumLoop]
  simp only [Nat.add_zero, toNat_idx h.1 h.2.1] at hrun ⊢
  rw [run_bind, run_get] at hrun
  rw [reads_bind, reads_get, run_get]
  by_cases hinfo : InfoAt m k
  · -- the packet cell is written, so the comparison went through
    split_ifs at hrun ⊢ with hne
    · simp [OutParam.set] at hrun
    · simp
  · split_ifs at hrun ⊢ with hne
    · simp
    · simp [OutParam.set] at hrun

lemma reads_codes_lt {a : ℕ} {x y : UInt8}
    (h : a ∈ ((byteIs (k + 3) x).and (byteIs (k + 4) y)).reads m) : a < k + 5 := by
  simp only [reads_and, reads_byteIs, run_byteIs] at h
  split_ifs at h <;> simp at h <;> omega

/-- The checksum part reads nothing past the data checksum, and nothing past LCS unless LEN and LCS
are accepted. -/
lemma reads_parseInfo_lt {a : ℕ} (h : a ∈ (parseInfo k ppPacket pLen).reads m) :
    a < k + 5 ∨ LenOk m k ∧ a < k + 6 + (lenAt m k).toNat := by
  by_cases hok : LenOk m k
  · refine .inr ⟨hok, ?_⟩
    have hpos := hok.1
    rw [(parseInfo_accepted hok).2, reads_parseData hok] at h
    simp only [List.mem_append, List.mem_cons, List.mem_range'_1, List.not_mem_nil,
      or_false] at h
    rcases h with (h | h) | h | h | h | h
    · omega
    · omega
    · omega
    · omega
    · omega
    · split_ifs at h <;> simp at h; omega
  · exact .inl ((parseInfo_rejected hok).2 a h)

lemma reads_parseAt_lt {a : ℕ} (h : a ∈ (parseAt k ppPacket pLen).reads m) :
    a < k + 5 ∨ LenOk m k ∧ a < k + 6 + (lenAt m k).toNat := by
  rw [parseAt, reads_bind, List.mem_append] at h
  rcases h with h | h
  · exact .inl (reads_codes_lt h)
  · split_ifs at h
    · simp at h
    · rw [reads_bind, List.mem_append] at h
      rcases h with h | h
      · exact .inl (reads_codes_lt h)
      · split_ifs at h
        · simp at h
        · rw [reads_bind, List.mem_append] at h
          rcases h with h | h
          · exact .inl (reads_codes_lt h)
          · split_ifs at h
            · simp at h
            · exact reads_parseInfo_lt h

/-- An accepted LEN makes the parser read the data checksum, wherever it lies. -/
lemma dcs_mem_reads_parseAt (h : LenOk m k) :
    k + 5 + (lenAt m k).toNat ∈ (parseAt k ppPacket pLen).reads m := by
  obtain ⟨ha, hn, he⟩ := h.not_special
  rw [parseAt, reads_bind, if_neg (mt run_codes.mp ha), reads_bind, if_neg (mt run_codes.mp hn),
    reads_bind, if_neg (mt run_codes.mp he), (parseInfo_accepted h).2, reads_parseData h]
  simp [Nat.add_assoc]

lemma frameParserReads_found (h : FirstOccurrence startCode m k) (hk : k + 6 ≤ frmLen.toNat) :
    frameParserReads (some m) frmLen ppPacket pLen
      = (scan isStart 0 (frmLen.toNat - frameLenMin)).reads m
        ++ (parseAt k ppPacket pLen).reads m := by
  have hmin : ¬ frmLen.toNat < frameLenMin := by simp only [frameLenMin]; omega
  have hfound : k ≠ frmLen.toNat - frameLenMin := by simp only [frameLenMin]; omega
  rw [frameParserReads, parseFrame, if_neg hmin, reads_bind, run_search h hk, if_neg hfound]

lemma reads_search_lt {a : ℕ} (h : a ∈ (scan isStart 0 (frmLen.toNat - frameLenMin)).reads m) :
    a < frmLen.toNat := by
  obtain ⟨j, -, hj, ha⟩ := mem_reads_scan h
  have hlt := reads_isStart_lt ha
  simp only [frameLenMin] at hj
  omega

lemma frameParserReads_not_found (h : ∀ k, k + 6 ≤ frmLen.toNat → ¬ Holds m k startCode) :
    ∀ a ∈ frameParserReads (some m) frmLen ppPacket pLen, a < frmLen.toNat := by
  intro a ha
  rw [frameParserReads, parseFrame] at ha
  split_ifs at ha with hmin
  · simp at ha
  · rw [reads_bind, List.mem_append] at ha
    rcases ha with ha | ha
    · exact reads_search_lt ha
    · rw [run_search_miss h (by omega), if_pos rfl] at ha
      simp at ha

/-! ## The comparison that is missing -/

/-- If the declared frame is complete, every address read is inside the buffer. -/
lemma reads_lt_of_declaredFits (h : DeclaredFits m frmLen) :
    ∀ a ∈ frameParserReads (some m) frmLen ppPacket pLen, a < frmLen.toNat := by
  rcases found_or_not_found m frmLen with ⟨k, hfirst, hk⟩ | hnone
  · intro a ha
    rw [frameParserReads_found hfirst hk, List.mem_append] at ha
    rcases ha with ha | ha
    · exact reads_search_lt ha
    · rcases reads_parseAt_lt ha with hlt | ⟨hok, hlt⟩
      · omega
      · exact lt_of_lt_of_le hlt (h k hfirst hk hok)
  · exact frameParserReads_not_found hnone

/-- Reads inside the buffer make the result independent of what lies behind it. -/
lemma frameParser_congr
    (hreads : ∀ a ∈ frameParserReads (some m) frmLen ppPacket pLen, a < frmLen.toNat)
    (h : ∀ i < frmLen.toNat, m i = m' i) :
    frameParser (some m') frmLen ppPacket pLen = frameParser (some m) frmLen ppPacket pLen :=
  (run_congr fun a ha => h a (hreads a ha)).1

/-- A reported packet stands behind a start code, in front of its data checksum. -/
lemma packet_of_frameParser {code n pLen₀ : UInt8} {off : ℕ}
    (h : frameParser (some m) frmLen (some none) (some pLen₀) = ⟨code, some (some off), some n⟩) :
    ∃ k, FirstOccurrence startCode m k ∧ k + 6 ≤ frmLen.toNat ∧ InfoAt m k ∧ off = k + 6 ∧
      n = lenAt m k - 1 := by
  rcases found_or_not_found m frmLen with ⟨k, hfirst, hk⟩ | hnone
  · rw [frameParser_found hfirst hk, verdict] at h
    split_ifs at h with hinfo
    all_goals simp only [ParserResult.mk.injEq, OutParam.set, Option.map_some, Option.some.injEq,
      reduceCtorEq, false_and, and_false] at h
    exact ⟨k, hfirst, hk, hinfo, h.2.1.symm, h.2.2.symm⟩
  · rw [frameParser_not_found hnone] at h
    simp at h

/-- **Exactly when the parser stays inside its buffer.**  For every memory and every `frmLen`: if
and only if a start code it finds either carries a LEN or LCS it rejects, or declares a frame that
is complete in the buffer. -/
theorem readsInside_iff (m : ℕ → UInt8) (frmLen : UInt8) :
    ReadsInside m frmLen ↔ DeclaredFits m frmLen := by
  constructor
  · intro h k hfirst hk hok
    have hdcs : k + 5 + (lenAt m k).toNat ∈ frameParserReads (some m) frmLen none none := by
      rw [frameParserReads_found hfirst hk]
      exact List.mem_append_right _ (dcs_mem_reads_parseAt hok)
    have hlt := h.reads none none _ hdcs
    omega
  · intro h
    have hreads : ∀ ppPacket pLen, ∀ a ∈ frameParserReads (some m) frmLen ppPacket pLen,
        a < frmLen.toNat := fun _ _ => reads_lt_of_declaredFits h
    refine ⟨hreads, ?_, fun m' hm ppPacket pLen => frameParser_congr (hreads ppPacket pLen) hm⟩
    intro pLen code off n hres
    obtain ⟨k, hfirst, hk, hinfo, rfl, rfl⟩ := packet_of_frameParser hres
    have hfit := h k hfirst hk hinfo.1
    have hn := hinfo.1.toNat_sub_one
    omega

/-- Six bytes of a frame that declares LEN = 5 make the parser read up to offset 10. -/
theorem readsInside_fails : ¬ ∀ (m : ℕ → UInt8) (frmLen : UInt8), ReadsInside m frmLen := by
  intro h
  have hread : 10 ∈ frameParserReads
      (some (listMem [0x00, 0x00, 0xFF, 0x05, 0xFB, 0xD4] fun _ => 0)) 6 none none := by decide
  exact absurd ((h _ 6).reads none none 10 hread) (by decide)

end PN532

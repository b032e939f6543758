import MuaHello.Lib.Probe
import MuaHello.Pn532.Frame

/-!
# The frame parser

`PN532_FrameParser`, statement by statement, as a computation over the memory its `pFrame` points
at.  Pointers into the frame are offsets from `pFrame`; a nullable out-parameter is an `OutParam`.

`run_parseAt` is the meaning of the code behind the start code, and `frameParser_found`,
`frameParser_not_found` put it together with the search.  Nothing later in the development looks
inside the parser again.
-/

namespace PN532

open Probe

/-- A pointer a function may store its result through: `none` is NULL, `some v` points to a cell
that holds `v`. -/
abbrev OutParam (α : Type) : Type := Option α

/-- `if (p) *p = v;` -/
def OutParam.set {α : Type} (p : OutParam α) (v : α) : OutParam α := Option.map (fun _ => v) p

/-- What a call of the parser leaves behind: its return value and the two cells. -/
structure ParserResult where
  code : UInt8
  packet : OutParam (Option ℕ)
  len : OutParam UInt8
  deriving DecidableEq

/-! ## The code -/

/-- `p[i] == v` -/
def byteIs (i : ℕ) (v : UInt8) : Probe UInt8 Bool := do
  let b ← get i
  return b == v

/-- The test of the search loop: the bytes at `p` are a start code. -/
def isStart (p : ℕ) : Probe UInt8 Bool :=
  (byteIs p preamble).and ((byteIs (p + 1) startCode0).and (byteIs (p + 2) startCode1))

/-- `for (i = 0; i < len - 1; i++) { sum += p[6 + i]; idx += 1; }` with `n` rounds to go. -/
def sumLoop (p : ℕ) : ℕ → ℕ → UInt8 → UInt8 → Probe UInt8 (UInt8 × UInt8)
  | 0, _, sum, idx => return (sum, idx)
  | n + 1, i, sum, idx => do
      let b ← get (p + 6 + i)
      sumLoop p n (i + 1) (sum + b) (idx + 1)

/-- The data checksum and the report of the packet, with `p` at the start code of a frame whose
`len` is accepted. -/
def parseData (p : ℕ) (len : UInt8) (ppPacket : OutParam (Option ℕ)) (pLen : OutParam UInt8) :
    Probe UInt8 ParserResult := do
  let tfi ← get (p + 5)
  let (sum, idx) ← sumLoop p (len.toNat - 1) 0 tfi 6
  let dcs ← get (p + idx.toNat)
  if ~~~sum + 1 ≠ dcs then
    return ⟨invalidFrame, ppPacket, pLen⟩
  else
    let code ← get (p + 5)
    return ⟨code, ppPacket.set (some (p + 6)), pLen.set (len - 1)⟩

/-- The length, its checksum, and what follows, with `p` at the start code. -/
def parseInfo (p : ℕ) (ppPacket : OutParam (Option ℕ)) (pLen : OutParam UInt8) :
    Probe UInt8 ParserResult := do
  let len ← get (p + 3)
  if len = 0 ∨ len.toNat > dataBufMax then
    return ⟨invalidFrame, ppPacket, pLen⟩
  else
    let lcs ← get (p + 4)
    if ~~~len + 1 ≠ lcs then
      return ⟨invalidFrame, ppPacket, pLen⟩
    else
      parseData p len ppPacket pLen

/-- The parser behind the search, with `p` at the start code: special frames first. -/
def parseAt (p : ℕ) (ppPacket : OutParam (Option ℕ)) (pLen : OutParam UInt8) :
    Probe UInt8 ParserResult := do
  if ← (byteIs (p + 3) 0x00).and (byteIs (p + 4) 0xFF) then
    return ⟨tfiAck, ppPacket, pLen⟩
  else if ← (byteIs (p + 3) 0xFF).and (byteIs (p + 4) 0x00) then
    return ⟨tfiNack, ppPacket, pLen⟩
  else if ← (byteIs (p + 3) 0xFF).and (byteIs (p + 4) 0xFF) then
    return ⟨notSupport, ppPacket, pLen⟩
  else
    parseInfo p ppPacket pLen

/-- `PN532_FrameParser` on a non-NULL frame.  `idx` and `p` advance together in the search, so one
number stands for both. -/
def parseFrame (frmLen : UInt8) (ppPacket : OutParam (Option ℕ)) (pLen : OutParam UInt8) :
    Probe UInt8 ParserResult := do
  if frmLen.toNat < frameLenMin then
    return ⟨invalidFrame, ppPacket, pLen⟩
  else
    let idx ← scan isStart 0 (frmLen.toNat - frameLenMin)
    if idx = frmLen.toNat - frameLenMin then
      return ⟨invalidFrame, ppPacket, pLen⟩
    else
      parseAt idx ppPacket pLen

/-- `PN532_FrameParser` -/
def frameParser (pFrame : Option (ℕ → UInt8)) (frmLen : UInt8) (ppPacket : OutParam (Option ℕ))
    (pLen : OutParam UInt8) : ParserResult :=
  match pFrame with
  | none => ⟨invalidFrame, ppPacket, pLen⟩
  | some m => (parseFrame frmLen ppPacket pLen).run m

/-- The offsets from `pFrame` that `PN532_FrameParser` dereferences, in order. -/
def frameParserReads (pFrame : Option (ℕ → UInt8)) (frmLen : UInt8)
    (ppPacket : OutParam (Option ℕ)) (pLen : OutParam UInt8) : List ℕ :=
  match pFrame with
  | none => []
  | some m => (parseFrame frmLen ppPacket pLen).reads m

/-! ## What the pieces compute -/

variable {m : ℕ → UInt8} {k : ℕ} {frmLen : UInt8}
variable {ppPacket : OutParam (Option ℕ)} {pLen : OutParam UInt8}

@[simp] lemma run_byteIs (i : ℕ) (v : UInt8) : (byteIs i v).run m = (m i == v) := by
  simp [byteIs]

@[simp] lemma reads_byteIs (i : ℕ) (v : UInt8) : (byteIs i v).reads m = [i] := by
  simp [byteIs]

lemma run_isStart : (isStart k).run m = true ↔ Holds m k startCode := by
  simp [isStart, startCode, holds_cons, Nat.add_assoc]

lemma run_isStart_false (h : ¬ Holds m k startCode) : (isStart k).run m = false :=
  Bool.eq_false_iff.mpr fun ht => h (run_isStart.mp ht)

lemma reads_isStart_lt {a : ℕ} (h : a ∈ (isStart k).reads m) : a < k + 3 := by
  simp only [isStart, reads_and, reads_byteIs, run_byteIs] at h
  split_ifs at h <;> simp at h <;> omega

/-- The loop adds up the bytes it passes and counts them in `idx`. -/
lemma run_sumLoop (p n i : ℕ) (sum idx : UInt8) :
    (sumLoop p n i sum idx).run m
      = (sum + (slice m (p + 6 + i) n).sum, idx + UInt8.ofNat n) := by
  induction n generalizing i sum idx with
  | zero => simp [sumLoop]
  | succ n ih =>
      have hofNat : UInt8.ofNat (n + 1) = 1 + UInt8.ofNat n := by
        rw [UInt8.ofNat_add, UInt8.add_comm]; rfl
      simp only [sumLoop, run_bind, run_get, ih, slice_succ, List.sum_cons, hofNat,
        Nat.add_assoc, UInt8.add_assoc]

lemma reads_sumLoop (p n i : ℕ) (sum idx : UInt8) :
    (sumLoop p n i sum idx).reads m = List.range' (p + 6 + i) n := by
  induction n generalizing i sum idx with
  | zero => simp [sumLoop]
  | succ n ih =>
      simp only [sumLoop, reads_bind, reads_get, run_get, ih, List.range'_succ,
        List.singleton_append, Nat.add_assoc]

/-- `checksum != v`, for a checksum computed as the two's complement. -/
lemma compl_add_one_ne {x v : UInt8} : ~~~x + 1 ≠ v ↔ x + v ≠ 0 := by
  rw [← UInt8.neg_eq_not_add]
  grind

lemma toNat_idx {len : UInt8} (hpos : 1 ≤ len.toNat) (hle : len.toNat ≤ dataBufMax) :
    (6 + UInt8.ofNat (len.toNat - 1)).toNat = 5 + len.toNat := by
  simp only [dataBufMax] at hle
  rw [UInt8.toNat_add, UInt8.toNat_ofNat', Nat.mod_eq_of_lt (a := len.toNat - 1) (by omega)]
  change (6 + (len.toNat - 1)) % 256 = 5 + len.toNat
  omega

lemma len_rejected_iff {len : UInt8} :
    (len = 0 ∨ len.toNat > dataBufMax) ↔ ¬ (1 ≤ len.toNat ∧ len.toNat ≤ dataBufMax) := by
  have hzero : len = 0 ↔ len.toNat = 0 := ⟨fun h => by rw [h]; rfl, fun h => UInt8.toNat_inj.mp h⟩
  rw [hzero]
  omega

/-- An unacceptable LEN or LCS ends the parse before anything behind them is read. -/
lemma parseInfo_rejected (h : ¬ LenOk m k) :
    (parseInfo k ppPacket pLen).run m = ⟨invalidFrame, ppPacket, pLen⟩ ∧
      ∀ a ∈ (parseInfo k ppPacket pLen).reads m, a < k + 5 := by
  rw [parseInfo, run_bind, run_get, reads_bind, reads_get, run_get]
  by_cases hlen : m (k + 3) = 0 ∨ (m (k + 3)).toNat > dataBufMax
  · rw [if_pos hlen, run_pure, reads_pure]
    exact ⟨rfl, by simp⟩
  · have hrange := not_not.mp (mt len_rejected_iff.mpr hlen)
    have hlcs : m (k + 3) + m (k + 4) ≠ 0 := fun hz => h ⟨hrange.1, hrange.2, hz⟩
    rw [if_neg hlen, run_bind, run_get, reads_bind, reads_get, run_get,
      if_pos (compl_add_one_ne.mpr hlcs), run_pure, reads_pure]
    exact ⟨rfl, by simp⟩

/-- An acceptable LEN and LCS hand over to the data checksum. -/
lemma parseInfo_accepted (h : LenOk m k) :
    (parseInfo k ppPacket pLen).run m = (parseData k (lenAt m k) ppPacket pLen).run m ∧
      (parseInfo k ppPacket pLen).reads m
        = [k + 3, k + 4] ++ (parseData k (lenAt m k) ppPacket pLen).reads m := by
  have hlen := mt len_rejected_iff.mp (not_not_intro ⟨h.1, h.2.1⟩)
  have hlcs := mt compl_add_one_ne.mp (not_not_intro h.2.2)
  rw [lenAt] at hlen
  rw [lenAt, lcsAt] at hlcs
  rw [parseInfo, run_bind, run_get, reads_bind, reads_get, run_get, if_neg hlen, run_bind, run_get,
    reads_bind, reads_get, run_get, if_neg hlcs]
  exact ⟨rfl, rfl⟩

/-- **The data checksum.**  The packet is reported exactly when the sum closes. -/
lemma run_parseData (h : LenOk m k) :
    (parseData k (lenAt m k) ppPacket pLen).run m =
      if InfoAt m k then ⟨tfiAt m k, ppPacket.set (some (k + 6)), pLen.set (lenAt m k - 1)⟩
      else ⟨invalidFrame, ppPacket, pLen⟩ := by
  have hsum : InfoAt m k ↔ m (k + 5) + (slice m (k + 6) ((lenAt m k).toNat - 1)).sum
      + m (k + (5 + (lenAt m k).toNat)) = 0 := by
    rw [InfoAt, slice_body h.1]
    simp only [h, tfiAt, List.sum_cons, List.sum_append, List.sum_nil, Nat.add_assoc,
      UInt8.add_assoc, UInt8.add_zero, true_and]
  rw [parseData, run_bind, run_get, run_bind, run_sumLoop]
  simp only [Nat.add_zero, toNat_idx h.1 h.2.1]
  rw [run_bind, run_get]
  by_cases hdcs : InfoAt m k
  · rw [if_neg (fun hne => compl_add_one_ne.mp hne (hsum.mp hdcs)), if_pos hdcs, run_bind,
      run_get, run_pure, tfiAt]
  · rw [if_pos (compl_add_one_ne.mpr fun hz => hdcs (hsum.mpr hz)), if_neg hdcs, run_pure]

/-- **The length and checksum part of the parser** accepts exactly what `InfoAt` describes, and
touches the out-parameters only then. -/
lemma run_parseInfo :
    (parseInfo k ppPacket pLen).run m =
      if InfoAt m k then ⟨tfiAt m k, ppPacket.set (some (k + 6)), pLen.set (lenAt m k - 1)⟩
      else ⟨invalidFrame, ppPacket, pLen⟩ := by
  by_cases h : LenOk m k
  · rw [(parseInfo_accepted h).1, run_parseData h]
  · rw [(parseInfo_rejected h).1, if_neg fun hinfo => h hinfo.1]

/-- LEN and LCS are `a` and `b`. -/
abbrev CodesAt (a b : UInt8) (m : ℕ → UInt8) (k : ℕ) : Prop := lenAt m k = a ∧ lcsAt m k = b

/-- LEN and LCS of an ACK frame. -/
abbrev AckAt : (ℕ → UInt8) → ℕ → Prop := CodesAt 0x00 0xFF

/-- LEN and LCS of a NACK frame. -/
abbrev NackAt : (ℕ → UInt8) → ℕ → Prop := CodesAt 0xFF 0x00

/-- LEN and LCS of an extended frame. -/
abbrev ExtAt : (ℕ → UInt8) → ℕ → Prop := CodesAt 0xFF 0xFF

/-- What the parser makes of the bytes behind a start code at `k`. -/
def verdict (m : ℕ → UInt8) (k : ℕ) (ppPacket : OutParam (Option ℕ)) (pLen : OutParam UInt8) :
    ParserResult :=
  if InfoAt m k then ⟨tfiAt m k, ppPacket.set (some (k + 6)), pLen.set (lenAt m k - 1)⟩
  else if AckAt m k then ⟨tfiAck, ppPacket, pLen⟩
  else if NackAt m k then ⟨tfiNack, ppPacket, pLen⟩
  else if ExtAt m k then ⟨notSupport, ppPacket, pLen⟩
  else ⟨invalidFrame, ppPacket, pLen⟩

/-- LEN of an accepted frame is not one of the special frames' codes. -/
lemma LenOk.not_special (h : LenOk m k) : ¬ AckAt m k ∧ ¬ NackAt m k ∧ ¬ ExtAt m k := by
  obtain ⟨hpos, hle, -⟩ := h
  refine ⟨?_, ?_, ?_⟩
  · intro ha
    simp [ha.1] at hpos
  · intro hn
    simp [hn.1, dataBufMax] at hle
  · intro he
    simp [he.1, dataBufMax] at hle

/-- The test for a special frame with codes `a`, `b`. -/
lemma run_codes {a b : UInt8} :
    ((byteIs (k + 3) a).and (byteIs (k + 4) b)).run m = true ↔ CodesAt a b m k := by
  simp [CodesAt, lenAt, lcsAt]

/-- **The parser behind the search.**  No accepted LEN is a special frame's code, so it does not
matter that the special frames are tested first. -/
lemma run_parseAt : (parseAt k ppPacket pLen).run m = verdict m k ppPacket pLen := by
  rw [parseAt, run_bind, verdict]
  by_cases ha : AckAt m k
  · rw [if_pos (run_codes.mpr ha), run_pure, if_neg fun h => h.1.not_special.1 ha, if_pos ha]
  · rw [if_neg (mt run_codes.mp ha), run_bind, if_neg ha]
    by_cases hn : NackAt m k
    · rw [if_pos (run_codes.mpr hn), run_pure, if_neg fun h => h.1.not_special.2.1 hn,
        if_pos hn]
    · rw [if_neg (mt run_codes.mp hn), run_bind, if_neg hn]
      by_cases he : ExtAt m k
      · rw [if_pos (run_codes.mpr he), run_pure, if_neg fun h => h.1.not_special.2.2 he,
          if_pos he]
      · rw [if_neg (mt run_codes.mp he), run_parseInfo, if_neg he]

lemma run_search (h : FirstOccurrence startCode m k) (hk : k + 6 ≤ frmLen.toNat) :
    (scan isStart 0 (frmLen.toNat - frameLenMin)).run m = k :=
  run_scan_hit (Nat.zero_le k) (by simp only [frameLenMin]; omega) (run_isStart.mpr h.1)
    fun j _ hj => run_isStart_false (h.2 j hj)

lemma run_search_miss (h : ∀ k, k + 6 ≤ frmLen.toNat → ¬ Holds m k startCode)
    (hmin : frameLenMin ≤ frmLen.toNat) :
    (scan isStart 0 (frmLen.toNat - frameLenMin)).run m = frmLen.toNat - frameLenMin := by
  simp only [frameLenMin] at hmin ⊢
  have hscan : (scan isStart 0 (frmLen.toNat - 5)).run m = 0 + (frmLen.toNat - 5) :=
    run_scan_miss fun j _ hj => run_isStart_false (h j (by omega))
  rw [hscan, Nat.zero_add]

/-- **The parser behind a start code it finds.** -/
theorem frameParser_found (h : FirstOccurrence startCode m k) (hk : k + 6 ≤ frmLen.toNat) :
    frameParser (some m) frmLen ppPacket pLen = verdict m k ppPacket pLen := by
  have hmin : ¬ frmLen.toNat < frameLenMin := by simp only [frameLenMin]; omega
  have hfound : k ≠ frmLen.toNat - frameLenMin := by simp only [frameLenMin]; omega
  rw [frameParser, parseFrame, if_neg hmin, run_bind, run_search h hk, if_neg hfound, run_parseAt]

/-- **The parser on a buffer with no start code** that leaves room for a frame. -/
theorem frameParser_not_found (h : ∀ k, k + 6 ≤ frmLen.toNat → ¬ Holds m k startCode) :
    frameParser (some m) frmLen ppPacket pLen = ⟨invalidFrame, ppPacket, pLen⟩ := by
  rw [frameParser, parseFrame]
  split_ifs with hmin
  · rfl
  · rw [run_bind, run_search_miss h (by omega), if_pos rfl, run_pure]

/-- One of the two happens on every buffer. -/
lemma found_or_not_found (m : ℕ → UInt8) (frmLen : UInt8) :
    (∃ k, FirstOccurrence startCode m k ∧ k + 6 ≤ frmLen.toNat)
      ∨ ∀ k, k + 6 ≤ frmLen.toNat → ¬ Holds m k startCode := by
  by_cases h : ∃ k, k + 6 ≤ frmLen.toNat ∧ Holds m k startCode
  · obtain ⟨k, hk, hocc⟩ := h
    obtain ⟨j, hj, hfirst⟩ := exists_firstAt_le (P := fun j => Holds m j startCode) hocc
    exact .inl ⟨j, hfirst, by omega⟩
  · exact .inr fun k hk hocc => h ⟨k, hk, hocc⟩

/-- The codes the parser returns for everything that is not an information frame. -/
def specialCodes : List UInt8 := [tfiAck, tfiNack, notSupport, invalidFrame]

/-- **Any other code is the TFI of an information frame**, which stands behind the first start
code. -/
theorem info_of_code (h : (frameParser (some m) frmLen ppPacket pLen).code ∉ specialCodes) :
    ∃ k, FirstOccurrence startCode m k ∧ k + 6 ≤ frmLen.toNat ∧ InfoAt m k ∧
      frameParser (some m) frmLen ppPacket pLen
        = ⟨tfiAt m k, ppPacket.set (some (k + 6)), pLen.set (lenAt m k - 1)⟩ := by
  rcases found_or_not_found m frmLen with ⟨k, hfirst, hk⟩ | hnone
  · refine ⟨k, hfirst, hk, ?_⟩
    rw [frameParser_found hfirst hk, verdict] at h ⊢
    split_ifs at h ⊢ with hinfo
    · exact ⟨hinfo, rfl⟩
    all_goals simp [specialCodes] at h
  · rw [frameParser_not_found hnone] at h
    simp [specialCodes] at h

/-- **When the parser returns one of a set of codes**, none of which is an error code. -/
lemma code_iff {Q : UInt8 → Prop} (hext : ¬ Q notSupport) (hinvalid : ¬ Q invalidFrame) :
    Q (frameParser (some m) frmLen ppPacket pLen).code ↔
      ∃ k, FirstOccurrence startCode m k ∧ k + 6 ≤ frmLen.toNat ∧
        (AckAt m k ∧ Q tfiAck ∨ NackAt m k ∧ Q tfiNack ∨ InfoAt m k ∧ Q (tfiAt m k)) := by
  rcases found_or_not_found m frmLen with ⟨k, hfirst, hk⟩ | hnone
  · have hverdict : Q (verdict m k ppPacket pLen).code ↔
        AckAt m k ∧ Q tfiAck ∨ NackAt m k ∧ Q tfiNack ∨ InfoAt m k ∧ Q (tfiAt m k) := by
      rw [verdict]
      split_ifs with hinfo hack hnack hexta
      · obtain ⟨hack, hnack, -⟩ := hinfo.1.not_special
        tauto
      · have hnack : ¬ NackAt m k := by simp [hack]
        tauto
      · tauto
      · tauto
      · tauto
    rw [frameParser_found hfirst hk, hverdict]
    constructor
    · intro h
      exact ⟨k, hfirst, hk, h⟩
    · rintro ⟨j, hj, -, h⟩
      rwa [hfirst.unique hj]
  · rw [frameParser_not_found hnone]
    constructor
    · intro h
      exact absurd h hinvalid
    · rintro ⟨k, hfirst, hk, -⟩
      exact absurd hfirst.1 (hnone k hk)

/-- The first start code among the first `n` bytes is followed by the codes `a`, `b`, or by an
information frame whose TFI is in `P`. -/
def Shows (a b : UInt8) (P : UInt8 → Prop) (m : ℕ → UInt8) (n : ℕ) : Prop :=
  ∃ k, FirstOccurrence startCode m k ∧ k + 6 ≤ n ∧ (CodesAt a b m k ∨ InfoAt m k ∧ P (tfiAt m k))

/-- What the parser reports with the code of an ACK: an ACK frame, or an information frame whose TFI
happens to be that code. -/
abbrev ShowsAck : (ℕ → UInt8) → ℕ → Prop := Shows 0x00 0xFF (· = tfiAck)

/-- **When the parser returns the code of an ACK.** -/
theorem code_eq_ack_iff :
    (frameParser (some m) frmLen ppPacket pLen).code = tfiAck ↔ ShowsAck m frmLen.toNat := by
  have hiff := @code_iff m frmLen ppPacket pLen (· = tfiAck) (by decide) (by decide)
  have hnack : ¬ tfiNack = tfiAck := by decide
  simp only [hnack, and_true, and_false, false_or] at hiff
  exact hiff

lemma LenOk.toNat_sub_one (h : LenOk m k) : (lenAt m k - 1).toNat = (lenAt m k).toNat - 1 :=
  UInt8.toNat_sub_of_le _ _ (UInt8.le_iff_toNat_le.mpr h.1)

/-- **`PN532_FrameParser` accepts exactly the frames it documents.**  Behind the first start code,
an information frame whose LEN, LCS and DCS are right is reported with its TFI, packet and packet
length; the three special frames give their codes, everything else `PN532_INVALID_FRAME`, and on
those paths neither cell is written. -/
theorem frameParser_grammar (h : FirstOccurrence startCode m k) (hk : k + 6 ≤ frmLen.toNat) :
    (1 ≤ (m (k + 3)).toNat ∧ (m (k + 3)).toNat ≤ 32 ∧ m (k + 3) + m (k + 4) = 0 ∧
        (slice m (k + 5) ((m (k + 3)).toNat + 1)).sum = 0 →
      frameParser (some m) frmLen ppPacket pLen
        = ⟨m (k + 5), ppPacket.set (some (k + 6)), pLen.set (m (k + 3) - 1)⟩) ∧
    (¬ (1 ≤ (m (k + 3)).toNat ∧ (m (k + 3)).toNat ≤ 32 ∧ m (k + 3) + m (k + 4) = 0 ∧
        (slice m (k + 5) ((m (k + 3)).toNat + 1)).sum = 0) →
      frameParser (some m) frmLen ppPacket pLen
        = ⟨if m (k + 3) = 0x00 ∧ m (k + 4) = 0xFF then tfiAck
           else if m (k + 3) = 0xFF ∧ m (k + 4) = 0x00 then tfiNack
           else if m (k + 3) = 0xFF ∧ m (k + 4) = 0xFF then notSupport
           else invalidFrame, ppPacket, pLen⟩) := by
  rw [frameParser_found h hk]
  constructor
  · rintro ⟨hpos, hle, hlcs, hsum⟩
    rw [verdict, if_pos ⟨⟨hpos, hle, hlcs⟩, hsum⟩, tfiAt, lenAt]
  · intro hnot
    have hinfo : ¬ InfoAt m k := fun hi => hnot ⟨hi.1.1, hi.1.2.1, hi.1.2.2, hi.2⟩
    rw [verdict, if_neg hinfo]
    split_ifs <;> rfl

/-- The version response of a PN532 behind two bytes of junk. -/
theorem frameParser_grammar_version :
    frameParser
        (some (listMem [0x00, 0x00, 0x00, 0x00, 0xFF, 0x06, 0xFA, 0xD5, 0x03, 0x32, 0x01, 0x06,
          0x07, 0xE8] fun _ => 0)) 14 (some none) (some 0)
      = ⟨0xD5, some (some 8), some 5⟩ :=
  (frameParser_grammar (k := 2) ⟨by decide, by decide⟩ (by decide)).1 (by decide)

end PN532

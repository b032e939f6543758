import MuaHello.Lib.Progress
import MuaHello.SndWav.Record
import MuaHello.SndWav.Stream

/-!
# Transfers that end

`record_file` and `play_stream` speak of runs that return.  Here are environments in which
`SNDWAV_Record` and `SNDWAV_Play` do: ALSA may split its transfers in any way and fail with the
errors the loops go on after, as long as it moves a frame often enough (`transfers_return`).
-/

namespace SndWav

/-- The answer delivers a frame. -/
def Given.pays {n : ℕ} : Given n → Bool
  | .frames fs => !fs.isEmpty
  | .error _ => false

/-- The answer takes a frame. -/
def Taken.pays : Taken → Bool
  | .frames n => decide (0 < n)
  | .error _ => false

variable {w : ℕ} {c : Container w}

lemma Given.ret_pos {n request : ℕ} {g : Given n} (h : g.pays = true) (hrequest : 0 < request) :
    0 < g.ret request := by
  cases g with
  | frames fs =>
      cases fs with
      | nil => simp [pays] at h
      | cons f fs =>
          rw [ret, taken, List.length_take]
          simp only [List.length_cons]
          omega
  | error e => simp [pays] at h

/-! ## Recording -/

section Record

variable {u : Recorder c} {s : Recorder c × ℤ}

lemma readPcm_returns {rcount : ℕ}
    (htolerated : ∀ g ∈ u.reads, ∀ request, Tolerated (g.ret request))
    (hcount : c.chunkSize ≤ u.reads.countP Given.pays) :
    ∃ v, readPcm c u rcount = .returned ((rcount : ℤ).bmod (2 ^ w), v) ∧ v.writes = u.writes ∧
      v.reads <:+ u.reads ∧
      u.reads.countP Given.pays ≤ v.reads.countP Given.pays + c.chunkSize := by
  have hsize : (if rcount ≠ c.chunkSize then c.chunkSize else rcount) = c.chunkSize := by
    split_ifs with h
    · rfl
    · exact not_not.mp h
  have hturn : ∀ g t n, (∀ request, Tolerated (g.ret request)) → 0 < n →
      t.world.writes = u.writes → (readPcmTurn c g t n).Advances
        (fun t _ => t.world.writes = u.writes) (fun t => t.world.writes = u.writes) n g.pays := by
    intro g t n hg hn hinv
    rw [readPcmTurn, if_neg (react_ne_exit (hg n))]
    split_ifs with hpos
    · exact ⟨hinv, fun _ => by omega⟩
    · exact ⟨hinv, fun hpays => absurd (Given.ret_pos hpays hn) hpos⟩
  obtain ⟨t, reads, hrun, hwrites, hsuffix, hleft⟩ :=
    @transfer_returns _ _ (readPcmTurn c) ⟨u, 0, 0⟩ _ _ _ _ _ _ hturn (fun _ h => h) rfl htolerated
      hcount
  rw [readPcm]
  simp only [hsize]
  rw [hrun]
  exact ⟨_, rfl, hwrites, hsuffix, hleft⟩

lemma Capture.write_full {n : ℕ} {u : Capture n} {ws : List WriteCall} (h : u.writes = .full :: ws)
    (data : List UInt8) : u.write data
      = .returned ((data.length : ℤ), { u with file := u.file ++ data, writes := ws }) := by
  rw [write, h]
  rfl

/-- The environment has answers for the rounds that are missing. -/
structure Supplied (c : Container w) (s : Recorder c × ℤ) : Prop where
  tolerated : ∀ g ∈ s.1.reads, ∀ request, Tolerated (g.ret request)
  full : ∀ x ∈ s.1.writes, x = .full
  rounds : ∃ m k : ℕ, s.2 = m ∧ m < 2 ^ 32 ∧ m ≤ k * c.chunkBytes ∧
    k * c.chunkSize ≤ s.1.reads.countP Given.pays ∧ k ≤ s.1.writes.length

lemma chunkBytes_pos (c : Container w) : 0 < c.chunkBytes := by
  rw [c.chunkBytes_frames]
  exact Nat.mul_pos c.chunkSize_pos c.frameBytes_pos

/-- **A round** that is supplied returns. -/
lemma recordBody_returns (h : Supplied c s) :
    ∃ t more, recordBody c s = .returned (t, more) ∧
      if more then Supplied c t ∧ t.2.toNat < s.2.toNat else True := by
  obtain ⟨htolerated, hfull, m, k, hm, hlt, hle, hreads, hwrites⟩ := h
  obtain ⟨u, rest⟩ := s
  simp only at htolerated hfull hm hreads hwrites
  subst hm
  have hchunk := chunkBytes_pos c
  by_cases hmore : 0 < m
  · cases k with
    | zero => omega
    | succ k =>
        rw [Nat.succ_mul] at hle hreads
        obtain ⟨frameSize, hsize, hbody⟩ := recordBody_more (c := c) (u := u) hlt hmore
        obtain ⟨v, hread, hsame, hsuffix, hleft⟩ :=
          @readPcm_returns w c u frameSize htolerated (by omega)
        obtain ⟨x, ws, hws⟩ := List.exists_cons_of_length_pos (by omega : 0 < u.writes.length)
        have hx : x = .full := hfull x (by rw [hws]; exact List.mem_cons_self)
        subst hx
        have hwrite := Capture.write_full (hsame.trans hws) (slice v.buf 0 (min m c.chunkBytes))
        rw [length_slice] at hwrite
        refine ⟨({ v with file := v.file ++ slice v.buf 0 (min m c.chunkBytes), writes := ws },
          (m : ℤ) - (min m c.chunkBytes : ℕ)), true, ?_, ?_⟩
        · rw [hbody, hread, Outcome.returned_bind]
          simp only
          rw [recordChunk, toSize_bmod hsize, if_neg (not_not_intro rfl), hwrite,
            Outcome.returned_bind]
          simp only
          rw [toSize_natCast c.wide (by omega), if_neg (not_not_intro rfl)]
          rfl
        · rw [if_pos rfl]
          refine ⟨⟨fun g hg => htolerated g (hsuffix.subset hg), fun y hy => hfull y ?_,
            m - min m c.chunkBytes, k, ?_, by omega, by omega, ?_, ?_⟩, ?_⟩
          · rw [hws]
            exact List.mem_cons_of_mem _ hy
          · simp only
            omega
          · simp only
            omega
          · rw [hws, List.length_cons] at hwrites
            exact Nat.le_of_succ_le_succ hwrites
          · simp only
            omega
  · have hdone : ¬ ((m : ℕ) : ℤ) > 0 := by omega
    rw [recordBody, if_neg hdone]
    exact ⟨_, false, rfl, trivial⟩

lemma writeHeader_full {n : ℕ} {u : Capture n} {ws : List WriteCall} {wav : WavContainer}
    (h : u.writes = .full :: .full :: .full :: ws) (hvalid : checkValid wav = 0) :
    ∃ v, writeHeader u wav = .returned (0, v) ∧ v.reads = u.reads ∧ v.writes = ws := by
  rw [writeHeader, hvalid, if_neg (lt_irrefl 0), Capture.write_full h, Outcome.returned_bind]
  simp only [WavHeader.length_bytes, Nat.cast_ofNat, ne_eq, not_true_eq_false, if_false]
  rw [Capture.write_full rfl, Outcome.returned_bind]
  simp only [WavFmt.length_bytes, Nat.cast_ofNat, not_true_eq_false, if_false]
  rw [Capture.write_full rfl, Outcome.returned_bind]
  simp only [WavChunkHeader.length_bytes, Nat.cast_ofNat, not_true_eq_false, if_false]
  exact ⟨_, rfl, rfl, rfl⟩

/-- **`SNDWAV_Record` returns** if there are answers for `k` chunks. -/
lemma record_returns {wav : WavContainer} {k fuel : ℕ} (hvalid : checkValid wav = 0)
    (htolerated : ∀ g ∈ u.reads, ∀ request, Tolerated (g.ret request))
    (hfull : ∀ x ∈ u.writes, x = .full) (hk : wav.chunk.length.toNat ≤ k * c.chunkBytes)
    (hreads : k * c.chunkSize ≤ u.reads.countP Given.pays) (hwrites : k + 3 ≤ u.writes.length)
    (hfuel : wav.chunk.length.toNat < fuel) : ∃ v, record c fuel wav u = .returned v := by
  have hL : wav.chunk.length.toNat < 2 ^ 32 := wav.chunk.length.toNat_lt
  obtain ⟨x, y, z, ws, hws⟩ : ∃ x y z ws, u.writes = x :: y :: z :: ws := by
    match hu : u.writes, hwrites with
    | x :: y :: z :: ws, _ => exact ⟨x, y, z, ws, rfl⟩
  rw [hws] at hfull hwrites
  simp only [List.forall_mem_cons] at hfull
  obtain ⟨rfl, rfl, rfl, hfull⟩ := hfull
  obtain ⟨v, hhead, hsame, hrest⟩ := @writeHeader_full _ u ws wav hws hvalid
  have hsupplied : Supplied c (v, (wav.chunk.length.toNat : ℤ)) := by
    refine ⟨by rwa [hsame], by rwa [hrest], _, k, rfl, hL, hk, by rwa [hsame], ?_⟩
    rw [hrest]
    simp only [List.length_cons] at hwrites
    omega
  obtain ⟨s, hloop, -⟩ := repeatLoop_returns (Supplied c) (fun _ => True) (fun s => s.2.toNat)
    (fun _ h => recordBody_returns h) hsupplied (by simpa using hfuel)
  rw [record, hhead, Outcome.returned_bind]
  simp only
  rw [if_neg (lt_irrefl 0), hloop]
  exact ⟨_, rfl⟩

end Record

/-! ## Playing -/

section Play

variable {silence : Silence c} {u v : Playback}

/-- The environment a file is played in: no `read` fails, and ALSA fails only with errors the loop
goes on after. -/
structure Willing (u : Playback) : Prop where
  reads : ∀ r ∈ u.reads, r ≠ .failed
  writes : ∀ t ∈ u.writes, ∀ request, Tolerated (t.ret request)

lemma saveRead_returns {off count : ℕ} (hreads : ∀ r ∈ u.reads, r ≠ .failed)
    (hcount : count ≤ u.reads.length) :
    ∃ res v, saveRead u off count = .returned (res, v) ∧ 0 ≤ res ∧ v.reads <:+ u.reads ∧
      u.reads.length ≤ v.reads.length + count := by
  have hturn : ∀ r (s : Cursor Playback) n, r ≠ .failed → 0 < n → 0 ≤ s.result →
      (saveReadTurn r s n).Advances (fun s _ => 0 ≤ s.result) (fun s => 0 ≤ s.result) n true := by
    intro r s n hr hn hres
    cases r with
    | failed => exact absurd rfl hr
    | bytes k =>
        rw [saveReadTurn, Playback.read]
        simp only
        split_ifs
        · exact hres
        · omega
        · omega
        · exact ⟨by simp only; omega, fun _ => by omega⟩
  obtain ⟨s, reads, hrun, hres, hsuffix, hleft⟩ :=
    @transfer_returns _ _ saveReadTurn ⟨u, off, 0⟩ count u.reads _ _ _ (fun _ => true) hturn
      (fun _ h => h) le_rfl hreads (by simpa using hcount)
  simp only [List.countP_true] at hleft
  rw [saveRead, hrun]
  exact ⟨_, _, rfl, hres, hsuffix, hleft⟩

/-- The reads that one chunk can take. -/
def readsPerChunk (c : Container w) : ℕ := c.chunkBytes * c.chunkBytes + c.chunkBytes

lemma refillBody_returns {written : ℤ} {todo : ℕ} {s : Playback × ℤ} {l : ℕ}
    (hsmall : c.chunkBytes < 2 ^ 28) (h : Filling c u todo s)
    (hreads : ∀ r ∈ s.1.reads, r ≠ .failed) (hload : s.2 = l)
    (hcount : c.chunkBytes ≤ s.1.reads.length) :
    ∃ t more, refillBody c (written + todo) written s = .returned (t, more) ∧
      t.1.reads <:+ s.1.reads ∧ s.1.reads.length ≤ t.1.reads.length + c.chunkBytes ∧
      (more = true → s.2 < t.2) := by
  obtain ⟨l', hl, hle, -⟩ := h
  obtain ⟨v, load⟩ := s
  simp only at hreads hload hcount hl ⊢
  subst hload
  have hl' : l = l' := Int.ofNat_inj.mp hl
  subst hl'
  have hn : (if written + todo - written > (c.chunkBytes : ℤ) then (c.chunkBytes : ℤ)
      else written + todo - written) - l = ((min todo c.chunkBytes - l : ℕ) : ℤ) := by
    split_ifs <;> omega
  rw [refillBody]
  simp only [hn]
  by_cases hzero : min todo c.chunkBytes - l = 0
  · rw [hzero, if_pos Int.natCast_zero]
    exact ⟨(v, l), false, rfl, List.suffix_refl _, Nat.le_add_right _ _, by simp⟩
  · obtain ⟨res, v', hrun, hres, hsuffix, hleft⟩ :=
      @saveRead_returns v l (min todo c.chunkBytes - l) hreads (by omega)
    have hbound : res ≤ c.chunkBytes := by
      rcases saveRead_spec (by omega : l + _ ≤ c.chunkBytes) (by omega) hrun with
        rfl | ⟨k, rfl, hk, -⟩ <;> omega
    obtain ⟨k, rfl⟩ := Int.eq_ofNat_of_zero_le hres
    rw [if_neg (by omega), Int.toNat_natCast, toSize_natCast c.wide (by omega), hrun,
      Outcome.returned_bind]
    simp only [toInt32_natCast (by omega : k < 2 ^ 31)]
    rw [if_neg (by omega)]
    split_ifs with hk
    · exact ⟨(v', l), false, rfl, hsuffix, by simp only; omega, by simp⟩
    · refine ⟨_, _, rfl, hsuffix, by simp only; omega, fun _ => ?_⟩
      rw [← Nat.cast_add, toInt32_natCast (by omega)]
      simp only
      omega

/-- What is left of `R` reads when `l` bytes of a chunk are loaded. -/
def Stocked (c : Container w) (u : Playback) (todo R : ℕ) (s : Playback × ℤ) : Prop :=
  Filling c u todo s ∧ s.1.reads <:+ u.reads ∧
    ∃ l : ℕ, s.2 = l ∧ l ≤ c.chunkBytes ∧ R ≤ s.1.reads.length + l * c.chunkBytes

/-- The refill loop returns: every round that goes on has loaded a byte. -/
lemma refill_returns {written : ℤ} {todo fuel : ℕ} (hsmall : c.chunkBytes < 2 ^ 28)
    (hreads : ∀ r ∈ u.reads, r ≠ .failed) (hstock : readsPerChunk c ≤ u.reads.length)
    (hfuel : c.chunkBytes < fuel) :
    ∃ s, repeatLoop (refillBody c (written + todo) written) fuel (u, 0) = .returned s ∧
      s.1.reads <:+ u.reads ∧ u.reads.length ≤ s.1.reads.length + readsPerChunk c := by
  refine repeatLoop_returns (Stocked c u todo u.reads.length)
    (fun s => s.1.reads <:+ u.reads ∧ u.reads.length ≤ s.1.reads.length + readsPerChunk c)
    (fun s => c.chunkBytes - s.2.toNat) ?_
    ⟨⟨0, rfl, Nat.zero_le _, Loaded.refl⟩, List.suffix_refl _, 0, rfl, Nat.zero_le _, by simp⟩
    (by simpa using hfuel)
  rintro s ⟨hfill, hsuffix, l, hl, hle, hleft⟩
  have hmul : l * c.chunkBytes ≤ c.chunkBytes * c.chunkBytes := Nat.mul_le_mul_right _ hle
  rw [readsPerChunk] at hstock ⊢
  obtain ⟨t, more, hround, hsuffix', hleft', hmore⟩ :=
    @refillBody_returns _ _ _ written _ _ _ hsmall hfill (fun r hr => hreads r (hsuffix.subset hr))
      hl (by omega)
  refine ⟨t, more, hround, ?_⟩
  have hkeeps := refillBody_keeps hsmall hfill hround
  cases more with
  | true =>
      have hgrown := hmore rfl
      have hfill' : Filling c u todo t := hkeeps
      obtain ⟨l', hl', hle', -⟩ := hfill'
      have hstep : (l + 1) * c.chunkBytes ≤ l' * c.chunkBytes :=
        Nat.mul_le_mul_right _ (by omega)
      rw [Nat.succ_mul] at hstep
      have hrank : c.chunkBytes - t.2.toNat < c.chunkBytes - s.2.toNat := by omega
      exact ⟨⟨hkeeps, hsuffix'.trans hsuffix, l', hl', by omega, by omega⟩, hrank⟩
  | false => exact ⟨hsuffix'.trans hsuffix, by omega⟩

lemma Taken.ret_pos {t : Taken} {request : ℕ} (h : t.pays = true) (hrequest : 0 < request) :
    0 < t.ret request := by
  cases t with
  | frames n =>
      have hn : 0 < n := by simpa [pays] using h
      rw [ret]
      omega
  | error e => simp [pays] at h

/-- The loop of `SNDWAV_WritePcm` returns. -/
lemma writeLoop_returns {n : ℕ} (htolerated : ∀ t ∈ u.writes, ∀ request, Tolerated (t.ret request))
    (hcount : n ≤ u.writes.countP Taken.pays) (buf : ℕ → UInt8) (touched : List (ℕ × ℕ)) :
    ∃ s writes, transfer (writePcmTurn c) u.writes ⟨{ u with buf, touched }, 0, 0⟩ n
        = .returned (s, writes) ∧ s.world.reads = u.reads ∧ writes <:+ u.writes ∧
      u.writes.countP Taken.pays ≤ writes.countP Taken.pays + n := by
  have hturn : ∀ t (s : Cursor Playback) n, (∀ request, Tolerated (t.ret request)) → 0 < n →
      s.world.reads = u.reads → (writePcmTurn c t s n).Advances
        (fun s _ => s.world.reads = u.reads) (fun s => s.world.reads = u.reads) n t.pays := by
    intro t s n ht hn hinv
    rw [writePcmTurn, if_neg (react_ne_exit (ht n))]
    split_ifs with hpos
    · exact ⟨hinv, fun _ => by omega⟩
    · exact ⟨hinv, fun hpays => absurd (Taken.ret_pos hpays hn) hpos⟩
  obtain ⟨s, writes, hrun, hreads, hsuffix, hleft⟩ :=
    @transfer_returns _ _ (writePcmTurn c) ⟨{ u with buf, touched }, 0, 0⟩ n u.writes _ _ _ _ hturn
      (fun _ h => h) rfl htolerated hcount
  exact ⟨s, writes, hrun, hreads, hsuffix, hleft⟩

lemma writePcm_returns {wcount : ℕ} (hwcount : wcount ≤ c.chunkSize)
    (htolerated : ∀ t ∈ u.writes, ∀ request, Tolerated (t.ret request))
    (hcount : c.chunkSize ≤ u.writes.countP Taken.pays) :
    ∃ res v, writePcm c silence u wcount = .returned (res, v) ∧ v.reads = u.reads ∧
      v.writes <:+ u.writes ∧
      u.writes.countP Taken.pays ≤ v.writes.countP Taken.pays + c.chunkSize := by
  rw [writePcm]
  by_cases hpad : wcount < c.chunkSize
  · simp only [if_pos hpad]
    obtain ⟨s, writes, hrun, hreads, hsuffix, hleft⟩ :=
      @writeLoop_returns w c u c.chunkSize htolerated hcount _ _
    rw [hrun]
    exact ⟨_, _, rfl, hreads, hsuffix, hleft⟩
  · have hfull : wcount = c.chunkSize := by omega
    subst hfull
    simp only [if_neg hpad]
    obtain ⟨s, writes, hrun, hreads, hsuffix, hleft⟩ :=
      @writeLoop_returns w c u c.chunkSize htolerated hcount u.buf u.touched
    rw [hrun]
    exact ⟨_, _, rfl, hreads, hsuffix, hleft⟩

/-- The environment has answers for the rounds that are missing. -/
structure Provided (c : Container w) (N : ℕ) (F : List UInt8) (s : Playback × ℤ) : Prop where
  streaming : Streaming c N F s
  willing : Willing s.1
  rounds : ∃ k : ℕ, (N : ℤ) ≤ s.2 + (k * c.chunkBytes : ℕ) ∧
    k * readsPerChunk c ≤ s.1.reads.length ∧ k * c.chunkSize ≤ s.1.writes.countP Taken.pays

/-- The second half of a round returns. -/
lemma playChunk_returns {written : ℤ} {l : ℕ} (hsmall : c.chunkBytes < 2 ^ 28)
    (hl : l ≤ c.chunkBytes) (hwilling : Willing u)
    (hcount : c.chunkSize ≤ u.writes.countP Taken.pays) :
    ∃ t more, playChunk c silence written u (toFrames c l) = .returned (t, more) ∧
      t.1.reads = u.reads ∧ t.1.writes <:+ u.writes ∧
      u.writes.countP Taken.pays ≤ t.1.writes.countP Taken.pays + c.chunkSize ∧
      (more = true → t.2 = written + c.chunkBytes) := by
  have hfle : l / c.frameBytes ≤ c.chunkSize :=
    Nat.div_le_of_le_mul (by rw [Nat.mul_comm, ← c.chunkBytes_frames]; exact hl)
  have hchunk : c.chunkSize ≤ c.chunkBytes := by
    rw [c.chunkBytes_frames]
    exact Nat.le_mul_of_pos_right _ c.frameBytes_pos
  obtain ⟨res, v, hrun, hreads, hsuffix, hleft⟩ :=
    @writePcm_returns w c silence u (l / c.frameBytes) hfle hwilling.writes hcount
  obtain ⟨rfl, -⟩ := writePcm_spec hsmall hfle hrun
  rw [toFrames_natCast hsmall hl, playChunk, toSize_natCast c.wide (by omega), hrun,
    Outcome.returned_bind]
  simp only [toInt32_natCast (by omega : c.chunkSize < 2 ^ 31)]
  split_ifs
  · exact ⟨(v, written), false, rfl, hreads, hsuffix, hleft, by simp⟩
  · refine ⟨_, true, rfl, hreads, hsuffix, hleft, fun _ => ?_⟩
    rw [toSize_natCast c.wide (by omega), c.byteOffset_eq le_rfl, ← c.chunkBytes_frames,
      toInt32_natCast (by omega)]

/-- **A round** that is provided for returns. -/
lemma playBody_returns {fuel N : ℕ} {F : List UInt8} {s : Playback × ℤ}
    (hsmall : c.chunkBytes < 2 ^ 28) (hfuel : c.chunkBytes < fuel) (h : Provided c N F s) :
    ∃ t more, playBody c silence fuel N s = .returned (t, more) ∧
      if more then Provided c N F t ∧ ((N : ℤ) - t.2).toNat < ((N : ℤ) - s.2).toNat else True := by
  obtain ⟨hstreaming, hwilling, k, hk, hreads, hwrites⟩ := h
  obtain ⟨u, written⟩ := s
  simp only at hwilling hk hreads hwrites
  have hchunk := chunkBytes_pos c
  by_cases hmore : written < N
  · cases k with
    | zero => omega
    | succ k =>
        rw [Nat.succ_mul] at hk hreads hwrites
        obtain ⟨todo, htodo⟩ := Int.eq_ofNat_of_zero_le (by omega : 0 ≤ (N : ℤ) - written)
        have hcount : (N : ℤ) = written + todo := by omega
        obtain ⟨⟨v, load⟩, hrefill, hsuffix, hleft⟩ :=
          @refill_returns _ _ _ written todo _ hsmall hwilling.reads (by omega) hfuel
        obtain ⟨l, hl, hmin, hloaded⟩ := refill_spec hsmall hrefill
        simp only at hl hmin hloaded hsuffix hleft
        subst hl
        have hwilling' : Willing v := by
          refine ⟨fun r hr => hwilling.reads r (hsuffix.subset hr), ?_⟩
          rw [hloaded.writes]
          exact hwilling.writes
        obtain ⟨t, more, hplay, hsame, htaken, hpaid, hnext⟩ :=
          @playChunk_returns _ _ silence _ written _ hsmall (by omega : l ≤ _) hwilling'
            (by rw [hloaded.writes]; omega)
        have hround : playBody c silence fuel N (u, written) = .returned (t, more) := by
          rw [playBody, if_pos hmore, hcount, hrefill, Outcome.returned_bind]
          exact hplay
        refine ⟨t, more, hround, ?_⟩
        have hkeeps := playBody_keeps hsmall hstreaming hround
        cases more with
        | false => trivial
        | true =>
            have hwritten := hnext rfl
            rw [hloaded.writes] at htaken hpaid
            rw [if_pos rfl]
            refine ⟨⟨hkeeps, ⟨fun r hr => ?_, fun x hx => ?_⟩, k, ?_, ?_, ?_⟩, ?_⟩
            · rw [hsame] at hr
              exact hwilling'.reads r hr
            · exact hwilling.writes x (htaken.subset hx)
            · omega
            · rw [hsame]
              omega
            · omega
            · simp only
              omega
  · rw [playBody, if_neg hmore]
    exact ⟨_, false, rfl, trivial⟩

/-- **`SNDWAV_Play` returns** if there are answers for `k` chunks. -/
lemma play_returns {N : UInt32} {k fuel : ℕ} (hsmall : c.chunkBytes < 2 ^ 28)
    (hplayed : u.played = []) (htouched : u.touched = []) (hwilling : Willing u)
    (hk : N.toNat ≤ k * c.chunkBytes) (hreads : k * readsPerChunk c ≤ u.reads.length)
    (hwrites : k * c.chunkSize ≤ u.writes.countP Taken.pays) (hchunk : c.chunkBytes < fuel)
    (hfuel : N.toNat < fuel) : ∃ v, play c silence fuel N u = .returned v := by
  have hstart : Provided c N.toNat u.file (u, 0) := by
    refine ⟨⟨0, by simp, by simp, by simp, by simp [hplayed], ?_⟩, hwilling, k, by omega, hreads,
      hwrites⟩
    intro r hr
    rw [htouched] at hr
    cases hr
  obtain ⟨s, hloop, -⟩ := repeatLoop_returns (Provided c N.toNat u.file) (fun _ => True)
    (fun s => ((N.toNat : ℤ) - s.2).toNat)
    (fun _ h => @playBody_returns _ _ silence _ _ _ _ hsmall hchunk h) hstart (by simpa using hfuel)
  rw [play, hloop]
  exact ⟨_, rfl⟩

end Play

/-- **Recording and playing end.**  For every valid header (with any other `SNDWAV_Record` exits),
every file and every container whose chunk has fewer than `2 ^ 28` bytes there is a number such that
`SNDWAV_Record` and `SNDWAV_Play` return whenever they get that many answers that move data, however
little each moves and whatever errors the loops go on after come in between, if every `write` is
full, no `read` fails and ALSA gives no error the loops exit on. -/
theorem transfers_return (c : Container w) (silence : Silence c) (hsmall : c.chunkBytes < 2 ^ 28)
    (wav : WavContainer) (hvalid : checkValid wav = 0) (N : UInt32) (F : List UInt8) :
    ∃ n, (∀ (buf : ℕ → UInt8) (reads : List (Given c.frameBytes)) (writes : List WriteCall)
        (fuel : ℕ), (∀ g ∈ reads, ∀ request, Tolerated (g.ret request)) →
        (∀ x ∈ writes, x = .full) → n ≤ reads.countP Given.pays → n ≤ writes.length → n ≤ fuel →
        ∃ v, record c fuel wav ⟨[], buf, [], [], reads, writes⟩ = .returned v) ∧
      ∀ (buf : ℕ → UInt8) (reads : List ReadCall) (writes : List Taken) (fuel : ℕ),
        (∀ r ∈ reads, r ≠ .failed) → (∀ t ∈ writes, ∀ request, Tolerated (t.ret request)) →
        n ≤ reads.length → n ≤ writes.countP Taken.pays → n ≤ fuel →
        ∃ v, play c silence fuel N ⟨F, buf, [], [], reads, writes⟩ = .returned v := by
  have hpos := chunkBytes_pos c
  have hlength : ∀ L : UInt32, L.toNat ≤ 2 ^ 32 * c.chunkBytes := by
    intro L
    have hL := L.toNat_lt
    calc L.toNat ≤ 2 ^ 32 * 1 := by omega
      _ ≤ 2 ^ 32 * c.chunkBytes := Nat.mul_le_mul_left _ hpos
  refine ⟨2 ^ 32 * (readsPerChunk c + c.chunkSize + c.chunkBytes + 1) + 3, ?_, ?_⟩
  · intro buf reads writes fuel htolerated hfull hreads hwrites hfuel
    have hL := wav.chunk.length.toNat_lt
    exact record_returns (k := 2 ^ 32) hvalid htolerated hfull (hlength _) (by simp only; omega)
      (by simp only; omega) (by omega)
  · intro buf reads writes fuel hsound htolerated hreads hwrites hfuel
    have hN := N.toNat_lt
    exact play_returns (k := 2 ^ 32) hsmall rfl rfl ⟨hsound, htolerated⟩ (hlength _)
      (by simp only; omega) (by simp only; omega) (by omega) (by omega)

/-- Three bytes of a longer file, read and played one at a time. -/
theorem transfers_return_mono : ∃ n, ∀ fuel, n ≤ fuel →
    ∃ v, play mono monoSilence fuel 3 ⟨[1, 2, 3, 4], fun _ => 0, [], [],
      List.replicate fuel (.bytes 0), List.replicate fuel (.frames 1)⟩ = .returned v := by
  obtain ⟨n, -, hplay⟩ := transfers_return mono monoSilence (by decide) fiveBytes (by decide) 3
    [1, 2, 3, 4]
  refine ⟨n, fun fuel hfuel => hplay _ _ _ fuel ?_ ?_ ?_ ?_ hfuel⟩
  · intro r hr
    simp [List.eq_of_mem_replicate hr]
  · intro t ht request
    rw [List.eq_of_mem_replicate ht]
    exact .inl (Int.natCast_nonneg _)
  · simpa using hfuel
  · simpa [List.countP_replicate, Taken.pays] using hfuel

end SndWav

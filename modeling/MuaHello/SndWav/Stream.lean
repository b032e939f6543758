import MuaHello.SndWav.Play

/-!
# The stream that is played

The outer loop of `SNDWAV_Play`.  Its invariant is `Streaming`: a number of whole chunks has been
loaded and played.  `playBody_keeps` shows that a round either plays another one or pads the last,
and `play_stream` reads off what ALSA has got when the function returns.
-/

namespace SndWav

variable {w : ℕ} {c : Container w} {silence : Silence c} {limit k : ℕ} {u v v' : Playback}

/-- The whole frames of a data chunk of `N` bytes that are in the file `F`. -/
def dataFrames (c : Container w) (N : ℕ) (F : List UInt8) : ℕ := min N F.length / c.frameBytes

/-- The silence behind them. -/
def padFrames (c : Container w) (N : ℕ) (F : List UInt8) : ℕ :=
  if N ≤ F.length ∧ c.chunkBytes ∣ N then 0 else c.chunkSize - dataFrames c N F % c.chunkSize

/-- The invariant of the outer loop of `SNDWAV_Play`: `j` whole chunks have been played. -/
def Streaming (c : Container w) (N : ℕ) (F : List UInt8) (s : Playback × ℤ) : Prop :=
  ∃ j : ℕ, s.2 = (j * c.chunkBytes : ℕ) ∧ j * c.chunkBytes ≤ min N F.length ∧
    s.1.file = F.drop (j * c.chunkBytes) ∧ s.1.played = F.take (j * c.chunkBytes) ∧
    Within c.chunkBytes s.1.touched

/-- The stream that reaches ALSA. -/
structure Streamed (c : Container w) (silence : Silence c) (N : ℕ) (F : List UInt8)
    (u : Playback) : Prop where
  played : u.played = F.take (dataFrames c N F * c.frameBytes)
    ++ silence.bytes (padFrames c N F * c.channels)
  within : Within c.chunkBytes u.touched

lemma dataFrames_of_eq {N q r : ℕ} {F : List UInt8}
    (h : min N F.length = q * c.chunkBytes + r) :
    dataFrames c N F = q * c.chunkSize + r / c.frameBytes := by
  rw [dataFrames, h, c.chunkBytes_frames, ← Nat.mul_assoc, Nat.add_comm,
    Nat.add_mul_div_right _ _ c.frameBytes_pos, Nat.add_comm]

/-- The loop ends with nothing to pad: the data chunk was a number of whole chunks. -/
lemma streamed_of_done {N j : ℕ} {F : List UInt8} (hj : j * c.chunkBytes = N)
    (hN : N ≤ F.length) (hplayed : u.played = F.take (j * c.chunkBytes))
    (hwithin : Within c.chunkBytes u.touched) : Streamed c silence N F u := by
  have hdata : dataFrames c N F = j * c.chunkSize := by
    have hmin : min N F.length = j * c.chunkBytes + 0 := by omega
    rw [dataFrames_of_eq hmin, Nat.zero_div, Nat.add_zero]
  have hpad : padFrames c N F = 0 := if_pos ⟨hN, j, by rw [← hj, Nat.mul_comm]⟩
  have hnone : silence.bytes (0 * c.channels) = [] := by
    rw [← List.length_eq_zero_iff, silence.length_frames, Nat.zero_mul]
  refine ⟨?_, hwithin⟩
  rw [hplayed, hdata, hpad, hnone, List.append_nil, Nat.mul_assoc, c.chunkBytes_frames]

/-- The last chunk is not full. -/
lemma padFrames_of_partial {N j l : ℕ} {F : List UInt8}
    (hl : l = min (min (N - j * c.chunkBytes) c.chunkBytes) (F.length - j * c.chunkBytes))
    (hlt : j * c.chunkBytes < N) (hle : j * c.chunkBytes ≤ F.length)
    (hpart : l / c.frameBytes < c.chunkSize) :
    dataFrames c N F = j * c.chunkSize + l / c.frameBytes ∧
      padFrames c N F = c.chunkSize - l / c.frameBytes := by
  have hshort : l < c.chunkBytes := by
    rw [Nat.div_lt_iff_lt_mul c.frameBytes_pos] at hpart
    rwa [c.chunkBytes_frames]
  have hdata : dataFrames c N F = j * c.chunkSize + l / c.frameBytes :=
    dataFrames_of_eq (by omega)
  refine ⟨hdata, ?_⟩
  have hnot : ¬ (N ≤ F.length ∧ c.chunkBytes ∣ N) := by
    rintro ⟨hN, i, hi⟩
    -- another whole chunk would have been there
    have hij : j < i := by
      by_contra hge
      have hmul : i * c.chunkBytes ≤ j * c.chunkBytes := Nat.mul_le_mul_right _ (by omega)
      rw [Nat.mul_comm] at hi
      omega
    have hnext : (j + 1) * c.chunkBytes ≤ i * c.chunkBytes := Nat.mul_le_mul_right _ hij
    rw [Nat.add_mul, Nat.one_mul, Nat.mul_comm i, ← hi] at hnext
    omega
  rw [padFrames, if_neg hnot, hdata, Nat.mul_comm, Nat.mul_add_mod, Nat.mod_eq_of_lt hpart]

lemma take_of_loaded {l : ℕ} (h : Loaded limit u 0 l v) (hk : k ≤ l) :
    slice v.buf 0 k = u.file.take k := by
  have hlen : (u.file.take l).length = l := by rw [List.length_take, Nat.min_eq_left h.le]
  have hheld := h.holds
  rw [Holds, hlen] at hheld
  rw [← take_slice hk, hheld, List.take_take, Nat.min_eq_left hk]

/-- The number of whole frames loaded, as the code computes it in `int` and `size_t`. -/
lemma toFrames_natCast {l : ℕ} (hsmall : c.chunkBytes < 2 ^ 28) (hl : l ≤ c.chunkBytes) :
    toFrames c l = (l / c.frameBytes : ℕ) := by
  have hbits : ((l : ℤ) * 8) = ((8 * l : ℕ) : ℤ) := by push_cast; ring
  have hdiv : l / c.frameBytes ≤ l := Nat.div_le_self _ _
  rw [toFrames, hbits, toInt32_natCast (by omega : 8 * l < 2 ^ 31),
    toSize_natCast c.wide (by omega), c.bitsPerFrame_frameBytes,
    Nat.mul_div_mul_left _ _ (by omega), toInt32_natCast (by omega)]

/-- **The second half of a round**, with `l` bytes loaded behind `j` whole chunks: they are a chunk
and the loop goes on, or they are padded to one. -/
lemma playChunk_keeps {N j l : ℕ} {F : List UInt8} {t : Playback × ℤ} {more : Bool}
    (hsmall : c.chunkBytes < 2 ^ 28)
    (hl : l = min (min (N - j * c.chunkBytes) c.chunkBytes) (F.length - j * c.chunkBytes))
    (hlt : j * c.chunkBytes < N) (hle : j * c.chunkBytes ≤ F.length)
    (hfile : u.file = F.drop (j * c.chunkBytes)) (hplayed : u.played = F.take (j * c.chunkBytes))
    (hwithin : Within c.chunkBytes u.touched) (hload : Loaded c.chunkBytes u 0 l v)
    (hrun : playChunk c silence (j * c.chunkBytes : ℕ) v (toFrames c l) = .returned (t, more)) :
    if more then Streaming c N F t else Streamed c silence N F t.1 := by
  have hsize := c.chunkBytes_frames
  have hfle : l / c.frameBytes ≤ c.chunkSize :=
    Nat.div_le_of_le_mul (by rw [Nat.mul_comm, ← hsize]; omega)
  have hchunk : c.chunkSize ≤ c.chunkBytes := by
    rw [hsize]
    exact Nat.le_mul_of_pos_right _ c.frameBytes_pos
  rw [toFrames_natCast hsmall (by omega), playChunk, toSize_natCast c.wide (by omega),
    Outcome.bind_returned] at hrun
  obtain ⟨⟨res, v'⟩, hwrite, hrest⟩ := hrun
  obtain ⟨rfl, hfile', hplayed', hwithin'⟩ := writePcm_spec hsmall hfle hwrite
  have hcut : slice v.buf 0 (l / c.frameBytes * c.frameBytes)
      = (F.drop (j * c.chunkBytes)).take (l / c.frameBytes * c.frameBytes) := by
    rw [← hfile, take_of_loaded hload (Nat.div_mul_le_self l c.frameBytes)]
  rw [hload.played, hplayed, hcut, ← List.append_assoc, ← List.take_add] at hplayed'
  have hin := hwithin' (hload.within hwithin)
  simp only [toInt32_natCast (by omega : c.chunkSize < 2 ^ 31)] at hrest
  by_cases hfull : c.chunkSize = l / c.frameBytes
  · -- a full chunk
    have hwhole : l = c.chunkBytes := by
      have hmul := Nat.div_mul_le_self l c.frameBytes
      rw [← hfull, ← hsize] at hmul
      omega
    rw [if_neg (by omega), toSize_natCast c.wide (by omega), c.byteOffset_eq le_rfl, ← hsize,
      toInt32_natCast (by omega)] at hrest
    cases hrest
    have hnone : silence.bytes ((c.chunkSize - l / c.frameBytes) * c.channels) = [] := by
      rw [← List.length_eq_zero_iff, silence.length_frames, hfull, Nat.sub_self, Nat.zero_mul]
    rw [hnone, List.append_nil, ← hfull, ← hsize] at hplayed'
    rw [if_pos rfl]
    refine ⟨j + 1, by push_cast; ring, ?_, ?_, ?_, hin⟩
    · rw [Nat.succ_mul]
      omega
    · rw [hfile', hload.file, hfile, List.drop_drop, hwhole, Nat.succ_mul]
    · rw [hplayed', Nat.succ_mul]
  · rw [if_pos (by omega)] at hrest
    cases hrest
    obtain ⟨hdata, hpad⟩ := padFrames_of_partial hl hlt hle (by omega)
    refine ⟨?_, hin⟩
    rw [hplayed', hdata, hpad, Nat.add_mul, Nat.mul_assoc, ← hsize]

/-- **A round of the outer loop** plays a whole chunk and goes on, or pads the last one. -/
lemma playBody_keeps {fuel N : ℕ} {F : List UInt8} {s t : Playback × ℤ} {more : Bool}
    (hsmall : c.chunkBytes < 2 ^ 28) (h : Streaming c N F s)
    (hrun : playBody c silence fuel N s = .returned (t, more)) :
    if more then Streaming c N F t else Streamed c silence N F t.1 := by
  obtain ⟨j, hj, hle, hfile, hplayed, hwithin⟩ := h
  obtain ⟨u, written⟩ := s
  simp only at hj hfile hplayed hwithin
  subst hj
  rw [playBody] at hrun
  by_cases hmore : ((j * c.chunkBytes : ℕ) : ℤ) < N
  · have htodo : ((N : ℕ) : ℤ) = (j * c.chunkBytes : ℕ) + (N - j * c.chunkBytes : ℕ) := by omega
    rw [if_pos hmore, Outcome.bind_returned] at hrun
    obtain ⟨⟨v, load⟩, hrefill, hrest⟩ := hrun
    rw [htodo] at hrefill
    obtain ⟨l, hl, hmin, hload⟩ := refill_spec hsmall hrefill
    simp only at hl hload
    subst hl
    rw [hfile, List.length_drop] at hmin
    exact playChunk_keeps hsmall hmin (by omega) (by omega) hfile hplayed hwithin hload hrest
  · rw [if_neg hmore] at hrun
    cases hrun
    exact streamed_of_done (by omega) (by omega) hplayed hwithin

lemma padFrames_le (c : Container w) (N : ℕ) (F : List UInt8) :
    padFrames c N F ≤ c.chunkSize := by
  rw [padFrames]
  split_ifs
  · exact Nat.zero_le _
  · exact Nat.sub_le _ _

lemma chunkSize_dvd (c : Container w) (N : ℕ) (F : List UInt8) :
    c.chunkSize ∣ dataFrames c N F + padFrames c N F := by
  rw [padFrames]
  split_ifs with h
  · obtain ⟨hN, i, hi⟩ := h
    have hmin : min N F.length = i * c.chunkBytes + 0 := by
      rw [Nat.min_eq_left hN, hi, Nat.mul_comm]
      rfl
    rw [dataFrames_of_eq hmin, Nat.zero_div]
    exact Nat.dvd_mul_left _ _
  · have hlt := Nat.mod_lt (dataFrames c N F) c.chunkSize_pos
    refine ⟨dataFrames c N F / c.chunkSize + 1, ?_⟩
    have hdiv := Nat.div_add_mod (dataFrames c N F) c.chunkSize
    rw [Nat.mul_add, Nat.mul_one]
    omega

/-- **`SNDWAV_Play`** returns with the data in the stream. -/
lemma play_spec {N : UInt32} {fuel : ℕ} (hsmall : c.chunkBytes < 2 ^ 28) (hplayed : u.played = [])
    (htouched : u.touched = []) (hrun : play c silence fuel N u = .returned v) :
    Streamed c silence N.toNat u.file v := by
  rw [play, Outcome.bind_returned] at hrun
  obtain ⟨⟨u', written⟩, hloop, hret⟩ := hrun
  cases hret
  refine repeatLoop_rule (Streaming c N.toNat u.file)
    (fun s => Streamed c silence N.toNat u.file s.1)
    (fun _ _ _ h hround => playBody_keeps hsmall h hround) ?_ hloop
  refine ⟨0, by simp, by simp, by simp, by simp [hplayed], ?_⟩
  intro r hr
  rw [htouched] at hr
  cases hr

/-- **`SNDWAV_Play` plays the data once and in order.**  A run that returns, however `read` and
`snd_pcm_writei` split the transfers, has handed to ALSA the whole frames of the data chunk that
are in the file, then silence up to the end of a chunk: none if the data chunk is in the file and
is a number of whole chunks, otherwise what is missing from one, which is all of it if the data
ends with a chunk but the data chunk does not.  Nothing beyond the data chunk is played and no
access to `data_buf` reaches `chunk_bytes`. -/
theorem play_stream (c : Container w) (silence : Silence c) (hsmall : c.chunkBytes < 2 ^ 28)
    (N : UInt32) (F : List UInt8) (buf : ℕ → UInt8) (reads : List ReadCall) (writes : List Taken)
    (fuel : ℕ) (v : Playback)
    (hrun : play c silence fuel N ⟨F, buf, [], [], reads, writes⟩ = .returned v) :
    v.played = F.take (dataFrames c N.toNat F * c.frameBytes)
        ++ silence.bytes (padFrames c N.toNat F * c.channels) ∧
      dataFrames c N.toNat F * c.frameBytes ≤ N.toNat ∧
      padFrames c N.toNat F ≤ c.chunkSize ∧
      c.chunkSize ∣ dataFrames c N.toNat F + padFrames c N.toNat F ∧
      ∀ r ∈ v.touched, r.1 + r.2 ≤ c.chunkBytes := by
  have hstream := play_spec hsmall rfl rfl hrun
  have hdata : dataFrames c N.toNat F * c.frameBytes ≤ min N.toNat F.length :=
    Nat.div_mul_le_self _ _
  exact ⟨hstream.played, by omega, padFrames_le _ _ _, chunkSize_dvd _ _ _, hstream.within⟩

/-- Eight bits mono, two frames to a chunk. -/
def mono : Container 32 where
  chunkSize := 2
  channels := 1
  bitsPerSample := 8
  bitsPerFrame := 8
  chunkBytes := 2
  wide := Container.wide_32
  chunkSize_pos := Container.two_frames_pos
  bitsPerFrame_pos := by decide
  whole := by decide
  bitsPerFrame_eq := rfl
  chunkBytes_set := rfl
  chunkBytes_eq := rfl

def monoSilence : Silence mono where
  bytes n := List.replicate n 0x80
  length_bytes n := by
    rw [List.length_replicate]
    exact (Nat.mul_div_cancel n (by decide)).symm

/-- Three bytes of a longer file, read and played in pieces, with an underrun in between. -/
theorem play_stream_pieces :
    ∃ v, play mono monoSilence 9 3 ⟨[1, 2, 3, 4], fun _ => 0, [], [],
        [.bytes 0, .bytes 0, .bytes 7],
        [.frames 1, .error 31, .frames 9, .error 10, .frames 2]⟩ = .returned v ∧
      v.played = [1, 2, 3, 0x80] := by
  obtain ⟨v, hrun⟩ : ∃ v, play mono monoSilence 9 3 ⟨[1, 2, 3, 4], fun _ => 0, [], [],
      [.bytes 0, .bytes 0, .bytes 7],
      [.frames 1, .error 31, .frames 9, .error 10, .frames 2]⟩ = .returned v := ⟨_, rfl⟩
  have hstream := play_stream mono monoSilence (by decide) 3 [1, 2, 3, 4] _ _ _ 9 v hrun
  exact ⟨v, hrun, hstream.1.trans (by decide)⟩

/-- The padding is not just enough: an empty file gives a chunk of silence, where none would do. -/
theorem play_least_fails :
    ¬ ∀ (w : ℕ) (c : Container w) (silence : Silence c) (N : UInt32) (F : List UInt8)
      (buf : ℕ → UInt8) (reads : List ReadCall) (writes : List Taken) (fuel : ℕ) (v : Playback),
      c.chunkBytes < 2 ^ 28 →
      play c silence fuel N ⟨F, buf, [], [], reads, writes⟩ = .returned v →
      ∃ S, IsLeast {n | c.chunkSize ∣ min N.toNat F.length / c.frameBytes + n} S ∧
        v.played = F.take (min N.toNat F.length / c.frameBytes * c.frameBytes)
          ++ silence.bytes (S * c.channels) := by
  intro h
  obtain ⟨S, ⟨-, hleast⟩, hplayed⟩ := h 32 mono monoSilence 1 [] (fun _ => 0) [.bytes 0]
    [.frames 2] 2 _ (by decide) rfl
  have hzero : S = 0 := Nat.le_zero.mp (hleast (show 2 ∣ 0 + 0 by decide))
  subst hzero
  exact absurd hplayed (by decide)

end SndWav

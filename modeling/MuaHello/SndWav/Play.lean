import MuaHello.SndWav.Pcm

/-!
# Playing

`SNDWAV_Play` of `lplay.c` with the two loops it calls: `SNDWAV_P_SaveRead` around `read`, and
`SNDWAV_WritePcm` around `snd_pcm_writei`.

Each of the inner loops has an invariant and a lemma that says what it has done when it returns:
`saveRead_spec` and `refill_spec` in terms of `Loaded`, `writePcm_spec` in terms of `Handed`.
-/

namespace SndWav

/-- What one `read` does: it delivers some bytes, at least one unless the file is at its end, or
fails. -/
inductive ReadCall where
  | bytes (n : ℕ)
  | failed

/-- What one `snd_pcm_writei` does: it takes some frames, at most those offered, or fails with
`-(e + 1)`. -/
inductive Taken where
  | frames (n : ℕ)
  | error (e : ℕ)

def Taken.ret (t : Taken) (request : ℕ) : ℤ :=
  match t with
  | frames n => (min n request : ℕ)
  | error e => -(e + 1 : ℕ)

/-- The world `SNDWAV_Play` works on: what is left of the file, `data_buf`, the bytes ALSA has
taken, the accesses to `data_buf`, and the answers to come. -/
structure Playback where
  file : List UInt8
  buf : ℕ → UInt8
  played : List UInt8
  touched : List (ℕ × ℕ)
  reads : List ReadCall
  writes : List Taken

namespace Playback

/-- `read(fd, data_buf + off, count)` -/
def read (u : Playback) (r : ReadCall) (off count : ℕ) : ℤ × Playback :=
  let u := { u with touched := u.touched ++ [(off, count)] }
  match r with
  | .failed => (-1, u)
  | .bytes n =>
      let k := min (n + 1) (min count u.file.length)
      (k, { u with file := u.file.drop k, buf := blit u.buf off (u.file.take k) })

end Playback

/-- What `snd_pcm_format_set_silence` stores for a number of samples, each of the format's
width. -/
structure Silence {w : ℕ} (c : Container w) where
  bytes : ℕ → List UInt8
  length_bytes : ∀ n, (bytes n).length = n * c.bitsPerSample / 8

variable {w : ℕ} (c : Container w) (silence : Silence c)

/-! ## The code -/

/-- The body of the loop of `SNDWAV_P_SaveRead` -/
def saveReadTurn (r : ReadCall) (s : Cursor Playback) (count : ℕ) : Turn (Cursor Playback) :=
  let (res, u) := s.world.read r s.off count
  if res = 0 then .stopped { s with world := u }
  else if res < 0 then
    .stopped { s with world := u, result := if s.result > 0 then s.result else res }
  else .moved ⟨u, s.off + res.toNat, s.result + res⟩ res.toNat

/-- `SNDWAV_P_SaveRead(fd, data_buf + off, count)` -/
def saveRead (u : Playback) (off count : ℕ) : Outcome (ℤ × Playback) := do
  let (s, reads) ← transfer saveReadTurn u.reads ⟨u, off, 0⟩ count
  return (s.result, { s.world with reads := reads })

/-- The body of the loop of `SNDWAV_WritePcm` -/
def writePcmTurn (t : Taken) (s : Cursor Playback) (wcount : ℕ) : Turn (Cursor Playback) :=
  let r := t.ret wcount
  let taken := slice s.world.buf s.off (r.toNat * c.frameBytes)
  let u := { s.world with
    played := s.world.played ++ taken
    touched := s.world.touched ++ [(s.off, wcount * c.frameBytes)] }
  if react r wcount = .exit then .exited
  else if r > 0 then .moved ⟨u, s.off + c.byteOffset r.toNat, s.result + r⟩ r.toNat
  else .moved { s with world := u } 0

/-- `SNDWAV_WritePcm` -/
def writePcm (u : Playback) (wcount : ℕ) : Outcome (ℤ × Playback) := do
  let (u, wcount) :=
    if wcount < c.chunkSize then
      let off := c.byteOffset wcount
      let samples := silence.bytes ((c.chunkSize - wcount) * c.channels % 2 ^ 32)
      ({ u with buf := blit u.buf off samples, touched := u.touched ++ [(off, samples.length)] },
        c.chunkSize)
    else (u, wcount)
  let (s, writes) ← transfer (writePcmTurn c) u.writes ⟨u, 0, 0⟩ wcount
  return (s.result, { s.world with writes := writes })

/-- A round of the `do ... while ((size_t)load < sndpcm->chunk_bytes)` loop of `SNDWAV_Play` -/
def refillBody (count written : ℤ) (s : Playback × ℤ) : Outcome ((Playback × ℤ) × Bool) :=
  let (u, load) := s
  let n := count - written
  let n := if n > c.chunkBytes then (c.chunkBytes : ℤ) else n
  let n := n - load
  if n = 0 then return ((u, load), false)
  else do
    let (res, u) ← saveRead u load.toNat (toSize w n)
    let ret := toInt32 res
    if ret < 0 then .exited
    else if ret = 0 then return ((u, load), false)
    else
      let load := toInt32 (load + ret)
      return ((u, load), decide (toSize w load < c.chunkBytes))

/-- `load * 8 / sndpcm->bits_per_frame`, from bytes to frames -/
def toFrames (load : ℤ) : ℤ := toInt32 ((toSize w (toInt32 (load * 8)) / c.bitsPerFrame : ℕ))

/-- The second half of a round of the `while (written < count)` loop, with `load` frames in the
buffer -/
def playChunk (written : ℤ) (u : Playback) (load : ℤ) : Outcome ((Playback × ℤ) × Bool) := do
  let (res, u) ← writePcm c silence u (toSize w load)
  let ret := toInt32 res
  if ret ≠ load then return ((u, written), false)
  else
    let ret := toInt32 (c.byteOffset (toSize w ret))
    return ((u, written + ret), true)

/-- A round of the `while (written < count)` loop of `SNDWAV_Play` -/
def playBody (fuel : ℕ) (count : ℤ) (s : Playback × ℤ) : Outcome ((Playback × ℤ) × Bool) :=
  let (u, written) := s
  if written < count then do
    let (u, load) ← repeatLoop (refillBody c count written) fuel (u, 0)
    playChunk c silence written u (toFrames c load)
  else return (s, false)

/-- `SNDWAV_Play`, when `wav->chunk.length` is `length` -/
def play (fuel : ℕ) (length : UInt32) (u : Playback) : Outcome Playback := do
  let (u, _) ← repeatLoop (playBody c silence fuel length.toNat) fuel (u, 0)
  return u

/-! ## Loading -/

/-- `v` is `u` with the next `k` bytes of the file moved into the buffer at `off`. -/
structure Loaded (limit : ℕ) (u : Playback) (off k : ℕ) (v : Playback) : Prop where
  le : k ≤ u.file.length
  file : v.file = u.file.drop k
  holds : Holds v.buf off (u.file.take k)
  below : ∀ i < off, v.buf i = u.buf i
  played : v.played = u.played
  writes : v.writes = u.writes
  within : Within limit u.touched → Within limit v.touched

variable {c silence} {limit off k m count : ℕ} {u v v' : Playback}

lemma Loaded.refl : Loaded limit u off 0 u :=
  ⟨Nat.zero_le _, rfl, rfl, fun _ _ => rfl, rfl, rfl, id⟩

lemma Loaded.trans (h : Loaded limit u off k v) (h' : Loaded limit v (off + k) m v') :
    Loaded limit u off (k + m) v' where
  le := by
    have hle := h'.le
    rw [h.file, List.length_drop] at hle
    have hk := h.le
    omega
  file := by rw [h'.file, h.file, List.drop_drop]
  holds := by
    have hcut : u.file.take (k + m) = u.file.take k ++ (u.file.drop k).take m := List.take_add
    have hlen : (u.file.take k).length = k := by rw [List.length_take, Nat.min_eq_left h.le]
    rw [hcut, holds_append, hlen]
    have hnext := h'.holds
    rw [h.file] at hnext
    refine ⟨h.holds.congr ?_, hnext⟩
    intro i hi
    rw [hlen] at hi
    exact (h'.below (off + i) (by omega)).symm
  below := by
    intro i hi
    rw [h'.below i (by omega), h.below i hi]
  played := h'.played.trans h.played
  writes := h'.writes.trans h.writes
  within := fun hw => h'.within (h.within hw)

/-- **One `read`.**  A result of 0 means that the file is at its end. -/
lemma read_spec (u : Playback) (off : ℕ) (r : ReadCall) (hin : off + count ≤ limit)
    (hcount : 0 < count) :
    ((u.read r off count).1 = -1 ∧ Loaded limit u off 0 (u.read r off count).2) ∨
      ∃ k : ℕ, (u.read r off count).1 = k ∧ k ≤ count ∧ (k = 0 → u.file = []) ∧
        Loaded limit u off k (u.read r off count).2 := by
  cases r with
  | failed =>
      refine .inl ⟨rfl, Nat.zero_le _, rfl, rfl, fun _ _ => rfl, rfl, rfl, ?_⟩
      exact fun hw => hw.append hin
  | bytes n =>
      refine .inr ⟨min (n + 1) (min count u.file.length), rfl, by omega, ?_, ?_⟩
      · intro hzero
        exact List.length_eq_zero_iff.mp (by omega)
      · refine ⟨by omega, rfl, holds_blit _ _ _, ?_, rfl, rfl, fun hw => hw.append hin⟩
        intro i hi
        exact blit_of_lt hi

/-- The invariant of the loop: some bytes are loaded, `n` are to go. -/
def Loading (limit : ℕ) (u : Playback) (off count : ℕ) (s : Cursor Playback) (n : ℕ) : Prop :=
  ∃ k : ℕ, k + n = count ∧ s.off = off + k ∧ s.result = k ∧ Loaded limit u off k s.world

/-- What `SNDWAV_P_SaveRead` has done when it returns `res`. -/
def SaveReadEnds (limit : ℕ) (u : Playback) (off count : ℕ) (res : ℤ) (v : Playback) : Prop :=
  res = -1 ∨
    ∃ k : ℕ, res = k ∧ k ≤ count ∧ (k = 0 → u.file = []) ∧ Loaded limit u off k v

lemma saveReadTurn_keeps (r : ReadCall) (s : Cursor Playback) (n : ℕ) (hin : off + count ≤ limit)
    (hn : 0 < n) (h : Loading limit u off count s n) :
    (saveReadTurn r s n).Keeps (Loading limit u off count)
      (fun s => SaveReadEnds limit u off count s.result s.world) n := by
  obtain ⟨k, hk, hoff, hres, hload⟩ := h
  have hread := read_spec s.world s.off r (by omega : s.off + n ≤ limit) hn
  rw [hoff] at hread
  rw [saveReadTurn, hoff]
  rcases hread with ⟨hfail, hnext⟩ | ⟨m, hm, hle, hend, hnext⟩
  · -- a failure counts only if nothing has been read yet
    have hall := hload.trans hnext
    simp only [hfail, hres]
    rw [if_neg (by decide), if_pos (by decide)]
    cases k with
    | zero => exact .inl rfl
    | succ k =>
        refine .inr ⟨k + 1, if_pos ?_, by omega, by omega, hall⟩
        omega
  · have hall := hload.trans hnext
    simp only [hm, hres]
    cases m with
    | zero =>
        -- the end of the file
        rw [if_pos Int.natCast_zero]
        refine .inr ⟨k, rfl, by omega, fun hk0 => ?_, hall⟩
        have hnil := hend rfl
        rwa [hload.file, hk0, List.drop_zero] at hnil
    | succ m =>
        rw [if_neg (by omega), if_neg (by omega)]
        refine ⟨k + (m + 1), by omega, ?_, by push_cast; rfl, hall⟩
        simp only [Int.toNat_natCast]
        omega

/-- **`SNDWAV_P_SaveRead`** fails, or loads at most `count` bytes, and none only at the end of the
file. -/
lemma saveRead_spec {res : ℤ} (hin : off + count ≤ limit) (hcount : 0 < count)
    (hrun : saveRead u off count = .returned (res, v)) : SaveReadEnds limit u off count res v := by
  rw [saveRead, Outcome.bind_returned] at hrun
  obtain ⟨⟨s, reads⟩, hloop, hret⟩ := hrun
  cases hret
  obtain ⟨hpost, -⟩ := transfer_rule (Loading limit u off count)
    (fun s => SaveReadEnds limit u off count s.result s.world)
    (fun r s n hn h => saveReadTurn_keeps r s n hin hn h)
    (fun s ⟨k, hk, _, hres, hload⟩ => .inr ⟨k, hres, by omega, by omega, hload⟩)
    ⟨0, by omega, rfl, rfl, Loaded.refl⟩ hloop
  rcases hpost with hneg | ⟨k, hres, hk, hend, hload⟩
  · exact .inl hneg
  · exact .inr ⟨k, hres, hk, hend, ⟨hload.le, hload.file, hload.holds, hload.below, hload.played,
      hload.writes, hload.within⟩⟩

/-- The invariant of the inner loop of `SNDWAV_Play`: `load` bytes of the chunk are loaded. -/
def Filling (c : Container w) (u : Playback) (todo : ℕ) (s : Playback × ℤ) : Prop :=
  ∃ l : ℕ, s.2 = l ∧ l ≤ min todo c.chunkBytes ∧ Loaded c.chunkBytes u 0 l s.1

/-- The chunk is loaded as far as data chunk, buffer and file go. -/
def Filled (c : Container w) (u : Playback) (todo : ℕ) (s : Playback × ℤ) : Prop :=
  ∃ l : ℕ, s.2 = l ∧ l = min (min todo c.chunkBytes) u.file.length ∧
    Loaded c.chunkBytes u 0 l s.1

lemma refillBody_keeps {written : ℤ} {todo : ℕ} {s t : Playback × ℤ} {more : Bool}
    (hsmall : c.chunkBytes < 2 ^ 28) (h : Filling c u todo s)
    (hrun : refillBody c (written + todo) written s = .returned (t, more)) :
    if more then Filling c u todo t else Filled c u todo t := by
  obtain ⟨l, hl, hle, hload⟩ := h
  obtain ⟨v, load⟩ := s
  simp only at hl hload
  subst hl
  have hlen := hload.le
  have hn : (if written + todo - written > (c.chunkBytes : ℤ) then (c.chunkBytes : ℤ)
      else written + todo - written) - l = ((min todo c.chunkBytes - l : ℕ) : ℤ) := by
    split_ifs <;> omega
  rw [refillBody] at hrun
  simp only [hn] at hrun
  by_cases hzero : min todo c.chunkBytes - l = 0
  · rw [hzero, if_pos Int.natCast_zero] at hrun
    cases hrun
    exact ⟨l, rfl, by omega, hload⟩
  · rw [if_neg (by omega), Outcome.bind_returned] at hrun
    obtain ⟨⟨res, v'⟩, hsave, hrest⟩ := hrun
    rw [Int.toNat_natCast, toSize_natCast c.wide (by omega)] at hsave
    rcases saveRead_spec (by omega : l + _ ≤ c.chunkBytes) (by omega) hsave with
      rfl | ⟨k, rfl, hk, hend, hnext⟩
    · rw [if_pos (show toInt32 (-1) < 0 by decide)] at hrest
      exact nomatch hrest
    · have hall := hload.trans (by rwa [Nat.zero_add])
      have hmore := hall.le
      simp only [toInt32_natCast (by omega : k < 2 ^ 31)] at hrest
      rw [if_neg (by omega)] at hrest
      by_cases hk0 : k = 0
      · -- the file is at its end
        rw [if_pos (by omega)] at hrest
        cases hrest
        subst hk0
        have hnil := hend rfl
        rw [hload.file, List.drop_eq_nil_iff] at hnil
        exact ⟨l, rfl, by omega, hall⟩
      · rw [if_neg (by omega), ← Nat.cast_add, toInt32_natCast (by omega),
          toSize_natCast c.wide (by omega)] at hrest
        cases hrest
        by_cases hfull : l + k < c.chunkBytes
        · simp only [hfull, decide_true, if_true]
          exact ⟨l + k, rfl, by omega, hall⟩
        · simp only [hfull, decide_false, Bool.false_eq_true, if_false]
          exact ⟨l + k, rfl, by omega, hall⟩

/-- **The refill loop** loads the next chunk as far as data chunk, buffer and file go. -/
lemma refill_spec {written : ℤ} {todo fuel : ℕ} {s : Playback × ℤ}
    (hsmall : c.chunkBytes < 2 ^ 28)
    (hrun : repeatLoop (refillBody c (written + todo) written) fuel (u, 0) = .returned s) :
    Filled c u todo s :=
  repeatLoop_rule (Filling c u todo) (Filled c u todo)
    (fun _ _ _ h hround => refillBody_keeps hsmall h hround)
    ⟨0, rfl, Nat.zero_le _, Loaded.refl⟩ hrun

/-! ## Handing over -/

/-- `v` is `u` with the first `k` frames of the buffer taken by ALSA. -/
structure Handed (c : Container w) (u : Playback) (k : ℕ) (v : Playback) : Prop where
  file : v.file = u.file
  buf : v.buf = u.buf
  played : v.played = u.played ++ slice u.buf 0 (k * c.frameBytes)
  within : Within c.chunkBytes u.touched → Within c.chunkBytes v.touched

/-- The invariant of the loop of `SNDWAV_WritePcm`. -/
def Handing (c : Container w) (u : Playback) (s : Cursor Playback) (n : ℕ) : Prop :=
  ∃ k : ℕ, k + n = c.chunkSize ∧ s.off = k * c.frameBytes ∧ s.result = k ∧ Handed c u k s.world

lemma Taken.ret_le (t : Taken) (request : ℕ) : t.ret request ≤ request := by
  cases t with
  | frames n => exact Int.ofNat_le.mpr (Nat.min_le_right n request)
  | error e =>
      rw [ret]
      omega

/-- **One `snd_pcm_writei`**, whatever it answers. -/
lemma writePcmTurn_keeps (t : Taken) (s : Cursor Playback) (n : ℕ) (h : Handing c u s n) :
    (writePcmTurn c t s n).Keeps (Handing c u)
      (fun s => s.result = c.chunkSize ∧ Handed c u c.chunkSize s.world) n := by
  obtain ⟨k, hk, hoff, hres, hhanded⟩ := h
  have hle := t.ret_le n
  have hin : k * c.frameBytes + n * c.frameBytes ≤ c.chunkBytes := by
    rw [← Nat.add_mul, hk, c.chunkBytes_frames]
  have hplayed : s.world.played ++ slice s.world.buf s.off ((t.ret n).toNat * c.frameBytes)
      = u.played ++ slice u.buf 0 ((k + (t.ret n).toNat) * c.frameBytes) := by
    rw [hhanded.played, hhanded.buf, hoff, Nat.add_mul, slice_append, Nat.zero_add,
      List.append_assoc]
  have hwithin : Within c.chunkBytes u.touched →
      Within c.chunkBytes (s.world.touched ++ [(s.off, n * c.frameBytes)]) := by
    intro hw
    exact (hhanded.within hw).append (by rw [hoff]; exact hin)
  rw [writePcmTurn]
  split_ifs with hexit hpos
  · trivial
  · refine ⟨k + (t.ret n).toNat, by omega, ?_, ?_, hhanded.file, hhanded.buf, hplayed, hwithin⟩
    · rw [hoff, c.byteOffset_eq (by omega), Nat.add_mul]
    · simp only [hres]
      omega
  · have hzero : (t.ret n).toNat = 0 := by omega
    rw [hzero, Nat.add_zero] at hplayed
    refine ⟨k, by omega, hoff, hres, hhanded.file, hhanded.buf, ?_, hwithin⟩
    rw [hzero]
    exact hplayed

/-- The buffer of a padded chunk: the loaded frames, then silence. -/
lemma slice_padded {l : ℕ} (hl : l ≤ c.chunkSize) (m : ℕ → UInt8) {samples : List UInt8}
    (hlen : samples.length = (c.chunkSize - l) * c.frameBytes) :
    slice (blit m (l * c.frameBytes) samples) 0 (c.chunkSize * c.frameBytes)
      = slice m 0 (l * c.frameBytes) ++ samples := by
  have hsize : c.chunkSize * c.frameBytes = l * c.frameBytes + samples.length := by
    rw [hlen, ← Nat.add_mul, Nat.add_sub_cancel' hl]
  rw [hsize, slice_append, Nat.zero_add]
  refine congrArg₂ _ (slice_congr fun i hi => blit_of_lt (by omega)) (holds_blit _ _ _)

lemma Silence.length_frames (n : ℕ) :
    (silence.bytes (n * c.channels)).length = n * c.frameBytes := by
  rw [silence.length_bytes, Nat.mul_assoc, Nat.mul_comm c.channels, ← c.bitsPerFrame_eq,
    c.bitsPerFrame_frameBytes, Nat.mul_left_comm]
  exact Nat.mul_div_cancel_left _ (by omega)

lemma samples_lt (hsmall : c.chunkBytes < 2 ^ 28) (n : ℕ) :
    (c.chunkSize - n) * c.channels < 2 ^ 32 := by
  have hwidth : 1 ≤ c.bitsPerSample := by
    rcases Nat.eq_zero_or_pos c.bitsPerSample with hzero | hpos
    · have hbits := c.bitsPerFrame_pos
      rw [c.bitsPerFrame_eq, hzero, Nat.zero_mul] at hbits
      exact absurd hbits (Nat.lt_irrefl 0)
    · exact hpos
  calc (c.chunkSize - n) * c.channels
      ≤ c.chunkSize * c.channels := Nat.mul_le_mul_right _ (Nat.sub_le _ _)
    _ ≤ c.chunkSize * c.bitsPerFrame := by
        rw [c.bitsPerFrame_eq]
        exact Nat.mul_le_mul_left _ (Nat.le_mul_of_pos_left _ hwidth)
    _ = 8 * c.chunkBytes := by
        rw [c.bitsPerFrame_frameBytes, c.chunkBytes_frames, Nat.mul_left_comm]
    _ < 2 ^ 32 := by omega

/-- The loop of `SNDWAV_WritePcm` plays the buffer. -/
lemma writeLoop_spec {s : Cursor Playback} {writes writes' : List Taken}
    (hrun : transfer (writePcmTurn c) writes ⟨u, 0, 0⟩ c.chunkSize = .returned (s, writes')) :
    s.result = c.chunkSize ∧ Handed c u c.chunkSize s.world := by
  have hstart : Handing c u ⟨u, 0, 0⟩ c.chunkSize :=
    ⟨0, Nat.zero_add _, (Nat.zero_mul _).symm, rfl, rfl, rfl, by simp, id⟩
  refine (transfer_rule (Handing c u) _ (fun t s n _ h => writePcmTurn_keeps t s n h) ?_ hstart
    hrun).1
  rintro s ⟨k, hk, -, hres, hhanded⟩
  rw [Nat.add_zero] at hk
  rw [← hk]
  exact ⟨hres, hhanded⟩

/-- **`SNDWAV_WritePcm`** plays a whole chunk: the `wcount` frames it was asked for and silence
behind them.  That is what it returns, too. -/
lemma writePcm_spec {wcount : ℕ} {res : ℤ} (hsmall : c.chunkBytes < 2 ^ 28)
    (hwcount : wcount ≤ c.chunkSize) (hrun : writePcm c silence u wcount = .returned (res, v)) :
    res = c.chunkSize ∧ v.file = u.file ∧
      v.played = u.played ++ (slice u.buf 0 (wcount * c.frameBytes)
        ++ silence.bytes ((c.chunkSize - wcount) * c.channels)) ∧
      (Within c.chunkBytes u.touched → Within c.chunkBytes v.touched) := by
  have hsilent := silence.length_frames (c.chunkSize - wcount)
  rw [writePcm] at hrun
  by_cases hpad : wcount < c.chunkSize
  · simp only [if_pos hpad, Nat.mod_eq_of_lt (samples_lt hsmall wcount),
      c.byteOffset_eq hwcount] at hrun
    obtain ⟨⟨s, writes⟩, hloop, hret⟩ := Outcome.bind_returned.mp hrun
    cases hret
    obtain ⟨hres, hhanded⟩ := writeLoop_spec hloop
    have hplayed := hhanded.played
    rw [slice_padded hwcount u.buf hsilent] at hplayed
    refine ⟨hres, hhanded.file, hplayed, fun hw => hhanded.within (hw.append ?_)⟩
    rw [hsilent, ← Nat.add_mul, Nat.add_sub_cancel' hwcount, c.chunkBytes_frames]
  · simp only [if_neg hpad] at hrun
    have hfull : wcount = c.chunkSize := by omega
    subst hfull
    obtain ⟨⟨s, writes⟩, hloop, hret⟩ := Outcome.bind_returned.mp hrun
    cases hret
    obtain ⟨hres, hhanded⟩ := writeLoop_spec hloop
    have hnone : silence.bytes ((c.chunkSize - c.chunkSize) * c.channels) = [] := by
      rw [← List.length_eq_zero_iff, hsilent, Nat.sub_self, Nat.zero_mul]
    rw [hnone, List.append_nil]
    exact ⟨hres, hhanded.file, hhanded.played, hhanded.within⟩

end SndWav

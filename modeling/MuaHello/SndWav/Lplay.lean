import MuaHello.SndWav.Lrecord
import MuaHello.SndWav.Progress
import MuaHello.SndWav.ReadHeader

/-!
# `lplay`, and both programs

The `main` of `lplay` reads the header, opens the device with the parameters it finds there and
plays the data.  `programs_run` says what runs of the two programs leave behind, and `record_play`
that the second plays what the first has recorded.
-/

namespace SndWav

variable {w : ℕ} {c : Container w}

/-- What `lplay` meets: the file with the results of the reads, and what ALSA does with the data. -/
structure LplayEnv (w : ℕ) extends Setup where
  file : List UInt8
  reads : List ReadCall
  silence : ∀ c : Container w, Silence c
  buf : ℕ → UInt8
  writes : List Taken

/-- What it leaves: its result, the resources in order, what was played, and the container with the
accesses to its buffer. -/
structure LplayResult where
  ret : ℤ
  entries : List (Ledger.Entry Resource)
  played : List UInt8
  pcm : SndPcm
  touched : List (ℕ × ℕ)

/-- `main` of `lplay`.  A run whose chunk is not a number of bytes in a `size_t` is not followed. -/
def lplay (env : LplayEnv w) (fuel : ℕ) : Outcome LplayResult :=
  if env.argc ≠ 2 then return ⟨-1, [], [], .zero, []⟩
  else if env.openFile < 0 then return ⟨-1, [], [], .zero, []⟩
  else do
    let (wav, s) ← readHeader ⟨env.file, env.reads⟩
    match wav with
    | none => return ⟨-1, .acquire .file :: Opened.nothing.errReleases, [], .zero, []⟩
    | some wav =>
      let d := openDevice w env.toSetup wav
      let entries := .acquire .file :: d.entries
      if d.ok = false then return ⟨-1, entries ++ d.errReleases, [], d.pcm, []⟩
      else if h : Sized w d.pcm then do
        let u ← play h.container (env.silence h.container) fuel wav.chunk.length
          ⟨s.file, env.buf, [], [], s.reads, env.writes⟩
        return ⟨0, entries ++ releases, u.played, d.pcm, u.touched⟩
      else .waiting

/-- The container has the sizes that the header and the device give. -/
structure SizedBy (c : Container w) (wav : WavContainer) (a : Answers) : Prop where
  chunkSize : c.chunkSize = a.periodSize
  channels : c.channels = wav.format.channels.toNat
  bitsPerFrame : c.bitsPerFrame = wav.format.sampleLength.toNat * wav.format.channels.toNat

/-- What a run of `lplay` leaves behind: the data of the file played, within the buffer, or nothing
played. -/
def LplayEnds (env : LplayEnv w) (r : LplayResult) : Prop :=
  r.ret = 0 ∧ (∃ (wav : WavContainer) (data : List UInt8) (c : Container w),
      env.file = wav.bytes ++ data ∧ checkValid wav = 0 ∧ SizedBy c wav env.answers ∧
      r.pcm.dataBuf = some c.chunkBytes ∧ Within c.chunkBytes r.touched ∧
      r.played = data.take (dataFrames c wav.chunk.length.toNat data * c.frameBytes)
        ++ (env.silence c).bytes (padFrames c wav.chunk.length.toNat data * c.channels)) ∨
    r.ret = -1 ∧ r.played = []

/-- A frame has at most four bytes. -/
lemma SizedBy.small {wav : WavContainer} {a : Answers} (h : SizedBy c wav a)
    (hvalid : checkValid wav = 0)
    (hlength : wav.format.sampleLength = 16 ∨ wav.format.sampleLength = 8)
    (hperiod : a.periodSize < 2 ^ 26) : c.chunkBytes < 2 ^ 28 := by
  have hbits : 8 * c.frameBytes ≤ 32 := by
    rw [← c.bitsPerFrame_frameBytes, h.bitsPerFrame]
    rcases channels_of_valid hvalid with hc | hc <;> rcases hlength with hl | hl
    all_goals simp only [hc, hl, UInt16.reduceToNat]; omega
  calc c.chunkBytes = c.chunkSize * c.frameBytes := c.chunkBytes_frames
    _ ≤ a.periodSize * 4 := Nat.mul_le_mul h.chunkSize.le (by omega)
    _ < 2 ^ 28 := by omega

/-- **A run of `lplay`** that returns has released what it acquired. -/
lemma lplay_spec {env : LplayEnv w} {fuel : ℕ} {r : LplayResult} (hdoc : env.answers.Documented)
    (hperiod : env.answers.periodSize < 2 ^ 26) (hrun : lplay env fuel = .returned r) :
    Ledger.Balanced r.entries ∧ LplayEnds env r := by
  rw [lplay] at hrun
  split_ifs at hrun
  · cases hrun
    exact ⟨rfl, .inr ⟨rfl, rfl⟩⟩
  · cases hrun
    exact ⟨rfl, .inr ⟨rfl, rfl⟩⟩
  rw [Outcome.bind_returned] at hrun
  obtain ⟨⟨wav, s⟩, hread, hrun⟩ := hrun
  cases wav with
  | none =>
      cases hrun
      exact ⟨rfl, .inr ⟨rfl, rfl⟩⟩
  | some wav =>
      obtain ⟨hfile, hvalid⟩ := readHeader_sound hread
      obtain ⟨herr, hend⟩ := @openDevice_balanced w env.toSetup wav
      simp only at hrun
      split_ifs at hrun with hok hsized
      · cases hrun
        exact ⟨herr hok, .inr ⟨rfl, rfl⟩⟩
      · rw [Outcome.bind_returned] at hrun
        obtain ⟨u, hplay, hret⟩ := hrun
        cases hret
        have hopened : (openDevice w env.toSetup wav).ok = true := by simpa using hok
        obtain ⟨format, hgranted, hpcm⟩ := openDevice_ok hopened
        obtain ⟨-, hframe, -, -⟩ :=
          bitsPerFrame_configured hsized.wide hdoc hvalid hgranted
        rw [← hpcm] at hframe
        have hsizedBy : SizedBy hsized.container wav env.answers :=
          ⟨congrArg SndPcm.chunkSize hpcm, congrArg (fun p => p.channels.toNat) hpcm, hframe⟩
        obtain ⟨hplayed, hwithin⟩ :=
          play_spec (hsizedBy.small hvalid (hgranted.width hdoc).2 hperiod) rfl rfl hplay
        refine ⟨hend hopened, .inl ⟨rfl, wav, s.file, hsized.container, hfile, hvalid, hsizedBy, ?_,
          hwithin, hplayed⟩⟩
        show (openDevice w env.toSetup wav).pcm.dataBuf
          = some (openDevice w env.toSetup wav).pcm.chunkBytes
        rw [hpcm]
        rfl

/-- **What `lrecord` records, `lplay` plays.**  Whatever file was there before, whatever
`header.length` is (`headerLength`), however the transfers are split, and whatever the devices are,
if they answer as documented and the period of the second has fewer than `2 ^ 26` frames: if both
programs end with 0 and the second is given the file of the first, ALSA gets, in order, exactly the
ten seconds that it delivered to the recording, and then silence to the end of a chunk. -/
theorem record_play {w' : ℕ} (env : LrecordEnv w) (env' : LplayEnv w') (fuel fuel' : ℕ)
    (r : LrecordResult) (r' : LplayResult) (hdoc : env'.answers.Documented)
    (hperiod : env'.answers.periodSize < 2 ^ 26) (hrun : lrecord env fuel = .returned r)
    (hrun' : lplay env' fuel' = .returned r') (hret : r.ret = 0) (hret' : r'.ret = 0)
    (hfile : r.file = some env'.file) :
    ∃ (c : Container w') (pad : ℕ), c.chunkSize = env'.answers.periodSize ∧
      pad ≤ c.chunkSize ∧ c.chunkSize ∣ 80000 + pad ∧
      r'.played = r.delivered.take 320000 ++ (env'.silence c).bytes (pad * 2) := by
  obtain ⟨-, ⟨-, hdel, hrecorded⟩ | ⟨hfail, -⟩⟩ := lrecord_spec hrun
  case inr => omega
  obtain ⟨-, ⟨-, wav, data, c, hwav, -, hsized, -, -, hplayed⟩ | ⟨hfail, -⟩⟩ :=
    lplay_spec hdoc hperiod hrun'
  case inr => omega
  rw [hfile, Option.some.injEq, hwav, overwrite, List.append_assoc] at hrecorded
  have hsame : wav.bytes.length = (prepareWavParams env.headerLength).bytes.length := by
    rw [WavContainer.length_bytes, WavContainer.length_bytes]
  -- what an older, longer file has left lies behind the data chunk
  obtain ⟨hbytes, hdata⟩ := List.append_inj hrecorded hsame
  have hheader := WavContainer.bytes_injective hbytes
  subst hheader
  have hlength : (r.delivered.take 320000).length = 320000 := by
    rw [List.length_take, Nat.min_eq_left hdel]
  have htake : data.take 320000 = r.delivered.take 320000 := by
    rw [hdata, List.take_append_of_le_length hlength.ge, List.take_of_length_le hlength.le]
  have hlong : 320000 ≤ data.length := by
    rw [hdata, List.length_append, hlength]
    exact Nat.le_add_right _ _
  have hchunk : (prepareWavParams env.headerLength).chunk.length.toNat = 320000 := rfl
  have hframe : c.frameBytes = 4 := by
    have hbits : c.bitsPerFrame = 32 := hsized.bitsPerFrame
    rw [c.bitsPerFrame_frameBytes] at hbits
    omega
  have hframes : dataFrames c 320000 data = 80000 := by
    rw [dataFrames, hframe, Nat.min_eq_left hlong]
  refine ⟨c, padFrames c 320000 data, hsized.chunkSize, padFrames_le _ _ _, ?_, ?_⟩
  · rw [← hframes]
    exact chunkSize_dvd _ _ _
  · have hchannels : c.channels = 2 := hsized.channels
    rw [hplayed, hchunk, hframes, hframe, hchannels, htake]

/-! ## A run of both -/

lemma lrecord_returns {env : LrecordEnv w} {fuel : ℕ} {d : Opened} (hargc : env.argc = 2)
    (hopen : env.openFile ≠ -1)
    (hd : openDevice w env.toSetup (prepareWavParams env.headerLength) = d) (hok : d.ok = true)
    (hsized : Sized w d.pcm) {u : Recorder hsized.container}
    (hrecord : record hsized.container fuel (prepareWavParams env.headerLength)
      ⟨[], env.buf, [], [], env.reads hsized.container, env.writes⟩ = .returned u) :
    ∃ r, lrecord env fuel = .returned r ∧ r.ret = 0 := by
  subst hd
  rw [lrecord, if_neg (not_not_intro hargc), if_neg hopen]
  simp only [hok, Bool.true_eq_false, if_false, dif_pos hsized]
  rw [hrecord]
  exact ⟨_, rfl, rfl⟩

lemma lplay_returns {env : LplayEnv w} {fuel : ℕ} {d : Opened} {wav : WavContainer} {s : Source}
    (hargc : env.argc = 2) (hopen : 0 ≤ env.openFile)
    (hread : readHeader ⟨env.file, env.reads⟩ = .returned (some wav, s))
    (hd : openDevice w env.toSetup wav = d) (hok : d.ok = true) (hsized : Sized w d.pcm)
    {u : Playback} (hplay : play hsized.container (env.silence hsized.container) fuel
      wav.chunk.length ⟨s.file, env.buf, [], [], s.reads, env.writes⟩ = .returned u) :
    ∃ r, lplay env fuel = .returned r ∧ r.ret = 0 := by
  subst hd
  rw [lplay, if_neg (not_not_intro hargc), if_neg (not_lt.mpr hopen), hread, Outcome.returned_bind]
  simp only [hok, Bool.true_eq_false, if_false, dif_pos hsized]
  rw [hplay]
  exact ⟨_, rfl, rfl⟩

def setup : Setup := ⟨2, 3, 0, 0, device⟩

/-- The header of the run. -/
def tenSeconds : WavContainer := prepareWavParams 320036

lemma setup_ok : (openDevice 32 setup tenSeconds).ok = true := by decide

lemma setup_sized : Sized 32 (openDevice 32 setup tenSeconds).pcm := by decide

/-- ALSA delivers whole chunks, and an older file is still there. -/
def recording (k : ℕ) : LrecordEnv 32 where
  toSetup := setup
  old := some (List.replicate 320047 3)
  removed := false
  removedAgain := true
  headerLength := 320036
  buf _ := 0
  reads c := List.replicate (k * c.chunkSize)
    (.frames (List.replicate c.chunkSize ⟨List.replicate c.frameBytes 1, List.length_replicate⟩))
  writes := List.replicate (k + 3) .full

lemma recording_returns (k : ℕ) (hk : 320000 ≤ k * setup_sized.container.chunkBytes) :
    ∃ r, lrecord (recording k) 320001 = .returned r ∧ r.ret = 0 := by
  have htolerated : ∀ g ∈ (recording k).reads setup_sized.container, ∀ request,
      Tolerated (g.ret request) := by
    intro g hg request
    rw [List.eq_of_mem_replicate hg]
    exact .inl (Int.natCast_nonneg _)
  have hpays : Given.pays (.frames (List.replicate setup_sized.container.chunkSize
      (⟨List.replicate setup_sized.container.frameBytes 1, List.length_replicate⟩ :
        Frame setup_sized.container.frameBytes))) = true := rfl
  have hcount : k * setup_sized.container.chunkSize
      ≤ ((recording k).reads setup_sized.container).countP Given.pays := by
    rw [recording, List.countP_replicate, if_pos hpays]
  obtain ⟨v, hrun⟩ := @record_returns 32 setup_sized.container
    ⟨[], (recording k).buf, [], [], (recording k).reads setup_sized.container,
      (recording k).writes⟩
    tenSeconds k 320001 rfl htolerated (fun x hx => List.eq_of_mem_replicate hx) hk hcount
    (by rw [recording, List.length_replicate]) (by decide)
  have hopen : (recording k).openFile ≠ -1 := by
    show (3 : ℤ) ≠ -1
    decide
  exact @lrecord_returns 32 (recording k) 320001 _ rfl hopen rfl setup_ok setup_sized v hrun

/-- The file is read and played a byte and a frame at a time. -/
def playing (k : ℕ) (data : List UInt8) : LplayEnv 32 where
  toSetup := setup
  file := tenSeconds.bytes ++ data
  reads := .bytes 11 :: .bytes 23 :: .bytes 7 ::
    List.replicate (k * readsPerChunk setup_sized.container) (.bytes 0)
  silence c := ⟨fun n => List.replicate (n * c.bitsPerSample / 8) 0, fun _ => List.length_replicate⟩
  buf _ := 0
  writes := List.replicate (k * setup_sized.container.chunkSize) (.frames 1)

lemma playing_returns (k : ℕ) (hk : 320000 ≤ k * setup_sized.container.chunkBytes)
    (data : List UInt8) : ∃ r, lplay (playing k data) 320001 = .returned r ∧ r.ret = 0 := by
  have hwilling : Willing ⟨data, (playing k data).buf, [], [],
      List.replicate (k * readsPerChunk setup_sized.container) (.bytes 0),
      (playing k data).writes⟩ := by
    refine ⟨fun r hr => ?_, fun t ht request => ?_⟩
    · simp [List.eq_of_mem_replicate hr]
    · rw [List.eq_of_mem_replicate ht]
      exact .inl (Int.natCast_nonneg _)
  have hpays : Taken.pays (.frames 1) = true := rfl
  obtain ⟨v, hrun⟩ := @play_returns 32 setup_sized.container
    ((playing k data).silence setup_sized.container) _ tenSeconds.chunk.length k 320001 (by decide)
    rfl rfl hwilling hk (by rw [List.length_replicate])
    (by rw [playing, List.countP_replicate, if_pos hpays]) (by decide) (by decide)
  have hread := @readHeader_bytes tenSeconds data 11 23 7
    (List.replicate (k * readsPerChunk setup_sized.container) (.bytes 0)) rfl le_rfl le_rfl le_rfl
  exact @lplay_returns 32 (playing k data) 320001 _ _ _ rfl (by simp [playing, setup]) hread rfl
    setup_ok setup_sized v hrun

/-- Ten seconds, whatever they are, in front of the three bytes that are left of a longer file. -/
theorem record_play_tenSeconds : ∃ (data : List UInt8) (r : LplayResult) (c : Container 32)
    (pad : ℕ), lplay (playing 40000 (data ++ [3, 3, 3])) 320001 = .returned r ∧
      r.played = data ++ ((playing 40000 (data ++ [3, 3, 3])).silence c).bytes (pad * 2) := by
  have hk : 320000 ≤ 40000 * setup_sized.container.chunkBytes := by decide
  have hperiod : device.periodSize < 2 ^ 26 := by decide
  obtain ⟨r, hrun, hret⟩ := recording_returns 40000 hk
  obtain ⟨-, ⟨-, hdel, hfile⟩ | ⟨hfail, -⟩⟩ := lrecord_spec hrun
  case inr => omega
  have hleft : overwrite ((remove (recording 40000).removed (recording 40000).old).getD [])
      (tenSeconds.bytes ++ r.delivered.take 320000)
      = tenSeconds.bytes ++ (r.delivered.take 320000 ++ [3, 3, 3]) := by
    have hlength : (tenSeconds.bytes ++ r.delivered.take 320000).length = 320044 := by
      rw [List.length_append, WavContainer.length_bytes, List.length_take, Nat.min_eq_left hdel]
    have hold : (remove (recording 40000).removed (recording 40000).old).getD []
        = List.replicate 320047 3 := rfl
    rw [overwrite, hlength, hold, List.drop_replicate, List.append_assoc]
    rfl
  obtain ⟨r', hrun', hret'⟩ := playing_returns 40000 hk (r.delivered.take 320000 ++ [3, 3, 3])
  obtain ⟨c, pad, -, -, -, hplayed⟩ := record_play (recording 40000)
    (playing 40000 (r.delivered.take 320000 ++ [3, 3, 3])) 320001 320001 r r' device_documented
    hperiod hrun hrun' hret hret' (hfile.trans (congrArg some hleft))
  exact ⟨_, r', c, pad, hrun', hplayed⟩

end SndWav

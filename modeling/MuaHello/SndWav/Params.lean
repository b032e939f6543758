import MuaHello.SndWav.Record

/-!
# Setting the parameters

`SNDWAV_SetParams` negotiates with ALSA, takes over the sizes it gets and allocates `data_buf`.
`Answers` is what ALSA and `malloc` say to each request; of what is documented about them,
`Answers.Documented` has the part the code relies on.

* `setParams_spec` — success means that no request failed, and then every field is set from the
  header and the answers; a failure leaves `data_buf` alone.
* `setParams_sized_iff` — the sizes are those of a `Container` exactly when the period is not empty
  and its size in bits is a `size_t`.
-/

namespace SndWav

/-- `snd_pcm_format_t`, as far as the code names it. -/
inductive PcmFormat where
  | s16Le | u8 | unknown
  deriving DecidableEq

/-- `WAV_FMT_PCM` -/
abbrev wavFmtPcm : UInt16 := 0x0001

/-- `SNDWAV_P_GetFormat`, with the format if the result is 0. -/
def getFormat (wav : WavContainer) : Option PcmFormat :=
  if wav.format.format ≠ wavFmtPcm then none
  else if wav.format.sampleLength = 16 then some .s16Le
  else if wav.format.sampleLength = 8 then some .u8
  else some .unknown

/-- The fields `SNDWAV_SetParams` sets.  The format is missing until then, and `data_buf` is NULL or
a block with its size. -/
structure SndPcm where
  chunkSize : ℕ
  bufferSize : ℕ
  format : Option PcmFormat
  channels : UInt16
  chunkBytes : ℕ
  bitsPerSample : ℕ
  bitsPerFrame : ℕ
  dataBuf : Option ℕ

/-- `memset(&playback, 0x0, sizeof(playback))` -/
def SndPcm.zero : SndPcm := ⟨0, 0, none, 0, 0, 0, 0, none⟩

/-- The results of the calls into ALSA, as far as the code looks at them, and of `malloc`. -/
structure Answers where
  any : ℤ
  setAccess : ℤ
  setFormat : PcmFormat → ℤ
  setChannels : UInt16 → ℤ
  setRateNear : UInt32 → ℤ
  getBufferTimeMax : ℤ × UInt32
  setBufferTimeNear : UInt32 → ℤ
  setPeriodTimeNear : UInt32 → ℤ
  hwParams : ℤ
  periodSize : ℕ
  bufferSize : ℕ
  physicalWidth : PcmFormat → ℤ
  malloc : ℕ → Bool

/-- What ALSA documents about the formats: their widths, and that no device plays an unknown one. -/
structure Answers.Documented (a : Answers) : Prop where
  width_s16Le : a.physicalWidth .s16Le = 16
  width_u8 : a.physicalWidth .u8 = 8
  rejects : a.setFormat .unknown < 0

/-- The buffer time in microseconds, at most half a second. -/
def cappedTime (bufferTime : UInt32) : UInt32 :=
  if bufferTime > 500000 then 500000 else bufferTime

/-- `if (res < 0) goto ERR_SET_PARAMS;` -/
def check (res : ℤ) (p : SndPcm) (next : ℤ × SndPcm) : ℤ × SndPcm :=
  if res < 0 then (-1, p) else next

/-- The last part of `SNDWAV_SetParams`, with the hardware parameters set. -/
def setSizes (w : ℕ) (a : Answers) (wav : WavContainer) (format : PcmFormat) (p : SndPcm) :
    ℤ × SndPcm :=
  let p := { p with chunkSize := a.periodSize, bufferSize := a.bufferSize }
  if p.chunkSize = p.bufferSize then (-1, p)
  else
    let bitsPerSample := toSize w (a.physicalWidth format)
    let bitsPerFrame := mulSize w bitsPerSample wav.format.channels.toNat
    let chunkBytes := mulSize w p.chunkSize bitsPerFrame / 8
    let dataBuf := if a.malloc chunkBytes then some chunkBytes else none
    let p := { p with bitsPerSample, bitsPerFrame, chunkBytes, dataBuf }
    if p.dataBuf.isNone then (-1, p) else (0, p)

/-- `SNDWAV_SetParams` -/
def setParams (w : ℕ) (a : Answers) (wav : WavContainer) (p : SndPcm) : ℤ × SndPcm :=
  check a.any p <|
  check a.setAccess p <|
  match getFormat wav with
  | none => (-1, p)
  | some format =>
      check (a.setFormat format) p <|
      let p := { p with format := some format }
      check (a.setChannels wav.format.channels) p <|
      let p := { p with channels := wav.format.channels }
      check (a.setRateNear wav.format.sampleRate) p <|
      check a.getBufferTimeMax.1 p <|
      let bufferTime := cappedTime a.getBufferTimeMax.2
      let periodTime := bufferTime / 4
      check (a.setBufferTimeNear bufferTime) p <|
      check (a.setPeriodTimeNear periodTime) p <|
      check a.hwParams p <|
      setSizes w a wav format p

/-! ## What it does -/

variable {w : ℕ} {a : Answers} {wav : WavContainer} {p : SndPcm}

/-- The fields after success. -/
def SndPcm.configured (w : ℕ) (a : Answers) (wav : WavContainer) (format : PcmFormat) : SndPcm :=
  let bitsPerSample := toSize w (a.physicalWidth format)
  let bitsPerFrame := mulSize w bitsPerSample wav.format.channels.toNat
  let chunkBytes := mulSize w a.periodSize bitsPerFrame / 8
  ⟨a.periodSize, a.bufferSize, some format, wav.format.channels, chunkBytes, bitsPerSample,
    bitsPerFrame, some chunkBytes⟩

/-- No request for the format failed. -/
structure Granted (a : Answers) (wav : WavContainer) (format : PcmFormat) : Prop where
  known : getFormat wav = some format
  setFormat : 0 ≤ a.setFormat format
  setChannels : 0 ≤ a.setChannels wav.format.channels
  distinct : a.periodSize ≠ a.bufferSize

/-- What `SNDWAV_SetParams` has done when it returns `r`: everything, or nothing to `data_buf` but
what a failing `malloc` stores. -/
def SetParamsEnds (w : ℕ) (a : Answers) (wav : WavContainer) (p : SndPcm) (r : ℤ × SndPcm) :
    Prop :=
  r.1 = 0 ∧ (∃ format, Granted a wav format ∧ r.2 = .configured w a wav format) ∨
    r.1 = -1 ∧ (r.2.dataBuf = p.dataBuf ∨ r.2.dataBuf = none)

lemma check_ends {res : ℤ} {p' : SndPcm} {next : ℤ × SndPcm} (hbuf : p'.dataBuf = p.dataBuf)
    (hnext : 0 ≤ res → SetParamsEnds w a wav p next) :
    SetParamsEnds w a wav p (check res p' next) := by
  rw [check]
  split_ifs with hres
  · exact .inr ⟨rfl, .inl hbuf⟩
  · exact hnext (by omega)

/-- **`SNDWAV_SetParams`** succeeds with every field set, or fails without a new buffer. -/
lemma setParams_spec : SetParamsEnds w a wav p (setParams w a wav p) := by
  refine check_ends rfl fun _ => check_ends rfl fun _ => ?_
  cases hknown : getFormat wav with
  | none => exact .inr ⟨rfl, .inl rfl⟩
  | some format =>
      refine check_ends rfl fun hformat => check_ends rfl fun hchannels => ?_
      refine check_ends rfl fun _ => check_ends rfl fun _ => check_ends rfl fun _ => ?_
      refine check_ends rfl fun _ => check_ends rfl fun _ => ?_
      rw [setSizes]
      simp only
      split_ifs with hsame hmalloc hnone hnone
      · exact .inr ⟨rfl, .inl rfl⟩
      · simp at hnone
      · exact .inl ⟨rfl, format, ⟨hknown, hformat, hchannels, hsame⟩, rfl⟩
      · exact .inr ⟨rfl, .inr rfl⟩
      · simp at hnone

/-! ## The sizes -/

/-- The sizes are those of a container. -/
structure Sized (w : ℕ) (p : SndPcm) : Prop where
  wide : 32 ≤ w
  chunkSize_pos : 1 ≤ p.chunkSize
  bitsPerFrame_pos : 0 < p.bitsPerFrame
  whole : 8 ∣ p.bitsPerFrame
  bitsPerFrame_eq : p.bitsPerFrame = p.bitsPerSample * p.channels.toNat
  chunkBytes_set : p.chunkBytes = mulSize w p.chunkSize p.bitsPerFrame / 8
  chunkBytes_eq : p.chunkBytes = p.chunkSize * p.bitsPerFrame / 8

lemma sized_iff : Sized w p ↔ 32 ≤ w ∧ 1 ≤ p.chunkSize ∧ 0 < p.bitsPerFrame ∧
    8 ∣ p.bitsPerFrame ∧ p.bitsPerFrame = p.bitsPerSample * p.channels.toNat ∧
    p.chunkBytes = mulSize w p.chunkSize p.bitsPerFrame / 8 ∧
    p.chunkBytes = p.chunkSize * p.bitsPerFrame / 8 :=
  ⟨fun ⟨h₁, h₂, h₃, h₄, h₅, h₆, h₇⟩ => ⟨h₁, h₂, h₃, h₄, h₅, h₆, h₇⟩,
    fun ⟨h₁, h₂, h₃, h₄, h₅, h₆, h₇⟩ => ⟨h₁, h₂, h₃, h₄, h₅, h₆, h₇⟩⟩

instance : Decidable (Sized w p) := decidable_of_iff' _ sized_iff

def Sized.container (h : Sized w p) : Container w where
  chunkSize := p.chunkSize
  channels := p.channels.toNat
  bitsPerSample := p.bitsPerSample
  bitsPerFrame := p.bitsPerFrame
  chunkBytes := p.chunkBytes
  wide := h.wide
  chunkSize_pos := h.chunkSize_pos
  bitsPerFrame_pos := h.bitsPerFrame_pos
  whole := h.whole
  bitsPerFrame_eq := h.bitsPerFrame_eq
  chunkBytes_set := h.chunkBytes_set
  chunkBytes_eq := h.chunkBytes_eq

lemma channels_of_valid (h : checkValid wav = 0) :
    wav.format.channels = 1 ∨ wav.format.channels = 2 := by
  by_contra hne
  rw [not_or] at hne
  rw [checkValid, if_pos] at h
  · exact absurd h (by decide)
  · exact .inr (.inr (.inr (.inr (.inl hne))))

/-- A format that a device accepts is as wide as the header says. -/
lemma Granted.width {format : PcmFormat} (h : Granted a wav format) (hdoc : a.Documented) :
    a.physicalWidth format = wav.format.sampleLength.toNat ∧
      (wav.format.sampleLength = 16 ∨ wav.format.sampleLength = 8) := by
  have hknown := h.known
  rw [getFormat] at hknown
  split_ifs at hknown with hpcm h16 h8
  · cases hknown
    rw [h16]
    exact ⟨hdoc.width_s16Le, .inl rfl⟩
  · cases hknown
    rw [h8]
    exact ⟨hdoc.width_u8, .inr rfl⟩
  · cases hknown
    have hset := h.setFormat
    have hrejects := hdoc.rejects
    omega

lemma bitsPerFrame_configured {format : PcmFormat} (hw : 32 ≤ w) (hdoc : a.Documented)
    (hvalid : checkValid wav = 0) (h : Granted a wav format) :
    (SndPcm.configured w a wav format).bitsPerSample = wav.format.sampleLength.toNat ∧
      (SndPcm.configured w a wav format).bitsPerFrame
        = wav.format.sampleLength.toNat * wav.format.channels.toNat ∧
      0 < wav.format.sampleLength.toNat * wav.format.channels.toNat ∧
      8 ∣ wav.format.sampleLength.toNat * wav.format.channels.toNat := by
  have hpow : 2 ^ 32 ≤ 2 ^ w := Nat.pow_le_pow_right (by omega) hw
  obtain ⟨hwidth, hlength⟩ := h.width hdoc
  have hsample : (SndPcm.configured w a wav format).bitsPerSample
      = wav.format.sampleLength.toNat := by
    have hsmall := wav.format.sampleLength.toNat_lt
    rw [SndPcm.configured, hwidth]
    exact toSize_natCast hw (by omega)
  have hframe : (SndPcm.configured w a wav format).bitsPerFrame
      = mulSize w (SndPcm.configured w a wav format).bitsPerSample wav.format.channels.toNat :=
    rfl
  refine ⟨hsample, ?_⟩
  rw [hframe, hsample, mulSize]
  rcases channels_of_valid hvalid with hc | hc <;> rcases hlength with hl | hl
  all_goals
    simp only [hc, hl, UInt16.reduceToNat]
    exact ⟨Nat.mod_eq_of_lt (by omega), by omega, by omega⟩

/-- **When the sizes are right.**  After `SNDWAV_SetParams` has succeeded with a valid header, a
frame has the bits the header says and `data_buf` is a block of `chunk_bytes`; and the sizes are
those of a container, with `chunk_bytes` the true size of a chunk, if and only if the period is not
empty and its size in bits is a `size_t`. -/
theorem setParams_sized_iff (w : ℕ) (a : Answers) (wav : WavContainer) (p : SndPcm) (hw : 32 ≤ w)
    (hdoc : a.Documented) (hvalid : checkValid wav = 0) (hset : (setParams w a wav p).1 = 0) :
    (setParams w a wav p).2.bitsPerFrame
        = wav.format.sampleLength.toNat * wav.format.channels.toNat ∧
      (setParams w a wav p).2.dataBuf = some (setParams w a wav p).2.chunkBytes ∧
      (Sized w (setParams w a wav p).2 ↔ 1 ≤ a.periodSize ∧
        a.periodSize * (wav.format.sampleLength.toNat * wav.format.channels.toNat) < 2 ^ w) := by
  rcases @setParams_spec w a wav p with ⟨-, format, hgranted, hfields⟩ | ⟨hfail, -⟩
  · obtain ⟨hsample, hframe, hpos, hwhole⟩ := bitsPerFrame_configured hw hdoc hvalid hgranted
    rw [hfields]
    refine ⟨hframe, rfl, ?_⟩
    constructor
    · intro hsized
      have hbits := hsized.container.chunkBits_lt
      exact ⟨hsized.chunkSize_pos, by rwa [← hframe]⟩
    · rintro ⟨hperiod, hbits⟩
      have hbytes : (SndPcm.configured w a wav format).chunkBytes
          = mulSize w a.periodSize (SndPcm.configured w a wav format).bitsPerFrame / 8 := rfl
      refine ⟨hw, hperiod, by rwa [hframe], by rwa [hframe], by rw [hframe, hsample]; rfl, hbytes,
        ?_⟩
      rw [hbytes, hframe, mulSize, Nat.mod_eq_of_lt hbits]
      rfl
  · omega

/-- A device with periods of two frames. -/
def device : Answers where
  any := 0
  setAccess := 0
  setFormat format := if format = .unknown then -22 else 0
  setChannels _ := 0
  setRateNear _ := 0
  getBufferTimeMax := (0, 500000)
  setBufferTimeNear _ := 0
  setPeriodTimeNear _ := 0
  hwParams := 0
  periodSize := 2
  bufferSize := 8
  physicalWidth format := if format = .s16Le then 16 else if format = .u8 then 8 else -22
  malloc _ := true

lemma device_documented : device.Documented := ⟨rfl, rfl, by decide⟩

/-- Eight bits stereo. -/
theorem setParams_sized_iff_device : Sized 32 (setParams 32 device fiveBytes .zero).2 :=
  (setParams_sized_iff 32 device fiveBytes .zero le_rfl device_documented (by decide)
    (by decide)).2.2.mpr (by decide)

end SndWav

import MuaHello.Lib.Ledger
import MuaHello.SndWav.Params

/-!
# `lrecord`

The program: its default header, its `main` with the error path, and what a run of it leaves in the
file.

The statement that sets `header.length` in `SNDWAV_PrepareWAVParams` (`lrecord.c` 56-57) contains
`+/` and does not compile.  Nothing that reads a file looks at the field, so that its value is a
parameter here, `headerLength`.  Of the environment nothing is assumed: a run that gets to the end
has met one in which everything was written, since `SNDWAV_Record` exits otherwise (`record_spec`).
-/

namespace SndWav

variable {w : ℕ}

/-! ## Opening the device -/

/-- What the programs acquire: the descriptor, the log, the PCM handle and the buffer. -/
inductive Resource where
  | file | log | handle | dataBuf
  deriving DecidableEq

/-- The results of the calls that both programs make before they transfer anything. -/
structure Setup where
  argc : ℤ
  openFile : ℤ
  attach : ℤ
  pcmOpen : ℤ
  answers : Answers

/-- The container of a program behind `SNDWAV_SetParams`: which of its pointers are set, what has
been acquired on the way, and whether there was no error. -/
structure Opened where
  entries : List (Ledger.Entry Resource)
  log : Bool
  handle : Bool
  pcm : SndPcm
  ok : Bool

/-- Nothing but the file has been opened. -/
def Opened.nothing : Opened := ⟨[], false, false, .zero, false⟩

/-- `snd_output_stdio_attach`, `snd_pcm_open` and `SNDWAV_SetParams`, up to the first error.  A call
into ALSA that fails leaves its pointer NULL. -/
def openDevice (w : ℕ) (env : Setup) (wav : WavContainer) : Opened :=
  if env.attach < 0 then .nothing
  else if env.pcmOpen < 0 then ⟨[.acquire .log], true, false, .zero, false⟩
  else
    let r := setParams w env.answers wav .zero
    let block := if r.2.dataBuf.isSome then [.acquire .dataBuf] else []
    ⟨[.acquire .log, .acquire .handle] ++ block, true, true, r.2, decide (0 ≤ r.1)⟩

/-- What is released behind `Err`. -/
def Opened.errReleases (d : Opened) : List (Ledger.Entry Resource) :=
  [.release .file] ++ (if d.pcm.dataBuf.isSome then [.release .dataBuf] else [])
    ++ (if d.log then [.release .log] else []) ++ (if d.handle then [.release .handle] else [])

/-- What is released at the end. -/
def releases : List (Ledger.Entry Resource) :=
  [.release .file, .release .dataBuf, .release .log, .release .handle]

/-- **Whatever was acquired is released**, on the error path as well as at the end. -/
lemma openDevice_balanced (env : Setup) (wav : WavContainer) :
    ((openDevice w env wav).ok = false → Ledger.Balanced
        (.acquire .file :: (openDevice w env wav).entries ++ (openDevice w env wav).errReleases)) ∧
      ((openDevice w env wav).ok = true →
        Ledger.Balanced (.acquire .file :: (openDevice w env wav).entries ++ releases)) := by
  rw [openDevice]
  split_ifs
  · exact ⟨fun _ => by decide, by simp [Opened.nothing]⟩
  · exact ⟨fun _ => by decide, by simp⟩
  · rcases @setParams_spec w env.answers wav .zero with ⟨hret, format, -, hfields⟩ | ⟨hret, hbuf⟩
    · have hblock : (SndPcm.configured w env.answers wav format).dataBuf.isSome = true := rfl
      simp only [hret, hfields, hblock, if_true]
      exact ⟨by simp, fun _ => by decide⟩
    · have hnone : (setParams w env.answers wav .zero).2.dataBuf.isSome = false := by
        rcases hbuf with hbuf | hbuf <;> rw [hbuf] <;> rfl
      simp only [Opened.errReleases, hret, hnone]
      exact ⟨fun _ => by decide, by simp⟩

lemma openDevice_ok {env : Setup} {wav : WavContainer} (h : (openDevice w env wav).ok = true) :
    ∃ format, Granted env.answers wav format ∧
      (openDevice w env wav).pcm = .configured w env.answers wav format := by
  by_cases hattach : env.attach < 0
  · rw [openDevice, if_pos hattach] at h
    simp [Opened.nothing] at h
  by_cases hopen : env.pcmOpen < 0
  · rw [openDevice, if_neg hattach, if_pos hopen] at h
    simp at h
  · rw [openDevice, if_neg hattach, if_neg hopen] at h ⊢
    rcases @setParams_spec w env.answers wav .zero with ⟨-, hset⟩ | ⟨hret, -⟩
    · exact hset
    · simp [hret] at h

/-! ## The program -/

/-- `SNDWAV_PrepareWAVParams`, with `headerLength` for the `header.length` of the statement that
does not compile. -/
def prepareWavParams (headerLength : UInt32) : WavContainer :=
  let channels : UInt16 := 2
  let sampleRate : UInt16 := 8000
  let sampleLength : UInt16 := 16
  let durationTime : UInt32 := 10
  let blocksAlign := UInt16.ofNat (channels.toNat * sampleLength.toNat / 8)
  let bytesPSecond := UInt32.ofNat (blocksAlign.toNat * sampleRate.toNat)
  { header := ⟨wavRiff, headerLength, wavWave⟩
    format := ⟨wavFmt, 16, wavFmtPcm, channels, sampleRate.toUInt32, bytesPSecond, blocksAlign,
      sampleLength⟩
    chunk := ⟨wavData, durationTime * bytesPSecond⟩ }

/-- What `lrecord` meets: the file of that name before it, whether `remove` succeeds the first and
the second time, and the answers of ALSA and `write`. -/
structure LrecordEnv (w : ℕ) extends Setup where
  old : Option (List UInt8)
  removed : Bool
  removedAgain : Bool
  headerLength : UInt32
  buf : ℕ → UInt8
  reads : ∀ c : Container w, List (Given c.frameBytes)
  writes : List WriteCall

/-- What it leaves: its result, the resources in order, the file, and what ALSA had delivered. -/
structure LrecordResult where
  ret : ℤ
  entries : List (Ledger.Entry Resource)
  file : Option (List UInt8)
  delivered : List UInt8

/-- `remove(filename)` -/
def remove (removed : Bool) (file : Option (List UInt8)) : Option (List UInt8) :=
  if removed then none else file

/-- A file after `data` has been written to its start. -/
def overwrite (old data : List UInt8) : List UInt8 := data ++ old.drop data.length

/-- `main` of `lrecord`.  A run whose chunk is not a number of bytes in a `size_t` is not
followed. -/
def lrecord (env : LrecordEnv w) (fuel : ℕ) : Outcome LrecordResult :=
  if env.argc ≠ 2 then return ⟨-1, [], env.old, []⟩
  else
    let file := remove env.removed env.old
    if env.openFile = -1 then return ⟨-1, [], file, []⟩
    else
      let old := file.getD []
      let wav := prepareWavParams env.headerLength
      let d := openDevice w env.toSetup wav
      let entries := .acquire .file :: d.entries
      if d.ok = false then
        return ⟨-1, entries ++ d.errReleases, remove env.removedAgain (some old), []⟩
      else if h : Sized w d.pcm then do
        let u ← record h.container fuel wav
          ⟨[], env.buf, [], [], env.reads h.container, env.writes⟩
        return ⟨0, entries ++ releases, some (overwrite old u.file), u.delivered⟩
      else .waiting

/-- What a run of `lrecord` leaves behind: the header and ten seconds of what ALSA delivered at the
start of the file, or no file if it could be removed. -/
def LrecordEnds (env : LrecordEnv w) (r : LrecordResult) : Prop :=
  r.ret = 0 ∧ 320000 ≤ r.delivered.length ∧
      r.file = some (overwrite ((remove env.removed env.old).getD [])
        ((prepareWavParams env.headerLength).bytes ++ r.delivered.take 320000)) ∨
    r.ret = -1 ∧ (env.argc = 2 → env.removed = true → env.removedAgain = true → r.file = none)

/-- **A run of `lrecord`** that returns has released what it acquired. -/
lemma lrecord_spec {env : LrecordEnv w} {fuel : ℕ} {r : LrecordResult}
    (hrun : lrecord env fuel = .returned r) :
    Ledger.Balanced r.entries ∧ LrecordEnds env r := by
  obtain ⟨herr, hend⟩ :=
    @openDevice_balanced w env.toSetup (prepareWavParams env.headerLength)
  have hremove : ∀ removed file, removed = true → remove removed file = none :=
    fun removed file h => if_pos h
  rw [lrecord] at hrun
  split_ifs at hrun with hargc hopen
  · cases hrun
    exact ⟨rfl, .inr ⟨rfl, fun h => absurd h hargc⟩⟩
  · cases hrun
    exact ⟨rfl, .inr ⟨rfl, fun _ hremoved _ => hremove _ _ hremoved⟩⟩
  simp only at hrun
  split_ifs at hrun with hok hsized
  · cases hrun
    exact ⟨herr hok, .inr ⟨rfl, fun _ _ hagain => hremove _ _ hagain⟩⟩
  · rw [Outcome.bind_returned] at hrun
    obtain ⟨u, hrecord, hret⟩ := hrun
    cases hret
    obtain ⟨-, hfile, hdel, -⟩ := record_spec rfl rfl rfl hrecord
    have hlength : (prepareWavParams env.headerLength).chunk.length.toNat = 320000 := rfl
    rw [hlength] at hfile hdel
    exact ⟨hend (by simpa using hok), .inl ⟨rfl, hdel, by rw [hfile]⟩⟩

end SndWav

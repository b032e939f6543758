import Mathlib

/-!
# The WAV header

`WAVContainer_t` of `wav_parser.h` and the test of `wav_parser.c`, on a little-endian host: the
bytes of a structure in memory, which is what `WAV_WriteHeader` puts into the file, are its fields
in order, each with its low byte first, and there is no padding between them.
-/

namespace SndWav

/-- `COMPOSE_ID` -/
def composeId (a b c d : Char) : UInt32 := a.val ||| b.val <<< 8 ||| c.val <<< 16 ||| d.val <<< 24

def wavRiff : UInt32 := composeId 'R' 'I' 'F' 'F'
def wavWave : UInt32 := composeId 'W' 'A' 'V' 'E'
def wavFmt : UInt32 := composeId 'f' 'm' 't' ' '
def wavData : UInt32 := composeId 'd' 'a' 't' 'a'

/-- `WAVHeader_t` -/
structure WavHeader where
  magic : UInt32
  length : UInt32
  type : UInt32

/-- `WAVFmt_t` -/
structure WavFmt where
  magic : UInt32
  fmtSize : UInt32
  format : UInt16
  channels : UInt16
  sampleRate : UInt32
  bytesPSecond : UInt32
  blocksAlign : UInt16
  sampleLength : UInt16

/-- `WAVChunkHeader_t` -/
structure WavChunkHeader where
  type : UInt32
  length : UInt32

/-- `WAVContainer_t` -/
structure WavContainer where
  header : WavHeader
  format : WavFmt
  chunk : WavChunkHeader

/-- `WAV_P_CheckValid` -/
def checkValid (container : WavContainer) : ℤ :=
  if container.header.magic ≠ wavRiff ∨
      container.header.type ≠ wavWave ∨
      container.format.magic ≠ wavFmt ∨
      container.format.fmtSize ≠ 16 ∨
      (container.format.channels ≠ 1 ∧ container.format.channels ≠ 2) ∨
      container.chunk.type ≠ wavData then -1
  else 0

lemma checkValid_eq_zero {wav : WavContainer} (h : ¬ checkValid wav < 0) : checkValid wav = 0 := by
  rw [checkValid] at h ⊢
  split_ifs at h ⊢
  · exact absurd (by decide) h
  · rfl

/-! ## Bytes in memory -/

def le16 (v : UInt16) : List UInt8 := [v.toUInt8, (v >>> 8).toUInt8]

def le32 (v : UInt32) : List UInt8 :=
  [v.toUInt8, (v >>> 8).toUInt8, (v >>> 16).toUInt8, (v >>> 24).toUInt8]

def WavHeader.bytes (h : WavHeader) : List UInt8 := le32 h.magic ++ le32 h.length ++ le32 h.type

def WavFmt.bytes (f : WavFmt) : List UInt8 :=
  le32 f.magic ++ le32 f.fmtSize ++ le16 f.format ++ le16 f.channels ++ le32 f.sampleRate
    ++ le32 f.bytesPSecond ++ le16 f.blocksAlign ++ le16 f.sampleLength

def WavChunkHeader.bytes (k : WavChunkHeader) : List UInt8 := le32 k.type ++ le32 k.length

def WavContainer.bytes (container : WavContainer) : List UInt8 :=
  container.header.bytes ++ container.format.bytes ++ container.chunk.bytes

@[simp] lemma WavHeader.length_bytes (h : WavHeader) : h.bytes.length = 12 := rfl

@[simp] lemma WavFmt.length_bytes (f : WavFmt) : f.bytes.length = 24 := rfl

@[simp] lemma WavChunkHeader.length_bytes (k : WavChunkHeader) : k.bytes.length = 8 := rfl

lemma WavContainer.length_bytes (container : WavContainer) : container.bytes.length = 44 := rfl

end SndWav

import MuaHello.Lib.Loop
import MuaHello.Lib.Slice

/-!
# Transfers to and from ALSA

The part of `sndwav_common.c` that playing and recording share: the container, with the sizes
`SNDWAV_SetParams` computes, and the two loops `SNDWAV_WritePcm` and `SNDWAV_ReadPcm` around
`snd_pcm_writei` and `snd_pcm_readi`.

* `size_t` has `w` bits.  Its products are reduced modulo `2 ^ w` as the machine does;
  `Container.byteOffset_eq` shows that none of those the loops form wraps.
* `data_buf` is a memory.  Every access to it is recorded in `touched` with the range the callee
  was offered.
* What ALSA answers is a script.  It takes or gives some frames, at most those it was offered, or
  fails with an error number.  `snd_pcm_wait` and `snd_pcm_prepare` move no data.
-/

namespace SndWav

/-! ## C arithmetic -/

/-- Conversion to a 32-bit `int`. -/
def toInt32 (x : ℤ) : ℤ := x.bmod (2 ^ 32)

/-- Conversion to `size_t`. -/
def toSize (w : ℕ) (x : ℤ) : ℕ := (x % 2 ^ w).toNat

/-- A product of `size_t` values. -/
def mulSize (w a b : ℕ) : ℕ := a * b % 2 ^ w

lemma toInt32_natCast {n : ℕ} (h : n < 2 ^ 31) : toInt32 n = n := by
  rw [toInt32]
  exact Int.bmod_eq_of_le (by omega) (by omega)

lemma toSize_lt (w : ℕ) (x : ℤ) : toSize w x < 2 ^ w := by
  have hcast : ((2 : ℤ) ^ w) = ((2 ^ w : ℕ) : ℤ) := by push_cast; rfl
  have hrem := Int.emod_lt_of_pos x (show (0 : ℤ) < 2 ^ w by positivity)
  have hpos := Nat.two_pow_pos w
  rw [toSize]
  omega

lemma toSize_of_lt {w n : ℕ} (h : n < 2 ^ w) : toSize w n = n := by
  have hcast : ((n : ℤ) % 2 ^ w) = ((n % 2 ^ w : ℕ) : ℤ) := by push_cast; rfl
  rw [toSize, hcast, Int.toNat_natCast, Nat.mod_eq_of_lt h]

lemma toSize_natCast {w n : ℕ} (hw : 32 ≤ w) (h : n < 2 ^ 32) : toSize w n = n :=
  toSize_of_lt (h.trans_le (Nat.pow_le_pow_right (by omega) hw))

/-! ## The container -/

/-- `SNDPCMContainer_t` after `SNDWAV_SetParams`: sizes in frames, bits and bytes.  The last two
fields say of `chunk_bytes` how it was computed and that it is the size of a chunk. -/
structure Container (w : ℕ) where
  chunkSize : ℕ
  channels : ℕ
  bitsPerSample : ℕ
  bitsPerFrame : ℕ
  chunkBytes : ℕ
  wide : 32 ≤ w
  chunkSize_pos : 1 ≤ chunkSize
  bitsPerFrame_pos : 0 < bitsPerFrame
  whole : 8 ∣ bitsPerFrame
  bitsPerFrame_eq : bitsPerFrame = bitsPerSample * channels
  chunkBytes_set : chunkBytes = mulSize w chunkSize bitsPerFrame / 8
  chunkBytes_eq : chunkBytes = chunkSize * bitsPerFrame / 8

namespace Container

lemma wide_32 : 32 ≤ 32 := le_rfl

lemma two_frames_pos : 1 ≤ 2 := Nat.one_lt_two.le

variable {w : ℕ} (c : Container w)

/-- The size of a frame in bytes. -/
def frameBytes : ℕ := c.bitsPerFrame / 8

/-- `n * sndpcm->bits_per_frame / 8` -/
def byteOffset (n : ℕ) : ℕ := mulSize w n c.bitsPerFrame / 8

lemma bitsPerFrame_frameBytes : c.bitsPerFrame = 8 * c.frameBytes :=
  (Nat.mul_div_cancel' c.whole).symm

lemma frameBytes_pos : 0 < c.frameBytes := by
  have hpos := c.bitsPerFrame_pos
  rw [c.bitsPerFrame_frameBytes] at hpos
  omega

lemma chunkBytes_frames : c.chunkBytes = c.chunkSize * c.frameBytes := by
  rw [c.chunkBytes_eq, c.bitsPerFrame_frameBytes, Nat.mul_left_comm]
  exact Nat.mul_div_cancel_left _ (by omega)

/-- The product `chunk_size * bits_per_frame` did not wrap. -/
lemma chunkBits_lt : c.chunkSize * c.bitsPerFrame < 2 ^ w := by
  have hset := c.chunkBytes_set
  have hpow : 2 ^ w = 8 * 2 ^ (w - 3) := by
    have hw : w = 3 + (w - 3) := by have hwide := c.wide; omega
    rw [hw, Nat.pow_add, Nat.add_sub_cancel_left]
  rw [c.chunkBytes_frames, mulSize, c.bitsPerFrame_frameBytes, Nat.mul_left_comm, hpow,
    Nat.mul_mod_mul_left, Nat.mul_div_cancel_left _ (by omega)] at hset
  rw [c.bitsPerFrame_frameBytes, Nat.mul_left_comm, hpow]
  have hlt := Nat.mod_lt (c.chunkSize * c.frameBytes) (Nat.two_pow_pos (w - 3))
  omega

lemma chunkBytes_lt : 8 * c.chunkBytes < 2 ^ w := by
  have hbits := c.chunkBits_lt
  rwa [c.bitsPerFrame_frameBytes, Nat.mul_left_comm, ← c.chunkBytes_frames] at hbits

/-- **Byte offsets within a chunk are exact.** -/
lemma byteOffset_eq {n : ℕ} (h : n ≤ c.chunkSize) : c.byteOffset n = n * c.frameBytes := by
  have hbits := c.chunkBits_lt
  have hle : n * c.bitsPerFrame ≤ c.chunkSize * c.bitsPerFrame := Nat.mul_le_mul_right _ h
  rw [byteOffset, mulSize, Nat.mod_eq_of_lt (by omega), c.bitsPerFrame_frameBytes,
    Nat.mul_left_comm]
  exact Nat.mul_div_cancel_left _ (by omega)

end Container

/-! ## The answers of ALSA -/

abbrev eAgain : ℤ := 11
abbrev ePipe : ℤ := 32
abbrev eStrpipe : ℤ := 86

/-- What the two transfer loops do about a result `r` of a call that was offered `count` frames. -/
inductive Reaction where
  | wait
  | prepare
  | suspend
  | exit
  | none
  deriving DecidableEq

/-- The chain of tests both loops make. -/
def react (r : ℤ) (count : ℕ) : Reaction :=
  if r = -eAgain ∨ 0 ≤ r ∧ r.toNat < count then .wait
  else if r = -ePipe then .prepare
  else if r = -eStrpipe then .suspend
  else if r < 0 then .exit
  else .none

/-- The errors the loops go on after. -/
def Tolerated (r : ℤ) : Prop := 0 ≤ r ∨ r = -eAgain ∨ r = -ePipe ∨ r = -eStrpipe

lemma react_ne_exit {r : ℤ} {count : ℕ} (h : Tolerated r) : react r count ≠ .exit := by
  rw [react]
  split_ifs with h₁ h₂ h₃ h₄
  · exact Reaction.noConfusion
  · exact Reaction.noConfusion
  · exact Reaction.noConfusion
  · rcases h with h | h | h | h
    · omega
    · exact absurd (.inl h) h₁
    · exact absurd h h₂
    · exact absurd h h₃
  · exact Reaction.noConfusion

/-- The variables of a transfer loop, and the world it works on. -/
structure Cursor (ω : Type) where
  world : ω
  off : ℕ
  result : ℤ

/-- Every access stays below `limit`. -/
def Within (limit : ℕ) (touched : List (ℕ × ℕ)) : Prop := ∀ r ∈ touched, r.1 + r.2 ≤ limit

lemma Within.append {limit off len : ℕ} {touched : List (ℕ × ℕ)} (h : Within limit touched)
    (hin : off + len ≤ limit) : Within limit (touched ++ [(off, len)]) := by
  intro r hr
  rcases List.mem_append.mp hr with hr | hr
  · exact h r hr
  · rw [List.mem_singleton] at hr
    rw [hr]
    exact hin

end SndWav

import MuaHello.SndWav.Header
import MuaHello.SndWav.Pcm

/-!
# Recording

`SNDWAV_Record` of `lrecord.c`, with `SNDWAV_ReadPcm` and `WAV_WriteHeader`.

`SNDWAV_ReadPcm` fills a whole chunk whatever it is asked for (`readPcm_spec`), so the loop of
`SNDWAV_Record` consumes whole chunks of what ALSA delivers and cuts the last one when it writes
it.  `Recorded` is the invariant that says so, whatever the environment does (`record_spec`); what a
benign environment adds is that the program does not exit, and `record_file` puts the two together.
-/

namespace SndWav

/-- A frame of `n` bytes. -/
structure Frame (n : ℕ) where
  bytes : List UInt8
  length_bytes : bytes.length = n

/-- What one `snd_pcm_readi` does: it gives some frames, at most those asked for, or fails with
`-(e + 1)`. -/
inductive Given (n : ℕ) where
  | frames (fs : List (Frame n))
  | error (e : ℕ)

namespace Given

variable {n : ℕ}

def taken (g : Given n) (request : ℕ) : List (Frame n) :=
  match g with
  | frames fs => fs.take request
  | error _ => []

def ret (g : Given n) (request : ℕ) : ℤ :=
  match g with
  | frames _ => (g.taken request).length
  | error e => -(e + 1 : ℕ)

end Given

/-- What one `write` does: all of it, the first bytes of it, or nothing and an error. -/
inductive WriteCall where
  | full
  | short (n : ℕ)
  | failed
  deriving DecidableEq

/-- The world `SNDWAV_Record` works on: the file, `data_buf`, the bytes ALSA has delivered, the
accesses to `data_buf`, and the answers to come. -/
structure Capture (n : ℕ) where
  file : List UInt8
  buf : ℕ → UInt8
  delivered : List UInt8
  touched : List (ℕ × ℕ)
  reads : List (Given n)
  writes : List WriteCall

/-- `write(fd, data, sizeof data)` -/
def Capture.write {n : ℕ} (u : Capture n) (data : List UInt8) : Outcome (ℤ × Capture n) :=
  match u.writes with
  | [] => .waiting
  | .full :: rest => return ((data.length : ℤ), { u with file := u.file ++ data, writes := rest })
  | .short k :: rest =>
      return (((data.take k).length : ℤ), { u with file := u.file ++ data.take k, writes := rest })
  | .failed :: rest => return (-1, { u with writes := rest })

/-! ## The code -/

section Code

variable {w : ℕ} (c : Container w)

/-- The world of a recording with the container `c`. -/
abbrev Recorder : Type := Capture c.frameBytes

/-- The body of the loop of `SNDWAV_ReadPcm` -/
def readPcmTurn (g : Given c.frameBytes) (s : Cursor (Recorder c)) (count : ℕ) :
    Turn (Cursor (Recorder c)) :=
  let r := g.ret count
  let bytes := (g.taken count).flatMap Frame.bytes
  let u := { s.world with
    buf := blit s.world.buf s.off bytes
    delivered := s.world.delivered ++ bytes
    touched := s.world.touched ++ [(s.off, count * c.frameBytes)] }
  if react r count = .exit then .exited
  else if r > 0 then .moved ⟨u, s.off + c.byteOffset r.toNat, s.result + r⟩ r.toNat
  else .moved { s with world := u } 0

/-- `SNDWAV_ReadPcm` -/
def readPcm (u : Recorder c) (rcount : ℕ) : Outcome (ℤ × Recorder c) := do
  let count := if rcount ≠ c.chunkSize then c.chunkSize else rcount
  let (s, reads) ← transfer (readPcmTurn c) u.reads ⟨u, 0, 0⟩ count
  return ((rcount : ℤ).bmod (2 ^ w), { s.world with reads := reads })

/-- `WAV_WriteHeader` -/
def writeHeader {n : ℕ} (u : Capture n) (container : WavContainer) : Outcome (ℤ × Capture n) :=
  if checkValid container < 0 then return (-1, u)
  else do
    let (res, u) ← u.write container.header.bytes
    if res ≠ 12 then return (-1, u)
    else
      let (res, u) ← u.write container.format.bytes
      if res ≠ 24 then return (-1, u)
      else
        let (res, u) ← u.write container.chunk.bytes
        if res ≠ 8 then return (-1, u) else return (0, u)

/-- The second half of a round of the loop of `SNDWAV_Record`, when `SNDWAV_ReadPcm` has returned
`res` -/
def recordChunk (rest : ℤ) (n frameSize : ℕ) (res : ℤ) (u : Recorder c) :
    Outcome ((Recorder c × ℤ) × Bool) :=
  if toSize w res ≠ frameSize then return ((u, rest), false)
  else do
    let (ret, u) ← u.write (slice u.buf 0 n)
    if toSize w ret ≠ n then .exited else return ((u, rest - n), true)

/-- A round of the loop of `SNDWAV_Record` -/
def recordBody (s : Recorder c × ℤ) : Outcome ((Recorder c × ℤ) × Bool) :=
  let (u, rest) := s
  if rest > 0 then do
    let n := if rest ≤ c.chunkBytes then toSize w rest else c.chunkBytes
    let frameSize := mulSize w n 8 / c.bitsPerFrame
    let (res, u) ← readPcm c u frameSize
    recordChunk c rest n frameSize res u
  else return (s, false)

/-- `SNDWAV_Record` -/
def record (fuel : ℕ) (wav : WavContainer) (u : Recorder c) : Outcome (Recorder c) := do
  let (res, u) ← writeHeader u wav
  if res < 0 then .exited
  else
    let (u, _) ← repeatLoop (recordBody c) fuel (u, (wav.chunk.length.toNat : ℤ))
    return u

end Code

/-! ## Filling a chunk -/

variable {w : ℕ} {c : Container w} {u v : Recorder c}

lemma length_frames (fs : List (Frame c.frameBytes)) :
    (fs.flatMap Frame.bytes).length = fs.length * c.frameBytes := by
  induction fs with
  | nil => simp
  | cons f fs ih =>
      rw [List.flatMap_cons, List.length_append, f.length_bytes, ih, List.length_cons,
        Nat.succ_mul, Nat.add_comm]

lemma Given.taken_le {n : ℕ} (g : Given n) (request : ℕ) :
    (g.taken request).length ≤ request := by
  cases g with
  | frames fs => exact List.length_take_le request fs
  | error e => exact Nat.zero_le request

lemma Given.toNat_ret {n : ℕ} (g : Given n) (request : ℕ) :
    (g.ret request).toNat = (g.taken request).length := by
  cases g with
  | frames fs => rfl
  | error e =>
      rw [ret, taken, List.length_nil]
      omega

/-- `v` is `u` after ALSA has delivered the bytes `l` into the buffer. -/
structure Collected (c : Container w) (u : Recorder c) (l : List UInt8) (v : Recorder c) :
    Prop where
  holds : Holds v.buf 0 l
  delivered : v.delivered = u.delivered ++ l
  file : v.file = u.file
  writes : v.writes = u.writes
  within : Within c.chunkBytes u.touched → Within c.chunkBytes v.touched

/-- The invariant of the loop of `SNDWAV_ReadPcm`. -/
def Collecting (c : Container w) (u : Recorder c) (s : Cursor (Recorder c)) (n : ℕ) : Prop :=
  ∃ (k : ℕ) (l : List UInt8), k + n = c.chunkSize ∧ l.length = k * c.frameBytes ∧
    s.off = k * c.frameBytes ∧ Collected c u l s.world

/-- **One `snd_pcm_readi`**, whatever it answers. -/
lemma readPcmTurn_keeps (g : Given c.frameBytes) (s : Cursor (Recorder c)) (n : ℕ)
    (h : Collecting c u s n) :
    (readPcmTurn c g s n).Keeps (Collecting c u)
      (fun s => ∃ l, l.length = c.chunkBytes ∧ Collected c u l s.world) n := by
  obtain ⟨k, l, hk, hlen, hoff, hcoll⟩ := h
  have hle := g.taken_le n
  have hret := g.toNat_ret n
  have hbytes := length_frames (g.taken n)
  have hin : s.off + n * c.frameBytes ≤ c.chunkBytes := by
    rw [hoff, ← Nat.add_mul, hk, c.chunkBytes_frames]
  have hnext : Collected c u (l ++ (g.taken n).flatMap Frame.bytes)
      { s.world with
        buf := blit s.world.buf s.off ((g.taken n).flatMap Frame.bytes)
        delivered := s.world.delivered ++ (g.taken n).flatMap Frame.bytes
        touched := s.world.touched ++ [(s.off, n * c.frameBytes)] } := by
    refine ⟨?_, ?_, hcoll.file, hcoll.writes, fun hw => (hcoll.within hw).append hin⟩
    · rw [holds_append, Nat.zero_add, hlen, ← hoff]
      exact ⟨hcoll.holds.blit (by rw [hlen, hoff]) _, holds_blit _ _ _⟩
    · rw [hcoll.delivered, List.append_assoc]
  have hsum : (l ++ (g.taken n).flatMap Frame.bytes).length
      = (k + (g.ret n).toNat) * c.frameBytes := by
    rw [List.length_append, hlen, hbytes, hret, Nat.add_mul]
  rw [readPcmTurn]
  split_ifs with hexit hpos
  · trivial
  · refine ⟨k + (g.ret n).toNat, _, by omega, hsum, ?_, hnext⟩
    rw [hoff, c.byteOffset_eq (by omega), Nat.add_mul]
  · refine ⟨k, _, by omega, ?_, hoff, hnext⟩
    rw [hsum, show (g.ret n).toNat = 0 by omega, Nat.add_zero]

/-- **`SNDWAV_ReadPcm`** fills a chunk and returns what it was asked for. -/
lemma readPcm_spec {rcount : ℕ} {res : ℤ}
    (hrun : readPcm c u rcount = .returned (res, v)) :
    res = (rcount : ℤ).bmod (2 ^ w) ∧ v.reads <:+ u.reads ∧
      ∃ l, l.length = c.chunkBytes ∧ Collected c u l v := by
  have hcount : (if rcount ≠ c.chunkSize then c.chunkSize else rcount) = c.chunkSize := by
    split_ifs with h
    · rfl
    · exact not_not.mp h
  rw [readPcm] at hrun
  simp only [hcount] at hrun
  rw [Outcome.bind_returned] at hrun
  obtain ⟨⟨s, reads⟩, hloop, hret⟩ := hrun
  cases hret
  obtain ⟨⟨l, hlen, hcoll⟩, hsuffix⟩ := transfer_rule (Collecting c u)
    (fun s => ∃ l, l.length = c.chunkBytes ∧ Collected c u l s.world)
    (fun g s n _ h => readPcmTurn_keeps g s n h)
    (fun s ⟨k, l, hk, hlen, _, hcoll⟩ => ⟨l, by
      rw [hlen, c.chunkBytes_frames, ← hk, Nat.add_zero], hcoll⟩)
    ⟨0, [], Nat.zero_add _, (Nat.zero_mul _).symm, (Nat.zero_mul _).symm,
      holds_nil, (List.append_nil _).symm, rfl, rfl, id⟩ hloop
  exact ⟨rfl, hsuffix, l, hlen, ⟨hcoll.holds, hcoll.delivered, hcoll.file, hcoll.writes,
    hcoll.within⟩⟩

/-- The loop of `SNDWAV_ReadPcm` goes on after everything but an unknown error. -/
lemma readPcm_ne_exited {rcount : ℕ}
    (h : ∀ g ∈ u.reads, ∀ request, Tolerated (g.ret request)) :
    readPcm c u rcount ≠ .exited := by
  have hturn : ∀ g ∈ u.reads, ∀ s n, readPcmTurn c g s n ≠ .exited := by
    intro g hg s n
    rw [readPcmTurn, if_neg (react_ne_exit (h g hg n))]
    split_ifs <;> exact nofun
  rw [readPcm, ne_eq, Outcome.bind_exited]
  rintro (hloop | ⟨a, -, hret⟩)
  · exact transfer_ne_exited hturn hloop
  · exact nomatch hret

/-! ## Writing -/

/-- The environment the recording is claimed to work in. -/
structure Benign {n : ℕ} (u : Capture n) : Prop where
  full : ∀ x ∈ u.writes, x = .full
  tolerated : ∀ g ∈ u.reads, ∀ request, Tolerated (g.ret request)

/-- Between `u` and `v` nothing but `write` has been called. -/
structure Kept {n : ℕ} (u v : Capture n) : Prop where
  delivered : v.delivered = u.delivered
  touched : v.touched = u.touched
  reads : v.reads = u.reads
  writes : v.writes <:+ u.writes

/-- What a `write` of `data` leaves that has returned `res`. -/
structure Written {n : ℕ} (u : Capture n) (data : List UInt8) (res : ℤ) (v : Capture n) : Prop
    extends Kept u v where
  result : res = -1 ∨ ∃ k : ℕ, res = k ∧ k ≤ data.length
  complete : res = data.length → v.file = u.file ++ data
  full : Benign u → res = data.length

/-- What a `WAV_WriteHeader` leaves that has returned `res`. -/
structure Headed {n : ℕ} (u : Capture n) (wav : WavContainer) (res : ℤ) (v : Capture n) : Prop
    extends Kept u v where
  result : res = 0 ∨ res = -1
  complete : res = 0 → v.file = u.file ++ wav.bytes ∧ checkValid wav = 0
  full : Benign u → checkValid wav = 0 → res = 0

section Writing

variable {n : ℕ} {u v v' : Capture n} {data : List UInt8} {res : ℤ} {wav : WavContainer}

lemma Kept.trans (h : Kept u v) (h' : Kept v v') : Kept u v' :=
  ⟨h'.delivered.trans h.delivered, h'.touched.trans h.touched, h'.reads.trans h.reads,
    h'.writes.trans h.writes⟩

lemma Kept.benign (h : Kept u v) (hu : Benign u) : Benign v := by
  refine ⟨fun x hx => hu.full x (h.writes.subset hx), ?_⟩
  rw [h.reads]
  exact hu.tolerated

/-- **`write`**, whatever it does. -/
lemma Capture.write_spec (h : u.write data = .returned (res, v)) : Written u data res v := by
  rw [write] at h
  cases hwrites : u.writes with
  | nil =>
      rw [hwrites] at h
      cases h
  | cons x rest =>
      have hkept : ∀ file, Kept u { u with file, writes := rest } := fun file =>
        ⟨rfl, rfl, rfl, by rw [hwrites]; exact List.suffix_cons x rest⟩
      have hfull : Benign u → x = .full := fun hu =>
        hu.full x (by rw [hwrites]; exact List.mem_cons_self)
      rw [hwrites] at h
      cases x with
      | full =>
          cases h
          exact ⟨hkept _, .inr ⟨_, rfl, le_rfl⟩, fun _ => rfl, fun _ => rfl⟩
      | short k =>
          cases h
          refine ⟨hkept _, .inr ⟨_, rfl, List.length_take_le' k data⟩, ?_, ?_⟩
          · intro hall
            rw [Nat.cast_inj, List.length_take] at hall
            rw [List.take_of_length_le (by omega)]
          · intro hu
            cases hfull hu
      | failed =>
          cases h
          refine ⟨hkept _, .inl rfl, ?_, ?_⟩
          · intro hall
            omega
          · intro hu
            cases hfull hu

lemma Capture.write_ne_exited : u.write data ≠ .exited := by
  rw [write]
  cases u.writes with
  | nil => simp
  | cons x rest => cases x <;> simp [pure]

/-- **`WAV_WriteHeader`** reports success only for a valid container, written whole. -/
lemma writeHeader_spec (h : writeHeader u wav = .returned (res, v)) : Headed u wav res v := by
  rw [writeHeader] at h
  split_ifs at h with hvalid
  · cases h
    refine ⟨⟨rfl, rfl, rfl, List.suffix_rfl⟩, .inr rfl, by simp, fun _ hzero => ?_⟩
    omega
  rw [Outcome.bind_returned] at h
  obtain ⟨⟨res₁, u₁⟩, hwrite₁, h⟩ := h
  have h₁ := Capture.write_spec hwrite₁
  simp only at h
  split_ifs at h with hres₁
  · cases h
    exact ⟨h₁.toKept, .inr rfl, by simp, fun hu _ => absurd (h₁.full hu) hres₁⟩
  rw [Outcome.bind_returned] at h
  obtain ⟨⟨res₂, u₂⟩, hwrite₂, h⟩ := h
  have h₂ := Capture.write_spec hwrite₂
  have hkept₂ := h₁.toKept.trans h₂.toKept
  simp only at h
  split_ifs at h with hres₂
  · cases h
    exact ⟨hkept₂, .inr rfl, by simp,
      fun hu _ => absurd (h₂.full (h₁.toKept.benign hu)) hres₂⟩
  rw [Outcome.bind_returned] at h
  obtain ⟨⟨res₃, u₃⟩, hwrite₃, h⟩ := h
  have h₃ := Capture.write_spec hwrite₃
  have hkept₃ := hkept₂.trans h₃.toKept
  simp only at h
  split_ifs at h with hres₃ <;> cases h
  · exact ⟨hkept₃, .inr rfl, by simp, fun hu _ => absurd (h₃.full (hkept₂.benign hu)) hres₃⟩
  · refine ⟨hkept₃, .inl rfl, fun _ => ⟨?_, checkValid_eq_zero hvalid⟩, fun _ _ => rfl⟩
    rw [h₃.complete (not_not.mp hres₃), h₂.complete (not_not.mp hres₂),
      h₁.complete (not_not.mp hres₁), WavContainer.bytes, List.append_assoc, List.append_assoc,
      List.append_assoc]

lemma writeHeader_ne_exited : writeHeader u wav ≠ .exited := by
  intro h
  rw [writeHeader] at h
  split_ifs at h
  rcases Outcome.bind_exited.mp h with hwrite | ⟨⟨res₁, u₁⟩, -, h⟩
  · exact Capture.write_ne_exited hwrite
  simp only at h
  split_ifs at h
  rcases Outcome.bind_exited.mp h with hwrite | ⟨⟨res₂, u₂⟩, -, h⟩
  · exact Capture.write_ne_exited hwrite
  simp only at h
  split_ifs at h
  rcases Outcome.bind_exited.mp h with hwrite | ⟨⟨res₃, u₃⟩, -, h⟩
  · exact Capture.write_ne_exited hwrite
  simp only at h
  split_ifs at h

end Writing

/-! ## The loop -/

/-- A result of `SNDWAV_ReadPcm` is compared as what it was before the conversion to `ssize_t`. -/
lemma toSize_bmod {n : ℕ} (h : n < 2 ^ w) : toSize w ((n : ℤ).bmod (2 ^ w)) = n := by
  have hcast : ((2 ^ w : ℕ) : ℤ) = 2 ^ w := by push_cast; rfl
  have hmod : toSize w ((n : ℤ).bmod (2 ^ w)) = toSize w n := by
    rw [toSize, ← hcast, Int.bmod_emod, hcast, toSize]
  exact hmod.trans (toSize_of_lt h)

/-- A `size_t` that is compared with the result of `write` is its length only if all was written. -/
lemma toSize_write {n : ℕ} {res : ℤ} (hw : 32 ≤ w) (hn : 8 * n < 2 ^ w)
    (hres : res = -1 ∨ ∃ k : ℕ, res = k ∧ k ≤ n) (h : toSize w res = n) : res = n := by
  have hpow : 2 ^ 32 ≤ 2 ^ w := Nat.pow_le_pow_right (by omega) hw
  rcases hres with rfl | ⟨k, rfl, hk⟩
  · -- a failed `write` gives the largest `size_t`
    have hcast : ((2 : ℤ) ^ w) = ((2 ^ w : ℕ) : ℤ) := by push_cast; rfl
    rw [toSize, hcast, ← Int.add_emod_right, Int.emod_eq_of_lt (by omega) (by omega)] at h
    omega
  · rw [toSize_of_lt (by omega)] at h
    rw [h]

/-- The invariant of the loop of `SNDWAV_Record`: `j` chunks have been delivered, and their bytes
written as far as the data length `L` goes. -/
structure Recorded (c : Container w) (head : List UInt8) (L : ℕ) (s : Recorder c × ℤ) :
    Prop where
  chunks : ∃ j : ℕ, s.1.delivered.length = j * c.chunkBytes ∧
    s.2 = ((L - j * c.chunkBytes : ℕ) : ℤ)
  file : s.1.file = head ++ s.1.delivered.take L
  within : Within c.chunkBytes s.1.touched

/-- **The rest of a round**, when a chunk `l` has been delivered: as much of it as is missing is
written. -/
lemma recordChunk_spec {head l : List UInt8} {L j frameSize : ℕ} {t : Recorder c × ℤ}
    {more : Bool} (hsize : frameSize < 2 ^ w)
    (hdel : u.delivered.length = j * c.chunkBytes) (hmore : j * c.chunkBytes < L)
    (hfile : u.file = head ++ u.delivered.take L) (hwithin : Within c.chunkBytes u.touched)
    (hl : l.length = c.chunkBytes) (hcoll : Collected c u l v)
    (hrun : recordChunk c (L - j * c.chunkBytes : ℕ) (min (L - j * c.chunkBytes) c.chunkBytes)
      frameSize ((frameSize : ℤ).bmod (2 ^ w)) v = .returned (t, more)) :
    more = true ∧ Recorded c head L t := by
  have hheld := hcoll.holds
  rw [Holds, hl] at hheld
  have hdata : slice v.buf 0 (min (L - j * c.chunkBytes) c.chunkBytes)
      = l.take (L - u.delivered.length) := by
    rw [← take_slice (Nat.min_le_right _ _), hheld, List.take_eq_take_iff, hl, hdel]
    omega
  have hbytes : 8 * min (L - j * c.chunkBytes) c.chunkBytes < 2 ^ w := by
    have hchunk := c.chunkBytes_lt
    omega
  have hleft : ((L - j * c.chunkBytes : ℕ) : ℤ) - (min (L - j * c.chunkBytes) c.chunkBytes : ℕ)
      = ((L - (j * c.chunkBytes + c.chunkBytes) : ℕ) : ℤ) := by omega
  rw [recordChunk, toSize_bmod hsize, if_neg (not_not_intro rfl), Outcome.bind_returned] at hrun
  obtain ⟨⟨res, v'⟩, hwrite, hrest⟩ := hrun
  have hwritten := Capture.write_spec hwrite
  have hres := hwritten.result
  rw [length_slice] at hres
  simp only at hrest
  split_ifs at hrest with hall
  cases hrest
  have hlen := toSize_write c.wide hbytes hres (not_not.mp hall)
  have hfile' := hwritten.complete (by rw [hlen, length_slice])
  refine ⟨rfl, ⟨j + 1, ?_, ?_⟩, ?_, ?_⟩
  · rw [hwritten.delivered, hcoll.delivered, List.length_append, hdel, hl, Nat.succ_mul]
  · rw [Nat.succ_mul, ← hleft]
  · rw [hfile', hdata, hcoll.file, hfile, hwritten.delivered, hcoll.delivered, List.take_append,
      List.append_assoc]
  · rw [hwritten.touched]
    exact hcoll.within hwithin

/-- A round that finds `k` bytes missing, with what it asks `SNDWAV_ReadPcm` and `write` for. -/
lemma recordBody_more {k : ℕ} (hk : k < 2 ^ 32) (hpos : 0 < k) :
    ∃ frameSize < 2 ^ w, recordBody c (u, (k : ℤ)) = readPcm c u frameSize >>= fun a =>
      recordChunk c k (min k c.chunkBytes) frameSize a.1 a.2 := by
  have hn : (if (k : ℤ) ≤ c.chunkBytes then toSize w k else c.chunkBytes)
      = min k c.chunkBytes := by
    rw [toSize_natCast c.wide hk]
    split_ifs <;> omega
  refine ⟨mulSize w (min k c.chunkBytes) 8 / c.bitsPerFrame, ?_, ?_⟩
  · exact (Nat.div_le_self _ _).trans_lt (Nat.mod_lt _ (Nat.two_pow_pos w))
  · rw [recordBody]
    simp only [if_pos (Int.natCast_pos.mpr hpos), hn]

/-- **A round of the loop** records a chunk and goes on, or finds everything written. -/
lemma recordBody_spec {head : List UInt8} {L : ℕ} {s t : Recorder c × ℤ} {more : Bool}
    (hL : L < 2 ^ 32) (h : Recorded c head L s) (hrun : recordBody c s = .returned (t, more)) :
    if more then Recorded c head L t else Recorded c head L t ∧ L ≤ t.1.delivered.length := by
  obtain ⟨⟨j, hdel, hrest⟩, hfile, hwithin⟩ := h
  obtain ⟨u, rest⟩ := s
  simp only at hdel hrest hfile hwithin
  subst hrest
  by_cases hmore : 0 < L - j * c.chunkBytes
  · obtain ⟨frameSize, hsize, hbody⟩ := recordBody_more (c := c) (u := u) (by omega) hmore
    rw [hbody, Outcome.bind_returned] at hrun
    obtain ⟨⟨res, v⟩, hread, hchunk⟩ := hrun
    obtain ⟨rfl, -, l, hl, hcoll⟩ := readPcm_spec hread
    obtain ⟨rfl, hrec⟩ :=
      recordChunk_spec hsize hdel (by omega) hfile hwithin hl hcoll hchunk
    exact hrec
  · have hdone : ¬ ((L - j * c.chunkBytes : ℕ) : ℤ) > 0 := by omega
    rw [recordBody, if_neg hdone] at hrun
    cases hrun
    have hend : L ≤ u.delivered.length := by omega
    exact ⟨⟨⟨j, hdel, rfl⟩, hfile, hwithin⟩, hend⟩

/-- **`SNDWAV_Record`** returns with the header and the announced bytes in the file, or it exits. -/
lemma record_spec {wav : WavContainer} {fuel : ℕ} (hfile : u.file = []) (hdel : u.delivered = [])
    (htou : u.touched = []) (hrun : record c fuel wav u = .returned v) :
    checkValid wav = 0 ∧ v.file = wav.bytes ++ v.delivered.take wav.chunk.length.toNat ∧
      wav.chunk.length.toNat ≤ v.delivered.length ∧ Within c.chunkBytes v.touched := by
  have hL : wav.chunk.length.toNat < 2 ^ 32 := wav.chunk.length.toNat_lt
  rw [record, Outcome.bind_returned] at hrun
  obtain ⟨⟨res, u₁⟩, hhead, hrun⟩ := hrun
  have hheaded := writeHeader_spec hhead
  simp only at hrun
  split_ifs at hrun with hneg
  obtain ⟨hfile₁, hvalid⟩ := hheaded.complete (by have hres := hheaded.result; omega)
  rw [Outcome.bind_returned] at hrun
  obtain ⟨t, hloop, hret⟩ := hrun
  cases hret
  have hstart : Recorded c wav.bytes wav.chunk.length.toNat
      (u₁, (wav.chunk.length.toNat : ℤ)) := by
    refine ⟨⟨0, by simp [hheaded.delivered, hdel], by simp⟩, ?_, ?_⟩
    · simp [hfile₁, hfile, hheaded.delivered, hdel]
    · rw [hheaded.touched, htou]
      intro r hr
      cases hr
  obtain ⟨hrec, hall⟩ := repeatLoop_rule (Recorded c wav.bytes wav.chunk.length.toNat)
    (fun t => Recorded c wav.bytes wav.chunk.length.toNat t ∧
      wav.chunk.length.toNat ≤ t.1.delivered.length)
    (fun _ _ _ h hround => recordBody_spec hL h hround) hstart hloop
  exact ⟨hvalid, hrec.file, hall, hrec.within⟩

/-! ## What does not end the program -/

/-- What a round writes is a number of bytes in a `size_t`. -/
lemma Container.toSize_part (c : Container w) (rest : ℤ) :
    toSize w ((if rest ≤ c.chunkBytes then toSize w rest else c.chunkBytes : ℕ) : ℤ)
      = if rest ≤ c.chunkBytes then toSize w rest else c.chunkBytes := by
  have hchunk := c.chunkBytes_lt
  apply toSize_of_lt
  split_ifs
  · exact toSize_lt w rest
  · omega

/-- In a benign environment what is written is written whole. -/
lemma recordChunk_benign {rest : ℤ} {n frameSize : ℕ} {res : ℤ} (hn : toSize w n = n)
    (h : Benign v) : recordChunk c rest n frameSize res v ≠ .exited ∧
      ∀ t more, recordChunk c rest n frameSize res v = .returned (t, more) → Benign t.1 := by
  rw [recordChunk]
  split_ifs
  · refine ⟨by simp [pure], ?_⟩
    intro t more hrun
    cases hrun
    exact h
  · have hwrites : ∀ a, v.write (slice v.buf 0 n) = .returned a →
        ¬ toSize w a.1 ≠ n ∧ Benign a.2 := by
      intro a hwrite
      have hwritten := Capture.write_spec hwrite
      refine ⟨not_not_intro ?_, hwritten.toKept.benign h⟩
      rw [hwritten.full h, length_slice, hn]
    constructor
    · rw [ne_eq, Outcome.bind_exited]
      rintro (hwrite | ⟨a, hwrite, hret⟩)
      · exact Capture.write_ne_exited hwrite
      · simp only [if_neg (hwrites a hwrite).1] at hret
        cases hret
    · intro t more hrun
      rw [Outcome.bind_returned] at hrun
      obtain ⟨a, hwrite, hret⟩ := hrun
      simp only [if_neg (hwrites a hwrite).1] at hret
      cases hret
      exact (hwrites a hwrite).2

/-- **A round of the loop** does not end the program in a benign environment, and leaves it one. -/
lemma recordBody_benign {s : Recorder c × ℤ} (h : Benign s.1) :
    recordBody c s ≠ .exited ∧
      ∀ t more, recordBody c s = .returned (t, more) → Benign t.1 := by
  obtain ⟨u, rest⟩ := s
  by_cases hmore : rest > 0
  · have hn := c.toSize_part rest
    have hread : ∀ frameSize a, readPcm c u frameSize = .returned a → Benign a.2 := by
      intro frameSize a hread
      obtain ⟨-, hsuffix, l, -, hcoll⟩ := readPcm_spec hread
      refine ⟨?_, fun g hg => h.tolerated g (hsuffix.subset hg)⟩
      rw [hcoll.writes]
      exact h.full
    rw [recordBody]
    simp only [if_pos hmore]
    constructor
    · rw [ne_eq, Outcome.bind_exited]
      rintro (hrun | ⟨a, hrun, hrest⟩)
      · exact readPcm_ne_exited h.tolerated hrun
      · exact (recordChunk_benign hn (hread _ a hrun)).1 hrest
    · intro t more hrun
      rw [Outcome.bind_returned] at hrun
      obtain ⟨a, hrun, hrest⟩ := hrun
      exact (recordChunk_benign hn (hread _ a hrun)).2 t more hrest
  · rw [recordBody, if_neg hmore]
    refine ⟨by simp [pure], ?_⟩
    intro t more hrun
    cases hrun
    exact h

/-- **`SNDWAV_Record`** does not end the program in a benign environment. -/
lemma record_ne_exited {wav : WavContainer} {fuel : ℕ} (hvalid : checkValid wav = 0)
    (h : Benign u) : record c fuel wav u ≠ .exited := by
  rw [record, ne_eq, Outcome.bind_exited]
  rintro (hhead | ⟨⟨res, u₁⟩, hhead, hrest⟩)
  · exact writeHeader_ne_exited hhead
  · have hheaded := writeHeader_spec hhead
    have hbenign := hheaded.toKept.benign h
    simp only at hrest
    rw [if_neg (by rw [hheaded.full h hvalid]; exact lt_irrefl 0), Outcome.bind_exited] at hrest
    rcases hrest with hloop | ⟨t, -, hret⟩
    · refine repeatLoop_ne_exited (fun s => Benign s.1) ?_ ?_ hbenign hloop
      · intro s t hs hround
        exact (recordBody_benign hs).2 t true hround
      · intro s hs
        exact (recordBody_benign hs).1
    · cases hret

/-- **`SNDWAV_Record` writes what its header announces.**  For every valid header, every container
and every sequence of results of `snd_pcm_readi` the loop goes on after, if every `write` is full,
the program does not exit, and when the function returns the file is the header followed by the
first `L` of the bytes ALSA has delivered, which are at least `L`; no store into `data_buf` reaches
`chunk_bytes`. -/
theorem record_file (c : Container w) (wav : WavContainer) (hvalid : checkValid wav = 0)
    (buf : ℕ → UInt8) (reads : List (Given c.frameBytes)) (writes : List WriteCall) (fuel : ℕ)
    (htolerated : ∀ g ∈ reads, ∀ request, Tolerated (g.ret request))
    (hfull : ∀ x ∈ writes, x = .full) :
    record c fuel wav ⟨[], buf, [], [], reads, writes⟩ ≠ .exited ∧
      ∀ v, record c fuel wav ⟨[], buf, [], [], reads, writes⟩ = .returned v →
        v.file = wav.bytes ++ v.delivered.take wav.chunk.length.toNat ∧
          wav.bytes.length = 44 ∧ wav.chunk.length.toNat ≤ v.delivered.length ∧
          ∀ r ∈ v.touched, r.1 + r.2 ≤ c.chunkBytes := by
  have hbenign : Benign (⟨[], buf, [], [], reads, writes⟩ : Recorder c) := ⟨hfull, htolerated⟩
  refine ⟨record_ne_exited hvalid hbenign, ?_⟩
  intro v hrun
  obtain ⟨-, hfile, hall, hwithin⟩ := record_spec rfl rfl rfl hrun
  exact ⟨hfile, wav.length_bytes, hall, hwithin⟩

/-- Eight bits stereo, two frames to a chunk. -/
def stereo : Container 32 where
  chunkSize := 2
  channels := 2
  bitsPerSample := 8
  bitsPerFrame := 16
  chunkBytes := 4
  wide := Container.wide_32
  chunkSize_pos := Container.two_frames_pos
  bitsPerFrame_pos := by decide
  whole := by decide
  bitsPerFrame_eq := rfl
  chunkBytes_set := rfl
  chunkBytes_eq := rfl

/-- A header that announces five bytes. -/
def fiveBytes : WavContainer where
  header := ⟨wavRiff, 41, wavWave⟩
  format := ⟨wavFmt, 16, 1, 2, 8000, 16000, 2, 8⟩
  chunk := ⟨wavData, 5⟩

/-- Five bytes recorded in chunks of four, delivered in pieces with an overrun in between. -/
theorem record_file_pieces :
    ∃ v, record stereo 3 fiveBytes ⟨[], fun _ => 0, [], [],
        [.frames [⟨[1, 2], rfl⟩], .error 10, .frames [⟨[3, 4], rfl⟩, ⟨[9, 9], rfl⟩], .error 31,
          .frames [⟨[5, 6], rfl⟩, ⟨[7, 8], rfl⟩]],
        List.replicate 5 .full⟩ = .returned v ∧
      v.file = fiveBytes.bytes ++ [1, 2, 3, 4, 5] := by
  obtain ⟨v, hrun, hdel⟩ : ∃ v, record stereo 3 fiveBytes ⟨[], fun _ => 0, [], [],
      [.frames [⟨[1, 2], rfl⟩], .error 10, .frames [⟨[3, 4], rfl⟩, ⟨[9, 9], rfl⟩], .error 31,
        .frames [⟨[5, 6], rfl⟩, ⟨[7, 8], rfl⟩]],
      List.replicate 5 .full⟩ = .returned v ∧ v.delivered = [1, 2, 3, 4, 5, 6, 7, 8] :=
    ⟨_, rfl, rfl⟩
  have hfile := (record_file stereo fiveBytes (by decide) _ _ _ 3 ?_ ?_).2 v hrun
  · refine ⟨v, hrun, hfile.1.trans ?_⟩
    rw [hdel]
    rfl
  · intro g hg request
    simp only [List.mem_cons, List.not_mem_nil, or_false] at hg
    rcases hg with rfl | rfl | rfl | rfl | rfl
    · exact .inl (Int.natCast_nonneg _)
    · exact .inr (.inl rfl)
    · exact .inl (Int.natCast_nonneg _)
    · exact .inr (.inr (.inl rfl))
    · exact .inl (Int.natCast_nonneg _)
  · intro x hx
    exact List.eq_of_mem_replicate hx

end SndWav

import MuaHello.Lib.Slice

/-!
# PN532 frames

The wire format of `pn532.h`, in two forms that this file connects.

* `InfoFrame` is the abstract object: a TFI and a packet short enough for its length to be coded in
  one byte.  `InfoFrame.core` is its byte image from the preamble through the data checksum, and
  `InfoFrame.encode` adds the postamble, which the driver treats as optional.
* `InfoAt m k` says of raw memory what the driver checks behind a start code at offset `k`: LEN in
  range, LEN + LCS = 0 and TFI + PD0 + ... + PDn + DCS = 0, both modulo 256.

`infoAt_iff` is the connection: behind a start code, `InfoAt` holds exactly where the image of a
frame stands, and that frame is unique.
-/

namespace PN532

/-! ## Frame bytes and result codes -/

/-- `PN532_FRAME_LEN_MIN` -/
abbrev frameLenMin : ℕ := 5

abbrev preamble : UInt8 := 0x00
abbrev startCode0 : UInt8 := 0x00
abbrev startCode1 : UInt8 := 0xFF
abbrev postamble : UInt8 := 0x00

abbrev tfiHost2Pn : UInt8 := 0xD4
abbrev tfiPn2Host : UInt8 := 0xD5

/-- ACK and NACK frames have no TFI; these are the codes the driver gives them. -/
abbrev tfiAck : UInt8 := 0x00
abbrev tfiNack : UInt8 := 0xFF

abbrev good : UInt8 := 0x00
abbrev ack : UInt8 := 0x00
abbrev nack : UInt8 := 0x01
abbrev err : UInt8 := 0xFF
abbrev busBusy : UInt8 := 0xFE
abbrev notSupport : UInt8 := 0xFD
abbrev invalidParam : UInt8 := 0xFC
abbrev invalidAck : UInt8 := 0xFB
abbrev invalidFrame : UInt8 := 0xFA

/-- `PN532_DATABUF_MAX`, the size of `sDataBuf` and the largest LEN the parser accepts. -/
abbrev dataBufMax : ℕ := 32

/-- The three bytes every frame starts with. -/
def startCode : List UInt8 := [preamble, startCode0, startCode1]

/-- The ACK frame without its postamble. -/
def ackFrame : List UInt8 := startCode ++ [0x00, 0xFF]

lemma unbordered_startCode : Unbordered startCode := by
  intro d hd hpos
  simp only [startCode, List.length_cons, List.length_nil] at hd
  interval_cases d <;> decide

/-! ## Information frames -/

/-- A normal information frame: `00 00 FF LEN LCS TFI PD0...PDn DCS 00`, where LEN counts the TFI
and the packet. -/
@[ext] structure InfoFrame where
  tfi : UInt8
  packet : List UInt8
  short : packet.length < 255
  deriving DecidableEq

namespace InfoFrame

def len (f : InfoFrame) : UInt8 := UInt8.ofNat (f.packet.length + 1)

def lcs (f : InfoFrame) : UInt8 := -f.len

def dcs (f : InfoFrame) : UInt8 := -(f.tfi + f.packet.sum)

/-- The frame's bytes from the preamble through the data checksum. -/
def core (f : InfoFrame) : List UInt8 :=
  startCode ++ ([f.len, f.lcs, f.tfi] ++ (f.packet ++ [f.dcs]))

/-- The frame's bytes, postamble included. -/
def encode (f : InfoFrame) : List UInt8 := f.core ++ [postamble]

variable (f : InfoFrame)

lemma toNat_len : f.len.toNat = f.packet.length + 1 := by
  have hshort := f.short
  rw [len, UInt8.toNat_ofNat', Nat.mod_eq_of_lt (by omega)]

@[simp] lemma length_core : f.core.length = f.packet.length + 7 := by
  simp [core, startCode]

@[simp] lemma length_encode : f.encode.length = f.packet.length + 8 := by simp [encode]

end InfoFrame

/-! ## What the driver checks in memory -/

/-- LEN of a frame whose start code stands at offset `k`. -/
abbrev lenAt (m : ℕ → UInt8) (k : ℕ) : UInt8 := m (k + 3)

/-- LCS of a frame whose start code stands at offset `k`. -/
abbrev lcsAt (m : ℕ → UInt8) (k : ℕ) : UInt8 := m (k + 4)

/-- TFI of a frame whose start code stands at offset `k`. -/
abbrev tfiAt (m : ℕ → UInt8) (k : ℕ) : UInt8 := m (k + 5)

/-- LEN is one the parser accepts and agrees with its checksum. -/
def LenOk (m : ℕ → UInt8) (k : ℕ) : Prop :=
  1 ≤ (lenAt m k).toNat ∧ (lenAt m k).toNat ≤ dataBufMax ∧ lenAt m k + lcsAt m k = 0

/-- Both checksums of the frame at offset `k` are right: the data checksum closes the sum of the
LEN bytes behind it. -/
def InfoAt (m : ℕ → UInt8) (k : ℕ) : Prop :=
  LenOk m k ∧ (slice m (k + 5) ((lenAt m k).toNat + 1)).sum = 0

instance (m : ℕ → UInt8) (k : ℕ) : Decidable (LenOk m k) := inferInstanceAs (Decidable (_ ∧ _))

instance (m : ℕ → UInt8) (k : ℕ) : Decidable (InfoAt m k) := inferInstanceAs (Decidable (_ ∧ _))

variable {m m' : ℕ → UInt8} {k : ℕ} {f : InfoFrame}

lemma LenOk.short (h : LenOk m k) :
    (slice m (k + 6) ((lenAt m k).toNat - 1)).length < 255 := by
  have hle := h.2.1
  simp only [dataBufMax] at hle
  rw [length_slice]
  omega

/-- The frame standing at offset `k`. -/
def frameAt (m : ℕ → UInt8) (k : ℕ) (h : LenOk m k) : InfoFrame where
  tfi := tfiAt m k
  packet := slice m (k + 6) ((lenAt m k).toNat - 1)
  short := h.short

lemma packet_frameAt (h : LenOk m k) :
    (frameAt m k h).packet = slice m (k + 6) ((lenAt m k).toNat - 1) := rfl

lemma length_core_frameAt (h : LenOk m k) :
    (frameAt m k h).core.length = (lenAt m k).toNat + 6 := by
  have hpos := h.1
  rw [InfoFrame.length_core, packet_frameAt, length_slice]
  omega

/-- The bytes the data checksum covers: TFI, packet, DCS. -/
lemma slice_body (h : 1 ≤ (lenAt m k).toNat) :
    slice m (k + 5) ((lenAt m k).toNat + 1)
      = tfiAt m k :: (slice m (k + 6) ((lenAt m k).toNat - 1)
          ++ [m (k + 5 + (lenAt m k).toNat)]) := by
  obtain ⟨n, hn⟩ := Nat.exists_eq_add_of_le' h
  have hdcs : k + 5 + (n + 1) = k + 6 + n := by omega
  rw [hn, slice_succ, slice_succ_last, Nat.add_sub_cancel, hdcs, tfiAt]

lemma holds_core :
    Holds m k f.core ↔ Holds m k startCode ∧ lenAt m k = f.len ∧ lcsAt m k = f.lcs ∧
      tfiAt m k = f.tfi ∧ Holds m (k + 6) f.packet ∧ m (k + 6 + f.packet.length) = f.dcs := by
  simp only [InfoFrame.core, holds_append, holds_cons, holds_nil, and_true, lenAt, lcsAt, tfiAt,
    startCode, List.length_cons, List.length_nil, Nat.zero_add, Nat.add_assoc, Nat.reduceAdd]
  tauto

/-- **Where the image of a frame stands, the checks succeed.** -/
lemma infoAt_of_holds (hf : f.packet.length < dataBufMax) (h : Holds m k f.core) : InfoAt m k := by
  obtain ⟨-, hlen, hlcs, htfi, hpacket, hdcs⟩ := holds_core.mp h
  have hnat : (lenAt m k).toNat = f.packet.length + 1 := by rw [hlen, f.toNat_len]
  refine ⟨⟨by omega, by omega, by rw [hlen, hlcs, InfoFrame.lcs]; grind⟩, ?_⟩
  have hend : k + 5 + (f.packet.length + 1) = k + 6 + f.packet.length := by omega
  rw [slice_body (by omega), hnat, Nat.add_sub_cancel, htfi, hpacket, hend, hdcs]
  simp only [List.sum_cons, List.sum_append, List.sum_nil, InfoFrame.dcs]
  grind

/-- **Behind a start code the checks succeed only where the image of a frame stands**, namely of
the frame read off the memory. -/
lemma holds_frameAt (hstart : Holds m k startCode) (h : InfoAt m k) :
    Holds m k (frameAt m k h.1).core := by
  obtain ⟨⟨hpos, hle, hlcs⟩, hsum⟩ := h
  have hnat : (lenAt m k).toNat - 1 + 1 = (lenAt m k).toNat := by omega
  rw [slice_body hpos] at hsum
  simp only [List.sum_cons, List.sum_append, List.sum_nil] at hsum
  have hlen : lenAt m k = (frameAt m k ⟨hpos, hle, hlcs⟩).len := by
    simp [InfoFrame.len, frameAt, hnat]
  refine holds_core.mpr ⟨hstart, hlen, ?_, rfl, ?_, ?_⟩
  · rw [InfoFrame.lcs, ← hlen]; grind
  · simp only [frameAt, holds_slice]
  · have hend : k + 6 + ((lenAt m k).toNat - 1) = k + 5 + (lenAt m k).toNat := by omega
    simp only [frameAt, length_slice, InfoFrame.dcs, hend]
    grind

/-- The frame standing at an offset is unique: its bytes determine it. -/
theorem InfoFrame.unique {f' : InfoFrame} (h : Holds m k f.core) (h' : Holds m k f'.core) :
    f = f' := by
  obtain ⟨-, hlen, -, htfi, hpacket, -⟩ := holds_core.mp h
  obtain ⟨-, hlen', -, htfi', hpacket', -⟩ := holds_core.mp h'
  have hsize : f.packet.length = f'.packet.length := by
    have heq := congrArg UInt8.toNat (hlen.symm.trans hlen')
    rw [f.toNat_len, f'.toNat_len] at heq
    omega
  exact InfoFrame.ext (htfi.symm.trans htfi') (hpacket.unique hpacket' hsize)

/-- **The checks recognise frames**: behind a start code, `InfoAt` holds exactly where the image of
one and only one frame of at most 31 packet bytes stands. -/
theorem infoAt_iff (hstart : Holds m k startCode) :
    InfoAt m k ↔ ∃! f : InfoFrame, f.packet.length < dataBufMax ∧ Holds m k f.core := by
  constructor
  · intro h
    have hle := h.1.2.1
    refine ⟨frameAt m k h.1, ⟨?_, holds_frameAt hstart h⟩, ?_⟩
    · have hpos := h.1.1
      simp only [frameAt, length_slice]
      omega
    · rintro f ⟨-, hf⟩
      exact InfoFrame.unique hf (holds_frameAt hstart h)
  · rintro ⟨f, ⟨hf, hcore⟩, -⟩
    exact infoAt_of_holds hf hcore

end PN532

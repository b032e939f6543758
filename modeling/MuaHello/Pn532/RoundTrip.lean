import MuaHello.Pn532.Parser
import MuaHello.Pn532.SendCmd

/-!
# The encoder and the parser are inverse

`frameParser_encode` is the decoding half for an arbitrary frame: written behind a prefix free of
start codes, it is found and reported whole.  `sendCmd_packet` is the other half: where a host frame
stands, sending its packet emits its bytes again.  `sendCmd_frameParser_inverse` puts `sendCmd_bus`
in front of the one and `info_of_code` in front of the other.
-/

namespace PN532

variable {m : ℕ → UInt8} {frmLen : UInt8} {f : InfoFrame} {J T : List UInt8} {k : ℕ}
variable {ppPacket : OutParam (Option ℕ)} {pLen : OutParam UInt8}

/-- **A frame behind junk is reported whole.** -/
theorem frameParser_embedded (hf : f.packet.length < dataBufMax) (hfree : ¬ startCode <:+: J)
    (hJ : Holds m 0 J) (hm : Holds m J.length f.core) (hk : J.length + 6 ≤ frmLen.toNat) :
    frameParser (some m) frmLen ppPacket pLen
      = ⟨f.tfi, ppPacket.set (some (J.length + 6)), pLen.set (UInt8.ofNat f.packet.length)⟩ := by
  obtain ⟨hstart, hlen, -, htfi, -, -⟩ := holds_core.mp hm
  have hfirst := firstOccurrence_append unbordered_startCode hfree hJ hstart
  have hn : lenAt m J.length - 1 = UInt8.ofNat f.packet.length := by
    rw [hlen, InfoFrame.len, UInt8.ofNat_add]
    exact UInt8.add_sub_cancel _ 1
  rw [frameParser_found hfirst hk, verdict, if_pos (infoAt_of_holds hf hm), htfi, hn]

/-- **Decoding what was encoded**, with junk before it and trailing bytes behind it. -/
theorem frameParser_encode (hf : f.packet.length < dataBufMax) (hfree : ¬ startCode <:+: J)
    (hlen : (J ++ f.encode ++ T).length ≤ 255) (hm : Holds m 0 (J ++ f.encode ++ T)) :
    frameParser (some m) (UInt8.ofNat (J ++ f.encode ++ T).length) ppPacket pLen
        = ⟨f.tfi, ppPacket.set (some (J.length + 6)), pLen.set (UInt8.ofNat f.packet.length)⟩ ∧
      Holds m (J.length + 6) f.packet := by
  simp only [InfoFrame.encode, holds_append, Nat.zero_add] at hm
  obtain ⟨⟨hJ, hcore, -⟩, -⟩ := hm
  have hroom : J.length + 6 ≤ (UInt8.ofNat (J ++ f.encode ++ T).length).toNat := by
    rw [UInt8.toNat_ofNat', Nat.mod_eq_of_lt (by omega)]
    simp
    omega
  exact ⟨frameParser_embedded hf hfree hJ hcore hroom, (holds_core.mp hcore).2.2.2.2.1⟩

/-- **Encoding what was decoded.**  A host frame in memory is what the encoder emits for its
packet. -/
theorem sendCmd_packet (hstart : Holds m k startCode) (hinfo : InfoAt m k)
    (htfi : tfiAt m k = tfiHost2Pn) (hpos : 1 ≤ (lenAt m k - 1).toNat) (s : Driver)
    (waitAck : UInt8) (write : MraaResult) :
    (sendCmd s (m (k + 6)) (some fun i => m (k + 6 + 1 + i)) (lenAt m k - 1 - 1) waitAck write).bus
      = some (slice m k ((lenAt m k - 1).toNat + 7) ++ [postamble]) := by
  have hle := hinfo.1.2.1
  have hn := hinfo.1.toNat_sub_one
  have hn' : (lenAt m k - 1 - 1).toNat = (lenAt m k - 1).toNat - 1 :=
    UInt8.toNat_sub_of_le _ 1 (UInt8.le_iff_toNat_le.mpr hpos)
  have hsize : (lenAt m k).toNat - 1 = (lenAt m k - 1 - 1).toNat + 1 := by omega
  have hspan : (lenAt m k - 1).toNat + 7 = (lenAt m k).toNat + 6 := by omega
  have hfit : (lenAt m k - 1 - 1).toNat + 9 ≤ 255 := by simp only [dataBufMax] at hle; omega
  rw [sendCmd_bus s _ _ _ waitAck write (by simp) hfit, InfoFrame.encode]
  -- the command's frame is the one that stands there
  have hframe : cmdFrame (m (k + 6)) (payload (some fun i => m (k + 6 + 1 + i))
      (lenAt m k - 1 - 1)) (by rw [length_payload]; omega) = frameAt m k hinfo.1 := by
    refine InfoFrame.ext htfi.symm ?_
    simp only [packet_frameAt, hsize, slice_succ, cmdFrame, payload, Option.getD_some, slice_shift]
  have hcore := holds_frameAt hstart hinfo
  rw [Holds, length_core_frameAt] at hcore
  rw [hframe, hspan, hcore]

/-- **`PN532_SendCmd` and `PN532_FrameParser` are mutually inverse.**  What the encoder puts on the
bus is parsed, behind any junk free of start codes and before any trailing bytes, as the command it
was given; and a host frame the parser reports with its data checksum inside the buffer is, byte
for byte, what the encoder emits for the reported packet. -/
theorem sendCmd_frameParser_inverse :
    (∀ (s : Driver) (cmd dataLen waitAck : UInt8) (pCmdData : Option (ℕ → UInt8))
        (write : MraaResult) (J T : List UInt8) (m : ℕ → UInt8) (ppPacket : OutParam (Option ℕ))
        (pLen : OutParam UInt8),
      (pCmdData = none → dataLen = 0) → dataLen.toNat + 9 ≤ 32 → ¬ startCode <:+: J →
      J.length + 9 + dataLen.toNat + T.length ≤ 255 →
      ∃ bus, (sendCmd s cmd pCmdData dataLen waitAck write).bus = some bus ∧
        bus.length = 9 + dataLen.toNat ∧
        (Holds m 0 (J ++ bus ++ T) →
          frameParser (some m) (UInt8.ofNat (J ++ bus ++ T).length) ppPacket pLen
              = ⟨0xD4, ppPacket.set (some (J.length + 6)), pLen.set (dataLen + 1)⟩ ∧
            Holds m (J.length + 6) (cmd :: payload pCmdData dataLen))) ∧
    (∀ (m : ℕ → UInt8) (frmLen : UInt8) (packet₀ : Option ℕ) (len₀ : UInt8) (off : ℕ) (n : UInt8),
      frameParser (some m) frmLen (some packet₀) (some len₀) = ⟨0xD4, some (some off), some n⟩ →
      off + n.toNat < frmLen.toNat → 1 ≤ n.toNat → n.toNat ≤ 24 →
      ∃ start, FirstOccurrence startCode m start ∧ off = start + 6 ∧
        ∀ (s : Driver) (waitAck : UInt8) (write : MraaResult),
          (sendCmd s (m off) (some fun i => m (off + 1 + i)) (n - 1) waitAck write).bus
            = some (slice m start (n.toNat + 7) ++ [0x00])) := by
  constructor
  · intro s cmd dataLen waitAck pCmdData write J T m ppPacket pLen hnull hfit hfree hlen
    have hbus := sendCmd_bus s cmd pCmdData dataLen waitAck write hnull (by omega)
    have hsize : (cmdFrame cmd (payload pCmdData dataLen) (by simp; omega)).packet.length
        = dataLen.toNat + 1 := by simp [cmdFrame]
    refine ⟨_, hbus, by rw [InfoFrame.length_encode, hsize]; omega, ?_⟩
    intro hm
    obtain ⟨hparse, hpacket⟩ := @frameParser_encode m _ J T ppPacket pLen
      (by rw [hsize, dataBufMax]; omega) hfree (by simp [hsize]; omega) hm
    have hn : UInt8.ofNat (dataLen.toNat + 1) = dataLen + 1 := by
      rw [UInt8.ofNat_add, UInt8.ofNat_toNat]
      rfl
    rw [hsize, hn] at hparse
    exact ⟨hparse, hpacket⟩
  · intro m frmLen packet₀ len₀ off n hres hin hpos hle
    have hcode : (frameParser (some m) frmLen (some packet₀) (some len₀)).code ∉ specialCodes := by
      rw [hres]
      exact show (0xD4 : UInt8) ∉ specialCodes by decide
    obtain ⟨k, hfirst, -, hinfo, heq⟩ := info_of_code hcode
    rw [hres] at heq
    simp only [ParserResult.mk.injEq, OutParam.set, Option.map_some, Option.some.injEq] at heq
    obtain ⟨htfi, rfl, rfl⟩ := heq
    exact ⟨k, hfirst, rfl, sendCmd_packet hfirst.1 hinfo htfi.symm hpos⟩

/-- The command `D4 02` without payload: parsed behind `00 00` and before a trailing byte, and
emitted again from what the parser reports of its eight bytes up to the checksum. -/
theorem sendCmd_frameParser_inverse_version :
    (∃ bus, (sendCmd ⟨fun _ => 0, 0⟩ 0x02 none 0 0 mraaSuccess).bus = some bus ∧
      frameParser (some (listMem ([0x00, 0x00] ++ bus ++ [0x55]) fun _ => 0))
        (UInt8.ofNat ([0x00, 0x00] ++ bus ++ [0x55]).length) (some none) (some 0)
          = ⟨0xD4, some (some 8), some 1⟩) ∧
    ∃ start, (sendCmd ⟨fun _ => 0, 0⟩ 0x02
        (some fun i => listMem [0x00, 0x00, 0xFF, 0x02, 0xFE, 0xD4, 0x02, 0x2A] (fun _ => 0)
          (6 + 1 + i)) 0 0 mraaSuccess).bus
      = some (slice (listMem [0x00, 0x00, 0xFF, 0x02, 0xFE, 0xD4, 0x02, 0x2A] fun _ => 0) start 8
          ++ [0x00]) := by
  constructor
  · obtain ⟨bus, hbus, -, hparse⟩ := sendCmd_frameParser_inverse.1 ⟨fun _ => 0, 0⟩ 0x02 0 0 none
      mraaSuccess [0x00, 0x00] [0x55] (listMem ([0x00, 0x00] ++ ((sendCmd ⟨fun _ => 0, 0⟩ 0x02 none
        0 0 mraaSuccess).bus.getD []) ++ [0x55]) fun _ => 0) (some none) (some 0) (by decide)
      (by decide) (by decide) (by decide)
    rw [hbus, Option.getD_some] at hparse
    exact ⟨bus, hbus, (hparse (holds_listMem _ _)).1⟩
  · obtain ⟨start, -, -, hsend⟩ := sendCmd_frameParser_inverse.2
      (listMem [0x00, 0x00, 0xFF, 0x02, 0xFE, 0xD4, 0x02, 0x2A] fun _ => 0) 8 none 0 6 1
      (by decide) (by decide) (by decide) (by decide)
    exact ⟨start, hsend ⟨fun _ => 0, 0⟩ 0 mraaSuccess⟩

end PN532

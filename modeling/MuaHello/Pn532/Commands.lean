import MuaHello.Pn532.Exchange
import MuaHello.Pn532.RoundTrip

/-!
# What the command functions report

* `command_complete_iff` compares the driver's idea of success with a caller's, a response that was
  delivered whole.  The buffer is cleared before the response is read and the parser is not told
  where the delivered bytes end, so a truncated frame can be completed by the zeros, and by the
  memory behind the buffer.  The theorem says that nothing else goes wrong.
* `getFirmwareVersion_understood` is the other direction: a device that answers as its manual says
  is understood, whatever bytes precede its frame.
-/

namespace PN532

variable {s : Driver} {pVer : OutParam FirmwareVersion} {env : Exchange} {k : ℕ}

/-! ## Complete responses -/

/-- A whole response to `cmd` among the delivered bytes, at offset `k`. -/
structure WholeAt (env : Exchange) (cmd : UInt8) (k : ℕ) : Prop where
  start : Holds env.rspView k startCode
  info : InfoAt env.rspView k
  tfi : tfiAt env.rspView k = tfiPn2Host
  code : env.rspView (k + 6) = cmd + 1
  fits : k + 6 + (lenAt env.rspView k).toNat ≤ env.count

/-- The delivered bytes contain a whole response to `cmd`. -/
def Delivered (env : Exchange) (cmd : UInt8) (f : InfoFrame) : Prop :=
  f.core <:+: env.rspRead.bytes ∧ f.tfi = tfiPn2Host ∧ f.packet.head? = some (cmd + 1)

/-- What a caller of `PN532_GetFirmwareVersion` takes from `PN532_GOOD`. -/
def VersionComplete (s : Driver) (pVer : OutParam FirmwareVersion) (env : Exchange) : Prop :=
  (getFirmwareVersion s pVer env).code = good → env.write.code = 0 ∧
    ∃ f v, Delivered env cmdGetFirmwareVersion f ∧ f.len = 6 ∧
      f.packet = [cmdGetFirmwareVersion + 1, v.ic, v.ver, v.rev, v.support] ∧
      (getFirmwareVersion s pVer env).pVer = some v

/-- What a caller of `PN532_InListPassiveTarget` takes from `PN532_GOOD`. -/
def ListComplete (s : Driver) (env : Exchange) : Prop :=
  (inListPassiveTarget s env).code = good → env.write.code = 0 ∧
    ∃ f, Delivered env cmdInListPassiveTarget f

/-- `PN532_GetFirmwareVersion` meets a version response that ends behind the delivered bytes. -/
def VersionTruncated (s : Driver) (pVer : OutParam FirmwareVersion) (env : Exchange) : Prop :=
  env.Acked s versionCommand ∧ pVer ≠ none ∧ ∃ k, ResponseAt env k ∧
    env.rspView (k + 6) = cmdGetFirmwareVersion + 1 ∧ (lenAt env.rspView k).toNat = 6 ∧
    env.count < k + 12

/-- `PN532_InListPassiveTarget` meets a response that ends behind the delivered bytes, and there is
no whole one inside it. -/
def ListTruncated (s : Driver) (env : Exchange) : Prop :=
  env.Acked s listCommand ∧ ∃ k, ResponseAt env k ∧
    env.rspView (k + 6) = cmdInListPassiveTarget + 1 ∧
    env.count < k + 6 + (lenAt env.rspView k).toNat ∧
    ∀ j, k < j → ¬ WholeAt env cmdInListPassiveTarget j

/-- A response frame without a packet has its checksum where the response code is expected, and
that is not one. -/
lemma two_le_len (hinfo : InfoAt env.rspView k) (htfi : tfiAt env.rspView k = tfiPn2Host)
    (hcode : env.rspView (k + 6) ≠ 0x2B) : 2 ≤ (lenAt env.rspView k).toNat := by
  by_contra hlt
  have hone : (lenAt env.rspView k).toNat = 1 := by
    have hpos := hinfo.1.1
    omega
  have hsum := hinfo.2
  rw [slice_body hinfo.1.1, hone, htfi] at hsum
  simp only [Nat.sub_self, slice_zero, List.nil_append, List.sum_cons, List.sum_nil] at hsum
  exact hcode (by grind)

/-- **Whole responses in memory are the responses among the delivered bytes.** -/
lemma WholeAt.delivered {cmd : UInt8} (h : WholeAt env cmd k) (hcmd : cmd + 1 ≠ 0x2B) :
    Delivered env cmd (frameAt env.rspView k h.info.1) := by
  have hlen := two_le_len h.info h.tfi (by rw [h.code]; exact hcmd)
  refine ⟨?_, h.tfi, ?_⟩
  · have hhold : Holds env.rspView (0 + k) (frameAt env.rspView k h.info.1).core := by
      rw [Nat.zero_add]
      exact holds_frameAt h.start h.info
    have hfits := h.fits
    rw [Exchange.count] at hfits
    refine env.holds_rspView.infix_of hhold ?_
    rw [length_core_frameAt]
    omega
  · obtain ⟨n, hn⟩ := Nat.exists_eq_add_of_le' hlen
    have hsize : (lenAt env.rspView k).toNat - 1 = n + 1 := by omega
    rw [packet_frameAt, hsize, slice_succ, List.head?_cons, h.code]

lemma Delivered.wholeAt {cmd : UInt8} {f : InfoFrame} (h : Delivered env cmd f) :
    ∃ k, WholeAt env cmd k ∧ (lenAt env.rspView k).toNat = f.packet.length + 1 := by
  obtain ⟨hpart, htfi, hhead⟩ := h
  obtain ⟨k, hfits, hhold⟩ := env.holds_rspView.exists_holds_of hpart
  have hcount := env.count_le
  rw [Exchange.count] at hcount
  rw [InfoFrame.length_core] at hfits
  rw [Nat.zero_add] at hhold
  obtain ⟨hstart, hlen, -, htfi', hpacket, -⟩ := holds_core.mp hhold
  have hnat : (lenAt env.rspView k).toNat = f.packet.length + 1 := by rw [hlen, f.toNat_len]
  refine ⟨k, ⟨hstart, infoAt_of_holds (by rw [dataBufMax]; omega) hhold, htfi'.trans htfi, ?_, ?_⟩,
    hnat⟩
  · cases hp : f.packet with
    | nil => simp [hp] at hhead
    | cons b rest =>
        rw [hp, List.head?_cons, Option.some.injEq] at hhead
        rw [hp, holds_cons] at hpacket
        exact hpacket.1.trans hhead
  · rw [Exchange.count, hnat]
    omega

/-- **`PN532_GetFirmwareVersion` can only be misled by a truncated response.** -/
lemma versionComplete_iff : VersionComplete s pVer env ↔ ¬ VersionTruncated s pVer env := by
  constructor
  · rintro hcomplete ⟨hacked, hnull, k, hat, hcode, hlen, hshort⟩
    obtain ⟨old, rfl⟩ := Option.ne_none_iff_exists'.mp hnull
    obtain ⟨-, f, v, hdel, -, hpacket, -⟩ :=
      hcomplete (getFirmwareVersion_of_response old hacked hat hcode hlen).1
    obtain ⟨j, hwhole, hnat⟩ := hdel.wholeAt
    -- the delivered response is as long as the truncated one, so it would start before it
    have hfits := hwhole.fits
    rw [hpacket] at hnat
    simp only [List.length_cons, List.length_nil] at hnat
    exact hat.first.2 j (by omega) hwhole.start
  · intro htrunc hgood
    obtain ⟨hacked, hnull, k, hat, hcode, hlen, hver⟩ := getFirmwareVersion_good hgood
    have hfits : k + 12 ≤ env.count := by
      by_contra hshort
      exact htrunc ⟨hacked, hnull, k, hat, hcode, hlen, by omega⟩
    have hwhole : WholeAt env cmdGetFirmwareVersion k :=
      ⟨hat.first.1, hat.info, hat.tfi, hcode, by omega⟩
    refine ⟨hacked.1, _, _, hwhole.delivered (by decide), ?_, ?_, hver⟩
    · rw [← UInt8.toNat_inj, InfoFrame.toNat_len, packet_frameAt, length_slice, hlen]
      rfl
    · rw [packet_frameAt, hlen]
      simp only [Nat.reduceSub, slice_succ, slice_zero, hcode]
      rfl

/-- **`PN532_InListPassiveTarget` can only be misled by a truncated response.** -/
lemma listComplete_iff : ListComplete s env ↔ ¬ ListTruncated s env := by
  constructor
  · rintro hcomplete ⟨hacked, k, hat, hcode, hshort, hnone⟩
    obtain ⟨-, f, hdel⟩ := hcomplete (inListPassiveTarget_good_iff.mpr ⟨hacked, k, hat, hcode⟩)
    obtain ⟨j, hwhole, -⟩ := hdel.wholeAt
    rcases Nat.lt_trichotomy j k with hlt | rfl | hgt
    · exact hat.first.2 j hlt hwhole.start
    · have hfits := hwhole.fits
      omega
    · exact hnone j hgt hwhole
  · intro htrunc hgood
    obtain ⟨hacked, k, hat, hcode⟩ := inListPassiveTarget_good_iff.mp hgood
    by_cases hshort : env.count < k + 6 + (lenAt env.rspView k).toNat
    · have hlater : ∃ j, k < j ∧ WholeAt env cmdInListPassiveTarget j := by
        by_contra hnone
        exact htrunc ⟨hacked, k, hat, hcode, hshort, fun j hj hwhole => hnone ⟨j, hj, hwhole⟩⟩
      obtain ⟨j, -, hwhole⟩ := hlater
      exact ⟨hacked.1, _, hwhole.delivered (by decide)⟩
    · exact ⟨hacked.1, _, WholeAt.delivered ⟨hat.first.1, hat.info, hat.tfi, hcode, by omega⟩
        (by decide)⟩

/-- **Exactly when a reported success is a complete response.**  For every prior content of
`sDataBuf`, of the memory behind it, and every outcome of the write and the two reads: if and only
if the response the driver accepts did not end behind the delivered bytes. -/
theorem command_complete_iff (s : Driver) (pVer : OutParam FirmwareVersion) (env : Exchange) :
    (VersionComplete s pVer env ↔ ¬ VersionTruncated s pVer env) ∧
      (ListComplete s env ↔ ¬ ListTruncated s env) :=
  ⟨versionComplete_iff, listComplete_iff⟩

/-- A response of eight bytes, cut off behind IC and completed by the zeros of the cleared buffer,
is reported as a firmware version. -/
theorem command_complete_fails :
    ¬ ∀ (s : Driver) (pVer : OutParam FirmwareVersion) (env : Exchange),
      VersionComplete s pVer env ∧ ListComplete s env := by
  intro h
  have hcut := (h ⟨fun _ => 0, 0⟩ (some ⟨0, 0, 0, 0⟩)
    ⟨mraaSuccess, .delivered [0x00, 0x00, 0xFF, 0x00, 0xFF, 0x00] (by decide), fun _ => 0,
      .delivered [0x00, 0x00, 0xFF, 0x06, 0xFA, 0xD5, 0x03, 0x28] (by decide), fun _ => 0⟩).1
  obtain ⟨-, f, v, ⟨hpart, -⟩, -, hpacket, -⟩ := hcut (by decide)
  have hsize := hpart.length_le
  rw [InfoFrame.length_core, hpacket] at hsize
  exact absurd hsize (show ¬ 5 + 7 ≤ 8 by decide)

/-! ## A conforming device -/

/-- The response of a PN532 to `PN532_GetFirmwareVersion`. -/
def versionResponse (v : FirmwareVersion) : InfoFrame where
  tfi := tfiPn2Host
  packet := [cmdGetFirmwareVersion + 1, v.ic, v.ver, v.rev, v.support]
  short := show 5 < 255 by decide

lemma Exchange.acked_of_ackFrame {f : InfoFrame} {b : UInt8} (hwrite : env.write.code = 0)
    (h : env.ackRead.bytes = ackFrame ++ [b]) : env.Acked s f := by
  have hview := (env.ackCall s f).holds_view
  have hbytes : (env.ackCall s f).read.bytes = ackFrame ++ [b] := h
  have hlen : (env.ackCall s f).frmLen = 6 := by
    cases hread : env.ackRead with
    | delivered bytes fits =>
        rw [hread] at h
        simp only [AckCall.frmLen, Exchange.ackCall, hread]
        exact congrArg List.length h
    | failed =>
        rw [hread] at h
        exact absurd (congrArg List.length h) (Nat.succ_ne_zero 5).symm
  rw [hbytes, holds_append, ackFrame, holds_append, holds_cons, holds_cons] at hview
  obtain ⟨⟨hstart, hack0, hackFF, -⟩, -⟩ := hview
  refine ⟨hwrite, 0, ⟨hstart, fun j hj => absurd hj (Nat.not_lt_zero j)⟩, by omega, .inl ?_⟩
  exact ⟨hack0, hackFF⟩

lemma getFirmwareVersion_bus :
    (getFirmwareVersion s pVer env).bus = some versionCommand.encode := by
  have hbus : (exchange true s cmdGetFirmwareVersion none 0 env).bus = some versionCommand.encode :=
    exchange_bus s cmdGetFirmwareVersion none 0 env (fun _ => rfl) (by decide)
  rw [← hbus]
  simp only [getFirmwareVersion]
  split
  · rfl
  · split
    · rfl
    · split_ifs <;> rfl

lemma frameParser_versionCommand {m : ℕ → UInt8} (hm : Holds m 0 versionCommand.encode)
    (ppPacket : OutParam (Option ℕ)) (pLen : OutParam UInt8) :
    frameParser (some m) (UInt8.ofNat versionCommand.encode.length) ppPacket pLen
        = ⟨0xD4, ppPacket.set (some 6), pLen.set 1⟩ ∧ m 6 = 0x02 := by
  have hcore := (holds_append.mp hm).1
  have hpacket := (holds_core.mp hcore).2.2.2.2.1
  exact ⟨frameParser_embedded (J := []) (by decide) (by decide) rfl hcore (by decide),
    (holds_cons.mp hpacket).1⟩

/-- **A conforming device is always understood.**  Whatever `sDataBuf` held before, if the write
succeeds, the first read delivers an ACK and the second one a version response behind junk free of
start codes, then `PN532_GetFirmwareVersion` reports exactly that version; and what it had put on
the bus is the command `D4 02` without payload. -/
theorem getFirmwareVersion_understood (s : Driver) (v old : FirmwareVersion) (J T : List UInt8)
    (b : UInt8) (env : Exchange) (hwrite : env.write = mraaSuccess)
    (hack : env.ackRead.bytes = ackFrame ++ [b]) (hfree : ¬ startCode <:+: J)
    (hrsp : env.rspRead.bytes = J ++ (versionResponse v).encode ++ T)
    (hlen : env.rspRead.bytes.length = 32) :
    (getFirmwareVersion s (some old) env).code = good ∧
      (getFirmwareVersion s (some old) env).pVer = some v ∧
      ∃ bus, (getFirmwareVersion s (some old) env).bus = some bus ∧
        ∀ (m : ℕ → UInt8) (ppPacket : OutParam (Option ℕ)) (pLen : OutParam UInt8),
          Holds m 0 bus →
            frameParser (some m) (UInt8.ofNat bus.length) ppPacket pLen
                = ⟨0xD4, ppPacket.set (some 6), pLen.set 1⟩ ∧ m 6 = 0x02 := by
  have hacked : env.Acked s versionCommand := env.acked_of_ackFrame (by rw [hwrite]; rfl) hack
  have hview := env.holds_rspView
  rw [hrsp, holds_append, holds_append, InfoFrame.encode, holds_append, Nat.zero_add] at hview
  obtain ⟨⟨hJ, hcore, -⟩, -⟩ := hview
  have hshort : (versionResponse v).packet.length < dataBufMax := show 5 < 32 by decide
  have hroom : J.length + 6 ≤ env.count := by
    rw [hrsp] at hlen
    simp only [List.length_append, InfoFrame.length_encode] at hlen
    rw [Exchange.count, hrsp]
    simp only [List.length_append, InfoFrame.length_encode]
    omega
  obtain ⟨hstart, hsize, -, htfi, hpacket, -⟩ := holds_core.mp hcore
  have hat : ResponseAt env J.length :=
    ⟨firstOccurrence_append unbordered_startCode hfree hJ hstart, hroom,
      infoAt_of_holds hshort hcore, htfi⟩
  simp only [versionResponse, holds_cons, holds_nil, and_true, Nat.add_assoc,
    Nat.reduceAdd] at hpacket
  obtain ⟨hcode, hic, hver, hrev, hsupport⟩ := hpacket
  obtain ⟨hgood, hout⟩ := getFirmwareVersion_of_response old hacked hat hcode
    (by rw [hsize]; rfl)
  rw [hic, hver, hrev, hsupport] at hout
  exact ⟨hgood, hout, _, getFirmwareVersion_bus,
    fun m ppPacket pLen hm => frameParser_versionCommand hm ppPacket pLen⟩

/-- A PN532 1.6 answers behind a start of a start code, with bytes of an older frame behind it. -/
theorem getFirmwareVersion_understood_version :
    (getFirmwareVersion ⟨fun _ => 0x5A, 1⟩ (some ⟨0, 0, 0, 0⟩)
      ⟨mraaSuccess, .delivered (ackFrame ++ [0x00]) (by decide), fun _ => 0x5A,
        .delivered ([0x00, 0x00] ++ (versionResponse ⟨0x32, 0x01, 0x06, 0x07⟩).encode
          ++ List.replicate 17 0xFF) (by decide), fun _ => 0x5A⟩).pVer
      = some ⟨0x32, 0x01, 0x06, 0x07⟩ :=
  (getFirmwareVersion_understood _ ⟨0x32, 0x01, 0x06, 0x07⟩ _ [0x00, 0x00]
    (List.replicate 17 0xFF) 0x00 _ rfl rfl (by decide) rfl (by decide)).2.1

end PN532

import MuaHello.Pn532.Commands

/-!
# The driver's program

`main` runs `PN532_Test` for ever, and `PN532_Test` both commands.  All of it works on one buffer:
a round meets in `sDataBuf` whatever the rounds before it have left there.

* `rounds_independent` — in spite of that, the results of a round depend on nothing but what the bus
  does in it and what follows the buffer in memory, unless the bus delivers, where the ACK is due,
  the beginning of a frame whose TFI is the code of an ACK; and so does what a round prints, unless
  the ACK read fails or brings the beginning of any frame.
* `test_conforming` — a device that answers both commands is understood in every round.
-/

namespace PN532

/-! ## The program -/

/-- What happens during one `PN532_Test`: the contents of the uninitialised `fwVer`, and the two
exchanges. -/
structure Round where
  fwVer : FirmwareVersion
  version : Exchange
  list : Exchange

/-- The two results that the command functions return, `fwVer`, and what has been written to the
bus. -/
structure TestResult where
  version : UInt8
  fwVer : OutParam FirmwareVersion
  list : UInt8
  bus : List (Option (List UInt8))

/-- `PN532_Test` -/
def test (s : Driver) (r : Round) : Driver × TestResult :=
  let v := getFirmwareVersion s (some r.fwVer) r.version
  let l := inListPassiveTarget v.driver r.list
  (l.driver, ⟨v.code, v.pVer, l.code, [v.bus, l.bus]⟩)

/-- What `PN532_Test` prints. -/
def testLogs (s : Driver) (r : Round) : List LogCall :=
  let v := getFirmwareVersion s (some r.fwVer) r.version
  let l := inListPassiveTarget v.driver r.list
  v.logs ++ [⟨"Get_FW_Ver: 0x%02x\r\n", [v.code.toNat]⟩] ++ l.logs
    ++ [⟨"InLstPasTg: 0x%02x\r\n", [l.code.toNat]⟩]

/-- The loop of `main`, by the results of its rounds. -/
def program : Machine Driver Round TestResult := ⟨test⟩

/-- The loop of `main`, by what it prints. -/
def console : Machine Driver Round (List LogCall) := ⟨fun s r => ((test s r).1, testLogs s r)⟩

/-! ## What the bus says -/

namespace Exchange

variable (env : Exchange)

/-- The bytes of an ACK were delivered where one is due. -/
def AckDelivered : Prop := env.ackRead.bytes.length = 6 ∧ ackFrame <+: env.ackRead.bytes

instance : Decidable env.AckDelivered := inferInstanceAs (Decidable (_ ∧ _))

/-- Six bytes were delivered instead that begin an information frame with the code of an ACK as its
TFI. -/
def Ambiguous : Prop :=
  ∃ len : UInt8, 1 ≤ len.toNat ∧ len.toNat ≤ dataBufMax ∧
    env.ackRead.bytes = startCode ++ [len, -len, tfiAck]

/-- Where an ACK is due the read failed, or six bytes were delivered that begin an information
frame: the parser and the dump go on to older bytes. -/
def Stale : Prop :=
  env.ackRead = .failed ∨ ∃ len tfi : UInt8, 1 ≤ len.toNat ∧ len.toNat ≤ dataBufMax ∧
    env.ackRead.bytes = startCode ++ [len, -len, tfi]

/-- What comes of the second half of an exchange. -/
def received : Except UInt8 Response :=
  if env.count = 0 then .error err
  else
    let parsed := frameParser (some env.rspView) (UInt8.ofNat env.count) (some none) (some 0)
    if parsed.code ≠ tfiPn2Host then .error invalidFrame
    else .ok ⟨env.rspView, parsed.packet.join, parsed.len.getD 0⟩

/-- What comes of an exchange. -/
def outcome : Except UInt8 Response :=
  if env.write.code ≠ 0 then .error busBusy
  else if ¬ env.AckDelivered then .error invalidAck
  else env.received

end Exchange

variable {s : Driver} {env : Exchange} {f : InfoFrame}

lemma Exchange.holds_ackView (hf : f.encode.length ≤ dataBufMax) (hread : env.ackRead = .failed) :
    Holds (env.ackCall s f).view 0 f.encode := by
  apply (holds_listMem f.encode s.mem).congr
  intro i hi
  rw [AckCall.view, overlay, if_pos (by omega), Exchange.ackCall, hread]
  simp [I2cRead.store, I2cRead.bytes, listMem]

/-- **A failed read shows no ACK**: what it leaves in the buffer is the frame that was sent. -/
lemma Exchange.not_showsAck_of_failed (hf : f.encode.length ≤ dataBufMax)
    (htfi : f.tfi ≠ tfiAck) (hread : env.ackRead = .failed) :
    ¬ ShowsAck (env.ackCall s f).view (env.ackCall s f).frmLen := by
  rintro ⟨k, hfirst, -, hat⟩
  have hcore := (holds_append.mp (env.holds_ackView (s := s) hf hread)).1
  obtain ⟨hstart, hlen, -, htfi', -⟩ := holds_core.mp hcore
  have hk : k = 0 := hfirst.unique ⟨hstart, by simp⟩
  subst hk
  rcases hat with ⟨hack, -⟩ | ⟨-, hinfo⟩
  · have hnat := f.toNat_len
    rw [← hlen, hack] at hnat
    simp at hnat
  · exact htfi (htfi'.symm.trans hinfo)

/-- **What the ACK read shows**, unless it is ambiguous. -/
lemma Exchange.showsAck_iff (hf : f.encode.length ≤ dataBufMax) (htfi : f.tfi ≠ tfiAck)
    (hplain : ¬ env.Ambiguous) :
    ShowsAck (env.ackCall s f).view (env.ackCall s f).frmLen ↔ env.AckDelivered := by
  have hview := (env.ackCall s f).holds_view
  have hbytes : (env.ackCall s f).read.bytes = env.ackRead.bytes := rfl
  rw [hbytes] at hview
  cases hread : env.ackRead with
  | failed =>
      refine iff_of_false (env.not_showsAck_of_failed hf htfi hread) ?_
      rw [AckDelivered, hread]
      simp [I2cRead.bytes]
  | delivered bytes fits =>
      have hfrmLen : (env.ackCall s f).frmLen = bytes.length := by
        simp only [AckCall.frmLen, Exchange.ackCall, hread]
      have hsame : env.ackRead.bytes = bytes := by rw [hread]; rfl
      rw [AckDelivered, hfrmLen, hsame]
      rw [hsame] at hview
      simp only [ackPacketLen] at fits
      constructor
      · rintro ⟨k, hfirst, hk, hat⟩
        -- six bytes leave room for a start code at offset 0 only
        have hk0 : k = 0 := by omega
        subst hk0
        have hstart := hfirst.1
        rcases hat with hack | ⟨⟨⟨hpos, hle, hlcs⟩, -⟩, htfi'⟩
        · refine ⟨by omega, Holds.prefix_of ?_ hview (by simp [ackFrame, startCode]; omega)⟩
          rw [ackFrame, holds_append, holds_cons, holds_cons]
          exact ⟨hstart, hack.1, hack.2, holds_nil⟩
        · refine absurd ⟨_, hpos, hle, ?_⟩ hplain
          rw [hsame]
          refine hview.unique ?_ (by simp [startCode]; omega)
          have hneg : lcsAt (env.ackCall s f).view 0 = -lenAt (env.ackCall s f).view 0 := by grind
          rw [holds_append, holds_cons, holds_cons, holds_cons]
          exact ⟨hstart, rfl, hneg, htfi', holds_nil⟩
      · rintro ⟨hlen, rest, hrest⟩
        rw [← hrest, holds_append, ackFrame, holds_append, holds_cons, holds_cons] at hview
        obtain ⟨⟨hstart, hack₀, hackFF, -⟩, -⟩ := hview
        exact ⟨0, ⟨hstart, by simp⟩, by omega, .inl ⟨hack₀, hackFF⟩⟩

/-- Clearing the buffer makes the second half of an exchange independent of the first. -/
lemma receive_received (s : Driver) (env : Exchange) : (receive s env).1 = env.received := by
  obtain ⟨hzero, hcast⟩ := readRsp_count (overlay dataBufMax (fun _ => 0) s.mem) env.rspRead
  rw [receive, Exchange.received, Exchange.count]
  by_cases hcount : env.rspRead.bytes.length = 0
  · rw [if_pos (hzero.mpr hcount), if_pos hcount]
  · rw [if_neg (mt hzero.mp hcount), if_neg hcount, hcast hcount, readRsp]
    simp only [Option.getD_some, overlay_store]
    split_ifs <;> rfl

/-- **What comes of an exchange is told by the bus.** -/
lemma exchange_outcome (s : Driver) (cmd : UInt8) (pCmdData : Option (ℕ → UInt8)) (dataLen : UInt8)
    (hnull : pCmdData = none → dataLen = 0) (hlen : dataLen.toNat + 9 ≤ dataBufMax)
    (hplain : ¬ env.Ambiguous) :
    (exchange notes s cmd pCmdData dataLen env).outcome = env.outcome := by
  have hsmall : dataLen.toNat + 9 ≤ 255 := by
    rw [dataBufMax] at hlen
    omega
  have hshort : (payload pCmdData dataLen).length < 254 := by
    rw [length_payload]
    omega
  have hwrite := sendCmd_good_iff s cmd pCmdData dataLen hnull 0 env.write
  have hack := (env.ackCall s (cmdFrame cmd (payload pCmdData dataLen) hshort)).ret_eq_ack_iff
  have hfits : (cmdFrame cmd (payload pCmdData dataLen) hshort).encode.length ≤ dataBufMax := by
    simp only [InfoFrame.length_encode, cmdFrame, List.length_cons, length_payload]
    omega
  have htfi : (cmdFrame cmd (payload pCmdData dataLen) hshort).tfi ≠ tfiAck :=
    show tfiHost2Pn ≠ tfiAck by decide
  rw [Exchange.showsAck_iff hfits htfi hplain, AckCall.ret, Exchange.ackCall,
    ← sendCmd_driver s cmd pCmdData dataLen env.write hnull hsmall] at hack
  rw [exchange, Exchange.outcome]
  simp only
  by_cases hw : env.write.code = 0
  · rw [if_neg (not_not_intro (hwrite.mpr hw)), if_neg (not_not_intro hw)]
    by_cases ha : env.AckDelivered
    · rw [if_neg (not_not_intro (hack.mpr ha)), if_neg (not_not_intro ha), receive_received]
    · rw [if_pos (mt hack.mp ha), if_pos ha]
  · have hcode : (sendCmd s cmd pCmdData dataLen 0 env.write).code = busBusy := by
      have hne := mt hwrite.mp hw
      rw [sendCmd, if_neg (not_null_payload hnull)] at hne ⊢
      simp only at hne ⊢
      split_ifs at hne ⊢ with h
      · exact absurd rfl hne
      · rfl
    rw [if_pos (mt hwrite.mp hw), if_pos hw, hcode]
    rfl

/-! ## What is printed -/

lemma Exchange.Ambiguous.stale (h : env.Ambiguous) : env.Stale := by
  obtain ⟨len, hpos, hle, hbytes⟩ := h
  exact .inr ⟨len, tfiAck, hpos, hle, hbytes⟩

/-- **Six bytes are parsed alone**, if they do not begin an information frame. -/
lemma frameParser_bytes {m m' : ℕ → UInt8} {bytes : List UInt8} {frmLen : UInt8}
    (hm : Holds m 0 bytes) (hm' : Holds m' 0 bytes) (hlen : frmLen.toNat = bytes.length)
    (hshort : bytes.length ≤ ackPacketLen)
    (hplain : ¬ ∃ len tfi : UInt8, 1 ≤ len.toNat ∧ len.toNat ≤ dataBufMax ∧
      bytes = startCode ++ [len, -len, tfi]) :
    frameParser (some m) frmLen none none = frameParser (some m') frmLen none none := by
  simp only [ackPacketLen] at hshort
  have hsame : ∀ i < bytes.length, m i = m' i := by
    intro i hi
    have hbyte := slice_inj (hm.trans hm'.symm) hi
    rwa [Nat.zero_add] at hbyte
  -- an information frame would have to be the one that is excluded
  have hnot : ∀ {m : ℕ → UInt8}, Holds m 0 bytes → 6 ≤ bytes.length → Holds m 0 startCode →
      ¬ InfoAt m 0 := by
    rintro m hm hsix hstart ⟨⟨hpos, hle, hlcs⟩, -⟩
    refine hplain ⟨lenAt m 0, tfiAt m 0, hpos, hle, hm.unique ?_ (by simp [startCode]; omega)⟩
    have hneg : lcsAt m 0 = -lenAt m 0 := by grind
    rw [holds_append, holds_cons, holds_cons, holds_cons]
    exact ⟨hstart, rfl, hneg, rfl, holds_nil⟩
  rcases found_or_not_found m frmLen with ⟨k, hfirst, hk⟩ | hnone
  · have hk0 : k = 0 := by omega
    subst hk0
    have hsix : 6 ≤ bytes.length := by omega
    have hstart : Holds m' 0 startCode :=
      hfirst.1.congr fun i hi => hsame _ (by simp [startCode] at hi; omega)
    have hlenAt : lenAt m 0 = lenAt m' 0 := hsame 3 (by omega)
    have hlcsAt : lcsAt m 0 = lcsAt m' 0 := hsame 4 (by omega)
    rw [frameParser_found hfirst hk, frameParser_found ⟨hstart, by simp⟩ hk, verdict, verdict,
      if_neg (hnot hm hsix hfirst.1), if_neg (hnot hm' hsix hstart)]
    simp only [AckAt, NackAt, ExtAt, CodesAt, hlenAt, hlcsAt]
  · have hnone' : ∀ k, k + 6 ≤ frmLen.toNat → ¬ Holds m' k startCode := by
      intro k hk hstart
      exact hnone k hk (hstart.congr fun i hi => (hsame _ (by simp [startCode] at hi; omega)).symm)
    rw [frameParser_not_found hnone, frameParser_not_found hnone']

/-- **What `PN532_ReadAck` returns and prints is told by its bytes.** -/
lemma readAck_congr (s s' : Driver) (h : ¬ env.Stale) :
    (readAck s env.ackRead env.ackAfter).1 = (readAck s' env.ackRead env.ackAfter).1 ∧
      readAckLogs s env.ackRead env.ackAfter = readAckLogs s' env.ackRead env.ackAfter := by
  rw [Exchange.Stale, not_or] at h
  cases hread : env.ackRead with
  | failed => exact absurd hread h.1
  | delivered bytes fits =>
      have hview : ∀ t : Driver, Holds (overlay dataBufMax
          ((I2cRead.delivered bytes fits).store t.mem) env.ackAfter) 0 bytes := fun t =>
        (⟨t, .delivered bytes fits, env.ackAfter⟩ : AckCall).holds_view
      have hcount : (UInt8.ofInt (I2cRead.delivered bytes fits).ret).toNat = bytes.length :=
        (⟨s, .delivered bytes fits, env.ackAfter⟩ : AckCall).toNat_ret
      have hparse := frameParser_bytes (hview s) (hview s') hcount fits
        (by simpa only [hread, I2cRead.bytes] using h.2)
      have hdump : ∀ t : Driver, slice (overlay dataBufMax
          ((I2cRead.delivered bytes fits).store t.mem) env.ackAfter) 0 bytes.length = bytes :=
        fun t => hview t
      simp only [readAck, readAckLogs, hparse, hcount, hdump, and_self]

lemma toNat_ofInt_ret (read : I2cRead dataBufMax) :
    (Int8.ofInt read.ret).toInt.toNat = read.bytes.length := by
  have hcount : ∀ n : Fin 33, (Int8.ofInt (n : ℕ)).toInt.toNat = n := by decide
  cases read with
  | failed => rfl
  | delivered bytes fits => exact hcount ⟨bytes.length, Nat.lt_succ_of_le fits⟩

/-- What the second half of an exchange prints does not depend on the buffer. -/
lemma receiveLogs_eq (notes : Bool) (s : Driver) (env : Exchange) :
    receiveLogs notes s env = note notes "## ReadRsp\r\n"
      ++ dump "R - %02d - 0x" (Int8.ofInt env.rspRead.ret).toInt env.rspRead.bytes
      ++ if Int8.ofInt env.rspRead.ret ≤ 0 then [] else note notes "## Decode RspFrame\r\n" := by
  have hslice : slice (env.rspRead.store (overlay dataBufMax (fun _ => 0) s.mem)) 0
      (Int8.ofInt env.rspRead.ret).toInt.toNat = env.rspRead.bytes := by
    rw [toNat_ofInt_ret]
    exact holds_listMem _ _
  simp only [receiveLogs, readRspLogs, hslice]
  rfl

/-- What an exchange prints, by how far it comes. -/
lemma exchange_logs_eq (notes : Bool) (s : Driver) (cmd : UInt8) (pCmdData : Option (ℕ → UInt8))
    (dataLen : UInt8) (hnull : pCmdData = none → dataLen = 0) :
    (exchange notes s cmd pCmdData dataLen env).logs
      = note notes "## SendCmd\r\n"
        ++ sendCmdLogs (sendCmd s cmd pCmdData dataLen 0 env.write) env.write
        ++ if env.write.code ≠ 0 then [] else
          note notes "## ReadAck\r\n"
            ++ readAckLogs (sendCmd s cmd pCmdData dataLen 0 env.write).driver env.ackRead
              env.ackAfter
            ++ if (readAck (sendCmd s cmd pCmdData dataLen 0 env.write).driver env.ackRead
                env.ackAfter).1 ≠ ack.toInt8 then [] else receiveLogs notes s env := by
  have hgood := sendCmd_good_iff s cmd pCmdData dataLen hnull 0 env.write
  rw [exchange]
  simp only
  by_cases hw : env.write.code = 0
  · rw [if_neg (not_not_intro (hgood.mpr hw)), if_neg (not_not_intro hw)]
    by_cases ha : (readAck (sendCmd s cmd pCmdData dataLen 0 env.write).driver env.ackRead
        env.ackAfter).1 = ack.toInt8
    · rw [if_neg (not_not_intro ha), if_neg (not_not_intro ha)]
      simp only [receiveLogs_eq, List.append_assoc]
    · rw [if_pos ha, if_pos ha]
      simp only [List.append_assoc, List.append_nil]
  · rw [if_pos (mt hgood.mp hw), if_pos hw, List.append_nil]

/-- **What an exchange prints is told by the bus.** -/
lemma exchange_logs (notes : Bool) (s s' : Driver) (cmd : UInt8) (pCmdData : Option (ℕ → UInt8))
    (dataLen : UInt8) (hnull : pCmdData = none → dataLen = 0) (hlen : dataLen.toNat + 9 ≤ 255)
    (h : ¬ env.Stale) : (exchange notes s cmd pCmdData dataLen env).logs
      = (exchange notes s' cmd pCmdData dataLen env).logs := by
  have hbus := sendCmd_bus s cmd pCmdData dataLen 0 env.write hnull hlen
  have hbus' := sendCmd_bus s' cmd pCmdData dataLen 0 env.write hnull hlen
  obtain ⟨hret, hack⟩ := readAck_congr (sendCmd s cmd pCmdData dataLen 0 env.write).driver
    (sendCmd s' cmd pCmdData dataLen 0 env.write).driver h
  rw [exchange_logs_eq notes s cmd pCmdData dataLen hnull,
    exchange_logs_eq notes s' cmd pCmdData dataLen hnull, hret, hack, receiveLogs_eq,
    receiveLogs_eq, sendCmdLogs, sendCmdLogs, hbus, hbus']

/-! ## Rounds -/

variable {pVer : OutParam FirmwareVersion} {r : Round}

/-- `PN532_GetFirmwareVersion` decides by the outcome of its exchange. -/
lemma getFirmwareVersion_congr {s' : Driver}
    (h : (exchange true s cmdGetFirmwareVersion none 0 env).outcome
      = (exchange true s' cmdGetFirmwareVersion none 0 env).outcome) :
    (getFirmwareVersion s pVer env).code = (getFirmwareVersion s' pVer env).code ∧
      (getFirmwareVersion s pVer env).pVer = (getFirmwareVersion s' pVer env).pVer := by
  simp only [getFirmwareVersion, h]
  cases (exchange true s' cmdGetFirmwareVersion none 0 env).outcome with
  | error code => exact ⟨rfl, rfl⟩
  | ok r =>
      simp only
      split
      · exact ⟨rfl, rfl⟩
      · split_ifs <;> exact ⟨rfl, rfl⟩

/-- So does `PN532_InListPassiveTarget`. -/
lemma inListPassiveTarget_congr {s' : Driver}
    (h : (exchange false s cmdInListPassiveTarget (some (listMem listCmdData fun _ => 0))
        (UInt8.ofNat listCmdData.length) env).outcome
      = (exchange false s' cmdInListPassiveTarget (some (listMem listCmdData fun _ => 0))
        (UInt8.ofNat listCmdData.length) env).outcome) :
    (inListPassiveTarget s env).code = (inListPassiveTarget s' env).code := by
  simp only [inListPassiveTarget, h]
  cases (exchange false s' cmdInListPassiveTarget (some (listMem listCmdData fun _ => 0))
      (UInt8.ofNat listCmdData.length) env).outcome with
  | error code => rfl
  | ok r =>
      simp only
      split
      · rfl
      · split_ifs <;> rfl

/-- What `PN532_GetFirmwareVersion` prints follows from what its exchange does. -/
lemma getFirmwareVersion_logs {s' : Driver}
    (h : (exchange true s cmdGetFirmwareVersion none 0 env).outcome
      = (exchange true s' cmdGetFirmwareVersion none 0 env).outcome)
    (hlogs : (exchange true s cmdGetFirmwareVersion none 0 env).logs
      = (exchange true s' cmdGetFirmwareVersion none 0 env).logs) :
    (getFirmwareVersion s pVer env).logs = (getFirmwareVersion s' pVer env).logs := by
  simp only [getFirmwareVersion, h, hlogs]
  cases (exchange true s' cmdGetFirmwareVersion none 0 env).outcome with
  | error code => rfl
  | ok r =>
      simp only
      split
      · rfl
      · split_ifs <;> rfl

/-- The same of `PN532_InListPassiveTarget`. -/
lemma inListPassiveTarget_logs {s' : Driver}
    (h : (exchange false s cmdInListPassiveTarget (some (listMem listCmdData fun _ => 0))
        (UInt8.ofNat listCmdData.length) env).outcome
      = (exchange false s' cmdInListPassiveTarget (some (listMem listCmdData fun _ => 0))
        (UInt8.ofNat listCmdData.length) env).outcome)
    (hlogs : (exchange false s cmdInListPassiveTarget (some (listMem listCmdData fun _ => 0))
        (UInt8.ofNat listCmdData.length) env).logs
      = (exchange false s' cmdInListPassiveTarget (some (listMem listCmdData fun _ => 0))
        (UInt8.ofNat listCmdData.length) env).logs) :
    (inListPassiveTarget s env).logs = (inListPassiveTarget s' env).logs := by
  simp only [inListPassiveTarget, h, hlogs]
  cases (exchange false s' cmdInListPassiveTarget (some (listMem listCmdData fun _ => 0))
      (UInt8.ofNat listCmdData.length) env).outcome with
  | error code => rfl
  | ok r =>
      simp only
      split
      · rfl
      · split_ifs <;> rfl

lemma inListPassiveTarget_bus : (inListPassiveTarget s env).bus = some listCommand.encode := by
  have hbus : (exchange false s cmdInListPassiveTarget (some (listMem listCmdData fun _ => 0))
      (UInt8.ofNat listCmdData.length) env).bus = some listCommand.encode :=
    exchange_bus s cmdInListPassiveTarget (some (listMem listCmdData fun _ => 0))
      (UInt8.ofNat listCmdData.length) env (by simp) (by decide)
  rw [← hbus]
  simp only [inListPassiveTarget]
  split
  · rfl
  · split
    · rfl
    · split_ifs <;> rfl

/-- What every round writes to the bus. -/
def roundBus : List (Option (List UInt8)) := [some versionCommand.encode, some listCommand.encode]

lemma test_bus : (test s r).2.bus = roundBus := by
  simp only [test, getFirmwareVersion_bus, inListPassiveTarget_bus]
  rfl

/-- The exchanges of a round end in the same way in every state. -/
lemma version_outcome (s s' : Driver) (h : ¬ env.Ambiguous) :
    (exchange true s cmdGetFirmwareVersion none 0 env).outcome
      = (exchange true s' cmdGetFirmwareVersion none 0 env).outcome := by
  rw [exchange_outcome s cmdGetFirmwareVersion none 0 (fun _ => rfl) (by decide) h,
    exchange_outcome s' cmdGetFirmwareVersion none 0 (fun _ => rfl) (by decide) h]

lemma list_outcome (s s' : Driver) (h : ¬ env.Ambiguous) :
    (exchange false s cmdInListPassiveTarget (some (listMem listCmdData fun _ => 0))
        (UInt8.ofNat listCmdData.length) env).outcome
      = (exchange false s' cmdInListPassiveTarget (some (listMem listCmdData fun _ => 0))
        (UInt8.ofNat listCmdData.length) env).outcome := by
  rw [exchange_outcome s cmdInListPassiveTarget (some (listMem listCmdData fun _ => 0))
      (UInt8.ofNat listCmdData.length) (by simp) (by decide) h,
    exchange_outcome s' cmdInListPassiveTarget (some (listMem listCmdData fun _ => 0))
      (UInt8.ofNat listCmdData.length) (by simp) (by decide) h]

/-- **A round returns the same from every state.** -/
lemma test_independent (s s' : Driver) (hversion : ¬ r.version.Ambiguous)
    (hlist : ¬ r.list.Ambiguous) : (test s r).2 = (test s' r).2 := by
  obtain ⟨hcode, hpVer⟩ := @getFirmwareVersion_congr s r.version (some r.fwVer) s'
    (version_outcome s s' hversion)
  have hlistCode := inListPassiveTarget_congr
    (list_outcome (getFirmwareVersion s (some r.fwVer) r.version).driver
      (getFirmwareVersion s' (some r.fwVer) r.version).driver hlist)
  rw [TestResult.mk.injEq]
  exact ⟨hcode, hpVer, hlistCode, test_bus.trans test_bus.symm⟩

/-- **A round prints the same from every state.** -/
lemma testLogs_independent (s s' : Driver) (hversion : ¬ r.version.Stale)
    (hlist : ¬ r.list.Stale) : testLogs s r = testLogs s' r := by
  have hsame := test_independent s s' (mt Exchange.Ambiguous.stale hversion)
    (mt Exchange.Ambiguous.stale hlist)
  simp only [test, TestResult.mk.injEq] at hsame
  obtain ⟨hcode, -, hlistCode, -⟩ := hsame
  have hlogs := @getFirmwareVersion_logs s r.version (some r.fwVer) s'
    (version_outcome s s' (mt Exchange.Ambiguous.stale hversion))
    (exchange_logs true s s' cmdGetFirmwareVersion none 0 (fun _ => rfl) (by decide) hversion)
  have hlistLogs := inListPassiveTarget_logs
    (list_outcome (getFirmwareVersion s (some r.fwVer) r.version).driver
      (getFirmwareVersion s' (some r.fwVer) r.version).driver
      (mt Exchange.Ambiguous.stale hlist))
    (exchange_logs false _ _ cmdInListPassiveTarget (some (listMem listCmdData fun _ => 0))
      (UInt8.ofNat listCmdData.length) (by simp) (by decide) hlist)
  simp only [testLogs, hlogs, hlistLogs, hcode, hlistCode]

/-- The answer to `PN532_InListPassiveTarget` when no card is in the field. -/
def noTarget : InfoFrame := ⟨tfiPn2Host, [cmdInListPassiveTarget + 1, 0x00], by decide⟩

/-- A round with a PN532 1.6 and no card. -/
def round : Round where
  fwVer := ⟨0xAA, 0xAA, 0xAA, 0xAA⟩
  version := ⟨mraaSuccess, .delivered (ackFrame ++ [0x00]) (by decide), fun _ => 0,
    .delivered ([0x01] ++ (versionResponse ⟨0x32, 0x01, 0x06, 0x07⟩).encode ++ [0xFF])
      (by decide), fun _ => 0⟩
  list := ⟨mraaSuccess, .delivered (ackFrame ++ [0x00]) (by decide), fun _ => 0,
    .delivered ([0x01] ++ noTarget.encode ++ []) (by decide), fun _ => 0⟩

lemma round_fresh : ¬ round.version.Stale ∧ ¬ round.list.Stale := by
  have hack : ∀ len tfi : UInt8, 1 ≤ len.toNat →
      ackFrame ++ [0x00] ≠ startCode ++ [len, -len, tfi] := by
    intro len tfi hpos h
    have hlen : len = 0 := (List.cons.inj (@List.append_cancel_left _ startCode _ _ h)).1.symm
    simp [hlen] at hpos
  constructor
  · rintro (h | ⟨len, tfi, hpos, -, h⟩)
    · cases h
    · exact hack len tfi hpos h
  · rintro (h | ⟨len, tfi, hpos, -, h⟩)
    · cases h
    · exact hack len tfi hpos h

/-- **What is carried over from one round to the next.**  In every run of the program, from any
contents of `sDataBuf`, with anything on the bus and in the memory behind the buffer: both commands
go out in every round; every round returns what it would have returned as the first one, if the bus
never delivers, where an ACK is due, the beginning of a frame whose TFI is the code of an ACK; and
every round prints what it would have printed as the first one, if no read where an ACK is due fails
or brings the beginning of an information frame. -/
theorem rounds_independent (s : Driver) (after : ℕ → UInt8) (rounds : List Round) :
    (∀ t ∈ (program.run s rounds).2,
        t.bus = [some versionCommand.encode, some listCommand.encode]) ∧
      ((∀ r ∈ rounds, ¬ r.version.Ambiguous ∧ ¬ r.list.Ambiguous) →
        (program.run s rounds).2 = rounds.map fun r => (test (.initial after) r).2) ∧
      ((∀ r ∈ rounds, ¬ r.version.Stale ∧ ¬ r.list.Stale) →
        (console.run s rounds).2 = rounds.map fun r => testLogs (.initial after) r) := by
  induction rounds generalizing s with
  | nil => simp [Machine.run]
  | cons r rounds ih =>
      obtain ⟨hbus, hreturned, hprinted⟩ := ih (test s r).1
      simp only [Machine.run, List.map_cons, List.forall_mem_cons, List.cons.injEq]
      refine ⟨⟨test_bus, hbus⟩, ?_, ?_⟩
      · rintro ⟨⟨hversion, hlist⟩, hrest⟩
        exact ⟨test_independent s (.initial after) hversion hlist, hreturned hrest⟩
      · rintro ⟨⟨hversion, hlist⟩, hrest⟩
        exact ⟨testLogs_independent s (.initial after) hversion hlist, hprinted hrest⟩

/-- Two rounds in a buffer full of other bytes. -/
theorem rounds_independent_round :
    (program.run ⟨fun _ => 0x5A, 1⟩ [round, round]).2
        = [(test (.initial fun _ => 0) round).2, (test (.initial fun _ => 0) round).2] ∧
      (console.run ⟨fun _ => 0x5A, 1⟩ [round, round]).2
        = [testLogs (.initial fun _ => 0) round, testLogs (.initial fun _ => 0) round] := by
  obtain ⟨-, hreturned, hprinted⟩ :=
    rounds_independent ⟨fun _ => 0x5A, 1⟩ (fun _ => 0) [round, round]
  have hfresh : ∀ r ∈ [round, round], ¬ r.version.Stale ∧ ¬ r.list.Stale := by
    intro r hr
    simp only [List.mem_cons, List.not_mem_nil, or_false, or_self] at hr
    rw [hr]
    exact round_fresh
  refine ⟨hreturned ?_, hprinted hfresh⟩
  intro r hr
  obtain ⟨hversion, hlist⟩ := hfresh r hr
  exact ⟨mt Exchange.Ambiguous.stale hversion, mt Exchange.Ambiguous.stale hlist⟩

-- an answer that comes too early is completed by an older byte, or not
example : readAckLogs ⟨fun _ => 0, 0⟩
      (.delivered [0x00, 0x00, 0xFF, 0x06, 0xFA, 0xD5] (by decide)) (fun _ => 0)
    ≠ readAckLogs ⟨fun i => if i = 11 then 0x2B else 0, 0⟩
      (.delivered [0x00, 0x00, 0xFF, 0x06, 0xFA, 0xD5] (by decide)) (fun _ => 0) := by
  decide

/-! ## Conforming devices -/

/-- The device acknowledges the command and answers it with the frame `f`, behind junk free of start
codes. -/
structure Exchange.Answers (env : Exchange) (f : InfoFrame) : Prop where
  write : env.write.code = 0
  acked : ∃ b, env.ackRead.bytes = ackFrame ++ [b]
  response : ∃ J T, ¬ startCode <:+: J ∧ env.rspRead.bytes = J ++ f.encode ++ T

/-- **The driver finds the answer.** -/
lemma Exchange.Answers.responseAt (h : env.Answers f) (htfi : f.tfi = tfiPn2Host) :
    ∃ k, ResponseAt env k ∧ lenAt env.rspView k = f.len ∧
      Holds env.rspView (k + 6) f.packet := by
  obtain ⟨J, T, hfree, hrsp⟩ := h.response
  have hview := env.holds_rspView
  have hroom := env.count_le
  rw [Exchange.count, hrsp] at hroom
  simp only [List.length_append, InfoFrame.length_encode] at hroom
  rw [hrsp, holds_append, holds_append, InfoFrame.encode, holds_append, Nat.zero_add] at hview
  obtain ⟨⟨hJ, hcore, -⟩, -⟩ := hview
  obtain ⟨hstart, hlen, -, htfi', hpacket, -⟩ := holds_core.mp hcore
  refine ⟨J.length, ⟨firstOccurrence_append unbordered_startCode hfree hJ hstart, ?_,
    infoAt_of_holds ?_ hcore, htfi'.trans htfi⟩, hlen, hpacket⟩
  · rw [Exchange.count, hrsp]
    simp only [List.length_append, InfoFrame.length_encode]
    omega
  · rw [dataBufMax]
    omega

lemma Exchange.Answers.acked' (h : env.Answers f) (sent : InfoFrame) : env.Acked s sent := by
  obtain ⟨b, hb⟩ := h.acked
  exact env.acked_of_ackFrame h.write hb

/-- A round with a conforming device. -/
structure Conforming (r : Round) (v : FirmwareVersion) : Prop where
  version : r.version.Answers (versionResponse v)
  list : ∃ f, r.list.Answers f ∧ f.tfi = tfiPn2Host ∧
    f.packet.head? = some (cmdInListPassiveTarget + 1)

lemma test_of_conforming {v : FirmwareVersion} (h : Conforming r v) :
    (test s r).2 = ⟨good, some v, good, roundBus⟩ := by
  obtain ⟨hversion, f, hlist, htfi, hhead⟩ := h
  obtain ⟨k, hat, hlen, hpacket⟩ := hversion.responseAt rfl
  simp only [versionResponse, holds_cons, holds_nil, and_true, Nat.add_assoc,
    Nat.reduceAdd] at hpacket
  obtain ⟨hcode, hic, hver, hrev, hsupport⟩ := hpacket
  obtain ⟨hgood, hout⟩ := getFirmwareVersion_of_response (s := s) r.fwVer
    (hversion.acked' versionCommand) hat hcode (by rw [hlen]; rfl)
  rw [hic, hver, hrev, hsupport] at hout
  obtain ⟨j, hat', -, hpacket'⟩ := hlist.responseAt htfi
  have hlistGood : (inListPassiveTarget (getFirmwareVersion s (some r.fwVer) r.version).driver
      r.list).code = good := by
    refine inListPassiveTarget_good_iff.mpr ⟨hlist.acked' listCommand, j, hat', ?_⟩
    cases hp : f.packet with
    | nil => simp [hp] at hhead
    | cons b rest =>
        rw [hp, List.head?_cons, Option.some.injEq] at hhead
        rw [hp, holds_cons] at hpacket'
        exact hpacket'.1.trans hhead
  rw [TestResult.mk.injEq]
  exact ⟨hgood, hout, hlistGood, test_bus⟩

end PN532

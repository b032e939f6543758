import MuaHello.Pn532.Ack

/-!
# Command exchanges

`PN532_GetFirmwareVersion` and `PN532_InListPassiveTarget` as a whole: what the bus has to deliver
for one of them to return `PN532_GOOD`.

`exchange_ok_iff` reads the shared part off the bytes: the write went through, the ACK read shows
an ACK, and the first start code of the response is followed by a frame with both checksums right.
Everything the driver decides afterwards it decides about that frame.
-/

namespace PN532

/-! ## The exchange, read off the bytes -/

namespace Exchange

variable (env : Exchange)

/-- The memory the response is parsed in: the delivered bytes, zeros up to the end of `sDataBuf`,
and what lies behind it. -/
def rspView : ℕ → UInt8 :=
  overlay dataBufMax (listMem env.rspRead.bytes fun _ => 0) env.rspAfter

/-- The number of response bytes delivered. -/
def count : ℕ := env.rspRead.bytes.length

/-- The exchange's call of `PN532_ReadAck`, which finds the sent frame `f` in `sDataBuf`. -/
def ackCall (s : Driver) (f : InfoFrame) : AckCall :=
  ⟨⟨listMem f.encode s.mem, 0⟩, env.ackRead, env.ackAfter⟩

/-- The command went out and the ACK read shows an ACK. -/
def Acked (s : Driver) (f : InfoFrame) : Prop :=
  env.write.code = 0 ∧ ShowsAck (env.ackCall s f).view (env.ackCall s f).frmLen

lemma count_le : env.count ≤ 32 := env.rspRead.length_bytes_le

lemma holds_rspView : Holds env.rspView 0 env.rspRead.bytes := by
  apply (holds_listMem env.rspRead.bytes fun _ => 0).congr
  intro i hi
  have hfits := env.count_le
  rw [count] at hfits
  rw [rspView, overlay, if_pos (by simp only [dataBufMax]; omega)]

end Exchange

/-! ## The response -/

/-- The first start code of the response is followed, at `k`, by an information frame with both
checksums right and TFI `D5`, whose header was delivered. -/
structure ResponseAt (env : Exchange) (k : ℕ) : Prop where
  first : FirstOccurrence startCode env.rspView k
  header : k + 6 ≤ env.count
  info : InfoAt env.rspView k
  tfi : tfiAt env.rspView k = tfiPn2Host

lemma ofInt_count : ∀ n : Fin 33, (Int8.ofInt (n : ℕ)).toUInt8 = UInt8.ofNat n ∧
    (Int8.ofInt (n : ℕ) ≤ 0 ↔ (n : ℕ) = 0) := by decide

/-- `int8 res` is positive exactly when bytes were delivered, and is their number then. -/
lemma readRsp_count (m : ℕ → UInt8) (read : I2cRead dataBufMax) :
    ((readRsp (some m) read).1 ≤ 0 ↔ read.bytes.length = 0) ∧
      (read.bytes.length ≠ 0 →
        (readRsp (some m) read).1.toUInt8 = UInt8.ofNat read.bytes.length) := by
  rcases read with ⟨bytes, fits⟩ | _
  case delivered =>
    have hcount := ofInt_count ⟨bytes.length, Nat.lt_succ_of_le fits⟩
    exact ⟨hcount.2, fun _ => hcount.1⟩
  case failed =>
    exact ⟨⟨fun _ => rfl, fun _ => show Int8.ofInt (-1) ≤ 0 by decide⟩, fun h => absurd rfl h⟩

/-- Clearing the buffer and reading into it makes the rest of the memory irrelevant. -/
lemma overlay_store (m : ℕ → UInt8) (env : Exchange) :
    overlay dataBufMax (env.rspRead.store (overlay dataBufMax (fun _ => 0) m)) env.rspAfter
      = env.rspView := by
  funext i
  by_cases hi : i < dataBufMax
  · simp only [Exchange.rspView, overlay, if_pos hi, I2cRead.store, listMem]
  · simp only [Exchange.rspView, overlay, if_neg hi]

/-- **What the second half of an exchange accepts.** -/
theorem receive_ok_iff (s : Driver) (env : Exchange) (r : Response) :
    (receive s env).1 = .ok r ↔ ∃ k, ResponseAt env k ∧
      r = ⟨env.rspView, some (k + 6), lenAt env.rspView k - 1⟩ := by
  obtain ⟨hzero, hcast⟩ := readRsp_count (overlay dataBufMax (fun _ => 0) s.mem) env.rspRead
  rw [receive]
  by_cases hcount : env.rspRead.bytes.length = 0
  · rw [if_pos (hzero.mpr hcount)]
    constructor
    · intro h
      exact nomatch h
    · rintro ⟨k, hat, -⟩
      have hheader := hat.header
      rw [Exchange.count] at hheader
      omega
  · have hn : (UInt8.ofNat env.rspRead.bytes.length).toNat = env.count := by
      have hle := env.count_le
      rw [UInt8.toNat_ofNat', Nat.mod_eq_of_lt (by rw [Exchange.count] at hle; omega),
        Exchange.count]
    rw [if_neg (mt hzero.mp hcount), hcast hcount, readRsp]
    simp only [Option.getD_some, overlay_store]
    split_ifs with htfi
    · constructor
      · intro h
        exact nomatch h
      · rintro ⟨k, hat, -⟩
        rw [frameParser_found hat.first (by rw [hn]; exact hat.header), verdict,
          if_pos hat.info] at htfi
        exact absurd hat.tfi htfi
    · rw [not_not] at htfi
      obtain ⟨k, hfirst, hk, hinfo, heq⟩ := info_of_code (by rw [htfi]; decide)
      rw [heq] at htfi ⊢
      rw [hn] at hk
      constructor
      · intro h
        cases h
        exact ⟨k, ⟨hfirst, hk, hinfo, htfi⟩, rfl⟩
      · rintro ⟨j, hat, rfl⟩
        rw [hat.first.unique hfirst]
        rfl

/-! ## The command -/

section Shared

variable (s : Driver) (cmd : UInt8) (pCmdData : Option (ℕ → UInt8)) (dataLen : UInt8)
variable (env : Exchange) {notes : Bool} {hshort : (payload pCmdData dataLen).length < 254}

lemma sendCmd_good_iff (hnull : pCmdData = none → dataLen = 0) (waitAck : UInt8)
    (write : MraaResult) :
    (sendCmd s cmd pCmdData dataLen waitAck write).code.toInt8 = good.toInt8 ↔ write.code = 0 := by
  have hcode : UInt8.ofNat write.code = 0 ↔ write.code = 0 := by
    have hsmall := write.small
    rw [← UInt8.toNat_inj, UInt8.toNat_ofNat', Nat.mod_eq_of_lt (by omega)]
    exact Iff.rfl
  rw [sendCmd, if_neg (not_null_payload hnull)]
  simp only
  split_ifs with h
  · simp [hcode.mp h]
  · constructor
    · intro hbad
      exact absurd hbad (by decide)
    · intro hzero
      exact absurd (hcode.mpr hzero) h

/-- **The shared part of the command functions, in terms of the bytes.** -/
theorem exchange_ok_iff (hnull : pCmdData = none → dataLen = 0) (h : dataLen.toNat + 9 ≤ 255)
    (r : Response) :
    (exchange notes s cmd pCmdData dataLen env).outcome = .ok r ↔
      env.Acked s (cmdFrame cmd (payload pCmdData dataLen) hshort) ∧
        ∃ k, ResponseAt env k ∧ r = ⟨env.rspView, some (k + 6), lenAt env.rspView k - 1⟩ := by
  have hwrite := sendCmd_good_iff s cmd pCmdData dataLen hnull 0 env.write
  have hsent := sendCmd_driver s cmd pCmdData dataLen env.write hnull h
  have hack := (env.ackCall s (cmdFrame cmd (payload pCmdData dataLen) hshort)).ret_eq_ack_iff
  rw [AckCall.ret, Exchange.ackCall, ← hsent] at hack
  rw [Exchange.Acked, Exchange.ackCall, ← hsent, ← hwrite, ← hack, exchange]
  by_cases hw : (sendCmd s cmd pCmdData dataLen 0 env.write).code.toInt8 = good.toInt8
  · rw [if_neg (not_not_intro hw)]
    by_cases ha : (readAck (sendCmd s cmd pCmdData dataLen 0 env.write).driver env.ackRead
        env.ackAfter).1 = ack.toInt8
    · rw [if_neg (not_not_intro ha), receive_ok_iff]
      simp only [hw, ha, and_self, true_and]
    · rw [if_pos ha]
      simp only [hw, ha, and_false, false_and, reduceCtorEq]
  · rw [if_pos hw]
    simp only [hw, false_and, reduceCtorEq]

/-- The second half of an exchange reports failures with codes of their own. -/
lemma receive_error_ne_good {code : UInt8} (h : (receive s env).1 = .error code) :
    code ≠ good := by
  simp only [receive] at h
  split_ifs at h
  all_goals cases h; decide

/-- **A failed exchange does not report success.** -/
lemma exchange_error_ne_good {code : UInt8}
    (h : (exchange notes s cmd pCmdData dataLen env).outcome = .error code) : code ≠ good := by
  simp only [exchange] at h
  split_ifs at h with hw ha
  · cases h
    exact fun hgood => hw (congrArg UInt8.toInt8 hgood)
  · cases h
    decide
  · exact receive_error_ne_good _ env h

lemma exchange_bus (hnull : pCmdData = none → dataLen = 0) (h : dataLen.toNat + 9 ≤ 255) :
    (exchange notes s cmd pCmdData dataLen env).bus
      = some (cmdFrame cmd (payload pCmdData dataLen) hshort).encode := by
  rw [exchange, ← sendCmd_bus s cmd pCmdData dataLen 0 env.write hnull h]
  simp only
  split_ifs <;> rfl

end Shared

/-- The frame of `PN532_GetFirmwareVersion`. -/
def versionCommand : InfoFrame := cmdFrame cmdGetFirmwareVersion [] (by decide)

/-- The frame of `PN532_InListPassiveTarget`. -/
def listCommand : InfoFrame := cmdFrame cmdInListPassiveTarget listCmdData (by decide)

section Commands

variable {s : Driver} {pVer : OutParam FirmwareVersion} {env : Exchange}

lemma exchange_version_iff {r : Response} :
    (exchange true s cmdGetFirmwareVersion none 0 env).outcome = .ok r ↔
      env.Acked s versionCommand ∧
        ∃ k, ResponseAt env k ∧ r = ⟨env.rspView, some (k + 6), lenAt env.rspView k - 1⟩ :=
  exchange_ok_iff s cmdGetFirmwareVersion none 0 env (fun _ => rfl) (by decide) r

lemma exchange_list_iff {r : Response} :
    (exchange false s cmdInListPassiveTarget (some (listMem listCmdData fun _ => 0))
        (UInt8.ofNat listCmdData.length) env).outcome = .ok r ↔
      env.Acked s listCommand ∧
        ∃ k, ResponseAt env k ∧ r = ⟨env.rspView, some (k + 6), lenAt env.rspView k - 1⟩ :=
  exchange_ok_iff s cmdInListPassiveTarget (some (listMem listCmdData fun _ => 0))
    (UInt8.ofNat listCmdData.length) env (fun h => (nomatch h)) (by decide) r

lemma ResponseAt.len_iff {k : ℕ} (h : ResponseAt env k) (n : ℕ) :
    (lenAt env.rspView k - 1).toNat = n + 1 ↔ (lenAt env.rspView k).toNat = n + 2 := by
  have hsub := h.info.1.toNat_sub_one
  omega

/-- **What a successful `PN532_GetFirmwareVersion` has seen.** -/
lemma getFirmwareVersion_good (h : (getFirmwareVersion s pVer env).code = good) :
    env.Acked s versionCommand ∧ pVer ≠ none ∧ ∃ k, ResponseAt env k ∧
      env.rspView (k + 6) = 0x03 ∧ (lenAt env.rspView k).toNat = 6 ∧
      (getFirmwareVersion s pVer env).pVer = some ⟨env.rspView (k + 7), env.rspView (k + 8),
        env.rspView (k + 9), env.rspView (k + 10)⟩ := by
  cases hout : (exchange true s cmdGetFirmwareVersion none 0 env).outcome with
  | error code =>
      simp only [getFirmwareVersion, hout] at h
      exact absurd h (exchange_error_ne_good s _ _ _ env hout)
  | ok r =>
      obtain ⟨hacked, k, hat, rfl⟩ := exchange_version_iff.mp hout
      simp only [getFirmwareVersion, hout] at h ⊢
      split_ifs at h ⊢ with hcode hnull
      · exact absurd h (show ¬ invalidFrame = good by decide)
      · exact absurd h (show ¬ invalidParam = good by decide)
      · simp only [not_or, not_not] at hcode
        obtain ⟨old, rfl⟩ := Option.ne_none_iff_exists'.mp
          (mt Option.isNone_iff_eq_none.mpr hnull)
        exact ⟨hacked, Option.some_ne_none old, k, hat, hcode.1, (hat.len_iff 4).mp hcode.2, rfl⟩

/-- **What makes `PN532_GetFirmwareVersion` succeed.** -/
lemma getFirmwareVersion_of_response {k : ℕ} (old : FirmwareVersion)
    (hacked : env.Acked s versionCommand) (hat : ResponseAt env k)
    (hcode : env.rspView (k + 6) = 0x03) (hlen : (lenAt env.rspView k).toNat = 6) :
    (getFirmwareVersion s (some old) env).code = good ∧
      (getFirmwareVersion s (some old) env).pVer = some ⟨env.rspView (k + 7),
        env.rspView (k + 8), env.rspView (k + 9), env.rspView (k + 10)⟩ := by
  have hout := exchange_version_iff.mpr ⟨hacked, k, hat, rfl⟩
  have htest : ¬ (env.rspView (k + 6) ≠ cmdGetFirmwareVersion + 1 ∨
      (lenAt env.rspView k - 1).toNat ≠ sizeofFirmwareVersion + 1) := by
    rw [not_or, not_not, not_not]
    exact ⟨hcode, (hat.len_iff 4).mpr hlen⟩
  simp only [getFirmwareVersion, hout, if_neg htest]
  exact ⟨rfl, rfl⟩

/-- **When `PN532_InListPassiveTarget` succeeds.** -/
lemma inListPassiveTarget_good_iff :
    (inListPassiveTarget s env).code = good ↔
      env.Acked s listCommand ∧ ∃ k, ResponseAt env k ∧ env.rspView (k + 6) = 0x4B := by
  cases hout : (exchange false s cmdInListPassiveTarget (some (listMem listCmdData fun _ => 0))
      (UInt8.ofNat listCmdData.length) env).outcome with
  | error code =>
      simp only [inListPassiveTarget, hout]
      constructor
      · intro h
        exact absurd h (exchange_error_ne_good s _ _ _ env hout)
      · rintro ⟨hacked, k, hat, -⟩
        exact nomatch hout.symm.trans (exchange_list_iff.mpr ⟨hacked, k, hat, rfl⟩)
  | ok r =>
      obtain ⟨hacked, k, hat, rfl⟩ := exchange_list_iff.mp hout
      simp only [inListPassiveTarget, hout]
      split_ifs with hcode
      · constructor
        · intro h
          exact absurd h (show ¬ invalidFrame = good by decide)
        · rintro ⟨-, j, hj, hcode'⟩
          rw [← hat.first.unique hj.first] at hcode'
          exact absurd hcode' hcode
      · rw [not_not] at hcode
        exact ⟨fun _ => ⟨hacked, k, hat, hcode⟩, fun _ => rfl⟩

end Commands

end PN532

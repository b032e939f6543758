import MuaHello.Pn532.Driver

/-!
# Acknowledgements

`PN532_ReadAck` asks the bus for six bytes and parses `sDataBuf`.  Two things can make it report an
ACK that was not delivered.  A failed read returns -1, which the `uint8` turns into 255 bytes to
parse: whatever `sDataBuf` and the memory behind it still hold.  And the code of an ACK is also a
possible TFI: six bytes `00 00 FF LEN LCS 00` are completed by older bytes of the buffer, and if
these happen to close the data checksum the TFI 0 is returned.

`Mistakes` describes these two situations for any special frame in terms of the bytes alone,
`Misread` is its case for an ACK, and `ack_genuine_iff` shows that there is no third: over every run
of the driver, the reported ACKs are genuine exactly when no call met one of them.
-/

namespace PN532

/-! ## Runs of the driver -/

/-- A driver operation, with everything the bus and the foreign memory do in it. -/
inductive Op where
  | sendCmd (cmd : UInt8) (pCmdData : Option (ℕ → UInt8)) (dataLen waitAck : UInt8)
      (short : dataLen.toNat ≤ 23) (write : MraaResult)
  | readAck (read : I2cRead ackPacketLen) (after : ℕ → UInt8)
  | getFirmwareVersion (pVer : OutParam FirmwareVersion) (env : Exchange)
  | inListPassiveTarget (env : Exchange)

/-- One operation, with the calls of `PN532_ReadAck` made in it. -/
def step (s : Driver) : Op → Driver × List AckCall
  | .sendCmd cmd pCmdData dataLen waitAck _ write =>
      ((sendCmd s cmd pCmdData dataLen waitAck write).driver, [])
  | .readAck read after => ((readAck s read after).2, [⟨s, read, after⟩])
  | .getFirmwareVersion pVer env =>
      let r := getFirmwareVersion s pVer env
      (r.driver, r.acks)
  | .inListPassiveTarget env =>
      let r := inListPassiveTarget s env
      (r.driver, r.acks)

def machine : Machine Driver Op (List AckCall) := ⟨step⟩

/-- The static variables at program start: `sDataBuf` is zero, the memory behind it is not the
driver's. -/
def Driver.initial (after : ℕ → UInt8) : Driver := ⟨overlay dataBufMax (fun _ => 0) after, 0⟩

/-- All calls of `PN532_ReadAck` in a run from program start. -/
def ackCalls (after : ℕ → UInt8) (ops : List Op) : List AckCall :=
  (machine.run (.initial after) ops).2.flatten

/-! ## One call -/

namespace AckCall

variable (c : AckCall)

/-- The memory the call parses. -/
def view : ℕ → UInt8 := overlay dataBufMax (c.read.store c.driver.mem) c.after

/-- A reported ACK was delivered by the call's own read. -/
def Genuine : Prop := c.ret = ack.toInt8 → ackFrame <:+: c.read.bytes

/-- The call takes for the special frame with codes `a`, `b` what its read did not deliver: older
bytes after a failed read, or an information frame whose TFI is in `P`. -/
def Mistakes (a b : UInt8) (P : UInt8 → Prop) : Prop :=
  match c.read with
  | .failed => Shows a b P c.view 255
  | .delivered bytes _ =>
      bytes.length = 6 ∧ Holds c.view 0 startCode ∧ InfoAt c.view 0 ∧ P (tfiAt c.view 0)

/-- The bytes the call met make it report an ACK that its read did not deliver. -/
abbrev Misread : Prop := c.Mistakes 0x00 0xFF (· = tfiAck)

end AckCall

/-- The number of bytes the parser is told to look at. -/
def AckCall.frmLen (c : AckCall) : ℕ :=
  match c.read with
  | .failed => 255
  | .delivered bytes _ => bytes.length

/-- A byte count survives the conversion of the read's result to `uint8`; a failure becomes 255. -/
lemma AckCall.toNat_ret (c : AckCall) : (UInt8.ofInt c.read.ret).toNat = c.frmLen := by
  rcases c with ⟨s, _ | _, after⟩
  case delivered bytes fits =>
    have hcount : ((bytes.length : ℤ) % 2 ^ 8).toNat = bytes.length := by
      simp only [ackPacketLen] at fits
      omega
    simp only [I2cRead.ret, AckCall.frmLen]
    rw [UInt8.ofInt, hcount, UInt8.toNat_ofNat', Nat.mod_eq_of_lt]
    simp only [ackPacketLen] at fits
    omega
  case failed => rfl

/-- The mapping of parser codes to results keeps 0 apart from everything else. -/
lemma ack_code_iff (res : UInt8) :
    (if res = tfiAck then ack else if res = tfiNack then nack else res).toInt8 = ack.toInt8
      ↔ res = tfiAck := by
  split_ifs with h₁ h₂
  · simp [h₁]
  · simp only [h₂]; decide
  · constructor
    · intro h
      have hbits := congrArg Int8.toUInt8 h
      rwa [UInt8.toUInt8_toInt8, UInt8.toUInt8_toInt8] at hbits
    · intro h
      exact absurd h h₁

/-- **When `PN532_ReadAck` returns `PN532_ACK`.** -/
theorem AckCall.ret_eq_ack_iff (c : AckCall) : c.ret = ack.toInt8 ↔ ShowsAck c.view c.frmLen := by
  rw [← c.toNat_ret, ← @code_eq_ack_iff _ _ none none, AckCall.ret, readAck]
  exact ack_code_iff _

lemma AckCall.holds_view {c : AckCall} : Holds c.view 0 c.read.bytes := by
  apply (holds_listMem c.read.bytes c.driver.mem).congr
  intro i hi
  have hfits := c.read.length_bytes_le
  simp only [ackPacketLen] at hfits
  rw [AckCall.view, overlay, if_pos (by simp only [dataBufMax]; omega), I2cRead.store]

/-! ## Special frames among six bytes -/

section Special

variable {m : ℕ → UInt8} {bytes : List UInt8} {a b : UInt8}

lemma infix_codes (hm : Holds m 0 bytes) (hlen : bytes.length = 6) (hstart : Holds m 0 startCode)
    (h : CodesAt a b m 0) : startCode ++ [a, b] <:+: bytes := by
  have hcodes : Holds m 3 [a, b] := by
    rw [holds_cons, holds_cons]
    exact ⟨h.1, h.2, holds_nil⟩
  have hframe : Holds m (0 + 0) (startCode ++ [a, b]) := holds_append.mpr ⟨hstart, hcodes⟩
  exact hm.infix_of hframe (by rw [hlen]; simp [startCode])

/-- A header with other codes is no place for a special frame: six bytes cannot contain both. -/
lemma not_infix_codes (hm : Holds m 0 bytes) (hlen : bytes.length = 6)
    (hstart : Holds m 0 startCode) (h : ¬ CodesAt a b m 0) : ¬ startCode ++ [a, b] <:+: bytes := by
  intro hpart
  obtain ⟨k, hk, hframe⟩ := hm.exists_holds_of hpart
  simp only [hlen, startCode, List.length_append, List.length_cons, List.length_nil] at hk
  simp only [startCode, List.cons_append, List.nil_append, holds_cons, holds_nil, and_true,
    Nat.zero_add] at hstart hframe
  rcases (show k = 0 ∨ k = 1 by omega) with rfl | rfl
  · exact h ⟨hframe.2.2.2.1, hframe.2.2.2.2⟩
  · have hff := hstart.2.2
    rw [hframe.2.1] at hff
    exact absurd hff (by decide)

/-- **There is no third way to mistake something for a special frame**, provided LEN of no
information frame is its first code. -/
lemma AckCall.shows_iff (c : AckCall) {P : UInt8 → Prop}
    (hcodes : LenOk c.view 0 → ¬ CodesAt a b c.view 0) :
    (Shows a b P c.view c.frmLen → startCode ++ [a, b] <:+: c.read.bytes) ↔
      ¬ c.Mistakes a b P := by
  have hview := c.holds_view
  rcases c with ⟨s, bytes | _, after⟩
  case delivered fits =>
    simp only [AckCall.Mistakes, AckCall.frmLen, I2cRead.bytes] at hview hcodes ⊢
    simp only [ackPacketLen] at fits
    constructor
    · rintro hgen ⟨hlen, hstart, hinfo, htfi⟩
      have hshows := hgen ⟨0, ⟨hstart, by simp⟩, by omega, .inr ⟨hinfo, htfi⟩⟩
      exact not_infix_codes hview hlen hstart (hcodes hinfo.1) hshows
    · rintro hmis ⟨k, hfirst, hk, hat⟩
      -- six bytes leave room for a start code at offset 0 only
      have hk0 : k = 0 := by omega
      subst hk0
      rcases hat with hat | ⟨hinfo, htfi⟩
      · exact infix_codes hview (by omega) hfirst.1 hat
      · exact absurd ⟨by omega, hfirst.1, hinfo, htfi⟩ hmis
  case failed =>
    simp only [AckCall.Mistakes, AckCall.frmLen, I2cRead.bytes]
    have hnil : ¬ startCode ++ [a, b] <:+: [] := by simp [startCode]
    simp only [hnil, imp_false]

end Special

/-- **There is no third way to misread an acknowledgement.** -/
theorem AckCall.genuine_iff (c : AckCall) : c.Genuine ↔ ¬ c.Misread := by
  rw [AckCall.Genuine, c.ret_eq_ack_iff]
  exact @AckCall.shows_iff _ _ c (· = tfiAck) fun h => h.not_special.1

/-! ## Runs -/

/-- **Exactly when no stale or foreign acknowledgement is reported.**  Over every run of the driver
from program start, with any bytes on the bus and any memory behind `sDataBuf`, the ACKs returned
are genuine if and only if no call of `PN532_ReadAck` met bytes it misreads. -/
theorem ack_genuine_iff (after : ℕ → UInt8) (ops : List Op) :
    (∀ c ∈ ackCalls after ops, c.Genuine) ↔ ∀ c ∈ ackCalls after ops, ¬ c.Misread := by
  constructor
  · rintro h c hc
    exact c.genuine_iff.mp (h c hc)
  · rintro h c hc
    exact c.genuine_iff.mpr (h c hc)

/-- An ACK read twice: the second read fails and the first one's bytes are reported again. -/
theorem ack_genuine_fails :
    ¬ ∀ (after : ℕ → UInt8) (ops : List Op), ∀ c ∈ ackCalls after ops, c.Genuine := by
  intro h
  have hcall := h (fun _ => 0)
    [.readAck (.delivered [0x00, 0x00, 0xFF, 0x00, 0xFF, 0x00] (by decide)) fun _ => 0,
      .readAck .failed fun _ => 0]
    ⟨⟨listMem [0x00, 0x00, 0xFF, 0x00, 0xFF, 0x00] (Driver.initial fun _ => 0).mem, 0⟩, .failed,
      fun _ => 0⟩
    (by simp [ackCalls, machine, Machine.run, step, readAck, I2cRead.store, I2cRead.bytes,
      Driver.initial])
  exact absurd (hcall (by decide)) (by decide)

end PN532

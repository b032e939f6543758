import MuaHello.Pn532.Frame

/-!
# Sending a command

`PN532_SendCmd` builds a frame byte by byte in the static `sDataBuf` and hands it to the bus.  The
driver's static state is modelled as the memory seen from `sDataBuf`: its first 32 cells are the
buffer, and what lies behind them is there too, since the code stores through an index it never
compares with the buffer's size.

The loop invariant is `Written mem₀ l b`: the bytes `l` have been stored from offset 0 on, nothing
else has changed since `mem₀`, and every store went to the next free offset.  `buildFrame_written`
concludes that the buffer ends up holding `InfoFrame.encode` of the command.
-/

namespace PN532

/-- The driver's static variables.  `mem` is the memory seen from `sDataBuf`. -/
structure Driver where
  mem : ℕ → UInt8
  sWaitAck : UInt8

/-- What `mraa_i2c_write` returns: an `mraa_result_t`, whose enumerators fit a byte. -/
structure MraaResult where
  code : ℕ
  small : code < 256

/-- `MRAA_SUCCESS` -/
def mraaSuccess : MraaResult := ⟨0, by decide⟩

/-- `sDataBuf` while a frame is being built, with the offsets stored to so far. -/
structure FrameBuf where
  mem : ℕ → UInt8
  idx : UInt8
  stores : List ℕ

/-- `sDataBuf[idx++] = v;` -/
def FrameBuf.push (b : FrameBuf) (v : UInt8) : FrameBuf where
  mem := Function.update b.mem b.idx.toNat v
  idx := b.idx + 1
  stores := b.stores ++ [b.idx.toNat]

@[simp] lemma FrameBuf.push_mem (b : FrameBuf) (v : UInt8) :
    (b.push v).mem = Function.update b.mem b.idx.toNat v := rfl

@[simp] lemma FrameBuf.push_idx (b : FrameBuf) (v : UInt8) : (b.push v).idx = b.idx + 1 := rfl

@[simp] lemma FrameBuf.push_stores (b : FrameBuf) (v : UInt8) :
    (b.push v).stores = b.stores ++ [b.idx.toNat] := rfl

/-- `for (i = 0; i < dataLen; i++) { sDataBuf[idx++] = pCmdData[i]; sum += pCmdData[i]; }` with
`n` rounds to go. -/
def pushPayload (pCmdData : ℕ → UInt8) : ℕ → ℕ → FrameBuf × UInt8 → FrameBuf × UInt8
  | 0, _, acc => acc
  | n + 1, i, (b, sum) => pushPayload pCmdData n (i + 1) (b.push (pCmdData i), sum + pCmdData i)

/-- The bytes `PN532_SendCmd` puts into `sDataBuf`. -/
def buildFrame (mem : ℕ → UInt8) (cmd : UInt8) (pCmdData : ℕ → UInt8) (dataLen : UInt8) :
    FrameBuf :=
  let b : FrameBuf := ⟨mem, 0, []⟩
  let b := b.push preamble
  let b := b.push startCode0
  let b := b.push startCode1
  let b := b.push (dataLen + 2)
  let b := b.push (~~~(dataLen + 2) + 1)
  let b := b.push tfiHost2Pn
  let b := b.push cmd
  let (b, sum) := pushPayload pCmdData dataLen.toNat 0 (b, tfiHost2Pn + cmd)
  let b := b.push (~~~sum + 1)
  b.push postamble

/-- What a call of `PN532_SendCmd` leaves behind: its return value, the static variables, the bytes
it handed to `mraa_i2c_write` (if it came to that) and the offsets of `sDataBuf` it stored to. -/
structure SendResult where
  code : UInt8
  driver : Driver
  bus : Option (List UInt8)
  stores : List ℕ

/-- `PN532_SendCmd`, when the bus answers its write with `write`. -/
def sendCmd (s : Driver) (cmd : UInt8) (pCmdData : Option (ℕ → UInt8)) (dataLen waitAck : UInt8)
    (write : MraaResult) : SendResult :=
  if pCmdData.isNone ∧ dataLen ≠ 0 then
    ⟨invalidParam, s, none, []⟩
  else
    -- a NULL pointer gets here only with `dataLen = 0`, and is not dereferenced then
    let b := buildFrame s.mem cmd (pCmdData.getD fun _ => 0) dataLen
    let res := UInt8.ofNat write.code
    { code := if res = 0 then good else busBusy
      driver := ⟨b.mem, if res = b.idx then waitAck else 0⟩
      bus := some (slice b.mem 0 b.idx.toNat)
      stores := b.stores }

/-- The frame of a command: TFI `D4`, the command byte, its payload. -/
def cmdFrame (cmd : UInt8) (payload : List UInt8) (h : payload.length < 254) : InfoFrame where
  tfi := tfiHost2Pn
  packet := cmd :: payload
  short := by simp only [List.length_cons]; omega

/-! ## The loop invariant -/

/-- The bytes `l` have been stored into `sDataBuf`, in order, and nothing else has been. -/
structure Written (mem₀ : ℕ → UInt8) (l : List UInt8) (b : FrameBuf) : Prop where
  idx : b.idx.toNat = l.length
  holds : Holds b.mem 0 l
  rest : ∀ i, l.length ≤ i → b.mem i = mem₀ i
  stores : b.stores = List.range l.length

variable {mem₀ : ℕ → UInt8} {l : List UInt8} {b : FrameBuf}

lemma Written.mem_eq (h : Written mem₀ l b) : b.mem = listMem l mem₀ := by
  funext i
  by_cases hi : i < l.length
  · have hheld := h.holds.getElem hi
    rw [Nat.zero_add] at hheld
    rw [hheld, listMem, List.getD_eq_getElem l _ hi]
  · rw [h.rest i (by omega), listMem, List.getD_eq_default l _ (by omega)]

/-- One store extends what is written by one byte, as long as `idx` does not wrap. -/
lemma Written.push (h : Written mem₀ l b) (hl : l.length < 255) (v : UInt8) :
    Written mem₀ (l ++ [v]) (b.push v) where
  idx := by
    have hidx : (b.idx + 1).toNat = (b.idx.toNat + 1) % 256 := UInt8.toNat_add _ _
    rw [b.push_idx, hidx, h.idx, List.length_append, List.length_singleton]
    exact Nat.mod_eq_of_lt (by omega)
  holds := by
    rw [b.push_mem, h.idx]
    refine holds_append.mpr ⟨h.holds.update_of_le (by omega), ?_⟩
    rw [Nat.zero_add, holds_cons]
    exact ⟨Function.update_self _ _ _, holds_nil⟩
  rest := by
    intro i hi
    rw [List.length_append, List.length_singleton] at hi
    rw [b.push_mem, h.idx, Function.update_of_ne (by omega), h.rest i (by omega)]
  stores := by
    rw [b.push_stores, h.stores, h.idx, List.length_append, List.length_singleton,
      List.range_succ]

/-- The payload loop appends the payload and adds it to the sum. -/
lemma Written.pushPayload (pCmdData : ℕ → UInt8) (n i : ℕ) (sum : UInt8)
    (h : Written mem₀ l b) (hl : l.length + n ≤ 255) :
    Written mem₀ (l ++ slice pCmdData i n) (PN532.pushPayload pCmdData n i (b, sum)).1 ∧
      (PN532.pushPayload pCmdData n i (b, sum)).2 = sum + (slice pCmdData i n).sum := by
  induction n generalizing i sum l b with
  | zero => simpa [PN532.pushPayload] using h
  | succ n ih =>
      have hpush := h.push (by omega) (pCmdData i)
      have hfit : (l ++ [pCmdData i]).length + n ≤ 255 := by
        rw [List.length_append, List.length_singleton]; omega
      obtain ⟨hw, hsum⟩ := ih (i + 1) (sum + pCmdData i) hpush hfit
      rw [List.append_assoc, List.singleton_append] at hw
      rw [PN532.pushPayload, slice_succ, List.sum_cons, ← UInt8.add_assoc]
      exact ⟨hw, hsum⟩

/-- **The frame builder builds the frame**, for every payload that keeps the index from
wrapping. -/
theorem buildFrame_written (mem₀ : ℕ → UInt8) (cmd : UInt8) (pCmdData : ℕ → UInt8)
    {dataLen : UInt8} (h : dataLen.toNat + 9 ≤ 255)
    (hshort : (slice pCmdData 0 dataLen.toNat).length < 254) :
    Written mem₀ (cmdFrame cmd (slice pCmdData 0 dataLen.toNat) hshort).encode
      (buildFrame mem₀ cmd pCmdData dataLen) := by
  have hempty : Written mem₀ [] ⟨mem₀, 0, []⟩ := ⟨rfl, rfl, fun _ _ => rfl, rfl⟩
  have hhead := ((((((hempty.push (by simp) preamble).push (by simp) startCode0).push (by simp)
    startCode1).push (by simp) (dataLen + 2)).push (by simp) (~~~(dataLen + 2) + 1)).push (by simp)
    tfiHost2Pn).push (by simp) cmd
  obtain ⟨hbody, hsum⟩ := hhead.pushPayload pCmdData dataLen.toNat 0 (tfiHost2Pn + cmd)
    (by simp; omega)
  have htail := (hbody.push (by simp; omega) (~~~(tfiHost2Pn + cmd
    + (slice pCmdData 0 dataLen.toNat).sum) + 1)).push (by simp; omega) postamble
  have hlen : (cmdFrame cmd (slice pCmdData 0 dataLen.toNat) hshort).len = dataLen + 2 := by
    simp only [InfoFrame.len, cmdFrame, List.length_cons, length_slice]
    rw [UInt8.ofNat_add, UInt8.ofNat_add, UInt8.ofNat_toNat, UInt8.add_assoc]
    rfl
  have hencode : (cmdFrame cmd (slice pCmdData 0 dataLen.toNat) hshort).encode
      = [] ++ [preamble] ++ [startCode0] ++ [startCode1] ++ [dataLen + 2]
        ++ [~~~(dataLen + 2) + 1] ++ [tfiHost2Pn] ++ [cmd] ++ slice pCmdData 0 dataLen.toNat
        ++ [~~~(tfiHost2Pn + cmd + (slice pCmdData 0 dataLen.toNat).sum) + 1] ++ [postamble] := by
    rw [InfoFrame.encode, InfoFrame.core, InfoFrame.lcs, InfoFrame.dcs, hlen,
      UInt8.neg_eq_not_add, UInt8.neg_eq_not_add]
    simp [cmdFrame, startCode, UInt8.add_assoc]
  rw [hencode, buildFrame, ← hsum]
  rw [← hsum] at htail
  exact htail

/-- The command's payload as a caller passes it. -/
def payload (pCmdData : Option (ℕ → UInt8)) (dataLen : UInt8) : List UInt8 :=
  slice (pCmdData.getD fun _ => 0) 0 dataLen.toNat

@[simp] lemma length_payload (pCmdData : Option (ℕ → UInt8)) (dataLen : UInt8) :
    (payload pCmdData dataLen).length = dataLen.toNat := length_slice _ _

lemma not_null_payload {pCmdData : Option (ℕ → UInt8)} {dataLen : UInt8}
    (hnull : pCmdData = none → dataLen = 0) : ¬ (pCmdData.isNone ∧ dataLen ≠ 0) := by
  rintro ⟨hnone, hne⟩
  exact hne (hnull (Option.isNone_iff_eq_none.mp hnone))

/-- **What `PN532_SendCmd` puts on the bus**: the command's frame, postamble included. -/
theorem sendCmd_bus (s : Driver) (cmd : UInt8) (pCmdData : Option (ℕ → UInt8))
    (dataLen waitAck : UInt8) (write : MraaResult) (hnull : pCmdData = none → dataLen = 0)
    (h : dataLen.toNat + 9 ≤ 255) :
    (sendCmd s cmd pCmdData dataLen waitAck write).bus
      = some (cmdFrame cmd (payload pCmdData dataLen) (by rw [length_payload]; omega)).encode := by
  have hw := buildFrame_written s.mem cmd (pCmdData.getD fun _ => 0) h
    (by rw [length_slice]; omega)
  rw [sendCmd, if_neg (not_null_payload hnull)]
  simp only [Option.some.injEq]
  rw [hw.idx]
  exact hw.holds

/-- **What `PN532_SendCmd` leaves in the static variables** when no ACK is to be waited for: the
frame in front of the old contents of `sDataBuf`. -/
theorem sendCmd_driver (s : Driver) (cmd : UInt8) (pCmdData : Option (ℕ → UInt8))
    (dataLen : UInt8) (write : MraaResult) (hnull : pCmdData = none → dataLen = 0)
    (h : dataLen.toNat + 9 ≤ 255) :
    (sendCmd s cmd pCmdData dataLen 0 write).driver
      = ⟨listMem (cmdFrame cmd (payload pCmdData dataLen) (by rw [length_payload]; omega)).encode
          s.mem, 0⟩ := by
  have hw := buildFrame_written s.mem cmd (pCmdData.getD fun _ => 0) h
    (by rw [length_slice]; omega)
  rw [sendCmd, if_neg (not_null_payload hnull)]
  simp only [ite_self, Driver.mk.injEq, and_true]
  exact hw.mem_eq

end PN532

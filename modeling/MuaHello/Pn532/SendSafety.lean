import MuaHello.Pn532.SendCmd

/-!
# What sending a command stores

`PN532_SendCmd` takes its payload length from the caller and never compares it with the size of
`sDataBuf`.  `buildFrame_stored` says for every length which offsets are stored to: all from 0 on,
counted by a `uint8`.  So a payload of more than 23 bytes leaves the buffer, whatever the length
field and the index then wrap to, and `rightOrNothing_iff` shows that nothing else goes wrong.
-/

namespace PN532

/-- The bytes of the normal information frame of a command, with its LEN as a true number. -/
def IsFrameOf (cmd : UInt8) (data bytes : List UInt8) : Prop :=
  ∃ len lcs dcs : UInt8,
    bytes = [0x00, 0x00, 0xFF, len, lcs, 0xD4, cmd] ++ data ++ [dcs, 0x00] ∧
      len.toNat = data.length + 2 ∧ len + lcs = 0 ∧ 0xD4 + cmd + data.sum + dcs = 0

/-- The call reported an error and kept away from the bus, or it sent the command's frame; in both
cases it stored inside `sDataBuf`. -/
def RightOrNothing (cmd : UInt8) (data : List UInt8) (r : SendResult) : Prop :=
  (∀ a ∈ r.stores, a < dataBufMax) ∧
    (r.code ≠ good ∧ r.bus = none ∨ ∃ bytes, r.bus = some bytes ∧ IsFrameOf cmd data bytes)

/-! ## The offsets stored to -/

/-- `n` bytes have been stored, at offsets counted by a `uint8`. -/
structure Stored (n : ℕ) (b : FrameBuf) : Prop where
  idx : b.idx.toNat = n % 256
  stores : b.stores = (List.range n).map (· % 256)

variable {n : ℕ} {b : FrameBuf} {mem₀ : ℕ → UInt8} {pCmdData : ℕ → UInt8}

lemma Stored.push (h : Stored n b) (v : UInt8) : Stored (n + 1) (b.push v) where
  idx := by
    rw [b.push_idx, UInt8.toNat_add, h.idx]
    exact Nat.mod_add_mod n 256 1
  stores := by simp [h.stores, h.idx, List.range_succ]

lemma Stored.pushPayload (h : Stored n b) (k i : ℕ) (sum : UInt8) :
    Stored (n + k) (PN532.pushPayload pCmdData k i (b, sum)).1 := by
  induction k generalizing n i b sum with
  | zero => exact h
  | succ k ih =>
      have hrest := ih (h.push (pCmdData i)) (i + 1) (sum + pCmdData i)
      rw [Nat.add_right_comm] at hrest
      exact hrest

/-- **What is stored**, for every length. -/
lemma buildFrame_stored (mem₀ : ℕ → UInt8) (cmd : UInt8) (pCmdData : ℕ → UInt8)
    (dataLen : UInt8) : Stored (dataLen.toNat + 9) (buildFrame mem₀ cmd pCmdData dataLen) := by
  have hempty : Stored 0 ⟨mem₀, 0, []⟩ := ⟨rfl, rfl⟩
  have hhead := ((((((hempty.push preamble).push startCode0).push startCode1).push
    (dataLen + 2)).push (~~~(dataLen + 2) + 1)).push tfiHost2Pn).push cmd
  have hbody := @Stored.pushPayload _ _ pCmdData hhead dataLen.toNat 0 (tfiHost2Pn + cmd)
  have hcount : dataLen.toNat + 9 = 0 + 1 + 1 + 1 + 1 + 1 + 1 + 1 + dataLen.toNat + 1 + 1 := by
    omega
  rw [hcount, buildFrame]
  exact (hbody.push _).push postamble

/-! ## The frame sent -/

lemma isFrameOf_encode {cmd : UInt8} {data : List UInt8} (h : data.length < 254) :
    IsFrameOf cmd data (cmdFrame cmd data h).encode := by
  refine ⟨(cmdFrame cmd data h).len, (cmdFrame cmd data h).lcs, (cmdFrame cmd data h).dcs, ?_, ?_,
    ?_, ?_⟩
  · simp [InfoFrame.encode, InfoFrame.core, startCode, cmdFrame]
  · rw [InfoFrame.toNat_len]
    simp [cmdFrame]
  · rw [InfoFrame.lcs]
    grind
  · simp only [InfoFrame.dcs, cmdFrame, List.sum_cons]
    grind

/-- **Exactly when `PN532_SendCmd` sends the right frame or nothing.**  For every command and every
payload: if and only if the payload has at most 23 bytes. -/
theorem rightOrNothing_iff (s : Driver) (cmd : UInt8) (pCmdData : Option (ℕ → UInt8))
    (dataLen waitAck : UInt8) (write : MraaResult) (hnull : 0 < dataLen → pCmdData ≠ none) :
    RightOrNothing cmd (payload pCmdData dataLen) (sendCmd s cmd pCmdData dataLen waitAck write) ↔
      dataLen.toNat ≤ 23 := by
  have hnull' : pCmdData = none → dataLen = 0 := by
    intro hnone
    by_contra hne
    exact hnull (UInt8.pos_iff_ne_zero.mpr hne) hnone
  have hstores : (sendCmd s cmd pCmdData dataLen waitAck write).stores
      = (List.range (dataLen.toNat + 9)).map (· % 256) := by
    rw [sendCmd, if_neg (not_null_payload hnull')]
    exact (buildFrame_stored s.mem cmd _ dataLen).stores
  constructor
  · rintro ⟨hinside, -⟩
    by_contra hlong
    have hmem : 32 ∈ (sendCmd s cmd pCmdData dataLen waitAck write).stores := by
      rw [hstores, List.mem_map]
      exact ⟨32, List.mem_range.mpr (by omega), rfl⟩
    exact absurd (hinside 32 hmem) (Nat.lt_irrefl 32)
  · intro hshort
    refine ⟨?_, .inr ⟨_, sendCmd_bus s cmd pCmdData dataLen waitAck write hnull' (by omega), ?_⟩⟩
    · intro a ha
      rw [hstores, List.mem_map] at ha
      obtain ⟨j, hj, rfl⟩ := ha
      rw [List.mem_range] at hj
      simp only [dataBufMax]
      omega
    · exact isFrameOf_encode _

/-- The command `D4 4A` with its two bytes goes out whole. -/
theorem rightOrNothing_iff_list :
    RightOrNothing 0x4A (payload (some (listMem [0x01, 0x00] fun _ => 0)) 2)
      (sendCmd ⟨fun _ => 0, 0⟩ 0x4A (some (listMem [0x01, 0x00] fun _ => 0)) 2 0 mraaSuccess) :=
  (rightOrNothing_iff _ _ _ _ _ _ (by simp)).mpr (by decide)

/-- A payload of 24 bytes is stored behind the buffer. -/
theorem rightOrNothing_fails :
    ¬ ∀ (s : Driver) (cmd : UInt8) (pCmdData : Option (ℕ → UInt8)) (dataLen waitAck : UInt8)
      (write : MraaResult), (0 < dataLen → pCmdData ≠ none) →
        RightOrNothing cmd (payload pCmdData dataLen)
          (sendCmd s cmd pCmdData dataLen waitAck write) := by
  intro h
  have hinside := (h ⟨fun _ => 0, 0⟩ 0x02 (some fun _ => 0) 24 0 mraaSuccess (by simp)).1
  have hmem : 32 ∈ (sendCmd ⟨fun _ => 0, 0⟩ 0x02 (some fun _ => 0) 24 0 mraaSuccess).stores := by
    decide
  exact absurd (hinside 32 hmem) (Nat.lt_irrefl 32)

end PN532

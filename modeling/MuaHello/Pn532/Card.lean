import MuaHello.Lib.Machine
import MuaHello.Pn532.Driver

/-!
# Reading cards over the UART

The second program for the PN532, `function_key_uart.c`, does without the driver: it writes command
frames as constants and prints what it finds at fixed offsets of `uint8_t buffer[64]`.  Its loop
polls the field until byte 9, the LEN of the response behind the ACK, is not zero, and then takes
LEN for the length of the UID.

* `cards_reported_iff` — each answer with a card is reported once, in order, and when the loop
  leaves the buffer.
* `uid_of_target` — what the loop prints for a card, against the UID the card has.
-/

namespace PN532.Card

/-- `sizeof(buffer)` -/
abbrev bufferSize : ℕ := 64

/-- The bytes read as an answer to the command: the ACK and the response. -/
abbrev answerLen : ℕ := 25

/-- What the UART delivers when the loop polls, to the wake-up and to the command.  The reads behave
as those of the I2C bus do. -/
structure Poll where
  wakeup : I2cRead 15
  answer : I2cRead answerLen

/-- What one round of the loop prints. -/
inductive Report where
  | card (data uid : List UInt8)
  | waiting
  deriving DecidableEq

/-- `i < (buffer[9] - 2)`, the number of rounds of the loop that prints the UID. -/
def uidLen (m : ℕ → UInt8) : ℕ := ((m 9).toNat - 2 : ℤ).toNat

/-- The bytes that it prints, from `buffer[19]` on. -/
def uid (m : ℕ → UInt8) : List UInt8 := slice m 19 (uidLen m)

/-- `memset(buffer, 0x0, sizeof(buffer))` -/
def clear (m : ℕ → UInt8) : ℕ → UInt8 := overlay bufferSize (fun _ => 0) m

/-- A round of `while(!foundCard)`, over the memory seen from `buffer`.  Nothing sets
`foundCard`. -/
def step (m : ℕ → UInt8) (p : Poll) : (ℕ → UInt8) × Report :=
  if m 9 ≠ 0 then (clear m, .card (slice m 0 answerLen) (uid m))
  else (p.answer.store (clear (p.wakeup.store m)), .waiting)

def loop : Machine (ℕ → UInt8) Poll Report := ⟨step⟩

/-- The buffer when the loop is entered: cleared, with the answer to a first command, and the stack
behind it. -/
def entered (first : I2cRead answerLen) (stack : ℕ → UInt8) : ℕ → UInt8 :=
  first.store (clear stack)

/-! ## What is reported -/

/-- Byte `i` of an answer, zero behind its end. -/
def answerAt (a : List UInt8) : ℕ → UInt8 := listMem a fun _ => 0

/-- The answer says that there is a card. -/
def HasCard (a : List UInt8) : Prop := answerAt a 9 ≠ 0

instance (a : List UInt8) : Decidable (HasCard a) := inferInstanceAs (Decidable (_ ≠ _))

/-- A reporter that has the last answer at hand, and no buffer. -/
def reporter : Machine (List UInt8) Poll Report where
  step a p :=
    if HasCard a then ([], .card (slice (answerAt a) 0 answerLen) (uid (answerAt a)))
    else (p.answer.bytes, .waiting)

/-- The UID that is printed ends within the buffer. -/
def Fits (a : List UInt8) : Prop := 19 + uidLen (answerAt a) ≤ bufferSize

/-- The buffer holds the answer and zeros, and `stack` follows it in memory. -/
structure Buffered (stack : ℕ → UInt8) (m : ℕ → UInt8) (a : List UInt8) : Prop where
  short : a.length ≤ answerLen
  inside : ∀ i < bufferSize, m i = answerAt a i
  behind : ∀ i, bufferSize ≤ i → m i = stack i

section Run

variable {stack m : ℕ → UInt8} {a : List UInt8} {p : Poll} {polls : List Poll}

lemma Buffered.cleared (h : ∀ i, bufferSize ≤ i → m i = stack i) : Buffered stack (clear m) [] where
  short := by simp
  inside := by
    intro i hi
    rw [clear, overlay, if_pos hi]
    simp [answerAt, listMem]
  behind := by
    intro i hi
    rw [clear, overlay, if_neg (by omega), h i hi]

/-- A read of at most 25 bytes. -/
lemma Buffered.store (h : Buffered stack m []) (r : I2cRead answerLen) :
    Buffered stack (r.store m) r.bytes where
  short := r.length_bytes_le
  inside := by
    intro i hi
    rw [I2cRead.store, answerAt, listMem, listMem, h.inside i hi]
    simp [answerAt, listMem]
  behind := by
    intro i hi
    have hle := r.length_bytes_le
    simp only [bufferSize, answerLen] at hi hle
    rw [I2cRead.store, listMem, List.getD_eq_default _ _ (by omega), h.behind i hi]

lemma Buffered.code (h : Buffered stack m a) : m 9 = answerAt a 9 := h.inside 9 (by decide)

lemma Buffered.uidLen_eq (h : Buffered stack m a) : uidLen m = uidLen (answerAt a) := by
  rw [uidLen, uidLen, h.code]

lemma Buffered.slice_eq {n k : ℕ} (h : Buffered stack m a) (hfits : n + k ≤ bufferSize) :
    slice m n k = slice (answerAt a) n k :=
  slice_congr fun i hi => h.inside (n + i) (by omega)

lemma Buffered.loop_card (h : Buffered stack m a) (hcard : HasCard a) :
    loop.step m p = (clear m, .card (slice m 0 answerLen) (uid m)) :=
  if_pos (by rw [h.code]; exact hcard)

lemma Buffered.loop_waiting (h : Buffered stack m a) (hcard : ¬ HasCard a) :
    loop.step m p = (p.answer.store (clear (p.wakeup.store m)), .waiting) :=
  if_neg (by rw [h.code]; exact hcard)

lemma reporter_card (hcard : HasCard a) :
    reporter.step a p = ([], .card (slice (answerAt a) 0 answerLen) (uid (answerAt a))) :=
  if_pos hcard

lemma reporter_waiting (hcard : ¬ HasCard a) : reporter.step a p = (p.answer.bytes, .waiting) :=
  if_neg hcard

/-- A round keeps the buffer and the last answer together. -/
lemma Buffered.step (h : Buffered stack m a) (p : Poll) :
    Buffered stack (loop.step m p).1 (reporter.step a p).1 := by
  have hwake : ∀ i, bufferSize ≤ i → p.wakeup.store m i = stack i := by
    intro i hi
    have hle := p.wakeup.length_bytes_le
    simp only [bufferSize] at hi
    rw [I2cRead.store, listMem, List.getD_eq_default _ _ (by omega), h.behind i hi]
  by_cases hcard : HasCard a
  · rw [h.loop_card hcard, reporter_card hcard]
    exact .cleared h.behind
  · rw [h.loop_waiting hcard, reporter_waiting hcard]
    exact (Buffered.cleared hwake).store p.answer

lemma Buffered.run (h : Buffered stack m a) (polls : List Poll) :
    Buffered stack (loop.run m polls).1 (reporter.run a polls).1 := by
  induction polls generalizing m a with
  | nil => exact h
  | cons p polls ih => exact ih (h.step p)

/-- A report that fits is read from the buffer alone. -/
lemma Buffered.report_eq (h : Buffered stack m a) (hfits : HasCard a → Fits a) :
    (loop.step m p).2 = (reporter.step a p).2 := by
  by_cases hcard : HasCard a
  · have hin := hfits hcard
    rw [Fits] at hin
    rw [h.loop_card hcard, reporter_card hcard, uid, uid, h.uidLen_eq, h.slice_eq hin,
      h.slice_eq (by decide)]
  · rw [h.loop_waiting hcard, reporter_waiting hcard]

/-- One that does not fit shows the stack. -/
lemma Buffered.fits_of_report (h : Buffered (fun _ => 1) m a)
    (heq : (loop.step m p).2 = (reporter.step a p).2) (hcard : HasCard a) : Fits a := by
  rw [h.loop_card hcard, reporter_card hcard] at heq
  simp only [Report.card.injEq, uid, h.uidLen_eq] at heq
  by_contra hout
  rw [Fits, bufferSize] at hout
  -- the first byte behind the buffer
  have hbyte := slice_inj heq.2 (show 45 < uidLen (answerAt a) by omega)
  have hshort := h.short
  simp only [answerLen] at hshort
  rw [h.behind 64 le_rfl, answerAt, listMem, List.getD_eq_default _ _ (by omega)] at hbyte
  exact absurd hbyte (by decide)

lemma run_of_fits (h : Buffered stack m a)
    (hfits : ∀ q ∈ reporter.trace a polls, HasCard q.1 → Fits q.1) :
    (loop.run m polls).2 = (reporter.run a polls).2 := by
  induction polls generalizing m a with
  | nil => rfl
  | cons p polls ih =>
      simp only [Machine.trace, List.forall_mem_cons] at hfits
      simp only [Machine.run, h.report_eq hfits.1, ih (h.step p) hfits.2]

lemma fits_of_run (h : Buffered (fun _ => 1) m a)
    (heq : (loop.run m polls).2 = (reporter.run a polls).2) :
    ∀ q ∈ reporter.trace a polls, HasCard q.1 → Fits q.1 := by
  induction polls generalizing m a with
  | nil => simp [Machine.trace]
  | cons p polls ih =>
      simp only [Machine.run, List.cons.injEq] at heq
      simp only [Machine.trace, List.forall_mem_cons]
      exact ⟨h.fits_of_report heq.1, ih (h.step p) heq.2⟩

end Run

lemma buffered_entered (first : I2cRead answerLen) (stack : ℕ → UInt8) :
    Buffered stack (entered first stack) first.bytes :=
  (Buffered.cleared fun _ _ => rfl).store first

/-- **Each card is reported once, and nothing but what was read.**  For every series of answers,
complete, cut off or missing: the loop prints what a reporter without a buffer prints, which reports
the last answer if it says that there is a card and forgets it then, whatever the stack holds behind
the buffer, if and only if the LEN of none of these answers leads out of the buffer. -/
theorem cards_reported_iff (first : I2cRead answerLen) (polls : List Poll) :
    (∀ stack, (loop.run (entered first stack) polls).2 = (reporter.run first.bytes polls).2) ↔
      ∀ q ∈ reporter.trace first.bytes polls, HasCard q.1 → Fits q.1 := by
  constructor
  · intro h
    exact fits_of_run (buffered_entered first fun _ => 1) (h fun _ => 1)
  · intro hfits stack
    exact run_of_fits (buffered_entered first stack) hfits

/-! ## What is printed for a card -/

/-- The response for one target of type A: its number, SENS_RES, SEL_RES and its UID `u`. -/
def target (sensRes₀ sensRes₁ selRes : UInt8) (u : List UInt8) (h : u.length < 248) :
    InfoFrame where
  tfi := tfiPn2Host
  packet := [cmdInListPassiveTarget + 1, 0x01, 0x01, sensRes₀, sensRes₁, selRes,
    UInt8.ofNat u.length] ++ u
  short := by simp only [List.length_append, List.length_cons, List.length_nil]; omega

/-- What the loop reads of an answer: the ACK and the response, as far as 25 bytes go. -/
def answer (f : InfoFrame) : List UInt8 := (ackFrame ++ [postamble] ++ f.encode).take answerLen

section Target

variable {sensRes₀ sensRes₁ selRes : UInt8} {u : List UInt8} {h : u.length < 248}

/-- The UID begins behind 19 bytes, so six bytes of it and its checksum are read. -/
lemma answer_target : ∃ head : List UInt8, head.length = 19 ∧
    head.getD 9 0 = UInt8.ofNat (u.length + 8) ∧
    answer (target sensRes₀ sensRes₁ selRes u h)
      = head ++ (u ++ [(target sensRes₀ sensRes₁ selRes u h).dcs, postamble]).take 6 := by
  refine ⟨[0, 0, 0xFF, 0, 0xFF, 0, 0, 0, 0xFF, UInt8.ofNat (u.length + 8),
    -UInt8.ofNat (u.length + 8), tfiPn2Host, cmdInListPassiveTarget + 1, 0x01, 0x01, sensRes₀,
    sensRes₁, selRes, UInt8.ofNat u.length], rfl, rfl, ?_⟩
  have hlen : (target sensRes₀ sensRes₁ selRes u h).len = UInt8.ofNat (u.length + 8) := by
    have hsize : (target sensRes₀ sensRes₁ selRes u h).packet.length + 1 = u.length + 8 := by
      simp [target]
    rw [InfoFrame.len, hsize]
  simp [answer, ackFrame, startCode, InfoFrame.encode, InfoFrame.core, InfoFrame.lcs, hlen]
  simp [target]

lemma uidLen_target :
    uidLen (answerAt (answer (target sensRes₀ sensRes₁ selRes u h))) = u.length + 6 := by
  obtain ⟨head, hlen, hcode, hanswer⟩ := @answer_target sensRes₀ sensRes₁ selRes u h
  have hbyte : answerAt (answer (target sensRes₀ sensRes₁ selRes u h)) 9
      = UInt8.ofNat (u.length + 8) := by
    rw [hanswer, answerAt, listMem, List.getD_append _ _ _ _ (by omega), hcode]
  rw [uidLen, hbyte, UInt8.toNat_ofNat', Nat.mod_eq_of_lt (by omega)]
  omega

lemma hasCard_target : HasCard (answer (target sensRes₀ sensRes₁ selRes u h)) := by
  intro hzero
  have hlen := @uidLen_target sensRes₀ sensRes₁ selRes u h
  rw [uidLen, hzero] at hlen
  simp at hlen

/-- The UID is whole among its first six bytes and zeros only if it ends with zeros. -/
lemma prefix_padded_iff {a b : UInt8} :
    u <+: (u ++ [a, b]).take 6 ++ List.replicate (u.length + 6 - min 6 (u.length + 2)) 0 ↔
      ∀ b ∈ u.drop 6, b = 0 := by
  by_cases hn : u.length ≤ 6
  · have hall : u <+: (u ++ [a, b]).take 6 := by
      rw [List.take_append, List.take_of_length_le hn]
      exact List.prefix_append _ _
    simp [hall.trans (List.prefix_append _ _), List.drop_of_length_le hn]
  · have hcut : (u ++ [a, b]).take 6 = u.take 6 := List.take_append_of_le_length (by omega)
    rw [hcut]
    calc u <+: u.take 6 ++ List.replicate (u.length + 6 - min 6 (u.length + 2)) 0
        ↔ u.take 6 ++ u.drop 6
            <+: u.take 6 ++ List.replicate (u.length + 6 - min 6 (u.length + 2)) 0 := by
          rw [List.take_append_drop]
      _ ↔ u.drop 6 <+: List.replicate (u.length + 6 - min 6 (u.length + 2)) 0 :=
          List.prefix_append_right_inj _
      _ ↔ ∀ b ∈ u.drop 6, b = 0 := by
          rw [List.prefix_replicate_iff, List.eq_replicate_iff, List.length_drop]
          simp only [true_and, and_iff_right_iff_imp]
          omega

/-- A card with a UID of seven bytes. -/
def sevenBytes : InfoFrame :=
  target 0x44 0x00 0x00 [0x04, 0xA1, 0xB2, 0xC3, 0xD4, 0xE5, 0x80] (by simp)

end Target

end PN532.Card

import MuaHello.Lib.Machine
import MuaHello.Lib.Text
import MuaHello.Ubus.Blobmsg

/-!
# The key daemon

`mkeyd` notifies its subscribers of every edge on a GPIO pin and answers two methods.  The name of a
notification is formatted into `char str[32]` and counts the interrupts, respectively the calls of
`mkeyd_notify`, in an `int`.

* `mkeydIsr`, `mkeydNotify`, `mkeydStatus`, `mkeydGet` — the functions, over the counters and the
  blob buffer the daemon keeps.
* `isrText_fits_iff`, `notifyText_fits_iff` — which numbers are printed within the buffer.
* `text_fits_iff` — over every run, the texts fit exactly when no interrupt brings two numbers that
  are too wide together.

What the interrupt handler reads through the pointer registered for it is an input, as the object it
points to has gone out of scope.  The counters go on from the largest `int` to the smallest.
-/

namespace Mkeyd

open Blobmsg

def gpioPin : UInt16 := 16

/-- `sizeof(str)` -/
def strSize : ℕ := 32

/-- The static variables. -/
structure Daemon where
  isrCount : Int32
  notifyCount : Int32
  b : Option Message

def initial : Daemon := ⟨0, 0, none⟩

/-- What the daemon hands to ubus. -/
inductive Event where
  | notify (method : List Char) (msg : Option Message)
  | sendReply (msg : Message)

/-- `"ISR-%02d - %d - %s"` -/
def isrText (isrCount value : Int32) (level : UInt8) : List Char :=
  "ISR-".toList ++ zeroPadded 2 isrCount.toInt ++ " - ".toList ++ signedDecimal value.toInt ++
    " - ".toList ++ (if level ≠ 0 then "KeyPress" else "KeyRelease").toList

/-- `"Notify-%02d - %d"` and `"Notify-%02d"` -/
def notifyText (notifyCount : Int32) : Option Int32 → List Char
  | some value =>
      "Notify-".toList ++ zeroPadded 2 notifyCount.toInt ++ " - ".toList ++
        signedDecimal value.toInt
  | none => "Notify-".toList ++ zeroPadded 2 notifyCount.toInt

/-- The message of `mkeyd_isr`. -/
def isrMessage (action : UInt8) : Message :=
  [⟨"isr", .string "XX".toList⟩, ⟨"key", .int16 gpioPin⟩, ⟨"action", .int8 action⟩]

/-- The reply of `mkeyd_status`. -/
def statusMessage (value : UInt8) : Message :=
  [⟨"status", .string "XX".toList⟩, ⟨"gpio", .int16 gpioPin⟩, ⟨"value", .int8 value⟩]

/-- The reply of `mkeyd_get`. -/
def getMessage (value : UInt8) : Message :=
  [⟨"get", .string "XX".toList⟩, ⟨"gpio", .int16 gpioPin⟩, ⟨"value", .int8 value⟩]

/-! ## The functions

`read` is a result of `mraa_gpio_read`. -/

/-- `mkeyd_isr`, by what `param` points to. -/
def mkeydIsr (d : Daemon) (param : Option Int32) (read read' : ℤ) : Daemon × List Event :=
  let level := UInt8.ofInt read
  let str := isrText d.isrCount (param.getD 0) level
  let d := { d with isrCount := d.isrCount + 1, b := some (isrMessage (UInt8.ofInt read')) }
  (d, [.notify str d.b])

/-- `mkeyd_notify` -/
def mkeydNotify (d : Daemon) (param : Option Int32) : Daemon × List Event :=
  let str := notifyText d.notifyCount param
  ({ d with notifyCount := d.notifyCount + 1 }, [.notify str d.b])

/-- A method that replies and then tests the notification. -/
def replyAndNotify (d : Daemon) (msg : Message) : Daemon × List Event :=
  let r := mkeydNotify { d with b := some msg } none
  (r.1, .sendReply msg :: r.2)

def mkeydStatus (d : Daemon) (read : ℤ) : Daemon × List Event :=
  replyAndNotify d (statusMessage (UInt8.ofInt read))

/-- `mkeyd_get`, which parses its argument and does nothing with it. -/
def mkeydGet (d : Daemon) (read : ℤ) : Daemon × List Event :=
  replyAndNotify d (getMessage (UInt8.ofInt read))

/-- What happens to the daemon. -/
inductive Input where
  | isr (param : Option Int32) (read read' : ℤ)
  | notify (param : Option Int32)
  | status (read : ℤ)
  | get (read : ℤ)

def step (d : Daemon) : Input → Daemon × List Event
  | .isr param read read' => mkeydIsr d param read read'
  | .notify param => mkeydNotify d param
  | .status read => mkeydStatus d read
  | .get read => mkeydGet d read

def machine : Machine Daemon Input (List Event) := ⟨step⟩

def Input.isIsr : Input → Bool
  | .isr _ _ _ => true
  | _ => false

/-! ## Texts and their buffer -/

/-- Every text formatted in these events, with its terminator, fits `str`. -/
def Fit (out : List Event) : Prop :=
  ∀ method msg, Event.notify method msg ∈ out → (method ++ [nul]).length ≤ strSize

def Event.fits : Event → Bool
  | .notify method _ => (method ++ [nul]).length ≤ strSize
  | .sendReply _ => true

lemma all_fits_iff {out : List Event} : out.all Event.fits = true ↔ Fit out := by
  rw [List.all_eq_true]
  constructor
  · intro h method msg hmem
    simpa [Event.fits] using h _ hmem
  · intro h e he
    cases e with
    | notify method msg => simpa [Event.fits] using h method msg he
    | sendReply msg => rfl

instance (out : List Event) : Decidable (Fit out) := decidable_of_iff _ all_fits_iff

/-- The number is printed with at most `k + 1` characters. -/
def Within (k : ℕ) (i : ℤ) : Prop := -10 ^ k < i ∧ i < 10 ^ (k + 1)

/-- The two numbers share `n` characters, the first of them at least two. -/
def Share (n : ℕ) (i j : ℤ) : Prop :=
  ∃ k l, 1 ≤ k ∧ k + 1 + (l + 1) = n ∧ Within k i ∧ Within l j

/-- A step that formats more than `str` can hold. -/
def TooLong (d : Daemon) : Input → Prop
  | .isr param read _ =>
      ¬ Share (if UInt8.ofInt read ≠ 0 then 13 else 11) d.isrCount.toInt (param.getD 0).toInt
  | .notify (some value) => d.notifyCount.toInt ≤ -10 ^ 9 ∧ value.toInt ≤ -10 ^ 9
  | .notify none => False
  | .status _ => False
  | .get _ => False

variable {d : Daemon} {i : Input} {n : ℕ}

lemma share_iff {i j : ℤ} :
    Share n i j ↔ (zeroPadded 2 i).length + (signedDecimal j).length ≤ n := by
  have hwithin : ∀ {k i}, Within k i ↔ (signedDecimal i).length ≤ k + 1 :=
    fun {k i} => length_signedDecimal_le_iff.symm
  have hpos := length_signedDecimal_pos j
  rw [length_zeroPadded]
  constructor
  · rintro ⟨k, l, hk, hsum, hi, hj⟩
    rw [hwithin] at hi hj
    omega
  · intro h
    refine ⟨max 2 (signedDecimal i).length - 1, n - max 2 (signedDecimal i).length - 1, by omega,
      by omega, ?_, ?_⟩
    · rw [hwithin]
      omega
    · rw [hwithin]
      omega

lemma length_isrText {isrCount value : Int32} {level : UInt8} :
    (isrText isrCount value level ++ [nul]).length = 4 + (zeroPadded 2 isrCount.toInt).length + 3 +
      (signedDecimal value.toInt).length + 3 + (if level ≠ 0 then 8 else 10) + 1 := by
  have htext : isrText isrCount value level
      = "ISR-".toList ++ zeroPadded 2 isrCount.toInt ++ " - ".toList ++
        signedDecimal value.toInt ++ " - ".toList ++
        (if level ≠ 0 then "KeyPress" else "KeyRelease").toList := rfl
  rw [htext, List.length_append, List.length_append, List.length_append, List.length_append,
    List.length_append, List.length_append]
  split_ifs <;> rfl

lemma length_notifyText {notifyCount value : Int32} :
    (notifyText notifyCount none ++ [nul]).length
        = 7 + (zeroPadded 2 notifyCount.toInt).length + 1 ∧
      (notifyText notifyCount (some value) ++ [nul]).length
        = 7 + (zeroPadded 2 notifyCount.toInt).length + 3 +
          (signedDecimal value.toInt).length + 1 := by
  have hcall : notifyText notifyCount none
      = "Notify-".toList ++ zeroPadded 2 notifyCount.toInt := rfl
  have hparam : notifyText notifyCount (some value)
      = "Notify-".toList ++ zeroPadded 2 notifyCount.toInt ++ " - ".toList ++
        signedDecimal value.toInt := rfl
  constructor
  · rw [hcall, List.length_append, List.length_append]
    rfl
  · rw [hparam, List.length_append, List.length_append, List.length_append,
      List.length_append]
    rfl

/-- **Which interrupts fit.** -/
lemma isrText_fits_iff {isrCount value : Int32} {level : UInt8} :
    (isrText isrCount value level ++ [nul]).length ≤ strSize ↔
      Share (if level ≠ 0 then 13 else 11) isrCount.toInt value.toInt := by
  rw [share_iff, length_isrText, strSize]
  split_ifs <;> omega

/-- **Which notifications fit.** -/
lemma notifyText_fits_iff {notifyCount : Int32} {param : Option Int32} :
    (notifyText notifyCount param ++ [nul]).length ≤ strSize ↔
      ∀ value, param = some value → ¬ (notifyCount.toInt ≤ -10 ^ 9 ∧ value.toInt ≤ -10 ^ 9) := by
  have hcount := length_signedDecimal_int32 notifyCount
  cases param with
  | none =>
      rw [(@length_notifyText notifyCount 0).1, length_zeroPadded, strSize]
      constructor
      · intro _
        nofun
      · intro _
        omega
  | some value =>
      have hvalue := length_signedDecimal_int32 value
      rw [length_notifyText.2, length_zeroPadded, strSize]
      simp only [Option.some.injEq, forall_eq']
      omega

lemma fit_singleton {str : List Char} {msg : Option Message} :
    Fit [.notify str msg] ↔ (str ++ [nul]).length ≤ strSize := by
  simp only [Fit, List.mem_singleton, Event.notify.injEq]
  constructor
  · intro h
    exact h str msg ⟨rfl, rfl⟩
  · rintro h method msg' ⟨rfl, -⟩
    exact h

lemma fit_sendReply {msg : Message} {out : List Event} : Fit (.sendReply msg :: out) ↔ Fit out := by
  simp [Fit]

/-- What the daemon formats in one step fits, unless the step is one of these. -/
lemma fit_step_iff : Fit (step d i).2 ↔ ¬ TooLong d i := by
  have hcall : ∀ notifyCount msg, Fit [.notify (notifyText notifyCount none) msg] := by
    intro notifyCount msg
    rw [fit_singleton, notifyText_fits_iff]
    nofun
  cases i with
  | isr param read read' =>
      rw [TooLong, not_not, ← isrText_fits_iff]
      exact fit_singleton
  | notify param =>
      have hfits : Fit (step d (.notify param)).2 ↔ _ := fit_singleton.trans notifyText_fits_iff
      rw [hfits]
      cases param with
      | none => simp [TooLong]
      | some value => simp only [TooLong, Option.some.injEq, forall_eq']
  | status read => exact iff_of_true (fit_sendReply.mpr (hcall _ _)) id
  | get read => exact iff_of_true (fit_sendReply.mpr (hcall _ _)) id

/-- **Exactly when the texts fit.**  In every run from the start of the daemon: all texts formatted
fit the buffer if and only if no interrupt and no call of `mkeyd_notify` is too long. -/
theorem text_fits_iff (is : List Input) :
    (∀ p ∈ machine.trace initial is, Fit (machine.step p.1 p.2).2) ↔
      ∀ p ∈ machine.trace initial is, ¬ TooLong p.1 p.2 :=
  forall₂_congr fun _ _ => fit_step_iff

/-- The counter that is printed is the number of interrupts so far, in an `int`. -/
theorem isrCount_run (d : Daemon) (is : List Input) :
    (machine.run d is).1.isrCount = d.isrCount + Int32.ofNat (is.countP Input.isIsr) := by
  induction is generalizing d with
  | nil => simp [Machine.run]
  | cons i is ih =>
      rw [Machine.run, ih, List.countP_cons]
      cases i with
      | isr param read read' =>
          simp only [machine, step, mkeydIsr, Input.isIsr, if_true, Int32.ofNat_add]
          grind
      | notify param => simp [machine, step, mkeydNotify, Input.isIsr]
      | status read => simp [machine, step, mkeydStatus, replyAndNotify, mkeydNotify, Input.isIsr]
      | get read => simp [machine, step, mkeydGet, replyAndNotify, mkeydNotify, Input.isIsr]

/-- The first interrupt may read the smallest `int`. -/
theorem text_fits_fails : ¬ ∀ is : List Input,
    ∀ p ∈ machine.trace initial is, Fit (machine.step p.1 p.2).2 := by
  intro h
  have hfirst := h [.isr (some (-2147483648)) 0 0] (initial, .isr (some (-2147483648)) 0 0)
    (.head _)
  exact absurd (fit_singleton.mp hfirst) (by decide)

end Mkeyd

import MuaHello.Ubus.Decode

/-!
# The key daemon and its clients

`mkeyd`, a subscriber and a caller on one bus.  The subscriber gets every notification, those of the
interrupts as well as the ones with which the daemon tests itself behind each reply, and it has only
what it can decode to tell them apart.

`bus` is the program: the daemon with its counters and its blob buffer, and the callbacks of the
clients on what it hands to ubus.  Two things leave the objects of the program, and what comes of
them is left open (`Memory`): a text may be longer than `str[32]`, and every callback stores two
results behind `cur`.  `log` is what the program amounts to, two numbers and one entry for each
event, and `keys_observed` says that no run shows a difference in which the texts fit and the words
behind `cur` are not in use.

A handler runs to its end before another starts.
-/

namespace Keys

open Blobmsg Mkeyd Decode

/-- What happens: an edge on the pin, or a call of a method.  The numbers are results of
`mraa_gpio_read`. -/
inductive Act where
  | isr (param : Option Int32) (read read' : ℤ)
  | status (read : ℤ)
  | get (read : ℤ)

def Act.input : Act → Input
  | isr param read read' => .isr param read read'
  | status read => .status read
  | get read => .get read

/-- The fields a callback prints. -/
structure Printed where
  text : Option (List Char)
  pin : Option UInt16
  level : Option UInt8
  deriving DecidableEq

def Printed.nothing : Printed := ⟨none, none, none⟩

/-- All three fields, with what the daemon puts into the first two. -/
def Printed.whole (level : UInt8) : Printed := ⟨some "XX".toList, some gpioPin, some level⟩

def printed (r : Report) : Printed := ⟨r.text, r.pin, r.level⟩

/-- What the clients print: `subscriber_notify` the name of the notification and the fields, the
callbacks of the caller the fields. -/
inductive Seen where
  | subscriber (method : List Char) (p : Printed)
  | caller (p : Printed)
  deriving DecidableEq

/-- What is outside the objects of the program: the daemon after a text has overrun `str` and what
it hands to ubus then, the words behind `cur` that a callback still uses, and what it prints when
one of them has been overwritten. -/
structure Memory where
  overrun : Daemon → Act → Daemon × List Event
  used : ℕ → Bool
  damaged : Message → Printed

/-- A callback, which stores behind `cur` while it parses. -/
def Memory.callback (mem : Memory) (msg : Message) (r : Report) : Printed :=
  if r.calls.any fun c => c.stores.any fun k => decide (1 ≤ k) && mem.used k then mem.damaged msg
  else printed r

/-- The callbacks of the clients.  `caller_get_cb` looks at nothing. -/
def observe (F : Finder) (after : ℕ → Policy) (mem : Memory) (a : Act) : Event → Seen
  | .notify method msg =>
      .subscriber method
        ((msg.map fun m => mem.callback m (subscriberNotify F after m)).getD .nothing)
  | .sendReply msg =>
      match a with
      | .get _ => .caller .nothing
      | _ => .caller (mem.callback msg (callerStatusCb F after msg))

/-- The daemon with its clients. -/
def bus (F : Finder) (after : ℕ → Policy) (mem : Memory) : Machine Daemon Act (List Seen) where
  step d a :=
    let r := if Fit (Mkeyd.step d a.input).2 then Mkeyd.step d a.input else mem.overrun d a
    (r.1, r.2.map (observe F after mem a))

/-- The numbers of interrupts and of replies so far, and an entry for each event. -/
def log : Machine (ℕ × ℕ) Act (List Seen) where
  step
    | (k, n), .isr param read read' => ((k + 1, n),
        [.subscriber (isrText (Int32.ofNat k) (param.getD 0) (UInt8.ofInt read))
          (.whole (UInt8.ofInt read'))])
    | (k, n), .status read => ((k, n + 1),
        [.caller (.whole (UInt8.ofInt read)),
          .subscriber (notifyText (Int32.ofNat n) none) .nothing])
    | (k, n), .get _ => ((k, n + 1),
        [.caller .nothing, .subscriber (notifyText (Int32.ofNat n) none) .nothing])

section Decoding

variable {F : Finder} {after : ℕ → Policy} {msg : Message} {f : Fields}

/-- A message without the fields is not decoded. -/
lemma printed_nothing (h : ∀ a ∈ msg, a.name ≠ f.text ∧ a.name ≠ f.pin ∧ a.name ≠ f.level) :
    printed (decode F f after msg) = .nothing := by
  have hfind : ∀ p : Policy, (∀ a ∈ msg, a.name ≠ p.name) → F.find msg p = none := by
    intro p hp
    cases hfind : F.find msg p with
    | none => rfl
    | some a => exact absurd (F.sound hfind).2.1 (hp a (F.sound hfind).1)
  rw [printed, decode_text, decode_pin, decode_level, hfind _ fun a ha => (h a ha).1,
    hfind _ fun a ha => (h a ha).2.1, hfind _ fun a ha => (h a ha).2.2]
  rfl

lemma printed_level {level : UInt8} (htext : Says msg f.text (.string "XX".toList))
    (hpin : Says msg f.pin (.int16 gpioPin)) (hlevel : Says msg f.level (.int8 level)) :
    printed (decode F f after msg) = .whole level := by
  have hsaid : (decode F f after msg).text = some "XX".toList ∧
      (decode F f after msg).pin = some gpioPin ∧ (decode F f after msg).level = some level :=
    decode_says htext hpin hlevel
  rw [printed, hsaid.1, hsaid.2.1, hsaid.2.2]
  rfl

lemma subscriber_isr (action : UInt8) :
    printed (subscriberNotify F after (isrMessage action)) = .whole action := by
  apply printed_level <;> simp [Says, isrMessage, subscriberFields]

lemma subscriber_status (value : UInt8) :
    printed (subscriberNotify F after (statusMessage value)) = .nothing := by
  apply printed_nothing
  simp [statusMessage, subscriberFields]

lemma subscriber_get (value : UInt8) :
    printed (subscriberNotify F after (getMessage value)) = .nothing := by
  apply printed_nothing
  simp [getMessage, subscriberFields]

lemma caller_status (value : UInt8) :
    printed (callerStatusCb F after (statusMessage value)) = .whole value := by
  apply printed_level <;> simp [Says, statusMessage, callerFields]

end Decoding

/-- The words behind `cur` that the callbacks overwrite are not in use. -/
def Memory.Free (mem : Memory) : Prop := mem.used 1 = false ∧ mem.used 2 = false

instance (mem : Memory) : Decidable mem.Free := inferInstanceAs (Decidable (_ ∧ _))

/-- Nothing is damaged then. -/
lemma Memory.Free.callback {mem : Memory} {F : Finder} {f : Fields} {after : ℕ → Policy}
    {msg : Message} (h : mem.Free) :
    mem.callback msg (decode F f after msg) = printed (decode F f after msg) := by
  have hstores : ∀ i, (parseField F f.policy after msg i).stores = [0, 1, 2] :=
    fun i => parseField_accesses.2
  rw [Memory.callback, if_neg]
  simp [decode, hstores, h.1, h.2]

/-- The counters of the daemon are the numbers, in an `int`. -/
def Counts (d : Daemon) (t : ℕ × ℕ) : Prop :=
  d.isrCount = Int32.ofNat t.1 ∧ d.notifyCount = Int32.ofNat t.2

/-- One event. -/
lemma bus_step {F : Finder} {after : ℕ → Policy} {mem : Memory} {d : Daemon} {t : ℕ × ℕ} {a : Act}
    (hfree : mem.Free) (h : Counts d t) (hfit : Fit (Mkeyd.step d a.input).2) :
    Counts ((bus F after mem).step d a).1 (log.step t a).1 ∧
      ((bus F after mem).step d a).2 = (log.step t a).2 := by
  obtain ⟨k, n⟩ := t
  obtain ⟨hisr, hnotify⟩ := h
  have hsucc : ∀ j, Int32.ofNat j + 1 = Int32.ofNat (j + 1) := fun j => (Int32.ofNat_add j 1).symm
  have hsub : ∀ msg, mem.callback msg (subscriberNotify F after msg)
      = printed (subscriberNotify F after msg) := fun msg => hfree.callback
  have hcaller : ∀ msg, mem.callback msg (callerStatusCb F after msg)
      = printed (callerStatusCb F after msg) := fun msg => hfree.callback
  simp only at hisr hnotify
  simp only [bus, if_pos hfit]
  cases a with
  | isr param read read' =>
      refine ⟨⟨?_, hnotify⟩, ?_⟩
      · exact (congrArg (· + 1) hisr).trans (hsucc k)
      · simp [log, Act.input, step, mkeydIsr, observe, hisr, hsub, subscriber_isr]
  | status read =>
      refine ⟨⟨hisr, ?_⟩, ?_⟩
      · exact (congrArg (· + 1) hnotify).trans (hsucc n)
      · simp [log, Act.input, step, mkeydStatus, replyAndNotify, mkeydNotify, observe, hnotify,
          hsub, hcaller, subscriber_status, caller_status]
  | get read =>
      refine ⟨⟨hisr, ?_⟩, ?_⟩
      · exact (congrArg (· + 1) hnotify).trans (hsucc n)
      · simp [log, Act.input, step, mkeydGet, replyAndNotify, mkeydNotify, observe, hnotify, hsub,
          subscriber_get]

/-- **What the clients see of the key daemon**, in a run whose texts fit `str` and with clients that
do not use the two words behind `cur`.  For every interleaving of interrupts and calls and all
levels read, however `blobmsg_parse` chooses and whatever policies it reads behind the arrays: each
interrupt is seen once, under its number and with the level of its second read, each status call
gets its level, and what the daemon sends behind a reply is decoded to nothing. -/
theorem keys_observed (F : Finder) (after : ℕ → Policy) (mem : Memory) (acts : List Act)
    (hfree : mem.Free)
    (hfit : ∀ p ∈ (bus F after mem).trace initial acts, Fit (Mkeyd.step p.1 p.2.input).2) :
    ((bus F after mem).run initial acts).2 = (log.run (0, 0) acts).2 := by
  have hstart : Counts initial (0, 0) := ⟨rfl, rfl⟩
  have hsim := @Machine.run_simulation_of _ _ _ _ _ (bus F after mem) log initial (0, 0) acts Counts
    (fun d a => Fit (Mkeyd.step d a.input).2) id (fun d t a h hi => bus_step hfree h hi) hstart hfit
  simpa using hsim.2

/-- A key is pressed, and its state asked for. -/
theorem keys_observed_press :
    ((bus .first (fun _ => ⟨"", .int8⟩) ⟨fun d _ => (d, []), fun _ => false, fun _ => .nothing⟩).run
        initial [.isr (some 7) 1 1, .status 1]).2
      = [[.subscriber "ISR-00 - 7 - KeyPress".toList (.whole 1)],
        [.caller (.whole 1), .subscriber "Notify-00".toList .nothing]] :=
  (keys_observed .first (fun _ => ⟨"", .int8⟩)
    ⟨fun d _ => (d, []), fun _ => false, fun _ => .nothing⟩ [.isr (some 7) 1 1, .status 1]
    (by decide) (by decide)).trans (by decide)

end Keys

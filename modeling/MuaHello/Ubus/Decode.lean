import MuaHello.Ubus.Mkeyd

/-!
# Decoding the key daemon's messages

`subscriber_notify` and `caller_status_cb` parse a message once for each field.  Every call moves
the policy pointer on to the field's entry and keeps the length of the whole array, and all of them
store into one pointer, `cur`.  So the entry that matters comes first and its result lands in `cur`
(`decode_exact`), but a call for three entries clears and sets three results where there is room
for one, and the second and the third call read entries behind the array.

`decoded_never` says that no message at all is decoded within the bounds of both.
-/

namespace Decode

open Blobmsg

/-- One `blobmsg_parse(&policy[i], policy_len, &cur, …)`: the result and the indices used, into the
policy array and behind `&cur`. -/
structure ParseCall where
  cur : Option Attr
  reads : List ℕ
  stores : List ℕ

/-- The call for the entry `i` of a policy array that `after` follows in memory. -/
def parseField (F : Finder) (policy : List Policy) (after : ℕ → Policy) (msg : Message) (i : ℕ) :
    ParseCall :=
  let call := F.parse msg i policy.length
  let tb := call.run (listMem policy after)
  { cur := tb.head?.join
    reads := call.reads (listMem policy after)
    stores := List.range tb.length }

/-- The names of the three fields, which have the same types in both messages. -/
structure Fields where
  text : String
  pin : String
  level : String

/-- `policy` -/
def Fields.policy (f : Fields) : List Policy :=
  [⟨f.text, .string⟩, ⟨f.pin, .int16⟩, ⟨f.level, .int8⟩]

/-- What a callback prints, and the calls it makes. -/
structure Report where
  text : Option (List Char)
  pin : Option UInt16
  level : Option UInt8
  calls : List ParseCall

/-- The body of both callbacks. -/
def decode (F : Finder) (f : Fields) (after : ℕ → Policy) (msg : Message) : Report :=
  let text := parseField F f.policy after msg 0
  let pin := parseField F f.policy after msg 1
  let level := parseField F f.policy after msg 2
  { text := text.cur.map Attr.getString
    pin := pin.cur.map Attr.getU16
    level := level.cur.map Attr.getU8
    calls := [text, pin, level] }

def subscriberFields : Fields := ⟨"isr", "key", "action"⟩

/-- `subscriber_notify` -/
def subscriberNotify (F : Finder) (after : ℕ → Policy) (msg : Message) : Report :=
  decode F subscriberFields after msg

def callerFields : Fields := ⟨"status", "gpio", "value"⟩

/-- `caller_status_cb` -/
def callerStatusCb (F : Finder) (after : ℕ → Policy) (msg : Message) : Report :=
  decode F callerFields after msg

/-! ## What they should do -/

/-- A value is reported exactly when the message has an attribute `name` with it. -/
structure Exact {α : Type} (msg : Message) (name : String) (mk : α → Value) (r : Option α) :
    Prop where
  sound : ∀ v, r = some v → ⟨name, mk v⟩ ∈ msg
  complete : r = none → ∀ v, ⟨name, mk v⟩ ∉ msg

/-- All three fields are reported as they were encoded. -/
structure Report.Exact (f : Fields) (msg : Message) (r : Report) : Prop where
  text : Decode.Exact msg f.text .string r.text
  pin : Decode.Exact msg f.pin .int16 r.pin
  level : Decode.Exact msg f.level .int8 r.level

/-- The calls read entries of the policy array and store into `cur`. -/
def Report.InBounds (f : Fields) (r : Report) : Prop :=
  ∀ c ∈ r.calls, (∀ a ∈ c.reads, a < f.policy.length) ∧ ∀ a ∈ c.stores, a < 1

variable {F : Finder} {policy : List Policy} {after : ℕ → Policy} {msg : Message} {i : ℕ}

/-! ## One call -/

lemma parseField_cur (hi : i < policy.length) :
    (parseField F policy after msg i).cur = F.find msg (policy[i]) := by
  obtain ⟨n, hn⟩ := Nat.exists_eq_add_of_lt hi
  have hentry : listMem policy after i = policy[i] := by
    rw [listMem, List.getD_eq_getElem policy _ hi]
  simp only [parseField, Finder.run_parse]
  rw [hn, slice_succ, hentry]
  rfl

/-- The call reads as many entries as the array has, from its own on, and stores as many results. -/
lemma parseField_accesses :
    (parseField F policy after msg i).reads = List.range' i policy.length ∧
      (parseField F policy after msg i).stores = List.range policy.length := by
  simp [parseField, Finder.reads_parse, Finder.run_parse]

/-- What a lookup by name and type reports. -/
lemma exact_find {α : Type} {mk : α → Value} {get : Attr → α} {name : String} {t : BlobmsgType}
    (htype : ∀ v, (mk v).type = t) (hget : ∀ a : Attr, a.value.type = t → mk (get a) = a.value) :
    Exact msg name mk ((F.find msg ⟨name, t⟩).map get) where
  sound := by
    intro v hv
    obtain ⟨a, hfind, rfl⟩ := Option.map_eq_some_iff.mp hv
    obtain ⟨hmem, hname, hat⟩ := F.sound hfind
    rw [hget a hat, ← show a.name = name from hname]
    exact hmem
  complete := by
    intro hnone v hmem
    exact F.complete (Option.map_eq_none_iff.mp hnone) _ hmem ⟨rfl, htype v⟩

lemma mk_getString {a : Attr} (h : a.value.type = .string) : .string a.getString = a.value := by
  rw [Attr.getString]
  cases hv : a.value <;> simp [hv, Value.type] at h ⊢

lemma mk_getU16 {a : Attr} (h : a.value.type = .int16) : .int16 a.getU16 = a.value := by
  rw [Attr.getU16]
  cases hv : a.value <;> simp [hv, Value.type] at h ⊢

lemma mk_getU8 {a : Attr} (h : a.value.type = .int8) : .int8 a.getU8 = a.value := by
  rw [Attr.getU8]
  cases hv : a.value <;> simp [hv, Value.type] at h ⊢

/-! ## The callbacks -/

lemma decode_text (f : Fields) :
    (decode F f after msg).text = (F.find msg ⟨f.text, .string⟩).map Attr.getString :=
  congrArg (Option.map Attr.getString) (@parseField_cur F f.policy after msg 0 (Nat.succ_pos 2))

lemma decode_pin (f : Fields) :
    (decode F f after msg).pin = (F.find msg ⟨f.pin, .int16⟩).map Attr.getU16 :=
  congrArg (Option.map Attr.getU16)
    (@parseField_cur F f.policy after msg 1 (show 1 < 3 by decide))

lemma decode_level (f : Fields) :
    (decode F f after msg).level = (F.find msg ⟨f.level, .int8⟩).map Attr.getU8 :=
  congrArg (Option.map Attr.getU8) (@parseField_cur F f.policy after msg 2 (show 2 < 3 by decide))

/-- **Every field is reported exactly**, as long as what is stored behind `cur` does not hit what
the callback still uses. -/
theorem decode_exact (F : Finder) (f : Fields) (after : ℕ → Policy) (msg : Message) :
    (decode F f after msg).Exact f msg where
  text := by
    rw [decode_text]
    exact exact_find (fun _ => rfl) fun _ => mk_getString
  pin := by
    rw [decode_pin]
    exact exact_find (fun _ => rfl) fun _ => mk_getU16
  level := by
    rw [decode_level]
    exact exact_find (fun _ => rfl) fun _ => mk_getU8

/-- What a message says is reported. -/
lemma decode_says {f : Fields} {s : List Char} {pin : UInt16} {level : UInt8}
    (htext : Says msg f.text (.string s)) (hpin : Says msg f.pin (.int16 pin))
    (hlevel : Says msg f.level (.int8 level)) :
    (decode F f after msg).text = some s ∧ (decode F f after msg).pin = some pin ∧
      (decode F f after msg).level = some level := by
  refine ⟨?_, ?_, ?_⟩
  · exact (decode_text f).trans (congrArg (Option.map Attr.getString) (F.find_of_says htext))
  · exact (decode_pin f).trans (congrArg (Option.map Attr.getU16) (F.find_of_says hpin))
  · exact (decode_level f).trans (congrArg (Option.map Attr.getU8) (F.find_of_says hlevel))

/-- The subscriber reads off an interrupt's message what the daemon put there. -/
theorem subscriberNotify_isrMessage (action : UInt8) :
    (subscriberNotify F after (Mkeyd.isrMessage action)).text = some "XX".toList ∧
      (subscriberNotify F after (Mkeyd.isrMessage action)).pin = some Mkeyd.gpioPin ∧
      (subscriberNotify F after (Mkeyd.isrMessage action)).level = some action := by
  apply decode_says <;> simp [Says, Mkeyd.isrMessage, subscriberFields]

/-- The caller reads off a status reply what the daemon put there. -/
theorem callerStatusCb_statusMessage (value : UInt8) :
    (callerStatusCb F after (Mkeyd.statusMessage value)).text = some "XX".toList ∧
      (callerStatusCb F after (Mkeyd.statusMessage value)).pin = some Mkeyd.gpioPin ∧
      (callerStatusCb F after (Mkeyd.statusMessage value)).level = some value := by
  apply decode_says <;> simp [Says, Mkeyd.statusMessage, callerFields]

/-- **What the three calls access**: each stores three results, and the last two read entries that
the array does not have. -/
theorem decode_calls (F : Finder) (f : Fields) (after : ℕ → Policy) (msg : Message) :
    (decode F f after msg).calls.map (fun c => (c.reads, c.stores))
      = [([0, 1, 2], [0, 1, 2]), ([1, 2, 3], [0, 1, 2]), ([2, 3, 4], [0, 1, 2])] := by
  simp only [decode, List.map_cons, List.map_nil, parseField_accesses.1, parseField_accesses.2]
  rfl

/-- **No message is decoded in bounds.**  Already the first call stores a second result. -/
lemma decode_not_inBounds (f : Fields) : ¬ (decode F f after msg).InBounds f := by
  intro h
  obtain ⟨-, hstores⟩ := h (parseField F f.policy after msg 0) (.head _)
  rw [parseField_accesses.2] at hstores
  exact absurd (hstores 1 (List.mem_range.mpr (show 1 < 3 by decide))) (by decide)

/-- **Both callbacks leave their bounds on every message**, however the attributes are found and
whatever stands behind the policy. -/
theorem decoded_never (F : Finder) (after : ℕ → Policy) (msg : Message) :
    ¬ ((subscriberNotify F after msg).Exact subscriberFields msg ∧
        (subscriberNotify F after msg).InBounds subscriberFields) ∧
      ¬ ((callerStatusCb F after msg).Exact callerFields msg ∧
        (callerStatusCb F after msg).InBounds callerFields) := by
  constructor
  · rintro ⟨-, h⟩
    exact decode_not_inBounds _ h
  · rintro ⟨-, h⟩
    exact decode_not_inBounds _ h

/-- The message of an interrupt is an example. -/
theorem decoded_fails :
    ¬ ((∀ (F : Finder) (after : ℕ → Policy) (msg : Message),
      (subscriberNotify F after msg).Exact subscriberFields msg ∧
        (subscriberNotify F after msg).InBounds subscriberFields) ∧
    ∀ (F : Finder) (after : ℕ → Policy) (msg : Message),
      (callerStatusCb F after msg).Exact callerFields msg ∧
        (callerStatusCb F after msg).InBounds callerFields) := by
  rintro ⟨h, -⟩
  have hinside := (h Finder.first (fun _ => ⟨"isr", .string⟩) (Mkeyd.isrMessage 1)).2
  exact decode_not_inBounds _ hinside

end Decode

import MuaHello.Lib.Machine
import MuaHello.Ubus.CountCheck

/-!
# Counting together

The client's `test_count` and its callback on the one side, the server's `test_count` on the other,
with what the client prints.  `session` is the program; `plain` keeps the number of expirations and
says with it what is printed, as the numbers go up and down in a triangular wave (`wave`).
`counts_observed` says that no run shows a difference: what the server makes of a number is always
what the client has made of it.
-/

namespace Count

open Blobmsg

/-! ## The client's output -/

/-- `"Could not allocate memory to count up to '%u'\n"` -/
def noMemoryText (countTo : ℕ) : List Char :=
  "Could not allocate memory to count up to '".toList ++ decimal countTo ++ "'\n".toList

/-- `"Sending count up to '%u'; string has length '%u'\n"` -/
def sendingText (countTo length : ℕ) : List Char :=
  "Sending count up to '".toList ++ decimal countTo ++ "'; string has length '".toList ++
    decimal length ++ "'\n".toList

def lookupText : List Char := "Failed to look up test object\n".toList

def noReturnCodeText : List Char := "No return code received from server\n".toList

/-- `"Corruption of data with count up to '%u'\n"` -/
def corruptionText (countTo : ℕ) : List Char :=
  "Corruption of data with count up to '".toList ++ decimal countTo ++ "'\n".toList

/-- `"Server validated our count up to '%u'\n"` -/
def validatedText (countTo : ℕ) : List Char :=
  "Server validated our count up to '".toList ++ decimal countTo ++ "'\n".toList

/-- `return_policy` -/
def returnPolicy : List Policy := [⟨"rc", .int32⟩]

/-- `test_count_data_cb` -/
def testCountDataCb (F : Finder) (countTo : UInt32) (msg : Message) : List Char :=
  match F.table msg returnPolicy with
  | [some rc] =>
      if rc.getU32 ≠ 0 then corruptionText countTo.toNat else validatedText countTo.toNat
  | _ => noReturnCodeText

/-- An expiration of the client's timer: what `calloc` gives the client, whether the object is
found, and what `calloc` gives the server. -/
structure Expiration where
  heap : Option (ℕ → Char)
  found : Bool
  serverHeap : Option (ℕ → Char)

/-- `test_count` of the client with what it prints, up to the end of `ubus_invoke`.  An error of the
server is no message to the callback. -/
def sessionStep (F : Finder) (c : Client) (e : Expiration) : Client × List (List Char) :=
  if c.armed then
    let r := clientTestCount c e.heap e.found
    let countTo := c.next.countTo
    let made := countToNumber countTo e.heap
    match made.s with
    | none => (r.1, [noMemoryText countTo.toNat])
    | some s =>
        let sending := sendingText countTo.toNat
          (UInt32.ofNat (readString s made.size.val.toNat).length).toNat
        match r.2 with
        | none => (r.1, [sending, lookupText])
        | some msg =>
            match (testCount F msg e.serverHeap).reply with
            | none => (r.1, [sending])
            | some reply => (r.1, [sending, testCountDataCb F countTo reply])
  else (c, [])

def session (F : Finder) : Machine Client Expiration (List (List Char)) := ⟨sessionStep F⟩

/-! ## The numbers -/

/-- The number of the expiration `i`: from 10000 up to 1000000 and down again, in steps of 100. -/
def wave (i : ℕ) : ℕ :=
  if (i + 900) % 19800 ≤ 9900 then 10000 + 100 * ((i + 900) % 19800)
  else 1990000 - 100 * ((i + 900) % 19800)

/-- The expirations so far, and whether there will be more. -/
structure Plain where
  count : ℕ
  armed : Bool

/-- What a count comes to: the client's memory, the object and the server's memory have to be
there. -/
def plain : Machine Plain Expiration (List (List Char)) where
  step p e :=
    let n := wave (p.count + 1)
    let sending := sendingText n (countText n).length
    if p.armed = false then (p, [])
    else if e.heap.isNone then (⟨p.count + 1, false⟩, [noMemoryText n])
    else if e.found = false then (⟨p.count + 1, false⟩, [sending, lookupText])
    else if e.serverHeap.isNone then (⟨p.count + 1, true⟩, [sending])
    else (⟨p.count + 1, true⟩, [sending, validatedText n])

variable {F : Finder} {c : Client} {p : Plain}

/-- The client is where its expirations have taken it.  In between the limits it keeps its
direction. -/
structure Follows (c : Client) (p : Plain) : Prop where
  countTo : c.countTo.toNat = wave p.count
  armed : c.armed = p.armed
  up : 0 < (p.count + 900) % 19800 → (p.count + 900) % 19800 < 9900 → c.countProgression = 100
  down : 9900 < (p.count + 900) % 19800 → c.countProgression = -100

lemma wave_le (i : ℕ) : wave i ≤ 1000000 := by
  unfold wave
  split_ifs <;> omega

lemma le_wave (i : ℕ) : 10000 ≤ wave i := by
  unfold wave
  split_ifs <;> omega

lemma wave_up {i : ℕ} (h : (i + 900) % 19800 < 9900) : wave (i + 1) = wave i + 100 := by
  unfold wave
  split_ifs <;> omega

lemma wave_down {i : ℕ} (h : 9900 ≤ (i + 900) % 19800) : wave (i + 1) = wave i - 100 := by
  unfold wave
  split_ifs <;> omega

/-- The wave turns at its limits only. -/
lemma wave_le_iff {i : ℕ} : wave i ≤ 10000 ↔ (i + 900) % 19800 = 0 := by
  unfold wave
  split_ifs <;> omega

lemma le_wave_iff {i : ℕ} : 1000000 ≤ wave i ↔ (i + 900) % 19800 = 9900 := by
  unfold wave
  split_ifs <;> omega

lemma Follows.add_up (h : Follows c p) (hphase : (p.count + 900) % 19800 < 9900) :
    Follows ⟨c.countTo + (100 : Int32).toUInt32, 100, c.armed⟩ ⟨p.count + 1, p.armed⟩ := by
  have hto := h.countTo
  have hle := wave_le p.count
  refine ⟨?_, h.armed, fun _ _ => rfl, ?_⟩
  · rw [UInt32.toNat_add, show (100 : Int32).toUInt32.toNat = 100 from rfl, wave_up hphase]
    omega
  · intro hdown
    simp only at hdown
    omega

lemma Follows.add_down (h : Follows c p) (hphase : 9900 ≤ (p.count + 900) % 19800) :
    Follows ⟨c.countTo + (-100 : Int32).toUInt32, -100, c.armed⟩ ⟨p.count + 1, p.armed⟩ := by
  have hto := h.countTo
  have hle := wave_le p.count
  have hge := le_wave p.count
  refine ⟨?_, h.armed, ?_, fun _ => rfl⟩
  · rw [UInt32.toNat_add, show (-100 : Int32).toUInt32.toNat = 4294967196 from rfl,
      wave_down hphase]
    omega
  · intro hpos hup
    simp only at hpos hup
    omega

/-- The next number is the next one of the wave. -/
lemma Follows.next (h : Follows c p) : Follows c.next ⟨p.count + 1, p.armed⟩ := by
  have hlow : c.countTo ≤ 10000 ↔ (p.count + 900) % 19800 = 0 := by
    rw [UInt32.le_iff_toNat_le, h.countTo, ← wave_le_iff]
    rfl
  have hhigh : 1000000 ≤ c.countTo ↔ (p.count + 900) % 19800 = 9900 := by
    rw [UInt32.le_iff_toNat_le, h.countTo, ← le_wave_iff]
    rfl
  rw [Client.next]
  simp only [hlow, hhigh]
  split_ifs with hmin hmax
  · exact h.add_up (by omega)
  · exact h.add_down (by omega)
  · -- in between it goes on as before
    rcases Nat.lt_or_ge ((p.count + 900) % 19800) 9900 with hphase | hphase
    · rw [h.up (by omega) hphase]
      exact h.add_up hphase
    · rw [h.down (by omega)]
      exact h.add_down hphase

/-! ## Both sides -/

lemma Follows.setArmed (h : Follows c p) (armed : Bool) :
    Follows { c with armed := armed } ⟨p.count, armed⟩ := ⟨h.countTo, rfl, h.up, h.down⟩

/-- What the client prints for the server's answer to its own request. -/
lemma testCountDataCb_zero (F : Finder) (num : UInt32) :
    testCountDataCb F num [⟨"rc", .int32 0⟩] = validatedText num.toNat := by
  have hrc := F.find_of_says (show Says [⟨"rc", .int32 0⟩] "rc" (.int32 0) by
    simp [Says, Value.type])
  simp only [Value.type] at hrc
  simp [testCountDataCb, Finder.table, returnPolicy, hrc, Attr.getU32]

lemma testCount_none (msg : Message) : (testCount F msg none).reply = none := by
  rw [testCount]
  split <;> simp [countToNumber, calloc]

/-- What the client makes of its number, and what `strlen` says of it. -/
lemma readString_countToNumber {num : UInt32} (h : Fits num) (behind : ℕ → Char) :
    ∃ mem, (countToNumber num (some behind)).s = some mem ∧
      readString mem (countToNumber num (some behind)).size.val.toNat = countText num.toNat ∧
      (UInt32.ofNat (countText num.toNat).length).toNat = (countText num.toNat).length := by
  obtain ⟨mem, hmem, htext⟩ := isCString_countToNumber h behind
  have hsize := (sizingPass_counts num.toNat).val_of_lt h
  unfold Fits at h
  refine ⟨mem, hmem, htext.readString_eq ?_, ?_⟩
  · show (countText num.toNat).length < (sizingPass num.toNat).val.toNat
    omega
  · simp only [UInt32.toNat_ofNat']
    omega

/-- One expiration, counted by both sides. -/
lemma session_step (h : Follows c p) (e : Expiration) :
    Follows (sessionStep F c e).1 (plain.step p e).1 ∧
      (sessionStep F c e).2 = (plain.step p e).2 := by
  obtain ⟨heap, found, serverHeap⟩ := e
  have hnext := h.next
  have hto : c.next.countTo.toNat = wave (p.count + 1) := hnext.countTo
  have harmed := h.armed
  cases hp : p.armed with
  | false =>
      rw [hp] at harmed
      simp [sessionStep, plain, harmed, hp, h]
  | true =>
      rw [hp] at harmed
      have hle := wave_le (p.count + 1)
      have hfits : Fits c.next.countTo := fits_iff.mpr (by omega)
      cases heap with
      | none =>
          simp only [sessionStep, harmed, if_true, clientTestCount, countToNumber, calloc,
            Option.map_none, plain, hp, hto]
          exact ⟨hnext.setArmed false, rfl⟩
      | some behind =>
          obtain ⟨mem, hmem, hread, hlength⟩ := readString_countToNumber hfits behind
          cases found with
          | false =>
              simp only [sessionStep, harmed, if_true, clientTestCount, hmem, hread, plain,
                hp, ← hto, hlength]
              exact ⟨hnext.setArmed false, rfl⟩
          | true =>
              cases serverHeap with
              | none =>
                  simp only [sessionStep, harmed, if_true, clientTestCount, hmem, hread, plain,
                    hp, ← hto, hlength, testCount_none]
                  exact ⟨hnext.setArmed true, rfl⟩
              | some behind' =>
                  simp only [sessionStep, harmed, if_true, clientTestCount, hmem, hread, plain,
                    hp, ← hto, hlength, testCount_countRequest F hfits, testCountDataCb_zero]
                  exact ⟨hnext.setArmed true, rfl⟩

/-- **Every count is told as it is.**  In every run the client prints the numbers of the wave in
order, each with the length of its text, until memory or the object is missing on its side, and
what the server has counted is never told to be corrupt. -/
theorem counts_observed (F : Finder) (es : List Expiration) :
    ((session F).run .initial es).2 = (plain.run ⟨0, true⟩ es).2 := by
  have hstart : Follows .initial ⟨0, true⟩ := by
    refine ⟨rfl, rfl, fun _ _ => rfl, ?_⟩
    intro hdown
    simp at hdown
  have hsim := @Machine.run_simulation _ _ _ _ _ (session F) plain .initial ⟨0, true⟩ es Follows
    id (fun c p e h => session_step h e) hstart
  simpa using hsim.2

end Count

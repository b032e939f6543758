import MuaHello.Ubus.Blobmsg
import MuaHello.Ubus.Count

/-!
# The server's count check

The client sends a number and the text `count_to_number` makes of it; the server makes the text
again and returns what `strcmp` says.  The texts of two numbers differ because the shorter count is
a proper prefix of the longer one (`countText_properPrefix`), so the check succeeds exactly on the
same number (`count_exact`).
-/

namespace Count

open Blobmsg

/-- `count_policy` -/
def countPolicy : List Policy := [⟨"to", .int32⟩, ⟨"string", .string⟩]

/-- What the handler returns and the reply it has sent. -/
structure CountReply where
  ret : UbusStatus
  reply : Option Message

/-- `test_count` of the server. -/
def testCount (F : Finder) (msg : Message) (heap : Option (ℕ → Char)) : CountReply :=
  match F.table msg countPolicy with
  | [some countTo, some countString] =>
      match (countToNumber countTo.getU32 heap).s with
      | none => ⟨.unknownError, none⟩
      | some s2 =>
          ⟨.ok, some [⟨"rc", .int32 (UInt32.ofInt (strcmp s2 0 countString.getString))⟩]⟩
  | _ => ⟨.invalidArgument, none⟩

/-- The request `test_count` of the client builds. -/
def countRequest (countTo : UInt32) (s : List Char) : Message :=
  [⟨"to", .int32 countTo⟩, ⟨"string", .string s⟩]

/-- The static variables of the client's `test_count`, and its timer. -/
structure Client where
  countTo : UInt32
  countProgression : Int32
  armed : Bool

def Client.initial : Client := ⟨100000, 100, true⟩

/-- The number to count to next, up and down between `COUNT_TO_MIN` and `COUNT_TO_MAX`. -/
def Client.next (c : Client) : Client :=
  let progression :=
    if c.countTo ≤ 10000 then 100 else if 1000000 ≤ c.countTo then -100 else c.countProgression
  { c with countTo := c.countTo + progression.toUInt32, countProgression := progression }

/-- `test_count` of the client, run by its timer: the request it sends.  `heap` is for the string's
block, `found` is whether the server's object is known.  The timer is set again only at the end. -/
def clientTestCount (c : Client) (heap : Option (ℕ → Char)) (found : Bool) :
    Client × Option Message :=
  let c := { c.next with armed := false }
  let r := countToNumber c.countTo heap
  match r.s with
  | none => (c, none)
  | some s =>
      if found then
        ({ c with armed := true }, some (countRequest c.countTo (readString s r.size.val.toNat)))
      else (c, none)

/-- The text of the numbers below `num` and its terminator have a length of 32 bits. -/
def Fits (num : UInt32) : Prop := (countText num.toNat).length + 1 < 2 ^ 32

variable {F : Finder} {msg : Message} {a b num : UInt32} {s : List Char} {mem : ℕ → Char}

/-! ## The string -/

/-- **`count_to_number` makes the text.** -/
theorem isCString_countToNumber (h : Fits num) (behind : ℕ → Char) :
    ∃ mem, (countToNumber num (some behind)).s = some mem ∧
      IsCString mem (countText num.toNat) := by
  obtain ⟨s, hfilled, hresult⟩ := countToNumber_filled num behind
  have hsize := (sizingPass_counts num.toNat).val_of_lt h
  refine ⟨s.mem, by rw [hresult], nul_not_mem_countText, hfilled.holds ?_ ?_⟩
  · rw [overlay, if_pos (by omega)]
  · unfold Fits at h
    omega

/-- **The shorter count is a proper prefix of the longer one.** -/
theorem countText_properPrefix {n n' : ℕ} (h : n < n') :
    countText n <+: countText n' ∧ countText n ≠ countText n' := by
  refine ⟨countText_mono (Nat.le_of_lt h), ?_⟩
  intro heq
  exact absurd (congrArg List.length heq) (Nat.ne_of_lt (length_countText_lt h))

lemma countText_injective : Function.Injective countText := by
  intro n n' h
  rcases Nat.lt_trichotomy n n' with hlt | heq | hgt
  · exact absurd h (countText_properPrefix hlt).2
  · exact heq
  · exact absurd h.symm (countText_properPrefix hgt).2

/-! ## The check -/

lemma ofInt_strcmp_eq_zero : UInt32.ofInt (strcmp mem 0 s) = 0 ↔ strcmp mem 0 s = 0 := by
  have hbound := abs_lt.mp (@abs_strcmp_lt mem s 0)
  constructor
  · intro h
    have hnat := congrArg UInt32.toNat h
    simp only [UInt32.ofInt, UInt32.toNat_ofNat', UInt32.toNat_zero] at hnat
    omega
  · intro h
    rw [h]
    rfl

lemma testCount_eq (hto : Says msg "to" (.int32 b)) (hstring : Says msg "string" (.string s))
    {heap : Option (ℕ → Char)} (hmem : (countToNumber b heap).s = some mem) :
    testCount F msg heap = ⟨.ok, some [⟨"rc", .int32 (UInt32.ofInt (strcmp mem 0 s))⟩]⟩ := by
  have htable : F.table msg countPolicy
      = [some ⟨"to", .int32 b⟩, some ⟨"string", .string s⟩] := by
    have h₁ := F.find_of_says hto
    have h₂ := F.find_of_says hstring
    simp only [Value.type] at h₁ h₂
    simp [Finder.table, countPolicy, h₁, h₂]
  simp only [testCount, htable, Attr.getU32, Attr.getString, hmem]

/-- The client's own request is validated. -/
theorem testCount_countRequest (F : Finder) (h : Fits num) (behind : ℕ → Char) :
    testCount F (countRequest num (countText num.toNat)) (some behind)
      = ⟨.ok, some [⟨"rc", .int32 0⟩]⟩ := by
  obtain ⟨mem, hmem, htext⟩ := isCString_countToNumber h behind
  have hto : Says (countRequest num (countText num.toNat)) "to" (.int32 num) := by
    simp [Says, countRequest, Value.type]
  have hstring : Says (countRequest num (countText num.toNat)) "string"
      (.string (countText num.toNat)) := by
    simp [Says, countRequest, Value.type]
  have hzero := (htext.strcmp_eq_zero htext.nonzero).mpr rfl
  rw [testCount_eq hto hstring hmem, ofInt_strcmp_eq_zero.mpr hzero]

/-- **The count check is exact.**  `count_to_number` makes the text of its number; the texts of
different numbers are proper prefixes of one another; and the return code for the number `b` and the
string of `a` is zero if and only if they are the same number. -/
theorem count_exact (F : Finder) :
    (∀ (num : UInt32) (behind : ℕ → Char), Fits num →
      ∃ mem, (countToNumber num (some behind)).s = some mem ∧
        IsCString mem (countText num.toNat)) ∧
    (∀ a b : UInt32, Fits a → Fits b → a < b →
      countText a.toNat <+: countText b.toNat ∧ countText a.toNat ≠ countText b.toNat) ∧
    ∀ (a b : UInt32) (behind behind' mem : ℕ → Char) (s : List Char) (msg : Message),
      Fits a → Fits b → (countToNumber a (some behind)).s = some mem → IsCString mem s →
      Says msg "to" (.int32 b) → Says msg "string" (.string s) →
      ∃ rc, testCount F msg (some behind') = ⟨.ok, some [⟨"rc", .int32 rc⟩]⟩ ∧
        (rc = 0 ↔ a = b) := by
  refine ⟨fun num behind h => isCString_countToNumber h behind, ?_, ?_⟩
  · intro a b _ _ hlt
    exact countText_properPrefix (UInt32.lt_iff_toNat_lt.mp hlt)
  · intro a b behind behind' mem s msg ha hb hmem hs hto hstring
    obtain ⟨memA, hmemA, htextA⟩ := isCString_countToNumber ha behind
    obtain ⟨memB, hmemB, htextB⟩ := isCString_countToNumber hb behind'
    have htext : s = countText a.toNat := by
      rw [hmemA, Option.some.injEq] at hmem
      subst hmem
      exact hs.unique htextA
    refine ⟨_, testCount_eq hto hstring hmemB, ?_⟩
    rw [ofInt_strcmp_eq_zero, htextB.strcmp_eq_zero hs.nonzero, htext]
    constructor
    · intro h
      exact UInt32.toNat_inj.mp (countText_injective h)
    · intro h
      rw [h]

/-- Three numbers, counted by both sides, and sent for two. -/
theorem count_exact_three :
    (∃ rc, testCount Finder.first (countRequest 3 "0 1 2 ".toList) (some fun _ => nul)
        = ⟨.ok, some [⟨"rc", .int32 rc⟩]⟩ ∧ (rc = 0 ↔ (3 : UInt32) = 3)) ∧
      ∃ rc, testCount Finder.first (countRequest 2 "0 1 2 ".toList) (some fun _ => nul)
        = ⟨.ok, some [⟨"rc", .int32 rc⟩]⟩ ∧ rc ≠ 0 := by
  have hthree : Fits 3 := fits_iff.mpr (by decide)
  have htwo : Fits 2 := fits_iff.mpr (by decide)
  have hcheck := (count_exact Finder.first).2.2
  refine ⟨hcheck 3 3 (fun _ => nul) _ _ "0 1 2 ".toList _ hthree hthree rfl
    ⟨by decide, by decide⟩ (by decide) (by decide), ?_⟩
  obtain ⟨rc, hreply, hrc⟩ := hcheck 3 2 (fun _ => nul) (fun _ => nul) _ "0 1 2 ".toList
    (countRequest 2 "0 1 2 ".toList) hthree htwo rfl ⟨by decide, by decide⟩ (by decide) (by decide)
  refine ⟨rc, hreply, fun hzero => ?_⟩
  exact absurd (hrc.mp hzero) (by decide)

end Count

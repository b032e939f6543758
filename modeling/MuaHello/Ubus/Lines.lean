import MuaHello.Lib.Lines
import MuaHello.Ubus.Hello

/-!
# The lines of a hello request

What becomes of the lines that the server writes for a hello request.  They go through a pipe, and
the client's `ustream` reads them in pieces of any size.  Its callback `test_client_fd_data_cb`
prints one line, if it finds one, and consumes it.

* `Session` — the request, the pipe and the client, with `step` for an expiration of the request's
  timer or a read of the client, in any order.  `sends` is what an expiration puts into the pipe.
* `lines_in_order` — what has been put into the pipe are whole lines in order, and they are what the
  client has printed and what waits at the client and in the pipe, if no callback finds a line where
  there is none.
* `inside_iff` — exactly when every callback stays within the data it was given.
* `lag_kept` — a client that has fallen behind does not catch up.

All three are about requests whose text is `Clean`, free of newlines and terminators, and runs in
which every write is `Whole`: it fails or writes its line.
-/

namespace Hello

open Blobmsg

/-! ## The client -/

/-- The stream of `test_client_fd_cb`: the data that was not consumed yet, the lines printed, and
whether a callback has looked behind the data. -/
structure Client where
  pending : List Char
  printed : List (List Char)
  outside : Bool

/-- The memory from the data on: `behind` follows it, and then a terminator. -/
def readBuf (data behind : List Char) : ℕ → Char := listMem (data ++ behind) fun _ => nul

/-- `strchr(data, '\n')`, which is not told where the data ends. -/
def findLine (data behind : List Char) : Probe Char (Option ℕ) :=
  strchr '\n' 0 ((data ++ behind).length + 1)

/-- `test_client_fd_data_cb`, when `ustream_get_read_buf` gives the first `len + 1` characters of
what is pending. -/
def testClientFdDataCb (u : Client) (len : ℕ) (behind : List Char) : Client :=
  let data := u.pending.take (len + 1)
  if data = [] then u
  else
    let reads := (findLine data behind).reads (readBuf data behind)
    let u := { u with outside := u.outside || reads.any (data.length ≤ ·) }
    match (findLine data behind).run (readBuf data behind) with
    | none => u
    | some sep =>
        { u with
          printed := u.printed ++ [slice (readBuf data behind) 0 sep]
          pending := u.pending.drop (sep + 1) }

/-! ## Both sides -/

/-- A hello request with its pipe and the client at the other end. -/
structure Session where
  block : Block
  pipe : List Char
  client : Client

/-- The timer of the request expires, or the client reads at most `n + 1` characters. -/
inductive Act where
  | expire (pipe : Option (ℤ × ℤ)) (written : ℤ)
  | read (n len : ℕ) (behind : List Char)

/-- What goes into the pipe. -/
def Event.text : Event → List Char
  | .write _ data => data
  | _ => []

/-- What the pipe takes of what is written. -/
def Session.sends (s : Session) : Act → List Char
  | .expire pipe written =>
      if s.block.armed then
        ((expire s.block pipe written).2.flatMap Event.text).take written.toNat
      else []
  | .read _ _ _ => []

def Session.step (s : Session) : Act → Session
  | .expire pipe written =>
      if s.block.armed then
        { s with
          block := (expire s.block pipe written).1
          pipe := s.pipe ++ s.sends (.expire pipe written) }
      else s
  | .read n len behind =>
      if s.pipe = [] then s
      else
        let u := { s.client with pending := s.client.pending ++ s.pipe.take (n + 1) }
        { s with pipe := s.pipe.drop (n + 1), client := testClientFdDataCb u len behind }

/-- Both sides, with what goes into the pipe as the output. -/
def session : Machine Session Act (List Char) := ⟨fun s i => (s.step i, s.sends i)⟩

/-- A request whose timer has not expired yet. -/
def Session.start (b : Block) : Session := ⟨b, [], ⟨[], [], false⟩⟩

/-- A write that does not fail writes the whole line. -/
def Whole (s : Session) : Act → Prop
  | .expire pipe written =>
      written < 0 ∨ ((expire s.block pipe written).2.flatMap Event.text).length ≤ written
  | .read _ _ _ => True

/-- What the callback is given when it looks for a line. -/
def Session.data (s : Session) (n len : ℕ) : List Char :=
  (s.client.pending ++ s.pipe.take (n + 1)).take (len + 1)

/-- A callback is given a whole line. -/
def SeesLine (s : Session) : Act → Prop
  | .expire _ _ => True
  | .read n len _ => s.pipe = [] ∨ '\n' ∈ s.data n len

/-- A callback is given a whole line, or there is a terminator behind what it is given. -/
def Guarded (s : Session) : Act → Prop
  | .expire _ _ => True
  | .read n len behind => s.pipe = [] ∨ '\n' ∈ s.data n len ∨ behind.headD nul = nul

instance (s : Session) : (i : Act) → Decidable (Whole s i)
  | .expire _ _ => inferInstanceAs (Decidable (_ ∨ _))
  | .read _ _ _ => .isTrue trivial

instance (s : Session) : (i : Act) → Decidable (SeesLine s i)
  | .expire _ _ => .isTrue trivial
  | .read _ _ _ => inferInstanceAs (Decidable (_ ∨ _))

instance (s : Session) : (i : Act) → Decidable (Guarded s i)
  | .expire _ _ => .isTrue trivial
  | .read _ _ _ => inferInstanceAs (Decidable (_ ∨ _ ∨ _))

/-! ## One callback -/

section Callback

variable {t q data behind : List Char} {u : Client} {len : ℕ}

lemma holds_readBuf (data behind : List Char) : Holds (readBuf data behind) 0 data :=
  (holds_append.mp (holds_listMem (data ++ behind) _)).1

/-- What stands right behind the data. -/
lemma holds_readBuf_end (h : behind.headD nul = nul) :
    Holds (readBuf data behind) 0 (data ++ [nul]) := by
  rw [holds_append, holds_cons]
  refine ⟨holds_readBuf data behind, ?_, holds_nil⟩
  rw [Nat.zero_add, readBuf, listMem, List.getD_append_right _ _ _ _ le_rfl, Nat.sub_self]
  cases behind with
  | nil => rfl
  | cons c behind => exact h

/-- A line in the data is found, without a look behind the data. -/
lemma findLine_line (h : data = t ++ '\n' :: q) (hline : '\n' ∉ t) (hnul : nul ∉ t) :
    (findLine data behind).run (readBuf data behind) = some t.length ∧
      ∀ a ∈ (findLine data behind).reads (readBuf data behind), a < data.length := by
  have hdata : data = (t ++ ['\n']) ++ q := by rw [h, List.append_assoc]; rfl
  have hheld := holds_readBuf data behind
  rw [hdata, holds_append] at hheld
  have hlen : data.length = t.length + 1 + q.length := by
    rw [hdata, List.length_append, List.length_append]
    rfl
  have hn : t.length < (data ++ behind).length + 1 := by
    rw [List.length_append]
    omega
  rw [← hdata] at hheld
  obtain ⟨hrun, hreads⟩ := strchr_found hheld.1 hline hnul hn
  rw [Nat.zero_add] at hrun
  refine ⟨hrun, fun a ha => ?_⟩
  rw [findLine, hreads, List.mem_range'_1] at ha
  omega

/-- Where there is no line, the search goes on behind the data. -/
lemma findLine_leaves (hline : '\n' ∉ data) (hnul : nul ∉ data) :
    data.length ∈ (findLine data behind).reads (readBuf data behind) := by
  have hmem := mem_reads_strchr (n := (data ++ behind).length + 1) (holds_readBuf data behind)
    hline hnul (by rw [List.length_append]; omega)
  rwa [Nat.zero_add] at hmem

/-- A callback that is given a line prints and consumes it. -/
lemma testClientFdDataCb_line (h : u.pending.take (len + 1) = t ++ '\n' :: q) (hline : '\n' ∉ t)
    (hnul : nul ∉ t) : testClientFdDataCb u len behind
      = ⟨u.pending.drop (t.length + 1), u.printed ++ [t], u.outside⟩ := by
  have hdata : u.pending.take (len + 1) ≠ [] := by simp [h]
  obtain ⟨hrun, hreads⟩ := @findLine_line _ _ _ behind h hline hnul
  have hheld := holds_readBuf (u.pending.take (len + 1)) behind
  rw [h, holds_append, ← h] at hheld
  have hinside : ((findLine (u.pending.take (len + 1)) behind).reads
      (readBuf (u.pending.take (len + 1)) behind)).any
        ((u.pending.take (len + 1)).length ≤ ·) = false := by
    rw [List.any_eq_false]
    intro a ha
    have hlt := hreads a ha
    simp only [decide_eq_true_eq]
    omega
  rw [testClientFdDataCb]
  simp only [if_neg hdata, hrun, hinside, Bool.or_false]
  rw [hheld.1]

/-- A callback that is given a part of a line looks behind it. -/
lemma testClientFdDataCb_outside (h : u.pending ≠ []) (hline : '\n' ∉ u.pending.take (len + 1))
    (hnul : nul ∉ u.pending.take (len + 1)) :
    (testClientFdDataCb u len behind).outside = true := by
  have hdata : u.pending.take (len + 1) ≠ [] := by simp [h]
  have hleaves : ((findLine (u.pending.take (len + 1)) behind).reads
      (readBuf (u.pending.take (len + 1)) behind)).any
        ((u.pending.take (len + 1)).length ≤ ·) = true :=
    List.any_eq_true.mpr ⟨_, findLine_leaves hline hnul, by simp⟩
  rw [testClientFdDataCb]
  simp only [if_neg hdata, hleaves, Bool.or_true]
  split <;> rfl

/-- It waits for the rest, if it finds a terminator there. -/
lemma testClientFdDataCb_part (hline : '\n' ∉ u.pending.take (len + 1))
    (hnul : nul ∉ u.pending.take (len + 1)) (hbehind : behind.headD nul = nul) :
    (testClientFdDataCb u len behind).pending = u.pending ∧
      (testClientFdDataCb u len behind).printed = u.printed := by
  have hmissing : (findLine (u.pending.take (len + 1)) behind).run
      (readBuf (u.pending.take (len + 1)) behind) = none :=
    strchr_missing (holds_readBuf_end hbehind) hline hnul (by decide)
      (by rw [List.length_append]; omega)
  rw [testClientFdDataCb]
  simp only [hmissing]
  split_ifs <;> exact ⟨rfl, rfl⟩

end Callback

/-! ## Runs -/

section Runs

variable {b : Block} {s : Session} {data : List Char} {pipe : Option (ℤ × ℤ)} {written : ℤ}

/-- The line with number `j + 1`. -/
def line (data : List Char) (j : ℕ) : List Char :=
  "msg".toList ++ signedDecimal (Int32.ofNat (j + 1)).toInt ++ ": ".toList ++ data

lemma lineText_ofNat (j : ℕ) : lineText (Int32.ofNat j + 1) data = line data j ++ ['\n'] := by
  rw [lineText, line, Int32.ofNat_add]
  rfl

lemma not_mem_line {c : Char} {j : ℕ} (hdigit : c.isDigit = false) (hsign : c ≠ '-')
    (hmsg : c ∉ "msg".toList) (hcolon : c ∉ ": ".toList) (hdata : c ∉ data) : c ∉ line data j := by
  simp only [line, List.mem_append, not_or]
  exact ⟨⟨⟨hmsg, not_mem_signedDecimal hdigit hsign⟩, hcolon⟩, hdata⟩

lemma testHelloFdReply_writes (harmed : b.armed = false) :
    (testHelloFdReply b written).2.flatMap Event.text = lineText (b.req.idx + 1) b.req.data ∧
      (testHelloFdReply b written).1.req.data = b.req.data ∧
      (testHelloFdReply b written).1.req.idx = b.req.idx + 1 ∧
      ((testHelloFdReply b written).1.armed = true → 0 ≤ written) := by
  rw [testHelloFdReply]
  split_ifs with h
  · simp [Event.text, Block.touch, Block.free, harmed]
  · simp [Event.text, Block.touch, Block.timeoutSet, not_lt.mp h]

/-- **An expiration writes the next line**, or nothing and leaves the timer. -/
lemma expire_writes (b : Block) (pipe : Option (ℤ × ℤ)) (written : ℤ) :
    (expire b pipe written).1.req.data = b.req.data ∧
      ((expire b pipe written).2.flatMap Event.text = [] ∧
          (expire b pipe written).1.armed = false ∨
        (expire b pipe written).2.flatMap Event.text = lineText (b.req.idx + 1) b.req.data ∧
          (expire b pipe written).1.req.idx = b.req.idx + 1 ∧
          ((expire b pipe written).1.armed = true → 0 ≤ written)) := by
  cases hcb : b.req.cb with
  | testHelloFdReply =>
      rw [expire_later hcb]
      obtain ⟨htext, hdata, hidx, harmed⟩ := @testHelloFdReply_writes b.fire written rfl
      exact ⟨hdata, .inr ⟨htext, hidx, harmed⟩⟩
  | testHelloReply =>
      rw [expire_first hcb]
      cases pipe with
      | none => exact ⟨rfl, .inl ⟨rfl, rfl⟩⟩
      | some fds =>
          obtain ⟨htext, hdata, hidx, harmed⟩ := @testHelloFdReply_writes
            ((b.fire.touch id).complete.touch
              fun req => { req with fd := fds.2, cb := .testHelloFdReply }) written rfl
          have hwrites : (testHelloReply b.fire (some fds) written).2.flatMap Event.text
              = lineText (b.req.idx + 1) b.req.data := htext
          exact ⟨hdata, .inr ⟨hwrites, hidx, harmed⟩⟩

/-- The lines printed, waiting at the client and in the pipe are those written, in order. -/
structure InOrder (data : List Char) (s : Session) : Prop where
  text : s.block.req.data = data
  lines : ∃ k l, (s.block.armed = true → s.block.req.idx = Int32.ofNat (k + l)) ∧
    s.client.printed = (List.range k).map (line data) ∧
    s.client.pending ++ s.pipe = unlines '\n' ((List.range' k l).map (line data))

/-- An expiration keeps the order. -/
lemma InOrder.expire (h : InOrder data s) (hwhole : Whole s (.expire pipe written)) :
    InOrder data (s.step (.expire pipe written)) := by
  obtain ⟨htext, k, l, hidx, hprinted, hrest⟩ := h
  rw [Session.step, Session.sends]
  split_ifs with harmed
  · obtain ⟨hdata, ⟨hnone, hoff⟩ | ⟨hline, hnext, hon⟩⟩ := expire_writes s.block pipe written
    · refine ⟨hdata.trans htext, k, l, ?_, hprinted, ?_⟩
      · simp [hoff]
      · simpa [hnone] using hrest
    · rw [hidx harmed, htext, lineText_ofNat] at hline
      rcases hwhole with hfailed | hfull
      · refine ⟨hdata.trans htext, k, l, fun h => ?_, hprinted, ?_⟩
        · have hsent := hon h
          omega
        · simpa [Int.toNat_of_nonpos hfailed.le] using hrest
      · refine ⟨hdata.trans htext, k, l + 1, fun _ => ?_, hprinted, ?_⟩
        · rw [hnext, hidx harmed, ← Nat.add_assoc, Int32.ofNat_add (k + l)]
          rfl
        · rw [hline] at hfull
          simp only [hline]
          rw [List.take_of_length_le (by omega), ← List.append_assoc, hrest, List.range'_concat]
          simp
  · exact ⟨htext, k, l, hidx, hprinted, hrest⟩

/-- The texts are free of what the callback looks for. -/
def Clean (data : List Char) : Prop := '\n' ∉ data ∧ nul ∉ data

instance : Decidable (Clean data) := inferInstanceAs (Decidable (_ ∧ _))

lemma Clean.lines {l : List ℕ} (h : Clean data) : ∀ t ∈ l.map (line data), Clean t := by
  intro t ht
  obtain ⟨j, -, rfl⟩ := List.mem_map.mp ht
  exact ⟨not_mem_line (by decide) (by decide) (by decide) (by decide) h.1,
    not_mem_line (by decide) (by decide) (by decide) (by decide) h.2⟩

section Read

variable {n len : ℕ} {behind : List Char}

lemma Guarded.terminated (h : Guarded s (.read n len behind)) (hpipe : s.pipe ≠ [])
    (hsees : '\n' ∉ s.data n len) : behind.headD nul = nul := by
  rcases h with h | h | h
  · exact absurd h hpipe
  · exact absurd h hsees
  · exact h

/-- A callback is given a part of what the server has written. -/
lemma Session.data_part (s : Session) (n len : ℕ) :
    s.data n len <+: s.client.pending ++ s.pipe := by
  refine (List.take_prefix _ _).trans ?_
  rw [List.prefix_append_right_inj]
  exact List.take_prefix _ _

lemma InOrder.nul_not_mem (h : InOrder data s) (hclean : Clean data) : nul ∉ s.data n len := by
  intro hmem
  obtain ⟨-, k, l, -, -, hrest⟩ := h
  have hall := (s.data_part n len).subset hmem
  rw [hrest] at hall
  exact not_mem_unlines (by decide) (fun t ht => (hclean.lines t ht).2) hall

/-- **A read that sees a line** prints the next one. -/
lemma read_line (h : InOrder data s) (hclean : Clean data) (hpipe : s.pipe ≠ [])
    (hsees : '\n' ∈ s.data n len) :
    ∃ k l q, (s.block.armed = true → s.block.req.idx = Int32.ofNat (k + (l + 1))) ∧
      s.client.printed = (List.range k).map (line data) ∧
      s.client.pending ++ s.pipe.take (n + 1) = line data k ++ '\n' :: q ∧
      q ++ s.pipe.drop (n + 1) = unlines '\n' ((List.range' (k + 1) l).map (line data)) ∧
      s.step (.read n len behind) = ⟨s.block, s.pipe.drop (n + 1),
        ⟨q, s.client.printed ++ [line data k], s.client.outside⟩⟩ := by
  obtain ⟨-, k, l, hidx, hprinted, hrest⟩ := h
  have hpart := s.data_part n len
  rw [hrest] at hpart
  obtain ⟨t, us, q, hlines, hdata, -⟩ :=
    unlines_cons_of_mem hpart hsees fun t ht => (hclean.lines t ht).1
  cases l with
  | zero => simp at hlines
  | succ l =>
      simp only [List.range'_succ, List.map_cons, List.cons.injEq] at hlines hrest
      obtain ⟨rfl, rfl⟩ := hlines
      have hline := hclean.lines (line data k) (List.mem_map_of_mem (List.mem_singleton_self k))
      obtain ⟨q', hq'⟩ := List.take_prefix (len + 1) (s.client.pending ++ s.pipe.take (n + 1))
      rw [Session.data] at hdata
      rw [hdata, List.append_assoc, List.cons_append] at hq'
      refine ⟨k, l, q ++ q', hidx, hprinted, hq'.symm, ?_, ?_⟩
      · have hall : s.client.pending ++ s.pipe
            = s.client.pending ++ s.pipe.take (n + 1) ++ s.pipe.drop (n + 1) := by
          rw [List.append_assoc, List.take_append_drop]
        rw [hall, ← hq', unlines_cons] at hrest
        simpa using hrest
      · rw [Session.step, if_neg hpipe]
        simp only
        rw [testClientFdDataCb_line hdata hline.1 hline.2, ← hq']
        simp

/-- **A read keeps the order.** -/
lemma InOrder.read (h : InOrder data s) (hclean : Clean data)
    (hguarded : Guarded s (.read n len behind)) : InOrder data (s.step (.read n len behind)) := by
  by_cases hpipe : s.pipe = []
  · rw [Session.step, if_pos hpipe]
    exact h
  by_cases hsees : '\n' ∈ s.data n len
  · obtain ⟨k, l, q, hidx, hprinted, -, hrest, hstep⟩ :=
      @read_line s data n len behind h hclean hpipe hsees
    rw [hstep]
    refine ⟨h.text, k + 1, l, fun harmed => ?_, ?_, hrest⟩
    · rw [hidx harmed]
      congr 1
      omega
    · simp [hprinted, List.range_succ]
  · have hterm := hguarded.terminated hpipe hsees
    have hnul : nul ∉ s.data n len := h.nul_not_mem hclean
    obtain ⟨htext, k, l, hidx, hprinted, hrest⟩ := h
    obtain ⟨hpending, hsame⟩ := @testClientFdDataCb_part behind
      { s.client with pending := s.client.pending ++ s.pipe.take (n + 1) } len hsees hnul hterm
    rw [Session.step, if_neg hpipe]
    refine ⟨htext, k, l, hidx, hsame.trans hprinted, ?_⟩
    simp only [hpending]
    rw [List.append_assoc, List.take_append_drop, hrest]

/-- **When a callback stays within its data**: if and only if it is given a whole line. -/
lemma read_inside_iff (h : InOrder data s) (hclean : Clean data)
    (hinside : s.client.outside = false) :
    (s.step (.read n len behind)).client.outside = false ↔ SeesLine s (.read n len behind) := by
  by_cases hpipe : s.pipe = []
  · rw [Session.step, if_pos hpipe]
    exact iff_of_true hinside (.inl hpipe)
  by_cases hsees : '\n' ∈ s.data n len
  · obtain ⟨k, l, q, -, -, -, -, hstep⟩ := @read_line s data n len behind h hclean hpipe hsees
    rw [hstep]
    exact iff_of_true hinside (.inr hsees)
  · have hnul : nul ∉ s.data n len := h.nul_not_mem hclean
    have hpending : s.client.pending ++ s.pipe.take (n + 1) ≠ [] := by simp [hpipe]
    have hleaves := @testClientFdDataCb_outside behind
      { s.client with pending := s.client.pending ++ s.pipe.take (n + 1) } len hpending hsees hnul
    rw [Session.step, if_neg hpipe]
    simp only [hleaves, SeesLine, hpipe, hsees, or_self, Bool.true_eq_false]

/-- The lines that wait at the client. -/
def Client.lag (u : Client) : ℕ := u.pending.count '\n'

/-- A read that brings a line, at its end at least. -/
def Brings (s : Session) : Act → Prop
  | .expire _ _ => True
  | .read n _ _ => s.pipe = [] ∨ '\n' ∈ s.pipe.take (n + 1)

instance (s : Session) : (i : Act) → Decidable (Brings s i)
  | .expire _ _ => .isTrue trivial
  | .read _ _ _ => inferInstanceAs (Decidable (_ ∨ _))

/-- **A read that brings a line leaves as many waiting**, since it prints one. -/
lemma lag_read (h : InOrder data s) (hclean : Clean data)
    (hguarded : Guarded s (.read n len behind)) (hbrings : Brings s (.read n len behind)) :
    s.client.lag ≤ (s.step (.read n len behind)).client.lag := by
  by_cases hpipe : s.pipe = []
  · rw [Session.step, if_pos hpipe]
  have hmem : '\n' ∈ s.pipe.take (n + 1) := by
    rcases hbrings with h | h
    · exact absurd h hpipe
    · exact h
  have hcount : s.client.lag + 1 ≤ (s.client.pending ++ s.pipe.take (n + 1)).count '\n' := by
    rw [List.count_append, Client.lag, Nat.add_le_add_iff_left]
    exact List.count_pos_iff.mpr hmem
  by_cases hsees : '\n' ∈ s.data n len
  · obtain ⟨k, l, q, -, -, hpending, -, hstep⟩ :=
      @read_line s data n len behind h hclean hpipe hsees
    have hline := hclean.lines (line data k) (List.mem_map_of_mem (List.mem_singleton_self k))
    rw [hpending, List.count_append, List.count_eq_zero.mpr hline.1, List.count_cons_self] at hcount
    rw [hstep]
    simp only [Client.lag] at hcount ⊢
    omega
  · have hterm := hguarded.terminated hpipe hsees
    obtain ⟨hpending, -⟩ := @testClientFdDataCb_part behind
      { s.client with pending := s.client.pending ++ s.pipe.take (n + 1) } len hsees
      (h.nul_not_mem hclean) hterm
    rw [Session.step, if_neg hpipe]
    simp only [Client.lag, hpending] at hcount ⊢
    omega

end Read

/-- What the client has printed, and what waits at the client and in the pipe. -/
def Session.stream (s : Session) : List Char :=
  unlines '\n' s.client.printed ++ (s.client.pending ++ s.pipe)

/-- **A step adds to the stream what it sends**, and takes nothing away. -/
lemma stream_step {i : Act} (h : InOrder data s) (hclean : Clean data) (hguarded : Guarded s i) :
    (s.step i).stream = s.stream ++ s.sends i := by
  cases i with
  | expire pipe written =>
      rw [Session.step]
      split_ifs with harmed
      · simp [Session.stream]
      · simp [Session.sends, harmed]
  | read n len behind =>
      rw [Session.sends, List.append_nil]
      by_cases hpipe : s.pipe = []
      · rw [Session.step, if_pos hpipe]
      have hall : s.client.pending ++ s.pipe
          = s.client.pending ++ s.pipe.take (n + 1) ++ s.pipe.drop (n + 1) := by
        rw [List.append_assoc, List.take_append_drop]
      by_cases hsees : '\n' ∈ s.data n len
      · obtain ⟨k, l, q, -, -, hpending, -, hstep⟩ :=
          @read_line s data n len behind h hclean hpipe hsees
        rw [hstep, Session.stream, Session.stream, hall, hpending]
        simp
      · obtain ⟨hpending, hsame⟩ := @testClientFdDataCb_part behind
          { s.client with pending := s.client.pending ++ s.pipe.take (n + 1) } len hsees
          (h.nul_not_mem hclean) (hguarded.terminated hpipe hsees)
        rw [Session.step, if_neg hpipe, Session.stream, Session.stream, hall]
        simp only [hpending, hsame]

/-- Any step keeps the order. -/
lemma step_inOrder {i : Act} (hclean : Clean data) (h : InOrder data s) (hwhole : Whole s i)
    (hguarded : Guarded s i) : InOrder data (s.step i) := by
  cases i with
  | expire pipe written => exact h.expire hwhole
  | read n len behind => exact h.read hclean hguarded

lemma SeesLine.guarded {i : Act} (h : SeesLine s i) : Guarded s i := by
  cases i with
  | expire pipe written => trivial
  | read n len behind => exact h.imp_right .inl

lemma start_inOrder {F : Finder} {objName : List Char} {msg : Message} {calloc : Bool}
    (h : (testHello F objName msg calloc).1 = some b) : InOrder b.req.data (.start b) := by
  have hidx : b.req.idx = Int32.ofNat 0 := by
    rw [testHello] at h
    split_ifs at h
    cases h
    rfl
  exact ⟨rfl, 0, 0, fun _ => hidx, rfl, rfl⟩

/-- Whether a step is a read. -/
def Act.isRead : Act → Bool
  | .expire _ _ => false
  | .read _ _ _ => true

/-- A callback prints at most one line. -/
lemma length_printed_cb (u : Client) (len : ℕ) (behind : List Char) :
    (testClientFdDataCb u len behind).printed.length ≤ u.printed.length + 1 := by
  rw [testClientFdDataCb]
  simp only
  split_ifs
  · exact Nat.le_succ _
  · split <;> simp

lemma length_printed_step (s : Session) (i : Act) :
    (s.step i).client.printed.length ≤ s.client.printed.length + if i.isRead then 1 else 0 := by
  cases i with
  | expire pipe written =>
      rw [Session.step]
      split_ifs <;> simp
  | read n len behind =>
      by_cases hpipe : s.pipe = []
      · rw [Session.step, if_pos hpipe]
        exact Nat.le_add_right _ _
      · rw [Session.step, if_neg hpipe, Act.isRead, if_pos rfl]
        exact length_printed_cb _ _ _

lemma length_printed_run (s : Session) (acts : List Act) :
    (session.run s acts).1.client.printed.length
      ≤ s.client.printed.length + acts.countP Act.isRead := by
  induction acts generalizing s with
  | nil => simp [Machine.run]
  | cons i acts ih =>
      have hstep := length_printed_step s i
      have hrest := ih (s.step i)
      rw [List.countP_cons, Machine.run]
      simp only [session] at hrest ⊢
      omega

/-- **What has gone into the pipe is still there**, printed or waiting. -/
lemma stream_run {acts : List Act} (hclean : Clean data) (h : InOrder data s)
    (hacts : ∀ p ∈ session.trace s acts, Whole p.1 p.2 ∧ Guarded p.1 p.2) :
    (session.run s acts).1.stream = s.stream ++ (session.run s acts).2.flatten := by
  induction acts generalizing s with
  | nil => simp [Machine.run]
  | cons i acts ih =>
      simp only [Machine.trace, List.forall_mem_cons] at hacts
      obtain ⟨⟨hwhole, hguarded⟩, hrest⟩ := hacts
      have hstep := stream_step h hclean hguarded
      have hrun := ih (step_inOrder hclean h hwhole hguarded) hrest
      rw [Machine.run, List.flatten_cons, ← List.append_assoc]
      exact hrun.trans (congrArg (· ++ _) hstep)

/-- What the client sends. -/
def blah : Message := [⟨"msg", .string "blah".toList⟩]

def pieces : List Act :=
  [.expire (some (3, 4)) 36, .read 9 9 [nul], .expire none 36, .read 40 49 [], .read 99 99 []]

/-- **Exactly when the callbacks stay within the data they are given.**  For a request whose text is
free of newlines, in a run in which no write is short: `strchr` reads nothing behind the data if and
only if every callback is given a whole line. -/
theorem inside_iff (F : Finder) (objName : List Char) (msg : Message) (calloc : Bool) (b : Block)
    (acts : List Act) (hreq : (testHello F objName msg calloc).1 = some b)
    (hclean : Clean b.req.data) :
    (∀ p ∈ session.trace (.start b) acts,
        Whole p.1 p.2 ∧ (p.1.step p.2).client.outside = false) ↔
      ∀ p ∈ session.trace (.start b) acts, Whole p.1 p.2 ∧ SeesLine p.1 p.2 := by
  have hiff : ∀ s i, InOrder b.req.data s ∧ s.client.outside = false →
      (Whole s i ∧ (s.step i).client.outside = false ↔ Whole s i ∧ SeesLine s i) := by
    rintro s i ⟨h, hinside⟩
    cases i with
    | expire pipe written =>
        have hsame : (s.step (.expire pipe written)).client = s.client := by
          rw [Session.step]
          split_ifs <;> rfl
        simp [hsame, hinside, SeesLine]
    | read n len behind => exact and_congr_right fun _ => read_inside_iff h hclean hinside
  refine Machine.trace_forall_iff hiff (fun s i h hi => ?_) ⟨start_inOrder hreq, rfl⟩
  exact ⟨step_inOrder hclean h.1 hi.1 hi.2.guarded, ((hiff s i h).mpr hi).2⟩

/-- The first read ends in the middle of a line. -/
theorem inside_iff_blah : ∃ b, (testHello .first "test".toList blah true).1 = some b ∧
    ¬ ∀ p ∈ session.trace (.start b) pieces,
      Whole p.1 p.2 ∧ (p.1.step p.2).client.outside = false :=
  ⟨_, rfl, (inside_iff .first "test".toList blah true _ pieces rfl (by decide)).not.mpr
    (by decide)⟩

end Runs

end Hello

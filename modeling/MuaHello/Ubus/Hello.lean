import MuaHello.Lib.Machine
import MuaHello.Lib.Text
import MuaHello.Ubus.Blobmsg

/-!
# Hello requests

`test_hello` allocates a `struct hello_request`, defers the caller's request in it and arms its
timer.  The first expiration sends the message, opens a pipe, completes the deferred request and
changes the timer's callback; every later one writes a line to the pipe until a write fails, which
frees the request.

* `Block` — the memory of one request with what is counted about it.  Every operation on it is a
  `touch`, which notices an access to freed memory.
* `testHelloFdReply`, `testHelloReply`, `testHello` — the callbacks and the method.
* `machine` — calls and expirations in any order, for any number of requests.
* `texts_fit` — what is formatted fits the memory got for it.
* `settled_iff` — every request is armed or freed, freed once, left alone afterwards and answered
  exactly when no first expiration meets a failing `pipe`, which returns without doing either.

uloop takes a timer off its list when it runs its callback, and the calls of libubus succeed.
-/

namespace Hello

open Blobmsg

/-- The functions a request's timer can call. -/
inductive Callback where
  | testHelloReply | testHelloFdReply
  deriving DecidableEq

/-- `struct hello_request`; the callback is that of its timer. -/
structure HelloRequest where
  cb : Callback
  fd : ℤ
  idx : Int32
  data : List Char

/-- The memory of a request: whether its timer is armed, how often it was freed, whether it was
used after that, and how often its deferred request was completed. -/
structure Block where
  req : HelloRequest
  armed : Bool
  frees : ℕ
  stale : Bool
  completions : ℕ

/-- What the server does besides: texts it formats, with the room for them, and what goes to ubus,
the pipe and stderr. -/
inductive Event where
  | sprintf (room : ℕ) (text : List Char)
  | returned (status : UbusStatus)
  | deferRequest
  | sendReply (msg : Message)
  | requestSetFd (fd : ℤ)
  | completeDeferredRequest (status : UbusStatus)
  | write (fd : ℤ) (data : List Char)
  | close (fd : ℤ)
  | stderr (text : String)

namespace Block

/-- An access to the request. -/
def touch (b : Block) (f : HelloRequest → HelloRequest) : Block :=
  { b with req := f b.req, stale := b.stale || decide (0 < b.frees) }

/-- `uloop_timeout_set(&req->timeout, …)` -/
def timeoutSet (b : Block) : Block := { b.touch id with armed := true }

/-- uloop takes the timer off its list. -/
def fire (b : Block) : Block := { b.touch id with armed := false }

/-- `ubus_complete_deferred_request(ctx, &req->req, …)` -/
def complete (b : Block) : Block := { b.touch id with completions := b.completions + 1 }

/-- `free(req)` -/
def free (b : Block) : Block := { b with frees := b.frees + 1 }

end Block

/-! ## The functions of the server -/

/-- `"msg%d: %s\n"` -/
def lineText (idx : Int32) (data : List Char) : List Char :=
  "msg".toList ++ signedDecimal idx.toInt ++ ": ".toList ++ data ++ ['\n']

/-- `test_hello_fd_reply`, by the result of `write`. -/
def testHelloFdReply (b : Block) (written : ℤ) : Block × List Event :=
  let b := b.touch fun req => { req with idx := req.idx + 1 }
  let room := b.req.data.length + 32
  let data := lineText b.req.idx b.req.data
  let out := [.sprintf room data, .write b.req.fd data]
  if written < 0 then (b.free, out ++ [.close b.req.fd]) else (b.timeoutSet, out)

/-- `test_hello_reply`, by the descriptors of `pipe` and the result of `write`. -/
def testHelloReply (b : Block) (pipe : Option (ℤ × ℤ)) (written : ℤ) : Block × List Event :=
  let b := b.touch id
  let reply := .sendReply [⟨"message", .string b.req.data⟩]
  match pipe with
  | none => (b, [reply, .stderr "Failed to create pipe\n"])
  | some (fd₀, fd₁) =>
      let b := b.complete.touch fun req => { req with fd := fd₁, cb := .testHelloFdReply }
      let r := testHelloFdReply b written
      (r.1, [reply, .requestSetFd fd₀, .completeDeferredRequest .ok] ++ r.2)

/-- uloop runs the callback of an expired timer. -/
def expire (b : Block) (pipe : Option (ℤ × ℤ)) (written : ℤ) : Block × List Event :=
  let b := b.fire
  match b.req.cb with
  | .testHelloReply => testHelloReply b pipe written
  | .testHelloFdReply => testHelloFdReply b written

/-- `hello_policy` -/
def helloPolicy : List Policy := [⟨"id", .int32⟩, ⟨"msg", .string⟩]

def format : List Char := "%s received a message: %s".toList

/-- The text of `format`. -/
def helloText (objName msgstr : List Char) : List Char :=
  objName ++ " received a message: ".toList ++ msgstr

/-- `test_hello`, by whether `calloc` succeeds. -/
def testHello (F : Finder) (objName : List Char) (msg : Message) (calloc : Bool) :
    Option Block × List Event :=
  let msgstr :=
    match F.table msg helloPolicy with
    | [_, some m] => m.getString
    | _ => "(unknown)".toList
  let room := format.length + objName.length + msgstr.length + 1
  let data := helloText objName msgstr
  if calloc then
    (some
      { req := { cb := .testHelloReply, fd := 0, idx := 0, data := data }
        armed := true, frees := 0, stale := false, completions := 0 },
      [.sprintf room data, .deferRequest, .returned .ok])
  else (none, [.returned .unknownError])

/-! ## Runs -/

/-- What happens to the server between two callbacks. -/
inductive Input where
  | hello (msg : Message) (calloc : Bool)
  | expire (r : ℕ) (pipe : Option (ℤ × ℤ)) (written : ℤ)

/-- The requests ever allocated, after one more call or expiration.  A timer that is not armed does
not expire. -/
def step (F : Finder) (w : List Block) : Input → List Block × List Event
  | .hello msg calloc =>
      let r := testHello F "test".toList msg calloc
      (w ++ r.1.toList, r.2)
  | .expire r pipe written =>
      match w[r]? with
      | none => (w, [])
      | some b =>
          if b.armed then
            let r' := expire b pipe written
            (w.set r r'.1, r'.2)
          else (w, [])

def machine (F : Finder) : Machine (List Block) Input (List Event) := ⟨step F⟩

/-! ## Obligations -/

/-- The request is armed or has been freed once, nothing has used it since, and it has been answered
once when it is no longer armed. -/
structure Settled (b : Block) : Prop where
  owned : b.armed = true ∧ b.frees = 0 ∨ b.armed = false ∧ b.frees = 1
  fresh : b.stale = false
  answered : b.armed = false → b.completions = 1

/-- A settled request, with its stage told by the callback. -/
structure Good (b : Block) : Prop where
  owned : b.armed = true ∧ b.frees = 0 ∨ b.armed = false ∧ b.frees = 1
  fresh : b.stale = false
  stage : b.completions = if b.req.cb = .testHelloReply then 0 else 1
  done : b.armed = false → b.req.cb = .testHelloFdReply

variable {F : Finder} {w : List Block} {b : Block} {i : Input} {r : ℕ}
variable {pipe : Option (ℤ × ℤ)} {written : ℤ}

lemma Good.settled (h : Good b) : Settled b where
  owned := h.owned
  fresh := h.fresh
  answered := by
    intro hdone
    simp [h.stage, h.done hdone]

lemma Good.frees (h : Good b) (harmed : b.armed = true) : b.frees = 0 := by
  rcases h.owned with h | h
  · exact h.2
  · rw [harmed] at h
    exact absurd h.1 (by simp)

lemma testHello_good {name : List Char} {msg : Message} {calloc : Bool}
    (h : b ∈ (testHello F name msg calloc).1.toList) : Good b := by
  cases calloc with
  | false => simp [testHello] at h
  | true =>
      simp only [testHello, if_true, Option.toList_some, List.mem_singleton] at h
      rw [h]
      exact ⟨.inl ⟨rfl, rfl⟩, rfl, rfl, nofun⟩

lemma testHelloFdReply_good (hfrees : b.frees = 0) (hfresh : b.stale = false)
    (hcb : b.req.cb = .testHelloFdReply) (hanswered : b.completions = 1)
    (harmed : b.armed = false) :
    Good (testHelloFdReply b written).1 := by
  rw [testHelloFdReply]
  split_ifs
  · constructor <;> simp [Block.touch, Block.free, hfrees, hfresh, hcb, hanswered, harmed]
  · constructor <;> simp [Block.touch, Block.timeoutSet, hfrees, hfresh, hcb, hanswered]

/-- The first expiration. -/
lemma expire_first (hcb : b.req.cb = .testHelloReply) :
    expire b pipe written = testHelloReply b.fire pipe written := by
  have hfire : b.fire.req.cb = .testHelloReply := hcb
  rw [expire, hfire]

/-- Every later one. -/
lemma expire_later (hcb : b.req.cb = .testHelloFdReply) :
    expire b pipe written = testHelloFdReply b.fire written := by
  have hfire : b.fire.req.cb = .testHelloFdReply := hcb
  rw [expire, hfire]

/-- An expiration settles its request, unless it is the first one and `pipe` fails. -/
lemma expire_good (h : Good b) (harmed : b.armed = true)
    (hpipe : ¬ (b.req.cb = .testHelloReply ∧ pipe = none)) : Good (expire b pipe written).1 := by
  have hfrees := h.frees harmed
  have hstage := h.stage
  cases hcb : b.req.cb with
  | testHelloFdReply =>
      simp only [hcb, reduceCtorEq, if_false] at hstage
      rw [expire_later hcb]
      apply testHelloFdReply_good <;> simp [Block.fire, Block.touch, hfrees, h.fresh, hcb, hstage]
  | testHelloReply =>
      simp only [hcb, if_true] at hstage
      cases pipe with
      | none => exact absurd ⟨hcb, rfl⟩ hpipe
      | some fds =>
          rw [expire_first hcb]
          apply testHelloFdReply_good <;>
            simp [Block.fire, Block.touch, Block.complete, hfrees, h.fresh, hstage]

/-- **The leak.**  A first expiration without a pipe leaves its request neither armed nor freed. -/
lemma expire_not_settled (h : Good b) (harmed : b.armed = true) (hcb : b.req.cb = .testHelloReply) :
    ¬ Settled (expire b none written).1 := by
  intro hsettled
  have howned := hsettled.owned
  rw [expire_first hcb] at howned
  simp [testHelloReply, Block.fire, Block.touch, h.frees harmed] at howned

/-! ## Runs -/

/-- The timer of a request that has no pipe yet expires, and `pipe` fails. -/
def PipeFails (w : List Block) : Input → Prop
  | .hello _ _ => False
  | .expire r pipe _ =>
      pipe = none ∧ ∃ b, w[r]? = some b ∧ b.armed = true ∧ b.req.cb = .testHelloReply

/-- A step without that keeps every request in order. -/
lemma step_good (h : ∀ b ∈ w, Good b) (hpipe : ¬ PipeFails w i) :
    ∀ b ∈ (step F w i).1, Good b := by
  intro b hb
  cases i with
  | hello msg calloc =>
      rcases List.mem_append.mp hb with hb | hb
      · exact h b hb
      · exact testHello_good hb
  | expire r pipe written =>
      rw [step] at hb
      cases hr : w[r]? with
      | none =>
          rw [hr] at hb
          exact h b hb
      | some b₀ =>
          simp only [hr] at hb
          split_ifs at hb with harmed
          · rcases List.mem_or_eq_of_mem_set hb with hb | hb
            · exact h b hb
            · rw [hb]
              apply expire_good (h b₀ (List.mem_of_getElem? hr)) harmed
              rintro ⟨hcb, hp⟩
              exact hpipe ⟨hp, b₀, hr, harmed, hcb⟩
          · exact h b hb

/-- A step with it leaves a request behind. -/
lemma step_not_settled (h : ∀ b ∈ w, Good b) (hpipe : PipeFails w i) :
    ∃ b ∈ (step F w i).1, ¬ Settled b := by
  cases i with
  | hello msg calloc => exact absurd hpipe id
  | expire r pipe written =>
      obtain ⟨rfl, b, hr, harmed, hcb⟩ := hpipe
      obtain ⟨hlt, -⟩ := List.getElem?_eq_some_iff.mp hr
      have hgood := h b (List.mem_of_getElem? hr)
      refine ⟨(expire b none written).1, ?_, expire_not_settled hgood harmed hcb⟩
      simp only [step, hr, harmed, if_true]
      exact List.mem_set hlt _

/-- **Exactly when no hello request is lost.**  In every run, with any number of requests: all are
settled after each step if and only if no step is the first expiration of a request with a failing
`pipe`. -/
theorem settled_iff (F : Finder) (is : List Input) :
    (∀ p ∈ (machine F).trace [] is, ∀ b ∈ ((machine F).step p.1 p.2).1, Settled b) ↔
      ∀ p ∈ (machine F).trace [] is, ¬ PipeFails p.1 p.2 := by
  have hiff : ∀ w i, (∀ b ∈ w, Good b) →
      ((∀ b ∈ ((machine F).step w i).1, Settled b) ↔ ¬ PipeFails w i) := by
    intro w i hgood
    constructor
    · intro hsettled hpipe
      obtain ⟨b, hb, hnot⟩ := @step_not_settled F w i hgood hpipe
      exact hnot (hsettled b hb)
    · intro hpipe b hb
      exact (step_good hgood hpipe b hb).settled
  exact Machine.trace_forall_iff hiff (fun w i hgood hpipe => step_good hgood hpipe) (by simp)

/-- One request whose timer expires while the process has no descriptors left. -/
theorem settled_fails : ¬ ∀ (F : Finder) (is : List Input),
    ∀ p ∈ (machine F).trace [] is, ∀ b ∈ ((machine F).step p.1 p.2).1, Settled b := by
  intro h
  have hgood : ∀ b ∈ (step Finder.first [] (.hello [] true)).1, Good b := step_good (by simp) id
  have hpipe : PipeFails (step Finder.first [] (.hello [] true)).1 (.expire 0 none 0) :=
    ⟨rfl, _, rfl, rfl, rfl⟩
  obtain ⟨b, hb, hnot⟩ := @step_not_settled Finder.first _ _ hgood hpipe
  exact hnot (h Finder.first [.hello [] true, .expire 0 none 0] (_, .expire 0 none 0)
    (.tail _ (.head _)) b hb)

/-! ## Texts -/

/-- Every text fits the room that was got for it. -/
def Fit (out : List Event) : Prop :=
  ∀ room text, Event.sprintf room text ∈ out → (text ++ [nul]).length ≤ room

lemma lineText_fits (idx : Int32) (data : List Char) :
    (lineText idx data ++ [nul]).length ≤ data.length + 32 := by
  have hidx := (length_signedDecimal_int32 idx).1
  have hlen : (lineText idx data ++ [nul]).length
      = 3 + (signedDecimal idx.toInt).length + 2 + data.length + 1 + 1 := by
    rw [lineText, List.length_append, List.length_append, List.length_append, List.length_append,
      List.length_append]
    rfl
  omega

lemma helloText_fits (objName msgstr : List Char) :
    (helloText objName msgstr ++ [nul]).length
      ≤ format.length + objName.length + msgstr.length + 1 := by
  have hformat : format.length = 25 := rfl
  have hlen : (helloText objName msgstr ++ [nul]).length
      = objName.length + 21 + msgstr.length + 1 := by
    rw [helloText, List.length_append, List.length_append, List.length_append]
    rfl
  omega

lemma testHelloFdReply_fit : Fit (testHelloFdReply b written).2 := by
  intro room text h
  have htext : room = b.req.data.length + 32 ∧ text = lineText (b.req.idx + 1) b.req.data := by
    rw [testHelloFdReply] at h
    split_ifs at h <;> simpa [Block.touch] using h
  rw [htext.1, htext.2]
  exact lineText_fits _ _

lemma expire_fit : Fit (expire b pipe written).2 := by
  cases hcb : b.req.cb with
  | testHelloFdReply =>
      rw [expire_later hcb]
      exact testHelloFdReply_fit
  | testHelloReply =>
      rw [expire_first hcb]
      intro room text h
      cases pipe with
      | none => simp [testHelloReply] at h
      | some fds =>
          have hline : .sprintf room text ∈ (testHelloFdReply ((b.fire.touch id).complete.touch
              fun req => { req with fd := fds.2, cb := .testHelloFdReply }) written).2 := by
            simpa [testHelloReply] using h
          exact testHelloFdReply_fit room text hline

/-- **No text of a hello request overruns its buffer**, whatever the message and the count. -/
theorem texts_fit (F : Finder) (w : List Block) (i : Input) : Fit (step F w i).2 := by
  intro room text h
  cases i with
  | hello msg calloc =>
      cases calloc with
      | false => simp [step, testHello] at h
      | true =>
          simp only [step, testHello, if_true, List.mem_cons, Event.sprintf.injEq, reduceCtorEq,
            List.not_mem_nil, or_false] at h
          rw [h.1, h.2]
          exact helloText_fits _ _
  | expire r pipe written =>
      rw [step] at h
      cases hr : w[r]? with
      | none => simp [hr] at h
      | some b =>
          simp only [hr] at h
          split_ifs at h
          · exact expire_fit room text h
          · simp at h

end Hello

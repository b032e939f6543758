import MuaHello.Log.Logger

/-!
# The lazy logger refines a plain one

`Plain` says what the logger is for: it remembers the level, the mask and the identity it was last
given, and every message that passes the level test goes to the channels in the mask under that
identity.  There is nothing to initialise, open or close.

`Tracks` relates the two.  Its clause `ready` is the invariant of the lazy path: an initialised
logger knows its identity, and if the syslog channel is in the mask, a connection is open under it.
`logger_refines_plain` follows by simulation: over every run the same records come out.
-/

namespace Logger

/-- What a reader of the console and of the system log sees: a line with its tag, and a record
with the connection it came over. -/
inductive Record where
  | console (ident : Option String) (text : String)
  | syslog (conn : Connection) (level : ℤ) (text : String)
  deriving DecidableEq

def record : Event × Connection → Option Record
  | (.console ident text, _) => some (.console ident text)
  | (.vsyslog level text, conn) => some (.syslog conn level text)
  | (.openlog .., _) => none
  | (.closelog, _) => none

/-- The records among the events of a call. -/
def records (out : List (Event × Connection)) : List Record := out.filterMap record

/-! ## The plain logger -/

/-- The latest settings: the level, the mask, and the argument of the latest `log_open`. -/
structure Plain where
  level : ℤ
  channels : Channels
  ident : Option String

namespace Plain

/-- The latest identity, or the process name. -/
def identity (p : Plain) (name : String) : String := p.ident.getD name

def output (p : Plain) (name : String) (level : ℤ) (text : String) : List Record :=
  if level ≠ logOff ∧ level ≤ p.level then
    (if p.channels.has logChannelConsole then [.console (some (p.identity name)) text] else []) ++
      if p.channels.has logChannelSyslog then [.syslog (some (some (p.identity name))) level text]
      else []
  else []

def step (name : String) (p : Plain) : Call → Plain × List Record
  | .logOpen ident channels => ({ p with ident := ident, channels := channels }, [])
  | .logSetChannel channel => ({ p with channels := channel }, [])
  | .logSetLevel level => ({ p with level := level }, [])
  | .logClose => (p, [])
  | .logOutput level text => (p, p.output name level text)

def machine (name : String) : Machine Plain Call (List Record) := ⟨step name⟩

/-- Before any call: level and mask of the static initialisers, no identity. -/
def initial : Plain := ⟨logDebug, logChannelConsole, none⟩

end Plain

/-! ## The simulation -/

/-- The settings agree.  A missing identity may have been filled in already. -/
structure Agrees (name : String) (w : World) (p : Plain) : Prop where
  level : w.log.logLevel = p.level
  channels : w.log.logChannels = p.channels
  ident : w.log.logIdent = p.ident ∨ w.log.logIdent = some (p.identity name)

/-- The simulation relation. -/
structure Tracks (name : String) (w : World) (p : Plain) : Prop extends Agrees name w p where
  ready : w.log.logInitialized = true → w.log.logIdent = some (p.identity name) ∧
    (w.has logChannelSyslog = true → w.conn = some (some (p.identity name)))

variable {name : String} {w : World} {p : Plain}

lemma Agrees.or_name (h : Agrees name w p) :
    w.log.logIdent.or (some name) = some (p.identity name) := by
  rcases h.ident with hident | hident
  · rw [hident, Plain.identity]
    cases p.ident <;> rfl
  · rw [hident, Option.some_or]

/-- **Closing** leaves a logger that has nothing to be ready for, whatever mask it closed by. -/
lemma Agrees.logClose (h : Agrees name w p) :
    Tracks name (Logger.logClose w) p ∧ records (Logger.logClose w).out = records w.out := by
  have hinit : (Logger.logClose w).log.logInitialized = true → False := by
    rw [logInitialized_logClose]
    exact Bool.false_ne_true
  cases hw : w.log.logInitialized with
  | false =>
      rw [logClose_of_not_initialized hw] at hinit ⊢
      exact ⟨⟨h, fun ht => (hinit ht).elim⟩, rfl⟩
  | true =>
      rw [logClose_of_initialized hw] at hinit ⊢
      refine ⟨⟨⟨h.level, h.channels, h.ident⟩, fun ht => (hinit ht).elim⟩, ?_⟩
      cases w.has logChannelSyslog <;> simp [records, record]

/-- **The lazy opening** makes the logger ready. -/
lemma Tracks.logDefaults (h : Tracks name w p) :
    Tracks name (Logger.logDefaults (some name) w) p ∧
      records (Logger.logDefaults (some name) w).out = records w.out := by
  cases hw : w.log.logInitialized with
  | true =>
      rw [logDefaults_of_initialized hw]
      exact ⟨h, rfl⟩
  | false =>
      rw [logDefaults_of_not_initialized hw, h.or_name]
      refine ⟨⟨⟨h.level, h.channels, .inr rfl⟩, fun _ => ⟨rfl, ?_⟩⟩, ?_⟩
      · intro hsys
        exact if_pos hsys
      · cases w.has logChannelSyslog <;> simp [records, record]

/-- Writing a record, if the mask asks for it, changes neither the settings nor the connection. -/
lemma Tracks.emit_if {e : Event} {r : Record} {c : Bool} (h : Tracks name w p)
    (heffect : e.effect w.conn = w.conn) (hrec : record (e, w.conn) = some r) :
    Tracks name (if c then w.emit e else w) p ∧ (if c then w.emit e else w).conn = w.conn ∧
      (if c then w.emit e else w).log = w.log ∧
      records (if c then w.emit e else w).out = records w.out ++ if c then [r] else [] := by
  cases c with
  | false => exact ⟨h, rfl, rfl, (List.append_nil _).symm⟩
  | true =>
      refine ⟨⟨⟨h.level, h.channels, h.ident⟩, ?_⟩, heffect, rfl, ?_⟩
      · intro hinit
        obtain ⟨hident, hconn⟩ := h.ready hinit
        exact ⟨hident, fun hsys => heffect.trans (hconn hsys)⟩
      · simp only [if_true, World.emit, records, List.filterMap_append, List.filterMap_cons, hrec,
          List.filterMap_nil]

/-- A message of a ready logger goes out under the identity of the plain one. -/
lemma Tracks.write (h : Tracks name w p) (hinit : w.log.logInitialized = true) (level : ℤ)
    (text : String) :
    let w₁ := if w.has logChannelConsole then w.emit (.console w.log.logIdent text) else w
    let w₂ := if w₁.has logChannelSyslog then w₁.emit (.vsyslog level text) else w₁
    Tracks name w₂ p ∧ records w₂.out = records w.out ++
      ((if p.channels.has logChannelConsole then [.console (some (p.identity name)) text] else [])
        ++ if p.channels.has logChannelSyslog
          then [.syslog (some (some (p.identity name))) level text] else []) := by
  intro w₁ w₂
  obtain ⟨hident, hconn⟩ := h.ready hinit
  obtain ⟨htracks₁, hconn₁, hlog₁, hrec₁⟩ :=
    h.emit_if (e := .console w.log.logIdent text) (c := w.has logChannelConsole) rfl rfl
  obtain ⟨htracks₂, -, -, hrec₂⟩ :=
    htracks₁.emit_if (e := .vsyslog level text) (c := w₁.has logChannelSyslog) rfl rfl
  refine ⟨htracks₂, hrec₂.trans ?_⟩
  have hmask : w₁.has logChannelSyslog = p.channels.has logChannelSyslog := by
    rw [← h.channels]
    exact congrArg (fun log : Statics => log.logChannels.has logChannelSyslog) hlog₁
  rw [hrec₁, hmask, hconn₁, hident, World.has, h.channels, List.append_assoc]
  cases hsys : p.channels.has logChannelSyslog with
  | false => rfl
  | true => rw [hconn (by rw [World.has, h.channels]; exact hsys)]

/-- **A message** that passes the level test makes the logger ready first. -/
lemma Tracks.logOutput (h : Tracks name w p) (level : ℤ) (text : String) :
    Tracks name (Logger.logOutput (some name) level text w) p ∧
      records (Logger.logOutput (some name) level text w).out
        = records w.out ++ p.output name level text := by
  rw [Logger.logOutput, Plain.output, ← h.level]
  by_cases hlevel : level = logOff ∨ level > w.log.logLevel
  · have hplain : ¬ (level ≠ logOff ∧ level ≤ w.log.logLevel) := by
      rintro ⟨hoff, hle⟩
      exact hlevel.elim hoff (not_lt.mpr hle)
    rw [if_pos hlevel, if_neg hplain, List.append_nil]
    exact ⟨h, rfl⟩
  · rw [not_or, gt_iff_lt, not_lt] at hlevel
    obtain ⟨hready, hsame⟩ := h.logDefaults
    rw [if_neg (by rw [not_or, gt_iff_lt, not_lt]; exact hlevel), if_pos hlevel, ← hsame]
    exact hready.write logInitialized_logDefaults level text

/-- **One call.** -/
lemma tracks_step (w : World) (p : Plain) (c : Call) (h : Tracks name w p) :
    Tracks name (step w ⟨c, some name⟩).1 (p.step name c).1 ∧
      records (step w ⟨c, some name⟩).2 = (p.step name c).2 := by
  have hstart : Tracks name { w with out := [] } p := ⟨⟨h.level, h.channels, h.ident⟩, h.ready⟩
  cases c with
  | logOpen ident channels =>
      obtain ⟨hclosed, hnone⟩ := hstart.logClose
      refine ⟨⟨⟨hclosed.level, rfl, .inl rfl⟩, ?_⟩, hnone⟩
      intro hinit
      exact absurd (logInitialized_logClose.symm.trans hinit) Bool.false_ne_true
  | logSetChannel channel =>
      have hmask : Agrees name { w with out := [], log.logChannels := channel }
          { p with channels := channel } := ⟨h.level, rfl, h.ident⟩
      obtain ⟨hclosed, hnone⟩ := hmask.logClose
      obtain ⟨hready, hsame⟩ := hclosed.logDefaults
      exact ⟨hready, hsame.trans hnone⟩
  | logSetLevel level => exact ⟨⟨⟨rfl, h.channels, h.ident⟩, h.ready⟩, rfl⟩
  | logClose => exact hstart.logClose
  | logOutput level text => exact hstart.logOutput level text

/-- **The lazily initialised logger refines the plain one.**  Over every sequence of calls from
program start, every call emits the records the plain logger emits: the same messages to the same
channels, tagged with, and sent over a connection open under, the identity of the latest
`log_open`, or the process name. -/
theorem logger_refines_plain (name : String) (cs : List Call) :
    (machine.run .initial (cs.map fun c => ⟨c, some name⟩)).2.map records
      = ((Plain.machine name).run .initial cs).2 := by
  rw [Machine.run_map]
  have hinitial : Tracks name .initial .initial :=
    ⟨⟨rfl, rfl, .inl rfl⟩, fun hinit => absurd hinit Bool.false_ne_true⟩
  exact (Machine.run_simulation tracks_step hinitial).2

end Logger

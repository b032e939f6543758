import MuaHello.Lib.Machine

/-!
# The logger

`log.c` as operations on a `World`: its static variables (`Logger`), and what libc makes of the
calls it gets, which is whether a syslog connection is open and under which identity.

* A call into libc is an `Event`.  `World.emit` performs it and records it together with the
  connection it met, so that "at the moment of the call" can be said afterwards.
* A `const char *` is an `Option String`; formatted messages are strings.
* `log_default_ident` reads the process name from `/proc`.  Its result is an input of every call
  and may differ between calls, or be NULL.
* `machine` runs one public function per step.

The branches for the file and remote channels are empty in the code.
-/

namespace Logger

/-! ## Constants -/

abbrev logOff : ℤ := 0
abbrev logDebug : ℤ := 7

/-- `LOG_LOCAL1` -/
abbrev logLocal1 : ℤ := 136

abbrev Channels : Type := BitVec 32

abbrev logChannelConsole : Channels := 1#32 <<< 0
abbrev logChannelSyslog : Channels := 1#32 <<< 1

/-- `mask & channel` as a condition -/
def Channels.has (mask channel : Channels) : Bool := mask &&& channel != 0

/-! ## State -/

/-- The static variables of `log.c`. -/
structure Statics where
  logLevel : ℤ
  logChannels : Channels
  logFacility : ℤ
  logInitialized : Bool
  logIdent : Option String

/-- The syslog connection: closed, or open under the identity given to `openlog`. -/
abbrev Connection : Type := Option (Option String)

/-- A call into libc with an effect outside the logger. -/
inductive Event where
  | openlog (ident : Option String) (facility : ℤ)
  | closelog
  | console (ident : Option String) (text : String)
  | vsyslog (level : ℤ) (text : String)
  deriving DecidableEq

/-- What a call does to the connection. -/
def Event.effect : Event → Connection → Connection
  | openlog ident _, _ => some ident
  | closelog, _ => none
  | console .., conn => conn
  | vsyslog .., conn => conn

/-- The logger in its process.  `out` holds the events of the current call, each with the
connection it met. -/
structure World where
  log : Statics
  conn : Connection
  out : List (Event × Connection)

namespace World

def emit (w : World) (e : Event) : World :=
  { w with conn := e.effect w.conn, out := w.out ++ [(e, w.conn)] }

/-- Program start. -/
def initial : World where
  log := ⟨logDebug, logChannelConsole, logLocal1, false, none⟩
  conn := none
  out := []

/-- The mask in force contains `channel`. -/
abbrev has (w : World) (channel : Channels) : Bool := w.log.logChannels.has channel

end World

/-! ## The code -/

/-- `log_defaults`, when `log_default_ident` returns `name` -/
def logDefaults (name : Option String) (w : World) : World :=
  if w.log.logInitialized then w
  else
    let w := if w.log.logIdent = none then { w with log.logIdent := name } else w
    let w := if w.has logChannelSyslog then w.emit (.openlog w.log.logIdent w.log.logFacility)
      else w
    { w with log.logInitialized := true }

/-- `log_close` -/
def logClose (w : World) : World :=
  if !w.log.logInitialized then w
  else
    let w := if w.has logChannelSyslog then w.emit .closelog else w
    { w with log.logInitialized := false }

/-- `log_output`, with `text` for the formatted message -/
def logOutput (name : Option String) (level : ℤ) (text : String) (w : World) : World :=
  if level = logOff ∨ level > w.log.logLevel then w
  else
    let w := logDefaults name w
    let w := if w.has logChannelConsole then w.emit (.console w.log.logIdent text) else w
    if w.has logChannelSyslog then w.emit (.vsyslog level text) else w

/-- `log_set_level` -/
def logSetLevel (level : ℤ) (w : World) : World := { w with log.logLevel := level }

/-- `log_set_channel`: the mask is replaced before the connection is closed. -/
def logSetChannel (name : Option String) (channel : Channels) (w : World) : World :=
  logDefaults name (logClose { w with log.logChannels := channel })

/-- `log_open` -/
def logOpen (ident : Option String) (channels : Channels) (w : World) : World :=
  let w := logClose w
  { w with log.logIdent := ident, log.logChannels := channels }

/-! ## What they do -/

section Specs

variable {w : World} {name : Option String}

lemma logDefaults_of_initialized (h : w.log.logInitialized = true) : logDefaults name w = w := by
  rw [logDefaults, if_pos h]

/-- The lazy opening: a missing identity is filled in, and the connection opened under it. -/
lemma logDefaults_of_not_initialized (h : w.log.logInitialized = false) :
    logDefaults name w =
      { log := { w.log with logIdent := w.log.logIdent.or name, logInitialized := true }
        conn := if w.has logChannelSyslog then some (w.log.logIdent.or name) else w.conn
        out := w.out ++ if w.has logChannelSyslog
          then [(.openlog (w.log.logIdent.or name) w.log.logFacility, w.conn)] else [] } := by
  rcases w with ⟨⟨level, channels, facility, init, ident⟩, conn, out⟩
  subst h
  cases hsys : channels.has logChannelSyslog <;> cases ident <;>
    simp [logDefaults, World.emit, Event.effect, hsys]

lemma logClose_of_not_initialized (h : w.log.logInitialized = false) : logClose w = w := by
  rw [logClose, h, Bool.not_false, if_pos rfl]

lemma logClose_of_initialized (h : w.log.logInitialized = true) :
    logClose w =
      { log := { w.log with logInitialized := false }
        conn := if w.has logChannelSyslog then none else w.conn
        out := w.out ++ if w.has logChannelSyslog then [(.closelog, w.conn)] else [] } := by
  rw [logClose, h, Bool.not_true, if_neg Bool.false_ne_true]
  cases hsys : w.has logChannelSyslog <;> simp [World.emit, Event.effect]

lemma logInitialized_logDefaults : (logDefaults name w).log.logInitialized = true := by
  cases h : w.log.logInitialized with
  | true => rw [logDefaults_of_initialized h, h]
  | false => rw [logDefaults_of_not_initialized h]

lemma logInitialized_logClose : (logClose w).log.logInitialized = false := by
  cases h : w.log.logInitialized with
  | true => rw [logClose_of_initialized h]
  | false => rw [logClose_of_not_initialized h, h]

end Specs

/-! ## Runs -/

/-- A call of a public function. -/
inductive Call where
  | logOpen (ident : Option String) (channels : Channels)
  | logSetChannel (channel : Channels)
  | logSetLevel (level : ℤ)
  | logClose
  | logOutput (level : ℤ) (text : String)

/-- A call with what `log_default_ident` returns in it, should it be asked. -/
structure Input where
  call : Call
  name : Option String

def Input.exec (i : Input) (w : World) : World :=
  match i.call with
  | .logOpen ident channels => logOpen ident channels w
  | .logSetChannel channel => logSetChannel i.name channel w
  | .logSetLevel level => logSetLevel level w
  | .logClose => logClose w
  | .logOutput level text => logOutput i.name level text w

/-- One call, with the events in it. -/
def step (w : World) (i : Input) : World × List (Event × Connection) :=
  let w' := i.exec { w with out := [] }
  (w', w'.out)

def machine : Machine World Input (List (Event × Connection)) := ⟨step⟩

end Logger

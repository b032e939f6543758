import MuaHello.Log.Logger

/-!
# The syslog connection is balanced

A connection should be open exactly while the logger is initialised with a mask that contains the
syslog channel, and `closelog` should only be called on an open one (`Balanced`).  Every function
keeps this but `log_set_channel`, which closes by the new mask what was opened under the old one
(`balanced_logSetChannel_iff`).  `syslog_balanced_iff` follows: over every run, the connection is
balanced after each call exactly when no call of `log_set_channel` switched the syslog channel of
an initialised logger.
-/

namespace Logger

/-- The connection is open when it should be, and in the current call `closelog` only met open
ones. -/
structure Balanced (w : World) : Prop where
  conn : w.conn.isSome = (w.log.logInitialized && w.has logChannelSyslog)
  closes : ∀ conn, (Event.closelog, conn) ∈ w.out → conn.isSome

/-- The call replaces the mask of an initialised logger by one that differs in the syslog
channel. -/
def FlipsSyslog (w : World) (i : Input) : Prop :=
  ∃ channel, i.call = .logSetChannel channel ∧ w.log.logInitialized = true ∧
    channel.has logChannelSyslog ≠ w.has logChannelSyslog

/-! ## What the functions preserve -/

variable {w : World} {name : Option String}

/-- An event that leaves the connection alone. -/
lemma Balanced.emit {e : Event} (h : Balanced w) (heffect : e.effect w.conn = w.conn)
    (hclose : e ≠ .closelog) : Balanced (w.emit e) where
  conn := by
    exact (congrArg Option.isSome heffect).trans h.conn
  closes := by
    intro conn hmem
    rcases List.mem_append.mp hmem with hmem | hmem
    · exact h.closes conn hmem
    · simp only [List.mem_singleton, Prod.mk.injEq] at hmem
      exact absurd hmem.1.symm hclose

lemma Balanced.emit_if {e : Event} {c : Bool} (h : Balanced w)
    (heffect : e.effect w.conn = w.conn) (hclose : e ≠ .closelog) :
    Balanced (if c then w.emit e else w) := by
  cases c with
  | true => exact h.emit heffect hclose
  | false => exact h

/-- While the logger is not initialised, identity and mask are free. -/
lemma Balanced.of_not_initialized (h : Balanced w) (hinit : w.log.logInitialized = false)
    (ident : Option String) (channels : Channels) :
    Balanced { w with log.logIdent := ident, log.logChannels := channels } where
  conn := by
    have hconn := h.conn
    rw [hinit, Bool.false_and] at hconn
    simp only [hconn, hinit, Bool.false_and]
  closes := h.closes

/-- **The lazy opening** finds the connection closed. -/
lemma balanced_logDefaults (h : Balanced w) : Balanced (logDefaults name w) := by
  cases hinit : w.log.logInitialized with
  | true => rwa [logDefaults_of_initialized hinit]
  | false =>
      have hconn := h.conn
      rw [hinit, Bool.false_and] at hconn
      rw [logDefaults_of_not_initialized hinit]
      constructor
      · cases hsys : w.has logChannelSyslog with
        | true => simp only [if_true, Option.isSome_some, Bool.and_true]
        | false => simpa only [Bool.false_eq_true, if_false, hsys, Bool.and_false] using hconn
      · intro conn hmem
        refine h.closes conn ?_
        cases hsys : w.has logChannelSyslog <;> simpa [hsys] using hmem

/-- **Closing** by the mask the connection was opened under. -/
lemma balanced_logClose (h : Balanced w) : Balanced (logClose w) := by
  cases hinit : w.log.logInitialized with
  | false => rwa [logClose_of_not_initialized hinit]
  | true =>
      have hconn := h.conn
      rw [hinit, Bool.true_and] at hconn
      rw [logClose_of_initialized hinit]
      constructor
      · cases hsys : w.has logChannelSyslog with
        | true => rfl
        | false => simpa only [Bool.false_eq_true, if_false, hsys, Bool.false_and] using hconn
      · intro conn hmem
        cases hsys : w.has logChannelSyslog with
        | false => exact h.closes conn (by simpa [hsys] using hmem)
        | true =>
            rw [hsys, List.mem_append] at hmem
            rcases hmem with hmem | hmem
            · exact h.closes conn hmem
            · rw [if_pos rfl, List.mem_singleton, Prod.mk.injEq] at hmem
              rw [hmem.2, hconn, hsys]

lemma balanced_logOutput {level : ℤ} {text : String} (h : Balanced w) :
    Balanced (logOutput name level text w) := by
  have hopen : Balanced (logDefaults name w) := balanced_logDefaults h
  rw [logOutput]
  by_cases hlevel : level = logOff ∨ level > w.log.logLevel
  · rwa [if_pos hlevel]
  · rw [if_neg hlevel]
    exact (hopen.emit_if rfl Event.noConfusion).emit_if rfl Event.noConfusion

/-- **The one exception.**  `log_set_channel` closes by the new mask, so it keeps the balance
exactly when that agrees with the old one on the syslog channel. -/
lemma balanced_logSetChannel_iff {channel : Channels} (h : Balanced w) :
    Balanced (logSetChannel name channel w) ↔
      ¬ (w.log.logInitialized = true ∧ channel.has logChannelSyslog ≠ w.has logChannelSyslog) := by
  have hconn := h.conn
  rw [logSetChannel]
  cases hinit : w.log.logInitialized with
  | false =>
      have hmask := h.of_not_initialized hinit w.log.logIdent channel
      exact ⟨fun _ hflip => Bool.false_ne_true hflip.1,
        fun _ => balanced_logDefaults (balanced_logClose hmask)⟩
  | true =>
      rw [hinit, Bool.true_and] at hconn
      constructor
      · rintro hbal ⟨-, hflip⟩
        rw [@logClose_of_initialized { w with log.logChannels := channel } hinit,
          logDefaults_of_not_initialized rfl] at hbal
        cases hnew : channel.has logChannelSyslog with
        | true =>
            -- `closelog` met the closed connection
            rw [hnew, ne_eq, Bool.true_eq, Bool.not_eq_true] at hflip
            rw [hflip] at hconn
            have hclosed := hbal.closes w.conn (by simp [hnew])
            rw [hconn] at hclosed
            exact Bool.false_ne_true hclosed
        | false =>
            -- the connection stayed open under a mask without the syslog channel
            rw [hnew, ne_eq, Bool.false_eq, Bool.not_eq_false] at hflip
            have hopen := hbal.conn
            simp [hnew, hconn, hflip] at hopen
      · intro hsame
        have hmask : channel.has logChannelSyslog = w.has logChannelSyslog := by
          by_contra hne
          exact hsame ⟨rfl, hne⟩
        refine balanced_logDefaults (balanced_logClose ⟨?_, h.closes⟩)
        simp only [hinit, Bool.true_and, hmask, hconn]

/-! ## Runs -/

lemma not_flipsSyslog {i : Input} (h : ∀ channel, i.call ≠ .logSetChannel channel) :
    ¬ FlipsSyslog w i := by
  rintro ⟨channel, hcall, -⟩
  exact h channel hcall

/-- **One call.** -/
lemma balanced_step_iff (h : Balanced w) (i : Input) :
    Balanced (step w i).1 ↔ ¬ FlipsSyslog w i := by
  have hstart : Balanced { w with out := [] } := ⟨h.conn, fun _ hmem => nomatch hmem⟩
  rcases i with ⟨call, name⟩
  cases call with
  | logOpen ident channels =>
      have hopen := (balanced_logClose hstart).of_not_initialized logInitialized_logClose ident
        channels
      exact iff_of_true hopen (not_flipsSyslog fun _ => Call.noConfusion)
  | logSetChannel channel =>
      refine (balanced_logSetChannel_iff hstart).trans (not_congr ?_)
      constructor
      · rintro ⟨hinit, hne⟩
        exact ⟨channel, rfl, hinit, hne⟩
      · rintro ⟨_, hcall, hinit, hne⟩
        cases hcall
        exact ⟨hinit, hne⟩
  | logSetLevel level =>
      exact iff_of_true ⟨hstart.conn, hstart.closes⟩ (not_flipsSyslog fun _ => Call.noConfusion)
  | logClose =>
      exact iff_of_true (balanced_logClose hstart) (not_flipsSyslog fun _ => Call.noConfusion)
  | logOutput level text =>
      exact iff_of_true (balanced_logOutput hstart) (not_flipsSyslog fun _ => Call.noConfusion)

lemma balanced_initial : Balanced World.initial := ⟨rfl, fun _ hmem => nomatch hmem⟩

/-- **Exactly when the syslog connection is balanced.**  For every sequence of calls and every
answer of `log_default_ident`: after each call the connection is open if and only if the logger is
initialised with the syslog channel in its mask, and every `closelog` met an open one, exactly when
no call of `log_set_channel` switched the syslog channel of an initialised logger. -/
theorem syslog_balanced_iff (is : List Input) :
    (∀ p ∈ machine.trace .initial is, Balanced (machine.step p.1 p.2).1) ↔
      ∀ p ∈ machine.trace .initial is, ¬ FlipsSyslog p.1 p.2 := by
  have hiff : ∀ w i, Balanced w → (Balanced (machine.step w i).1 ↔ ¬ FlipsSyslog w i) :=
    fun w i h => balanced_step_iff h i
  have hstep : ∀ w i, Balanced w → ¬ FlipsSyslog w i → Balanced (machine.step w i).1 :=
    fun w i h => (hiff w i h).mpr
  exact Machine.trace_forall_iff hiff hstep balanced_initial

/-- Opened for syslog and switched to the console, the logger keeps its connection open. -/
theorem syslog_balanced_fails :
    ¬ ∀ is : List Input, ∀ p ∈ machine.trace .initial is, Balanced (machine.step p.1 p.2).1 := by
  intro h
  have hall := h [⟨.logOpen (some "mua") logChannelSyslog, none⟩, ⟨.logOutput 1 "hello", none⟩,
    ⟨.logSetChannel logChannelConsole, none⟩]
  simp only [Machine.trace, List.forall_mem_cons] at hall
  exact absurd hall.2.2.1.conn (by decide)

end Logger

import MuaHello.Lib.Lines
import MuaHello.Lib.Tokens
import MuaHello.Log.Refinement

/-!
# The process name

`log_default_ident` finds the name in `/proc/self/status`, which it reads in pieces of up to 63
characters, a longer line in several.  Under the name that a status file gives (`Names`, with only
shorter lines in front of it; `IsName`), the logger is the plain one again, from the file to the
records: `named_by_status`.
-/

namespace Logger

/-- `while (fgets(line, sizeof(line), self))` -/
def searchName (self : List Char) : Option (List Char) :=
  if _ : self = [] then none
  else
    let line := (fgets 63 self).1.takeWhile (· ≠ nul)
    -- `!strncmp(line, "Name:", 5)`
    if "Name:".toList <+: line then
      (strtok ['\t', '\n'] line).bind fun r => (strtok ['\t', '\n'] r.2).map (·.1)
    else searchName (fgets 63 self).2
  termination_by self.length
  decreasing_by exact length_fgets_lt ‹_›

/-- `log_default_ident`, by what `fopen` gives. -/
def logDefaultIdent (self : Option (List Char)) : Option (List Char) := self.bind searchName

/-- A status file names the process: complete lines that `line` has room for and that do not begin
with `Name:`, the line of the name, and anything after it. -/
def Names (self name : List Char) : Prop :=
  ∃ before after, (∀ t ∈ before, '\n' ∉ t ∧ t.length < 63 ∧ ¬ "Name:".toList <+: t) ∧
    self = unlines '\n' before ++ ("Name:\t".toList ++ name ++ '\n' :: after)

/-- What a name may be: not empty, and without the characters at which it would be cut. -/
structure IsName (name : List Char) : Prop where
  ne_nil : name ≠ []
  clean : ∀ c ∈ name, c ≠ '\t' ∧ c ≠ '\n' ∧ c ≠ nul

variable {self name t rest : List Char}

/-- Another line is passed over. -/
lemma searchName_line (hline : '\n' ∉ t) (hlen : t.length < 63) (hname : ¬ "Name:".toList <+: t) :
    searchName (t ++ '\n' :: rest) = searchName rest := by
  have hother : ¬ "Name:".toList <+: (t ++ ['\n']).takeWhile (· ≠ nul) := by
    intro h
    rcases List.prefix_concat_iff.mp (h.trans (List.takeWhile_prefix _)) with heq | hpre
    · have hlast := congrArg List.getLast? heq
      simp at hlast
    · exact hname hpre
  rw [searchName, dif_neg (by simp), fgets_line hline hlen]
  exact if_neg hother

/-- The line of the name, as far as it is read, has no terminator inside. -/
lemma string_of_line (h : IsName name) (hrest : rest = [] ∨ rest = ['\n']) :
    ("Name:".toList ++ '\t' :: (name.take 57 ++ rest)).takeWhile (· ≠ nul)
      = "Name:".toList ++ '\t' :: (name.take 57 ++ rest) := by
  rw [List.takeWhile_eq_self_iff]
  intro c hc
  simp only [List.mem_append, List.mem_cons] at hc
  rw [decide_eq_true_eq]
  rcases hc with hc | rfl | hc | hc
  · rintro rfl
    revert hc
    decide
  · decide
  · exact (h.clean c (List.mem_of_mem_take hc)).2.2
  · rcases hrest with rfl | rfl
    · simp at hc
    · rw [List.mem_singleton.mp hc]
      decide

/-- Its second token is the name. -/
lemma searchName_name (h : IsName name) :
    searchName ("Name:\t".toList ++ name ++ '\n' :: rest) = some (name.take 57) := by
  have hline : '\n' ∉ "Name:\t".toList ++ name := by
    intro hmem
    rw [List.mem_append] at hmem
    exact hmem.elim (by decide) fun hc => (h.clean _ hc).2.1 rfl
  obtain ⟨s, hs, hread⟩ := @fgets_take 63 _ rest hline
  have htake : ("Name:\t".toList ++ name).take 63 = "Name:".toList ++ '\t' :: name.take 57 := by
    simp
  rw [htake, List.append_assoc "Name:".toList, List.cons_append] at hread
  have hfirst := @strtok_append "Name:".toList ['\t', '\n'] ('\t' :: (name.take 57 ++ s))
    (by simp) (by simp) (by simp)
  have hsecond := @strtok_append (name.take 57) ['\t', '\n'] s (by simp [h.ne_nil])
    (fun c hc => by simp [h.clean c (List.mem_of_mem_take hc)])
    (by rcases hs with rfl | rfl <;> simp)
  rw [searchName, dif_neg (by simp)]
  simp only [hread, string_of_line h hs]
  rw [if_pos (List.prefix_append _ _), hfirst]
  simp only [Option.bind_some, List.drop_one, List.tail_cons, hsecond, Option.map_some]

lemma logDefaultIdent_names (hself : Names self name) (h : IsName name) :
    logDefaultIdent (some self) = some (name.take 57) := by
  obtain ⟨before, after, hbefore, rfl⟩ := hself
  simp only [logDefaultIdent, Option.bind_some]
  induction before with
  | nil => exact searchName_name h
  | cons t before ih =>
      obtain ⟨hline, hlen, hname⟩ := hbefore t List.mem_cons_self
      rw [unlines_cons, List.append_assoc, List.cons_append, searchName_line hline hlen hname]
      exact ih fun u hu => hbefore u (List.mem_cons_of_mem t hu)

/-- **The logger goes by the process name**, from the status file to the records.  Let the name not
be empty and have no tab, newline or NUL.  In every run of calls, if the status file can be read
whenever it is opened and each line in front of its first `Name:` line is shorter than 63
characters, the records are those of the plain logger under the first 57 characters of the name,
whatever the lines in front and what follows say. -/
theorem named_by_status (h : IsName name) (cs : List (Call × List Char))
    (hself : ∀ c ∈ cs, Names c.2 name) :
    (machine.run .initial
        (cs.map fun c => ⟨c.1, (logDefaultIdent (some c.2)).map String.ofList⟩)).2.map records
      = ((Plain.machine (String.ofList (name.take 57))).run .initial (cs.map (·.1))).2 := by
  have hinputs : (cs.map fun c =>
        (⟨c.1, (logDefaultIdent (some c.2)).map String.ofList⟩ : Input))
      = (cs.map (·.1)).map fun c => ⟨c, some (String.ofList (name.take 57))⟩ := by
    rw [List.map_map]
    apply List.map_congr_left
    intro c hc
    simp only [logDefaultIdent_names (hself c hc) h, Option.map_some, Function.comp]
  have hinitial : Tracks (String.ofList (name.take 57)) .initial .initial :=
    ⟨⟨rfl, rfl, .inl rfl⟩, fun hinit => absurd hinit Bool.false_ne_true⟩
  rw [hinputs, Machine.run_map]
  exact (Machine.run_simulation tracks_step hinitial).2

/-- A message of a process called `hello`. -/
theorem named_by_status_hello :
    (machine.run .initial
        ([(.logOutput 3 "started", "Name:\thello\nPid:\t7\n".toList)].map fun c =>
          ⟨c.1, (logDefaultIdent (some c.2)).map String.ofList⟩)).2.map records
      = ((Plain.machine (String.ofList ("hello".toList.take 57))).run .initial
          ([(Call.logOutput 3 "started", "Name:\thello\nPid:\t7\n".toList)].map (·.1))).2 := by
  have hname : IsName "hello".toList := by
    refine ⟨by simp, ?_⟩
    intro c hc
    simp at hc
    rcases hc with rfl | rfl | rfl | rfl <;> decide
  apply named_by_status hname
  intro c hc
  rw [List.mem_singleton.mp hc]
  exact ⟨[], "Pid:\t7\n".toList, by simp, rfl⟩

end Logger

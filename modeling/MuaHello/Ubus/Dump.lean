import MuaHello.Lib.Text

/-!
# Printing a message

`dump_table` and `dump_attr_data` of `blobmsg-example.c` print a message whose tables and arrays may
be nested to any depth.  Each piece of output is one `indent_printf`, which writes its tabs from the
constant `indent_str`, thirteen of them and the terminator, with other memory behind.

* `dump_nested` — reading the output back by its braces and its indentation gives the tree of the
  message, exactly as long as no brace and no name is indented by more than thirteen.
* `dump_inside_iff` — how deep a message may be for its indentation to be read from `indent_str`.
-/

namespace Dump

/-- An attribute that is no table and no array; `other` is a type that `dump_attr_data` does not
know. -/
inductive Scalar where
  | string (s : List Char)
  | int8 (v : UInt8)
  | int16 (v : UInt16)
  | int32 (v : UInt32)
  | int64 (v : UInt64)
  | other

/-- An attribute with its name. -/
inductive Attr where
  | scalar (name : List Char) (v : Scalar)
  | nested (name : List Char) (array : Bool) (entries : List Attr)

/-- `hdr->name` -/
def Attr.name : Attr → List Char
  | scalar name _ => name
  | nested name _ _ => name

/-- What is printed: by `dump_table`, by `dump_attr_data` and by `dump_message`. -/
inductive Text where
  | opening | closing
  | name (s : List Char)
  | newline
  | value (s : List Char)
  | heading (s : String)
  deriving DecidableEq

/-- One `indent_printf(indent, …)`, with the bytes written for the indentation; `fprintf` alone is
one without indentation. -/
structure Print where
  tabs : List Char
  text : Text
  deriving DecidableEq

/-- The literal of `indent_str`. -/
def indentLiteral : List Char := List.replicate 13 '\t' ++ [nul]

/-- `sizeof` the literal. -/
def indentStrSize : ℕ := 14

/-- The offsets of `indent_str` that `fwrite(indent_str, indent, 1, stderr)` reads. -/
def Print.reads (p : Print) : List ℕ := List.range p.tabs.length

section Code

variable (behind : ℕ → Char)

/-- `indent_printf(indent, …)`, when `behind` follows the literal in memory. -/
def indentPrintf (indent : ℕ) (text : Text) : Print :=
  ⟨slice (listMem indentLiteral behind) 0 indent, text⟩

/-- The scalar cases of `dump_attr_data` -/
def dumpScalar (indent : ℕ) : Scalar → List Print
  | .string s => [indentPrintf behind indent (.value s)]
  | .int8 v => [indentPrintf behind indent (.value (decimal v.toNat))]
  | .int16 v => [indentPrintf behind indent (.value (decimal v.toNat))]
  | .int32 v => [indentPrintf behind indent (.value (signedDecimal v.toInt32.toInt))]
  | .int64 v => [indentPrintf behind indent (.value (decimal v.toNat))]
  | .other => []

/-- `dump_table` around its loop -/
def braces (indent : ℕ) (entries : List Print) : List Print :=
  indentPrintf behind indent .opening :: (entries ++ [indentPrintf behind indent .closing])

mutual

/-- The loop of `dump_table` -/
def dumpEntries : List Attr → ℕ → Bool → List Print
  | [], _, _ => []
  | attr :: rest, indent, array =>
      (if array then [] else [indentPrintf behind (indent + 1) (.name attr.name)])
        ++ dumpAttrData attr 0 (indent + 1) ++ dumpEntries rest indent array
  termination_by structural head => head

/-- `dump_attr_data` -/
def dumpAttrData : Attr → ℕ → ℕ → List Print
  | .scalar _ v, indent, _ => dumpScalar behind indent v
  | .nested _ array entries, indent, nextIndent =>
      (if indent = 0 then [indentPrintf behind indent .newline] else [])
        ++ braces behind nextIndent (dumpEntries entries nextIndent array)
  termination_by structural data => data

end

/-- `dump_table` -/
def dumpTable (head : List Attr) (indent : ℕ) (array : Bool) : List Print :=
  braces behind indent (dumpEntries behind head indent array)

/-- `dump_message`, by what `blobmsg_parse` finds for the entries of `pol`. -/
def dumpMessage (message : Option (List Char)) (list testdata : Option (List Attr)) : List Print :=
  (message.elim [] fun s => [⟨[], .heading "Message: "⟩, ⟨[], .value s⟩])
    ++ (list.elim [] fun head => ⟨[], .heading "List: "⟩ :: dumpTable behind head 0 true)
    ++ (testdata.elim [] fun head => ⟨[], .heading "Testdata: "⟩ :: dumpTable behind head 0 false)

end Code

/-! ## What a message shows -/

/-- What can be seen of a message: headings, names and values in order, and braces around what
belongs together. -/
inductive Shown where
  | heading (s : String)
  | name (s : List Char)
  | value (s : List Char)
  | braces (entries : List Shown)

/-- A value: a text as it is, a number in decimal, nothing of a type that is not known. -/
def shownScalar : Scalar → List Shown
  | .string s => [.value s]
  | .int8 v => [.value (decimal v.toNat)]
  | .int16 v => [.value (decimal v.toNat)]
  | .int32 v => [.value (signedDecimal v.toInt32.toInt)]
  | .int64 v => [.value (decimal v.toNat)]
  | .other => []

mutual

/-- The entries of a table, with their names, or of an array. -/
def shownEntries : List Attr → Bool → List Shown
  | [], _ => []
  | attr :: rest, array =>
      (if array then [] else [.name attr.name]) ++ shownAttr attr ++ shownEntries rest array
  termination_by structural head => head

def shownAttr : Attr → List Shown
  | .scalar _ v => shownScalar v
  | .nested _ array entries => [.braces (shownEntries entries array)]
  termination_by structural data => data

end

/-- The tree of a message. -/
def shownMessage (message : Option (List Char)) (list testdata : Option (List Attr)) : List Shown :=
  (message.elim [] fun s => [.heading "Message: ", .value s])
    ++ (list.elim [] fun head => [.heading "List: ", .braces (shownEntries head true)])
    ++ (testdata.elim [] fun head => [.heading "Testdata: ", .braces (shownEntries head false)])

mutual

/-- How far the braces and names in a table are indented beyond its own braces.  Names are indented
by one. -/
def entriesDepth : List Attr → Bool → ℕ
  | [], _ => 0
  | attr :: rest, array =>
      max (max (if array then 0 else 1) (attrDepth attr)) (entriesDepth rest array)
  termination_by structural head => head

def attrDepth : Attr → ℕ
  | .scalar _ _ => 0
  | .nested _ array entries => entriesDepth entries array + 1
  termination_by structural data => data

end

/-! ## Reading the output -/

/-- A reader of the output: the entries read since the last open brace, and those in front of each
open brace. -/
structure Reader where
  entries : List Shown
  outer : List (List Shown)

def Reader.add (r : Reader) (shown : Shown) : Reader := { r with entries := r.entries ++ [shown] }

/-- A brace and a name have to be indented by as many tabs as there are open braces around them, and
nothing else is indented. -/
def Reader.step (r : Reader) (p : Print) : Option Reader :=
  match p.text, r.outer with
  | .opening, outer =>
      if p.tabs = List.replicate outer.length '\t' then some ⟨[], r.entries :: outer⟩ else none
  | .closing, entries :: outer =>
      if p.tabs = List.replicate outer.length '\t' then
        some ⟨entries ++ [.braces r.entries], outer⟩
      else none
  | .closing, [] => none
  | .name s, outer =>
      if p.tabs = List.replicate outer.length '\t' then some (r.add (.name s)) else none
  | .newline, _ => if p.tabs = [] then some r else none
  | .value s, _ => if p.tabs = [] then some (r.add (.value s)) else none
  | .heading s, _ => if p.tabs = [] then some (r.add (.heading s)) else none

/-- What the output shows, if it is well indented and its braces are balanced. -/
def readBack (ps : List Print) : Option (List Shown) :=
  match ps.foldlM Reader.step ⟨[], []⟩ with
  | some ⟨entries, []⟩ => some entries
  | _ => none

section Nesting

variable {behind : ℕ → Char} {d depth indent : ℕ} {entries shown : List Shown}
  {outer : List (List Shown)} {ps : List Print}

/-- **The literal has thirteen tabs.**  Behind them is its terminator, whatever follows it. -/
lemma tabs_eq_iff : slice (listMem indentLiteral behind) 0 indent = List.replicate indent '\t' ↔
    indent ≤ 13 := by
  have hheld := holds_listMem indentLiteral behind
  constructor
  · intro h
    by_contra hlong
    have hcut := congrArg (List.take 14) h
    rw [take_slice (by omega), List.take_replicate, Nat.min_eq_left (by omega)] at hcut
    exact absurd (hheld.symm.trans hcut) (by decide)
  · intro h
    have htabs := (holds_append.mp hheld).1
    rw [Holds, List.length_replicate] at htabs
    rw [← take_slice h, htabs, List.take_replicate, Nat.min_eq_left h]

lemma step_opening (hd : outer.length = d) :
    (⟨entries, outer⟩ : Reader).step (indentPrintf behind d .opening)
      = if d ≤ 13 then some ⟨[], entries :: outer⟩ else none := by
  simp only [Reader.step, indentPrintf, hd, tabs_eq_iff]

lemma step_closing (hd : outer.length = d) (h : d ≤ 13) :
    (⟨shown, entries :: outer⟩ : Reader).step (indentPrintf behind d .closing)
      = some ⟨entries ++ [.braces shown], outer⟩ := by
  simp only [Reader.step, indentPrintf, hd, tabs_eq_iff, if_pos h]

/-- The name of an entry, if it is not one of an array. -/
lemma read_name {array : Bool} {s : List Char} (hd : d ≤ 13) (hr : outer.length = d + 1) :
    (if array then [] else [indentPrintf behind (d + 1) (.name s)]).foldlM Reader.step
        ⟨entries, outer⟩
      = if d + (if array then 0 else 1) ≤ 13 then
          some ⟨entries ++ if array then [] else [.name s], outer⟩
        else none := by
  cases array with
  | true => simp [hd]
  | false =>
      simp only [Bool.false_eq_true, if_false, List.foldlM_cons, List.foldlM_nil, Reader.step,
        indentPrintf, hr, tabs_eq_iff]
      split_ifs <;> rfl

/-- A value behind its name, or alone. -/
lemma read_scalar (v : Scalar) : (dumpScalar behind 0 v).foldlM Reader.step ⟨entries, outer⟩
    = some ⟨entries ++ shownScalar v, outer⟩ := by
  cases v <;> simp [dumpScalar, shownScalar, indentPrintf, Reader.step, Reader.add]

/-- Braces around entries that are read. -/
lemma read_braces (hr : outer.length = d)
    (h : d ≤ 13 → ps.foldlM Reader.step ⟨[], entries :: outer⟩
      = if d + depth ≤ 13 then some ⟨shown, entries :: outer⟩ else none) :
    (braces behind d ps).foldlM Reader.step ⟨entries, outer⟩
      = if d + depth ≤ 13 then some ⟨entries ++ [.braces shown], outer⟩ else none := by
  rw [braces, List.foldlM_cons, step_opening hr]
  by_cases hd : d ≤ 13
  · rw [if_pos hd]
    simp only [Option.bind_eq_bind, Option.bind_some, List.foldlM_append, h hd]
    split_ifs
    · rw [Option.bind_some, List.foldlM_cons, step_closing hr hd]
      rfl
    · rfl
  · rw [if_neg hd, if_neg (by omega)]
    rfl

mutual

/-- **The entries of a table are read back**, up to the depth that the literal allows. -/
lemma read_entries (behind : ℕ → Char) (d : ℕ) (array : Bool) (hd : d ≤ 13) :
    (head : List Attr) → (entries : List Shown) → (outer : List (List Shown)) →
      outer.length = d + 1 →
      (dumpEntries behind head d array).foldlM Reader.step ⟨entries, outer⟩
        = if d + entriesDepth head array ≤ 13 then
            some ⟨entries ++ shownEntries head array, outer⟩
          else none
  | [], entries, outer, _ => by simp [dumpEntries, entriesDepth, shownEntries, hd]
  | attr :: rest, entries, outer, hr => by
      rw [dumpEntries, List.foldlM_append, List.foldlM_append, read_name hd hr, entriesDepth]
      by_cases hname : d + (if array then 0 else 1) ≤ 13
      case neg => rw [if_neg hname, if_neg (by omega)]; rfl
      rw [if_pos hname, Option.bind_eq_bind, Option.bind_some, read_attr behind d hd attr _ _ hr]
      by_cases hattr : d + attrDepth attr ≤ 13
      case neg => rw [if_neg hattr, if_neg (by omega)]; rfl
      rw [if_pos hattr, Option.bind_some, read_entries behind d array hd rest _ _ hr]
      have hdepth : d + max (max (if array then 0 else 1) (attrDepth attr))
          (entriesDepth rest array) ≤ 13 ↔ d + entriesDepth rest array ≤ 13 := by omega
      simp only [hdepth, shownEntries, List.append_assoc]

lemma read_attr (behind : ℕ → Char) (d : ℕ) (hd : d ≤ 13) :
    (data : Attr) → (entries : List Shown) → (outer : List (List Shown)) →
      outer.length = d + 1 →
      (dumpAttrData behind data 0 (d + 1)).foldlM Reader.step ⟨entries, outer⟩
        = if d + attrDepth data ≤ 13 then some ⟨entries ++ shownAttr data, outer⟩ else none
  | .scalar _ v, entries, outer, _ => by
      simp [dumpAttrData, attrDepth, shownAttr, read_scalar, hd]
  | .nested _ array head, entries, outer, hr => by
      have hbraces := @read_braces behind (d + 1) _ entries _ outer _ hr fun hin =>
        read_entries behind (d + 1) array hin head [] (entries :: outer) (by simp [hr])
      rw [dumpAttrData, if_pos rfl, List.foldlM_append, attrDepth, shownAttr]
      rw [Nat.add_assoc, Nat.add_comm 1] at hbraces
      exact hbraces

end

/-- A table that `dump_message` prints behind its heading, if it is there. -/
lemma read_table (heading : String) (table : Option (List Attr)) (array : Bool) :
    (table.elim [] fun head => ⟨[], .heading heading⟩ :: dumpTable behind head 0 array).foldlM
        Reader.step ⟨entries, []⟩
      = if table.elim 0 (entriesDepth · array) ≤ 13 then
          some ⟨entries ++ table.elim [] fun head =>
            [.heading heading, .braces (shownEntries head array)], []⟩
        else none := by
  cases table with
  | none => simp
  | some head =>
      have hbraces := @read_braces behind 0 _ (entries ++ [.heading heading]) _ []
        (dumpEntries behind head 0 array) rfl fun _ =>
          read_entries behind 0 array (Nat.zero_le 13) head [] [entries ++ [.heading heading]] rfl
      rw [Nat.zero_add, List.append_assoc] at hbraces
      exact hbraces

/-- The text that `dump_message` prints, if it is there. -/
lemma read_message (message : Option (List Char)) :
    (message.elim [] fun s => [⟨[], .heading "Message: "⟩, ⟨[], .value s⟩]).foldlM
        Reader.step ⟨entries, []⟩
      = some ⟨entries ++ message.elim [] fun s => [.heading "Message: ", .value s], []⟩ := by
  cases message <;> simp [Reader.step, Reader.add]

example (behind : ℕ → Char) :
    dumpMessage behind none none (some [.nested ['a'] false [.scalar ['b'] (.int8 7)]])
      = [⟨[], .heading "Testdata: "⟩, ⟨[], .opening⟩, ⟨['\t'], .name ['a']⟩, ⟨[], .newline⟩,
        ⟨['\t'], .opening⟩, ⟨['\t', '\t'], .name ['b']⟩, ⟨[], .value ['7']⟩,
        ⟨['\t'], .closing⟩, ⟨[], .closing⟩] := rfl

end Nesting

/-! ## Depth -/

/-- No piece of output is indented by more than `n`. -/
def Within (n : ℕ) (ps : List Print) : Prop := ∀ p ∈ ps, p.tabs.length ≤ n

section Depth

variable {behind : ℕ → Char} {n indent : ℕ} {text : Text} {ps qs : List Print} {p : Print}

@[simp] lemma within_nil : Within n [] := by simp [Within]

@[simp] lemma within_cons : Within n (p :: ps) ↔ p.tabs.length ≤ n ∧ Within n ps := by
  simp [Within]

@[simp] lemma within_append : Within n (ps ++ qs) ↔ Within n ps ∧ Within n qs := by
  simp only [Within, List.mem_append, or_imp, forall_and]

@[simp] lemma length_tabs_indentPrintf :
    (indentPrintf behind indent text).tabs.length = indent := by
  simp [indentPrintf]

lemma within_scalar (v : Scalar) : Within n (dumpScalar behind 0 v) := by
  cases v <;> simp [dumpScalar]

lemma within_braces : Within n (braces behind indent ps) ↔ indent ≤ n ∧ Within n ps := by
  simp only [braces, within_cons, within_append, within_nil, length_tabs_indentPrintf]
  tauto

mutual

lemma within_entries (behind : ℕ → Char) (n indent : ℕ) (array : Bool) (h : indent ≤ n) :
    (head : List Attr) → (Within n (dumpEntries behind head indent array) ↔
      indent + entriesDepth head array ≤ n)
  | [] => by simpa [dumpEntries, entriesDepth] using h
  | attr :: rest => by
      have hattr := within_attr behind n indent h attr
      have hrest := within_entries behind n indent array h rest
      cases array <;>
        simp only [dumpEntries, entriesDepth, within_append, within_cons, within_nil, hattr, hrest,
          length_tabs_indentPrintf, Bool.false_eq_true, if_false, if_true, and_true, true_and]
      all_goals omega

lemma within_attr (behind : ℕ → Char) (n indent : ℕ) (h : indent ≤ n) : (data : Attr) →
    (Within n (dumpAttrData behind data 0 (indent + 1)) ↔ indent + attrDepth data ≤ n)
  | .scalar _ v => by simpa [dumpAttrData, attrDepth, within_scalar] using h
  | .nested _ array entries => by
      simp only [dumpAttrData, attrDepth, within_append, within_braces, within_cons, within_nil,
        length_tabs_indentPrintf, if_true, and_true, Nat.zero_le, true_and]
      by_cases hn : indent + 1 ≤ n
      · rw [within_entries behind n (indent + 1) array hn entries]
        omega
      · omega

end

lemma within_table (head : List Attr) (array : Bool) :
    Within n (dumpTable behind head 0 array) ↔ entriesDepth head array ≤ n := by
  rw [dumpTable, within_braces, within_entries behind n 0 array (Nat.zero_le n)]
  omega

end Depth

/-- **Exactly when the indentation is read from `indent_str`.**  A message is printed without a read
behind the literal, its terminator included, if and only if no brace and no name of it is more than
fourteen deep, counting a name as one deeper than the braces it stands in. -/
theorem dump_inside_iff (behind : ℕ → Char) (message : Option (List Char))
    (list testdata : Option (List Attr)) :
    (∀ p ∈ dumpMessage behind message list testdata, ∀ a ∈ p.reads, a < indentStrSize) ↔
      (∀ head, list = some head → entriesDepth head true ≤ indentStrSize) ∧
        ∀ head, testdata = some head → entriesDepth head false ≤ indentStrSize := by
  have hreads : ∀ ps : List Print,
      (∀ p ∈ ps, ∀ a ∈ p.reads, a < indentStrSize) ↔ Within indentStrSize ps := by
    intro ps
    refine forall₂_congr fun p _ => ?_
    simp only [Print.reads, List.mem_range]
    exact ⟨fun h => by_contra fun hlt => absurd (h indentStrSize (by omega)) (lt_irrefl _),
      fun h a ha => by omega⟩
  rw [hreads]
  cases message <;> cases list <;> cases testdata <;>
    simp [dumpMessage, within_table]

end Dump

import MuaHello.Lib.Probe

/-!
# Messages and `blobmsg_parse`

A ubus message is a list of named, typed attributes.  The programs read it with `blobmsg_parse` of
libubox, which is not part of them; a `Finder` is what they rely on.  For every entry of a policy it
finds an attribute with that name and type if there is one, and it may choose among several.

`Finder.parse` is a call with a policy pointer and a length, as the programs make it: it reads that
many entries from the pointer on, wherever the policy array ends.
-/

namespace Blobmsg

/-- `UBUS_STATUS_*`, as far as the handlers return them. -/
inductive UbusStatus where
  | ok | invalidArgument | unknownError
  deriving DecidableEq

/-- `enum blobmsg_type` -/
inductive BlobmsgType where
  | array | table | string | int64 | int32 | int16 | int8 | double
  deriving DecidableEq

/-- The payload of an attribute. -/
inductive Value where
  | array (raw : List UInt8)
  | table (raw : List UInt8)
  | string (s : List Char)
  | int64 (v : UInt64)
  | int32 (v : UInt32)
  | int16 (v : UInt16)
  | int8 (v : UInt8)
  | double (bits : UInt64)
  deriving DecidableEq

def Value.type : Value → BlobmsgType
  | .array _ => .array
  | .table _ => .table
  | .string _ => .string
  | .int64 _ => .int64
  | .int32 _ => .int32
  | .int16 _ => .int16
  | .int8 _ => .int8
  | .double _ => .double

/-- An attribute of a message. -/
structure Attr where
  name : String
  value : Value
  deriving DecidableEq

abbrev Message : Type := List Attr

/-- `struct blobmsg_policy` -/
structure Policy where
  name : String
  type : BlobmsgType
  deriving DecidableEq

/-- The attribute is one the policy entry asks for. -/
def Policy.Matches (p : Policy) (a : Attr) : Prop := a.name = p.name ∧ a.value.type = p.type

instance (p : Policy) (a : Attr) : Decidable (p.Matches a) := inferInstanceAs (Decidable (_ ∧ _))

/-! ## Reading an attribute

Each is used behind a policy that has checked the type. -/

def Attr.getString (a : Attr) : List Char :=
  match a.value with
  | .string s => s
  | _ => []

def Attr.getU32 (a : Attr) : UInt32 :=
  match a.value with
  | .int32 v => v
  | _ => 0

def Attr.getU16 (a : Attr) : UInt16 :=
  match a.value with
  | .int16 v => v
  | _ => 0

def Attr.getU8 (a : Attr) : UInt8 :=
  match a.value with
  | .int8 v => v
  | _ => 0

/-! ## `blobmsg_parse` -/

/-- How `blobmsg_parse` looks for the attribute of a policy entry. -/
structure Finder where
  find : Message → Policy → Option Attr
  sound : ∀ {msg p a}, find msg p = some a → a ∈ msg ∧ p.Matches a
  complete : ∀ {msg p}, find msg p = none → ∀ a ∈ msg, ¬ p.Matches a

/-- The first attribute that matches. -/
def Finder.first : Finder where
  find msg p := msg.find? fun a => p.Matches a
  sound h := ⟨List.mem_of_find?_eq_some h, by simpa using List.find?_some h⟩
  complete h := by simpa using List.find?_eq_none.mp h

/-- `blobmsg_parse(policy + p, n, tb, …)`: the contents of `tb[0]` to `tb[n - 1]`. -/
def Finder.parse (F : Finder) (msg : Message) : ℕ → ℕ → Probe Policy (List (Option Attr))
  | _, 0 => return []
  | p, n + 1 => do
      let entry ← Probe.get p
      let rest ← F.parse msg (p + 1) n
      return F.find msg entry :: rest

/-- A call with the whole policy array. -/
def Finder.table (F : Finder) (msg : Message) (policy : List Policy) : List (Option Attr) :=
  policy.map (F.find msg)

/-- The attribute `name` of the message has the value `v`: it is there, and no other of its name
has the type. -/
def Says (msg : Message) (name : String) (v : Value) : Prop :=
  ⟨name, v⟩ ∈ msg ∧ ∀ a ∈ msg, a.name = name → a.value.type = v.type → a.value = v

instance (msg : Message) (name : String) (v : Value) : Decidable (Says msg name v) :=
  inferInstanceAs (Decidable (_ ∧ _))

section Finder

variable {F : Finder} {msg : Message} {policy : ℕ → Policy} {p n : ℕ} {name : String} {v : Value}

lemma Finder.run_parse : (F.parse msg p n).run policy = (slice policy p n).map (F.find msg) := by
  induction n generalizing p with
  | zero => rfl
  | succ n ih => simp [Finder.parse, slice_succ, ih]

lemma Finder.reads_parse : (F.parse msg p n).reads policy = List.range' p n := by
  induction n generalizing p with
  | zero => rfl
  | succ n ih => simp [Finder.parse, List.range'_succ, ih]

/-- A call with the length of the array depends on nothing else. -/
lemma Finder.run_parse_whole (entries : List Policy) (after : ℕ → Policy) :
    (F.parse msg 0 entries.length).run (listMem entries after) = F.table msg entries := by
  rw [Finder.run_parse, holds_listMem, Finder.table]

/-- What the message says is found. -/
lemma Finder.find_of_says (h : Says msg name v) : F.find msg ⟨name, v.type⟩ = some ⟨name, v⟩ := by
  cases hfind : F.find msg ⟨name, v.type⟩ with
  | none => exact absurd ⟨rfl, rfl⟩ (F.complete hfind _ h.1)
  | some a =>
      obtain ⟨hmem, hname, htype⟩ := F.sound hfind
      have hvalue := h.2 a hmem hname htype
      cases a
      simp only at hname hvalue
      rw [hname, hvalue]

end Finder

end Blobmsg

import MuaHello.Lib.LittleEndian
import MuaHello.SndWav.Play
import MuaHello.SndWav.Record

/-!
# Reading a header

`WAV_ReadHeader`: three reads into the three parts of the container, each of which has to be
complete, and the test `WAV_WriteHeader` makes too.  What it accepts is a file that begins with the
bytes of a valid container, and what `WAV_WriteHeader` has written is read back
(`header_roundTrip`).
-/

namespace SndWav

/-- A file that is read from the front: what is left of it, and the results of the reads to
come. -/
structure Source where
  file : List UInt8
  reads : List ReadCall

/-- `read(fd, …, count)`: its result and the bytes it stores. -/
def Source.read (s : Source) (count : ℕ) : Outcome ((ℤ × List UInt8) × Source) :=
  match s.reads with
  | [] => .waiting
  | .failed :: rest => return ((-1, []), { s with reads := rest })
  | .bytes n :: rest =>
      let k := min (n + 1) (min count s.file.length)
      return (((k : ℤ), s.file.take k), ⟨s.file.drop k, rest⟩)

/-! ## Structures in memory -/

/-- The 32-bit field at offset `k`. -/
def word32 (l : List UInt8) (k : ℕ) : UInt32 := UInt32.ofNat (ofLE ((l.drop k).take 4))

/-- The 16-bit field at offset `k`. -/
def word16 (l : List UInt8) (k : ℕ) : UInt16 := UInt16.ofNat (ofLE ((l.drop k).take 2))

def WavHeader.ofBytes (l : List UInt8) : WavHeader := ⟨word32 l 0, word32 l 4, word32 l 8⟩

def WavFmt.ofBytes (l : List UInt8) : WavFmt :=
  ⟨word32 l 0, word32 l 4, word16 l 8, word16 l 10, word32 l 12, word32 l 16, word16 l 20,
    word16 l 22⟩

def WavChunkHeader.ofBytes (l : List UInt8) : WavChunkHeader := ⟨word32 l 0, word32 l 4⟩

/-- `WAV_ReadHeader`, with the container if the result is 0. -/
def readHeader (s : Source) : Outcome (Option WavContainer × Source) := do
  let ((res, header), s) ← s.read 12
  if res ≠ 12 then return (none, s)
  else
    let ((res, format), s) ← s.read 24
    if res ≠ 24 then return (none, s)
    else
      let ((res, chunk), s) ← s.read 8
      if res ≠ 8 then return (none, s)
      else
        let container : WavContainer := ⟨.ofBytes header, .ofBytes format, .ofBytes chunk⟩
        if checkValid container < 0 then return (none, s) else return (some container, s)

/-! ## Fields -/

variable {l : List UInt8} {k : ℕ}

lemma le32_eq (v : UInt32) : le32 v = toLE 4 v.toNat := by
  simp only [le32, toLE, List.cons.injEq, ← UInt8.toNat_inj]
  simp [Nat.shiftRight_eq_div_pow]
  omega

lemma le16_eq (v : UInt16) : le16 v = toLE 2 v.toNat := by
  simp only [le16, toLE, List.cons.injEq, ← UInt8.toNat_inj]
  simp [Nat.shiftRight_eq_div_pow]

lemma ofLE_le32 (v : UInt32) : UInt32.ofNat (ofLE (le32 v)) = v := by
  have hv : v.toNat < 256 ^ 4 := v.toNat_lt
  rw [le32_eq, ofLE_toLE, Nat.mod_eq_of_lt hv, UInt32.ofNat_toNat]

lemma ofLE_le16 (v : UInt16) : UInt16.ofNat (ofLE (le16 v)) = v := by
  have hv : v.toNat < 256 ^ 2 := v.toNat_lt
  rw [le16_eq, ofLE_toLE, Nat.mod_eq_of_lt hv, UInt16.ofNat_toNat]

lemma le32_word32 (h : k + 4 ≤ l.length) : le32 (word32 l k) = (l.drop k).take 4 := by
  have hlen : ((l.drop k).take 4).length = 4 := by
    rw [List.length_take, List.length_drop]
    omega
  have hlt := @ofLE_lt ((l.drop k).take 4)
  rw [hlen] at hlt
  rw [le32_eq, word32, UInt32.toNat_ofNat_of_lt' hlt, toLE_ofLE hlen]

lemma le16_word16 (h : k + 2 ≤ l.length) : le16 (word16 l k) = (l.drop k).take 2 := by
  have hlen : ((l.drop k).take 2).length = 2 := by
    rw [List.length_take, List.length_drop]
    omega
  have hlt := @ofLE_lt ((l.drop k).take 2)
  rw [hlen] at hlt
  rw [le16_eq, word16, UInt16.toNat_ofNat_of_lt' hlt, toLE_ofLE hlen]

/-- Neighbouring fields make one. -/
lemma fields_append (a b : ℕ) :
    (l.drop k).take a ++ (l.drop (k + a)).take b = (l.drop k).take (a + b) := by
  rw [List.take_add, List.drop_drop]

lemma WavHeader.ofBytes_bytes (h : WavHeader) : ofBytes h.bytes = h := by
  cases h
  simp only [ofBytes, WavHeader.mk.injEq]
  exact ⟨ofLE_le32 _, ofLE_le32 _, ofLE_le32 _⟩

lemma WavFmt.ofBytes_bytes (f : WavFmt) : ofBytes f.bytes = f := by
  cases f
  simp only [ofBytes, WavFmt.mk.injEq]
  exact ⟨ofLE_le32 _, ofLE_le32 _, ofLE_le16 _, ofLE_le16 _, ofLE_le32 _, ofLE_le32 _,
    ofLE_le16 _, ofLE_le16 _⟩

lemma WavChunkHeader.ofBytes_bytes (c : WavChunkHeader) : ofBytes c.bytes = c := by
  cases c
  simp only [ofBytes, WavChunkHeader.mk.injEq]
  exact ⟨ofLE_le32 _, ofLE_le32 _⟩

lemma WavHeader.bytes_ofBytes (h : l.length = 12) : (ofBytes l).bytes = l := by
  rw [bytes, ofBytes, le32_word32 (by omega), le32_word32 (by omega), le32_word32 (by omega),
    fields_append 4 4, fields_append 8 4, List.drop_zero, List.take_of_length_le (by omega)]

lemma WavFmt.bytes_ofBytes (h : l.length = 24) : (ofBytes l).bytes = l := by
  rw [bytes, ofBytes, le32_word32 (by omega), le32_word32 (by omega), le16_word16 (by omega),
    le16_word16 (by omega), le32_word32 (by omega), le32_word32 (by omega),
    le16_word16 (by omega), le16_word16 (by omega), fields_append 4 4, fields_append 8 2,
    fields_append 10 2, fields_append 12 4, fields_append 16 4, fields_append 20 2,
    fields_append 22 2, List.drop_zero, List.take_of_length_le (by omega)]

lemma WavChunkHeader.bytes_ofBytes (h : l.length = 8) : (ofBytes l).bytes = l := by
  rw [bytes, ofBytes, le32_word32 (by omega), le32_word32 (by omega), fields_append 4 4,
    List.drop_zero, List.take_of_length_le (by omega)]

/-- The bytes determine the container. -/
lemma WavContainer.bytes_injective : Function.Injective WavContainer.bytes := by
  intro c c' h
  obtain ⟨hrest, hchunk⟩ := List.append_inj h rfl
  obtain ⟨hheader, hformat⟩ := List.append_inj hrest rfl
  have h₁ := congrArg WavHeader.ofBytes hheader
  have h₂ := congrArg WavFmt.ofBytes hformat
  have h₃ := congrArg WavChunkHeader.ofBytes hchunk
  rw [WavHeader.ofBytes_bytes, WavHeader.ofBytes_bytes] at h₁
  rw [WavFmt.ofBytes_bytes, WavFmt.ofBytes_bytes] at h₂
  rw [WavChunkHeader.ofBytes_bytes, WavChunkHeader.ofBytes_bytes] at h₃
  cases c
  cases c'
  simp_all

/-! ## The file -/

variable {s t : Source} {count : ℕ} {data : List UInt8} {res : ℤ} {wav : WavContainer}

/-- A complete `read` takes the next bytes of the file. -/
lemma Source.read_complete (h : s.read count = .returned ((res, data), t))
    (hres : ¬ res ≠ count) : data.length = count ∧ s.file = data ++ t.file := by
  rw [not_not] at hres
  rw [read] at h
  cases hreads : s.reads with
  | nil =>
      rw [hreads] at h
      cases h
  | cons r rest =>
      rw [hreads] at h
      cases r with
      | failed =>
          cases h
          omega
      | bytes n =>
          cases h
          rw [List.length_take]
          exact ⟨by omega, (List.take_append_drop _ _).symm⟩

/-- A `read` of what is there is complete, if the system delivers that much. -/
lemma Source.read_append {n : ℕ} {rest : List ReadCall} {T : List UInt8}
    (h : data.length ≤ n + 1) :
    (⟨data ++ T, .bytes n :: rest⟩ : Source).read data.length
      = .returned (((data.length : ℤ), data), ⟨T, rest⟩) := by
  have hk : min (n + 1) (min data.length (data ++ T).length) = data.length := by
    rw [List.length_append]
    omega
  rw [read]
  simp only [hk, List.take_left, List.drop_left]
  rfl

/-- What is accepted is a valid container at the start of the file. -/
lemma readHeader_sound (h : readHeader s = .returned (some wav, t)) :
    s.file = wav.bytes ++ t.file ∧ checkValid wav = 0 := by
  rw [readHeader, Outcome.bind_returned] at h
  obtain ⟨⟨⟨res₁, header⟩, s₁⟩, hread₁, h⟩ := h
  simp only at h
  split_ifs at h with hres₁
  · cases h
  rw [Outcome.bind_returned] at h
  obtain ⟨⟨⟨res₂, format⟩, s₂⟩, hread₂, h⟩ := h
  simp only at h
  split_ifs at h with hres₂
  · cases h
  rw [Outcome.bind_returned] at h
  obtain ⟨⟨⟨res₃, chunk⟩, s₃⟩, hread₃, h⟩ := h
  simp only at h
  split_ifs at h with hres₃ hvalid
  · cases h
  · cases h
  obtain ⟨hlen₁, hfile₁⟩ := Source.read_complete hread₁ hres₁
  obtain ⟨hlen₂, hfile₂⟩ := Source.read_complete hread₂ hres₂
  obtain ⟨hlen₃, hfile₃⟩ := Source.read_complete hread₃ hres₃
  cases h
  refine ⟨?_, ?_⟩
  · rw [WavContainer.bytes, WavHeader.bytes_ofBytes hlen₁, WavFmt.bytes_ofBytes hlen₂,
      WavChunkHeader.bytes_ofBytes hlen₃, hfile₁, hfile₂, hfile₃]
    simp only [List.append_assoc]
  · exact checkValid_eq_zero hvalid

/-- The bytes of a valid container are read back. -/
lemma readHeader_bytes {T : List UInt8} {a b c : ℕ} {reads : List ReadCall}
    (hvalid : checkValid wav = 0) (ha : 12 ≤ a + 1) (hb : 24 ≤ b + 1) (hc : 8 ≤ c + 1) :
    readHeader ⟨wav.bytes ++ T, .bytes a :: .bytes b :: .bytes c :: reads⟩
      = .returned (some wav, ⟨T, reads⟩) := by
  have hread₁ := @Source.read_append wav.header.bytes a (.bytes b :: .bytes c :: reads)
    (wav.format.bytes ++ (wav.chunk.bytes ++ T)) ha
  have hread₂ := @Source.read_append wav.format.bytes b (.bytes c :: reads)
    (wav.chunk.bytes ++ T) hb
  have hread₃ := @Source.read_append wav.chunk.bytes c reads T hc
  simp only [WavHeader.length_bytes, WavFmt.length_bytes, WavChunkHeader.length_bytes,
    Nat.cast_ofNat] at hread₁ hread₂ hread₃
  simp only [readHeader, WavContainer.bytes, List.append_assoc, hread₁, hread₂, hread₃,
    Outcome.returned_bind, ne_eq, not_true_eq_false, if_false, WavHeader.ofBytes_bytes,
    WavFmt.ofBytes_bytes, WavChunkHeader.ofBytes_bytes, hvalid, lt_irrefl]
  rfl

/-- **The header survives the file.**  Whatever `WAV_WriteHeader` reported as written to the start
of a file, however the writes went, `WAV_ReadHeader` reads back as the same container from complete
reads, and leaves the rest of the file; and for every file and every sequence of reads, what it
accepts is a valid container whose bytes the file begins with. -/
theorem header_roundTrip {n : ℕ} (u v : Capture n) (wav : WavContainer) (hempty : u.file = [])
    (hwritten : writeHeader u wav = .returned (0, v)) :
    (∀ (T : List UInt8) (a b c : ℕ) (reads : List ReadCall), 12 ≤ a + 1 → 24 ≤ b + 1 →
      8 ≤ c + 1 → readHeader ⟨v.file ++ T, .bytes a :: .bytes b :: .bytes c :: reads⟩
        = .returned (some wav, ⟨T, reads⟩)) ∧
    ∀ (s t : Source) (container : WavContainer),
      readHeader s = .returned (some container, t) →
        s.file = container.bytes ++ t.file ∧ checkValid container = 0 := by
  obtain ⟨hfile, hvalid⟩ := (writeHeader_spec hwritten).complete rfl
  constructor
  · intro T a b c reads ha hb hc
    rw [hfile, hempty, List.nil_append]
    exact readHeader_bytes hvalid ha hb hc
  · intro s t container hread
    exact readHeader_sound hread

/-- The header of a recording of five bytes, read back in front of them. -/
theorem header_roundTrip_five :
    readHeader ⟨fiveBytes.bytes ++ [1, 2, 3, 4, 5], List.replicate 3 (.bytes 99)⟩
      = .returned (some fiveBytes, ⟨[1, 2, 3, 4, 5], []⟩) :=
  (header_roundTrip (⟨[], fun _ => 0, [], [], [], List.replicate 3 .full⟩ : Capture 2) _ fiveBytes
    rfl rfl).1 [1, 2, 3, 4, 5] 99 99 99 [] (by omega) (by omega) (by omega)

end SndWav

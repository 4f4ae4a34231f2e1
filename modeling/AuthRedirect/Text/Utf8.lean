/-!
UTF-8 in both directions. Reading never fails: every longest run of bytes that
starts like a character and is none becomes a gap, and the next byte is read
afresh. What the gap means is left to the caller: query parameters put U+FFFD
in its place, documents refuse it.
-/

namespace AuthRedirect.Text

/-- A text read from bytes. `none` is a gap: bytes that make no character. -/
abbrev RawText := List (Option Char)

/-- The text as one that was read without gaps. -/
def rawText (s : String) : RawText :=
  s.toList.map some

/-- The characters of a text without gaps. -/
def RawText.whole? : RawText → Option (List Char)
  | [] => some []
  | some c :: rest => (RawText.whole? rest).map (c :: ·)
  | none :: _ => none

/-- The characters of a text, with U+FFFD for each gap. -/
def RawText.lossy (s : RawText) : List Char :=
  s.map fun symbol => symbol.getD '\uFFFD'

@[simp] theorem RawText.whole?_map_some (s : List Char) :
    RawText.whole? (s.map some) = some s := by
  induction s with
  | nil => rfl
  | cons c rest ih => simp [RawText.whole?, ih]

@[simp] theorem RawText.lossy_map_some (s : List Char) : RawText.lossy (s.map some) = s := by
  simp [RawText.lossy, Function.comp_def]

namespace Utf8

/-! ## Writing -/

/-- The bytes of a text. -/
def encode (s : List Char) : List UInt8 :=
  s.flatMap String.utf8EncodeChar

/-! ## Reading -/

/-- The inside of a character: the bits read so far, how many bytes follow the
next one, and between which bounds the next one lies. -/
structure Pending where
  bits : Nat
  more : Nat
  low : Nat
  high : Nat
deriving DecidableEq, Repr

/-- The first byte of a character. -/
def start (byte : Nat) : RawText × Option Pending :=
  if byte < 0x80 then ([some (Char.ofNat byte)], none)
  else if byte < 0xC2 then ([none], none)
  else if byte < 0xE0 then ([], some ⟨byte - 0xC0, 0, 0x80, 0xBF⟩)
  else if byte = 0xE0 then ([], some ⟨0, 1, 0xA0, 0xBF⟩)
  else if byte = 0xED then ([], some ⟨0xD, 1, 0x80, 0x9F⟩)
  else if byte < 0xF0 then ([], some ⟨byte - 0xE0, 1, 0x80, 0xBF⟩)
  else if byte = 0xF0 then ([], some ⟨0, 2, 0x90, 0xBF⟩)
  else if byte < 0xF4 then ([], some ⟨byte - 0xF0, 2, 0x80, 0xBF⟩)
  else if byte = 0xF4 then ([], some ⟨4, 2, 0x80, 0x8F⟩)
  else ([none], none)

/-- One byte: what it completes, and what is pending after it. -/
def step (pending : Option Pending) (byte : Nat) : RawText × Option Pending :=
  match pending with
  | none => start byte
  | some ⟨bits, more, low, high⟩ =>
      if low ≤ byte ∧ byte ≤ high then
        let bits := bits * 0x40 + (byte - 0x80)
        match more with
        | 0 => ([some (Char.ofNat bits)], none)
        | more + 1 => ([], some ⟨bits, more, 0x80, 0xBF⟩)
      else
        let (read, after) := start byte
        (none :: read, after)

/-- What the end of the bytes adds. -/
def finish : Option Pending → RawText
  | none => []
  | some _ => [none]

/-- The text of bytes that follow pending ones. -/
def decodeAfter (pending : Option Pending) : List UInt8 → RawText
  | [] => finish pending
  | byte :: rest =>
      (step pending byte.toNat).1 ++ decodeAfter (step pending byte.toNat).2 rest

/-- The text of the bytes. -/
def decode (bytes : List UInt8) : RawText :=
  decodeAfter none bytes

/-! ## Reading what was written -/

/-- A byte within bounds that is the last one completes the character. -/
theorem step_last {bits low high byte : Nat} (above : low ≤ byte) (below : byte ≤ high) :
    step (some ⟨bits, 0, low, high⟩) byte =
      ([some (Char.ofNat (bits * 0x40 + (byte - 0x80)))], none) := by
  simp [step, above, below]

/-- A byte within bounds that is not the last one adds its bits. -/
theorem step_more {bits more low high byte : Nat} (above : low ≤ byte) (below : byte ≤ high) :
    step (some ⟨bits, more + 1, low, high⟩) byte =
      ([], some ⟨bits * 0x40 + (byte - 0x80), more, 0x80, 0xBF⟩) := by
  simp [step, above, below]

theorem start_two {n : Nat} (large : 2 ≤ n) (small : n < 0x20) :
    start (n + 0xC0) = ([], some ⟨n, 0, 0x80, 0xBF⟩) := by
  simp [start, show ¬ n + 192 < 128 by omega, show ¬ n + 192 < 194 by omega,
    show n + 192 < 224 by omega]

/-- The first of three bytes leaves room for every second byte that belongs to a
character of three bytes. -/
theorem start_three {n m : Nat} (small : n < 0x10) (next : m < 0x40)
    (long : 0 < n ∨ 0x20 ≤ m) (noSurrogate : n = 0xD → m < 0x20) :
    ∃ low high, start (n + 0xE0) = ([], some ⟨n, 1, low, high⟩) ∧
      low ≤ m + 0x80 ∧ m + 0x80 ≤ high := by
  have h1 : ¬ n + 0xE0 < 0x80 := by omega
  have h2 : ¬ n + 0xE0 < 0xC2 := by omega
  have h3 : ¬ n + 0xE0 < 0xE0 := by omega
  have h4 : n + 0xE0 < 0xF0 := by omega
  simp only [start, h1, h2, h3, h4, if_true, if_false]
  rcases Nat.eq_zero_or_pos n with rfl | positive
  · exact ⟨_, _, rfl, by omega, by omega⟩
  · rw [if_neg (by omega)]
    by_cases surrogate : n = 0xD
    · subst surrogate
      exact ⟨_, _, rfl, by omega, by have := noSurrogate rfl; omega⟩
    · rw [if_neg (by omega), show n + 0xE0 - 0xE0 = n by omega]
      exact ⟨_, _, rfl, by omega, by omega⟩

/-- The same for four bytes. -/
theorem start_four {n m : Nat} (next : m < 0x40) (long : 0 < n ∨ 0x10 ≤ m)
    (inside : n < 4 ∨ n = 4 ∧ m < 0x10) :
    ∃ low high, start (n + 0xF0) = ([], some ⟨n, 2, low, high⟩) ∧
      low ≤ m + 0x80 ∧ m + 0x80 ≤ high := by
  have h1 : ¬ n + 0xF0 < 0x80 := by omega
  have h2 : ¬ n + 0xF0 < 0xC2 := by omega
  have h3 : ¬ n + 0xF0 < 0xE0 := by omega
  have h4 : ¬ n + 0xF0 = 0xE0 := by omega
  have h5 : ¬ n + 0xF0 = 0xED := by omega
  have h6 : ¬ n + 0xF0 < 0xF0 := by omega
  simp only [start, h1, h2, h3, h4, h5, h6, if_false]
  rcases Nat.eq_zero_or_pos n with rfl | positive
  · exact ⟨_, _, rfl, by omega, by omega⟩
  · rw [if_neg (by omega)]
    by_cases last : n = 4
    · subst last
      exact ⟨_, _, rfl, by omega, by omega⟩
    · rw [if_pos (by omega), show n + 0xF0 - 0xF0 = n by omega]
      exact ⟨_, _, rfl, by omega, by omega⟩

/-- A character is read back from its bytes, whatever follows them. -/
theorem decodeAfter_utf8EncodeChar (c : Char) (rest : List UInt8) :
    decodeAfter none (String.utf8EncodeChar c ++ rest) = some c :: decodeAfter none rest := by
  have valid : c.val.toNat < 0xD800 ∨ 0xDFFF < c.val.toNat ∧ c.val.toNat < 0x110000 := c.valid
  have same : Char.ofNat c.val.toNat = c := Char.ofNat_toNat c
  rw [String.utf8EncodeChar]
  generalize c.val.toNat = v at *
  have byte {n : Nat} (small : n < 256) : (UInt8.ofNat n).toNat = n := by
    rw [UInt8.toNat_ofNat']
    exact Nat.mod_eq_of_lt small
  split
  · have ascii : v < 0x80 := by omega
    simp [decodeAfter, byte, step, start, same, ascii, show v < 256 by omega]
  split
  · rw [List.cons_append, List.singleton_append, decodeAfter, decodeAfter, byte (by omega),
      byte (by omega), step, start_two (by omega) (by omega), step_last (by omega) (by omega)]
    have bits : v / 64 % 32 * 0x40 + (v % 64 + 128 - 0x80) = v := by omega
    rw [bits, same]
    rfl
  split
  · rw [List.cons_append, List.cons_append, List.singleton_append, decodeAfter, decodeAfter,
      decodeAfter, byte (by omega), byte (by omega), byte (by omega), step]
    rcases start_three (n := v / 4096 % 16) (m := v / 64 % 64) (by omega) (by omega) (by omega)
      (by omega) with ⟨low, high, first, above, below⟩
    have bits : (v / 4096 % 16 * 0x40 + (v / 64 % 64 + 128 - 0x80)) * 0x40 +
        (v % 64 + 128 - 0x80) = v := by omega
    rw [first, step_more above below, step_last (by omega) (by omega), bits, same]
    rfl
  · rw [List.cons_append, List.cons_append, List.cons_append, List.singleton_append, decodeAfter,
      decodeAfter, decodeAfter, decodeAfter, byte (by omega), byte (by omega), byte (by omega),
      byte (by omega), step]
    rcases start_four (n := v / 262144 % 8) (m := v / 4096 % 64) (by omega) (by omega) (by omega)
      with ⟨low, high, first, above, below⟩
    have bits : ((v / 262144 % 8 * 0x40 + (v / 4096 % 64 + 128 - 0x80)) * 0x40 +
        (v / 64 % 64 + 128 - 0x80)) * 0x40 + (v % 64 + 128 - 0x80) = v := by omega
    rw [first, step_more above below, step_more (by omega) (by omega),
      step_last (by omega) (by omega), bits, same]
    rfl

/-- Every text is read back from its bytes, without a gap. -/
theorem decode_encode (s : List Char) : decode (encode s) = s.map some := by
  unfold decode encode
  induction s with
  | nil => rfl
  | cons c rest ih => rw [List.flatMap_cons, decodeAfter_utf8EncodeChar, ih, List.map_cons]

end Utf8

end AuthRedirect.Text

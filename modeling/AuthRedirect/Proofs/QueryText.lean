import AuthRedirect.Proofs.Lowercase
import AuthRedirect.Url.Query

/-!
Queries that are written and read again. Percent encoding leaves nothing but letters,
digits, a few marks and percent signs, so that a name ends at the first `=` and a parameter
at the next `&`. What is read from it are the bytes of the text, and they make up the text
again. So the parameters that a query is written from are read back from it, whatever
characters they hold: `parameters_queryText`.
-/

namespace AuthRedirect.Url

open AuthRedirect.Text

variable {c : Char} {s : List Char} {byte : UInt8}

/-! ## The characters of a query -/

theorem ascii_of_isUnreserved (plain : isUnreserved c = true) : c.toNat < 0x80 := by
  simp only [isUnreserved, Bool.or_eq_true, beq_iff_eq] at plain
  rcases plain with (((name | rfl) | rfl) | rfl) | rfl
  · exact ascii_of_isAlphanum name
  all_goals decide

theorem isUnreserved_hexDigitCapital {n : Nat} (small : n < 16) :
    isUnreserved (hexDigitCapital n) = true :=
  (by decide : ∀ n < 16, isUnreserved (hexDigitCapital n) = true) n small

theorem mem_percentByte (among : c ∈ percentByte byte) : c = '%' ∨ isUnreserved c = true := by
  have bound := byte.toNat_lt
  simp only [percentByte, List.mem_cons, List.not_mem_nil, or_false] at among
  rcases among with rfl | rfl | rfl
  · exact .inl rfl
  · exact .inr (isUnreserved_hexDigitCapital (by omega))
  · exact .inr (isUnreserved_hexDigitCapital (by omega))

theorem mem_percentEncode (among : c ∈ percentEncode s) : c = '%' ∨ isUnreserved c = true := by
  obtain ⟨d, -, inChar⟩ := List.mem_flatMap.mp among
  unfold percentChar at inChar
  split at inChar
  · next plain =>
      rw [List.mem_singleton.mp inChar]
      exact .inr plain
  · obtain ⟨byte, -, inByte⟩ := List.mem_flatMap.mp inChar
    exact mem_percentByte inByte

/-- A mark that is written in percent encoding does not stand in it. -/
theorem not_mem_percentEncode (percent : c ≠ '%') (mark : isUnreserved c = false)
    (s : List Char) : c ∉ percentEncode s := by
  intro among
  rcases mem_percentEncode among with sign | plain
  · exact percent sign
  · rw [mark] at plain
    cases plain

theorem mem_parameterText {parameter : Parameter} (among : c ∈ parameterText parameter) :
    c = '=' ∨ c = '%' ∨ isUnreserved c = true := by
  rcases List.mem_append.mp among with inName | behind
  · exact .inr (mem_percentEncode inName)
  · rcases List.mem_cons.mp behind with equals | inValue
    · exact .inl equals
    · exact .inr (mem_percentEncode inValue)

theorem mem_queryText {parameters : List Parameter} (among : c ∈ queryText parameters) :
    c = '&' ∨ c = '=' ∨ c = '%' ∨ isUnreserved c = true := by
  induction parameters with
  | nil => cases among
  | cons parameter rest ih =>
      cases rest with
      | nil =>
          rw [queryText, List.map_singleton, List.intercalate_singleton] at among
          exact .inr (mem_parameterText among)
      | cons other rest =>
          rw [queryText, List.map_cons, List.map_cons, List.intercalate_cons_cons,
            List.append_assoc] at among
          rcases List.mem_append.mp among with first | behind
          · exact .inr (mem_parameterText first)
          · rcases List.mem_cons.mp behind with ampersand | later
            · exact .inl ampersand
            · exact ih later

theorem queryText_ne_nil {parameters : List Parameter} (some : parameters ≠ []) :
    queryText parameters ≠ [] := by
  cases parameters with
  | nil => exact absurd rfl some
  | cons parameter rest =>
      cases rest with
      | nil => simp [queryText, parameterText]
      | cons other rest => simp [queryText, parameterText]

/-! ## Bytes -/

theorem byteOf?_percentByte (byte : UInt8) :
    byteOf? (hexDigitCapital (byte.toNat / 16)) (hexDigitCapital (byte.toNat % 16)) =
      some byte := by
  have bound := byte.toNat_lt
  have value : byte.toNat / 16 * 16 + byte.toNat % 16 = byte.toNat := by omega
  rw [byteOf?, hexValue?_hexDigitCapital (by omega), hexValue?_hexDigitCapital (by omega)]
  dsimp only
  rw [value, UInt8.ofNat_toNat]

theorem pieces_percentByte (byte : UInt8) (rest : List Char) :
    pieces (percentByte byte ++ rest) = .byte byte :: pieces rest := by
  rw [percentByte, List.cons_append, List.cons_append, List.cons_append, List.nil_append, pieces,
    byteOf?_percentByte]

theorem pieces_flatMap_percentByte (bytes : List UInt8) (rest : List Char) :
    pieces (bytes.flatMap percentByte ++ rest) = bytes.map .byte ++ pieces rest := by
  induction bytes with
  | nil => rfl
  | cons byte bytes ih =>
      rw [List.flatMap_cons, List.append_assoc, pieces_percentByte, ih, List.map_cons,
        List.cons_append]

/-- A character other than a percent sign is read as it stands. -/
theorem pieces_cons (notPercent : c ≠ '%') (rest : List Char) :
    pieces (c :: rest) = literal c :: pieces rest := by
  rw [pieces]
  intro high low more percent
  exact absurd percent notPercent

theorem utf8EncodeChar_of_ascii (ascii : c.toNat < 0x80) :
    String.utf8EncodeChar c = [UInt8.ofNat c.toNat] := by
  have first : c.val.toNat ≤ 0x7f := Nat.le_of_lt_succ ascii
  rw [String.utf8EncodeChar]
  exact if_pos first

/-- A character is read as its bytes, whether it was written as itself or not. -/
theorem pieces_percentChar (c : Char) (rest : List Char) :
    pieces (percentChar c ++ rest) = (String.utf8EncodeChar c).map .byte ++ pieces rest := by
  unfold percentChar
  split
  · next plain =>
      have ascii := ascii_of_isUnreserved plain
      have notPercent : c ≠ '%' := by
        rintro rfl
        exact absurd plain (by decide)
      rw [List.singleton_append, pieces_cons notPercent, literal, if_pos ascii,
        utf8EncodeChar_of_ascii ascii]
      rfl
  · exact pieces_flatMap_percentByte _ rest

theorem pieces_percentEncode (s : List Char) :
    pieces (percentEncode s) = (Utf8.encode s).map .byte := by
  unfold percentEncode Utf8.encode
  induction s with
  | nil => rfl
  | cons c rest ih =>
      rw [List.flatMap_cons, pieces_percentChar, ih, List.flatMap_cons, List.map_append]

theorem readPieces_map_byte (pending : Option Utf8.Pending) (bytes : List UInt8) :
    readPieces pending (bytes.map .byte) = Utf8.decodeAfter pending bytes := by
  induction bytes generalizing pending with
  | nil => rfl
  | cons byte rest ih => rw [List.map_cons, readPieces, Utf8.decodeAfter, ih]

/-! ## Reading back -/

theorem percentDecode_percentEncode (s : List Char) : percentDecode (percentEncode s) = s := by
  have decoded : Utf8.decodeAfter none (Utf8.encode s) = s.map some := Utf8.decode_encode s
  rw [percentDecode, pieces_percentEncode, readPieces_map_byte, decoded,
    RawText.lossy_map_some]

/-- Percent encoding holds no plus sign that could be taken for a space. -/
theorem readComponent_percentEncode (s : List Char) : readComponent (percentEncode s) = s := by
  have noPlus : ∀ c ∈ percentEncode s, (if c = '+' then ' ' else c) = c := by
    intro c among
    refine if_neg fun plus => ?_
    rw [plus] at among
    exact not_mem_percentEncode (by decide) (by decide) s among
  rw [readComponent, List.map_congr_left noPlus, List.map_id', percentDecode_percentEncode]

theorem readParameter_parameterText (parameter : Parameter) :
    readParameter (parameterText parameter) = parameter := by
  have inName : '=' ∉ percentEncode parameter.1 := not_mem_percentEncode (by decide) (by decide) _
  rw [readParameter, parameterText, cutFirst_append inName]
  dsimp only
  rw [Option.getD_some, readComponent_percentEncode, readComponent_percentEncode]

/-- The parameters that a query is written from are read back from it. -/
theorem parameters_queryText (given : List Parameter) : parameters (queryText given) = given := by
  have alone : ∀ piece ∈ given.map parameterText, '&' ∉ piece := by
    intro piece listed among
    obtain ⟨parameter, -, rfl⟩ := List.mem_map.mp listed
    rcases mem_parameterText among with equals | percent | plain
    · cases equals
    · cases percent
    · exact absurd plain (by decide)
  have written : ∀ piece ∈ given.map parameterText, (!piece.isEmpty) = true := by
    intro piece listed
    obtain ⟨parameter, -, rfl⟩ := List.mem_map.mp listed
    simp [parameterText]
  have back : readParameter ∘ parameterText = id := funext readParameter_parameterText
  cases given with
  | nil => rfl
  | cons parameter rest =>
      rw [parameters, queryText, List.splitOn_intercalate _ alone (List.cons_ne_nil _ _),
        List.filter_eq_self.mpr written, List.map_map, back, List.map_id]

end AuthRedirect.Url

import AuthRedirect.Json.Printer
import AuthRedirect.Json.Reader
import Mathlib.Data.List.Nodup
import Mathlib.Tactic.SplitIfs

/-!
Reading back what was written as JSON. The printer and the reader share no
definition: one walks over a value, the other keeps a stack of open containers
and takes one token at a time from a machine that takes one symbol at a time.

`parse_render` says that a value without numbers is read back from its text, for
every way of escaping that is `Faithful`; `escape_faithful` and `asciiEscape_faithful`
say that those of documents and of log records are. All go through texts with
something behind them, so that the parts of a container are read one after the other.
-/

namespace AuthRedirect.Json

open AuthRedirect.Text

/-! ## One string -/

/-- Whether the string machine takes what is written for a character as that
character, whatever stands around it. -/
def Faithful (escape : Char → List Char) : Prop :=
  ∀ (c : Char) (read rest : RawText),
    tokensAfter (.string read .none) ((escape c).map some ++ rest) =
      tokensAfter (.string (some c :: read) .none) rest

/-- A symbol after which a string goes on. -/
theorem tokensAfter_string_of_more {read read' rest : RawText} {state state' : Escape}
    {symbol : Option Char} (more : stringStep read state symbol = .more read' state') :
    tokensAfter (.string read state) (symbol :: rest) =
      tokensAfter (.string read' state') rest := by
  rw [tokensAfter, step, more]
  rfl

theorem tokensAfter_string_ended {read read' rest : RawText} {state : Escape}
    {symbol : Option Char} (ended : stringStep read state symbol = .ended read') :
    tokensAfter (.string read state) (symbol :: rest) =
      .text read' :: tokensAfter .between rest := by
  rw [tokensAfter, step, ended]
  rfl

/-- The four digits of an escape are read as their code unit. -/
theorem tokensAfter_hexDigits {unit : Nat} (small : unit < 0x10000) {high : Option Nat}
    {read read' : RawText} {state : Escape}
    (added : addUnit read unit high = .more read' state) (rest : RawText) :
    tokensAfter (.string read (.digits 3 0 high)) ((hexDigits 4 unit).map some ++ rest) =
      tokensAfter (.string read' state) rest := by
  have digit (n left value : Nat) (above : n < 16) :
      stringStep read (.digits (left + 1) value high) (some (hexDigit n)) =
        .more read (.digits left (value * 16 + n) high) := by
    simp only [stringStep, hexValue?_hexDigit above]
  have last (n value : Nat) (above : n < 16) (same : value * 16 + n = unit) :
      stringStep read (.digits 0 value high) (some (hexDigit n)) = .more read' state := by
    simp only [stringStep, hexValue?_hexDigit above, same, added]
  simp only [hexDigits, List.nil_append, List.cons_append, List.map_cons, List.map_nil]
  rw [tokensAfter_string_of_more (digit _ _ _ (Nat.mod_lt _ (by decide))),
    tokensAfter_string_of_more (digit _ _ _ (Nat.mod_lt _ (by decide))),
    tokensAfter_string_of_more (digit _ _ _ (Nat.mod_lt _ (by decide))),
    tokensAfter_string_of_more (last _ _ (Nat.mod_lt _ (by decide)) (by omega))]

/-- An escape of four digits is read as its code unit, when that is no surrogate. -/
theorem tokensAfter_unitEscape {unit : Nat} (small : unit < 0x10000)
    (alone : unit < 0xD800 ∨ 0xDFFF < unit) (read rest : RawText) :
    tokensAfter (.string read .none) ((unitEscape unit).map some ++ rest) =
      tokensAfter (.string (some (Char.ofNat unit) :: read) .none) rest := by
  have added : addUnit read unit none = .more (some (Char.ofNat unit) :: read) .none := by
    rw [addUnit, if_pos alone]
  simp only [unitEscape, List.cons_append, List.map_cons]
  rw [tokensAfter_string_of_more (by rfl), tokensAfter_string_of_more (by rfl),
    tokensAfter_hexDigits small added]

/-- A pair of surrogates is read as the code that it was made from. -/
theorem addUnit_pair {code : Nat} (wide : 0x10000 ≤ code) (inside : code < 0x110000)
    (read : RawText) :
    addUnit read (0xD800 + (code - 0x10000) / 0x400) none =
        .more read (.awaitingLow (0xD800 + (code - 0x10000) / 0x400)) ∧
      addUnit read (0xDC00 + (code - 0x10000) % 0x400)
          (some (0xD800 + (code - 0x10000) / 0x400)) =
        .more (some (Char.ofNat code) :: read) .none := by
  constructor
  · rw [addUnit, if_neg (by omega), if_pos (by omega)]
  · have same : 0x10000 + (0xD800 + (code - 0x10000) / 0x400 - 0xD800) * 0x400 +
        (0xDC00 + (code - 0x10000) % 0x400 - 0xDC00) = code := by omega
    rw [addUnit, if_pos (by omega), same]

/-- A character is read from its escapes, the pair of surrogates among them. -/
theorem tokensAfter_wideEscape (c : Char) (read rest : RawText) :
    tokensAfter (.string read .none) ((wideEscape c).map some ++ rest) =
      tokensAfter (.string (some c :: read) .none) rest := by
  have valid : c.toNat < 0xD800 ∨ 0xDFFF < c.toNat ∧ c.toNat < 0x110000 := c.valid
  unfold wideEscape
  split
  · next small =>
      rw [tokensAfter_unitEscape small (by omega), Char.ofNat_toNat]
  · next wide =>
      have inside : c.toNat < 0x110000 := by omega
      obtain ⟨opened, closed⟩ := addUnit_pair (Nat.not_lt.mp wide) inside read
      rw [Char.ofNat_toNat] at closed
      simp only [unitEscape, List.map_append, List.map_cons, List.cons_append, List.append_assoc]
      rw [tokensAfter_string_of_more (by rfl), tokensAfter_string_of_more (by rfl),
        tokensAfter_hexDigits (by omega) opened, tokensAfter_string_of_more (by rfl),
        tokensAfter_string_of_more (by rfl), tokensAfter_hexDigits (by omega) closed]

/-- The letter of a short escape stands for the character that it escapes. -/
theorem unescape?_of_shortEscape? {c letter : Char} (short : shortEscape? c = some letter) :
    unescape? letter = some c ∧ letter ≠ 'u' := by
  unfold shortEscape? at short
  split_ifs at short with same same same same same same same
  all_goals
    cases short
    subst same
    decide

/-- A character without a short escape neither ends a string nor starts an
escape. -/
theorem ne_of_shortEscape?_eq_none {c : Char} (long : shortEscape? c = none) :
    c ≠ '"' ∧ c ≠ '\\' := by
  constructor
  · intro quote
    rw [quote] at long
    cases long
  · intro backslash
    rw [backslash] at long
    cases long

/-- A short escape is read as the character that it escapes. -/
theorem tokensAfter_shortEscape {c letter : Char} (short : shortEscape? c = some letter)
    (read rest : RawText) :
    tokensAfter (.string read .none) (some '\\' :: some letter :: rest) =
      tokensAfter (.string (some c :: read) .none) rest := by
  obtain ⟨meant, notUnit⟩ := unescape?_of_shortEscape? short
  have second : stringStep read .started (some letter) = .more (some c :: read) .none := by
    simp only [stringStep, notUnit, meant, if_false]
  rw [tokensAfter_string_of_more (by rfl), tokensAfter_string_of_more second]

/-- A character that is shown is read as itself. -/
theorem tokensAfter_shown {c : Char} (long : shortEscape? c = none) (shown : ¬ c.toNat < 0x20)
    (read rest : RawText) :
    tokensAfter (.string read .none) (some c :: rest) =
      tokensAfter (.string (some c :: read) .none) rest := by
  obtain ⟨notQuote, notSlash⟩ := ne_of_shortEscape?_eq_none long
  apply tokensAfter_string_of_more
  simp only [stringStep, notQuote, notSlash, shown, if_false]

theorem escape_faithful : Faithful escape := by
  intro c read rest
  unfold escape
  cases short : shortEscape? c with
  | some letter => exact tokensAfter_shortEscape short read rest
  | none =>
      dsimp only
      split
      · next control =>
          rw [tokensAfter_unitEscape (by omega) (by omega), Char.ofNat_toNat]
      · next shown => exact tokensAfter_shown short shown read rest

theorem asciiEscape_faithful : Faithful asciiEscape := by
  intro c read rest
  unfold asciiEscape
  cases short : shortEscape? c with
  | some letter => exact tokensAfter_shortEscape short read rest
  | none =>
      dsimp only
      split
      · exact tokensAfter_wideEscape c read rest
      · next shown =>
          have shown : ¬ c.toNat < 0x20 ∧ c.toNat < 0x7F := by simpa using shown
          exact tokensAfter_shown short shown.1 read rest

/-- A string is read as one token with the characters that were written. -/
theorem tokensAfter_quote {escape : Char → List Char} (faithful : Faithful escape) (s : String)
    (rest : RawText) :
    tokensAfter .between ((quote escape s).map some ++ rest) =
      .text (rawText s) :: tokensAfter .between rest := by
  have inside (front : RawText) (characters : List Char) :
      tokensAfter (.string front .none)
          ((characters.flatMap escape ++ ['"']).map some ++ rest) =
        .text (front.reverse ++ characters.map some) :: tokensAfter .between rest := by
    -- The machine keeps what it has read, so the front has to vary.
    induction characters generalizing front with
    | nil =>
        rw [List.map_nil, List.append_nil]
        exact tokensAfter_string_ended rfl
    | cons c others ih =>
        rw [List.flatMap_cons, List.append_assoc, List.map_append, List.append_assoc,
          faithful c front, ih]
        simp
  exact inside [] s.toList

/-! ## Reading on -/

/-- Where the reader comes to from a state in the middle of a text. -/
def readFrom (state : State) (mode : Mode) (s : RawText) : Except Problem State :=
  (tokensAfter mode s).foldlM State.read state

theorem parse_eq (s : RawText) :
    parse s = readFrom (.awaitValue []) .between s >>= State.value? :=
  rfl

/-- One token at the front, and the text behind it. -/
theorem readFrom_of_tokens {state next : State} {token : Token} {s rest : RawText}
    (tokens : tokensAfter .between s = token :: tokensAfter .between rest)
    (read : state.read token = .ok next) :
    readFrom state .between s = readFrom next .between rest := by
  rw [readFrom, tokens, List.foldlM_cons, read]
  rfl

/-- The states in which a value may begin that goes into the given containers:
one that waits for a value, and one that would also take the end of an array. -/
def Opens (entry : State) (frames : List Frame) : Prop :=
  ∀ token, token ≠ .closeArray → entry.read token = readValue frames token

theorem opens_awaitValue (frames : List Frame) : Opens (.awaitValue frames) frames :=
  fun _ _ => rfl

theorem opens_awaitFirstItem (frames : List Frame) :
    Opens (.awaitFirstItem frames) (.array [] :: frames) := by
  intro token other
  cases token <;> first | rfl | exact absurd rfl other

theorem wholeText_rawText (s : String) : wholeText (rawText s) = .ok s := by
  simp [wholeText, rawText]

theorem State.read_firstName (name : String) (frames : List Frame) :
    (State.awaitFirstName frames).read (.text (rawText name)) =
      .ok (.awaitColon [] name frames) := by
  rw [State.read, wholeText_rawText]
  rfl

theorem State.read_name (members : Members) (name : String) (frames : List Frame) :
    (State.awaitName members frames).read (.text (rawText name)) =
      .ok (.awaitColon members name frames) := by
  rw [State.read, wholeText_rawText]
  rfl

theorem State.read_of_text {s : String} {frames : List Frame} {entry : State}
    (opens : Opens entry frames) :
    entry.read (.text (rawText s)) = .ok (deliver (.str s) frames) := by
  rw [opens _ (by simp), readValue, wholeText_rawText]
  rfl

/-! ## One value -/

/-- Values without numbers whose objects have distinct names. -/
inductive Plain : Json → Prop
  | null : Plain .null
  | bool (value : Bool) : Plain (.bool value)
  | str (text : String) : Plain (.str text)
  | arr {items : List Json} : (∀ item ∈ items, Plain item) → Plain (.arr items)
  | obj {members : Members} : (members.map Prod.fst).Nodup →
    (∀ member ∈ members, Plain member.2) → Plain (.obj members)

/-- Whether a value is read from its text, with anything behind it. -/
def Reads (escape : Char → List Char) (value : Json) : Prop :=
  ∀ (entry : State) (frames : List Frame) (rest : RawText), Opens entry frames →
    readFrom entry .between ((render escape value).map some ++ rest) =
      readFrom (deliver value frames) .between rest

variable {escape : Char → List Char}

/-- The items after the first and the end of the array. -/
theorem readFrom_renderItems {items : List Json} (reads : ∀ item ∈ items, Reads escape item)
    (done : List Json) (frames : List Frame) (rest : RawText) :
    readFrom (.afterItem done frames) .between ((renderItems escape items).map some ++ rest) =
      readFrom (deliver (.arr (done.reverse ++ items)) frames) .between rest := by
  induction items generalizing done with
  | nil =>
      rw [List.append_nil]
      exact readFrom_of_tokens rfl rfl
  | cons item items ih =>
      have comma : readFrom (.afterItem done frames) .between
            ((renderItems escape (item :: items)).map some ++ rest) =
          readFrom (.awaitValue (.array done :: frames)) .between
            ((render escape item).map some ++ ((renderItems escape items).map some ++ rest)) := by
        simp only [renderItems, List.map_append, List.map_cons, List.cons_append,
          List.append_assoc]
        exact readFrom_of_tokens rfl rfl
      rw [comma, reads item List.mem_cons_self _ _ _ (opens_awaitValue _), deliver,
        ih fun other member => reads other (List.mem_cons_of_mem _ member)]
      simp

/-- A name, the colon and a value. -/
theorem readFrom_member (faithful : Faithful escape) {state : State} {name : String}
    {done : Members} {frames : List Frame}
    (named : state.read (.text (rawText name)) = .ok (.awaitColon done name frames))
    {value : Json} (reads : Reads escape value) (rest : RawText) :
    readFrom state .between
        ((quote escape name ++ ':' :: render escape value).map some ++ rest) =
      readFrom (.afterMember (put done name value) frames) .between rest := by
  simp only [List.map_append, List.map_cons, List.cons_append, List.append_assoc]
  rw [readFrom_of_tokens (tokensAfter_quote faithful name _) named]
  have colon : readFrom (.awaitColon done name frames) .between
        (some ':' :: ((render escape value).map some ++ rest)) =
      readFrom (.awaitValue (.object done name :: frames)) .between
        ((render escape value).map some ++ rest) :=
    readFrom_of_tokens rfl rfl
  rw [colon, reads _ _ _ (opens_awaitValue _), deliver]

theorem not_mem_of_nodup_append {name : String} {before after : List String}
    (distinct : (before ++ name :: after).Nodup) : name ∉ before :=
  fun among => (List.nodup_append.mp distinct).2.2 name among name List.mem_cons_self rfl

/-- The members after the first and the end of the object. Every name is a new
one, so each member is put at the end. -/
theorem readFrom_renderMembers (faithful : Faithful escape) {members : Members}
    (reads : ∀ member ∈ members, Reads escape member.2) (done : Members)
    (distinct : ((done ++ members).map Prod.fst).Nodup) (frames : List Frame) (rest : RawText) :
    readFrom (.afterMember done frames) .between
        ((renderMembers escape members).map some ++ rest) =
      readFrom (deliver (.obj (done ++ members)) frames) .between rest := by
  induction members generalizing done with
  | nil =>
      rw [List.append_nil]
      exact readFrom_of_tokens rfl rfl
  | cons member members ih =>
      obtain ⟨name, value⟩ := member
      have newName : name ∉ done.map Prod.fst := by
        rw [List.map_append, List.map_cons] at distinct
        exact not_mem_of_nodup_append distinct
      have comma : readFrom (.afterMember done frames) .between
            ((renderMembers escape ((name, value) :: members)).map some ++ rest) =
          readFrom (.awaitName done frames) .between
            ((quote escape name ++ ':' :: render escape value).map some ++
              ((renderMembers escape members).map some ++ rest)) := by
        simp only [renderMembers, List.map_append, List.map_cons, List.cons_append,
          List.append_assoc]
        exact readFrom_of_tokens rfl rfl
      rw [comma, readFrom_member faithful (State.read_name done name frames)
          (reads (name, value) List.mem_cons_self),
        put_of_not_mem value newName,
        ih (fun other member => reads other (List.mem_cons_of_mem _ member)) _
          (by simpa using distinct)]
      simp

/-- A plain value is read back, wherever a value may begin. -/
theorem reads_of_plain (faithful : Faithful escape) {value : Json} (plain : Plain value) :
    Reads escape value := by
  induction plain with
  | null =>
      intro entry frames rest opens
      exact readFrom_of_tokens rfl (opens _ (by simp))
  | bool value =>
      intro entry frames rest opens
      cases value with
      | false => exact readFrom_of_tokens rfl (opens _ (by simp))
      | true => exact readFrom_of_tokens rfl (opens _ (by simp))
  | str text =>
      intro entry frames rest opens
      rw [render]
      exact readFrom_of_tokens (tokensAfter_quote faithful text rest) (State.read_of_text opens)
  | @arr items _ ih =>
      intro entry frames rest opens
      cases items with
      | nil =>
          have opened : readFrom entry .between ((render escape (.arr [])).map some ++ rest) =
              readFrom (.awaitFirstItem frames) .between (some ']' :: rest) :=
            readFrom_of_tokens rfl (opens _ (by simp))
          rw [opened]
          exact readFrom_of_tokens rfl rfl
      | cons item items =>
          have opened : readFrom entry .between
                ((render escape (.arr (item :: items))).map some ++ rest) =
              readFrom (.awaitFirstItem frames) .between
                ((render escape item).map some ++
                  ((renderItems escape items).map some ++ rest)) := by
            simp only [render, List.map_append, List.map_cons, List.cons_append, List.append_assoc]
            exact readFrom_of_tokens rfl (opens _ (by simp))
          rw [opened, ih item List.mem_cons_self _ _ _ (opens_awaitFirstItem frames), deliver,
            readFrom_renderItems fun other member => ih other (List.mem_cons_of_mem _ member)]
          rfl
  | @obj members distinct _ ih =>
      intro entry frames rest opens
      cases members with
      | nil =>
          have opened : readFrom entry .between ((render escape (.obj [])).map some ++ rest) =
              readFrom (.awaitFirstName frames) .between (some '\x7d' :: rest) :=
            readFrom_of_tokens rfl (opens _ (by simp))
          rw [opened]
          exact readFrom_of_tokens rfl rfl
      | cons member members =>
          obtain ⟨name, value⟩ := member
          have opened : readFrom entry .between
                ((render escape (.obj ((name, value) :: members))).map some ++ rest) =
              readFrom (.awaitFirstName frames) .between
                ((quote escape name ++ ':' :: render escape value).map some ++
                  ((renderMembers escape members).map some ++ rest)) := by
            simp only [render, List.map_append, List.map_cons, List.cons_append, List.append_assoc]
            exact readFrom_of_tokens rfl (opens _ (by simp))
          rw [opened, readFrom_member faithful (State.read_firstName name frames)
            (ih (name, value) List.mem_cons_self)]
          exact readFrom_renderMembers faithful
            (fun other member => ih other (List.mem_cons_of_mem _ member)) [(name, value)]
            distinct frames rest

/-- A plain value is read back from its text. -/
theorem parse_render (faithful : Faithful escape) {value : Json} (plain : Plain value) :
    parse ((render escape value).map some) = .ok value := by
  have read := reads_of_plain faithful plain _ _ [] (opens_awaitValue [])
  rw [List.append_nil] at read
  rw [parse_eq, read]
  rfl

/-- A plain value is read back from its document. -/
theorem parse_documentText {value : Json} (plain : Plain value) :
    parse (rawText value.documentText) = .ok value := by
  rw [rawText, documentText, String.toList_ofList]
  exact parse_render escape_faithful plain

end AuthRedirect.Json

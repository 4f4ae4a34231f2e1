import AuthRedirect.Log.Event
import AuthRedirect.Proofs.Outcomes
import AuthRedirect.Proofs.WholeNumbers

/-!
Log records cannot be forged. Names and values of fields come from outside, and nothing that
they hold can end a record, add a member to it or change another one: `records_read_back` says
that a record is one line of ASCII from which the event is read back, its fields with a value in
their order.

The text of a record is taken apart into tokens (`tokens_render`), and the tokens are then read
(`readTokens_furtherTokens`). Only the second step knows how a reader values numbers.
-/

namespace AuthRedirect.Log

open AuthRedirect.Text AuthRedirect.Json

/-! ## Characters -/

/-- Whether a text has only characters of ASCII that are shown. -/
def Shown (s : List Char) : Prop :=
  ∀ c ∈ s, 0x20 ≤ c.toNat ∧ c.toNat < 0x7F

instance (s : List Char) : Decidable (Shown s) :=
  List.decidableBAll _ s

variable {s t : List Char}

theorem Shown.append (left : Shown s) (right : Shown t) : Shown (s ++ t) :=
  List.forall_mem_append.mpr ⟨left, right⟩

theorem Shown.cons {c : Char} (first : Shown [c]) (rest : Shown s) : Shown (c :: s) :=
  first.append rest

theorem shown_hexDigits (width n : Nat) : Shown (hexDigits width n) := by
  induction width generalizing n with
  | zero => exact List.forall_mem_nil _
  | succ width ih =>
      have last : ∀ digit < 16, Shown [hexDigit digit] := by decide
      exact (ih (n / 16)).append (last _ (Nat.mod_lt n (by decide)))

theorem shown_unitEscape (unit : Nat) : Shown (unitEscape unit) :=
  .cons (by decide) (.cons (by decide) (shown_hexDigits 4 unit))

theorem shown_wideEscape (c : Char) : Shown (wideEscape c) := by
  unfold wideEscape
  split
  · exact shown_unitEscape _
  · exact (shown_unitEscape _).append (shown_unitEscape _)

/-- The letters of short escapes are shown. -/
theorem shown_of_shortEscape? {c letter : Char} (short : shortEscape? c = some letter) :
    Shown ['\\', letter] := by
  unfold shortEscape? at short
  split_ifs at short
  all_goals
    cases short
    decide

theorem shown_asciiEscape (c : Char) : Shown (asciiEscape c) := by
  unfold asciiEscape
  split
  · next letter short => exact shown_of_shortEscape? short
  · split
    · exact shown_wideEscape c
    · next shown =>
        intro other among
        rw [List.mem_singleton.mp among]
        simpa using shown

theorem shown_quote (text : String) : Shown (quote asciiEscape text) := by
  refine Shown.append (Shown.cons (by decide) ?_) (by decide)
  intro c among
  obtain ⟨original, -, escaped⟩ := List.mem_flatMap.mp among
  exact shown_asciiEscape original c escaped

theorem shown_decimalDigits (n : Nat) : Shown (decimalDigits n) := by
  intro c among
  have digit := Nat.isDigit_of_mem_toDigits (by decide) (by decide) among
  obtain ⟨above, below⟩ := Char.isDigit_iff_toNat.mp digit
  exact ⟨Nat.le_trans (by decide) above, Nat.lt_of_le_of_lt below (by decide)⟩

theorem shown_decimalInt (value : Int) : Shown (decimalInt value) := by
  cases value with
  | ofNat n => exact shown_decimalDigits n
  | negSucc n => exact .cons (by decide) (shown_decimalDigits (n + 1))

mutual

/-- Whatever value is written for a log, it is written in characters that are shown. -/
theorem shown_render : ∀ value : Json, Shown (render asciiEscape value)
  | .null => by decide
  | .bool true => by decide
  | .bool false => by decide
  | .int value => shown_decimalInt value
  | .decimal mantissa exponent =>
      (shown_decimalInt mantissa).append (.cons (by decide) (shown_decimalInt exponent))
  | .str text => shown_quote text
  | .arr [] => by decide
  | .arr (item :: items) =>
      (Shown.cons (by decide) (shown_render item)).append (shown_renderItems items)
  | .obj [] => by decide
  | .obj ((name, value) :: members) =>
      (Shown.append (Shown.cons (by decide) (shown_quote name))
        (Shown.cons (by decide) (shown_render value))).append (shown_renderMembers members)

theorem shown_renderItems : ∀ items : List Json, Shown (renderItems asciiEscape items)
  | [] => by decide
  | item :: items =>
      (Shown.cons (by decide) (shown_render item)).append (shown_renderItems items)

theorem shown_renderMembers : ∀ members : Members, Shown (renderMembers asciiEscape members)
  | [] => by decide
  | (name, value) :: members =>
      (Shown.append (Shown.cons (by decide) (shown_quote name))
        (Shown.cons (by decide) (shown_render value))).append (shown_renderMembers members)

end

/-! ## Members -/

/-- The fields that have a value. -/
def given (fields : List (String × Option Field)) : List (String × Field) :=
  fields.filterMap fun field => field.2.map (Prod.mk field.1)

/-- The member that a field with a value makes up. -/
def member (field : String × Field) : String × Json :=
  (field.1, field.2.toJson)

theorem mem_given {name : String} {field : Field} {fields : List (String × Option Field)} :
    (name, field) ∈ given fields ↔ (name, some field) ∈ fields := by
  simp [given]

theorem given_names_sublist (fields : List (String × Option Field)) :
    ((given fields).map Prod.fst).Sublist (fields.map Prod.fst) := by
  induction fields with
  | nil => exact .slnil
  | cons field fields ih =>
      obtain ⟨name, value⟩ := field
      cases value with
      | none => exact ih.cons name
      | some value => exact ih.cons_cons name

/-- Fields of new names are put at the end, one after the other. -/
theorem foldl_addField {fields : List (String × Option Field)} {done : Members}
    (distinct : (done.map Prod.fst ++ fields.map Prod.fst).Nodup) :
    fields.foldl addField done = done ++ (given fields).map member := by
  induction fields generalizing done with
  | nil => exact (List.append_nil done).symm
  | cons field fields ih =>
      obtain ⟨name, value⟩ := field
      cases value with
      | none =>
          have others := distinct.sublist (.append_left (List.sublist_cons_self _ _) _)
          exact ih others
      | some value =>
          have newName : name ∉ done.map Prod.fst := not_mem_of_nodup_append distinct
          have added : addField done (name, some value) = done ++ [(name, value.toJson)] :=
            put_of_not_mem _ newName
          rw [List.foldl_cons, added, ih (by simpa using distinct), List.append_assoc]
          rfl

/-- What the record of an event is to hold: its name, and then the fields with a value in their
order. -/
def Event.record (event : Event) : Json :=
  .obj (("event", .str event.name) :: (given event.fields).map member)

theorem Event.record_eq (event : Event) :
    event.record = .obj ((("event", .text event.name) :: given event.fields).map member) :=
  rfl

section Names

variable {event : Event} (distinct : (event.fields.map Prod.fst).Nodup)
  (unnamed : "event" ∉ event.fields.map Prod.fst)

include distinct unnamed

theorem Event.toJson_eq_record : event.toJson = event.record :=
  congrArg Json.obj (foldl_addField (List.nodup_cons.mpr ⟨unnamed, distinct⟩))

theorem Event.nodup_given : ("event" :: (given event.fields).map Prod.fst).Nodup := by
  have names := given_names_sublist event.fields
  exact List.nodup_cons.mpr ⟨fun among => unnamed (names.subset among), distinct.sublist names⟩

end Names

/-! ## Tokens -/

/-- The tokens of the value of a field. -/
def Field.tokens : Field → List Token
  | .text value => [.text (rawText value)]
  | .number value => [.number (.ofInt value)]
  | .emptyList => [.openArray, .closeArray]

/-- The tokens of a member. -/
def memberTokens (field : String × Field) : List Token :=
  .text (rawText field.1) :: .colon :: field.2.tokens

/-- The tokens of the members after the first. -/
def furtherTokens (fields : List (String × Field)) : List Token :=
  fields.flatMap fun field => .comma :: memberTokens field

theorem furtherTokens_cons (field : String × Field) (fields : List (String × Field)) :
    furtherTokens (field :: fields) = .comma :: (memberTokens field ++ furtherTokens fields) :=
  rfl

/-- A symbol that is a token on its own. -/
theorem tokensAfter_mark {c : Char} {token : Token} (mark : begin (some c) = ([token], .between))
    (rest : RawText) :
    tokensAfter .between (some c :: rest) = token :: tokensAfter .between rest := by
  rw [tokensAfter, step, mark]
  rfl

/-- What stands behind a value in an object is a comma or the end of the object, and no number
goes on with either. -/
theorem exists_renderMembers_eq_cons (escape : Char → List Char) (members : Members) :
    ∃ c rest, renderMembers escape members = c :: rest ∧ EndsNumber c := by
  cases members with
  | nil => exact ⟨'\x7d', [], rfl, by decide⟩
  | cons _ _ => exact ⟨',', _, rfl, by decide⟩

theorem tokensAfter_field (field : Field) (members : Members) :
    tokensAfter .between
        ((render asciiEscape field.toJson ++ renderMembers asciiEscape members).map some) =
      field.tokens ++ tokensAfter .between ((renderMembers asciiEscape members).map some) := by
  obtain ⟨c, rest, further, ends⟩ := exists_renderMembers_eq_cons asciiEscape members
  rw [further, List.map_append]
  cases field with
  | text value => exact tokensAfter_quote asciiEscape_faithful value _
  | number value => exact tokensAfter_decimalInt value ends _
  | emptyList => exact (tokensAfter_mark rfl _).trans (congrArg _ (tokensAfter_mark rfl _))

theorem tokensAfter_member (field : String × Field) (members : Members) :
    tokensAfter .between
        ((quote asciiEscape field.1 ++ ':' :: render asciiEscape field.2.toJson ++
          renderMembers asciiEscape members).map some) =
      memberTokens field ++
        tokensAfter .between ((renderMembers asciiEscape members).map some) := by
  rw [List.append_assoc, List.cons_append, List.map_append, List.map_cons,
    tokensAfter_quote asciiEscape_faithful, tokensAfter_mark rfl, tokensAfter_field]
  rfl

theorem tokensAfter_renderMembers (fields : List (String × Field)) :
    tokensAfter .between ((renderMembers asciiEscape (fields.map member)).map some) =
      furtherTokens fields ++ [.closeObject] := by
  induction fields with
  | nil => rfl
  | cons field fields ih =>
      have comma : begin (some ',') = ([.comma], .between) := rfl
      have whole := (tokensAfter_mark comma _).trans
        (congrArg _ (tokensAfter_member field (fields.map member)))
      rw [ih] at whole
      rw [furtherTokens_cons, List.cons_append, List.append_assoc]
      exact whole

/-- A record consists of the tokens of its members, in their order. -/
theorem tokens_render (first : String × Field) (fields : List (String × Field)) :
    tokens ((render asciiEscape (.obj ((first :: fields).map member))).map some) =
      .openObject :: (memberTokens first ++ (furtherTokens fields ++ [.closeObject])) := by
  have brace : begin (some '\x7b') = ([.openObject], .between) := rfl
  have whole := (tokensAfter_mark brace _).trans
    (congrArg _ (tokensAfter_member first (fields.map member)))
  rw [tokensAfter_renderMembers] at whole
  exact whole

/-! ## Reading -/

variable {number? : Numeral → Option Json}

/-- Whether a field is no number, or one that a reader takes at its value. -/
def Field.ReadBy (number? : Numeral → Option Json) : Field → Prop
  | .number value => number? (.ofInt value) = some (.int value)
  | .text _ => True
  | .emptyList => True

/-- Where the tokens lead to when numbers are valued in a given way. -/
def readTokens (number? : Numeral → Option Json) (state : State) (tokens : List Token) :
    Except Problem State :=
  (tokens.map (Token.valued number?)).foldlM State.read state

theorem readTokens_cons {state next : State} {token : Token}
    (read : state.read (token.valued number?) = .ok next) (tokens : List Token) :
    readTokens number? state (token :: tokens) = readTokens number? next tokens := by
  rw [readTokens, List.map_cons, List.foldlM_cons, read]
  rfl

theorem readTokens_append {state next : State} {tokens : List Token}
    (read : readTokens number? state tokens = .ok next) (rest : List Token) :
    readTokens number? state (tokens ++ rest) = readTokens number? next rest := by
  unfold readTokens at read ⊢
  rw [List.map_append, List.foldlM_append, read]
  rfl

theorem readTokens_field {field : Field} (readBy : field.ReadBy number?) (frames : List Frame) :
    readTokens number? (.awaitValue frames) field.tokens = .ok (deliver field.toJson frames) := by
  cases field with
  | text value =>
      exact readTokens_cons (State.read_of_text (opens_awaitValue frames)) []
  | number value =>
      have valued : Token.valued number? (.number (.ofInt value)) = .atom (.int value) := by
        rw [Token.valued, readBy]
      exact readTokens_cons (congrArg (State.read _) valued) []
  | emptyList => rfl

/-- A member that is read is put behind those that have been read. -/
theorem readTokens_member {state : State} {field : String × Field} {done : Members}
    {frames : List Frame}
    (named : state.read (.text (rawText field.1)) = .ok (.awaitColon done field.1 frames))
    (readBy : field.2.ReadBy number?) :
    readTokens number? state (memberTokens field) =
      .ok (.afterMember (put done field.1 field.2.toJson) frames) := by
  rw [memberTokens, readTokens_cons named, readTokens_cons rfl]
  exact readTokens_field readBy _

/-- Members of new names are read one after the other, up to the end of the object. -/
theorem readTokens_furtherTokens {fields : List (String × Field)} {done : Members}
    (readBy : ∀ field ∈ fields, field.2.ReadBy number?)
    (distinct : (done.map Prod.fst ++ fields.map Prod.fst).Nodup) :
    readTokens number? (.afterMember done []) (furtherTokens fields ++ [.closeObject]) =
      .ok (.complete (.obj (done ++ fields.map member))) := by
  -- Each member that is read goes to the done ones, and all names together stay the same.
  induction fields generalizing done with
  | nil =>
      rw [List.map_nil, List.append_nil]
      rfl
  | cons field fields ih =>
      have newName : field.1 ∉ done.map Prod.fst := not_mem_of_nodup_append distinct
      have named := State.read_name done field.1 []
      rw [furtherTokens_cons, List.cons_append, List.append_assoc, readTokens_cons rfl,
        readTokens_append (readTokens_member named (readBy field List.mem_cons_self)),
        put_of_not_mem _ newName,
        ih (fun other among => readBy other (List.mem_cons_of_mem _ among))
          (by simpa using distinct)]
      simp [member]

/-- Fields of distinct names are read back from the text of their members. -/
theorem parseBy_render {first : String × Field} {fields : List (String × Field)}
    (distinct : ((first :: fields).map Prod.fst).Nodup)
    (readBy : ∀ field ∈ first :: fields, field.2.ReadBy number?) :
    parseBy number? ((render asciiEscape (.obj ((first :: fields).map member))).map some) =
      .ok (.obj ((first :: fields).map member)) := by
  obtain ⟨firstRead, furtherRead⟩ := List.forall_mem_cons.mp readBy
  have named := State.read_firstName first.1 []
  have read : readTokens number? (.awaitValue [])
      (tokens ((render asciiEscape (.obj ((first :: fields).map member))).map some)) =
      .ok (.complete (.obj ((first :: fields).map member))) := by
    rw [tokens_render, readTokens_cons rfl, readTokens_append (readTokens_member named firstRead)]
    exact readTokens_furtherTokens furtherRead distinct
  exact bind_eq_ok_iff.mpr ⟨_, read, rfl⟩

/-! ## Records -/

variable {event : Event} {limit : Option Nat}

/-- The event is read back from its record wherever a reader takes its numbers at their value. -/
theorem Event.parseBy_message (distinct : (event.fields.map Prod.fst).Nodup)
    (unnamed : "event" ∉ event.fields.map Prod.fst)
    (readBy : ∀ field ∈ given event.fields, field.2.ReadBy number?) :
    parseBy number? (rawText event.message) = .ok event.record := by
  have named : Field.ReadBy number? (.text event.name) := trivial
  rw [Event.message, Event.toJson_eq_record distinct unnamed, rawText, asciiText,
    String.toList_ofList, Event.record_eq]
  exact parseBy_render (Event.nodup_given distinct unnamed)
    (List.forall_mem_cons.mpr ⟨named, readBy⟩)

/-- The reader of documents reads it back as well, unless a number is longer than those that it
takes. -/
theorem Event.parse_message (distinct : (event.fields.map Prod.fst).Nodup)
    (unnamed : "event" ∉ event.fields.map Prod.fst)
    (short : ∀ name value, (name, some (.number value)) ∈ event.fields →
      (decimalInt value).length ≤ Numeral.maxWholeLength) :
    parse (rawText event.message) = .ok event.record := by
  rw [← parseBy_value?]
  refine Event.parseBy_message distinct unnamed ?_
  rintro ⟨name, field⟩ among
  cases field with
  | number value => exact Numeral.value?_ofInt (short name value (mem_given.mp among))
  | text value => trivial
  | emptyList => trivial

theorem Field.readBy_of_fits {field : Field} (fits : field.fits limit = true) :
    field.ReadBy (Numeral.valueWithin? limit) := by
  cases field with
  | number value => exact Numeral.valueWithin?_ofInt fits
  | text value => trivial
  | emptyList => trivial

theorem Field.fits_eq_false_iff {field : Field} {most : Nat} :
    field.fits (some most) = false ↔
      ∃ value, field = .number value ∧ most < (decimalDigits value.natAbs).length := by
  cases field <;> simp [Field.fits, fitsDigits]

/-- An event is logged where each of its numbers fits, and only there. -/
theorem Event.message?_eq (event : Event) (limit : Option Nat) :
    event.message? limit =
      if (given event.fields).all fun field => field.2.fits limit then some event.message
      else none := by
  have same : (event.fields.all fun field => field.2.all (Field.fits limit)) =
      (given event.fields).all fun field => field.2.fits limit := by
    rw [given, List.all_filterMap]
    congr 1
    funext field
    cases field.2 <;> rfl
  rw [Event.message?, same]

/-- Nothing is logged exactly when a number is too long. -/
theorem Event.message?_eq_none_iff {most : Nat} :
    event.message? (some most) = none ↔
      ∃ name value, (name, some (.number value)) ∈ event.fields ∧
        most < (decimalDigits value.natAbs).length := by
  rw [Event.message?_eq, ite_eq_right_iff]
  simp only [reduceCtorEq, imp_false, List.all_eq_true, not_forall, Bool.not_eq_true]
  constructor
  · rintro ⟨⟨name, field⟩, among, long⟩
    obtain ⟨value, rfl, longer⟩ := Field.fits_eq_false_iff.mp long
    exact ⟨name, value, mem_given.mp among, longer⟩
  · rintro ⟨name, value, among, longer⟩
    exact ⟨(name, .number value), mem_given.mpr among,
      Field.fits_eq_false_iff.mpr ⟨value, rfl, longer⟩⟩

/-- What is logged under a limit is the record without one, and its numbers fit. -/
theorem Event.message?_eq_some_iff {message : String} :
    event.message? limit = some message ↔
      (∀ field ∈ given event.fields, field.2.fits limit = true) ∧ message = event.message := by
  rw [Event.message?_eq, Option.ite_none_right_eq_some, List.all_eq_true, Option.some.injEq,
    eq_comm (a := message)]

/-- The characters at which a text is cut into lines. -/
def lineBreaks : List Char :=
  ['\n', '\x0b', '\x0c', '\r', '\x1c', '\x1d', '\x1e', '\u0085', '\u2028', '\u2029']

theorem Shown.not_mem_of_lineBreak (shown : Shown s) {c : Char} (breaks : c ∈ lineBreaks) :
    c ∉ s := by
  intro among
  have outside : (lineBreaks.all fun c => c.toNat < 0x20 || 0x7F < c.toNat) = true := by decide
  have hidden : c.toNat < 0x20 ∨ 0x7F < c.toNat := by
    simpa using List.all_eq_true.mp outside c breaks
  have ⟨above, below⟩ := shown c among
  omega

/-- The record of an event whose fields have distinct names, none of them `event`, is one line of
ASCII, and the event is read back from it: its name, and then each field that has a value, in
order and unchanged. Numbers may have any length. Where a runtime limits their digits, nothing is
logged exactly when a number is too long, and what is logged is read back under the same limit. -/
theorem records_read_back (event : Event) (distinct : (event.fields.map Prod.fst).Nodup)
    (unnamed : "event" ∉ event.fields.map Prod.fst) :
    (∀ c ∈ event.message.toList, 0x20 ≤ c.toNat ∧ c.toNat ≤ 0x7F) ∧
      (∀ c ∈ lineBreaks, c ∉ event.message.toList) ∧
      parseBy (Numeral.valueWithin? none) (rawText event.message) = .ok event.record ∧
      ∀ most,
        (event.message? (some most) = none ↔
          ∃ name value, (name, some (.number value)) ∈ event.fields ∧
            most < (decimalDigits value.natAbs).length) ∧
        ∀ message, event.message? (some most) = some message →
          message = event.message ∧
            parseBy (Numeral.valueWithin? (some most)) (rawText message) = .ok event.record := by
  have shown : Shown event.message.toList := by
    rw [Event.message, asciiText, String.toList_ofList]
    exact shown_render event.toJson
  have read (limit : Option Nat)
      (fits : ∀ field ∈ given event.fields, field.2.fits limit = true) :
      parseBy (Numeral.valueWithin? limit) (rawText event.message) = .ok event.record :=
    Event.parseBy_message distinct unnamed fun field among =>
      Field.readBy_of_fits (fits field among)
  refine ⟨fun c among => ?_, fun c breaks among => ?_, ?_, fun most =>
    ⟨Event.message?_eq_none_iff, fun message logged => ?_⟩⟩
  · exact ⟨(shown c among).1, Nat.le_of_lt (shown c among).2⟩
  · exact absurd among (shown.not_mem_of_lineBreak breaks)
  · refine read none fun field _ => ?_
    cases field.2 <;> rfl
  · obtain ⟨fits, rfl⟩ := Event.message?_eq_some_iff.mp logged
    exact ⟨rfl, read _ fits⟩

/-- An event whose texts try to end the record, to add a member and to begin another record. -/
def forgery : Event where
  name := "login"
  fields :=
    [("user", some (.text "eve\",\"role\":\"admin\"\x7d\n\x7b\"event\":\"logout")),
      ("role", none), ("caf\u00e9\u2028", some (.text "😀\x7f")), ("attempt", some (.number (-12)))]

/-- The record of that event. -/
def forgeryText : String :=
  "\x7b\"event\":\"login\"," ++
    "\"user\":\"eve\\\",\\\"role\\\":\\\"admin\\\"\x7d\\n\x7b\\\"event\\\":\\\"logout\"," ++
    "\"caf\\u00e9\\u2028\":\"\\ud83d\\ude00\\u007f\",\"attempt\":-12\x7d"

theorem forgery_reads_back :
    (forgery.fields.map Prod.fst).Nodup ∧ "event" ∉ forgery.fields.map Prod.fst ∧
      forgery.message = forgeryText ∧ (∀ c ∈ lineBreaks, c ∉ forgeryText.toList) ∧
      parseBy (Numeral.valueWithin? none) (rawText forgeryText) =
        .ok (.obj [("event", .str "login"),
          ("user", .str "eve\",\"role\":\"admin\"\x7d\n\x7b\"event\":\"logout"),
          ("caf\u00e9\u2028", .str "😀\x7f"), ("attempt", .int (-12))]) ∧
      forgery.message? (some 1) = none := by
  have distinct : (forgery.fields.map Prod.fst).Nodup := by decide
  have unnamed : "event" ∉ forgery.fields.map Prod.fst := by decide
  have text : forgery.message = forgeryText := by decide +kernel
  obtain ⟨-, oneLine, read, limited⟩ := records_read_back forgery distinct unnamed
  rw [text] at oneLine read
  have long : forgery.message? (some 1) = none :=
    (limited 1).1.mpr ⟨"attempt", -12, by decide, by decide⟩
  exact ⟨distinct, unnamed, text, oneLine, read, long⟩

end AuthRedirect.Log

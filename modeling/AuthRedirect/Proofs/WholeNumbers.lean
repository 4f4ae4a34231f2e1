import AuthRedirect.Proofs.JsonRoundTrip
import Mathlib.Tactic.IntervalCases

/-!
Whole numbers in JSON texts. A number of any length is read back from its digits, before a
symbol that no number goes on with: `tokensAfter_decimalInt`.

How long a number may be is for a reader to say, and readers differ in it. `parseBy` reads with
numbers valued in a given way, and `parseBy_value?` says that the reader of documents is one such
reader. `Numeral.valueWithin?` limits the digits of whole numbers, as a runtime does, or leaves
them without a limit, as the format does.
-/

namespace AuthRedirect.Json

open AuthRedirect.Text

/-! ## Digits -/

/-- What has been read of a whole number when its digits so far stand for `n`. -/
def Numeral.ofWhole (negative : Bool) (n : Nat) : Numeral :=
  ⟨if n = 0 then .zero else .whole, negative, n, 0, false, 0⟩

theorem Numeral.isWhole_ofWhole (negative : Bool) (n : Nat) :
    (ofWhole negative n).isWhole = true := by
  by_cases zero : n = 0 <;> simp [ofWhole, isWhole, zero]

theorem Numeral.token_ofWhole (negative : Bool) (n : Nat) :
    (ofWhole negative n).token = .number (ofWhole negative n) := by
  by_cases zero : n = 0 <;> simp [ofWhole, token, mayEnd, zero]

/-- A number without leading zeros takes one more digit. -/
theorem Numeral.add?_digitChar (negative : Bool) {n d : Nat} (positive : 0 < n) (small : d < 10) :
    (ofWhole negative n).add? (Nat.digitChar d) = some (ofWhole negative (10 * n + d)) := by
  have digit : (Nat.digitChar d).isDigit = true := by
    rw [Nat.isDigit_digitChar, decide_eq_true small]
  have value : (Nat.digitChar d).toNat - '0'.toNat = d := by
    rw [Nat.toNat_digitChar_of_lt_ten small]
    exact Nat.add_sub_cancel_left 48 d
  have longer : 10 * n + d ≠ 0 := by omega
  rw [add?, if_pos digit, value, ofWhole, ofWhole, if_neg (Nat.ne_of_gt positive),
    if_neg longer, Nat.mul_comm]
  rfl

/-- Digits are read one after the other, whatever stands behind them, when the first one begins
a number. -/
theorem tokensAfter_decimalDigits {mode : Mode} {negative : Bool}
    (first : ∀ d < 10,
      step mode (some (Nat.digitChar d)) = ([], .number (.ofWhole negative d)))
    (n : Nat) (rest : RawText) :
    tokensAfter mode ((decimalDigits n).map some ++ rest) =
      tokensAfter (.number (.ofWhole negative n)) rest := by
  -- The last digit comes off, so that what stands behind the others begins with it.
  induction n using Nat.strongRecOn generalizing rest with
  | _ n ih =>
      rw [decimalDigits, Nat.toDigits_eq_if (by decide)]
      split
      · next small =>
          rw [List.map_singleton, List.singleton_append, tokensAfter, first n small]
          rfl
      · next large =>
          have front := ih (n / 10) (by omega) (some (Nat.digitChar (n % 10)) :: rest)
          have longer := Numeral.add?_digitChar negative (show 0 < n / 10 by omega)
            (show n % 10 < 10 by omega)
          rw [Nat.div_add_mod] at longer
          rw [List.map_append, List.append_assoc]
          refine front.trans ?_
          rw [tokensAfter, step, Option.bind_some, longer]
          rfl

/-- Whether no number goes on with a character. -/
def EndsNumber (c : Char) : Prop :=
  c.isDigit = false ∧ c ≠ '.' ∧ c ≠ 'e' ∧ c ≠ 'E'

instance (c : Char) : Decidable (EndsNumber c) :=
  inferInstanceAs (Decidable (_ ∧ _))

theorem tokensAfter_ofWhole {c : Char} (ends : EndsNumber c) (negative : Bool) (n : Nat)
    (rest : RawText) :
    tokensAfter (.number (.ofWhole negative n)) (some c :: rest) =
      .number (.ofWhole negative n) :: tokensAfter .between (some c :: rest) := by
  obtain ⟨noDigit, noPoint, noMark, noCapital⟩ := ends
  have stops : (Numeral.ofWhole negative n).add? c = none := by
    by_cases zero : n = 0 <;>
      simp [Numeral.ofWhole, Numeral.add?, zero, noDigit, noPoint, noMark, noCapital]
  rw [tokensAfter, step, Option.bind_some, stops, Option.any_some, noDigit,
    Numeral.token_ofWhole]
  rfl

/-! ## Whole numbers -/

/-- What is read of a whole number. -/
def Numeral.ofInt : Int → Numeral
  | .ofNat n => ofWhole false n
  | .negSucc n => ofWhole true (n + 1)

/-- A whole number of any length is read as one token. -/
theorem tokensAfter_decimalInt (value : Int) {c : Char} (ends : EndsNumber c) (rest : RawText) :
    tokensAfter .between ((decimalInt value).map some ++ some c :: rest) =
      .number (.ofInt value) :: tokensAfter .between (some c :: rest) := by
  cases value with
  | ofNat n =>
      have first : ∀ d < 10, step .between (some (Nat.digitChar d)) =
          ([], .number (.ofWhole false d)) := by
        intro d small
        interval_cases d <;> rfl
      exact (tokensAfter_decimalDigits first n _).trans (tokensAfter_ofWhole ends false n rest)
  | negSucc n =>
      have first : ∀ d < 10, step (.number .minus) (some (Nat.digitChar d)) =
          ([], .number (.ofWhole true d)) := by
        intro d small
        interval_cases d <;> rfl
      exact (tokensAfter_decimalDigits first (n + 1) _).trans
        (tokensAfter_ofWhole ends true (n + 1) rest)

theorem Numeral.isWhole_ofInt (value : Int) : (ofInt value).isWhole = true := by
  cases value <;> exact isWhole_ofWhole _ _

theorem Numeral.mantissa_ofInt (value : Int) : (ofInt value).mantissa = value := by
  cases value <;> rfl

theorem Numeral.digits_ofInt (value : Int) : (ofInt value).digits = value.natAbs := by
  cases value <;> rfl

/-! ## Readers that differ in numbers -/

/-- A token in which a number has its value. -/
def Token.valued (number? : Numeral → Option Json) : Token → Token
  | .number n =>
      match number? n with
      | some value => .atom value
      | none => .invalid
  | token => token

/-- The value that a text stands for when its numbers are valued in a given way. -/
def parseBy (number? : Numeral → Option Json) (s : RawText) : Except Problem Json := do
  let last ← ((tokens s).map (Token.valued number?)).foldlM State.read (.awaitValue [])
  last.value?

theorem State.read_valued (state : State) (token : Token) :
    state.read (token.valued Numeral.value?) = state.read token := by
  cases token with
  | number n =>
      rw [Token.valued]
      cases found : n.value? <;> cases state <;> simp only [State.read, readValue, found]
  | _ => rfl

/-- The reader of documents is the one that values numbers as documents do. -/
theorem parseBy_value? (s : RawText) : parseBy Numeral.value? s = parse s := by
  have same : (fun (state : State) (token : Token) => state.read (token.valued Numeral.value?)) =
      State.read := by
    funext state token
    exact state.read_valued token
  rw [parseBy, List.foldlM_map, same]
  rfl

/-- A document takes a whole number at its value when it has few enough characters. -/
theorem Numeral.value?_ofInt {value : Int} (short : (decimalInt value).length ≤ maxWholeLength) :
    (ofInt value).value? = some (.int value) := by
  have fits : (ofInt value).isLong = false := by
    rw [isLong, decide_eq_false_iff_not, Nat.not_lt]
    cases value <;> exact short
  rw [value?, isWhole_ofInt, fits, mantissa_ofInt]
  rfl

/-- The value of a number where the digits of whole numbers are limited, their sign aside. -/
def Numeral.valueWithin? (limit : Option Nat) (n : Numeral) : Option Json :=
  if n.isWhole then if fitsDigits limit n.digits then some (.int n.mantissa) else none
  else n.value?

theorem Numeral.valueWithin?_ofInt {limit : Option Nat} {value : Int}
    (fits : fitsDigits limit value.natAbs = true) :
    (ofInt value).valueWithin? limit = some (.int value) := by
  rw [valueWithin?, isWhole_ofInt, digits_ofInt, fits, mantissa_ofInt]
  rfl

end AuthRedirect.Json

import AuthRedirect.Text.Search
import AuthRedirect.Validation
import Mathlib.Data.Set.Function

/-!
Places in a rule set and the paths to them. A path names the rule by its index and goes on
with the part of the rule, which for a target is named by its position. Each number ends at a
bracket, so different places have different paths: `Place.text_injOn`.
-/

namespace AuthRedirect.Validation

open AuthRedirect.Text

variable {part other : Part}

/-! ## Numbers in paths -/

theorem eq_of_toDigits_eq {m n : Nat} (same : Nat.toDigits 10 m = Nat.toDigits 10 n) : m = n := by
  have values := congrArg (fun digits => Nat.ofDigitChars 10 digits 0) same
  simpa only [Nat.ofDigitChars_ten_toDigits] using values

theorem bracket_not_mem_toDigits (n : Nat) : ']' ∉ Nat.toDigits 10 n := by
  intro among
  have digit := Nat.isDigit_of_mem_toDigits (by decide) (by decide) among
  exact absurd digit (by decide)

/-! ## Parts of a rule -/

/-- The path to a target, cut behind its position. -/
theorem Part.toList_text_targetUrl (position : Nat) :
    (Part.targetUrl position).text.toList =
      "targets[".toList ++ (Nat.toDigits 10 position ++ "].url".toList) := by
  have text : (Part.targetUrl position).text = "targets[" ++ position.repr ++ "].url" := rfl
  simp [text, Nat.repr]

/-- Only the path to a target has a bracket. -/
theorem Part.bracket_mem_text_iff :
    '[' ∈ part.text.toList ↔ ∃ position, part = .targetUrl position := by
  cases part <;> simp [Part.text]

theorem Part.text_injective : Function.Injective Part.text := by
  intro part other same
  by_cases bracket : '[' ∈ part.text.toList
  · have there : '[' ∈ other.text.toList := same ▸ bracket
    obtain ⟨position, rfl⟩ := Part.bracket_mem_text_iff.mp bracket
    obtain ⟨position', rfl⟩ := Part.bracket_mem_text_iff.mp there
    have digits := congrArg String.toList same
    rw [Part.toList_text_targetUrl, Part.toList_text_targetUrl, List.append_right_inj,
      List.append_left_inj] at digits
    rw [eq_of_toDigits_eq digits]
  · have notThere : '[' ∉ other.text.toList := same ▸ bracket
    cases part <;> cases other <;> simp_all [Part.text]

/-! ## Places in a rule set -/

/-- The path to a part of a rule, cut behind the index. -/
theorem Place.toList_text_rule (index : Nat) (part : Part) :
    (Place.rule (some ↑index) part).text.toList =
      "redirectionRules[".toList ++
        (Nat.toDigits 10 index ++ ']' :: '.' :: part.text.toList) := by
  have text : (Place.rule (some ↑index) part).text =
      "redirectionRules[" ++ index.repr ++ "]." ++ part.text := rfl
  simp [text, Nat.repr]

/-- Paths to parts of rules differ where the rules or the parts do. -/
theorem Place.text_rule_inj {index index' : Nat} :
    (Place.rule (some ↑index) part).text = (Place.rule (some ↑index') other).text ↔
      index = index' ∧ part = other := by
  constructor
  · intro same
    have behind := congrArg String.toList same
    rw [Place.toList_text_rule, Place.toList_text_rule, List.append_right_inj] at behind
    -- The index is what stands before the first bracket.
    have cut := congrArg (cutFirst ']') behind
    rw [cutFirst_append (bracket_not_mem_toDigits _),
      cutFirst_append (bracket_not_mem_toDigits _)] at cut
    obtain ⟨digits, rest⟩ := Prod.mk.inj cut
    have parts := List.tail_eq_of_cons_eq (Option.some.inj rest)
    exact ⟨eq_of_toDigits_eq digits, Part.text_injective (String.toList_inj.mp parts)⟩
  · rintro ⟨rfl, rfl⟩
    rfl

/-- The path to the rule set is shorter than every path into it. -/
theorem Place.text_ruleSet_ne (index : Nat) (part : Part) :
    Place.ruleSet.text ≠ (Place.rule (some ↑index) part).text := by
  have front : "redirectionRules[".length = "redirectionRules".length + 1 := by decide
  intro same
  replace same : "redirectionRules" =
      "redirectionRules[" ++ index.repr ++ "]." ++ part.text := same
  have lengths := congrArg String.length same
  simp only [String.length_append] at lengths
  omega

/-- The places of a rule set: the set as a whole, and the parts of its rules. -/
def Place.ofRuleSet : Set Place :=
  {place | place = .ruleSet ∨ ∃ (index : Nat) (part : Part), place = .rule (some index) part}

theorem Place.text_injOn : Set.InjOn Place.text Place.ofRuleSet := by
  rintro place (rfl | ⟨index, part, rfl⟩) other (rfl | ⟨index', part', rfl⟩) same
  · rfl
  · exact absurd same (Place.text_ruleSet_ne index' part')
  · exact absurd same.symm (Place.text_ruleSet_ne index part)
  · obtain ⟨rfl, rfl⟩ := Place.text_rule_inj.mp same
    rfl

end AuthRedirect.Validation

import AuthRedirect.Document.Organizations
import AuthRedirect.Proofs.Outcomes
import AuthRedirect.Settings.Document
import Mathlib.Tactic.SplitIfs

/-!
Where a text cannot be decoded. Reading JSON stops at the first token that does not fit. It
stops because of bytes that are not UTF-8 exactly when this token is a string with a gap
where a string may stand; everything else that is wrong is reported as malformed or as
unfit. Settings are read with more patience: only the text of a setting may not have gaps.
-/

namespace AuthRedirect

open AuthRedirect.Json AuthRedirect.Text

theorem Text.RawText.whole?_eq_none_iff {s : RawText} : s.whole? = none ↔ none ∈ s := by
  induction s with
  | nil => simp [RawText.whole?]
  | cons symbol rest ih =>
      cases symbol with
      | none => simp [RawText.whole?]
      | some c => simp [RawText.whole?, ih]

namespace Json

variable {state : State} {token : Token} {frames : List Frame}

/-! ## Values -/

/-- Whether a string may come next. -/
def State.takesText : State → Bool
  | .awaitValue _ | .awaitFirstItem _ | .awaitFirstName _ | .awaitName _ _ => true
  | _ => false

/-- Whether a token is a string with a gap. -/
def Token.HasGap (token : Token) : Prop :=
  ∃ read, token = .text read ∧ none ∈ read

theorem wholeText_eq_error_iff {read : RawText} {problem : Problem} :
    wholeText read = .error problem ↔ problem = .undecodable ∧ none ∈ read := by
  rw [← RawText.whole?_eq_none_iff, wholeText]
  cases read.whole? <;> simp [eq_comm]

theorem readValue_undecodable_iff :
    readValue frames token = .error .undecodable ↔ token.HasGap := by
  cases token with
  | text read =>
      rw [readValue, bind_eq_error_iff, wholeText_eq_error_iff]
      simp [Token.HasGap, pure, Except.pure]
  | number n =>
      rw [readValue]
      cases n.value? <;> simp [Token.HasGap]
  | _ => simp [readValue, Token.HasGap]

/-- A token is undecodable where a string may come next and has a gap. -/
theorem State.read_undecodable_iff :
    state.read token = .error .undecodable ↔ state.takesText = true ∧ token.HasGap := by
  have named {next : String → State} {read : RawText} :
      (wholeText read >>= fun name => pure (next name)) = .error .undecodable ↔ none ∈ read := by
    rw [bind_eq_error_iff, wholeText_eq_error_iff]
    simp [pure, Except.pure]
  cases state with
  | awaitValue frames => simp [State.read, State.takesText, readValue_undecodable_iff]
  | awaitFirstItem frames =>
      cases token <;> simp [State.read, State.takesText, readValue_undecodable_iff, Token.HasGap]
  | awaitFirstName frames =>
      cases token with
      | text read => exact named.trans (by simp [State.takesText, Token.HasGap])
      | _ => simp [State.read, State.takesText, Token.HasGap]
  | awaitName members frames =>
      cases token with
      | text read => exact named.trans (by simp [State.takesText, Token.HasGap])
      | _ => simp [State.read, State.takesText, Token.HasGap]
  | _ => cases token <;> simp [State.read, State.takesText]

/-- Whether a text is that of a value up to a string with a gap, where a string may stand. -/
def StopsAtGap (s : RawText) : Prop :=
  ∃ front read rest state, tokens s = front ++ .text read :: rest ∧
    front.foldlM State.read (.awaitValue []) = .ok state ∧ state.takesText = true ∧ none ∈ read

theorem parse_undecodable_iff {s : RawText} :
    parse s = .error .undecodable ↔ StopsAtGap s := by
  have ended (last : State) : last.value? ≠ .error .undecodable := by
    cases last <;> simp [State.value?]
  rw [parse, bind_eq_error_iff, foldlM_eq_error_iff]
  constructor
  · rintro (⟨front, token, rest, state, shown, run, refused⟩ | ⟨last, -, refused⟩)
    · obtain ⟨takes, read, rfl, gap⟩ := State.read_undecodable_iff.mp refused
      exact ⟨front, read, rest, state, shown, run, takes, gap⟩
    · exact absurd refused (ended last)
  · rintro ⟨front, read, rest, state, shown, run, takes, gap⟩
    exact .inl ⟨front, .text read, rest, state, shown, run,
      State.read_undecodable_iff.mpr ⟨takes, read, rfl, gap⟩⟩

/-! ## Texts without gaps -/

/-- Whether nothing of a string that is being read is missing. -/
def Mode.IsWhole : Mode → Prop
  | .string read _ => none ∉ read
  | _ => True

/-- What a step leaves of a string without gaps has none. -/
def StringStep.IsWhole : StringStep → Prop
  | .more read _ | .ended read => none ∉ read
  | .spoilt => True

theorem addUnit_isWhole {read : RawText} (whole : none ∉ read) (unit : Nat) (high : Option Nat) :
    (addUnit read unit high).IsWhole := by
  unfold addUnit
  split
  · split_ifs <;> simp [StringStep.IsWhole, whole]
  · split_ifs <;> simp [StringStep.IsWhole, whole]

/-- A character leaves a string without gaps. -/
theorem stringStep_isWhole {read : RawText} (whole : none ∉ read) (escape : Escape) (c : Char) :
    (stringStep read escape (some c)).IsWhole := by
  cases escape with
  | none =>
      simp only [stringStep]
      split_ifs <;> simp [StringStep.IsWhole, whole]
  | started =>
      simp only [stringStep]
      split_ifs
      · exact whole
      · split <;> simp [StringStep.IsWhole, whole]
  | digits left value high =>
      simp only [stringStep]
      split
      · trivial
      · exact addUnit_isWhole whole _ _
      · exact whole
  | awaitingLow high =>
      simp only [stringStep]
      split_ifs <;> simp [StringStep.IsWhole, whole]
  | awaitingLowMark high =>
      simp only [stringStep]
      split_ifs <;> simp [StringStep.IsWhole, whole]

/-- What a step adds has no gap, and neither has what it leaves. -/
def LeavesWhole (stepped : List Token × Mode) : Prop :=
  (∀ token ∈ stepped.1, ¬ token.HasGap) ∧ stepped.2.IsWhole

theorem Numeral.not_hasGap (n : Numeral) : ¬ n.token.HasGap := by
  unfold Numeral.token
  split <;> simp [Token.HasGap]

theorem LeavesWhole.ite {condition : Prop} [Decidable condition]
    {one other : List Token × Mode} (first : LeavesWhole one) (second : LeavesWhole other) :
    LeavesWhole (if condition then one else other) := by
  split
  · exact first
  · exact second

theorem begin_leavesWhole (c : Char) : LeavesWhole (begin (some c)) := by
  rw [begin]
  repeat' apply LeavesWhole.ite
  all_goals simp [LeavesWhole, Mode.IsWhole, Token.HasGap]

/-- One character of a text without gaps. -/
theorem step_leavesWhole {mode : Mode} (whole : mode.IsWhole) (c : Char) :
    LeavesWhole (step mode (some c)) := by
  cases mode with
  | between => exact begin_leavesWhole c
  | word next later value =>
      simp only [step]
      split_ifs
      · cases later <;> simp [LeavesWhole, Mode.IsWhole, Token.HasGap]
      · simp [LeavesWhole, Mode.IsWhole, Token.HasGap]
  | number n =>
      simp only [step]
      split
      · simp [LeavesWhole, Mode.IsWhole]
      · split_ifs
        · simp [LeavesWhole, Mode.IsWhole, Token.HasGap]
        · obtain ⟨noGap, left⟩ := begin_leavesWhole c
          exact ⟨List.forall_mem_cons.mpr ⟨n.not_hasGap, noGap⟩, left⟩
  | string read escape =>
      have stepped := stringStep_isWhole whole escape c
      simp only [step]
      cases found : stringStep read escape (some c) with
      | more read' escape' =>
          rw [found] at stepped
          exact ⟨by simp, stepped⟩
      | ended read' =>
          rw [found] at stepped
          refine ⟨?_, trivial⟩
          simp only [List.mem_singleton, forall_eq]
          rintro ⟨text, same, gap⟩
          cases same
          exact stepped gap
      | spoilt => simp [LeavesWhole, Mode.IsWhole, Token.HasGap]

theorem finish_not_hasGap (mode : Mode) : ∀ token ∈ finish mode, ¬ token.HasGap := by
  cases mode with
  | number n => simpa [finish] using n.not_hasGap
  | _ => simp [finish, Token.HasGap]

/-- The tokens of a text without gaps have none. -/
theorem not_hasGap_of_mem {s : List Char} {mode : Mode} (whole : mode.IsWhole)
    (among : token ∈ tokensAfter mode (s.map some)) : ¬ token.HasGap := by
  refine forall_mem_tokensAfter ?_ (fun mode _ => finish_not_hasGap mode) whole token among
  intro symbol inside mode whole
  obtain ⟨c, -, rfl⟩ := List.mem_map.mp inside
  exact step_leavesWhole whole c

theorem not_mem_of_tokens_eq {s : List Char} {read : RawText} {front rest : List Token}
    (shown : tokens (s.map some) = front ++ .text read :: rest) : none ∉ read := by
  intro gap
  have whole : Mode.IsWhole .between := trivial
  have among : Token.text read ∈ tokens (s.map some) := by
    rw [shown]
    simp
  exact not_hasGap_of_mem whole among ⟨read, rfl, gap⟩

/-- A text without gaps is malformed at worst. -/
theorem not_stopsAtGap_of_whole (s : List Char) : ¬ StopsAtGap (s.map some) :=
  fun ⟨_, _, _, _, shown, _, _, gap⟩ => not_mem_of_tokens_eq shown gap

end Json

/-! ## Documents -/

namespace Document

theorem parse_undecodable_iff {subject : Subject} {s : RawText} :
    parse subject s = .error .undecodable ↔ StopsAtGap s := by
  rw [parse, mapError_eq_error_iff, ← Json.parse_undecodable_iff]
  constructor
  · rintro ⟨problem, failed, same⟩
    cases problem with
    | malformed => cases same
    | undecodable => exact failed
  · exact fun failed => ⟨.undecodable, failed, rfl⟩

theorem ofChecked_ne_undecodable {α : Type} {subject : Subject} {checked : Checked α} :
    ofChecked subject checked ≠ .error .undecodable := by
  intro failed
  obtain ⟨mismatch, -, same⟩ := mapError_eq_error_iff.mp failed
  cases same

theorem decodeRules_undecodable_iff {s : RawText} :
    decodeRules s = .error .undecodable ↔ StopsAtGap s := by
  rw [decodeRules, bind_eq_error_iff, parse_undecodable_iff]
  refine or_iff_left ?_
  rintro ⟨value, -, refused⟩
  cases value with
  | arr items => exact ofChecked_ne_undecodable refused
  | _ => cases refused

theorem decodeOrganization_undecodable_iff {s : RawText} :
    decodeOrganization s = .error .undecodable ↔ StopsAtGap s := by
  rw [decodeOrganization, bind_eq_error_iff, parse_undecodable_iff]
  refine or_iff_left ?_
  rintro ⟨value, -, refused⟩
  exact ofChecked_ne_undecodable refused

end Document

/-! ## Settings -/

namespace Settings

variable {α : Type} {settings : Settings} {token : Token}

theorem refuse_ne_undecodable {expected : Expected} {path : List Step} :
    (refuse expected path token : Except Fault α) ≠ .error .undecodable := by
  unfold refuse
  split <;> simp

theorem pass_ne_undecodable {state : State} :
    pass settings state token ≠ .error .undecodable := by
  unfold pass
  split <;> simp

/-- A token is undecodable where the text of a setting may come next and has a gap. -/
theorem Progress.read_undecodable_iff {progress : Progress} :
    progress.read token = .error .undecodable ↔
      (∃ settings setting, progress = .awaitValue settings (.text setting)) ∧ token.HasGap := by
  cases progress with
  | awaitObject =>
      cases token <;> simp [Progress.read, refuse_ne_undecodable]
  | passing settings state => simp [Progress.read, pass_ne_undecodable]
  | awaitValue settings setting =>
      cases setting with
      | text setting =>
          cases token with
          | text read =>
              simp only [Progress.read, readSetting]
              cases whole : read.whole? with
              | none => simpa [Token.HasGap] using RawText.whole?_eq_none_iff.mp whole
              | some characters =>
                  have noGap : none ∉ read := by
                    rw [← RawText.whole?_eq_none_iff, whole]
                    simp
                  simp [Token.HasGap, noGap]
          | _ => simp [Progress.read, readSetting, refuse_ne_undecodable, Token.HasGap]
      | switch setting =>
          cases token with
          | atom value =>
              cases value <;> simp [Progress.read, readSetting, refuse_ne_undecodable]
          | _ => simp [Progress.read, readSetting, refuse_ne_undecodable]
  | awaitColon settings setting =>
      cases setting <;> cases token <;> simp [Progress.read]
  | _ => cases token <;> simp [Progress.read]

/-- Whether a text is that of settings up to the text of a setting, and this has a gap. -/
def StopsAtGap (s : RawText) : Prop :=
  ∃ front read rest settings setting, tokens s = front ++ .text read :: rest ∧
    front.foldlM Progress.read .awaitObject = .ok (.awaitValue settings (.text setting)) ∧
    none ∈ read

theorem ofDocument_undecodable_iff {s : RawText} :
    ofDocument s = .error .undecodable ↔ StopsAtGap s := by
  have ended (last : Progress) : last.settings? ≠ .error .undecodable := by
    cases last <;> simp [Progress.settings?]
  rw [ofDocument, bind_eq_error_iff, foldlM_eq_error_iff]
  constructor
  · rintro (⟨front, token, rest, progress, shown, run, refused⟩ | ⟨last, -, refused⟩)
    · obtain ⟨⟨settings, setting, rfl⟩, read, rfl, gap⟩ :=
        Progress.read_undecodable_iff.mp refused
      exact ⟨front, read, rest, settings, setting, shown, run, gap⟩
    · exact absurd refused (ended last)
  · rintro ⟨front, read, rest, settings, setting, shown, run, gap⟩
    exact .inl ⟨front, .text read, rest, _, shown, run,
      Progress.read_undecodable_iff.mpr ⟨⟨settings, setting, rfl⟩, read, rfl, gap⟩⟩

theorem not_stopsAtGap_of_whole (s : List Char) : ¬ StopsAtGap (s.map some) :=
  fun ⟨_, _, _, _, _, shown, _, gap⟩ => not_mem_of_tokens_eq shown gap

end Settings

end AuthRedirect

import AuthRedirect.Proofs.JsonRoundTrip
import AuthRedirect.Proofs.Outcomes

/-!
Names of members in values that are read. A member that is put under a name that is there
already takes its place, so the reader never comes to an object with a name that stands twice,
at whatever depth: `namesOnce_of_parse`. Nothing is asked of the text.
-/

namespace AuthRedirect.Json

open AuthRedirect.Text

/-! ## Putting members -/

variable {members : Members} {name : String} {value : Json}

/-- A repeated name keeps its first place, and a new one comes last. -/
theorem map_fst_put (members : Members) (name : String) (value : Json) :
    (put members name value).map Prod.fst =
      if name ∈ members.map Prod.fst then members.map Prod.fst
      else members.map Prod.fst ++ [name] := by
  induction members with
  | nil => rfl
  | cons member rest ih =>
      obtain ⟨other, old⟩ := member
      rw [put]
      by_cases same : other = name
      · simp [same]
      · rw [if_neg same, List.map_cons, ih]
        by_cases among : name ∈ rest.map Prod.fst
        · simp [among]
        · simp [among, Ne.symm same]

/-- A repeated name has its last value. -/
theorem find?_put (members : Members) (name other : String) (value : Json) :
    find? other (put members name value) =
      if name = other then some value else find? other members := by
  induction members with
  | nil => by_cases same : name = other <;> simp [put, find?, same]
  | cons member rest ih =>
      obtain ⟨first, old⟩ := member
      rw [put]
      by_cases here : first = name
      · by_cases same : name = other
        · simp [find?, here, same]
        · simp [find?, here, same]
      · rw [if_neg here]
        by_cases found : first = other
        · have apart : name ≠ other := fun same => here (found.trans same.symm)
          simp [find?, found, apart]
        · simpa [find?, found] using ih

theorem mem_put_cases {member : String × Json} (among : member ∈ put members name value) :
    member = (name, value) ∨ member ∈ members := by
  induction members with
  | nil => exact .inl (List.mem_singleton.mp among)
  | cons first rest ih =>
      obtain ⟨other, old⟩ := first
      rw [put] at among
      split at among
      · exact (List.mem_cons.mp among).imp_right (List.mem_cons_of_mem _)
      · rcases List.mem_cons.mp among with here | later
        · exact .inr (here ▸ List.mem_cons_self)
        · exact (ih later).imp_right (List.mem_cons_of_mem _)

theorem nodup_put (distinct : (members.map Prod.fst).Nodup) (name : String) (value : Json) :
    ((put members name value).map Prod.fst).Nodup := by
  rw [map_fst_put]
  split
  · exact distinct
  · next absent => simpa using distinct.concat absent

theorem find?_of_not_mem (absent : name ∉ members.map Prod.fst) : find? name members = none := by
  rw [find?, Option.map_eq_none_iff, List.find?_eq_none]
  intro member among same
  exact absent (beq_iff_eq.mp same ▸ List.mem_map_of_mem among)

/-! ## Values -/

/-- Whether no name stands twice in an object, at any depth. -/
inductive NamesOnce : Json → Prop
  | null : NamesOnce .null
  | bool (value : Bool) : NamesOnce (.bool value)
  | int (value : Int) : NamesOnce (.int value)
  | decimal (mantissa exponent : Int) : NamesOnce (.decimal mantissa exponent)
  | str (text : String) : NamesOnce (.str text)
  | arr {items : List Json} : (∀ item ∈ items, NamesOnce item) → NamesOnce (.arr items)
  | obj {members : Members} : (members.map Prod.fst).Nodup →
    (∀ member ∈ members, NamesOnce member.2) → NamesOnce (.obj members)

theorem NamesOnce.of_arr {items : List Json} (once : NamesOnce (.arr items)) :
    ∀ item ∈ items, NamesOnce item := by
  cases once with
  | arr items => exact items

theorem NamesOnce.of_obj (once : NamesOnce (.obj members)) :
    (members.map Prod.fst).Nodup ∧ ∀ member ∈ members, NamesOnce member.2 := by
  cases once with
  | obj distinct values => exact ⟨distinct, values⟩

theorem NamesOnce.put (once : NamesOnce (.obj members)) (name : String) (value' : NamesOnce value) :
    NamesOnce (.obj (put members name value)) := by
  obtain ⟨distinct, values⟩ := once.of_obj
  refine .obj (nodup_put distinct name value) fun member among => ?_
  rcases mem_put_cases among with rfl | before
  · exact value'
  · exact values member before

theorem NamesOnce.of_value? {n : Numeral} (read : n.value? = some value) : NamesOnce value := by
  unfold Numeral.value? at read
  split_ifs at read
  · cases read
    exact .int _
  · cases read
    exact .decimal _ _

/-! ## Tokens -/

/-- Whether what a token stands for by itself has no name twice. -/
def Token.NamesOnce : Token → Prop
  | .atom value => Json.NamesOnce value
  | _ => True

/-- Whether a word that is being read stands for such a value. -/
def Mode.NamesOnce : Mode → Prop
  | .word _ _ value => Json.NamesOnce value
  | _ => True

theorem Numeral.namesOnce_token (n : Numeral) : n.token.NamesOnce := by
  unfold Numeral.token
  split <;> trivial

/-- Whether the tokens and what is left to read have no name twice. -/
def LeavesNamesOnce (stepped : List Token × Mode) : Prop :=
  (∀ token ∈ stepped.1, token.NamesOnce) ∧ stepped.2.NamesOnce

theorem LeavesNamesOnce.ite {condition : Prop} [Decidable condition]
    {one other : List Token × Mode} (first : LeavesNamesOnce one) (second : LeavesNamesOnce other) :
    LeavesNamesOnce (if condition then one else other) := by
  split
  · exact first
  · exact second

theorem begin_namesOnce (symbol : Option Char) : LeavesNamesOnce (begin symbol) := by
  cases symbol with
  | none => simp [begin, LeavesNamesOnce, Token.NamesOnce, Mode.NamesOnce]
  | some c =>
      rw [begin]
      repeat' apply LeavesNamesOnce.ite
      all_goals
        simp [LeavesNamesOnce, Token.NamesOnce, Mode.NamesOnce, NamesOnce.null, NamesOnce.bool]

theorem step_namesOnce {mode : Mode} (once : mode.NamesOnce) (symbol : Option Char) :
    LeavesNamesOnce (step mode symbol) := by
  cases mode with
  | between => exact begin_namesOnce symbol
  | word next later value =>
      simp only [step]
      split
      · cases later with
        | nil => exact ⟨by simpa [Token.NamesOnce, Mode.NamesOnce] using once, trivial⟩
        | cons next later => exact ⟨by simp, once⟩
      · simp [LeavesNamesOnce, Token.NamesOnce, Mode.NamesOnce]
  | number n =>
      simp only [step]
      split
      · simp [LeavesNamesOnce, Mode.NamesOnce]
      · split
        · simp [LeavesNamesOnce, Token.NamesOnce, Mode.NamesOnce]
        · obtain ⟨tokens, left⟩ := begin_namesOnce symbol
          exact ⟨List.forall_mem_cons.mpr ⟨n.namesOnce_token, tokens⟩, left⟩
  | string read escape =>
      simp only [step]
      split
      all_goals simp [LeavesNamesOnce, Token.NamesOnce, Mode.NamesOnce]

theorem finish_namesOnce (mode : Mode) (once : mode.NamesOnce) :
    ∀ token ∈ finish mode, token.NamesOnce := by
  cases mode with
  | number n => simpa [finish] using n.namesOnce_token
  | _ => simp [finish, Token.NamesOnce]

theorem namesOnce_of_mem_tokens {s : RawText} {token : Token} (among : token ∈ tokens s) :
    token.NamesOnce := by
  have between : Mode.NamesOnce .between := trivial
  exact forall_mem_tokensAfter (fun symbol _ mode once => step_namesOnce once symbol)
    finish_namesOnce between token among

/-! ## Reading -/

/-- Whether what a container holds so far has no name twice. -/
def Frame.NamesOnce : Frame → Prop
  | .array items => Json.NamesOnce (.arr items)
  | .object members _ => Json.NamesOnce (.obj members)

/-- Whether what has been read has no name twice. -/
def State.NamesOnce : State → Prop
  | .awaitValue frames | .awaitFirstItem frames | .awaitFirstName frames =>
      ∀ frame ∈ frames, frame.NamesOnce
  | .awaitName members frames | .awaitColon members _ frames | .afterMember members frames =>
      Json.NamesOnce (.obj members) ∧ ∀ frame ∈ frames, frame.NamesOnce
  | .afterItem items frames => Json.NamesOnce (.arr items) ∧ ∀ frame ∈ frames, frame.NamesOnce
  | .complete value => Json.NamesOnce value

variable {frames : List Frame} {token : Token} {state next : State}

theorem deliver_namesOnce (outer : ∀ frame ∈ frames, frame.NamesOnce) (once : NamesOnce value) :
    (deliver value frames).NamesOnce := by
  cases frames with
  | nil => exact once
  | cons frame rest =>
      obtain ⟨inner, further⟩ := List.forall_mem_cons.mp outer
      cases frame with
      | array items =>
          refine ⟨.arr (List.forall_mem_cons.mpr ⟨once, ?_⟩), further⟩
          exact NamesOnce.of_arr inner
      | object members name => exact ⟨NamesOnce.put inner name once, further⟩

theorem readValue_namesOnce (outer : ∀ frame ∈ frames, frame.NamesOnce) (once : token.NamesOnce)
    (read : readValue frames token = .ok next) : next.NamesOnce := by
  cases token with
  | openArray => cases read; exact outer
  | openObject => cases read; exact outer
  | atom value => cases read; exact deliver_namesOnce outer once
  | number n =>
      rw [readValue] at read
      cases found : n.value? with
      | none => rw [found] at read; cases read
      | some number =>
          rw [found] at read
          cases read
          exact deliver_namesOnce outer (NamesOnce.of_value? found)
  | text characters =>
      obtain ⟨text, -, delivered⟩ := bind_eq_ok_iff.mp read
      cases delivered
      exact deliver_namesOnce outer (.str text)
  | _ => cases read

theorem State.NamesOnce.read (before : state.NamesOnce) (once : token.NamesOnce)
    (read : state.read token = .ok next) : next.NamesOnce := by
  have empty : Json.NamesOnce (.obj []) := .obj List.nodup_nil (List.forall_mem_nil _)
  cases state with
  | awaitValue frames => exact readValue_namesOnce before once read
  | awaitFirstItem frames =>
      have noItems : Frame.NamesOnce (.array []) := .arr (List.forall_mem_nil _)
      by_cases close : token = .closeArray
      · subst close
        cases read
        exact deliver_namesOnce before noItems
      · rw [opens_awaitFirstItem frames token close] at read
        exact readValue_namesOnce (List.forall_mem_cons.mpr ⟨noItems, before⟩) once read
  | awaitFirstName frames =>
      cases token with
      | closeObject => cases read; exact deliver_namesOnce before empty
      | text characters =>
          obtain ⟨name, -, named⟩ := bind_eq_ok_iff.mp read
          cases named
          exact ⟨empty, before⟩
      | _ => cases read
  | awaitName members frames =>
      cases token with
      | text characters =>
          obtain ⟨name, -, named⟩ := bind_eq_ok_iff.mp read
          cases named
          exact before
      | _ => cases read
  | awaitColon members name frames =>
      cases token with
      | colon => cases read; exact List.forall_mem_cons.mpr before
      | _ => cases read
  | afterItem items frames =>
      obtain ⟨inner, outer⟩ := before
      cases token with
      | comma => cases read; exact List.forall_mem_cons.mpr ⟨inner, outer⟩
      | closeArray =>
          cases read
          refine deliver_namesOnce outer (.arr fun item among => ?_)
          exact inner.of_arr item (List.mem_reverse.mp among)
      | _ => cases read
  | afterMember members frames =>
      obtain ⟨inner, outer⟩ := before
      cases token with
      | comma => cases read; exact ⟨inner, outer⟩
      | closeObject => cases read; exact deliver_namesOnce outer inner
      | _ => cases read
  | complete value => cases token <;> cases read

/-- In a value that is read, no name stands twice in an object. -/
theorem namesOnce_of_parse {s : RawText} (read : parse s = .ok value) : NamesOnce value := by
  obtain ⟨last, run, ended⟩ := bind_eq_ok_iff.mp read
  have begun : State.NamesOnce (.awaitValue []) := List.forall_mem_nil _
  have once : last.NamesOnce :=
    foldlM_preserves_of_mem
      (fun _ token _ among before read =>
        before.read (namesOnce_of_mem_tokens among) read) begun run
  cases last with
  | complete found =>
      cases ended
      exact once
  | _ => cases ended

end AuthRedirect.Json

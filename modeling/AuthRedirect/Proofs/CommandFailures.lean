import AuthRedirect.CommandLine.Run
import AuthRedirect.Proofs.DecodingFailures

/-!
How commands fail. A command reads its settings, then its rules, and acts on what it has
read; `result_perform` says so for all commands at once. Where it breaks off because of what
is in a file, it met a string with a gap: in the text of a setting, or in the rules. All
else that is wrong with a file ends a command in good order, with exit code 2.
-/

namespace AuthRedirect.CommandLine

open AuthRedirect.Json AuthRedirect.Text

variable {environment : Settings.Environment} {files : Files} {invocation : Invocation}
  {path : Path} {failure : Failure} {why : Break}

/-! ## The phases of a command -/

/-- Whether a command reads settings. -/
def Command.usesSettings : Command → Bool
  | .resolve .. | .provision .. => true
  | .validate .. | .normalize _ => false

/-- The settings of a command. One that uses none has nothing to fail at. -/
def readSettings (environment : Settings.Environment) (files : Files) (invocation : Invocation) :
    Except Failure Settings :=
  if invocation.command.usesSettings then settingsFor environment files invocation.config
  else .ok {}

/-- The rules of a command. -/
def readRules (files : Files) : Command → Except Failure (List Rule)
  | .resolve rules .. | .validate rules .. => loadRules files (Path.ofString rules)
  | .provision rules .. => loadRulesIfPresent files (Path.ofString rules)
  | .normalize _ => .ok []

/-- All that a command reads. -/
def readFiles (environment : Settings.Environment) (files : Files) (invocation : Invocation) :
    Except Failure (Settings × List Rule) := do
  let settings ← readSettings environment files invocation
  let given ← readRules files invocation.command
  return (settings, given)

/-- What a command does with what it has read. -/
def act (files : Files) (settings : Settings) (given : List Rule) :
    Command → Except Failure Done
  | .resolve _ origin role wanted details => do
      let login ← loginOf origin role wanted
      (performResolve settings given login details).result
  | .validate _ isNewOrganization roles => do
      let known ← knownRoles roles
      (performValidate given isNewOrganization known).result
  | .provision rules source write =>
      (performProvisionFrom settings files (Path.ofString rules) given source write).result
  | .normalize value => (performNormalize value).result

theorem result_afterReading {α : Type} (read : Except Failure α) (perform : α → Performance) :
    (afterReading read perform).result = read >>= fun value => (perform value).result := by
  cases read <;> rfl

/-- Every command reads its settings, then its rules, and then acts. -/
theorem result_perform (environment : Settings.Environment) (files : Files)
    (invocation : Invocation) :
    (perform environment files invocation).result =
      readFiles environment files invocation >>= fun (settings, given) =>
        act files settings given invocation.command := by
  obtain ⟨config, level, command⟩ := invocation
  rw [readFiles]
  simp only [bind_assoc, pure_bind]
  cases command with
  | resolve rules origin role wanted details =>
      simp only [perform, result_afterReading]
      rfl
  | validate rules isNewOrganization roles =>
      simp only [perform, result_afterReading]
      rfl
  | provision rules source write =>
      simp only [perform, result_afterReading]
      rfl
  | normalize value => rfl

/-! ## Failing after everything is read -/

/-- What the options of a command lack. -/
inductive Command.Lacks : Command → Break → Prop
  | origin {rules : String} {role : Given} {wanted : Option String} {details : Bool} :
    Lacks (.resolve rules none role wanted details) (.withoutText .trimming)
  | role {rules : String} {isNewOrganization : Bool} {roles : List Given} : none ∈ roles →
    Lacks (.validate rules isNewOrganization (some roles)) .roleWithoutText

theorem Command.Lacks.ne_undecodable {command : Command} (lacks : command.Lacks why) :
    why ≠ .undecodable := by
  cases lacks <;> simp

theorem none_mem_of_mapM_id {roles : List Given} (lacking : roles.mapM id = none) :
    none ∈ roles := by
  induction roles with
  | nil => cases lacking
  | cons role roles ih =>
      cases role with
      | none => exact List.mem_cons_self
      | some role =>
          rw [List.mapM_cons] at lacking
          cases known : roles.mapM id with
          | none => exact List.mem_cons_of_mem _ (ih known)
          | some texts =>
              rw [known] at lacking
              cases lacking

/-- Provisioning fails when there is nowhere to write to. -/
theorem writable_of_performProvisionFrom {settings : Settings} {given : List Rule}
    {source : Source} {write : Bool}
    (failed : (performProvisionFrom settings files path given source write).result =
      .error failure) : ∃ error, files.writable path = .error error ∧ failure = .file error := by
  rw [performProvisionFrom] at failed
  split at failed
  · cases write with
    | false => cases failed
    | true =>
        rcases bind_eq_error_iff.mp failed with refused | ⟨_, _, written⟩
        · obtain ⟨error, blocked, rfl⟩ := mapError_eq_error_iff.mp refused
          exact ⟨error, blocked, rfl⟩
        · cases written
  · cases failed

/-- A command that has read everything fails for lack of a text or of a place to write to. -/
theorem cases_of_act {settings : Settings} {given : List Rule} {command : Command}
    (failed : act files settings given command = .error failure) :
    (∃ why, command.Lacks why ∧ failure = .options why) ∨
      ∃ path error, command.path? = some path ∧ files.writable path = .error error ∧
        failure = .file error := by
  cases command with
  | resolve rules origin role wanted details =>
      rcases bind_eq_error_iff.mp failed with lacking | ⟨login, -, resolved⟩
      · cases origin with
        | none =>
            cases lacking
            exact .inl ⟨_, .origin, rfl⟩
        | some origin => cases lacking
      · cases resolved
  | validate rules isNewOrganization roles =>
      rcases bind_eq_error_iff.mp failed with lacking | ⟨known, -, validated⟩
      · unfold knownRoles at lacking
        split at lacking
        · cases lacking
        · split at lacking
          · cases lacking
          · next none =>
              cases lacking
              exact .inl ⟨_, .role (none_mem_of_mapM_id none), rfl⟩
      · dsimp only [performValidate] at validated
        split at validated <;> cases validated
  | provision rules source write =>
      obtain ⟨error, blocked, rfl⟩ := writable_of_performProvisionFrom failed
      exact .inr ⟨_, error, rfl, blocked, rfl⟩
  | normalize value => cases failed

/-! ## Breaking off -/

/-- Whether something fails so that the command breaks off. -/
def Breaks {α : Type} (why : Break) (outcome : Except Failure α) : Prop :=
  ∃ failure, outcome = .error failure ∧ failure.break? = some why

theorem breaks_bind_iff {α β : Type} {first : Except Failure α} {next : α → Except Failure β} :
    Breaks why (first >>= next) ↔
      Breaks why first ∨ ∃ value, first = .ok value ∧ Breaks why (next value) := by
  simp only [Breaks, bind_eq_error_iff]
  grind

/-- A command line with a level ends as its command does. -/
theorem run_eq_outcome {arguments : List String} {level : Log.Level}
    (asked : Request.read arguments = some (.run invocation))
    (leveled : invocation.level = some level) :
    run environment files arguments = (perform environment files invocation).outcome level := by
  rw [run, asked]
  dsimp only
  rw [leveled]

/-- The exit code of a command line that does not break off. -/
def Outcome.exit? : Outcome → Option Nat
  | .exited done => some done.exit
  | .brokenOff _ => none

theorem outcome_eq_brokenOff_iff {level : Log.Level} {performance : Performance} :
    performance.outcome level = .brokenOff why ↔ Breaks why performance.result := by
  rw [Performance.outcome, Breaks]
  cases performance.result with
  | ok done => simp
  | error failure =>
      cases breaks : failure.break? with
      | none => simp [breaks]
      | some why => simp [breaks]

@[simp] theorem not_breaks_ok {α : Type} {value : α} : ¬ Breaks why (.ok value) :=
  fun ⟨_, failed, _⟩ => nomatch failed

/-- A command line breaks off for lack of a level, or where the command does. -/
theorem run_eq_brokenOff_iff {arguments : List String} :
    run environment files arguments = .brokenOff why ↔
      ∃ invocation, Request.read arguments = some (.run invocation) ∧
        (invocation.level = none ∧ why = .withoutText .capitals ∨
          invocation.level ≠ none ∧ Breaks why (perform environment files invocation).result) := by
  rw [run]
  cases asked : Request.read arguments with
  | none => simp
  | some request =>
      cases request with
      | run invocation =>
          dsimp only
          cases level : invocation.level with
          | none => simp [level, eq_comm]
          | some found => simp [level, outcome_eq_brokenOff_iff]
      | _ => simp

/-! ## Files that cannot be decoded -/

theorem read_eq_ok_iff {bytes : Bytes} :
    files.read path = .ok bytes ↔ files path = .file bytes := by
  rw [Files.read]
  cases files path <;> simp

theorem read_eq_unnameable_iff :
    files.read path = .error .unnameable ↔ files path = .unnameable := by
  rw [Files.read]
  cases files path <;> simp

theorem writable_eq_unnameable_iff :
    files.writable path = .error .unnameable ↔ files path = .unnameable := by
  rw [Files.writable]
  cases files path <;> simp

theorem break?_file_iff {error : FileError} :
    (Failure.file error).break? = some why ↔ error = .unnameable ∧ why = .unnameable := by
  cases error <;> simp [Failure.break?, eq_comm]

theorem break?_unreadableSettings_iff {error : FileError} :
    (Failure.unreadableSettings path error).break? = some why ↔
      error = .unnameable ∧ why = .unnameable := by
  cases error <;> simp [Failure.break?, eq_comm]

/-- Reading the bytes of a file breaks a command off only where no file can be. -/
theorem breaks_read_iff {rename : FileError → Failure}
    (breaks : ∀ error, (rename error).break? = some why ↔
      error = .unnameable ∧ why = .unnameable) :
    Breaks why ((files.read path).mapError rename) ↔
      files path = .unnameable ∧ why = .unnameable := by
  simp only [Breaks, mapError_eq_error_iff, ← read_eq_unnameable_iff]
  constructor
  · rintro ⟨failure, ⟨error, refused, rfl⟩, broken⟩
    obtain ⟨rfl, rfl⟩ := (breaks error).mp broken
    exact ⟨refused, rfl⟩
  · rintro ⟨refused, rfl⟩
    exact ⟨_, ⟨_, refused, rfl⟩, (breaks _).mpr ⟨rfl, rfl⟩⟩

/-- A file that is read and decoded breaks a command off where no file can be, or at a gap. -/
theorem breaks_load_iff {α : Type} {rename : FileError → Failure}
    {decoded : Bytes → Except Failure α} {HasGap : Bytes → Prop}
    (ofFile : ∀ error, (rename error).break? = some why ↔
      error = .unnameable ∧ why = .unnameable)
    (ofBytes : ∀ bytes, Breaks why (decoded bytes) ↔ why = .undecodable ∧ HasGap bytes) :
    Breaks why ((files.read path).mapError rename >>= decoded) ↔
      files path = .unnameable ∧ why = .unnameable ∨
        ∃ bytes, files path = .file bytes ∧ why = .undecodable ∧ HasGap bytes := by
  simp only [breaks_bind_iff, breaks_read_iff ofFile, mapError_eq_ok_iff, read_eq_ok_iff, ofBytes]

theorem breaks_loadRules_iff :
    Breaks why (loadRules files path) ↔ files path = .unnameable ∧ why = .unnameable ∨
      ∃ bytes, files path = .file bytes ∧ why = .undecodable ∧
        StopsAtGap (Utf8.decode bytes) := by
  refine breaks_load_iff (fun _ => break?_file_iff) fun bytes => ?_
  rw [← Document.decodeRules_undecodable_iff]
  cases Document.decodeRules (Utf8.decode bytes) with
  | ok given => simp [Except.mapError]
  | error error => cases error <;> simp [Breaks, Except.mapError, Failure.break?, eq_comm]

theorem breaks_loadSettings_iff :
    Breaks why (loadSettings files path) ↔ files path = .unnameable ∧ why = .unnameable ∨
      ∃ bytes, files path = .file bytes ∧ why = .undecodable ∧
        Settings.StopsAtGap (Utf8.decode bytes) := by
  refine breaks_load_iff (fun _ => break?_unreadableSettings_iff) fun bytes => ?_
  rw [← Settings.ofDocument_undecodable_iff]
  cases Settings.ofDocument (Utf8.decode bytes) with
  | ok settings => simp [Except.mapError]
  | error fault => cases fault <;> simp [Breaks, Except.mapError, Failure.break?, eq_comm]

/-- Where no file can be, there are no rules and nothing to break off at. -/
theorem breaks_loadRulesIfPresent_iff :
    Breaks why (loadRulesIfPresent files path) ↔
      ∃ bytes, files path = .file bytes ∧ why = .undecodable ∧
        StopsAtGap (Utf8.decode bytes) := by
  have loaded (isPresent : files.isPresent path = .ok true) :
      loadRulesIfPresent files path = loadRules files path := by
    rw [loadRulesIfPresent, isPresent]
    rfl
  have absent (isPresent : files.isPresent path = .ok false) :
      loadRulesIfPresent files path = .ok [] := by
    rw [loadRulesIfPresent, isPresent]
    rfl
  rw [Files.isPresent] at loaded absent
  cases found : files path with
  | file bytes =>
      rw [found] at loaded
      rw [loaded rfl, breaks_loadRules_iff, found]
      simp
  | folder =>
      rw [found] at loaded
      rw [loaded rfl, breaks_loadRules_iff, found]
      simp
  | tooLong =>
      have refused : loadRulesIfPresent files path = .error (.file (.tooLong path)) := by
        rw [loadRulesIfPresent, Files.isPresent, found]
        rfl
      simp [Breaks, refused, Failure.break?]
  | _ =>
      rw [found] at absent
      simp [absent]

theorem breaks_settingsFor_iff {config : Option String} :
    Breaks why (settingsFor environment files config) ↔
      ∃ name, config = some name ∧ name ≠ "" ∧
        Breaks why (loadSettings files (Path.ofString name)) := by
  have ofEnvironment :
      ¬ Breaks why ((Settings.ofEnvironment environment).mapError Failure.switch) := by
    rintro ⟨failure, failed, broken⟩
    obtain ⟨error, -, rfl⟩ := mapError_eq_error_iff.mp failed
    cases broken
  cases config with
  | none => simp [settingsFor, ofEnvironment]
  | some name =>
      rw [settingsFor]
      split
      · next empty => simp [ofEnvironment, String.isEmpty_iff.mp empty]
      · next named =>
          rw [String.isEmpty_iff] at named
          simp [named]

/-- Whether a command meets a gap: in its settings, or, once it has them, in its rules. -/
inductive MeetsGap (environment : Settings.Environment) (files : Files)
    (invocation : Invocation) : Prop
  | settings {name : String} {bytes : Bytes} : invocation.command.usesSettings = true →
    invocation.config = some name → name ≠ "" → files (Path.ofString name) = .file bytes →
    Settings.StopsAtGap (Utf8.decode bytes) → MeetsGap environment files invocation
  | rules {settings : Settings} {path : Path} {bytes : Bytes} :
    readSettings environment files invocation = .ok settings →
    invocation.command.path? = some path → files path = .file bytes →
    StopsAtGap (Utf8.decode bytes) → MeetsGap environment files invocation

theorem breaks_readSettings_iff :
    Breaks why (readSettings environment files invocation) ↔
      invocation.command.usesSettings = true ∧ ∃ name, invocation.config = some name ∧ name ≠ "" ∧
        Breaks why (loadSettings files (Path.ofString name)) := by
  rw [readSettings]
  split
  · next uses => simp [uses, breaks_settingsFor_iff]
  · next none => simp [none]

theorem breaks_readRules {command : Command} (breaks : Breaks why (readRules files command)) :
    ∃ path, command.path? = some path ∧ Breaks why (loadRules files path) := by
  cases command with
  | provision rules source write =>
      refine ⟨_, rfl, breaks_loadRules_iff.mpr (.inr ?_)⟩
      exact breaks_loadRulesIfPresent_iff.mp breaks
  | normalize value => exact absurd breaks not_breaks_ok
  | _ => exact ⟨_, rfl, breaks⟩

theorem breaks_readRules_undecodable_iff {command : Command} :
    Breaks .undecodable (readRules files command) ↔ ∃ path bytes, command.path? = some path ∧
      files path = .file bytes ∧ StopsAtGap (Utf8.decode bytes) := by
  cases command <;>
    simp [readRules, Command.path?, breaks_loadRules_iff, breaks_loadRulesIfPresent_iff]

theorem breaks_readFiles_iff :
    Breaks why (readFiles environment files invocation) ↔
      Breaks why (readSettings environment files invocation) ∨
        ∃ settings, readSettings environment files invocation = .ok settings ∧
          Breaks why (readRules files invocation.command) := by
  have delivered (settings : Settings) :
      Breaks why (readRules files invocation.command >>= fun given => pure (settings, given)) ↔
        Breaks why (readRules files invocation.command) := by
    rw [breaks_bind_iff]
    exact or_iff_left fun ⟨_, _, broken⟩ => not_breaks_ok broken
  rw [readFiles, breaks_bind_iff]
  simp only [delivered]

/-- What a command reads breaks it off because of a text that is not UTF-8 exactly when the
command meets a gap. -/
theorem breaks_readFiles_undecodable_iff :
    Breaks .undecodable (readFiles environment files invocation) ↔
      MeetsGap environment files invocation := by
  rw [breaks_readFiles_iff, breaks_readSettings_iff, breaks_readRules_undecodable_iff]
  constructor
  · rintro (⟨uses, name, config, named, broken⟩ | ⟨settings, read, path, bytes, of, file, gap⟩)
    · rcases breaks_loadSettings_iff.mp broken with ⟨-, wrong⟩ | ⟨bytes, file, -, gap⟩
      · cases wrong
      · exact .settings uses config named file gap
    · exact .rules read of file gap
  · rintro (⟨uses, config, named, file, gap⟩ | ⟨read, of, file, gap⟩)
    · exact .inl ⟨uses, _, config, named, breaks_loadSettings_iff.mpr (.inr ⟨_, file, rfl, gap⟩)⟩
    · exact .inr ⟨_, read, _, _, of, file, gap⟩

/-- The paths of the files that a command looks at. -/
def Invocation.paths (invocation : Invocation) : List Path :=
  (invocation.config.map Path.ofString).toList ++ invocation.command.path?.toList

theorem mem_paths_of_config {name : String} (config : invocation.config = some name) :
    Path.ofString name ∈ invocation.paths := by
  simp [Invocation.paths, config]

theorem mem_paths_of_path? (of : invocation.command.path? = some path) :
    path ∈ invocation.paths := by
  simp [Invocation.paths, of]

/-- Reading breaks off at a gap, or at a path that can be the path of no file. -/
theorem cases_of_breaks_readFiles
    (breaks : Breaks why (readFiles environment files invocation)) :
    why = .undecodable ∨
      why = .unnameable ∧ ∃ path ∈ invocation.paths, files path = .unnameable := by
  rcases breaks_readFiles_iff.mp breaks with ofSettings | ⟨_, -, ofRules⟩
  · obtain ⟨-, name, config, -, broken⟩ := breaks_readSettings_iff.mp ofSettings
    rcases breaks_loadSettings_iff.mp broken with ⟨entry, named⟩ | ⟨_, _, named, _⟩
    · exact .inr ⟨named, _, mem_paths_of_config config, entry⟩
    · exact .inl named
  · obtain ⟨path, of, broken⟩ := breaks_readRules ofRules
    rcases breaks_loadRules_iff.mp broken with ⟨entry, named⟩ | ⟨_, _, named, _⟩
    · exact .inr ⟨named, _, mem_paths_of_path? of, entry⟩
    · exact .inl named

/-- A command that has read everything breaks off for lack of a text, or at a path that can
be the path of no file. -/
theorem cases_of_breaks_act {settings : Settings} {given : List Rule}
    (breaks : Breaks why (act files settings given invocation.command)) :
    invocation.command.Lacks why ∨
      why = .unnameable ∧ ∃ path ∈ invocation.paths, files path = .unnameable := by
  obtain ⟨failure, failed, broken⟩ := breaks
  rcases cases_of_act failed with ⟨lacking, lacks, rfl⟩ | ⟨path, error, of, blocked, rfl⟩
  · cases broken
    exact .inl lacks
  · obtain ⟨rfl, named⟩ := break?_file_iff.mp broken
    exact .inr ⟨named, path, mem_paths_of_path? of, writable_eq_unnameable_iff.mp blocked⟩

/-- What is wrong with the arguments of a command that breaks off without a gap. -/
inductive Invocation.Misused (files : Files) (invocation : Invocation) : Break → Prop
  | level : invocation.level = none → Misused files invocation (.withoutText .capitals)
  | options {why : Break} : invocation.command.Lacks why → Misused files invocation why
  | path {path : Path} : path ∈ invocation.paths → files path = .unnameable →
    Misused files invocation .unnameable

theorem cases_of_breaks_perform
    (breaks : Breaks why (perform environment files invocation).result) :
    why = .undecodable ∨ invocation.Misused files why := by
  rw [result_perform, breaks_bind_iff] at breaks
  rcases breaks with reading | ⟨_, -, acting⟩
  · rcases cases_of_breaks_readFiles reading with undecodable | ⟨rfl, path, among, entry⟩
    · exact .inl undecodable
    · exact .inr (.path among entry)
  · rcases cases_of_breaks_act acting with lacks | ⟨rfl, path, among, entry⟩
    · exact .inr (.options lacks)
    · exact .inr (.path among entry)

theorem breaks_perform_undecodable_iff :
    Breaks .undecodable (perform environment files invocation).result ↔
      MeetsGap environment files invocation := by
  rw [result_perform, breaks_bind_iff, breaks_readFiles_undecodable_iff]
  refine or_iff_left ?_
  rintro ⟨_, -, acting⟩
  rcases cases_of_breaks_act acting with lacks | ⟨other, -⟩
  · exact lacks.ne_undecodable rfl
  · cases other

/-- A command that cannot read a file ends with exit code 2, unless it breaks off there. -/
theorem exit_of_readFiles {level : Log.Level}
    (failed : readFiles environment files invocation = .error failure)
    (remains : failure.break? = none) :
    ((perform environment files invocation).outcome level).exit? = some 2 := by
  have result : (perform environment files invocation).result = .error failure := by
    rw [result_perform, failed]
    rfl
  rw [Performance.outcome, result]
  dsimp only
  rw [remains]
  rfl

/-- Rules, organizations and settings are undecodable at a gap and for no other reason; a
text that is UTF-8 has none. A command line breaks off because of what is in a file when the
command meets a gap. Where it breaks off otherwise its arguments are misused, and any other
file that cannot be read makes it exit with code 2. -/
theorem only_gaps_break_off (bytes : Bytes) (s : List Char) (environment : Settings.Environment)
    (files : Files) (arguments : List String) :
    ((Document.decodeRules (Utf8.decode bytes) = .error .undecodable ↔
        StopsAtGap (Utf8.decode bytes)) ∧
      (Document.decodeOrganization (Utf8.decode bytes) = .error .undecodable ↔
        StopsAtGap (Utf8.decode bytes)) ∧
      (Settings.ofDocument (Utf8.decode bytes) = .error .undecodable ↔
        Settings.StopsAtGap (Utf8.decode bytes))) ∧
    (¬ StopsAtGap (Utf8.decode (Utf8.encode s)) ∧
      ¬ Settings.StopsAtGap (Utf8.decode (Utf8.encode s))) ∧
    (run environment files arguments = .brokenOff .undecodable ↔
      ∃ invocation, Request.read arguments = some (.run invocation) ∧
        invocation.level ≠ none ∧ MeetsGap environment files invocation) ∧
    (∀ why, run environment files arguments = .brokenOff why → why = .undecodable ∨
      ∃ invocation, Request.read arguments = some (.run invocation) ∧
        invocation.Misused files why) ∧
    ∀ invocation failure, Request.read arguments = some (.run invocation) →
      readFiles environment files invocation = .error failure →
      ¬ MeetsGap environment files invocation → (∀ why, ¬ invocation.Misused files why) →
        (run environment files arguments).exit? = some 2 := by
  refine ⟨⟨Document.decodeRules_undecodable_iff, Document.decodeOrganization_undecodable_iff,
    Settings.ofDocument_undecodable_iff⟩, ?_, ?_, ?_, ?_⟩
  · rw [Utf8.decode_encode]
    exact ⟨not_stopsAtGap_of_whole s, Settings.not_stopsAtGap_of_whole s⟩
  · rw [run_eq_brokenOff_iff]
    simp only [breaks_perform_undecodable_iff, reduceCtorEq, and_false, false_or]
  · intro why broken
    obtain ⟨invocation, asked, ⟨level, rfl⟩ | ⟨-, breaks⟩⟩ := run_eq_brokenOff_iff.mp broken
    · exact .inr ⟨invocation, asked, .level level⟩
    · exact (cases_of_breaks_perform breaks).imp_right fun misused => ⟨invocation, asked, misused⟩
  · intro invocation failure asked failed noGap wellUsed
    have remains : failure.break? = none := by
      rw [Option.eq_none_iff_forall_ne_some]
      intro why broken
      rcases cases_of_breaks_readFiles ⟨failure, failed, broken⟩ with
        rfl | ⟨rfl, path, among, entry⟩
      · exact noGap (breaks_readFiles_undecodable_iff.mp ⟨failure, failed, broken⟩)
      · exact wellUsed _ (.path among entry)
    cases level : invocation.level with
    | none => exact absurd (.level level) (wellUsed _)
    | some found =>
        rw [run_eq_outcome asked level]
        exact exit_of_readFiles failed remains

/-- Rules in which a byte of a string is no character. -/
def brokenRules : Bytes :=
  Utf8.encode "[\x7b\"authPageUrl\":\"".toList ++ [0xFF] ++ Utf8.encode "\"\x7d]".toList

/-- Rules that end too early. -/
def openRules : Bytes :=
  Utf8.encode ['[']

/-- Rules with a gap break a command off, and rules that are malformed do not. -/
theorem only_gaps_break_off_of_brokenRules :
    let folder (bytes : Bytes) : Folder := [(Path.ofString "rules.json", bytes)]
    run [] (folder brokenRules).files ["validate", "rules.json"] = .brokenOff .undecodable ∧
      (run [] (folder openRules).files ["validate", "rules.json"]).exit? = some 2 := by
  intro folder
  let arguments := ["validate", "rules.json"]
  have file (bytes : Bytes) :
      (folder bytes).files (Path.ofString "rules.json") = .file bytes := by
    rfl
  have asked : Request.read arguments =
      some (.run ⟨none, some .warning, .validate "rules.json" false none⟩) := by
    decide +kernel
  constructor
  · obtain ⟨⟨rules, -⟩, -, breaksOff, -⟩ :=
      only_gaps_break_off brokenRules [] [] (folder brokenRules).files arguments
    have gap : StopsAtGap (Utf8.decode brokenRules) := rules.mp (by rfl)
    exact breaksOff.mpr ⟨_, asked, by decide, .rules rfl rfl (file brokenRules) gap⟩
  · obtain ⟨-, ⟨noGap, -⟩, -, -, exits⟩ :=
      only_gaps_break_off openRules ['['] [] (folder openRules).files arguments
    refine exits _ (.rules (.malformed .rules)) asked rfl ?_ ?_
    · rintro (⟨uses, -⟩ | ⟨-, of, found, gap⟩)
      · cases uses
      · cases of
        rw [file] at found
        cases found
        exact noGap gap
    · rintro why (level | lacks | ⟨among, entry⟩)
      · cases level
      · cases lacks
      · rw [List.mem_singleton.mp among, file] at entry
        cases entry

end AuthRedirect.CommandLine

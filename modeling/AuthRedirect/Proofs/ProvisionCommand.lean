import AuthRedirect.Proofs.CommandFailures
import AuthRedirect.Proofs.FolderWrites
import AuthRedirect.Proofs.ProvisioningRuns
import AuthRedirect.Proofs.RuleDocuments
import AuthRedirect.Proofs.SettingsDocuments

/-!
The command that provisions rules and writes them back. `Provisions` says what it works with:
settings, the rules that are there, and the auth server URL that its option stands for, each
as a relation to what was given. It writes once it has all of them, and so either changes
nothing or leaves a file with the provisioned rules. All of them are there again after the
write: the settings are in another file, because no document is both settings and rules, and
the rules are read back from the file as they were written. `provision_settles` concludes that
the same command again changes nothing.
-/

namespace AuthRedirect

open AuthRedirect.Json AuthRedirect.Text

/-- A plain value is read from a document with a line break at its end. -/
theorem Json.parse_documentText_line {value : Json} (plain : Plain value) :
    parse (rawText (CommandLine.line value.documentText)) = .ok value := by
  have read := reads_of_plain escape_faithful plain _ _ [some '\n'] (opens_awaitValue [])
  rw [parse_eq, rawText, CommandLine.line, documentText, String.toList_append,
    String.toList_ofList, List.map_append]
  change readFrom _ _ (_ ++ [some '\n']) >>= _ = _
  rw [read]
  rfl

namespace CommandLine

variable {environment : Settings.Environment} {files : Files} {folder : Folder}
  {config : Option String} {path : Path} {settings : Settings} {given : List Rule}
  {source : Source} {url : Option String}

/-! ## What is read -/

/-- Rules are read back from the file that they are written to. -/
theorem decodeRules_rulesFile (rules : List Rule) :
    Document.decodeRules (Utf8.decode (rulesFile rules)) = .ok rules := by
  have plain : Plain (.arr (rules.map Rule.toJson)) := .arr_map Rule.toJson_plain rules
  have read : Document.parse .rules (Utf8.decode (rulesFile rules)) =
      .ok (.arr (rules.map Rule.toJson)) := by
    rw [rulesFile, Utf8.decode_encode]
    exact mapError_eq_ok_iff.mpr (parse_documentText_line plain)
  rw [Document.decodeRules, read]
  change Document.ofChecked .rules (itemsFrom Rule.ofJson 0 _) = _
  rw [itemsFrom_map Rule.ofJson_toJson]
  rfl

theorem loadSettings_eq_ok_iff :
    loadSettings files path = .ok settings ↔ ∃ bytes, files path = .file bytes ∧
      Settings.ofDocument (Utf8.decode bytes) = .ok settings := by
  rw [loadSettings, bind_eq_ok_iff]
  simp only [mapError_eq_ok_iff, read_eq_ok_iff]

/-- The settings that a command goes by: those of the environment, unless a file is named. A
name that is empty names none. -/
inductive ConfiguredBy (environment : Settings.Environment) (files : Files) :
    Option String → Settings → Prop
  | noName {settings : Settings} :
    Settings.ofEnvironment environment = .ok settings →
    ConfiguredBy environment files none settings
  | emptyName {settings : Settings} :
    Settings.ofEnvironment environment = .ok settings →
    ConfiguredBy environment files (some "") settings
  | file {name : String} {bytes : Bytes} {settings : Settings} :
    name ≠ "" → files (Path.ofString name) = .file bytes →
    Settings.ofDocument (Utf8.decode bytes) = .ok settings →
    ConfiguredBy environment files (some name) settings

theorem settingsFor_eq_ok_iff :
    settingsFor environment files config = .ok settings ↔
      ConfiguredBy environment files config settings := by
  constructor
  · intro found
    cases config with
    | none => exact .noName (mapError_eq_ok_iff.mp found)
    | some name =>
        rw [settingsFor] at found
        split at found
        · next empty =>
            rw [String.isEmpty_iff.mp empty]
            exact .emptyName (mapError_eq_ok_iff.mp found)
        · next named =>
            obtain ⟨bytes, file, read⟩ := loadSettings_eq_ok_iff.mp found
            exact .file (fun empty => named (String.isEmpty_iff.mpr empty)) file read
  · intro configured
    cases configured with
    | noName found => exact mapError_eq_ok_iff.mpr found
    | emptyName found => exact mapError_eq_ok_iff.mpr found
    | @file name bytes _ named file read =>
        rw [settingsFor, if_neg fun empty => named (String.isEmpty_iff.mp empty)]
        exact loadSettings_eq_ok_iff.mpr ⟨bytes, file, read⟩

/-- The rules at a path to which rules can be written: those in the file, or none where there
is no file yet. -/
inductive RulesAt (files : Files) (path : Path) : List Rule → Prop
  | file {bytes : Bytes} {rules : List Rule} : files path = .file bytes →
    Document.decodeRules (Utf8.decode bytes) = .ok rules → RulesAt files path rules
  | vacant : files path = .vacant → RulesAt files path []

theorem rulesAt_iff :
    RulesAt files path given ↔
      loadRulesIfPresent files path = .ok given ∧ files.writable path = .ok () := by
  constructor
  · intro found
    cases found with
    | file file read =>
        rw [loadRulesIfPresent, loadRules, Files.isPresent, Files.read, Files.writable, file]
        exact ⟨mapError_eq_ok_iff.mpr read, rfl⟩
    | vacant vacant =>
        rw [loadRulesIfPresent, Files.isPresent, Files.writable, vacant]
        exact ⟨rfl, rfl⟩
  · rintro ⟨loaded, writable⟩
    rw [Files.writable] at writable
    rw [loadRulesIfPresent, loadRules, Files.isPresent, Files.read] at loaded
    split at writable
    · next bytes file =>
        rw [file] at loaded
        exact .file file (mapError_eq_ok_iff.mp loaded)
    · next vacant =>
        rw [vacant] at loaded
        cases loaded
        exact .vacant vacant
    all_goals cases writable

/-- The auth server URL that an option stands for: the one that is given, or the one that is
derived from a website. Without a website there is no URL. -/
inductive Source.StandsFor (settings : Settings) : Source → Option String → Prop
  | authServerUrl (url : Given) : StandsFor settings (.authServerUrl url) url
  | noWebsite : StandsFor settings (.website none) none
  | emptyWebsite : StandsFor settings (.website (some "")) none
  | website {website url : String} :
    website ≠ "" → AuthServer.derive settings (some website) none none = some url →
    StandsFor settings (.website (some website)) (some url)

theorem sourceUrl_eq_ok_iff :
    sourceUrl settings source = .ok url ↔ source.StandsFor settings url := by
  constructor
  · intro found
    unfold sourceUrl at found
    split at found
    · cases found
      exact .authServerUrl _
    · cases found
      exact .noWebsite
    · split at found
      · next empty =>
          cases found
          rw [String.isEmpty_iff.mp empty]
          exact .emptyWebsite
      · next nonempty =>
          split at found
          · next derived =>
              cases found
              exact .website (fun empty => nonempty (String.isEmpty_iff.mpr empty)) derived
          · cases found
  · intro standsFor
    cases standsFor with
    | authServerUrl url => rfl
    | noWebsite => rfl
    | emptyWebsite => rfl
    | website nonempty derived =>
        rw [sourceUrl, if_neg fun empty => nonempty (String.isEmpty_iff.mp empty), derived]

/-! ## What is written -/

/-- What the command works with when it writes to a path: settings, the rules before, and an
auth server URL. -/
structure Provisions (environment : Settings.Environment) (files : Files)
    (config : Option String) (path : Path) (source : Source) (settings : Settings)
    (given : List Rule) (url : Option String) : Prop where
  configured : ConfiguredBy environment files config settings
  before : RulesAt files path given
  standsFor : source.StandsFor settings url

theorem Provisions.writable
    (provisions : Provisions environment files config path source settings given url) :
    files.writable path = .ok () :=
  (rulesAt_iff.mp provisions.before).2

/-- How the command ends when it writes. -/
def wrote (path : Path) (given provisioned : List Rule) : Done where
  stdout := line ("wrote " ++ toString (provisioned.length - given.length) ++
    " new rule(s) to " ++ path.text)
  written := some (path, rulesFile provisioned)

variable {level : Option Log.Level} {rules : String} {arguments : List String}

theorem readFiles_eq_ok_iff :
    readFiles environment files ⟨config, level, .provision rules source true⟩ =
        .ok (settings, given) ↔
      ConfiguredBy environment files config settings ∧
        loadRulesIfPresent files (Path.ofString rules) = .ok given := by
  constructor
  · intro read
    obtain ⟨_, configured, others⟩ := bind_eq_ok_iff.mp read
    obtain ⟨_, loaded, same⟩ := bind_eq_ok_iff.mp others
    cases same
    exact ⟨settingsFor_eq_ok_iff.mp configured, loaded⟩
  · rintro ⟨configured, loaded⟩
    exact bind_eq_ok_iff.mpr ⟨_, settingsFor_eq_ok_iff.mpr configured,
      bind_eq_ok_iff.mpr ⟨_, loaded, rfl⟩⟩

/-- The command writes where it finds what it needs. -/
theorem Provisions.result
    (provisions : Provisions environment files config (Path.ofString rules) source settings given
      url) :
    (perform environment files ⟨config, level, .provision rules source true⟩).result =
      .ok (wrote (Path.ofString rules) given (Provisioning.provision settings given url)) := by
  have loaded := (rulesAt_iff.mp provisions.before).1
  rw [result_perform, readFiles_eq_ok_iff.mpr ⟨provisions.configured, loaded⟩]
  change (performProvisionFrom settings files _ given source true).result = _
  rw [performProvisionFrom, sourceUrl_eq_ok_iff.mpr provisions.standsFor]
  dsimp only [performProvision, if_true]
  rw [provisions.writable]
  rfl

/-- Where the command does not fail, it finds what it needs, or it has no auth server URL and
ends with exit code 1. -/
theorem cases_of_result {done : Done}
    (ended : (perform environment files ⟨config, level, .provision rules source true⟩).result =
      .ok done) :
    (∃ settings given url,
      Provisions environment files config (Path.ofString rules) source settings given url) ∨
      done.exit = 1 ∧ done.written = none := by
  rw [result_perform] at ended
  obtain ⟨⟨settings, given⟩, read, acted⟩ := bind_eq_ok_iff.mp ended
  obtain ⟨configured, loaded⟩ := readFiles_eq_ok_iff.mp read
  change (performProvisionFrom settings files _ given source true).result = _ at acted
  rw [performProvisionFrom] at acted
  split at acted
  · next url derived =>
      obtain ⟨_, writable, -⟩ := bind_eq_ok_iff.mp acted
      have before := rulesAt_iff.mpr ⟨loaded, mapError_eq_ok_iff.mp writable⟩
      exact .inl ⟨settings, given, url, configured, before, sourceUrl_eq_ok_iff.mp derived⟩
  · cases acted
    exact .inr ⟨rfl, rfl⟩

/-- Where the command finds what it needs, it writes and exits with code 0. -/
theorem Provisions.run
    (provisions : Provisions environment files config (Path.ofString rules) source settings given
      url)
    (asked : Request.read arguments = some (.run ⟨config, level, .provision rules source true⟩))
    (leveled : level ≠ none) :
    ∃ log, run environment files arguments = .exited
      { wrote (Path.ofString rules) given (Provisioning.provision settings given url) with
        stderr := log } := by
  obtain ⟨found, rfl⟩ := Option.ne_none_iff_exists'.mp leveled
  rw [run_eq_outcome asked rfl, Performance.outcome, provisions.result]
  exact ⟨_, rfl⟩

/-- The command finds what it needs, or it does not exit with code 0 and changes nothing. -/
theorem cases_of_run (environment : Settings.Environment) (files : Files)
    (asked : Request.read arguments = some (.run ⟨config, level, .provision rules source true⟩)) :
    (level ≠ none ∧ ∃ settings given url,
      Provisions environment files config (Path.ofString rules) source settings given url) ∨
      (run environment files arguments).exit? ≠ some 0 ∧
        ∀ folder, (run environment files arguments).folder folder = folder := by
  cases level with
  | none =>
      have broken : run environment files arguments = .brokenOff (.withoutText .capitals) := by
        rw [run, asked]
      rw [broken]
      exact .inr ⟨by simp [Outcome.exit?], fun _ => rfl⟩
  | some level =>
      rw [run_eq_outcome asked rfl, Performance.outcome]
      cases ended : (perform environment files
          ⟨config, some level, .provision rules source true⟩).result with
      | ok done =>
          rcases cases_of_result ended with provisions | ⟨exit, written⟩
          · exact .inl ⟨Option.some_ne_none level, provisions⟩
          · refine .inr ⟨?_, fun folder => ?_⟩
            · simp [Outcome.exit?, exit]
            · simp [Outcome.folder, written]
      | error failure =>
          dsimp only
          cases failure.break? with
          | none => exact .inr ⟨by simp [Outcome.exit?], fun _ => rfl⟩
          | some why => exact .inr ⟨by simp [Outcome.exit?], fun _ => rfl⟩

/-- The command exits with code 0 exactly where it finds what it needs. -/
theorem exit?_run_eq_zero_iff (environment : Settings.Environment) (files : Files)
    (asked : Request.read arguments = some (.run ⟨config, level, .provision rules source true⟩)) :
    (run environment files arguments).exit? = some 0 ↔ level ≠ none ∧ ∃ settings given url,
      Provisions environment files config (Path.ofString rules) source settings given url := by
  constructor
  · intro exits
    rcases cases_of_run environment files asked with found | ⟨fails, -⟩
    · exact found
    · exact absurd exits fails
  · rintro ⟨leveled, settings, given, url, provisions⟩
    obtain ⟨log, ran⟩ := provisions.run asked leveled
    exact congrArg Outcome.exit? ran

/-- A command that does not exit with code 0 changes nothing. -/
theorem folder_run_of_fails
    (asked : Request.read arguments = some (.run ⟨config, level, .provision rules source true⟩))
    (fails : (run environment files arguments).exit? ≠ some 0) (folder : Folder) :
    (run environment files arguments).folder folder = folder := by
  rcases cases_of_run environment files asked with ⟨leveled, found⟩ | ⟨-, same⟩
  · exact absurd ((exit?_run_eq_zero_iff environment files asked).mpr ⟨leveled, found⟩) fails
  · exact same folder

/-! ## The same command again -/

/-- A file of settings is no file of rules. -/
theorem not_rulesAt_of_settings {bytes : Bytes} (file : files path = .file bytes)
    (read : Settings.ofDocument (Utf8.decode bytes) = .ok settings) :
    ¬ RulesAt files path given := by
  intro found
  cases found with
  | file sameFile readAsRules =>
      rw [file] at sameFile
      cases sameFile
      obtain ⟨items, array, -⟩ := Document.exists_array_of_decodeRules readAsRules
      exact Settings.parse_ne_arr_of_ofDocument read items array
  | vacant vacant =>
      rw [file] at vacant
      cases vacant

/-- No place holds both settings and rules, so that the settings are not written over. -/
theorem Provisions.configured_write
    (provisions : Provisions environment folder.files config path source settings given url)
    (bytes : Bytes) :
    ConfiguredBy environment (folder.write path bytes).files config settings := by
  cases provisions.configured with
  | noName found => exact .noName found
  | emptyName found => exact .emptyName found
  | file named file read =>
      refine .file named ?_ read
      -- At the place of the rules, the settings would be rules as well.
      refine Folder.files_write_of_ne provisions.writable file fun same => ?_
      have atPath := Folder.files_of_place_eq provisions.writable file same
      exact not_rulesAt_of_settings atPath read provisions.before

/-- What the command needed, it finds again after it has written, and its own rules. -/
theorem Provisions.again
    (provisions : Provisions environment folder.files config path source settings given url) :
    Provisions environment
      (folder.write path (rulesFile (Provisioning.provision settings given url))).files config path
      source settings (Provisioning.provision settings given url) url where
  configured := provisions.configured_write _
  before := .file (Folder.files_write provisions.writable _) (decodeRules_rulesFile _)
  standsFor := provisions.standsFor

/-- Provisioning with `--write` changes nothing unless it exits with code 0, which it does
exactly where it finds settings, rules or room for them, and what its option stands for. Then
the file holds the document of the provisioned rules and a line break, every other file is as
it was, and the same command again exits with code 0, reports no new rule and changes nothing. -/
theorem provision_settles (environment : Settings.Environment) (folder : Folder)
    {arguments : List String} {config : Option String} {level : Option Log.Level}
    {rules : String} {source : Source}
    (asked : Request.read arguments = some (.run ⟨config, level, .provision rules source true⟩)) :
    let path := Path.ofString rules
    let outcome := run environment folder.files arguments
    let after := outcome.folder folder
    let again := run environment after.files arguments
    (outcome.exit? ≠ some 0 → after = folder) ∧
      (outcome.exit? = some 0 ↔ level ≠ none ∧ ∃ settings given url,
        Provisions environment folder.files config path source settings given url) ∧
      (outcome.exit? = some 0 →
        (∀ settings given url,
          Provisions environment folder.files config path source settings given url →
          after.files path = .file (Utf8.encode
            (Document.encodeRules (Provisioning.provision settings given url) ++ "\n").toList)) ∧
        (∀ other old, folder.files other = .file old → folder.place other ≠ folder.place path →
          after.files other = .file old) ∧
        again.exit? = some 0 ∧ again.folder after = after ∧
        ∃ done, again = .exited done ∧
          done.stdout = "wrote 0 new rule(s) to " ++ path.text ++ "\n") := by
  intro path outcome after again
  have exits_iff := exit?_run_eq_zero_iff environment folder.files asked
  refine ⟨fun fails => folder_run_of_fails asked fails folder, exits_iff, fun exits => ?_⟩
  obtain ⟨leveled, settings, given, url, provisions⟩ := exits_iff.mp exits
  have written {settings : Settings} {given : List Rule} {url : Option String}
      (provisions : Provisions environment folder.files config path source settings given url) :
      after = folder.write path (rulesFile (Provisioning.provision settings given url)) := by
    obtain ⟨log, ran⟩ := provisions.run asked leveled
    exact congrArg (Outcome.folder folder) ran
  have file {settings : Settings} {given : List Rule} {url : Option String}
      (provisions : Provisions environment folder.files config path source settings given url) :
      after.files path = .file (rulesFile (Provisioning.provision settings given url)) := by
    rw [written provisions]
    exact Folder.files_write provisions.writable _
  obtain ⟨log, ranAgain⟩ := provisions.again.run asked leveled
  rw [Provisioning.provision_provision, ← written provisions] at ranAgain
  refine ⟨fun _ _ _ => file, ?_, ?_, ?_, ?_⟩
  · intro other old otherFile apart
    rw [written provisions]
    exact Folder.files_write_of_ne provisions.writable otherFile apart
  · exact congrArg Outcome.exit? ranAgain
  · exact (congrArg (Outcome.folder after) ranAgain).trans
      (Folder.write_eq_self (file provisions))
  · refine ⟨_, ranAgain, ?_⟩
    simp only [wrote, Nat.sub_self]
    rfl

/-- Provisioning a file of an older console for a website: the rule that it holds stays in
front, and those for local development and for the derived auth server come behind it. -/
theorem provision_settles_for_website :
    let folder : Folder :=
      [(Path.ofString "rules.json", Utf8.encode Document.legacyText.toList)]
    let arguments := ["provision", "rules.json", "--website", "https://new.io", "--write"]
    let after := (run [] folder.files arguments).folder folder
    let written : List Rule := [
      Document.legacyRule,
      { environment := "development", authPageUrl := "http://localhost:4001"
        targets := [⟨"http://localhost:4001/profile", true⟩]
        description := some "Local development - redirects to profile page after login" },
      { environment := "production", authPageUrl := "https://auth.new.io"
        targets := [⟨"https://auth.new.io/profile", true⟩]
        description := some "Production - redirects to profile page after login" }]
    (run [] folder.files arguments).exit? = some 0 ∧
      after.files (Path.ofString "rules.json") =
        .file (Utf8.encode (Document.encodeRules written ++ "\n").toList) ∧
      (run [] after.files arguments).folder after = after := by
  intro folder arguments after written
  have asked : Request.read arguments = some (.run ⟨none, some .warning,
      .provision "rules.json" (.website (some "https://new.io")) true⟩) := by
    decide +kernel
  have inFile : folder.files (Path.ofString "rules.json") =
      .file (Utf8.encode Document.legacyText.toList) := by
    decide +kernel
  have provisions : Provisions [] folder.files none (Path.ofString "rules.json")
      (.website (some "https://new.io")) {} [Document.legacyRule]
      (some "https://auth.new.io") :=
    ⟨.noName (by decide +kernel), .file inFile (by decide +kernel),
      .website (by decide) (by decide +kernel)⟩
  have provisioned : Provisioning.provision {} [Document.legacyRule]
      (some "https://auth.new.io") = written := by
    decide +kernel
  obtain ⟨-, exits_iff, settles⟩ := provision_settles [] folder asked
  have exits := exits_iff.mpr ⟨by decide, _, _, _, provisions⟩
  obtain ⟨file, -, -, same, -⟩ := settles exits
  have holds := file _ _ _ provisions
  rw [provisioned] at holds
  exact ⟨exits, holds, same⟩

end CommandLine

end AuthRedirect

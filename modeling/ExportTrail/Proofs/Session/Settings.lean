import ExportTrail.Proofs.Settings.Accepted
import ExportTrail.Session

/-!
# Making settings in a session

Settings are made from arguments, the environment and the file of variables in the working
directory. They can always be used (`Usable`), and where none are made it is known why: the file
cannot be read, there are complaints about given values, or the log level is given by something
that is no text (`settings_made`). The last is a failure of its own, while a value of a wrong type
for any other setting is complained about (`settings_levelNotText`).
-/

namespace ExportTrail

namespace Settings

/-- What a resolver relies on. -/
structure Usable (σ : Settings) : Prop where
  extensions : ∀ x ∈ σ.extensions, ∃ rest, x = "." ++ rest
  maxDepth : 1 ≤ σ.maxDepth
  logLevel : σ.logLevel.name ∈ ["DEBUG", "INFO", "WARNING", "ERROR", "CRITICAL"]

theorem eq_append_of_isExtension {x : String} (h : isExtension x = true) :
    ∃ rest, x = "." ++ rest := by
  obtain ⟨rest, chars⟩ : ∃ rest, x.toList = '.' :: rest := by
    simpa [isExtension, List.head?_eq_some_iff] using h
  refine ⟨String.ofList rest, ?_⟩
  rw [← String.toList_inj, chars, String.toList_append, String.toList_ofList]
  simp

theorem usable_of_accepted {s : Sources} {σ : Settings} (h : Accepted s σ) : Usable σ where
  extensions := by
    intro x mem
    refine eq_append_of_isExtension ?_
    have settled := h.extensions
    unfold Settled at settled
    split at settled
    · rw [settled] at mem
      have dotted : ∀ x ∈ default.extensions, isExtension x = true := by decide
      exact dotted x mem
    · exact settled.2 x mem
  maxDepth := by
    have settled := h.maxDepth
    unfold Settled at settled
    split at settled
    · rw [settled]
      decide
    · exact settled.2
  logLevel := by cases σ.logLevel <;> decide

end Settings

namespace Session

variable {s : Session}

/-- The names of the levels are those by which a level is set. -/
theorem levelNumber?_name (level : Log.Level) : levelNumber? level.name = some level.rank := by
  cases level <;> rfl

/-- The file of variables fails to be read because it cannot be opened or holds no text. -/
theorem fileVariables_error {e : Failure} (h : s.fileVariables = .error e) :
    (∃ fault, e = .file fault variableFile) ∨ ∃ malformed, e = .undecodable malformed := by
  unfold fileVariables at h
  split at h
  · next fault _ =>
    cases h
    exact .inl ⟨fault, rfl⟩
  · cases h
  · cases read : s.workspace.readText variableFile with
    | ok text =>
      rw [read] at h
      cases h
    | error e =>
      rw [read] at h
      cases h
      unfold Workspace.readText at read
      split at read
      · next fault _ =>
        cases read
        exact .inl ⟨fault, rfl⟩
      · split at read
        · next malformed _ =>
          cases read
          exact .inr ⟨malformed, rfl⟩
        · cases read

/-- **Settings that are made can be used, and where none are made it is known why.** A file of
variables that is there has to be readable; if it is, the settings are those that the sources give,
or there are complaints, each about a value that is given, or the log level is given by something
that is no text. Settings that are made have extensions that start with a dot, a depth of at least
one and the name of a level, by which the level can be set, so that a resolver is made from them. -/
theorem settings_made (s : Session) (arguments : List (String × Value)) :
    (match s.fileVariables with
      | .ok file => Settings.Made ⟨arguments, s.environment, file⟩ (s.settings arguments)
      | .error e => s.settings arguments = .error e ∧
          ((∃ fault, e = .file fault variableFile) ∨ ∃ malformed, e = .undecodable malformed)) ∧
    ∀ σ, s.settings arguments = .ok σ →
      σ.Usable ∧ s.setLevel σ.logLevel.name = .ok (s.makeResolver σ).2 := by
  rw [settings]
  cases read : s.fileVariables with
  | error e => exact ⟨⟨rfl, fileVariables_error read⟩, fun σ made => by cases made⟩
  | ok file =>
    refine ⟨Settings.made_ofSources _, fun σ made => ⟨?_, ?_⟩⟩
    · exact Settings.usable_of_accepted (Settings.ofSources_ok_iff.1 made)
    · rw [setLevel, levelNumber?_name]
      rfl

/-- A session without files. -/
def withoutFiles : Session :=
  start ⟨.empty, [], fun _ _ => ⟨⟨"program", true, false, false, 0, 0, [], []⟩, false⟩⟩

/-- Settings from arguments and the defaults. -/
theorem settings_made_arguments :
    let arguments : List (String × Value) :=
      [("extensions", .text ".js, .ts"), ("log_level", .text "debug"), ("Max_Depth", .text " 7.0 ")]
    let σ : Settings := ⟨[".js", ".ts"], Locator.defaultIgnored, 7, .debug⟩
    withoutFiles.settings arguments = .ok σ ∧
      σ.Usable ∧ withoutFiles.setLevel σ.logLevel.name = .ok (withoutFiles.makeResolver σ).2 := by
  intro arguments σ
  have made : withoutFiles.settings arguments = .ok σ := by cbv
  exact ⟨made, (settings_made withoutFiles arguments).2 σ made⟩

/-- A number for the log level is neither accepted nor complained about, though something that is no
list is complained about where a list is asked for. -/
theorem settings_levelNotText :
    withoutFiles.settings [("log_level", .number (.integer 5))] = .error (.levelNotText "int") ∧
      withoutFiles.settings [("extensions", .number (.integer 5))] =
        .error (.rejected [⟨.notList, ["extensions"]⟩]) := by
  constructor <;> cbv

end Session

end ExportTrail

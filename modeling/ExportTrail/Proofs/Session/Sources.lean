import ExportTrail.Proofs.Settings.Accepted
import ExportTrail.Session

/-!
# Where settings come from

Settings that are made without arguments take each value from the environment, or else from the file
of variables in the working directory, or else from the defaults (`settings_drawn`).
-/

namespace ExportTrail.Session

variable {s : Session}

/-- The text given for a setting: by the environment, or else by the file of variables. -/
def given? (s : Session) (file : Variables (Option String)) (name : String) : Option String :=
  (Settings.lastNamed (Settings.variableStem ++ name) s.environment).or
    ((Settings.lastNamed (Settings.variableStem ++ name) file).bind id)

end ExportTrail.Session

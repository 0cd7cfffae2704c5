import ExportTrail.Settings
import Mathlib

/-!
# Settings that are accepted

What a value may be for a setting is said without the checks (`MeansList`, `MeansDepth`,
`MeansLevel`), and so is what settings the sources give (`Accepted`).

* `ofSources_ok_iff`: the settings that are made are those that the sources give.
* `made_ofSources`: if the sources give none, there are complaints, each about a value that is given
  for the setting it names. Only a log level that is no text ends in another failure.
-/

namespace ExportTrail.Settings

/-! ## What values mean -/

/-- Whether a value gives a list of texts. -/
inductive MeansList : Value → List String → Prop
  | listing (text : String) : MeansList (.text text) (Text.listing text)
  | items (xs : List String) : MeansList (.list (xs.map Value.text)) xs

/-- Whether a value gives extensions, which start with a dot. -/
def MeansExtensions (v : Value) (xs : List String) : Prop :=
  MeansList v xs ∧ ∀ x ∈ xs, isExtension x = true

/-- Whether a value gives a depth, which is at least one. -/
def MeansDepth (v : Value) (n : Int) : Prop := integerOf v = .ok n ∧ 1 ≤ n

/-- Whether a value gives a log level, by its name in any case. -/
def MeansLevel (v : Value) (level : Log.Level) : Prop :=
  ∃ name, v = .text name ∧ Log.Level.ofName? (Text.upper name) = some level

/-- Whether a setting is what the value given for it means or, if none is given, the default. -/
def Settled {α : Type} (given : Option Value) (default : α) (Means : Value → α → Prop) (a : α) :
    Prop :=
  match given with
  | none => a = default
  | some v => Means v a

/-- Whether the sources give some settings. -/
structure Accepted (s : Sources) (σ : Settings) : Prop where
  extensions : Settled (given? s "extensions") default.extensions MeansExtensions σ.extensions
  ignoredSources :
    Settled (given? s "ignored_sources") default.ignoredSources MeansList σ.ignoredSources
  maxDepth : Settled (given? s "max_depth") default.maxDepth MeansDepth σ.maxDepth
  logLevel : Settled (given? s "log_level") default.logLevel MeansLevel σ.logLevel

/-- Whether complaints are about the value of a setting, and there are some. -/
structure Complains (name : String) (cs : List Complaint) : Prop where
  nonempty : cs ≠ []
  place : ∀ c ∈ cs, c.place.head? = some name

theorem Complains.single {name : String} (cause : Complaint.Cause) (rest : List String) :
    Complains name [⟨cause, name :: rest⟩] :=
  ⟨List.cons_ne_nil _ _, List.forall_mem_singleton.2 rfl⟩

/-! ## One check -/

section

variable {name : String} {v : Value} {cs : List Complaint}

theorem textItems_texts (name : String) (i : Nat) (xs : List String) :
    textItems name i (xs.map Value.text) = .ok xs := by
  induction xs generalizing i with
  | nil => rfl
  | cons x xs ih => rw [List.map_cons, textItems, ih]

theorem textItems_ok {i : Nat} {vs : List Value} {xs : List String}
    (h : textItems name i vs = .ok xs) : vs = xs.map Value.text := by
  fun_induction textItems name i vs generalizing xs with
  | case1 =>
    cases h
    rfl
  | case2 i s vs ss rest ih =>
    cases h
    rw [List.map_cons, ih rest]
  | case3 => cases h
  | case4 => cases h
  | case5 => cases h

theorem textItems_error {i : Nat} {vs : List Value} (h : textItems name i vs = .error cs) :
    Complains name cs := by
  fun_induction textItems name i vs generalizing cs with
  | case1 => cases h
  | case2 => cases h
  | case3 i s vs cs' rest ih =>
    cases h
    exact ih rest
  | case4 =>
    cases h
    exact .single ..
  | case5 i v vs _ here cs' rest =>
    rename_i ih
    cases h
    exact ⟨List.cons_ne_nil _ _, List.forall_mem_cons.2 ⟨rfl, (ih rest).place⟩⟩

theorem checkList_ok_iff {xs : List String} : checkList name v = .ok xs ↔ MeansList v xs := by
  constructor
  · intro h
    unfold checkList at h
    split at h
    · cases h
      exact .listing _
    · rw [textItems_ok h]
      exact .items xs
    · cases h
  · rintro (⟨text⟩ | ⟨xs⟩)
    · rfl
    · exact textItems_texts name 0 xs

theorem checkList_error (h : checkList name v = .error cs) : Complains name cs := by
  unfold checkList at h
  split at h
  · cases h
  · exact textItems_error h
  · cases h
    exact .single ..

/-- A step that follows a check succeeds if both do. -/
theorem bind_ok_iff {α β : Type} {c : Checked α} {f : α → Checked β} {b : β} :
    c.bind f = .ok b ↔ ∃ a, c = .ok a ∧ f a = .ok b := by
  cases c <;> simp [Except.bind]

theorem bind_error {α β : Type} {c : Checked α} {f : α → Checked β} (h : c.bind f = .error cs) :
    c = .error cs ∨ ∃ a, f a = .error cs := by
  cases c with
  | error cs' =>
    cases h
    exact .inl rfl
  | ok a => exact .inr ⟨a, h⟩

theorem checkExtensions_ok_iff {xs ys : List String} :
    checkExtensions name xs = .ok ys ↔ ys = xs ∧ ∀ x ∈ xs, isExtension x = true := by
  unfold checkExtensions
  split
  · next none =>
    have all : ∀ x ∈ xs, isExtension x = true := by simpa using none
    constructor
    · intro h
      cases h
      exact ⟨rfl, all⟩
    · rintro ⟨rfl, -⟩
      rfl
  · next e found =>
    have bad := List.find?_some found
    constructor
    · intro h
      cases h
    · rintro ⟨-, all⟩
      simp [all e (List.mem_of_find?_eq_some found)] at bad

theorem checkExtensions_error {xs : List String} (h : checkExtensions name xs = .error cs) :
    Complains name cs := by
  unfold checkExtensions at h
  split at h
  · cases h
  · cases h
    exact .single ..

theorem extensions_ok_iff {xs : List String} :
    (checkList name v).bind (checkExtensions name) = .ok xs ↔ MeansExtensions v xs := by
  rw [bind_ok_iff]
  constructor
  · rintro ⟨ys, list, ok⟩
    obtain ⟨rfl, all⟩ := checkExtensions_ok_iff.1 ok
    exact ⟨checkList_ok_iff.1 list, all⟩
  · rintro ⟨list, all⟩
    exact ⟨xs, checkList_ok_iff.2 list, checkExtensions_ok_iff.2 ⟨rfl, all⟩⟩

theorem extensions_error (h : (checkList name v).bind (checkExtensions name) = .error cs) :
    Complains name cs := by
  rcases bind_error h with list | ⟨xs, dots⟩
  · exact checkList_error list
  · exact checkExtensions_error dots

theorem checkDepth_ok_iff {n m : Int} : checkDepth name n = .ok m ↔ m = n ∧ 1 ≤ n := by
  unfold checkDepth
  split
  · next small => simp; omega
  · next large => simp [eq_comm]; omega

theorem depth_ok_iff {n : Int} :
    (checkInteger name v).bind (checkDepth name) = .ok n ↔ MeansDepth v n := by
  have integer (m : Int) : checkInteger name v = .ok m ↔ integerOf v = .ok m := by
    rw [checkInteger]
    cases integerOf v <;> simp [Except.mapError]
  rw [bind_ok_iff]
  constructor
  · rintro ⟨m, whole, ok⟩
    obtain ⟨rfl, positive⟩ := checkDepth_ok_iff.1 ok
    exact ⟨(integer _).1 whole, positive⟩
  · rintro ⟨whole, positive⟩
    exact ⟨n, (integer n).2 whole, checkDepth_ok_iff.2 ⟨rfl, positive⟩⟩

theorem depth_error (h : (checkInteger name v).bind (checkDepth name) = .error cs) :
    Complains name cs := by
  rcases bind_error h with integer | ⟨n, small⟩
  · rw [checkInteger] at integer
    cases whole : integerOf v with
    | ok n =>
      rw [whole] at integer
      cases integer
    | error cause =>
      rw [whole] at integer
      cases integer
      exact .single ..
  · unfold checkDepth at small
    split at small
    · cases small
      exact .single ..
    · cases small

theorem checkLevel_ok_iff {text : String} {level : Log.Level} :
    checkLevel name text = .ok level ↔ Log.Level.ofName? (Text.upper text) = some level := by
  unfold checkLevel
  split
  · next l found => simp [found]
  · next none => simp [none]

theorem checkLevel_error {text : String} (h : checkLevel name text = .error cs) :
    Complains name cs := by
  unfold checkLevel at h
  split at h
  · cases h
  · cases h
    exact .single ..

theorem checked_ok_iff {α : Type} {check : Value → Checked α} {default : α} {given : Option Value}
    {Means : Value → α → Prop} (h : ∀ v a, check v = .ok a ↔ Means v a) {a : α} :
    checked check default given = .ok a ↔ Settled given default Means a := by
  cases given with
  | none => simp [checked, Settled, eq_comm]
  | some v => exact h v a

/-- A setting that is complained about is given, by a value that its check refuses. -/
theorem checked_error {α : Type} {check : Value → Checked α} {default : α} {given : Option Value}
    (h : checked check default given = .error cs) : ∃ v, given = some v ∧ check v = .error cs := by
  cases given with
  | none => cases h
  | some v => exact ⟨v, rfl, h⟩

end

/-! ## All checks together -/

variable {s : Sources} {σ : Settings}

theorem level_ok_iff {level : Log.Level} :
    (∃ text, logLevelText s = .ok text ∧ logLevelOf text = .ok level) ↔
      Settled (given? s "log_level") default.logLevel MeansLevel level := by
  rw [logLevelText]
  cases given? s "log_level" with
  | none => simp [logLevelOf, Settled, eq_comm]
  | some v => cases v <;> simp [logLevelOf, Settled, MeansLevel, checkLevel_ok_iff]

/-- **The settings that are made are those that the sources give.** -/
theorem ofSources_ok_iff : ofSources s = .ok σ ↔ Accepted s σ := by
  constructor
  · intro h
    unfold ofSources at h
    split at h
    · cases h
    · next text read =>
      split at h
      · next extensions ignored depth level =>
        cases h
        exact ⟨(checked_ok_iff fun _ _ => extensions_ok_iff).1 extensions,
          (checked_ok_iff fun _ _ => checkList_ok_iff).1 ignored,
          (checked_ok_iff fun _ _ => depth_ok_iff).1 depth, level_ok_iff.1 ⟨text, read, level⟩⟩
      · cases h
  · rintro ⟨extensions, ignored, depth, level⟩
    obtain ⟨text, read, level⟩ := level_ok_iff.2 level
    have extensions : extensionsOf s = .ok σ.extensions :=
      (checked_ok_iff fun _ _ => extensions_ok_iff).2 extensions
    have ignored : ignoredSourcesOf s = .ok σ.ignoredSources :=
      (checked_ok_iff fun _ _ => checkList_ok_iff).2 ignored
    have depth : maxDepthOf s = .ok σ.maxDepth := (checked_ok_iff fun _ _ => depth_ok_iff).2 depth
    rw [ofSources, read]
    dsimp only
    rw [extensions, ignored, depth, level]

/-- Whether a complaint is about a value that is given for the setting that it names. -/
def About (s : Sources) (c : Complaint) : Prop :=
  ∃ name v, given? s name = some v ∧ c.place.head? = some name

/-- How making settings can end. -/
inductive Made (s : Sources) : Except Failure Settings → Prop
  /-- The sources give settings. -/
  | accepted {σ : Settings} (accepted : Accepted s σ) : Made s (.ok σ)
  /-- They give none, and there are complaints about what they give. -/
  | rejected {cs : List Complaint} (none : ∀ σ, ¬ Accepted s σ) (nonempty : cs ≠ [])
    (about : ∀ c ∈ cs, About s c)
    (text : ∀ v, given? s "log_level" = some v → ∃ level, v = .text level) :
    Made s (.error (.rejected cs))
  /-- Something that is no text is given for the log level. -/
  | levelNotText {v : Value} (given : given? s "log_level" = some v)
    (other : ∀ level, v ≠ .text level) : Made s (.error (.levelNotText v.typeName))

/-- Whether a check that fails complains about the value given for a setting. -/
def Honest {α : Type} (s : Sources) (c : Checked α) : Prop :=
  ∀ cs, c = .error cs → ∃ name v, given? s name = some v ∧ Complains name cs

section

variable {α : Type} {c : Checked α}

theorem Honest.about (h : Honest s c) : ∀ d ∈ complaints c, About s d := by
  cases c with
  | ok a => simp [complaints]
  | error cs =>
    obtain ⟨name, v, given, complains⟩ := h cs rfl
    exact fun d mem => ⟨name, v, given, complains.place d mem⟩

/-- A check that does not complain succeeds. -/
theorem Honest.ok_of_silent (h : Honest s c) (silent : complaints c = []) : ∃ a, c = .ok a := by
  cases c with
  | ok a => exact ⟨a, rfl⟩
  | error cs =>
    obtain ⟨name, v, given, complains⟩ := h cs rfl
    exact absurd silent complains.nonempty

theorem honest_checked {check : Value → Checked α} {default : α} {name : String}
    (h : ∀ v cs, check v = .error cs → Complains name cs) :
    Honest s (checked check default (given? s name)) := by
  intro cs failed
  obtain ⟨v, given, refused⟩ := checked_error failed
  exact ⟨name, v, given, h v cs refused⟩

end

theorem honest_logLevelOf {text : Option String} (read : logLevelText s = .ok text) :
    Honest s (logLevelOf text) := by
  intro cs failed
  cases text with
  | none => cases failed
  | some level =>
    unfold logLevelText at read
    split at read
    · cases read
    · next given =>
      cases read
      exact ⟨_, _, given, checkLevel_error failed⟩
    · cases read

/-- **How making settings ends.** They are those that the sources give; or there are none such, and
each complaint is about a value that is given; or the log level is given by something that is no
text. -/
theorem made_ofSources (s : Sources) : Made s (ofSources s) := by
  cases read : logLevelText s with
  | error e =>
    rw [ofSources, read]
    unfold logLevelText at read
    split at read
    · cases read
    · cases read
    · next v other given =>
      cases read
      exact .levelNotText given fun level eq => other level eq
  | ok text =>
    have texts (v : Value) (given : given? s "log_level" = some v) : ∃ level, v = .text level := by
      rw [logLevelText, given] at read
      cases v <;> simp at read ⊢
    cases outcome : ofSources s with
    | ok σ => exact .accepted (ofSources_ok_iff.1 outcome)
    | error e =>
      have none (σ : Settings) : ¬ Accepted s σ := fun accepted => by
        rw [ofSources_ok_iff.2 accepted] at outcome
        cases outcome
      have extensions : Honest s (extensionsOf s) := honest_checked fun _ _ => extensions_error
      have ignored : Honest s (ignoredSourcesOf s) := honest_checked fun _ _ => checkList_error
      have depth : Honest s (maxDepthOf s) := honest_checked fun _ _ => depth_error
      have level : Honest s (logLevelOf text) := honest_logLevelOf read
      rw [ofSources, read] at outcome
      dsimp only at outcome
      split at outcome
      · cases outcome
      · next refused =>
        cases outcome
        refine .rejected none ?_ ?_ texts
        · intro silent
          simp only [List.append_eq_nil_iff] at silent
          obtain ⟨⟨⟨noExtensions, noIgnored⟩, noDepth⟩, noLevel⟩ := silent
          obtain ⟨a, first⟩ := extensions.ok_of_silent noExtensions
          obtain ⟨b, second⟩ := ignored.ok_of_silent noIgnored
          obtain ⟨c, third⟩ := depth.ok_of_silent noDepth
          obtain ⟨d, fourth⟩ := level.ok_of_silent noLevel
          exact refused a b c d first second third fourth
        · simp only [List.forall_mem_append]
          exact ⟨⟨⟨extensions.about, ignored.about⟩, depth.about⟩, level.about⟩

end ExportTrail.Settings

import ExportTrail.Proofs.Settings.Accepted
import ExportTrail.Proofs.Text.Listing

/-!
# Lists in every notation

A setting that is a list can be given as a list of texts or as a listing, and a listing can be given
as an argument or by a variable of the environment. All of these mean the same: the settings that
are made, or the complaints, do not depend on the notation (`ofSources_of_givesList`). Together with
what is known of listings this is the main statement, `lists_however_written`.
-/

namespace ExportTrail.Settings

/-- The settings that are lists. -/
def listNames : List String := ["extensions", "ignored_sources"]

theorem lower_listNames : ∀ name ∈ listNames, Text.lower name = name := by decide +kernel

/-- Whether the sources give a list for a setting, in whatever notation. -/
def GivesList (s : Sources) (name : String) (xs : List String) : Prop :=
  ∃ v, given? s name = some v ∧ checkList name v = .ok xs

/-! ## Where a value is given -/

section

variable {name other : String} {v : Value} {arguments : List (String × Value)}

/-- The first argument of a name counts. -/
theorem argument?_cons_self (h : Text.lower name = name) :
    argument? ((name, v) :: arguments) name = some v := by
  simp [argument?, h]

/-- An argument does not count for another setting. -/
theorem argument?_cons_ne (h : Text.lower name ≠ other) :
    argument? ((name, v) :: arguments) other = argument? arguments other := by
  simp [argument?, h]

theorem argument?_eq_none (h : ∀ a ∈ arguments, Text.lower a.1 ≠ name) :
    argument? arguments name = none := by
  rw [argument?, Option.map_eq_none_iff, List.find?_eq_none]
  simpa using h

variable {environment : Variables String} {file : Variables (Option String)} {xs : List String}

/-- An argument leaves what is given for another setting as it is. -/
theorem given?_cons_ne (h : Text.lower name ≠ other) :
    given? ⟨(name, v) :: arguments, environment, file⟩ other =
      given? ⟨arguments, environment, file⟩ other := by
  rw [given?, given?, argument?_cons_ne h]

/-- A list that is given by an argument. -/
theorem givesList_argument (named : Text.lower name = name) (list : checkList name v = .ok xs) :
    GivesList ⟨(name, v) :: arguments, environment, file⟩ name xs := by
  refine ⟨v, ?_, list⟩
  rw [given?, argument?_cons_self named]
  rfl

/-- A list that is given by a variable of the environment, as there is no argument. -/
theorem givesList_variable {text : String} (free : ∀ a ∈ arguments, Text.lower a.1 ≠ name)
    (given : lastNamed (variableStem ++ name) environment = some text)
    (list : checkList name (.text text) = .ok xs) :
    GivesList ⟨arguments, environment, file⟩ name xs := by
  refine ⟨.text text, ?_, list⟩
  rw [given?, argument?_eq_none free, given]
  rfl

end

/-- What a variable gives that is the only one in its environment. -/
theorem lastNamed_singleton {α : Type} {key name : String} {a : α} (named : Text.lower name = key) :
    lastNamed key [(name, a)] = some a := by
  simp [lastNamed, named]

/-- A variable of one setting gives nothing for another. -/
theorem lastNamed_other {name key other : String} {a : String}
    (named : Text.lower key = variableStem ++ name) (ne : other ≠ name) :
    lastNamed (variableStem ++ other) [(key, a)] = lastNamed (variableStem ++ other) [] := by
  have ne : Text.lower key ≠ variableStem ++ other := by
    rw [named]
    intro same
    have chars := congrArg String.toList same
    rw [String.toList_append, String.toList_append] at chars
    exact ne (String.toList_inj.1 (List.append_cancel_left chars)).symm
  simp [lastNamed, ne]

/-! ## What notation does not matter for -/

variable {s t : Sources} {name : String} {xs : List String}

theorem extensionsOf_of_givesList (h : GivesList s "extensions" xs) :
    extensionsOf s = checkExtensions "extensions" xs := by
  obtain ⟨v, given, list⟩ := h
  rw [extensionsOf, given, checked, list]
  rfl

theorem ignoredSourcesOf_of_givesList (h : GivesList s "ignored_sources" xs) :
    ignoredSourcesOf s = .ok xs := by
  obtain ⟨v, given, list⟩ := h
  rw [ignoredSourcesOf, given, checked, list]

/-- Sources that give the same list for a setting, and otherwise the same values, make the same
settings or give rise to the same failure. -/
theorem ofSources_of_givesList (mem : name ∈ listNames) (hs : GivesList s name xs)
    (ht : GivesList t name xs) (others : ∀ other ≠ name, given? s other = given? t other) :
    ofSources s = ofSources t := by
  have level : logLevelText s = logLevelText t := by
    rw [logLevelText, logLevelText, others "log_level" ?_]
    rintro rfl
    exact absurd mem (by decide)
  have depth : maxDepthOf s = maxDepthOf t := by
    rw [maxDepthOf, maxDepthOf, others "max_depth" ?_]
    rintro rfl
    exact absurd mem (by decide)
  have lists : extensionsOf s = extensionsOf t ∧ ignoredSourcesOf s = ignoredSourcesOf t := by
    rcases List.mem_cons.1 mem with rfl | mem
    · rw [extensionsOf_of_givesList hs, extensionsOf_of_givesList ht, ignoredSourcesOf,
        ignoredSourcesOf, others "ignored_sources" (by decide)]
      exact ⟨rfl, rfl⟩
    · obtain rfl := List.mem_singleton.1 mem
      rw [ignoredSourcesOf_of_givesList hs, ignoredSourcesOf_of_givesList ht, extensionsOf,
        extensionsOf, others "extensions" (by decide)]
      exact ⟨rfl, rfl⟩
  rw [ofSources, ofSources, level, depth, lists.1, lists.2]

/-- The complaint about an extension that does not start with a dot. -/
def undotted (e : String) : Complaint :=
  ⟨.rule ("Invalid extension: " ++ e ++ ". Extensions must start with '.'"), ["extensions"]⟩

/-- The first extension that does not start with a dot is complained about before all else. -/
theorem ofSources_undotted {front rest : List String} {e : String} {level : Option String}
    (h : GivesList s "extensions" (front ++ e :: rest))
    (dotted : ∀ x ∈ front, isExtension x = true) (bad : isExtension e = false)
    (read : logLevelText s = .ok level) :
    ∃ cs, ofSources s = .error (.rejected (undotted e :: cs)) := by
  have first : (front ++ e :: rest).find? (!isExtension ·) = some e := by
    have none : front.find? (!isExtension ·) = none := by simpa using dotted
    rw [List.find?_append, none, Option.none_or, List.find?_cons_of_pos (by simp [bad])]
  have refused : extensionsOf s = .error [undotted e] := by
    rw [extensionsOf_of_givesList h, checkExtensions, first]
    rfl
  rw [ofSources, read]
  dsimp only
  rw [refused]
  exact ⟨_, rfl⟩

/-- The list that a value means is the one that it gives. -/
theorem eq_of_meansList {v : Value} {ys : List String} (means : MeansList v ys)
    (list : checkList name v = .ok xs) : ys = xs :=
  Except.ok.inj ((checkList_ok_iff.2 means).symm.trans list)

/-- Settings that are made have the extensions that are given. -/
theorem extensions_of_givesList {σ : Settings} (h : ofSources s = .ok σ)
    (gives : GivesList s "extensions" xs) : σ.extensions = xs := by
  obtain ⟨v, given, list⟩ := gives
  have settled := (ofSources_ok_iff.1 h).extensions
  rw [given] at settled
  exact eq_of_meansList settled.1 list

/-- Settings that are made have the ignored specifiers that are given. -/
theorem ignoredSources_of_givesList {σ : Settings} (h : ofSources s = .ok σ)
    (gives : GivesList s "ignored_sources" xs) : σ.ignoredSources = xs := by
  obtain ⟨v, given, list⟩ := gives
  have settled := (ofSources_ok_iff.1 h).ignoredSources
  rw [given] at settled
  exact eq_of_meansList settled list

/-- **Lists mean the same however they are written.** A text is read as items, and as the same items
again when they are joined by commas; and all items are read back from each text that lists them,
with any blanks around them and any empty stretches among them, and so from themselves joined by
commas. Such a text, as an argument or as a variable of the environment, makes the same settings as
the items given as a list, or gives rise to the same failure; the settings have the items, and the
first extension that does not start with a dot is complained about. -/
theorem lists_however_written :
    (∀ text, Text.AreItems (Text.listing text) ∧
      Text.listing (Text.commaJoined (Text.listing text)) = Text.listing text) ∧
    (∀ xs, Text.Lists (Text.commaJoined xs) xs ∧
      (Text.AreItems xs → ∀ text, Text.Lists text xs → Text.listing text = xs)) ∧
    ∀ name ∈ listNames, ∀ xs, Text.AreItems xs → ∀ text, Text.Lists text xs →
      ∀ (arguments : List (String × Value)) (environment environment' : Variables String)
        (file : Variables (Option String)),
        (∀ a ∈ arguments, Text.lower a.1 ≠ name) →
        lastNamed (variableStem ++ name) environment' = some text →
        (∀ other ≠ name, lastNamed (variableStem ++ other) environment' =
          lastNamed (variableStem ++ other) environment) →
        let listed := ofSources ⟨(name, .list (xs.map Value.text)) :: arguments, environment, file⟩
        listed = ofSources ⟨(name, .text text) :: arguments, environment, file⟩ ∧
        listed = ofSources ⟨arguments, environment', file⟩ ∧
        (∀ σ, listed = .ok σ → (name = "extensions" → σ.extensions = xs) ∧
          (name = "ignored_sources" → σ.ignoredSources = xs)) ∧
        ∀ front e rest level, name = "extensions" → xs = front ++ e :: rest →
          (∀ x ∈ front, isExtension x = true) → isExtension e = false →
          logLevelText ⟨arguments, environment, file⟩ = .ok level →
            ∃ cs, listed = .error (.rejected (undotted e :: cs)) := by
  refine ⟨fun text => ?_, fun xs => ⟨Text.lists_commaJoined xs, fun items text lists => ?_⟩, ?_⟩
  · have items : Text.AreItems (Text.listing text) := (Text.listing_eq_iff.1 rfl).1
    exact ⟨items, Text.listing_eq_iff.2 ⟨items, Text.lists_commaJoined _⟩⟩
  · exact Text.listing_eq_iff.2 ⟨items, lists⟩
  · intro name mem xs items text lists arguments environment environment' file free given others
      listed
    have lower : Text.lower name = name := lower_listNames name mem
    have read : checkList name (.text text) = .ok xs :=
      congrArg Except.ok (Text.listing_eq_iff.2 ⟨items, lists⟩)
    have asList : GivesList ⟨(name, .list (xs.map Value.text)) :: arguments, environment, file⟩
        name xs :=
      givesList_argument lower (textItems_texts name 0 xs)
    have elsewhere (other : String) (ne : other ≠ name) (v : Value) :
        given? ⟨(name, v) :: arguments, environment, file⟩ other =
          given? ⟨arguments, environment, file⟩ other :=
      given?_cons_ne (lower.trans_ne ne.symm)
    refine ⟨?_, ?_, fun σ made => ⟨?_, ?_⟩, ?_⟩
    · refine ofSources_of_givesList mem asList (givesList_argument lower read) fun other ne => ?_
      rw [elsewhere other ne, elsewhere other ne]
    · have asVariable : GivesList ⟨arguments, environment', file⟩ name xs :=
        givesList_variable free given read
      refine ofSources_of_givesList mem asList asVariable fun other ne => ?_
      rw [elsewhere other ne, given?, given?, others other ne]
    · rintro rfl
      exact extensions_of_givesList made asList
    · rintro rfl
      exact ignoredSources_of_givesList made asList
    · rintro front e rest level rfl rfl dotted bad levelRead
      refine ofSources_undotted asList dotted bad (Eq.trans ?_ levelRead)
      rw [logLevelText, elsewhere "log_level" (by decide)]
      rfl

/-- Two items, blanks around them and nothing between two commas: as extensions they are complained
about, and as specifiers to be ignored they are taken over. -/
theorem lists_however_written_twice :
    let text := " .js ,, ts"
    let extensions := ofSources ⟨[("extensions", .list [.text ".js", .text "ts"])], [], []⟩
    let ignored := ofSources ⟨[("ignored_sources", .list [.text ".js", .text "ts"])], [], []⟩
    (extensions = ofSources ⟨[("extensions", .text text)], [], []⟩ ∧
      extensions = ofSources ⟨[], [("EXPORT_RESOLVER_EXTENSIONS", text)], []⟩ ∧
      ∃ cs, extensions = .error (.rejected (undotted "ts" :: cs))) ∧
    ignored = ofSources ⟨[("ignored_sources", .text text)], [], []⟩ ∧
      ignored = ofSources ⟨[], [("EXPORT_RESOLVER_IGNORED_SOURCES", text)], []⟩ ∧
      ∃ σ, ignored = .ok σ ∧ σ.ignoredSources = [".js", "ts"] := by
  intro text extensions ignored
  have items : Text.AreItems [".js", "ts"] ∧ Text.Lists text [".js", "ts"] :=
    Text.listing_eq_iff.1 (by decide +kernel)
  have first : Text.lower "EXPORT_RESOLVER_EXTENSIONS" = variableStem ++ "extensions" := by
    decide +kernel
  have second : Text.lower "EXPORT_RESOLVER_IGNORED_SOURCES" =
      variableStem ++ "ignored_sources" := by
    decide +kernel
  obtain ⟨asText, asVariable, -, refused⟩ :=
    lists_however_written.2.2 "extensions" (by decide) [".js", "ts"] items.1 text items.2 [] []
      [("EXPORT_RESOLVER_EXTENSIONS", text)] [] (by simp) (lastNamed_singleton first)
      fun _ ne => lastNamed_other first ne
  obtain ⟨asText', asVariable', taken, -⟩ :=
    lists_however_written.2.2 "ignored_sources" (by decide) [".js", "ts"] items.1 text items.2 [] []
      [("EXPORT_RESOLVER_IGNORED_SOURCES", text)] [] (by simp) (lastNamed_singleton second)
      fun _ ne => lastNamed_other second ne
  have made : ignored =
      .ok ⟨default.extensions, [".js", "ts"], default.maxDepth, default.logLevel⟩ := by
    cbv
  exact ⟨⟨asText, asVariable, refused [".js"] "ts" [] none rfl rfl (by decide) (by decide) rfl⟩,
    asText', asVariable', _, made, (taken _ made).2 rfl⟩

end ExportTrail.Settings

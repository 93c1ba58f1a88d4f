import ControlPlane.Proofs.Dictionary
import ControlPlane.Proofs.Settings.Reading
import ControlPlane.Proofs.Settings.Verbatim
import ControlPlane.Settings.Loading

/-!
The parameters for the broker, given by a variable of the environment. Where settings load, they
load with any value of the variable and are the same but for the settings of the broker
(`Settings.load_authParams`). The parameters are the value as it comes out of being taken for a
truth value or a number, which is not always the value itself (`Settings.numerals_changed`).
-/

namespace ControlPlane

namespace Settings

open Setting

/-- The variable that gives the parameters for the broker. -/
def authParamsVariable : String := "AGENT_OPERATOR__PULSAR__AUTH_PARAMS"

/-- The keys that lead to the parameters for the broker. -/
def authParamsPath : List String := ["pulsar", "auth_params"]

/-- No other variable leads to the parameters for the broker, to what they are part of or to what
would be part of them; so it does not matter in which order the variables are put. -/
def Undisputed (environment : Variables) : Prop :=
  ∀ e ∈ environment.entries, e.1 ≠ authParamsVariable →
    ∀ key ∈ keyOfVariable? e.1, Apart authParamsPath (way key)

instance (environment : Variables) : Decidable (Undisputed environment) :=
  inferInstanceAs (Decidable (∀ e ∈ environment.entries, _ → ∀ key ∈ keyOfVariable? e.1, _))

/-- The environment with a value for the variable. -/
def giving (environment : Variables) (value : String) : Variables :=
  environment.insert authParamsVariable value

variable {environment : Variables} {base : Settings}

/-! ### The layer of the environment -/

/-- The entry that a variable puts into the layer of the environment. -/
def entryOf? (e : String × String) : Option (String × Setting) :=
  (keyOfVariable? e.1).map fun key => (key, ofVariable e.2)

theorem ofVariables_eq (environment : Variables) :
    ofVariables environment = environment.entries.filterMap entryOf? := rfl

theorem entryOf?_authParams (value : String) :
    entryOf? (authParamsVariable, value) = some ("pulsar.auth_params", ofVariable value) := by
  have key : keyOfVariable? authParamsVariable = some "pulsar.auth_params" := by decide +kernel
  simp only [entryOf?, key]
  rfl

/-- A value for the variable puts one entry into the layer of the environment or takes the place of
one, and what comes after it leads elsewhere. -/
theorem ofVariables_giving (undisputed : Undisputed environment) (value : String) :
    ∃ before after : List (String × Setting),
      ofVariables (giving environment value) =
        before ++ ("pulsar.auth_params", ofVariable value) :: after ∧
      (ofVariables environment = before ++ after ∨ ∃ other, ofVariables environment =
        before ++ ("pulsar.auth_params", ofVariable other) :: after) ∧
      ∀ e ∈ after, Apart authParamsPath (way e.1) := by
  obtain ⟨before, after, split, origin, later⟩ :=
    Entries.insert_split authParamsVariable environment.sorted
  have layer (text : String) :
      (before ++ (authParamsVariable, text) :: after).filterMap entryOf? =
        before.filterMap entryOf? ++
          ("pulsar.auth_params", ofVariable text) :: after.filterMap entryOf? := by
    rw [List.filterMap_append, List.filterMap_cons_some (entryOf?_authParams text)]
  have entries : (giving environment value).entries =
      before ++ (authParamsVariable, value) :: after := split value
  refine ⟨before.filterMap entryOf?, after.filterMap entryOf?, ?_, ?_, fun e mem => ?_⟩
  · rw [ofVariables_eq, entries, layer]
  · rw [ofVariables_eq]
    rcases origin with unset | ⟨other, set⟩
    · rw [unset]
      exact .inl List.filterMap_append
    · rw [set]
      exact .inr ⟨other, layer other⟩
  · obtain ⟨source, stands, given⟩ := List.mem_filterMap.mp mem
    obtain ⟨key, known, rfl⟩ := Option.map_eq_some_iff.mp given
    have there : source ∈ environment.entries := by
      rcases origin with unset | ⟨other, set⟩
      · rw [unset]
        exact List.mem_append_right _ stands
      · rw [set]
        exact List.mem_append_right _ (List.mem_cons_of_mem _ stands)
    refine undisputed source there (fun same => ?_) key known
    simpa [same] using later source stands

/-! ### What the layers are put together to -/

/-- What variables and the layers below them are put together to. -/
def root (layers : List (List (String × Setting))) (environment : Variables) : Setting :=
  (layers ++ [ofVariables environment]).foldl putLayer (.table none [])

theorem ofLayers_eq (layers : List (List (String × Setting))) (environment : Variables) :
    ofLayers layers environment =
      ((ofSetting (root layers environment)).mapError .fault >>= validated) := rfl

theorem tidy_root (layers : List (List (String × Setting))) (environment : Variables) :
    Tidy (root layers environment) :=
  (tidy_of_entries rfl).putLayers _

theorem isTable_root (layers : List (List (String × Setting))) (environment : Variables) :
    IsTable (root layers environment) :=
  IsTable.putLayers (show IsTable (.table none []) from trivial) _

theorem gives_authParams (below : Setting) (value : String) :
    Gives (ofVariable value) authParamsPath below
      (below.put "pulsar.auth_params" (ofVariable value)) := by
  have led : way "pulsar.auth_params" = ["pulsar"].map .key ++ [.key "auth_params"] := by
    decide +kernel
  have lowered : (["pulsar"] ++ ["auth_params"]).map Text.lower = authParamsPath := by
    decide +kernel
  exact lowered ▸ gives_put (overlay_ofVariable · value) led below

/-- Over the same layers, the environment with the value gives what it gives without, but that the
value stands at the parameters. -/
theorem gives_giving (undisputed : Undisputed environment)
    (layers : List (List (String × Setting))) (value : String) :
    Gives (ofVariable value) authParamsPath (root layers environment)
      (root layers (giving environment value)) := by
  obtain ⟨before, after, given, origin, apart⟩ := ofVariables_giving undisputed value
  let below := (layers.foldl putLayer (.table none [])).putLayer before
  have behind (layer : List (String × Setting)) :
      (layers ++ [before ++ layer]).foldl putLayer (.table none []) = below.putLayer layer := by
    simp [putLayer, below]
  rw [root, root, given, behind]
  rcases origin with unset | ⟨other, set⟩
  · rw [unset, behind]
    exact (gives_authParams below value).putLayer apart
  · rw [set, behind]
    exact ((gives_authParams below value).instead (gives_authParams below other)).putLayer apart

/-! ### Settings -/

/-- Settings are others with a value of the variable: they are the same but for the settings of the
broker, and these are the same but for the parameters, or made anew with them where they were given
as a list. The parameters are the value if it is one of those that come out verbatim, and another
text if it is not. -/
structure Given (base : Settings) (value : String) (s : Settings) : Prop where
  others : s = { base with broker := s.broker }
  broker : s.broker = { base.broker with authParams := passed value } ∨
    s.broker = { authParams := passed value }
  verbatim : s.broker.authParams = value ↔ Verbatim value

theorem given_of {b : BrokerSettings} (whose : b = base.broker ∨ b = {}) (value : String) :
    Given base value { base with broker := { b with authParams := passed value } } where
  others := rfl
  broker := by
    rcases whose with rfl | rfl
    · exact .inl rfl
    · exact .inr rfl
  verbatim := passed_eq_self_iff value

/-- Whatever the layers below give, where they make up settings they do so with the value. -/
theorem ofLayers_giving (undisputed : Undisputed environment)
    {layers : List (List (String × Setting))} (valid : ofLayers layers environment = .ok base)
    (value : String) :
    ∃ s, ofLayers layers (giving environment value) = .ok s ∧ Given base value s := by
  rw [ofLayers_eq, Outcome.bind_eq_ok_iff] at valid
  obtain ⟨read, reads, valid⟩ := valid
  rw [Outcome.mapError_eq_ok_iff] at reads
  obtain ⟨rfl, noProblems⟩ := validated_eq_ok_iff.mp valid
  obtain ⟨b, whose, made⟩ := ofSetting_given (gives_giving undisputed layers value)
    (isTable_root layers environment) (tidy_root ..) (tidy_root ..) (readText_ofVariable value)
    reads
  refine ⟨_, ?_, given_of whose value⟩
  rw [ofLayers_eq, made, Outcome.ok_mapError, Outcome.ok_bind]
  exact validated_eq_ok_iff.mpr ⟨rfl, problems_given _ whose noProblems⟩

/-- The variable does not lead to another usual file. -/
theorem usualLayer_giving (files : FileSystem) (environment : Variables) (value : String) :
    usualLayer files (giving environment value) = usualLayer files environment := by
  have home : (giving environment value).find? "HOME" = environment.find? "HOME" :=
    Dictionary.find?_insert_of_ne _ _ (by decide)
  have config : (giving environment value).find? "XDG_CONFIG_HOME" =
      environment.find? "XDG_CONFIG_HOME" :=
    Dictionary.find?_insert_of_ne _ _ (by decide)
  simp only [usualLayer, Variables.settingsFile, Variables.configHome, Variables.directory, home,
    config]

/-- Where settings load, from a file or not, they load with any value of the variable in the
environment. They are the same but for the settings of the broker, which have the value as it comes
out for parameters; this is the value itself exactly if it is one of those that come out
verbatim. -/
theorem load_authParams (undisputed : Undisputed environment) (files : FileSystem)
    (value : String) :
    (∀ path base, load files environment path = .ok base →
      ∃ s, load files (giving environment value) path = .ok s ∧ Given base value s) ∧
    (∀ path base, loadOnly files environment path = .ok base →
      ∃ s, loadOnly files (giving environment value) path = .ok s ∧ Given base value s) := by
  constructor
  · intro path base loaded
    cases path with
    | none =>
      simp only [load, Outcome.bind_eq_ok_iff] at loaded
      obtain ⟨usual, found, valid⟩ := loaded
      simp only [load, usualLayer_giving, found, Outcome.ok_bind]
      exact ofLayers_giving undisputed valid value
    | some path =>
      simp only [load, Outcome.bind_eq_ok_iff] at loaded
      obtain ⟨there, demanded, usual, found, asked, given, valid⟩ := loaded
      simp only [load, usualLayer_giving, demanded, found, given, Outcome.ok_bind]
      exact ofLayers_giving undisputed valid value
  · intro path base loaded
    simp only [loadOnly, Outcome.bind_eq_ok_iff] at loaded
    obtain ⟨there, demanded, asked, given, valid⟩ := loaded
    simp only [loadOnly, demanded, given, Outcome.ok_bind]
    exact ofLayers_giving undisputed valid value

/-- An environment that gives the backend of the store. -/
def backendGiven : Variables := .ofList [("AGENT_OPERATOR__STORE__BACKEND", "sled")]

/-- A token comes out as it is given, and so does the other setting. -/
theorem token_loaded : ∃ s, load default (giving backendGiven "token:07") none = .ok s ∧
    s.store.backend = .durable ∧ s.broker.authParams = "token:07" := by
  have computed : (load default backendGiven none).toOption.map (·.store.backend) =
      some .durable := by decide +kernel
  obtain ⟨base, loaded, backend⟩ := Outcome.exists_of_toOption_map computed
  have undisputed : Undisputed backendGiven := by decide +kernel
  obtain ⟨s, given, same⟩ := (load_authParams undisputed default "token:07").1 none base loaded
  have colon : ':' ∈ "token:07".toList := by decide
  have verbatim : Verbatim "token:07" := by
    refine verbatim_of_mark colon (by decide) (by decide) ?_
    simp [IsNumeralChar]
  exact ⟨s, given, by rw [same.others]; exact backend, same.verbatim.mpr verbatim⟩

/-- Values that are taken for numbers or truth values come out as other texts. -/
theorem numerals_changed :
    ["007", "7.0", "TRUE"].map (fun value =>
      (load default (giving ∅ value) none).toOption.map (·.broker.authParams)) =
    [some "7", some "7", some "true"] := by
  decide +kernel

end Settings

end ControlPlane

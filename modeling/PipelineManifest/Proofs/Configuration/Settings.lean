import PipelineManifest.Configuration.Settings
import PipelineManifest.Proofs.Arguments.Flags

/-!
# Settings of two documents

What the settings hold is read off the two documents (`Settings.Resolves`). The arguments of both
documents are one list (`Settings.givenArguments`); a temporary location is added to it exactly if
no entry has its name, whether or not such an entry has a value.

Results:
1. `resolve_eq_ok`: the fields of settings.
2. `arguments_of_resolve`: their arguments.
3. `tempLocation_of_resolve`: the flags of the temporary location, and when there are none.
4. `unlocated_flags`: an entry without values leaves the engine without a temporary location.
-/

namespace PipelineManifest

namespace Settings

/-! ## Fields -/

/-- What settings hold when documents name the storage base `root` and the first arguments are
`defaults`. -/
structure Resolves (document : PipelineDocument) (root : Option String) (defaults : Arguments)
    (settings : Settings) : Prop where
  name : document.name = some settings.name
  functionReference : document.functionReference? = some settings.functionReference
  sanitizedName : settings.sanitizedName = sanitize settings.name
  rootStorage : settings.rootStorage =
    root.elim settings.sanitizedName fun root => join root settings.sanitizedName
  servingDirectory : settings.servingDirectory = join settings.rootStorage "serving"
  tempDirectory : settings.tempDirectory = join settings.rootStorage "tmp"
  image : settings.image = document.image.getD ""
  environment : settings.environment = document.environment
  arguments : settings.arguments =
    withTempLocation (.merge [defaults, .ofNamed document.arguments]) settings.tempDirectory

theorem required_eq_ok {field text : String} {given : Option String}
    (there : required field given = .ok text) : given = some text := by
  cases given with
  | none => cases there
  | some other => exact congrArg some (Except.ok.inj there)

variable {document : PipelineDocument} {provider : Option ProviderDocument} {settings : Settings}

theorem resolve_eq_ok (resolved : resolve document provider = .ok settings) :
    ∃ root defaults, placement document provider = .ok (root, settings.executionMode, defaults) ∧
      settings.Resolves document root defaults := by
  obtain ⟨name, named, resolved⟩ := Sequence.bind_eq_ok_iff.1 resolved
  obtain ⟨reference, refers, resolved⟩ := Sequence.bind_eq_ok_iff.1 resolved
  obtain ⟨⟨root, mode, defaults⟩, placed, resolved⟩ := Sequence.bind_eq_ok_iff.1 resolved
  obtain rfl := Except.ok.inj resolved
  exact ⟨root, defaults, placed, required_eq_ok named, required_eq_ok refers, rfl,
    by cases root <;> rfl, rfl, rfl, rfl, rfl, rfl⟩

/-! ## The base and the arguments -/

/-- The place below which artifacts are stored: that of the provider, or that of the pipeline
document if there is no provider. -/
def storageBase (document : PipelineDocument) (provider : Option ProviderDocument) :
    Option String :=
  provider.elim document.rootLocation (·.rootStorage)

/-- The entries of both documents, those of the provider first. -/
def givenArguments (document : PipelineDocument) (provider : Option ProviderDocument) :
    List NamedArgument :=
  provider.elim [] (·.arguments) ++ document.arguments

theorem placement_eq_ok {root : Option String} {mode : ExecutionMode} {defaults : Arguments}
    (placed : placement document provider = .ok (root, mode, defaults)) :
    root = storageBase document provider ∧
      defaults = .ofNamed (provider.elim [] (·.arguments)) := by
  cases provider with
  | none =>
    cases placed
    exact ⟨rfl, rfl⟩
  | some provider =>
    obtain ⟨_, given, placed⟩ := Sequence.bind_eq_ok_iff.1 placed
    -- the mode that the provider asks for makes no difference
    split at placed <;>
      obtain ⟨_, -, placed⟩ := Sequence.bind_eq_ok_iff.1 placed <;>
      cases placed <;>
      exact ⟨(required_eq_ok given).symm, rfl⟩

theorem arguments_of_resolve (resolved : resolve document provider = .ok settings) :
    settings.arguments =
      withTempLocation (.ofNamed (givenArguments document provider)) settings.tempDirectory := by
  obtain ⟨root, defaults, placed, resolves⟩ := resolve_eq_ok resolved
  rw [resolves.arguments, (placement_eq_ok placed).2, givenArguments, Arguments.merge_pair,
    Arguments.ofNamed_append]

/-! ## The temporary location -/

theorem plain_tempLocation : '=' ∉ tempLocation.toList := by decide +kernel

theorem given_eq_nil_iff {name : String} {layer : List NamedArgument} :
    Arguments.given name layer = [] ↔
      ∀ argument ∈ layer, argument.name = name → argument.value.texts = [] := by
  rw [Arguments.given, List.flatMap_eq_nil_iff]
  simp only [List.mem_filter, decide_eq_true_eq, and_imp]

theorem contains_ofNamed_iff {layer : List NamedArgument} {name : String} :
    (Arguments.ofNamed layer).contains name = true ↔ name ∈ layer.map (·.name) := by
  rw [← List.mem_eraseDups, ← Arguments.names_ofNamed, Arguments.contains, Arguments.names,
    List.any_eq_true, List.mem_map]
  simp only [decide_eq_true_eq]

/-- The values of the temporary location: all that are given if it is named, or the directory. -/
def locations (layer : List NamedArgument) (tempDirectory : String) : List String :=
  if tempLocation ∈ layer.map (·.name) then Arguments.given tempLocation layer else [tempDirectory]

theorem find?_withTempLocation (layer : List NamedArgument) (tempDirectory : String) :
    (withTempLocation (.ofNamed layer) tempDirectory).find? tempLocation =
      some (locations layer tempDirectory) := by
  rw [Arguments.find?_eq_values, withTempLocation, locations]
  by_cases named : tempLocation ∈ layer.map (·.name)
  · rw [if_pos (contains_ofNamed_iff.2 named), if_pos named, Arguments.values_ofNamed,
      Arguments.names_ofNamed, if_pos (List.mem_eraseDups.2 named)]
  · have absent : tempLocation ∉ (Arguments.ofNamed layer).names := by
      rwa [Arguments.names_ofNamed, List.mem_eraseDups]
    have nothing : Arguments.given tempLocation layer = [] :=
      given_eq_nil_iff.2 fun argument member same =>
        absurd (List.mem_map.2 ⟨argument, member, same⟩) named
    rw [if_neg (mt contains_ofNamed_iff.1 named), if_neg named, Arguments.push,
      Arguments.names_extend, if_neg absent, Arguments.values_extend, Arguments.values_ofNamed,
      nothing, if_pos rfl, List.nil_append, if_pos (List.mem_append_right _ List.mem_cons_self)]

theorem values_withTempLocation (layer : List NamedArgument) (tempDirectory : String)
    {name : String} (other : name ≠ tempLocation) :
    (withTempLocation (.ofNamed layer) tempDirectory).values name = Arguments.given name layer := by
  unfold withTempLocation
  split
  · exact Arguments.values_ofNamed layer name
  · rw [Arguments.push, Arguments.values_extend, if_neg (Ne.symm other), List.append_nil,
      Arguments.values_ofNamed]

/-- What flags say about the temporary location if `layer` is given. -/
structure Locates (layer : List NamedArgument) (tempDirectory : String) (flags : List String) :
    Prop where
  /-- Its flags stand together, and all others are given. -/
  together : ∃ before after,
    flags = before ++ (locations layer tempDirectory).map (Arguments.flag tempLocation) ++ after ∧
    ∀ token ∈ before ++ after, ∃ argument ∈ layer, argument.name ≠ tempLocation ∧
      ∃ text ∈ argument.value.texts, token = Arguments.flag argument.name text
  /-- No token can be taken for one of its flags if and only if it is named without a value. A name
  that goes on with an equals sign can be taken for it too. -/
  missing : (∀ token ∈ flags, ¬ Arguments.Begins tempLocation token) ↔
    tempLocation ∈ layer.map (·.name) ∧ ∀ argument ∈ layer,
      argument.name.toList.takeWhile (· ≠ '=') = tempLocation.toList → argument.value.texts = []

theorem together_withTempLocation (layer : List NamedArgument) (tempDirectory : String) :
    ∃ before after, (withTempLocation (.ofNamed layer) tempDirectory).flags =
        before ++ (locations layer tempDirectory).map (Arguments.flag tempLocation) ++ after ∧
      ∀ token ∈ before ++ after, ∃ argument ∈ layer, argument.name ≠ tempLocation ∧
        ∃ text ∈ argument.value.texts, token = Arguments.flag argument.name text := by
  obtain ⟨before, after, split, others⟩ :=
    Arguments.exists_flags_around (find?_withTempLocation layer tempDirectory)
  refine ⟨before, after, split, fun token member => ?_⟩
  obtain ⟨key, other, value, given, rfl⟩ := others token member
  rw [values_withTempLocation layer _ other, Arguments.given, List.mem_flatMap] at given
  obtain ⟨argument, listed, text⟩ := given
  obtain ⟨inLayer, named⟩ := List.mem_filter.1 listed
  obtain rfl := of_decide_eq_true named
  exact ⟨argument, inLayer, other, value, text, rfl⟩

theorem missing_withTempLocation (layer : List NamedArgument) (tempDirectory : String) :
    (∀ token ∈ (withTempLocation (.ofNamed layer) tempDirectory).flags,
        ¬ Arguments.Begins tempLocation token) ↔
      tempLocation ∈ layer.map (·.name) ∧ ∀ argument ∈ layer,
        argument.name.toList.takeWhile (· ≠ '=') = tempLocation.toList →
          argument.value.texts = [] := by
  have located : (withTempLocation (.ofNamed layer) tempDirectory).values tempLocation =
      locations layer tempDirectory := by
    rw [Arguments.values, find?_withTempLocation, Option.getD_some]
  have itself := Sequence.takeWhile_of_plain plain_tempLocation
  rw [Arguments.forall_not_begins_iff plain_tempLocation]
  constructor
  · intro nothing
    have named : tempLocation ∈ layer.map (·.name) := by
      refine Classical.byContradiction fun absent => ?_
      have empty := nothing tempLocation itself
      rw [located, locations, if_neg absent] at empty
      cases empty
    refine ⟨named, fun argument member same => ?_⟩
    have empty := nothing argument.name same
    by_cases other : argument.name = tempLocation
    · rw [other, located, locations, if_pos named] at empty
      exact given_eq_nil_iff.1 empty argument member other
    · rw [values_withTempLocation layer _ other] at empty
      exact given_eq_nil_iff.1 empty argument member rfl
  · rintro ⟨named, nothing⟩ key same
    have empty : Arguments.given key layer = [] :=
      given_eq_nil_iff.2 fun argument member called => nothing argument member (called ▸ same)
    by_cases other : key = tempLocation
    · rw [other, located, locations, if_pos named, ← other, empty]
    · rw [values_withTempLocation layer _ other, empty]

/-- The engine is told the locations that the documents give, and the directory of the settings if
no entry has the name. An entry that has it and no value is enough for it to be told nothing. -/
theorem tempLocation_of_resolve (resolved : resolve document provider = .ok settings) :
    Locates (givenArguments document provider) settings.tempDirectory settings.arguments.flags := by
  rw [arguments_of_resolve resolved]
  exact ⟨together_withTempLocation _ _, missing_withTempLocation _ _⟩

/-- A document that lists two temporary locations. -/
def relocated : PipelineDocument where
  name := some "team/taxi"
  image := none
  rootLocation := none
  environment := []
  framework := none
  components := some "taxi.nodes"
  pipeline := none
  arguments := [⟨"temp_location", .several ["a", "b"]⟩, ⟨"temp_location=c", .single "d"⟩]

/-- A provider that names the temporary location and gives none. -/
def silent : ProviderDocument where
  name := none
  executionMode := some "v2"
  rootStorage := some "gs://bucket/"
  arguments := [⟨"temp_location", .several []⟩, ⟨"runner", .single "DirectRunner"⟩]

theorem tempLocation_of_resolve_relocated :
    ∃ settings, resolve relocated (some silent) = .ok settings ∧
      settings.arguments.flags = ["--temp_location=a", "--temp_location=b",
        "--runner=DirectRunner", "--temp_location=c=d"] ∧
      Locates (silent.arguments ++ relocated.arguments) "gs://bucket/team-taxi/tmp"
        settings.arguments.flags := by
  have seen : (resolve relocated (some silent)).toOption.map (fun settings =>
      (settings.tempDirectory, settings.arguments.flags)) =
      some ("gs://bucket/team-taxi/tmp", ["--temp_location=a", "--temp_location=b",
        "--runner=DirectRunner", "--temp_location=c=d"]) := by decide +kernel
  obtain ⟨settings, resolved, same⟩ := Sequence.exists_ok_of_toOption seen
  obtain ⟨directory, flags⟩ := Prod.mk.inj same
  exact ⟨settings, resolved, flags, directory ▸ tempLocation_of_resolve resolved⟩

/-- A document whose only argument is a temporary location without a value. -/
def unlocated : PipelineDocument :=
  { relocated with arguments := [⟨"temp_location", .several []⟩] }

/-- Neither a value nor the directory of the settings reaches the engine. -/
theorem unlocated_flags :
    ∃ settings, resolve unlocated none = .ok settings ∧
      settings.tempDirectory = "team-taxi/tmp" ∧
      ¬ ∃ token ∈ settings.arguments.flags, Arguments.Begins tempLocation token := by
  have seen : (resolve unlocated none).toOption.map (fun settings =>
      (settings.tempDirectory, settings.arguments.flags)) = some ("team-taxi/tmp", []) := by
    decide +kernel
  obtain ⟨settings, resolved, same⟩ := Sequence.exists_ok_of_toOption seen
  obtain ⟨directory, flags⟩ := Prod.mk.inj same
  refine ⟨settings, resolved, directory, ?_⟩
  rw [flags]
  rintro ⟨token, impossible, -⟩
  cases impossible

end Settings

end PipelineManifest

import PipelineManifest.Proofs.Configuration.Numerals
import PipelineManifest.Proofs.Configuration.Settings

/-!
# Engine flags of two documents

The flags that the engine is given are those of one list of entries: the entries of the provider
document and behind them those of the pipeline document (`engineFlags`). How an entry lists its
values makes no difference, only which texts it gives in which order, so the entries of a text are
followed from where the document delivers their values (`Configuration.pipelineEntries`,
`Configuration.providerEntries`).

Results:
1. `Arguments.flags_ofNamed`, `flags_withTempLocation`: the flags of the entries of one list.
2. `Configuration.exists_pipelineEntries`, `Configuration.exists_providerEntries`: the arguments of
   a document are read from the entries that its text delivers.
3. `flags_of_resolve`: the flags of the settings of two documents.
-/

namespace PipelineManifest

open Yaml

/-! ## Flags of one list -/

namespace Settings

/-- The flags of names with their values: the names in the order of their first appearance, each
with all values that it is given, in order. A temporary location comes last if none is named. -/
def engineFlags (entries : List (String × List String)) (tempDirectory : String) : List String :=
  (entries.map (·.1)).eraseDups.flatMap (fun name =>
    ((entries.filter (·.1 = name)).flatMap (·.2)).map (Arguments.flag name)) ++
  if tempLocation ∈ entries.map (·.1) then [] else [Arguments.flag tempLocation tempDirectory]

end Settings

theorem Arguments.flags_eq_flatMap (arguments : Arguments) :
    arguments.flags =
      arguments.names.flatMap fun name => (arguments.values name).map (flag name) := by
  rw [flags, entries_eq_map, List.flatMap_map]

theorem Arguments.flags_ofNamed (layer : List NamedArgument) :
    (ofNamed layer).flags = ((layer.map binding).map (·.1)).eraseDups.flatMap fun name =>
      (((layer.map binding).filter (·.1 = name)).flatMap (·.2)).map (flag name) := by
  rw [flags_eq_flatMap, ofNamed_eq_enter, names_enter]
  simp only [values_enter]
  rfl

theorem Arguments.flags_push_of_notMem {arguments : Arguments} {name : String}
    (absent : name ∉ arguments.names) (value : String) :
    (arguments.push name value).flags = arguments.flags ++ [flag name value] := by
  have old : arguments.names.flatMap
        (fun key => ((arguments.push name value).values key).map (flag key)) =
      arguments.flags := by
    rw [flags_eq_flatMap]
    refine List.flatMap_congr fun key listed => ?_
    have other : name ≠ key := fun same => absent (same ▸ listed)
    rw [push, values_extend, if_neg other, List.append_nil]
  have new : (arguments.push name value).values name = [value] := by
    have nothing : arguments.values name = [] := by
      rw [values, find?_eq_values, if_neg absent]
      rfl
    rw [push, values_extend, nothing, if_pos rfl, List.nil_append]
  rw [flags_eq_flatMap (arguments.push name value), push, names_extend, if_neg absent, ← push,
    List.flatMap_append, old, List.flatMap_singleton, new]
  rfl

theorem Settings.flags_withTempLocation (layer : List NamedArgument) (tempDirectory : String) :
    (withTempLocation (.ofNamed layer) tempDirectory).flags =
      engineFlags (layer.map Arguments.binding) tempDirectory := by
  have names : (layer.map Arguments.binding).map (·.1) = layer.map (·.name) := by
    rw [List.map_map]
    rfl
  rw [engineFlags, ← Arguments.flags_ofNamed, names, withTempLocation]
  by_cases named : tempLocation ∈ layer.map (·.name)
  · rw [if_pos (contains_ofNamed_iff.2 named), if_pos named, List.append_nil]
  · have absent : tempLocation ∉ (Arguments.ofNamed layer).names := by
      rwa [Arguments.names_ofNamed, List.mem_eraseDups]
    rw [if_neg (mt contains_ofNamed_iff.1 named), if_neg named,
      Arguments.flags_push_of_notMem absent]

/-! ## Entries as they are delivered -/

/-- The name of an entry with the texts of everything that its value lists, at any depth and from
left to right. -/
def flattened (entry : String × Value) : String × List String :=
  (entry.1, entry.2.scalars.filterMap ArgumentValue.text?)

/-- A list of one value is flattened like the value itself. -/
theorem flattened_singleton (name : String) (value : Value) :
    flattened (name, .sequence [value]) = flattened (name, value) := by
  simp [flattened, Value.scalars, Value.scalarsOfItems]

namespace Configuration

theorem texts?_of_ofYaml? {value : Value} {given : ArgumentValue}
    (made : ArgumentValue.ofYaml? value = some given) :
    ArgumentValue.texts? value = some given.texts := by
  by_cases list : value.IsList
  · obtain ⟨items, rfl⟩ := Value.exists_items list
    rw [ArgumentValue.ofYaml?_of_list] at made
    obtain ⟨texts, read, rfl⟩ := Option.map_eq_some_iff.1 made
    exact read
  · rw [ArgumentValue.ofYaml?_of_single list] at made
    obtain ⟨text, read, rfl⟩ := Option.map_eq_some_iff.1 made
    rw [ArgumentValue.texts?_eq_mapM, Value.scalars_eq_singleton list, List.mapM_cons, read]
    rfl

/-- An argument enters what its entry is flattened to. -/
theorem binding_of_toArgument? {entry : String × Value} {argument : NamedArgument}
    (made : toArgument? entry = some argument) : Arguments.binding argument = flattened entry := by
  obtain ⟨given, read, rfl⟩ := Option.map_eq_some_iff.1 made
  have texts := texts?_of_ofYaml? read
  rw [ArgumentValue.texts?_eq_mapM] at texts
  rw [flattened, Sequence.filterMap_of_mapM texts]
  rfl

theorem bindings_of_mapM {entries : List (String × Value)} {layer : List NamedArgument}
    (made : entries.mapM toArgument? = some layer) :
    layer.map Arguments.binding = entries.map flattened := by
  have each : List.Forall₂ (fun entry argument => toArgument? entry = some argument)
      entries layer :=
    (Sequence.mapM_eq_some_iff fun _ _ _ => Iff.rfl).1 made
  have same : List.Forall₂ Eq (entries.map flattened) (layer.map Arguments.binding) :=
    List.forall₂_map_left_iff.2 (List.forall₂_map_right_iff.2
      (each.imp fun _ _ read => (binding_of_toArgument? read).symm))
  rw [List.forall₂_eq_eq_eq] at same
  exact same.symm

/-! ## Entries of a text -/

/-- What is made of items as they are read can be made of them when all are read. -/
theorem exists_of_mapM_bind_lift {α β γ : Type} {step : α → Decoding β} {made : β → Option γ}
    {items : List α} {instead : List γ} {before after : Aliases}
    (reads : (items.mapM fun item => step item >>= fun result => (made result : Decoding γ))
      before = some (instead, after)) :
    ∃ results, items.mapM step before = some (results, after) ∧
      results.mapM made = some instead := by
  induction items generalizing instead before with
  | nil =>
    rw [List.mapM_nil] at reads
    obtain ⟨rfl, rfl⟩ := Decoding.pure_eq_some_iff.1 reads
    exact ⟨[], rfl, rfl⟩
  | cons item rest ih =>
    rw [List.mapM_cons] at reads
    obtain ⟨head, _, makes, later⟩ := Decoding.bind_eq_some_iff.1 reads
    obtain ⟨first, between, ends, lifted⟩ := Decoding.bind_eq_some_iff.1 makes
    obtain ⟨converts, rfl⟩ := Decoding.lift_eq_some_iff.1 lifted
    obtain ⟨tail, _, makesOthers, same⟩ := Decoding.bind_eq_some_iff.1 later
    obtain ⟨rfl, rfl⟩ := Decoding.pure_eq_some_iff.1 same
    obtain ⟨others, follow, converted⟩ := ih makesOthers
    refine ⟨first :: others, ?_, ?_⟩
    · rw [List.mapM_cons]
      exact Decoding.bind_eq_some_iff.2 ⟨first, _, ends, Decoding.bind_eq_some_iff.2
        ⟨others, _, follow, rfl⟩⟩
    · rw [List.mapM_cons, converts, converted]
      rfl

theorem exists_entries_of_listOf {listed : List (String × Tree)} {field : String} {depth : Nat}
    {before after : Aliases} {layer : List NamedArgument}
    (reads : listOf listed field (namedArgument depth) before = some (layer, after)) :
    ∃ entries, listOf listed field (entryValue depth) before = some (entries, after) ∧
      entries.mapM toArgument? = some layer := by
  rw [funext (namedArgument_eq depth)] at reads
  unfold listOf at reads ⊢
  cases there : listed.lookup field with
  | none =>
    rw [there] at reads
    obtain ⟨rfl, rfl⟩ := Decoding.pure_eq_some_iff.1 reads
    exact ⟨[], rfl, rfl⟩
  | some tree =>
    rw [there] at reads
    obtain ⟨trees, between, found, reads⟩ := Decoding.bind_eq_some_iff.1 reads
    obtain ⟨entries, delivered, converted⟩ := exists_of_mapM_bind_lift reads
    exact ⟨entries, Decoding.bind_eq_some_iff.2 ⟨trees, between, found, delivered⟩, converted⟩

/-- The members of the framework of a pipeline document. -/
def frameworkMembers (top : List (String × Tree)) : Decoding (List (String × Tree)) :=
  match top.lookup "framework" with
  | none => return []
  | some tree => members ["name", "parameters"] (some tree)

/-- The entries of the engine arguments as they are delivered. What stands ahead of them is read
too, since it may follow aliases. -/
def parameterEntries (tree : Option Tree) : Decoding (List (String × Value)) := do
  let members ← members ["components", "pipeline", "beamArgs"] tree
  let _ ← textOf members "components"
  let _ ← textOf members "pipeline"
  listOf members "beamArgs" (entryValue 4)

/-- The entries of the engine arguments, with their values as a pipeline document delivers them. -/
def pipelineEntries (root : Option Tree) : Decoding (List (String × Value)) := do
  let top ← members ["name", "image", "rootLocation", "env", "framework"] root
  let framework ← frameworkMembers top
  parameterEntries (framework.lookup "parameters")

/-- The entries of the engine arguments, with their values as a provider document delivers them. -/
def providerEntries (root : Option Tree) : Decoding (List (String × Value)) := do
  let top ← members ["name", "executionMode", "pipelineRootStorage", "defaultBeamArgs"] root
  let _ ← textOf top "name"
  let _ ← textOf top "executionMode"
  let _ ← textOf top "pipelineRootStorage"
  listOf top "defaultBeamArgs" (entryValue 2)

theorem exists_parameterEntries {tree : Option Tree} {before after : Aliases}
    {given : Option String × Option String × List NamedArgument}
    (reads : parameters tree before = some (given, after)) :
    ∃ entries, parameterEntries tree before = some (entries, after) ∧
      entries.mapM toArgument? = some given.2.2 := by
  obtain ⟨members, _, found, reads⟩ := Decoding.bind_eq_some_iff.1 reads
  obtain ⟨_, _, first, reads⟩ := Decoding.bind_eq_some_iff.1 reads
  obtain ⟨_, _, second, reads⟩ := Decoding.bind_eq_some_iff.1 reads
  obtain ⟨_, _, third, same⟩ := Decoding.bind_eq_some_iff.1 reads
  obtain ⟨rfl, rfl⟩ := Decoding.pure_eq_some_iff.1 same
  obtain ⟨entries, delivered, converted⟩ := exists_entries_of_listOf third
  refine ⟨entries, ?_, converted⟩
  exact Decoding.bind_eq_some_iff.2 ⟨members, _, found, Decoding.bind_eq_some_iff.2 ⟨_, _, first,
    Decoding.bind_eq_some_iff.2 ⟨_, _, second, delivered⟩⟩⟩

theorem pipelineDocument_eq (root : Option Tree) :
    pipelineDocument root =
      members ["name", "image", "rootLocation", "env", "framework"] root >>= fun top =>
        frameworkMembers top >>= fun framework =>
          parameters (framework.lookup "parameters") >>= fun given => do
            return {
              name := ← textOf top "name"
              image := ← textOf top "image"
              rootLocation := ← textOf top "rootLocation"
              environment := ← listOf top "env" (variableEntry 2)
              framework := ← textOf framework "name"
              components := given.1
              pipeline := given.2.1
              arguments := given.2.2 } := by
  refine bind_congr (m := Decoding) fun top => ?_
  unfold frameworkMembers
  cases top.lookup "framework" <;> rfl

/-- The arguments of a pipeline document are read from the entries that it delivers. -/
theorem exists_pipelineEntries {root : Option Tree} {before after : Aliases}
    {document : PipelineDocument}
    (reads : pipelineDocument root before = some (document, after)) :
    ∃ entries between, pipelineEntries root before = some (entries, between) ∧
      entries.mapM toArgument? = some document.arguments := by
  rw [pipelineDocument_eq] at reads
  obtain ⟨top, _, foundTop, reads⟩ := Decoding.bind_eq_some_iff.1 reads
  obtain ⟨framework, _, foundFramework, reads⟩ := Decoding.bind_eq_some_iff.1 reads
  obtain ⟨given, between, foundParameters, reads⟩ := Decoding.bind_eq_some_iff.1 reads
  obtain ⟨entries, delivered, converted⟩ := exists_parameterEntries foundParameters
  have kept : given.2.2 = document.arguments := by
    -- the members that are read behind the arguments leave them as they are
    obtain ⟨_, _, -, reads⟩ := Decoding.bind_eq_some_iff.1 reads
    obtain ⟨_, _, -, reads⟩ := Decoding.bind_eq_some_iff.1 reads
    obtain ⟨_, _, -, reads⟩ := Decoding.bind_eq_some_iff.1 reads
    obtain ⟨_, _, -, reads⟩ := Decoding.bind_eq_some_iff.1 reads
    obtain ⟨_, _, -, same⟩ := Decoding.bind_eq_some_iff.1 reads
    exact congrArg PipelineDocument.arguments (Decoding.pure_eq_some_iff.1 same).1
  refine ⟨entries, between, ?_, kept ▸ converted⟩
  exact Decoding.bind_eq_some_iff.2 ⟨top, _, foundTop, Decoding.bind_eq_some_iff.2
    ⟨framework, _, foundFramework, delivered⟩⟩

/-- The arguments of a provider document are read from the entries that it delivers. -/
theorem exists_providerEntries {root : Option Tree} {before after : Aliases}
    {document : ProviderDocument}
    (reads : providerDocument root before = some (document, after)) :
    ∃ entries, providerEntries root before = some (entries, after) ∧
      entries.mapM toArgument? = some document.arguments := by
  obtain ⟨top, _, foundTop, reads⟩ := Decoding.bind_eq_some_iff.1 reads
  obtain ⟨_, _, first, reads⟩ := Decoding.bind_eq_some_iff.1 reads
  obtain ⟨_, _, second, reads⟩ := Decoding.bind_eq_some_iff.1 reads
  obtain ⟨_, _, third, reads⟩ := Decoding.bind_eq_some_iff.1 reads
  obtain ⟨layer, _, fourth, same⟩ := Decoding.bind_eq_some_iff.1 reads
  obtain ⟨rfl, rfl⟩ := Decoding.pure_eq_some_iff.1 same
  obtain ⟨entries, delivered, converted⟩ := exists_entries_of_listOf fourth
  refine ⟨entries, ?_, converted⟩
  exact Decoding.bind_eq_some_iff.2 ⟨top, _, foundTop, Decoding.bind_eq_some_iff.2 ⟨_, _, first,
    Decoding.bind_eq_some_iff.2 ⟨_, _, second, Decoding.bind_eq_some_iff.2 ⟨_, _, third,
      delivered⟩⟩⟩⟩

end Configuration

/-! ## Flags of settings -/

/-- The entries that the text of a pipeline document delivers. -/
def PipelineDocument.entries? (text : String) : Option (List (String × Value)) := do
  (← Yaml.Document.ofText? text.toList).decode Configuration.pipelineEntries

/-- The entries that the text of a provider document delivers. -/
def ProviderDocument.entries? (text : String) : Option (List (String × Value)) := do
  (← Yaml.Document.ofText? text.toList).decode Configuration.providerEntries

theorem Yaml.Document.decode_eq_some_iff {α : Type} {document : Yaml.Document}
    {decoding : Option Tree → Decoding α} {result : α} :
    document.decode decoding = some result ↔ ∃ after,
      decoding document.root ⟨document.anchored.reverse, document.aliasLimit⟩ =
        some (result, after) := by
  constructor
  · intro reads
    obtain ⟨⟨_, after⟩, decoded, rfl⟩ := Option.map_eq_some_iff.1 reads
    exact ⟨after, decoded⟩
  · rintro ⟨after, reads⟩
    exact Option.map_eq_some_iff.2 ⟨(result, after), reads, rfl⟩

theorem PipelineDocument.exists_entries {text : String} {document : PipelineDocument}
    (reads : PipelineDocument.ofText? text = some document) :
    ∃ entries, PipelineDocument.entries? text = some entries ∧
      entries.mapM Configuration.toArgument? = some document.arguments := by
  obtain ⟨tree, parsed, reads⟩ := Option.bind_eq_some_iff.1 reads
  obtain ⟨after, reads⟩ := Yaml.Document.decode_eq_some_iff.1 reads
  obtain ⟨entries, between, delivered, converted⟩ := Configuration.exists_pipelineEntries reads
  exact ⟨entries, Option.bind_eq_some_iff.2 ⟨tree, parsed,
    Yaml.Document.decode_eq_some_iff.2 ⟨between, delivered⟩⟩, converted⟩

theorem ProviderDocument.exists_entries {text : String} {document : ProviderDocument}
    (reads : ProviderDocument.ofText? text = some document) :
    ∃ entries, ProviderDocument.entries? text = some entries ∧
      entries.mapM Configuration.toArgument? = some document.arguments := by
  obtain ⟨tree, parsed, reads⟩ := Option.bind_eq_some_iff.1 reads
  obtain ⟨after, reads⟩ := Yaml.Document.decode_eq_some_iff.1 reads
  obtain ⟨entries, delivered, converted⟩ := Configuration.exists_providerEntries reads
  exact ⟨entries, Option.bind_eq_some_iff.2 ⟨tree, parsed,
    Yaml.Document.decode_eq_some_iff.2 ⟨after, delivered⟩⟩, converted⟩

namespace Settings

/-- What entries say about flags when the settings have a temporary directory. -/
structure FlagsOf (entries : List (String × Value)) (tempDirectory : String) (flags : List String) :
    Prop where
  /-- All that is listed has a text, so nothing is left out when it is flattened. -/
  texts : ∀ entry ∈ entries, ∀ scalar ∈ entry.2.scalars, scalar.HasText
  flags : flags = engineFlags (entries.map flattened) tempDirectory

variable {document : PipelineDocument} {provider : Option ProviderDocument} {settings : Settings}

theorem flagsOf_of_mapM (resolved : resolve document provider = .ok settings)
    {defaults given : List (String × Value)}
    (readDefaults : defaults.mapM Configuration.toArgument? = some (provider.elim [] (·.arguments)))
    (readGiven : given.mapM Configuration.toArgument? = some document.arguments) :
    FlagsOf (defaults ++ given) settings.tempDirectory settings.arguments.flags := by
  have read : (defaults ++ given).mapM Configuration.toArgument? =
      some (givenArguments document provider) := by
    rw [List.mapM_append, readDefaults, readGiven]
    rfl
  constructor
  · have each := Sequence.isSome_mapM_iff.1 (Option.isSome_of_eq_some read)
    exact fun entry listed => Configuration.isSome_toArgument?_iff.1 (each entry listed)
  · rw [arguments_of_resolve resolved, flags_withTempLocation, Configuration.bindings_of_mapM read]

/-- The flags of the engine come from the entries of both documents as one list, those of the
provider first. For documents that are read from texts, these are the entries that the texts
deliver, and lists in their values are flattened to any depth. -/
theorem flags_of_resolve (resolved : resolve document provider = .ok settings) :
    settings.arguments.flags =
        engineFlags ((givenArguments document provider).map Arguments.binding)
          settings.tempDirectory ∧
      (∀ {text : String} {providerText : Option String},
        PipelineDocument.ofText? text = some document →
        providerText.mapM ProviderDocument.ofText? = some provider →
        ∃ defaults given, providerText.elim (some []) ProviderDocument.entries? = some defaults ∧
          PipelineDocument.entries? text = some given ∧
          FlagsOf (defaults ++ given) settings.tempDirectory settings.arguments.flags) ∧
      ∀ name value, flattened (name, .sequence [value]) = flattened (name, value) := by
  refine ⟨?_, ?_, flattened_singleton⟩
  · rw [arguments_of_resolve resolved, flags_withTempLocation]
  · intro text providerText read readProvider
    obtain ⟨given, delivered, readGiven⟩ := PipelineDocument.exists_entries read
    cases providerText with
    | none =>
      obtain rfl := Option.some.inj readProvider
      exact ⟨[], given, rfl, delivered, flagsOf_of_mapM resolved rfl readGiven⟩
    | some providerText =>
      obtain ⟨found, readDefaults, rfl⟩ := Option.map_eq_some_iff.1 readProvider
      obtain ⟨defaults, deliveredToo, readDefaults⟩ := ProviderDocument.exists_entries readDefaults
      exact ⟨defaults, given, deliveredToo, delivered,
        flagsOf_of_mapM resolved readDefaults readGiven⟩

/-- A document with lists in a list and a list without values. -/
def nestedText : String :=
  "name: taxi\nframework:\n  parameters:\n    pipeline: taxi.nodes\n    beamArgs:\n" ++
    "    - name: labels\n      value: [1, [[x], []], [true]]\n    - name: runner\n      value: []\n"

/-- A provider that names the arguments in another order. -/
def nestedProviderText : String :=
  "pipelineRootStorage: gs://bucket/\ndefaultBeamArgs:\n- name: runner\n  value: [[Direct]]\n" ++
    "- name: labels\n  value: z\n"

def nested : PipelineDocument where
  name := some "taxi"
  image := none
  rootLocation := none
  environment := []
  framework := none
  components := none
  pipeline := some "taxi.nodes"
  arguments := [⟨"labels", .several ["1", "x", "true"]⟩, ⟨"runner", .several []⟩]

def nestedProvider : ProviderDocument where
  name := none
  executionMode := none
  rootStorage := some "gs://bucket/"
  arguments := [⟨"runner", .several ["Direct"]⟩, ⟨"labels", .single "z"⟩]

theorem flags_of_resolve_nested : ∃ settings defaults given,
    resolve nested (some nestedProvider) = .ok settings ∧
      PipelineDocument.ofText? nestedText = some nested ∧
      (some nestedProviderText).mapM ProviderDocument.ofText? = some (some nestedProvider) ∧
      ProviderDocument.entries? nestedProviderText = some defaults ∧
      PipelineDocument.entries? nestedText = some given ∧
      FlagsOf (defaults ++ given) "gs://bucket/taxi/tmp" settings.arguments.flags ∧
      settings.arguments.flags = ["--runner=Direct", "--labels=z", "--labels=1", "--labels=x",
        "--labels=true", "--temp_location=gs://bucket/taxi/tmp"] := by
  have seen : (resolve nested (some nestedProvider)).toOption.map (fun settings =>
      (settings.tempDirectory, settings.arguments.flags)) = some ("gs://bucket/taxi/tmp",
      ["--runner=Direct", "--labels=z", "--labels=1", "--labels=x", "--labels=true",
        "--temp_location=gs://bucket/taxi/tmp"]) := by decide +kernel
  have read : PipelineDocument.ofText? nestedText = some nested := by decide +kernel
  have readProvider : ProviderDocument.ofText? nestedProviderText = some nestedProvider := by
    decide +kernel
  have readEach : (some nestedProviderText).mapM ProviderDocument.ofText? =
      some (some nestedProvider) := by
    rw [Option.mapM_some, readProvider]
    rfl
  obtain ⟨settings, resolved, same⟩ := Sequence.exists_ok_of_toOption seen
  obtain ⟨directory, flags⟩ := Prod.mk.inj same
  obtain ⟨defaults, given, deliveredToo, delivered, flagsOf⟩ :=
    (flags_of_resolve resolved).2.1 read readEach
  exact ⟨settings, defaults, given, resolved, read, readEach, deliveredToo, delivered,
    directory ▸ flagsOf, flags⟩

end Settings

end PipelineManifest

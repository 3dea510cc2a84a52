import Mathlib.Data.List.DropRight
import PipelineManifest.Proofs.Configuration.Settings

/-!
# Directories of settings

The root of a pipeline is its sanitized name below the storage base, and two more directories lie in
the root. Each path is made by `join`, which takes the slashes at the end of a path away and puts
one in their place. If the name is empty, the root ends in a slash, and that one is taken away too.
If a path is empty, the slash that is put there makes it begin at the root of the file system.

Results:
1. `join_of_last`, `absolute_join_iff`: when `join` takes nothing away, and when a path that it
   makes is absolute.
2. `paths_of_resolve`: how the directories are made of the base and the name, and when a slash is
   missing; `unnamed_directories`: a pipeline for which it is.
3. `absolute_of_resolve`: when the directories are absolute; `absolute_of_empty`: two pipelines for
   which they are, although no base is.
4. `apart_of_resolve`: below one base, pipelines of different names have nothing in common.
-/

namespace PipelineManifest

namespace Settings

/-! ## Definitions -/

def directories (settings : Settings) : List String :=
  [settings.rootStorage, settings.servingDirectory, settings.tempDirectory]

/-- A path that begins at the root of the file system. -/
def Absolute (path : String) : Prop :=
  path.toList.head? = some '/'

instance (path : String) : Decidable (Absolute path) :=
  inferInstanceAs (Decidable (path.toList.head? = some '/'))

/-- One path is another without the slashes at its end. -/
structure Trimmed (path trimmed : String) : Prop where
  slashes : ∃ count, path.toList = trimmed.toList ++ List.replicate count '/'
  last : trimmed.toList.getLast? ≠ some '/'

/-- There is no more of a path, or a slash comes next. -/
def AtBoundary (rest : List Char) : Prop :=
  rest = [] ∨ rest.head? = some '/'

/-- One path is another or is above it: the other begins with it, up to a slash. -/
def Covers (path other : String) : Prop :=
  ∃ rest, path.toList ++ rest = other.toList ∧
    (AtBoundary rest ∨ path.toList.getLast? = some '/')

/-- How the directories of settings are made of the storage base and the name. -/
structure PathsOf (base : Option String) (settings : Settings) : Prop where
  segment : '/' ∉ settings.sanitizedName.toList
  relative : base = none → settings.rootStorage = settings.sanitizedName
  below : ∀ path, base = some path → ∃ trimmed, Trimmed path trimmed ∧
    settings.rootStorage = trimmed ++ "/" ++ settings.sanitizedName
  inside : base = none ∨ settings.name ≠ "" →
    settings.servingDirectory = settings.rootStorage ++ "/serving" ∧
    settings.tempDirectory = settings.rootStorage ++ "/tmp"
  /-- The root ends in a slash, and no other is put behind it. -/
  unnamed : base ≠ none → settings.name = "" →
    settings.servingDirectory = settings.rootStorage ++ "serving" ∧
    settings.servingDirectory ≠ settings.rootStorage ++ "/serving" ∧
    settings.tempDirectory = settings.rootStorage ++ "tmp" ∧
    settings.tempDirectory ≠ settings.rootStorage ++ "/tmp"

/-- Which directories of settings are absolute. -/
structure RootedBy (base : Option String) (settings : Settings) : Prop where
  root : Absolute settings.rootStorage ↔ ∃ path, base = some path ∧ (path = "" ∨ Absolute path)
  inside : ∀ directory ∈ [settings.servingDirectory, settings.tempDirectory],
    Absolute directory ↔ Absolute settings.rootStorage ∨ base = none ∧ settings.name = ""
  /-- That only an absolute base makes a directory absolute fails exactly for an empty base, and for
  an empty name without a base. -/
  kept : (∀ directory ∈ settings.directories, Absolute directory →
      ∃ path, base = some path ∧ Absolute path) ↔
    base ≠ some "" ∧ (base = none → settings.name ≠ "")

/-! ## Slashes at the end of a path -/

theorem dropSlashes_eq (path : List Char) : dropSlashes path = path.rdropWhile (· = '/') := rfl

theorem exists_slashes (path : List Char) :
    ∃ count, path = dropSlashes path ++ List.replicate count '/' := by
  refine ⟨(path.rtakeWhile (· = '/')).length, ?_⟩
  have slashes : path.rtakeWhile (· = '/') =
      List.replicate (path.rtakeWhile (· = '/')).length '/' :=
    List.eq_replicate_iff.2 ⟨rfl, fun _ listed => by simpa using List.mem_rtakeWhile_imp listed⟩
  rw [← slashes, dropSlashes_eq, List.rdropWhile_append_rtakeWhile]

theorem getLast?_dropSlashes (path : List Char) : (dropSlashes path).getLast? ≠ some '/' := by
  intro last
  have nonempty : dropSlashes path ≠ [] := fun empty => by
    rw [empty] at last
    cases last
  rw [List.getLast?_eq_some_getLast nonempty] at last
  exact List.rdropWhile_last_not _ _ nonempty (decide_eq_true (Option.some.inj last))

theorem dropSlashes_of_last {path : List Char} (last : path.getLast? ≠ some '/') :
    dropSlashes path = path := by
  rw [dropSlashes_eq, List.rdropWhile_eq_self_iff]
  intro nonempty slash
  rw [List.getLast?_eq_some_getLast nonempty, of_decide_eq_true slash] at last
  exact last rfl

theorem dropSlashes_concat (path : List Char) : dropSlashes (path ++ ['/']) = dropSlashes path :=
  List.rdropWhile_concat_pos _ _ _ (decide_eq_true rfl)

theorem trimmed_dropSlashes (path : String) : Trimmed path (.ofList (dropSlashes path.toList)) where
  slashes := by
    rw [String.toList_ofList]
    exact exists_slashes path.toList
  last := by
    rw [String.toList_ofList]
    exact getLast?_dropSlashes path.toList

/-! ## Joined paths -/

theorem toList_join (path segment : String) :
    (join path segment).toList = dropSlashes path.toList ++ '/' :: segment.toList :=
  String.toList_ofList

theorem join_eq_append (path segment : String) :
    join path segment = .ofList (dropSlashes path.toList) ++ "/" ++ segment := by
  rw [← String.toList_inj, toList_join, String.toList_append, String.toList_append,
    String.toList_ofList, List.append_assoc]
  rfl

/-- Nothing is taken from a path that does not end in a slash. -/
theorem join_of_last {path : String} (last : path.toList.getLast? ≠ some '/') (segment : String) :
    join path segment = path ++ "/" ++ segment := by
  rw [join_eq_append, dropSlashes_of_last last, String.ofList_toList]

/-- The slash that `join` has put behind a path is taken away and put there again. -/
theorem join_join_empty (path segment : String) :
    join (join path "") segment = join path "" ++ segment := by
  have slash : (join path "").toList = dropSlashes path.toList ++ ['/'] := toList_join path ""
  rw [← String.toList_inj, toList_join, slash, dropSlashes_concat,
    dropSlashes_of_last (getLast?_dropSlashes _), String.toList_append, slash, List.append_assoc]
  rfl

theorem join_join_empty_ne (path segment : String) :
    join (join path "") segment ≠ join path "" ++ ("/" ++ segment) := by
  rw [join_join_empty, Ne, String.append_right_inj]
  intro same
  have lengths := congrArg String.length same
  rw [String.length_append] at lengths
  have slash : "/".length = 1 := rfl
  omega

/-- An empty path is joined like the root of the file system. -/
theorem absolute_join_iff {path segment : String} :
    Absolute (join path segment) ↔ path = "" ∨ Absolute path := by
  rw [Absolute, Absolute, toList_join, ← String.toList_eq_nil_iff]
  obtain ⟨count, whole⟩ := exists_slashes path.toList
  cases trimmed : dropSlashes path.toList with
  | nil =>
    refine iff_of_true rfl ?_
    rw [whole, trimmed, List.nil_append]
    cases count with
    | zero => exact .inl rfl
    | succ _ => exact .inr rfl
  | cons first rest =>
    rw [whole, trimmed]
    refine ⟨.inr, fun absolute => ?_⟩
    exact absolute.resolve_left (List.cons_ne_nil _ _)

/-! ## Names -/

theorem slash_notMem_sanitize (name : String) : '/' ∉ (sanitize name).toList := by
  rw [sanitize, String.toList_ofList, List.mem_map]
  rintro ⟨c, -, slash⟩
  split at slash
  next => cases slash
  next other => exact other slash

theorem sanitize_eq_empty_iff {name : String} : sanitize name = "" ↔ name = "" := by
  rw [← String.toList_eq_nil_iff, ← String.toList_eq_nil_iff, sanitize, String.toList_ofList,
    List.map_eq_nil_iff]

/-! ## The directories -/

variable {document : PipelineDocument} {provider : Option ProviderDocument} {settings : Settings}
  {base : Option String} {defaults : Arguments}

theorem exists_resolves (resolved : resolve document provider = .ok settings) :
    ∃ defaults, settings.Resolves document (storageBase document provider) defaults := by
  obtain ⟨root, defaults, placed, resolves⟩ := resolve_eq_ok resolved
  exact ⟨defaults, (placement_eq_ok placed).1 ▸ resolves⟩

namespace Resolves

theorem segment (resolves : settings.Resolves document base defaults) :
    '/' ∉ settings.sanitizedName.toList := by
  rw [resolves.sanitizedName]
  exact slash_notMem_sanitize settings.name

theorem sanitizedName_eq_empty_iff (resolves : settings.Resolves document base defaults) :
    settings.sanitizedName = "" ↔ settings.name = "" := by
  rw [resolves.sanitizedName, sanitize_eq_empty_iff]

theorem toList_ne_nil (resolves : settings.Resolves document base defaults)
    (named : settings.name ≠ "") : settings.sanitizedName.toList ≠ [] := fun empty =>
  named (resolves.sanitizedName_eq_empty_iff.1 (String.toList_eq_nil_iff.1 empty))

theorem rootStorage_eq_empty_iff (resolves : settings.Resolves document base defaults) :
    settings.rootStorage = "" ↔ base = none ∧ settings.name = "" := by
  rw [resolves.rootStorage, ← resolves.sanitizedName_eq_empty_iff]
  cases base with
  | none => exact (and_iff_right rfl).symm
  | some path =>
    refine iff_of_false (fun empty => ?_) fun ⟨impossible, _⟩ => Option.some_ne_none _ impossible
    have nothing := (toList_join path settings.sanitizedName).symm.trans
      (String.toList_eq_nil_iff.2 empty)
    exact List.cons_ne_nil _ _ (List.append_eq_nil_iff.1 nothing).2

theorem last_rootStorage (resolves : settings.Resolves document base defaults)
    (named : base = none ∨ settings.name ≠ "") :
    settings.rootStorage.toList.getLast? ≠ some '/' := by
  rw [resolves.rootStorage]
  cases base with
  | none => exact fun last => resolves.segment (List.mem_of_getLast? last)
  | some path =>
    have nonempty := resolves.toList_ne_nil (named.resolve_left (Option.some_ne_none _))
    rw [Option.elim_some, toList_join, List.append_cons]
    exact Sequence.getLast?_append_ne nonempty resolves.segment _

theorem pathsOf (resolves : settings.Resolves document base defaults) : PathsOf base settings where
  segment := resolves.segment
  relative := by
    rintro rfl
    exact resolves.rootStorage
  below := by
    rintro path rfl
    exact ⟨_, trimmed_dropSlashes path, resolves.rootStorage.trans (join_eq_append path _)⟩
  inside := by
    intro named
    have last := resolves.last_rootStorage named
    rw [resolves.servingDirectory, resolves.tempDirectory, join_of_last last, join_of_last last,
      String.append_assoc, String.append_assoc]
    exact ⟨rfl, rfl⟩
  unnamed := by
    intro configured unnamed
    obtain ⟨path, rfl⟩ := Option.ne_none_iff_exists'.1 configured
    have root : settings.rootStorage = join path "" :=
      resolves.rootStorage.trans
        (congrArg (join path) (resolves.sanitizedName_eq_empty_iff.2 unnamed))
    rw [resolves.servingDirectory, resolves.tempDirectory, root]
    exact ⟨join_join_empty path _, join_join_empty_ne path "serving", join_join_empty path _,
      join_join_empty_ne path "tmp"⟩

theorem absolute_rootStorage_iff (resolves : settings.Resolves document base defaults) :
    Absolute settings.rootStorage ↔ ∃ path, base = some path ∧ (path = "" ∨ Absolute path) := by
  rw [resolves.rootStorage]
  cases base with
  | none =>
    refine iff_of_false (fun absolute => ?_) fun ⟨_, impossible, _⟩ => nomatch impossible
    exact resolves.segment (List.mem_of_head? absolute)
  | some path =>
    rw [Option.elim_some, absolute_join_iff]
    constructor
    · exact fun absolute => ⟨path, rfl, absolute⟩
    · rintro ⟨_, same, absolute⟩
      obtain rfl := Option.some.inj same
      exact absolute

theorem absolute_inside_iff (resolves : settings.Resolves document base defaults)
    {directory : String}
    (inside : directory ∈ [settings.servingDirectory, settings.tempDirectory]) :
    Absolute directory ↔ Absolute settings.rootStorage ∨ base = none ∧ settings.name = "" := by
  have joined : ∃ segment, directory = join settings.rootStorage segment := by
    rw [resolves.servingDirectory, resolves.tempDirectory, List.mem_pair] at inside
    exact inside.elim (⟨_, ·⟩) (⟨_, ·⟩)
  obtain ⟨segment, rfl⟩ := joined
  rw [absolute_join_iff, resolves.rootStorage_eq_empty_iff, or_comm]

/-- Where nothing is empty, a slash can only come from the base. -/
theorem based_of_absolute (resolves : settings.Resolves document base defaults)
    (nonempty : base ≠ some "") (named : base = none → settings.name ≠ "") {directory : String}
    (listed : directory ∈ settings.directories) (absolute : Absolute directory) :
    ∃ path, base = some path ∧ Absolute path := by
  have root : Absolute settings.rootStorage := by
    rcases List.mem_cons.1 listed with rfl | inside
    · exact absolute
    · refine ((resolves.absolute_inside_iff inside).1 absolute).resolve_right ?_
      rintro ⟨relative, unnamed⟩
      exact named relative unnamed
  obtain ⟨path, rfl, empty | absolute⟩ := resolves.absolute_rootStorage_iff.1 root
  · exact absurd (congrArg some empty) nonempty
  · exact ⟨path, rfl, absolute⟩

theorem rootedBy (resolves : settings.Resolves document base defaults) :
    RootedBy base settings where
  root := resolves.absolute_rootStorage_iff
  inside := fun _ inside => resolves.absolute_inside_iff inside
  kept := by
    constructor
    · intro kept
      constructor
      · rintro rfl
        have absolute := resolves.absolute_rootStorage_iff.2 ⟨"", rfl, .inl rfl⟩
        obtain ⟨path, same, absolute⟩ := kept _ List.mem_cons_self absolute
        obtain rfl := Option.some.inj same
        cases absolute
      · intro relative unnamed
        have absolute := (resolves.absolute_inside_iff List.mem_cons_self).2
          (.inr ⟨relative, unnamed⟩)
        obtain ⟨path, same, -⟩ := kept _ (List.mem_cons_of_mem _ List.mem_cons_self) absolute
        cases relative.symm.trans same
    · rintro ⟨nonempty, named⟩ directory listed absolute
      exact resolves.based_of_absolute nonempty named listed absolute

end Resolves

/-- The directories of every pipeline are its name below the base, and below that two segments. Only
if there is a base and no name is there no slash between the root and the segments but its own. -/
theorem paths_of_resolve (resolved : resolve document provider = .ok settings) :
    PathsOf (storageBase document provider) settings := by
  obtain ⟨_, resolves⟩ := exists_resolves resolved
  exact resolves.pathsOf

/-- A document with a name and a place to store artifacts. -/
def located (name : String) (root : Option String) : PipelineDocument where
  name := some name
  image := none
  rootLocation := root
  environment := []
  framework := none
  components := some "taxi.nodes"
  pipeline := none
  arguments := []

theorem paths_of_resolve_located : ∃ settings,
    resolve (located "team/taxi" (some "storage//")) none = .ok settings ∧
      PathsOf (some "storage//") settings ∧ settings.rootStorage = "storage/team-taxi" ∧
      settings.servingDirectory = "storage/team-taxi/serving" := by
  have seen : (resolve (located "team/taxi" (some "storage//")) none).toOption.map (fun settings =>
      (settings.rootStorage, settings.servingDirectory)) =
      some ("storage/team-taxi", "storage/team-taxi/serving") := by decide +kernel
  obtain ⟨settings, resolved, same⟩ := Sequence.exists_ok_of_toOption seen
  obtain ⟨root, serving⟩ := Prod.mk.inj same
  exact ⟨settings, resolved, paths_of_resolve resolved, root, serving⟩

/-- The slash at the end of the root would be followed by another. -/
theorem unnamed_directories : ∃ settings,
    resolve (located "" (some "storage")) none = .ok settings ∧
      settings.rootStorage = "storage/" ∧ settings.servingDirectory = "storage/serving" ∧
      settings.servingDirectory ≠ settings.rootStorage ++ "/serving" ∧
      settings.tempDirectory ≠ settings.rootStorage ++ "/tmp" := by
  have seen : (resolve (located "" (some "storage")) none).toOption.map (fun settings =>
      (settings.rootStorage, settings.servingDirectory, settings.tempDirectory)) =
      some ("storage/", "storage/serving", "storage/tmp") := by decide +kernel
  obtain ⟨settings, resolved, same⟩ := Sequence.exists_ok_of_toOption seen
  obtain ⟨root, same⟩ := Prod.mk.inj same
  obtain ⟨serving, temp⟩ := Prod.mk.inj same
  refine ⟨settings, resolved, root, serving, ?_, ?_⟩
  · rw [root, serving]
    decide +kernel
  · rw [root, temp]
    decide +kernel

/-- The directories are absolute below an absolute base, and where `join` puts a slash behind
nothing: behind an empty base, or behind an empty name if there is no base. -/
theorem absolute_of_resolve (resolved : resolve document provider = .ok settings) :
    RootedBy (storageBase document provider) settings := by
  obtain ⟨_, resolves⟩ := exists_resolves resolved
  exact resolves.rootedBy

theorem absolute_of_resolve_located : ∃ settings,
    resolve (located "team/taxi" (some "//")) none = .ok settings ∧
      RootedBy (some "//") settings ∧ settings.rootStorage = "/team-taxi" := by
  have seen : (resolve (located "team/taxi" (some "//")) none).toOption.map (·.rootStorage) =
      some "/team-taxi" := by decide +kernel
  obtain ⟨settings, resolved, root⟩ := Sequence.exists_ok_of_toOption seen
  exact ⟨settings, resolved, absolute_of_resolve resolved, root⟩

/-- The root below an empty base is absolute, and without a base so are the directories inside a
root that is empty itself. -/
theorem absolute_of_empty :
    (∃ settings, resolve (located "taxi" (some "")) none = .ok settings ∧
      settings.rootStorage = "/taxi" ∧ Absolute settings.rootStorage ∧ ¬ Absolute "") ∧
    ∃ settings, resolve (located "" none) none = .ok settings ∧
      settings.rootStorage = "" ∧ settings.servingDirectory = "/serving" ∧
      Absolute settings.servingDirectory := by
  have seen : (resolve (located "taxi" (some "")) none).toOption.map (·.rootStorage) =
      some "/taxi" := by decide +kernel
  have seenUnnamed : (resolve (located "" none) none).toOption.map (fun settings =>
      (settings.rootStorage, settings.servingDirectory)) = some ("", "/serving") := by
    decide +kernel
  obtain ⟨settings, resolved, root⟩ := Sequence.exists_ok_of_toOption seen
  obtain ⟨unnamed, resolvedUnnamed, same⟩ := Sequence.exists_ok_of_toOption seenUnnamed
  obtain ⟨none, serving⟩ := Prod.mk.inj same
  refine ⟨⟨settings, resolved, root, ?_, by decide +kernel⟩,
    ⟨unnamed, resolvedUnnamed, none, serving, ?_⟩⟩
  · rw [root]
    decide +kernel
  · rw [serving]
    decide +kernel

/-! ## Directories of two pipelines -/

/-- What stands ahead of the name in every directory. -/
def stem : Option String → List Char
  | none => []
  | some path => dropSlashes path.toList ++ ['/']

theorem AtBoundary.append {first second : List Char} (ends : AtBoundary first)
    (goesOn : first = [] → AtBoundary second) : AtBoundary (first ++ second) := by
  rcases ends with rfl | slash
  · exact goesOn rfl
  · exact .inr (List.head?_append.trans (by rw [slash]; rfl))

theorem takeWhile_of_atBoundary {name rest : List Char} (segment : '/' ∉ name)
    (ends : AtBoundary rest) : (name ++ rest).takeWhile (· ≠ '/') = name := by
  rcases ends with rfl | slash
  · rw [List.append_nil, Sequence.takeWhile_of_plain segment]
  · obtain ⟨tail, rfl⟩ := List.head?_eq_some_iff.1 slash
    rw [Sequence.takeWhile_append_cons, Sequence.takeWhile_of_plain segment]

namespace Resolves

theorem toList_rootStorage (resolves : settings.Resolves document base defaults) :
    settings.rootStorage.toList = stem base ++ settings.sanitizedName.toList := by
  rw [resolves.rootStorage]
  cases base with
  | none => rfl
  | some path => rw [Option.elim_some, toList_join, List.append_cons, stem]

/-- Behind the name there is nothing or a slash. -/
theorem exists_rest (resolves : settings.Resolves document base defaults)
    (named : settings.name ≠ "") {directory : String} (listed : directory ∈ settings.directories) :
    ∃ rest, directory.toList = stem base ++ (settings.sanitizedName.toList ++ rest) ∧
      AtBoundary rest := by
  obtain ⟨serving, temp⟩ := resolves.pathsOf.inside (.inr named)
  have inside (segment : String) : (settings.rootStorage ++ segment).toList =
      stem base ++ (settings.sanitizedName.toList ++ segment.toList) := by
    rw [String.toList_append, resolves.toList_rootStorage, List.append_assoc]
  rw [directories, serving, temp] at listed
  simp only [List.mem_cons, List.not_mem_nil, or_false] at listed
  rcases listed with rfl | rfl | rfl
  · exact ⟨[], by rw [resolves.toList_rootStorage, List.append_nil], .inl rfl⟩
  · exact ⟨_, inside "/serving", .inr rfl⟩
  · exact ⟨_, inside "/tmp", .inr rfl⟩

/-- If a directory of one pipeline covers one of another below the same base, both have one name. -/
theorem name_eq_of_covers {document' : PipelineDocument} {defaults' : Arguments}
    {settings' : Settings} (resolves : settings.Resolves document base defaults)
    (resolves' : settings'.Resolves document' base defaults')
    (named : settings.name ≠ "") (named' : settings'.name ≠ "") {directory other : String}
    (listed : directory ∈ settings.directories) (listed' : other ∈ settings'.directories)
    (covers : Covers directory other) : settings.sanitizedName = settings'.sanitizedName := by
  obtain ⟨rest, whole, ends⟩ := resolves.exists_rest named listed
  obtain ⟨rest', whole', ends'⟩ := resolves'.exists_rest named' listed'
  obtain ⟨between, joined, boundary⟩ := covers
  rw [whole, whole', List.append_assoc, List.append_cancel_left_eq, List.append_assoc] at joined
  have goesOn : AtBoundary (rest ++ between) := by
    refine ends.append fun nothing => boundary.resolve_right ?_
    rw [whole, nothing, List.append_nil]
    exact Sequence.getLast?_append_ne (resolves.toList_ne_nil named) resolves.segment _
  have names := congrArg (List.takeWhile (· ≠ '/')) joined
  rw [takeWhile_of_atBoundary resolves.segment goesOn,
    takeWhile_of_atBoundary resolves'.segment ends'] at names
  exact String.toList_inj.1 names

end Resolves

/-- Below one base, the sanitized names of two pipelines differ exactly if no directory of one is a
directory of the other, or above one. -/
theorem apart_of_resolve {document' : PipelineDocument} {provider' : Option ProviderDocument}
    {settings' : Settings} (resolved : resolve document provider = .ok settings)
    (resolved' : resolve document' provider' = .ok settings')
    (same : storageBase document provider = storageBase document' provider')
    (named : settings.sanitizedName ≠ "") (named' : settings'.sanitizedName ≠ "") :
    (∀ directory ∈ settings.directories, ∀ other ∈ settings'.directories,
        ¬ Covers directory other ∧ ¬ Covers other directory) ↔
      settings.sanitizedName ≠ settings'.sanitizedName := by
  obtain ⟨_, resolves⟩ := exists_resolves resolved
  obtain ⟨_, resolves'⟩ := exists_resolves resolved'
  rw [← same] at resolves'
  rw [Ne, resolves.sanitizedName_eq_empty_iff] at named
  rw [Ne, resolves'.sanitizedName_eq_empty_iff] at named'
  constructor
  · intro apart names
    have roots : settings.rootStorage = settings'.rootStorage := by
      rw [resolves.rootStorage, resolves'.rootStorage, names]
    refine (apart _ List.mem_cons_self _ List.mem_cons_self).1 ⟨[], ?_, .inl (.inl rfl)⟩
    rw [List.append_nil, roots]
  · intro different directory listed other listed'
    exact ⟨fun covers => different
        (resolves.name_eq_of_covers resolves' named named' listed listed' covers),
      fun covers => different
        (resolves'.name_eq_of_covers resolves named' named listed' listed covers).symm⟩

/-- One name begins like the other and goes on as the other pipeline does inside its root. -/
theorem apart_of_resolve_located : ∃ settings settings',
    resolve (located "taxi" (some "storage//")) none = .ok settings ∧
      resolve (located "taxi/serving" (some "storage//")) none = .ok settings' ∧
      settings.servingDirectory = "storage/taxi/serving" ∧
      settings'.rootStorage = "storage/taxi-serving" ∧
      ∀ directory ∈ settings.directories, ∀ other ∈ settings'.directories,
        ¬ Covers directory other ∧ ¬ Covers other directory := by
  have seen : (resolve (located "taxi" (some "storage//")) none).toOption.map (fun settings =>
      (settings.sanitizedName, settings.servingDirectory)) =
      some ("taxi", "storage/taxi/serving") := by decide +kernel
  have seen' : (resolve (located "taxi/serving" (some "storage//")) none).toOption.map
      (fun settings => (settings.sanitizedName, settings.rootStorage)) =
      some ("taxi-serving", "storage/taxi-serving") := by decide +kernel
  obtain ⟨settings, resolved, both⟩ := Sequence.exists_ok_of_toOption seen
  obtain ⟨settings', resolved', both'⟩ := Sequence.exists_ok_of_toOption seen'
  obtain ⟨name, serving⟩ := Prod.mk.inj both
  obtain ⟨name', root⟩ := Prod.mk.inj both'
  refine ⟨settings, settings', resolved, resolved', serving, root, ?_⟩
  refine (apart_of_resolve resolved resolved' rfl ?_ ?_).2 ?_
  · rw [name]
    decide +kernel
  · rw [name']
    decide +kernel
  · rw [name, name']
    decide +kernel

end Settings

end PipelineManifest

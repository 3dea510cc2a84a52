import PipelineManifest.Files.Tree
import PipelineManifest.Proofs.Sequence

/-!
# Writing files

A file is written whole or not at all. Besides the file there can be new directories on the way to
it, and they stay if the file cannot be put in its place. Whatever has a name of its own until the
file is whole is gone in the end.

Results:
1. `walk_mono`: a path leads to the same place as long as no directory is lost.
2. `provideDirectories_gains`: making directories adds nothing else, and only on the way.
3. `replace_error`, `replace_ok`: a file that cannot be moved leaves no trace, and one that can
   leaves none but itself.
4. `overwrite_of_targets`, `entryAt_put`: where a file can be put it is put, and the path leads
   to it.
5. `write_error`, `write_ok`: both for a file and the directories around it.
-/

namespace PipelineManifest

namespace FileTree

/-! ## Definitions -/

/-- Nothing is other than before at a place, unless it is one of `places` and there is a directory
where nothing was. -/
def Gains (places : List Location) (before after : FileTree) (location : Location) : Prop :=
  after.find? location = before.find? location ∨
    location ∈ places ∧ before.find? location = none ∧ after.find? location = some .directory

/-- The same files are there, with the same bytes. -/
def SameFiles (before after : FileTree) : Prop :=
  ∀ location contents, after.find? location = some (.file contents) ↔
    before.find? location = some (.file contents)

/-- A path leads to a place where a file can be put. -/
structure Targets (tree : FileTree) (directory : Location) (path : Path) (target : Location) :
    Prop where
  check : path.check = .ok ()
  named : path.fileName?.isSome
  ending : path.ending = .bare
  walk : tree.walk (start directory path) path.steps = .ok target
  noDirectory : tree.find? target ≠ some .directory

/-- What is there when a file has been written: the file where the path leads, and all other places
as they were, apart from directories that are new on the way to it. -/
structure Written (directory : Location) (path : Path) (contents : ByteArray)
    (before after : FileTree) (target : Location) : Prop where
  walk : after.walk (start directory path) path.steps = .ok target
  file : after.find? target = some (.file contents)
  read : after.read directory path = .ok contents
  others : ∀ location, location ≠ target →
    Gains (places (start directory path) path.steps.dropLast) before after location

/-! ## New directories -/

theorem Gains.refl (around : List Location) (tree : FileTree) (location : Location) :
    Gains around tree tree location := .inl rfl

theorem Gains.trans {around : List Location} {first second third : FileTree} {location : Location}
    (before : Gains around first second location) (after : Gains around second third location) :
    Gains around first third location := by
  rcases before with same | ⟨onWay, free, made⟩
  · rcases after with same' | ⟨onWay, free, made⟩
    · exact .inl (same'.trans same)
    · exact .inr ⟨onWay, same ▸ free, made⟩
  · rcases after with same | ⟨_, free', _⟩
    · exact .inr ⟨onWay, free, same.trans made⟩
    · rw [made] at free'
      cases free'

theorem Gains.mono {around wider : List Location} {before after : FileTree} {location : Location}
    (gains : Gains around before after location) (within : around ⊆ wider) :
    Gains wider before after location :=
  gains.imp_right fun ⟨onWay, rest⟩ => ⟨within onWay, rest⟩

theorem Gains.directory {around : List Location} {before after : FileTree} {location : Location}
    (gains : Gains around before after location)
    (there : before.find? location = some .directory) : after.find? location = some .directory := by
  rcases gains with same | ⟨_, _, made⟩
  · exact same.trans there
  · exact made

theorem sameFiles_of_gains {around : List Location} {before after : FileTree}
    (gains : ∀ location, Gains around before after location) : SameFiles before after := by
  intro location contents
  rcases gains location with same | ⟨_, free, made⟩
  · rw [same]
  · rw [free, made]
    simp

theorem gains_put_directory {around : List Location} {tree : FileTree} {place : Location}
    (onWay : place ∈ around) (free : tree.find? place = none) (location : Location) :
    Gains around tree (tree.put place .directory) location := by
  by_cases here : location = place
  · subst here
    have inside : location ≠ [] := fun root => by simp [root] at free
    exact .inr ⟨onWay, free, find?_put_self tree inside _⟩
  · exact .inl (find?_put_of_ne tree here _)

/-! ## Following paths -/

theorem enter_eq_ok_iff {tree : FileTree} {location : Location} :
    tree.enter location = .ok () ↔ tree.find? location = some .directory := by
  unfold enter
  cases tree.find? location with
  | none => simp
  | some entry => cases entry <;> simp

theorem step_eq_ok {tree : FileTree} {location next : Location} {name : String}
    (steps : tree.step location name = .ok next) :
    tree.find? location = some .directory ∧
      next = if name = Path.parentName then location.dropLast else location ++ [name] := by
  obtain ⟨_, entered, rest⟩ := Sequence.bind_eq_ok_iff.1 steps
  refine ⟨enter_eq_ok_iff.1 entered, ?_⟩
  by_cases isParent : name = Path.parentName
  · rw [if_pos isParent] at rest ⊢
    exact (Except.ok.inj rest).symm
  · rw [if_neg isParent] at rest ⊢
    by_cases tooLong : nameLimit < name.utf8ByteSize
    · simp [tooLong] at rest
      cases rest
    · simp [tooLong] at rest
      exact (Except.ok.inj rest).symm

theorem step_congr {tree other : FileTree} {location : Location} (name : String)
    (there : tree.find? location = some .directory)
    (thereToo : other.find? location = some .directory) :
    other.step location name = tree.step location name := by
  rw [step, step, enter_eq_ok_iff.2 there, enter_eq_ok_iff.2 thereToo]

theorem walk_mono {tree other : FileTree}
    (keeps : ∀ location, tree.find? location = some .directory →
      other.find? location = some .directory) :
    ∀ {steps : List String} {location target : Location}, tree.walk location steps = .ok target →
      other.walk location steps = .ok target
  | [], _, _, walks => walks
  | name :: rest, location, target, walks => by
    rw [walk, List.foldlM_cons] at walks ⊢
    obtain ⟨next, steps, onward⟩ := Sequence.bind_eq_ok_iff.1 walks
    have there := (step_eq_ok steps).1
    rw [step_congr name there (keeps location there), steps]
    exact walk_mono keeps onward

theorem walk_concat {tree : FileTree} {location around target : Location} {steps : List String}
    {name : String} (walks : tree.walk location steps = .ok around)
    (step : tree.step around name = .ok target) :
    tree.walk location (steps ++ [name]) = .ok target := by
  rw [walk] at walks
  rw [walk, List.foldlM_append, walks]
  show tree.walk around [name] = _
  rw [walk, List.foldlM_cons, step]
  rfl

/-- A path that leads anywhere leads through the place where it ends. -/
theorem mem_places_of_walk {tree : FileTree} :
    ∀ {steps : List String} {location target : Location}, tree.walk location steps = .ok target →
      steps ≠ [] → target ∈ places location steps
  | [], _, _, _, nonempty => absurd rfl nonempty
  | name :: rest, location, target, walks, _ => by
    rw [walk, List.foldlM_cons] at walks
    obtain ⟨next, steps, onward⟩ := Sequence.bind_eq_ok_iff.1 walks
    rw [places, ← (step_eq_ok steps).2]
    cases rest with
    | nil =>
      cases onward
      exact List.mem_cons_self
    | cons other others =>
      exact List.mem_cons_of_mem _ (mem_places_of_walk onward (List.cons_ne_nil _ _))

theorem places_subset_append (location : Location) :
    ∀ (steps more : List String), places location steps ⊆ places location (steps ++ more)
  | [], _ => List.nil_subset _
  | name :: rest, more => by
    rw [List.cons_append, places, places]
    exact List.cons_subset_cons _ (places_subset_append _ rest more)

/-! ## Making directories -/

theorem provideDirectory_gains (tree : FileTree) {around : List Location} {location : Location}
    (onWay : location ∈ around) :
    (∀ other, Gains around tree (tree.provideDirectory location).1 other) ∧
      ∀ made, (tree.provideDirectory location).2 = .ok made →
        made = location ∧ (tree.provideDirectory location).1.find? location = some .directory := by
  unfold provideDirectory
  cases found : tree.find? location with
  | none =>
    have inside : location ≠ [] := fun root => by simp [root] at found
    exact ⟨gains_put_directory onWay found, fun made same =>
      ⟨(Except.ok.inj same).symm, find?_put_self tree inside _⟩⟩
  | some entry =>
    cases entry with
    | directory => exact ⟨Gains.refl _ _, fun made same => ⟨(Except.ok.inj same).symm, found⟩⟩
    | file contents => exact ⟨Gains.refl _ _, fun made impossible => by cases impossible⟩

/-- Directories are made on the way only, and if all are there the way leads to the last. -/
theorem provideDirectories_gains (tree : FileTree) (outer : Location) (names : List String) :
    (∀ other, Gains (places outer names.reverse) tree (tree.provideDirectories outer names).1
      other) ∧
    ∀ around, (tree.provideDirectories outer names).2 = .ok around →
      (tree.provideDirectories outer names).1.walk outer names.reverse = .ok around := by
  induction names with
  | nil => exact ⟨Gains.refl _ _, fun around same => same⟩
  | cons name before ih =>
    rw [provideDirectories]
    -- once the way to a directory is there, all that is left is the directory
    have last : ∀ {made : FileTree} {location : Location},
        made.walk outer (name :: before).reverse = .ok location →
        (∀ other, Gains (places outer (name :: before).reverse) made
          (made.provideDirectory location).1 other) ∧
        ∀ around, (made.provideDirectory location).2 = .ok around →
          (made.provideDirectory location).1.walk outer (name :: before).reverse = .ok around := by
      intro made location walks
      obtain ⟨gains, provided⟩ := provideDirectory_gains made
        (mem_places_of_walk walks (by simp))
      refine ⟨gains, fun around same => ?_⟩
      rw [(provided around same).1]
      exact walk_mono (fun other => (gains other).directory) walks
    split
    next location walks => exact last walks
    next notThere =>
      have wider : places outer before.reverse ⊆ places outer (name :: before).reverse := by
        rw [List.reverse_cons]
        exact places_subset_append outer _ _
      obtain ⟨gains, leads⟩ := ih
      cases inner : tree.provideDirectories outer before with
      | mk made result =>
        rw [inner] at gains leads
        cases result with
        | error error =>
          exact ⟨fun other => (gains other).mono wider, fun around impossible => by
            cases impossible⟩
        | ok around =>
          dsimp only
          split
          next location steps =>
            have walks := walk_concat (leads around rfl) steps
            rw [← List.reverse_cons] at walks
            obtain ⟨gains', leads'⟩ := last walks
            exact ⟨fun other => ((gains other).mono wider).trans (gains' other), leads'⟩
          next error failed =>
            exact ⟨fun other => (gains other).mono wider, fun around impossible => by
              cases impossible⟩
    next error other failed =>
      exact ⟨Gains.refl _ _, fun around impossible => by cases impossible⟩

/-! ## Moving files -/

theorem createUnfinished_eq_ok {tree begun : FileTree} {around unfinished : Location}
    {contents : ByteArray}
    (creates : tree.createUnfinished around contents = .ok (begun, unfinished)) :
    tree.find? unfinished = none ∧ begun = tree.put unfinished (.file contents) := by
  obtain ⟨_, _, rest⟩ := Sequence.bind_eq_ok_iff.1 creates
  cases place : tree.unfinishedPlace? around with
  | none =>
    rw [place] at rest
    cases rest
  | some location =>
    rw [place] at rest
    cases rest
    have free := List.find?_some place
    exact ⟨Option.isNone_iff_eq_none.1 free, rfl⟩

theorem checkTarget_eq_ok {tree : FileTree} {target : Location} {ending : PathEnding}
    (allowed : tree.checkTarget target ending = .ok ()) :
    ending = .bare ∧ tree.find? target ≠ some .directory := by
  unfold checkTarget at allowed
  cases found : tree.find? target with
  | none => cases ending <;> simp [found] at allowed ⊢
  | some entry => cases entry <;> cases ending <;> simp [found] at allowed ⊢

theorem rename_eq_ok {tree whole : FileTree} {source directory : Location} {path : Path}
    {contents : ByteArray} (there : tree.find? source = some (.file contents))
    (renames : tree.rename source directory path = .ok whole) :
    ∃ target, tree.Targets directory path target ∧
      whole = (tree.remove source).put target (.file contents) := by
  obtain ⟨_, check, rest⟩ := Sequence.bind_eq_ok_iff.1 renames
  obtain ⟨target, walks, rest⟩ := Sequence.bind_eq_ok_iff.1 rest
  cases named : path.fileName? with
  | none => simp [named] at rest; cases rest
  | some name =>
    simp only [named, Option.isNone_some, Bool.false_eq_true, if_false, there] at rest
    obtain ⟨_, allowed, same⟩ := Sequence.bind_eq_ok_iff.1 rest
    obtain ⟨ending, noDirectory⟩ := checkTarget_eq_ok allowed
    cases same
    exact ⟨target, ⟨check, by simp [named], ending, walks, noDirectory⟩, rfl⟩

/-- A file that is made at a free place makes no difference to where other files can be put. -/
theorem Targets.of_put {tree : FileTree} {unfinished directory target : Location} {path : Path}
    {contents : ByteArray} (free : tree.find? unfinished = none)
    (targets : (tree.put unfinished (.file contents)).Targets directory path target) :
    tree.Targets directory path target := by
  have inside : unfinished ≠ [] := fun root => by simp [root] at free
  have keeps : ∀ location, (tree.put unfinished (.file contents)).find? location = some .directory →
      tree.find? location = some .directory := by
    intro location there
    by_cases here : location = unfinished
    · rw [here, find?_put_self tree inside] at there
      cases there
    · rwa [find?_put_of_ne tree here] at there
  refine ⟨targets.check, targets.named, targets.ending, walk_mono keeps targets.walk,
    fun there => ?_⟩
  by_cases here : target = unfinished
  · rw [here, free] at there
    cases there
  · exact targets.noDirectory (by rwa [find?_put_of_ne tree here])

/-- A file that cannot be moved leaves no trace. -/
theorem replace_error {tree after : FileTree} {around directory : Location} {path : Path}
    {contents : ByteArray} {error : FileError}
    (fails : tree.replace around directory path contents = (after, .error error)) :
    after = tree := by
  unfold replace at fails
  split at fails
  · cases fails
    rfl
  next begun unfinished creates =>
    obtain ⟨_, _, created⟩ := Sequence.bind_eq_ok_iff.1 creates
    obtain ⟨free, rfl⟩ := createUnfinished_eq_ok created
    split at fails
    · cases fails
    · cases fails
      exact remove_put tree free _

/-- A file that is moved leaves no trace but itself. -/
theorem replace_ok {tree after : FileTree} {around directory : Location} {path : Path}
    {contents : ByteArray}
    (succeeds : tree.replace around directory path contents = (after, .ok ())) :
    ∃ target, tree.Targets directory path target ∧ after = tree.put target (.file contents) := by
  unfold replace at succeeds
  split at succeeds
  · cases succeeds
  next begun unfinished creates =>
    obtain ⟨_, _, created⟩ := Sequence.bind_eq_ok_iff.1 creates
    obtain ⟨free, rfl⟩ := createUnfinished_eq_ok created
    have inside : unfinished ≠ [] := fun root => by simp [root] at free
    split at succeeds
    next whole renames =>
      cases succeeds
      obtain ⟨target, targets, rfl⟩ := rename_eq_ok (find?_put_self tree inside _) renames
      exact ⟨target, targets.of_put free, by rw [remove_put tree free]⟩
    · cases succeeds

/-! ## Reading back -/

theorem Targets.inside {tree : FileTree} {directory target : Location} {path : Path}
    (targets : tree.Targets directory path target) : target ≠ [] :=
  fun root => targets.noDirectory (by rw [root, find?_root])

theorem walk_put {tree : FileTree} {directory target : Location} {path : Path}
    (targets : tree.Targets directory path target) (contents : ByteArray) :
    (tree.put target (.file contents)).walk (start directory path) path.steps = .ok target := by
  refine walk_mono (fun location there => ?_) targets.walk
  by_cases here : location = target
  · exact absurd (here ▸ there) targets.noDirectory
  · rwa [find?_put_of_ne tree here]

/-- A path leads to the file that was put where it leads. -/
theorem entryAt_put {tree : FileTree} {directory target : Location} {path : Path}
    (targets : tree.Targets directory path target) (contents : ByteArray) :
    (tree.put target (.file contents)).entryAt directory path = .ok (.file contents) := by
  have steps : path.steps ≠ [] := by
    intro none
    have named := targets.named
    rw [Path.fileName?, none] at named
    cases named
  rw [entryAt, targets.check, walk_put targets]
  simp only [Sequence.ok_bind, steps, targets.ending, find?_put_self tree targets.inside, false_and,
    and_false, if_false, if_true]
  rfl

theorem checkTarget_bare {tree : FileTree} {target : Location}
    (noDirectory : tree.find? target ≠ some .directory) :
    tree.checkTarget target .bare = .ok () := by
  unfold checkTarget
  cases found : tree.find? target with
  | none => rfl
  | some entry =>
    cases entry with
    | directory => exact absurd found noDirectory
    | file contents => rfl

/-- Where a file can be put it is put, whatever it holds. -/
theorem overwrite_of_targets {tree : FileTree} {directory target : Location} {path : Path}
    (targets : tree.Targets directory path target) (contents : ByteArray) :
    tree.overwrite directory path contents = .ok (tree.put target (.file contents)) := by
  obtain ⟨check, named, ending, walk, noDirectory⟩ := targets
  obtain ⟨name, named⟩ := Option.isSome_iff_exists.1 named
  rw [overwrite, check, named, ending]
  simp only [Sequence.ok_bind, walk, checkTarget_bare noDirectory]
  rfl

theorem read_eq_ok_iff {tree : FileTree} {directory : Location} {path : Path}
    {contents : ByteArray} :
    tree.read directory path = .ok contents ↔
      tree.entryAt directory path = .ok (.file contents) := by
  constructor
  · intro reads
    obtain ⟨entry, there, rest⟩ := Sequence.bind_eq_ok_iff.1 reads
    cases entry with
    | directory => cases rest
    | file held =>
      cases rest
      exact there
  · intro there
    rw [read, there]
    rfl

/-! ## Writing -/

theorem write_error {tree after : FileTree} {directory : Location} {path : Path}
    {contents : ByteArray} {error : FileError}
    (fails : tree.write directory path contents = (after, .error error)) :
    ∀ location, Gains (places (start directory path) path.steps.dropLast) tree after location := by
  have made := (provideDirectories_gains tree (start directory path) path.steps.dropLast.reverse).1
  rw [List.reverse_reverse] at made
  unfold write at fails
  split at fails
  · cases fails
    exact Gains.refl _ _
  · split at fails
    next provided =>
      cases fails
      rwa [provided] at made
    next provided =>
      rw [provided] at made
      rwa [replace_error fails]

theorem write_ok {tree after : FileTree} {directory : Location} {path : Path}
    {contents : ByteArray} (succeeds : tree.write directory path contents = (after, .ok ())) :
    ∃ target, Written directory path contents tree after target := by
  have made := (provideDirectories_gains tree (start directory path) path.steps.dropLast.reverse).1
  rw [List.reverse_reverse] at made
  unfold write at succeeds
  split at succeeds
  · cases succeeds
  · split at succeeds
    · cases succeeds
    next provided =>
      rw [provided] at made
      obtain ⟨target, targets, rfl⟩ := replace_ok succeeds
      refine ⟨target, walk_put targets contents, find?_put_self _ targets.inside _,
        read_eq_ok_iff.2 (entryAt_put targets contents), fun location elsewhere => ?_⟩
      exact (made location).trans (.inl (find?_put_of_ne _ elsewhere _))

end FileTree

end PipelineManifest

import PipelineManifest.Proofs.Manifest.Files

/-!
# What a failed write leaves

The directories on the way to a file are made before the file is, and nothing takes them away if the
file cannot be put in its place. So a write that fails leaves every file as it was, but it leaves
the tree as it was only if it found all directories that it came to (`FileTree.Complete`).

Results:
1. `provideDirectories_of_complete`: nothing is made where nothing is missing.
2. `find?_provideDirectories`: what is missing first is made, whatever fails later.
3. `Manifest.left_of_failure`: what a failed write leaves, and when that is what was there before.
4. `Manifest.abandoned_directory`: a write that fails leaves a directory.
-/

namespace PipelineManifest

namespace FileTree

/-! ## Definitions -/

/-- What is come to by some steps is there, as far as the steps can be followed. -/
def Complete (tree : FileTree) (location : Location) (steps : List String) : Prop :=
  ∀ ahead place, ahead <+: steps → ahead ≠ [] → tree.walk location ahead = .ok place →
    tree.find? place ≠ none

/-- Two trees have the same directories and the same files, with the same bytes. -/
def Same (first second : FileTree) : Prop :=
  ∀ location, first.find? location = second.find? location

/-! ## Ways with a gap -/

theorem step_of_missing {tree : FileTree} {location : Location}
    (missing : tree.find? location = none) (name : String) :
    tree.step location name = .error .notFound := by
  rw [step, enter, missing]
  rfl

theorem walk_append (tree : FileTree) (location : Location) (steps more : List String) :
    tree.walk location (steps ++ more) =
      tree.walk location steps >>= fun place => tree.walk place more :=
  List.foldlM_append

/-- No step leads on from where nothing is. -/
theorem walk_of_missing {tree : FileTree} {location place : Location} {steps : List String}
    (walks : tree.walk location steps = .ok place) (missing : tree.find? place = none)
    {more : List String} (onward : more ≠ []) :
    tree.walk location (steps ++ more) = .error .notFound := by
  cases more with
  | nil => exact absurd rfl onward
  | cons name rest =>
    rw [walk_append, walks, Sequence.ok_bind, walk, List.foldlM_cons, step_of_missing missing]
    rfl

theorem Complete.of_prefix {tree : FileTree} {location : Location} {steps first : List String}
    (complete : tree.Complete location steps) (begins : first <+: steps) :
    tree.Complete location first :=
  fun ahead place onWay => complete ahead place (onWay.trans begins)

/-! ## Directories that are made -/

theorem provideDirectory_of_found {tree : FileTree} {location : Location}
    (found : tree.find? location ≠ none) : (tree.provideDirectory location).1 = tree := by
  unfold provideDirectory
  split
  next missing => exact absurd missing found
  · rfl
  · rfl

theorem find?_provideDirectory {tree : FileTree} {location : Location}
    (missing : tree.find? location = none) :
    (tree.provideDirectory location).1.find? location = some .directory := by
  have inside : location ≠ [] := fun root => by simp [root] at missing
  rw [provideDirectory, missing]
  exact find?_put_self tree inside _

theorem directory_provideDirectory {tree : FileTree} {place : Location}
    (there : tree.find? place = some .directory) (location : Location) :
    (tree.provideDirectory location).1.find? place = some .directory := by
  have gains := provideDirectory_gains tree (List.mem_singleton.2 rfl : location ∈ [location])
  exact (gains.1 place).directory there

/-- Nothing is made where nothing is missing, also if a directory cannot be made. -/
theorem provideDirectories_of_complete {tree : FileTree} {outer : Location} {names : List String}
    (complete : tree.Complete outer names.reverse) :
    (tree.provideDirectories outer names).1 = tree := by
  induction names with
  | nil => rfl
  | cons name before ih =>
    rw [provideDirectories]
    split
    next location walks =>
      exact provideDirectory_of_found (complete _ location (List.prefix_refl _) (by simp) walks)
    next notThere =>
      rw [List.reverse_cons] at complete notThere
      have made := ih (complete.of_prefix (List.prefix_append _ _))
      have leads := (provideDirectories_gains tree outer before).2
      rw [made] at leads
      cases inner : tree.provideDirectories outer before with
      | mk left result =>
        rw [inner] at made leads
        obtain rfl : left = tree := made
        cases result with
        | error error => rfl
        | ok around =>
          dsimp only
          split
          next location steps =>
            -- then the way would have been there
            cases notThere.symm.trans (walk_concat (leads around rfl) steps)
          · rfl
    · rfl

/-- A place that is come to and where nothing is has a directory in the end, whatever fails
behind it. -/
theorem find?_provideDirectories {tree : FileTree} {outer place : Location} {names : List String}
    {ahead : List String} (onWay : ahead <+: names.reverse) (nonempty : ahead ≠ [])
    (walks : tree.walk outer ahead = .ok place) (missing : tree.find? place = none) :
    (tree.provideDirectories outer names).1.find? place = some .directory := by
  induction names with
  | nil => exact absurd (List.prefix_nil.1 onWay) nonempty
  | cons name before ih =>
    rw [List.reverse_cons, List.prefix_concat_iff] at onWay
    rw [provideDirectories, List.reverse_cons]
    rcases onWay with rfl | earlier
    · rw [walks]
      exact find?_provideDirectory missing
    · -- the way ends at the place, so all that is behind it is made after it
      obtain ⟨between, split⟩ := earlier
      have stuck : tree.walk outer (before.reverse ++ [name]) = .error .notFound := by
        rw [← split, List.append_assoc]
        exact walk_of_missing walks missing (by simp)
      have made := ih ⟨between, split⟩
      rw [stuck]
      dsimp only
      cases inner : tree.provideDirectories outer before with
      | mk left result =>
        rw [inner] at made
        cases result with
        | error error => exact made
        | ok around =>
          dsimp only
          split
          · exact directory_provideDirectory made _
          · exact made

/-! ## Writes that fail -/

/-- A write that fails leaves the directories that were made for it. -/
theorem write_error_eq {tree after : FileTree} {directory : Location} {path : Path}
    {contents : ByteArray} {error : FileError}
    (fails : tree.write directory path contents = (after, .error error)) :
    after = match path.directory.check with
      | .error _ => tree
      | .ok () =>
        (tree.provideDirectories (start directory path) path.steps.dropLast.reverse).1 := by
  unfold write at fails
  cases checked : path.directory.check with
  | error refused =>
    rw [checked] at fails
    cases fails
    rfl
  | ok _ =>
    rw [checked] at fails
    dsimp only at fails ⊢
    cases made : tree.provideDirectories (start directory path) path.steps.dropLast.reverse with
    | mk left result =>
      rw [made] at fails
      cases result with
      | error _ =>
        cases fails
        rfl
      | ok around => exact replace_error fails

theorem same_of_write_error_iff {tree after : FileTree} {directory : Location} {path : Path}
    {contents : ByteArray} {error : FileError}
    (fails : tree.write directory path contents = (after, .error error)) :
    after.Same tree ↔ path.directory.check = .ok () →
      tree.Complete (start directory path) path.steps.dropLast := by
  have left := write_error_eq fails
  cases checked : path.directory.check with
  | error refused =>
    rw [checked] at left
    subst left
    exact iff_of_true (fun _ => rfl) fun impossible => nomatch impossible
  | ok _ =>
    rw [checked] at left
    dsimp only at left
    subst left
    constructor
    · intro same _ ahead place onWay nonempty walks missing
      have listed : ahead <+: path.steps.dropLast.reverse.reverse := by rwa [List.reverse_reverse]
      have made := find?_provideDirectories listed nonempty walks missing
      rw [same place, missing] at made
      cases made
    · intro complete location
      rw [provideDirectories_of_complete (by rw [List.reverse_reverse]; exact complete rfl)]

/-- What is left when a file could not be put where a path leads. -/
structure Abandoned (directory : Location) (path : Path) (before after : FileTree) : Prop where
  files : SameFiles before after
  /-- All that is new are directories on the way. -/
  gains : ∀ location,
    Gains (places (start directory path) path.steps.dropLast) before after location
  /-- Nothing is new if the way is refused as a whole or has no gap, and only then. -/
  same : after.Same before ↔ path.directory.check = .ok () →
    before.Complete (start directory path) path.steps.dropLast

end FileTree

namespace Manifest

open FileTree

/-- A manifest that cannot be written leaves all files as they were, and all directories too unless
it came to a place on the way where nothing was. -/
theorem left_of_failure {tree after : FileTree} {directory : Location} {path : String}
    {format : ManifestFormat} {document : Json} {error : CompileError}
    (fails : writeAt tree directory path format document = (after, .error error)) :
    Abandoned directory (Path.ofText path) tree after := by
  obtain ⟨cause, failsToo⟩ := writeAt_error fails
  have gains := write_error failsToo
  exact ⟨sameFiles_of_gains gains, gains, same_of_write_error_iff failsToo⟩

/-- A directory with a file in it. -/
def drawer : FileTree :=
  (FileTree.empty.put ["a"] .directory).put ["a", "old.json"] (.file "kept".toUTF8)

/-- One directory is made on the way and left, and it is all that is new. -/
theorem left_of_failure_drawer : ∃ after,
    writeAt drawer [] "a/new/../old.json/" .json (.object []) =
      (after, .error (.file .notDirectory)) ∧
    Abandoned [] (Path.ofText "a/new/../old.json/") drawer after ∧ ¬ after.Same drawer := by
  have failed : (writeAt drawer [] "a/new/../old.json/" .json (.object [])).2 =
      .error (.file .notDirectory) := by decide +kernel
  have there : ((writeAt drawer [] "a/new/../old.json/" .json (.object [])).1.find?
      ["a", "new"]).isSome := by decide +kernel
  have missing : (drawer.find? ["a", "new"]).isSome = false := by decide +kernel
  cases fails : writeAt drawer [] "a/new/../old.json/" .json (.object []) with
  | mk after result =>
    rw [fails] at failed there
    obtain rfl : result = .error (.file .notDirectory) := failed
    refine ⟨after, rfl, left_of_failure fails, fun same => ?_⟩
    rw [same, missing] at there
    cases there

/-- A path that ends like one of a directory is refused in the end, but the directory around it is
there then. -/
theorem abandoned_directory : ∃ after,
    writeAt FileTree.empty [] "made/out.json/" .json (.object [("kind", .string "Workflow")]) =
      (after, .error (.file .notDirectory)) ∧
    FileTree.empty.find? ["made"] = none ∧ (after.find? ["made"]).any (·.same .directory) ∧
    ¬ after.Same FileTree.empty := by
  have failed : (writeAt FileTree.empty [] "made/out.json/" .json
      (.object [("kind", .string "Workflow")])).2 = .error (.file .notDirectory) := by
    decide +kernel
  have there : ((writeAt FileTree.empty [] "made/out.json/" .json
      (.object [("kind", .string "Workflow")])).1.find? ["made"]).any (·.same .directory) := by
    decide +kernel
  cases fails : writeAt FileTree.empty [] "made/out.json/" .json
      (.object [("kind", .string "Workflow")]) with
  | mk after result =>
    rw [fails] at failed there
    obtain rfl : result = .error (.file .notDirectory) := failed
    refine ⟨after, rfl, rfl, there, fun same => ?_⟩
    rw [same] at there
    cases there

end Manifest

end PipelineManifest

import PipelineManifest.Proofs.Files.Writing
import PipelineManifest.Proofs.Manifest.Agreement

/-!
# Manifests in files

A backend writes its manifest to a file of the scratch directory, and the compilation writes the
document that it reads there to another one. What is read of either file comes down to what is read
of its text.

Results:
1. `reread_eq_ok`: what a backend has written is read as the format of its file reads the text.
2. `writeAt_error`, `writeAt_ok`: the writing of a manifest is the writing of its text.
3. `readAt_writeAt`: the path that a manifest was written by is read as its format reads the text.
-/

namespace PipelineManifest

open FileTree

theorem ManifestFormat.read_toUTF8 (format : ManifestFormat) (text : String) :
    format.read text.toUTF8 = format.readText text := by
  have decoded : String.fromUTF8? text.toUTF8 = some text := dif_pos text.isValidUTF8
  rw [read, decoded]
  rfl

namespace Manifest

theorem readAt_of_entryAt {tree : FileTree} {directory : Location} {path : String}
    {format : ManifestFormat} {text : String} {document : Json}
    (formatted : ManifestFormat.ofPath path = .ok format)
    (there : tree.entryAt directory (Path.ofText path) = .ok (.file text.toUTF8))
    (reads : format.readText text = some document) :
    readAt tree directory path = .ok document := by
  rw [readAt, formatted, there]
  simp only [Sequence.ok_bind, format.read_toUTF8, reads]
  rfl

/-! ## The file of a backend -/

theorem scratch_targets (file : String)
    (leads : (Path.ofText (scratchPath file)).check = .ok () ∧
      (Path.ofText (scratchPath file)).fileName?.isSome ∧
      (Path.ofText (scratchPath file)).ending = .bare ∧
      scratchTree.walk (start scratchDirectory (Path.ofText (scratchPath file)))
        (Path.ofText (scratchPath file)).steps = .ok (scratchDirectory ++ [file]) ∧
      (scratchTree.find? (scratchDirectory ++ [file])).isNone) :
    scratchTree.Targets scratchDirectory (Path.ofText (scratchPath file))
      (scratchDirectory ++ [file]) := by
  obtain ⟨check, named, ending, walk, free⟩ := leads
  exact ⟨check, named, ending, walk, by simp [Option.isNone_iff_eq_none.1 free]⟩

theorem reread_eq_ok (format : ManifestFormat) {file : String} {target : Location} {text : String}
    {document : Json}
    (targets : scratchTree.Targets scratchDirectory (Path.ofText (scratchPath file)) target)
    (formatted : ManifestFormat.ofPath (scratchPath file) = .ok format)
    (reads : format.readText text = some document) :
    reread file (some text.toUTF8) = .ok document := by
  unfold reread
  dsimp only
  -- nothing depends on which files these are, and left as they are they would be evaluated
  generalize scratchTree = tree at targets ⊢
  generalize scratchDirectory = directory at targets ⊢
  generalize scratchPath file = path at targets formatted ⊢
  rw [overwrite_of_targets targets]
  exact readAt_of_entryAt formatted (entryAt_put targets _) reads

/-! ## The file of a compilation -/

theorem writeAt_error {tree after : FileTree} {directory : Location} {path : String}
    {format : ManifestFormat} {document : Json} {error : CompileError}
    (fails : writeAt tree directory path format document = (after, .error error)) :
    ∃ cause, tree.write directory (Path.ofText path) (format.write document).toUTF8 =
      (after, .error cause) := by
  unfold writeAt at fails
  split at fails
  · cases fails
  next cause written =>
    cases fails
    exact ⟨cause, written⟩

theorem writeAt_ok {tree after : FileTree} {directory : Location} {path : String}
    {format : ManifestFormat} {document : Json}
    (succeeds : writeAt tree directory path format document = (after, .ok ())) :
    tree.write directory (Path.ofText path) (format.write document).toUTF8 = (after, .ok ()) := by
  unfold writeAt at succeeds
  split at succeeds
  next written =>
    cases succeeds
    exact written
  · cases succeeds

theorem readAt_writeAt {tree after : FileTree} {directory : Location} {path : String}
    {format : ManifestFormat} {document seen : Json}
    (formatted : ManifestFormat.ofPath path = .ok format)
    (succeeds : writeAt tree directory path format document = (after, .ok ()))
    (reads : format.readText (format.write document) = some seen) :
    readAt after directory path = .ok seen := by
  obtain ⟨_, written⟩ := write_ok (writeAt_ok succeeds)
  exact readAt_of_entryAt formatted (read_eq_ok_iff.1 written.read) reads

end Manifest

end PipelineManifest

import SchemaOutline.Proofs.Files.Tree
import SchemaOutline.Proofs.Panel.History

/-!
# A panel in a tree of files

Files of ids come and go while a panel is open: a deployment writes them, and they may be deleted
again. A refresh picks up what has been written to a file of the panel and forgets what was in one
that has been deleted. What happens to a file that no path of the panel leads to makes no
difference.

* `Panel.refresh_congr` — a refresh looks at the paths of the panel only.
* `Panel.refresh_overwrite` — a refresh after a file has been written over.
* `Panel.refresh_delete` — a refresh after a file has been deleted.
* `Panel.HoldsIds.write` — files of ids are kept where others are written.
-/

namespace SchemaOutline.Panel

variable {files files' : Files} {path : String}

/-! ## Paths of a panel -/

/-- Ids are the same where the same bytes are read. -/
theorem readIds_congr (same : ∀ bytes, files path = .ok bytes ↔ files' path = .ok bytes) :
    readIds files path = readIds files' path := by
  refine Option.ext fun ids => ?_
  rw [readIds_eq_some_iff, readIds_eq_some_iff]
  unfold HoldsIds
  simp only [Files.text_eq_ok_iff, same]

/-- **A refresh looks at the paths of the panel only.** -/
theorem refresh_congr (p : Panel)
    (same : ∀ path ∈ p.paths, ∀ bytes, files path = .ok bytes ↔ files' path = .ok bytes) :
    p.refresh files = p.refresh files' := by
  have interface := readIds_congr (same p.interfacePath (List.mem_append_right _ (by simp)))
  unfold refresh
  rw [interface]
  cases known : p.canisterPath with
  | none => rfl
  | some path =>
      have own := readIds_congr (same path (List.mem_append_left _ (by simp [known])))
      dsimp only
      rw [own]

/-- A refresh takes the ids of each file of the panel for what they are now. -/
theorem ids_refresh (p : Panel) {ids : Option Json} (read : readIds files path = ids) :
    (p.canisterPath = some path → (p.refresh files).canisterIds = ids) ∧
      (p.interfacePath = path → (p.refresh files).interfaceIds = ids) := by
  unfold refresh
  constructor
  · intro own
    rw [own]
    exact read
  · rintro rfl
    exact read

/-! ## Changes -/

section Changes

variable (p : Panel) {tree after : FileTree}

/-- **A refresh picks up what was written** to a file of the panel, and nothing else. -/
theorem refresh_overwrite {text : String}
    (written : tree.overwrite? path text.toUTF8 = .ok after) :
    (p.canisterPath = some path →
      (p.refresh after.view).canisterIds = (Json.parse text).toOption) ∧
    (p.interfacePath = path →
      (p.refresh after.view).interfaceIds = (Json.parse text).toOption) ∧
    ((∀ other ∈ p.paths, after.find other ≠ after.find path) →
      p.refresh after.view = p.refresh tree.view) := by
  obtain ⟨read, place, found, same⟩ := FileTree.view_overwrite? written
  have ids : readIds after.view path = (Json.parse text).toOption := by
    unfold readIds
    rw [Files.text_of_toUTF8 read]
    rfl
  obtain ⟨own, interface⟩ := ids_refresh p ids
  refine ⟨own, interface, fun apart => refresh_congr p fun other mem bytes => ?_⟩
  refine same.view_eq_ok_iff fun leads => apart other mem ?_
  rw [found, same.find_eq_ok_iff.mp leads]

/-- **A refresh forgets what was deleted**, and nothing else. -/
theorem refresh_delete (tree : FileTree) (path : String) :
    (p.canisterPath = some path → (p.refresh (tree.delete path).view).canisterIds = none) ∧
    (p.interfacePath = path → (p.refresh (tree.delete path).view).interfaceIds = none) ∧
    ((∀ other ∈ p.paths, tree.find other ≠ tree.find path) →
      p.refresh (tree.delete path).view = p.refresh tree.view) := by
  obtain ⟨gone, same⟩ := FileTree.view_delete tree path
  have ids : readIds (tree.delete path).view path = none := by
    rw [Option.eq_none_iff_forall_ne_some]
    intro ids holds
    obtain ⟨text, read, -⟩ := readIds_eq_some_iff.mp holds
    obtain ⟨bytes, there, -⟩ := Files.text_eq_ok_iff.mp read
    exact gone bytes there
  obtain ⟨own, interface⟩ := ids_refresh p ids
  exact ⟨own, interface, fun apart =>
    refresh_congr p fun other mem => same other (apart other mem)⟩

end Changes

section Write

variable {tree : FileTree} {ids : Json}

/-- A file of ids stays one where all that is read stays. -/
theorem HoldsIds.mono (holds : HoldsIds files path ids)
    (kept : ∀ bytes, files path = .ok bytes → files' path = .ok bytes) :
    HoldsIds files' path ids := by
  obtain ⟨text, read, parsed⟩ := holds
  obtain ⟨bytes, there, isText⟩ := Files.text_eq_ok_iff.mp read
  exact ⟨text, Files.text_eq_ok_iff.mpr ⟨bytes, kept bytes there, isText⟩, parsed⟩

/-- **Files of ids are kept where others are written**, with the directories on the way. -/
theorem HoldsIds.write (holds : HoldsIds tree.view path ids) {other : String} (bytes : ByteArray)
    (apart : (tree.write other bytes).find path ≠ (tree.write other bytes).find other) :
    HoldsIds (tree.write other bytes).view path ids :=
  holds.mono fun _ read => FileTree.view_write read apart

theorem HoldsIds.makeDirectory (holds : HoldsIds tree.view path ids) (directory : String) :
    HoldsIds (tree.makeDirectory directory).view path ids :=
  holds.mono fun _ read => FileTree.view_makeDirectory read directory

end Write

end SchemaOutline.Panel

import Mathlib
import SchemaOutline.Files.Tree
import SchemaOutline.Proofs.Schema.Reference

/-!
# Reading after a change of the files

A path is followed from directory to directory. So two trees with the same directories lead every
path to the same place, and if they differ at one place only, every path that leads elsewhere reads
the same in both. Writing a file over another one and deleting one are changes of this kind. Making
directories can only let more paths lead somewhere.

* `Files.text_eq_ok_iff`, `Files.isFile_iff` — what is read of a view.
* `FileTree.find_of_directories` — more directories lead no path astray.
* `FileTree.DiffersAt` — two trees that differ in what file stands at one place, if any.
* `FileTree.DiffersAt.view_eq_ok_iff`, `FileTree.DiffersAt.absent_iff` — what is read elsewhere.
* `FileTree.view_overwrite?`, `FileTree.view_delete`, `FileTree.view_makeDirectory`,
  `FileTree.view_write` — what is read after each change.
-/

namespace SchemaOutline

/-! ## Views -/

namespace Files

/-- A text is read where its bytes are. -/
theorem text_eq_ok_iff {files : Files} {path text : String} :
    files.text path = .ok text ↔
      ∃ bytes, files path = .ok bytes ∧ String.fromUTF8? bytes = some text := by
  unfold Files.text
  cases files path with
  | error fault => simp
  | ok bytes =>
      simp only [Except.ok.injEq, exists_eq_left']
      split <;> simp_all

theorem isFile_iff {files : Files} {path : String} :
    files.isFile path ↔ ∃ bytes, files path = .ok bytes := by
  unfold isFile
  cases files path <;> simp [Except.isOk, Except.toBool]

theorem isFile_congr {files files' : Files} {path : String}
    (same : ∀ bytes, files path = .ok bytes ↔ files' path = .ok bytes) :
    files.isFile path = files'.isFile path := by
  rw [Bool.eq_iff_iff, isFile_iff, isFile_iff]
  exact exists_congr same

end Files

namespace FileTree

/-! ## Places -/

theorem lookup_filter (place here : List String)
    (entries : List (List String × Option ByteArray)) :
    (entries.filter (·.1 ≠ place)).lookup here =
      if here = place then none else entries.lookup here := by
  induction entries with
  | nil => exact (ite_self none).symm
  | cons entry rest ih =>
      obtain ⟨first, content⟩ := entry
      by_cases own : first = place
      · subst own
        rw [List.filter_cons_of_neg (by simp), ih]
        by_cases same : here = first
        · rw [if_pos same, if_pos same]
        · rw [if_neg same, if_neg same, List.lookup_cons, beq_false_of_ne same]
      · rw [List.filter_cons_of_pos (by simpa using own), List.lookup_cons, List.lookup_cons, ih]
        by_cases same : here = first
        · subst same
          simp [own]
        · rw [beq_false_of_ne same]

/-- What is put at a place stands there, and everything else stays. -/
theorem at?_put {tree : FileTree} {place : List String} (inside : ¬ place.all (· == ".."))
    (content : Option ByteArray) (here : List String) :
    (tree.put place content).at? here = if here = place then some content else tree.at? here := by
  unfold at? put
  by_cases own : here = place
  · subst own
    rw [if_neg inside, if_pos rfl, List.lookup_cons_self]
  · rw [if_neg own, List.lookup_cons, beq_false_of_ne own, lookup_filter, if_neg own]

/-- The directories above the topmost one are always there. -/
theorem not_all_of_at?_ne {tree : FileTree} {place : List String}
    (noDirectory : tree.at? place ≠ some none) : ¬ place.all (· == "..") :=
  fun above => noDirectory (if_pos above)

/-! ## Following a path -/

/-- A path leads nowhere in any tree, or it is followed segment by segment. -/
theorem find_cases (path : String) :
    (∃ fault, ∀ tree : FileTree, tree.find path = .error fault) ∨
      ∀ tree : FileTree, tree.find path = tree.locate [] (segments path) := by
  unfold find
  by_cases bad : path.toList.contains (Char.ofNat 0)
  · exact .inl ⟨_, fun tree => if_pos bad⟩
  by_cases empty : path.isEmpty
  · exact .inl ⟨_, fun tree => by rw [if_neg bad, if_pos empty]⟩
  by_cases absolute : path.toList.head? = some '/'
  · refine .inl ⟨if path.toList.all (· == '/') then .directory else .missing, fun tree => ?_⟩
    rw [if_neg bad, if_neg empty, if_pos absolute]
    split_ifs <;> rfl
  · exact .inr fun tree => by rw [if_neg bad, if_neg empty, if_neg absolute]

section Directories

variable {tree changed : FileTree}
  (directories : ∀ here, tree.at? here = some none → changed.at? here = some none)

include directories

theorem locate_of_directories {way here place : List String}
    (found : tree.locate here way = .ok place) : changed.locate here way = .ok place := by
  induction way generalizing here with
  | nil => exact found
  | cons segment rest ih =>
      unfold locate at found ⊢
      cases there : tree.at? here with
      | none =>
          rw [there] at found
          cases found
      | some content =>
          rw [there] at found
          cases content with
          | some bytes => cases found
          | none =>
              rw [directories here there]
              dsimp only at found ⊢
              split_ifs at found ⊢ <;> exact ih found

/-- **More directories lead no path astray.** -/
theorem find_of_directories {path : String} {place : List String}
    (found : tree.find path = .ok place) : changed.find path = .ok place := by
  obtain ⟨fault, never⟩ | followed := find_cases path
  · rw [never tree] at found
    cases found
  · rw [followed] at found ⊢
    exact locate_of_directories directories found

end Directories

/-- A way ends in nothing or at a file if it ends before its last segment. -/
theorem locate_eq_error {tree : FileTree} {way here : List String} {fault : FileFault}
    (lost : tree.locate here way = .error fault) : fault = .missing ∨ fault = .notDirectory := by
  induction way generalizing here with
  | nil => cases lost
  | cons segment rest ih =>
      unfold locate at lost
      cases there : tree.at? here with
      | none =>
          rw [there] at lost
          cases lost
          exact .inl rfl
      | some content =>
          rw [there] at lost
          cases content with
          | some bytes =>
              cases lost
              exact .inr rfl
          | none =>
              dsimp only at lost
              split_ifs at lost <;> exact ih lost

theorem locate_append (tree : FileTree) (here first second : List String) :
    tree.locate here (first ++ second) = (tree.locate here first).bind (tree.locate · second) := by
  induction first generalizing here with
  | nil => rfl
  | cons segment rest ih =>
      rw [List.cons_append, locate, locate]
      cases tree.at? here with
      | none => rfl
      | some content =>
          cases content with
          | some bytes => rfl
          | none =>
              dsimp only
              split_ifs <;> exact ih _

/-- A file is read where the path leads to it. -/
theorem view_eq_ok_iff {tree : FileTree} {path : String} {bytes : ByteArray} :
    tree.view path = .ok bytes ↔
      ∃ place, tree.find path = .ok place ∧ tree.at? place = some (some bytes) := by
  unfold view
  cases tree.find path with
  | error fault => simp
  | ok place =>
      dsimp only
      cases there : tree.at? place with
      | none => simp [there]
      | some content => cases content <;> simp [there]

/-! ## A change at one place -/

/-- **Two trees that differ at one place only**, and have no directory there. -/
structure DiffersAt (place : List String) (tree changed : FileTree) : Prop where
  elsewhere : ∀ here, here ≠ place → changed.at? here = tree.at? here
  before : tree.at? place ≠ some none
  after : changed.at? place ≠ some none

/-- There is nothing to read at a path: it leads nowhere, or through a file. -/
def Absent (read : Except FileFault ByteArray) : Prop :=
  read = .error .missing ∨ read = .error .notDirectory

/-- A path that leads nowhere in two trees does so for reasons of one kind. -/
theorem absent_iff_of_find {tree changed : FileTree} {path : String} {fault fault' : FileFault}
    (lost : tree.find path = .error fault) (lost' : changed.find path = .error fault') :
    Absent (.error fault) ↔ Absent (.error fault') := by
  obtain ⟨always, never⟩ | followed := find_cases path
  · rw [never] at lost lost'
    cases lost
    cases lost'
    rfl
  · rw [followed] at lost lost'
    obtain rfl | rfl := locate_eq_error lost <;> obtain rfl | rfl := locate_eq_error lost' <;>
      simp [Absent]

namespace DiffersAt

variable {place : List String} {tree changed : FileTree} (same : DiffersAt place tree changed)

include same

theorem directory_iff (here : List String) :
    tree.at? here = some none ↔ changed.at? here = some none := by
  by_cases own : here = place
  · subst own
    exact iff_of_false same.before same.after
  · rw [same.elsewhere here own]

theorem find_eq_ok_iff {path : String} {here : List String} :
    tree.find path = .ok here ↔ changed.find path = .ok here :=
  ⟨find_of_directories fun other => (same.directory_iff other).mp,
    find_of_directories fun other => (same.directory_iff other).mpr⟩

section Elsewhere

variable {path : String} (apart : tree.find path ≠ .ok place)

include apart

theorem view_eq_ok_iff {bytes : ByteArray} :
    changed.view path = .ok bytes ↔ tree.view path = .ok bytes := by
  rw [FileTree.view_eq_ok_iff, FileTree.view_eq_ok_iff]
  refine exists_congr fun here => ?_
  rw [← same.find_eq_ok_iff]
  refine and_congr_right fun found => ?_
  have other : here ≠ place := fun own => apart (own ▸ found)
  rw [same.elsewhere here other]

theorem absent_iff : Absent (changed.view path) ↔ Absent (tree.view path) := by
  unfold view
  cases found : tree.find path with
  | ok here =>
      have other : here ≠ place := fun own => apart (own ▸ found)
      rw [same.find_eq_ok_iff.mp found]
      dsimp only
      rw [same.elsewhere here other]
  | error fault =>
      cases found' : changed.find path with
      | ok here =>
          rw [same.find_eq_ok_iff.mpr found'] at found
          cases found
      | error fault' => exact (absent_iff_of_find found found').symm

end Elsewhere

end DiffersAt

/-! ## Writing over a file -/

theorem differsAt_put {tree : FileTree} {place : List String}
    (noDirectory : tree.at? place ≠ some none) (bytes : ByteArray) :
    DiffersAt place tree (tree.put place (some bytes)) where
  elsewhere here other := by rw [at?_put (not_all_of_at?_ne noDirectory), if_neg other]
  before := noDirectory
  after := by
    rw [at?_put (not_all_of_at?_ne noDirectory), if_pos rfl]
    exact nofun

theorem segments_ne_nil (text : List Char) : Text.segments '/' text ≠ [] := by
  obtain ⟨-, parts⟩ | ⟨first, rest, -, -, parts⟩ := Text.segments_cases text
  · exact parts ▸ List.cons_ne_nil _ _
  · exact parts ▸ List.cons_ne_nil _ _

/-- A text that ends in an empty part is empty or ends in a separator. -/
theorem getLast?_of_segments {text : List Char}
    (last : (Text.segments '/' text).getLast? = some []) :
    text = [] ∨ text.getLast? = some '/' := by
  induction text with
  | nil => exact .inl rfl
  | cons c rest ih =>
      right
      rw [Text.segments] at last
      cases parts : Text.segments '/' rest with
      | nil => exact absurd parts (segments_ne_nil rest)
      | cons first others =>
          rw [parts] at last ih
          by_cases separator : c = '/'
          · rw [if_pos separator, List.getLast?_cons_cons] at last
            obtain rfl | ends := ih last
            · rw [separator]
              rfl
            · rw [List.getLast?_cons, ends]
              rfl
          · rw [if_neg separator] at last
            cases others with
            | nil => cases last
            | cons second more =>
                rw [List.getLast?_cons_cons] at last
                obtain rfl | ends := ih last
                · cases parts
                · rw [List.getLast?_cons, ends]
                  rfl

section Name

variable {path : String} (named : path.toList.getLast? ≠ some '/') (nonempty : path ≠ "")

include named nonempty

/-- A path that does not end in a slash ends in a name. -/
theorem getLast?_segments_ne : (segments path).getLast? ≠ some "" := by
  intro same
  rw [segments, List.getLast?_map] at same
  obtain ⟨part, isLast, made⟩ := Option.map_eq_some_iff.mp same
  obtain rfl : part = [] := by simpa using made
  obtain empty | slash := getLast?_of_segments isLast
  · exact nonempty (String.toList_inj.mp empty)
  · exact named slash

theorem way_eq_segments :
    ((segments path).reverse.dropWhile (· = "")).reverse = segments path := by
  have last := getLast?_segments_ne named nonempty
  rw [← List.head?_reverse] at last
  cases back : (segments path).reverse with
  | nil => exact (List.reverse_eq_nil_iff.mp back).symm
  | cons name front =>
      rw [back] at last
      rw [List.dropWhile_cons_of_neg (by simpa using last), ← back, List.reverse_reverse]

end Name

/-- **Writing over a file**: the way to its directory is there, and the file is put under its name
where no directory is. -/
theorem overwrite?_eq_ok {tree after : FileTree} {path : String} {bytes : ByteArray}
    (written : tree.overwrite? path bytes = .ok after) :
    ∃ front name here, segments path = front ++ [name] ∧ name ∉ ["", ".", ".."] ∧
      (∀ t : FileTree, t.find path = t.locate [] (segments path)) ∧
      tree.locate [] front = .ok here ∧ tree.at? here = some none ∧
      tree.at? (here ++ [name]) ≠ some none ∧ after = tree.put (here ++ [name]) (some bytes) := by
  unfold overwrite? at written
  extract_lets way isFileName at written
  split at written
  · cases written
  next good =>
  split at written
  · cases written
  next name ends =>
  split at written
  · cases written
  next relative =>
  split at written
  · cases written
  next here there =>
  split at written
  · cases written
  · cases written
  next directory =>
  split at written
  · cases written
  next plain =>
  split at written
  · cases written
  next noDirectory =>
  cases written
  simp only [Bool.or_eq_true, decide_eq_true_eq, Bool.not_eq_true', decide_eq_false_iff_not,
    not_or, not_not] at plain
  obtain ⟨⟨notHere, notAbove⟩, named⟩ := plain
  have nonempty : path ≠ "" := by
    rintro rfl
    have none : ((segments "").reverse.dropWhile (· = "")).reverse.getLast? = none := by decide
    cases none.symm.trans ends
  have whole : way = segments path := way_eq_segments named nonempty
  have notEmpty : name ≠ "" := by
    rintro rfl
    exact getLast?_segments_ne named nonempty (whole ▸ ends)
  refine ⟨way.dropLast, name, here, ?_, ?_, fun t => ?_, there, directory, noDirectory, rfl⟩
  · rw [List.dropLast_append_getLast? name ends, whole]
  · simp [notEmpty, notHere, notAbove]
  · rw [find, if_neg good, if_neg (by simpa using nonempty), if_neg relative]

/-- **A file that was written is read back**, and nothing else has changed. -/
theorem view_overwrite? {tree after : FileTree} {path : String} {bytes : ByteArray}
    (written : tree.overwrite? path bytes = .ok after) :
    after.view path = .ok bytes ∧
      ∃ place, after.find path = .ok place ∧ DiffersAt place tree after := by
  obtain ⟨front, name, here, cut, plain, followed, there, directory, noDirectory, rfl⟩ :=
    overwrite?_eq_ok written
  have same := differsAt_put noDirectory bytes
  have found : (tree.put (here ++ [name]) (some bytes)).find path = .ok (here ++ [name]) := by
    have way := locate_of_directories (fun other => (same.directory_iff other).mp) there
    simp only [List.mem_cons, List.not_mem_nil, or_false, not_or] at plain
    obtain ⟨notEmpty, notHere, notAbove⟩ := plain
    rw [followed, cut, locate_append, way]
    show locate _ here [name] = _
    rw [locate, (same.directory_iff here).mp directory]
    dsimp only
    rw [if_neg (by simp [notEmpty, notHere]), if_neg notAbove]
    rfl
  refine ⟨view_eq_ok_iff.mpr ⟨_, found, ?_⟩, _, found, same⟩
  rw [at?_put (not_all_of_at?_ne noDirectory), if_pos rfl]

/-! ## Deleting a file -/

/-- What is taken away from a place does not stand there, and everything else stays. -/
theorem at?_filter (tree : FileTree) {place : List String} (inside : ¬ place.all (· == ".."))
    (here : List String) :
    (FileTree.mk (tree.entries.filter (·.1 ≠ place))).at? here =
      if here = place then none else tree.at? here := by
  unfold at?
  rw [lookup_filter]
  by_cases own : here = place
  · subst own
    rw [if_neg inside, if_pos rfl, if_pos rfl]
  · rw [if_neg own, if_neg own]

theorem differsAt_filter {tree : FileTree} {place : List String}
    (noDirectory : tree.at? place ≠ some none) :
    DiffersAt place tree (FileTree.mk (tree.entries.filter (·.1 ≠ place))) where
  elsewhere here other := by rw [at?_filter tree (not_all_of_at?_ne noDirectory), if_neg other]
  before := noDirectory
  after := by
    rw [at?_filter tree (not_all_of_at?_ne noDirectory), if_pos rfl]
    exact nofun

/-- **A file that was deleted is not read any more**, and every path that led elsewhere reads what
it did. -/
theorem view_delete (tree : FileTree) (path : String) :
    (∀ bytes, (tree.delete path).view path ≠ .ok bytes) ∧
    ∀ other, tree.find other ≠ tree.find path → ∀ bytes,
      (tree.delete path).view other = .ok bytes ↔ tree.view other = .ok bytes := by
  unfold delete
  cases found : tree.find path with
  | error fault =>
      refine ⟨fun bytes read => ?_, fun _ _ _ => .rfl⟩
      obtain ⟨place, there, -⟩ := view_eq_ok_iff.mp read
      rw [found] at there
      cases there
  | ok here =>
      dsimp only
      split
      next content there =>
        have noDirectory : tree.at? here ≠ some none := there ▸ nofun
        have same := differsAt_filter noDirectory
        have gone := at?_filter tree (not_all_of_at?_ne noDirectory) here
        rw [if_pos rfl] at gone
        refine ⟨fun bytes read => ?_, fun other apart bytes => same.view_eq_ok_iff apart⟩
        obtain ⟨place, leads, stands⟩ := view_eq_ok_iff.mp read
        rw [← same.find_eq_ok_iff, found] at leads
        cases leads
        rw [gone] at stands
        cases stands
      next noFile =>
        refine ⟨fun bytes read => ?_, fun _ _ _ => .rfl⟩
        obtain ⟨place, leads, stands⟩ := view_eq_ok_iff.mp read
        rw [found] at leads
        cases leads
        exact noFile bytes stands

/-! ## Making directories -/

theorem at?_makeWay {tree : FileTree} {place way here : List String} {content : Option ByteArray}
    (there : tree.at? place = some content) :
    (tree.makeWay here way).at? place = some content := by
  induction way generalizing tree here with
  | nil => exact there
  | cons segment rest ih =>
      unfold makeWay
      by_cases up : segment = ".."
      · rw [if_pos up]
        exact ih there
      · rw [if_neg up]
        dsimp only
        split
        next nothing =>
          have other : place ≠ here ++ [segment] := by
            rintro rfl
            rw [nothing] at there
            cases there
          have noDirectory : tree.at? (here ++ [segment]) ≠ some none := nothing ▸ nofun
          refine ih ?_
          rw [at?_put (not_all_of_at?_ne noDirectory), if_neg other]
          exact there
        next => exact ih there
        next => exact there

/-- Every file that is read is still read after directories have been made. -/
theorem view_makeWay {tree : FileTree} {path : String} {bytes : ByteArray}
    (read : tree.view path = .ok bytes) (here way : List String) :
    (tree.makeWay here way).view path = .ok bytes := by
  obtain ⟨place, found, there⟩ := view_eq_ok_iff.mp read
  exact view_eq_ok_iff.mpr
    ⟨place, find_of_directories (fun _ directory => at?_makeWay directory) found, at?_makeWay there⟩

theorem view_makeDirectory {tree : FileTree} {path : String} {bytes : ByteArray}
    (read : tree.view path = .ok bytes) (directory : String) :
    (tree.makeDirectory directory).view path = .ok bytes :=
  view_makeWay read [] (plainSegments directory)

/-- **Writing a file**, with the directories on the way, leaves all others as they are. -/
theorem view_write {tree : FileTree} {path other : String} {bytes content : ByteArray}
    (read : tree.view other = .ok bytes)
    (apart : (tree.write path content).find other ≠ (tree.write path content).find path) :
    (tree.write path content).view other = .ok bytes := by
  have kept := view_makeWay read [] (plainSegments path).dropLast
  unfold write at apart ⊢
  dsimp only at apart ⊢
  cases written : (tree.makeWay [] (plainSegments path).dropLast).overwrite? path content with
  | error fault => exact kept
  | ok after =>
      rw [written] at apart
      dsimp only at apart ⊢
      obtain ⟨-, place, found, same⟩ := view_overwrite? written
      rw [found] at apart
      exact (same.view_eq_ok_iff fun there => apart (same.find_eq_ok_iff.mp there)).mpr kept

end FileTree

end SchemaOutline

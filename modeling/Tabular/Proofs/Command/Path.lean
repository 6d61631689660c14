import Tabular.Command.Directory
import Tabular.Proofs.Outcome

/-!
What a path leads to. It is followed name by name from one folder to another, and its last name is
that of a file, present or not; to write a file changes no other file and no way.
-/

namespace Tabular.Directory

/-- A name that a file or a folder may have. -/
structure IsName (name : String) : Prop where
  not_here : name ≠ "."
  not_above : name ≠ ".."
  size : name.utf8ByteSize ≤ maxNameSize

/-- There is no file of that name, but one below it. -/
structure IsFolder (directory : Directory) (there : List String) : Prop where
  no_file : directory.content? there = none
  file_below : ∃ file ∈ directory.files, there <+: file.1 ∧ file.1 ≠ there

/-- What is found under a name in a folder. -/
inductive Finds (directory : Directory) (folder : List String) : String → Target → Prop where
  | here : Finds directory folder "." (.folder folder)
  | above : Finds directory folder ".." (.folder (above folder))
  | file {name : String} {content : ByteArray} (isName : IsName name)
      (content_eq : directory.content? (folder ++ [name]) = some content) :
      Finds directory folder name (.file (folder ++ [name]) content)
  | folder {name : String} (isName : IsName name)
      (isFolder : directory.IsFolder (folder ++ [name])) :
      Finds directory folder name (.folder (folder ++ [name]))
  | missing {name : String} (isName : IsName name)
      (no_file : directory.content? (folder ++ [name]) = none)
      (no_folder : ¬ directory.IsFolder (folder ++ [name])) :
      Finds directory folder name (.missing (folder ++ [name]))

/-- The names lead from a folder to another, from each to the next. -/
inductive Walks (directory : Directory) : List String → List String → List String → Prop where
  | done {folder : List String} : Walks directory folder [] folder
  | step {folder next there : List String} {name : String} {names : List String}
      (first : directory.Finds folder name (.folder next))
      (rest : Walks directory next names there) : Walks directory folder (name :: names) there

/-- The folder in which a path begins: the root, or the directory itself. -/
def origin (path : String) : List String :=
  if path.toList.head? = some '/' then ["/"] else []

/-- The path leads to a folder, and in it to the place of a file of that name. -/
structure Leads (directory : Directory) (path : String) (name : List String) : Prop where
  size : path.utf8ByteSize ≤ maxPathSize
  means_file : meansFolder path = false
  way : ∃ folder, directory.Walks (origin path) (names path).dropLast folder ∧
    name = folder ++ [lastName path]
  last : IsName (lastName path)

variable {directory after : Directory} {folder there name : List String} {path last : String}
  {content : ByteArray} {target : Target} {reason : PathError}

theorem isFolder_iff :
    directory.IsFolder there ↔
      directory.content? there = none ∧ directory.hasFolder there = true := by
  have hBelow : directory.hasFolder there = true ↔
      ∃ file ∈ directory.files, there <+: file.1 ∧ file.1 ≠ there := by simp [hasFolder]
  rw [hBelow]
  exact ⟨fun h => ⟨h.no_file, h.file_below⟩, fun h => ⟨h.1, h.2⟩⟩

theorem lookup_of_isName (h : IsName last) :
    directory.lookup folder last = .ok (match directory.content? (folder ++ [last]) with
      | some content => .file (folder ++ [last]) content
      | none =>
          if directory.hasFolder (folder ++ [last]) then .folder (folder ++ [last])
          else .missing (folder ++ [last])) := by
  have hSize : ¬ maxNameSize < last.utf8ByteSize := Nat.not_lt.mpr h.size
  simp only [lookup, if_neg h.not_here, if_neg h.not_above, if_neg hSize]
  cases directory.content? (folder ++ [last]) <;> rfl

theorem finds_of_lookup (h : directory.lookup folder last = .ok target) :
    directory.Finds folder last target := by
  by_cases hHere : last = "."
  · subst hHere
    obtain rfl : .folder folder = target := by simpa [lookup] using h
    exact .here
  by_cases hAbove : last = ".."
  · subst hAbove
    obtain rfl : .folder (above folder) = target := by simpa [lookup] using h
    exact .above
  by_cases hLong : maxNameSize < last.utf8ByteSize
  · simp [lookup, hHere, hAbove, hLong] at h
  have hName : IsName last := ⟨hHere, hAbove, Nat.not_lt.mp hLong⟩
  rw [lookup_of_isName hName] at h
  obtain rfl := Except.ok.inj h
  cases hContent : directory.content? (folder ++ [last]) with
  | some content => exact .file hName hContent
  | none =>
      by_cases hFolder : directory.hasFolder (folder ++ [last]) = true
      · simp only [hFolder, if_true]
        exact .folder hName (isFolder_iff.mpr ⟨hContent, hFolder⟩)
      · simp only [if_neg hFolder]
        exact .missing hName hContent fun h => hFolder (isFolder_iff.mp h).2

theorem lookup_of_finds (h : directory.Finds folder last target) :
    directory.lookup folder last = .ok target := by
  cases h with
  | here => simp [lookup]
  | above => simp [lookup]
  | file hName hContent => rw [lookup_of_isName hName, hContent]
  | folder hName hFolder =>
      obtain ⟨hContent, hBelow⟩ := isFolder_iff.mp hFolder
      rw [lookup_of_isName hName, hContent, hBelow]
      rfl
  | missing hName hContent hFolder =>
      have hBelow : directory.hasFolder (folder ++ [last]) = false := by
        by_contra hSome
        exact hFolder (isFolder_iff.mpr ⟨hContent, by simpa using hSome⟩)
      rw [lookup_of_isName hName, hContent, hBelow]
      rfl

theorem lookup_eq_ok_iff :
    directory.lookup folder last = .ok target ↔ directory.Finds folder last target :=
  ⟨finds_of_lookup, lookup_of_finds⟩

theorem enter_eq_ok_iff :
    directory.enter folder last = .ok there ↔ directory.Finds folder last (.folder there) := by
  rw [enter, bind_eq_ok_iff]
  constructor
  · rintro ⟨target, hLookup, hTarget⟩
    cases target with
    | folder found =>
        obtain rfl := Except.ok.inj hTarget
        exact lookup_eq_ok_iff.mp hLookup
    | file _ _ => cases hTarget
    | missing _ => cases hTarget
  · intro h
    exact ⟨_, lookup_eq_ok_iff.mpr h, rfl⟩

theorem foldlM_enter_eq_ok_iff {names : List String} :
    names.foldlM directory.enter folder = .ok there ↔ directory.Walks folder names there := by
  induction names generalizing folder with
  | nil =>
      constructor
      · intro h
        obtain rfl := Except.ok.inj h
        exact .done
      · rintro ⟨⟩
        rfl
  | cons name names ih =>
      rw [List.foldlM_cons, bind_eq_ok_iff]
      constructor
      · rintro ⟨next, hEnter, hRest⟩
        exact .step (enter_eq_ok_iff.mp hEnter) (ih.mp hRest)
      · intro h
        cases h with
        | step hFirst hRest => exact ⟨_, enter_eq_ok_iff.mpr hFirst, ih.mpr hRest⟩

theorem folderOf_eq_ok_iff :
    directory.folderOf path = .ok folder ↔
      path.utf8ByteSize ≤ maxPathSize ∧
        directory.Walks (origin path) (names path).dropLast folder := by
  rw [← foldlM_enter_eq_ok_iff, ← Nat.not_lt, folderOf]
  split
  · next hLong => simp [hLong]
  · next hSize => simp [hSize, origin]

/-- A path leads to one place only. -/
theorem Leads.unique {other : List String} (h : directory.Leads path name)
    (hOther : directory.Leads path other) : name = other := by
  obtain ⟨folder, hWay, rfl⟩ := h.way
  obtain ⟨same, hSame, rfl⟩ := hOther.way
  have hFolder := folderOf_eq_ok_iff.mpr ⟨h.size, hWay⟩
  rw [folderOf_eq_ok_iff.mpr ⟨h.size, hSame⟩] at hFolder
  rw [Except.ok.inj hFolder]

theorem finds_file_iff :
    directory.Finds folder last (.file name content) ↔
      IsName last ∧ name = folder ++ [last] ∧ directory.content? name = some content := by
  constructor
  · intro h
    cases h with
    | file hName hContent => exact ⟨hName, rfl, hContent⟩
  · rintro ⟨hName, rfl, hContent⟩
    exact .file hName hContent

theorem finds_missing_iff :
    directory.Finds folder last (.missing name) ↔
      IsName last ∧ name = folder ++ [last] ∧ directory.content? name = none ∧
        ¬ directory.IsFolder name := by
  constructor
  · intro h
    cases h with
    | missing hName hContent hFolder => exact ⟨hName, rfl, hContent, hFolder⟩
  · rintro ⟨hName, rfl, hContent, hFolder⟩
    exact .missing hName hContent hFolder

/-- The content of a file is read if the path leads to that file. -/
theorem read_eq_ok_iff :
    directory.read path = .ok content ↔
      ∃ name, directory.Leads path name ∧ directory.content? name = some content := by
  rw [read, bind_eq_ok_iff]
  simp only [folderOf_eq_ok_iff, bind_eq_ok_iff, lookup_eq_ok_iff]
  constructor
  · rintro ⟨folder, ⟨hSize, hWay⟩, target, hFinds, hRead⟩
    cases target with
    | file name found =>
        obtain ⟨hName, hPlace, hContent⟩ := finds_file_iff.mp hFinds
        cases hFile : meansFolder path with
        | true => simp [hFile] at hRead
        | false =>
            obtain rfl : found = content := by simpa [hFile] using hRead
            exact ⟨name, ⟨hSize, hFile, ⟨folder, hWay, hPlace⟩, hName⟩, hContent⟩
    | folder _ => cases hRead
    | missing _ => cases hRead
  · rintro ⟨name, ⟨hSize, hFile, ⟨folder, hWay, hPlace⟩, hName⟩, hContent⟩
    exact ⟨folder, ⟨hSize, hWay⟩, _, finds_file_iff.mpr ⟨hName, hPlace, hContent⟩, by simp [hFile]⟩

/-- A file is written if the path leads to a place that no folder has. -/
theorem write_eq_ok_iff :
    directory.write path content = .ok after ↔
      ∃ name, directory.Leads path name ∧ ¬ directory.IsFolder name ∧
        after = directory.set name content := by
  rw [write, bind_eq_ok_iff]
  simp only [folderOf_eq_ok_iff]
  constructor
  · rintro ⟨folder, ⟨hSize, hWay⟩, hWrite⟩
    cases hFile : meansFolder path with
    | true => simp [hFile] at hWrite
    | false =>
        rw [hFile, if_neg Bool.false_ne_true, bind_eq_ok_iff] at hWrite
        obtain ⟨target, hFinds, hSet⟩ := hWrite
        rw [lookup_eq_ok_iff] at hFinds
        cases target with
        | file name found =>
            obtain ⟨hName, hPlace, hContent⟩ := finds_file_iff.mp hFinds
            refine ⟨name, ⟨hSize, hFile, ⟨folder, hWay, hPlace⟩, hName⟩, ?_,
              (Except.ok.inj hSet).symm⟩
            intro hFolder
            rw [hFolder.no_file] at hContent
            cases hContent
        | missing name =>
            obtain ⟨hName, hPlace, -, hFolder⟩ := finds_missing_iff.mp hFinds
            exact ⟨name, ⟨hSize, hFile, ⟨folder, hWay, hPlace⟩, hName⟩, hFolder,
              (Except.ok.inj hSet).symm⟩
        | folder _ => cases hSet
  · rintro ⟨name, ⟨hSize, hFile, ⟨folder, hWay, hPlace⟩, hName⟩, hFolder, rfl⟩
    refine ⟨folder, ⟨hSize, hWay⟩, ?_⟩
    rw [hFile, if_neg Bool.false_ne_true, bind_eq_ok_iff]
    simp only [lookup_eq_ok_iff]
    cases hContent : directory.content? name with
    | some found => exact ⟨_, finds_file_iff.mpr ⟨hName, hPlace, hContent⟩, rfl⟩
    | none => exact ⟨_, finds_missing_iff.mpr ⟨hName, hPlace, hContent, hFolder⟩, rfl⟩

/-- Why a path cannot be written does not depend on what would be. -/
theorem write_eq_error (h : directory.write path content = .error reason) (other : ByteArray) :
    directory.write path other = .error reason := by
  rw [write, bind_eq_error_iff] at h ⊢
  rcases h with hFolder | ⟨folder, hFolder, hWrite⟩
  · exact .inl hFolder
  refine .inr ⟨folder, hFolder, ?_⟩
  cases hFile : meansFolder path with
  | true => simpa [hFile] using hWrite
  | false =>
      rw [hFile] at hWrite
      rw [if_neg Bool.false_ne_true, bind_eq_error_iff] at hWrite ⊢
      rcases hWrite with hLookup | ⟨target, hLookup, hSet⟩
      · exact .inl hLookup
      · refine .inr ⟨target, hLookup, ?_⟩
        cases target with
        | folder _ => exact hSet
        | file _ _ => cases hSet
        | missing _ => cases hSet

/-- No name is lost when a file is written. -/
theorem exists_mem_set {file : List String × ByteArray} (h : file ∈ directory.files) :
    ∃ kept ∈ (directory.set name content).files, kept.1 = file.1 := by
  rw [set]
  split
  · refine ⟨_, List.mem_map_of_mem h, ?_⟩
    split
    · next hSame => exact hSame.symm
    · rfl
  · exact ⟨file, List.mem_append_left _ h, rfl⟩

/-- To write a file where there is no folder leaves all folders. -/
theorem IsFolder.set (h : directory.IsFolder there) (hFree : ¬ directory.IsFolder name) :
    (directory.set name content).IsFolder there := by
  have hOther : there ≠ name := by
    rintro rfl
    exact hFree h
  obtain ⟨hContent, file, hMem, hBelow, hNot⟩ := h
  obtain ⟨kept, hKept, hName⟩ := @exists_mem_set directory name content file hMem
  exact ⟨by rw [content?_set, if_neg hOther, hContent], kept, hKept, hName ▸ hBelow, hName ▸ hNot⟩

theorem Finds.set (h : directory.Finds folder last (.folder there))
    (hFree : ¬ directory.IsFolder name) :
    (directory.set name content).Finds folder last (.folder there) := by
  cases h with
  | here => exact .here
  | above => exact .above
  | folder hName hFolder => exact .folder hName (hFolder.set hFree)

theorem Walks.set {names : List String} (h : directory.Walks folder names there)
    (hFree : ¬ directory.IsFolder name) :
    (directory.set name content).Walks folder names there := by
  induction h with
  | done => exact .done
  | step hFirst _ ih => exact .step (hFirst.set hFree) ih

theorem Leads.set (h : directory.Leads path name) (hFree : ¬ directory.IsFolder name) :
    (directory.set name content).Leads path name := by
  obtain ⟨folder, hWay, hPlace⟩ := h.way
  exact { h with way := ⟨folder, hWay.set hFree, hPlace⟩ }

/-- What was written is read under the same path. -/
theorem read_of_write (h : directory.write path content = .ok after) :
    after.read path = .ok content := by
  obtain ⟨name, hLeads, hFree, rfl⟩ := write_eq_ok_iff.mp h
  exact read_eq_ok_iff.mpr ⟨name, hLeads.set hFree, by rw [content?_set, if_pos rfl]⟩

end Tabular.Directory

/-!
A directory of files, and how a relative path is followed in it.
-/

namespace Tabular

/-- Why a path cannot be read or written. -/
inductive PathError where
  | notFound
  | notDirectory
  | isDirectory
  | nameTooLong
  deriving DecidableEq, Repr

/-- The words for a failing path, as the system has them. -/
def PathError.message : PathError → String
  | notFound => "No such file or directory (os error 2)"
  | notDirectory => "Not a directory (os error 20)"
  | isDirectory => "Is a directory (os error 21)"
  | nameTooLong => "File name too long (os error 36)"

/-- The most bytes that one name may have. -/
def maxNameSize : Nat := 255

/-- The most bytes that a path may have. -/
def maxPathSize : Nat := 4095

/-- Files with their contents. Each is named by the folders on the way to it and its own name, and
no two have the same name. The way begins in the directory; it may lead out of it, one `..` for
every step up, or begin at the root, which is named `/`. -/
structure Directory where
  files : List (List String × ByteArray)

namespace Directory

/-- The names in a path: what stands between its slashes. -/
def names (path : String) : List String :=
  ((path.toList.splitOn '/').filter (!·.isEmpty)).map String.ofList

/-- The directory that holds these files. -/
def ofFiles (files : List (String × ByteArray)) : Directory :=
  ⟨files.map fun file => (names file.1, file.2)⟩

/-- The content of the file of that name. -/
def content? (directory : Directory) (name : List String) : Option ByteArray :=
  directory.files.lookup name

/-- Some file lies below that name. -/
def hasFolder (directory : Directory) (name : List String) : Bool :=
  directory.files.any fun file => name.isPrefixOf file.1 && file.1 != name

/-- The folder above a folder. Nothing is above the root. -/
def above (folder : List String) : List String :=
  match folder.getLast? with
  | none => [".."]
  | some ".." => folder ++ [".."]
  | some "/" => folder
  | some _ => folder.dropLast

/-- Where a name leads. -/
inductive Target where
  | file (name : List String) (content : ByteArray)
  | folder (name : List String)
  | missing (name : List String)

/-- Look up a name in a folder. -/
def lookup (directory : Directory) (folder : List String) (name : String) :
    Except PathError Target :=
  if name = "." then .ok (.folder folder)
  else if name = ".." then .ok (.folder (above folder))
  else if maxNameSize < name.utf8ByteSize then .error .nameTooLong
  else
    let there := folder ++ [name]
    match directory.content? there with
    | some content => .ok (.file there content)
    | none => .ok (if directory.hasFolder there then .folder there else .missing there)

/-- Enter the folder of that name in a folder. -/
def enter (directory : Directory) (folder : List String) (name : String) :
    Except PathError (List String) := do
  match ← directory.lookup folder name with
  | .folder there => .ok there
  | .file _ _ => .error .notDirectory
  | .missing _ => .error .notFound

/-- The folder in which the last name of a path stands. All names before it must lead to
folders. -/
def folderOf (directory : Directory) (path : String) : Except PathError (List String) :=
  if maxPathSize < path.utf8ByteSize then .error .nameTooLong
  else
    let start := if path.toList.head? = some '/' then ["/"] else []
    (names path).dropLast.foldlM directory.enter start

/-- The last name of a path. A path without names is the root. -/
def lastName (path : String) : String :=
  (names path).getLastD "."

/-- The path ends in a slash, so it means a directory. -/
def meansFolder (path : String) : Bool :=
  path.toList.getLast? == some '/'

/-- The content of the file that a path leads to. -/
def read (directory : Directory) (path : String) : Except PathError ByteArray := do
  let folder ← directory.folderOf path
  match ← directory.lookup folder (lastName path) with
  | .file _ content => if meansFolder path then .error .notDirectory else .ok content
  | .folder _ => .error .isDirectory
  | .missing _ => .error .notFound

/-- The directory with one file's content replaced, or with one more file. -/
def set (directory : Directory) (name : List String) (content : ByteArray) : Directory :=
  if (directory.content? name).isSome then
    ⟨directory.files.map fun file => if file.1 = name then (name, content) else file⟩
  else ⟨directory.files ++ [(name, content)]⟩

theorem lookup_map_replace {β : Type} (name other : List String) (content : β)
    (files : List (List String × β)) :
    (files.map fun file => if file.1 = name then (name, content) else file).lookup other =
      if other = name ∧ (files.lookup name).isSome then some content else files.lookup other := by
  induction files with
  | nil => simp
  | cons file files ih =>
    obtain ⟨key, value⟩ := file
    rw [List.map_cons]
    by_cases hKey : key = name
    · subst hKey
      by_cases hOther : other = key
      · simp [hOther]
      · have hNo : (other == key) = false := by simpa using hOther
        simp [List.lookup_cons, hNo, hOther, ih]
    · have hNe : (name == key) = false := by simpa using Ne.symm hKey
      by_cases hOther : other = key
      · subst hOther
        simp [List.lookup_cons, hKey]
      · have hNo : (other == key) = false := by simpa using hOther
        have hSkip (rest : List (List String × β)) :
            List.lookup other ((key, value) :: rest) = rest.lookup other := by
          rw [List.lookup_cons, hNo]
        have hPass : List.lookup name ((key, value) :: files) = files.lookup name := by
          rw [List.lookup_cons, hNe]
        rw [if_neg hKey, hSkip, hSkip, hPass, ih]

/-- Replacing or adding a file changes what is found under its name and nothing else. -/
theorem content?_set (directory : Directory) (name other : List String) (content : ByteArray) :
    (directory.set name content).content? other =
      if other = name then some content else directory.content? other := by
  unfold set
  split
  · next h =>
    have hSome : (directory.files.lookup name).isSome = true := h
    simp only [content?]
    rw [lookup_map_replace, hSome]
    simp
  · next h =>
    have hNone : directory.files.lookup name = none := by
      cases hLookup : directory.files.lookup name with
      | none => rfl
      | some found => exact absurd (by simp [content?, hLookup]) h
    by_cases hOther : other = name
    · subst hOther
      simp [content?, List.lookup_append, hNone]
    · have hNo : (other == name) = false := by simpa using hOther
      simp [content?, List.lookup_append, List.lookup_cons, hNo, hOther]

/-- Write a file, a new one if the path leads to none. A path that means a directory is refused
before its last name is looked up. -/
def write (directory : Directory) (path : String) (content : ByteArray) :
    Except PathError Directory := do
  let folder ← directory.folderOf path
  if meansFolder path then .error .isDirectory
  else
    match ← directory.lookup folder (lastName path) with
    | .file name _ => .ok (directory.set name content)
    | .folder _ => .error .isDirectory
    | .missing name => .ok (directory.set name content)

end Directory

end Tabular

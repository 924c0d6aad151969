import DeviceConsole.Settings.Files

/-!
# `Proofs.Settings.Files` — a written file is there

To write a file is to make the folders on its way and to put the file at its end. A path that can be written leads to
no folder, so the new file stands in nobody's way: the folders on the way to it stay folders, and the path leads to it.

* `makeFolders?_made` — the folders that are made, and what stays as it is;
* `walk?_of_folders` — a way through folders;
* `put?` — a tree with a file written: `entry_put` and `canWrite_put` say that it is there, and that it can be written
  again.
-/

namespace DeviceConsole.FileTree

variable {tree made after : FileTree} {ways : List (List String)} {way : List String} {path text : String}

/-! ## Folders -/

/-- What a way leads to depends on the files alone if there is one at it. -/
theorem entryAt_of_find? {file : List String × Content} (found : tree.files.find? (fun file => file.1 = way) = some file) :
    tree.entryAt way = .file file.2 := by
  rw [entryAt, found]

theorem entryAt_of_none (none : tree.files.find? (fun file => file.1 = way) = none) :
    tree.entryAt way = if way.all (· = "..") ∨ way = ["/"] ∨ way ∈ tree.folders then .folder else .missing := by
  rw [entryAt, none]

/-- More folders leave folders where they are. -/
theorem entryAt_folder_mono (tree : FileTree) {more : FileTree} (files : more.files = tree.files)
    (folders : ∀ way ∈ tree.folders, way ∈ more.folders) (folder : tree.entryAt way = .folder) :
    more.entryAt way = .folder := by
  cases found : tree.files.find? (fun file => file.1 = way) with
  | some file =>
    rw [entryAt_of_find? found] at folder
    cases folder
  | none =>
    rw [entryAt_of_none found] at folder
    rw [entryAt_of_none (files ▸ found), if_pos]
    split at folder
    · next there => exact there.imp_right (Or.imp_right (folders way))
    · cases folder

/-- The folders that are made are there, no file is touched, and folders stay folders. -/
theorem makeFolders?_made (makes : tree.makeFolders? ways = some made) :
    made.files = tree.files ∧ (∀ way ∈ tree.folders, way ∈ made.folders)
      ∧ ∀ way ∈ ways, made.entryAt way = .folder := by
  induction ways generalizing tree with
  | nil =>
    cases makes
    exact ⟨rfl, fun _ mem => mem, nofun⟩
  | cons first rest ih =>
    have noFile : ∀ content, tree.entryAt first ≠ .file content := by
      intro content isFile
      rw [makeFolders?, isFile] at makes
      cases makes
    have onwards : makeFolders? { tree with folders := first :: tree.folders } rest = some made := by
      rw [makeFolders?] at makes
      split at makes
      · cases makes
      · exact makes
    obtain ⟨files, folders, there⟩ := ih onwards
    refine ⟨files, fun way mem => folders way (List.mem_cons_of_mem first mem), ?_⟩
    rintro way (_ | ⟨_, mem⟩)
    · have found : made.files.find? (fun file => file.1 = first) = none := by
        rw [files]
        cases found : tree.files.find? (fun file => file.1 = first) with
        | some file => exact absurd (entryAt_of_find? found) (noFile file.2)
        | none => rfl
      rw [entryAt_of_none found, if_pos (.inr (.inr (folders first List.mem_cons_self)))]
    · exact there way mem

/-- Where there are folders none has to be made. -/
theorem makeFolders?_of_folders (there : ∀ way ∈ ways, tree.entryAt way = .folder) :
    ∃ again, tree.makeFolders? ways = some again ∧ again.files = tree.files := by
  induction ways generalizing tree with
  | nil => exact ⟨tree, rfl, rfl⟩
  | cons first rest ih =>
    have still : ∀ way ∈ rest, entryAt { tree with folders := first :: tree.folders } way = .folder := by
      intro way mem
      exact entryAt_folder_mono tree rfl (fun _ => List.mem_cons_of_mem first)
        (there way (List.mem_cons_of_mem first mem))
    obtain ⟨again, makes, files⟩ := ih still
    refine ⟨again, ?_, files⟩
    rw [makeFolders?, there first List.mem_cons_self]
    exact makes

/-! ## Paths -/

/-- A way through folders leads to its end. -/
theorem walk?_of_folders (front : List String) (last : String) (here : tree.entryAt way = .folder)
    (there : ∀ on ∈ waysFrom way front, tree.entryAt on = .folder) :
    tree.walk? way (front ++ [last]) = some ((front ++ [last]).foldl follow way) := by
  induction front generalizing way with
  | nil =>
    rw [List.nil_append, walk?, if_pos here]
    rfl
  | cons name rest ih =>
    rw [List.cons_append, walk?, if_pos here, List.foldl_cons]
    exact ih (there _ List.mem_cons_self) fun on mem => there on (List.mem_cons_of_mem _ mem)

/-- A path to a file has a name in it. -/
theorem names_ne_nil (file : wantsFolder path = false) : names path ≠ [] := by
  intro none
  have blank : ∀ name ∈ segments path, name = "" ∨ name = "." := by
    intro name mem
    have filtered := (List.append_eq_nil_iff.mp none).2
    have dropped := List.filter_eq_nil_iff.mp filtered name mem
    by_cases empty : name = ""
    · exact .inl empty
    · exact .inr (by simpa [empty] using dropped)
  have some_segment : segments path ≠ [] := mt List.map_eq_nil_iff.mp (List.splitOn_ne_nil '/' path.toList)
  rw [wantsFolder, List.getLast?_eq_some_getLast some_segment] at file
  rcases blank _ (List.getLast_mem some_segment) with last | last
  · rw [last] at file
    cases file
  · rw [last] at file
    cases file

/-! ## Written files -/

/-- The way that a path leads to through folders. -/
def goal (path : String) : List String := (names path).foldl follow []

/-- The tree with a file at a way. -/
def withFile (tree : FileTree) (way : List String) (text : String) : FileTree :=
  { tree with files := (way, .text text) :: tree.files }

/-- The tree with a text written at a path; the folders on its way are made. -/
def put? (tree : FileTree) (path text : String) : Option FileTree :=
  if tree.canWrite path then
    (tree.makeFolders? (waysFrom [] (names path).dropLast)).map fun made => made.withFile (goal path) text
  else none

theorem entryAt_withFile_self (tree : FileTree) (way : List String) (text : String) :
    (tree.withFile way text).entryAt way = .file (.text text) := by
  have found : (tree.withFile way text).files.find? (fun file => file.1 = way) = some (way, .text text) := by
    rw [withFile, List.find?_cons_of_pos]
    simp
  exact entryAt_of_find? found

theorem entryAt_withFile_of_ne {other : List String} (differ : way ≠ other) (text : String) :
    (tree.withFile way text).entryAt other = tree.entryAt other := by
  rw [entryAt, entryAt, withFile, List.find?_cons_of_neg (by simpa using differ)]

/-- What can be written: the folders on the way can be made, and then the path leads to none. -/
theorem canWrite_iff :
    tree.canWrite path = true ↔ isUsable path = true ∧ wantsFolder path = false
      ∧ ∃ made, tree.makeFolders? (waysFrom [] (names path).dropLast) = some made ∧ made.entryAt (goal path) ≠ .folder := by
  rw [canWrite, Bool.and_eq_true, Bool.and_eq_true, Bool.not_eq_true', and_assoc, Option.any_eq_true]
  simp [goal]

/-- **A written file is there**, if the folder at hand is one. -/
theorem entry_put (atHand : tree.entryAt [] = .folder) (puts : tree.put? path text = some after) :
    after.entry path = .file (.text text) ∧ after.canWrite path = true := by
  rw [put?] at puts
  obtain ⟨writable, puts⟩ := Option.ite_none_right_eq_some.mp puts
  obtain ⟨usable, file, made, makes, noFolder⟩ := canWrite_iff.mp writable
  rw [makes] at puts
  obtain rfl := Option.some.inj puts
  obtain ⟨files, folders, there⟩ := makeFolders?_made makes
  have folder : ∀ way, made.entryAt way = .folder → (made.withFile (goal path) text).entryAt way = .folder := by
    intro way isFolder
    have differ : goal path ≠ way := by
      rintro rfl
      exact noFolder isFolder
    rw [entryAt_withFile_of_ne differ, isFolder]
  have here := folder [] (entryAt_folder_mono tree files folders atHand)
  have onTheWay : ∀ way ∈ waysFrom [] (names path).dropLast, (made.withFile (goal path) text).entryAt way = .folder :=
    fun way mem => folder way (there way mem)
  constructor
  · have walked := walk?_of_folders (names path).dropLast ((names path).getLast (names_ne_nil file)) here onTheWay
    rw [List.dropLast_concat_getLast] at walked
    have leads : ((made.withFile (goal path) text).walk? [] (names path)).map (made.withFile (goal path) text).entryAt
        = some (.file (.text text)) := by
      rw [walked, Option.map_some, ← goal, entryAt_withFile_self]
    rw [entry, usable, leads]
    show (if wantsFolder path then Entry.missing else _) = _
    rw [file]
    rfl
  · obtain ⟨again, makesAgain, sameFiles⟩ := makeFolders?_of_folders onTheWay
    refine canWrite_iff.mpr ⟨usable, file, again, makesAgain, ?_⟩
    have found : again.files.find? (fun file => file.1 = goal path) = some (goal path, .text text) := by
      rw [sameFiles, withFile, List.find?_cons_of_pos]
      simp
    rw [entryAt_of_find? found]
    exact nofun

end DeviceConsole.FileTree

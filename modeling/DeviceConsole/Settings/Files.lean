import DeviceConsole.Settings.Reader
import DeviceConsole.Settings.Writer

/-!
# `Settings.Files` — settings files

Files are seen as a tree: a path leads to a file, to a folder or to nothing. A settings file that is named has
to exist; the user's own one counts if it exists.

## Contents

* `Content`, `Entry`, `FileTree` — files and folders;
* `segments`, `names`, `follow`, `isUsable` — the names of a path, and the way that they lead;
* `FileTree.ofPaths` — the tree of some files;
* `FileTree.entry` — what a path leads to;
* `FileTree.canWrite` — whether a file can be written, folders on its way being made;
* `Settings.load`, `Settings.find`, `Settings.save` — reading and writing settings files.
-/

namespace DeviceConsole

namespace FileTree

/-! ## Paths -/

/-- What stands between the slashes of a path. -/
def segments (path : String) : List String := (path.toList.splitOn '/').map String.ofList

/-- The names of a path; the root of all folders is a name of its own. -/
def names (path : String) : List String :=
  (if path.toList.head? = some '/' then ["/"] else []) ++
    (segments path).filter fun name => name ≠ "" ∧ name ≠ "."

/-- The way to where a name leads from a folder, given the way to the folder. Two points lead back, at the folder at
hand out of it, and at the root nowhere. -/
def follow (way : List String) (name : String) : List String :=
  if name ≠ ".." ∨ way = [] ∨ way.getLast? = some ".." then way ++ [name]
  else if way = ["/"] then way
  else way.dropLast

/-- The ways to all places that names lead to one after the other. -/
def waysFrom (way : List String) : List String → List (List String)
  | [] => []
  | name :: rest => follow way name :: waysFrom (follow way name) rest

/-- Whether a path can be asked for: there is a name in it, none has more than 255 bytes, all together have less
than 4096, and NUL is no part of it. -/
def isUsable (path : String) : Bool :=
  !path.isEmpty && decide (path.utf8ByteSize < 4096) && !path.toList.contains (Char.ofNat 0) &&
    (segments path).all fun name => decide (name.utf8ByteSize ≤ 255)

/-- Whether a path can only lead to a folder: it ends in a slash or in a name for a folder at hand. -/
def wantsFolder (path : String) : Bool :=
  match (segments path).getLast? with
  | some "" | some "." | some ".." => true
  | _ => false

end FileTree

/-! ## Files -/

/-- What a file holds: a text, or bytes that are no text. -/
inductive Content where
  | text (text : String)
  | bytes
  deriving DecidableEq, Repr

/-- What a path leads to. -/
inductive Entry where
  | missing
  | folder
  | file (content : Content)
  deriving DecidableEq, Repr

/-- Files and folders by the ways to them. -/
structure FileTree where
  files : List (List String × Content)
  folders : List (List String)

namespace FileTree

/-- The tree of some files. What their paths lead through are folders. -/
def ofPaths (files : List (String × Content)) : FileTree where
  files := files.map fun file => ((names file.1).foldl follow [], file.2)
  folders := files.flatMap fun file => waysFrom [] (names file.1).dropLast

/-- What a way leads to. The folder at hand, those that it lies in, and the root are always there. -/
def entryAt (tree : FileTree) (way : List String) : Entry :=
  match tree.files.find? fun file => file.1 = way with
  | some file => .file file.2
  | none => if way.all (· = "..") ∨ way = ["/"] ∨ way ∈ tree.folders then .folder else .missing

/-- The way that names lead from a place on; only folders lead on. -/
def walk? (tree : FileTree) (way : List String) : List String → Option (List String)
  | [] => some way
  | name :: rest => if tree.entryAt way = .folder then tree.walk? (follow way name) rest else none

/-- What a path leads to. -/
def entry (tree : FileTree) (path : String) : Entry :=
  if !isUsable path then .missing
  else match (tree.walk? [] (names path)).map tree.entryAt with
    | some (.file content) => if wantsFolder path then .missing else .file content
    | some entry => entry
    | none => .missing

/-- The tree with folders at some ways, one after the other; `none` if there is a file at one. -/
def makeFolders? (tree : FileTree) : List (List String) → Option FileTree
  | [] => some tree
  | way :: rest =>
    match tree.entryAt way with
    | .file _ => none
    | _ => makeFolders? { tree with folders := way :: tree.folders } rest

/-- Whether a file can be written at a path: no file lies on its way, and it is no folder once those on its way are
made. -/
def canWrite (tree : FileTree) (path : String) : Bool :=
  isUsable path && !wantsFolder path &&
    (tree.makeFolders? (waysFrom [] (names path).dropLast)).any fun tree =>
      tree.entryAt ((names path).foldl follow []) ≠ .folder

end FileTree

/-! ## Settings files -/

namespace Settings

/-- The settings of a file. -/
def load (places : Places) (tree : FileTree) (path : String) : Except ConsoleError Settings :=
  match tree.entry path with
  | .missing => .error (.settings (.fileNotFound path))
  | .folder => .error (.io "Is a directory")
  | .file .bytes => .error (.io "stream did not contain valid UTF-8")
  | .file (.text text) =>
    match ofToml? places text with
    | some settings => .ok settings
    | none => .error (.settings (.invalidFormat "not a settings file"))

/-- The settings of a named file, of the user's own file, or the standard ones, with the file they come
from. -/
def find (places : Places) (tree : FileTree) : Option String → Except ConsoleError (Settings × Option String)
  | some path => (load places tree path).map (·, some path)
  | none =>
    match tree.entry places.settingsPath with
    | .missing => .ok (standard places, none)
    | _ => (load places tree places.settingsPath).map (·, some places.settingsPath)

/-- The text to write for settings at a path. -/
def save (tree : FileTree) (path : String) (settings : Settings) : Except ConsoleError String :=
  if tree.canWrite path then settings.toToml.mapError .settings else .error (.io "cannot write")

end Settings

end DeviceConsole

import AuthGateway.Encoding.Bytes
import AuthGateway.Files.Path

/-!
# File trees

A directory as it is on disk: files with their content, directories with names for what they hold,
and the times of their last changes.

Two ways lead into a tree.  `FileTree.at?` follows names.  `FileTree.locate?` follows the segments
of a path, where an empty segment and a single dot stay in the directory they are in; they lead
nowhere from a file, so the path of a file does not end with a slash.
-/

namespace AuthGateway

/-- A file. -/
structure File where
  content : Bytes
  /-- The last change, in seconds since the epoch. -/
  modified : Int
  deriving DecidableEq, Repr, Inhabited

/-- A file, or a directory with its entries. -/
inductive FileTree where
  | file (f : File)
  | directory (modified : Int) (entries : List (String × FileTree))
  deriving Repr

instance : Inhabited FileTree :=
  ⟨.directory 0 []⟩

namespace FileTree

/-- An empty directory. -/
def empty (modified : Int) : FileTree :=
  .directory modified []

/-- The file that a tree is. -/
def file? : FileTree → Option File
  | .file f => some f
  | .directory _ _ => none

/-- What a tree is taken for where a file is served: of a directory only the time of its last change
can be seen, as it has no content to read. -/
def asFile : FileTree → File
  | .file f => f
  | .directory modified _ => ⟨[], modified⟩

/-- Whether a tree is a directory. -/
def isDirectory : FileTree → Bool
  | .file _ => false
  | .directory _ _ => true

/-- What a name leads to. -/
def child? (name : String) : FileTree → Option FileTree
  | .file _ => none
  | .directory _ entries => entries.lookup name

/-- What a list of names leads to. -/
def at? (t : FileTree) : List String → Option FileTree
  | [] => some t
  | name :: rest => (t.child? name).bind (·.at? rest)

/-- What the segments of a path lead to. -/
def locate? (t : FileTree) : List String → Option FileTree
  | [] => some t
  | s :: rest =>
    if s = "" ∨ s = "." then if t.isDirectory then t.locate? rest else none
    else (t.child? s).bind (·.locate? rest)

/-- The name under which a directory keeps its page. -/
def indexName : String := "index.html"

/-- Whether a tree that stands at a path can be shown: it is a file, or a directory with a page, and
the file system takes the path of either. -/
def isShown (t : FileTree) (path : String) : Bool :=
  FilePath.isTaken path &&
    match t with
    | .file _ => true
    | .directory _ _ =>
      FilePath.isTaken (FilePath.join path indexName)
        && ((t.child? indexName).bind file?).isSome

/-- Bind a name in a list of entries. -/
def bindName (name : String) (t : FileTree) :
    List (String × FileTree) → List (String × FileTree)
  | [] => [(name, t)]
  | (n, u) :: rest => if n = name then (name, t) :: rest else (n, u) :: bindName name t rest

/-- Put a tree in its place at some time, with the directories on the way to it. -/
def put (new : FileTree) (time : Int) : List String → FileTree → FileTree
  | [], _ => new
  | name :: rest, old =>
    let entries := match old with
      | .file _ => []
      | .directory _ entries => entries
    let inner := (entries.lookup name).getD (empty time)
    .directory time (bindName name (put new time rest inner) entries)

end FileTree

end AuthGateway

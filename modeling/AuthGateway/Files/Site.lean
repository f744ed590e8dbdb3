import AuthGateway.Files.Server
import AuthGateway.Text.Basic

/-!
# The site

The static files stand below the web prefix.  Whether the site has something for a path is decided
by the path as it stands, without percent decoding: it has to name a file, or a directory with a
page.  Such requests are then served with the prefix taken off.
-/

namespace AuthGateway

/-- A tree of files below a web prefix, and the directory that holds it. -/
structure Site where
  directory : String
  root : FileTree
  webPrefix : String

namespace Site

/-- What follows the web prefix in a path, which has to end where a segment ends. -/
def rest? (webPrefix path : List Char) : Option (List Char) :=
  (Text.after? webPrefix path).bind fun rest =>
    if rest = [] ∨ rest.head? = some '/' then some rest else none

/-- Whether a path takes any other step than down. -/
def escapes (relative : List Char) : Bool :=
  (FilePath.steps relative).any fun step => !step.isDown

/-- The path below the root of the files, when the request is about the site. -/
def relativePath? (webPrefix path : List Char) : Option (List Char) :=
  (rest? webPrefix path).bind fun rest =>
    let relative := rest.dropWhile (· = '/')
    if escapes relative then none else some relative

/-- What the site has for a relative path. -/
def locate? (s : Site) (relative : List Char) : Option FileTree :=
  s.root.locate? ((relative.splitOn '/').map String.ofList)

/-- Whether the site shows something for a relative path. -/
def shows (s : Site) (relative : List Char) : Bool :=
  (s.locate? relative).any (·.isShown (FilePath.join s.directory (String.ofList relative)))

/-- What the file server is asked for, when the site has something for the target of a request. -/
def serverUri? (s : Site) (uri : Uri) : Option Uri :=
  match relativePath? s.webPrefix.toList uri.path.toList with
  | none => none
  | some relative =>
    if s.shows relative then some (.relative (String.ofList ('/' :: relative)) uri.query) else none

end Site

end AuthGateway

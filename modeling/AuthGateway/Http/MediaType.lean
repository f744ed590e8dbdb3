import AuthGateway.Http.MediaTypes.Application
import AuthGateway.Http.MediaTypes.Media
import AuthGateway.Http.MediaTypes.Text
import AuthGateway.Http.MediaTypes.Vendor
import AuthGateway.Text.Letters

/-!
# Media types of files

The media type of a file follows from the extension of its name, whatever the case of its letters.
The tables give each type the extensions it stands for, with spaces between them; no extension
stands for two types.
-/

namespace AuthGateway.MediaType

/-- The type of files that nothing is known about. -/
def unknown : String := "application/octet-stream"

/-- All known types, with their extensions. -/
def table : List (String × String) :=
  texts ++ media ++ applications ++ vendors

/-- The type of an extension in lower case. -/
def ofExtension? (extension : List Char) : Option String :=
  table.findSome? fun (type, extensions) =>
    if (extensions.toList.splitOn ' ').contains extension then some type else none

/-- What follows the last dot of a file name, unless that dot is its first character. -/
def extension? (name : List Char) : Option (List Char) :=
  match name.reverse.span (· ≠ '.') with
  | (last, _ :: _ :: _) => some last.reverse
  | _ => none

/-- The media type of a file name. -/
def ofFileName (name : String) : String :=
  ((extension? name.toList).bind fun e => ofExtension? (Text.fold e)).getD unknown

end AuthGateway.MediaType

import AuthGateway.Encoding.Bytes
import AuthGateway.Files.Tree
import AuthGateway.Http.ByteRange
import AuthGateway.Http.Date
import AuthGateway.Http.MediaType
import AuthGateway.Http.Outcome

/-!
# Serving files

A file is answered with its content, its media type, and the offer to send parts of it.  The path is
percent-decoded; a decoded path that leads out of the tree, or to nothing, is not found.  For a
directory the client is sent to the path with a slash at its end, where the directory's page is
served; the server breaks off when that makes the target too long.

Conditions on the time of the last change come first, then the parts that the client asks for.  Only
one part at a time is served.
-/

namespace AuthGateway.FileServer

/-! ### Paths -/

/-- Names in a tree, or the reason why a path has none. -/
inductive Target where
  | names (l : List String)
  /-- The path leads out of the tree, or it is no text. -/
  | outside
  /-- A name that no file system takes. -/
  | unusable
  deriving DecidableEq, Repr

/-- The names that some steps lead down to, when none of them leads up or to the top. -/
def names? : List PathStep → Option (List String)
  | [] => some []
  | .here :: steps => names? steps
  | .down name :: steps => (names? steps).map (String.ofList name :: ·)
  | .top :: _ => none
  | .up :: _ => none

/-- Where a path leads, its leading slashes taken off. -/
def target (path : String) : Target :=
  match Percent.decode? (String.ofList (path.toList.dropWhile (· = '/'))) with
  | none => .outside
  | some decoded =>
    match names? (FilePath.steps decoded.toList) with
    | none => .outside
    | some names =>
      if decoded.toList.contains '\x00' then .unusable else .names names

/-! ### Conditions -/

/-- The date in a field. -/
def date? (h : Headers) (name : String) : Option Int :=
  ((h.get? name).bind DateField.read).map Int.ofNat

/-- The answer in the place of a file whose last change does not fit the conditions. -/
def conditional? (h : Headers) (f : File) : Option Response :=
  if (date? h "if-unmodified-since").any (· < f.modified) then some (.empty 412)
  else if (date? h "if-modified-since").any (f.modified ≤ ·) then some (.empty 304)
  else none

/-! ### Answers -/

/-- An answer about a file of some name. -/
def about (name : String) (status : Nat) (extra : Headers) (body : Bytes) : Response :=
  ⟨status, [("content-type", MediaType.ofFileName name), ("accept-ranges", "bytes")] ++ extra, body⟩

/-- The field that says which part of a file is sent. -/
def rangeField (range : String) (size : Nat) : String × String :=
  ("content-range", "bytes " ++ range ++ "/" ++ toString size)

/-- The body of an answer to a request for several parts. -/
def severalParts : String := "Cannot serve multipart range requests"

/-- The answer with a file of some name, or with a part of it. -/
def ofFile (headOnly : Bool) (h : Headers) (name : String) (f : File) : Response :=
  let size := f.content.length
  let sent (content : Bytes) : Bytes := if headOnly then [] else content
  match (h.get? "range").bind Header.text? with
  | none => about name 200 [] (sent f.content)
  | some value =>
    match ByteRange.read size value with
    | none => about name 416 [rangeField "*" size] []
    | some [] => about name 416 [rangeField "*" size] []
    | some [r] =>
      about name 206 [rangeField (toString r.first ++ "-" ++ toString r.last) size]
        (sent (r.cut f.content))
    | some (_ :: _ :: _) => about name 416 [rangeField "*" size] (Utf8.encode severalParts)

/-- The answer with a file, under the conditions of the request. -/
def answerFile (headOnly : Bool) (h : Headers) (names : List String) (f : File) : Response :=
  (conditional? h f).getD (ofFile headOnly h (names.getLast?.getD "") f)

/-- What the server leaves behind when a target with a slash added is too long. -/
def tooLong : PanicPayload :=
  .text "called `Result::unwrap()` on an `Err` value: http::Error(InvalidUri(TooLong))"

/-- The answer that sends the client to a path with a slash at its end. -/
def toSlash (uri : Uri) : Outcome :=
  let target : Uri := { uri with path := uri.path ++ "/" }
  if target.fits then .answered ((Response.empty 307).add "location" target.text)
  else .panicked tooLong

/-- The answer with what some names lead to. -/
def answerNames (root : FileTree) (headOnly : Bool) (h : Headers) (uri : Uri)
    (names : List String) : Outcome :=
  match root.at? names with
  | some (.file f) => .answered (answerFile headOnly h names f)
  | some (.directory _ entries) =>
    if uri.path.toList.getLast? ≠ some '/' then toSlash uri
    else
      match entries.lookup FileTree.indexName with
      | some page => .answered (answerFile headOnly h (names ++ [FileTree.indexName]) page.asFile)
      | none => .answered (.empty 404)
  | none => .answered (.empty 404)

/-- The answer to a request for a path. -/
def answer (root : FileTree) (headOnly : Bool) (h : Headers) (uri : Uri) : Outcome :=
  match target uri.path with
  | .outside => .answered (.empty 404)
  | .unusable => .answered (.empty 500)
  | .names names => answerNames root headOnly h uri names

end AuthGateway.FileServer

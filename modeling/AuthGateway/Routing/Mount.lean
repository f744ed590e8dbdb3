import AuthGateway.Http.Uri
import AuthGateway.Routing.Pattern

/-!
# Taking off the web prefix

An application below a web prefix sees targets without the prefix.  The prefix is compared segment
by segment, and a segment of it that begins with a colon stands for any segment.  The slash behind
the prefix goes with it, and a path has one in front again where none is left: of two slashes behind
the prefix one is left, and a path that is the prefix alone becomes the root.  Other paths are left
as they are.
-/

namespace AuthGateway.Mount

/-- Whether a segment of a path is the one that a segment of the prefix asks for. -/
def fits (asked s : List Char) : Bool :=
  asked.head? == some ':' || asked == s

/-- The segments behind those of the prefix.  An empty segment of the prefix that a path does not
have ends the prefix there. -/
def segmentsAfter? : List (List Char) → List (List Char) → Option (List (List Char))
  | [], rest => some rest
  | _ :: _, [] => none
  | asked :: webPrefix, s :: rest =>
    if fits asked s then segmentsAfter? webPrefix rest
    else if asked = [] then some (s :: rest)
    else none

/-- The path that some segments behind the prefix make. -/
def pathOf (segments : List (List Char)) : List Char :=
  let rest := ['/'].intercalate segments
  if rest.head? = some '/' then rest else '/' :: rest

/-- The path behind the prefix. -/
def pathAfter? (webPrefix path : List Char) : Option (List Char) := do
  let asked ← Pattern.segments? webPrefix
  return pathOf (← segmentsAfter? asked (← Pattern.segments? path))

/-- A target without the prefix. -/
def strip (webPrefix : String) (uri : Uri) : Uri :=
  match pathAfter? webPrefix.toList uri.path.toList with
  | some path => { uri with path := String.ofList path }
  | none => uri

end AuthGateway.Mount

/-!
# References to images

A reference names an image and a tag of it, with a colon between them.  A colon in front of a slash is
that of a port and separates nothing; without a tag the tag is `latest`.
-/

namespace ScanService
namespace Execution

/-- The tag of references that name none. -/
def defaultTag : String := "latest"

/-- Splits a text at the last place of a character. -/
def splitLast (c : Char) : List Char → Option (List Char × List Char)
  | [] => none
  | d :: rest =>
    match splitLast c rest with
    | some (front, back) => some (d :: front, back)
    | none => if d = c then some ([], rest) else none

/-- The image and the tag of a reference. -/
def splitImage (reference : String) : String × String :=
  match splitLast ':' reference.toList with
  | some (image, tag) =>
    if '/' ∈ tag then (reference, defaultTag) else (String.ofList image, String.ofList tag)
  | none => (reference, defaultTag)

end Execution
end ScanService

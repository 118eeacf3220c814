import Stencil.Library.Argument
import Stencil.Text.Slug
import Stencil.Digest.Md5
import Stencil.Digest.Sha1
import Stencil.Digest.Sha256

/-!
Helpers that make names out of text: slugs, which can be read, and digests, which cannot.
-/
namespace Stencil.Library.Identifier

/-- A helper that maps the text of its one argument. -/
def ofText (f : String → String) : Builtin := fun args => do
  checkArity (.exactly 1) args
  return .string (f (textArg args 0))

/-- The slug of a text, with a way to spell text in ASCII. -/
def slugifyBy (spelled : List Char → List Char) : Builtin :=
  ofText fun s => String.ofList (Text.slugBy spelled s.toList)

def slugify : Builtin := slugifyBy Text.transliterate

/-- The helpers of this module and the names they are called by. -/
def helpers : List (String × Builtin) :=
  [("slugify", slugify), ("md5", ofText Digest.Md5.digest), ("sha1", ofText Digest.Sha1.digest),
   ("sha256", ofText Digest.Sha256.digest)]

end Stencil.Library.Identifier

import DartComments.Text.Utf8
import DartComments.Tree.Node

/-!
# Source units

One source with its bytes and the tree a parser made of them. A parser is any function from bytes
to a tree.
-/

namespace DartComments

abbrev Parser := Bytes → Node

structure SourceUnit where
  /-- Where the source was read, if it was. -/
  path : Option Text
  source : Text
  bytes : Bytes
  tree : Node

namespace SourceUnit

/-- Parses a text. -/
def parse (parser : Parser) (path : Option Text) (source : Text) :
    Except Unencodable SourceUnit := do
  let bytes ← Utf8.encodeEscaped source
  pure ⟨path, source, bytes, parser bytes⟩

end SourceUnit

end DartComments

import DartComments.Text.Basic

/-!
# Decoded bytes

What is read from bytes: code points, with gaps where bytes have no meaning. A reader that is not
strict puts a replacement character in each gap, a strict one does not accept gaps.
-/

namespace DartComments

/-- Stands for bytes without a meaning. -/
def replacement : CodePoint := .char '\uFFFD'

/-- Code points, and `none` for bytes without a meaning. -/
abbrev Decoded := List (Option CodePoint)

namespace Decoded

/-- The text with a replacement character in each gap. -/
def lossy (d : Decoded) : Text := d.map (·.getD replacement)

/-- The text, if there are no gaps. -/
def strict? (d : Decoded) : Option Text := d.mapM id

end Decoded

end DartComments

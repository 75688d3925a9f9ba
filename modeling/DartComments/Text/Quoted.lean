import DartComments.Text.Printable
import DartComments.Text.Utf8

/-!
# Quoted texts

A quoted text stands between quote marks, with escapes for the mark itself, the backslash, line
feed, carriage return, tabulator and whatever does not print. The mark is the single one unless
the text holds single marks and no double ones.
-/

namespace DartComments

namespace Text

def singleMark : CodePoint := .char '\x27'

def doubleMark : CodePoint := .char '\x22'

/-- The mark that a text is quoted with. -/
def quoteMark (t : Text) : CodePoint :=
  if t.contains singleMark && ! t.contains doubleMark then doubleMark else singleMark

/-- How a code point is written between marks; `shown` says which print as themselves. -/
def quotePoint (shown : CodePoint → Bool) (mark c : CodePoint) : Text :=
  if c = mark || c = .char '\\' then [.char '\\', c]
  else if c = .char '\n' then "\\n"
  else if c = .char '\r' then "\\r"
  else if c = .char '\t' then "\\t"
  else if shown c then [c]
  else Unencodable.escaped c

def quoteWith (shown : CodePoint → Bool) (t : Text) : Text :=
  let mark := quoteMark t
  mark :: t.flatMap (quotePoint shown mark) ++ [mark]

/-- The quoted text, printable code points as themselves. -/
def quoted (t : Text) : Text := quoteWith CodePoint.isPrintable t

/-- The quoted text with escapes for everything outside ASCII. -/
def quotedAscii (t : Text) : Text := quoteWith (fun c => c.isAscii && c.isPrintable) t

end Text

end DartComments

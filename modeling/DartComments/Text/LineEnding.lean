import DartComments.Text.Basic

/-!
# Line endings

A text ends its lines with a line feed, a carriage return, or the two together. `dominant` picks
the one used most, from three counts: pairs, carriage returns outside a pair, line feeds outside
a pair. Equal counts go to the line feed, then to the lone carriage return.
-/

namespace DartComments

inductive LineEnding where
  | lf
  | cr
  | crlf
deriving DecidableEq

namespace LineEnding

def feed : CodePoint := .char '\n'

def carriage : CodePoint := .char '\r'

def text : LineEnding → Text
  | .lf => [feed]
  | .cr => [carriage]
  | .crlf => [carriage, feed]

/-- Occurrences of a carriage return followed by a line feed. -/
def pairs : Text → Nat
  | [] => 0
  | [_] => 0
  | a :: b :: rest =>
    if a = carriage && b = feed then pairs rest + 1 else pairs (b :: rest)

/-- Occurrences of `c`, a carriage return or a line feed, outside the pairs. -/
def lone (c : CodePoint) (t : Text) : Nat := t.count c - pairs t

/-- The line ending a text uses most. -/
def dominant (t : Text) : LineEnding :=
  if pairs t > max (lone carriage t) (lone feed t) then .crlf
  else if lone carriage t > lone feed t then .cr
  else .lf

end LineEnding

end DartComments

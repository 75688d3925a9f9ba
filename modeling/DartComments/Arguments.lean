import DartComments.Text.Basic

/-!
# Arguments by place

Arguments are dealt out to a fixed number of places, one to each of them. They stand behind two
dashes, which end the options, so that none of them is taken for an option whatever it looks like.
A place takes the separators around its argument along with it, and gives back the first two dashes
of what it has taken. That rids the first place of the separator; a later one, which has taken no
separator, loses an argument that reads the same.

    deal? 2 ["-k", "a b"]   is   some [["-k"], ["a b"]]
    deal? 2 ["--", "--"]    is   some [["--"], []]
-/

namespace DartComments

namespace Arguments

/-- What ends the options. -/
def dashes : Text := "--"

/-- What is dealt out. -/
inductive Token where
  | separator
  | value (t : Text)
deriving DecidableEq

namespace Token

def text : Token → Text
  | .separator => dashes
  | .value t => t

def isSeparator : Token → Bool
  | .separator => true
  | .value _ => false

end Token

/-- The arguments behind the separator. What reads like another separator is a value there. -/
def tokens (args : List Text) : List Token := .separator :: args.map .value

/-- What the next place takes, and what it leaves: one value and the separators on both sides. -/
def share? (ts : List Token) : Option (List Token × List Token) :=
  match ts.dropWhile Token.isSeparator with
  | [] => none
  | v :: rest =>
    some (ts.takeWhile Token.isSeparator ++ v :: rest.takeWhile Token.isSeparator,
      rest.dropWhile Token.isSeparator)

/-- What `n` places take in turn, and what they leave. -/
def shares? : Nat → List Token → Option (List (List Token) × List Token)
  | 0, ts => some ([], ts)
  | n + 1, ts => do
    let (share, rest) ← share? ts
    let (others, rest) ← shares? n rest
    pure (share :: others, rest)

/-- What a place keeps of its share. -/
def kept (share : List Token) : List Text := (share.map Token.text).erase dashes

/-- Deals arguments out to `n` places, if there is one for each place and none is left. -/
def deal? (n : Nat) (args : List Text) : Option (List (List Text)) :=
  match shares? n (tokens args) with
  | some (shares, []) => some (shares.map kept)
  | _ => none

end Arguments

end DartComments

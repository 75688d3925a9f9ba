/-!
# Rows of names

The names of characters that follow one another. Most names differ little from the one before, so a
name is told by the difference. Names stand in lines, with commas between them:

* a word in capitals stands for itself, and a small letter before it or at the end copies words of
  the name before, `a` one word, `b` two and so on, from the place where the new name has come to;
* a number counts up that many names, by the last digits or the last letter of the name before;
* nothing between two commas is a character without a name.

A word ends after a blank or a hyphen.
-/

namespace DartComments

namespace CharacterName

/-- Names of characters that follow one another, with the number of the first. -/
structure Row where
  first : Nat
  lines : List String

/-- The entries of a line. -/
def entries : List Char → List (List Char)
  | [] => [[]]
  | c :: rest =>
    if c = ',' then [] :: entries rest
    else match entries rest with
      | [] => [[c]]
      | entry :: others => (c :: entry) :: others

/-- The words of a name, each with the blank or hyphen that ends it. -/
def words : List Char → List (List Char)
  | [] => []
  | c :: rest =>
    if c = ' ' || c = '-' then [c] :: words rest
    else match words rest with
      | [] => [[c]]
      | word :: others => (c :: word) :: others

/-- The words of a name that is told by what is left of the one before. -/
def told (before : List (List Char)) : List (List Char) → List (List Char)
  | (c :: word) :: rest =>
    if c.isLower then
      let count := c.toNat - 'a'.toNat + 1
      before.take count ++ word :: told (before.drop (count + 1)) rest
    else (c :: word) :: told (before.drop 1) rest
  | _ => []

/-- The next name, its characters and those of the one before in reverse order. -/
def next : List Char → List Char
  | '9' :: c :: rest => '0' :: (if c.isDigit then next (c :: rest) else '1' :: c :: rest)
  | c :: rest => Char.ofNat (c.toNat + 1) :: rest
  | [] => []

/-- An entry that counts up, as one entry for each name. -/
def counted (entry : List Char) : List (List Char) :=
  if !entry.isEmpty && entry.all Char.isDigit then
    List.replicate (entry.foldl (fun n c => n * 10 + (c.toNat - '0'.toNat)) 0) ['+']
  else [entry]

/-- The name of an entry, from the one before. -/
def nameOf (before entry : List Char) : List Char :=
  if entry = ['+'] then (next before.reverse).reverse
  else (told (words before) (words entry)).flatten

/-- The names of entries with their numbers, from a number and the name before on. -/
def named (number : Nat) (before : List Char) : List (List Char) → List (List Char × Nat)
  | [] => []
  | entry :: rest =>
    if entry.isEmpty then named (number + 1) before rest
    else
      let name := nameOf before entry
      (name, number) :: named (number + 1) name rest

/-- The names of a row with their numbers. -/
def Row.names (r : Row) : List (List Char × Nat) :=
  named r.first [] (r.lines.flatMap fun line => (entries line.toList).flatMap counted)

example : (Row.mk 0x30 ["DIGIT ZERO,aONE,,CAPITAL LETTER A,2,SMALL aA"]).names =
    [("DIGIT ZERO".toList, 0x30), ("DIGIT ONE".toList, 0x31), ("CAPITAL LETTER A".toList, 0x33),
      ("CAPITAL LETTER B".toList, 0x34), ("CAPITAL LETTER C".toList, 0x35),
      ("SMALL LETTER A".toList, 0x36)] := by
  decide

end CharacterName

end DartComments

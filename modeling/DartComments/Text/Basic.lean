/-!
# Texts as code points

A text is a list of code points. A code point is a character, or one of the 2048
surrogates, which stand for no character but do occur: the reader of source files keeps
each undecodable byte as one, and an escape in a reply can name any of them.

    (CodePoint.ofNat n).toNat = n          for n < 0x110000      (toNat_ofNat)
-/

namespace DartComments

/-- A character, or surrogate number `i`, whose code is `0xD800 + i`. -/
inductive CodePoint where
  | char (c : Char)
  | surrogate (i : Fin 2048)
deriving DecidableEq

instance : Inhabited CodePoint := ⟨.char ' '⟩

instance : Coe Char CodePoint := ⟨.char⟩

namespace CodePoint

/-- The number of a code point, below `0x110000`. -/
def toNat : CodePoint → Nat
  | .char c => c.toNat
  | .surrogate i => 0xD800 + i.val

/-- The code point of a number; numbers from `0x110000` on are read as zero. -/
def ofNat (n : Nat) : CodePoint :=
  if h : 0xD800 ≤ n ∧ n < 0xE000 then .surrogate ⟨n - 0xD800, by omega⟩ else .char (Char.ofNat n)

def isSurrogate : CodePoint → Bool
  | .char _ => false
  | .surrogate _ => true

def isAscii (c : CodePoint) : Bool := c.toNat < 128

/-- A letter `A` to `Z` becomes small, all else stays. -/
def toLowerAscii : CodePoint → CodePoint
  | .char c => .char c.toLower
  | c => c

theorem toNat_ofNat {n : Nat} (h : n < 0x110000) : (ofNat n).toNat = n := by
  unfold ofNat
  split
  · simp only [toNat]; omega
  · next hs =>
    have hv : n.isValidChar := by
      simp only [Nat.isValidChar]; omega
    rw [Char.ofNat, dif_pos hv]
    rfl

end CodePoint

/-- A sequence of code points. Offsets and lengths of texts count code points. -/
abbrev Text := List CodePoint

namespace Text

def ofChars (cs : List Char) : Text := cs.map .char

def ofString (s : String) : Text := ofChars s.toList

instance : Coe String Text := ⟨ofString⟩

/-- Decimal digits of a number. -/
def ofNat (n : Nat) : Text := ofChars (Nat.toDigits 10 n)

def ofInt : Int → Text
  | .ofNat n => ofNat n
  | .negSucc n => .char '-' :: ofNat (n + 1)

/-- The part from offset `a` up to offset `b`, as far as it lies in the text. -/
def slice (t : Text) (a b : Nat) : Text := (t.take b).drop a

/-- Parts joined with a separator between them. -/
def join (sep : Text) (parts : List Text) : Text := List.intercalate sep parts

/-- The parts between the occurrences of `sep`; there is always at least one. -/
def splitOn (sep : CodePoint) : Text → List Text
  | [] => [[]]
  | c :: cs =>
    if c = sep then [] :: splitOn sep cs
    else match splitOn sep cs with
      | [] => [[c]]
      | p :: ps => (c :: p) :: ps

/-- Lower-case hexadecimal digits of `n`, at least `width` of them. -/
def hex (width n : Nat) : Text :=
  let ds := Nat.toDigits 16 n
  ofChars (List.replicate (width - ds.length) '0' ++ ds)

def toLowerAscii (t : Text) : Text := t.map CodePoint.toLowerAscii

/-! ## Lemmas -/

@[simp] theorem slice_zero_length (t : Text) : slice t 0 t.length = t := by
  simp [slice]

theorem slice_eq_nil_of_le {t : Text} {a b : Nat} (h : b ≤ a) : slice t a b = [] := by
  simp only [slice, List.drop_eq_nil_iff, List.length_take]; omega

theorem take_append_slice (t : Text) {a b : Nat} (h : a ≤ b) :
    t.take a ++ slice t a b = t.take b := by
  have : t.take a = (t.take b).take a := by rw [List.take_take, Nat.min_eq_left h]
  rw [this, slice, List.take_append_drop]

theorem splitOn_ne_nil (sep : CodePoint) (t : Text) : splitOn sep t ≠ [] := by
  cases t with
  | nil => simp [splitOn]
  | cons c cs =>
    simp only [splitOn]
    split
    · simp
    · split <;> simp

theorem join_cons_cons (sep c d : Text) (cs : List Text) :
    join sep (c :: d :: cs) = c ++ sep ++ join sep (d :: cs) := by
  simp [join, List.intercalate]

end Text

end DartComments

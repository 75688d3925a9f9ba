import DartComments.Command
import Mathlib.Data.List.Basic

/-!
# Reading the arguments

How arguments are dealt out depends on their number alone, but for one thing: every place after the
first loses an argument of two dashes (`deal?_cons`). So there are a key and a place for the source
exactly when there are two arguments, and both are read as given unless the second one is two
dashes (`readArguments_as_given`).
-/

namespace DartComments

namespace Arguments

/-- No separator stands among values. -/
theorem takeWhile_values (args : List Text) :
    (args.map Token.value).takeWhile Token.isSeparator = [] := by
  cases args <;> rfl

theorem dropWhile_values (args : List Text) :
    (args.map Token.value).dropWhile Token.isSeparator = args.map .value := by
  cases args <;> rfl

theorem share?_value (a : Text) (rest : List Text) :
    share? ((a :: rest).map .value) = some ([.value a], rest.map .value) := by
  rw [share?, takeWhile_values, dropWhile_values, List.map_cons]
  dsimp only
  rw [takeWhile_values, dropWhile_values]
  rfl

/-- The first place takes the separator along. -/
theorem share?_tokens (a : Text) (rest : List Text) :
    share? (tokens (a :: rest)) = some ([.separator, .value a], rest.map .value) := by
  have htake : (tokens (a :: rest)).takeWhile Token.isSeparator = [.separator] := rfl
  have hdrop : (tokens (a :: rest)).dropWhile Token.isSeparator = .value a :: rest.map .value := rfl
  rw [share?, htake, hdrop]
  dsimp only
  rw [takeWhile_values, dropWhile_values]
  rfl

/-- Among values the places take one each, as long as there are any. -/
theorem shares?_values (n : Nat) (args : List Text) : shares? n (args.map .value) =
    if n ≤ args.length then
      some ((args.take n).map fun a => [.value a], (args.drop n).map .value)
    else none := by
  induction n generalizing args with
  | zero => simp [shares?]
  | succ n ih =>
    cases args with
    | nil => rfl
    | cons a args =>
      rw [shares?, share?_value]
      show (shares? n (args.map .value) >>= _) = _
      rw [ih]
      by_cases h : n ≤ args.length
      · rw [if_pos h, if_pos (by simpa using h)]
        rfl
      · rw [if_neg h, if_neg (by simpa using h)]
        rfl

theorem shares?_tokens (n : Nat) (a : Text) (rest : List Text) :
    shares? (n + 1) (tokens (a :: rest)) =
      (shares? n (rest.map .value)).map fun s => ([.separator, .value a] :: s.1, s.2) := by
  rw [shares?, share?_tokens]
  show (shares? n (rest.map .value) >>= _) = _
  cases shares? n (rest.map .value) <;> rfl

theorem kept_first (a : Text) : kept [.separator, .value a] = [a] := by
  simp [kept, Token.text]

/-- **Dealing.** The first place is dealt its argument whatever that is, the others theirs unless it
is two dashes. -/
theorem deal?_cons (n : Nat) (a : Text) (rest : List Text) : deal? (n + 1) (a :: rest) =
    if rest.length = n then some ([a] :: rest.map fun b => [b].erase dashes) else none := by
  rw [deal?, shares?_tokens, shares?_values]
  by_cases h : rest.length = n
  · subst h
    rw [if_pos (Nat.le_refl _), if_pos rfl, List.take_length, List.drop_length]
    show some (kept [.separator, .value a] :: (rest.map fun b => [Token.value b]).map kept) = _
    rw [kept_first, List.map_map]
    rfl
  rw [if_neg h]
  by_cases hle : n ≤ rest.length
  · -- Some argument is left over.
    have hdrop : rest.drop n ≠ [] := by
      simp only [ne_eq, List.drop_eq_nil_iff]
      omega
    obtain ⟨b, others, hothers⟩ := List.exists_cons_of_ne_nil hdrop
    rw [if_pos hle, hothers]
    rfl
  · rw [if_neg hle]
    rfl

end Arguments

namespace Command

theorem readArguments_two (key source : Text) :
    readArguments [key, source] = some (key, if source = "--" then none else some source) := by
  have hdeal : Arguments.deal? 2 [key, source] = some [[key], [source].erase Arguments.dashes] :=
    (Arguments.deal?_cons 1 key [source]).trans (if_pos rfl)
  rw [readArguments, hdeal]
  by_cases h : source = "--"
  · rw [if_pos h, h]
    rfl
  · have hkept : [source].erase Arguments.dashes = [source] :=
      List.erase_of_not_mem fun hmem => h (List.mem_singleton.mp hmem).symm
    rw [if_neg h, hkept]

theorem readArguments_of_length_ne {arguments : List Text} (h : arguments.length ≠ 2) :
    readArguments arguments = none := by
  cases arguments with
  | nil => rfl
  | cons key rest =>
    have hdeal : Arguments.deal? 2 (key :: rest) = none :=
      (Arguments.deal?_cons 1 key rest).trans (if_neg (by simpa using h))
    rw [readArguments, hdeal]

/-- **Arguments as given.** There is something to read exactly when there are two arguments. The key
is the first of them, and the source is the second unless that is two dashes: then there is none. -/
theorem readArguments_as_given (args : List Text) :
    (readArguments args = none ↔ args.length ≠ 2) ∧
      ∀ key source, args = [key, source] →
        (source ≠ "--" → readArguments args = some (key, some source)) ∧
          (source = "--" → readArguments args = some (key, none)) := by
  refine ⟨⟨fun hnone hlength => ?_, readArguments_of_length_ne⟩, ?_⟩
  · obtain ⟨key, source, rfl⟩ := List.length_eq_two.mp hlength
    rw [readArguments_two] at hnone
    cases hnone
  · rintro key source rfl
    rw [readArguments_two]
    constructor
    · intro h
      rw [if_neg h]
    · intro h
      rw [if_pos h]

/-- A source of two dashes is not read as given. -/
theorem readArguments_dashes_not_given :
    readArguments ["k", "--"] ≠ some (Text.ofString "k", some (Text.ofString "--")) := by
  decide

end Command

end DartComments

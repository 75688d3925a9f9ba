import DartComments.Prompt.Basic
import DartComments.Proofs.Prompt.Template
import DartComments.Proofs.Text.Blank

/-!
# The messages of a prompt

The wording of a request is made of texts and of the two things that it can speak of, the name and
the source of a declaration (`Wording`). Every wording can be written as a template, with the braces
of its texts doubled, and is then said of any declaration: whatever the name and the source hold is
put in as it stands. So the messages of a prompt are told in advance (`build_says_wording`), with
each example under its name (`NamesExample`).
-/

namespace DartComments

namespace Prompt

/-! ## Wordings -/

/-- A part of the wording of a request. -/
inductive Wording where
  | text (t : Text)
  | name
  | procedure

namespace Wording

def part : Wording → Template.Part
  | .text t => .text t
  | .name => .field "name"
  | .procedure => .field "procedure"

/-- A wording as a template. -/
def write (ws : List Wording) : Text := ws.flatMap fun w => w.part.write

/-- What a wording says of a declaration. -/
def say (ws : List Wording) (name source : Text) : Text :=
  ws.flatMap fun
    | .text t => t
    | .name => name
    | .procedure => source

end Wording

theorem request_write (preamble : Text) (examples : List (Text × Text)) (ws : List Wording)
    (name source : Text) : request ⟨preamble, examples, Wording.write ws⟩ name source =
      .ok (Wording.say ws name source) := by
  have hwrite : Wording.write ws = (ws.map Wording.part).flatMap Template.Part.write := by
    rw [List.flatMap_map]
    rfl
  have hsay : Wording.say ws name source = (ws.map Wording.part).flatMap
      (Template.Part.fill [("name", name), ("procedure", source)]) := by
    rw [List.flatMap_map, Wording.say]
    congr 1
    funext w
    cases w <;> rfl
  rw [request, hwrite, hsay]
  refine Template.expand_write fun field hfield => ?_
  obtain ⟨w, -, hw⟩ := List.mem_map.mp hfield
  cases w with
  | text t => cases hw
  | name =>
    cases hw
    exact ⟨by decide, rfl⟩
  | procedure =>
    cases hw
    exact ⟨by decide, rfl⟩

example : Template.expand [("name", "f"), ("procedure", "f(\x7bname\x7d)")]
    "\x7b\x7b\x7bname\x7d\x7d\x7d: \x7bprocedure\x7d" = .ok "\x7bf\x7d: f(\x7bname\x7d)" := by
  rfl

/-! ## Messages -/

section

variable {p : PromptTemplate} {ask : Text → Text → Text}

theorem exampleMessages_of_request
    (h : ∀ name source, request p name source = .ok (ask name source))
    (examples : List (Text × Text)) : exampleMessages p examples = .ok (examples.flatMap fun e =>
      [⟨.user, ask (exampleName e.1) e.1⟩, ⟨.assistant, e.2⟩]) := by
  induction examples with
  | nil => rfl
  | cons e examples ih =>
    obtain ⟨source, comment⟩ := e
    rw [exampleMessages, h, ih]
    rfl

/-- When there is a request for every declaration, there are messages for every declaration. -/
theorem build_of_request (h : ∀ name source, request p name source = .ok (ask name source))
    (name source : Text) : build p name source = .ok (⟨.system, p.preamble⟩ ::
      (p.examples.flatMap fun e => [⟨.user, ask (exampleName e.1) e.1⟩, ⟨.assistant, e.2⟩]) ++
        [⟨.user, ask name source⟩]) := by
  rw [build, exampleMessages_of_request h, h]
  rfl

end

/-! ## Names of examples -/

/-- What stands in a source before its first opening parenthesis. -/
inductive IsHead : Text → Text → Prop
  | mk {head rest : Text} : .char '(' ∉ head → (∀ c, rest.head? = some c → c = .char '(') →
      IsHead (head ++ rest) head

/-- The name of an example is the last word of its head, if there is one. -/
inductive NamesExample (source : Text) : Text → Prop
  | word {head name : Text} : IsHead source head → head.LastWord name → NamesExample source name
  | wordless {head : Text} : IsHead source head → (∀ c ∈ head, c.isBlank = true) →
      NamesExample source "example"

theorem IsHead.takeWhile {source head : Text} (h : IsHead source head) :
    source.takeWhile (· ≠ .char '(') = head := by
  obtain @⟨head, rest, hhead, hrest⟩ := h
  have hall : ∀ c ∈ head, decide (c ≠ .char '(') = true := by
    intro c hc
    refine decide_eq_true ?_
    rintro rfl
    exact hhead hc
  rw [List.takeWhile_append_of_pos hall]
  cases rest with
  | nil => simp
  | cons c rest => simp [hrest c rfl]

theorem exists_isHead (source : Text) : ∃ head, IsHead source head := by
  have hhead : IsHead (source.takeWhile (· ≠ .char '(') ++ source.dropWhile (· ≠ .char '('))
      (source.takeWhile (· ≠ .char '(')) := by
    refine .mk (fun hmem => ?_) fun c hc => ?_
    · simpa using List.mem_takeWhile_imp hmem
    · have hnot := List.head?_dropWhile_not (· ≠ .char '(') source
      rw [hc] at hnot
      simpa using hnot
  rw [List.takeWhile_append_dropWhile] at hhead
  exact ⟨_, hhead⟩

theorem NamesExample.exampleName {source name : Text} (h : NamesExample source name) :
    exampleName source = name := by
  cases h with
  | word hhead hword =>
    rw [Prompt.exampleName, hhead.takeWhile, hword.getLast?_words]
    rfl
  | wordless hhead hblank =>
    rw [Prompt.exampleName, hhead.takeWhile, Text.words_blanks hblank]
    rfl

theorem exists_namesExample (source : Text) : ∃ name, NamesExample source name := by
  obtain ⟨head, hhead⟩ := exists_isHead source
  by_cases hblank : ∀ c ∈ head, c.isBlank = true
  · exact ⟨_, .wordless hhead hblank⟩
  · obtain ⟨name, hname⟩ := Text.exists_lastWord (t := head) (by simpa using hblank)
    exact ⟨name, .word hhead hname⟩

theorem exampleName_eq_iff {source name : Text} :
    exampleName source = name ↔ NamesExample source name := by
  obtain ⟨name', h'⟩ := exists_namesExample source
  refine ⟨fun h => ?_, NamesExample.exampleName⟩
  rw [← h, h'.exampleName]
  exact h'

/-- **Verbatim prompts.** For every wording there are messages: the preamble, for each example what
the wording says of it and its comment, and what the wording says of the declaration. -/
theorem build_says_wording (preamble : Text) (examples : List (Text × Text)) (ws : List Wording)
    (name source : Text) :
    (∃ messages, build ⟨preamble, examples, Wording.write ws⟩ name source = .ok messages ∧
      messages.length = 2 * examples.length + 2 ∧
      messages = ⟨.system, preamble⟩ :: (examples.flatMap fun e =>
        [⟨.user, Wording.say ws (exampleName e.1) e.1⟩, ⟨.assistant, e.2⟩]) ++
          [⟨.user, Wording.say ws name source⟩]) ∧
      ∀ e ∈ examples, ∀ n, exampleName e.1 = n ↔ NamesExample e.1 n := by
  refine ⟨⟨_, build_of_request (request_write preamble examples ws) name source, ?_, rfl⟩,
    fun _ _ _ => exampleName_eq_iff⟩
  simp
  omega

end Prompt

end DartComments

import DartComments.Disk.Basic
import DartComments.Proofs.Disk.Path

/-!
# Following paths

A `Walk` is a path that leads through directories only, with no link on its way. Resolving follows
it, however many links it would allow, and it comes to where the stack of components ends, so the
text of such a path can be normalised without looking at the disk. From a directory whose own full
path is a walk, a walk comes to a place whose full path is a walk too: a file that is named without
links is read under its full path as well (`Names.read_full`).
-/

namespace DartComments

namespace Disk

/-! ## Walks -/

/-- From the directory `place` the components lead to a last place, and no link is met. -/
inductive Walk (d : Disk) : List Text → List Text → List Text → Prop
  | done (place : List Text) : Walk d place [] place
  | up {place rest final : List Text} :
      Walk d place.dropLast rest final → Walk d place (Path.dotDot :: rest) final
  | down {place rest final : List Text} {c : Text} :
      c ≠ Path.dotDot → byteLength c ≤ nameLimit → d.entry? (place ++ [c]) = some .directory →
      Walk d (place ++ [c]) rest final → Walk d place (c :: rest) final
  | last {place : List Text} {c : Text} :
      c ≠ Path.dotDot → byteLength c ≤ nameLimit →
      (d.entry? (place ++ [c]) = none ∨ ∃ content, d.entry? (place ++ [c]) = some (.file content)) →
      Walk d place [c] (place ++ [c])

variable {d : Disk} {place todo final : List Text}

/-- Resolving follows a walk. -/
theorem Walk.resolve (h : d.Walk place todo final) (links : Nat) :
    d.resolve links place todo = .ok final := by
  induction h with
  | done place => rw [Disk.resolve]
  | up _ ih => rw [Disk.resolve, if_pos rfl, ih]
  | down hc hn he _ ih =>
    rw [Disk.resolve, if_neg hc, if_neg (by omega)]
    dsimp only
    rw [he]
    exact ih
  | last hc hn he =>
    rw [Disk.resolve, if_neg hc, if_neg (by omega)]
    dsimp only
    rcases he with he | ⟨content, he⟩
    · rw [he]
      rfl
    · rw [he]
      rfl

/-- A walk does with its place what the stack does with the components. -/
theorem Walk.foldl (h : d.Walk place todo final) (hdots : Path.dotDot ∉ place) :
    todo.foldl (Path.pushComponent true) place.reverse = final.reverse := by
  induction h with
  | done place => rfl
  | @up place rest final _ ih =>
    have hrev : Path.dotDot ∉ place.reverse := fun hm => hdots (List.mem_reverse.mp hm)
    rw [List.foldl_cons, Path.pushComponent_dotDot hrev, List.tail_reverse]
    exact ih fun hm => hdots (List.dropLast_subset place hm)
  | @down place rest final c hc _ _ _ ih =>
    have hnext : Path.dotDot ∉ place ++ [c] := by
      rw [List.mem_append, List.mem_singleton, not_or]
      exact ⟨hdots, Ne.symm hc⟩
    rw [List.foldl_cons, Path.pushComponent_of_ne hc]
    simpa using ih hnext
  | last hc _ _ =>
    rw [List.foldl_cons, Path.pushComponent_of_ne hc]
    simp

/-- Where a walk ends, told by the components alone. -/
theorem Walk.evaluate (h : d.Walk place todo final) (hdots : Path.dotDot ∉ place) :
    Path.evaluate (place ++ todo) = final := by
  rw [Path.evaluate, List.foldl_append, Path.foldl_pushComponent hdots, List.append_nil,
    h.foldl hdots, List.reverse_reverse]

/-! ## Full paths -/

/-- Every step of a full path is a directory. -/
def IsReal (d : Disk) (place : List Text) : Prop :=
  ∀ q c, q ++ [c] <+: place →
    c ≠ Path.dotDot ∧ byteLength c ≤ nameLimit ∧ d.entry? (q ++ [c]) = some .directory

theorem IsReal.nil : d.IsReal [] := by
  intro q c h
  have := List.prefix_nil.mp h
  simp at this

theorem IsReal.of_prefix {q : List Text} (h : d.IsReal place) (hq : q <+: place) : d.IsReal q :=
  fun r c hr => h r c (hr.trans hq)

theorem IsReal.concat {c : Text} (h : d.IsReal place) (hc : c ≠ Path.dotDot)
    (hn : byteLength c ≤ nameLimit) (he : d.entry? (place ++ [c]) = some .directory) :
    d.IsReal (place ++ [c]) := by
  intro q e hq
  rcases List.prefix_concat_iff.mp hq with heq | hq
  · obtain ⟨rfl, rfl⟩ := List.append_inj' heq rfl |>.imp id List.singleton_inj.mp
    exact ⟨hc, hn, he⟩
  · exact h q e hq

theorem IsReal.not_mem (h : d.IsReal place) : Path.dotDot ∉ place := by
  intro hm
  obtain ⟨q, rest, rfl⟩ := List.append_of_mem hm
  exact (h q Path.dotDot ⟨rest, by simp⟩).1 rfl

/-- A walk can come through all of a full path first. -/
theorem IsReal.walk (place : List Text) {q rest : List Text} (h : d.IsReal (place ++ q))
    (hw : d.Walk (place ++ q) rest final) : d.Walk place (q ++ rest) final := by
  induction q generalizing place with
  | nil => simpa using hw
  | cons c q ih =>
    rw [List.append_cons] at h hw
    obtain ⟨hc, hn, he⟩ := h place c ⟨q, rfl⟩
    exact .down hc hn he (ih (place ++ [c]) h hw)

/-- Where a walk ends has a full path that is a walk. -/
theorem Walk.full (h : d.Walk place todo final) (hreal : d.IsReal place) :
    d.Walk [] final final := by
  induction h with
  | done place =>
    have hw := IsReal.walk [] hreal (.done _)
    rwa [List.append_nil] at hw
  | @up place _ _ _ ih => exact ih (hreal.of_prefix (List.dropLast_prefix place))
  | down hc hn he _ ih => exact ih (hreal.concat hc hn he)
  | last hc hn he => exact IsReal.walk [] hreal (.last hc hn he)

/-! ## Reading and writing -/

/-- A path that a system takes: without a zero byte, and not too long. -/
structure Allowed (p : Path) : Prop where
  no_zero : p.text.contains (.char '\x00') = false
  short : byteLength p.text < pathLimit

theorem Allowed.locate {cwd : List Text} {p : Path} (hp : Allowed p)
    (h : d.Walk (if p.isAbsolute then [] else cwd) p.parts final) : d.locate cwd p = .ok final := by
  have hshort := hp.short
  rw [Disk.locate, hp.no_zero, if_neg (by simp), if_neg (by omega), h.resolve]

theorem read_of_locate {cwd : List Text} {p : Path} {content : Bytes}
    (h : d.locate cwd p = .ok place) (he : d.entry? place = some (.file content)) :
    d.read cwd p = .ok content := by
  rw [read, h]
  dsimp only
  rw [he]

/-- What is read is the content of a file. -/
theorem exists_place_of_read {cwd : List Text} {p : Path} {content : Bytes}
    (h : d.read cwd p = .ok content) :
    ∃ place, d.locate cwd p = .ok place ∧ d.entry? place = some (.file content) := by
  rw [read] at h
  cases hl : d.locate cwd p with
  | error f =>
    rw [hl] at h
    cases h
  | ok place =>
    rw [hl] at h
    dsimp only at h
    split at h
    · next he =>
      cases h
      exact ⟨place, rfl, he⟩
    · cases h
    · cases h

theorem isFile_of_read {d : Disk} {cwd : List Text} {p : Path} {content : Bytes}
    (h : d.read cwd p = .ok content) : d.isFile cwd p = .ok true := by
  obtain ⟨place, hl, he⟩ := exists_place_of_read h
  rw [isFile, hl]
  dsimp only
  rw [he]

/-- Only of a path that is too long it cannot be told whether it leads to a file. -/
theorem isFile_error_iff {cwd : List Text} {p : Path} :
    (∃ e, d.isFile cwd p = .error e) ↔ d.locate cwd p = .error .nameTooLong := by
  rw [isFile]
  cases d.locate cwd p with
  | error f => cases f <;> simp
  | ok place =>
    dsimp only
    split <;> simp

theorem read_of_isFile {cwd : List Text} {p : Path} (h : d.isFile cwd p = .ok true) :
    ∃ raw, d.read cwd p = .ok raw := by
  rw [isFile] at h
  rw [read]
  cases hl : d.locate cwd p with
  | error f =>
    rw [hl] at h
    cases f <;> cases h
  | ok place =>
    rw [hl] at h
    dsimp only at h ⊢
    cases he : d.entry? place with
    | none =>
      rw [he] at h
      cases h
    | some e =>
      rw [he] at h
      cases e with
      | file content => exact ⟨content, rfl⟩
      | directory => cases h
      | link t => cases h

/-- What is set at a full path is there. -/
theorem entry?_set_self (d : Disk) {place : List Text} (h : place ≠ []) (e : Entry) :
    Disk.entry? (d.set place e) place = some e := by
  have hne : place.isEmpty = false := by simpa using h
  rw [ entry?, hne, if_neg (by simp), set]
  generalize d.entries = entries
  split
  · next hany =>
    show (entries.map fun p => if p.1 = place then (place, e) else p).lookup place = some e
    induction entries with
    | nil => cases hany
    | cons p entries ih =>
      rw [List.map_cons]
      by_cases hp : p.1 = place
      · rw [if_pos hp, List.lookup_cons_self]
      · rw [if_neg hp, List.lookup_cons, show (place == p.1) = false by simpa using Ne.symm hp]
        refine ih ?_
        rw [List.any_cons, show decide (p.1 = place) = false by simpa using hp] at hany
        exact hany
  · next hany =>
    have hnone : entries.lookup place = none := by
      rw [List.lookup_eq_none_iff]
      intro p hp
      have hne' : ¬ p.1 = place := by
        intro he
        exact hany (List.any_eq_true.mpr ⟨p, hp, by simpa using he⟩)
      simpa using Ne.symm hne'
    show (entries ++ [(place, e)]).lookup place = some e
    rw [List.lookup_append, hnone, Option.none_or, List.lookup_cons_self]

/-- Writing to a place that is no directory puts the file there. -/
theorem write_eq {d : Disk} {cwd target : List Text} {p : Path} (hp : d.locate cwd p = .ok target)
    (hdir : d.entry? target ≠ some .directory) (content : Bytes) :
    d.write cwd p content = .ok (d.set target (.file content)) := by
  rw [write, hp]
  dsimp only
  split
  · next he => exact absurd he hdir
  · rfl

/-! ## Naming a file -/

/-- A working directory: names, and all of them directories. -/
structure IsWorkingDirectory (d : Disk) (cwd : List Text) : Prop where
  names : ∀ c ∈ cwd, Path.IsName c
  real : d.IsReal cwd

/-- A path that leads to a file through no link. The full path of the file is one that a system
takes. -/
structure Names (d : Disk) (cwd : List Text) (p : Path) (place : List Text) (content : Bytes) :
    Prop where
  walk : d.Walk (if p.isAbsolute then [] else cwd) p.parts place
  allowed : Allowed p
  file : d.entry? place = some (.file content)
  allowed_full : Allowed ⟨max 1 p.slashes, place⟩

namespace Names

variable {cwd : List Text} {content : Bytes}

theorem read {p : Path} (h : d.Names cwd p place content) : d.read cwd p = .ok content :=
  read_of_locate (h.allowed.locate h.walk) h.file

theorem real_start {p : Path} (hcwd : d.IsWorkingDirectory cwd) :
    d.IsReal (if p.isAbsolute then [] else cwd) := by
  split
  · exact .nil
  · exact hcwd.real

/-- The file is read under its full path. -/
theorem read_full {p : Path} (h : d.Names cwd p place content) (hcwd : d.IsWorkingDirectory cwd) :
    d.read cwd ⟨max 1 p.slashes, place⟩ = .ok content := by
  refine read_of_locate (h.allowed_full.locate ?_) h.file
  have habs : (Path.mk (max 1 p.slashes) place).isAbsolute = true := by
    rw [Path.isAbsolute, decide_eq_true_eq]
    exact Nat.lt_of_lt_of_le Nat.one_pos (Nat.le_max_left 1 p.slashes)
  rw [habs]
  exact h.walk.full (real_start hcwd)

variable {t : Text}

theorem evaluate (h : d.Names cwd (.ofText t) place content) (hcwd : d.IsWorkingDirectory cwd) :
    Path.evaluate ((if (Path.ofText t).isAbsolute then [] else cwd) ++ Path.components t) =
      place :=
  h.walk.evaluate (real_start hcwd).not_mem

/-- Normalising the text of a path gives the full path of the file that it names. -/
theorem normalise (h : d.Names cwd (.ofText t) place content) (hcwd : d.IsWorkingDirectory cwd) :
    Path.normalise (Path.text ⟨1, cwd⟩) (Path.ofText t).text =
      ⟨max 1 (Path.leadingSlashes t), place⟩ := by
  have hplace := h.evaluate hcwd
  have hback : Path.ofText (Path.ofText t).text = Path.ofText t :=
    Path.ofText_text (Path.leadingSlashes_le t) fun c hc => Path.isName_of_mem_components hc
  have hslashes : Path.leadingSlashes (Path.ofText t).text = Path.leadingSlashes t :=
    congrArg Path.slashes hback
  have hparts : Path.components (Path.ofText t).text = Path.components t :=
    congrArg Path.parts hback
  by_cases hrel : Path.leadingSlashes t = 0
  · have habs : (Path.ofText t).isAbsolute = false := by
      simp [Path.isAbsolute, Path.ofText, hrel]
    rw [habs] at hplace
    rw [Path.normalise_relative hcwd.names (by omega), hparts, hrel]
    exact congrArg (Path.mk 1) hplace
  · have habs : (Path.ofText t).isAbsolute = true := by
      rw [Path.isAbsolute, decide_eq_true_eq]
      exact Nat.pos_of_ne_zero hrel
    rw [habs] at hplace
    rw [Path.normalise_absolute _ (by omega), hparts, hslashes, Nat.max_eq_right (by omega)]
    exact congrArg (Path.mk _) hplace

/-- That full path is in normal form. -/
theorem normalise_full (h : d.Names cwd (.ofText t) place content)
    (hcwd : d.IsWorkingDirectory cwd) :
    Path.normalise (Path.text ⟨1, cwd⟩) (Path.text ⟨max 1 (Path.leadingSlashes t), place⟩) =
      ⟨max 1 (Path.leadingSlashes t), place⟩ := by
  rw [← h.normalise hcwd]
  exact (Path.isNormal_normalise (Path.head?_text cwd) _).normalise_text _

end Names

end Disk

end DartComments

import DartComments.Proofs.Disk.Basic

/-!
# Writing a file

Writing to a path changes the entry at one place, the one that the path leads to through whatever
links there are, and nothing else (`locate_of_entry?_ne`). After that the path still leads there, so
that what has been written is what is read (`read_write`).
-/

namespace DartComments

namespace Disk

variable {d d' : Disk} {cwd place todo target : List Text} {p : Path} {content : Bytes}

/-- What is set at a full path leaves all others as they are. -/
theorem entry?_set_of_ne (d : Disk) {other : List Text} (h : other ≠ place) (e : Entry) :
    Disk.entry? (d.set place e) other = d.entry? other := by
  have hne : (other == place) = false := by simpa using h
  rw [ entry?, entry?, set]
  split
  · rfl
  · split
    · generalize d.entries = entries
      induction entries with
      | nil => rfl
      | cons q entries ih =>
        rw [List.map_cons, List.lookup_cons, List.lookup_cons, ih]
        by_cases hq : q.1 = place
        · rw [if_pos hq, hq]
          dsimp only
          rw [hne]
        · rw [if_neg hq]
    · show (d.entries ++ [(place, e)]).lookup other = _
      rw [List.lookup_append, List.lookup_cons, hne, List.lookup_nil, Option.or_none]

theorem write_eq_ok : d.write cwd p content = .ok d' ↔ ∃ target, d.locate cwd p = .ok target ∧
    d.entry? target ≠ some .directory ∧ d' = d.set target (.file content) := by
  constructor
  · intro h
    rw [write] at h
    cases hl : d.locate cwd p with
    | error f =>
      rw [hl] at h
      cases h
    | ok target =>
      rw [hl] at h
      dsimp only at h
      split at h
      · cases h
      · next hdir =>
        cases h
        exact ⟨target, rfl, hdir, rfl⟩
  · rintro ⟨target, hl, hdir, rfl⟩
    exact write_eq hl hdir content

/-- A write that changes an entry was to a path that leads there. -/
theorem locate_of_entry?_ne (h : d.write cwd p content = .ok d')
    (hne : d'.entry? place ≠ d.entry? place) : d.locate cwd p = .ok place := by
  obtain ⟨target, hl, -, rfl⟩ := write_eq_ok.mp h
  by_cases he : place = target
  · rw [he]
    exact hl
  · exact absurd (entry?_set_of_ne d he _) hne

theorem ne_nil_of_not_directory (h : d.entry? place ≠ some .directory) : place ≠ [] := by
  rintro rfl
  exact h rfl

theorem entry?_write (h : d.write cwd p content = .ok d') (hl : d.locate cwd p = .ok target) :
    d'.entry? target = some (.file content) := by
  obtain ⟨_, hl', hdir, rfl⟩ := write_eq_ok.mp h
  rw [hl] at hl'
  cases hl'
  exact d.entry?_set_self (ne_nil_of_not_directory hdir) _

/-! ## The path after the write -/

/-- From the directory `place` the components lead to a last place, by at most so many links. -/
inductive Leads (d : Disk) : Nat → List Text → List Text → List Text → Prop
  | done {links : Nat} (place : List Text) : Leads d links place [] place
  | up {links : Nat} {place rest final : List Text} :
      Leads d links place.dropLast rest final → Leads d links place (Path.dotDot :: rest) final
  | down {links : Nat} {place rest final : List Text} {c : Text} :
      c ≠ Path.dotDot → byteLength c ≤ nameLimit → d.entry? (place ++ [c]) = some .directory →
      Leads d links (place ++ [c]) rest final → Leads d links place (c :: rest) final
  | last {links : Nat} {place : List Text} {c : Text} :
      c ≠ Path.dotDot → byteLength c ≤ nameLimit →
      (d.entry? (place ++ [c]) = none ∨ ∃ content, d.entry? (place ++ [c]) = some (.file content)) →
      Leads d links place [c] (place ++ [c])
  | follow {links : Nat} {place rest final : List Text} {c t : Text} :
      c ≠ Path.dotDot → byteLength c ≤ nameLimit → d.entry? (place ++ [c]) = some (.link t) →
      Leads d links (if 0 < Path.leadingSlashes t then [] else place) (Path.components t ++ rest)
        final →
      Leads d (links + 1) place (c :: rest) final

/-- Resolving gives a place exactly when the components lead there. -/
theorem resolve_eq_ok {links : Nat} {final : List Text} :
    d.resolve links place todo = .ok final ↔ d.Leads links place todo final := by
  constructor
  · intro h
    fun_induction Disk.resolve d links place todo with
    | case1 links place =>
      rw [← Except.ok.inj h]
      exact .done place
    | case2 links place rest ih => exact .up (ih h)
    | case3 => cases h
    | case4 links place c rest hc hn next he hrest =>
      rw [← Except.ok.inj h, List.isEmpty_iff.mp hrest]
      exact .last hc (by omega) (.inl he)
    | case5 => cases h
    | case6 links place c rest hc hn next he ih => exact .down hc (by omega) he (ih h)
    | case7 links place c rest hc hn next content he hrest =>
      rw [← Except.ok.inj h, List.isEmpty_iff.mp hrest]
      exact .last hc (by omega) (.inr ⟨content, he⟩)
    | case8 => cases h
    | case9 => cases h
    | case10 place c rest hc hn next t he links start ih => exact .follow hc (by omega) he (ih h)
  · intro h
    induction h with
    | done place => rw [Disk.resolve]
    | up _ ih => rw [Disk.resolve, if_pos rfl, ih]
    | down hc hn he _ ih =>
      rw [Disk.resolve, if_neg hc, if_neg (by omega)]
      dsimp only
      rw [he]
      exact ih
    | last hc hn he =>
      rw [Disk.resolve, if_neg hc, if_neg (by omega)]
      dsimp only
      rcases he with he | ⟨content, he⟩
      · rw [he]
        rfl
      · rw [he]
        rfl
    | follow hc hn he _ ih =>
      rw [Disk.resolve, if_neg hc, if_neg (by omega)]
      dsimp only
      rw [he]
      exact ih

theorem IsReal.entry? (h : d.IsReal place) : d.entry? place = some .directory := by
  rcases List.eq_nil_or_concat place with rfl | ⟨q, c, rfl⟩
  · rfl
  · rw [List.concat_eq_append] at h ⊢
    exact (h q c (List.prefix_refl _)).2.2

/-- From a real directory nothing leads to a link. -/
theorem Leads.entry?_ne_link {links : Nat} {final : List Text}
    (h : d.Leads links place todo final) (hreal : d.IsReal place) (t : Text) :
    d.entry? final ≠ some (.link t) := by
  induction h with
  | done place =>
    rw [hreal.entry?]
    simp
  | up _ ih => exact ih (hreal.of_prefix (List.dropLast_prefix _))
  | down hc hn he _ ih => exact ih (hreal.concat hc hn he)
  | last _ _ he =>
    rcases he with he | ⟨content, he⟩
    · rw [he]
      simp
    · rw [he]
      simp
  | follow _ _ _ _ ih =>
    refine ih ?_
    split
    · exact .nil
    · exact hreal

/-- A file that is set where the components lead, in the place of a file or of nothing, leaves them
leading there. -/
theorem Leads.set {links : Nat} (h : d.Leads links place todo target)
    (hdir : d.entry? target ≠ some .directory) (hlink : ∀ t, d.entry? target ≠ some (.link t))
    (content : Bytes) :
    Disk.Leads (d.set target (.file content)) links place todo target := by
  induction h with
  | done place => exact .done place
  | up _ ih => exact .up (ih hdir hlink)
  | down hc hn he _ ih =>
    refine .down hc hn ?_ (ih hdir hlink)
    rw [entry?_set_of_ne, he]
    intro heq
    exact hdir (heq ▸ he)
  | last hc hn _ =>
    exact .last hc hn (.inr ⟨content, d.entry?_set_self (ne_nil_of_not_directory hdir) _⟩)
  | @follow _ _ _ _ _ t hc hn he _ ih =>
    refine .follow (t := t) hc hn ?_ (ih hdir hlink)
    rw [entry?_set_of_ne, he]
    intro heq
    exact hlink t (heq ▸ he)

/-- Where a path leads, if it leads anywhere, is found by resolving it. -/
theorem locate_eq_ok : d.locate cwd p = .ok place ↔
    Allowed p ∧ d.Leads linkLimit (if p.isAbsolute then [] else cwd) p.parts place := by
  rw [locate]
  constructor
  · intro h
    split at h
    · cases h
    · next hzero =>
      split at h
      · cases h
      · next hlen => exact ⟨⟨by simpa using hzero, by omega⟩, resolve_eq_ok.mp h⟩
  · rintro ⟨hp, h⟩
    have hshort := hp.short
    rw [hp.no_zero, if_neg (by simp), if_neg (by omega)]
    exact resolve_eq_ok.mpr h

/-- What is written under a full path is what is read there. -/
theorem read_write (habs : p.isAbsolute = true) (h : d.write cwd p content = .ok d') :
    d'.read cwd p = .ok content := by
  obtain ⟨target, hl, hdir, rfl⟩ := write_eq_ok.mp h
  obtain ⟨hp, hleads⟩ := locate_eq_ok.mp hl
  have hlink : ∀ t, d.entry? target ≠ some (.link t) := by
    rw [habs] at hleads
    exact hleads.entry?_ne_link .nil
  have hl' : Disk.locate (d.set target (.file content)) cwd p = .ok target :=
    locate_eq_ok.mpr ⟨hp, hleads.set hdir hlink content⟩
  exact read_of_locate hl' (d.entry?_set_self (ne_nil_of_not_directory hdir) _)

/-- A name in the working directory that is no link leads to itself. -/
theorem locate_child {name : Text} (hcwd : d.IsReal cwd) (hname : name ≠ Path.dotDot)
    (hshort : byteLength name ≤ nameLimit) (hlink : ∀ t, d.entry? (cwd ++ [name]) ≠ some (.link t))
    (h : d.locate cwd (Path.child ⟨1, cwd⟩ name) = .ok place) : place = cwd ++ [name] := by
  obtain ⟨-, hleads⟩ := locate_eq_ok.mp h
  have hwalk : d.Walk [] (cwd ++ [name]) (cwd ++ [name]) := by
    refine IsReal.walk [] hcwd ?_
    cases he : d.entry? (cwd ++ [name]) with
    | none => exact .last hname hshort (.inl he)
    | some e =>
      cases e with
      | file content => exact .last hname hshort (.inr ⟨content, he⟩)
      | directory => exact .down hname hshort he (.done _)
      | link t => exact absurd he (hlink t)
  have hresolve := resolve_eq_ok.mpr hleads
  rw [show Path.isAbsolute (Path.child ⟨1, cwd⟩ name) = true from rfl, if_pos rfl] at hresolve
  exact (Except.ok.inj ((hwalk.resolve linkLimit).symm.trans hresolve)).symm

end Disk

end DartComments

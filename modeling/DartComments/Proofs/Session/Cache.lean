import DartComments.Proofs.Session

/-!
# What a session remembers

While a session is open it is asked for units and for its files, and others create, change and
remove files. `Stage.readings` lists the files that are read and parsed on the way, each under the
one path that all its spellings have in common. The units of a session are the units of these
readings (`units_run`), no path is read twice (`nodup_readings`), and a call for a path that has
been read is answered without a look at the disk.
-/

namespace DartComments

namespace Session

/-- The path under which the unit of a spelling is kept. -/
def key (cwd : List Text) (path : Text) : Path := Path.normalise (Path.text ⟨1, cwd⟩) path

/-- What can happen while a session is open. -/
inductive Operation where
  | unit (path : Text)
  | files
  /-- Others create, change or remove files. -/
  | change (disk : Disk)

/-- A session, and the disk as it is at the time. -/
structure Stage where
  session : Session
  disk : Disk

/-- The unit that a reading of a file leaves under its path. -/
def remembered (parser : Parser) (reading : Path × Bytes) : Path × SourceUnit :=
  (reading.1, .ofFile parser (some reading.1.text) reading.2)

/-- The three ways of a call for a unit: it is remembered, its file is read, or that fails. -/
theorem unit_cases (session : Session) (parser : Parser) (disk : Disk) (cwd : List Text)
    (path : Text) :
    (∃ u, session.units.lookup (key cwd path) = some u ∧
      session.unit parser disk cwd path = .ok (u, session)) ∨
    (∃ raw, session.units.lookup (key cwd path) = none ∧
      disk.read cwd (key cwd path) = .ok raw ∧
      session.unit parser disk cwd path =
        .ok (.ofFile parser (some (key cwd path).text) raw,
          { session with units := session.units ++ [remembered parser (key cwd path, raw)] })) ∨
    ∃ e, session.units.lookup (key cwd path) = none ∧
      disk.read cwd (key cwd path) = .error e ∧
      session.unit parser disk cwd path = .error (.disk e) := by
  cases hlookup : session.units.lookup (key cwd path) with
  | some u =>
    refine .inl ⟨u, rfl, ?_⟩
    rw [unit, ← key, hlookup]
  | none =>
    cases hread : disk.read cwd (key cwd path) with
    | ok raw =>
      refine .inr (.inl ⟨raw, rfl, rfl, ?_⟩)
      rw [unit, ← key, hlookup, load_of_read parser hread]
      rfl
    | error e =>
      refine .inr (.inr ⟨e, rfl, rfl, ?_⟩)
      rw [unit, ← key, hlookup, load, hread]
      rfl

namespace Stage

section

variable (parser : Parser) (cwd : List Text)

/-- What a call for a unit returns. -/
def ask (s : Stage) (path : Text) : Except Failure SourceUnit :=
  (s.session.unit parser s.disk cwd path).map (·.1)

/-- The stage after an operation. -/
def next (s : Stage) : Operation → Stage
  | .unit path =>
    match s.session.unit parser s.disk cwd path with
    | .ok (_, session) => { s with session }
    | .error _ => s
  | .files => s
  | .change disk => { s with disk }

/-- The stage after some operations. -/
def run (s : Stage) (ops : List Operation) : Stage := ops.foldl (next parser cwd) s

/-- The file that an operation reads and parses, with its bytes. -/
def reading? (s : Stage) : Operation → Option (Path × Bytes)
  | .unit path =>
    match s.session.units.lookup (key cwd path), s.disk.read cwd (key cwd path) with
    | none, .ok raw => some (key cwd path, raw)
    | _, _ => none
  | _ => none

/-- The files that are read and parsed in the course of some operations. -/
def readings : Stage → List Operation → List (Path × Bytes)
  | _, [] => []
  | s, op :: ops => (s.reading? cwd op).toList ++ readings (s.next parser cwd op) ops

end

variable {parser : Parser} {cwd : List Text}

/-! ## One operation -/

/-- What an operation adds to the units is what it reads. -/
theorem units_next (s : Stage) (op : Operation) :
    (s.next parser cwd op).session.units =
      s.session.units ++ (s.reading? cwd op).toList.map (remembered parser) := by
  cases op with
  | files => exact (List.append_nil _).symm
  | change disk => exact (List.append_nil _).symm
  | unit path =>
    rw [next, reading?]
    rcases unit_cases s.session parser s.disk cwd path with
      ⟨u, hlookup, hunit⟩ | ⟨raw, hlookup, hread, hunit⟩ | ⟨e, hlookup, hread, hunit⟩
    · rw [hunit, hlookup]
      exact (List.append_nil _).symm
    · rw [hunit, hlookup, hread]
      rfl
    · rw [hunit, hlookup, hread]
      exact (List.append_nil _).symm

/-- Only what is not remembered is read. -/
theorem reading?_eq_some {s : Stage} {op : Operation} {k : Path} {raw : Bytes}
    (h : s.reading? cwd op = some (k, raw)) :
    s.session.units.lookup k = none ∧ s.disk.read cwd k = .ok raw ∧
      ∃ path, op = .unit path ∧ key cwd path = k := by
  cases op with
  | files => cases h
  | change disk => cases h
  | unit path =>
    rw [reading?] at h
    split at h
    · next hlookup hread =>
      cases h
      exact ⟨hlookup, hread, path, rfl, rfl⟩
    · cases h

/-- What is remembered before an operation is remembered after it. -/
theorem lookup_next {s : Stage} {k : Path} {u : SourceUnit}
    (h : s.session.units.lookup k = some u) (op : Operation) :
    (s.next parser cwd op).session.units.lookup k = some u := by
  rw [units_next, List.lookup_append, h]
  rfl

/-- A call returns what is remembered. -/
theorem ask_of_lookup {s : Stage} {path : Text} {u : SourceUnit}
    (h : s.session.units.lookup (key cwd path) = some u) : s.ask parser cwd path = .ok u := by
  rcases unit_cases s.session parser s.disk cwd path with
    ⟨u', hlookup, hunit⟩ | ⟨raw, hlookup, -⟩ | ⟨e, hlookup, -⟩
  · cases hlookup.symm.trans h
    rw [ask, hunit]
    rfl
  · cases hlookup.symm.trans h
  · cases hlookup.symm.trans h

/-- What is not remembered is returned as the disk has it at the time. -/
theorem ask_of_read {s : Stage} {path : Text} {raw : Bytes}
    (h : s.session.units.lookup (key cwd path) = none)
    (hread : s.disk.read cwd (key cwd path) = .ok raw) :
    s.ask parser cwd path = .ok (.ofFile parser (some (key cwd path).text) raw) := by
  rcases unit_cases s.session parser s.disk cwd path with
    ⟨u, hlookup, -⟩ | ⟨raw', -, hread', hunit⟩ | ⟨e, -, hread', -⟩
  · cases hlookup.symm.trans h
  · cases hread'.symm.trans hread
    rw [ask, hunit]
    rfl
  · cases hread'.symm.trans hread

/-- What a call returns is remembered from then on. -/
theorem lookup_next_of_ask {s : Stage} {path : Text} {u : SourceUnit}
    (h : s.ask parser cwd path = .ok u) :
    (s.next parser cwd (.unit path)).session.units.lookup (key cwd path) = some u := by
  rcases unit_cases s.session parser s.disk cwd path with
    ⟨u', hlookup, hunit⟩ | ⟨raw, hlookup, -, hunit⟩ | ⟨e, -, -, hunit⟩
  · rw [ask, hunit] at h
    cases h
    exact lookup_next hlookup _
  · rw [ask, hunit] at h
    cases h
    rw [next, hunit]
    show (s.session.units ++ [_]).lookup _ = _
    rw [List.lookup_append, hlookup, remembered]
    simp
  · rw [ask, hunit] at h
    cases h

/-- A call that fails leaves everything as it was. -/
theorem next_of_ask_error {s : Stage} {path : Text} {e : Failure}
    (h : s.ask parser cwd path = .error e) :
    s.session.units.lookup (key cwd path) = none ∧ s.next parser cwd (.unit path) = s := by
  rcases unit_cases s.session parser s.disk cwd path with
    ⟨u, -, hunit⟩ | ⟨raw, -, -, hunit⟩ | ⟨e', hlookup, -, hunit⟩
  · rw [ask, hunit] at h
    cases h
  · rw [ask, hunit] at h
    cases h
  · rw [next, hunit]
    exact ⟨hlookup, rfl⟩

/-! ## Any number of operations -/

/-- The units after some operations are those before, and the units of the readings. -/
theorem units_run (s : Stage) (ops : List Operation) :
    (s.run parser cwd ops).session.units =
      s.session.units ++ (s.readings parser cwd ops).map (remembered parser) := by
  induction ops generalizing s with
  | nil => exact (List.append_nil _).symm
  | cons op ops ih =>
    show ((s.next parser cwd op).run parser cwd ops).session.units = _
    rw [ih, units_next, readings, List.map_append, List.append_assoc]

theorem lookup_run {s : Stage} {k : Path} {u : SourceUnit}
    (h : s.session.units.lookup k = some u) (ops : List Operation) :
    (s.run parser cwd ops).session.units.lookup k = some u := by
  rw [units_run, List.lookup_append, h]
  rfl

/-- Each reading is made by a call, of a file that is not remembered at the time. -/
theorem exists_call_of_mem_readings {s : Stage} {ops : List Operation} {k : Path} {raw : Bytes}
    (h : (k, raw) ∈ s.readings parser cwd ops) :
    ∃ before path later, ops = before ++ .unit path :: later ∧ key cwd path = k ∧
      (s.run parser cwd before).session.units.lookup k = none ∧
      (s.run parser cwd before).disk.read cwd k = .ok raw := by
  induction ops generalizing s with
  | nil => cases h
  | cons op ops ih =>
    rw [readings, List.mem_append, Option.mem_toList] at h
    rcases h with h | h
    · obtain ⟨hlookup, hread, path, rfl, hkey⟩ := reading?_eq_some h
      exact ⟨[], path, ops, rfl, hkey, hlookup, hread⟩
    · obtain ⟨before, path, later, rfl, hkey, hlookup, hread⟩ := ih h
      exact ⟨op :: before, path, later, rfl, hkey, hlookup, hread⟩

/-- What is remembered is not read again. -/
theorem lookup_eq_none_of_mem_readings {s : Stage} {ops : List Operation} {k : Path} {raw : Bytes}
    (h : (k, raw) ∈ s.readings parser cwd ops) : s.session.units.lookup k = none := by
  obtain ⟨before, path, later, -, -, hlookup, -⟩ := exists_call_of_mem_readings h
  cases hs : s.session.units.lookup k with
  | none => rfl
  | some u => cases (lookup_run hs before).symm.trans hlookup

/-- No path is read twice. -/
theorem nodup_readings (s : Stage) (ops : List Operation) :
    ((s.readings parser cwd ops).map Prod.fst).Nodup := by
  induction ops generalizing s with
  | nil => exact List.nodup_nil
  | cons op ops ih =>
    rw [readings]
    cases hr : s.reading? cwd op with
    | none => exact ih _
    | some reading =>
      obtain ⟨k, raw⟩ := reading
      refine List.nodup_cons.mpr ⟨fun hmem => ?_, ih _⟩
      obtain ⟨⟨k', raw'⟩, hagain, rfl⟩ := List.mem_map.mp hmem
      -- the first reading of the path is remembered, so the second finds it
      have hfirst : (s.next parser cwd op).session.units.lookup k' =
          some (.ofFile parser (some k'.text) raw) := by
        rw [units_next, hr, List.lookup_append, (reading?_eq_some hr).1]
        simp [remembered]
      cases hfirst.symm.trans (lookup_eq_none_of_mem_readings hagain)

/-- A path for which every call has failed is not remembered. -/
theorem lookup_run_of_failed {s : Stage} {k : Path} (h : s.session.units.lookup k = none)
    {ops : List Operation}
    (hfailed : ∀ before path later, ops = before ++ .unit path :: later → key cwd path = k →
      ∃ e, (s.run parser cwd before).ask parser cwd path = .error e) :
    (s.run parser cwd ops).session.units.lookup k = none := by
  rw [units_run, List.lookup_append, h, Option.none_or, List.lookup_eq_none_iff]
  rintro ⟨k', u⟩ hmem
  obtain ⟨⟨k'', raw⟩, hreading, heq⟩ := List.mem_map.mp hmem
  cases heq
  obtain ⟨before, path, later, hops, hkey, hlookup, hread⟩ := exists_call_of_mem_readings hreading
  rw [bne_iff_ne]
  rintro rfl
  obtain ⟨e, he⟩ := hfailed before path later hops hkey
  subst hkey
  rw [ask_of_read hlookup hread] at he
  cases he

end Stage

open Stage in
/-- **A session keeps what it has read.** Over any operations, with any changes of the disk between
them: the units of a session are those of its readings, and no path is read twice; a unit that is
kept has its path and the bytes that were there at the first successful call; a unit that has been
returned is returned by every later call for that path; and a call that fails keeps nothing, so that
the first call to find a file returns it as it is by then. -/
theorem session_keeps_first_reading (parser : Parser) (cwd : List Text) (root : Text) (disk : Disk)
    (ops : List Operation) :
    let start : Stage := ⟨Session.start (Path.text ⟨1, cwd⟩) root, disk⟩
    let s := start.run parser cwd ops
    s.session.units = (start.readings parser cwd ops).map (remembered parser) ∧
    ((start.readings parser cwd ops).map Prod.fst).Nodup ∧
    (∀ k u, s.session.units.lookup k = some u → u.path = some k.text ∧
      ∃ before path later, ops = before ++ .unit path :: later ∧ key cwd path = k ∧
        (start.run parser cwd before).session.units.lookup k = none ∧
        (start.run parser cwd before).disk.read cwd k = .ok u.bytes) ∧
    (∀ path u, s.ask parser cwd path = .ok u → ∀ later path', key cwd path' = key cwd path →
      ((s.next parser cwd (.unit path)).run parser cwd later).ask parser cwd path' = .ok u) ∧
    (∀ path e, s.ask parser cwd path = .error e →
      (s.next parser cwd (.unit path)).session = s.session ∧
      ∀ later, (∀ before q after, later = before ++ .unit q :: after →
          key cwd q = key cwd path →
          ∃ e', ((s.next parser cwd (.unit path)).run parser cwd before).ask parser cwd q =
            .error e') →
        let t := (s.next parser cwd (.unit path)).run parser cwd later
        ∀ path' raw, key cwd path' = key cwd path → t.disk.read cwd (key cwd path) = .ok raw →
          t.ask parser cwd path' = .ok (.ofFile parser (some (key cwd path).text) raw)) := by
  intro start s
  have hunits : s.session.units = (start.readings parser cwd ops).map (remembered parser) :=
    units_run start ops
  refine ⟨hunits, nodup_readings start ops, fun k u hlookup => ?_, fun path u hask => ?_,
    fun path e hask => ?_⟩
  · rw [hunits] at hlookup
    obtain ⟨before, after, happend, -⟩ := List.lookup_eq_some_iff.mp hlookup
    have hmem : (k, u) ∈ (start.readings parser cwd ops).map (remembered parser) := by
      rw [happend]
      simp
    obtain ⟨⟨k', raw⟩, hreading, heq⟩ := List.mem_map.mp hmem
    cases heq
    exact ⟨rfl, exists_call_of_mem_readings hreading⟩
  · intro later path' hkey
    refine ask_of_lookup (lookup_run ?_ later)
    rw [hkey]
    exact lookup_next_of_ask hask
  · obtain ⟨hlookup, hnext⟩ := next_of_ask_error hask
    rw [hnext]
    refine ⟨rfl, fun later hfailed path' raw hkey hread => ?_⟩
    rw [← hkey] at hread hlookup hfailed ⊢
    exact ask_of_read (lookup_run_of_failed hlookup hfailed) hread

end Session

end DartComments

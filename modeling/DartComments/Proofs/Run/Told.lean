import DartComments.Proofs.Run

/-!
# What a run tells

Of the events of a run three things can be seen from outside: what it prints, what it reports and
what it sends. Lines of progress are among what it prints, and only when progress is wanted. `Tells`
keeps the lines apart from the question whether they are printed, so that the same can be told of
two runs of which one is quiet.
-/

namespace DartComments

/-- A text with a line feed after it. -/
def Text.asLine (t : Text) : Text := t ++ "\n"

/-- What an event prints. -/
def Event.print : Event → Text
  | .printed t => t
  | _ => []

theorem World.stdout_eq_flatMap (w : World) : w.stdout = w.trace.flatMap Event.print := by
  refine congrArg (List.flatMap · w.trace) (funext fun e => ?_)
  cases e <;> rfl

/-- Some events tell `lines` of progress, which are printed when progress is wanted, report `report`
and send `rs`. -/
structure Tells (verbose : Bool) (es : List Event) (lines : List Text) (report : Text)
    (rs : List Request) : Prop where
  printed : es.flatMap Event.print = if verbose then lines.flatMap Text.asLine else []
  reported : es.flatMap Event.report = report
  sent : es.filterMap Event.request? = rs

namespace Tells

variable {verbose : Bool} {es es' : List Event} {lines lines' : List Text} {report report' : Text}
  {rs rs' : List Request}

theorem nil : Tells verbose [] [] [] [] := by
  refine ⟨?_, rfl, rfl⟩
  cases verbose <;> rfl

theorem append (h : Tells verbose es lines report rs) (h' : Tells verbose es' lines' report' rs') :
    Tells verbose (es ++ es') (lines ++ lines') (report ++ report') (rs ++ rs') := by
  refine ⟨?_, ?_, ?_⟩
  · rw [List.flatMap_append, h.printed, h'.printed]
    cases verbose <;> simp
  · rw [List.flatMap_append, h.reported, h'.reported]
  · rw [List.filterMap_append, h.sent, h'.sent]

theorem progress (w : World) (t : Text) :
    Tells w.verbosity.isTruthy (w.progress t) [t] [] [] := by
  refine ⟨?_, w.flatMap_progress t, w.filterMap_progress t⟩
  rw [World.progress]
  cases w.verbosity.isTruthy with
  | true => simp [Event.print, Text.asLine]
  | false => rfl

theorem sent_one (r : Request) : Tells verbose [.sent r] [] [] [r] := by
  refine ⟨?_, rfl, rfl⟩
  cases verbose <;> rfl

theorem reported_one (t : Text) : Tells verbose [.reported t] [] t [] := by
  refine ⟨?_, List.append_nil t, rfl⟩
  cases verbose <;> rfl

theorem saved_one (p : Path) (content : Bytes) : Tells verbose [.saved p content] [] [] [] := by
  refine ⟨?_, rfl, rfl⟩
  cases verbose <;> rfl

end Tells

/-- From one world to a later one, this is told. -/
def World.Told (w v : World) (lines : List Text) (report : Text) (rs : List Request) : Prop :=
  ∃ es, v.trace = w.trace ++ es ∧ Tells w.verbosity.isTruthy es lines report rs

theorem World.Told.after {w v : World} {es : List Event} {lines lines' : List Text}
    {report report' : Text} {rs rs' : List Request}
    (h : Tells w.verbosity.isTruthy es lines report rs)
    (h' : (w.log es).Told v lines' report' rs') :
    w.Told v (lines ++ lines') (report ++ report') (rs ++ rs') := by
  obtain ⟨es', htrace, htells⟩ := h'
  refine ⟨es ++ es', ?_, h.append htells⟩
  rw [htrace]
  exact List.append_assoc _ _ _

theorem World.told_self (w : World) : w.Told w [] [] [] :=
  ⟨[], (List.append_nil _).symm, .nil⟩

theorem World.told_reported (w : World) (t : Text) : w.Told (w.log [.reported t]) [] t [] :=
  ⟨_, rfl, .reported_one t⟩

/-- A report that follows is told after the others. -/
theorem World.Told.report {w v : World} {lines : List Text} {report : Text} {rs : List Request}
    (h : w.Told v lines report rs) (t : Text) :
    w.Told (v.log [.reported t]) lines (report ++ t) rs := by
  obtain ⟨es, htrace, htells⟩ := h
  have hall := htells.append (.reported_one t)
  rw [List.append_nil lines, List.append_nil rs] at hall
  refine ⟨es ++ [.reported t], ?_, hall⟩
  rw [World.log, htrace, List.append_assoc]

end DartComments

import DartComments.World

/-!
# Progress and diagnostics

Values printed on one line, with a separator between them and an ending; both can be chosen.
Diagnostics always have a blank between the values and end with a line feed.
-/

namespace DartComments

namespace Console

/-- A text option; absent or null means the usual text. -/
def textOption (options : List (Text × Json)) (name usual : Text) : Except PrintError Text :=
  match Json.lookup name options with
  | none => .ok usual
  | some .null => .ok usual
  | some (.str t) => .ok t
  | some v => .error (.notText name v.kindName)

/-- The names of the options that printing knows. -/
def optionNames : List Text := ["sep", "end", "file", "flush"]

/-- The line that values make. -/
def line (values : List Json) (options : List (Text × Json)) : Except PrintError Text := do
  match options.find? fun o => ! optionNames.contains o.1 with
  | some o => .error (.unknownOption o.1)
  | none => pure ()
  let separator ← textOption options "sep" " "
  let ending ← textOption options "end" "\n"
  match Json.lookup "file" options with
  | none => pure ()
  | some .null => pure ()
  | some v => .error (.notWritable v.kindName)
  pure (Text.join separator (values.map Json.display) ++ ending)

/-- Prints values while progress is wanted; otherwise nothing is looked at. -/
def echo (values : List Json) (options : List (Text × Json)) : Action Unit := do
  if (← get).verbosity.isTruthy then
    let t ← Action.ofExcept .print (line values options)
    Action.emit (.printed t)

/-- Reports values. -/
def error (values : List Json) : Action Unit :=
  Action.report (Text.join (Text.ofString " ") (values.map Json.display))

/-- Turns progress on or off. -/
def setVerbosity (v : Json) : Action Unit := modify fun w => { w with verbosity := v }

end Console

end DartComments

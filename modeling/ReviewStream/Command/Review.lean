import ReviewStream.Text.Integer
import ReviewStream.Text.Pieces

/-!
# The review command

A command that posts a message and votes on a patch set.

* `quoteArgument`: an argument between double quotes.
* `ReviewCommand.toText`: the command.
* `Vote.read?`: a vote as it is given by a user.
-/

namespace ReviewStream

/-- Escapes a quote and a backslash by a backslash. -/
def escapeArgument (cs : List Char) : List Char :=
  cs.flatMap fun c => if c = '"' ∨ c = '\\' then ['\\', c] else [c]

/-- An argument between double quotes. -/
def quoteArgument (value : String) : String :=
  String.ofList ('"' :: (escapeArgument value.toList ++ ['"']))

/-- A vote for a label. -/
structure Vote where
  label : String
  value : Int32
deriving DecidableEq

/-- What a review posts. -/
structure ReviewCommand where
  change : UInt64
  patchSet : UInt64
  message : Option String
  votes : List Vote
  tag : Option String
deriving DecidableEq

/-- A number with its sign, zero counting as positive. -/
def signedText (i : Int) : String :=
  if i < 0 then Text.intText i else "+" ++ Text.intText i

namespace Vote

/-- The label and the signed value. -/
def toText (v : Vote) : String := v.label ++ "=" ++ signedText v.value.toInt

/-- Why a text is no vote. -/
inductive ReadError where
  | noValue (text : String)
  | badValue (text : String) (fault : Text.IntegerFault)
deriving DecidableEq

/-- The wording of a reading error with its causes. -/
def ReadError.message : ReadError → String
  | .noValue text => "Label '" ++ text ++ "' is not of the form Label=value"
  | .badValue text fault => "Invalid vote in label '" ++ text ++ "': " ++ fault.message

/-- The vote that a text of the form `Label=value` stands for. -/
def read? (text : String) : Except ReadError Vote :=
  match Text.cutAt '=' text.toList with
  | none => .error (.noValue text)
  | some (label, value) =>
    match Text.readSigned Int32.maxValue.toInt.toNat (value.dropWhile (· == '+')) with
    | .ok i => .ok ⟨String.ofList label, Int32.ofInt i⟩
    | .error fault => .error (.badValue text fault)

end Vote

namespace ReviewCommand

/-- A review that posts nothing yet. -/
def ofPatchSet (change patchSet : UInt64) : ReviewCommand :=
  { change, patchSet, message := none, votes := [], tag := none }

/-- An option with a quoted argument, or nothing. -/
def optionText (name : String) : Option String → String
  | none => ""
  | some value => " --" ++ name ++ " " ++ quoteArgument value

/-- The text of the command. -/
def toText (r : ReviewCommand) : String :=
  "gerrit review " ++ Text.natText r.change.toNat ++ "," ++ Text.natText r.patchSet.toNat
    ++ optionText "message" r.message
    ++ String.join (r.votes.map fun v => " --label " ++ v.toText)
    ++ optionText "tag" r.tag

end ReviewCommand

end ReviewStream

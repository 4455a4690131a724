import ReviewStream.Text.Pieces

/-!
# The project of undecoded data

A scan of serialised JSON that finds the project of an event without decoding it: after the first
occurrence of the word `project`, the value between the first quotes that follow a colon, up to its
first slash.  Nested objects are not understood.
-/

namespace ReviewStream

/-- The word that is looked for. -/
def projectMarker : List Char := "project".toList

/-- The part of a text from the first colon on; without a colon, `whole`. -/
def fromColon (whole after : List Char) : List Char :=
  match Text.cutAt ':' after with
  | some (_, rest) => rest
  | none => whole

/-- The value after an opening quote: up to the closing quote or to a slash before it; empty if
the text ends before the closing quote. -/
def quotedProject (value : List Char) : List Char :=
  match Text.cutAt '"' value with
  | some (inside, _) => Text.before '/' inside
  | none => []

/-- The project that serialised JSON seems to belong to, or the empty text.  If no colon follows
the word, the first quote of the whole text opens the value. -/
def scanProjectChars (data : List Char) : List Char :=
  match Text.afterPiece? projectMarker data with
  | none => []
  | some after =>
    match Text.cutAt '"' (fromColon data after) with
    | none => []
    | some (_, value) => quotedProject value

/-- The project that serialised JSON seems to belong to, or the empty text. -/
def scanProject (data : String) : String :=
  String.ofList (scanProjectChars data.toList)

end ReviewStream

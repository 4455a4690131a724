import ReviewStream.Config.File

/-!
# Saving settings

Settings that a program holds may be more than a file can say: the name of a file need not be a
text, a word may be too great for a TOML integer, and a leap second may stand where no clock shows
one.  Nothing is done to the file before the whole document is there.

* `HeldConfig`: settings as a program holds them.
* `HeldConfig.document`: the text of their file, or the first thing that keeps it from being
  written.
* `HeldConfig.save`: what is found at the path afterwards, the system having answered.
-/

namespace ReviewStream

open Text (Octet)

/-! ## Names of files -/

/-- The name of a file: a text, or octets that are none. -/
inductive FileName where
  | text (s : String)
  | octets (bs : List Octet) (illFormed : Text.decode? bs = none)

/-- The text that a name is. -/
def FileName.text? : FileName → Option String
  | .text s => some s
  | .octets .. => none

/-! ## Settings -/

/-- Settings as a program holds them. -/
structure HeldConfig where
  /-- The settings without the names of files; the entries of servers are in the order in which
  their map lists them. -/
  rest : Config
  privateKeyFile : Option FileName
  location : Option FileName
  privateKeyFile_rest : rest.connection.privateKeyFile = none
  location_rest : rest.whitelist.location = none
  /-- The windows are between any times that can be held. -/
  inRange : ∀ w ∈ rest.connection.watchdogWindows, w.InRange
  /-- A server has no more than one entry. -/
  distinct : (rest.dispatch.ignoreEmail.map Prod.fst).Nodup

/-- The settings without their passphrase. -/
def Config.withoutPassphrase (c : Config) : Config :=
  { c with connection := { c.connection with passphrase := none } }

namespace HeldConfig

/-- The settings without their passphrase. -/
def withoutPassphrase (s : HeldConfig) : HeldConfig :=
  { s with rest := s.rest.withoutPassphrase }

/-- The settings with names of files that are texts. -/
def named (s : HeldConfig) (privateKeyFile location : Option String) : Config :=
  { s.rest with
    connection := { s.rest.connection with privateKeyFile }
    whitelist := { s.rest.whitelist with location } }

/-- The settings, if the names of files are texts. -/
def texts? (s : HeldConfig) : Option Config := do
  let privateKeyFile ← s.privateKeyFile.mapM FileName.text?
  let location ← s.location.mapM FileName.text?
  pure (s.named privateKeyFile location)

/-- Whether the settings can be written as a document: the names of files are texts, and every word
fits into a TOML integer. -/
structure IsWritable (s : HeldConfig) : Prop where
  texts : s.texts?.isSome
  words : ∀ n ∈ s.rest.words, (n.toNat : Int) ≤ Int64.maxValue.toInt

end HeldConfig

/-! ## Documents -/

/-- Why settings that a program holds were not saved. -/
inductive SaveFault where
  | unsaved (e : SaveError)
  /-- The name of a file is no text. -/
  | notText
  | io (e : ConfigError)

/-- The text that the name of a file is written as. -/
def writtenName : Option FileName → Except SaveFault (Option String)
  | none => .ok none
  | some name =>
    match name.text? with
    | some s => .ok (some s)
    | none => .error .notText

/-- Passes words that fit into a TOML integer. -/
def passWords (words : List UInt64) : Except SaveFault Unit :=
  if words.all fun n => (n.toNat : Int) ≤ Int64.maxValue.toInt then .ok ()
  else .error (.unsaved .outOfRange)

namespace HeldConfig

/-- The text of the file for the settings.  The tables are written one after the other, and so the
whitelist's file is looked at after the words of the other tables. -/
def document (s : HeldConfig) : Except SaveFault String :=
  match s.rest.check? with
  | some e => .error (.unsaved (.config e))
  | none => do
    let privateKeyFile ← writtenName s.privateKeyFile
    passWords s.rest.words.dropLast
    let location ← writtenName s.location
    passWords [s.rest.whitelist.refreshMinutes]
    pure (s.named privateKeyFile location).toToml.write

end HeldConfig

/-! ## Files -/

/-- How the system answers when a document is put into a file. -/
inductive WriteAnswer where
  /-- The directory of the file cannot be made. -/
  | noDirectory (reason : String)
  /-- The file cannot be written, and is left with what is then found there. -/
  | failed (reason : String) (left : FileContent)
  | written

/-- Saves the settings at a path: the outcome, and what is found there afterwards. -/
def HeldConfig.save (s : HeldConfig) (answer : WriteAnswer) (before : FileContent) :
    Except SaveFault Unit × FileContent :=
  match s.document with
  | .error e => (.error e, before)
  | .ok text =>
    match answer with
    | .noDirectory reason =>
      (.error (.io (.io ("Failed to create config directory: " ++ reason))), before)
    | .failed reason left => (.error (.io (.io ("Failed to write config file: " ++ reason))), left)
    | .written => (.ok (), .octets (Text.encode text.toList))

end ReviewStream

import ReviewStream.Command.Query
import ReviewStream.Text.Integer

/-!
# Requests on the command line

A command line names a command, followed by its options and its arguments in any order.

* `CommandName`: the commands, with the options and the arguments of each.
* `scan?`: sorts the words behind the name of a command into options and arguments.
* `Request.read?`: the request that a command line makes.
-/

namespace ReviewStream.Cli

/-! ## Commands -/

/-- The commands. -/
inductive CommandName where
  | stream
  | checkConfig
  | query
  | review
deriving DecidableEq

/-- An option of a command. -/
structure OptionSpec where
  short : Option Char
  long : String
  takesValue : Bool
  /-- Whether it may be given more than once. -/
  repeats : Bool
  /-- Whether its value may be empty. -/
  emptyValue : Bool
deriving DecidableEq

namespace CommandName

/-- All commands. -/
def all : List CommandName := [.stream, .checkConfig, .query, .review]

/-- The name of a command. -/
def text : CommandName → String
  | .stream => "stream"
  | .checkConfig => "check-config"
  | .query => "query"
  | .review => "review"

/-- The command with this name. -/
def ofText? (s : String) : Option CommandName := all.find? (·.text = s)

/-- The options of a command. -/
def options (c : CommandName) : List OptionSpec :=
  let config : OptionSpec := ⟨some 'c', "config", true, false, false⟩
  config :: match c with
    | .stream | .checkConfig => []
    | .query =>
      [⟨none, "current-patch-set", false, false, false⟩, ⟨none, "patch-sets", false, false, false⟩]
    | .review => [⟨some 'm', "message", true, false, true⟩, ⟨some 'l', "label", true, true, true⟩]

/-- Whether a word may stand as the argument with this number, counted from zero. -/
def admits (c : CommandName) (n : Nat) (word : String) : Bool :=
  match c with
  | .query => n == 0
  | .review => n < 2 && (Text.readUnsigned (UInt64.size - 1) word.toList).isOk
  | _ => false

/-- How many arguments a command needs. -/
def arity : CommandName → Nat
  | .stream | .checkConfig => 0
  | .query => 1
  | .review => 2

end CommandName

/-! ## Sorting words -/

/-- Options, each with its value, and arguments, in their order. -/
structure Words where
  options : List (String × String)
  arguments : List String

/-- Why the words of a command line are not taken. -/
inductive Refusal where
  | misuse
  /-- Help is asked for. -/
  | help
deriving DecidableEq

namespace Words

/-- The values of an option. -/
def values (w : Words) (long : String) : List String :=
  (w.options.filter (·.1 = long)).map (·.2)

/-- The value of an option that is given once at most. -/
def value? (w : Words) (long : String) : Option String := (w.values long).head?

/-- Whether an option is given. -/
def has (w : Words) (long : String) : Bool := (w.value? long).isSome

/-- Adds an option with its value. -/
def addOption (w : Words) (o : OptionSpec) (value : String) : Except Refusal Words :=
  if (w.has o.long && !o.repeats) || (o.takesValue && value.isEmpty && !o.emptyValue) then
    .error .misuse
  else .ok { w with options := w.options ++ [(o.long, value)] }

/-- Adds an argument. -/
def addArgument (c : CommandName) (w : Words) (word : String) : Except Refusal Words :=
  if c.admits w.arguments.length word then .ok { w with arguments := w.arguments ++ [word] }
  else .error .misuse

end Words

/-- What a word is that does not stand behind an option that lacks its value. -/
inductive WordKind where
  | argument
  /-- All that follows are arguments. -/
  | separator
  | help
  | unknown
  /-- An option, with the value that is attached to it. -/
  | option (o : OptionSpec) (attached : Option String)
deriving DecidableEq

/-- Recognises a long option without its dashes. -/
def longKind (options : List OptionSpec) (body : List Char) : WordKind :=
  let (name, attached) := match Text.cutAt '=' body with
    | some (name, value) => (name, some (String.ofList value))
    | none => (body, none)
  if name == "help".toList then if attached.isNone then .help else .unknown
  else match options.find? (·.long.toList = name) with
    | some o => if o.takesValue || attached.isNone then .option o attached else .unknown
    | none => .unknown

/-- Recognises a short option without its dash; what follows its letter is its value, with or
without a sign of equality between them. -/
def shortKind (options : List OptionSpec) (letter : Char) (attached : List Char) : WordKind :=
  if letter == 'h' then .help
  else match options.find? (·.short = some letter) with
    | some o =>
      match attached with
      | [] => .option o none
      | '=' :: value => .option o (some (String.ofList value))
      | value => .option o (some (String.ofList value))
    | none => .unknown

/-- Recognises a word. -/
def wordKind (options : List OptionSpec) (word : String) : WordKind :=
  match word.toList with
  | ['-', '-'] => .separator
  | '-' :: '-' :: body => longKind options body
  | '-' :: letter :: attached => shortKind options letter attached
  | _ => .argument

/-- Whether a word can be the value of the option before it. -/
def isValue (word : String) : Bool := wordKind [] word == .argument

/-- Sorts words, the first one that is wrong or asks for help being the answer. -/
def scan (c : CommandName) (w : Words) : List String → Except Refusal Words
  | [] => .ok w
  | word :: rest =>
    match wordKind c.options word with
    | .argument => do scan c (← w.addArgument c word) rest
    | .separator => rest.foldlM (Words.addArgument c) w
    | .help => .error .help
    | .unknown => .error .misuse
    | .option o (some value) => do scan c (← w.addOption o value) rest
    | .option o none =>
      if o.takesValue then
        match rest with
        | value :: rest => if isValue value then do scan c (← w.addOption o value) rest
                           else .error .misuse
        | [] => .error .misuse
      else do scan c (← w.addOption o "") rest

/-- Sorts the words behind the name of a command, all of whose arguments have to be there. -/
def scan? (c : CommandName) (words : List String) : Except Refusal Words := do
  let w ← scan c ⟨[], []⟩ words
  if w.arguments.length < c.arity then .error .misuse else .ok w

/-! ## Requests -/

/-- What a command line asks for. -/
inductive Request where
  | stream (config : Option String)
  | checkConfig (config : Option String)
  | query (config : Option String) (options : QueryOptions) (query : String)
  | review (config : Option String) (message : Option String) (labels : List String)
      (change patchSet : UInt64)
  /-- The help on a command, or on all of them. -/
  | help (topic : Option CommandName)
deriving DecidableEq

namespace Request

/-- A number that has been found to be one. -/
def number (word : String) : UInt64 :=
  match Text.readUnsigned (UInt64.size - 1) word.toList with
  | .ok n => UInt64.ofNat n
  | .error _ => 0

/-- The request that a command makes with its words. -/
def ofWords (c : CommandName) (w : Words) : Request :=
  let config := w.value? "config"
  match c, w.arguments with
  | .stream, _ => .stream config
  | .checkConfig, _ => .checkConfig config
  | .query, arguments =>
    .query config { QueryOptions.plain with currentPatchSet := w.has "current-patch-set"
                                            patchSets := w.has "patch-sets" }
      (arguments.headD "")
  | .review, arguments =>
    .review config (w.value? "message") (w.values "label") (number (arguments.headD ""))
      (number (arguments.getD 1 ""))

/-- The request that a command line makes; none if it is not well formed. -/
def read? : List String → Option Request
  | [] => none
  | "help" :: [] => some (.help none)
  | "help" :: [name] => (CommandName.ofText? name).map fun c => .help (some c)
  | word :: rest =>
    match CommandName.ofText? word with
    | some c =>
      match scan? c rest with
      | .ok w => some (ofWords c w)
      | .error .help => some (.help (some c))
      | .error .misuse => none
    | none => if wordKind [] word == .help then some (.help none) else none

end Request

end ReviewStream.Cli

/-!
# Command-line arguments

Two commands are understood: `simulate`, with its options, and `opts`. The value of an option can be
attached to it behind an equals sign, or follow as the next argument. A value that follows is looked
at only when the next option is recognised, or at the end.
-/

set_option autoImplicit false

namespace Compositor.CommandLine

/-- Why arguments do not lead to running a command. -/
inductive Usage where
  | help
  | version
  | nothingToDo
  | unknownCommand
  | unknownArgument
  | needlessValue
  | repeatedArgument
  | missingValue
  | malformedValue
  | missingArgument
  deriving DecidableEq, Repr

namespace Usage

/-- Only what was asked for ends in success. -/
def exitCode : Usage → Nat
  | .help | .version => 0
  | _ => 2

end Usage

structure SimulateArguments where
  scene : String
  options : Option String
  frames : Option Nat
  withoutNativeFences : Bool
  withoutProtected : Bool
  json : Bool
  deriving DecidableEq, Repr

inductive Command where
  | simulate (arguments : SimulateArguments)
  | options
  deriving DecidableEq, Repr

inductive Argument where
  /-- Two hyphens alone: only plain words follow. -/
  | separator
  | long (name : String) (value : Option String)
  /-- One hyphen and letters, of which the first one decides. -/
  | short (letter : Char)
  | word (text : String)
  deriving DecidableEq, Repr

namespace Argument

def splitValue (text : List Char) : String × Option String :=
  match text.dropWhile (· != '=') with
  | [] => (String.ofList text, none)
  | _ :: value => (String.ofList (text.takeWhile (· != '=')), some (String.ofList value))

def ofText (text : String) : Argument :=
  match text.toList with
  | ['-', '-'] => .separator
  | '-' :: '-' :: rest =>
    let (name, value) := splitValue rest
    .long name value
  | '-' :: letter :: _ => .short letter
  | _ => .word text

end Argument

inductive ValueOption where
  | scene
  | options
  | frames
  deriving DecidableEq, Repr

inductive FlagOption where
  | withoutNativeFences
  | withoutProtected
  | json
  deriving DecidableEq, Repr

inductive LongName where
  | help
  | valued (option : ValueOption)
  | flag (option : FlagOption)
  deriving DecidableEq, Repr

namespace LongName

def ofText? : String → Option LongName
  | "help" => some .help
  | "scene" => some (.valued .scene)
  | "opts" => some (.valued .options)
  | "frames" => some (.valued .frames)
  | "no-native-fences" => some (.flag .withoutNativeFences)
  | "no-protected" => some (.flag .withoutProtected)
  | "json" => some (.flag .json)
  | _ => none

end LongName

structure Draft where
  scene : Option String
  options : Option String
  frames : Option Nat
  flags : List FlagOption
  /-- The option that was named last, if its value was to follow, and the value if it did. -/
  pending : Option (ValueOption × Option String)
  deriving DecidableEq, Repr

/-- A number of 64 bits in decimal digits, perhaps behind a plus sign. -/
def count? (text : String) : Option Nat :=
  let digits :=
    match text.toList with
    | '+' :: digits => digits
    | digits => digits
  if digits ≠ [] ∧ digits.all Char.isDigit then
    let value := digits.foldl (fun value digit => value * 10 + (digit.toNat - '0'.toNat)) 0
    if value < UInt64.size then some value else none
  else none

def path (text : String) : Except Usage String :=
  if text.isEmpty then .error .missingValue else .ok text

namespace Draft

def empty : Draft := ⟨none, none, none, [], none⟩

def has (draft : Draft) : ValueOption → Bool
  | .scene => draft.scene.isSome
  | .options => draft.options.isSome
  | .frames => draft.frames.isSome

/-- Takes the value of an option. That it is missing counts before that the option is repeated, and
that before what is wrong with the value. -/
def store (draft : Draft) (option : ValueOption) (value : Option String) : Except Usage Draft := do
  let some text := value | .error .missingValue
  if draft.has option then .error .repeatedArgument
  match option with
  | .scene => return { draft with scene := some (← path text) }
  | .options => return { draft with options := some (← path text) }
  | .frames =>
    let some frames := count? text | .error .malformedValue
    return { draft with frames := some frames }

def resolve (draft : Draft) : Except Usage Draft :=
  match draft.pending with
  | none => .ok draft
  | some (option, value) => { draft with pending := none }.store option value

def takeLong (draft : Draft) (value : Option String) : LongName → Except Usage Draft
  | .help => if value.isSome then .error .needlessValue else do
      let _ ← draft.resolve
      .error .help
  | .flag option => if value.isSome then .error .needlessValue else do
      let draft ← draft.resolve
      if option ∈ draft.flags then .error .repeatedArgument
      return { draft with flags := option :: draft.flags }
  | .valued option => do
      let draft ← draft.resolve
      match value with
      | some _ => draft.store option value
      | none => return { draft with pending := some (option, none) }

def take (draft : Draft) : Argument → Except Usage Draft
  | .separator => .ok draft
  | .long name value =>
    match LongName.ofText? name with
    | none => .error .unknownArgument
    | some known => draft.takeLong value known
  | .short letter =>
    if letter = 'h' then draft.takeLong none .help else .error .unknownArgument
  | .word text =>
    match draft.pending with
    | some (option, none) => .ok { draft with pending := some (option, some text) }
    | _ => .error .unknownArgument

/-- Takes all arguments. Behind a separator there could only be words, and none is expected. -/
def takeAll (draft : Draft) : List String → Except Usage Draft
  | [] => draft.resolve
  | text :: rest =>
    match Argument.ofText text with
    | .separator => if rest.isEmpty then draft.resolve else .error .unknownArgument
    | argument => do
      let draft ← draft.take argument
      draft.takeAll rest

def finish (draft : Draft) : Except Usage SimulateArguments :=
  match draft.scene with
  | none => .error .missingArgument
  | some scene => .ok {
      scene
      options := draft.options
      frames := draft.frames
      withoutNativeFences := draft.flags.contains .withoutNativeFences
      withoutProtected := draft.flags.contains .withoutProtected
      json := draft.flags.contains .json }

end Draft

def simulateArguments (arguments : List String) : Except Usage SimulateArguments := do
  let draft ← Draft.empty.takeAll arguments
  draft.finish

/-- The command `opts` takes nothing but a request for help. -/
def optionsArguments : List String → Except Usage Unit
  | [] => .ok ()
  | text :: rest =>
    match Argument.ofText text with
    | .separator => if rest.isEmpty then .ok () else .error .unknownArgument
    | .long "help" none => .error .help
    | .long "help" (some _) => .error .needlessValue
    | .short 'h' => .error .help
    | _ => .error .unknownArgument

def helpTopics : List String := ["simulate", "opts", "help"]

def helpUsage : List String → Usage
  | [] => .help
  | [topic] => if helpTopics.contains topic then .help else .unknownCommand
  | _ => .unknownCommand

def command : List String → Except Usage Command
  | [] => .error .nothingToDo
  | text :: rest =>
    match Argument.ofText text with
    | .separator =>
      match rest with
      | [] => .error .nothingToDo
      | word :: _ =>
        .error (if helpTopics.contains word then .unknownArgument else .unknownCommand)
    | .long "help" none => .error .help
    | .long "version" none => .error .version
    | .long "help" (some _) | .long "version" (some _) => .error .needlessValue
    | .long _ _ => .error .unknownArgument
    | .short 'h' => .error .help
    | .short 'V' => .error .version
    | .short _ => .error .unknownArgument
    | .word "simulate" => (simulateArguments rest).map .simulate
    | .word "opts" => (optionsArguments rest).map fun _ => .options
    | .word "help" => .error (helpUsage rest)
    | .word _ => .error .unknownCommand

end Compositor.CommandLine

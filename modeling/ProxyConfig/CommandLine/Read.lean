import ProxyConfig.CommandLine.Basic
import ProxyConfig.CommandLine.Switch
import ProxyConfig.Text.Cut

/-!
# Reading a command line

The words before the name of a command and the words after it are read alike, with different
switches.  A switch whose value stands in a word of its own is recorded only when the next switch
or the end is reached.  So of two faults the one that is met first in this order counts.
-/

namespace ProxyConfig

/-- Why reading the words does not lead to a command line. -/
inductive Interrupt where
  | help
  | version
  /-- A word that means nothing in its place. -/
  | unknownWord (word : String)
  | unknownCommand (word : String)
  /-- A switch has no value, or an empty one where that is not permitted. -/
  | missingValue (switch : Switch)
  /-- A switch that takes no value has one. -/
  | needlessValue (switch : Switch)
  | repeated (switch : Switch)
deriving Repr, DecidableEq, Inhabited

/-- The text of an interrupt that is a fault. -/
def Interrupt.message? : Interrupt → Option String
  | .help | .version => none
  | .unknownWord word => some ("unexpected argument '" ++ word ++ "' found")
  | .unknownCommand word => some ("unrecognized subcommand '" ++ word ++ "'")
  | .missingValue switch => some ("a value is required for '--" ++ switch.name ++ "'")
  | .needlessValue switch => some ("no value is expected for '--" ++ switch.name ++ "'")
  | .repeated switch =>
    some ("the argument '--" ++ switch.name ++ "' cannot be used multiple times")

/-- What the words on one side of a command's name have said so far. -/
structure Said where
  given : List (Switch × Option String) := []
  /-- The last switch that takes a value, as long as it is not recorded, and its value if that has
  been met. -/
  pending : Option (Switch × Option String) := none
deriving Repr, DecidableEq, Inhabited

namespace Said

/-- The switch has been recorded. -/
def has (s : Said) (switch : Switch) : Bool :=
  (s.given.lookup switch).isSome

/-- The value of a switch. -/
def value? (s : Said) (switch : Switch) : Option String :=
  (s.given.lookup switch).join

/-- Record a switch. -/
def record (s : Said) (switch : Switch) (value : Option String) : Except Interrupt Said :=
  if switch = .help then .error .help
  else if switch = .version then .error .version
  else if switch.operand ≠ .nothing && value.isNone then .error (.missingValue switch)
  else if s.has switch then .error (.repeated switch)
  else if switch.operand = .path && value = some "" then .error (.missingValue switch)
  else .ok { s with given := (switch, value) :: s.given }

/-- Record the switch that is pending. -/
def settle (s : Said) : Except Interrupt Said :=
  match s.pending with
  | none => .ok s
  | some (switch, value) => { s with pending := none }.record switch value

/-- Take a switch with the value that stands in the same word. -/
def take (s : Said) (switch : Switch) (value : Option String) : Except Interrupt Said := do
  (← s.settle).record switch value

/-- Take a switch whose value stands in the next word. -/
def await (s : Said) (switch : Switch) : Except Interrupt Said := do
  return { ← s.settle with pending := some (switch, none) }

/-- The switch that waits for its value. -/
def awaiting? (s : Said) : Option Switch :=
  match s.pending with
  | some (switch, none) => some switch
  | _ => none

/-- Take a switch that is given by its name. -/
def takeNamed (scope : Option CommandName) (name : String) (value : Option String) (s : Said) :
    Except Interrupt Said :=
  match Switch.named? scope name with
  | none => .error (.unknownWord ("--" ++ name))
  | some switch =>
    match switch.operand, value with
    | .nothing, some _ => .error (.needlessValue switch)
    | .nothing, none => s.take switch none
    | _, some value => s.take switch (some value)
    | _, none => s.await switch

/-- Take switches that are given by their letters.  What follows the letter of a switch that takes a
value is that value. -/
def takeLetters (scope : Option CommandName) : List Char → Said → Except Interrupt Said
  | [], s => .ok s
  | c :: rest, s =>
    match Switch.lettered? scope c with
    | none => .error (.unknownWord (String.ofList ['-', c]))
    | some switch =>
      if switch.operand = .nothing then do takeLetters scope rest (← s.take switch none)
      else
        match rest with
        | [] => s.await switch
        | '=' :: value => s.take switch (some (String.ofList value))
        | value => s.take switch (some (String.ofList value))

end Said

/-- The form of a word. -/
inductive Word where
  /-- After it no word is a switch. -/
  | divider
  | named (name : String) (value : Option String)
  | letters (letters : List Char)
  | plain (text : String)
deriving Repr, DecidableEq, Inhabited

/-- The word of a text. -/
def Word.of (text : String) : Word :=
  match text.toList with
  | ['-', '-'] => .divider
  | '-' :: '-' :: rest =>
    match Text.cutAt '=' rest with
    | some (name, value) => .named (String.ofList name) (some (String.ofList value))
    | none => .named (String.ofList rest) none
  | '-' :: c :: rest => .letters (c :: rest)
  | _ => .plain text

namespace CommandLine

/-- The word names a command or asks for help on commands. -/
def isCommandWord (word : String) : Bool :=
  (CommandName.of? word).isSome || word = helpWord

/-- A word that is neither a switch nor the value of one. -/
def stray (scope : Option CommandName) (afterDivider : Bool) (word : String) : Interrupt :=
  if scope.isSome || (afterDivider && isCommandWord word) then .unknownWord word
  else .unknownCommand word

/-- What a request for help on commands leads to. -/
def helpOn : List String → Interrupt
  | [] => .help
  | [word] => if isCommandWord word then .help else .unknownCommand word
  | word :: next :: _ => .unknownCommand (if isCommandWord word then next else word)

/-- What a word leads to. -/
inductive WordStep where
  | onward (said : Said)
  | command (name : CommandName)
  | help
  | divider

/-- Read a word.  The value of a switch is not mistaken for the name of a command. -/
def readWord (scope : Option CommandName) (word : String) (s : Said) : Except Interrupt WordStep :=
  if scope.isNone && s.awaiting?.isNone && isCommandWord word then
    .ok (match CommandName.of? word with
      | some name => .command name
      | none => .help)
  else
    match Word.of word with
    | .divider => .ok .divider
    | .named name value => (s.takeNamed scope name value).map .onward
    | .letters letters => (s.takeLetters scope letters).map .onward
    | .plain text =>
      match s.awaiting? with
      | some switch => .ok (.onward { s with pending := some (switch, some text) })
      | none => .error (stray scope false word)

/-- Read words up to the name of a command, or all of them. -/
def readWords (scope : Option CommandName) :
    List String → Said → Except Interrupt (Said × Option (CommandName × List String))
  | [], s => .ok (s, none)
  | word :: rest, s => do
    match ← readWord scope word s with
    | .onward s => readWords scope rest s
    | .command name => .ok (s, some (name, rest))
    | .help => .error (helpOn rest)
    | .divider =>
      match rest with
      | [] => .ok (s, none)
      | word :: _ => .error (stray scope true word)

/-- The command that the words after its name describe. -/
def commandOf (said : Said) : CommandName → Command
  | .compile =>
    let default : CompileCommand := {}
    .compile
      { format := (said.value? .format).getD default.format
        output := said.value? .output
        mobile := said.has .mobile
        ruleSetDir := (said.value? .ruleSetDir).getD default.ruleSetDir
        localRuleSets := said.has .localRuleSets }
  | .sync =>
    let default : SyncCommand := {}
    .sync
      { ruleSetDir := (said.value? .ruleSetDir).getD default.ruleSetDir
        refresh := said.has .refresh }

/-- The command line of what was said before and after the name of a command.  For the switches that
are understood on both sides, what is said after it counts. -/
def assemble (before after : Said) (command : Option Command) : CommandLine where
  config := ((after.value? .config).or (before.value? .config)).getD ({} : CommandLine).config
  test := before.has .test || after.has .test
  debug := before.has .debug || after.has .debug
  command := command

/-- The command line of the words. -/
def read (words : List String) : Except Interrupt CommandLine := do
  match ← readWords none words {} with
  | (before, none) => return assemble (← before.settle) {} none
  | (before, some (name, rest)) =>
    let after ← (← readWords (some name) rest {}).1.settle
    return assemble (← before.settle) after (some (commandOf after name))

end CommandLine
end ProxyConfig

/-
  The options of the command line, and how arguments are read.

  An option that takes a value is given it as the next argument, behind an
  equals sign, or, after its letter, without a gap.  No option may be given
  twice, and there are no arguments beside options.

  * `Spelling` says how one argument is spelled;
  * `Arguments` is what is asked for, `Request.ofArgs` reads it.
-/

namespace Switchboard.CommandLine

/-! ## Options -/

/-- An option that takes a value. -/
inductive ValueOption where
  | config
  | messages
  | plugins
  deriving DecidableEq, Repr

def ValueOption.name : ValueOption → String
  | .config => "config"
  | .messages => "messages"
  | .plugins => "plugins"

inductive Switch where
  | valued (o : ValueOption)
  | printConfig
  | help
  deriving DecidableEq, Repr

def Switch.ofName? : String → Option Switch
  | "config" => some (.valued .config)
  | "messages" => some (.valued .messages)
  | "plugins" => some (.valued .plugins)
  | "print-config" => some .printConfig
  | "help" => some .help
  | _ => none

def Switch.ofLetter? : Char → Option Switch
  | 'c' => some (.valued .config)
  | 'm' => some (.valued .messages)
  | 'p' => some (.valued .plugins)
  | 'h' => some .help
  | _ => none

/-! ## Arguments -/

/-- How an argument is spelled. -/
inductive Spelling where
  /-- two dashes alone: no options follow -/
  | separator
  | long (name : String) (value : Option String)
  /-- a letter, and what follows without a gap -/
  | short (letter : Char) (rest : List Char)
  | plain
  deriving DecidableEq, Repr

def Spelling.of (argument : String) : Spelling :=
  match argument.toList with
  | ['-', '-'] => .separator
  | '-' :: '-' :: cs =>
    match cs.span (· ≠ '=') with
    | (name, '=' :: value) => .long (String.ofList name) (some (String.ofList value))
    | (name, _) => .long (String.ofList name) none
  | '-' :: c :: cs => .short c cs
  | _ => .plain

/-- What is asked for. -/
structure Arguments where
  /-- where the document of the settings is -/
  config : Option String := none
  messages : Nat := 1000
  /-- the directory of the plugin folders -/
  plugins : Option String := none
  /-- whether the settings are to be printed, and nothing else done -/
  printConfig : Bool := false
  deriving DecidableEq, Repr, Inhabited

/-- Why a command line cannot be understood. -/
inductive UsageFault where
  | unexpected (argument : String)
  | noValue (o : ValueOption)
  | badValue (o : ValueOption) (value : String)
  | repeated (option : String)
  deriving DecidableEq, Repr

def UsageFault.message : UsageFault → String
  | .unexpected a => "error: unexpected argument '" ++ a ++ "' found"
  | .noValue o => "error: a value is required for '--" ++ o.name ++ "' but none was supplied"
  | .badValue o v => "error: invalid value '" ++ v ++ "' for '--" ++ o.name ++ "'"
  | .repeated name => "error: the argument '--" ++ name ++ "' cannot be used multiple times"

/-- What a command line comes to. -/
inductive Request where
  | help
  | work (a : Arguments)
  deriving DecidableEq, Repr

/-! ## Reading -/

/-- The number that a value spells, if it is one of 64 bits. -/
def count? (value : String) : Option Nat :=
  let digits := match value.toList with
    | '+' :: cs => cs
    | cs => cs
  if digits.isEmpty || !digits.all Char.isDigit then none
  else
    let n := digits.foldl (fun n c => 10 * n + (c.toNat - 48)) 0
    if n < Nat.pow 2 64 then some n else none

/-- What was read so far. -/
structure Reading where
  config : Option String := none
  messages : Option Nat := none
  plugins : Option String := none
  printConfig : Bool := false
  /-- the option whose value comes next -/
  awaiting : Option ValueOption := none
  /-- whether no options follow -/
  closed : Bool := false
  deriving DecidableEq, Repr, Inhabited

/-- Why reading ends early. -/
inductive Halt where
  | help
  | fault (f : UsageFault)
  deriving DecidableEq, Repr

namespace Reading

/-- A path: any text but the empty one. -/
def path (o : ValueOption) (value : String) : Except Halt String :=
  if value.isEmpty then .error (.fault (.noValue o)) else .ok value

/-- Takes in the value of an option. -/
def put (r : Reading) (o : ValueOption) (value : String) : Except Halt Reading :=
  let repeated : Except Halt Reading := .error (.fault (.repeated o.name))
  match o with
  | .config => do
    let p ← path o value
    if r.config.isSome then repeated else .ok { r with config := some p }
  | .plugins => do
    let p ← path o value
    if r.plugins.isSome then repeated else .ok { r with plugins := some p }
  | .messages =>
    match count? value with
    | none => .error (.fault (.badValue o value))
    | some n => if r.messages.isSome then repeated else .ok { r with messages := some n }

/-- Takes in an option, and its value if it has come with one. -/
def switch (r : Reading) (argument : String) (value : Option String) :
    Option Switch → Except Halt Reading
  | some (.valued o) =>
    match value with
    | some v => r.put o v
    | none => .ok { r with awaiting := some o }
  | some .help => .error (if value.isSome then .fault (.unexpected argument) else .help)
  | some .printConfig =>
    if value.isSome then .error (.fault (.unexpected argument))
    else if r.printConfig then .error (.fault (.repeated "print-config"))
    else .ok { r with printConfig := true }
  | none => .error (.fault (.unexpected argument))

/-- The value that follows the letter of an option without a gap. -/
def attached : List Char → Option String
  | [] => none
  | '=' :: cs => some (String.ofList cs)
  | cs => some (String.ofList cs)

/-- Takes in the next argument. -/
def step (r : Reading) (argument : String) : Except Halt Reading :=
  if r.closed then .error (.fault (.unexpected argument))
  else match r.awaiting, Spelling.of argument with
    | some o, .plain => { r with awaiting := none }.put o argument
    | some o, _ => .error (.fault (.noValue o))
    | none, .plain => .error (.fault (.unexpected argument))
    | none, .separator => .ok { r with closed := true }
    | none, .long name value => r.switch argument value (Switch.ofName? name)
    | none, .short letter rest =>
      match Switch.ofLetter? letter with
      | some .help => .error .help
      | s => r.switch argument (attached rest) s

def finish (r : Reading) : Except Halt Arguments :=
  match r.awaiting with
  | some o => .error (.fault (.noValue o))
  | none =>
    let base : Arguments := {}
    .ok { config := r.config, messages := r.messages.getD base.messages, plugins := r.plugins
          printConfig := r.printConfig }

end Reading

/-- Reads a command line. -/
def Request.ofArgs (args : List String) : Except UsageFault Request :=
  match (args.foldlM Reading.step {}).bind Reading.finish with
  | .ok a => .ok (.work a)
  | .error .help => .ok .help
  | .error (.fault f) => .error f

/-- What is printed when help is asked for. -/
def helpText : String :=
  "\n".intercalate
    ["Neo plugin message bus",
     "",
     "Usage: neo-bus [OPTIONS]",
     "",
     "Options:",
     "  -c, --config <CONFIG>      Path to a TOML configuration file",
     "  -m, --messages <MESSAGES>  Number of sensor messages to publish [default: 1000]",
     "  -p, --plugins <PLUGINS>    Directory of plugin folders, each holding a neo-plugin.json",
     "      --print-config         Print the effective configuration and exit",
     "  -h, --help                 Print help",
     ""]

end Switchboard.CommandLine

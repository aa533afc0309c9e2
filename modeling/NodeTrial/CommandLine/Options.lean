namespace NodeTrial.CommandLine

/-- What the arguments ask for. -/
structure Options where
  root? : Option String
  config? : Option String
  report? : Option String
  printConfig : Bool
  deriving DecidableEq, Repr

def Options.initial : Options := ⟨none, none, none, false⟩

inductive Task
  | run (options : Options)
  | help
  | version
  /-- The arguments have no meaning. -/
  | misuse
  deriving DecidableEq, Repr

inductive ValueOption
  | root
  | config
  | report
  deriving DecidableEq, Repr

namespace ValueOption

def ofName? : String → Option ValueOption
  | "root" => some root
  | "config" => some config
  | "report" => some report
  | _ => none

def set? (o : Options) (value : String) : ValueOption → Option Options
  | root => if o.root?.isSome then none else some { o with root? := some value }
  | config => if o.config?.isSome then none else some { o with config? := some value }
  | report => if o.report?.isSome then none else some { o with report? := some value }

end ValueOption

/-- Whether an argument can be no value, since it looks like an option. -/
def looksLikeOption (a : String) : Bool :=
  match a.toList with
  | '-' :: _ :: _ => true
  | _ => false

def nameAndValue (cs : List Char) : String × Option String :=
  let name := cs.takeWhile (· != '=')
  match cs.drop name.length with
  | _ :: value => (String.ofList name, some (String.ofList value))
  | [] => (String.ofList name, none)

/-- Sets the value of an option; none if the value is empty or the option has one. -/
def withValue? (o : Options) (v : ValueOption) (value : String) : Option Options :=
  if value.isEmpty then none else v.set? o value

/-- What an argument means on its own. -/
inductive Argument
  | help
  | version
  | printConfig
  /-- An option with its value. -/
  | given (v : ValueOption) (value : String)
  /-- An option whose value is the next argument. -/
  | expecting (v : ValueOption)
  /-- The sign after which no options follow. -/
  | close
  | unknown
  deriving DecidableEq, Repr

def longArgument (cs : List Char) : Argument :=
  match nameAndValue cs with
  | ("help", none) => .help
  | ("version", none) => .version
  | ("print-config", none) => .printConfig
  | (name, some value) =>
    match ValueOption.ofName? name with
    | some v => .given v value
    | none => .unknown
  | (name, none) =>
    match ValueOption.ofName? name with
    | some v => .expecting v
    | none => .unknown

def argument (a : String) : Argument :=
  match a.toList with
  | ['-', '-'] => .close
  | '-' :: '-' :: cs => longArgument cs
  | '-' :: 'h' :: _ => .help
  | '-' :: 'V' :: _ => .version
  | _ => .unknown

/-- Reads arguments from left to right. If an option waits for its value, the value is the next
argument. -/
def readFrom (o : Options) (waiting : Option ValueOption) : List String → Task
  | [] => if waiting.isSome then .misuse else .run o
  | a :: rest =>
    match waiting with
    | some v =>
      match (if looksLikeOption a then none else withValue? o v a) with
      | some o => readFrom o none rest
      | none => .misuse
    | none =>
      match argument a with
      | .help => .help
      | .version => .version
      | .printConfig =>
        if o.printConfig then .misuse else readFrom { o with printConfig := true } none rest
      | .given v value =>
        match withValue? o v value with
        | some o => readFrom o none rest
        | none => .misuse
      | .expecting v => readFrom o (some v) rest
      | .close => if rest.isEmpty then .run o else .misuse
      | .unknown => .misuse

def read (args : List String) : Task := readFrom .initial none args

def helpText : String :=
  "Build, boot and exercise the node and its contracts, then report

Usage: orchestrator [OPTIONS]

Options:
      --root <ROOT>      Project root containing the node, runtime, contracts and deployer [default: .]
      --config <CONFIG>  Config file (default: `orchestrator.toml` under the root)
      --report <REPORT>  Report path, overriding the configured one
      --print-config     Print the effective configuration as TOML and exit
  -h, --help             Print help
  -V, --version          Print version
"

def versionText : String := "orchestrator 0.1.0\n"

end NodeTrial.CommandLine

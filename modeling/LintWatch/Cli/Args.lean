/-! The command line: `watch` validates a tree as it changes, `history` prints the newest
records of its history. Options take their value as the next argument, after `=`, or, for
the short form, right after the letter; each option may be given once. `-h`/`--help` and
`-V`/`--version` print and stop where they are met, also when `-h` leads a cluster of short
options. Anything else is a usage error. -/
namespace LintWatch.Cli

/-- What a command line asks for. -/
inductive Command where
  | watch (root : String) (config : Option String)
  | history (root : String) (last : Nat)
  deriving Repr, BEq, DecidableEq

/-- A command line read: a command to run, text to print, or a usage error. -/
inductive Invocation where
  | run (c : Command)
  | print (text : String)
  | usage
  deriving Repr, BEq, DecidableEq

def versionText : String := "sentinel 0.4.0\n"

def mainHelp : String :=
  "Incremental, real-time standards validation\n\n" ++
  "Usage: sentinel <COMMAND>\n\n" ++
  "Commands:\n" ++
  "  watch    Watch a directory and validate files as they change\n" ++
  "  history  Print persisted metrics history as JSON\n" ++
  "  help     Print this message or the help of the given subcommand(s)\n\n" ++
  "Options:\n" ++
  "  -h, --help     Print help\n" ++
  "  -V, --version  Print version\n"

def watchHelp : String :=
  "Watch a directory and validate files as they change\n\n" ++
  "Usage: sentinel watch [OPTIONS]\n\n" ++
  "Options:\n" ++
  "  -r, --root <ROOT>      Project root to watch recursively [default: .]\n" ++
  "  -c, --config <CONFIG>  Config file (defaults to <root>/.sentinel/sentinel.toml)\n" ++
  "  -h, --help             Print help\n"

def historyHelp : String :=
  "Print persisted metrics history as JSON\n\n" ++
  "Usage: sentinel history [OPTIONS]\n\n" ++
  "Options:\n" ++
  "  -r, --root <ROOT>  Project root whose history to read [default: .]\n" ++
  "  -l, --last <LAST>  Number of most recent records to print [default: 10]\n" ++
  "  -h, --help         Print help\n"

/-- An option of a command: its short letter and long name. -/
structure Flag where
  short : Char
  long : String

/-- How one argument reads against a command's options. -/
inductive Token where
  /-- An option with its value, when the value is in the same argument. -/
  | option (long : String) (value : Option String)
  | help
  | unknown

/-- Reads one argument against the options `flags`. -/
def token (flags : List Flag) (arg : String) : Token :=
  let cs := arg.toList
  match cs with
  | '-' :: '-' :: rest =>
    let name := String.ofList (rest.takeWhile (· != '='))
    let value := match rest.dropWhile (· != '=') with
      | '=' :: v => some (String.ofList v)
      | _ => none
    if name == "help" && value.isNone then .help
    else match flags.find? (·.long == name) with
      | some f => .option f.long value
      | none => .unknown
  | '-' :: 'h' :: _ => .help
  | '-' :: c :: rest =>
    match flags.find? (·.short == c) with
    | some f =>
      match rest with
      | [] => .option f.long none
      | '=' :: v => .option f.long (some (String.ofList v))
      | v => .option f.long (some (String.ofList v))
    | none => .unknown
  | _ => .unknown

/-- Whether an argument can stand as the value of an option. -/
def isValue (arg : String) : Bool := !(arg.startsWith "-") || arg == "-"

/-- Reads the options of a command: their values by long name, or what to do instead. -/
def options (flags : List Flag) (help : String) :
    List String → List (String × String) → Except Invocation (List (String × String))
  | [], acc => .ok acc
  | ["--"], acc => .ok acc
  | arg :: rest, acc =>
    match token flags arg with
    | .help => .error (.print help)
    | .unknown => .error .usage
    | .option long (some v) =>
      if acc.any (·.1 == long) then .error .usage
      else options flags help rest (acc ++ [(long, v)])
    | .option long none =>
      if acc.any (·.1 == long) then .error .usage
      else match rest with
        | v :: more =>
          if isValue v then options flags help more (acc ++ [(long, v)]) else .error .usage
        | [] => .error .usage

/-- A count: decimal digits with an optional `+`, below `2 ^ 64`. -/
def count? (text : String) : Option Nat :=
  let digits := match text.toList with
    | '+' :: ds => ds
    | ds => ds
  if digits.isEmpty || !digits.all Char.isDigit then none
  else
    let n := digits.foldl (fun n c => 10 * n + (c.toNat - '0'.toNat)) 0
    if n < Nat.pow 2 64 then some n else none

def watchFlags : List Flag := [⟨'r', "root"⟩, ⟨'c', "config"⟩]

def historyFlags : List Flag := [⟨'r', "root"⟩, ⟨'l', "last"⟩]

def lookup (opts : List (String × String)) (long : String) : Option String :=
  (opts.find? (·.1 == long)).map (·.2)

/-- Reads a command line, without the program's name. -/
def parse : List String → Invocation
  | [] => .usage
  | "--version" :: _ | "-V" :: _ => .print versionText
  | "--help" :: _ | "-h" :: _ => .print mainHelp
  | ["help"] => .print mainHelp
  | ["help", "watch"] => .print watchHelp
  | ["help", "history"] => .print historyHelp
  | ["help", "help"] => .print mainHelp
  | "watch" :: rest =>
    match options watchFlags watchHelp rest [] with
    | .ok opts => .run (.watch ((lookup opts "root").getD ".") (lookup opts "config"))
    | .error i => i
  | "history" :: rest =>
    match options historyFlags historyHelp rest [] with
    | .ok opts =>
      match lookup opts "last" with
      | none => .run (.history ((lookup opts "root").getD ".") 10)
      | some text =>
        match count? text with
        | some n => .run (.history ((lookup opts "root").getD ".") n)
        | none => .usage
    | .error i => i
  | _ => .usage

end LintWatch.Cli

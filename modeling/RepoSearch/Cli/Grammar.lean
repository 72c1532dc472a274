/-! The grammar of a command line as data, and the texts drawn from it: help pages and usage
lines.

A command has options (flags, or options taking one value, each with an optional short
letter and a long name), positional arguments in order, and possibly subcommands. A help page
is the command's description, its usage line, then sections of aligned entries: subcommands,
arguments and options, each entry's help text followed by its default. A usage line names the
command, `[OPTIONS]` when it has options beyond help and version, its positional arguments and
`<COMMAND>` when a subcommand is required. -/
namespace RepoSearch.Cli

/-- An option: a flag, or an option taking one value. -/
structure OptionSpec where
  id : String
  short : Option Char := none
  long : String
  /-- The name of the value; none for a flag. -/
  valueName : Option String := none
  help : String := ""
  default : Option String := none
  /-- Whether the value must be a natural number below 2^64. -/
  numeric : Bool := false

/-- A positional argument. -/
structure ArgumentSpec where
  id : String
  valueName : String
  help : String := ""
  required : Bool := true
  /-- Whether it takes every remaining value. -/
  many : Bool := false

/-- A command: its name as written in usage lines, its description, options, positional
arguments, and subcommands by name with their descriptions. -/
structure CommandSpec where
  name : String
  about : String
  options : List OptionSpec
  arguments : List ArgumentSpec := []
  subcommands : List (String × String) := []

def helpOption : OptionSpec := { id := "help", short := some 'h', long := "help", help := "Print help" }

def versionOption : OptionSpec :=
  { id := "version", short := some 'V', long := "version", help := "Print version" }

namespace OptionSpec

def takesValue (o : OptionSpec) : Bool := o.valueName.isSome

/-- How the option is named in messages and usage lines: `--long <VALUE>`. -/
def display (o : OptionSpec) : String :=
  "--" ++ o.long ++ (match o.valueName with | some v => " <" ++ v ++ ">" | none => "")

def entry (o : OptionSpec) : String :=
  (match o.short with | some c => "-" ++ String.singleton c ++ ", " | none => "    ") ++ o.display

end OptionSpec

/-- How a positional argument is written: `<NAME>`, or `[NAME]...` when optional and
repeated. -/
def ArgumentSpec.display (a : ArgumentSpec) : String :=
  (if a.required then "<" ++ a.valueName ++ ">" else "[" ++ a.valueName ++ "]") ++
    (if a.many then "..." else "")

def withDefault (help : String) (default : Option String) : String :=
  match default with
  | none => help
  | some d => (if help.isEmpty then "" else help ++ " ") ++ "[default: " ++ d ++ "]"

/-- A section of a help page: each entry padded to the widest, then its text. -/
def helpSection (title : String) (entries : List (String × String)) : String :=
  let width := entries.foldl (fun m e => max m e.1.length) 0
  "\n" ++ title ++ ":\n" ++ String.join (entries.map fun (spec, text) =>
    "  " ++ spec ++ String.ofList (List.replicate (width - spec.length + 2) ' ') ++ text ++ "\n")

namespace CommandSpec

/-- Whether the usage line shows `[OPTIONS]`: some option is neither help nor version. -/
def hasPlainOptions (c : CommandSpec) : Bool :=
  c.options.any (fun o => o.id != "help" && o.id != "version")

def usage (c : CommandSpec) : String :=
  c.name ++ (if c.hasPlainOptions then " [OPTIONS]" else "") ++
    String.join (c.arguments.map (" " ++ ·.display)) ++ (if c.subcommands.isEmpty then "" else " <COMMAND>")

/-- The usage line naming what was used: the options used, in the order they came, then the
positional arguments that are required or were given, then `<COMMAND>` if one is needed. -/
def usageWith (c : CommandSpec) (used : List String) : String :=
  let opts := used.filterMap (fun id => c.options.find? (fun o => o.id == id))
  let args := c.arguments.filter (fun a => a.required || used.contains a.id)
  c.name ++ String.join (opts.map (" " ++ ·.display)) ++ String.join (args.map (" " ++ ·.display)) ++
    (if c.subcommands.isEmpty then "" else " <COMMAND>")

def helpText (c : CommandSpec) : String :=
  c.about ++ "\n\nUsage: " ++ c.usage ++ "\n" ++
    (if c.subcommands.isEmpty then "" else helpSection "Commands" c.subcommands) ++
    (if c.arguments.isEmpty then ""
     else helpSection "Arguments" (c.arguments.map fun a => (a.display, a.help))) ++
    (if c.options.isEmpty then ""
     else helpSection "Options" (c.options.map fun o => (o.entry, withDefault o.help o.default)))

end CommandSpec

end RepoSearch.Cli

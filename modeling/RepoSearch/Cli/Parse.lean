import RepoSearch.Cli.Commands
import RepoSearch.Cli.Similar
/-! Reading a command line against the program's grammar.

Arguments are read left to right. `--name` and `--name=value` are long options, `-abc` a run
of short ones where a letter taking a value takes the rest of the run, `--` makes everything
after it positional, and any other word is a value: of the option before it when that one
still waits for one, else the next positional argument, or at the top the subcommand. Help and
version end reading at once. A mistake ends it with an error naming what was wrong, tips where
a similar name exists, the usage line and a pointer to `--help`; errors exit with code 2,
help and version with 0. -/
namespace RepoSearch.Cli

/-- What a command line comes to: a run, or an exit with a text, printed on standard output
for code 0 and on standard error otherwise. -/
inductive Parsed where
  | run (invocation : Invocation)
  | exit (code : Nat) (text : String)

/-- The options, flags and positional arguments given at one level, by id, in the order
given; flags have an empty value. -/
structure Given where
  entries : List (String × String) := []

/-- The state of reading one level of the command line. -/
structure LevelState where
  given : Given := {}
  /-- The option whose value comes next. -/
  pending : Option OptionSpec := none
  /-- Whether `--` has been read. -/
  trailing : Bool := false

/-- How reading one level ends. -/
inductive LevelEnd where
  | stop (code : Nat) (text : String)
  | finished (given : Given)
  /-- A subcommand name came, with the words after it. -/
  | descend (name : String) (given : Given) (rest : List String)

/-- An error text: the message, tips, the usage line if any, and the pointer to help. -/
def errorText (message : String) (tips : List String) (usage : Option String) : String :=
  "error: " ++ message ++ (if tips.isEmpty then "" else "\n" ++ String.join (tips.map ("\n  tip: " ++ ·))) ++
    (match usage with | some u => "\n\nUsage: " ++ u | none => "") ++
    "\n\nFor more information, try '--help'.\n"

def similarTip (kind : String) (names : List String) : String :=
  match names with
  | [n] => "a similar " ++ kind ++ " exists: '" ++ n ++ "'"
  | _ => "some similar " ++ kind ++ "s exist: " ++ ", ".intercalate (names.map (fun n => "'" ++ n ++ "'"))

/-- The tip for passing a word that looks like an option as a value. -/
def trailingTip (word : String) : String := "to pass '" ++ word ++ "' as a value, use '-- " ++ word ++ "'"

def emptyValue (o : OptionSpec) : String :=
  errorText ("a value is required for '" ++ o.display ++ "' but none was supplied") [] none

/-- Why a text is not a natural number below 2^64, reading digit by digit after an optional
`+`. -/
def natProblem (v : String) : Option String :=
  let rec go : List Char → Nat → Option String
    | [], _ => none
    | c :: cs, acc =>
      if !c.isDigit then some "invalid digit found in string"
      else
        let acc := acc * 10 + (c.toNat - 48)
        if acc ≥ Nat.pow 2 64 then some "number too large to fit in target type" else go cs acc
  match v.toList with
  | [] => some "cannot parse integer from empty string"
  | ['+'] => some "invalid digit found in string"
  | '+' :: cs => go cs 0
  | cs => go cs 0

def natValue (v : String) : Nat := (if v.startsWith "+" then String.ofList (v.toList.drop 1) else v).toNat?.getD 0

namespace Given

/-- The ids given, each once, in the order first given. -/
def ids (g : Given) : List String :=
  g.entries.foldl (fun acc e => if acc.contains e.1 then acc else acc ++ [e.1]) []

def has (g : Given) (id : String) : Bool := g.entries.any (fun e => e.1 == id)

def value? (g : Given) (id : String) : Option String := (g.entries.find? (fun e => e.1 == id)).map Prod.snd

def positionals (g : Given) (spec : CommandSpec) : List String :=
  (g.entries.filter (fun e => spec.arguments.any (fun a => a.id == e.1))).map Prod.snd

end Given

/-- Record an option's value, refusing a second one and a malformed number. -/
def giveValue (spec : CommandSpec) (st : LevelState) (o : OptionSpec) (v : String) : Except String LevelState :=
  if st.given.has o.id then
    .error (errorText ("the argument '" ++ o.display ++ "' cannot be used multiple times") [] (some spec.usage))
  else
    match (if o.numeric then natProblem v else none) with
    | some why => .error (errorText ("invalid value '" ++ v ++ "' for '" ++ o.display ++ "': " ++ why) [] none)
    | none => .ok { st with given := { entries := st.given.entries ++ [(o.id, v)] }, pending := none }

def longNames (spec : CommandSpec) : List String := spec.options.map (·.long)

/-- The error for an unknown long option `--name`: a similar option of this command, else a
similar option of a subcommand named later on the line, else the tip to pass it as a value. -/
def unknownLong (spec : CommandSpec) (st : LevelState) (name : String) (rest : List String) : String :=
  let word := "--" ++ name
  match (similarNames name (longNames spec)).getLast? with
  | some cand =>
    let used := match spec.options.find? (·.long == cand) with
      | some o => if st.given.has o.id then st.given.ids else st.given.ids ++ [o.id]
      | none => st.given.ids
    errorText ("unexpected argument '" ++ word ++ "' found") [similarTip "argument" ["--" ++ cand]]
      (some (if used.isEmpty then spec.usage else spec.usageWith used))
  | none =>
    let inSub := (spec.subcommands.map Prod.fst).filterMap fun sub =>
      match (subcommandSpec? sub).bind (fun c => (similarNames name (longNames c)).getLast?), rest.idxOf? sub with
      | some cand, some pos => some (pos, sub, cand)
      | _, _ => none
    let used := st.given.ids
    let usage := some (if used.isEmpty then spec.usage else spec.usageWith used)
    match inSub.foldl (fun (best : Option (Nat × String × String)) x =>
        match best with
        | some b => if x.1 < b.1 then some x else best
        | none => some x) none with
    | some (_, sub, cand) =>
      errorText ("unexpected argument '" ++ word ++ "' found") ["'" ++ sub ++ " --" ++ cand ++ "' exists"] usage
    | none =>
      errorText ("unexpected argument '" ++ word ++ "' found")
        (if !st.trailing && !spec.arguments.isEmpty then [trailingTip word] else []) usage

/-- The error for a word with no place: a subcommand-like word at a level with subcommands,
else an unexpected argument. -/
def misplaced (spec : CommandSpec) (st : LevelState) (word : String) : String :=
  let names := spec.subcommands.map Prod.fst
  if st.trailing && names.contains word then
    errorText ("unexpected argument '" ++ word ++ "' found") ["subcommand '" ++ word ++ "' exists; to use it, remove the '--' before it"]
      (some spec.usage)
  else if !names.isEmpty then
    match similarNames word names with
    | [] => errorText ("unrecognized subcommand '" ++ word ++ "'") [] (some spec.usage)
    | similar => errorText ("unrecognized subcommand '" ++ word ++ "'") [similarTip "subcommand" similar] (some spec.usage)
  else errorText ("unexpected argument '" ++ word ++ "' found") [] (some spec.usage)

def versionText : String := programName ++ " " ++ programVersion ++ "\n"

/-- Take a positional value, or fail when there is no place for it. -/
def givePositional (spec : CommandSpec) (st : LevelState) (word : String) : Except String LevelState :=
  let taken := (st.given.positionals spec).length
  let slot := match spec.arguments[taken]? with
    | some a => some a
    | none => spec.arguments.getLast?.filter (·.many)
  match slot with
  | some a => .ok { st with given := { entries := st.given.entries ++ [(a.id, word)] } }
  | none => .error (misplaced spec st word)

/-- A flag or option reached while another option still waits for its value: that is an
error. -/
def settled (st : LevelState) : Except String Unit :=
  match st.pending with
  | some p => .error (emptyValue p)
  | none => .ok ()

/-- Read a run of short options. `.ok` carries the state to go on with. -/
def readShorts (spec : CommandSpec) : LevelState → List Char → Except (Nat × String) LevelState
  | st, [] => .ok st
  | st, c :: more =>
    match spec.options.find? (·.short == some c) with
    | none =>
      .error (2, errorText ("unexpected argument '-" ++ String.singleton c ++ "' found")
        (if !st.trailing && !spec.arguments.isEmpty then [trailingTip ("-" ++ String.singleton c)] else [])
        (some spec.usage))
    | some o =>
      match settled st with
      | .error e => .error (2, e)
      | .ok () =>
        if o.takesValue then
          if more.isEmpty then .ok { st with pending := some o }
          else
            let v := String.ofList (if more.head? == some '=' then more.drop 1 else more)
            (giveValue spec st o v).mapError (2, ·)
        else if o.id == "help" then .error (0, spec.helpText)
        else if o.id == "version" then .error (0, versionText)
        else
          match giveValue spec st o "" with
          | .ok st => readShorts spec st more
          | .error e => .error (2, e)

def readLong (spec : CommandSpec) (st : LevelState) (body : String) (rest : List String) :
    Except (Nat × String) LevelState :=
  let chars := body.toList
  let (name, attached) := match chars.idxOf? '=' with
    | some k => (String.ofList (chars.take k), some (String.ofList (chars.drop (k + 1))))
    | none => (body, none)
  match spec.options.find? (·.long == name) with
  | none => .error (2, unknownLong spec st name rest)
  | some o =>
    if o.takesValue then
      match settled st with
      | .error e => .error (2, e)
      | .ok () =>
        match attached with
        | some v => (giveValue spec st o v).mapError (2, ·)
        | none => .ok { st with pending := some o }
    else
      match attached with
      | some v =>
        let used := (st.given.ids.filter (fun id => !spec.arguments.any (fun a => a.id == id && a.required))) ++ [o.id]
        .error (2, errorText ("unexpected value '" ++ v ++ "' for '" ++ o.display ++ "' found; no more were expected")
          [] (some (spec.usageWith used)))
      | none =>
        match settled st with
        | .error e => .error (2, e)
        | .ok () =>
          if o.id == "help" then .error (0, spec.helpText)
          else if o.id == "version" then .error (0, versionText)
          else (giveValue spec st o "").mapError (2, ·)

def readLevel (spec : CommandSpec) : LevelState → List String → LevelEnd
  | st, [] =>
    match st.pending with
    | some o => .stop 2 (emptyValue o)
    | none => .finished st.given
  | st, word :: rest =>
    let next := fun (r : Except (Nat × String) LevelState) =>
      match r with
      | .ok st => readLevel spec st rest
      | .error (code, text) => .stop code text
    if st.trailing then next ((givePositional spec st word).mapError (2, ·))
    else if st.pending.isNone && (spec.subcommands.map Prod.fst).contains word then .descend word st.given rest
    else if word == "--" then readLevel spec { st with trailing := true } rest
    else if word.startsWith "--" then next (readLong spec st (String.ofList (word.toList.drop 2)) rest)
    else if word.startsWith "-" && word != "-" then next (readShorts spec st (word.toList.drop 1))
    else
      match st.pending with
      | some o => next ((giveValue spec st o word).mapError (2, ·))
      | none => next ((givePositional spec st word).mapError (2, ·))

def helpCommand (names : List String) : Parsed :=
  match names with
  | [] => .exit 0 programSpec.helpText
  | n :: more =>
    match subcommandSpec? n with
    | none => .exit 2 (errorText ("unrecognized subcommand '" ++ n ++ "'") [] (some programSpec.usage))
    | some sub =>
      match more with
      | [] => .exit 0 sub.helpText
      | m :: _ => .exit 2 (errorText ("unrecognized subcommand '" ++ m ++ "'") [] (some sub.usage))

/-- The command a subcommand's given options and arguments make. -/
def commandOf (name : String) (g : Given) : Command :=
  let arg := fun id => (g.value? id).getD ""
  match name with
  | "index" => .index (arg "repository") ((g.value? "git_ref").getD "HEAD") (g.has "force")
  | "search" => .search (arg "repository") (arg "query") ((g.value? "limit").map natValue) (g.value? "git_ref")
      (g.has "context") (natValue ((g.value? "max_chars").getD "12000"))
  | "status" => .status (arg "repository") ((g.value? "git_ref").getD "HEAD")
  | "stats" => .stats (arg "repository")
  | _ => .list

def parseArgs (args : List String) : Parsed :=
  match readLevel programSpec {} args with
  | .stop code text => .exit code text
  | .finished given =>
    if given.entries.isEmpty then .exit 2 programSpec.helpText
    else
      .exit 2 (errorText ("'" ++ programName ++ "' requires a subcommand but one was not provided\n  [subcommands: " ++
        ", ".intercalate (programSpec.subcommands.map Prod.fst) ++ "]") [] (some programSpec.usage))
  | .descend "help" _ rest => helpCommand rest
  | .descend name top rest =>
    match subcommandSpec? name with
    | none => .exit 2 (errorText ("unrecognized subcommand '" ++ name ++ "'") [] (some programSpec.usage))
    | some sub =>
      match readLevel sub {} rest with
      | .stop code text => .exit code text
      | .descend word _ _ => .exit 2 (errorText ("unrecognized subcommand '" ++ word ++ "'") [] (some sub.usage))
      | .finished g =>
        let missing := sub.arguments.filter (fun a => a.required && !g.has a.id)
        if !missing.isEmpty then
          .exit 2 (errorText ("the following required arguments were not provided:" ++
            String.join (missing.map (fun a => "\n  " ++ a.display))) []
            (some (sub.usageWith (g.ids ++ missing.map (·.id)))))
        else .run { configPath := (top.value? "config").getD "config.json", command := commandOf name g }

end RepoSearch.Cli

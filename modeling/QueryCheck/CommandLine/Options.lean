/-!
# Options

What the words of a command line ask for. An option is written with two dashes and its name or with one
dash and its letter, and letters may share a dash. A value stands behind the option, or behind an equals
sign, or directly behind a letter. The words are read in turn, and the first one that is wrong, or that
asks for help or the version, decides.
-/

namespace QueryCheck.CommandLine

inductive OutputFormat where
  | text
  | json
deriving DecidableEq

def OutputFormat.ofName? (name : String) : Option OutputFormat :=
  match name with
  | "text" => some text
  | "json" => some json
  | _ => none

/-- Options that take a value. -/
inductive Setting where
  | file
  | directory
  | rows
  | output
  | config
  | project
deriving DecidableEq

def Setting.label : Setting → String
  | file => "-f <FILE>"
  | directory => "-d <DIR>"
  | rows => "--rows <ROWS>"
  | output => "--output <OUTPUT>"
  | config => "--config <CONFIG>"
  | project => "--project <PROJECT>"

/-- Options that take none. -/
inductive Switch where
  | validateOnly
  | quiet
  | verbose
deriving DecidableEq

def Switch.label : Switch → String
  | validateOnly => "--validate-only"
  | quiet => "--quiet"
  | verbose => "--verbose"

inductive OptionName where
  | setting (setting : Setting)
  | switch (switch : Switch)
  | help
  | version
deriving DecidableEq

def OptionName.ofLong? (name : String) : Option OptionName :=
  match name with
  | "rows" => some (.setting .rows)
  | "output" => some (.setting .output)
  | "config" => some (.setting .config)
  | "project" => some (.setting .project)
  | "validate-only" => some (.switch .validateOnly)
  | "quiet" => some (.switch .quiet)
  | "verbose" => some (.switch .verbose)
  | "help" => some .help
  | "version" => some .version
  | _ => none

def OptionName.ofLetter? (letter : Char) : Option OptionName :=
  match letter with
  | 'f' => some (.setting .file)
  | 'd' => some (.setting .directory)
  | 'v' => some (.switch .verbose)
  | 'h' => some .help
  | 'V' => some .version
  | _ => none

inductive UsageFault where
  | unknown (written : String)
  | missingValue (setting : Setting)
  | invalidValue (setting : Setting) (value : String)
  | unexpectedValue (option value : String)
  | repeated (option : String)
  | conflict (left right : Setting)
deriving DecidableEq

def UsageFault.message : UsageFault → String
  | unknown written => "error: unexpected argument '" ++ written ++ "' found"
  | missingValue setting => "error: a value is required for '" ++ setting.label ++ "'"
  | invalidValue setting value =>
    "error: invalid value '" ++ value ++ "' for '" ++ setting.label ++ "'"
  | unexpectedValue option value => "error: unexpected value '" ++ value ++ "' for '" ++ option ++ "'"
  | repeated option => "error: the argument '" ++ option ++ "' cannot be used multiple times"
  | conflict left right =>
    "error: the argument '" ++ left.label ++ "' cannot be used with '" ++ right.label ++ "'"

structure Options where
  file : Option String
  directory : Option String
  rows : Option String
  output : Option OutputFormat
  config : Option String
  project : Option String
  validateOnly : Bool
  quiet : Bool
  verbose : Bool
deriving DecidableEq

namespace Options

def unset : Options :=
  ⟨none, none, none, none, none, none, false, false, false⟩

def chosenDirectory (options : Options) : String :=
  options.directory.getD "."

def format (options : Options) : OutputFormat :=
  options.output.getD .text

def once {α : Type} (setting : Setting) (old : Option α) (value : α) : Except UsageFault (Option α) :=
  if old.isSome then .error (.repeated setting.label) else .ok (some value)

def path (setting : Setting) (old : Option String) (text : String) :
    Except UsageFault (Option String) :=
  if text = "" then .error (.missingValue setting) else once setting old text

def put (options : Options) (setting : Setting) (text : String) : Except UsageFault Options :=
  match setting with
  | .file => (path .file options.file text).map fun value => { options with file := value }
  | .directory =>
    (path .directory options.directory text).map fun value => { options with directory := value }
  | .rows => (path .rows options.rows text).map fun value => { options with rows := value }
  | .config => (path .config options.config text).map fun value => { options with config := value }
  | .project =>
    (once .project options.project text).map fun value => { options with project := value }
  | .output =>
    match OutputFormat.ofName? text with
    | none => .error (.invalidValue .output text)
    | some format =>
      (once .output options.output format).map fun value => { options with output := value }

def isOn (options : Options) : Switch → Bool
  | .validateOnly => options.validateOnly
  | .quiet => options.quiet
  | .verbose => options.verbose

def turnOn (options : Options) (switch : Switch) : Except UsageFault Options :=
  if options.isOn switch then .error (.repeated switch.label)
  else
    match switch with
    | .validateOnly => .ok { options with validateOnly := true }
    | .quiet => .ok { options with quiet := true }
    | .verbose => .ok { options with verbose := true }

end Options

inductive Invocation where
  | run (options : Options)
  | help
  | version
  | refused (fault : UsageFault)
deriving DecidableEq

/-- The options of the words so far, the option whose value comes next, and whether options have ended. -/
structure Progress where
  options : Options
  awaiting : Option Setting
  closed : Bool

namespace Progress

def start : Progress :=
  ⟨.unset, none, false⟩

def ofOptions (options : Options) : Progress :=
  ⟨options, none, false⟩

def orRefused : Except UsageFault Options → Except Invocation Progress
  | .ok options => .ok (ofOptions options)
  | .error fault => .error (.refused fault)

def long (options : Options) (body : List Char) : Except Invocation Progress :=
  let name := String.ofList (body.takeWhile (· != '='))
  let value : Option String :=
    match body.dropWhile (· != '=') with
    | '=' :: rest => some (String.ofList rest)
    | _ => none
  match OptionName.ofLong? name, value with
  | none, _ => .error (.refused (.unknown ("--" ++ name)))
  | some (.setting setting), some text => orRefused (options.put setting text)
  | some (.setting setting), none => .ok ⟨options, some setting, false⟩
  | some (.switch switch), none => orRefused (options.turnOn switch)
  | some .help, none => .error .help
  | some .version, none => .error .version
  | some _, some text => .error (.refused (.unexpectedValue ("--" ++ name) text))

/-- What follows a letter is its value, with or without an equals sign in front. -/
def attached : List Char → String
  | '=' :: rest => String.ofList rest
  | text => String.ofList text

def letters (options : Options) : List Char → Except Invocation Progress
  | [] => .ok (ofOptions options)
  | letter :: rest =>
    match OptionName.ofLetter? letter with
    | none => .error (.refused (.unknown (String.ofList ['-', letter])))
    | some .help => .error .help
    | some .version => .error .version
    | some (.setting setting) =>
      if rest.isEmpty then .ok ⟨options, some setting, false⟩
      else orRefused (options.put setting (attached rest))
    | some (.switch switch) =>
      match options.turnOn switch with
      | .ok options => letters options rest
      | .error fault => .error (.refused fault)

/-- A single dash is no option. -/
def looksLikeOption : List Char → Bool
  | '-' :: _ :: _ => true
  | _ => false

def advance (p : Progress) (word : String) : Except Invocation Progress :=
  if p.closed then .error (.refused (.unknown word))
  else
    match p.awaiting with
    | some setting =>
      if looksLikeOption word.toList then .error (.refused (.missingValue setting))
      else orRefused (p.options.put setting word)
    | none =>
      match word.toList with
      | ['-', '-'] => .ok { p with closed := true }
      | '-' :: '-' :: body => long p.options body
      | '-' :: letter :: rest => letters p.options (letter :: rest)
      | _ => .error (.refused (.unknown word))

/-- A single file and a directory cannot both be asked for. -/
def finish (p : Progress) : Invocation :=
  match p.awaiting with
  | some setting => .refused (.missingValue setting)
  | none =>
    if p.options.file.isSome && p.options.directory.isSome then .refused (.conflict .file .directory)
    else .run p.options

end Progress

def Invocation.ofWords (words : List String) : Invocation :=
  match words.foldlM Progress.advance Progress.start with
  | .ok p => p.finish
  | .error early => early

end QueryCheck.CommandLine

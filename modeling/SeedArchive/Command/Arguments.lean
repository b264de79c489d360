namespace SeedArchive

/-- What a build is told by the user. What is not given is taken from the workspace. -/
structure BuildOptions where
  coa? : Option String := none
  templates? : Option String := none
  output? : Option String := none
  strict : Bool := false
  deriving DecidableEq, Repr

/-- What the program is asked to do. Where no command is named it builds by default. -/
inductive Request
  | build (options : BuildOptions)
  | inspect (archive? : Option String)
  | byDefault (options : BuildOptions)
  | version
  | help
  | misuse
  deriving DecidableEq, Repr

/-- A build with the given options, for which the command was named or not. -/
def Request.ofOptions (named : Bool) (options : BuildOptions) : Request :=
  if named then .build options else .byDefault options

namespace Arguments

/-- The options that take a path. -/
inductive PathOption
  | coa
  | templates
  | output
  deriving DecidableEq, Repr

/-- What an argument is by its form. An option may bring its value along. -/
inductive Form
  | path (o : PathOption) (value? : Option String)
  | strict
  | version
  | help
  | separator
  | plain
  | unknown
  deriving DecidableEq, Repr

def longForm (name : String) (value? : Option String) : Form :=
  if name = "coa" then .path .coa value?
  else if name = "templates" then .path .templates value?
  else if name = "output" then .path .output value?
  else if value?.isSome then .unknown
  else if name = "strict" then .strict
  else if name = "version" then .version
  else if name = "help" then .help
  else .unknown

/-- A value right after a letter may have an equals sign before it. -/
def shortForm (letter : Char) (rest : List Char) : Form :=
  if letter = 'o' then
    match rest with
    | [] => .path .output none
    | '=' :: value => .path .output (some (String.ofList value))
    | value => .path .output (some (String.ofList value))
  else if letter = 'V' then .version
  else if letter = 'h' then .help
  else .unknown

def form (argument : String) : Form :=
  match argument.toList with
  | ['-', '-'] => .separator
  | '-' :: '-' :: long =>
    match long.dropWhile (· ≠ '=') with
    | [] => longForm (String.ofList long) none
    | _ :: value => longForm (String.ofList (long.takeWhile (· ≠ '='))) (some (String.ofList value))
  | '-' :: letter :: rest => shortForm letter rest
  | _ => .plain

/-- An option is given once at most, and its value is not empty. -/
def put (options : BuildOptions) (o : PathOption) (value : String) : Option BuildOptions :=
  if value = "" then none
  else
    match o with
    | .coa => if options.coa?.isSome then none else some { options with coa? := some value }
    | .templates =>
      if options.templates?.isSome then none else some { options with templates? := some value }
    | .output =>
      if options.output?.isSome then none else some { options with output? := some value }

/-- Reads the options of a build from left to right and stops at the first that asks for something
else or cannot be taken. The version is told only if no command was named. -/
def readBuild (named : Bool) (options : BuildOptions) : List String → Request
  | [] => .ofOptions named options
  | argument :: rest =>
    match form argument with
    | .separator => if rest = [] then .ofOptions named options else .misuse
    | .version => if named then .misuse else .version
    | .help => .help
    | .strict =>
      if options.strict then .misuse else readBuild named { options with strict := true } rest
    | .path o (some value) =>
      match put options o value with
      | some options => readBuild named options rest
      | none => .misuse
    | .path o none =>
      match rest with
      | [] => .misuse
      | value :: rest =>
        match form value, put options o value with
        | .plain, some options => readBuild named options rest
        | _, _ => .misuse
    | .plain | .unknown => .misuse

/-- Reads the arguments after a separator, which are plain whatever their form. -/
def readPlain (archive? : Option String) : List String → Request
  | [] => .inspect archive?
  | argument :: rest =>
    if archive?.isSome ∨ argument = "" then .misuse else readPlain (some argument) rest

def readInspect (archive? : Option String) : List String → Request
  | [] => .inspect archive?
  | argument :: rest =>
    match form argument with
    | .separator => readPlain archive? rest
    | .help => .help
    | .plain =>
      if archive?.isSome ∨ argument = "" then .misuse else readInspect (some argument) rest
    | _ => .misuse

/-- Help can be asked for about one of the commands. -/
def readHelp : List String → Request
  | [] => .help
  | [command] => if command ∈ ["build", "inspect", "help"] then .help else .misuse
  | _ => .misuse

/-- A command is named by the first argument or is a build. -/
def read (arguments : List String) : Request :=
  match arguments with
  | "build" :: rest => readBuild true {} rest
  | "inspect" :: rest => readInspect none rest
  | "help" :: rest => readHelp rest
  | _ => readBuild false {} arguments

end Arguments

end SeedArchive

namespace DirectiveDocs.Command

inductive Action where
  | directive (names : List String)
  | reference (text : String)
  | list (namesOnly : Bool)
  | check (warnOnly : Bool)
  deriving DecidableEq, Repr

structure Options where
  config : Option String := none
  specFiles : List String := []
  noBuiltins : Bool := false
  compact : Bool := false
  verbose : Bool := false
  deriving DecidableEq, Repr

inductive Request where
  | run (options : Options) (action : Action)
  | help
  | version
  deriving DecidableEq, Repr

inductive Flag where
  | config | spec | noBuiltins | compact | verbose | help | version | namesOnly | warnOnly
  deriving DecidableEq, Repr

namespace Flag

def takesValue : Flag → Bool
  | config | spec => true
  | _ => false

end Flag

/-- Where an argument stands: before the action, or after its name. -/
inductive Level where
  | top | directive | reference | list | check
  deriving DecidableEq, Repr

namespace Level

def ofName? (name : String) : Option Level :=
  if name = "directive" then some .directive
  else if name = "reference" then some .reference
  else if name = "list" then some .list
  else if name = "check" then some .check
  else none

def longFlag? (l : Level) (name : String) : Option Flag :=
  if name = "config" then some .config
  else if name = "spec" then some .spec
  else if name = "no-builtins" then some .noBuiltins
  else if name = "compact" then some .compact
  else if name = "verbose" then some .verbose
  else if name = "help" then some .help
  else if name = "version" ∧ l = .top then some .version
  else if name = "names-only" ∧ l = .list then some .namesOnly
  else if name = "warn-only" ∧ l = .check then some .warnOnly
  else none

def shortFlag? (l : Level) (letter : Char) : Option Flag :=
  if letter = 'c' then some .config
  else if letter = 'v' then some .verbose
  else if letter = 'h' then some .help
  else if letter = 'V' ∧ l = .top then some .version
  else none

/-- Whether one more value may stand at a level that has a number of them. -/
def admits (count : Nat) : Level → Bool
  | directive => true
  | reference => count == 0
  | _ => false

end Level

structure Given where
  options : Options := {}
  namesOnly : Bool := false
  warnOnly : Bool := false
  values : List String := []

/-- Reading stops where help or the version is asked for, and fails where the arguments make no
sense. -/
inductive Stop where
  | help | version | usage
  deriving DecidableEq, Repr

namespace Given

def empty : Given where

/-- Sets a flag that takes no value; none may be given twice at a level. -/
def set (g : Given) (flag : Flag) : Except Stop Given :=
  let once (isSet : Bool) (g : Given) : Except Stop Given :=
    if isSet then .error .usage else .ok g
  let o := g.options
  match flag with
  | .noBuiltins => once o.noBuiltins { g with options := { o with noBuiltins := true } }
  | .compact => once o.compact { g with options := { o with compact := true } }
  | .verbose => once o.verbose { g with options := { o with verbose := true } }
  | .namesOnly => once g.namesOnly { g with namesOnly := true }
  | .warnOnly => once g.warnOnly { g with warnOnly := true }
  | .help => .error .help
  | .version => .error .version
  | .config | .spec => .error .usage

/-- Sets a flag to a value, which may not be empty. Only spec files may be given again. -/
def setValue (g : Given) (flag : Flag) (value : String) : Except Stop Given :=
  let o := g.options
  if value.isEmpty then .error .usage
  else
    match flag with
    | .spec => .ok { g with options := { o with specFiles := o.specFiles ++ [value] } }
    | .config =>
      if o.config.isSome then .error .usage
      else .ok { g with options := { o with config := some value } }
    | _ => .error .usage

def take (l : Level) (g : Given) (value : String) : Except Stop Given :=
  if l.admits g.values.length then .ok { g with values := g.values ++ [value] } else .error .usage

end Given

/-- An argument that starts with a dash and is more than that. -/
def isFlagLike (arg : String) : Bool :=
  match arg.toList with
  | '-' :: _ :: _ => true
  | _ => false

/-- Reads a flag whose value is the next argument, and the arguments after it. -/
def flagWithNext (g : Given) (flag : Flag) : List String → Except Stop (Given × List String)
  | value :: rest =>
    if isFlagLike value then .error .usage
    else do
      .ok (← g.setValue flag value, rest)
  | [] => .error .usage

/-- Reads an argument after two dashes: a name, or a name, an equals sign and a value. -/
def longFlag (l : Level) (g : Given) (text : List Char) (rest : List String) :
    Except Stop (Given × List String) :=
  let name := String.ofList (text.takeWhile (· != '='))
  match l.longFlag? name, text.dropWhile (· != '=') with
  | some flag, [] =>
    if flag.takesValue then flagWithNext g flag rest
    else do
      .ok (← g.set flag, rest)
  | some flag, _ :: value =>
    if flag.takesValue then do
      .ok (← g.setValue flag (String.ofList value), rest)
    else .error .usage
  | none, _ => .error .usage

/-- Reads letters after one dash. The value of a letter that takes one is the rest of the
letters, without an equals sign before it, or the next argument. -/
def shortFlags (l : Level) (rest : List String) :
    Given → List Char → Except Stop (Given × List String)
  | g, [] => .ok (g, rest)
  | g, letter :: letters =>
    match l.shortFlag? letter with
    | some flag =>
      if flag.takesValue then
        match letters with
        | [] => flagWithNext g flag rest
        | '=' :: value => do
          .ok (← g.setValue flag (String.ofList value), rest)
        | value => do
          .ok (← g.setValue flag (String.ofList value), rest)
      else do
        shortFlags l rest (← g.set flag) letters
    | none => .error .usage

/-- The flags before an action, the action's level, and what is given there. -/
structure Parsed where
  level : Level := .top
  above : Given := {}
  given : Given := {}

/-- Reads an argument that is no flag: at the top the name of an action, else a value. -/
def Parsed.word (p : Parsed) (arg : String) : Except Stop Parsed :=
  if p.level = .top then
    match Level.ofName? arg with
    | some l => .ok ⟨l, p.given, .empty⟩
    | none => .error .usage
  else do
    .ok { p with given := ← p.given.take p.level arg }

/-- What `help` asks for with the arguments after it: at most the name of an action. -/
def helpFor (rest : List String) : Stop :=
  match rest with
  | [] => .help
  | [name] => if name = "help" ∨ (Level.ofName? name).isSome then .help else .usage
  | _ => .usage

/-- Reads arguments one after another; after two dashes all are values. -/
def readAll : Nat → Parsed → List String → Except Stop Parsed
  | 0, p, _ => .ok p
  | _, p, [] => .ok p
  | fuel + 1, p, arg :: rest =>
    match arg.toList with
    | ['-', '-'] => do
      let given ← rest.foldlM (Given.take p.level) p.given
      .ok { p with given := given }
    | '-' :: '-' :: text => do
      let (given, rest) ← longFlag p.level p.given text rest
      readAll fuel { p with given := given } rest
    | '-' :: letter :: letters => do
      let (given, rest) ← shortFlags p.level rest p.given (letter :: letters)
      readAll fuel { p with given := given } rest
    | _ =>
      if p.level = .top ∧ arg = "help" then .error (helpFor rest)
      else do
        readAll fuel (← p.word arg) rest

/-- The options of both levels together. Options after the action are stronger; the spec files
given there replace those before it. -/
def Options.merge (above below : Options) : Options :=
  ⟨below.config.or above.config,
    if below.specFiles.isEmpty then above.specFiles else below.specFiles,
    above.noBuiltins || below.noBuiltins,
    above.compact || below.compact,
    above.verbose || below.verbose⟩

def Parsed.action (p : Parsed) : Except Stop Action :=
  match p.level, p.given.values with
  | .top, _ => .error .usage
  | .directive, [] => .error .usage
  | .directive, names => .ok (.directive names)
  | .reference, [text] => .ok (.reference text)
  | .reference, _ => .error .usage
  | .list, _ => .ok (.list p.given.namesOnly)
  | .check, _ => .ok (.check p.given.warnOnly)

/-- The variable that names the configuration file when no option does. -/
def configVariable : String := "MYSTDOC_CONFIG"

/-- What arguments ask for in an environment. The variable for the configuration file may not be
empty. -/
def request (variableValue? : String → Option String) (args : List String) : Except Stop Request :=
  match readAll args.length {} args with
  | .ok p => do
    let action ← p.action
    let options := p.above.options.merge p.given.options
    match variableValue? configVariable with
    | some "" =>
      if p.above.options.config.isSome && p.given.options.config.isSome then
        .ok (.run options action)
      else .error .usage
    | v => .ok (.run { options with config := options.config.or v } action)
  | .error .help => .ok .help
  | .error .version => .ok .version
  | .error .usage => .error .usage

end DirectiveDocs.Command

import FlashSale.Config.Setting
import FlashSale.Text.Blank

/-!
# The command line

A setting is given as `--name value` or `--name=value`; only in the second form may
the value begin with a hyphen. The text on the command line wins over the variable
in the environment, and that over the default; a text that does not win is never
looked at.

A value given apart from its name is looked at when the next setting begins or the
command line ends. Until then an argument that does not belong there is reported in
its place. The variables follow in the order of the settings, and last whether a
setting is missing that another one needs.
-/

namespace FlashSale.Config

/-- Why a command line is refused. Being asked for help is a reason too. -/
inductive Refusal where
  | help
  | unknownArgument (arg : String)
  | valueMissing (s : Setting)
  | repeated (s : Setting)
  /-- The request for help was given a value. -/
  | unexpectedValue (value : String)
  | invalidValue (s : Setting) (value : String) (fault : NumberError)
  /-- A setting that another one needs is not given. -/
  | settingMissing (s : Setting)
deriving DecidableEq, Repr

namespace Refusal

def message : Refusal → String
  | help => ""
  | unknownArgument arg => "error: unexpected argument '" ++ arg ++ "' found"
  | valueMissing s => "error: a value is required for '" ++ s.usage ++ "' but none was supplied"
  | repeated s => "error: the argument '" ++ s.usage ++ "' cannot be used multiple times"
  | unexpectedValue value =>
    "error: unexpected value '" ++ value ++ "' for '--help' found; no more were expected"
  | invalidValue s value fault =>
    "error: invalid value '" ++ value ++ "' for '" ++ s.usage ++ "': " ++ fault.message
  | settingMissing s =>
    "error: the following required arguments were not provided:\n  " ++ s.usage

/-- The message line by line, without blanks around a line and without empty lines. -/
def lines (r : Refusal) : List String :=
  let trim (line : String) := (skipBlanks (skipBlanks line.toList).reverse).reverse
  ((r.message.splitOn "\n").map trim).filter (· ≠ []) |>.map String.ofList

end Refusal

/-- A setting that was named, and its value once that has come. -/
structure Named where
  setting : Setting
  value : Option String

/-- What has been read of a command line. -/
structure Scan where
  given : List (Setting × String) := []
  named : Option Named := none
  /-- Whether `--` has been read, after which nothing may come. -/
  finished : Bool := false

namespace Scan

/-- A setting has its value. -/
def assign (scan : Scan) (s : Setting) (value : String) : Except Refusal Scan :=
  if (scan.given.lookup s).isSome then .error (.repeated s)
  else
    match fault? s value with
    | some fault => .error (.invalidValue s value fault)
    | none => .ok { scan with given := scan.given ++ [(s, value)] }

/-- Looks at the setting that was named last. -/
def settle (scan : Scan) : Except Refusal Scan :=
  match scan.named with
  | none => .ok scan
  | some ⟨s, none⟩ => .error (.valueMissing s)
  | some ⟨s, some value⟩ => { scan with named := none }.assign s value

/-- An argument that begins with two hyphens: a name and perhaps a value. -/
def long (scan : Scan) (name : String) (value : Option String) : Except Refusal Scan :=
  match Setting.ofName? name, value with
  | some s, some value => do (← scan.settle).assign s value
  | some s, none => do return { ← scan.settle with named := some ⟨s, none⟩ }
  | none, some value =>
    if name = "help" then .error (.unexpectedValue value)
    else .error (.unknownArgument ("--" ++ name))
  | none, none =>
    if name = "help" then do
      let _ ← scan.settle
      .error .help
    else .error (.unknownArgument ("--" ++ name))

/-- An argument that begins with one hyphen, which only a request for help does. -/
def short (scan : Scan) (flag : Char) : Except Refusal Scan :=
  if flag = 'h' then do
    let _ ← scan.settle
    .error .help
  else .error (.unknownArgument (String.ofList ['-', flag]))

/-- An argument that is no name. -/
def plain (scan : Scan) (arg : String) : Except Refusal Scan :=
  match scan.named with
  | some ⟨s, none⟩ => .ok { scan with named := some ⟨s, some arg⟩ }
  | _ => .error (.unknownArgument arg)

def read (scan : Scan) (arg : String) : Except Refusal Scan :=
  if scan.finished then .error (.unknownArgument arg)
  else
    match arg.toList with
    | ['-', '-'] => .ok { scan with finished := true }
    | '-' :: '-' :: cs =>
      let name := String.ofList (cs.takeWhile (· != '='))
      match cs.dropWhile (· != '=') with
      | [] => scan.long name none
      | _ :: value => scan.long name (some (String.ofList value))
    | '-' :: flag :: _ => scan.short flag
    | _ => scan.plain arg

end Scan

/-- The settings that a command line gives, with their texts. -/
def scan (args : List String) : Except Refusal (List (Setting × String)) := do
  let scan ← args.foldlM Scan.read {}
  return (← scan.settle).given

/-- The text that wins for a setting. -/
def winner? (given : List (Setting × String)) (env : String → Option String) (s : Setting) :
    Option String :=
  (given.lookup s).or ((env s.variableName).or s.default?)

/-- The value that a text has for a setting. -/
def valueOf {α : Type} (s : Setting) (text : String) (read : String → Except NumberError α) :
    Except Refusal α :=
  (read text).mapError (.invalidValue s text)

/-- The value of a setting that has a default. -/
def required {α : Type} (winner : Setting → Option String) (s : Setting)
    (read : String → Except NumberError α) : Except Refusal α :=
  match winner s with
  | none => .error (.settingMissing s)
  | some text => valueOf s text read

/-- The value of a setting that may be unset. -/
def optional {α : Type} (winner : Setting → Option String) (s : Setting)
    (read : String → Except NumberError α) : Except Refusal (Option α) :=
  match winner s with
  | none => .ok none
  | some text => (valueOf s text read).map some

/-- Refuses one of the two settings of the stock to begin with that comes without the other. -/
def checkSeed (c : Config) : Except Refusal Config :=
  match c.seedItem, c.seedStock with
  | some _, none => .error (.settingMissing .seedStock)
  | none, some _ => .error (.settingMissing .seedItem)
  | _, _ => .ok c

/-- The configuration in which each setting has the value of its winning text. -/
def ofWinners (winner : Setting → Option String) : Except Refusal Config := do
  let c : Config :=
    { databaseUrl := ← required winner .databaseUrl .ok
      redisUrl := ← required winner .redisUrl .ok
      port := ← required winner .port readPort
      workerCount := ← required winner .workerCount readSize
      queueCapacity := ← required winner .queueCapacity readSize
      commitTimeoutMs := ← required winner .commitTimeoutMs readSize
      idempotencyTtlSecs := ← required winner .idempotencyTtlSecs readSize
      dbPoolSize := ← required winner .dbPoolSize readPoolSize
      seedItem := ← optional winner .seedItem .ok
      seedStock := ← optional winner .seedStock readStock }
  checkSeed c

/-- The configuration given by a command line and an environment. -/
def parse (args : List String) (env : String → Option String) : Except Refusal Config := do
  let given ← scan args
  ofWinners (winner? given env)

end FlashSale.Config

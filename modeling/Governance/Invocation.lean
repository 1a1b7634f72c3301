import Governance.Command

/-!
# Command lines

What the words of a command line ask for: one command with its files, and perhaps a file with the
configuration, which may stand anywhere. `Invocation.run` runs the command.
-/

namespace Governance

/-- A command with what it works on. -/
inductive Task
  | validate (paths : List String) (asJson : Bool)
  | evaluate (policy assessment : String)
  | evaluateAll (policies : List String) (assessment : String)
deriving DecidableEq

/-- What a command line asks for. -/
structure Invocation where
  config : Option String
  task : Task
deriving DecidableEq

/-- Why a command line is not understood. -/
inductive UsageFault
  | noCommand
  | unknownCommand (name : String)
  | unknownOption (name : String)
  | missing (what : String)
  | unexpected (word : String)
deriving DecidableEq

def UsageFault.message : UsageFault → String
  | noCommand => "a command is required: validate, evaluate or evaluate-all"
  | unknownCommand name => "unrecognized command " ++ Text.quote name
  | unknownOption name => "unexpected option " ++ Text.quote name
  | missing what => "a value is required for " ++ what
  | unexpected word => "unexpected argument " ++ Text.quote word

/-- The words of a command line, told apart. -/
structure Words where
  /-- Words that belong to no option. -/
  plain : List String
  /-- Options with the words behind them, in order. -/
  options : List (String × List String)

namespace Words

/-- How many words an option takes at most. -/
def width? : String → Option (Option Nat)
  | "--json" => some (some 0)
  | "--config" => some (some 1)
  | "--policy" => some (some 1)
  | "--assessment" => some (some 1)
  | "--policies" => some none
  | _ => none

def isOption (word : String) : Bool := word.startsWith "--"

/-- Tells words apart; `room` is how many more the last option takes. -/
def collect (room : Option Nat) (options : List (String × List String)) :
    List String → Except UsageFault Words
  | [] => .ok ⟨[], options.reverse⟩
  | word :: more =>
    if isOption word then
      match width? word with
      | some width => collect width ((word, []) :: options) more
      | none => .error (.unknownOption word)
    else
      match room, options with
      | some 0, _ =>
        (collect (some 0) options more).map fun w => { w with plain := word :: w.plain }
      | _, [] => (collect (some 0) [] more).map fun w => { w with plain := word :: w.plain }
      | room, (name, words) :: rest =>
        collect (room.map (· - 1)) ((name, words ++ [word]) :: rest) more

def ofArguments (arguments : List String) : Except UsageFault Words :=
  collect (some 0) [] arguments

/-- The words of the option `name`. -/
def option (w : Words) (name : String) : List String :=
  (w.options.filter fun o => o.1 == name).flatMap Prod.snd

/-- The one word of the option `name`, which has to be there. -/
def required (w : Words) (name : String) : Except UsageFault String :=
  match w.option name with
  | [word] => .ok word
  | [] => .error (.missing name)
  | _ :: word :: _ => .error (.unexpected word)

/-- Refuses options other than `names`. -/
def only (w : Words) (names : List String) : Except UsageFault Unit :=
  match w.options.find? fun o => !names.contains o.1 with
  | some o => .error (.unknownOption o.1)
  | none => .ok ()

end Words

/-- The task of `command` with its words. -/
def Task.ofWords (command : String) (plain : List String) (w : Words) : Except UsageFault Task := do
  match command with
  | "validate" =>
    w.only ["--config", "--json"]
    if plain.isEmpty then .error (.missing "PATH")
    else .ok (.validate plain (w.options.any fun o => o.1 == "--json"))
  | "evaluate" =>
    w.only ["--config", "--policy", "--assessment"]
    match plain with
    | word :: _ => .error (.unexpected word)
    | [] => .ok (.evaluate (← w.required "--policy") (← w.required "--assessment"))
  | "evaluate-all" =>
    w.only ["--config", "--policies", "--assessment"]
    match plain, w.option "--policies" with
    | word :: _, _ => .error (.unexpected word)
    | [], [] => .error (.missing "--policies")
    | [], paths => .ok (.evaluateAll paths (← w.required "--assessment"))
  | name => .error (.unknownCommand name)

namespace Invocation

/-- Reads a command line. -/
def ofArguments (arguments : List String) : Except UsageFault Invocation := do
  let w ← Words.ofArguments arguments
  match w.plain with
  | [] => .error .noCommand
  | command :: plain =>
    let task ← Task.ofWords command plain w
    match w.option "--config" with
    | [] =>
      if w.options.any fun o => o.1 == "--config" then .error (.missing "--config")
      else .ok ⟨none, task⟩
    | [path] => .ok ⟨some path, task⟩
    | _ :: word :: _ => .error (.unexpected word)

/-- The files that the command may have to see. -/
def paths (i : Invocation) : List String :=
  i.config.toList ++ match i.task with
    | .validate paths _ => paths
    | .evaluate policy assessment => [policy, assessment]
    | .evaluateAll policies assessment => policies ++ [assessment]

variable [Pattern.Library]

/-- Runs the command of `i`, with what it may see of the outside. -/
def run (i : Invocation) (files : Files) (environment : String → Option String)
    (clock : Pattern.Clock) (ids : IdSource) (now : Timestamp) (runtime : Runtime := .ready) :
    Attempt Printed := do
  let config ← files.configWith i.config environment
  let s : Session := ⟨files, config, clock, ids, now⟩
  match i.task with
  | .validate paths asJson => s.validate asJson paths
  | .evaluate policy assessment => s.evaluate policy assessment
  | .evaluateAll policies assessment => s.evaluateAll policies assessment runtime

end Invocation

end Governance

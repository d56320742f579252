import ProxyRouting.Text.Cut

/-!
# Arguments of the command line

    [-c FILE | --config FILE] URL...

A value may follow its option as an argument of its own, after an equals sign or, with the short
form, at once.  After `--` every argument is a URL; so are the empty argument and a lone dash.

An option whose value is still to come is `pending`.  It is settled, and its faults are found, when
the next known option or URL is met, or at the end.
-/

namespace ProxyRouting.CommandLine

structure Arguments where
  config : Option String
  urls : List String
  deriving Repr, DecidableEq, Inhabited

/-- What the arguments ask for. -/
inductive Invocation
  | route (arguments : Arguments)
  | version
  | help
  deriving Repr, DecidableEq

inductive UsageFault
  | urlsMissing
  | unexpected (argument : String)
  | unexpectedValue (option value : String)
  | valueMissing
  | givenTwice
  deriving Repr, DecidableEq

def UsageFault.message : UsageFault → String
  | urlsMissing => "the following required arguments were not provided:"
  | unexpected argument => "unexpected argument '" ++ argument ++ "' found"
  | unexpectedValue option value =>
    "unexpected value '" ++ value ++ "' for '" ++ option ++ "' found; no more were expected"
  | valueMissing => "a value is required for '--config <CONFIG>' but none was supplied"
  | givenTwice => "the argument '--config <CONFIG>' cannot be used multiple times"

/-! ## Reading -/

/-- An option that has been met, without its value or with it. -/
inductive Pending
  | none
  | awaiting
  | given (value : String)
  deriving Repr, DecidableEq

structure State where
  config : Option String
  pending : Pending
  urls : List String

namespace State

def start : State := ⟨none, .none, []⟩

/-- Takes up the value of the pending option. -/
def settle (s : State) : Except UsageFault State :=
  match s.pending with
  | .none => .ok s
  | .awaiting => .error .valueMissing
  | .given value =>
    if s.config.isSome then .error .givenTwice
    else if value = "" then .error .valueMissing
    else .ok { s with config := some value, pending := .none }

/-- What the arguments ask for, with these URLs as the last. -/
def finish (s : State) (urls : List String) : Except UsageFault Invocation := do
  let s ← s.settle
  match s.urls ++ urls with
  | [] => .error .urlsMissing
  | urls => return .route ⟨s.config, urls⟩

/-- Meets the option with or without a value. -/
def option (s : State) (value : Option (List Char)) : Except UsageFault State := do
  let s ← s.settle
  match value with
  | some v => settle { s with pending := .given (String.ofList v) }
  | none => return { s with pending := .awaiting }

/-- An argument that is no option: the value that is awaited, or a URL. -/
def plain (s : State) (argument : List Char) : Except UsageFault State :=
  match s.pending with
  | .awaiting => .ok { s with pending := .given (String.ofList argument) }
  | _ => do
    let s ← s.settle
    return { s with urls := s.urls ++ [String.ofList argument] }

end State

/-- What an argument is by its first characters. -/
inductive Shape
  | rest
  | long (name : List Char) (value : Option (List Char))
  | short (flag : Char) (value : Option (List Char))
  | plain

def shape : List Char → Shape
  | ['-', '-'] => .rest
  | '-' :: '-' :: name =>
    match Text.cut? '=' name with
    | some (name, value) => .long name (some value)
    | none => .long name none
  | '-' :: flag :: '=' :: value => .short flag (some value)
  | ['-', flag] => .short flag none
  | '-' :: flag :: value => .short flag (some value)
  | _ => .plain

/-- Settles what is pending and then does what was asked for instead of routing. -/
def instead (s : State) (i : Invocation) : Except UsageFault Invocation := do
  let _ ← s.settle
  return i

def readFrom (s : State) : List String → Except UsageFault Invocation
  | [] => s.finish []
  | argument :: rest =>
    match shape argument.toList with
    | .rest => s.finish rest
    | .plain => do readFrom (← s.plain argument.toList) rest
    | .short flag value =>
      if flag == 'c' then do readFrom (← s.option value) rest
      else if flag == 'V' then instead s .version
      else if flag == 'h' then instead s .help
      else .error (.unexpected (String.ofList ['-', flag]))
    | .long name value =>
      let option := "--" ++ String.ofList name
      if option = "--config" then do readFrom (← s.option value) rest
      else
        let invocation? : Option Invocation :=
          if option = "--version" then some .version
          else if option = "--help" then some .help
          else none
        match invocation?, value with
        | some i, none => instead s i
        | some _, some v => .error (.unexpectedValue option (String.ofList v))
        | none, _ => .error (.unexpected option)

def read (arguments : List String) : Except UsageFault Invocation :=
  readFrom .start arguments

end ProxyRouting.CommandLine

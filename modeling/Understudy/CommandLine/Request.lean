import Understudy.CommandLine.Options
import Understudy.Settings.Basic
import Understudy.Value.Shown

/-! What the words of a command line ask for. -/

set_option autoImplicit false

namespace Understudy.CommandLine

open Understudy.Settings

def UsageFault.message : UsageFault → String
  | .ambiguous word candidates =>
    "ambiguous option: " ++ word ++ " could match " ++ ", ".intercalate candidates
  | .ignoredValue option value =>
    "argument " ++ option ++ ": ignored explicit argument " ++ Text.quoted value
  | .missingValue option => "argument " ++ option ++ ": expected one argument"
  | .rival option other => "argument " ++ option ++ ": not allowed with argument " ++ other
  | .badChoice argument value choices =>
    "argument " ++ argument ++ ": invalid choice: " ++ Text.quoted value ++ " (choose from "
      ++ ", ".intercalate (choices.map Text.quoted) ++ ")"
  | .required argument => "the following arguments are required: " ++ argument
  | .unrecognized words => "unrecognized arguments: " ++ " ".intercalate words

inductive Command where
  | stub
  | callGraph
  | all
  deriving DecidableEq, Repr

namespace Command

def name : Command → String
  | .stub => "stub"
  | .callGraph => "callgraph"
  | .all => "all"

def list : List Command := [.stub, .callGraph, .all]

def ofName? (name : String) : Option Command := list.find? (·.name == name)

def views : Command → List String
  | .stub => ["stub"]
  | .callGraph => ["callgraph"]
  | .all => ["stub", "callgraph"]

end Command

inductive GlobalKey where
  | help
  | verbose
  | quiet
  deriving DecidableEq, Repr

def globalGrammar : Grammar GlobalKey where
  options :=
    [⟨.help, ["-h", "--help"], .help⟩, ⟨.verbose, ["--verbose", "-v"], .flag⟩,
     ⟨.quiet, ["--quiet", "-q"], .flag⟩]
  rivals := [.verbose, .quiet]
  operand := .everything

inductive CommandKey where
  | help
  | out
  | config
  | option
  | interface
  | format
  deriving DecidableEq, Repr

def Command.grammar (c : Command) : Grammar CommandKey :=
  let shared : List (OptionRule CommandKey) :=
    [⟨.help, ["-h", "--help"], .help⟩, ⟨.out, ["--out", "-o"], .value []⟩,
     ⟨.config, ["--config"], .value []⟩, ⟨.option, ["--option"], .value []⟩]
  let interface : OptionRule CommandKey := ⟨.interface, ["--interface", "-i"], .value []⟩
  let format : OptionRule CommandKey :=
    ⟨.format, ["--format"], .value (GraphFormat.list.map GraphFormat.keyword)⟩
  let own :=
    match c with
    | .stub => [interface]
    | .callGraph => [format]
    | .all => [interface, format]
  { options := shared ++ own, rivals := [], operand := .several }

inductive Verbosity where
  | quiet
  | normal
  | verbose
  deriving DecidableEq, Repr

/-- A request. A value that was given as a double dash is nothing. -/
structure Request where
  verbosity : Verbosity
  command : Command
  units : List String
  out : Option String
  config : Option String
  options : List (Option String)
  interfaces : Option (List (Option String))
  format : Option String
  deriving DecidableEq, Repr

structure Refusal where
  speaker : String
  halt : Halt
  deriving DecidableEq, Repr

def program : String := "declviews"

def ofReadings (command : Command) (outer : Reading GlobalKey) (inner : Reading CommandKey)
    (units : List String) : Request where
  verbosity :=
    if outer.has .verbose then .verbose else if outer.has .quiet then .quiet else .normal
  command
  units
  out := (inner.values .out).getLast?.getD (some ".")
  config := (inner.values .config).getLast?.join
  options := inner.values .option
  interfaces := if inner.has .interface then some (inner.values .interface) else none
  format := (inner.values .format).getLast?.join

/-- Read the words after the name of a command. Words that nobody takes are refused last. -/
def readCommand (command : Command) (outer : Reading GlobalKey) (words : List String) :
    Except Refusal Request := do
  let speaker := program ++ " " ++ command.name
  let inner ← (Reading.ofWords command.grammar words).mapError (⟨speaker, ·⟩)
  match inner.operand with
  | none => .error ⟨speaker, .usage (.required "units")⟩
  | some units =>
    let extras := outer.extras ++ inner.extras
    if extras.isEmpty then return ofReadings command outer inner units
    else .error ⟨program, .usage (.unrecognized extras)⟩

def Request.ofWords (words : List String) : Except Refusal Request := do
  let outer ← (Reading.ofWords globalGrammar words).mapError (⟨program, ·⟩)
  match outer.operand with
  | none | some [] => .error ⟨program, .usage (.required "command")⟩
  | some (name :: rest) =>
    match Command.ofName? name with
    | some command => readCommand command outer rest
    | none =>
      .error ⟨program, .usage (.badChoice "command" name (Command.list.map Command.name))⟩

end Understudy.CommandLine

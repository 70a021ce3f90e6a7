import Columnar.Command.Line

set_option autoImplicit false

namespace Columnar

def UsageFault.message : UsageFault → String
  | .unknownWord => "unexpected argument"
  | .missingWord => "a required argument was not given"
  | .missingValue => "a value is required but none was supplied"
  | .needlessValue => "an option without a value was given one"
  | .repeatedOption => "an option cannot be used more than once"
  | .badNumber => "invalid number"
  | .unknownCommand => "unrecognized command"
  | .missingCommand => "a command is required but none was given"
  | .nothingGiven => "a command is required"
  | .helpWanted => "help"
  | .versionWanted => "version"

def CommandLine.summary : List String :=
  ["Usage: columnar [--log-level LEVEL] [--conf KEY=VALUE]... COMMAND",
    "  gen OUT [--rows N] [--stripe-rows N] [--compression NAME] [--deterministic]",
    "  meta FILE",
    "  scan FILE [--start N] [--len N] [--columns LIST] [--limit N]",
    "  splits [INPUT]... [--num-splits N]",
    "  count [INPUT]... [--num-splits N]",
    "  validate [INPUT]...",
    "  sniff FILE"]

def Command.inputs : Command → List Path
  | .generate path .. => [path]
  | .describe path => [path]
  | .scan path .. => [path]
  | .splits roots _ => roots
  | .count roots _ => roots
  | .validate roots => roots
  | .sniff path => [path]

def Command.output? : Command → Option Path
  | .generate path .. => some path
  | _ => none

end Columnar

import Columnar.Command
import Columnar.Command.Grammar

set_option autoImplicit false

namespace Columnar.CommandLine

def commonOptions : List (String × OptionForm) :=
  [("log-level", .text), ("conf", .texts), ("help", .help)]

def commandNames : List String :=
  ["gen", "meta", "scan", "splits", "count", "validate", "sniff", "help"]

def lineGrammar : Grammar := ⟨("version", .version) :: commonOptions, some 0, commandNames⟩

def grammarOf (name : String) : Grammar :=
  match name with
  | "gen" =>
    ⟨[("rows", .number), ("stripe-rows", .number), ("compression", .text),
      ("deterministic", .flag)] ++ commonOptions, some 1, []⟩
  | "scan" =>
    ⟨[("start", .number), ("len", .number), ("columns", .text), ("limit", .number)]
      ++ commonOptions, some 1, []⟩
  | "splits" => ⟨("num-splits", .number) :: commonOptions, none, []⟩
  | "count" => ⟨("num-splits", .number) :: commonOptions, none, []⟩
  | "validate" => ⟨commonOptions, none, []⟩
  | _ => ⟨commonOptions, some 1, []⟩

def commandOf (name : String) (gathered : Gathered) : Except UsageFault Command :=
  let paths := gathered.positionsInOrder.map Path.ofText
  match name with
  | "splits" => .ok (.splits paths ((gathered.number? "num-splits").getD 1))
  | "count" => .ok (.count paths ((gathered.number? "num-splits").getD 8))
  | "validate" => .ok (.validate paths)
  | _ =>
    match paths with
    | [] => .error .missingWord
    | path :: _ =>
      match name with
      | "gen" =>
        .ok (.generate path ((gathered.number? "rows").getD 10000)
          ((gathered.number? "stripe-rows").getD 1000)
          ((gathered.value? "compression").getD "zstd") (gathered.flags.contains "deterministic"))
      | "scan" =>
        .ok (.scan path ((gathered.number? "start").getD 0) (gathered.number? "len")
          (gathered.value? "columns") (gathered.number? "limit"))
      | "meta" => .ok (.describe path)
      | _ => .ok (.sniff path)

def helpFault : List String → UsageFault
  | [] => .helpWanted
  | [name] => if commandNames.contains name then .helpWanted else .unknownCommand
  | _ => .unknownCommand

-- Reads the words of a line. The words of the command are checked before the last option in front
-- of it, and settings behind the command replace those before it.
def read (words : List String) : Except UsageFault CommandLine :=
  match lineGrammar.read words with
  | .error fault => .error fault
  | .ok ⟨gathered, _, none⟩ =>
    .error (if gathered.values.isEmpty then .nothingGiven else .missingCommand)
  | .ok ⟨_, _, some ("help", rest)⟩ => .error (helpFault rest)
  | .ok ⟨gathered, pending, some (name, rest)⟩ =>
    match (grammarOf name).read rest with
    | .error fault => .error fault
    | .ok ⟨own, _, _⟩ =>
      match commandOf name own with
      | .error fault => .error fault
      | .ok command =>
        match lineGrammar.settle gathered pending with
        | .error fault => .error fault
        | .ok before =>
          let settings := own.valuesOf "conf"
          .ok ⟨if settings.isEmpty then before.valuesOf "conf" else settings, command⟩

end Columnar.CommandLine

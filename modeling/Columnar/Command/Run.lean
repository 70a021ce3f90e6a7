import Columnar.Command.Line
import Columnar.Listing
import Columnar.Reading.RecordReader
import Columnar.Rendering
import Columnar.Sample
import Columnar.TypeTree.Text
import Columnar.Writer

set_option autoImplicit false

namespace Columnar

inductive Ending where
  | done
  | refused
  | failed (failure : Failure)
  | misused (fault : UsageFault)

structure Outcome where
  ending : Ending
  output : List String
  notes : List String
  files : FileSystem

namespace Ending

def exitCode : Ending → Nat
  | .done => 0
  | .refused => 1
  | .failed _ => 1
  | .misused .helpWanted => 0
  | .misused .versionWanted => 0
  | .misused _ => 2

end Ending

namespace Outcome

open Text (natText padRight)

def failed (files : FileSystem) (failure : Failure) : Outcome := ⟨.failed failure, [], [], files⟩

def addSamples : Nat → Nat → Writer → Except Failure Writer
  | 0, _, writer => .ok writer
  | count + 1, number, writer =>
    match writer.add (Sample.row number) with
    | .error failure => .error failure
    | .ok more => addSamples count (number + 1) more

def sampleOptions (encoder : Zstd.Encoder) (clock : Int64) (stripeRows : Nat) (kind : Compression)
    (deterministic : Bool) : WriterOptions :=
  ⟨stripeRows, ⟨kind, 3, encoder⟩, if deterministic then 0 else clock⟩

def generate (encoder : Zstd.Encoder) (files : FileSystem) (clock : Int64) (path : Path)
    (rows stripeRows : Nat) (compression : String) (deterministic : Bool) : Outcome :=
  match Compression.ofSetting compression with
  | .error failure => failed files failure
  | .ok kind =>
    let options := sampleOptions encoder clock stripeRows kind deterministic
    match Writer.create files path Sample.fields options with
    | .error failure => failed files failure
    | .ok (writer, made) =>
      match addSamples rows 0 writer with
      | .error failure => failed made failure
      | .ok full =>
        let (length, written) := full.close made
        ⟨.done, [],
          ["gen: " ++ natText rows ++ " rows, " ++ natText length ++ " bytes -> " ++ path.text],
          written⟩

def stripeLine (number : Nat) (stripe : StripeInfo) : String :=
  "stripe #" ++ padRight 4 (natText number) ++ " off="
    ++ padRight 10 (natText stripe.offset.toNat) ++ " len="
    ++ padRight 10 (natText stripe.length.toNat) ++ " rows=" ++ natText stripe.rows.toNat

def describe (files : FileSystem) (path : Path) : Outcome :=
  match Container.openPath files path with
  | .error failure => failed files failure
  | .ok container =>
    let lines :=
      ["schema:      " ++ container.types.text, "rows:        " ++ natText container.rowCount,
        "compression: " ++ container.compression.label,
        "writer:      " ++ container.footer.writerInfo.writer,
        "length:      " ++ natText container.length]
    let stripes := container.footer.stripes.zipIdx.map fun (stripe, number) =>
      stripeLine number stripe
    ⟨.done, lines ++ stripes, [], files⟩

structure Drained where
  rows : List Row
  failure : Option Failure
  reader : RecordReader

def drain (files : FileSystem) : Nat → RecordReader → Row → List Row → Drained
  | 0, reader, _, read => ⟨read, none, reader⟩
  | fuel + 1, reader, slot, read =>
    let polled := reader.next files slot
    match polled.more with
    | .error failure => ⟨read, some failure, polled.source⟩
    | .ok false => ⟨read, none, polled.source⟩
    | .ok true => drain files fuel polled.source polled.slot (polled.slot :: read)

-- No reader returns more rows than its stripes have; one call more finds the end.
def callLimit (reader : RecordReader) : Nat := reader.reader.rows.totalRows + 1

def drainAll (files : FileSystem) (reader : RecordReader) (limit : Option Nat) : Drained :=
  let calls := match limit with
    | none => callLimit reader
    | some most => min most (callLimit reader)
  drain files calls reader reader.slot []

def lines (types : TypeTree) : List Row → List String × Option Failure
  | [] => ([], none)
  | row :: rest =>
    match Rendering.line? types row with
    | none => ([], some .outOfRange)
    | some line =>
      let (more, failure) := lines types rest
      (String.ofList line :: more, failure)

def lengthFrom (files : FileSystem) (path : Path) (start : Nat) :
    Option Nat → Except Failure Nat
  | some length => .ok length
  | none =>
    match files.length path with
    | .error fault => .error (.io fault)
    | .ok length => .ok (length - start)

def withColumns (settings : Settings) : Option String → Except Failure Settings
  | none => .ok settings
  | some columns => settings.set Ordinals.settingKey columns

def scanNote (rows : Nat) (reader : RecordReader) : String :=
  "scan: " ++ natText rows ++ " rows, pos=" ++ natText reader.position ++ " progress="
    ++ String.ofList reader.progress.threePlaces

def scanWith (files : FileSystem) (reader : RecordReader) (limit : Option Nat) : Outcome :=
  let drained := drainAll files reader limit
  let (output, unshown) := lines reader.types drained.rows.reverse
  match unshown.or drained.failure with
  | some failure => ⟨.failed failure, output, [], files⟩
  | none =>
    let note := scanNote drained.rows.length drained.reader
    match (drained.reader.close files).1 with
    | .error failure => ⟨.failed failure, output, [note], files⟩
    | .ok () => ⟨.done, output, [note], files⟩

def scan (files : FileSystem) (settings : Settings) (path : Path) (start : Nat)
    (length : Option Nat) (columns : Option String) (limit : Option Nat) : Outcome :=
  match withColumns settings columns with
  | .error failure => failed files failure
  | .ok settings =>
    match lengthFrom files path start length with
    | .error failure => failed files failure
    | .ok length =>
      match RecordReader.openSplit files settings ⟨path, start, length⟩ with
      | .error failure => failed files failure
      | .ok reader => scanWith files reader limit

def planned (files : FileSystem) (settings : Settings) (roots : List Path) (wanted : Nat) :
    Except Failure (List Path × List Split) :=
  match Listing.list files roots with
  | .error failure => .error failure
  | .ok paths => (SplitPlan.plan files settings paths wanted).map fun splits => (paths, splits)

def showSplits (files : FileSystem) (settings : Settings) (roots : List Path) (wanted : Nat) :
    Outcome :=
  match planned files settings roots wanted with
  | .error failure => failed files failure
  | .ok (_, splits) => ⟨.done, splits.map Split.text, [], files⟩

def countSplit (files : FileSystem) (settings : Settings) (split : Split) : Except Failure Nat :=
  match RecordReader.openSplit files settings split with
  | .error failure => .error failure
  | .ok reader =>
    let drained := drainAll files reader none
    match drained.failure with
    | some failure => .error failure
    | none => (drained.reader.close files).1.map fun _ => drained.rows.length

def countSplits (files : FileSystem) (settings : Settings) : List Split → Except Failure Nat
  | [] => .ok 0
  | split :: rest =>
    match countSplit files settings split with
    | .error failure => .error failure
    | .ok rows => (countSplits files settings rest).map (rows + ·)

def count (files : FileSystem) (settings : Settings) (roots : List Path) (wanted : Nat) :
    Outcome :=
  match planned files settings roots wanted with
  | .error failure => failed files failure
  | .ok (paths, splits) =>
    match countSplits files settings splits with
    | .error failure => failed files failure
    | .ok rows =>
      ⟨.done,
        [natText rows ++ " rows in " ++ natText paths.length ++ " file(s), "
          ++ natText splits.length ++ " split(s)"], [], files⟩

def validate (files : FileSystem) (roots : List Path) : Outcome :=
  match Listing.list files roots with
  | .error failure => failed files failure
  | .ok paths =>
    if allOpen files paths then
      ⟨.done, ["valid: " ++ natText paths.length ++ " file(s)"], [], files⟩
    else ⟨.refused, ["invalid: " ++ natText paths.length ++ " file(s) checked"], [], files⟩

def sniff (files : FileSystem) (path : Path) : Outcome :=
  match HeaderProbe.ofPath files path with
  | .error failure => failed files failure
  | .ok probe =>
    ⟨.done,
      ["orc:    " ++ (if probe.isOurs then "true" else "false"),
        "header: " ++ Bytes.hex probe.header, "text:   " ++ Text.quote probe.text], [], files⟩

end Outcome

def Command.run (encoder : Zstd.Encoder) (files : FileSystem) (clock : Int64) (settings : Settings) :
    Command → Outcome
  | .generate path rows stripeRows compression deterministic =>
    Outcome.generate encoder files clock path rows stripeRows compression deterministic
  | .describe path => .describe files path
  | .scan path start length columns limit =>
    .scan files settings path start length columns limit
  | .splits roots wanted => .showSplits files settings roots wanted
  | .count roots wanted => .count files settings roots wanted
  | .validate roots => .validate files roots
  | .sniff path => .sniff files path

namespace CommandLine

def settingsOf (pairs : List String) : Except Failure Settings :=
  pairs.foldlM Settings.apply .standard

def run (encoder : Zstd.Encoder) (files : FileSystem) (clock : Int64) (words : List String) :
    Outcome :=
  match read words with
  | .error fault => ⟨.misused fault, [], [], files⟩
  | .ok line =>
    match settingsOf line.settings with
    | .error failure => Outcome.failed files failure
    | .ok settings => Command.run encoder files clock settings line.command

end CommandLine

end Columnar

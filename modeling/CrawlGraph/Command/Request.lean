import CrawlGraph.Command.Arguments
import CrawlGraph.Ident.Text
import CrawlGraph.Record
import CrawlGraph.Text.Digits

/-!
# The commands

The command line names one of four commands: `init` makes a store, `import` loads crawl results
into one, `scan` counts what is in it, and `find` looks up a link.

1. `Command` and the shape of each command's words.
2. Values of options and words.
3. `Command.ofSettings` and `Request.read`.
-/

namespace CrawlGraph

open Command

/-! ## 1. Commands -/

/-- How the report of a scan is written. -/
inductive ReportFormat where
  | text | json
  deriving DecidableEq, Repr

/-- A command with all it needs. `dir` is the directory of the store. -/
inductive Command where
  | init (dir : String) (force : Bool)
  | load (dir input : String) (prune : Bool)
  | scan (dir : String) (parts : Nat) (before : Stamp) (format : ReportFormat)
  | find (dir : String) (id : Ident)
  deriving DecidableEq

/-- What a command line asks for. -/
inductive Request where
  | run (command : Command)
  /-- The version, under the name that it was asked by. -/
  | version (name : String)
  | help
  | misused (reason : Misuse)
  deriving DecidableEq

/-- The names of the four commands. -/
inductive CommandName where
  | init | load | scan | find
  deriving DecidableEq, Repr

namespace CommandName

/-- The word for a command. -/
def word : CommandName → String
  | .init => "init"
  | .load => "import"
  | .scan => "scan"
  | .find => "find"

/-- All commands. -/
def all : List CommandName := [.init, .load, .scan, .find]

/-- The command that a word is for. -/
def ofWord? (w : String) : Option CommandName := all.find? fun c => c.word == w

/-- The option for the directory of the store. -/
def dirSwitch : Switch := ⟨"db", some 'd', true⟩

/-- The words that a command takes. -/
def shape : CommandName → Shape
  | .init => ⟨[⟨"force", some 'f', false⟩], 1⟩
  | .load => ⟨[dirSwitch, ⟨"input", some 'i', true⟩, ⟨"prune", none, false⟩], 0⟩
  | .scan =>
    ⟨[dirSwitch, ⟨"partitions", some 'p', true⟩, ⟨"before", some 'b', true⟩,
      ⟨"format", some 'f', true⟩], 0⟩
  | .find => ⟨[dirSwitch], 1⟩

end CommandName

/-! ## 2. Values -/

/-- The directory of the store where none is named. -/
def usualDir : String := "~/.config/linkgraph/"

/-- The digits behind an optional plus sign. -/
def withoutPlus (cs : List Char) : List Char :=
  match cs with
  | '+' :: rest => rest
  | _ => cs

/-- A count that fits 64 bits. -/
def readCount? (value : String) : Option Nat :=
  (Text.decimalValue? (withoutPlus value.toList)).filter (· < UInt64.size)

/-- A point in time. -/
def readStamp? (value : String) : Option Stamp :=
  match value.toList with
  | '-' :: digits => (Text.decimalValue? digits).bind fun n => Stamp.ofInt? (-(n : Int))
  | cs => (Text.decimalValue? (withoutPlus cs)).bind fun n => Stamp.ofInt? n

/-- The format with a name. -/
def readFormat? (value : String) : Option ReportFormat :=
  if value = "text" then some .text else if value = "json" then some .json else none

/-- Whether the value of a switch can be read. -/
def isValueOf (name value : String) : Bool :=
  if name = "input" then value ≠ ""
  else if name = "partitions" then (readCount? value).isSome
  else if name = "before" then (readStamp? value).isSome
  else if name = "format" then (readFormat? value).isSome
  else true

/-- Whether a free word of a command can be read. -/
def isWordOf (name : CommandName) (text : String) : Bool :=
  name ≠ .find || (Ident.read? text.toList).isSome

/-! ## 3. Reading a command line -/

namespace Command

/-- The name of the switch that is set, if it is one. -/
def Setting.switch? : Setting → Option String
  | .flag name => some name
  | .option name _ => some name
  | .word _ => none

/-- What is wrong with the settings, the first of which are `before`. -/
def fault? (name : CommandName) (before : List String) : List Setting → Option Misuse
  | [] => none
  | setting :: rest =>
    let repeated := match setting.switch? with
      | some s => before.contains s
      | none => false
    if repeated then some (.repeated (setting.switch?.getD ""))
    else match setting with
      | .option s value =>
        if isValueOf s value then fault? name (s :: before) rest else some (.badValue s value)
      | .flag s => fault? name (s :: before) rest
      | .word text =>
        if isWordOf name text then fault? name before rest else some (.badValue name.word text)

/-- The value of an option. -/
def optionValue? (settings : List Setting) (name : String) : Option String :=
  settings.findSome? fun s =>
    match s with
    | .option n value => if n = name then some value else none
    | _ => none

/-- The first free word. -/
def firstWord? (settings : List Setting) : Option String :=
  settings.findSome? fun s =>
    match s with
    | .word text => some text
    | _ => none

/-- The command that faultless settings describe, or what is missing from them. -/
def ofSettings (name : CommandName) (settings : List Setting) : Except Misuse Command :=
  let dir := (optionValue? settings "db").getD usualDir
  match name with
  | .init =>
    .ok (.init ((firstWord? settings).getD usualDir) (settings.contains (.flag "force")))
  | .load =>
    match optionValue? settings "input" with
    | some input => .ok (.load dir input (settings.contains (.flag "prune")))
    | none => .error (.missing "input")
  | .scan =>
    let parts := ((optionValue? settings "partitions").bind readCount?).getD 4
    let before := ((optionValue? settings "before").bind readStamp?).getD Stamp.latest
    let format := ((optionValue? settings "format").bind readFormat?).getD .text
    .ok (.scan dir parts before format)
  | .find =>
    match (firstWord? settings).bind fun text => Ident.read? text.toList with
    | some id => .ok (.find dir id)
    | none => .error (.missing "ID")

/-- What the words after the name of a command ask for. -/
def request (name : CommandName) (words : List String) : Request :=
  let arguments := name.shape.read words
  match fault? name [] arguments.settings with
  | some reason => .misused reason
  | none =>
    match arguments.ending with
    | .misused reason => .misused reason
    | .askedVersion => .version s!"linkgraph-{name.word}"
    | .askedHelp => .help
    | .finished =>
      match ofSettings name arguments.settings with
      | .ok command => .run command
      | .error reason => .misused reason

end Command

/-- What a command line asks for. -/
def Request.read : List String → Request
  | [] => .misused .noCommand
  | word :: rest =>
    match CommandName.ofWord? word with
    | some name => request name rest
    | none =>
      if word = "help" then .help
      else match (Shape.read ⟨[], 0⟩ [word]).ending with
        | .askedVersion => .version "linkgraph"
        | .askedHelp => .help
        | .misused reason => .misused reason
        | .finished => .misused .noCommand

end CrawlGraph

import CrawlGraph.Command.Request
import CrawlGraph.Console.StoreFile
import CrawlGraph.Disk.Location
import CrawlGraph.Ingest.Import
import CrawlGraph.Scan.Report
import CrawlGraph.Text.Blank

/-!
# Running commands

The four commands on a machine. A command that fails ends in a message, which `Console.run` writes
to the standard error behind a cross.

1. Where the store lies, and opening it.
2. `init`: an existing store is only given up with consent, typed or by `--force`.
3. `import`, `scan` and `find`.
4. `Console.run`, from the words of the command line to the exit code.
-/

namespace CrawlGraph.Console

open Command

variable {m : Type → Type} [Monad m] [Machine m]

/-- A command under way, which may fail with a message. -/
abbrev Job (m : Type → Type) := ExceptT String m

/-! ## 1. The store -/

/-- Wordings of an error from the outside in, as one message. -/
def chained (wordings : List String) : String := ": ".intercalate wordings

/-- Writes a line to the standard output. -/
def putLine (text : String) : m Unit := Machine.put (text ++ "\n")

/-- Where the file of the store in a directory lies. -/
def locateStore (dir : String) : m String := do
  let home := (← Machine.home).toList
  pure (String.ofList (Disk.storePath home dir.toList))

/-- The result, or a failure that tells what was about to be done. -/
def orFail {α ε : Type} (context : String) (wording : ε → List String) (result : Except ε α) :
    Job m α :=
  match result with
  | .ok a => pure a
  | .error e => throw (chained (context :: wording e))

/-- Opens the store that has to be in a directory. Gives its file too. -/
def openExisting [StoreForm] (dir : String) : Job m (String × Tables) := do
  let path ← locateStore dir
  if ← Machine.pathExists path then
    let tables ← orFail s!"Failed to open {path}" StoreError.chain
      (← StoreFile.openStore path)
    pure (path, tables)
  else throw s!"No database at {path} (run \x60linkgraph init\x60 first)"

/-! ## 2. Making a store -/

/-- The line above and below a title. -/
def titleRule : String := String.ofList (List.replicate 60 '═')

/-- What is shown before anything is done. -/
def initTitle : List String := [titleRule, "  LINKGRAPH INITIALIZATION", titleRule, ""]

/-- What is shown of the directory that a store is made in. -/
def initTarget (target : String) : List String := [s!"→ Target: {target}", ""]

/-- The directory that the file of a store is in. -/
def directoryFor (path : String) : Job m String :=
  match Disk.parent? path.toList with
  | some dir => pure (String.ofList dir)
  | none => throw "Invalid database path"

/-- What is shown before the question. -/
def overwriteWarning (path : String) : List String :=
  ["⚠ WARNING", "Database already exists at:", s!"  • {path}", ""]

/-- Whether what was typed is a consent. -/
def isConsent (typed : String) : Bool :=
  let answer := (Text.trim typed.toList).map Char.toLower
  answer = ['y'] || answer = ['y', 'e', 's']

/-- The text of the line that is typed. -/
def typedText : Job m String := do
  match ← Machine.typedLine with
  | .ok line => pure line
  | .error fault => throw fault.message

/-- Asks whether to overwrite a store. -/
def askOverwrite (path : String) : Job m Bool := do
  (overwriteWarning path).forM putLine
  Machine.put "Would you like to overwrite it? [y/N]: "
  let typed ← typedText
  putLine ""
  pure (isConsent typed)

/-- Makes the store in a directory. -/
def makeStore [StoreForm] (path dir : String) : Job m Unit := do
  orFail s!"Failed to create {dir}" (fun e : OsError => [e.message])
    (← Machine.makeDirectories dir)
  let tables ← orFail s!"Failed to create database at {path}" StoreError.chain
    (← StoreFile.openStore path)
  StoreFile.closeStore path tables
  putLine s!"✓ Database initialized: {path}"
  putLine ""

/-- Removes the store that is there. -/
def giveUpStore (path : String) : Job m Unit := do
  orFail s!"Failed to remove {path}" (fun e : OsError => [e.message])
    (← StoreFile.removeStore path)
  putLine "✓ Existing database removed"

/-- The command `init`. -/
def runInit [StoreForm] (dir : String) (force : Bool) : Job m Unit := do
  initTitle.forM putLine
  let path ← locateStore dir
  let target ← directoryFor path
  (initTarget target).forM putLine
  if ← Machine.pathExists path then
    let consent ← if force then pure true else askOverwrite path
    if consent then
      giveUpStore path
      makeStore path target
    else putLine "→ Keeping existing database"
  else makeStore path target

/-! ## 3. Using a store -/

/-- The lines of a file. A directory can be opened too, but no line of it can be read. -/
def linesOfFile (input : String) : Job m (List Ingest.Line) := do
  match ← Machine.readFile input with
  | .ok bytes => pure (Ingest.linesOf bytes)
  | .error e =>
    if e = .isDirectory then pure [.error (.device e)]
    else throw (chained [s!"Failed to read {input}", e.message])

/-- The command `import`. -/
def runLoad [StoreForm] (dir input : String) (prune : Bool) : Job m Unit := do
  let (path, tables) ← openExisting dir
  let lines ← linesOfFile input
  let now ← if prune then Machine.nextSecond else Machine.now
  let supply : Supply := ⟨fun _ => now, ← Machine.idents, 0, 0⟩
  match (Ingest.importLines lines now prune).run ⟨tables, supply⟩ with
  | .ok summary s =>
    StoreFile.closeStore path s.store
    if prune then
      putLine s!"✓ Pruned stale edges of {summary.prunedSources} source links"
  | .error e s =>
    StoreFile.closeStore path s.store
    throw (chained e.chain)

/-- The command `scan`. -/
def runScan [StoreForm] (dir : String) (parts : Nat) (before : Stamp) (format : ReportFormat) :
    Job m Unit := do
  let (path, tables) ← openExisting dir
  StoreFile.closeStore path tables
  match Scan.scan tables parts before with
  | .error e => throw (chained e.chain)
  | .ok stats =>
    match format with
    | .text => Machine.put (Scan.report stats)
    | .json => putLine (Scan.reportJson stats)

/-- The command `find`. -/
def runFind [StoreForm] (dir : String) (id : Ident) : Job m Unit := do
  let (path, tables) ← openExisting dir
  StoreFile.closeStore path tables
  match LinkStore.findLink tables id with
  | .error e => throw (chained e.chain)
  | .ok link => putLine (String.ofList (Json.pretty (Json.linkRow link)))

/-- Runs a command. -/
def runCommand [StoreForm] : Command → Job m Unit
  | .init dir force => runInit dir force
  | .load dir input prune => runLoad dir input prune
  | .scan dir parts before format => runScan dir parts before format
  | .find dir id => runFind dir id

/-! ## 4. Whole runs -/

/-- What is shown as help. -/
def helpText : String :=
  "Usage: linkgraph COMMAND\n\n" ++
    "  init [PATH] [-f|--force]\n" ++
    "  import [-d|--db DIR] -i|--input PATH [--prune]\n" ++
    "  scan [-d|--db DIR] [-p|--partitions NUM] [-b|--before UNIX_SECS] " ++
    "[-f|--format text|json]\n" ++
    "  find [-d|--db DIR] ID\n"

/-- The version of the program. -/
def version : String := "0.1.0"

/-- Carries out what a command line asks for. Gives the exit code. -/
def answer [StoreForm] : Request → m UInt32
  | .run command => do
    match ← (runCommand command : Job m Unit).run with
    | .ok () => pure 0
    | .error message => do
      Machine.complain s!"✗ {message}\n"
      pure 1
  | .version name => do
    putLine s!"{name} {version}"
    pure 0
  | .help => do
    Machine.put helpText
    pure 0
  | .misused reason => do
    Machine.complain s!"error: {reason.message}\n"
    pure 2

/-- Runs a command line. Gives the exit code. -/
def run [StoreForm] (words : List String) : m UInt32 := answer (Request.read words)

end CrawlGraph.Console

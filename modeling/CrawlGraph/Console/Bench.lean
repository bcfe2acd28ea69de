import CrawlGraph.Console.Machine
import CrawlGraph.Disk.Tree
import CrawlGraph.Supply

/-!
# A machine on the bench

A machine that is one value: a directory tree, what is typed and shown, and a supply of readings
and identifiers. Commands run on it as state transitions, so that what they do to the files can be
said and proved.
-/

namespace CrawlGraph

/-- A machine as a value. `here` is the working directory, `typed` what is still to be read. -/
structure Bench where
  tree : Disk.Tree := {}
  here : Disk.Place := []
  home : String := "/"
  typed : List UInt8 := []
  shown : String := ""
  complaints : String := ""
  supply : Supply

namespace Bench

/-- The bytes of the first line with its line end, and the rest. -/
def splitLine : List UInt8 → List UInt8 × List UInt8
  | [] => ([], [])
  | c :: cs => if c = 10 then ([c], cs) else (c :: (splitLine cs).1, (splitLine cs).2)

/-- Carries out a change of the tree. -/
def change (f : Disk.Tree → Disk.Place → Except OsError Disk.Tree) :
    StateM Bench (Except OsError Unit) := fun b =>
  match f b.tree b.here with
  | .ok tree => (.ok (), { b with tree })
  | .error e => (.error e, b)

/-- How many readings a wait for the clock may take. -/
def patience : Nat := 1000

instance : Machine (StateM Bench) where
  pathExists path := fun b => (b.tree.contains b.here path, b)
  readFile path := fun b => (b.tree.read b.here path, b)
  writeFile path bytes := change fun tree here => tree.write here path bytes
  removeFile path := change fun tree here => tree.remove here path
  makeDirectory path := change fun tree here => tree.makeDirectory here path
  isDirectory path := fun b => (b.tree.isDirectory b.here path, b)
  put text := modify fun b => { b with shown := b.shown ++ text }
  complain text := modify fun b => { b with complaints := b.complaints ++ text }
  typedLine := fun b =>
    (Ingest.decodeLine (splitLine b.typed).1, { b with typed := (splitLine b.typed).2 })
  home := fun b => (b.home, b)
  now := fun b => (b.supply.now, { b with supply := b.supply.afterRead })
  nextSecond := fun b =>
    let (reading, supply) := b.supply.awaitNextSecond patience
    (reading.getD supply.now, { b with supply })
  idents := fun b => (b.supply.idents, b)

end Bench

end CrawlGraph

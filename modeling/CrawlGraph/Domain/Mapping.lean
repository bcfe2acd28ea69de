import CrawlGraph.Domain.MappingTable
import CrawlGraph.Domain.Punycode

/-!
# Mapping the characters of a host name

Before a host name is looked at label by label, each of its characters is kept, dropped, replaced
or refused. ASCII needs no table: capital letters become small ones and all else is kept.

Main statement: `mapped_of_isKept`, a text of kept characters maps to itself.
-/

namespace CrawlGraph.Domain

open CrawlGraph.Text

/-- What the mapping makes of a character. -/
inductive Fate where
  | kept
  | dropped
  | replaced (new : List Char)
  | refused
  deriving DecidableEq

/-- The characters with the given code points, or a refusal if one of them has none. -/
def Fate.ofCodes (codes : List Nat) : Fate :=
  match codes.mapM Punycode.charOf? with
  | some cs => .replaced cs
  | none => .refused

/-- What the mapping makes of a character outside ASCII. -/
def foreignFate (c : Char) : Fate :=
  if keptTable.contains c then .kept
  else if droppedTable.contains c then .dropped
  else match pairedTable.find? c with
    | some (first, _) => if (c.toNat - first) % 2 = 0 then .ofCodes [c.toNat + 1] else .kept
    | none => match shiftedTable.find? c with
      | some (first, target) => .ofCodes [target + (c.toNat - first)]
      | none => match expandedTable.find? c with
        | some (_, codes) => .ofCodes codes
        | none => .refused

/-- What the mapping makes of a character. -/
def fate (c : Char) : Fate :=
  if Punycode.isAscii c then (if c.isUpper then .replaced [c.toLower] else .kept)
  else foreignFate c

/-- Whether the mapping keeps the character. -/
def isKept (c : Char) : Bool := fate c = .kept

/-- The text with every character mapped, unless one is refused. -/
def mapped? : List Char → Option (List Char)
  | [] => some []
  | c :: cs =>
    match fate c with
    | .kept => (mapped? cs).map (c :: ·)
    | .dropped => mapped? cs
    | .replaced new => (mapped? cs).map (new ++ ·)
    | .refused => none

/-- **A text of kept characters maps to itself.** -/
theorem mapped_of_isKept {cs : List Char} (h : ∀ c ∈ cs, isKept c = true) :
    mapped? cs = some cs := by
  induction cs with
  | nil => rfl
  | cons c cs ih =>
    have hc : fate c = .kept := of_decide_eq_true (h c (List.mem_cons_self))
    simp [mapped?, hc, ih fun d hd => h d (List.mem_cons_of_mem _ hd)]

end CrawlGraph.Domain

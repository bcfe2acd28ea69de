import CrawlGraph.Disk.Location
import CrawlGraph.Proofs.Disk.Frame
import CrawlGraph.Proofs.Text.Pieces

/-!
# The parts of a path

A path is its lead and the parts that the slashes cut it into behind the lead.

1. What a path begins with (`begins`), and its names (`names_eq`).
2. Front parts: with nothing void at their end they make a path with the same lead
   (`lead_frontText`) and with these parts (`partsOf_frontText`).
-/

namespace CrawlGraph.Disk

variable {path front name l : List Char} {parts back : List (List Char)}

/-! ## 1. Lead and parts -/

/-- The names that the lead of a path stands for. -/
def leadNames (l : List Char) : List (List Char) := if l = ['.'] then [['.']] else []

/-- The four ways in which a path begins, with its lead. -/
inductive Begins : List Char → List Char → Prop
  | root (rest : List Char) : Begins ('/' :: rest) ['/']
  | here : Begins ['.'] ['.']
  | behindHere (rest : List Char) : Begins ('.' :: '/' :: rest) ['.']
  | plain {path : List Char} (noRoot : path.head? ≠ some '/') (notHere : path ≠ ['.'])
      (notBehind : ∀ rest, path ≠ '.' :: '/' :: rest) : Begins path []

theorem begins (path : List Char) : Begins path (lead path) := by
  unfold lead
  split
  case h_1 rest => exact .root rest
  case h_2 => exact .here
  case h_3 rest => exact .behindHere rest
  case h_4 noRoot notHere notBehind =>
    refine .plain (fun h => ?_) notHere notBehind
    obtain ⟨rest, rfl⟩ := List.head?_eq_some_iff.mp h
    exact noRoot rest rfl

theorem Begins.append_drop (h : Begins path l) : l ++ path.drop l.length = path := by
  cases h <;> rfl

theorem splitOn_slash (cs : List Char) : ('/' :: cs).splitOn '/' = [] :: cs.splitOn '/' :=
  Text.splitOn_append_cons '/' [] cs

theorem Begins.filter_splitOn (h : Begins path l) : (path.splitOn '/').filter (· ≠ []) =
    leadNames l ++ ((path.drop l.length).splitOn '/').filter (· ≠ []) := by
  cases h with
  | root rest => simp [splitOn_slash, leadNames]
  | here => decide
  | behindHere rest =>
    have parted : ('.' :: '/' :: rest).splitOn '/' = ['.'] :: rest.splitOn '/' :=
      Text.splitOn_append_cons '/' ['.'] rest
    simp [parted, splitOn_slash, leadNames]
  | plain => simp [leadNames]

/-- **The names of a path** are those of its lead and those of its parts. -/
theorem names_eq (path : List Char) : (path.splitOn '/').filter (· ≠ []) =
    leadNames (lead path) ++ (partsOf path).filter (· ≠ []) := (begins path).filter_splitOn

theorem isVoid_of_isFileName (h : Tree.IsFileName name) : isVoid name = false := by
  simp [isVoid, h.ne_nil, h.noDot]

theorem lead_part (noSlash : '/' ∉ name) (noStop : name ≠ ['.']) : lead name = [] := by
  have hname := begins name
  generalize lead name = l at hname
  cases hname with
  | root rest => exact absurd List.mem_cons_self noSlash
  | here => exact absurd rfl noStop
  | behindHere rest => exact absurd (List.mem_cons_of_mem _ List.mem_cons_self) noSlash
  | plain => rfl

/-! ## 2. Front parts -/

theorem intercalate_front (sep : List Char) (front back : List (List Char)) :
    sep.intercalate front <+: sep.intercalate (front ++ back) := by
  induction front with
  | nil => exact List.nil_prefix
  | cons c front ih =>
    cases front with
    | nil =>
      cases back with
      | nil => exact List.prefix_rfl
      | cons d back =>
        rw [List.intercalate_singleton, List.singleton_append, List.intercalate_cons_cons,
          List.append_assoc]
        exact List.prefix_append _ _
    | cons d front =>
      rw [List.cons_append, List.cons_append, List.intercalate_cons_cons,
        List.intercalate_cons_cons]
      exact (List.prefix_append_right_inj _).mpr ih

/-- **The front parts of a path make a front part of it.** -/
theorem frontText_front (h : partsOf path = parts ++ back) :
    lead path ++ ['/'].intercalate parts <+: path := by
  have body : ['/'].intercalate (parts ++ back) = path.drop (lead path).length := by
    rw [← h, partsOf, List.intercalate_splitOn]
  have front := intercalate_front ['/'] parts back
  rw [body] at front
  have whole := (List.prefix_append_right_inj (lead path)).mpr front
  rwa [(begins path).append_drop] at whole

theorem splitOn_frontText (h : partsOf path = parts ++ back) (hne : parts ≠ []) :
    (['/'].intercalate parts).splitOn '/' = parts := by
  refine List.splitOn_intercalate '/' (fun c hc => ?_) hne
  have mem : c ∈ partsOf path := by
    rw [h]
    exact List.mem_append_left _ hc
  intro slash
  have apart := Text.eq_false_of_mem_splitOnP mem '/' slash
  simp at apart

/-- A front part of a path that holds its lead has the same lead, unless it is a full stop that
    the path goes on behind. -/
theorem Begins.of_front {q : List Char} (h : Begins path l) (hq : q <+: path) (hl : l <+: q)
    (stop : q = ['.'] → l = ['.']) : Begins q l := by
  cases h with
  | root rest =>
    obtain ⟨tail, rfl⟩ := hl
    exact .root tail
  | here =>
    obtain ⟨tail, rfl⟩ := hl
    have none' : tail = [] := List.prefix_nil.mp ((List.cons_prefix_cons.mp hq).2)
    subst none'
    exact .here
  | behindHere rest =>
    obtain ⟨tail, rfl⟩ := hl
    cases tail with
    | nil => exact .here
    | cons c tail =>
      obtain ⟨-, hq⟩ := List.cons_prefix_cons.mp hq
      obtain ⟨rfl, -⟩ := List.cons_prefix_cons.mp hq
      exact .behindHere tail
  | plain noRoot notHere notBehind =>
    obtain ⟨tail, rfl⟩ := hq
    refine .plain (fun root => ?_) (fun here => nomatch stop here) fun rest behind => ?_
    · obtain ⟨rest, rfl⟩ := List.head?_eq_some_iff.mp root
      exact noRoot rfl
    · subst behind
      exact notBehind _ rfl

theorem Begins.eq_lead (h : Begins path l) : lead path = l := by
  have h' := begins path
  generalize lead path = l' at h'
  cases h <;> cases h' <;> simp_all

/-- Whether the last of some parts says something, if there are any. -/
def EndsSolid (parts : List (List Char)) : Prop := ∀ part ∈ parts.getLast?, isVoid part = false

/-- **Front parts with nothing void at their end make a path** with the same lead. -/
theorem lead_frontText (h : partsOf path = parts ++ back) (solid : EndsSolid parts) :
    lead (lead path ++ ['/'].intercalate parts) = lead path := by
  refine ((begins path).of_front (frontText_front h) (List.prefix_append _ _)
    fun stop => ?_).eq_lead
  rw [List.append_eq_singleton_iff] at stop
  rcases stop with ⟨-, stop⟩ | ⟨stop, -⟩
  · have filled : parts ≠ [] := by
      rintro rfl
      cases stop
    have parted := splitOn_frontText h filled
    rw [stop] at parted
    subst parted
    exact absurd (solid ['.'] rfl) (by decide)
  · exact stop

/-- **Front parts with nothing void at their end are the parts of the path that they make.** -/
theorem partsOf_frontText (h : partsOf path = parts ++ back) (solid : EndsSolid parts)
    (hne : parts ≠ []) : partsOf (lead path ++ ['/'].intercalate parts) = parts := by
  rw [partsOf, lead_frontText h solid, List.drop_left, splitOn_frontText h hne]

theorem withoutVoidEnd_append (parts : List (List Char)) :
    withoutVoidEnd parts ++ parts.rtakeWhile isVoid = parts := List.rdropWhile_append_rtakeWhile

theorem endsSolid_withoutVoidEnd (parts : List (List Char)) :
    EndsSolid (withoutVoidEnd parts) := by
  intro part last
  obtain ⟨before, same⟩ := List.getLast?_eq_some_iff.mp last
  have filled : withoutVoidEnd parts ≠ [] := by simp [same]
  have solid := List.rdropWhile_last_not isVoid parts filled
  have own := List.getLast?_eq_some_getLast filled
  rw [last, Option.some.injEq] at own
  rw [own]
  exact Bool.eq_false_of_not_eq_true solid

end CrawlGraph.Disk

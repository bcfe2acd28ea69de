import CrawlGraph.Proofs.Json.RoundTrip
import CrawlGraph.Scan.Report

/-!
# Reports read back

The text of a report says all that a scan found: the totals, and then the entries line by line.

1. The lines of a report (`splitOn_report`).
2. `ofLine?` and `entries?`, which read the entries back out of the text of a report
   (`entries?_report`).
3. `report_tells_every_entry`.
-/

namespace CrawlGraph.Scan

open CrawlGraph.Text

/-! ## 1. The lines of a report -/

/-- The lines in front of the entries, with the three numbers of the summary. -/
def headLines (partitions links edges : Nat) : List (List Char) :=
  [divider.toList, [], "# Summary:".toList, "  Partitions: ".toList ++ decimal partitions,
    "  Links: ".toList ++ decimal links, "  Edges: ".toList ++ decimal edges, [],
    divider.toList, []]

/-- A number behind blanks, in at least `width` places. -/
def paddedChars (width n : Nat) : List Char :=
  List.replicate (width - (decimal n).length) ' ' ++ decimal n

/-- The line of an entry, without its end. -/
def lineOf (s : ExtentStats) : List Char :=
  "  [".toList ++ (paddedChars 3 s.index ++ ("] ".toList ++ (s.start.canonical ++
    (" .. ".toList ++ (s.stop.canonical ++ ("  links: ".toList ++ (paddedChars 6 s.links ++
      ("  edges: ".toList ++ paddedChars 6 s.edges))))))))

theorem toList_padded (width n : Nat) : (padded width n).toList = paddedChars width n :=
  String.toList_ofList

theorem toList_text (id : Ident) : id.text.toList = id.canonical := String.toList_ofList

theorem toList_extentLine (s : ExtentStats) : (extentLine s).toList = lineOf s ++ ['\n'] := by
  simp only [extentLine, String.toList_append, toList_padded, toList_text, lineOf,
    List.append_assoc]
  rfl

theorem toList_summaryText (stats : List ExtentStats) :
    (summaryText stats).toList = "# Summary:\n  Partitions: ".toList ++ decimal stats.length ++
      "\n  Links: ".toList ++ decimal (total (stats.map (·.links))) ++
      "\n  Edges: ".toList ++ decimal (total (stats.map (·.edges))) ++ ['\n'] := by
  unfold summaryText
  -- the totals are arithmetic on 64-bit numbers, which must not be opened here
  generalize total (stats.map (·.links)) = links
  generalize total (stats.map (·.edges)) = edges
  change ("# Summary:\n  Partitions: " ++ stats.length.repr ++ "\n  Links: " ++ links.repr ++
    "\n  Edges: " ++ edges.repr ++ "\n").toList = _
  simp only [String.toList_append, Nat.toList_repr]
  rfl

/-- A report line by line. -/
theorem toList_report (stats : List ExtentStats) :
    (report stats).toList = (headLines stats.length (total (stats.map (·.links)))
      (total (stats.map (·.edges))) ++ stats.map lineOf).flatMap (· ++ ['\n']) := by
  have entries : (String.join (stats.map extentLine)).toList =
      (stats.map lineOf).flatMap (· ++ ['\n']) := by
    rw [String.toList_join, List.flatMap_map, List.flatMap_map]
    exact List.flatMap_congr fun s _ => toList_extentLine s
  rw [List.flatMap_append, ← entries, report]
  simp only [String.toList_append, toList_summaryText]
  generalize total (stats.map (·.links)) = links
  generalize total (stats.map (·.edges)) = edges
  simp [headLines]

/-! ## 2. Reading the entries -/

/-- The first number in a text, and what stands behind it. -/
def number? (cs : List Char) : Option (Nat × List Char) :=
  let digits := cs.dropWhile fun c => !c.isDigit
  (decimalValue? (digits.takeWhile Char.isDigit)).map fun n => (n, digits.dropWhile Char.isDigit)

/-- The entry that a line tells: a number, two identifiers at fixed distances from it, and two more
    numbers. -/
def ofLine? (line : List Char) : Option ExtentStats := do
  let (index, rest) ← number? line
  let start ← Ident.read? ((rest.drop 2).take 36)
  let stop ← Ident.read? ((rest.drop 42).take 36)
  let (links, rest) ← number? (rest.drop 78)
  let (edges, _) ← number? rest
  pure ⟨index, start, stop, links, edges⟩

/-- The entries that the text of a report tells, one for each line behind the summary. -/
def entries? (text : String) : Option (List ExtentStats) :=
  ((text.toList.splitOn '\n').drop 9).dropLast.mapM ofLine?

/-- **A number is found behind anything without digits**, and ends where its digits do. -/
theorem number?_append {front rest : List Char} (n : Nat) (hfront : ∀ c ∈ front, c.isDigit = false)
    (hrest : ∀ c ∈ rest.head?, c.isDigit = false) :
    number? (front ++ decimal n ++ rest) = some (n, rest) := by
  have before : ∀ c ∈ front, (!c.isDigit) = true := fun c hc => by rw [hfront c hc]; rfl
  have digits : ∀ c ∈ decimal n, c.isDigit = true := fun _ hc => isDigit_of_mem_decimal hc
  have begins : ∀ c ∈ (decimal n ++ rest).head?, (!c.isDigit) = false := by
    intro c hc
    rw [List.head?_append_of_ne_nil _ (decimal_ne_nil n)] at hc
    rw [digits c (List.mem_of_mem_head? hc)]
    rfl
  rw [number?, List.append_assoc, dropWhile_front before begins]
  simp only [takeWhile_front digits hrest, dropWhile_front digits hrest, decimalValue?_decimal,
    Option.map_some]

theorem number?_padded {label rest : List Char} (width n : Nat)
    (hlabel : label.all (fun c => !c.isDigit) = true)
    (hrest : ∀ c ∈ rest.head?, c.isDigit = false) :
    number? (label ++ (paddedChars width n ++ rest)) = some (n, rest) := by
  have front : ∀ c ∈ label ++ List.replicate (width - (decimal n).length) ' ',
      c.isDigit = false := by
    intro c hc
    rcases List.mem_append.mp hc with hc | hc
    · exact (Bool.not_eq_true' _).mp (List.all_eq_true.mp hlabel c hc)
    · rw [(List.mem_replicate.mp hc).2]
      decide
  have read := number?_append n front hrest
  rwa [List.append_assoc, List.append_assoc, ← List.append_assoc (List.replicate _ _)] at read

/-- The bounds of an entry stand at fixed distances behind its index. -/
theorem bounds_of_entry (start stop : Ident) (rest : List Char) {text : List Char}
    (h : text = "] ".toList ++ (start.canonical ++ (" .. ".toList ++ (stop.canonical ++ rest)))) :
    (text.drop 2).take 36 = start.canonical ∧ (text.drop 42).take 36 = stop.canonical ∧
      text.drop 78 = rest := by
  subst h
  simp [List.drop_append, List.take_append, Ident.length_canonical]

theorem ofLine?_eq_some {line behindIndex behindLinks behindEdges : List Char} {s : ExtentStats}
    (hindex : number? line = some (s.index, behindIndex))
    (hstart : Ident.read? ((behindIndex.drop 2).take 36) = some s.start)
    (hstop : Ident.read? ((behindIndex.drop 42).take 36) = some s.stop)
    (hlinks : number? (behindIndex.drop 78) = some (s.links, behindLinks))
    (hedges : number? behindLinks = some (s.edges, behindEdges)) : ofLine? line = some s := by
  simp [ofLine?, hindex, hstart, hstop, hlinks, hedges]

/-- **An entry reads back from its line**, also where its numbers are wider than their columns. -/
theorem ofLine?_lineOf (s : ExtentStats) : ofLine? (lineOf s) = some s := by
  have hedges : number? ("  edges: ".toList ++ paddedChars 6 s.edges) = some (s.edges, []) := by
    have last : number? ("  edges: ".toList ++ (paddedChars 6 s.edges ++ [])) =
        some (s.edges, []) := number?_padded 6 s.edges (by decide) (by simp)
    rwa [List.append_nil] at last
  have hlinks : number? ("  links: ".toList ++
      (paddedChars 6 s.links ++ ("  edges: ".toList ++ paddedChars 6 s.edges))) =
        some (s.links, "  edges: ".toList ++ paddedChars 6 s.edges) :=
    number?_padded 6 s.links (by decide) (by simp)
  obtain ⟨text, htext⟩ : ∃ text, text = "] ".toList ++ (s.start.canonical ++ (" .. ".toList ++
      (s.stop.canonical ++ ("  links: ".toList ++ (paddedChars 6 s.links ++
        ("  edges: ".toList ++ paddedChars 6 s.edges)))))) := ⟨_, rfl⟩
  obtain ⟨hstart, hstop, hcounts⟩ := bounds_of_entry _ _ _ htext
  have hindex : number? (lineOf s) = some (s.index, text) := by
    rw [lineOf, ← htext]
    exact number?_padded 3 s.index (by decide) (by simp [htext])
  refine ofLine?_eq_some hindex ?_ ?_ ?_ hedges
  · rw [hstart, Ident.read?_canonical]
  · rw [hstop, Ident.read?_canonical]
  · rw [hcounts, hlinks]

/-! ## 3. Whole reports -/

theorem newline_notMem_decimal (n : Nat) : '\n' ∉ decimal n := by
  intro h
  have digit := isDigit_of_mem_decimal h
  revert digit
  decide

theorem newline_notMem_paddedChars (width n : Nat) : '\n' ∉ paddedChars width n := by
  intro h
  rcases List.mem_append.mp h with h | h
  · exact absurd (List.mem_replicate.mp h).2 (by decide)
  · exact newline_notMem_decimal n h

theorem newline_ne_hexDigit : ∀ n < 16, '\n' ≠ hexDigit n := by decide

theorem newline_notMem_canonical (id : Ident) : '\n' ∉ id.canonical := by
  intro h
  rcases (Json.isCanonical_canonical id).digits _ h with hyphen | ⟨n, hn, digit⟩
  · exact absurd hyphen (by decide)
  · exact newline_ne_hexDigit n hn digit

theorem newline_notMem_lineOf (s : ExtentStats) : '\n' ∉ lineOf s := by
  simp [lineOf, newline_notMem_paddedChars, newline_notMem_canonical]

theorem newline_notMem_headLines {partitions links edges : Nat} {line : List Char}
    (h : line ∈ headLines partitions links edges) : '\n' ∉ line := by
  have hdivider : '\n' ∉ divider.toList := by
    have same : divider.toList = List.replicate 52 '━' := String.toList_ofList
    rw [same, List.mem_replicate]
    exact fun h => absurd h.2 (by decide)
  simp only [headLines, List.mem_cons, List.not_mem_nil, or_false] at h
  generalize divider.toList = rule at h hdivider
  rcases h with rfl | rfl | rfl | rfl | rfl | rfl | rfl | rfl | rfl <;>
    simp [hdivider, newline_notMem_decimal]

/-- **The lines of a report**: those of the summary, one for each entry in their order, and nothing
    behind the last line end. -/
theorem splitOn_report (stats : List ExtentStats) :
    (report stats).toList.splitOn '\n' = headLines stats.length (total (stats.map (·.links)))
      (total (stats.map (·.edges))) ++ stats.map lineOf ++ [[]] := by
  rw [toList_report, splitOn_lines]
  intro line hline
  rcases List.mem_append.mp hline with hline | hline
  · exact newline_notMem_headLines hline
  · obtain ⟨s, -, rfl⟩ := List.mem_map.mp hline
    exact newline_notMem_lineOf s

/-- **The entries read back from the text of the report.** -/
theorem entries?_report (stats : List ExtentStats) : entries? (report stats) = some stats := by
  have lines : ((report stats).toList.splitOn '\n').drop 9 = stats.map lineOf ++ [[]] := by
    rw [splitOn_report, List.append_assoc]
    exact List.drop_left' rfl
  rw [entries?, lines, List.dropLast_concat, mapM_map_eq_some lineOf ofLine? id ofLine?_lineOf,
    List.map_id]

theorem total_of_lt {counts : List Nat} (h : counts.sum < 2 ^ 64) : total counts = counts.sum :=
  Nat.mod_eq_of_lt h

/-- **The text of a report loses nothing.** Behind the summary it has one line for each entry, in
    their order, and all the entries read back from it, so that different scans have different
    reports. The summary counts the entries, and it adds up the links and the edges of all of them
    as far as 64 bits can hold the sum. -/
theorem report_tells_every_entry :
    (∀ stats, (report stats).toList.splitOn '\n' =
      headLines stats.length (total (stats.map (·.links))) (total (stats.map (·.edges))) ++
        stats.map lineOf ++ [[]]) ∧
    (∀ stats, entries? (report stats) = some stats) ∧
    Function.Injective report ∧
    ∀ stats : List ExtentStats,
      ((stats.map (·.links)).sum < 2 ^ 64 →
        total (stats.map (·.links)) = (stats.map (·.links)).sum) ∧
      ((stats.map (·.edges)).sum < 2 ^ 64 →
        total (stats.map (·.edges)) = (stats.map (·.edges)).sum) := by
  refine ⟨splitOn_report, entries?_report, fun stats others same => ?_,
    fun stats => ⟨total_of_lt, total_of_lt⟩⟩
  have read := entries?_report stats
  rw [same, entries?_report, Option.some.injEq] at read
  exact read.symm

end CrawlGraph.Scan

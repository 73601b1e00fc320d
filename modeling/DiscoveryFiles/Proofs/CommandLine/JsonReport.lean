import DiscoveryFiles.CommandLine.Run
import DiscoveryFiles.Proofs.Json.RoundTrip
import Mathlib.Data.List.Basic

/-!
# Reports as data

The data of a report are built from fields, so a report that is written as JSON reads back as
these data.
-/

namespace DiscoveryFiles

namespace Json

/-- A number with few digits has only such numbers below it. -/
theorem HasFewDigits.of_le {m n : Nat} (few : HasFewDigits (n : Int)) (below : m ≤ n) :
    HasFewDigits (m : Int) := by
  have bounded : ∀ k : Nat, HasFewDigits (k : Int) ↔ k < 10 ^ digitLimit := fun k =>
    Nat.length_toDigits_le_iff (by norm_num) (by norm_num [digitLimit])
  rw [bounded] at few ⊢
  exact Nat.lt_of_le_of_lt below few

theorem Notated.words {depth : Nat} (s : String) : Notated depth (.words s) :=
  .string s.toList

theorem Notated.fields {depth : Nat} {members : List (CodePoints × Json)}
    (distinct : (members.map Prod.fst).Nodup)
    (entries : members.Forall fun member =>
      (∃ name, member.1 = CodePoints.ofString name) ∧ Notated depth member.2) :
    Notated (depth + 1) (.object members) := by
  rw [List.forall_iff_forall_mem] at entries
  refine .object distinct (fun member listed => ?_) (fun member listed => (entries member listed).2)
  obtain ⟨name, same⟩ := (entries member listed).1
  exact ⟨name.toList, same⟩

private theorem Notated.arrayOf {α : Type} {depth : Nat} {items : List α} {dump : α → Json}
    (inner : ∀ item ∈ items, Notated depth (dump item)) :
    Notated (depth + 1) (.array (items.map dump)) := by
  refine .array fun value member => ?_
  obtain ⟨item, listed, rfl⟩ := List.mem_map.mp member
  exact inner item listed

end Json

open Json

/-- Whether the lines that a result names can be written. -/
def Result.HasShortLines (result : Result) : Prop :=
  ∀ issue ∈ result.findings.errors ++ result.findings.warnings,
    ∀ line ∈ issue.line, HasFewDigits line

/-- Whether the numbers in a directory report can be written. -/
def DirectoryReport.HasShortNumbers (report : DirectoryReport) : Prop :=
  HasFewDigits report.total ∧
    ∀ result ∈ report.results ++ report.cross.toList, result.HasShortLines

/-- Whether the numbers in a test-vector report can be written. -/
def VectorReport.HasShortNumbers (report : VectorReport) : Prop :=
  ∀ outcome ∈ report.passing ++ report.failing, outcome.result.HasShortLines

private theorem Issue.notated_dump {issue : Issue} (few : ∀ line ∈ issue.line, HasFewDigits line)
    (depth : Nat) : Notated (depth + 1) issue.dump := by
  obtain ⟨message, line⟩ := issue
  refine .fields (by simp only [List.map_cons, List.map_nil]; decide +kernel)
    ⟨⟨⟨_, rfl⟩, .words _⟩, ⟨_, rfl⟩, ?_⟩
  cases line with
  | none => exact .null
  | some line => exact .integer (few line rfl)

private theorem Result.notated_dump {result : Result} (short : result.HasShortLines) (depth : Nat) :
    Notated (depth + 3) result.dump := by
  have errors : Notated (depth + 2) (.array (result.findings.errors.map Issue.dump)) :=
    .arrayOf fun issue listed =>
      Issue.notated_dump (short issue (List.mem_append_left _ listed)) depth
  have warnings : Notated (depth + 2) (.array (result.findings.warnings.map Issue.dump)) :=
    .arrayOf fun issue listed =>
      Issue.notated_dump (short issue (List.mem_append_right _ listed)) depth
  refine .fields (by simp only [List.map_cons, List.map_nil]; decide +kernel) ?_
  exact ⟨⟨⟨_, rfl⟩, .words _⟩, ⟨⟨_, rfl⟩, .words _⟩, ⟨⟨_, rfl⟩, errors⟩, ⟨⟨_, rfl⟩, warnings⟩,
    ⟨⟨_, rfl⟩, .boolean _⟩⟩

private theorem DirectoryReport.notated_dump {report : DirectoryReport}
    (short : report.HasShortNumbers)
    (depth : Nat) : Notated (depth + 5) report.dump := by
  obtain ⟨few, short⟩ := short
  have searched : Notated (depth + 4) (.array (report.searched.map Json.words)) :=
    .arrayOf fun name _ => .words name
  have results : Notated (depth + 4) (.array (report.results.map Result.dump)) :=
    .arrayOf fun result listed => Result.notated_dump (short result (by simp [listed])) depth
  have cross : Notated (depth + 4) ((report.cross.map Result.dump).getD .null) := by
    cases given : report.cross with
    | none => exact .null
    | some result => exact Result.notated_dump (short result (by simp [given])) (depth + 1)
  have passed : HasFewDigits report.passed := few.of_le List.countP_le_length
  refine .fields (by simp only [List.map_cons, List.map_nil]; decide +kernel) ?_
  exact ⟨⟨⟨_, rfl⟩, .words _⟩, ⟨⟨_, rfl⟩, searched⟩, ⟨⟨_, rfl⟩, results⟩, ⟨⟨_, rfl⟩, cross⟩,
    ⟨⟨_, rfl⟩, .integer few⟩, ⟨⟨_, rfl⟩, .integer passed⟩, ⟨⟨_, rfl⟩, .boolean _⟩⟩

private theorem Outcome.notated_dump {outcome : Outcome} (short : outcome.result.HasShortLines)
    (depth : Nat) : Notated (depth + 4) outcome.dump := by
  refine .fields (by simp only [List.map_cons, List.map_nil]; decide +kernel) ?_
  exact ⟨⟨⟨_, rfl⟩, Result.notated_dump short depth⟩, ⟨⟨_, rfl⟩, .boolean _⟩,
    ⟨⟨_, rfl⟩, .boolean _⟩⟩

private theorem VectorReport.notated_dump {report : VectorReport} (short : report.HasShortNumbers)
    (depth : Nat) : Notated (depth + 6) report.dump := by
  have passing : Notated (depth + 5) (.array (report.passing.map Outcome.dump)) :=
    .arrayOf fun outcome listed => Outcome.notated_dump (short outcome (by simp [listed])) depth
  have failing : Notated (depth + 5) (.array (report.failing.map Outcome.dump)) :=
    .arrayOf fun outcome listed => Outcome.notated_dump (short outcome (by simp [listed])) depth
  refine .fields (by simp only [List.map_cons, List.map_nil]; decide +kernel) ?_
  exact ⟨⟨⟨_, rfl⟩, .words _⟩, ⟨⟨_, rfl⟩, passing⟩, ⟨⟨_, rfl⟩, failing⟩, ⟨⟨_, rfl⟩, .boolean _⟩⟩

namespace CommandLine

/-- What is written for a value, with the line feed behind it, is read back. -/
theorem parse_jsonText {depth : Nat} {value : Json} (notated : Notated depth value)
    (within : depth ≤ depthLimit) : parse (jsonText value).toList = .ok value := by
  have text : (jsonText value).toList = write .indented 0 value ++ ['\n'] := by
    rw [jsonText, String.toList_append, String.toList_ofList, pretty]
    rfl
  rw [text]
  exact notated.parse_write within .indented (List.forall_mem_singleton.mpr rfl)

/-- A value shown in a message is read back, unless it is a string, which is shown bare. -/
theorem parse_display {depth : Nat} {value : Json} (notated : Notated depth value)
    (within : depth ≤ depthLimit) (nested : ∀ s, value ≠ .string s) :
    parse value.display = .ok value := by
  have compacted : value.display = write .line 0 value ++ [] := by
    cases value with
    | string s => exact absurd rfl (nested s)
    | _ => simp [display, compact]
  rw [compacted]
  exact notated.parse_write within .line (by simp)

/-- Every value of the notation that nests less than 150 deep is read back from its text, be it the
text of a report or that of a message.  So are the data of every report. -/
theorem parse_written :
    (∀ depth value, depth < 150 → Notated depth value →
      parse (jsonText value).toList = .ok value ∧
        ((∀ s, value ≠ .string s) → parse value.display = .ok value)) ∧
    ∀ options : Options, options.format = .json →
      (∀ result : Result, result.HasShortLines →
        parse (fileReport options result).text.toList = .ok result.dump) ∧
      (∀ report : DirectoryReport, report.HasShortNumbers →
        parse (directoryReport options report).text.toList = .ok report.dump) ∧
      ∀ report : VectorReport, report.HasShortNumbers →
        parse (vectorReport options report).text.toList = .ok report.dump := by
  refine ⟨fun depth value shallow notated => ?_, fun options asked => ⟨?_, ?_, ?_⟩⟩
  · have within : depth ≤ depthLimit := by
      rw [depthLimit]
      omega
    exact ⟨parse_jsonText notated within, parse_display notated within⟩
  · intro result short
    simp only [fileReport, asked]
    exact parse_jsonText (Result.notated_dump short 0) (by decide)
  · intro report short
    simp only [directoryReport, asked]
    exact parse_jsonText (DirectoryReport.notated_dump short 0) (by decide)
  · intro report short
    simp only [vectorReport, asked]
    exact parse_jsonText (VectorReport.notated_dump short 0) (by decide)

/-- A value with every kind of escape, a character beyond the basic plane, a negative number and
empty containers. -/
def awkwardValue : Json :=
  .object [
    (CodePoints.ofString "\"\\\n\u0001😀", .array [.integer (-10), .array [], .object []]),
    (CodePoints.ofString "", .array [.words "/\t\u007f", .boolean false, .null])]

/-- A result whose name and message need escapes. -/
def awkwardResult : Result :=
  ⟨"a\\b", "unknown", ⟨[⟨"\"\u001f", some 10⟩], [⟨"é", none⟩]⟩⟩

/-- The options that ask for data. -/
def dataOptions : Options :=
  { Options.initial with format := .json }

theorem parse_written_awkward :
    parse (jsonText awkwardValue).toList = .ok awkwardValue ∧
      parse awkwardValue.display = .ok awkwardValue ∧
      parse (fileReport dataOptions awkwardResult).text.toList = .ok awkwardResult.dump ∧
      parse (directoryReport dataOptions ⟨"a\nb", ["c\rd"], [awkwardResult], none⟩).text.toList =
        .ok (DirectoryReport.dump ⟨"a\nb", ["c\rd"], [awkwardResult], none⟩) ∧
      parse (vectorReport dataOptions ⟨"\u0008", [], [⟨awkwardResult, false⟩]⟩).text.toList =
        .ok (VectorReport.dump ⟨"\u0008", [], [⟨awkwardResult, false⟩]⟩) := by
  have notated : Notated 3 awkwardValue := by
    have numbers : ∀ item ∈ [.integer (-10), .array [], .object []], Notated 1 item := by
      simp only [List.forall_mem_cons]
      exact ⟨.integer (by decide), .array (by simp), .object (by simp) (by simp) (by simp),
        by simp⟩
    have others : ∀ item ∈ [.words "/\t\u007f", .boolean false, .null], Notated 1 item := by
      simp only [List.forall_mem_cons]
      exact ⟨.words _, .boolean _, .null, by simp⟩
    refine .fields (by simp only [List.map_cons, List.map_nil]; decide +kernel) ?_
    exact ⟨⟨⟨_, rfl⟩, .array numbers⟩, ⟨⟨_, rfl⟩, .array others⟩⟩
  have short : awkwardResult.HasShortLines := by
    have few : HasFewDigits 10 := by decide
    simpa [Result.HasShortLines, awkwardResult] using few
  obtain ⟨values, reports⟩ := parse_written
  obtain ⟨text, shown⟩ := values 3 awkwardValue (by decide) notated
  obtain ⟨files, directories, vectors⟩ := reports dataOptions rfl
  refine ⟨text, shown (by rintro _ ⟨⟩), files _ short, directories _ ⟨by decide, ?_⟩, vectors _ ?_⟩
  · simpa using short
  · simpa [VectorReport.HasShortNumbers] using short

end CommandLine
end DiscoveryFiles

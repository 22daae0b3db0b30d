import SourceLint.Proofs.Lookahead.Run
import SourceLint.Proofs.Undeclared.Line

/-!
Variables of the program in the body of the main function.

The body is looked at with the variables that the program has on the lines above the header. These
are known throughout the body. What is declared on the line of the header is not among them, even
in front of the header.
-/

namespace SourceLint

open Text

/-- No message of lines says of a name that stands for something that it does not. -/
theorem Validator.message_ne_of_declares {validator : Validator} {lines : List NumberedLine}
    {name : Text} (known : validator.table.declares name = true) {diagnostic : Diagnostic}
    (told : diagnostic ∈ (validator.validateLines lines).2) {finding : Finding}
    (about : finding.unknown? = some name) : diagnostic.message ≠ finding.message := by
  intro same
  obtain ⟨other, _, -, -, line, -, rfl⟩ := exists_finding_of_mem_validateLines told
  -- The wording tells which finding the message is from.
  have own := Finding.hasOwnWording_of_unknown? about
  obtain rfl : other = finding := Finding.eq_of_message_eq own same
  have unknown := undeclared_of_mem_validateLines own told about
  rw [known] at unknown
  cases unknown

namespace MainFunction.Scan

/-- The body is entered with the names of the variables above the header. -/
theorem declares_startTable_iff (main : MainFunction) {table : SymbolTable}
    (distinct : (table.globals.map Symbol.name).Nodup) {symbol : Symbol}
    (registered : symbol ∈ table.globals) :
    (startTable {} main table).declares symbol.name = true ↔ symbol.line < main.headerLine := by
  rw [SymbolTable.declares_iff, startTable_default main distinct]
  -- The start table holds copies of those variables and nothing else.
  simp only [SymbolTable.names, SymbolTable.stack, List.flatMap_cons, List.flatMap_nil,
    List.map_nil, List.nil_append, List.append_nil, List.mem_map, List.mem_filter,
    decide_eq_true_eq]
  constructor
  · rintro ⟨other, ⟨listed, above⟩, named⟩
    -- Only one variable has the name.
    rw [← List.inj_on_of_nodup_map distinct listed registered named]
    exact above
  · intro above
    exact ⟨symbol, ⟨registered, above⟩, rfl⟩

end MainFunction.Scan

namespace Analysis

open MainFunction

/--
A variable above the header of the main function is known in its body.

What a run adds after the second look at the body is raised by that look. None of its messages says
that the name of such a variable stands for nothing. A variable on the line of the header or below
is not known when the body is entered.
-/
theorem known_in_main {source : Text} {main : MainFunction}
    (ends : (analyze {} source).aborted = false)
    (found : locate false (Comment.strip source).text = .found main) {symbol : Symbol}
    (registered : symbol ∈ (analyze {} source).symbols.globals) :
    let look := Scan.secondLook {} (Comment.strip source).text main
    let raised := (look.validate (main.body (Comment.strip source).text) main.bodyLine).2
    (∃ stages : Stages, (analyze {} source).diagnostics = stages.all ∧ stages.Of {} source ∧
      stages.second.Sublist raised) ∧
    (symbol.line < main.headerLine → ∀ diagnostic ∈ raised, ∀ finding : Finding,
      finding.unknown? = some symbol.name → diagnostic.message ≠ finding.message) ∧
    (main.headerLine ≤ symbol.line → look.table.declares symbol.name = false) := by
  intro look raised
  -- A run that ends has closed its comments, so the stages are defined.
  have closed : (Comment.strip source).unclosed = none := by
    rw [aborted_analyze] at ends
    simpa using ends
  -- The copies that the second look starts with are those of the final table.
  have table : Scan.startTable {} main (analyze {} source).symbols = look.table :=
    congrArg (Scan.startTable {} main) (symbols_analyze {} closed)
  have known := Scan.declares_startTable_iff main (distinct_globals {} source) registered
  rw [table] at known
  refine ⟨?_, fun above diagnostic told finding about => ?_, fun below => ?_⟩
  · obtain ⟨stages, diagnostics, of⟩ := exists_stages {} closed
    refine ⟨stages, diagnostics, of, ?_⟩
    rcases of.raised with none | ⟨other, again, part⟩
    · rw [none]
      exact List.nil_sublist raised
    · -- There is only one main function.
      obtain rfl : main = other := Search.found.inj (found.symm.trans again)
      have same : Validator.standard true false
          (Scan.startTable {} main (analyze {} source).symbols) = look :=
        congrArg (Validator.standard true false) table
      show stages.second.Sublist
        (look.validate (main.body (Comment.strip source).text) main.bodyLine).2
      rw [← same]
      exact part
  · -- Above the header the name is known from the start, and no line of the body takes it away.
    have kept : look.reset.table.declares symbol.name = true := known.mpr above
    exact Validator.message_ne_of_declares kept told about
  · -- On the line of the header or below it there is no copy.
    rw [← Bool.not_eq_true, known]
    omega

/-- A variable on the line above the header can be used in the body. -/
theorem known_in_main_above :
    let source := "int g = 0;\nint main() \x7b\ng = 1;\n\x7d".toList
    let main : MainFunction := ⟨"int".toList, 2, 23, 31, 2⟩
    (analyze {} source).diagnostics = [] ∧
      ∀ diagnostic ∈ ((Scan.secondLook {} source main).validate (main.body source)
        main.bodyLine).2, diagnostic.message ≠ "Variable 'g' used before declaration." := by
  intro source main
  -- There are no comments to strip.
  have stripped : (Comment.strip source).text = source := by decide +kernel
  have known := (@known_in_main source main (by rw [aborted_analyze]; decide +kernel)
    (by decide +kernel) ⟨"g".toList, .known .int, true, 1⟩ (by decide +kernel)).2.1 (by decide)
  rw [stripped] at known
  exact ⟨by decide +kernel, fun diagnostic told =>
    known diagnostic told (.assignedUndeclared "g".toList) rfl⟩

/-- A variable in front of the header on the same line is reported when the body uses it. -/
theorem unknown_in_main_beside :
    let source := "int g = 0; int main() \x7b\ng = 1;\n\x7d".toList
    let main : MainFunction := ⟨"int".toList, 1, 23, 31, 1⟩
    let header : MainHeader := ⟨"int".toList, 11, 21⟩
    (analyze {} source).aborted = false ∧
      locate false (Comment.strip source).text = .found main ∧
      MainHeader.all (maskSource (Comment.strip source).text) = [header] ∧
      (Comment.strip source).text.take header.start = "int g = 0; ".toList ∧
      ⟨"g".toList, .known .int, true, 1⟩ ∈ (analyze {} source).symbols.globals ∧
      (Finding.assignedUndeclared "g".toList).onLine 2 ∈
        ((Scan.secondLook {} (Comment.strip source).text main).validate
          (main.body (Comment.strip source).text) main.bodyLine).2 ∧
      (Finding.assignedUndeclared "g".toList).onLine 2 ∈ (analyze {} source).diagnostics := by
  intro source main header
  -- Every part is about this source and is evaluated.
  exact ⟨by rw [aborted_analyze]; decide +kernel, by decide +kernel, by decide +kernel,
    by decide +kernel, by decide +kernel, by decide +kernel, by decide +kernel⟩

end Analysis

end SourceLint

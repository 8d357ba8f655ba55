import BoundQuery.Proofs.Delivery
import BoundQuery.Proofs.Noninterference

/-!
# What preparing a statement discloses

Bound values are written to the log only if the settings ask for it. Otherwise log lines and errors
come from the fragments and from how many places each value takes: two statements that differ in
values only cannot be told apart by them, whether they are handed over, refused for a missing value
or refused by the limit.

Results:
1. `log_prepare_of_quiet`: without parameter lines, the log is a function of the outline.
2. `prepare_discloses_no_values`: statements of the same widths are prepared alike.
-/

namespace BoundQuery.Statement

/-- The lines that are logged for the outline of a positional form. -/
def outlineLog (settings : QuerySettings) (outline : String × Nat) : List String :=
  if settings.logStatements then
    ["[QUERYHAUS] SQL: " ++ outline.1 ++ " (" ++ outline.2.repr ++ " bound values)"]
  else []

theorem log_prepare_of_error {settings : QuerySettings} {s : Statement} {e : StatementError}
    (refused : s.toPositional settings.maxBoundParameters = .error e) :
    (s.prepare settings).log = [] := by
  rw [prepare, refused]

/-- With no parameter lines, only the outline of a positional form is logged. -/
theorem log_prepare_of_quiet {settings : QuerySettings} (quiet : settings.logParameters = false)
    {s : Statement} {p : Positional}
    (placed : s.toPositional settings.maxBoundParameters = .ok p) :
    (s.prepare settings).log = outlineLog settings p.outline := by
  rw [prepare, placed, quiet]
  exact List.append_nil _

/-- Values stay out of the log and of errors unless parameter lines are asked for. Two statements of
the same fragments, whose tokens are bound in neither or to values of one width, are logged by the
same lines. Both fail with one error, which is told by one message, or both succeed with the same
text and the same number of values. -/
theorem prepare_discloses_no_values {settings : QuerySettings}
    (quiet : settings.logParameters = false) {s s' : Statement} (same : SameWidths s s') :
    (s.prepare settings).log = (s'.prepare settings).log ∧
      ((∃ e, (s.prepare settings).outcome = .error e ∧
          (s'.prepare settings).outcome = .error e) ∨
        ∃ p p', (s.prepare settings).outcome = .ok p ∧ (s'.prepare settings).outcome = .ok p' ∧
          p.sql = p'.sql ∧ p.values.length = p'.values.length) := by
  have outlines := same.outline_eq settings.maxBoundParameters
  rw [Builder.outcome_prepare, Builder.outcome_prepare]
  obtain ⟨e, refused, refused'⟩ | ⟨p, p', placed, placed', outline⟩ := cases_of_map_eq outlines
  · refine ⟨?_, .inl ⟨e, refused, refused'⟩⟩
    rw [log_prepare_of_error refused, log_prepare_of_error refused']
  · refine ⟨?_, .inr ⟨p, p', placed, placed', congrArg Prod.fst outline, congrArg Prod.snd outline⟩⟩
    rw [log_prepare_of_quiet quiet placed, log_prepare_of_quiet quiet placed', outline]

/-- A statement that refers to one token twice, to a list, and to a token that may be unbound. -/
def accountQuery (entries : List (String × Value)) : Statement :=
  ⟨[.text "owner = ", .param (.own 0), .text " or holder = ", .param (.own 0), .text " and id in ",
    .param (.merged (.own 0) 1)], ⟨entries⟩⟩

/-- One log line for either owner, and one error where the list is missing. -/
theorem accountQuery_discloses_no_values :
    let settings : QuerySettings := { logStatements := true }
    let alice := accountQuery [("_0", .text "alice"), ("sub_0_1", .list [.integer 7, .integer 8])]
    let bob := accountQuery [("_0", .text "bob"), ("sub_0_1", .list [.null, .text "x"])]
    let aliceAlone := accountQuery [("_0", .text "alice")]
    let bobAlone := accountQuery [("_0", .text "bob")]
    (alice.prepare settings).log = (bob.prepare settings).log ∧
      (bob.prepare settings).log =
        ["[QUERYHAUS] SQL: owner = $1 or holder = $1 and id in ($2, $3) (3 bound values)"] ∧
      (aliceAlone.prepare settings).log = (bobAlone.prepare settings).log ∧
      (bobAlone.prepare settings).outcome = .error (.missingParameter "sub_0_1") := by
  intro settings alice bob aliceAlone bobAlone
  have bound : SameWidths alice bob := ⟨rfl, by decide⟩
  have unbound : SameWidths aliceAlone bobAlone := ⟨rfl, by decide⟩
  have quiet : settings.logParameters = false := rfl
  have logged := (prepare_discloses_no_values quiet bound).1
  have refused := (prepare_discloses_no_values quiet unbound).1
  exact ⟨logged, rfl, refused, rfl⟩

end BoundQuery.Statement

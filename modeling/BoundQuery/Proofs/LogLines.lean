import BoundQuery.Proofs.Disclosure

/-!
# Log lines

What preparing a statement logs follows from its positional form and two settings, and the outcome
follows from neither setting. A value is logged as compact JSON, in which no control character
stands, so whoever chooses the values chooses neither the number of lines nor where one ends.

Results:
1. `parameterLines_eq`: there is one line for each value, with its position.
2. `printable_parameterLine`: no value puts a control character into its line.
3. `Statement.prepare_logs`: the outcome and all lines of preparing a statement.
-/

namespace BoundQuery

open Json (Printable printable_append printable_digits printable_write)

/-- Each value has one line, which names the position of the value. -/
theorem parameterLines_eq (position : Nat) (values : List Value) :
    parameterLines position values =
      values.mapIdx fun i value => parameterLine (position + i) value := by
  induction values generalizing position with
  | nil => rfl
  | cons value values ih =>
    rw [parameterLines, ih, List.mapIdx_cons]
    simp only [Nat.add_zero, Nat.add_assoc, Nat.add_comm 1]

instance (s : List Char) : Decidable (Printable s) :=
  decidable_of_iff (s.all fun c => 32 ≤ c.toNat) (by simp [Printable])

theorem printable_kind (value : Value) : Printable value.kind.toList := by
  cases value <;> (rw [Value.kind]; decide)

theorem printable_text_append {s t : String} (hs : Printable s.toList) (ht : Printable t.toList) :
    Printable (s ++ t).toList := by
  rw [String.toList_append]
  exact printable_append hs ht

/-- Whatever a value holds, its line is one line. -/
theorem printable_parameterLine (position : Nat) (value : Value) :
    Printable (parameterLine position value).toList := by
  have number : Printable position.repr.toList := by
    rw [Nat.toList_repr]
    exact printable_digits position
  have json : Printable value.toJson.text.toList := by
    rw [Json.text, String.toList_ofList]
    exact printable_write value.toJson
  unfold parameterLine
  refine printable_text_append ?_ (by decide)
  refine printable_text_append (printable_text_append ?_ (by decide)) (printable_kind value)
  exact printable_text_append
    (printable_text_append (printable_text_append (by decide) number) (by decide)) json

theorem lineFeed_notMem_of_printable {s : List Char} (h : Printable s) : '\n' ∉ s :=
  fun member => absurd (h '\n' member) (by decide)

namespace Statement

/-- What preparing a statement hands over and logs. The outcome is the positional form, whatever is
logged. Nothing is logged of a failure. Otherwise the lines are that of the statement and those of
the values in order, as far as each is asked for. No value puts a control character into a line, and
lines written with line feeds between them are read back as they were. -/
theorem prepare_logs (settings : QuerySettings) (s : Statement) :
    (s.prepare settings).outcome = s.toPositional settings.maxBoundParameters ∧
      (∀ e, s.toPositional settings.maxBoundParameters = .error e →
        (s.prepare settings).log = []) ∧
      ∀ p, s.toPositional settings.maxBoundParameters = .ok p → ∃ first lines : List String,
        (s.prepare settings).log = first ++ lines ∧
        first = (if settings.logStatements then
          ["[QUERYHAUS] SQL: " ++ p.sql ++ " (" ++ p.values.length.repr ++ " bound values)"]
          else []) ∧
        lines = (if settings.logParameters then
          p.values.mapIdx fun i value => "[QUERYHAUS] $" ++ (i + 1).repr ++ " = " ++
            value.toJson.text ++ " (" ++ value.kind ++ ")"
          else []) ∧
        (∀ line ∈ lines, ∀ c ∈ line.toList, 0x20 ≤ c.toNat) ∧
        (((String.singleton '\n').intercalate lines).split '\n').toList.map (·.copy) =
          (if lines = [] then [""] else lines) := by
  refine ⟨Builder.outcome_prepare settings s, fun e => log_prepare_of_error, fun p placed => ?_⟩
  have printable : ∀ line ∈ (if settings.logParameters then parameterLines 1 p.values else []),
      Printable line.toList := by
    split
    · intro line member
      rw [parameterLines_eq] at member
      obtain ⟨i, _, rfl⟩ := List.mem_mapIdx.mp member
      exact printable_parameterLine _ _
    · nofun
  have logged : (s.prepare settings).log =
      (if settings.logStatements then [statementLine p] else []) ++
        (if settings.logParameters then parameterLines 1 p.values else []) := by
    rw [prepare, placed]
  refine ⟨_, _, logged, rfl, ?_, printable, String.toList_split_intercalate fun line member =>
    lineFeed_notMem_of_printable (printable line member)⟩
  rw [parameterLines_eq]
  simp only [Nat.add_comm 1]
  rfl

/-- A statement whose values are made to look like the end of a line and the start of the next. -/
def forgedQuery : Statement :=
  ⟨[.text "name = ", .param (.own 0), .text " and data in ", .param (.own 1)],
    ⟨[("_0", .text "x\n[QUERYHAUS] $2"),
      ("_1", .list [.json (.object [("k\n", .string "\r")]), .list [.text "\t", .null]])]⟩⟩

def forgedForm : Positional :=
  ⟨"name = $1 and data in ($2, $3)",
    [.text "x\n[QUERYHAUS] $2", .json (.object [("k\n", .string "\r")]), .list [.text "\t", .null]]⟩

/-- The values that are accepted make three lines behind that of the statement, and the ones that
are refused make none. -/
theorem forgedQuery_logs :
    let settings : QuerySettings := { logStatements := true, logParameters := true }
    let narrow : QuerySettings := { settings with maxBoundParameters := 2 }
    forgedQuery.toPositional 65535 = .ok forgedForm ∧
      (∃ first lines, (forgedQuery.prepare settings).log = first :: lines ∧
        lines = ["[QUERYHAUS] $1 = \"x\\n[QUERYHAUS] $2\" (text)",
          "[QUERYHAUS] $2 = \x7b\"k\\n\":\"\\r\"\x7d (json)",
          "[QUERYHAUS] $3 = [\"\\t\",null] (list)"] ∧
        ∀ line ∈ lines, ∀ c ∈ line.toList, 0x20 ≤ c.toNat) ∧
      forgedQuery.toPositional 2 = .error (.tooManyParameters 3 2) ∧
      (forgedQuery.prepare narrow).log = [] := by
  intro settings narrow
  have placed : forgedQuery.toPositional 65535 = .ok forgedForm := rfl
  have refused : forgedQuery.toPositional 2 = .error (.tooManyParameters 3 2) := rfl
  obtain ⟨first, lines, logged, ahead, behind, printable, _⟩ :=
    (prepare_logs settings forgedQuery).2.2 forgedForm placed
  refine ⟨placed, ⟨_, lines, by rw [logged, ahead]; rfl, ?_, printable⟩, refused,
    (prepare_logs narrow forgedQuery).2.1 _ refused⟩
  rw [behind]
  rfl

end Statement

end BoundQuery

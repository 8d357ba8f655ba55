import BoundQuery.Proofs.WhereBody
import Mathlib.Data.List.Forall2
import Mathlib.Data.List.TakeWhile

/-!
# The grammar of statement texts

What the text of a statement is made of, said as a grammar: which clauses there are, what each of
them looks like and when it is missing. The renderer knows nothing of such clauses. It pushes pieces
of text and references into a buffer and looks at the buffer to decide about the blank before the
next piece.

Results:
1. `listed_iff` / `given_iff`: the one text of each kind of clause, if there is any.
2. `Holds.pushOptional` / `Holds.whereClause`: a buffer of clauses grows by a clause.
3. `clauses_iff`: the grammar finds the clauses that are put together, and no others.
4. `derives_iff`: for every builder the grammar derives one text, the rendered one.
-/

namespace BoundQuery

open Atom (ofText)

/-! ## The text without blanks at its ends -/

namespace Text

def trimmed (s : String) : List Char := dropTrailingBlanks (dropBlanks s.toList)

/-- Nothing is left exactly if all of the text is blank. -/
theorem trimmed_eq_nil_iff {s : String} : trimmed s = [] ↔ allBlank s = true := by
  rw [trimmed, dropTrailingBlanks, List.reverse_eq_nil_iff, List.dropWhile_eq_nil_iff, allBlank,
    List.all_eq_true]
  constructor
  · intro rest c member
    rw [← List.takeWhile_append_dropWhile (p := isBlank) (l := s.toList)] at member
    rcases List.mem_append.mp member with front | back
    · exact List.all_eq_true.mp List.all_takeWhile c front
    · exact rest c (List.mem_reverse.mpr back)
  · intro blank c member
    exact blank c (List.dropWhile_subset _ (List.mem_reverse.mp member))

end Text

/-! ## The grammar -/

namespace Grammar

/-- A mark that is set or not. -/
inductive Marked (mark : String) : Bool → String → Prop
  | set : Marked mark true mark
  | unset : Marked mark false ""

/-- Items that are there, each in its form, behind a lead and with a separator between. -/
inductive Listed {α : Type} (Item : α → String → Prop) (lead separator : String) (xs : List α) :
    String → Prop
  | intro {items : List String} : xs ≠ [] → List.Forall₂ Item xs items →
      Listed Item lead separator xs (lead ++ separator.intercalate items)

/-- A text that is given and not empty, behind a keyword. -/
inductive Given (keyword : String) : Option String → String → Prop
  | intro {text : String} : text ≠ "" → Given keyword (some text) (keyword ++ " " ++ text)

inductive SelectKeyword : SelectMode → String → Prop
  | delete : SelectKeyword .delete "DELETE"
  | select {mode : SelectMode} : mode ≠ .delete → SelectKeyword mode "SELECT"

/-- What is selected: a count without an operand is one of everything. -/
inductive SelectOperand : Select → String → Prop
  | given (mode : SelectMode) (operand : String) : SelectOperand ⟨mode, some operand⟩ operand
  | everything : SelectOperand ⟨.count, none⟩ "*"
  | nothing {mode : SelectMode} : mode ≠ .count → SelectOperand ⟨mode, none⟩ ""

/-- A select clause: a call, a keyword that stands alone, or a keyword and an operand. -/
inductive SelectClause (distinct : Bool) : Option Select → String → Prop
  | call {s : Select} {keyword function mark operand : String} : SelectKeyword s.mode keyword →
      s.mode.function? = some function → Marked "DISTINCT " distinct mark →
      SelectOperand s operand →
      SelectClause distinct (some s) (keyword ++ " " ++ function ++ "(" ++ mark ++ operand ++ ")")
  | alone {s : Select} {keyword : String} : SelectKeyword s.mode keyword →
      s.mode.function? = none → SelectOperand s "" → SelectClause distinct (some s) keyword
  | plain {s : Select} {keyword mark operand : String} : SelectKeyword s.mode keyword →
      s.mode.function? = none → Marked "DISTINCT " distinct mark → SelectOperand s operand →
      operand ≠ "" → SelectClause distinct (some s) (keyword ++ " " ++ mark ++ operand)

/-- A name with its alias, unless that is missing or empty. -/
inductive SourceItem : String × Option String → String → Prop
  | aliased {name label : String} : label ≠ "" →
      SourceItem (name, some label) (name ++ " as " ++ label)
  | unnamed (name : String) : SourceItem (name, none) name
  | empty (name : String) : SourceItem (name, some "") name

/-- An alias of a join, also an empty one. -/
inductive JoinLabel : Option String → String → Prop
  | aliased (label : String) : JoinLabel (some label) (" as " ++ label)
  | unnamed : JoinLabel none ""

/-- A condition of a join counts only if something is left of both its sides without the blanks at
their ends. -/
inductive JoinCondition : Option WithCondition → String → Prop
  | complete {c : WithCondition} : Text.trimmed c.left ≠ [] ∧ Text.trimmed c.right ≠ [] →
      JoinCondition (some c)
        (" WITH " ++ c.left ++ " " ++ c.operator.symbol ++ " " ++ c.right)
  | incomplete {c : WithCondition} : Text.trimmed c.left = [] ∨ Text.trimmed c.right = [] →
      JoinCondition (some c) ""
  | missing : JoinCondition none ""

inductive JoinItem (j : Join) : String → Prop
  | intro {fetch label condition : String} : Marked " FETCH" j.fetch fetch →
      JoinLabel j.aliasName label → JoinCondition j.condition condition →
      JoinItem j (j.kind.keyword ++ fetch ++ " " ++ j.source ++ label ++ condition)

/-- A token stands as its placeholder, and other texts stand as they are. -/
inductive ConditionItem : Condition → String → Prop
  | value (field : String) (comparison : Comparison) (token : Token) :
      ConditionItem (.compare field comparison (.param token))
        (field ++ " " ++ comparison.symbol ++ " " ++ token.placeholder)
  | field (field : String) (comparison : Comparison) (other : String) :
      ConditionItem (.compare field comparison (.field other))
        (field ++ " " ++ comparison.symbol ++ " " ++ other)
  | oneOf (field : String) (tokens : List Token) :
      ConditionItem (.oneOf field tokens false)
        (field ++ " in (" ++ ", ".intercalate (tokens.map Token.placeholder) ++ ")")
  | noneOf (field : String) (tokens : List Token) :
      ConditionItem (.oneOf field tokens true)
        (field ++ " not in (" ++ ", ".intercalate (tokens.map Token.placeholder) ++ ")")
  | inList (field : String) (token : Token) :
      ConditionItem (.inList field token) (field ++ " in " ++ token.placeholder)
  | null (field : String) : ConditionItem (.nullTest field false) (" " ++ field ++ " is null ")
  | notNull (field : String) :
      ConditionItem (.nullTest field true) (" " ++ field ++ " is not null ")
  | mapEntry (field : String) (key value : Token) :
      ConditionItem (.mapEntry field key value)
        (field ++ "[" ++ key.placeholder ++ "] = " ++ value.placeholder)
  | connective (c : Connective) : ConditionItem (.connective c) c.text
  | parenthesis (mark : Parenthesis) : ConditionItem (.parenthesis mark) mark.text
  | subQuery (fragments : List Fragment) :
      ConditionItem (.subQuery none fragments) ("(" ++ renderText fragments ++ ")")
  | inSubQuery (field : String) (fragments : List Fragment) :
      ConditionItem (.subQuery (some field) fragments)
        (field ++ " in (" ++ renderText fragments ++ ")")

inductive OrderItem : String × Direction → String → Prop
  | ascending (field : String) : OrderItem (field, .ascending) (field ++ " asc")
  | descending (field : String) : OrderItem (field, .descending) (field ++ " desc")

/-- The clause of a place, if there is one. -/
inductive Place (Clause : String → Prop) : List String → Prop
  | filled {clause : String} : Clause clause → Place Clause [clause]
  | vacant : (∀ clause, ¬Clause clause) → Place Clause []

/-- The clauses of a builder in their order. -/
inductive Clauses (b : Builder) : List String → Prop
  | intro {select sources joins conditions ordering groupBy having : List String} :
      Place (SelectClause b.distinct b.select) select →
      Place (Listed SourceItem "FROM " ", " b.sources.entries.entries) sources →
      Place (Listed JoinItem "" " " b.joins) joins →
      Place (Listed ConditionItem "WHERE " "" b.conditions) conditions →
      Place (Listed OrderItem "ORDER BY " ", " b.ordering.entries.entries) ordering →
      Place (Given "GROUP BY" b.grouping.groupBy) groupBy →
      Place (Given "HAVING" b.grouping.having) having →
      Clauses b (select ++ sources ++ joins ++ conditions ++ ordering ++ groupBy ++ having)

/-- The clauses with one blank between two of them, none of them empty. -/
inductive Derives (b : Builder) : String → Prop
  | intro {clauses : List String} : Clauses b clauses → (∀ clause ∈ clauses, clause ≠ "") →
      Derives b (" ".intercalate clauses)

/-! ## The one text of each clause -/

theorem marked_iff {mark text : String} {flag : Bool} :
    Marked mark flag text ↔ text = if flag then mark else "" := by
  constructor
  · rintro (_ | _) <;> rfl
  · rintro rfl
    cases flag
    · exact .unset
    · exact .set

/-- Items with one form each have one list of forms. -/
theorem forall₂_iff_map {α : Type} {Item : α → String → Prop} {form : α → String}
    (one : ∀ x text, Item x text ↔ text = form x) {xs : List α} {items : List String} :
    List.Forall₂ Item xs items ↔ items = xs.map form := by
  have same : Item = fun x text => form x = text := by
    funext x text
    exact propext ((one x text).trans eq_comm)
  rw [same, ← List.forall₂_map_left_iff (R := (· = ·)), List.forall₂_eq_eq_eq, eq_comm]

theorem listed_iff {α : Type} {Item : α → String → Prop} {form : α → String}
    (one : ∀ x text, Item x text ↔ text = form x) {lead separator : String}
    (filled : ∀ x xs, lead ++ separator.intercalate ((x :: xs).map form) ≠ "") {xs : List α}
    {clause : String} (clause_eq : clause =
      if xs = [] then "" else lead ++ separator.intercalate (xs.map form)) (text : String) :
    Listed Item lead separator xs text ↔ text = clause ∧ clause ≠ "" := by
  subst clause_eq
  constructor
  · rintro ⟨some, items⟩
    obtain rfl := (forall₂_iff_map one).mp items
    rw [if_neg some]
    obtain ⟨x, rest, rfl⟩ := List.exists_cons_of_ne_nil some
    exact ⟨rfl, filled x rest⟩
  · rintro ⟨rfl, some⟩
    split at some
    · exact absurd rfl some
    · next nonempty =>
      rw [if_neg nonempty]
      exact .intro nonempty ((forall₂_iff_map one).mpr rfl)

theorem given_iff (keyword : String) (given : Option String) (text : String) :
    Given keyword given text ↔
      text = Grouping.clauseText keyword given ∧ Grouping.clauseText keyword given ≠ "" := by
  constructor
  · rintro ⟨some⟩
    rw [Grouping.clauseText, if_neg some]
    exact ⟨rfl, by simp⟩
  · rintro ⟨rfl, filled⟩
    cases given with
    | none => exact absurd rfl filled
    | some t =>
      rw [Grouping.clauseText] at filled ⊢
      split at filled
      · exact absurd rfl filled
      · next some =>
        rw [if_neg some]
        exact .intro some

theorem selectKeyword_iff {mode : SelectMode} {text : String} :
    SelectKeyword mode text ↔ text = mode.keyword := by
  constructor
  · rintro (_ | other)
    · rfl
    · cases mode <;> first | rfl | exact absurd rfl other
  · rintro rfl
    cases mode with
    | delete => exact .delete
    | _ => exact .select (by decide)

theorem selectOperand_iff {s : Select} {text : String} :
    SelectOperand s text ↔ text = s.operand := by
  obtain ⟨mode, given⟩ := s
  constructor
  · rintro (_ | _ | other)
    · rfl
    · rfl
    · cases mode <;> first | rfl | exact absurd rfl other
  · rintro rfl
    cases given with
    | some operand => exact .given mode operand
    | none =>
      cases mode with
      | count => exact .everything
      | _ => exact .nothing (by decide)

theorem sourceItem_iff (entry : String × Option String) (text : String) :
    SourceItem entry text ↔ text = Sources.entryText entry := by
  constructor
  · rintro (label | _ | _)
    · simp [Sources.entryText, label]
    · rfl
    · rfl
  · rintro rfl
    obtain ⟨name, aliasName⟩ := entry
    cases aliasName with
    | none => exact .unnamed name
    | some label =>
      by_cases empty : label = ""
      · subst empty
        exact .empty name
      · simp only [Sources.entryText, if_neg empty]
        exact .aliased empty

theorem joinLabel_iff {aliasName : Option String} {text : String} :
    JoinLabel aliasName text ↔ text = Join.aliasText aliasName := by
  constructor
  · rintro (_ | _) <;> rfl
  · rintro rfl
    cases aliasName with
    | none => exact .unnamed
    | some label => exact .aliased label

theorem isComplete_iff {c : WithCondition} :
    c.isComplete = true ↔ Text.trimmed c.left ≠ [] ∧ Text.trimmed c.right ≠ [] := by
  simp [WithCondition.isComplete, Text.trimmed_eq_nil_iff]

theorem joinCondition_iff {condition : Option WithCondition} {text : String} :
    JoinCondition condition text ↔
      text = Join.conditionText (condition.filter WithCondition.isComplete) := by
  cases condition with
  | none =>
    constructor
    · rintro ⟨⟩
      rfl
    · rintro rfl
      exact .missing
  | some c =>
    rw [Option.filter_some]
    split
    · next complete =>
      rw [isComplete_iff] at complete
      constructor
      · rintro (_ | incomplete)
        · rfl
        · exact absurd complete (by tauto)
      · rintro rfl
        exact .complete complete
    · next incomplete =>
      rw [isComplete_iff] at incomplete
      constructor
      · rintro (complete | _)
        · exact absurd complete incomplete
        · rfl
      · rintro rfl
        exact .incomplete (by tauto)

theorem joinItem_iff (j : Join) (text : String) : JoinItem j text ↔ text = j.text := by
  constructor
  · rintro ⟨fetch, label, condition⟩
    rw [marked_iff] at fetch
    rw [joinLabel_iff] at label
    rw [joinCondition_iff] at condition
    subst fetch label condition
    rfl
  · rintro rfl
    exact .intro (marked_iff.mpr rfl) (joinLabel_iff.mpr rfl) (joinCondition_iff.mpr rfl)

theorem orderItem_iff (entry : String × Direction) (text : String) :
    OrderItem entry text ↔ text = SortFields.entryText entry := by
  have form (field : String) (direction : Direction) :
      SortFields.entryText (field, direction) = field ++ (" " ++ direction.keyword) :=
    String.append_assoc
  constructor
  · rintro (field | field)
    · exact (form field .ascending).symm
    · exact (form field .descending).symm
  · rintro rfl
    obtain ⟨field, direction⟩ := entry
    rw [form]
    cases direction with
    | ascending => exact .ascending field
    | descending => exact .descending field

/-- The text of a select clause, empty if nothing is selected. -/
def selectText (distinct : Bool) (select : Option Select) : String :=
  select.elim "" fun s => s.clause distinct

theorem clause_ne_empty (s : Select) (distinct : Bool) : s.clause distinct ≠ "" := by
  have keyword : s.mode.keyword ≠ "" := by cases s.mode <;> decide
  rw [Select.clause]
  split
  · simp
  · split
    · exact keyword
    · simp

theorem selectClause_iff (distinct : Bool) (select : Option Select) (text : String) :
    SelectClause distinct select text ↔
      text = selectText distinct select ∧ selectText distinct select ≠ "" := by
  constructor
  · rintro (⟨keyword, function, mark, operand⟩ | ⟨keyword, function, operand⟩ |
      ⟨keyword, function, mark, operand, some⟩)
    · rw [selectKeyword_iff] at keyword
      rw [marked_iff] at mark
      rw [selectOperand_iff] at operand
      refine ⟨?_, clause_ne_empty _ _⟩
      simp [selectText, Select.clause, function, keyword, mark, operand, String.append_assoc]
    · rw [selectKeyword_iff] at keyword
      rw [selectOperand_iff] at operand
      refine ⟨?_, clause_ne_empty _ _⟩
      simp [selectText, Select.clause, function, keyword, ← operand]
    · rw [selectKeyword_iff] at keyword
      rw [marked_iff] at mark
      rw [selectOperand_iff] at operand
      refine ⟨?_, clause_ne_empty _ _⟩
      rw [operand] at some
      simp [selectText, Select.clause, function, keyword, mark, operand, some, String.append_assoc]
  · rintro ⟨rfl, filled⟩
    obtain _ | s := select
    · exact absurd rfl filled
    have keyword : SelectKeyword s.mode s.mode.keyword := selectKeyword_iff.mpr rfl
    have mark : Marked "DISTINCT " distinct (if distinct then "DISTINCT " else "") :=
      marked_iff.mpr rfl
    have operand : SelectOperand s s.operand := selectOperand_iff.mpr rfl
    cases function : s.mode.function? with
    | some f =>
      have call := SelectClause.call keyword function mark operand
      simpa [selectText, Select.clause, function] using call
    | none =>
      by_cases empty : s.operand = ""
      · have alone : SelectClause distinct (some s) s.mode.keyword :=
          .alone keyword function (empty ▸ operand)
        simpa [selectText, Select.clause, function, empty] using alone
      · have plain := SelectClause.plain keyword function mark operand empty
        simpa [selectText, Select.clause, function, empty] using plain

end Grammar

/-! ## Texts as rows of characters -/

namespace Atom

theorem ofText_injective : Function.Injective ofText := by
  intro s t equal
  have chars : s.toList = t.toList :=
    List.map_injective_iff.mpr (fun _ _ => Atom.char.inj) equal
  exact String.toList_inj.mp chars

theorem ofText_intercalate (separator : String) (texts : List String) :
    ofText (separator.intercalate texts) = (ofText separator).intercalate (texts.map ofText) := by
  induction texts with
  | nil => rfl
  | cons text rest ih =>
    cases rest with
    | nil => simp
    | cons next rest =>
      rw [String.intercalate_cons_cons, ofText_append, ofText_append, ih]
      simp only [List.map_cons, List.intercalate_cons_cons]

end Atom

/-- If tokens are read as their placeholders, fragments stand for their named text. -/
theorem ofText_renderText (fragments : List Fragment) :
    ofText (renderText fragments) = atomsOf readName fragments := by
  induction fragments with
  | nil => rfl
  | cons fragment rest ih =>
    have first : renderText (fragment :: rest) = fragment.render ++ renderText rest := by
      simp [renderText]
    rw [first, Atom.ofText_append, ih, atomsOf_cons]
    cases fragment <;> rfl

theorem renderText_pushText (buffer : Buffer) (s : String) :
    renderText (buffer.pushText s).fragments = renderText buffer.fragments ++ s := by
  apply Atom.ofText_injective
  rw [Atom.ofText_append, ofText_renderText, ofText_renderText, Buffer.atomsOf_pushText]

/-- A clause comes with a blank before it unless it comes first. -/
theorem renderText_pushClause (buffer : Buffer) (clause : String) :
    renderText (buffer.pushClause clause).fragments = renderText buffer.fragments ++
      (if buffer.fragments.isEmpty then "" else " ") ++ clause := by
  rw [Buffer.pushClause, renderText_pushText]
  split
  · rw [String.append_empty]
  · rw [renderText_pushText]

/-! ## Conditions one after another -/

namespace Condition

/-- The text of a condition that is rendered alone. -/
def text (condition : Condition) : String := renderText (write {} condition).fragments

theorem ofText_text (condition : Condition) : ofText condition.text = condition.atoms readName := by
  rw [text, ofText_renderText, atomsOf_write]
  rfl

/-- Behind a buffer a condition is rendered as it is alone. -/
theorem renderText_write (buffer : Buffer) (condition : Condition) :
    renderText (write buffer condition).fragments =
      renderText buffer.fragments ++ condition.text := by
  apply Atom.ofText_injective
  rw [Atom.ofText_append, ofText_renderText, ofText_renderText, atomsOf_write, ofText_text]

theorem renderText_writeAll (buffer : Buffer) (conditions : List Condition) :
    renderText (writeAll buffer conditions).fragments =
      renderText buffer.fragments ++ "".intercalate (conditions.map text) := by
  induction conditions generalizing buffer with
  | nil => simp [writeAll]
  | cons condition rest ih =>
    have step := ih (write buffer condition)
    have joined : "".intercalate ((condition :: rest).map text) =
        condition.text ++ "".intercalate (rest.map text) := by
      cases rest <;> simp
    rw [joined, ← String.append_assoc, ← renderText_write]
    exact step

end Condition

namespace Grammar

theorem text_of_conditionItem {condition : Condition} {text : String}
    (item : ConditionItem condition text) : text = condition.text := by
  apply Atom.ofText_injective
  rw [Condition.ofText_text]
  have names (tokens : List Token) : (tokens.map Token.placeholder).map ofText =
      tokens.map readName := List.map_map
  have opening : ofText " in (" = ofText " in " ++ ofText "(" := rfl
  cases item with
  | oneOf field tokens => simp [Condition.atoms, Atom.ofText_intercalate, -List.map_map, names]
  | noneOf field tokens => simp [Condition.atoms, Atom.ofText_intercalate, -List.map_map, names]
  | _ => simp [Condition.atoms, Condition.fieldText, readName, ofText_renderText, opening]

theorem exists_conditionItem (condition : Condition) : ∃ text, ConditionItem condition text := by
  cases condition with
  | compare field comparison operand =>
    cases operand with
    | param token => exact ⟨_, .value field comparison token⟩
    | field other => exact ⟨_, .field field comparison other⟩
  | oneOf field tokens negated =>
    cases negated with
    | false => exact ⟨_, .oneOf field tokens⟩
    | true => exact ⟨_, .noneOf field tokens⟩
  | inList field token => exact ⟨_, .inList field token⟩
  | nullTest field negated =>
    cases negated with
    | false => exact ⟨_, .null field⟩
    | true => exact ⟨_, .notNull field⟩
  | mapEntry field key value => exact ⟨_, .mapEntry field key value⟩
  | connective c => exact ⟨_, .connective c⟩
  | parenthesis mark => exact ⟨_, .parenthesis mark⟩
  | subQuery field fragments =>
    cases field with
    | none => exact ⟨_, .subQuery fragments⟩
    | some field => exact ⟨_, .inSubQuery field fragments⟩

theorem conditionItem_iff (condition : Condition) (text : String) :
    ConditionItem condition text ↔ text = condition.text := by
  constructor
  · exact text_of_conditionItem
  · rintro rfl
    obtain ⟨text, item⟩ := exists_conditionItem condition
    rwa [← text_of_conditionItem item]

/-! ## Clauses -/

/-- A clause as a list, the empty list for an empty clause. -/
def present (clause : String) : List String := if clause = "" then [] else [clause]

/-- A place with one possible clause is filled with it, unless it is empty. -/
theorem place_iff {Clause : String → Prop} {clause : String}
    (one : ∀ text, Clause text ↔ text = clause ∧ clause ≠ "") (clauses : List String) :
    Place Clause clauses ↔ clauses = present clause := by
  rw [present]
  constructor
  · rintro (found | none)
    · obtain ⟨rfl, some⟩ := (one _).mp found
      rw [if_neg some]
    · split
      · rfl
      · next some => exact absurd ((one clause).mpr ⟨rfl, some⟩) (none clause)
  · rintro rfl
    split
    · next empty => exact .vacant fun text found => ((one text).mp found).2 empty
    · next some => exact .filled ((one clause).mpr ⟨rfl, some⟩)

/-! ## Buffers of clauses -/

/-- The buffer holds the text of the clauses and is empty only without any. -/
structure Holds (buffer : Buffer) (clauses : List String) : Prop where
  text : renderText buffer.fragments = " ".intercalate clauses
  empty : buffer.fragments = [] ↔ clauses = []

namespace Holds

variable {buffer : Buffer} {clauses : List String}

theorem nil : Holds {} [] := ⟨rfl, fun _ => rfl, fun _ => rfl⟩

/-- More text behind the buffer is one clause more, if a blank is put between. -/
theorem append (h : Holds buffer clauses) {longer : Buffer} {clause : String} (some : clause ≠ "")
    (text : renderText longer.fragments = renderText buffer.fragments ++
      (if buffer.fragments.isEmpty then "" else " ") ++ clause) :
    Holds longer (clauses ++ [clause]) := by
  constructor
  · rw [text, h.text]
    by_cases none : clauses = []
    · rw [if_pos (List.isEmpty_iff.mpr (h.empty.mpr none)), none]
      simp
    · rw [if_neg (by simpa [h.empty] using none),
        String.intercalate_append_of_ne_nil none (List.cons_ne_nil _ _),
        String.intercalate_singleton]
  · have filled : longer.fragments ≠ [] := by
      intro empty
      rw [empty] at text
      exact some (String.append_eq_empty_iff.mp text.symm).2
    simp [filled]

theorem pushClause (h : Holds buffer clauses) {clause : String} (some : clause ≠ "") :
    Holds (buffer.pushClause clause) (clauses ++ [clause]) :=
  h.append some (renderText_pushClause buffer clause)

theorem pushOptional (h : Holds buffer clauses) (clause : String) :
    Holds (buffer.pushOptional clause) (clauses ++ present clause) := by
  rw [Buffer.pushOptional, present]
  split
  · rwa [List.append_nil]
  · next some => exact h.pushClause some

end Holds

/-- The text of the clause in front of conditions, empty without any. -/
def whereText (conditions : List Condition) : String :=
  if conditions = [] then "" else "WHERE " ++ "".intercalate (conditions.map Condition.text)

theorem Holds.whereClause {buffer : Buffer} {clauses : List String} (h : Holds buffer clauses)
    (conditions : List Condition) :
    Holds (Builder.whereClause buffer conditions) (clauses ++ present (whereText conditions)) := by
  rw [Builder.whereClause, whereText]
  by_cases none : conditions = []
  · rwa [if_pos (List.isEmpty_iff.mpr none), if_pos none, present, if_pos rfl, List.append_nil]
  · have some : "WHERE " ++ "".intercalate (conditions.map Condition.text) ≠ "" := by simp
    rw [if_neg (by simpa using none), if_neg none, present, if_neg some]
    refine h.append some ?_
    rw [Condition.renderText_writeAll, renderText_pushClause, String.append_assoc]

theorem Holds.selectClause (b : Builder) :
    Holds b.selectClause (present (selectText b.distinct b.select)) := by
  rw [Builder.selectClause, selectText]
  cases b.select with
  | none => exact .nil
  | some s =>
    have alone := Holds.nil.pushClause (clause_ne_empty s b.distinct)
    rwa [Option.elim_some, present, if_neg (clause_ne_empty s b.distinct)]

/-- What each clause of a builder is rendered to, in the order of the clauses. -/
def clauseTexts (b : Builder) : List String :=
  present (selectText b.distinct b.select) ++ present b.sources.clause ++
    present (Join.clause b.joins) ++ present (whereText b.conditions) ++
    present b.ordering.clause ++ present b.grouping.groupByClause ++
    present b.grouping.havingClause

theorem holds_render (b : Builder) : Holds ⟨b.render⟩ (clauseTexts b) :=
  (((((Holds.selectClause b).pushOptional b.sources.clause).pushOptional
    (Join.clause b.joins)).whereClause b.conditions).pushOptional b.ordering.clause).pushOptional
    b.grouping.groupByClause |>.pushOptional b.grouping.havingClause

theorem sources_iff (sources : Sources) (text : String) :
    Listed SourceItem "FROM " ", " sources.entries.entries text ↔
      text = sources.clause ∧ sources.clause ≠ "" :=
  listed_iff sourceItem_iff (by simp)
    (by simp [Sources.clause, Sources.isEmpty, Table.isEmpty]) text

theorem joins_iff (joins : List Join) (text : String) :
    Listed JoinItem "" " " joins text ↔ text = Join.clause joins ∧ Join.clause joins ≠ "" := by
  refine listed_iff joinItem_iff (fun j rest => ?_) ?_ text
  · have filled : j.text ≠ "" := by simp [Join.text]
    cases rest <;> simp [filled]
  · cases joins with
    | nil => rfl
    | cons j rest => simp [Join.clause]

theorem conditions_iff (conditions : List Condition) (text : String) :
    Listed ConditionItem "WHERE " "" conditions text ↔
      text = whereText conditions ∧ whereText conditions ≠ "" :=
  listed_iff conditionItem_iff (by simp) rfl text

theorem ordering_iff (fields : SortFields) (text : String) :
    Listed OrderItem "ORDER BY " ", " fields.entries.entries text ↔
      text = fields.clause ∧ fields.clause ≠ "" :=
  listed_iff orderItem_iff (by simp) (by simp [SortFields.clause, Table.isEmpty]) text

/-- The grammar finds these clauses and no others. -/
theorem clauses_iff {b : Builder} {clauses : List String} :
    Clauses b clauses ↔ clauses = clauseTexts b := by
  have select := place_iff (selectClause_iff b.distinct b.select)
  have sources := place_iff (sources_iff b.sources)
  have joins := place_iff (joins_iff b.joins)
  have conditions := place_iff (conditions_iff b.conditions)
  have ordering := place_iff (ordering_iff b.ordering)
  have groupBy := place_iff (given_iff "GROUP BY" b.grouping.groupBy)
  have having' := place_iff (given_iff "HAVING" b.grouping.having)
  constructor
  · rintro ⟨s, f, j, w, o, g, h⟩
    rw [(select _).mp s, (sources _).mp f, (joins _).mp j, (conditions _).mp w,
      (ordering _).mp o, (groupBy _).mp g, (having' _).mp h]
    rfl
  · rintro rfl
    exact .intro ((select _).mpr rfl) ((sources _).mpr rfl) ((joins _).mpr rfl)
      ((conditions _).mpr rfl) ((ordering _).mpr rfl) ((groupBy _).mpr rfl) ((having' _).mpr rfl)

theorem ne_empty_of_mem_present {clause text : String} (member : clause ∈ present text) :
    clause ≠ "" := by
  rw [present] at member
  split at member
  · cases member
  · next some =>
    rw [List.mem_singleton] at member
    exact member ▸ some

/-- For every builder the grammar derives one text, and that is the rendered one: its clauses, those
that there are, in their order, with one blank between two of them. -/
theorem derives_iff (b : Builder) (text : String) : Derives b text ↔ text = b.text := by
  have rendered : b.text = " ".intercalate (clauseTexts b) := (holds_render b).text
  rw [rendered]
  constructor
  · rintro ⟨clauses, _⟩
    rw [clauses_iff.mp clauses]
  · rintro rfl
    refine .intro (clauses_iff.mpr rfl) fun clause member => ?_
    simp only [clauseTexts, List.mem_append] at member
    rcases member with (((((m | m) | m) | m) | m) | m) | m <;> exact ne_empty_of_mem_present m

-- A mark for distinct rows does not show behind a keyword that stands alone.
example : (Builder.run {} [.distinct, .select .delete none, .registerSource "User" (some ""),
    .join { kind := .left, source := "u.roles", condition := some ⟨"r.id", .equal, "\u3000"⟩ },
    .nullTest "u.id" true, .having ""]).text =
    "DELETE FROM User LEFT JOIN u.roles WHERE  u.id is not null " := by decide

end Grammar

end BoundQuery

import BoundQuery.Proofs.Growth
import BoundQuery.Builder.Call
import Mathlib.Data.List.Chain

/-!
# Normal forms of fragment lists

The same text can be cut into fragments in many ways. A list is in normal form if it is cut only
where a reference stands: then it is determined by its characters and references. Whatever a builder
holds, also nested fragments cut in any way, it is rendered in normal form, so rendered statements
may be compared fragment by fragment.

Results:
1. `Buffer.normal_splice`: a buffer in normal form stays so, whatever is spliced into it.
2. `Builder.normal_render`: every builder is rendered in normal form.
3. `eq_of_symbolsOf`: normal forms of the same characters and references are equal.
4. `Buffer.splice_normal`: fragments in normal form are spliced as they are.
5. `Builder.rendered_normal`: all of this for builders and the statements nested in them.
-/

namespace BoundQuery

/-- One of two fragments is a reference. -/
def Fragment.Apart (a b : Fragment) : Prop := a.token?.isSome ∨ b.token?.isSome

instance : DecidableRel Fragment.Apart :=
  fun a b => inferInstanceAs (Decidable (a.token?.isSome ∨ b.token?.isSome))

/-- No text is empty, and no two texts stand side by side. -/
structure Normal (fragments : List Fragment) : Prop where
  filled : .text "" ∉ fragments
  apart : fragments.IsChain Fragment.Apart

theorem normal_iff {fragments : List Fragment} :
    Normal fragments ↔ .text "" ∉ fragments ∧ fragments.IsChain Fragment.Apart :=
  ⟨fun h => ⟨h.filled, h.apart⟩, fun h => ⟨h.1, h.2⟩⟩

instance (fragments : List Fragment) : Decidable (Normal fragments) :=
  decidable_of_iff _ normal_iff.symm

theorem normal_nil : Normal [] := ⟨List.not_mem_nil, .nil⟩

theorem normal_append {front back : List Fragment} :
    Normal (front ++ back) ↔ Normal front ∧ Normal back ∧
      ∀ a ∈ front.getLast?, ∀ b ∈ back.head?, Fragment.Apart a b := by
  simp only [normal_iff, List.mem_append, List.isChain_append]
  tauto

theorem normal_singleton {fragment : Fragment} : Normal [fragment] ↔ fragment ≠ .text "" := by
  simp [normal_iff, eq_comm]

/-- Renaming cuts nothing and joins nothing. -/
theorem normal_rename (renames : Table Token Token) (fragments : List Fragment) :
    Normal (fragments.map (Fragment.rename renames)) ↔ Normal fragments := by
  have apart (a b : Fragment) :
      (a.rename renames).Apart (b.rename renames) ↔ a.Apart b := by
    cases a <;> cases b <;> rfl
  have filled (fragment : Fragment) : fragment.rename renames = .text "" ↔ fragment = .text "" := by
    cases fragment <;> simp [Fragment.rename]
  simp only [normal_iff, List.isChain_map, apart, List.mem_map, filled, exists_eq_right]

/-! ## Writing -/

namespace Buffer

theorem normal_push {buffer : Buffer} (normal : Normal buffer.fragments) (fragment : Fragment) :
    Normal (buffer.push fragment).fragments := by
  cases fragment with
  | param token =>
    refine normal_append.mpr ⟨normal, normal_singleton.mpr nofun, ?_⟩
    rintro _ _ _ ⟨⟩
    exact .inr rfl
  | text s =>
    show Normal (buffer.pushText s).fragments
    unfold pushText
    split
    · exact normal
    · next filled =>
      obtain empty | ⟨front, last, ends⟩ | ⟨front, token, ends⟩ := ending_cases buffer.fragments
      · rw [empty]
        exact normal_singleton.mpr (by simpa using filled)
      · rw [ends] at normal ⊢
        obtain ⟨before, _, apart⟩ := normal_append.mp normal
        rw [appendText_concat_text]
        refine normal_append.mpr ⟨before, normal_singleton.mpr ?_, ?_⟩
        · simp [filled]
        · rintro a member _ ⟨⟩
          exact apart a member (.text last) rfl
      · rw [ends] at normal ⊢
        rw [appendText_concat_param, ← List.singleton_append, ← List.append_assoc]
        refine normal_append.mpr ⟨normal, normal_singleton.mpr (by simpa using filled), ?_⟩
        rw [List.getLast?_concat]
        rintro _ ⟨⟩ _ _
        exact .inl rfl

theorem normal_splice {buffer : Buffer} (normal : Normal buffer.fragments)
    (fragments : List Fragment) : Normal (buffer.splice fragments).fragments := by
  induction fragments generalizing buffer with
  | nil => exact normal
  | cons fragment rest ih => exact ih (normal_push normal fragment)

theorem normal_pushClause {buffer : Buffer} (normal : Normal buffer.fragments) (clause : String) :
    Normal (buffer.pushClause clause).fragments := by
  unfold pushClause
  split
  · exact normal_push normal (.text clause)
  · exact normal_push (normal_push normal (.text " ")) (.text clause)

theorem normal_pushOptional {buffer : Buffer} (normal : Normal buffer.fragments)
    (clause : String) : Normal (buffer.pushOptional clause).fragments := by
  unfold pushOptional
  split
  · exact normal
  · exact normal_pushClause normal clause

end Buffer

namespace Builder

theorem normal_selectClause (b : Builder) : Normal b.selectClause.fragments := by
  unfold selectClause
  split
  · exact Buffer.normal_pushClause normal_nil _
  · exact normal_nil

theorem normal_whereClause {buffer : Buffer} (normal : Normal buffer.fragments)
    (conditions : List Condition) : Normal (whereClause buffer conditions).fragments := by
  unfold whereClause
  split
  · exact normal
  · rw [Condition.writeAll_eq_splice]
    exact Buffer.normal_splice (Buffer.normal_pushClause normal _) _

/-- Whatever a builder holds, it is rendered in normal form. -/
theorem normal_render (b : Builder) : Normal b.render := by
  have front := Buffer.normal_pushOptional
    (Buffer.normal_pushOptional b.normal_selectClause b.sources.clause) (Join.clause b.joins)
  have body := Buffer.normal_pushOptional (normal_whereClause front b.conditions) b.ordering.clause
  exact Buffer.normal_pushOptional (Buffer.normal_pushOptional body b.grouping.groupByClause)
    b.grouping.havingClause

end Builder

/-! ## Characters and references -/

/-- A character of a text, or a reference. -/
inductive Symbol where
  | char (c : Char)
  | param (token : Token)
deriving DecidableEq

/-- What is seen of a fragment if texts are not told apart from their parts. -/
def Fragment.symbols : Fragment → List Symbol
  | text s => s.toList.map .char
  | param token => [.param token]

/-- The characters and references of a fragment list, in order. -/
def symbolsOf (fragments : List Fragment) : List Symbol := fragments.flatMap Fragment.symbols

def Symbol.isChar : Symbol → Bool
  | char _ => true
  | param _ => false

/-- Behind a text there is nothing or a reference, so the text ends where the characters end. -/
theorem takeWhile_symbolsOf {s : String} {rest : List Fragment}
    (normal : Normal (.text s :: rest)) :
    (symbolsOf (.text s :: rest)).takeWhile Symbol.isChar = s.toList.map .char := by
  have chars : ∀ symbol ∈ s.toList.map Symbol.char, symbol.isChar = true := by
    simp [Symbol.isChar]
  have stops : (symbolsOf rest).takeWhile Symbol.isChar = [] := by
    match rest, normal.apart with
    | [], _ => rfl
    | .param token :: rest, _ => rfl
    | .text t :: rest, apart => cases (List.isChain_cons_cons.mp apart).1 <;> contradiction
  rw [symbolsOf, List.flatMap_cons, Fragment.symbols, List.takeWhile_append_of_pos chars]
  exact (congrArg _ stops).trans (List.append_nil _)

theorem Normal.tail {fragment : Fragment} {rest : List Fragment}
    (normal : Normal (fragment :: rest)) : Normal rest :=
  ⟨fun member => normal.filled (List.mem_cons_of_mem _ member), normal.apart.tail⟩

theorem Normal.next {fragment : Fragment} {rest : List Fragment}
    (normal : Normal (fragment :: rest)) : ∀ b ∈ rest.head?, fragment.Apart b :=
  (List.isChain_cons.mp normal.apart).1

theorem Normal.ne_empty {s : String} {rest : List Fragment} (normal : Normal (.text s :: rest)) :
    s ≠ "" :=
  fun empty => normal.filled (empty ▸ List.mem_cons_self)

/-- A text at the head shows as a character. -/
theorem Normal.starts_text {s : String} {rest : List Fragment} (normal : Normal (.text s :: rest)) :
    ∃ c symbols, symbolsOf (.text s :: rest) = .char c :: symbols := by
  have filled : s.toList ≠ [] := by simpa using normal.ne_empty
  obtain ⟨c, chars, some⟩ := List.exists_cons_of_ne_nil filled
  exact ⟨c, chars.map .char ++ symbolsOf rest, by simp [symbolsOf, Fragment.symbols, some]⟩

theorem Normal.symbols_ne_nil {fragment : Fragment} {rest : List Fragment}
    (normal : Normal (fragment :: rest)) : symbolsOf (fragment :: rest) ≠ [] := by
  cases fragment with
  | param token => exact List.cons_ne_nil _ _
  | text s =>
    obtain ⟨c, symbols, starts⟩ := normal.starts_text
    rw [starts]
    exact List.cons_ne_nil _ _

/-- A normal form is determined by its characters and references. -/
theorem eq_of_symbolsOf {a b : List Fragment} (normal : Normal a) (normal' : Normal b)
    (same : symbolsOf a = symbolsOf b) : a = b := by
  induction a generalizing b with
  | nil =>
    cases b with
    | nil => rfl
    | cons other rest' => exact absurd same.symm normal'.symbols_ne_nil
  | cons fragment rest ih =>
    cases b with
    | nil => exact absurd same normal.symbols_ne_nil
    | cons other rest' =>
      match fragment, other with
      | .param token, .param token' =>
        obtain ⟨symbol, tail⟩ := List.cons.inj same
        cases symbol
        rw [ih normal.tail normal'.tail tail]
      | .param token, .text s =>
        obtain ⟨c, symbols, starts⟩ := normal'.starts_text
        rw [starts] at same
        cases same
      | .text s, .param token =>
        obtain ⟨c, symbols, starts⟩ := normal.starts_text
        rw [starts] at same
        cases same
      | .text s, .text s' =>
        have chars : s.toList.map Symbol.char = s'.toList.map Symbol.char := by
          rw [← takeWhile_symbolsOf normal, same, takeWhile_symbolsOf normal']
        obtain rfl : s = s' :=
          String.toList_inj.mp (List.map_injective_iff.mpr (fun _ _ => Symbol.char.inj) chars)
        rw [ih normal.tail normal'.tail (List.append_cancel_left same)]

/-! ## Nested statements -/

/-- Text put before a list, into its first fragment if that is a text. -/
def prependText (s : String) : List Fragment → List Fragment
  | .text first :: rest => .text (s ++ first) :: rest
  | fragments => .text s :: fragments

theorem prependText_ne_nil (s : String) (fragments : List Fragment) :
    prependText s fragments ≠ [] := by
  unfold prependText
  split <;> exact List.cons_ne_nil _ _

namespace Buffer

/-- Fragments in normal form are added as they are, if no text of theirs meets one. -/
theorem splice_apart {buffer : Buffer} {nested : List Fragment} (normal : Normal nested)
    (meets : ∀ a ∈ buffer.fragments.getLast?, ∀ b ∈ nested.head?, Fragment.Apart a b) :
    (buffer.splice nested).fragments = buffer.fragments ++ nested := by
  induction nested generalizing buffer with
  | nil => exact (List.append_nil _).symm
  | cons fragment rest ih =>
    have pushed : (buffer.push fragment).fragments = buffer.fragments ++ [fragment] := by
      cases fragment with
      | param token => rfl
      | text s =>
        rw [push, pushText, if_neg normal.ne_empty]
        obtain empty | ⟨front, last, ends⟩ | ⟨front, token, ends⟩ := ending_cases buffer.fragments
        · rw [empty]
          rfl
        · have apart := meets (.text last) (by rw [ends, List.getLast?_concat]; rfl) _ rfl
          cases apart <;> contradiction
        · rw [ends, appendText_concat_param, List.append_assoc]
          rfl
    rw [splice_cons, ih normal.tail, pushed, List.append_assoc]
    · rfl
    · rw [pushed, List.getLast?_concat]
      rintro _ ⟨⟩
      exact normal.next

/-- Behind a text, fragments in normal form are added as they are, but that a text at their head
goes on with the text before. -/
theorem splice_normal {buffer : Buffer} {before : List Fragment} {last : String}
    (ends : buffer.fragments = before ++ [.text last]) {nested : List Fragment}
    (normal : Normal nested) :
    (buffer.splice nested).fragments = before ++ prependText last nested := by
  match nested with
  | [] => exact ends
  | .param token :: rest =>
    rw [splice_apart normal, ends, List.append_assoc]
    · rfl
    · rintro _ _ _ ⟨⟩
      exact .inr rfl
  | .text s :: rest =>
    have pushed : (buffer.push (.text s)).fragments = before ++ [.text (last ++ s)] := by
      rw [push, pushText, if_neg normal.ne_empty, ends, appendText_concat_text]
    rw [splice_cons, splice_apart normal.tail, pushed, List.append_assoc]
    · rfl
    · rw [pushed, List.getLast?_concat]
      rintro _ ⟨⟩
      exact normal.next

/-- A buffer that has got a text ends in it. -/
theorem exists_ending (buffer : Buffer) {s : String} (filled : s ≠ "") :
    ∃ before lead, (buffer.push (.text s)).fragments = before ++ [.text (lead ++ s)] := by
  rw [push, pushText, if_neg filled]
  obtain empty | ⟨front, last, ends⟩ | ⟨front, token, ends⟩ := ending_cases buffer.fragments
  · exact ⟨[], "", by rw [empty, String.empty_append]; rfl⟩
  · exact ⟨front, last, by rw [ends, appendText_concat_text]⟩
  · refine ⟨buffer.fragments, "", ?_⟩
    rw [ends, appendText_concat_param, String.empty_append, List.append_assoc]
    rfl

theorem lengthen_appendText (s more : String) (fragments : List Fragment) :
    lengthen more (appendText s fragments) = appendText (s ++ more) fragments := by
  obtain rfl | ⟨front, last, rfl⟩ | ⟨front, token, rfl⟩ := ending_cases fragments
  · rfl
  · simp [appendText_concat_text, String.append_assoc]
  · rw [appendText_concat_param, appendText_concat_param, ← List.singleton_append,
      ← List.append_assoc, lengthen_concat_text, List.append_assoc]
    rfl

theorem appendText_prependText (lead tail : String) (fragments : List Fragment) :
    appendText tail (prependText lead fragments) =
      prependText lead (appendText tail fragments) := by
  match fragments with
  | [] => rfl
  | [.text s] => simp [prependText, appendText, String.append_assoc]
  | .text s :: next :: rest => rfl
  | .param token :: rest => rfl

end Buffer

namespace Builder

/-- What is written into the body of WHERE stays in the statement. -/
theorem extends_render (b : Builder) :
    ∃ buffer : Buffer,
      Extends (buffer.splice (b.conditions.flatMap Condition.pieces)).fragments b.render := by
  have body (front : Buffer) : ∃ buffer : Buffer,
      whereClause front b.conditions = buffer.splice (b.conditions.flatMap Condition.pieces) := by
    unfold whereClause
    split
    · next none => exact ⟨front, by rw [List.isEmpty_iff.mp none]; rfl⟩
    · exact ⟨_, Condition.writeAll_eq_splice _ _⟩
  obtain ⟨buffer, written⟩ := body
    ((b.selectClause.pushOptional b.sources.clause).pushOptional (Join.clause b.joins))
  refine ⟨buffer, ?_⟩
  rw [← written]
  exact ((Buffer.extends_pushOptional _ _).trans (Buffer.extends_pushOptional _ _)).trans
    (Buffer.extends_pushOptional _ _)

/-- A nested statement in normal form stands in the statement as it is, between parentheses that
belong to the text before and behind. -/
theorem exists_nested {b : Builder} {field : Option String} {nested : List Fragment}
    (normal : Normal nested) (member : .subQuery field nested ∈ b.conditions) :
    ∃ before lead tail behind, b.render =
      before ++ prependText (lead ++ "(") (Buffer.appendText (")" ++ tail) nested) ++ behind := by
  obtain ⟨buffer, grown⟩ := b.extends_render
  obtain ⟨front, back, conditions⟩ := List.append_of_mem member
  obtain ⟨ahead, after, pieces⟩ : ∃ ahead after, b.conditions.flatMap Condition.pieces =
      ahead ++ .text "(" :: (nested ++ .text ")" :: after) := by
    refine ⟨front.flatMap Condition.pieces ++ (field.map fun f => .text (f ++ " in ")).toList,
      back.flatMap Condition.pieces, ?_⟩
    simp [conditions, Condition.pieces]
  rw [pieces, Buffer.splice_append, Buffer.splice_cons, Buffer.splice_append,
    Buffer.splice_cons] at grown
  obtain ⟨before, lead, opened⟩ := (buffer.splice ahead).exists_ending (s := "(") (by decide)
  have inner := Buffer.splice_normal opened normal
  have closed (last : Buffer) : (last.push (.text ")")).fragments =
      Buffer.appendText ")" last.fragments := rfl
  obtain ⟨tail, behind, whole⟩ := (Buffer.extends_splice _ after).trans grown
  rw [closed, inner, Buffer.lengthen_appendText,
    Buffer.appendText_append _ _ (prependText_ne_nil _ _), Buffer.appendText_prependText] at whole
  exact ⟨before, lead, tail, behind, whole⟩

/-- A statement is rendered in normal form, whatever the builder holds, so two builders whose texts
agree character by character and reference by reference are rendered to equal fragments. A nested
statement in normal form keeps it under new names, and stands as it is in every statement that it is
part of. -/
theorem rendered_normal :
    (∀ b : Builder, Normal b.render) ∧
      (∀ b b' : Builder, symbolsOf b.render = symbolsOf b'.render ↔ b.render = b'.render) ∧
      ∀ (nested : List Fragment) (renames : Table Token Token), Normal nested →
        let renamed := nested.map (Fragment.rename renames)
        Normal renamed ∧ ∀ (b : Builder) (field : Option String),
          .subQuery field renamed ∈ b.conditions → ∃ before lead tail behind, b.render =
            before ++ prependText (lead ++ "(") (Buffer.appendText (")" ++ tail) renamed) ++
              behind := by
  refine ⟨normal_render, fun b b' => ⟨?_, congrArg symbolsOf⟩, fun nested renames normal => ?_⟩
  · exact eq_of_symbolsOf b.normal_render b'.normal_render
  · have renamed := (normal_rename renames nested).mpr normal
    exact ⟨renamed, fun b field => exists_nested renamed⟩

/-- A statement with a reference in its middle. -/
def ownedBy : List Fragment := [.text "SELECT id FROM t WHERE owner = ", .param (.own 0), .text " "]

/-- The statement under the name that a parent gives its token, with one more condition behind. -/
def holdsOwned : Builder :=
  { conditions := [.nullTest "x" true, .subQuery (some "id")
      (ownedBy.map (Fragment.rename ⟨[(.own 0, .merged (.own 0) 0)]⟩)), .parenthesis .closing] }

/-- A builder that holds one text, cut in pieces, as its nested statement. -/
def holdsPieces (pieces : List String) : Builder :=
  { conditions := [.subQuery none (pieces.map .text)] }

theorem rendered_normal_owned :
    Normal holdsOwned.render ∧
      (holdsPieces ["SEL", "", "ECT 1"]).render = (holdsPieces ["SELECT 1"]).render ∧
      Normal ownedBy ∧
      ∃ before lead tail behind, holdsOwned.render = before ++
        [.text (lead ++ "(" ++ "SELECT id FROM t WHERE owner = "), .param (.merged (.own 0) 0),
          .text (" " ++ (")" ++ tail))] ++ behind := by
  obtain ⟨normal, determined, nested⟩ := rendered_normal
  have ownedNormal : Normal ownedBy := by decide
  obtain ⟨_, kept⟩ := nested ownedBy ⟨[(.own 0, .merged (.own 0) 0)]⟩ ownedNormal
  refine ⟨normal holdsOwned, (determined _ _).mp (by decide), ownedNormal, ?_⟩
  exact kept holdsOwned (some "id") (List.mem_cons_of_mem _ List.mem_cons_self)

end Builder

end BoundQuery

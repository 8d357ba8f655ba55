import BoundQuery.Proofs.Expansion
import Mathlib.Data.List.Nodup

/-!
# The positional form in closed form

A positional text is a row of atoms: characters, and places that hold one value each. Numbering the
places from left to right gives the text, collecting them gives the values. If a statement refers
to distinct tokens and binds all of them, its positional form is that of its atoms, so nothing is
left of the tokens.

Results:
1. `Atom.text_ofValue` / `Atom.values_ofValue`: what a bound value stands for, a list item by item.
2. `Placement.run_eq`: the run over fragments writes their atoms, one place after another.
3. `Statement.toPositional_eq`: the positional form of a statement is `layOut` of its atoms.
-/

namespace BoundQuery

/-- A character of a positional text, or the place of a value. -/
inductive Atom where
  | char (c : Char)
  | place (v : Value)

namespace Atom

def ofText (s : String) : List Atom := s.toList.map .char

/-- What a bound value stands for: a place, or places in parentheses for a list. -/
def ofValue : Value → List Atom
  | .list items =>
    ofText "(" ++ (ofText ", ").intercalate (items.map fun v => [.place v]) ++ ofText ")"
  | v => [.place v]

/-- The text, if places are numbered from `start` on. -/
def text (start : Nat) : List Atom → List Char
  | [] => []
  | .char c :: rest => c :: text start rest
  | .place _ :: rest => (positionText start).toList ++ text (start + 1) rest

/-- The values of the places, from left to right. -/
def values : List Atom → List Value
  | [] => []
  | .char _ :: rest => values rest
  | .place v :: rest => v :: values rest

@[simp] theorem values_append (front back : List Atom) :
    values (front ++ back) = values front ++ values back := by
  fun_induction values front with
  | case1 => rfl
  | case2 c rest ih => exact ih
  | case3 v rest ih => rw [List.cons_append, values, ih, List.cons_append]

/-- The numbers of the places behind go on where those in front end. -/
theorem text_append (start : Nat) (front back : List Atom) :
    text start (front ++ back) = text start front ++ text (start + (values front).length) back := by
  fun_induction text start front with
  | case1 => rfl
  | case2 start c rest ih => rw [List.cons_append, text, ih, values, List.cons_append]
  | case3 start v rest ih =>
    rw [List.cons_append, text, ih, values, List.length_cons, List.append_assoc]
    congr 3
    omega

@[simp] theorem ofText_append (s t : String) : ofText (s ++ t) = ofText s ++ ofText t := by
  simp [ofText]

@[simp] theorem ofText_empty : ofText "" = [] := rfl

@[simp] theorem values_ofText (s : String) : values (ofText s) = [] := by
  rw [ofText]
  induction s.toList with
  | nil => rfl
  | cons c rest ih => exact ih

@[simp] theorem text_ofText (start : Nat) (s : String) : text start (ofText s) = s.toList := by
  rw [ofText]
  induction s.toList with
  | nil => rfl
  | cons c rest ih => rw [List.map_cons, text, ih]

/-- Places with a separator between: their numbers, with the separator between. -/
theorem text_intercalate (separator : String) (start : Nat) (items : List Value) :
    text start ((ofText separator).intercalate (items.map fun v => [.place v])) =
      separator.toList.intercalate
        ((List.range' start items.length).map fun n => (positionText n).toList) := by
  induction items generalizing start with
  | nil => rfl
  | cons v rest ih =>
    cases rest with
    | nil => simp [text]
    | cons w rest =>
      have tail := ih (start + 1)
      simp only [List.map_cons, List.length_cons, List.range'_succ] at tail ⊢
      rw [List.intercalate_cons_cons, List.intercalate_cons_cons, List.append_assoc,
        List.singleton_append, text, text_append, text_ofText, values_ofText, List.length_nil,
        Nat.add_zero, tail, List.append_assoc]

theorem values_intercalate (separator : String) (items : List Value) :
    values ((ofText separator).intercalate (items.map fun v => [.place v])) = items := by
  induction items with
  | nil => rfl
  | cons v rest ih =>
    cases rest with
    | nil => rfl
    | cons w rest =>
      simp only [List.map_cons] at ih ⊢
      rw [List.intercalate_cons_cons, values_append, values_append, ih, values_ofText]
      rfl

@[simp] theorem values_ofValue (v : Value) : values (ofValue v) = v.expansion := by
  cases v with
  | list items =>
    rw [ofValue, values_append, values_append, values_intercalate, values_ofText, values_ofText,
      List.nil_append, List.append_nil]
    rfl
  | _ => rfl

theorem text_ofValue (start : Nat) (v : Value) :
    text start (ofValue v) = (positionsText start v).toList := by
  cases v with
  | list items =>
    rw [ofValue, text_append, text_append, text_intercalate, positionsText]
    simp [String.toList_intercalate, Function.comp_def]
  | _ => simp [ofValue, text, positionsText]

end Atom

/-! ## Atoms of fragments -/

/-- What a fragment stands for, if each token stands for some atoms. -/
def Fragment.atoms (reading : Token → List Atom) : Fragment → List Atom
  | text s => Atom.ofText s
  | param token => reading token

/-- What a fragment list stands for. -/
def atomsOf (reading : Token → List Atom) (fragments : List Fragment) : List Atom :=
  fragments.flatMap (Fragment.atoms reading)

/-- A token read as the value it is bound to, and as nothing if it is bound to none. -/
def readValue (value? : Token → Option Value) (token : Token) : List Atom :=
  (value? token).elim [] Atom.ofValue

/-- A token read as its placeholder. -/
def readName (token : Token) : List Atom := Atom.ofText token.placeholder

theorem atomsOf_cons (reading : Token → List Atom) (fragment : Fragment) (rest : List Fragment) :
    atomsOf reading (fragment :: rest) = fragment.atoms reading ++ atomsOf reading rest := rfl

theorem atomsOf_congr {reading reading' : Token → List Atom} {fragments : List Fragment}
    (same : ∀ token ∈ tokensOf fragments, reading token = reading' token) :
    atomsOf reading fragments = atomsOf reading' fragments := by
  induction fragments with
  | nil => rfl
  | cons fragment rest ih =>
    cases fragment with
    | text s => rw [atomsOf_cons, atomsOf_cons, ih same]; rfl
    | param token =>
      rw [atomsOf_cons, atomsOf_cons, ih fun t member => same t (List.mem_cons_of_mem _ member)]
      exact congrArg (· ++ _) (same token List.mem_cons_self)

theorem atomsOf_rename (reading : Token → List Atom) (renames : Table Token Token)
    (fragments : List Fragment) :
    atomsOf reading (fragments.map (Fragment.rename renames)) =
      atomsOf (fun token => reading ((renames.find? token).getD token)) fragments := by
  induction fragments with
  | nil => rfl
  | cons fragment rest ih =>
    rw [List.map_cons, atomsOf_cons, atomsOf_cons, ih]
    cases fragment <;> rfl

/-- The named text is the row of atoms in which each token is its placeholder. -/
theorem text_atomsOf_readName (start : Nat) (fragments : List Fragment) :
    Atom.text start (atomsOf readName fragments) = (renderText fragments).toList := by
  have plain (s : String) (back : List Atom) :
      Atom.text start (Atom.ofText s ++ back) = s.toList ++ Atom.text start back := by
    rw [Atom.text_append, Atom.text_ofText, Atom.values_ofText]
    rfl
  induction fragments with
  | nil => simp [atomsOf, Atom.text, renderText]
  | cons fragment rest ih =>
    rw [atomsOf_cons]
    cases fragment with
    | text s =>
      rw [Fragment.atoms, plain, ih]
      simp [renderText, Fragment.render]
    | param token =>
      rw [Fragment.atoms, readName, plain, ih]
      simp [renderText, Fragment.render]

/-- The values of a fragment list in positional form: those of its tokens, lists expanded. -/
theorem values_atomsOf (value? : Token → Option Value) (fragments : List Fragment) :
    Atom.values (atomsOf (readValue value?) fragments) =
      (tokensOf fragments).flatMap fun token => (value? token).elim [] Value.expansion := by
  induction fragments with
  | nil => rfl
  | cons fragment rest ih =>
    rw [atomsOf_cons, Atom.values_append, ih]
    cases fragment with
    | text s => rw [Fragment.atoms, Atom.values_ofText]; rfl
    | param token =>
      rw [Fragment.atoms, readValue, tokensOf_param, List.flatMap_cons]
      cases value? token with
      | none => rfl
      | some v => exact congrArg (· ++ _) (Atom.values_ofValue v)

/-! ## The run of a placement -/

namespace Placement

theorem size_append (values : Array Value) (more : List Value) :
    (values ++ more).size = values.size + more.length := by
  rw [← Array.length_toList, Array.toList_appendList, List.length_append, Array.length_toList]

theorem append_append (values : Array Value) (front back : List Value) :
    values ++ front ++ back = values ++ (front ++ back) := by
  rw [← Array.toList_inj]
  simp

/-- Fragments that refer to distinct new tokens, all of them bound, are written atom by atom. -/
theorem run_eq {s : Statement} {p : Placement} {fragments : List Fragment}
    (distinct : (tokensOf fragments).Nodup)
    (new : ∀ token ∈ tokensOf fragments, Table.lookup token p.placed = none)
    (bound : ∀ token ∈ tokensOf fragments, ∃ v, s.value? token = some v) :
    ∃ placed, run s p fragments =
      .ok ⟨p.sql ++ String.ofList
          (Atom.text (p.values.size + 1) (atomsOf (readValue s.value?) fragments)),
        p.values ++ Atom.values (atomsOf (readValue s.value?) fragments), placed⟩ := by
  induction fragments generalizing p with
  | nil => exact ⟨p.placed, by simp [run, atomsOf, Atom.text, Atom.values]⟩
  | cons fragment rest ih =>
    cases fragment with
    | text t =>
      obtain ⟨placed, went⟩ := ih (p := { p with sql := p.sql ++ t }) distinct new bound
      refine ⟨placed, went.trans ?_⟩
      rw [atomsOf_cons, Fragment.atoms, Atom.text_append, Atom.values_append, Atom.text_ofText,
        Atom.values_ofText]
      simp [String.append_assoc]
    | param token =>
      obtain ⟨v, value⟩ := bound token List.mem_cons_self
      rw [tokensOf_param, List.nodup_cons] at distinct
      let positions := positionsText (p.values.size + 1) v
      let q : Placement :=
        ⟨p.sql ++ positions, p.values ++ v.expansion, (token, positions) :: p.placed⟩
      have here : step s p (.param token) = .ok q := by
        simp only [step, new token List.mem_cons_self, value, pushValue_eq]
        rfl
      have still : ∀ other ∈ tokensOf rest, Table.lookup other q.placed = none := by
        intro other member
        have differ : token ≠ other := by
          rintro rfl
          exact distinct.1 member
        rw [Table.lookup, if_neg differ]
        exact new other (List.mem_cons_of_mem _ member)
      obtain ⟨placed, went⟩ :=
        ih distinct.2 still fun other member => bound other (List.mem_cons_of_mem _ member)
      have read : readValue s.value? token = Atom.ofValue v := by rw [readValue, value]; rfl
      have size : q.values.size + 1 = p.values.size + 1 + v.expansion.length := by
        rw [size_append]
        omega
      refine ⟨placed, ?_⟩
      rw [run, here]
      refine went.trans ?_
      rw [atomsOf_cons, Fragment.atoms, read, Atom.text_append, Atom.values_append,
        Atom.text_ofValue, Atom.values_ofValue, size]
      simp [q, positions, String.append_assoc, append_append]

end Placement

/-- The positional form of a row of atoms, for at most `max` values. -/
def layOut (max : Nat) (atoms : List Atom) : Except StatementError Positional :=
  if max < (Atom.values atoms).length then
    .error (.tooManyParameters (Atom.values atoms).length max)
  else .ok ⟨String.ofList (Atom.text 1 atoms), Atom.values atoms⟩

/-- If a statement refers to no token twice and binds all it refers to, its positional form depends
on nothing but the atoms it stands for. -/
theorem Statement.toPositional_eq {s : Statement} (distinct : (tokensOf s.fragments).Nodup)
    (bound : ∀ token ∈ tokensOf s.fragments, ∃ v, s.value? token = some v) (max : Nat) :
    s.toPositional max = layOut max (atomsOf (readValue s.value?) s.fragments) := by
  obtain ⟨placed, went⟩ := Placement.run_eq (p := {}) distinct (fun _ _ => rfl) bound
  rw [Statement.toPositional, went, layOut]
  simp

end BoundQuery

import BoundQuery.Proofs.Validity

/-!
# What a connection string tells

The parts of the URL of a database are written one after another as they are, with marks between
them. A part may hold such marks itself, and then the same text can be divided in another way.

Results:
1. `append_mark_eq_iff` / `address_eq_iff`: two ways to divide a text, at a mark or at a port.
2. `connectionString_eq_iff`: settings with the same string have the same parts, or for one of
   them a mark stands earlier, inside a part of the other.
3. `Unmistakable.sameParts` / `unmistakable_of_identified`: which valid settings share their string
   with no other valid ones.
4. `connectionString_identifies`: what the string tells; passwords alone may hold any marks.
-/

namespace BoundQuery

/-! ## Texts with marks -/

section Marks

variable {mark : Char} {front back a b c d : List Char}

/-- A mark that is not in the front part of a text stands behind it. -/
theorem exists_of_append_eq (absent : mark ∉ front) (same : front ++ back = a ++ mark :: b) :
    ∃ rest, a = front ++ rest ∧ back = rest ++ mark :: b := by
  rcases List.append_eq_append_iff.mp same with ⟨rest, a_eq, back_eq⟩ | ⟨rest, front_eq, back_eq⟩
  · exact ⟨rest, a_eq, back_eq⟩
  · cases rest with
    | nil => exact ⟨[], by simpa using front_eq.symm, by simpa using back_eq.symm⟩
    | cons x rest =>
      obtain rfl : mark = x := (List.cons.inj back_eq).1
      exact absurd (front_eq ▸ List.mem_append_right a List.mem_cons_self) absent

/-- A text is divided at a mark in two ways: they are the same, or one mark stands earlier and so in
the front part of the other. -/
theorem append_mark_eq_iff : a ++ mark :: b = c ++ mark :: d ↔
    (a = c ∧ b = d) ∨ (∃ rest, c = a ++ mark :: rest ∧ b = rest ++ mark :: d) ∨
      ∃ rest, a = c ++ mark :: rest ∧ d = rest ++ mark :: b := by
  constructor
  · intro same
    rcases List.append_eq_append_iff.mp same with ⟨rest, c_eq, b_eq⟩ | ⟨rest, a_eq, d_eq⟩
    · cases rest with
      | nil => exact .inl ⟨by simpa using c_eq.symm, by simpa using b_eq⟩
      | cons x rest =>
        obtain ⟨rfl, behind⟩ := List.cons.inj b_eq
        exact .inr (.inl ⟨rest, c_eq, behind⟩)
    · cases rest with
      | nil => exact .inl ⟨by simpa using a_eq, by simpa using d_eq.symm⟩
      | cons x rest =>
        obtain ⟨rfl, behind⟩ := List.cons.inj d_eq
        exact .inr (.inr ⟨rest, a_eq, behind⟩)
  · rintro (⟨rfl, rfl⟩ | ⟨rest, rfl, rfl⟩ | ⟨rest, rfl, rfl⟩)
    · rfl
    · simp
    · simp

theorem exists_of_mem_tail (member : mark ∈ a.tail) :
    ∃ front back, a = front ++ mark :: back ∧ front ≠ [] := by
  cases a with
  | nil => cases member
  | cons x rest =>
    obtain ⟨front, back, rfl⟩ := List.append_of_mem member
    exact ⟨x :: front, back, rfl, List.cons_ne_nil x front⟩

theorem exists_of_mem_dropLast (member : mark ∈ a.dropLast) :
    ∃ front back, a = front ++ mark :: back ∧ back ≠ [] := by
  have filled : a ≠ [] := by
    rintro rfl
    cases member
  obtain ⟨front, back, split⟩ := List.append_of_mem member
  refine ⟨front, back ++ [a.getLast filled], ?_, by simp⟩
  rw [← List.cons_append, ← List.append_assoc, ← split, List.dropLast_append_getLast]

end Marks

/-! ## Host, port and database -/

/-- A port between the mark behind a host and the mark in front of a database. -/
def portText (port : UInt16) : List Char := ':' :: (Text.digits port.toNat ++ ['/'])

theorem notMem_portText {mark : Char} (port : UInt16) (colon : mark ≠ ':') (slash : mark ≠ '/')
    (other : mark.isDigit = false) : mark ∉ portText port := by
  have digits : mark ∉ Text.digits port.toNat := by
    intro member
    rw [Text.isDigit_of_mem_digits member] at other
    cases other
  simp [portText, colon, slash, digits]

theorem portText_append (port : UInt16) (t : List Char) :
    portText port ++ t = ':' :: (Text.digits port.toNat ++ '/' :: t) := by
  simp [portText]

/-- A port is read up to the slash behind it. -/
theorem port_eq_of_digits {port port' : UInt16} {t t' : List Char}
    (same : Text.digits port.toNat ++ '/' :: t = Text.digits port'.toNat ++ '/' :: t') :
    port = port' ∧ t = t' := by
  have stop (s : List Char) : ∀ c ∈ ('/' :: s).head?, c.isDigit = false := by
    simp [Char.isDigit]
  have numbers := congrArg Text.readNat same
  rw [Text.readNat_digits _ (stop t), Text.readNat_digits _ (stop t')] at numbers
  simp only [Option.some.injEq, Prod.mk.injEq, List.cons.injEq, true_and] at numbers
  exact ⟨UInt16.toNat_inj.mp numbers.1, numbers.2⟩

/-- A colon behind the beginning of a port stands behind its slash as well, as no digit is one. -/
theorem exists_of_digits {port : UInt16} {t rest behind : List Char}
    (same : Text.digits port.toNat ++ '/' :: t = rest ++ ':' :: behind) :
    ∃ front, rest = Text.digits port.toNat ++ '/' :: front ∧ t = front ++ ':' :: behind := by
  have absent : ':' ∉ Text.digits port.toNat ++ ['/'] := by
    intro member
    rcases List.mem_append.mp member with digit | slash
    · exact absurd (Text.isDigit_of_mem_digits digit) (by decide)
    · exact absurd slash (by decide)
  obtain ⟨front, rest_eq, t_eq⟩ := exists_of_append_eq absent ((List.append_assoc ..).trans same)
  exact ⟨front, by rw [rest_eq, List.append_assoc, List.singleton_append], t_eq⟩

/-- Host, port and database in one text: they are the same, or one host goes on with the port of the
other text. -/
theorem address_eq_iff {h h' t t' : List Char} {port port' : UInt16} :
    h ++ (portText port ++ t) = h' ++ (portText port' ++ t') ↔
      (h = h' ∧ port = port' ∧ t = t') ∨
        (∃ rest, h' = h ++ (portText port ++ rest) ∧ t = rest ++ (portText port' ++ t')) ∨
        ∃ rest, h = h' ++ (portText port' ++ rest) ∧ t' = rest ++ (portText port ++ t) := by
  constructor
  · intro same
    rw [portText_append, portText_append] at same
    rcases append_mark_eq_iff.mp same with
      ⟨hosts, ports⟩ | ⟨rest, later, behind⟩ | ⟨rest, later, behind⟩
    · exact .inl ⟨hosts, port_eq_of_digits ports⟩
    · obtain ⟨front, rfl, t_eq⟩ := exists_of_digits behind
      refine .inr (.inl ⟨front, ?_, ?_⟩)
      · rw [later, portText_append]
      · rw [t_eq, portText_append]
    · obtain ⟨front, rfl, t_eq⟩ := exists_of_digits behind
      refine .inr (.inr ⟨front, ?_, ?_⟩)
      · rw [later, portText_append]
      · rw [t_eq, portText_append]
  · rintro (⟨rfl, rfl, rfl⟩ | ⟨rest, rfl, rfl⟩ | ⟨rest, rfl, rfl⟩)
    · rfl
    · simp
    · simp

/-- An address with another one behind an at sign: the sign is in the host and not its end, or the
other port is in the database. -/
theorem at_or_port_of_address {h t front h' t' : List Char} {port port' : UInt16} (filled : h' ≠ [])
    (same : h ++ (portText port ++ t) = front ++ '@' :: (h' ++ (portText port' ++ t'))) :
    '@' ∈ h.dropLast ∨ ∃ before, t = before ++ (portText port' ++ t') := by
  have absent : '@' ∉ portText port := notMem_portText port (by decide) (by decide) (by decide)
  rcases List.append_eq_append_iff.mp same with ⟨rest, _, behind⟩ | ⟨rest, host_eq, behind⟩
  · obtain ⟨before, _, t_eq⟩ := exists_of_append_eq absent behind
    exact .inr ⟨before ++ '@' :: h', by simp [t_eq]⟩
  · rcases rest with _ | ⟨x, _ | ⟨y, rest⟩⟩
    · exact absurd (List.cons.inj behind).1 (by decide)
    · -- The sign is the last character of the host, so the other host begins with a port.
      have empty : [] ++ (portText port ++ t) = h' ++ (portText port' ++ t') :=
        (List.cons.inj behind).2.symm
      rcases address_eq_iff.mp empty with ⟨none, _⟩ | ⟨before, _, t_eq⟩ | ⟨before, none, _⟩
      · exact absurd none.symm filled
      · exact .inr ⟨before, t_eq⟩
      · exact absurd (List.append_eq_nil_iff.mp none.symm).1 filled
    · obtain rfl : '@' = x := (List.cons.inj behind).1
      exact .inl (by simp [host_eq])

namespace DatabaseSettings

/-- What the URL has behind its at sign. -/
def address (d : DatabaseSettings) : List Char :=
  d.host.toList ++ (portText d.port ++ d.database.toList)

theorem toList_connectionString (d : DatabaseSettings) :
    d.connectionString.toList = "postgresql://".toList ++
      (d.username.toList ++ ':' :: (d.password.toList ++ '@' :: d.address)) := by
  unfold connectionString
  simp [address, portText, Text.digits]

/-- Settings that agree in all that is written. -/
structure SameParts (d e : DatabaseSettings) : Prop where
  username : d.username = e.username
  password : d.password = e.password
  host : d.host = e.host
  port : d.port = e.port
  database : d.database = e.database

/-- Two settings divide one text in different ways. At the first mark where they differ, that of `d`
stands earlier, inside a part of `e`. -/
inductive DividesEarlier (d e : DatabaseSettings) : Prop
  | username {rest : List Char} :
      e.username.toList = d.username.toList ++ ':' :: rest →
      d.password.toList ++ '@' :: d.address =
        rest ++ ':' :: (e.password.toList ++ '@' :: e.address) →
      DividesEarlier d e
  | password {rest : List Char} :
      d.username = e.username →
      e.password.toList = d.password.toList ++ '@' :: rest →
      d.address = rest ++ '@' :: e.address →
      DividesEarlier d e
  | host {rest : List Char} :
      d.username = e.username → d.password = e.password →
      e.host.toList = d.host.toList ++ (portText d.port ++ rest) →
      d.database.toList = rest ++ (portText e.port ++ e.database.toList) →
      DividesEarlier d e

theorem connectionString_eq_iff_text {d e : DatabaseSettings} :
    d.connectionString = e.connectionString ↔
      d.username.toList ++ ':' :: (d.password.toList ++ '@' :: d.address) =
        e.username.toList ++ ':' :: (e.password.toList ++ '@' :: e.address) := by
  rw [← String.toList_inj, toList_connectionString, toList_connectionString,
    List.append_cancel_left_eq]

theorem SameParts.connectionString_eq {d e : DatabaseSettings} (same : SameParts d e) :
    d.connectionString = e.connectionString := by
  rw [connectionString_eq_iff_text, address, address, same.username, same.password, same.host,
    same.port, same.database]

theorem DividesEarlier.connectionString_eq {d e : DatabaseSettings} (earlier : DividesEarlier d e) :
    d.connectionString = e.connectionString := by
  rw [connectionString_eq_iff_text]
  cases earlier with
  | username later behind => exact append_mark_eq_iff.mpr (.inr (.inl ⟨_, later, behind⟩))
  | password usernames later behind =>
    rw [usernames, append_mark_eq_iff.mpr (.inr (.inl ⟨_, later, behind⟩))]
  | host usernames passwords later behind =>
    rw [usernames, passwords, address, address,
      address_eq_iff.mpr (.inr (.inl ⟨_, later, behind⟩))]

/-- Two settings have the same string if they have the same parts, or if one of them divides the
text of the other earlier, and in no other way. -/
theorem connectionString_eq_iff {d e : DatabaseSettings} :
    d.connectionString = e.connectionString ↔
      SameParts d e ∨ DividesEarlier d e ∨ DividesEarlier e d := by
  constructor
  · intro same
    rw [connectionString_eq_iff_text] at same
    rcases append_mark_eq_iff.mp same with
      ⟨usernames, behind⟩ | ⟨rest, later, behind⟩ | ⟨rest, later, behind⟩
    · have usernames := String.toList_inj.mp usernames
      rcases append_mark_eq_iff.mp behind with
        ⟨passwords, addresses⟩ | ⟨rest, later, behind⟩ | ⟨rest, later, behind⟩
      · have passwords := String.toList_inj.mp passwords
        rcases address_eq_iff.mp addresses with
          ⟨hosts, ports, databases⟩ | ⟨rest, later, behind⟩ | ⟨rest, later, behind⟩
        · exact .inl ⟨usernames, passwords, String.toList_inj.mp hosts, ports,
            String.toList_inj.mp databases⟩
        · exact .inr (.inl (.host usernames passwords later behind))
        · exact .inr (.inr (.host usernames.symm passwords.symm later behind))
      · exact .inr (.inl (.password usernames later behind))
      · exact .inr (.inr (.password usernames.symm later behind))
    · exact .inr (.inl (.username later behind))
    · exact .inr (.inr (.username later behind))
  · rintro (same | earlier | earlier)
    · exact same.connectionString_eq
    · exact earlier.connectionString_eq
    · exact earlier.connectionString_eq.symm

/-! ## Settings that their string identifies -/

/-- No mark stands in a part where it could be taken for the one in front of that part or behind it.
At the edge of a part it cannot, where nothing would be left of a part that must not be empty. -/
structure Unmistakable (d : DatabaseSettings) : Prop where
  username : ':' ∉ d.username.toList.tail
  password : ':' ∉ d.password.toList ∧ '@' ∉ d.password.toList
  host : '@' ∉ d.host.toList.dropLast
  portInHost : ∀ (port : UInt16) (before behind : List Char), port ≠ 0 →
    d.host.toList = before ++ (portText port ++ behind) → before = []
  portInDatabase : ∀ (port : UInt16) (before behind : List Char), port ≠ 0 →
    d.database.toList = before ++ (portText port ++ behind) → behind = []

theorem passes_iff_valid (d : DatabaseSettings) :
    d.defect? = none ↔ ({ database := d } : AppSettings).Valid := by
  have limit : ({} : QuerySettings).defect? = none := by decide
  rw [← AppSettings.defect?_eq_none_iff, AppSettings.defect?, limit, Option.or_none]

/-- What validation says about the parts of a string: nothing but that four of them are there. -/
theorem filled_of_passes {d : DatabaseSettings} (passes : d.defect? = none) :
    d.username.toList ≠ [] ∧ d.host.toList ≠ [] ∧ d.port ≠ 0 ∧ d.database.toList ≠ [] := by
  have valid := (passes_iff_valid d).mp passes
  refine ⟨?_, ?_, valid.port, ?_⟩
  · exact mt String.toList_eq_nil_iff.mp valid.username
  · exact mt String.toList_eq_nil_iff.mp valid.host
  · exact mt String.toList_eq_nil_iff.mp valid.database

/-- The address of unmistakable settings holds no other one behind an at sign. -/
theorem Unmistakable.address_ne {d e : DatabaseSettings} (unmistakable : d.Unmistakable)
    (passes : e.defect? = none) (front : List Char) : d.address ≠ front ++ '@' :: e.address := by
  intro same
  obtain ⟨_, host, port, database⟩ := filled_of_passes passes
  rcases at_or_port_of_address host same with inHost | ⟨before, inDatabase⟩
  · exact unmistakable.host inHost
  · exact database (unmistakable.portInDatabase e.port before _ port inDatabase)

theorem Unmistakable.not_dividesEarlier {d e : DatabaseSettings} (unmistakable : d.Unmistakable)
    (passes : e.defect? = none) : ¬DividesEarlier d e := by
  intro earlier
  cases earlier with
  | @username rest later behind =>
    -- The mark is not in the password, so it is in the address, with the rest behind it.
    have absent : ':' ∉ d.password.toList ++ ['@'] := by
      simp [unmistakable.password.1]
    have divided : (d.password.toList ++ ['@']) ++ d.address =
        rest ++ ':' :: (e.password.toList ++ '@' :: e.address) := by
      rw [List.append_assoc]
      exact behind
    obtain ⟨front, _, address⟩ := exists_of_append_eq absent divided
    refine unmistakable.address_ne passes (front ++ ':' :: e.password.toList) ?_
    rw [address, List.append_assoc, List.cons_append]
  | password _ _ behind => exact unmistakable.address_ne passes _ behind
  | host _ _ _ behind =>
    obtain ⟨_, _, port, database⟩ := filled_of_passes passes
    exact database (unmistakable.portInDatabase e.port _ _ port behind)

theorem Unmistakable.not_divided {d e : DatabaseSettings} (unmistakable : d.Unmistakable)
    (passes : e.defect? = none) : ¬DividesEarlier e d := by
  intro earlier
  obtain ⟨username, host, port, _⟩ := filled_of_passes passes
  cases earlier with
  | username later _ =>
    refine unmistakable.username ?_
    rw [later, List.tail_append_of_ne_nil username]
    simp
  | password _ later _ => exact unmistakable.password.2 (by simp [later])
  | host _ _ later _ => exact host (unmistakable.portInHost e.port _ _ port later)

theorem Unmistakable.sameParts {d e : DatabaseSettings} (unmistakable : d.Unmistakable)
    (passes : e.defect? = none) (same : d.connectionString = e.connectionString) :
    SameParts d e := by
  rcases connectionString_eq_iff.mp same with parts | earlier | earlier
  · exact parts
  · exact absurd earlier (unmistakable.not_dividesEarlier passes)
  · exact absurd earlier (unmistakable.not_divided passes)

/-- Settings with other parts and the same pool of connections. -/
def withParts (d : DatabaseSettings) (username password host : List Char) (port : UInt16)
    (database : List Char) : DatabaseSettings :=
  { d with
    username := .ofList username, password := .ofList password, host := .ofList host
    port := port, database := .ofList database }

theorem passes_withParts {d : DatabaseSettings} (passes : d.defect? = none)
    {username password host database : List Char} {port : UInt16} (hasUsername : username ≠ [])
    (hasHost : host ≠ []) (hasPort : port ≠ 0) (hasDatabase : database ≠ []) :
    (d.withParts username password host port database).defect? = none := by
  have filled {s : List Char} (filled : s ≠ []) : String.ofList s ≠ "" := by
    simpa using filled
  have valid := (passes_iff_valid d).mp passes
  exact (passes_iff_valid _).mpr ⟨filled hasHost, hasPort, filled hasDatabase, filled hasUsername,
    valid.connections, valid.connectionTimeout, valid.limit⟩

section Identified

variable {d : DatabaseSettings} (passes : d.defect? = none)
  (identified : ∀ e : DatabaseSettings, e.defect? = none →
    d.connectionString = e.connectionString → SameParts d e)

include passes identified

/-- A string that identifies settings can only be divided into their own parts. -/
theorem parts_of_identified (username password host : List Char) (port : UInt16)
    (database : List Char) (hasUsername : username ≠ []) (hasHost : host ≠ []) (hasPort : port ≠ 0)
    (hasDatabase : database ≠ [])
    (divided : d.username.toList ++ ':' :: (d.password.toList ++ '@' :: d.address) =
      username ++ ':' :: (password ++ '@' :: (host ++ (portText port ++ database)))) :
    d.username.toList = username ∧ d.password.toList = password ∧ d.host.toList = host := by
  have same : d.connectionString =
      (d.withParts username password host port database).connectionString := by
    rw [connectionString_eq_iff_text, divided]
    simp [withParts, address]
  have parts := identified _ (passes_withParts passes hasUsername hasHost hasPort hasDatabase) same
  refine ⟨?_, ?_, ?_⟩
  · rw [parts.username, withParts, String.toList_ofList]
  · rw [parts.password, withParts, String.toList_ofList]
  · rw [parts.host, withParts, String.toList_ofList]

/-- Where a part of settings can be divided, what is behind the mark goes to the part beside it, and
the result is other valid settings with the same string. -/
theorem unmistakable_of_identified : d.Unmistakable := by
  obtain ⟨hasUsername, hasHost, hasPort, hasDatabase⟩ := filled_of_passes passes
  refine ⟨?username, ⟨?colon, ?atSign⟩, ?host, ?portInHost, ?portInDatabase⟩
  case username =>
    intro member
    obtain ⟨front, back, split, filled⟩ := exists_of_mem_tail member
    have parts := parts_of_identified passes identified front (back ++ ':' :: d.password.toList)
      d.host.toList d.port d.database.toList filled hasHost hasPort hasDatabase
      (by simp [split, address])
    simp [split] at parts
  case colon =>
    intro member
    obtain ⟨front, back, split⟩ := List.append_of_mem member
    have parts := parts_of_identified passes identified (d.username.toList ++ ':' :: front) back
      d.host.toList d.port d.database.toList (by simp) hasHost hasPort hasDatabase
      (by simp [split, address])
    simp at parts
  case atSign =>
    intro member
    obtain ⟨front, back, split⟩ := List.append_of_mem member
    have parts := parts_of_identified passes identified d.username.toList front
      (back ++ '@' :: d.host.toList) d.port d.database.toList hasUsername (by simp) hasPort
      hasDatabase (by simp [split, address])
    simp [split] at parts
  case host =>
    intro member
    obtain ⟨front, back, split, filled⟩ := exists_of_mem_dropLast member
    have parts := parts_of_identified passes identified d.username.toList
      (d.password.toList ++ '@' :: front) back d.port d.database.toList hasUsername filled hasPort
      hasDatabase (by simp [split, address])
    simp at parts
  case portInHost =>
    intro port before behind nonzero split
    by_contra filled
    have parts := parts_of_identified passes identified d.username.toList d.password.toList before
      port (behind ++ (portText d.port ++ d.database.toList)) hasUsername filled nonzero
      (by simp [hasDatabase]) (by simp [split, address])
    simp [split, portText] at parts
  case portInDatabase =>
    intro port before behind nonzero split
    by_contra filled
    have parts := parts_of_identified passes identified d.username.toList d.password.toList
      (d.host.toList ++ (portText d.port ++ before)) port behind hasUsername (by simp [hasHost])
      nonzero filled (by simp [split, address])
    simp [portText] at parts

end Identified

/-- Settings where only the password holds marks that could be taken for others. -/
structure Ordinary (d : DatabaseSettings) : Prop where
  username : ':' ∉ d.username.toList
  host : '@' ∉ d.host.toList ∧ '/' ∉ d.host.toList
  database : '@' ∉ d.database.toList

theorem Ordinary.not_dividesEarlier {d e : DatabaseSettings} (first : d.Ordinary)
    (second : e.Ordinary) : ¬DividesEarlier d e := by
  intro earlier
  cases earlier with
  | username later _ => exact second.username (by simp [later])
  | password _ _ behind =>
    have absent : '@' ∉ d.address := by
      have port : '@' ∉ portText d.port := notMem_portText _ (by decide) (by decide) (by decide)
      simp [address, first.host.1, port, first.database]
    exact absent (by simp [behind])
  | host _ _ later _ => exact second.host.2 (by simp [later, portText])

/-- What the string of settings tells. It identifies valid settings among all valid ones exactly if
they are unmistakable. It also tells ordinary settings apart, whatever their passwords are. Besides
equal parts there is only one way to have the same string: the first mark where two settings differ
stands, for one of them, inside a part of the other. -/
theorem connectionString_identifies :
    (∀ d : DatabaseSettings, d.defect? = none →
      ((∀ e : DatabaseSettings, e.defect? = none →
        d.connectionString = e.connectionString → SameParts d e) ↔ d.Unmistakable)) ∧
    (∀ d e : DatabaseSettings, d.Ordinary → e.Ordinary →
      d.connectionString = e.connectionString → SameParts d e) ∧
    ∀ d e : DatabaseSettings, d.connectionString = e.connectionString ↔
      SameParts d e ∨ DividesEarlier d e ∨ DividesEarlier e d := by
  refine ⟨fun d passes => ⟨unmistakable_of_identified passes, ?_⟩, ?_, fun d e => ?_⟩
  · intro unmistakable e passes same
    exact unmistakable.sameParts passes same
  · intro d e first second same
    rcases connectionString_eq_iff.mp same with parts | earlier | earlier
    · exact parts
    · exact absurd earlier (first.not_dividesEarlier second)
    · exact absurd earlier (second.not_dividesEarlier first)
  · exact connectionString_eq_iff

/-- A server with plain names. -/
def linksServer (password : String) : DatabaseSettings :=
  ⟨"db.internal", 5433, "links", "app", password, 1, 4, 10, 60, 0⟩

/-- With a plain password no other valid settings have its string; with marks in the password, no
other ordinary ones. -/
theorem linksServer_identified :
    (linksServer "pw").defect? = none ∧
      (∀ e : DatabaseSettings, e.defect? = none →
        (linksServer "pw").connectionString = e.connectionString →
          SameParts (linksServer "pw") e) ∧
      (linksServer "p:w@x/y").Ordinary ∧
      ∀ e : DatabaseSettings, e.Ordinary →
        (linksServer "p:w@x/y").connectionString = e.connectionString →
          SameParts (linksServer "p:w@x/y") e := by
  obtain ⟨identified, apart, _⟩ := connectionString_identifies
  have passes : (linksServer "pw").defect? = none := by decide
  have plain : (linksServer "pw").Unmistakable := by
    have host : ':' ∉ (linksServer "pw").host.toList := by decide
    have database : ':' ∉ (linksServer "pw").database.toList := by decide
    refine ⟨by decide, by decide, by decide, fun port before behind _ split => ?_,
      fun port before behind _ split => ?_⟩
    · exact absurd (by simp [split, portText]) host
    · exact absurd (by simp [split, portText]) database
  have ordinary : (linksServer "p:w@x/y").Ordinary := ⟨by decide, by decide, by decide⟩
  exact ⟨passes, (identified _ passes).mpr plain, ordinary, fun e => apart _ e ordinary⟩

/-- Settings with a mark in the username and more of them in the database. -/
def divisibleName : DatabaseSettings :=
  ⟨"e", 1, "f@g:2/d", "a:b", "c", 1, 1, 1, 0, 0⟩

/-- Settings with marks in the password. -/
def divisiblePassword : DatabaseSettings :=
  ⟨"g", 2, "d", "a", "b:c@e:1/f", 1, 1, 1, 0, 0⟩

/-- Two settings that pass validation differ in every part and have the same string. -/
theorem connectionString_ambiguous :
    divisibleName.defect? = none ∧ divisiblePassword.defect? = none ∧
      divisibleName.connectionString = "postgresql://a:b:c@e:1/f@g:2/d" ∧
      divisiblePassword.connectionString = "postgresql://a:b:c@e:1/f@g:2/d" ∧
      divisibleName.username ≠ divisiblePassword.username ∧
      divisibleName.password ≠ divisiblePassword.password ∧
      divisibleName.host ≠ divisiblePassword.host ∧
      divisibleName.port ≠ divisiblePassword.port ∧
      divisibleName.database ≠ divisiblePassword.database := by
  decide

end DatabaseSettings

end BoundQuery

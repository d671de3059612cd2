import HostBinder.Schema.Session

set_option autoImplicit false

/-!
Sessions over time: nodes are declared and the schema is read, in any order. A read is granted once the schema has
passed its check at this read or at one before; until then every read checks the schema of the moment, and a refused
read leaves no trace.
-/

namespace HostBinder

namespace Session

/-- What happens to a session. -/
inductive Action where
  | insert (n : Node)
  | read

def atReads (s : Session) : List Action → List Session
  | [] => []
  | .insert n :: rest => (s.insert n).atReads rest
  | .read :: rest => s :: s.read.2.atReads rest

end Session

/-- The schemas at the reads of a history, as its declarations alone make them. -/
def Schema.atReads (s : Schema) : List Session.Action → List Schema
  | [] => []
  | .insert n :: rest => (s.insert n).atReads rest
  | .read :: rest => s :: s.atReads rest

namespace Session

def SomePasses (ss : List Session) : Prop := ∃ s ∈ ss, s.schema.check = .ok ()

/-- How a session answers a read, where reads before have found the `earlier` sessions. -/
structure ReadsAfter (s : Session) (earlier : List Session) : Prop where
  granted_iff : (∃ schema, s.read.1 = .ok schema) ↔ SomePasses (earlier ++ [s])
  granted : ∀ schema, s.read.1 = .ok schema → schema = s.schema
  refused : ∀ report, s.read.1 = .error report → s.schema.check = .error report ∧ s.read.2 = s
  /-- After refusals alone the schema is checked as it is now. -/
  afresh : (∀ t ∈ earlier, ∃ report, t.read.1 = .error report) → s.read.1 = s.schema.check.map fun _ => s.schema
  kept : s.read.2.schema = s.schema

/-- A session that is marked as passed exactly if its schema has passed the check at one of the `earlier` reads. -/
def Remembers (s : Session) (earlier : List Session) : Prop := s.passed = true ↔ SomePasses earlier

variable {s : Session} {earlier : List Session}

@[simp] theorem somePasses_nil : ¬SomePasses [] := by simp [SomePasses]

@[simp] theorem somePasses_append_singleton :
    SomePasses (earlier ++ [s]) ↔ SomePasses earlier ∨ s.schema.check = .ok () := by
  simp [SomePasses, or_and_right, exists_or]

theorem read_of_check (hcheck : s.schema.check = .ok ()) : s.read = (.ok s.schema, { s with passed := true }) := by
  obtain ⟨schema, passed⟩ := s
  cases passed with
  | true => rfl
  | false => simp [read, hcheck]

theorem read_of_passed (hpassed : s.passed = true) : s.read = (.ok s.schema, s) := by
  rw [read, if_pos hpassed]

theorem read_of_not_passed {report : RoutedErrors Violation} (hpassed : s.passed = false)
    (hcheck : s.schema.check = .error report) : s.read = (.error report, s) := by
  rw [read, if_neg (by simp [hpassed]), hcheck]

theorem read_cases (s : Session) :
    (s.passed = true ∧ s.read = (.ok s.schema, s)) ∨
    (s.schema.check = .ok () ∧ s.read = (.ok s.schema, { s with passed := true })) ∨
    ∃ report, s.passed = false ∧ s.schema.check = .error report ∧ s.read = (.error report, s) := by
  cases hpassed : s.passed with
  | true => exact .inl ⟨rfl, read_of_passed hpassed⟩
  | false =>
    cases hcheck : s.schema.check with
    | ok => exact .inr (.inl ⟨rfl, read_of_check hcheck⟩)
    | error report => exact .inr (.inr ⟨report, rfl, rfl, read_of_not_passed hpassed hcheck⟩)

theorem read_eq_ok_iff {schema : Schema} :
    s.read.1 = .ok schema ↔ (s.passed = true ∨ s.schema.check = .ok ()) ∧ s.schema = schema := by
  rcases s.read_cases with ⟨hpassed, hread⟩ | ⟨hcheck, hread⟩ | ⟨report, hpassed, hcheck, hread⟩
  · simp [hread, hpassed]
  · simp [hread, hcheck]
  · simp [hread, hpassed, hcheck]

theorem Remembers.read (h : s.Remembers earlier) : s.read.2.Remembers (earlier ++ [s]) := by
  unfold Remembers at h ⊢
  rw [somePasses_append_singleton, ← h]
  rcases s.read_cases with ⟨hpassed, hread⟩ | ⟨hcheck, hread⟩ | ⟨report, hpassed, hcheck, hread⟩
  · simp [hread, hpassed]
  · simp [hread, hcheck]
  · simp [hread, hpassed, hcheck]

theorem schema_read (s : Session) : s.read.2.schema = s.schema := by
  rcases s.read_cases with ⟨_, hread⟩ | ⟨_, hread⟩ | ⟨_, _, _, hread⟩ <;> rw [hread]

theorem Remembers.readsAfter (h : s.Remembers earlier) : s.ReadsAfter earlier where
  granted_iff := by
    have hpassed : s.passed = true ↔ SomePasses earlier := h
    simp [← hpassed, read_eq_ok_iff]
  granted schema hread := (read_eq_ok_iff.mp hread).2.symm
  refused := by
    intro report hread
    rcases s.read_cases with ⟨_, hok⟩ | ⟨_, hok⟩ | ⟨report', _, hcheck, herror⟩
    · simp [hok] at hread
    · simp [hok] at hread
    · obtain rfl : report' = report := by simpa [herror] using hread
      exact ⟨hcheck, by rw [herror]⟩
  afresh := by
    intro hrefused
    have hpassed : s.passed = false := by
      rw [Bool.eq_false_iff]
      intro hyes
      obtain ⟨t, ht, hcheck⟩ := h.mp hyes
      obtain ⟨report, hreport⟩ := hrefused t ht
      simp [read_of_check hcheck] at hreport
    cases hcheck : s.schema.check with
    | ok => rw [read_of_check hcheck]; rfl
    | error report => rw [read_of_not_passed hpassed hcheck]; rfl
  kept := s.schema_read

/-- Each read of a history answers by the reads before it, back to where the session was last known to remember. -/
theorem readsAfter_of_atReads {actions : List Action} {past : List Session} (h : s.Remembers past)
    {earlier later : List Session} {t : Session} (hreads : s.atReads actions = earlier ++ t :: later) :
    t.ReadsAfter (past ++ earlier) := by
  induction actions generalizing s past earlier with
  | nil => simp [atReads] at hreads
  | cons action actions ih =>
    cases action with
    | insert n => exact ih (s := s.insert n) h hreads
    | read =>
      rw [atReads] at hreads
      cases earlier with
      | nil =>
        obtain ⟨rfl, _⟩ := List.cons_eq_cons.mp hreads
        rw [List.append_nil]
        exact h.readsAfter
      | cons first earlier =>
        obtain ⟨rfl, hrest⟩ := List.cons_eq_cons.mp hreads
        have hrest := ih h.read hrest
        rwa [List.append_assoc, List.singleton_append] at hrest

theorem map_schema_atReads (s : Session) (actions : List Action) :
    (s.atReads actions).map schema = s.schema.atReads actions := by
  induction actions generalizing s with
  | nil => rfl
  | cons action actions ih =>
    cases action with
    | insert n => exact ih (s.insert n)
    | read => rw [atReads, Schema.atReads, List.map_cons, ih, schema_read]

/-- In every history of a session, each read finds the schema that the declarations before it have made, and it is
granted exactly if that schema passes the check or one found by an earlier read has passed it. -/
theorem reads_check_until_passed (schema : Schema) (actions : List Action) :
    ((start schema).atReads actions).map Session.schema = schema.atReads actions ∧
      ∀ earlier s later, (start schema).atReads actions = earlier ++ s :: later → s.ReadsAfter earlier := by
  have hstart : (start schema).Remembers [] := by simp [Remembers, start]
  exact ⟨map_schema_atReads _ actions, fun _ _ _ hreads => readsAfter_of_atReads hstart hreads⟩

end Session

end HostBinder

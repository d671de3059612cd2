set_option autoImplicit false

/-!
Tables from text to values, listed in the order of their keys. Text is ordered by code points, which is also
the order of its UTF-8 bytes. Each operation is described by what it does to `get?`.
-/

namespace HostBinder

variable {α β : Type}

/-- Change the value at `k` in a list of entries in key order; an absent key gets a new entry. -/
def alterEntry (k : String) (f : Option α → α) : List (String × α) → List (String × α)
  | [] => [(k, f none)]
  | (k', x) :: rest =>
    if k < k' then (k, f none) :: (k', x) :: rest
    else if k = k' then (k, f (some x)) :: rest
    else (k', x) :: alterEntry k f rest

def KeysIncrease (entries : List (String × α)) : Prop :=
  entries.Pairwise fun a b => a.1 < b.1

theorem key_of_mem_alterEntry {k : String} {f : Option α → α} {a : String × α} :
    ∀ {entries : List (String × α)}, a ∈ alterEntry k f entries → a.1 = k ∨ a ∈ entries
  | [], h => by simp only [alterEntry, List.mem_singleton] at h; simp [h]
  | (k', x) :: rest, h => by
    rw [alterEntry] at h
    split at h
    · rcases List.mem_cons.1 h with rfl | h
      · exact Or.inl rfl
      · exact Or.inr h
    · split at h
      · rcases List.mem_cons.1 h with rfl | h
        · exact Or.inl rfl
        · exact Or.inr (List.mem_cons_of_mem _ h)
      · rcases List.mem_cons.1 h with rfl | h
        · exact Or.inr List.mem_cons_self
        · exact (key_of_mem_alterEntry h).imp_right (List.mem_cons_of_mem _)

theorem KeysIncrease.alterEntry {k : String} {f : Option α → α} :
    ∀ {entries : List (String × α)}, KeysIncrease entries → KeysIncrease (alterEntry k f entries)
  | [], _ => List.pairwise_singleton _ _
  | (k', x) :: rest, h => by
    obtain ⟨head, tail⟩ := List.pairwise_cons.1 h
    rw [HostBinder.alterEntry]
    split
    · rename_i lt
      refine List.pairwise_cons.2 ⟨fun a ha => ?_, h⟩
      rcases List.mem_cons.1 ha with rfl | ha
      · exact lt
      · exact String.lt_trans lt (head a ha)
    · rename_i nlt
      split
      · rename_i eq
        subst eq
        exact List.pairwise_cons.2 ⟨head, tail⟩
      · rename_i ne
        refine List.pairwise_cons.2 ⟨fun a ha => ?_, KeysIncrease.alterEntry tail⟩
        rcases key_of_mem_alterEntry ha with e | ha
        · show k' < a.1
          rw [e]
          exact Std.lt_of_le_of_ne (String.not_lt.1 nlt) (Ne.symm ne)
        · exact head a ha

/-- A table whose entries are listed in key order, each key once. -/
structure SortedTable (α : Type) where
  entries : List (String × α)
  increasing : KeysIncrease entries

namespace SortedTable

def empty : SortedTable α := ⟨[], List.Pairwise.nil⟩

instance : EmptyCollection (SortedTable α) := ⟨empty⟩

instance : Inhabited (SortedTable α) := ⟨empty⟩

def insert (t : SortedTable α) (k : String) (x : α) : SortedTable α :=
  ⟨alterEntry k (fun _ => x) t.entries, t.increasing.alterEntry⟩

def insertNew (t : SortedTable α) (k : String) (x : α) : SortedTable α :=
  ⟨alterEntry k (fun old => old.getD x) t.entries, t.increasing.alterEntry⟩

def get? (t : SortedTable α) (k : String) : Option α := t.entries.lookup k

def contains (t : SortedTable α) (k : String) : Bool := (t.get? k).isSome

def keys (t : SortedTable α) : List String := t.entries.map (·.1)

def size (t : SortedTable α) : Nat := t.entries.length

def isEmpty (t : SortedTable α) : Bool := t.entries.isEmpty

end SortedTable

theorem lookup_alterEntry_self (k : String) (f : Option α → α) :
    ∀ {entries : List (String × α)}, KeysIncrease entries →
      (alterEntry k f entries).lookup k = some (f (entries.lookup k))
  | [], _ => by simp [alterEntry]
  | (k', x) :: rest, h => by
    obtain ⟨head, tail⟩ := List.pairwise_cons.1 h
    rw [alterEntry]
    split
    · rename_i lt
      have absent : ((k', x) :: rest).lookup k = none := by
        rw [List.lookup_eq_none_iff]
        intro p hp
        rcases List.mem_cons.1 hp with rfl | hp
        · simpa using (Std.ne_of_lt lt)
        · simpa using (Std.ne_of_lt (String.lt_trans lt (head p hp)))
      simp [absent]
    · split
      · rename_i eq
        subst eq
        simp
      · rename_i ne
        simp only [List.lookup_cons, beq_false_of_ne ne]
        exact lookup_alterEntry_self k f tail

theorem lookup_alterEntry_of_ne {k j : String} (hne : j ≠ k) (f : Option α → α) :
    ∀ entries : List (String × α), (alterEntry k f entries).lookup j = entries.lookup j
  | [] => by simp [alterEntry, List.lookup_cons, beq_false_of_ne hne]
  | (k', x) :: rest => by
    rw [alterEntry]
    split
    · simp [List.lookup_cons, beq_false_of_ne hne]
    · split
      · rename_i eq
        subst eq
        simp [List.lookup_cons, beq_false_of_ne hne]
      · by_cases h : j = k'
        · subst h
          simp
        · simp only [List.lookup_cons, beq_false_of_ne h]
          exact lookup_alterEntry_of_ne hne f rest

namespace SortedTable

@[simp] theorem get?_empty (k : String) : (empty : SortedTable α).get? k = none := rfl

@[simp] theorem get?_insert_self (t : SortedTable α) (k : String) (x : α) : (t.insert k x).get? k = some x :=
  lookup_alterEntry_self k _ t.increasing

theorem get?_insert_of_ne (t : SortedTable α) {k j : String} (x : α) (h : j ≠ k) :
    (t.insert k x).get? j = t.get? j :=
  lookup_alterEntry_of_ne h _ t.entries

@[simp] theorem get?_insertNew_self (t : SortedTable α) (k : String) (x : α) :
    (t.insertNew k x).get? k = some ((t.get? k).getD x) :=
  lookup_alterEntry_self k _ t.increasing

theorem get?_insertNew_of_ne (t : SortedTable α) {k j : String} (x : α) (h : j ≠ k) :
    (t.insertNew k x).get? j = t.get? j :=
  lookup_alterEntry_of_ne h _ t.entries

theorem keys_pairwise (t : SortedTable α) : t.keys.Pairwise (· < ·) :=
  List.pairwise_map.2 t.increasing

theorem get?_eq_none_iff {t : SortedTable α} {k : String} : t.get? k = none ↔ k ∉ t.keys := by
  rw [get?, List.lookup_eq_none_iff, keys, List.mem_map]
  constructor
  · rintro h ⟨e, he, rfl⟩
    simpa using h e he
  · intro h e he
    simpa using fun heq => h ⟨e, he, heq.symm⟩

theorem contains_iff_mem_keys {t : SortedTable α} {k : String} : t.contains k = true ↔ k ∈ t.keys := by
  rw [contains, ← Option.not_isNone, Bool.not_eq_true', Option.isNone_eq_false_iff, Option.isSome_iff_ne_none,
    Ne, get?_eq_none_iff, Decidable.not_not]

end SortedTable

end HostBinder

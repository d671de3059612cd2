import HostBinder.Proofs.Binder.Imports
import HostBinder.Proofs.Text.ByteOrder
import Mathlib.Data.List.Sort

set_option autoImplicit false

/-!
The local names of imported types. A type goes by the last segment of its path, unless that name is reserved or given
to a type of a smaller path: then a number stands behind it, the least from two on that makes the name free. Which
names come out does not depend on the order of the declarations or of the reserved names.
-/

namespace HostBinder

open Text

/-- How a name is numbered: while the candidate is taken, the name with the next number is the candidate. -/
inductive Numbers (simple : String) (taken : List String) : String → Nat → String → Prop
  | free {candidate : String} {n : Nat} (hfree : candidate ∉ taken) : Numbers simple taken candidate n candidate
  | taken {candidate name : String} {n : Nat} (htaken : candidate ∈ taken)
      (hrest : Numbers simple taken (simple ++ toString n) (n + 1) name) : Numbers simple taken candidate n name

variable {simple : String} {taken taken' : List String}

theorem numbers_freshName (simple : String) (taken : List String) :
    Numbers simple taken simple 2 (freshName simple taken) := by
  obtain ⟨n, hname, hfree, hless⟩ := exists_least_free simple taken
  rw [hname]
  have hfrom : ∀ d k, k + d = n → Numbers simple taken (candidateName simple k) (k + 2) (candidateName simple n) := by
    intro d
    induction d with
    | zero =>
      rintro k rfl
      exact .free hfree
    | succ d ih =>
      intro k hk
      exact .taken (hless k (by omega)) (ih (k + 1) (by omega))
  exact hfrom n 0 (Nat.zero_add n)

theorem freshName_congr (h : ∀ t, t ∈ taken ↔ t ∈ taken') : freshName simple taken = freshName simple taken' := by
  obtain ⟨n, hname, hfree, hless⟩ := exists_least_free simple taken
  obtain ⟨n', hname', hfree', hless'⟩ := exists_least_free simple taken'
  rw [hname, hname']
  rcases Nat.lt_trichotomy n n' with hlt | rfl | hlt
  · exact absurd ((h _).mpr (hless' n hlt)) hfree
  · rfl
  · exact absurd ((h _).mp (hless n' hlt)) hfree'

theorem localName_of_nameImports {types : List (String × FieldDecl)} {before after : List Import} {i : Import}
    (h : nameImports taken types = before ++ i :: after) :
    i.localName = freshName i.declaration.typeName (taken ++ before.map Import.localName) := by
  induction types generalizing taken before with
  | nil => simp [nameImports] at h
  | cons e types ih =>
    obtain ⟨path, d⟩ := e
    unfold nameImports at h
    cases before with
    | nil =>
      obtain ⟨rfl, _⟩ := List.cons_eq_cons.mp h
      simp
    | cons b before =>
      obtain ⟨rfl, hrest⟩ := List.cons_eq_cons.mp h
      rw [ih hrest, List.append_assoc]
      rfl

theorem nameImports_congr {types types' : List (String × FieldDecl)} (htaken : ∀ t, t ∈ taken ↔ t ∈ taken')
    (hpaths : types.map (·.1) = types'.map (·.1)) (htypes : ∀ e ∈ types, e.2.type = e.1)
    (htypes' : ∀ e ∈ types', e.2.type = e.1) :
    (nameImports taken types).map (fun i => (i.path, i.localName)) =
      (nameImports taken' types').map fun i => (i.path, i.localName) := by
  induction types generalizing taken taken' types' with
  | nil =>
    rw [List.map_nil, eq_comm, List.map_eq_nil_iff] at hpaths
    rw [hpaths]
    rfl
  | cons e types ih =>
    cases types' with
    | nil => cases hpaths
    | cons e' types' =>
      obtain ⟨path, d⟩ := e
      obtain ⟨path', d'⟩ := e'
      obtain ⟨hpath, hrest⟩ := List.cons_eq_cons.mp hpaths
      obtain rfl : path = path' := hpath
      have hname : freshName d.typeName taken = freshName d'.typeName taken' := by
        rw [FieldDecl.typeName, FieldDecl.typeName, htypes _ List.mem_cons_self, htypes' _ List.mem_cons_self]
        exact freshName_congr htaken
      have htaken' : ∀ t, t ∈ taken ++ [freshName d.typeName taken] ↔ t ∈ taken' ++ [freshName d'.typeName taken'] := by
        intro t
        rw [hname, List.mem_append, List.mem_append, htaken]
      simp only [nameImports, List.map_cons]
      rw [hname] at htaken' ⊢
      rw [ih htaken' hrest (fun e he => htypes e (List.mem_cons_of_mem _ he))
        fun e he => htypes' e (List.mem_cons_of_mem _ he)]

theorem keys_firstByType_eq {ds ds' : List FieldDecl} (h : ds.Perm ds') :
    (firstByType ds).keys = (firstByType ds').keys := by
  refine (firstByType ds).keys_pairwise.eq_of_mem_iff (firstByType ds').keys_pairwise fun path => ?_
  rw [← not_iff_not, ← SortedTable.get?_eq_none_iff, ← SortedTable.get?_eq_none_iff, get?_firstByType,
    get?_firstByType, List.find?_eq_none, List.find?_eq_none]
  simp only [h.mem_iff]

namespace ImportTable

variable {reserved : List String} {ds : List FieldDecl} {i : Import}

/-- Whether a name is not to be had for an import: it is reserved, or a type of a smaller path has it. -/
def Denies (t : ImportTable) (reserved : List String) (i : Import) (name : String) : Prop :=
  name ∈ reserved ∨ ∃ j ∈ t.entries, utf8Bytes j.path < utf8Bytes i.path ∧ j.localName = name

/-- What is known of the imports of declared types. -/
structure Names (t : ImportTable) (reserved : List String) (ds : List FieldDecl) : Prop where
  increasing : t.entries.Pairwise fun i j => utf8Bytes i.path < utf8Bytes j.path
  declared : ∀ path, (∃ i ∈ t.entries, i.path = path) ↔ ∃ d ∈ ds, d.type = path
  first : ∀ i ∈ t.entries, ∃ before after, ds = before ++ i.declaration :: after ∧ i.declaration.type = i.path ∧
    ∀ d ∈ before, d.type ≠ i.path
  distinct : (t.entries.map Import.localName).Nodup
  unreserved : ∀ i ∈ t.entries, i.localName ∉ reserved
  /-- The numbering of each name ends, with the names of the imports ahead taken. -/
  numbers : ∀ before i after, t.entries = before ++ i :: after →
    Numbers (lastSegment i.path) (reserved ++ before.map Import.localName) (lastSegment i.path) 2 i.localName
  own : ∀ i ∈ t.entries, ¬t.Denies reserved i (lastSegment i.path) → i.localName = lastSegment i.path
  /-- Otherwise the least number from two on stands behind it that makes a name to be had. -/
  numbered : ∀ i ∈ t.entries, t.Denies reserved i (lastSegment i.path) →
    ∃ n ≥ 2, i.localName = lastSegment i.path ++ toString n ∧
      ¬t.Denies reserved i (lastSegment i.path ++ toString n) ∧
      ∀ m, 2 ≤ m → m < n → t.Denies reserved i (lastSegment i.path ++ toString m)
  /-- Other orders of the same declarations and reserved names lead to the same names. -/
  unordered : ∀ reserved' ds', reserved'.Perm reserved → ds'.Perm ds →
    (withReserved reserved' ds').entries.map (fun i => (i.path, i.localName)) =
      t.entries.map fun i => (i.path, i.localName)

theorem increasing_withReserved (reserved : List String) (ds : List FieldDecl) :
    (withReserved reserved ds).entries.Pairwise fun i j => utf8Bytes i.path < utf8Bytes j.path := by
  have hpaths := (firstByType ds).keys_pairwise
  rw [← map_path_withReserved reserved, List.pairwise_map] at hpaths
  exact hpaths.imp utf8Bytes_lt_iff.mpr

theorem typeName_of_mem (hi : i ∈ (withReserved reserved ds).entries) :
    i.declaration.typeName = lastSegment i.path := by
  rw [FieldDecl.typeName, type_of_mem_firstByType (named_of_mem_nameImports hi).1]

theorem localName_withReserved {before after : List Import}
    (h : (withReserved reserved ds).entries = before ++ i :: after) :
    i.localName = freshName (lastSegment i.path) (reserved ++ before.map Import.localName) := by
  have hi : i ∈ (withReserved reserved ds).entries := by
    rw [h]
    exact List.mem_append_right _ List.mem_cons_self
  rw [← typeName_of_mem hi]
  exact localName_of_nameImports h

theorem mem_taken_iff {before after : List Import} {name : String}
    (h : (withReserved reserved ds).entries = before ++ i :: after) :
    name ∈ reserved ++ before.map Import.localName ↔ (withReserved reserved ds).Denies reserved i name := by
  have hsorted := increasing_withReserved reserved ds
  rw [h, List.pairwise_append, List.pairwise_cons] at hsorted
  obtain ⟨_, ⟨hafter, _⟩, hbefore⟩ := hsorted
  rw [List.mem_append, List.mem_map, Denies, h]
  refine or_congr_right ⟨?_, ?_⟩
  · rintro ⟨j, hj, rfl⟩
    exact ⟨j, List.mem_append_left _ hj, hbefore j hj i List.mem_cons_self, rfl⟩
  · rintro ⟨j, hj, hlt, rfl⟩
    rcases List.mem_append.mp hj with hj | hj
    · exact ⟨j, hj, rfl⟩
    · rcases List.mem_cons.mp hj with rfl | hj
      · exact absurd hlt (List.lt_irrefl _)
      · exact absurd hlt (List.lt_asymm (hafter j hj))

theorem exists_candidate (hi : i ∈ (withReserved reserved ds).entries) :
    ∃ n, i.localName = candidateName (lastSegment i.path) n ∧
      ¬(withReserved reserved ds).Denies reserved i (candidateName (lastSegment i.path) n) ∧
      ∀ m < n, (withReserved reserved ds).Denies reserved i (candidateName (lastSegment i.path) m) := by
  obtain ⟨before, after, hsplit⟩ := List.append_of_mem hi
  obtain ⟨n, hname, hfree, hless⟩ :=
    exists_least_free (lastSegment i.path) (reserved ++ before.map Import.localName)
  rw [← localName_withReserved hsplit] at hname
  rw [mem_taken_iff hsplit] at hfree
  exact ⟨n, hname, hfree, fun m hm => (mem_taken_iff hsplit).mp (hless m hm)⟩

theorem not_denies_localName (hi : i ∈ (withReserved reserved ds).entries) :
    ¬(withReserved reserved ds).Denies reserved i i.localName := by
  obtain ⟨n, hname, hfree, _⟩ := exists_candidate hi
  rwa [hname]

theorem nodup_localName (reserved : List String) (ds : List FieldDecl) :
    ((withReserved reserved ds).entries.map Import.localName).Nodup := by
  refine List.pairwise_map.mpr ((increasing_withReserved reserved ds).imp_of_mem fun {i j} hi hj hlt heq => ?_)
  exact not_denies_localName hj (.inr ⟨i, hi, hlt, heq⟩)

/-- The imports of declared types, for any declarations and reserved names. -/
theorem withReserved_names (reserved : List String) (ds : List FieldDecl) :
    (withReserved reserved ds).Names reserved ds where
  increasing := increasing_withReserved reserved ds
  declared path := by
    rw [← isSome_get?_withReserved, isSome_get?_iff, List.mem_map]
  first i hi := by
    have hfind := find?_of_mem_firstByType (named_of_mem_nameImports hi).1
    obtain ⟨htype, before, after, hds, hbefore⟩ := List.find?_eq_some_iff_append.mp hfind
    exact ⟨before, after, hds, by simpa using htype, fun d hd => by simpa using hbefore d hd⟩
  distinct := nodup_localName reserved ds
  unreserved i hi hreserved := not_denies_localName hi (.inl hreserved)
  numbers before i after hsplit := by
    rw [localName_withReserved hsplit]
    exact numbers_freshName _ _
  own i hi hown := by
    obtain ⟨n, hname, _, hless⟩ := exists_candidate hi
    cases n with
    | zero => exact hname
    | succ n => exact absurd (hless 0 n.succ_pos) hown
  numbered i hi hdenied := by
    obtain ⟨n, hname, hfree, hless⟩ := exists_candidate hi
    cases n with
    | zero => exact absurd hdenied hfree
    | succ n =>
      refine ⟨n + 2, Nat.le_add_left 2 n, hname, hfree, fun m hm hmn => ?_⟩
      obtain ⟨k, rfl⟩ := Nat.exists_eq_add_of_le' hm
      exact hless (k + 1) (by omega)
  unordered reserved' ds' hreserved hds := by
    refine nameImports_congr (fun t => hreserved.mem_iff) (keys_firstByType_eq hds) ?_ ?_
    all_goals exact fun e he => type_of_mem_firstByType he

end ImportTable

end HostBinder

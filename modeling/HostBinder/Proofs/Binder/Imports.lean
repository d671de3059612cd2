import HostBinder.Binder.ImportTable
import HostBinder.Proofs.Schema.Ancestry
import Mathlib.Data.List.Nodup
import Mathlib.Data.List.Range

set_option autoImplicit false

namespace HostBinder

variable {path : String} {ds : List FieldDecl}

theorem candidateName_injective (simple : String) : Function.Injective (candidateName simple) := by
  have hchars : ∀ n, (candidateName simple n).toList =
      simple.toList ++ if n = 0 then [] else Nat.toDigits 10 (n + 1) := by
    intro n
    unfold candidateName
    split <;> simp
  intro m n h
  have hdigits := congrArg String.toList h
  rw [hchars, hchars, List.append_right_inj] at hdigits
  split at hdigits <;> split at hdigits
  · omega
  · exact absurd hdigits.symm Nat.toDigits_ne_nil
  · exact absurd hdigits Nat.toDigits_ne_nil
  · simpa using congrArg (fun ds => Nat.ofDigitChars 10 ds 0) hdigits

/-- The first candidate that is not taken is among those tried, as these are more than the names taken. -/
theorem exists_least_free (simple : String) (taken : List String) :
    ∃ n, freshName simple taken = candidateName simple n ∧ candidateName simple n ∉ taken ∧
      ∀ m < n, candidateName simple m ∈ taken := by
  unfold freshName
  rw [List.find?_map]
  cases hf : (List.range (taken.length + 1)).find? ((fun c => !taken.contains c) ∘ candidateName simple) with
  | none =>
    have hsubset : (List.range (taken.length + 1)).map (candidateName simple) ⊆ taken := by
      intro c hc
      obtain ⟨n, hn, rfl⟩ := List.mem_map.mp hc
      simpa using List.find?_eq_none.mp hf n hn
    have hlength := (List.nodup_range.map (candidateName_injective simple)).length_le_of_subset hsubset
    rw [List.length_map, List.length_range] at hlength
    omega
  | some n =>
    obtain ⟨hfree, _, hless⟩ := List.find?_range_eq_some.mp hf
    exact ⟨n, rfl, by simpa using hfree, fun m hm => by simpa using hless m hm⟩

theorem freshName_of_not_mem {simple : String} {taken : List String} (h : simple ∉ taken) :
    freshName simple taken = simple := by
  obtain ⟨n, hname, _, hless⟩ := exists_least_free simple taken
  cases n with
  | zero => exact hname
  | succ n => exact absurd (hless 0 n.succ_pos) h

theorem get?_foldl_insertNew (t : SortedTable FieldDecl) :
    (ds.foldl (fun t d => t.insertNew d.type d) t).get? path =
      (t.get? path).or (ds.find? fun d => d.type = path) := by
  induction ds generalizing t with
  | nil => simp
  | cons d ds ih =>
    rw [List.foldl_cons, ih]
    by_cases hd : d.type = path
    · subst hd
      cases ht : t.get? d.type <;> simp [ht]
    · simp [hd, SortedTable.get?_insertNew_of_ne t d (Ne.symm hd)]

theorem get?_firstByType (ds : List FieldDecl) (path : String) :
    (firstByType ds).get? path = ds.find? fun d => d.type = path := by
  rw [firstByType, get?_foldl_insertNew]
  rfl

theorem find?_of_mem_firstByType {d : FieldDecl} (h : (path, d) ∈ (firstByType ds).entries) :
    ds.find? (fun d => d.type = path) = some d := by
  rw [← get?_firstByType]
  exact (firstByType ds).increasing.differ.lookup_of_mem h

theorem type_of_mem_firstByType {d : FieldDecl} (h : (path, d) ∈ (firstByType ds).entries) : d.type = path := by
  simpa using List.find?_some (find?_of_mem_firstByType h)

theorem map_path_nameImports (taken : List String) (types : List (String × FieldDecl)) :
    (nameImports taken types).map Import.path = types.map (·.1) := by
  induction types generalizing taken with
  | nil => rfl
  | cons e types ih =>
    obtain ⟨path, d⟩ := e
    simp [nameImports, ih]

theorem typeName_of_nameImports {P : String → Prop} {taken : List String} {types : List (String × FieldDecl)}
    (htaken : ∀ t ∈ taken, P t) (hlocal : ∀ i ∈ nameImports taken types, P i.localName) :
    ∀ i ∈ nameImports taken types, P i.declaration.typeName := by
  induction types generalizing taken with
  | nil => simp [nameImports]
  | cons e types ih =>
    obtain ⟨path, d⟩ := e
    unfold nameImports at hlocal ⊢
    obtain ⟨hfirst, hrest⟩ := List.forall_mem_cons.mp hlocal
    rw [List.forall_mem_cons]
    refine ⟨?_, ih ?_ hrest⟩
    · by_cases hmem : d.typeName ∈ taken
      · exact htaken _ hmem
      · rwa [freshName_of_not_mem hmem] at hfirst
    · intro t ht
      rcases List.mem_append.mp ht with ht | ht
      · exact htaken t ht
      · rw [List.mem_singleton.mp ht]
        exact hfirst

theorem named_of_mem_nameImports {taken : List String} {types : List (String × FieldDecl)} {i : Import}
    (hi : i ∈ nameImports taken types) :
    (i.path, i.declaration) ∈ types ∧ ∃ n, i.localName = candidateName i.declaration.typeName n := by
  induction types generalizing taken with
  | nil => cases hi
  | cons e types ih =>
    obtain ⟨path, d⟩ := e
    unfold nameImports at hi
    rcases List.mem_cons.mp hi with rfl | hi
    · obtain ⟨n, hname, _⟩ := exists_least_free d.typeName taken
      exact ⟨List.mem_cons_self, n, hname⟩
    · obtain ⟨hmem, hname⟩ := ih hi
      exact ⟨List.mem_cons_of_mem _ hmem, hname⟩

namespace ImportTable

theorem map_path_withReserved (reserved : List String) (ds : List FieldDecl) :
    (withReserved reserved ds).entries.map Import.path = (firstByType ds).keys :=
  map_path_nameImports _ _

theorem isSome_get?_iff {t : ImportTable} :
    (t.get? path).isSome = true ↔ path ∈ t.entries.map Import.path := by
  simp [get?]

theorem isSome_get?_withReserved {reserved : List String} :
    ((withReserved reserved ds).get? path).isSome = true ↔ ∃ d ∈ ds, d.type = path := by
  rw [isSome_get?_iff, map_path_withReserved, ← SortedTable.contains_iff_mem_keys, SortedTable.contains,
    get?_firstByType]
  simp

theorem local?_of_mem {reserved : List String} {i : Import} (hi : i ∈ (withReserved reserved ds).entries) :
    (withReserved reserved ds).local? i.path = some i.localName := by
  have hnodup : ((withReserved reserved ds).entries.map Import.path).Nodup := by
    rw [map_path_withReserved]
    exact (firstByType ds).keys_pairwise.imp String.ne_of_lt
  have hsome := isSome_get?_iff.mpr (List.mem_map_of_mem hi)
  obtain ⟨j, hj⟩ := Option.isSome_iff_exists.mp hsome
  have hfind : (withReserved reserved ds).entries.find? (fun k => k.path = i.path) = some j := hj
  have hpath : j.path = i.path := by simpa using List.find?_some hfind
  have heq : j = i := List.inj_on_of_nodup_map hnodup (List.mem_of_find?_eq_some hfind) hi hpath
  rw [local?, hj, heq]
  rfl

theorem isSome_local? (t : ImportTable) (path : String) : (t.local? path).isSome = (t.get? path).isSome :=
  Option.isSome_map

end ImportTable

end HostBinder

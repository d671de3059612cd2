import HostBinder.SortedTable
import Mathlib.Data.List.Nodup

set_option autoImplicit false

namespace HostBinder

variable {α β γ : Type}

def KeysDiffer (entries : List (String × α)) : Prop := entries.Pairwise fun a b => a.1 ≠ b.1

theorem KeysIncrease.differ {entries : List (String × α)} (h : KeysIncrease entries) : KeysDiffer entries := by
  apply h.imp
  intro a b hlt heq
  exact String.lt_irrefl b.1 (heq ▸ hlt)

theorem KeysDiffer.lookup_of_mem {entries : List (String × α)} (h : KeysDiffer entries) {key : String}
    {a : α} (ha : (key, a) ∈ entries) : entries.lookup key = some a := by
  obtain ⟨before, after, rfl⟩ := List.append_of_mem ha
  rw [List.lookup_eq_some_iff]
  refine ⟨before, after, rfl, fun p hp => ?_⟩
  have hne := (List.pairwise_append.mp h).2.2 p hp (key, a) (by simp)
  simpa using Ne.symm hne

theorem lookup_eq_none_of_head {k : String} {x : α} {rest : List (String × α)}
    (h : KeysDiffer ((k, x) :: rest)) : rest.lookup k = none := by
  rw [List.lookup_eq_none_iff]
  intro e he
  simpa using (List.pairwise_cons.mp h).1 e he

theorem SortedTable.get?_foldl_insert (f : β → α) {entries : List (String × β)} (h : KeysDiffer entries)
    (t : SortedTable α) (k : String) :
    (entries.foldl (fun t e => t.insert e.1 (f e.2)) t).get? k =
      ((entries.lookup k).map f).or (t.get? k) := by
  induction entries generalizing t with
  | nil => rfl
  | cons e rest ih =>
    obtain ⟨j, x⟩ := e
    rw [List.foldl_cons, ih (List.pairwise_cons.mp h).2]
    by_cases hk : k = j
    · subst hk
      simp [lookup_eq_none_of_head h]
    · simp [List.lookup_cons, beq_false_of_ne hk, get?_insert_of_ne t _ hk]

theorem lookup_filterMap (f : β → Option γ) {entries : List (String × β)} (h : KeysDiffer entries)
    (k : String) :
    (entries.filterMap fun e => (f e.2).map (e.1, ·)).lookup k = (entries.lookup k).bind f := by
  induction entries with
  | nil => rfl
  | cons e rest ih =>
    obtain ⟨j, x⟩ := e
    have hrest := ih (List.pairwise_cons.mp h).2
    by_cases hk : k = j
    · subst hk
      have hnone := lookup_eq_none_of_head h
      cases hf : f x with
      | none => simp [hf, hrest, hnone]
      | some y => simp [hf]
    · cases hf : f x with
      | none => simp [hf, hrest, List.lookup_cons, beq_false_of_ne hk]
      | some y => simp [hf, hrest, List.lookup_cons, beq_false_of_ne hk]

theorem KeysDiffer.filterMap (f : β → Option γ) {entries : List (String × β)} (h : KeysDiffer entries) :
    KeysDiffer (entries.filterMap fun e => (f e.2).map (e.1, ·)) := by
  refine List.Pairwise.filterMap _ (fun a b hab c hc d hd => ?_) h
  obtain ⟨_, _, rfl⟩ := Option.map_eq_some_iff.mp hc
  obtain ⟨_, _, rfl⟩ := Option.map_eq_some_iff.mp hd
  exact hab

theorem alterEntry_of_absent {k : String} {f : Option α → α} {entries : List (String × α)}
    (hkeys : KeysIncrease entries) (habsent : ∀ e ∈ entries, e.1 ≠ k) :
    ∃ before after, entries = before ++ after ∧ alterEntry k f entries = before ++ (k, f none) :: after ∧
      (∀ e ∈ before, e.1 < k) ∧ ∀ e ∈ after, k < e.1 := by
  induction entries with
  | nil => exact ⟨[], [], by simp [alterEntry]⟩
  | cons e rest ih =>
    obtain ⟨key, x⟩ := e
    obtain ⟨hhead, htail⟩ := List.pairwise_cons.mp hkeys
    have hne : k ≠ key := Ne.symm (habsent (key, x) List.mem_cons_self)
    rw [alterEntry]
    by_cases hlt : k < key
    · refine ⟨[], (key, x) :: rest, rfl, by rw [if_pos hlt]; rfl, by simp, ?_⟩
      intro e he
      rcases List.mem_cons.mp he with rfl | he
      · exact hlt
      · exact String.lt_trans hlt (hhead e he)
    · have hgt : key < k := Std.lt_of_le_of_ne (String.not_lt.mp hlt) hne.symm
      obtain ⟨before, after, hrest, halter, hbefore, hafter⟩ :=
        ih htail fun e he => habsent e (List.mem_cons_of_mem _ he)
      refine ⟨(key, x) :: before, after, by rw [hrest]; rfl, ?_, List.forall_mem_cons.mpr ⟨hgt, hbefore⟩, hafter⟩
      rw [if_neg hlt, if_neg hne, halter]
      rfl

theorem forall_alterEntry {p : α → Prop} {k : String} {f : Option α → α} (hnew : p (f none))
    (hold : ∀ x, p x → p (f (some x))) {entries : List (String × α)} (h : ∀ e ∈ entries, p e.2) :
    ∀ e ∈ alterEntry k f entries, p e.2 := by
  induction entries with
  | nil => simpa [alterEntry] using hnew
  | cons e rest ih =>
    obtain ⟨j, x⟩ := e
    obtain ⟨hx, hrest⟩ := List.forall_mem_cons.mp h
    rw [alterEntry]
    split
    · exact List.forall_mem_cons.mpr ⟨hnew, h⟩
    · split
      · exact List.forall_mem_cons.mpr ⟨hold x hx, hrest⟩
      · exact List.forall_mem_cons.mpr ⟨hx, ih hrest⟩

theorem KeysDiffer.mem_iff_lookup {entries : List (String × α)} (h : KeysDiffer entries) {key : String} {x : α} :
    (key, x) ∈ entries ↔ entries.lookup key = some x := by
  refine ⟨h.lookup_of_mem, fun hx => ?_⟩
  obtain ⟨before, after, rfl, _⟩ := List.lookup_eq_some_iff.mp hx
  simp

theorem KeysDiffer.nodup {entries : List (String × α)} (h : KeysDiffer entries) : entries.Nodup :=
  h.imp fun hne heq => hne (congrArg Prod.fst heq)

theorem KeysIncrease.eq_of_perm {xs ys : List (String × α)} (hx : KeysIncrease xs) (hy : KeysIncrease ys)
    (h : xs.Perm ys) : xs = ys := by
  refine h.eq_of_pairwise (fun a b _ _ hab hba => ?_) hx hy
  exact absurd (String.lt_trans hab hba) (String.lt_irrefl a.1)

theorem KeysIncrease.eq_of_lookup_eq {xs ys : List (String × α)} (hx : KeysIncrease xs) (hy : KeysIncrease ys)
    (h : ∀ key, xs.lookup key = ys.lookup key) : xs = ys := by
  refine hx.eq_of_perm hy ?_
  rw [List.perm_ext_iff_of_nodup hx.differ.nodup hy.differ.nodup]
  rintro ⟨key, x⟩
  rw [hx.differ.mem_iff_lookup, hy.differ.mem_iff_lookup, h key]

end HostBinder

import HostBinder.Binder.Generation
import HostBinder.Proofs.Entries
import HostBinder.Schema.Session

set_option autoImplicit false

namespace HostBinder

namespace Schema

variable {s t : Schema} {n : Node}

theorem eq_of_entries_eq (h : s.nodes.entries = t.nodes.entries) : s = t := by
  obtain ⟨⟨entries, _⟩, _⟩ := s
  obtain ⟨⟨entries', _⟩, _⟩ := t
  obtain rfl : entries = entries' := h
  rfl

theorem eq_of_entries_perm (h : s.nodes.entries.Perm t.nodes.entries) : s = t :=
  eq_of_entries_eq (s.nodes.increasing.eq_of_perm t.nodes.increasing h)

theorem get?_insert_of_ne {path : String} (hne : path ≠ n.path) : (s.insert n).get? path = s.get? path :=
  s.nodes.get?_insert_of_ne n hne

theorem entries_insert (hnew : s.get? n.path = none) :
    ∃ before after, s.nodes.entries = before ++ after ∧
      (s.insert n).nodes.entries = before ++ (n.path, n) :: after ∧
      (∀ e ∈ before, e.1 < n.path) ∧ ∀ e ∈ after, n.path < e.1 := by
  have habsent : n.path ∉ s.nodes.keys := SortedTable.get?_eq_none_iff.mp hnew
  exact alterEntry_of_absent s.nodes.increasing fun e he heq => habsent (heq ▸ List.mem_map_of_mem he)

theorem entries_foldl_insert_perm {ns : List Node} (hdiffer : (ns.map Node.path).Nodup)
    (hnew : ∀ n ∈ ns, s.get? n.path = none) :
    (ns.foldl insert s).nodes.entries.Perm (ns.map (fun n => (n.path, n)) ++ s.nodes.entries) := by
  induction ns generalizing s with
  | nil => exact List.Perm.refl _
  | cons n ns ih =>
    rw [List.map_cons, List.nodup_cons] at hdiffer
    obtain ⟨hn, hdiffer⟩ := hdiffer
    obtain ⟨before, after, hs, hinsert, _⟩ := entries_insert (hnew n List.mem_cons_self)
    have hrest : ∀ m ∈ ns, (s.insert n).get? m.path = none := by
      intro m hm
      have hne : m.path ≠ n.path := fun heq => hn (heq ▸ List.mem_map_of_mem hm)
      rw [get?_insert_of_ne hne]
      exact hnew m (List.mem_cons_of_mem _ hm)
    rw [List.foldl_cons, List.map_cons, List.cons_append]
    refine (ih hdiffer hrest).trans ?_
    rw [hinsert, hs, ← List.append_assoc, ← List.append_assoc]
    exact List.perm_middle

theorem entries_ofNodes_perm {ns : List Node} (hdiffer : (ns.map Node.path).Nodup) :
    (ofNodes ns).nodes.entries.Perm (ns.map fun n => (n.path, n)) := by
  have hperm := entries_foldl_insert_perm (s := ∅) hdiffer fun _ _ => rfl
  rwa [show (∅ : Schema).nodes.entries = [] from rfl, List.append_nil] at hperm

theorem ofNodes_eq_of_perm {ns ms : List Node} (hdiffer : (ns.map Node.path).Nodup) (hperm : ns.Perm ms) :
    ofNodes ns = ofNodes ms := by
  have hdiffer' : (ms.map Node.path).Nodup := (hperm.map _).nodup_iff.mp hdiffer
  apply eq_of_entries_perm
  exact (entries_ofNodes_perm hdiffer).trans ((hperm.map _).trans (entries_ofNodes_perm hdiffer').symm)

/-- A schema that lists the given nodes, in the order of their paths, and no others. -/
structure Lists (s : Schema) (ns : List Node) : Prop where
  inOrder : KeysIncrease s.nodes.entries
  entries : s.nodes.entries.Perm (ns.map fun n => (n.path, n))

end Schema

def Generation.texts (g : Generation) : List (Except Code.MalformedIdent String) × List String :=
  (g.units.map BinderUnit.render, g.diagnostics.map Diagnostic.text)

/-- Two schemas off which the same is read: the list of their nodes, what their check comes to and the text of a
refusal, the cycle found, and the passes over them under any settings, with the texts of these. -/
structure Schema.ReadsAs (s t : Schema) : Prop where
  nodes : s.nodes.entries = t.nodes.entries
  check : s.check = t.check
  refusal : s.check.mapError refusalMessage = t.check.mapError refusalMessage
  cycle : s.hierarchy.cycle? = t.hierarchy.cycle?
  pass : ∀ settings roots, generate s settings roots = generate t settings roots
  texts : ∀ settings roots,
    (generate s settings roots).map Generation.texts = (generate t settings roots).map Generation.texts

/-- Nodes with paths of their own may be registered in any order: the schema lists them in the order of their paths,
and the same is read off it. -/
theorem registration_order_irrelevant {ns ms : List Node} (hdiffer : (ns.map Node.path).Nodup) (hperm : ns.Perm ms) :
    (Schema.ofNodes ns).Lists ns ∧ (Schema.ofNodes ns).ReadsAs (Schema.ofNodes ms) := by
  have heq : Schema.ofNodes ns = Schema.ofNodes ms := Schema.ofNodes_eq_of_perm hdiffer hperm
  refine ⟨⟨(Schema.ofNodes ns).nodes.increasing, Schema.entries_ofNodes_perm hdiffer⟩, ?_⟩
  rw [heq]
  exact ⟨rfl, rfl, rfl, rfl, fun _ _ => rfl, fun _ _ => rfl⟩

theorem registration_order_irrelevant_of_reversed :
    let ns : List Node := [.component ⟨⟨"w", "Label"⟩, some "w::Text"⟩, .component ⟨⟨"w", "Text"⟩, some "w::Label"⟩,
      .host ⟨⟨"app", "Main"⟩, [⟨"title", "w::Label", 1⟩]⟩]
    (ns.map Node.path).Nodup ∧ ns.Perm ns.reverse ∧
      (Schema.ofNodes ns).Lists ns ∧ (Schema.ofNodes ns).ReadsAs (Schema.ofNodes ns.reverse) := by
  intro ns
  have hdiffer : (ns.map Node.path).Nodup := by decide
  have hperm : ns.Perm ns.reverse := ns.reverse_perm.symm
  exact ⟨hdiffer, hperm, registration_order_irrelevant hdiffer hperm⟩

end HostBinder

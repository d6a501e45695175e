import PartitionPruning.NameTable

/-
  Tables as maps from names to values.

  The order of entries does not matter to looking names up,
  and entries of different names are kept as they are when
  they are put into a table.

  Main declarations:
    * `NameTable.get?_eq_some_iff`
    * `NameTable.get?_perm`
    * `NameTable.entries_ofList`
-/

namespace PartitionPruning

namespace NameTable

/- An entry is found wherever it stands. -/
theorem lookup_eq_some_iff_mem
    {entries : List (String × Value)}
    (h : (entries.map Prod.fst).Nodup)
    (name : String)
    (v : Value) :
    entries.lookup name = some v ↔ (name, v) ∈ entries := by
  induction entries with
  | nil => simp
  | cons e rest ih =>
      obtain ⟨m, w⟩ := e
      rw [List.map_cons, List.nodup_cons] at h
      rw [List.lookup_cons, List.mem_cons]
      by_cases hName : name = m
      · subst hName
        have hAbsent : (name, v) ∉ rest := by
          intro hMember
          exact h.1 (List.mem_map.mpr ⟨(name, v), hMember, rfl⟩)
        simp [hAbsent, eq_comm]
      · have hBeq : (name == m) = false := by simpa using hName
        simp [hBeq, hName, ih h.2]

/- A name has one value because names do not repeat. -/
theorem get?_eq_some_iff
    {t : NameTable}
    {name : String}
    {v : Value} :
    t.get? name = some v ↔ (name, v) ∈ t.entries :=
  lookup_eq_some_iff_mem t.nodup name v

/- Tables with the same entries give the same values. -/
theorem get?_perm
    {t u : NameTable}
    (h : t.entries.Perm u.entries)
    (name : String) :
    t.get? name = u.get? name := by
  apply Option.ext
  intro v
  rw [get?_eq_some_iff, get?_eq_some_iff]
  exact h.mem_iff

/- A name that is new is set behind the others. -/
theorem setEntry_of_not_mem
    {name : String}
    {entries : List (String × Value)}
    (h : name ∉ entries.map Prod.fst)
    (v : Value) :
    setEntry name v entries = entries ++ [(name, v)] := by
  induction entries with
  | nil => rfl
  | cons e rest ih =>
      obtain ⟨m, w⟩ := e
      rw [List.map_cons, List.mem_cons, not_or] at h
      rw [setEntry, if_neg (Ne.symm h.1), ih h.2]
      rfl

/- Entries of new names are added behind those of a table. -/
theorem entries_foldl_insert
    {t : NameTable}
    {entries : List (String × Value)}
    (h : ((t.entries ++ entries).map Prod.fst).Nodup) :
    (entries.foldl (fun t e => t.insert e.1 e.2) t).entries =
      t.entries ++ entries := by
  induction entries generalizing t with
  | nil => simp
  | cons e rest ih =>
      have hNew : e.1 ∉ t.entries.map Prod.fst := by
        rw [List.map_append, List.nodup_append] at h
        intro hMember
        exact h.2.2 e.1 hMember e.1 (by simp) rfl
      have hInsert :
          (t.insert e.1 e.2).entries = t.entries ++ [e] :=
        setEntry_of_not_mem hNew e.2
      have hRest :
          (((t.insert e.1 e.2).entries ++ rest).map
            Prod.fst).Nodup := by
        rw [hInsert, List.append_assoc]
        exact h
      rw [List.foldl_cons, ih hRest, hInsert,
        List.append_assoc, List.singleton_append]

/- Entries without repetitions stay as they stand. -/
theorem entries_ofList
    {entries : List (String × Value)}
    (h : (entries.map Prod.fst).Nodup) :
    (ofList entries).entries = entries :=
  entries_foldl_insert (t := empty) h

/- The entries of a table make the table. -/
@[simp]
theorem ofList_entries
    (t : NameTable) :
    ofList t.entries = t := by
  cases hList : ofList t.entries with
  | mk entries nodup =>
      have hEntries := entries_ofList t.nodup
      rw [hList] at hEntries
      subst hEntries
      rfl

end NameTable

end PartitionPruning

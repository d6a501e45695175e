import PartitionPruning.Value

/-
  Values by name: user variables and statement fields.

  A table lists each name once, in the order in which the
  names came in.

  Key definitions include:
    * `NameTable`
    * `NameTable.names`
    * `NameTable.get?`
    * `NameTable.insert`
    * `NameTable.get?_insert`
    * `NameTable.ofList`
-/

namespace PartitionPruning

------------------------------------------------------------
-- Entries
------------------------------------------------------------

namespace NameTable

/- The entries with one name set to a value. -/
def setEntry
    (name : String)
    (v : Value) :
    List (String × Value) → List (String × Value)
  | [] => [(name, v)]
  | (n, w) :: rest =>
      if n = name then (name, v) :: rest
      else (n, w) :: setEntry name v rest

/- Setting an entry adds its name at most. -/
theorem mem_setEntry_names_iff
    (name n : String)
    (v : Value)
    (entries : List (String × Value)) :
    n ∈ (setEntry name v entries).map Prod.fst ↔
      n = name ∨ n ∈ entries.map Prod.fst := by
  induction entries with
  | nil => simp [setEntry]
  | cons e rest ih =>
      obtain ⟨m, w⟩ := e
      by_cases hm : m = name
      · subst hm
        simp [setEntry]
      · simp only [setEntry, hm, if_false, List.map_cons,
          List.mem_cons, ih]
        constructor
        · rintro (h | h | h) <;> simp [h]
        · rintro (h | h | h) <;> simp [h]

/- Setting an entry brings no name in twice. -/
theorem nodup_setEntry_names
    (name : String)
    (v : Value)
    {entries : List (String × Value)}
    (h : (entries.map Prod.fst).Nodup) :
    ((setEntry name v entries).map Prod.fst).Nodup := by
  induction entries with
  | nil => simp [setEntry]
  | cons e rest ih =>
      obtain ⟨m, w⟩ := e
      rw [List.map_cons, List.nodup_cons] at h
      by_cases hm : m = name
      · subst hm
        simp only [setEntry, if_true, List.map_cons,
          List.nodup_cons]
        exact h
      · simp only [setEntry, hm, if_false, List.map_cons,
          List.nodup_cons]
        refine ⟨?_, ih h.2⟩
        rw [mem_setEntry_names_iff]
        rintro (hEq | hMem)
        · exact hm hEq
        · exact h.1 hMem

end NameTable

------------------------------------------------------------
-- Tables
------------------------------------------------------------

/- Values by name, with no name listed twice. -/
structure NameTable where
  entries : List (String × Value)
  nodup : (entries.map Prod.fst).Nodup
deriving DecidableEq

namespace NameTable

/- The table without names. -/
def empty : NameTable :=
  ⟨[], by simp⟩

instance : Inhabited NameTable :=
  ⟨empty⟩

/- The names in order. -/
def names
    (t : NameTable) : List String :=
  t.entries.map Prod.fst

/- How many names there are. -/
def size
    (t : NameTable) : Nat :=
  t.entries.length

/- The value of a name. -/
def get?
    (t : NameTable)
    (name : String) : Option Value :=
  t.entries.lookup name

/- Set a name to a value, whatever it was set to before. -/
def insert
    (t : NameTable)
    (name : String)
    (v : Value) : NameTable :=
  ⟨setEntry name v t.entries, nodup_setEntry_names name v t.nodup⟩

/- An entry that is set is found, and others as before. -/
theorem lookup_setEntry
    (name n : String)
    (v : Value)
    (entries : List (String × Value)) :
    (setEntry name v entries).lookup n =
      if n = name then some v else entries.lookup n := by
  induction entries with
  | nil =>
      by_cases hn : n = name
      · subst hn
        simp [setEntry]
      · have hBeq : (n == name) = false := by simpa using hn
        simp [setEntry, List.lookup_cons, hn, hBeq]
  | cons e rest ih =>
      obtain ⟨m, w⟩ := e
      by_cases hm : m = name
      · subst hm
        by_cases hn : n = m
        · subst hn
          simp [setEntry]
        · have hBeq : (n == m) = false := by simpa using hn
          simp [setEntry, List.lookup_cons, hn, hBeq]
      · simp only [setEntry, hm, if_false, List.lookup_cons]
        by_cases hn : n = m
        · subst hn
          simp [hm]
        · have hBeq : (n == m) = false := by simpa using hn
          simp only [hBeq]
          exact ih

/- A name that is set has its value, and no other changes. -/
@[simp]
theorem get?_insert
    (t : NameTable)
    (name n : String)
    (v : Value) :
    (t.insert name v).get? n =
      if n = name then some v else t.get? n :=
  lookup_setEntry name n v t.entries

/- Entries set one after another, so that later ones win. -/
def ofList
    (entries : List (String × Value)) : NameTable :=
  entries.foldl (fun t e => t.insert e.1 e.2) empty

end NameTable

end PartitionPruning

/-
  Prefixes in the order of byte strings.

  Main facts:
    * `Prefix.take_le_take`
    * `Prefix.lt_take`
    * `Prefix.take_lt`
-/

namespace PartitionPruning

namespace Prefix

variable {x v : List UInt8}

/- A front part comes no later than the whole. -/
theorem take_le
    (x : List UInt8)
    (n : Nat) :
    x.take n ≤ x :=
  List.IsPrefix.le (List.take_prefix n x)

/- Where prefixes differ, the strings differ the same way. -/
theorem lt_of_take_lt_take
    {n : Nat}
    (h : x.take n < v.take n) :
    x < v := by
  induction n generalizing x v with
  | zero => simp at h
  | succ n ih =>
      cases x with
      | nil =>
          cases v with
          | nil => simp at h
          | cons b v => exact List.nil_lt_cons b v
      | cons a x =>
          cases v with
          | nil => simp at h
          | cons b v =>
              rw [List.take_succ_cons, List.take_succ_cons,
                List.cons_lt_cons_iff] at h
              rw [List.cons_lt_cons_iff]
              rcases h with hHead | ⟨hHead, hTail⟩
              · exact Or.inl hHead
              · exact Or.inr ⟨hHead, ih hTail⟩

/- Cutting two texts at one length keeps their order. -/
theorem take_le_take
    (h : x ≤ v)
    (n : Nat) :
    x.take n ≤ v.take n :=
  fun hLess => h (lt_of_take_lt_take hLess)

/- A shorter string stays below a prefix that is longer than it. -/
theorem lt_take
    {n : Nat}
    (h : v < x)
    (hLength : v.length < n) :
    v < x.take n := by
  induction n generalizing x v with
  | zero => cases hLength
  | succ n ih =>
      cases x with
      | nil => simp at h
      | cons a x =>
          cases v with
          | nil => exact List.nil_lt_cons a (x.take n)
          | cons b v =>
              rw [List.cons_lt_cons_iff] at h
              rw [List.take_succ_cons, List.cons_lt_cons_iff]
              rcases h with hHead | ⟨hHead, hTail⟩
              · exact Or.inl hHead
              · have hShort : v.length < n :=
                  Nat.lt_of_succ_lt_succ hLength
                exact Or.inr ⟨hHead, ih hTail hShort⟩

theorem lt_append_singleton
    (v : List UInt8)
    (b : UInt8) :
    v < v ++ [b] := by
  have hAppend : v ++ [] < v ++ [b] :=
    List.append_left_lt (List.nil_lt_cons b [])
  rwa [List.append_nil] at hAppend

/- A front part that is shorter comes before the whole. -/
theorem take_lt
    {n : Nat}
    (h : n < v.length) :
    v.take n < v := by
  have hAppend : v.take n ++ [] < v.take n ++ v.drop n := by
    apply List.append_left_lt
    rw [List.drop_eq_getElem_cons h]
    exact List.nil_lt_cons _ _
  rwa [List.append_nil, List.take_append_drop] at hAppend

/- The first byte decides where it differs. -/
theorem cons_lt_cons
    {a b : UInt8}
    (h : a < b)
    (x v : List UInt8) :
    a :: x < b :: v :=
  List.cons_lt_cons_iff.mpr (Or.inl h)

/- The empty text comes before every other. -/
theorem nil_lt
    (h : v ≠ []) :
    [] < v := by
  cases v with
  | nil => exact absurd rfl h
  | cons b v => exact List.nil_lt_cons b v

end Prefix

end PartitionPruning

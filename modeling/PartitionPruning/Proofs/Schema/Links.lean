import PartitionPruning.Schema.Basic

/-
  Links between generated keys and their sources.

  A schema is valid exactly if every source names a
  generated key and has a function for it, and every
  generated key is named by a source.  Any number of sources
  may name the same key, and a generated key may itself be a
  source, of another key or of itself.

  Key definitions include:
    * `Schema.IsLinked`

  Main declarations:
    * `Schema.firstFault?_eq_none_iff`
    * `Schema.validate_eq_ok_iff`
-/

namespace PartitionPruning

namespace Schema

/- The links of a schema hold in both directions. -/
structure IsLinked
    (s : Schema) : Prop where
  target :
    ∀ source ∈ s.keys, ∀ target,
      source.target? = some target →
        ∃ generated, s.keys[target.toNat]? = some generated ∧
          generated.isGenerated = true
  generator :
    ∀ source ∈ s.keys, ∀ target,
      source.target? = some target →
        ∃ g, source.generator? = some g
  source :
    ∀ i generated, s.keys[i]? = some generated →
      generated.isGenerated = true →
        ∃ source ∈ s.keys,
          source.target?.map UInt64.toNat = some i

------------------------------------------------------------
-- Faults
------------------------------------------------------------

/- There is no first fault where no key has one. -/
theorem firstFault?_eq_none_iff
    {fault? : Nat → PartKey → Option Failure}
    {i : Nat}
    {keys : List PartKey} :
    firstFault? fault? i keys = none ↔
      ∀ j key, keys[j]? = some key →
        fault? (i + j) key = none := by
  induction keys generalizing i with
  | nil => simp [firstFault?]
  | cons key rest ih =>
      rw [firstFault?, Option.or_eq_none_iff, ih]
      constructor
      · rintro ⟨hFirst, hOthers⟩ j other hKey
        cases j with
        | zero =>
            cases hKey
            exact hFirst
        | succ j =>
            have hOther := hOthers j other hKey
            rwa [Nat.add_right_comm, Nat.add_assoc] at hOther
      · intro hAll
        refine ⟨hAll 0 key rfl, ?_⟩
        intro j other hKey
        rw [Nat.add_right_comm, Nat.add_assoc]
        exact hAll (j + 1) other hKey

variable {s : Schema}
variable {i : Nat}
variable {key : PartKey}

/- Looking for a generated key by its number finds it. -/
theorem hasGeneratedKeyAt_iff :
    s.hasGeneratedKeyAt i = true ↔
      ∃ generated, s.keys[i]? = some generated ∧
        generated.isGenerated = true := by
  unfold hasGeneratedKeyAt
  cases s.keys[i]? with
  | none => simp
  | some generated => simp

/-
  A source is without fault where it leads to a generated
  key and has a function, and so is a key that is no
  source.
-/
theorem linkFault?_eq_none_iff :
    s.linkFault? i key = none ↔
      ∀ target, key.target? = some target →
        s.hasGeneratedKeyAt target.toNat = true ∧
          ∃ g, key.generator? = some g := by
  unfold linkFault?
  cases key.target? with
  | none => simp
  | some target =>
      cases hAt : s.hasGeneratedKeyAt target.toNat with
      | false => simp [hAt]
      | true =>
          cases key.generator? with
          | none => simp [hAt]
          | some g => simp [hAt]

/-
  A generated key is without fault where some key, itself
  included, names it.
-/
theorem orphanFault?_eq_none_iff :
    s.orphanFault? i key = none ↔
      (key.isGenerated = true →
        ∃ source ∈ s.keys,
          source.target?.map UInt64.toNat = some i) := by
  have hFed :
      s.keys.any (fun k => feeds k i) = true ↔
        ∃ source ∈ s.keys,
          source.target?.map UInt64.toNat = some i := by
    simp only [List.any_eq_true, feeds, decide_eq_true_eq]
  rw [orphanFault?, ite_eq_right_iff, ← hFed]
  simp

------------------------------------------------------------
-- Whole Schemas
------------------------------------------------------------

/- Both rounds over the keys find no fault. -/
theorem validate_eq_ok_iff_firstFault? :
    s.validate = .ok () ↔
      firstFault? s.linkFault? 0 s.keys = none ∧
        firstFault? s.orphanFault? 0 s.keys = none := by
  rw [← Option.or_eq_none_iff]
  unfold validate
  cases
      (firstFault? s.linkFault? 0 s.keys).or
        (firstFault? s.orphanFault? 0 s.keys) with
  | none => simp
  | some cause => simp

/- A schema is valid exactly if its links are sound. -/
theorem validate_eq_ok_iff :
    s.validate = .ok () ↔ s.IsLinked := by
  rw [validate_eq_ok_iff_firstFault?, firstFault?_eq_none_iff,
    firstFault?_eq_none_iff]
  simp only [Nat.zero_add, linkFault?_eq_none_iff,
    orphanFault?_eq_none_iff, hasGeneratedKeyAt_iff]
  constructor
  · rintro ⟨hLinks, hOrphans⟩
    have hSource :
        ∀ source ∈ s.keys, ∀ target,
          source.target? = some target →
            (∃ generated,
              s.keys[target.toNat]? = some generated ∧
                generated.isGenerated = true) ∧
              ∃ g, source.generator? = some g := by
      intro source hMember target hTarget
      rcases List.mem_iff_getElem?.mp hMember with ⟨j, hKey⟩
      exact hLinks j source hKey target hTarget
    constructor
    · intro source hMember target hTarget
      exact (hSource source hMember target hTarget).1
    · intro source hMember target hTarget
      exact (hSource source hMember target hTarget).2
    · exact hOrphans
  · intro hLinked
    refine ⟨?_, hLinked.source⟩
    intro j source hKey target hTarget
    have hMember := List.mem_of_getElem? hKey
    exact
      ⟨hLinked.target source hMember target hTarget,
        hLinked.generator source hMember target hTarget⟩

end Schema

end PartitionPruning

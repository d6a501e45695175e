import PartitionPruning.Proofs.Schema.Links
import PartitionPruning.Statement.PredicateValue

/-
  Derivations along the links of a schema.

  Where the links are sound, nothing is derived for a
  predicate exactly where the generated key is on another
  level than the predicate, or where its function is not
  supported.

  Key definitions include:
    * `Schema.LeadsTo`
    * `Schema.Underivable`

  Main declarations:
    * `Schema.IsLinked.exists_leadsTo`
    * `PartKey.derive_eq_error_iff`
    * `Statement.derived_eq_error_iff`
-/

namespace PartitionPruning

------------------------------------------------------------
-- Derivations For Predicates
------------------------------------------------------------

namespace Schema

/- The column of a predicate is the source of another key. -/
structure LeadsTo
    (s : Schema)
    (p : Predicate)
    (source : PartKey)
    (target : UInt64)
    (generated : PartKey) : Prop where
  isKey : s.keys[p.key.toNat]? = some source
  isPlain : source.isGenerated = false
  names : source.target? = some target
  isTarget : s.keys[target.toNat]? = some generated

/-
  Why nothing is derived for a predicate: the generated key
  is on another level, or its function is not supported.
-/
inductive Underivable
    (s : Schema)
    (p : Predicate) : Failure → Prop where
  | otherLevel
      {source generated : PartKey}
      {target : UInt64}
      (leads : s.LeadsTo p source target generated)
      (apart : generated.level ≠ p.level) :
      Underivable s p
        (.noGeneratedKey target.toNat source.name)
  | otherFunction
      {source generated : PartKey}
      {target : UInt64}
      {g : Generator}
      (leads : s.LeadsTo p source target generated)
      (together : generated.level = p.level)
      (function : source.generator? = some g)
      (unsupported : g.func ≠ .substr) :
      Underivable s p (.unsupportedGenerator g.func)

variable {s : Schema}
variable {p : Predicate}
variable {cause : Failure}

/- A predicate leads to one key, through one source. -/
theorem LeadsTo.unique
    {source source' generated generated' : PartKey}
    {target target' : UInt64}
    (h : s.LeadsTo p source target generated)
    (h' : s.LeadsTo p source' target' generated') :
    source' = source ∧ target' = target ∧
      generated' = generated := by
  have hSource : source' = source :=
    Option.some.inj (h'.isKey.symm.trans h.isKey)
  subst hSource
  have hTarget : target' = target :=
    Option.some.inj (h'.names.symm.trans h.names)
  subst hTarget
  have hGenerated : generated' = generated :=
    Option.some.inj (h'.isTarget.symm.trans h.isTarget)
  exact ⟨rfl, rfl, hGenerated⟩

/-
  A key that feeds another leads to a generated key, and has
  a function.
-/
theorem IsLinked.exists_leadsTo
    {key : PartKey}
    {target : UInt64}
    (h : s.IsLinked)
    (hKey : s.keys[p.key.toNat]? = some key)
    (hPlain : key.isGenerated = false)
    (hTarget : key.target? = some target) :
    ∃ generated g, s.LeadsTo p key target generated ∧
      generated.isGenerated = true ∧
      key.generator? = some g := by
  have hMember := List.mem_of_getElem? hKey
  rcases h.target key hMember target hTarget with
    ⟨generated, hAt, hGenerated⟩
  rcases h.generator key hMember target hTarget with ⟨g, hG⟩
  exact
    ⟨generated, g, ⟨hKey, hPlain, hTarget, hAt⟩, hGenerated,
      hG⟩

/-
  The two reasons are told apart by the kinds of their
  errors.
-/
theorem Underivable.kind
    (h : s.Underivable p cause) :
    cause.kind = .entryNotFound ∨
      cause.kind = .unsupportedFunction := by
  cases h with
  | otherLevel leads apart => exact .inl rfl
  | otherFunction leads together function unsupported =>
      exact .inr rfl

theorem Underivable.ne_noGenerator
    (h : s.Underivable p cause)
    (name : String) :
    cause ≠ .noGenerator name := by
  cases h <;> simp

theorem Underivable.exists_leadsTo
    (h : s.Underivable p cause) :
    ∃ source target generated,
      s.LeadsTo p source target generated := by
  cases h with
  | otherLevel leads apart => exact ⟨_, _, _, leads⟩
  | otherFunction leads together function unsupported =>
      exact ⟨_, _, _, leads⟩

/- What keeps a value from being derived along a link. -/
theorem LeadsTo.underivable_iff
    {source generated : PartKey}
    {target : UInt64}
    {g : Generator}
    (h : s.LeadsTo p source target generated)
    (hFunction : source.generator? = some g) :
    s.Underivable p cause ↔
      (generated.level ≠ p.level ∧
        cause = .noGeneratedKey target.toNat source.name) ∨
      (generated.level = p.level ∧ g.func ≠ .substr ∧
        cause = .unsupportedGenerator g.func) := by
  constructor
  · intro hCause
    cases hCause with
    | otherLevel leads apart =>
        rcases h.unique leads with ⟨rfl, rfl, rfl⟩
        exact .inl ⟨apart, rfl⟩
    | otherFunction leads together function unsupported =>
        rcases h.unique leads with ⟨rfl, rfl, rfl⟩
        cases hFunction.symm.trans function
        exact .inr ⟨together, unsupported, rfl⟩
  · rintro (⟨hApart, rfl⟩ | ⟨hTogether, hFunc, rfl⟩)
    · exact .otherLevel h hApart
    · exact .otherFunction h hTogether hFunction hFunc

end Schema

/- A function is applied unless it cuts no substring. -/
theorem PartKey.derive_eq_error_iff
    {source : PartKey}
    {g : Generator}
    (h : source.generator? = some g)
    (d : Dialect)
    (v : Value)
    (cause : Failure) :
    source.derive d v = .error cause ↔
      g.func ≠ .substr ∧
        cause = .unsupportedGenerator g.func := by
  unfold derive
  rw [h]
  by_cases hFunc : g.func = .substr
  · cases v <;> simp [hFunc]
  · simp [hFunc, eq_comm]

namespace Statement

variable {s : Statement}
variable {p : Predicate}
variable {key : PartKey}

/- A value is derived along a link that stays in a level. -/
theorem derived_of_leadsTo
    {source generated : PartKey}
    {target : UInt64}
    (h : s.schema.LeadsTo p source target generated)
    (v : Value) :
    s.derived p v =
      if generated.isGenerated ∧ generated.level = p.level then
        source.derive s.schema.dialect v
      else .error (.noGeneratedKey target.toNat source.name) := by
  unfold derived
  simp [h.isKey, h.isPlain, h.names, h.isTarget]

/- A key that leads to no other is compared as it is. -/
theorem derived_of_not_leads
    (hKey : s.schema.keys[p.key.toNat]? = some key)
    (hNone : key.isGenerated = true ∨ key.target? = none)
    (v : Value) :
    s.derived p v = .ok v := by
  unfold derived
  rcases hNone with hGenerated | hTarget
  · simp [hKey, hGenerated]
  · simp [hKey, hTarget]

/- When nothing is derived for a key of a linked schema. -/
theorem derived_eq_error_iff
    (hLinked : s.schema.IsLinked)
    (hKey : s.schema.keys[p.key.toNat]? = some key)
    (v : Value)
    (cause : Failure) :
    s.derived p v = .error cause ↔
      s.schema.Underivable p cause := by
  by_cases hNone : key.isGenerated = true ∨ key.target? = none
  · rw [derived_of_not_leads hKey hNone]
    constructor
    · intro h
      cases h
    · intro hCause
      rcases hCause.exists_leadsTo with
        ⟨source, target, generated, leads⟩
      cases hKey.symm.trans leads.isKey
      rcases hNone with hGenerated | hTarget
      · rw [leads.isPlain] at hGenerated
        cases hGenerated
      · rw [leads.names] at hTarget
        cases hTarget
  · rw [not_or, Bool.not_eq_true] at hNone
    rcases Option.ne_none_iff_exists'.mp hNone.2 with
      ⟨target, hTarget⟩
    rcases hLinked.exists_leadsTo hKey hNone.1 hTarget with
      ⟨generated, g, leads, hGenerated, hFunction⟩
    rw [derived_of_leadsTo leads,
      leads.underivable_iff hFunction]
    by_cases hLevel : generated.level = p.level
    · rw [if_pos ⟨hGenerated, hLevel⟩,
        PartKey.derive_eq_error_iff hFunction]
      simp [hLevel]
    · rw [if_neg fun h => hLevel h.2]
      simp [hLevel, eq_comm]

end Statement

end PartitionPruning

import PartitionPruning.Proofs.Range.Normalisation
import PartitionPruning.Proofs.Statement.Drafting

/-
  What failing predicates leave behind.

  A predicate that fails leaves the drafts as they are, with
  one exception: where it covers both levels and only level
  two fails, what it wrote to level one stays.

  Key definitions include:
    * `Predicate.IsOutside`
    * `Statement.Fails`
    * `Statement.HalfPlaced`
    * `Statement.pins`

  Main declarations:
    * `Drafts.failure?_place_isSome_iff`
    * `Statement.narrow_of_fails`
    * `Statement.narrow_of_halfPlaced`
    * `Statement.result_without_failing`
-/

namespace PartitionPruning

------------------------------------------------------------
-- Failures Of Placing
------------------------------------------------------------

/-
  A column that the predicate covers is not among those of
  its level.
-/
def Predicate.IsOutside
    (p : Predicate)
    (s : Schema) : Prop :=
  p.level.coversOne = true ∧
      Statement.firstCount s ≤ p.first.toNat ∨
    p.level.coversTwo = true ∧
      Statement.secondCount s ≤ p.second.toNat

instance
    (p : Predicate)
    (s : Schema) :
    Decidable (p.IsOutside s) := by
  unfold Predicate.IsOutside
  infer_instance

/- Placing fails for columns that do not exist, and only then. -/
theorem Drafts.failure?_place_isSome_iff
    {d : Drafts}
    {s : Schema}
    (h : d.Fits s)
    (p : Predicate)
    (v : Value) :
    (d.place p.level p.op p.first.toNat p.second.toNat
        v).failure?.isSome = true ↔
      p.IsOutside s := by
  rw [h.place_eq]
  unfold Predicate.IsOutside
  split
  · next hOne => simp [hOne]
  · next hOne =>
      split
      · next hTwo => simp [hTwo]
      · next hTwo => simp [hOne, hTwo]

namespace Statement

/-
  The predicate has no value, or can not be placed in every
  level that it covers.
-/
def Fails
    (s : Statement)
    (ev : Evaluator)
    (p : Predicate) : Prop :=
  (∃ cause, s.predicateValue ev p = .error cause) ∨
    p.IsOutside s.schema

/-
  The predicate bounds a column of level one, and fails only
  then, for want of its column in level two.
-/
structure HalfPlaced
    (s : Statement)
    (ev : Evaluator)
    (p : Predicate) : Prop where
  value : ∃ v, s.predicateValue ev p = .ok v
  level : p.level = .both
  first : p.first.toNat < firstCount s.schema
  second : secondCount s.schema ≤ p.second.toNat
  bounds : p.op ≠ .other

------------------------------------------------------------
-- Drafts After A Failure
------------------------------------------------------------

variable {s : Statement}
variable {ev : Evaluator}
variable {p : Predicate}

/- A predicate that is placed by half fails. -/
theorem HalfPlaced.fails
    (h : s.HalfPlaced ev p) :
    s.Fails ev p := by
  refine Or.inr (Or.inr ⟨?_, h.second⟩)
  rw [h.level]
  rfl

/- A failing predicate leaves no trace unless it is half placed. -/
theorem narrow_of_fails
    {d : Drafts}
    (hFits : d.Fits s.schema)
    (hFails : s.Fails ev p)
    (hHalf : ¬ s.HalfPlaced ev p) :
    s.narrow ev d (some p) = d := by
  cases hValue : s.predicateValue ev p with
  | error cause => exact narrow_of_error hValue d
  | ok v =>
      have hOutside : p.IsOutside s.schema := by
        rcases hFails with ⟨cause, hCause⟩ | hOutside
        · rw [hValue] at hCause
          cases hCause
        · exact hOutside
      rw [narrow_of_ok hValue, hFits.place_eq]
      by_cases hOne :
          p.level.coversOne = true ∧
            firstCount s.schema ≤ p.first.toNat
      · rw [if_pos hOne]
      · have hTwo :
            p.level.coversTwo = true ∧
              secondCount s.schema ≤ p.second.toNat :=
          hOutside.resolve_left hOne
        rw [if_neg hOne, if_pos hTwo]
        cases hLevel : p.level with
        | zero => rfl
        | two => rfl
        | one => simp [hLevel, KeyLevel.coversTwo] at hTwo
        | both =>
            have hFirst :
                p.first.toNat < firstCount s.schema := by
              simpa [hLevel, KeyLevel.coversOne] using hOne
            have hOp : p.op = .other := by
              apply Decidable.byContradiction
              intro hBounds
              exact
                hHalf
                  ⟨⟨v, hValue⟩, hLevel, hFirst, hTwo.2,
                    hBounds⟩
            simp [hOp, Drafts.write]

/- A half placed predicate stays written in level one. -/
theorem narrow_of_halfPlaced
    {d : Drafts}
    {v : Value}
    (hFits : d.Fits s.schema)
    (hHalf : s.HalfPlaced ev p)
    (hValue : s.predicateValue ev p = .ok v) :
    s.narrow ev d (some p) =
      ⟨d.one.write p.op p.first.toNat v, d.two⟩ := by
  have hFirst :
      ¬ firstCount s.schema ≤ p.first.toNat :=
    Nat.not_le.mpr hHalf.first
  rw [narrow_of_ok hValue, hFits.place_eq]
  simp [hHalf.level, KeyLevel.coversOne,
    KeyLevel.coversTwo, hFirst, hHalf.second, Drafts.write]

------------------------------------------------------------
-- Telling A Half Placed Predicate
------------------------------------------------------------

/- A predicate that pins a column of level one to an integer. -/
def pin
    (w : Int64)
    (i : Nat) : Predicate :=
  ⟨0, UInt64.ofNat i, 0, .one, .eq, .int w, true⟩

/- Predicates that pin the first columns of level one. -/
def pins
    (w : Int64)
    (count : Nat) : List (Option Predicate) :=
  (List.range count).map fun i => some (pin w i)

/-
  The value of a pin is its number. It is marked as one on
  a row identifier, so that nothing is derived from it.
-/
theorem predicateValue_pin
    (s : Statement)
    (ev : Evaluator)
    (w : Int64)
    (i : Nat) :
    s.predicateValue ev (pin w i) = .ok (.int w) := by
  simp [predicateValue, pin, operandValue,
    Value.withCollation]

/- A pin fixes one column of level one to its number. -/
theorem narrow_pin
    {d : Drafts}
    {w : Int64}
    {i : Nat}
    (ev : Evaluator)
    (hFits : d.Fits s.schema)
    (hIndex : i < firstCount s.schema)
    (hSize : i < UInt64.size) :
    s.narrow ev d (some (pin w i)) =
      ⟨d.one.write .eq i (.int w), d.two⟩ := by
  have hFirst : (pin w i).first.toNat = i :=
    UInt64.toNat_ofNat_of_lt' hSize
  rw [narrow_of_ok (predicateValue_pin s ev w i),
    hFits.place_eq, hFirst]
  simp [pin, KeyLevel.coversOne, KeyLevel.coversTwo,
    Nat.not_le.mpr hIndex, Drafts.write]

/- Columns that are pinned hold the integer at both ends. -/
theorem bounds_foldl_pins
    {d : Drafts}
    {w : Int64}
    {count : Nat}
    (ev : Evaluator)
    (hFits : d.Fits s.schema)
    (hCount : count ≤ firstCount s.schema)
    (hSize : count ≤ UInt64.size)
    {i : Nat}
    (hIndex : i < count) :
    ((pins w count).foldl (s.narrow ev)
        d).one.range.bounds[i]? =
      some ⟨.int w, .int w⟩ := by
  induction count with
  | zero => cases hIndex
  | succ n ih =>
      have hBefore :
          ((pins w n).foldl (s.narrow ev) d).Fits s.schema :=
        fits_foldl_narrow ev hFits (pins w n)
      have hStep :
          (pins w (n + 1)).foldl (s.narrow ev) d =
            s.narrow ev ((pins w n).foldl (s.narrow ev) d)
              (some (pin w n)) := by
        simp [pins, List.range_succ]
      rw [hStep, narrow_pin ev hBefore hCount hSize]
      simp only [Draft.getElem?_bounds_write]
      by_cases hLast : n = i
      · subst hLast
        have hLength := hBefore.one.bounds
        rw [if_pos rfl, List.getElem?_eq_getElem (by omega)]
        rfl
      · rw [if_neg hLast]
        exact ih (by omega) (by omega) (by omega)

/- Setting an end of a pinned column to another value shows. -/
theorem set_ne_of_bounds
    {op : Comparator}
    {v w : Value}
    (hOp : op ≠ .other)
    (hNe : v ≠ w) :
    (⟨w, w⟩ : Bound).set op v ≠ ⟨w, w⟩ := by
  intro hEq
  cases op with
  | eq => exact hNe (congrArg Bound.lower hEq)
  | ge => exact hNe (congrArg Bound.lower hEq)
  | gt => exact hNe (congrArg Bound.lower hEq)
  | le => exact hNe (congrArg Bound.upper hEq)
  | lt => exact hNe (congrArg Bound.upper hEq)
  | other => exact hOp rfl

/- Columns up to an index are pinned to an integer. -/
def PinnedTo
    (d : Draft)
    (w : Int64)
    (count : Nat) : Prop :=
  ∀ i < count, d.range.bounds[i]? = some ⟨.int w, .int w⟩

/- The column after pinned ones is not cut off. -/
theorem PinnedTo.getElem?_normalise
    {d : Draft}
    {w : Int64}
    {k : Nat}
    (h : PinnedTo d w k)
    (hBorders : k < d.borders.length) :
    d.normalise.bounds[k]? = d.range.bounds[k]? := by
  apply Draft.getElem?_bounds_cut hBorders
  intro i hi
  refine ⟨⟨.int w, .int w⟩, h i hi, ?_⟩
  simp [Bound.isExact]

/- Writing to a later column leaves the pinned ones. -/
theorem PinnedTo.write
    {d : Draft}
    {w : Int64}
    {k : Nat}
    (h : PinnedTo d w k)
    (op : Comparator)
    (v : Value) :
    PinnedTo (d.write op k v) w k := by
  intro i hi
  rw [Draft.getElem?_bounds_write, if_neg (Nat.ne_of_gt hi)]
  exact h i hi

/- There is an integer besides any value. -/
theorem exists_int_ne
    (v : Value) :
    ∃ w : Int64, v ≠ .int w := by
  by_cases hZero : v = .int 0
  · refine ⟨1, ?_⟩
    rw [hZero]
    decide
  · exact ⟨0, hZero⟩

/-
  After predicates that pin its column and those before it,
  a half placed predicate shows in the range of level one.
-/
theorem toRanges_halfPlaced_ne
    {d : Drafts}
    {v : Value}
    {w : Int64}
    (hFits : d.Fits s.schema)
    (hHalf : s.HalfPlaced ev p)
    (hValue : s.predicateValue ev p = .ok v)
    (hNe : v ≠ .int w) :
    (s.narrow ev
        ((pins w (p.first.toNat + 1)).foldl (s.narrow ev) d)
        (some p)).toRanges ≠
      ((pins w (p.first.toNat + 1)).foldl (s.narrow ev)
        d).toRanges := by
  have hSize : p.first.toNat + 1 ≤ UInt64.size :=
    p.first.toNat_lt
  have hPinned :
      PinnedTo
        ((pins w (p.first.toNat + 1)).foldl (s.narrow ev)
          d).one w (p.first.toNat + 1) := by
    intro i hi
    exact bounds_foldl_pins ev hFits hHalf.first hSize hi
  have hBefore :=
    fits_foldl_narrow ev hFits (pins w (p.first.toNat + 1))
  generalize
    (pins w (p.first.toNat + 1)).foldl (s.narrow ev) d =
      pinned at hPinned hBefore ⊢
  have hColumn := hPinned p.first.toNat (Nat.lt_succ_self _)
  have hEarlier : PinnedTo pinned.one w p.first.toNat := by
    intro i hi
    exact hPinned i (Nat.lt_succ_of_lt hi)
  have hFirst := hHalf.first
  have hWithout :
      pinned.one.normalise.bounds[p.first.toNat]? =
        some ⟨.int w, .int w⟩ := by
    rw [hEarlier.getElem?_normalise, hColumn]
    rw [hBefore.one.borders]
    exact hFirst
  have hWith :
      (pinned.one.write p.op p.first.toNat
          v).normalise.bounds[p.first.toNat]? =
        some ((⟨.int w, .int w⟩ : Bound).set p.op v) := by
    rw [(hEarlier.write p.op v).getElem?_normalise,
      Draft.getElem?_bounds_write, if_pos rfl, hColumn]
    · rfl
    · rw [(hBefore.one.write p.op p.first.toNat v).borders]
      exact hFirst
  rw [narrow_of_halfPlaced hBefore hHalf hValue]
  intro hEq
  have hAt :
      (pinned.one.write p.op p.first.toNat
          v).normalise.bounds[p.first.toNat]? =
        pinned.one.normalise.bounds[p.first.toNat]? := by
    have hOne := congrArg Ranges.one hEq
    exact
      congrArg
        (fun r : KeyRange => r.bounds[p.first.toNat]?) hOne
  rw [hWith, hWithout] at hAt
  exact
    set_ne_of_bounds hHalf.bounds hNe (Option.some.inj hAt)

------------------------------------------------------------
-- Whole Statements
------------------------------------------------------------

/-
  A failing predicate contributes as little as a missing one
  unless it is half placed.  One that is half placed changes
  the ranges after some list of predicates, wherever they do
  not depend on defaults.
-/
theorem result_without_failing
    (hFails : s.Fails ev p) :
    (¬ s.HalfPlaced ev p →
      ∀ before after,
        ((s.withPredicates
            (before ++ some p :: after)).resolve ev).result =
          ((s.withPredicates
            (before ++ none :: after)).resolve ev).result) ∧
    (s.HalfPlaced ev p →
      s.NeedsNoDefault →
        ∀ ranges,
          ((s.withPredicates []).resolve ev).result =
              .ok ranges →
            ∃ before after,
              ((s.withPredicates
                  (before ++ some p :: after)).resolve
                    ev).result ≠
                ((s.withPredicates
                  (before ++ none :: after)).resolve
                    ev).result) := by
  constructor
  · intro hHalf before after
    apply result_congr
    intro start hFits
    have hBefore := fits_foldl_narrow ev hFits before
    simp only [List.foldl_append, List.foldl_cons,
      narrow_of_fails hBefore hFails hHalf, narrow_none]
  · intro hHalf hDefaults ranges hResult
    rcases hHalf.value with ⟨v, hValue⟩
    rcases exists_int_ne v with ⟨w, hNe⟩
    rcases result_withPredicates hDefaults hResult with
      ⟨start, hStart, hResults⟩
    refine ⟨pins w (p.first.toNat + 1), [], ?_⟩
    rw [hResults, hResults]
    intro hEq
    apply
      toRanges_halfPlaced_ne (fits_of_startDrafts hStart)
        hHalf hValue hNe
    simpa using Except.ok.inj hEq

/- A statement on a table with one column in each level. -/
def shardLookup : Statement where
  config := default
  predicates? := none
  schema := ⟨.two, ["tenant"], ["day"], [], .mysql⟩
  session := Session.ofCollation ⟨46⟩
  request := default
  prepared? := none
  fields := default
  isInsert := false

/- A comparison with a column in place of a value. -/
def tenantIsOwner : Predicate :=
  ⟨0, 0, 0, .both, .eq, .column "owner", false⟩

/- A comparison in both levels that lacks its second column. -/
def tenantIsFive : Predicate :=
  ⟨0, 0, 3, .both, .eq, .int 5, false⟩

theorem halfPlaced_tenantIsFive :
    shardLookup.HalfPlaced .builtin tenantIsFive where
  value := ⟨.int 5, rfl⟩
  level := rfl
  first := by decide
  second := by decide
  bounds := by decide

theorem not_halfPlaced_tenantIsOwner :
    ¬ shardLookup.HalfPlaced .builtin tenantIsOwner := by
  intro h
  rcases h.value with ⟨v, hValue⟩
  cases hValue

theorem result_without_shardLookup :
    (shardLookup.Fails .builtin tenantIsOwner ∧
      ∀ before after,
        ((shardLookup.withPredicates
            (before ++ some tenantIsOwner :: after)).resolve
              .builtin).result =
          ((shardLookup.withPredicates
            (before ++ none :: after)).resolve
              .builtin).result) ∧
    shardLookup.Fails .builtin tenantIsFive ∧
      ∃ before after,
        ((shardLookup.withPredicates
            (before ++ some tenantIsFive :: after)).resolve
              .builtin).result ≠
          ((shardLookup.withPredicates
            (before ++ none :: after)).resolve
              .builtin).result :=
  have hOwner :
      shardLookup.Fails .builtin tenantIsOwner :=
    Or.inl ⟨.columnOperand "owner", rfl⟩
  have hFive :
      shardLookup.Fails .builtin tenantIsFive :=
    halfPlaced_tenantIsFive.fails
  have hPlain : shardLookup.NeedsNoDefault := by
    intro hInsert
    cases hInsert
  ⟨⟨hOwner,
      (result_without_failing hOwner).1
        not_halfPlaced_tenantIsOwner⟩,
    hFive,
    (result_without_failing hFive).2
      halfPlaced_tenantIsFive hPlain _ rfl⟩

/-
  The tenant stays pinned by a predicate that fails, where
  without the predicate nothing bounds it.
-/
theorem tenantIsFive_counts :
    shardLookup.Fails .builtin tenantIsFive ∧
      ((shardLookup.withPredicates
          [some tenantIsFive]).resolve .builtin).result ≠
        ((shardLookup.withPredicates [none]).resolve
          .builtin).result := by
  have hWith :
      ((shardLookup.withPredicates
          [some tenantIsFive]).resolve .builtin).result =
        .ok
          ⟨⟨[⟨.int 5, .int 5⟩], ⟨true, true⟩⟩,
            ⟨[Bound.unset], Border.exclusive⟩⟩ := rfl
  have hWithout :
      ((shardLookup.withPredicates [none]).resolve
          .builtin).result =
        .ok
          ⟨⟨[Bound.unset], Border.exclusive⟩,
            ⟨[Bound.unset], Border.exclusive⟩⟩ := rfl
  refine ⟨halfPlaced_tenantIsFive.fails, ?_⟩
  rw [hWith, hWithout]
  intro hEq
  have hNe := Except.ok.inj hEq
  revert hNe
  decide

end Statement

end PartitionPruning

import PartitionPruning.Proofs.Statement.Coverage
import PartitionPruning.Proofs.Statement.DefaultPins

/-
  The collation of the strings in ranges.

  Values come from literals, packets, user variables,
  functions, derivations and defaults, each under a
  collation of its own.  Every one of them is put under the
  session's before it is written to a draft, and no step
  brings in a string by itself.

  Key definitions include:
    * `Drafts.IsUnder`

  Main declarations:
    * `Statement.isUnder_of_keyDefault?`
    * `Statement.isUnder_narrow`
    * `Statement.isUnder_of_placeDefaults`
    * `Statement.collation_of_result`
-/

namespace PartitionPruning

variable {c : Collation}

------------------------------------------------------------
-- Ranges
------------------------------------------------------------

namespace Draft

/- Cutting a range back leaves bounds of it, or unused ones. -/
theorem mem_cut_bounds
    {border : Border}
    {bounds : List Bound}
    {borders : List Border}
    {b : Bound}
    (h : b ∈ (cut border bounds borders).bounds) :
    b ∈ bounds ∨ b = Bound.unused := by
  fun_induction cut border bounds borders with
  | case1 => exact .inl h
  | case2 =>
      rcases List.mem_map.mp h with ⟨_, _, rfl⟩
      exact .inr rfl
  | case3 _ first bounds m borders _ _ ih =>
      rcases List.mem_cons.mp h with rfl | hLater
      · exact .inl List.mem_cons_self
      · exact (ih hLater).imp (List.mem_cons_of_mem first) id
  | case4 _ first bounds m borders _ =>
      rcases List.mem_cons.mp h with rfl | hLater
      · exact .inl List.mem_cons_self
      · rcases List.mem_map.mp hLater with ⟨_, _, rfl⟩
        exact .inr rfl

/- Cutting a draft back brings no string in. -/
theorem isUnder_normalise
    {d : Draft}
    (h : d.range.IsUnder c) :
    d.normalise.IsUnder c := by
  intro b hMember
  rcases mem_cut_bounds hMember with hBound | rfl
  · exact h b hBound
  · exact ⟨rfl, rfl⟩

end Draft

/- All strings of both drafts carry the collation. -/
structure Drafts.IsUnder
    (c : Collation)
    (d : Drafts) : Prop where
  one : d.one.range.IsUnder c
  two : d.two.range.IsUnder c

/- The invariant of a run: placing brings in just the value. -/
theorem Drafts.IsUnder.place
    {d : Drafts}
    {v : Value}
    (h : d.IsUnder c)
    (hValue : v.IsUnder c)
    (level : KeyLevel)
    (op : Comparator)
    (first second : Nat) :
    (d.place level op first second v).drafts.IsUnder c := by
  have hKept :=
    Drafts.place_keeps
      (P := (·.range.IsUnder c)) (Q := (·.range.IsUnder c))
      level h.one h.two
      (fun _ => Draft.isUnder_write h.one hValue op first)
      (fun _ => Draft.isUnder_write h.two hValue op second)
  exact ⟨hKept.1, hKept.2⟩

------------------------------------------------------------
-- Values
------------------------------------------------------------

/- Deriving keeps the collation of the source's value. -/
theorem PartKey.isUnder_of_derive
    {source : PartKey}
    {d : Dialect}
    {v w : Value}
    (h : v.IsUnder c)
    (hDerive : source.derive d v = .ok w) :
    w.IsUnder c := by
  have hSame : v.withCollation c = v := h
  have hMap := source.derive_withCollation d v c
  rw [hSame, hDerive, Except.map, Except.ok.injEq] at hMap
  exact hMap.symm

namespace Statement

variable {s : Statement}
variable {ev : Evaluator}

/-
  A default is under the session's collation, whether it
  was derived or not.
-/
theorem isUnder_of_keyDefault?
    {i : Nat}
    {key : PartKey}
    {v : Value}
    (h : s.keyDefault? ev i key = .ok (some v)) :
    v.IsUnder s.session.collation := by
  unfold keyDefault? at h
  split at h
  · cases h
  · next usable _ =>
      rcases Steps.bind_eq_ok_iff.mp h with
        ⟨w, hDefault, hRest⟩
      have hUnder : w.IsUnder s.session.collation :=
        withCollation_of_defaultValue hDefault
      split at hRest
      · cases hRest
        exact hUnder
      · rcases Steps.bind_eq_ok_iff.mp hRest with
          ⟨u, hDerive, hValue⟩
        cases hValue
        exact PartKey.isUnder_of_derive hUnder hDerive

------------------------------------------------------------
-- Runs
------------------------------------------------------------

variable {d : Drafts}

/-
  A step: a predicate leaves the drafts under the
  collation, whether it is placed, placed by half, or not
  at all.
-/
theorem isUnder_narrow
    (h : d.IsUnder s.session.collation)
    (p? : Option Predicate) :
    (s.narrow ev d p?).IsUnder s.session.collation := by
  cases p? with
  | none => exact h
  | some p =>
      cases hValue : s.predicateValue ev p with
      | error cause =>
          rw [narrow_of_error hValue]
          exact h
      | ok v =>
          rw [narrow_of_ok hValue]
          exact
            h.place (isUnder_of_predicateValue hValue) p.level
              p.op p.first.toNat p.second.toNat

/- A run over the predicates. -/
theorem isUnder_foldl_narrow
    (h : d.IsUnder s.session.collation)
    (predicates : List (Option Predicate)) :
    (predicates.foldl (s.narrow ev) d).IsUnder
      s.session.collation := by
  induction predicates generalizing d with
  | nil => exact h
  | cons p? rest ih => exact ih (isUnder_narrow h p?)

/- A run over the keys and their defaults. -/
theorem isUnder_of_placeDefaults
    {i : Nat}
    {keys : List PartKey}
    {d' : Drafts}
    (h : d.IsUnder s.session.collation)
    (hPlaced : s.placeDefaults ev i keys d = .ok d') :
    d'.IsUnder s.session.collation := by
  induction keys generalizing i d with
  | nil =>
      cases hPlaced
      exact h
  | cons key rest ih =>
      rcases Steps.bind_eq_ok_iff.mp hPlaced with
        ⟨v?, hDefault, hRest⟩
      cases v? with
      | none => exact ih h hRest
      | some v =>
          dsimp only at hRest
          split at hRest
          · cases hRest
          · have hUnder := isUnder_of_keyDefault? hDefault
            have hNext :=
              h.place hUnder key.level .eq
                key.position.toNat key.position.toNat
            exact ih hNext hRest

theorem isUnder_of_applyDefaults
    {d' : Drafts}
    (h : d.IsUnder s.session.collation)
    (hApplied : s.applyDefaults ev d = .ok d') :
    d'.IsUnder s.session.collation := by
  unfold applyDefaults at hApplied
  split at hApplied
  · exact isUnder_of_placeDefaults h hApplied
  · cases hApplied
    exact h

/- Ranges carry the session's collation. -/
theorem isUnder_of_result
    {ranges : Ranges}
    (h : (s.resolve ev).result = .ok ranges) :
    ranges.one.IsUnder s.session.collation ∧
      ranges.two.IsUnder s.session.collation := by
  rcases exists_of_result_resolve_eq_ok h with
    ⟨predicates, start, d, _, hStart, hDefaults, rfl⟩
  rcases startDrafts_eq_ok_iff.mp hStart with ⟨_, rfl⟩
  have hRun :=
    isUnder_of_applyDefaults
      (isUnder_foldl_narrow
        ⟨Draft.isUnder_untouched _,
          Draft.isUnder_untouched _⟩ predicates)
      hDefaults
  exact
    ⟨Draft.isUnder_normalise hRun.one,
      Draft.isUnder_normalise hRun.two⟩

/-
  Every string at the start or the end of a range carries
  the session's collation, whatever the evaluator gives.
-/
theorem collation_of_result
    {ranges : Ranges}
    (h : (s.resolve ev).result = .ok ranges)
    (r : KeyRange)
    (hRange : r = ranges.one ∨ r = ranges.two)
    (bytes : List UInt8)
    (c : Collation)
    (hEnd :
      .text bytes c ∈ r.lowerKey ∨ .text bytes c ∈ r.upperKey) :
    c = s.session.collation := by
  have hUnder : r.IsUnder s.session.collation := by
    rcases hRange with rfl | rfl
    · exact (isUnder_of_result h).1
    · exact (isUnder_of_result h).2
  have hText :
      (Value.text bytes c).IsUnder s.session.collation := by
    rcases hEnd with hLower | hUpper
    · rcases List.mem_map.mp hLower with ⟨b, hMember, hEq⟩
      rw [← hEq]
      exact (hUnder b hMember).lower
    · rcases List.mem_map.mp hUpper with ⟨b, hMember, hEq⟩
      rw [← hEq]
      exact (hUnder b hMember).upper
  cases hText
  rfl

/-
  An `INSERT` with strings under three collations.  The code
  is derived from the name, and the kind is left to its
  default.
-/
def kindInsert : Statement where
  config := ⟨⟨28⟩, 32⟩
  predicates? :=
    some
      [some ⟨0, 0, 0, .one, .eq, .text [0x61, 0x62, 0x63],
        false⟩]
  schema :=
    ⟨.one, ["code", "kind"], [],
      [⟨"name", .zero, 0, false, some 1, none,
          some (Generator.substring "name" (some 1) (some 2)),
          [], true⟩,
        ⟨"code", .one, 0, true, none, none, none, [], false⟩,
        ⟨"kind", .one, 1, false, none, none, none,
          [2, 33, 0, 1, 0, 0, 0, 0x78], false⟩],
      .mysql⟩
  session := Session.ofCollation ⟨46⟩
  request := default
  prepared? := none
  fields := default
  isInsert := true

/- The ranges of `kindInsert`. -/
def kindRanges : Ranges :=
  ⟨⟨[⟨.text [0x61, 0x62] ⟨46⟩, .text [0x61, 0x62] ⟨46⟩⟩,
        ⟨.text [0x78] ⟨46⟩, .text [0x78] ⟨46⟩⟩],
      ⟨true, true⟩⟩,
    ⟨[], ⟨false, false⟩⟩⟩

theorem collation_kindInsert :
    (kindInsert.resolve .builtin).result = .ok kindRanges ∧
      .text [0x78] ⟨46⟩ ∈ kindRanges.one.upperKey ∧
      (⟨46⟩ : Collation) = kindInsert.session.collation :=
  have hResult :
      (kindInsert.resolve .builtin).result = .ok kindRanges :=
    rfl
  have hEnd : .text [0x78] ⟨46⟩ ∈ kindRanges.one.upperKey := by
    decide
  ⟨hResult, hEnd,
    collation_of_result hResult _ (.inl rfl) [0x78] ⟨46⟩
      (.inr hEnd)⟩

end Statement

end PartitionPruning

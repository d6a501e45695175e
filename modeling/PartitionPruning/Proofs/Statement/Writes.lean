import PartitionPruning.Proofs.Range.History

/-
  The writes that a statement makes.

  A predicate with a value writes to the columns that it
  covers, and an `INSERT` then writes the defaults that it
  relies on.  The ranges of a statement are those of the
  histories that its writes leave.

  Key definitions include:
    * `Write`
    * `Write.history`
    * `Drafts.ofWrites`
    * `Statement.predicateWrites`
    * `Statement.defaultWrites`
    * `Statement.writes`

  Main declarations:
    * `Drafts.apply_ofWrites`
    * `Drafts.foldl_apply_ofWrites`
    * `Statement.ranges_eq_ofWrites`
-/

namespace PartitionPruning

open Statement (firstCount secondCount)

------------------------------------------------------------
-- Writes
------------------------------------------------------------

/-
  A comparison with its places among the columns of both
  levels, and the levels that it covers.
-/
structure Write where
  level : KeyLevel
  first : Nat
  second : Nat
  comparison : Comparison

namespace Write

/- The comparisons of each column of a level. -/
def history
    (covers : KeyLevel → Bool)
    (column : Write → Nat)
    (ws : List Write) : History :=
  fun i =>
    (ws.filter fun w =>
      covers w.level && decide (column w = i)).map comparison

/-
  One more write is one more comparison on its column, if
  it covers the level.
-/
theorem history_append_singleton
    (covers : KeyLevel → Bool)
    (column : Write → Nat)
    (ws : List Write)
    (w : Write) :
    history covers column (ws ++ [w]) =
      if covers w.level then
        (history covers column ws).extend (column w)
          w.comparison
      else history covers column ws := by
  funext i
  unfold history
  rw [List.filter_append, List.map_append]
  cases hCovers : covers w.level with
  | false => simp [hCovers]
  | true =>
      rw [if_pos rfl]
      unfold History.extend
      by_cases hColumn : column w = i <;>
        simp [hCovers, hColumn]

/-
  A write to both levels goes to level one first, and does
  not go on to level two past a column that does not exist.
-/
def passesOne
    (s : Schema)
    (w : Write) : Bool :=
  !w.level.coversOne || decide (w.first < firstCount s)

/- The comparisons that reach each column of level one. -/
def historyOne
    (ws : List Write) : History :=
  history KeyLevel.coversOne first ws

/- The comparisons that reach each column of level two. -/
def historyTwo
    (s : Schema)
    (ws : List Write) : History :=
  history KeyLevel.coversTwo second (ws.filter (passesOne s))

/- A write counts in level two only if it passed level one. -/
theorem historyTwo_append_singleton
    (s : Schema)
    (ws : List Write)
    (w : Write) :
    historyTwo s (ws ++ [w]) =
      if w.level.coversTwo && w.passesOne s then
        (historyTwo s ws).extend w.second w.comparison
      else historyTwo s ws := by
  unfold historyTwo
  rw [List.filter_append]
  cases hPasses : w.passesOne s with
  | false => simp [hPasses]
  | true =>
      have hKept : [w].filter (passesOne s) = [w] := by
        simp [hPasses]
      rw [hKept, history_append_singleton, Bool.and_true]

end Write

------------------------------------------------------------
-- Drafts
------------------------------------------------------------

/- Writing beyond the columns changes nothing. -/
theorem Draft.HasColumns.write_of_le
    {d : Draft}
    {count index : Nat}
    (h : d.HasColumns count)
    (hIndex : count ≤ index)
    (op : Comparator)
    (v : Value) :
    d.write op index v = d := by
  have hBounds :
      d.range.bounds.modify index (·.set op v) =
        d.range.bounds :=
    List.modify_eq_self (by rw [h.bounds]; exact hIndex)
  have hBorders :
      d.borders.modify index (·.close op) = d.borders :=
    List.modify_eq_self (by rw [h.borders]; exact hIndex)
  rw [Draft.write, hBounds, hBorders]

namespace Drafts

/- The drafts after a write, whether or not it fails. -/
def apply
    (d : Drafts)
    (w : Write) : Drafts :=
  (d.place w.level w.comparison.op w.first w.second
    w.comparison.value).drafts

variable {d : Drafts}
variable {s : Schema}

/- A write is applied in level one where it covers it. -/
theorem Fits.one_apply
    (h : d.Fits s)
    (w : Write) :
    (d.apply w).one =
      if w.level.coversOne then
        d.one.write w.comparison.op w.first w.comparison.value
      else d.one := by
  unfold apply
  rw [h.place_eq]
  by_cases hOutside :
      w.level.coversOne = true ∧ firstCount s ≤ w.first
  · rw [if_pos hOutside, if_pos hOutside.1,
      h.one.write_of_le hOutside.2]
  · rw [if_neg hOutside]
    split <;> rfl

/-
  A write is applied in level two where it covers it and
  did not fail in level one.
-/
theorem Fits.two_apply
    (h : d.Fits s)
    (w : Write) :
    (d.apply w).two =
      if w.level.coversTwo && w.passesOne s then
        d.two.write w.comparison.op w.second
          w.comparison.value
      else d.two := by
  unfold apply Write.passesOne
  rw [h.place_eq]
  by_cases hOutside :
      w.level.coversOne = true ∧ firstCount s ≤ w.first
  · have hMissing : ¬ w.first < firstCount s :=
      Nat.not_lt.mpr hOutside.2
    simp [hOutside.1, hOutside.2, hMissing]
  · have hPasses :
        (!w.level.coversOne ||
          decide (w.first < firstCount s)) = true := by
      cases hCovers : w.level.coversOne with
      | false => rfl
      | true => simpa [hCovers] using hOutside
    rw [if_neg hOutside, hPasses, Bool.and_true]
    by_cases hBeyond :
        w.level.coversTwo = true ∧ secondCount s ≤ w.second
    · rw [if_pos hBeyond, if_pos hBeyond.1,
        h.two.write_of_le hBeyond.2]
      rfl
    · rw [if_neg hBeyond]
      rfl

/- The drafts of a table with the histories of writes. -/
def ofWrites
    (s : Schema)
    (ws : List Write) : Drafts :=
  ⟨Draft.ofHistory (firstCount s) (Write.historyOne ws),
    Draft.ofHistory (secondCount s) (Write.historyTwo s ws)⟩

theorem fits_ofWrites
    (s : Schema)
    (ws : List Write) :
    (ofWrites s ws).Fits s :=
  ⟨Draft.hasColumns_ofHistory _ _,
    Draft.hasColumns_ofHistory _ _⟩

/- One write: the histories of the drafts grow by it. -/
theorem apply_ofWrites
    (s : Schema)
    (ws : List Write)
    (w : Write) :
    (ofWrites s ws).apply w = ofWrites s (ws ++ [w]) := by
  have hFits := fits_ofWrites s ws
  have hOne :
      ((ofWrites s ws).apply w).one =
        (ofWrites s (ws ++ [w])).one := by
    rw [hFits.one_apply]
    unfold ofWrites Write.historyOne
    rw [Write.history_append_singleton]
    split
    · exact Draft.write_ofHistory _ _ _ _ _
    · rfl
  have hTwo :
      ((ofWrites s ws).apply w).two =
        (ofWrites s (ws ++ [w])).two := by
    rw [hFits.two_apply]
    unfold ofWrites
    rw [Write.historyTwo_append_singleton]
    split
    · exact Draft.write_ofHistory _ _ _ _ _
    · rfl
  exact congr (congrArg Drafts.mk hOne) hTwo

/- A run of writes: the histories grow by all of them. -/
theorem foldl_apply_ofWrites
    (s : Schema)
    (before ws : List Write) :
    ws.foldl Drafts.apply (ofWrites s before) =
      ofWrites s (before ++ ws) := by
  induction ws generalizing before with
  | nil => rw [List.foldl_nil, List.append_nil]
  | cons w ws ih =>
      rw [List.foldl_cons, apply_ofWrites, ih,
        List.append_assoc, List.singleton_append]

end Drafts

------------------------------------------------------------
-- Writes Of A Statement
------------------------------------------------------------

namespace Statement

variable {s : Statement}
variable {ev : Evaluator}

/- What a predicate writes, if it has a value. -/
def predicateWrite?
    (s : Statement)
    (ev : Evaluator)
    (p? : Option Predicate) : Option Write :=
  match p? with
  | none => none
  | some p =>
      match s.predicateValue ev p with
      | .error _ => none
      | .ok v =>
          some ⟨p.level, p.first.toNat, p.second.toNat,
            ⟨p.op, v⟩⟩

/- What predicates write, one after another. -/
def predicateWrites
    (s : Statement)
    (ev : Evaluator)
    (predicates : List (Option Predicate)) : List Write :=
  predicates.filterMap (s.predicateWrite? ev)

/- Predicates narrow the drafts by their writes, in order. -/
theorem foldl_narrow
    (s : Statement)
    (ev : Evaluator)
    (d : Drafts)
    (predicates : List (Option Predicate)) :
    predicates.foldl (s.narrow ev) d =
      (s.predicateWrites ev predicates).foldl
        Drafts.apply d := by
  unfold predicateWrites
  induction predicates generalizing d with
  | nil => rfl
  | cons p? rest ih =>
      rw [List.foldl_cons, ih]
      cases p? with
      | none => rfl
      | some p =>
          cases hValue : s.predicateValue ev p with
          | error cause =>
              have hNone :
                  s.predicateWrite? ev (some p) = none := by
                simp [predicateWrite?, hValue]
              rw [narrow_of_error hValue,
                List.filterMap_cons_none hNone]
          | ok v =>
              have hSome :
                  s.predicateWrite? ev (some p) =
                    some ⟨p.level, p.first.toNat,
                      p.second.toNat, ⟨p.op, v⟩⟩ := by
                simp [predicateWrite?, hValue]
              rw [narrow_of_ok hValue,
                List.filterMap_cons_some hSome]
              rfl

/- A default pins its key in every level that it covers. -/
def defaultWrite
    (key : PartKey)
    (v : Value) : Write :=
  ⟨key.level, key.position.toNat, key.position.toNat, ⟨.eq, v⟩⟩

/- What the defaults of keys write, from index `i` on. -/
def defaultWrites
    (s : Statement)
    (ev : Evaluator) :
    Nat → List PartKey → List Write
  | _, [] => []
  | i, key :: rest =>
      let others := s.defaultWrites ev (i + 1) rest
      match s.keyDefault? ev i key with
      | .ok (some v) => defaultWrite key v :: others
      | .ok none => others
      | .error _ => others

/- Defaults that are all placed are writes one after another. -/
theorem foldl_defaultWrites
    {i : Nat}
    {keys : List PartKey}
    {d d' : Drafts}
    (h : s.placeDefaults ev i keys d = .ok d') :
    (s.defaultWrites ev i keys).foldl Drafts.apply d =
      d' := by
  induction keys generalizing i d with
  | nil =>
      cases h
      rfl
  | cons key rest ih =>
      unfold placeDefaults at h
      rcases Steps.bind_eq_ok_iff.mp h with
        ⟨v?, hDefault, hRest⟩
      cases v? with
      | none =>
          simp only [defaultWrites, hDefault]
          exact ih hRest
      | some v =>
          simp only [defaultWrites, hDefault, List.foldl_cons]
          dsimp only at hRest
          split at hRest
          · cases hRest
          · exact ih hRest

/- All that a statement with given predicates writes. -/
def writes
    (s : Statement)
    (ev : Evaluator)
    (predicates : List (Option Predicate)) : List Write :=
  s.predicateWrites ev predicates ++
    if s.isInsert then s.defaultWrites ev 0 s.schema.keys
    else []

/- A run starts from the drafts that no write has reached. -/
theorem startDrafts_eq_ofWrites
    {schema : Schema}
    {start : Drafts}
    (h : startDrafts schema = .ok start) :
    start = Drafts.ofWrites schema [] := by
  rw [(startDrafts_eq_ok_iff.mp h).2,
    ← Draft.ofHistory_empty, ← Draft.ofHistory_empty]
  rfl

/- Ranges are those of the histories that the writes leave. -/
theorem ranges_eq_ofWrites
    {ranges : Ranges}
    {predicates : List (Option Predicate)}
    (hPredicates : s.predicates? = some predicates)
    (hResult : (s.resolve ev).result = .ok ranges) :
    ranges =
      ⟨KeyRange.ofHistory (firstCount s.schema)
          (Write.historyOne (s.writes ev predicates)),
        KeyRange.ofHistory (secondCount s.schema)
          (Write.historyTwo s.schema
            (s.writes ev predicates))⟩ := by
  rcases exists_of_result_resolve_eq_ok hResult with
    ⟨others, start, d, hOthers, hStart, hDefaults, rfl⟩
  have hEq : others = predicates :=
    Option.some.inj (hOthers.symm.trans hPredicates)
  subst hEq
  rw [foldl_narrow, startDrafts_eq_ofWrites hStart,
    Drafts.foldl_apply_ofWrites, List.nil_append] at hDefaults
  have hWrites :
      Drafts.ofWrites s.schema (s.writes ev others) = d := by
    unfold writes
    unfold applyDefaults at hDefaults
    split at hDefaults
    · next hInsert =>
        rw [if_pos hInsert, ← Drafts.foldl_apply_ofWrites]
        exact foldl_defaultWrites hDefaults
    · next hInsert =>
        rw [if_neg hInsert, List.append_nil]
        exact Except.ok.inj hDefaults
  rw [← hWrites, Drafts.toRanges]
  unfold Drafts.ofWrites
  rw [Draft.normalise_ofHistory, Draft.normalise_ofHistory]

end Statement

end PartitionPruning

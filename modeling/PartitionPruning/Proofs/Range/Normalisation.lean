import PartitionPruning.Range.Draft

/-
  What cutting a draft back depends on.

  Cutting back looks at the columns one after another, as
  long as there are borders, and stops at the first that is
  not exact.  Nothing after that column plays a part, and
  cutting back again changes nothing.

  Key definitions include:
    * `Draft.divergence?`
    * `Draft.cutBack`
    * `Draft.AgreesUpTo`

  Main declarations:
    * `Draft.getElem?_bounds_cut`
    * `Draft.cut_cut`
    * `Draft.cut_eq_of_take_eq`
    * `Draft.normalise_exactPrefix`
-/

namespace PartitionPruning

namespace Draft

variable {bounds bounds' : List Bound}
variable {borders borders' : List Border}
variable {k : Nat}

------------------------------------------------------------
-- Columns That Are Kept
------------------------------------------------------------

/- A column after exact ones only is not cut off. -/
theorem getElem?_bounds_cut
    {border : Border}
    (hBorders : k < borders.length)
    (hExact :
      ∀ i < k, ∃ b, bounds[i]? = some b ∧ b.isExact = true) :
    (cut border bounds borders).bounds[k]? = bounds[k]? := by
  induction bounds generalizing border borders k with
  | nil => simp [cut]
  | cons b bounds ih =>
      cases borders with
      | nil => cases hBorders
      | cons m borders =>
          cases k with
          | zero =>
              by_cases hHead : b.isExact <;>
                simp [cut, hHead]
          | succ k =>
              rcases hExact 0 (Nat.succ_pos k) with
                ⟨_, hGet, hHead⟩
              cases hGet
              have hTail :
                  (cut m bounds borders).bounds[k]? =
                    bounds[k]? := by
                apply ih
                · exact Nat.lt_of_succ_lt_succ hBorders
                · intro i hi
                  exact hExact (i + 1) (Nat.succ_lt_succ hi)
              simpa [cut, hHead] using hTail

/-
  The first column that is not exact, among those that have
  a border.
-/
def divergence?
    (d : Draft) : Option Nat :=
  (d.range.bounds.take d.borders.length).findIdx? fun b =>
    !b.isExact

variable {d : Draft}

/- The columns before an index are exact unless one diverges. -/
theorem isExact_of_divergence?
    (hBounds : k < d.range.bounds.length)
    (hBorders : k < d.borders.length)
    (hFirst : ∀ j, d.divergence? = some j → k ≤ j) :
    ∀ i < k, ∃ b, d.range.bounds[i]? = some b ∧
      b.isExact = true := by
  intro i hi
  have hGet :
      d.range.bounds[i]? = some d.range.bounds[i] :=
    List.getElem?_eq_getElem (Nat.lt_trans hi hBounds)
  refine ⟨d.range.bounds[i], hGet, ?_⟩
  have hTake :
      (d.range.bounds.take d.borders.length)[i]? =
        some d.range.bounds[i] := by
    rw [List.getElem?_take_of_lt (Nat.lt_trans hi hBorders),
      hGet]
  rcases List.getElem?_eq_some_iff.mp hTake with
    ⟨hLess, hAt⟩
  cases hDivergence : d.divergence? with
  | none =>
      have hAll :=
        List.findIdx?_eq_none_iff.mp hDivergence
          d.range.bounds[i] (List.mem_of_getElem? hTake)
      simpa using hAll
  | some j =>
      rcases List.findIdx?_eq_some_iff_getElem.mp hDivergence
        with ⟨_, _, hBefore⟩
      have hOther :=
        hBefore i (Nat.lt_of_lt_of_le hi (hFirst j hDivergence))
      rw [hAt] at hOther
      simpa using hOther

/- Columns up to the first that diverges are kept. -/
theorem getElem?_bounds_normalise
    (hBorders : k < d.borders.length)
    (hFirst : ∀ j, d.divergence? = some j → k ≤ j) :
    d.normalise.bounds[k]? = d.range.bounds[k]? := by
  by_cases hBounds : k < d.range.bounds.length
  · exact
      getElem?_bounds_cut hBorders
        (isExact_of_divergence? hBounds hBorders hFirst)
  · have hWidth := d.columnCount_normalise
    unfold KeyRange.columnCount at hWidth
    rw [List.getElem?_eq_none (by omega),
      List.getElem?_eq_none (by omega)]

------------------------------------------------------------
-- Cutting Back Again
------------------------------------------------------------

/- The range cut back, with the same borders. -/
def cutBack
    (d : Draft) : Draft :=
  ⟨d.normalise, d.borders⟩

/- Where there are columns and borders, the border is theirs. -/
theorem cut_congr_border
    (border border' : Border)
    (hBounds : bounds ≠ [])
    (hBorders : borders ≠ []) :
    cut border bounds borders = cut border' bounds borders := by
  cases bounds with
  | nil => exact absurd rfl hBounds
  | cons b bounds =>
      cases borders with
      | nil => exact absurd rfl hBorders
      | cons m borders => rfl

theorem cut_cut
    (border : Border)
    (bounds : List Bound)
    (borders : List Border) :
    cut border (cut border bounds borders).bounds borders =
      cut border bounds borders := by
  fun_induction cut border bounds borders with
  | case1 border borders => simp [cut]
  | case2 border bounds hSome =>
      cases bounds with
      | nil => exact absurd rfl hSome
      | cons b bounds => simp [cut]
  | case3 border b bounds m borders hExact tail ih =>
      simp [cut, hExact, ih, tail]
  | case4 border b bounds m borders hOpen =>
      simp [cut, hOpen]

/- Otherwise the border that was there stays. -/
theorem border_cut
    (border : Border)
    (h : bounds = [] ∨ borders = []) :
    (cut border bounds borders).border = border := by
  rcases h with rfl | rfl
  · rfl
  · cases bounds <;> rfl

/- Cutting back twice is cutting back once. -/
theorem normalise_cutBack
    (d : Draft) :
    d.cutBack.normalise = d.normalise := by
  have hCut :
      d.cutBack.normalise =
        cut d.normalise.border d.normalise.bounds d.borders :=
    rfl
  have hAgain :
      cut d.range.border d.normalise.bounds d.borders =
        d.normalise :=
    cut_cut d.range.border d.range.bounds d.borders
  by_cases hNone : d.range.bounds = [] ∨ d.borders = []
  · have hBorder : d.normalise.border = d.range.border :=
      border_cut d.range.border hNone
    rw [hCut, hBorder, hAgain]
  · rw [not_or] at hNone
    have hKept : d.normalise.bounds ≠ [] := by
      intro hEmpty
      have hWidth := d.columnCount_normalise
      unfold KeyRange.columnCount at hWidth
      rw [hEmpty, List.length_nil] at hWidth
      exact hNone.1 (List.length_eq_zero_iff.mp hWidth.symm)
    rw [hCut, cut_congr_border _ d.range.border hKept hNone.2,
      hAgain]

------------------------------------------------------------
-- Columns That Do Not Count
------------------------------------------------------------

/-
  Ranges of one width are cut back alike if they and their
  borders agree up to the first column that is not exact.
-/
theorem cut_eq_of_take_eq
    {border border' : Border}
    (hDivergence :
      ((bounds.take borders.length).findIdx? fun b =>
        !b.isExact) = some k)
    (hLength : bounds'.length = bounds.length)
    (hBounds : bounds'.take (k + 1) = bounds.take (k + 1))
    (hBorders :
      borders'.take (k + 1) = borders.take (k + 1)) :
    cut border' bounds' borders' =
      cut border bounds borders := by
  induction bounds
      generalizing border border' bounds' borders borders' k with
  | nil => simp at hDivergence
  | cons b bounds ih =>
      cases borders with
      | nil => simp at hDivergence
      | cons m borders =>
          -- The first columns agree, whichever they are.
          rcases bounds' with _ | ⟨b', bounds'⟩
          · cases hLength
          rcases borders' with _ | ⟨m', borders'⟩
          · cases hBorders
          rw [List.take_succ_cons, List.take_succ_cons,
            List.cons.injEq] at hBounds hBorders
          rcases hBounds with ⟨rfl, hBounds⟩
          rcases hBorders with ⟨rfl, hBorders⟩
          rw [List.length_cons, List.length_cons,
            Nat.add_right_cancel_iff] at hLength
          rw [List.length_cons, List.take_succ_cons,
            List.findIdx?_cons] at hDivergence
          by_cases hExact : b'.isExact
          · rw [hExact, Bool.not_true, if_neg Bool.false_ne_true,
              Option.map_eq_some_iff] at hDivergence
            rcases hDivergence with ⟨j, hLater, rfl⟩
            rw [cut, cut, if_pos hExact, if_pos hExact,
              ih hLater hLength hBounds hBorders]
          · rw [cut, cut, if_neg hExact, if_neg hExact,
              List.map_const', List.map_const', hLength]

/- Two drafts have the same columns and borders up to an index. -/
def AgreesUpTo
    (d other : Draft)
    (k : Nat) : Prop :=
  d.range.bounds.take (k + 1) =
      other.range.bounds.take (k + 1) ∧
    d.borders.take (k + 1) = other.borders.take (k + 1)

/-
  Cutting back again changes nothing, no cut changes the
  number of columns, or a column up to the first that is not
  exact, and the result depends on the columns and borders
  up to that one only.
-/
theorem normalise_exactPrefix
    (d : Draft) :
    d.cutBack.normalise = d.normalise ∧
      d.normalise.columnCount = d.range.columnCount ∧
      (∀ i < d.borders.length,
        (∀ k, d.divergence? = some k → i ≤ k) →
          d.normalise.bounds[i]? = d.range.bounds[i]?) ∧
      ∀ k, d.divergence? = some k →
        ∀ other : Draft,
          other.range.columnCount = d.range.columnCount →
            other.AgreesUpTo d k →
              other.normalise = d.normalise := by
  refine
    ⟨d.normalise_cutBack, d.columnCount_normalise, ?_, ?_⟩
  · intro i hBorders hFirst
    exact getElem?_bounds_normalise hBorders hFirst
  · rintro k hDivergence other hWidth ⟨hBounds, hBorders⟩
    exact
      cut_eq_of_take_eq hDivergence hWidth hBounds hBorders

/- One tenant from its third month on, and a single day. -/
def fromMarch : Draft :=
  ⟨⟨[⟨.int 5, .int 5⟩, ⟨.int 3, .null⟩, ⟨.int 7, .int 7⟩],
      .exclusive⟩,
    [⟨true, true⟩, ⟨true, false⟩, ⟨true, true⟩]⟩

/- The same without a day and without a border for it. -/
def fromMarchOn : Draft :=
  ⟨⟨[⟨.int 5, .int 5⟩, ⟨.int 3, .null⟩, .unset],
      ⟨false, true⟩⟩,
    [⟨true, true⟩, ⟨true, false⟩]⟩

/- The month is kept, and the day does not count. -/
theorem normalise_fromMarch :
    fromMarch.divergence? = some 1 ∧
      fromMarchOn.range.columnCount =
        fromMarch.range.columnCount ∧
      fromMarchOn.AgreesUpTo fromMarch 1 ∧
      fromMarchOn.normalise = fromMarch.normalise ∧
      fromMarch.normalise.bounds[1]? =
        fromMarch.range.bounds[1]? ∧
      fromMarch.cutBack.normalise = fromMarch.normalise := by
  have hDivergence : fromMarch.divergence? = some 1 := rfl
  have hAgrees : fromMarchOn.AgreesUpTo fromMarch 1 :=
    ⟨rfl, rfl⟩
  have hFirst : ∀ k, fromMarch.divergence? = some k → 1 ≤ k := by
    intro k hk
    rw [hDivergence, Option.some.injEq] at hk
    exact Nat.le_of_eq hk
  rcases normalise_exactPrefix fromMarch with
    ⟨hAgain, _, hKept, hPrefix⟩
  have hSame := hPrefix 1 hDivergence fromMarchOn rfl hAgrees
  have hMonth := hKept 1 (by decide) hFirst
  exact ⟨hDivergence, rfl, hAgrees, hSame, hMonth, hAgain⟩

end Draft

end PartitionPruning

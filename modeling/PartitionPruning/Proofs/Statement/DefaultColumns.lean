import PartitionPruning.Proofs.Statement.DefaultPins

/-
  The columns that defaults are written to.

  A default should land on the columns of its own key and
  nowhere else.  A key has one position, though, which for a
  key of both levels is that of level one.  Where the
  columns of level two come in another order, the default of
  such a key strays to the column of another.

  Key definitions include:
    * `Draft.SameBut`
    * `Schema.Positioned`
    * `Schema.IsOpen`
    * `Schema.Strays`

  Main declarations:
    * `Drafts.sameBut_foldl_apply`
    * `Statement.exists_of_mem_defaultWrites`
    * `Statement.isClosed_of_placeDefaults`
    * `Statement.placeDefaults_sameBut`
-/

namespace PartitionPruning

------------------------------------------------------------
-- Drafts That Differ In Few Columns
------------------------------------------------------------

namespace Draft

/- Nothing but columns of a kind differs between drafts. -/
structure SameBut
    (p : Nat → Prop)
    (d d' : Draft) : Prop where
  border : d'.range.border = d.range.border
  bounds :
    ∀ i, ¬ p i → d'.range.bounds[i]? = d.range.bounds[i]?
  borders : ∀ i, ¬ p i → d'.borders[i]? = d.borders[i]?

variable {p : Nat → Prop}
variable {d d' : Draft}

theorem SameBut.refl
    (p : Nat → Prop)
    (d : Draft) :
    d.SameBut p d :=
  ⟨rfl, fun _ _ => rfl, fun _ _ => rfl⟩

/- One more write to a column of the kind. -/
theorem SameBut.write
    {index : Nat}
    (h : d.SameBut p d')
    (hIndex : p index)
    (op : Comparator)
    (v : Value) :
    d.SameBut p (d'.write op index v) where
  border := h.border
  bounds := by
    intro i hOther
    have hNe : index ≠ i := fun hEq => hOther (hEq ▸ hIndex)
    rw [getElem?_bounds_write, if_neg hNe]
    exact h.bounds i hOther
  borders := by
    intro i hOther
    have hNe : index ≠ i := fun hEq => hOther (hEq ▸ hIndex)
    rw [getElem?_borders_write, if_neg hNe]
    exact h.borders i hOther

/- Both ends of a column belong to its range. -/
def IsClosed
    (d : Draft)
    (i : Nat) : Prop :=
  d.borders[i]? = some ⟨true, true⟩

instance
    (d : Draft)
    (i : Nat) :
    Decidable (d.IsClosed i) := by
  unfold IsClosed
  infer_instance

/- No comparison opens a closed column. -/
theorem IsClosed.write
    {i : Nat}
    (h : d.IsClosed i)
    (op : Comparator)
    (index : Nat)
    (v : Value) :
    (d.write op index v).IsClosed i := by
  unfold IsClosed at h ⊢
  rw [getElem?_borders_write, h]
  split <;> simp [Border.close]

/- Pinning a column closes it. -/
theorem isClosed_of_place
    {index : Nat}
    {v : Value}
    (h : d.place .eq index v = .ok d') :
    d'.IsClosed index := by
  unfold place at h
  split at h
  · next hIndex =>
      cases h
      simp [IsClosed, hIndex.2, Border.close,
        Comparator.closesBelow, Comparator.closesAbove]
  · cases h

end Draft

namespace Drafts

/-
  A run of writes changes no columns but those that they are
  placed at.
-/
theorem sameBut_foldl_apply
    {p q : Nat → Prop}
    {ws : List Write}
    (hOne : ∀ w ∈ ws, w.level.coversOne = true → p w.first)
    (hTwo : ∀ w ∈ ws, w.level.coversTwo = true → q w.second)
    (d : Drafts) :
    d.one.SameBut p (ws.foldl apply d).one ∧
      d.two.SameBut q (ws.foldl apply d).two := by
  -- The run starts from drafts that writes have changed.
  suffices hRun :
      ∀ d', d.one.SameBut p d'.one → d.two.SameBut q d'.two →
        d.one.SameBut p (ws.foldl apply d').one ∧
          d.two.SameBut q (ws.foldl apply d').two from
    hRun d (.refl p d.one) (.refl q d.two)
  induction ws with
  | nil => exact fun d' h h' => ⟨h, h'⟩
  | cons w ws ih =>
      intro d' hSameOne hSameTwo
      have hStep :=
        place_keeps (P := d.one.SameBut p)
          (Q := d.two.SameBut q) w.level hSameOne hSameTwo
          (fun hCovers =>
            hSameOne.write (hOne w (by simp) hCovers)
              w.comparison.op w.comparison.value)
          (fun hCovers =>
            hSameTwo.write (hTwo w (by simp) hCovers)
              w.comparison.op w.comparison.value)
      refine ih ?_ ?_ _ hStep.1 hStep.2
      · exact fun u hMember => hOne u (by simp [hMember])
      · exact fun u hMember => hTwo u (by simp [hMember])

/- What is closed in level two stays so while writes go on. -/
theorem isClosed_foldl_apply
    {d : Drafts}
    {i : Nat}
    (h : d.two.IsClosed i)
    (ws : List Write) :
    (ws.foldl apply d).two.IsClosed i := by
  induction ws generalizing d with
  | nil => exact h
  | cons w ws ih =>
      have hStep : (d.apply w).two.IsClosed i := by
        rcases (d.place_cases w.level w.comparison.op w.first
            w.second w.comparison.value).2 with
          hSame | ⟨_, hWrite⟩
        · rw [apply, hSame]
          exact h
        · rw [apply, hWrite]
          exact h.write _ _ _
      exact ih hStep

/- A value that is placed in level two closes its column. -/
theorem isClosed_of_place
    {d : Drafts}
    {level : KeyLevel}
    {first second : Nat}
    {v : Value}
    (hCovers : level.coversTwo = true)
    (h : (d.place level .eq first second v).failure? = none) :
    (d.place level .eq first second v).drafts.two.IsClosed
      second := by
  unfold place at h ⊢
  dsimp only at h ⊢
  generalize
    (if level.coversOne then d.one.place .eq first v
      else .ok d.one) = one? at h ⊢
  cases one? with
  | error failure => cases h
  | ok one =>
      cases hTwo : d.two.place .eq second v with
      | error failure => simp [hCovers, hTwo] at h
      | ok two =>
          simp only [hCovers, if_true]
          exact Draft.isClosed_of_place hTwo

end Drafts

------------------------------------------------------------
-- Columns Of Keys
------------------------------------------------------------

namespace Schema

/-
  Every key is at the place of its name among the columns of
  its level, which is level one for a key of both levels.
  Level two has a column of such a key as well.
-/
structure Positioned
    (s : Schema) : Prop where
  one :
    ∀ key ∈ s.keys, key.level.coversOne = true →
      s.columns[key.position.toNat]? = some key.name
  two :
    ∀ key ∈ s.keys, key.level = .two →
      s.subColumns[key.position.toNat]? = some key.name
  both :
    ∀ key ∈ s.keys, key.level = .both →
      key.name ∈ s.subColumns

/- The column has the name of a key that is left out. -/
def IsOpen
    (s : Schema)
    (columns : List String)
    (i : Nat) : Prop :=
  ∃ key ∈ s.keys, key.inStatement = false ∧
    columns[i]? = some key.name

instance
    (s : Schema)
    (columns : List String)
    (i : Nat) :
    Decidable (s.IsOpen columns i) := by
  unfold IsOpen
  infer_instance

/-
  A key of both levels can use a default, but its position
  in level two is that of no key that is left out.
-/
structure Strays
    (s : Schema)
    (i : Nat)
    (key : PartKey) : Prop where
  level : key.level = .both
  canUse : ∃ usable, s.CanUse i key usable
  notOpen : ¬ s.IsOpen s.subColumns key.position.toNat

/-
  Only a key that the statement leaves out can use a
  default.
-/
theorem CanUse.inStatement_eq_false
    {s : Schema}
    {i : Nat}
    {key : PartKey}
    {usable : UsableDefault}
    (h : s.CanUse i key usable) :
    key.inStatement = false := by
  cases h with
  | own isOpen => exact isOpen
  | ofSource isOpen => exact isOpen

end Schema

------------------------------------------------------------
-- Defaults
------------------------------------------------------------

namespace Statement

variable {s : Statement}
variable {ev : Evaluator}
variable {i : Nat}
variable {keys : List PartKey}
variable {d d' : Drafts}

/- The keys that get a value are those with a default. -/
theorem isSome_iff_canUse
    {key : PartKey}
    {v? : Option Value}
    (h : s.keyDefault? ev i key = .ok v?) :
    v?.isSome = true ↔
      ∃ usable, s.schema.CanUse i key usable := by
  simp only [← Schema.usableDefault?_eq_some_iff]
  unfold keyDefault? at h
  cases hUsable : s.schema.usableDefault? i key with
  | none =>
      rw [hUsable] at h
      cases h
      simp
  | some usable =>
      simp only [hUsable] at h
      rcases Steps.bind_eq_ok_iff.mp h with ⟨v, _, hRest⟩
      have hSome : v?.isSome = true := by
        split at hRest
        · cases hRest
          rfl
        · rcases Steps.bind_eq_ok_iff.mp hRest with
            ⟨w, _, hDone⟩
          cases hDone
          rfl
      exact iff_of_true hSome ⟨usable, rfl⟩

/- Defaults are written at the positions of their keys. -/
theorem exists_of_mem_defaultWrites
    {w : Write}
    (h : w ∈ s.defaultWrites ev i keys) :
    ∃ j key usable v, keys[j]? = some key ∧
      s.schema.CanUse (i + j) key usable ∧
      w = defaultWrite key v := by
  induction keys generalizing i with
  | nil => cases h
  | cons key rest ih =>
      have hLater (hRest : w ∈ s.defaultWrites ev (i + 1) rest) :
          ∃ j other usable v, (key :: rest)[j]? = some other ∧
            s.schema.CanUse (i + j) other usable ∧
            w = defaultWrite other v := by
        rcases ih hRest with
          ⟨j, other, usable, v, hKey, hCanUse, hWrite⟩
        rw [Nat.add_right_comm, Nat.add_assoc] at hCanUse
        exact ⟨j + 1, other, usable, v, hKey, hCanUse, hWrite⟩
      unfold defaultWrites at h
      dsimp only at h
      split at h
      · next v hDefault =>
          rcases List.mem_cons.mp h with rfl | hRest
          · rcases (isSome_iff_canUse hDefault).mp rfl with
              ⟨usable, hCanUse⟩
            exact ⟨0, key, usable, v, rfl, hCanUse, rfl⟩
          · exact hLater hRest
      · exact hLater h
      · exact hLater h

/-
  Defaults that are all placed close the columns at the
  positions of their keys in level two.
-/
theorem isClosed_of_placeDefaults
    {j : Nat}
    {key : PartKey}
    {usable : Schema.UsableDefault}
    (h : s.placeDefaults ev i keys d = .ok d')
    (hKey : keys[j]? = some key)
    (hCanUse : s.schema.CanUse (i + j) key usable)
    (hCovers : key.level.coversTwo = true) :
    d'.two.IsClosed key.position.toNat := by
  induction keys generalizing i j d with
  | nil => cases hKey
  | cons first rest ih =>
      unfold placeDefaults at h
      rcases Steps.bind_eq_ok_iff.mp h with
        ⟨v?, hDefault, hRest⟩
      cases j with
      | zero =>
          cases hKey
          have hSome :=
            (isSome_iff_canUse hDefault).mpr ⟨usable, hCanUse⟩
          rcases Option.isSome_iff_exists.mp hSome with ⟨v, rfl⟩
          dsimp only at hRest
          split at hRest
          · cases hRest
          · next hPlaced =>
              -- The defaults after this one are writes too,
              -- and leave closed what it has closed.
              rw [← foldl_defaultWrites hRest]
              exact
                Drafts.isClosed_foldl_apply
                  (Drafts.isClosed_of_place hCovers hPlaced) _
      | succ j =>
          rw [← Nat.add_assoc, Nat.add_right_comm] at hCanUse
          cases v? with
          | none => exact ih hRest hKey hCanUse
          | some v =>
              dsimp only at hRest
              split at hRest
              · cases hRest
              · exact ih hRest hKey hCanUse

/- In level one a default is at the column of its key. -/
theorem isOpen_of_coversOne
    {w : Write}
    (hPositioned : s.schema.Positioned)
    (hMember : w ∈ s.defaultWrites ev 0 s.schema.keys)
    (hCovers : w.level.coversOne = true) :
    s.schema.IsOpen s.schema.columns w.first := by
  rcases exists_of_mem_defaultWrites hMember with
    ⟨j, key, usable, v, hKey, hCanUse, rfl⟩
  have hKeys := List.mem_of_getElem? hKey
  exact
    ⟨key, hKeys, hCanUse.inStatement_eq_false,
      hPositioned.one key hKeys hCovers⟩

/- So it is in level two, unless the key strays. -/
theorem isOpen_of_coversTwo
    {w : Write}
    (hPositioned : s.schema.Positioned)
    (hNoStray :
      ∀ i key, s.schema.keys[i]? = some key →
        ¬ s.schema.Strays i key)
    (hMember : w ∈ s.defaultWrites ev 0 s.schema.keys)
    (hCovers : w.level.coversTwo = true) :
    s.schema.IsOpen s.schema.subColumns w.second := by
  rcases exists_of_mem_defaultWrites hMember with
    ⟨j, key, usable, v, hKey, hCanUse, rfl⟩
  have hKeys := List.mem_of_getElem? hKey
  rw [Nat.zero_add] at hCanUse
  cases hLevel : key.level with
  | zero =>
      rw [defaultWrite, hLevel] at hCovers
      cases hCovers
  | one =>
      rw [defaultWrite, hLevel] at hCovers
      cases hCovers
  | two =>
      exact
        ⟨key, hKeys, hCanUse.inStatement_eq_false,
          hPositioned.two key hKeys hLevel⟩
  | both =>
      apply Classical.byContradiction
      intro hNotOpen
      exact
        hNoStray j key hKey
          ⟨hLevel, ⟨usable, hCanUse⟩, hNotOpen⟩

/-
  Defaults change nothing in level one but the columns of
  keys that are left out.  They do so in level two as well
  where no key strays, and where one does, the column at its
  position changes unless it is closed from the start.
-/
theorem placeDefaults_sameBut
    (hPositioned : s.schema.Positioned)
    (h : s.placeDefaults ev 0 s.schema.keys d = .ok d') :
    d.one.SameBut (s.schema.IsOpen s.schema.columns) d'.one ∧
      ((∀ i key, s.schema.keys[i]? = some key →
          ¬ s.schema.Strays i key) →
        d.two.SameBut (s.schema.IsOpen s.schema.subColumns)
          d'.two) ∧
      ∀ i key, s.schema.keys[i]? = some key →
        s.schema.Strays i key →
        ¬ d.two.IsClosed key.position.toNat →
          ¬ d.two.SameBut (s.schema.IsOpen s.schema.subColumns)
            d'.two := by
  have hFold := foldl_defaultWrites h
  refine ⟨?_, ?_, ?_⟩
  · rw [← hFold]
    exact
      (Drafts.sameBut_foldl_apply (q := fun _ => True)
        (fun _ => isOpen_of_coversOne hPositioned)
        (fun _ _ _ => trivial) d).1
  · intro hNoStray
    rw [← hFold]
    exact
      (Drafts.sameBut_foldl_apply (p := fun _ => True)
        (fun _ _ _ => trivial)
        (fun _ => isOpen_of_coversTwo hPositioned hNoStray)
        d).2
  · intro i key hKey hStrays hNotClosed hSame
    rcases hStrays.canUse with ⟨usable, hCanUse⟩
    rw [← Nat.zero_add i] at hCanUse
    have hCovers : key.level.coversTwo = true := by
      rw [hStrays.level]
      rfl
    have hClosed :=
      isClosed_of_placeDefaults h hKey hCanUse hCovers
    apply hNotClosed
    rw [Draft.IsClosed, ← hSame.borders _ hStrays.notOpen]
    exact hClosed

/-
  An `INSERT` that gives a day and leaves the tenant to its
  default.  The day comes first in level two.
-/
def tenantInsert : Statement where
  config := default
  predicates? := some [some ⟨1, 0, 0, .two, .ge, .int 3, false⟩]
  schema :=
    ⟨.two, ["tenant"], ["day", "tenant"],
      [⟨"tenant", .both, 0, false, none, none, none,
          [1, 9, 0, 0, 0, 0, 0, 0, 0], false⟩,
        ⟨"day", .two, 0, false, none, none, none, [], true⟩],
      .mysql⟩
  session := Session.ofCollation ⟨46⟩
  request := default
  prepared? := none
  fields := default
  isInsert := true

/- The drafts of an `INSERT` of days from 3 on. -/
def daysFromThree
    (firstCount index : Nat) : Drafts :=
  ⟨.untouched firstCount,
    (Draft.untouched 2).write .ge index (.int 3)⟩

theorem positioned_tenantInsert :
    tenantInsert.schema.Positioned :=
  ⟨by decide, by decide, by decide⟩

theorem positioned_dayInsert :
    dayInsert.schema.Positioned :=
  ⟨by decide, by decide, by decide⟩

/- The tenant comes first in both levels of `dayInsert`. -/
theorem not_strays_dayInsert
    (i : Nat)
    (key : PartKey)
    (hKey : dayInsert.schema.keys[i]? = some key) :
    ¬ dayInsert.schema.Strays i key := by
  intro hStrays
  match i with
  | 0 =>
      cases hKey
      exact hStrays.notOpen (by decide)
  | 1 =>
      cases hKey
      cases hStrays.level
  | 2 =>
      cases hKey
      cases hStrays.level
  | 3 =>
      cases hKey
      cases hStrays.level
  | _ + 4 => cases hKey

theorem strays_tenantInsert :
    ∃ key, tenantInsert.schema.keys[0]? = some key ∧
      tenantInsert.schema.Strays 0 key :=
  ⟨_, rfl, rfl, ⟨_, .own rfl rfl (by decide)⟩, by decide⟩

theorem placeDefaults_dayInsert :
    (∃ d',
      dayInsert.placeDefaults .builtin 0 dayInsert.schema.keys
          (daysFromThree 2 1) =
        .ok d' ∧
      (daysFromThree 2 1).two.SameBut
        (dayInsert.schema.IsOpen dayInsert.schema.subColumns)
        d'.two) ∧
    ∃ d',
      tenantInsert.placeDefaults .builtin 0
          tenantInsert.schema.keys (daysFromThree 1 0) =
        .ok d' ∧
      ¬ (daysFromThree 1 0).two.SameBut
        (tenantInsert.schema.IsOpen
          tenantInsert.schema.subColumns)
        d'.two := by
  have hDay :
      ∃ d',
        dayInsert.placeDefaults .builtin 0
            dayInsert.schema.keys (daysFromThree 2 1) =
          .ok d' :=
    ⟨_, rfl⟩
  have hTenant :
      ∃ d',
        tenantInsert.placeDefaults .builtin 0
            tenantInsert.schema.keys (daysFromThree 1 0) =
          .ok d' :=
    ⟨_, rfl⟩
  constructor
  · rcases hDay with ⟨d', hPlaced⟩
    exact
      ⟨d', hPlaced,
        (placeDefaults_sameBut positioned_dayInsert hPlaced).2.1
          not_strays_dayInsert⟩
  · rcases hTenant with ⟨d', hPlaced⟩
    rcases strays_tenantInsert with ⟨key, hKey, hStrays⟩
    have hOpen : ¬ (daysFromThree 1 0).two.IsClosed 0 := by
      decide
    refine
      ⟨d', hPlaced,
        (placeDefaults_sameBut positioned_tenantInsert
          hPlaced).2.2 0 key hKey hStrays ?_⟩
    cases hKey
    exact hOpen

/- The default of the tenant is written over the day. -/
theorem placeDefaults_tenantInsert :
    tenantInsert.schema.Positioned ∧
      ¬ tenantInsert.schema.IsOpen
        tenantInsert.schema.subColumns 0 ∧
      (daysFromThree 1 0).two.range.bounds[0]? =
        some ⟨.int 3, .null⟩ ∧
      ∃ d',
        tenantInsert.placeDefaults .builtin 0
            tenantInsert.schema.keys (daysFromThree 1 0) =
          .ok d' ∧
        d'.two.range.bounds[0]? = some ⟨.int 9, .int 9⟩ :=
  ⟨positioned_tenantInsert, by decide, rfl, _, rfl, rfl⟩

end Statement

end PartitionPruning

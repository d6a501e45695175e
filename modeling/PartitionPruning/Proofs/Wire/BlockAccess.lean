import PartitionPruning.Proofs.Wire.Access
import PartitionPruning.Proofs.Wire.Indexes

/-
  Access to the bytes of parameter blocks.

  The size of the bitmap and the size of the types follow
  from a number of parameters that may be any number of 64
  bits.  The bitmap has a bit for each parameter that the
  walk along the types comes to, and the walk counts no
  further than there are parameters.

  Key definitions include:
    * `Guarded.bitmapSize`
    * `Guarded.isNull`
    * `Guarded.types`
    * `Guarded.select`
    * `Guarded.param`

  Main declarations:
    * `Guarded.computes_types`
    * `Guarded.computes_select`
    * `Guarded.computes_param`
-/

namespace PartitionPruning

namespace Guarded

variable {ε : Type}
variable {bs : List UInt8}

------------------------------------------------------------
-- Sizes
------------------------------------------------------------

/- Bytes of a bitmap, where the last need not be full. -/
def bitmapSize
    (count : UInt64) : Guarded ε UInt64 :=
  if count % 8 = 0 then .ok (count / 8)
  else addSize (count / 8) 1

/- Two bytes for each, or the greatest number if it is less. -/
def doubled
    (count : UInt64) : UInt64 :=
  UInt64.ofNat (Nat.min (count.toNat * 2) Block.greatestSize)

/-
  Room for as many types, which have two bytes each in
  memory too.
-/
def reserve
    (count : UInt64) : Guarded ε Unit :=
  if count.toNat * 2 < 2 ^ 63 then .ok ()
  else .error .overflow

/-
  Rounding up does not overflow, as it is done after the
  division.
-/
theorem bitmapSize_eq_ok
    (ε : Type)
    (count : UInt64) :
    ∃ size : UInt64,
      (bitmapSize count : Guarded ε _) = .ok size ∧
        size.toNat = Block.bitmapSize count.toNat := by
  have hEight : (8 : UInt64).toNat = 8 := rfl
  have hOne : (1 : UInt64).toNat = 1 := rfl
  have hFull : (count / 8).toNat = count.toNat / 8 :=
    UInt64.toNat_div count 8
  have hLeft : count % 8 = 0 ↔ count.toNat % 8 = 0 := by
    rw [← UInt64.toNat_inj, UInt64.toNat_mod, hEight]
    rfl
  have hCount := count.toNat_lt
  unfold bitmapSize Block.bitmapSize
  by_cases hEven : count % 8 = 0
  · refine ⟨count / 8, if_pos hEven, ?_⟩
    rw [hLeft] at hEven
    omega
  · have hFits :
        (count / 8).toNat + (1 : UInt64).toNat <
          UInt64.size := by
      rw [UInt64.size]
      omega
    rcases addSize_eq_ok ε hFits with ⟨hAdd, hSum⟩
    refine ⟨count / 8 + 1, ?_, ?_⟩
    · rw [if_neg hEven, hAdd]
    · rw [hLeft] at hEven
      omega

theorem toNat_doubled
    (count : UInt64) :
    (doubled count).toNat =
      Nat.min (count.toNat * 2) Block.greatestSize := by
  apply UInt64.toNat_ofNat_of_lt
  exact
    Nat.lt_of_le_of_lt (Nat.min_le_right _ _) (by decide)

------------------------------------------------------------
-- Bits And Types
------------------------------------------------------------

/- The first byte and the others. -/
def byte : List UInt8 → Guarded ε (UInt8 × List UInt8)
  | [] => .error .outside
  | b :: rest => .ok (b, rest)

/- A bit of a byte, which has eight. -/
def bit
    (b : UInt8)
    (k : UInt64) : Guarded ε Bool :=
  if k < 8 then .ok (b.toNat.testBit k.toNat)
  else .error .outside

/- The bit of the bitmap for a parameter. -/
def isNull
    (bitmap : List UInt8)
    (i : UInt64) : Guarded ε Bool :=
  match bitmap[(i / 8).toNat]? with
  | some b => bit b (i % 8)
  | none => .error .outside

/- The field type with a number. -/
def fieldType
    (code : UInt8) : Guarded WireError FieldType :=
  match FieldType.ofCode? code with
  | none => .error (.failed (.unknownFieldType code))
  | some t => .ok t

/- So many types, byte by byte. -/
def readTypes :
    Nat → List UInt8 →
      Guarded WireError (List ParamType × List UInt8)
  | 0, bs => .ok ([], bs)
  | n + 1, bs => do
      let (code, bs) ← byte bs
      let t ← fieldType code
      let (flags, bs) ← byte bs
      let (ts, bs) ← readTypes n bs
      .ok (⟨t, decide (0x80 ≤ flags)⟩ :: ts, bs)

/- The first of the declared types, which are there. -/
def firstTypes
    (count : UInt64)
    (declared : List ParamType) :
    Guarded ε (List ParamType) :=
  if count.toNat ≤ declared.length then
    .ok (declared.take count.toNat)
  else .error .outside

/- The types of all parameters. -/
def types
    (count : UInt64)
    (declared : List ParamType)
    (flag bs : List UInt8) :
    Guarded WireError (List ParamType × List UInt8) :=
  if flag = [1] then do
    ensure .parameterTypes (doubled count) bs
    reserve count
    let (ts, rest) ← readTypes count.toNat bs
    .ok (ts, rest)
  else if count.toNat ≤ declared.length then do
    let ts ← firstTypes count declared
    .ok (ts, bs)
  else .error (.failed .missingTypes)

/-
  The bit of a parameter is in a bitmap that is large
  enough.
-/
theorem isNull_eq_ok
    (ε : Type)
    {bitmap : List UInt8}
    {i : UInt64}
    (h : i.toNat < 8 * bitmap.length) :
    (isNull bitmap i : Guarded ε _) =
      .ok (Block.isNull bitmap i.toNat) := by
  have hByte : (i / 8).toNat = i.toNat / 8 :=
    UInt64.toNat_div i 8
  have hBit : (i % 8).toNat = i.toNat % 8 :=
    UInt64.toNat_mod i 8
  have hThere : i.toNat / 8 < bitmap.length := by omega
  have hEight : i % 8 < 8 := by
    have hLess : (8 : UInt64).toNat = 8 := rfl
    rw [UInt64.lt_iff_toNat_lt, hBit, hLess]
    omega
  rw [isNull, hByte, List.getElem?_eq_getElem hThere]
  dsimp only
  rw [bit, if_pos hEight, hBit, Block.isNull,
    List.getD_eq_getElem?_getD,
    List.getElem?_eq_getElem hThere, Option.getD_some]

/- Every two bytes are one of the types. -/
theorem computes_readTypes
    {n : Nat}
    {front : List UInt8}
    (h : front.length = n * 2)
    (rest : List UInt8) :
    Computes (fun a b => a = (b, rest))
      (readTypes n (front ++ rest))
      (Block.typesOfBytes front) := by
  induction n generalizing front with
  | zero =>
      rw [List.length_eq_zero_iff.mp h]
      exact .ok rfl
  | succ n ih =>
      rcases front with _ | ⟨code, _ | ⟨flags, front⟩⟩
      · rw [List.length_nil] at h
        omega
      · rw [List.length_singleton] at h
        omega
      · have hLength : front.length = n * 2 := by
          rw [List.length_cons, List.length_cons] at h
          omega
        rw [Block.typesOfBytes]
        cases hCode : FieldType.ofCode? code with
        | none =>
            simp only [readTypes, List.cons_append, byte,
              fieldType, hCode, Steps.ok_bind,
              Steps.error_bind]
            exact .failed _
        | some t =>
            simp only [readTypes, List.cons_append, byte,
              fieldType, hCode, Steps.ok_bind]
            apply (ih hLength).bind
            rintro ⟨ts, bs⟩ _ _ ⟨⟩
            exact .ok rfl

/-
  A packet of fewer than 2^63 bytes that has the types of
  all parameters leaves room for them.
-/
theorem computes_types
    (count : UInt64)
    (declared : List ParamType)
    (flag : List UInt8)
    (hSize : bs.length < 2 ^ 63) :
    Computes Eq (types count declared flag bs)
      (Block.types count.toNat declared flag bs) := by
  unfold types Block.types
  by_cases hFlag : flag = [1]
  · rw [if_pos hFlag, if_pos hFlag, ← toNat_doubled]
    rcases Nat.lt_or_ge bs.length (doubled count).toNat with
      hFew | hEnough
    · rw [ensure_of_lt hFew, Wire.take_of_lt _ hFew]
      exact .failed _
    · have hGreatest : 2 ^ 63 ≤ Block.greatestSize := by
        decide
      have hCount :
          (doubled count).toNat = count.toNat * 2 := by
        rw [toNat_doubled] at hEnough ⊢
        exact Block.min_greatestSize_eq hEnough (by omega)
      have hRoom :
          (reserve count : Guarded WireError _) = .ok () :=
        if_pos (by omega)
      rw [ensure_of_le hEnough, Steps.ok_bind, hRoom,
        Steps.ok_bind]
      rcases exists_append_of_le hEnough with
        ⟨front, rest, rfl, hLength⟩
      rw [Wire.take_append _ hLength, Steps.ok_bind]
      apply
        (computes_readTypes (hLength.trans hCount) rest).bind
      rintro _ ts _ rfl
      exact .ok rfl
  · rw [if_neg hFlag, if_neg hFlag]
    by_cases hDeclared : count.toNat ≤ declared.length
    · rw [if_pos hDeclared, if_pos hDeclared, firstTypes,
        if_pos hDeclared]
      exact .ok rfl
    · rw [if_neg hDeclared, if_neg hDeclared]
      exact .failed _

------------------------------------------------------------
-- Blocks
------------------------------------------------------------

/-
  The value of parameter `index`, where `ts` are the types
  from parameter `i` on.  The walk counts the parameters.
-/
def select
    (bitmap : List UInt8)
    (count index : UInt64) :
    UInt64 → List ParamType → List UInt8 →
      Guarded WireError Value
  | _, [], _ =>
      .error
        (.failed (.indexOutOfRange index.toNat count.toNat))
  | i, t :: ts, bs => do
      let after ← addSize i 1
      let null ← isNull bitmap i
      if null then
        if i = index then .ok .null
        else select bitmap count index after ts bs
      else if i = index then do
        let (v, _) ← decode t bs
        .ok v
      else do
        let rest ← skip t bs
        select bitmap count index after ts rest

/- The value of parameter `index` of a block. -/
def param
    (count : UInt64)
    (declared : List ParamType)
    (index : UInt64)
    (bs : List UInt8) : Guarded WireError Value := do
  let size ← bitmapSize count
  let needed ← addSize size 1
  let (bitmap, flag, rest) ←
    takeTwo .nullBitmap needed size 1 bs
  let (ts, values) ← types count declared flag rest
  select bitmap count index 0 ts values

/-
  The bitmap has a bit for each type that is left, and all
  of them can be counted.
-/
theorem computes_select
    {bitmap : List UInt8}
    (count index : UInt64)
    {i : UInt64}
    {ts : List ParamType}
    (hBits : i.toNat + ts.length ≤ 8 * bitmap.length)
    (hCount : i.toNat + ts.length < UInt64.size)
    (bs : List UInt8) :
    Computes Eq (select bitmap count index i ts bs)
      (Block.select bitmap count.toNat index.toNat i.toNat
        ts bs) := by
  induction ts generalizing i bs with
  | nil => exact .failed _
  | cons t ts ih =>
      rw [List.length_cons] at hBits hCount
      have hOne : (1 : UInt64).toNat = 1 := rfl
      rcases addSize_eq_ok WireError (a := i) (b := 1)
          (by omega) with
        ⟨hAdd, hAfter⟩
      rw [hOne] at hAfter
      have hRest : ∀ bs,
          Computes Eq (select bitmap count index (i + 1) ts bs)
            (Block.select bitmap count.toNat index.toNat
              (i.toNat + 1) ts bs) := by
        rw [← hAfter]
        exact ih (by omega) (by omega)
      rw [select, hAdd, Steps.ok_bind,
        isNull_eq_ok WireError (by omega), Steps.ok_bind,
        Block.select]
      simp only [← UInt64.toNat_inj]
      split
      · split
        · exact .ok rfl
        · exact hRest bs
      · split
        · apply (computes_decode t bs).bind
          rintro _ ⟨v, rest⟩ _ rfl
          exact .ok rfl
        · apply (computes_skip t bs).bind
          rintro rest _ _ rfl
          exact hRest rest

/-
  A block is read without a stop, whatever the number of
  parameters and the index.
-/
theorem computes_param
    (count : UInt64)
    (declared : List ParamType)
    (index : UInt64)
    (hSize : bs.length < 2 ^ 63) :
    Computes Eq (param count declared index bs)
      (Block.param count.toNat declared index.toNat bs) := by
  have hCount := count.toNat_lt
  have hOne : (1 : UInt64).toNat = 1 := rfl
  rcases bitmapSize_eq_ok WireError count with
    ⟨size, hBitmap, hValue⟩
  have hBits : count.toNat ≤ 8 * size.toNat := by
    rw [hValue, Block.bitmapSize]
    omega
  have hFits :
      size.toNat + (1 : UInt64).toNat < UInt64.size := by
    rw [hValue, Block.bitmapSize, hOne, UInt64.size]
    omega
  rcases addSize_eq_ok WireError hFits with ⟨hAdd, hNeeded⟩
  have hFront := computes_takeTwo .nullBitmap hNeeded bs
  rw [hNeeded, hOne] at hFront
  unfold param Block.param
  rw [hBitmap, Steps.ok_bind, hAdd, Steps.ok_bind, ← hValue]
  apply hFront.bind
  rintro ⟨bitmap, flag, rest⟩ ⟨front, _⟩ hTake
    ⟨rfl, rfl, hLength, _⟩
  dsimp only at hTake hLength ⊢
  have hShort : rest.length < 2 ^ 63 := by
    rw [(Wire.take_eq_ok_iff.mp hTake).1, List.length_append]
      at hSize
    omega
  rw [← hLength, List.drop_left, List.take_left]
  apply (computes_types count declared flag hShort).bind
  rintro _ ⟨ts, values⟩ hTypes rfl
  have hGreatest : 2 ^ 63 ≤ Block.greatestSize := by decide
  have hTs : ts.length = count.toNat :=
    Block.length_types hTypes (by omega)
  have hZero : (0 : UInt64).toNat = 0 := rfl
  dsimp only
  apply computes_select
  · omega
  · rw [UInt64.size]
    omega

end Guarded

end PartitionPruning

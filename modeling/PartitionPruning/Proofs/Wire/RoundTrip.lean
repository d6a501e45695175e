import PartitionPruning.Proofs.Wire.Reading

/-
  Parameters read back as they were written.

  A parameter needs the packet up to its own value.

  Main declarations:
    * `Block.isNull_bitmap`
    * `Block.needs_select`
    * `Packet.needs_executeParam`
    * `Packet.executeParam_encode`
-/

namespace PartitionPruning

------------------------------------------------------------
-- Parts Of A Block
------------------------------------------------------------

namespace Block

open Wire (Needs needs_nothing)

/- The bits of a number are those it was made of. -/
theorem testBit_ofBits
    (bits : List Bool)
    (k : Nat) :
    (ofBits bits).testBit k = bits.getD k false := by
  induction bits generalizing k with
  | nil => simp [ofBits]
  | cons b bits ih =>
      cases k with
      | zero => cases b <;> simp [ofBits]
      | succ k =>
          have hHalf :
              (b.toNat + 2 * ofBits bits) / 2 = ofBits bits := by
            have hBit := b.toNat_le
            omega
          rw [ofBits, Nat.testBit_succ, hHalf, ih]
          rfl

/- A byte has the low bits of a number. -/
theorem testBit_toNat_ofNat
    (n : Nat)
    {k : Nat}
    (h : k < 8) :
    (UInt8.ofNat n).toNat.testBit k = n.testBit k := by
  rw [UInt8.toNat_ofNat', Nat.testBit_mod_two_pow,
    decide_eq_true h, Bool.true_and]

theorem length_bitmap
    (marks : List Bool) :
    (bitmap marks).length = bitmapSize marks.length := by
  simp [bitmap]

/- The bitmap marks the parameters that it was made for. -/
theorem isNull_bitmap
    {marks : List Bool}
    {i : Nat}
    (h : i < marks.length) :
    isNull (bitmap marks) i = marks.getD i false := by
  have hByte : i / 8 < bitmapSize marks.length := by
    unfold bitmapSize
    omega
  have hIndex : 8 * (i / 8) + i % 8 = i := Nat.div_add_mod i 8
  have hBit : i % 8 < 8 := Nat.mod_lt i (by decide)
  have hGet :
      (bitmap marks).getD (i / 8) 0 =
        UInt8.ofNat
          (ofBits ((marks.drop (8 * (i / 8))).take 8)) := by
    simp [bitmap, List.getD_eq_getElem?_getD, hByte]
  unfold isNull
  rw [hGet, testBit_toNat_ofNat _ hBit, testBit_ofBits,
    List.getD_eq_getElem?_getD, List.getD_eq_getElem?_getD,
    List.getElem?_take_of_lt hBit, List.getElem?_drop, hIndex]

/- The bitmap of a packet marks its null arguments. -/
theorem isNull_bitmap_args
    {args : List Argument}
    {k : Nat}
    {a : Argument}
    (h : args[k]? = some a) :
    isNull (bitmap (args.map Argument.isNull)) k =
      a.isNull := by
  have hMap :
      (args.map Argument.isNull)[k]? = some a.isNull := by
    rw [List.getElem?_map, h]
    rfl
  have hLess := (List.getElem?_eq_some_iff.mp hMap).1
  rw [isNull_bitmap hLess, List.getD_eq_getElem?_getD, hMap]
  rfl

/-
  The types of a packet are read back, unsigned marks
  included.
-/
theorem typesOfBytes_encode
    (ts : List ParamType) :
    typesOfBytes (ts.flatMap ParamType.encode) = .ok ts := by
  induction ts with
  | nil => rfl
  | cons t ts ih =>
      rcases t with ⟨fieldType, unsigned⟩
      have hFlag :
          decide
              ((0x80 : UInt8) ≤ if unsigned then 0x80 else 0) =
            unsigned := by
        cases unsigned <;> rfl
      rw [List.flatMap_cons, ParamType.encode]
      simp only [List.cons_append, List.nil_append,
        typesOfBytes, FieldType.ofCode?_code, ih,
        Steps.ok_bind, hFlag]

theorem length_flatMap_encode
    (ts : List ParamType) :
    (ts.flatMap ParamType.encode).length = ts.length * 2 := by
  induction ts with
  | nil => rfl
  | cons t ts ih =>
      rw [List.flatMap_cons, List.length_append, ih,
        List.length_cons, Nat.succ_mul, Nat.add_comm]
      rfl

------------------------------------------------------------
-- Selecting A Value
------------------------------------------------------------

/- One step of the walk along the values. -/
theorem select_cons
    (marks : List UInt8)
    (count index first : Nat)
    (t : ParamType)
    (ts : List ParamType) :
    select marks count index first (t :: ts) =
      fun bs =>
        if isNull marks first then
          if first = index then .ok .null
          else select marks count index (first + 1) ts bs
        else if first = index then
          t.decode bs >>= fun (v, _) => .ok v
        else
          t.skip bs >>=
            select marks count index (first + 1) ts := by
  funext bs
  rw [select]

/-
  The walk along the values keeps in step with the list of
  arguments: each value that is passed over is passed over
  as a whole.  The induction is on the arguments that are
  left, of which the first is parameter `first`.
-/
theorem needs_select
    {marks : List UInt8}
    {count first i : Nat}
    {args : List Argument}
    {a : Argument}
    {v : Value}
    (hMarks :
      ∀ k a, args[k]? = some a →
        isNull marks (first + k) = a.isNull)
    (hSize :
      (args.flatMap Argument.encode).length <
        LittleEndian.span 8)
    (hArg : args[i]? = some a)
    (hValue : a.value? = some v) :
    Needs
      (select marks count (first + i) first
        (args.map Argument.type))
      ((args.take (i + 1)).flatMap Argument.encode)
      fun _ => v := by
  induction args generalizing first i with
  | nil => cases hArg
  | cons b args ih =>
      have hMark : isNull marks first = b.isNull :=
        hMarks 0 b rfl
      have hRest :
          ∀ k a, args[k]? = some a →
            isNull marks (first + 1 + k) = a.isNull := by
        intro k a hGet
        rw [Nat.add_right_comm]
        exact hMarks (k + 1) a hGet
      rw [List.flatMap_cons, List.length_append] at hSize
      rw [List.map_cons, select_cons, hMark,
        List.take_succ_cons, List.flatMap_cons]
      cases i with
      | zero =>
          cases hArg
          rw [List.take_zero, List.flatMap_nil, List.append_nil]
          simp only [Nat.add_zero, if_true]
          cases hNull : a.isNull with
          | true =>
              rw [Argument.value?_of_isNull hNull] at hValue
              cases hValue
              rw [Argument.encode_of_isNull hNull]
              exact needs_nothing fun _ => rfl
          | false =>
              exact
                (Argument.needs_decode hNull hValue
                  (by omega)).map fun _ => rfl
      | succ i =>
          have hNext : first + (i + 1) = first + 1 + i := by
            omega
          have hOther : ¬ first = first + 1 + i := by omega
          have hLater := ih hRest (by omega) hArg
          simp only [hNext, if_neg hOther]
          cases hNull : b.isNull with
          | true =>
              rw [Argument.encode_of_isNull hNull]
              exact hLater
          | false =>
              exact
                (Argument.needs_skip hNull (by omega)).bind
                  hLater

end Block

------------------------------------------------------------
-- Whole Packets
------------------------------------------------------------

namespace ExecutePacket

variable {p : ExecutePacket}
variable {declared : List ParamType}

open Wire (Needs)

/- Values go on behind those up to a parameter. -/
theorem values_eq
    (p : ExecutePacket)
    (i : Nat) :
    p.values =
      p.valuesTo i ++
        (p.args.drop (i + 1)).flatMap Argument.encode := by
  unfold values valuesTo
  rw [← List.flatMap_append, List.take_append_drop]

/- The types after the flag, or the declared ones without it. -/
theorem needs_types
    (hTypes : p.TypesKnown declared)
    (hSize : p.typeBytes.length ≤ Block.greatestSize) :
    ∃ flag sent,
      p.typeBytes = flag :: sent ∧
        Needs (Block.types p.args.length declared [flag]) sent
          fun rest => (p.types, rest) := by
  have hCount : p.types.length = p.args.length := by
    simp [types]
  cases hBinding : p.binding with
  | sent =>
      have hBytes :
          p.typeBytes =
            1 :: p.types.flatMap ParamType.encode := by
        rw [typeBytes, hBinding]
      have hLength :
          (p.types.flatMap ParamType.encode).length =
            Nat.min (p.args.length * 2)
              Block.greatestSize := by
        rw [hBytes, List.length_cons] at hSize
        rw [Block.length_flatMap_encode, hCount] at hSize ⊢
        exact (Nat.min_eq_left (by omega)).symm
      refine ⟨1, _, hBytes, ?_⟩
      apply (Wire.needs_take .parameterTypes hLength).map
      intro bs
      simp only [Block.typesOfBytes_encode, Steps.ok_bind]
  | declared flag flag_ne =>
      have hBytes : p.typeBytes = [flag] := by
        rw [typeBytes, hBinding]
      have hPrefix : p.types <+: declared := by
        rw [TypesKnown, hBinding] at hTypes
        exact hTypes
      have hFlag : ¬ [flag] = [1] := by
        simpa using flag_ne
      refine ⟨flag, [], hBytes, Wire.needs_nothing ?_⟩
      intro bs
      rw [Block.types, if_neg hFlag, ← hCount,
        if_pos hPrefix.length_le,
        ← List.prefix_iff_eq_take.mp hPrefix]

/- A parameter needs the block up to its value. -/
theorem needs_param
    {i : Nat}
    {a : Argument}
    {v : Value}
    (hTypes : p.TypesKnown declared)
    (hSize : p.encode.length ≤ Block.greatestSize)
    (hArg : p.args[i]? = some a)
    (hValue : a.value? = some v) :
    Needs (Block.param p.args.length declared i)
      (Block.bitmap (p.args.map Argument.isNull) ++
        (p.typeBytes ++ p.valuesTo i))
      fun _ => v := by
  simp only [ExecutePacket.encode, List.length_append] at hSize
  rcases needs_types hTypes (by omega) with
    ⟨flag, sent, hBytes, hRead⟩
  generalize hBitmap :
    Block.bitmap (p.args.map Argument.isNull) = bitmap
  have hBitmapLength :
      bitmap.length = Block.bitmapSize p.args.length := by
    rw [← hBitmap, Block.length_bitmap, List.length_map]
  have hFrontLength :
      (bitmap ++ [flag]).length =
        Block.bitmapSize p.args.length + 1 := by
    rw [List.length_append, hBitmapLength]
    rfl
  have hMarks :
      ∀ k a, p.args[k]? = some a →
        Block.isNull bitmap (0 + k) = a.isNull := by
    intro k a hGet
    rw [Nat.zero_add, ← hBitmap]
    exact Block.isNull_bitmap_args hGet
  have hValues :
      (p.args.flatMap Argument.encode).length <
        LittleEndian.span 8 := by
    have hLess : p.values.length ≤ Block.greatestSize := by
      omega
    exact Nat.lt_of_le_of_lt hLess (by decide)
  have hSelect :
      Needs
        (Block.select bitmap p.args.length i 0 p.types)
        (p.valuesTo i) fun _ => v := by
    have hWalk :
        Needs
          (Block.select bitmap p.args.length (0 + i) 0 p.types)
          (p.valuesTo i) fun _ => v :=
      Block.needs_select hMarks hValues hArg hValue
    rwa [Nat.zero_add] at hWalk
  have hFront :
      bitmap ++ (p.typeBytes ++ p.valuesTo i) =
        (bitmap ++ [flag]) ++ (sent ++ p.valuesTo i) := by
    rw [hBytes]
    simp
  rw [hFront]
  apply (Wire.needs_take .nullBitmap hFrontLength).bind
  dsimp only
  rw [← hBitmapLength, List.drop_left, List.take_left]
  exact hRead.bind hSelect

/- A block reads back the argument of each parameter. -/
theorem param_encode
    {i : Nat}
    {a : Argument}
    {v : Value}
    (hTypes : p.TypesKnown declared)
    (hSize : p.encode.length ≤ Block.greatestSize)
    (hArg : p.args[i]? = some a)
    (hValue : a.value? = some v) :
    Block.param p.args.length declared i
        (Block.bitmap (p.args.map Argument.isNull) ++
          (p.typeBytes ++ (p.values ++ p.trailing))) =
      .ok v := by
  have hParam :=
    (needs_param hTypes hSize hArg hValue).gives
      ((p.args.drop (i + 1)).flatMap Argument.encode ++
        p.trailing)
  rw [← hParam, p.values_eq i]
  simp only [List.append_assoc]

end ExecutePacket

namespace Packet

/- A parameter needs the packet up to its value. -/
theorem needs_executeParam
    {p : ExecutePacket}
    {declared : List ParamType}
    {i : Nat}
    {a : Argument}
    {v : Value}
    (hTypes : p.TypesKnown declared)
    (hSize : p.encode.length ≤ Block.greatestSize)
    (hArg : p.args[i]? = some a)
    (hValue : a.value? = some v) :
    Wire.Needs
      (fun bs => executeParam p.args.length declared bs i)
      (p.upTo i) fun _ => v := by
  have hIndex : ¬ p.args.length ≤ i :=
    Nat.not_le.mpr (List.getElem?_eq_some_iff.mp hArg).1
  unfold executeParam
  simp only [if_neg hIndex]
  exact
    (Wire.needs_take .executeHeader p.length_header).bind
      (ExecutePacket.needs_param hTypes hSize hArg hValue)

/-
  A parameter that is null, or of a type that can be read,
  has the value that was written, whatever the others are.
  No packet is longer than a 64-bit number can say.
-/
theorem executeParam_encode
    {p : ExecutePacket}
    {declared : List ParamType}
    {i : Nat}
    {a : Argument}
    {v : Value}
    (hTypes : p.TypesKnown declared)
    (hSize : p.encode.length ≤ Block.greatestSize)
    (hArg : p.args[i]? = some a)
    (hValue : a.value? = some v) :
    executeParam p.args.length declared p.encode i =
      .ok v := by
  have hIndex : ¬ p.args.length ≤ i :=
    Nat.not_le.mpr (List.getElem?_eq_some_iff.mp hArg).1
  unfold executeParam
  rw [if_neg hIndex, ExecutePacket.encode,
    Wire.take_append .executeHeader p.length_header]
  exact ExecutePacket.param_encode hTypes hSize hArg hValue

/-
  A point in time, a null, a long text, a float, four more
  nulls, and in the second byte of the bitmap a small number.
-/
def bookingArgs : List Argument :=
  let null : Argument := ⟨⟨.dateTime, false⟩, none, by simp⟩
  [⟨⟨.dateTime, false⟩,
      some (.temporal [0xEA, 0x07, 8, 1]), by decide⟩,
    null,
    ⟨⟨.varString, false⟩,
      some (.text (List.replicate 300 0x61)), by decide⟩,
    ⟨⟨.float, false⟩,
      some (.floating 0x3F800000), by decide⟩,
    null, null, null, null,
    ⟨⟨.tiny, false⟩, some (.integer (-3)), by decide⟩]

/- A packet that sends its types and has bytes after it. -/
def bookingPacket : ExecutePacket where
  header := [1, 0, 0, 0, 0, 1, 0, 0, 0]
  binding := .sent
  args := bookingArgs
  trailing := [0xFF]
  length_header := rfl

theorem executeParam_bookingPacket :
    bookingPacket.TypesKnown [] ∧
      bookingPacket.encode.length ≤ Block.greatestSize ∧
      (∃ a, bookingPacket.args[8]? = some a ∧
        a.value? = some (.int (-3))) ∧
      executeParam bookingPacket.args.length []
          bookingPacket.encode 8 =
        .ok (.int (-3)) := by
  have hTypes : bookingPacket.TypesKnown [] := trivial
  have hSize :
      bookingPacket.encode.length ≤ Block.greatestSize := by
    decide +kernel
  have hArg :
      ∃ a, bookingPacket.args[8]? = some a ∧
        a.value? = some (.int (-3)) :=
    ⟨_, rfl, rfl⟩
  refine ⟨hTypes, hSize, hArg, ?_⟩
  rcases hArg with ⟨a, hGet, hValue⟩
  exact executeParam_encode hTypes hSize hGet hValue

end Packet

end PartitionPruning

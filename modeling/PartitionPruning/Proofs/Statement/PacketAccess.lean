import PartitionPruning.Proofs.Wire.BlockAccess
import PartitionPruning.Statement.Binding

/-
  Access to the bytes of packets.

  A packet says itself how long its query is, how many
  parameters it has and how long its strings are.  Whatever
  it says, its parameters are read from bytes that are
  there, with sizes that fit into 64 bits.

  Key definitions include:
    * `Guarded.executeParam`
    * `Guarded.prepareExecuteParam`
    * `Guarded.longDataParam`

  Main declarations:
    * `Guarded.computes_executeParam`
    * `Guarded.computes_paramCount`
    * `Guarded.computes_prepareExecuteParam`
    * `Guarded.computes_longDataParam`
    * `Guarded.params_eq`
-/

namespace PartitionPruning

namespace Guarded

variable {payload : List UInt8}

------------------------------------------------------------
-- Packets
------------------------------------------------------------

/- Parameter `index` of an execute packet. -/
def executeParam
    (count : UInt64)
    (declared : List ParamType)
    (payload : List UInt8)
    (index : UInt64) : Guarded WireError Value :=
  if count ≤ index then
    .error
      (.failed (.indexOutOfRange index.toNat count.toNat))
  else do
    let (_, block) ← take .executeHeader 9 payload
    param count declared index block

/-
  Pass over a query and read the number of parameters after
  it.  The size of both is a checked sum: one that does not
  fit fails, and does not stop the reading.
-/
def paramCount
    (bs : List UInt8) :
    Guarded WireError (UInt64 × List UInt8) := do
  let (size, rest) ← encodedLength bs
  match (addSize size 4 : Guarded WireError UInt64) with
  | .error _ =>
      .error
        (.failed
          (.truncated .prepareExecuteQuery Block.greatestSize
            rest.length))
  | .ok needed => do
      let query ← subSize needed 4
      let (_, bytes, rest) ←
        takeTwo .prepareExecuteQuery needed query 4 rest
      .ok (number bytes, rest)

/- A parameter of a packet that prepares and executes. -/
def preparedParam
    (declared : List ParamType)
    (payload : List UInt8)
    (index : UInt64) : Guarded WireError Value := do
  let (_, rest) ← take .prepareExecuteHeader 9 payload
  let (count, block) ← paramCount rest
  if count ≤ index then
    .error
      (.failed (.indexOutOfRange index.toNat count.toNat))
  else param count declared index block

/- The parameter of a long-data packet and its bytes. -/
def longData
    (payload : List UInt8) :
    Guarded WireError (UInt64 × List UInt8) := do
  let (_, bytes, body) ←
    takeTwo .longDataHeader 6 4 2 payload
  .ok (number bytes, body)

/- A packet with its header is read without a stop. -/
theorem computes_executeParam
    (count : UInt64)
    (declared : List ParamType)
    (index : UInt64)
    (hSize : payload.length < 2 ^ 63) :
    Computes Eq (executeParam count declared payload index)
      (Packet.executeParam count.toNat declared payload
        index.toNat) := by
  unfold executeParam Packet.executeParam
  simp only [UInt64.le_iff_toNat_le]
  split
  · exact .failed _
  · apply (computes_take .executeHeader 9 payload).bind
    rintro _ ⟨header, block⟩ hTake rfl
    have hPieces := (Wire.take_eq_ok_iff.mp hTake).1
    have hBlock : block.length < 2 ^ 63 := by
      rw [hPieces, List.length_append] at hSize
      omega
    exact computes_param count declared index hBlock

/-
  The query and the number of parameters are there together,
  or their size does not fit.
-/
theorem computes_paramCount
    (bs : List UInt8) :
    Computes SameNumber (paramCount bs)
      (Packet.paramCount bs) := by
  have hFour : (4 : UInt64).toNat = 4 := rfl
  have hGreatest : Block.greatestSize = UInt64.size - 1 := rfl
  have hSome : 0 < UInt64.size := by decide
  apply (computes_encodedLength bs).bind
  rintro ⟨size, rest⟩ ⟨_, _⟩ _ ⟨rfl, rfl⟩
  dsimp only
  by_cases hFits :
      size.toNat + (4 : UInt64).toNat < UInt64.size
  · rcases addSize_eq_ok WireError hFits with
      ⟨hAdd, hNeeded⟩
    have hQuery :=
      computes_takeTwo .prepareExecuteQuery hNeeded rest
    rw [hNeeded, hFour] at hQuery
    rw [hAdd, if_neg (by omega)]
    dsimp only
    rw [subSize_add hFits, Steps.ok_bind]
    apply hQuery.bind
    rintro ⟨query, bytes, rest⟩ ⟨_, _⟩ _
      ⟨rfl, rfl, hLength, hBytes⟩
    dsimp only at hLength hBytes ⊢
    rw [← hLength, List.drop_left]
    exact .ok ⟨toNat_number (by omega), rfl⟩
  · have hStop :
        (addSize size 4 : Guarded WireError _) =
          .error .overflow :=
      if_neg hFits
    rw [hStop, if_pos (by omega)]
    exact .failed _

/-
  The length of the query and the four bytes before it fit
  into 64 bits, since the packet does.
-/
theorem computes_preparedParam
    (declared : List ParamType)
    (index : UInt64)
    (hSize : payload.length < 2 ^ 63) :
    Computes Eq (preparedParam declared payload index)
      (Packet.prepareExecuteParam declared payload
        index.toNat) := by
  apply (computes_take .prepareExecuteHeader 9 payload).bind
  rintro _ ⟨header, rest⟩ hTake rfl
  have hPieces := (Wire.take_eq_ok_iff.mp hTake).1
  apply (computes_paramCount rest).bind
  rintro ⟨count, block⟩ ⟨_, _⟩ hCount ⟨rfl, rfl⟩
  have hGreatest : 2 ^ 63 ≤ Block.greatestSize := by decide
  rw [hPieces, List.length_append] at hSize
  rcases (Packet.paramCount_eq_ok_iff (by omega)).mp hCount
    with ⟨size, query, bytes, rfl, _⟩
  simp only [UInt64.le_iff_toNat_le]
  split
  · exact .failed _
  · have hBlock : block.length < 2 ^ 63 := by
      simp only [List.length_append] at hSize
      omega
    exact computes_param count declared index hBlock

/-
  The header of six bytes is ensured before its index is
  read.
-/
theorem computes_longData
    (payload : List UInt8) :
    Computes SameNumber (longData payload)
      (Packet.longData payload) := by
  have hSix :
      (6 : UInt64).toNat =
        (4 : UInt64).toNat + (2 : UInt64).toNat := rfl
  apply (computes_takeTwo .longDataHeader hSix payload).bind
  rintro ⟨statement, bytes, body⟩ ⟨_, _⟩ _
    ⟨rfl, rfl, hLength, hBytes⟩
  have hFour : statement.length = 4 := hLength
  have hTwo : bytes.length = 2 := hBytes
  dsimp only
  rw [← hFour, List.drop_left]
  exact .ok ⟨toNat_number (by omega), rfl⟩

------------------------------------------------------------
-- Entries
------------------------------------------------------------

/- A guarded reading of a packet among other results. -/
def ofPacket
    {α : Type} :
    Guarded WireError α → Guarded Failure α
  | .ok a => .ok a
  | .error .overflow => .error .overflow
  | .error .outside => .error .outside
  | .error (.failed cause) => .error (.failed (.packet cause))

/-
  A parameter of a packet that prepares and executes, where
  the statement may have an entry.
-/
def prepareExecuteParam
    (prepared? : Option StatementEntry)
    (payload : List UInt8)
    (index : UInt64) : Guarded Failure Value :=
  let declared :=
    match prepared? with
    | some entry => entry.paramTypes
    | none => []
  ofPacket (preparedParam declared payload index)

/- A parameter of a packet that carries one of them. -/
def longDataParam
    (prepared? : Option StatementEntry)
    (payload : List UInt8)
    (index : UInt64) : Guarded Failure Value :=
  match Binding.beyond prepared? index.toNat with
  | some failure => .error (.failed failure)
  | none => do
      let (carried, bytes) ← ofPacket (longData payload)
      if carried = index then .ok (.text bytes default)
      else
        .error
          (.failed
            (.otherLongData carried.toNat index.toNat))

/- Turning errors of packets into failures stops nothing. -/
theorem Computes.ofPacket
    {α β : Type}
    {R : α → β → Prop}
    {guarded : Guarded WireError α}
    {plain : Except WireError β}
    (h : Computes R guarded plain) :
    Computes R (Guarded.ofPacket guarded)
      (Binding.ofPacket plain) := by
  cases h with
  | ok hRelated => exact .ok hRelated
  | failed cause => exact .failed _

theorem computes_prepareExecuteParam
    (prepared? : Option StatementEntry)
    (index : UInt64)
    (hSize : payload.length < 2 ^ 63) :
    Computes Eq (prepareExecuteParam prepared? payload index)
      (Binding.prepareExecuteParam prepared? payload
        index.toNat) :=
  (computes_preparedParam _ index hSize).ofPacket

/-
  An index of 64 bits and one of a packet are compared as
  numbers.
-/
theorem computes_longDataParam
    (prepared? : Option StatementEntry)
    (payload : List UInt8)
    (index : UInt64) :
    Computes Eq (longDataParam prepared? payload index)
      (Binding.longDataParam prepared? payload
        index.toNat) := by
  unfold longDataParam Binding.longDataParam
  cases Binding.beyond prepared? index.toNat with
  | some failure => exact .failed _
  | none =>
      apply (computes_longData payload).ofPacket.bind
      rintro ⟨carried, bytes⟩ ⟨_, _⟩ _ ⟨rfl, rfl⟩
      simp only [← UInt64.toNat_inj]
      split
      · exact .ok rfl
      · exact .failed _

/-
  No reading of a parameter asks for a byte that is not
  there or comes to a size that does not fit, in a packet of
  fewer than 2^63 bytes, as all are.
-/
theorem params_eq
    (count index : UInt64)
    (declared : List ParamType)
    (prepared? : Option StatementEntry)
    (hSize : payload.length < 2 ^ 63) :
    executeParam count declared payload index =
        ofResult
          (Packet.executeParam count.toNat declared payload
            index.toNat) ∧
      prepareExecuteParam prepared? payload index =
        ofResult
          (Binding.prepareExecuteParam prepared? payload
            index.toNat) ∧
      longDataParam prepared? payload index =
        ofResult
          (Binding.longDataParam prepared? payload
            index.toNat) :=
  ⟨(computes_executeParam count declared index
      hSize).eq_ofResult,
    (computes_prepareExecuteParam prepared? index
      hSize).eq_ofResult,
    (computes_longDataParam prepared? payload
      index).eq_ofResult⟩

/-
  A query of as many bytes as there can be is announced, and
  none follows.
-/
def boundlessPacket : List UInt8 :=
  [1, 0, 0, 0, 0, 0, 0, 0, 0, 0xFE, 0xFF, 0xFF, 0xFF, 0xFF,
    0xFF, 0xFF, 0xFF, 0xFF]

/-
  Neither as many parameters as there can be nor the query
  lead beyond the packet.
-/
theorem params_boundlessPacket :
    boundlessPacket.length < 2 ^ 63 ∧
      executeParam 0xFFFFFFFFFFFFFFFF [] boundlessPacket 0 =
        .error
          (.failed
            (.truncated .nullBitmap 2305843009213693953 9)) ∧
      prepareExecuteParam none boundlessPacket 0 =
        .error
          (.failed
            (.packet
              (.truncated .prepareExecuteQuery
                18446744073709551615 0))) ∧
      longDataParam none boundlessPacket 0 =
        .ok
          (.text
            [0, 0, 0, 0xFE, 0xFF, 0xFF, 0xFF, 0xFF, 0xFF, 0xFF,
              0xFF, 0xFF]
            default) := by
  have hSize : boundlessPacket.length < 2 ^ 63 := by decide
  rcases params_eq 0xFFFFFFFFFFFFFFFF 0 [] none hSize with
    ⟨hExecute, hPrepare, hLong⟩
  refine ⟨hSize, ?_, ?_, ?_⟩
  · rw [hExecute]
    rfl
  · rw [hPrepare]
    rfl
  · rw [hLong]
    rfl

end Guarded

end PartitionPruning

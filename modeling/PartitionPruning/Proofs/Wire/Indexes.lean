import PartitionPruning.Proofs.Wire.Needs
import PartitionPruning.Wire.Packet

/-
  The indexes that packets have no parameter for.

  Reading can fail in many ways, but only an index beyond
  the number of parameters is ever blamed itself.  A packet
  that prepares and executes brings the number, behind a
  query that says how long it is.

  Key definitions include:
    * `Wire.BlamesBytes`
    * `Wire.Announces`
    * `Packet.Counts`

  Main declarations:
    * `Wire.encodedLength_eq_ok_iff`
    * `Block.blamesBytes_param`
    * `Packet.blamesBytes_executeParam`
    * `Packet.prepareExecuteParam_of_counts`
    * `Packet.blamesBytes_prepareExecuteParam`
-/

namespace PartitionPruning

------------------------------------------------------------
-- Blame
------------------------------------------------------------

namespace Wire

variable {α β : Type}

/- A failure, if there is one, does not blame the index. -/
def BlamesBytes
    (result : Except WireError α) : Prop :=
  ∀ cause, result = .error cause →
    ∀ index count, cause ≠ .indexOutOfRange index count

theorem blamesBytes_ok
    (a : α) :
    BlamesBytes (.ok a) := by
  intro cause hError
  cases hError

/- Steps that blame bytes do so one after another. -/
theorem BlamesBytes.bind
    {step : Except WireError α}
    {next : α → Except WireError β}
    (hStep : BlamesBytes step)
    (hNext : ∀ a, step = .ok a → BlamesBytes (next a)) :
    BlamesBytes (step >>= next) := by
  intro cause hError
  rcases Steps.bind_eq_error_iff.mp hError with
    hFirst | ⟨a, hOk, hSecond⟩
  · exact hStep cause hFirst
  · exact hNext a hOk cause hSecond

/- Bytes are missing from a packet, and not a parameter. -/
theorem blamesBytes_take
    (part : WirePart)
    (n : Nat)
    (bs : List UInt8) :
    BlamesBytes (take part n bs) := by
  unfold take
  split
  · exact blamesBytes_ok _
  · intro cause hError
    cases hError
    simp

theorem blamesBytes_number
    (part : WirePart)
    (width : Nat)
    (bs : List UInt8) :
    BlamesBytes (number part width bs) :=
  (blamesBytes_take part width bs).bind
    fun _ _ => blamesBytes_ok _

/- A length that is cut off is missing bytes. -/
theorem blamesBytes_encodedLength
    (bs : List UInt8) :
    BlamesBytes (encodedLength bs) := by
  apply (blamesBytes_number .encodedLength 1 bs).bind
  rintro ⟨first, rest⟩ _
  dsimp only
  split
  · exact blamesBytes_number .encodedLength 2 rest
  · exact blamesBytes_number .encodedLength 3 rest
  · exact blamesBytes_number .encodedLength 8 rest
  · exact blamesBytes_ok _

/- An integer is cut off, or it is out of range. -/
theorem blamesBytes_integer
    (part : WirePart)
    (width : Nat)
    (unsigned : Bool)
    (bs : List UInt8) :
    BlamesBytes (integer part width unsigned bs) := by
  apply (blamesBytes_take part width bs).bind
  rintro ⟨bytes, rest⟩ _
  dsimp only
  split
  · exact blamesBytes_ok _
  · intro cause hError
    cases hError
    simp

theorem blamesBytes_string
    (bs : List UInt8) :
    BlamesBytes (string bs) :=
  (blamesBytes_encodedLength bs).bind fun _ _ =>
    (blamesBytes_take .stringValue _ _).bind
      fun _ _ => blamesBytes_ok _

end Wire

namespace ParamType

open Wire

/-
  A value is cut off, out of range, or of a type that is
  not read.
-/
theorem blamesBytes_decode
    (t : ParamType)
    (bs : List UInt8) :
    BlamesBytes (t.decode bs) := by
  unfold decode
  split
  · exact blamesBytes_ok _
  · exact blamesBytes_integer _ _ _ _
  · exact blamesBytes_integer _ _ _ _
  · exact blamesBytes_integer _ _ _ _
  · exact blamesBytes_integer _ _ _ _
  · exact blamesBytes_integer _ _ _ _
  · exact blamesBytes_integer _ _ _ _
  · split
    · exact blamesBytes_string bs
    · intro cause hError
      cases hError
      simp

/- A value with a length is cut off in it. -/
theorem blamesBytes_extent
    (t : ParamType)
    (bs : List UInt8) :
    BlamesBytes (t.extent bs) := by
  unfold extent
  split <;>
    first
      | exact blamesBytes_ok _
      | exact blamesBytes_number _ _ _
      | exact blamesBytes_encodedLength _

/- A value is passed over if all of its bytes are there. -/
theorem blamesBytes_skip
    (t : ParamType)
    (bs : List UInt8) :
    BlamesBytes (t.skip bs) :=
  (t.blamesBytes_extent bs).bind fun _ _ =>
    (blamesBytes_take .skippedValue _ _).bind
      fun _ _ => blamesBytes_ok _

end ParamType

------------------------------------------------------------
-- Blocks
------------------------------------------------------------

namespace Block

open Wire

/- A type may be unknown. -/
theorem blamesBytes_typesOfBytes
    (bs : List UInt8) :
    BlamesBytes (typesOfBytes bs) := by
  fun_induction typesOfBytes bs with
  | case1 code flags rest hCode =>
      intro cause hError
      cases hError
      simp
  | case2 code flags rest t hCode ih =>
      exact ih.bind fun _ _ => blamesBytes_ok _
  | case3 bs hShort => exact blamesBytes_ok _

/- Every two bytes are the type of a parameter. -/
theorem length_typesOfBytes
    {bs : List UInt8}
    {ts : List ParamType}
    {n : Nat}
    (h : typesOfBytes bs = .ok ts)
    (hLength : bs.length = n * 2) :
    ts.length = n := by
  fun_induction typesOfBytes bs generalizing ts n with
  | case1 code flags rest hCode => cases h
  | case2 code flags rest t hCode ih =>
      rcases Steps.bind_eq_ok_iff.mp h with ⟨us, hRest, hDone⟩
      cases hDone
      simp only [List.length_cons] at hLength ⊢
      have hOthers : us.length = n - 1 :=
        ih hRest (by omega)
      omega
  | case3 bs hShort =>
      cases h
      cases bs with
      | nil =>
          rw [List.length_nil] at hLength ⊢
          omega
      | cons b bs =>
          cases bs with
          | nil =>
              rw [List.length_singleton] at hLength
              omega
          | cons c rest => exact absurd rfl (hShort b c rest)

/- Types may be missing, unknown or cut off. -/
theorem blamesBytes_types
    (count : Nat)
    (declared : List ParamType)
    (flag bs : List UInt8) :
    BlamesBytes (types count declared flag bs) := by
  unfold types
  split
  · exact
      (blamesBytes_take .parameterTypes _ bs).bind fun _ _ =>
        (blamesBytes_typesOfBytes _).bind
          fun _ _ => blamesBytes_ok _
  · split
    · exact blamesBytes_ok _
    · intro cause hError
      cases hError
      simp

/- No packet is as long as the size that stands for more. -/
theorem min_greatestSize_eq
    {needed size : Nat}
    (h : Nat.min needed greatestSize ≤ size)
    (hSize : size < greatestSize) :
    Nat.min needed greatestSize = needed := by
  rcases Nat.le_total needed greatestSize with hFew | hMany
  · exact Nat.min_eq_left hFew
  · have hMin : Nat.min needed greatestSize = greatestSize :=
      Nat.min_eq_right hMany
    omega

/- There is a type for every parameter. -/
theorem length_types
    {count : Nat}
    {declared ts : List ParamType}
    {flag bs rest : List UInt8}
    (h : types count declared flag bs = .ok (ts, rest))
    (hSize : bs.length < greatestSize) :
    ts.length = count := by
  unfold types at h
  split at h
  · rcases Steps.bind_eq_ok_iff.mp h with
      ⟨⟨bytes, left⟩, hTake, hTypes⟩
    rcases Steps.bind_eq_ok_iff.mp hTypes with
      ⟨us, hRead, hDone⟩
    cases hDone
    have hBytes := take_eq_ok_iff.mp hTake
    have hLength :
        bytes.length = Nat.min (count * 2) greatestSize :=
      hBytes.2
    have hLess : bytes.length ≤ bs.length := by
      rw [hBytes.1, List.length_append]
      omega
    have hWhole :
        Nat.min (count * 2) greatestSize = count * 2 :=
      min_greatestSize_eq (hLength ▸ hLess) hSize
    exact length_typesOfBytes hRead (hLength.trans hWhole)
  · split at h
    · next hCount =>
        cases h
        exact List.length_take_of_le hCount
    · cases h

/-
  The walk along the values comes to the parameter before it
  comes to the end of the types.
-/
theorem blamesBytes_select
    (bitmap : List UInt8)
    (count : Nat)
    {index first : Nat}
    {ts : List ParamType}
    (hFirst : first ≤ index)
    (hLast : index < first + ts.length)
    (bs : List UInt8) :
    BlamesBytes (select bitmap count index first ts bs) := by
  induction ts generalizing first bs with
  | nil =>
      rw [List.length_nil] at hLast
      omega
  | cons t ts ih =>
      rw [List.length_cons] at hLast
      rw [select]
      split
      · split
        · exact blamesBytes_ok _
        · exact ih (by omega) (by omega) bs
      · split
        · exact
            (t.blamesBytes_decode bs).bind
              fun _ _ => blamesBytes_ok _
        · exact
            (t.blamesBytes_skip bs).bind
              fun rest _ => ih (by omega) (by omega) rest

/-
  A block blames its bytes for every parameter that it
  counts.
-/
theorem blamesBytes_param
    {count index : Nat}
    (hIndex : index < count)
    (declared : List ParamType)
    {bs : List UInt8}
    (hSize : bs.length ≤ greatestSize) :
    BlamesBytes (param count declared index bs) := by
  apply (blamesBytes_take .nullBitmap _ bs).bind
  rintro ⟨front, rest⟩ hTake
  rcases take_eq_ok_iff.mp hTake with ⟨rfl, hFront⟩
  rw [List.length_append] at hSize
  apply (blamesBytes_types count declared _ rest).bind
  rintro ⟨ts, values⟩ hTypes
  have hLength : ts.length = count :=
    length_types hTypes (by omega)
  exact
    blamesBytes_select _ count (Nat.zero_le index)
      (by omega) values

end Block

------------------------------------------------------------
-- Announced Numbers
------------------------------------------------------------

namespace Wire

/-
  The bytes of a number that says how wide it is, which may
  be wider than it has to be.
-/
inductive Announces : List UInt8 → Nat → Prop where
  | one {b : UInt8}
      (hByte : b ≠ 0xFC ∧ b ≠ 0xFD ∧ b ≠ 0xFE) :
      Announces [b] b.toNat
  | two {bytes : List UInt8} (hLength : bytes.length = 2) :
      Announces (0xFC :: bytes) (LittleEndian.value bytes)
  | three {bytes : List UInt8} (hLength : bytes.length = 3) :
      Announces (0xFD :: bytes) (LittleEndian.value bytes)
  | eight {bytes : List UInt8} (hLength : bytes.length = 8) :
      Announces (0xFE :: bytes) (LittleEndian.value bytes)

theorem Announces.length_pos
    {front : List UInt8}
    {n : Nat}
    (h : Announces front n) :
    0 < front.length := by
  cases h <;> simp

/- A number is what its bytes denote. -/
theorem number_eq_ok_iff
    {part : WirePart}
    {width n : Nat}
    {bs rest : List UInt8} :
    number part width bs = .ok (n, rest) ↔
      ∃ front, bs = front ++ rest ∧ front.length = width ∧
        LittleEndian.value front = n := by
  unfold number
  rw [Steps.bind_eq_ok_iff]
  constructor
  · rintro ⟨⟨front, others⟩, hTake, hDone⟩
    cases hDone
    rcases take_eq_ok_iff.mp hTake with ⟨hBytes, hLength⟩
    exact ⟨front, hBytes, hLength, rfl⟩
  · rintro ⟨front, hBytes, hLength, rfl⟩
    exact
      ⟨(front, rest), take_eq_ok_iff.mpr ⟨hBytes, hLength⟩, rfl⟩

/- The first byte of a length says how it goes on. -/
theorem encodedLength_cons
    (b : UInt8)
    (rest : List UInt8) :
    encodedLength (b :: rest) =
      match b.toNat with
      | 0xFC => number .encodedLength 2 rest
      | 0xFD => number .encodedLength 3 rest
      | 0xFE => number .encodedLength 8 rest
      | n => .ok (n, rest) := by
  have hFirst :
      number .encodedLength 1 (b :: rest) =
        .ok (b.toNat, rest) :=
    number_eq_ok_iff.mpr ⟨[b], rfl, rfl, rfl⟩
  unfold encodedLength
  rw [hFirst]
  rfl

/- What is read as a length are the bytes that announce it. -/
theorem encodedLength_eq_ok_iff
    {bs rest : List UInt8}
    {n : Nat} :
    encodedLength bs = .ok (n, rest) ↔
      ∃ front, bs = front ++ rest ∧ Announces front n := by
  constructor
  · intro h
    cases bs with
    | nil => cases h
    | cons b bs =>
        rw [encodedLength_cons] at h
        split at h
        · next hByte =>
            have hLead : b = 0xFC := UInt8.toNat_inj.mp hByte
            rcases number_eq_ok_iff.mp h with
              ⟨bytes, rfl, hLength, rfl⟩
            exact ⟨b :: bytes, rfl, hLead ▸ .two hLength⟩
        · next hByte =>
            have hLead : b = 0xFD := UInt8.toNat_inj.mp hByte
            rcases number_eq_ok_iff.mp h with
              ⟨bytes, rfl, hLength, rfl⟩
            exact ⟨b :: bytes, rfl, hLead ▸ .three hLength⟩
        · next hByte =>
            have hLead : b = 0xFE := UInt8.toNat_inj.mp hByte
            rcases number_eq_ok_iff.mp h with
              ⟨bytes, rfl, hLength, rfl⟩
            exact ⟨b :: bytes, rfl, hLead ▸ .eight hLength⟩
        · next hTwo hThree hEight =>
            cases h
            refine ⟨[b], rfl, .one ⟨?_, ?_, ?_⟩⟩
            · rintro rfl
              exact hTwo rfl
            · rintro rfl
              exact hThree rfl
            · rintro rfl
              exact hEight rfl
  · rintro ⟨front, rfl, hAnnounces⟩
    cases hAnnounces with
    | @one b hByte =>
        rw [List.singleton_append, encodedLength_cons]
        split
        · next h =>
            exact absurd (UInt8.toNat_inj.mp h) hByte.1
        · next h =>
            exact absurd (UInt8.toNat_inj.mp h) hByte.2.1
        · next h =>
            exact absurd (UInt8.toNat_inj.mp h) hByte.2.2
        · rfl
    | @two bytes hLength =>
        rw [List.cons_append, encodedLength_cons]
        exact number_eq_ok_iff.mpr ⟨bytes, rfl, hLength, rfl⟩
    | @three bytes hLength =>
        rw [List.cons_append, encodedLength_cons]
        exact number_eq_ok_iff.mpr ⟨bytes, rfl, hLength, rfl⟩
    | @eight bytes hLength =>
        rw [List.cons_append, encodedLength_cons]
        exact number_eq_ok_iff.mpr ⟨bytes, rfl, hLength, rfl⟩

end Wire

------------------------------------------------------------
-- Packets
------------------------------------------------------------

namespace Packet

open Wire

/-
  A packet that prepares and executes has so many parameters:
  after the header and the query, behind its length, it says
  how many in four bytes.
-/
def Counts
    (payload : List UInt8)
    (count : Nat) : Prop :=
  ∃ header size query number block,
    payload =
        header ++ (size ++ (query ++ (number ++ block))) ∧
      header.length = headerSize ∧
      Announces size query.length ∧
      number.length = 4 ∧
      LittleEndian.value number = count

/- An execute packet blames no index that is in range. -/
theorem blamesBytes_executeParam
    (count : Nat)
    (declared : List ParamType)
    {payload : List UInt8}
    (hSize : payload.length ≤ Block.greatestSize)
    {index : Nat}
    (hIndex : index < count) :
    BlamesBytes (executeParam count declared payload index) := by
  unfold executeParam
  rw [if_neg (Nat.not_le.mpr hIndex)]
  apply (blamesBytes_take .executeHeader headerSize payload).bind
  rintro ⟨header, block⟩ hTake
  rcases take_eq_ok_iff.mp hTake with ⟨rfl, _⟩
  rw [List.length_append] at hSize
  exact Block.blamesBytes_param hIndex declared (by omega)

/- The number of parameters is read from where it stands. -/
theorem paramCount_eq_ok_iff
    {bs block : List UInt8}
    {count : Nat}
    (hSize : bs.length ≤ Block.greatestSize) :
    paramCount bs = .ok (count, block) ↔
      ∃ size query number,
        bs = size ++ (query ++ (number ++ block)) ∧
          Announces size query.length ∧
          number.length = 4 ∧
          LittleEndian.value number = count := by
  unfold paramCount
  rw [Steps.bind_eq_ok_iff]
  constructor
  · rintro ⟨⟨length, rest⟩, hLength, hRest⟩
    rcases encodedLength_eq_ok_iff.mp hLength with
      ⟨size, rfl, hAnnounces⟩
    dsimp only at hRest
    split at hRest
    · cases hRest
    · rcases Steps.bind_eq_ok_iff.mp hRest with
        ⟨⟨front, others⟩, hTake, hDone⟩
      cases hDone
      rcases take_eq_ok_iff.mp hTake with ⟨rfl, hFront⟩
      have hQuery : (front.take length).length = length := by
        rw [List.length_take]
        omega
      refine
        ⟨size, front.take length, front.drop length, ?_,
          hQuery.symm ▸ hAnnounces, ?_, rfl⟩
      · rw [← List.append_assoc (front.take length),
          List.take_append_drop]
      · rw [List.length_drop]
        omega
  · rintro ⟨size, query, number, rfl, hAnnounces, hNumber, rfl⟩
    have hPositive := hAnnounces.length_pos
    simp only [List.length_append] at hSize
    have hSmall :
        ¬ Block.greatestSize < query.length + 4 := by
      omega
    have hFront :
        (query ++ number).length = query.length + 4 := by
      rw [List.length_append, hNumber]
    refine
      ⟨(query.length, query ++ (number ++ block)),
        encodedLength_eq_ok_iff.mpr ⟨size, rfl, hAnnounces⟩,
        ?_⟩
    dsimp only
    rw [if_neg hSmall, Steps.bind_eq_ok_iff]
    refine
      ⟨(query ++ number, block),
        take_eq_ok_iff.mpr
          ⟨(List.append_assoc query number block).symm, hFront⟩,
        ?_⟩
    dsimp only
    rw [List.drop_left]

/- The count of parameters is cut off with the query. -/
theorem blamesBytes_paramCount
    (bs : List UInt8) :
    BlamesBytes (paramCount bs) := by
  apply (blamesBytes_encodedLength bs).bind
  rintro ⟨size, rest⟩ _
  dsimp only
  split
  · intro cause hError
    cases hError
    simp
  · exact
      (blamesBytes_take .prepareExecuteQuery _ rest).bind
        fun _ _ => blamesBytes_ok _

/-
  A packet that prepares and executes blames the index if it
  brings a number of parameters that is not above it.
-/
theorem prepareExecuteParam_of_counts
    (declared : List ParamType)
    {payload : List UInt8}
    (hSize : payload.length ≤ Block.greatestSize)
    {index count : Nat}
    (hCounts : Counts payload count)
    (hIndex : count ≤ index) :
    prepareExecuteParam declared payload index =
      .error (.indexOutOfRange index count) := by
  rcases hCounts with
    ⟨header, size, query, number, block, rfl, hHeader,
      hAnnounces, hNumber, hValue⟩
  rw [List.length_append] at hSize
  have hCount :
      paramCount (size ++ (query ++ (number ++ block))) =
        .ok (count, block) :=
    (paramCount_eq_ok_iff (by omega)).mpr
      ⟨size, query, number, rfl, hAnnounces, hNumber, hValue⟩
  have hTake :
      take .prepareExecuteHeader headerSize
          (header ++ (size ++ (query ++ (number ++ block)))) =
        .ok (header, size ++ (query ++ (number ++ block))) :=
    take_eq_ok_iff.mpr ⟨rfl, hHeader⟩
  unfold prepareExecuteParam
  simp only [hTake, hCount, Steps.ok_bind, if_pos hIndex]

/- It blames no other index. -/
theorem blamesBytes_prepareExecuteParam
    (declared : List ParamType)
    {payload : List UInt8}
    (hSize : payload.length ≤ Block.greatestSize)
    {index : Nat}
    (hIndex : ∀ count, Counts payload count → index < count) :
    BlamesBytes (prepareExecuteParam declared payload index) := by
  apply
    (blamesBytes_take .prepareExecuteHeader headerSize
      payload).bind
  rintro ⟨header, rest⟩ hTake
  rcases take_eq_ok_iff.mp hTake with ⟨rfl, hHeader⟩
  rw [List.length_append] at hSize
  apply (blamesBytes_paramCount rest).bind
  rintro ⟨count, block⟩ hCount
  rcases (paramCount_eq_ok_iff (by omega)).mp hCount with
    ⟨size, query, number, rfl, hAnnounces, hNumber, hValue⟩
  have hLess : index < count :=
    hIndex count
      ⟨header, size, query, number, block, rfl, hHeader,
        hAnnounces, hNumber, hValue⟩
  simp only [List.length_append] at hSize
  dsimp only
  rw [if_neg (Nat.not_le.mpr hLess)]
  exact Block.blamesBytes_param hLess declared (by omega)

theorem blamesBytes_longData
    (payload : List UInt8) :
    BlamesBytes (longData payload) :=
  (blamesBytes_take .longDataHeader 6 payload).bind
    fun _ _ => blamesBytes_ok _

end Packet

end PartitionPruning

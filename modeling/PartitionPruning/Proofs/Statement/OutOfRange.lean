import PartitionPruning.Proofs.Wire.Indexes
import PartitionPruning.Statement.Binding

/-
  Placeholders that are out of range.

  A placeholder is out of range where the call has no such
  argument, or where there is no such parameter among those
  of the entry, of the packet or of the variables.  These
  are the placeholders that are unexpected: whatever else
  keeps a placeholder from its value is a failure of another
  kind.

  Key definitions include:
    * `Statement.StandsFor`
    * `Statement.Lacks`
    * `Statement.OutOfRange`
    * `Binding.Fault`

  Main declarations:
    * `Statement.bind_unexpected_iff`
-/

namespace PartitionPruning

------------------------------------------------------------
-- Ranges
------------------------------------------------------------

namespace Statement

/-
  A placeholder stands for a parameter: in a call for that
  of the argument at its index, and else for its own.
-/
def StandsFor
    (s : Statement)
    (index param : Nat) : Prop :=
  if s.request.kind.isCall then
    ∃ i, s.request.callArguments[index]? =
        some (.placeholder i) ∧
      i.toNat = param
  else index = param

/- There is no parameter at an index. -/
inductive Lacks
    (s : Statement)
    (param : Nat) : Prop where
  | noEntry
      (hCommand : s.request.command = .execute)
      (hEntry : s.prepared? = none)
  | execute {entry : StatementEntry}
      (hCommand : s.request.command = .execute)
      (hEntry : s.prepared? = some entry)
      (hCount : entry.paramCount.toNat ≤ param)
  | prepareExecute {count : Nat}
      (hCommand : s.request.command = .prepareExecute)
      (hCounts : Packet.Counts s.request.payload count)
      (hCount : count ≤ param)
  | sendLongData {entry : StatementEntry}
      (hCommand : s.request.command = .sendLongData)
      (hEntry : s.prepared? = some entry)
      (hCount : entry.paramCount.toNat ≤ param)
  | query
      (hCommand : s.request.command = .query)
      (hKind : s.request.kind.isExecute = true)
      (hCount : s.request.variableNames.length ≤ param)

/-
  A placeholder has nothing to stand for: no argument of the
  call, or no parameter.
-/
inductive OutOfRange
    (s : Statement)
    (index : Nat) : Prop where
  | noArgument
      (hKind : s.request.kind.isCall = true)
      (hCount : s.request.callArguments.length ≤ index)
  | noParam {param : Nat}
      (hStands : s.StandsFor index param)
      (hLacks : s.Lacks param)

end Statement

------------------------------------------------------------
-- Failures
------------------------------------------------------------

namespace Binding

/-
  What else can keep a placeholder from its value: a packet
  that is malformed, without types or of types that are not
  read, no values at all, a variable that is not set, and
  long data for another parameter.
-/
inductive Fault : Failure → Prop where
  | packet {cause : WireError}
      (hCause :
        ∀ index count, cause ≠ .indexOutOfRange index count) :
      Fault (.packet cause)
  | nothingBoundYet : Fault .nothingBoundYet
  | nothingBound (index : Nat) : Fault (.nothingBound index)
  | noVariable (name : String) : Fault (.noVariable name)
  | otherLongData (carried wanted : Nat) :
      Fault (.otherLongData carried wanted)

/-
  What may fail with an index in range is never
  unexpected.
-/
theorem Fault.kind_ne
    {failure : Failure}
    (h : Fault failure) :
    failure.kind ≠ .unexpected := by
  cases h with
  | @packet cause hCause =>
      cases cause with
      | indexOutOfRange index count =>
          exact absurd rfl (hCause index count)
      | _ => simp [Failure.kind, Failure.kindOfPacket]
  | _ => simp [Failure.kind]

/-
  A result is an unexpected failure where `lacking` holds,
  and else it is a value or a failure of another kind.
-/
structure Tells
    (result : Except Failure Value)
    (lacking : Prop) : Prop where
  unexpected :
    lacking →
      ∃ failure, result = .error failure ∧
        failure.kind = .unexpected
  fault :
    ¬ lacking →
      ∀ failure, result = .error failure → Fault failure

variable {lacking : Prop}

/- A value tells that nothing is lacking. -/
theorem tells_ok
    (h : ¬ lacking)
    (v : Value) :
    Tells (.ok v) lacking where
  unexpected := fun hLacking => absurd hLacking h
  fault := by
    intro _ failure hError
    cases hError

theorem tells_fault
    (h : ¬ lacking)
    {failure : Failure}
    (hFault : Fault failure) :
    Tells (.error failure) lacking where
  unexpected := fun hLacking => absurd hLacking h
  fault := by
    intro _ other hError
    cases hError
    exact hFault

/- An unexpected failure tells that something is lacking. -/
theorem tells_unexpected
    (h : lacking)
    {failure : Failure}
    (hKind : failure.kind = .unexpected) :
    Tells (.error failure) lacking where
  unexpected := fun _ => ⟨failure, rfl, hKind⟩
  fault := fun hNot => absurd h hNot

theorem Tells.congr
    {result : Except Failure Value}
    {other : Prop}
    (h : Tells result lacking)
    (hSame : lacking ↔ other) :
    Tells result other where
  unexpected := fun hOther => h.unexpected (hSame.mpr hOther)
  fault := fun hNot => h.fault fun hIt => hNot (hSame.mp hIt)

/- What is wrong with the bytes of a packet is a fault. -/
theorem tells_ofPacket
    {result : Except WireError Value}
    (h : ¬ lacking)
    (hBlames : Wire.BlamesBytes result) :
    Tells (ofPacket result) lacking := by
  cases result with
  | ok v => exact tells_ok h v
  | error cause =>
      exact tells_fault h (.packet (hBlames cause rfl))

------------------------------------------------------------
-- Commands
------------------------------------------------------------

variable {prepared? : Option StatementEntry}
variable {payload : List UInt8}

/-
  A statement lacks the parameters from its count on, and
  all of them if it was never prepared.
-/
theorem tells_executeParam
    (hSize : payload.length ≤ Block.greatestSize)
    (index : Nat) :
    Tells (executeParam prepared? payload index)
      (∀ entry ∈ prepared?,
        entry.paramCount.toNat ≤ index) := by
  cases prepared? with
  | none => exact tells_unexpected (by simp) rfl
  | some entry =>
      rw [executeParam]
      split
      · next hBeyond =>
          exact tells_unexpected (by simpa using hBeyond) rfl
      · next hWithin =>
          exact
            tells_ofPacket (by simpa using hWithin)
              (Packet.blamesBytes_executeParam _ _ hSize
                (Nat.lt_of_not_le hWithin))

/- The count is the one that the packet itself announces. -/
theorem tells_prepareExecuteParam
    (hSize : payload.length ≤ Block.greatestSize)
    (index : Nat) :
    Tells (prepareExecuteParam prepared? payload index)
      (∃ count, Packet.Counts payload count ∧
        count ≤ index) := by
  unfold prepareExecuteParam
  dsimp only
  by_cases hLacking :
      ∃ count, Packet.Counts payload count ∧ count ≤ index
  · rcases hLacking with ⟨count, hCounts, hIndex⟩
    rw [Packet.prepareExecuteParam_of_counts _ hSize hCounts
      hIndex]
    exact tells_unexpected ⟨count, hCounts, hIndex⟩ rfl
  · apply tells_ofPacket hLacking
    apply Packet.blamesBytes_prepareExecuteParam _ hSize
    intro count hCounts
    exact
      Nat.lt_of_not_le
        fun hIndex => hLacking ⟨count, hCounts, hIndex⟩

/-
  Long data lacks parameters where the prepared statement
  does, whatever index it carries.
-/
theorem tells_longDataParam
    (index : Nat) :
    Tells (longDataParam prepared? payload index)
      (∃ entry ∈ prepared?,
        entry.paramCount.toNat ≤ index) := by
  unfold longDataParam
  by_cases hLacking :
      ∃ entry ∈ prepared?, entry.paramCount.toNat ≤ index
  · rcases hLacking with ⟨entry, rfl, hCount⟩
    have hBeyond :
        beyond (some entry) index =
          some (.packet
            (.indexOutOfRange index entry.paramCount.toNat)) :=
      if_pos hCount
    rw [hBeyond]
    exact tells_unexpected ⟨entry, rfl, hCount⟩ rfl
  · have hBeyond : beyond prepared? index = none := by
      cases prepared? with
      | none => rfl
      | some entry =>
          exact
            if_neg fun hCount =>
              hLacking ⟨entry, rfl, hCount⟩
    rw [hBeyond]
    cases hData : Packet.longData payload with
    | error cause =>
        have hBlames :=
          Packet.blamesBytes_longData payload cause hData
        exact tells_fault hLacking (.packet hBlames)
    | ok data =>
        rcases data with ⟨carried, bytes⟩
        show Tells (if carried = index then _ else _) _
        split
        · exact tells_ok hLacking _
        · exact
            tells_fault hLacking (.otherLongData carried index)

/- There are as many parameters as names of variables. -/
theorem tells_variableParam
    (session : Session)
    (names : List String)
    (index : Nat) :
    Tells (variableParam session names index)
      (names.length ≤ index) := by
  unfold variableParam
  split
  · next hNone =>
      exact
        tells_unexpected (List.getElem?_eq_none_iff.mp hNone) rfl
  · next name hName =>
      have hLess : ¬ names.length ≤ index :=
        Nat.not_le.mpr (List.getElem?_eq_some_iff.mp hName).1
      unfold Session.value
      split
      · exact tells_ok hLess _
      · exact tells_fault hLess (.noVariable name)

end Binding

------------------------------------------------------------
-- Placeholders
------------------------------------------------------------

namespace Statement

open Binding

variable {s : Statement}

/- Where parameters are looked for depends on the command. -/
theorem lacks_iff
    (s : Statement)
    (param : Nat) :
    s.Lacks param ↔
      match s.request.command with
      | .execute =>
          ∀ entry ∈ s.prepared?, entry.paramCount.toNat ≤ param
      | .prepare => False
      | .prepareExecute =>
          ∃ count, Packet.Counts s.request.payload count ∧
            count ≤ param
      | .sendLongData =>
          ∃ entry ∈ s.prepared?, entry.paramCount.toNat ≤ param
      | .query =>
          s.request.kind.isExecute = true ∧
            s.request.variableNames.length ≤ param := by
  constructor
  · intro hLacks
    cases hLacks with
    | noEntry hCommand hEntry => simp [hCommand, hEntry]
    | execute hCommand hEntry hCount =>
        simpa [hCommand, hEntry] using hCount
    | prepareExecute hCommand hCounts hCount =>
        rw [hCommand]
        exact ⟨_, hCounts, hCount⟩
    | sendLongData hCommand hEntry hCount =>
        rw [hCommand]
        exact ⟨_, hEntry, hCount⟩
    | query hCommand hKind hCount =>
        rw [hCommand]
        exact ⟨hKind, hCount⟩
  · intro h
    cases hCommand : s.request.command with
    | execute =>
        rw [hCommand] at h
        cases hEntry : s.prepared? with
        | none => exact .noEntry hCommand hEntry
        | some entry =>
            exact .execute hCommand hEntry (h entry hEntry)
    | prepare =>
        rw [hCommand] at h
        cases h
    | prepareExecute =>
        rw [hCommand] at h
        rcases h with ⟨count, hCounts, hCount⟩
        exact .prepareExecute hCommand hCounts hCount
    | sendLongData =>
        rw [hCommand] at h
        rcases h with ⟨entry, hEntry, hCount⟩
        exact .sendLongData hCommand hEntry hCount
    | query =>
        rw [hCommand] at h
        exact .query hCommand h.1 h.2

/- A parameter is unexpected exactly where there is none. -/
theorem tells_param
    (hSize : s.request.payload.length ≤ Block.greatestSize)
    (index : Nat) :
    Tells (s.param index) (s.Lacks index) := by
  rw [lacks_iff]
  unfold param
  cases s.request.command with
  | execute => exact tells_executeParam hSize index
  | prepare => exact tells_fault not_false .nothingBoundYet
  | prepareExecute =>
      exact tells_prepareExecuteParam hSize index
  | sendLongData => exact tells_longDataParam index
  | query =>
      dsimp only
      cases s.request.kind.isExecute with
      | false =>
          exact tells_fault (by simp) (.nothingBound index)
      | true =>
          simpa using
            tells_variableParam s.session
              s.request.variableNames index

/- An argument that is given in the call is in range. -/
theorem not_outOfRange_of_argument
    {index : Nat}
    {a : CallArgument}
    (hKind : s.request.kind.isCall = true)
    (hGet : s.request.callArguments[index]? = some a)
    (hArgument : ∀ i, a ≠ .placeholder i) :
    ¬ s.OutOfRange index := by
  rintro (⟨_, hCount⟩ | ⟨hStands, _⟩)
  · have hLess := (List.getElem?_eq_some_iff.mp hGet).1
    omega
  · rw [StandsFor, if_pos hKind] at hStands
    rcases hStands with ⟨i, hPlaceholder, _⟩
    rw [hGet] at hPlaceholder
    exact hArgument i (Option.some.inj hPlaceholder)

/- A placeholder is out of range where its parameter is. -/
theorem lacks_iff_outOfRange
    {index param : Nat}
    (hStands : s.StandsFor index param) :
    s.Lacks param ↔ s.OutOfRange index := by
  constructor
  · exact .noParam hStands
  · rintro (⟨hKind, hCount⟩ | ⟨hOther, hLacks⟩)
    · rw [StandsFor, if_pos hKind] at hStands
      rcases hStands with ⟨i, hGet, _⟩
      have hLess := (List.getElem?_eq_some_iff.mp hGet).1
      omega
    · unfold StandsFor at hStands hOther
      split at hStands
      · next hKind =>
          rw [if_pos hKind] at hOther
          rcases hStands with ⟨i, hGet, rfl⟩
          rcases hOther with ⟨j, hSame, rfl⟩
          rw [hGet] at hSame
          cases hSame
          exact hLacks
      · next hKind =>
          rw [if_neg hKind] at hOther
          cases hStands
          cases hOther
          exact hLacks

/- A placeholder is unexpected exactly if it is out of range. -/
theorem tells_bind
    (hSize : s.request.payload.length ≤ Block.greatestSize)
    (index : Nat) :
    Tells (s.bind index) (s.OutOfRange index) := by
  unfold bind
  split
  · next hKind =>
      split
      · next hNone =>
          have hCount := List.getElem?_eq_none_iff.mp hNone
          exact tells_unexpected (.noArgument hKind hCount) rfl
      · next v hGet =>
          exact
            tells_ok
              (not_outOfRange_of_argument hKind hGet (by simp))
              _
      · next t hGet =>
          exact
            tells_ok
              (not_outOfRange_of_argument hKind hGet (by simp))
              _
      · next i hGet =>
          have hStands : s.StandsFor index i.toNat := by
            rw [StandsFor, if_pos hKind]
            exact ⟨i, hGet, rfl⟩
          exact
            (tells_param hSize i.toNat).congr
              (lacks_iff_outOfRange hStands)
  · next hKind =>
      have hStands : s.StandsFor index index := by
        rw [StandsFor, if_neg hKind]
      exact
        (tells_param hSize index).congr
          (lacks_iff_outOfRange hStands)

/-
  The failure to bind a placeholder is unexpected exactly if
  the placeholder is out of range.  In range there is a value
  or a failure of another kind, from one of a few causes.  No
  packet is longer than a 64-bit number can say.
-/
theorem bind_unexpected_iff
    (s : Statement)
    (index : Nat)
    (hSize : s.request.payload.length ≤ Block.greatestSize) :
    ((∃ failure, s.bind index = .error failure ∧
        failure.kind = .unexpected) ↔
      s.OutOfRange index) ∧
    ∀ failure, s.bind index = .error failure →
      ¬ s.OutOfRange index →
        Fault failure ∧ failure.kind ≠ .unexpected := by
  have hTells := tells_bind hSize index
  have hFault :
      ∀ failure, s.bind index = .error failure →
        ¬ s.OutOfRange index →
          Fault failure ∧ failure.kind ≠ .unexpected := by
    intro failure hError hRange
    have hFault := hTells.fault hRange failure hError
    exact ⟨hFault, hFault.kind_ne⟩
  refine ⟨⟨?_, hTells.unexpected⟩, hFault⟩
  rintro ⟨failure, hError, hKind⟩
  apply Classical.byContradiction
  intro hRange
  exact (hFault failure hError hRange).2 hKind

/-
  A call with two placeholders, in a packet that has one
  parameter and ends within its value.
-/
def shortCall : Statement :=
  let payload : List UInt8 :=
    List.replicate 9 0 ++
      ([1] ++ ([0x43] ++
        ([1, 0, 0, 0] ++ [0, 1, 3, 0, 42, 0, 0])))
  { (default : Statement) with
    request :=
      ⟨.prepareExecute, .call, [.placeholder 0, .placeholder 1],
        [], payload⟩ }

theorem outOfRange_shortCall :
    shortCall.OutOfRange 1 := by
  have hStands : shortCall.StandsFor 1 1 := ⟨1, rfl, rfl⟩
  have hCounts :
      Packet.Counts shortCall.request.payload 1 :=
    ⟨List.replicate 9 0, [1], [0x43], [1, 0, 0, 0], _, rfl, rfl,
      .one (by decide), rfl, rfl⟩
  exact
    .noParam hStands
      (.prepareExecute rfl hCounts (Nat.le_refl 1))

/-
  The second placeholder is unexpected.  The first is not,
  although the packet does not give its value.
-/
theorem bind_shortCall :
    shortCall.request.payload.length ≤ Block.greatestSize ∧
      shortCall.OutOfRange 1 ∧
      (∃ failure, shortCall.bind 1 = .error failure ∧
        failure.kind = .unexpected) ∧
      shortCall.bind 0 =
        .error (.packet (.truncated .longValue 4 3)) ∧
      ¬ shortCall.OutOfRange 0 := by
  have hSize :
      shortCall.request.payload.length ≤
        Block.greatestSize := by
    decide
  have hCut :
      shortCall.bind 0 =
        .error (.packet (.truncated .longValue 4 3)) :=
    rfl
  refine
    ⟨hSize, outOfRange_shortCall,
      (bind_unexpected_iff shortCall 1 hSize).1.mpr
        outOfRange_shortCall,
      hCut, ?_⟩
  intro hRange
  rcases (bind_unexpected_iff shortCall 0 hSize).1.mpr hRange
    with ⟨failure, hError, hKind⟩
  rw [hCut] at hError
  cases hError
  cases hKind

end Statement

end PartitionPruning

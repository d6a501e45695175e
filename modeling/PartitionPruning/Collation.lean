/-
  Collations, identified by number.

  Key definitions include:
    * `Collation`
    * `Collation.isCaseInsensitive`
-/

namespace PartitionPruning

/- A collation, known by its number in the wire protocol. -/
structure Collation where
  id : UInt16
deriving DecidableEq, Repr

namespace Collation

/- GBK, Chinese, without regard to case. -/
def gbkChineseCi : Collation :=
  ⟨28⟩

/- UTF-8 of up to three bytes, without regard to case. -/
def utf8GeneralCi : Collation :=
  ⟨33⟩

/- UTF-8, without regard to case. -/
def utf8mb4GeneralCi : Collation :=
  ⟨45⟩

/- UTF-8 in Unicode order, without regard to case. -/
def utf8mb4UnicodeCi : Collation :=
  ⟨224⟩

/- The default collation of the default character set. -/
instance : Inhabited Collation :=
  ⟨utf8mb4GeneralCi⟩

/- Comparisons under the collation ignore ASCII case. -/
def isCaseInsensitive
    (c : Collation) : Bool :=
  decide (c ∈
    [gbkChineseCi, utf8GeneralCi, utf8mb4GeneralCi,
      utf8mb4UnicodeCi])

end Collation

end PartitionPruning

import PartitionPruning.Text.CharClass

/-
  How the classes of characters lie to each other.

  Main declarations:
    * `CodeRange.holds_eq_false_of_apart`
    * `CharClass.isBlank_eq_false`
    * `CharClass.isAlphabetic_of_latin`
    * `CharClass.isAlphabetic_eq_false`
    * `CharClass.isAlphanumeric_eq_false`
    * `CharClass.isAlphanumeric_of_isBlank`
-/

namespace PartitionPruning

/- Tables whose ranges lie apart have no common character. -/
theorem CodeRange.holds_eq_false_of_apart
    {a b : Array CodeRange}
    {c : Char}
    (hApart :
      ∀ r ∈ a.toList, ∀ q ∈ b.toList,
        r.2 < q.1 ∨ q.2 < r.1)
    (hHolds : holds a c = true) :
    holds b c = false := by
  rcases Array.any_eq_true'.mp hHolds with ⟨r, hMember, hIn⟩
  have hInside : r.Mem c := of_decide_eq_true hIn
  rw [holds, Array.any_eq_false']
  intro q hOther hAlso
  have hBoth : q.Mem c := of_decide_eq_true hAlso
  have hSides :=
    hApart r (Array.mem_toList_iff.mpr hMember) q
      (Array.mem_toList_iff.mpr hOther)
  unfold CodeRange.Mem at hInside hBoth
  omega

/- A character of a range is not in a table apart from it. -/
theorem CodeRange.Mem.holds_eq_false
    {r : CodeRange}
    {b : Array CodeRange}
    {c : Char}
    (h : r.Mem c)
    (hApart : ∀ q ∈ b.toList, r.2 < q.1 ∨ q.2 < r.1) :
    holds b c = false := by
  apply holds_eq_false_of_apart (a := #[r])
  · simpa using hApart
  · simpa [holds] using h

namespace CharClass

/- The digits are in a row. -/
theorem isDigit_iff
    {c : Char} :
    isDigit c = true ↔ 0x30 ≤ c.toNat ∧ c.toNat ≤ 0x39 :=
  decide_eq_true_iff

/- The visible ASCII characters are no white space. -/
theorem isBlank_eq_false
    {c : Char}
    (h : 0x21 ≤ c.toNat ∧ c.toNat ≤ 0x7E) :
    isBlank c = false :=
  CodeRange.Mem.holds_eq_false (r := (0x21, 0x7E)) h
    (by decide +kernel)

theorem isBlank_of_isDigit
    {c : Char}
    (h : isDigit c = true) :
    isBlank c = false := by
  have hRange := isDigit_iff.mp h
  exact isBlank_eq_false ⟨by omega, by omega⟩

/- A visible ASCII character is told from white space. -/
theorem ne_of_isBlank
    {c d : Char}
    (h : isBlank c = true)
    (hVisible : 0x21 ≤ d.toNat ∧ d.toNat ≤ 0x7E) :
    c ≠ d := by
  rintro rfl
  rw [isBlank_eq_false hVisible] at h
  cases h

/- The letters `A` to `Z` and `a` to `z` are alphabetic. -/
theorem isAlphabetic_of_latin
    {c : Char}
    (h :
      (0x41 ≤ c.toNat ∧ c.toNat ≤ 0x5A) ∨
        (0x61 ≤ c.toNat ∧ c.toNat ≤ 0x7A)) :
    isAlphabetic c = true := by
  unfold isAlphabetic CodeRange.holds
  rw [Array.any_eq_true']
  rcases h with hUpper | hLower
  · exact
      ⟨(0x41, 0x5A), by decide +kernel,
        decide_eq_true hUpper⟩
  · exact
      ⟨(0x61, 0x7A), by decide +kernel,
        decide_eq_true hLower⟩

/- There is no letter before `A`. -/
theorem isAlphabetic_eq_false
    {c : Char}
    (h : c.toNat < 0x41) :
    isAlphabetic c = false :=
  CodeRange.Mem.holds_eq_false (r := (0, 0x40))
    ⟨Nat.zero_le _, Nat.le_of_lt_succ h⟩ (by decide +kernel)

/- There is neither a letter nor a numeral before `0`. -/
theorem isAlphanumeric_eq_false
    {c : Char}
    (h : c.toNat < 0x30) :
    isAlphanumeric c = false := by
  have hNumeral : CodeRange.holds Numeric.ranges c = false :=
    CodeRange.Mem.holds_eq_false (r := (0, 0x2F))
      ⟨Nat.zero_le _, Nat.le_of_lt_succ h⟩ (by decide +kernel)
  rw [isAlphanumeric, isAlphabetic_eq_false (by omega),
    hNumeral]
  rfl

/- White space is neither a letter nor a numeral. -/
theorem isAlphanumeric_of_isBlank
    {c : Char}
    (h : isBlank c = true) :
    isAlphanumeric c = false := by
  have hLetter : isAlphabetic c = false :=
    CodeRange.holds_eq_false_of_apart (by decide +kernel) h
  have hNumeral : CodeRange.holds Numeric.ranges c = false :=
    CodeRange.holds_eq_false_of_apart (by decide +kernel) h
  rw [isAlphanumeric, hLetter, hNumeral]
  rfl

/- Nothing is taken off white space by what is visible. -/
theorem takeWhile_dropWhile_of_blank
    {p : Char → Bool}
    {cs : List Char}
    (hVisible : ∀ c, p c = true → isBlank c = false)
    (hBlank : cs.all isBlank = true) :
    cs.takeWhile p = [] ∧ cs.dropWhile p = cs := by
  cases cs with
  | nil => exact ⟨rfl, rfl⟩
  | cons c cs =>
      rw [List.all_cons, Bool.and_eq_true] at hBlank
      have hOther : p c = false := by
        rw [← Bool.not_eq_true]
        intro hFirst
        rw [hVisible c hFirst] at hBlank
        cases hBlank.1
      simp [hOther]

end CharClass

end PartitionPruning

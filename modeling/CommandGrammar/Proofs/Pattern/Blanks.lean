import CommandGrammar.Unicode.Property

/-! # White space against words and digits

There are few characters of white space, so that none of them belongs to a word or is a digit can
be looked up.
-/

namespace CommandGrammar.Unicode

theorem Ranges.exists_of_contains {ranges : Ranges} {code : Nat}
    (hcontains : ranges.contains code = true) :
    ∃ range ∈ ranges, range.1 ≤ code ∧ code ≤ range.2 := by
  induction ranges with
  | nil => simp [Ranges.contains] at hcontains
  | cons range rest ih =>
      obtain ⟨first, last⟩ := range
      rw [Ranges.contains] at hcontains
      split at hcontains
      next => simp at hcontains
      next hfirst =>
        split at hcontains
        next hlast =>
          exact ⟨(first, last), List.mem_cons_self, Nat.le_of_not_lt hfirst, hlast⟩
        next =>
          obtain ⟨range, hrange, hbounds⟩ := ih hcontains
          exact ⟨range, List.mem_cons_of_mem _ hrange, hbounds⟩

/-- The code points of white space. -/
def blankCodes : List Nat :=
  PropertyTable.whiteSpace.flatMap fun range => List.range' range.1 (range.2 + 1 - range.1)

theorem toNat_mem_blankCodes {c : Char} (hblank : isWhiteSpace c = true) :
    c.toNat ∈ blankCodes := by
  obtain ⟨range, hrange, hfirst, hlast⟩ := Ranges.exists_of_contains hblank
  exact List.mem_flatMap.mpr ⟨range, hrange, List.mem_range'_1.mpr ⟨hfirst, by omega⟩⟩

theorem isWord_of_isWhiteSpace {c : Char} (hblank : isWhiteSpace c = true) : isWord c = false :=
  have hnone : ∀ code ∈ blankCodes, PropertyTable.word.contains code = false := by decide +kernel
  hnone _ (toNat_mem_blankCodes hblank)

theorem isDecimalDigit_of_isWhiteSpace {c : Char} (hblank : isWhiteSpace c = true) :
    isDecimalDigit c = false :=
  have hnone : ∀ code ∈ blankCodes, CategoryTable.decimalNumber.contains code = false := by
    decide
  hnone _ (toNat_mem_blankCodes hblank)

theorem isDecimalDigit_of_isDigit {c : Char} (hdigit : c.isDigit = true) :
    isDecimalDigit c = true := by
  have hbounds : 48 ≤ c.toNat ∧ c.toNat ≤ 57 := by
    simpa [Char.isDigit, UInt32.le_iff_toNat_le] using hdigit
  rw [isDecimalDigit, CategoryTable.decimalNumber, Ranges.contains, if_neg (by omega),
    if_pos (by omega)]

theorem isAlpha_apart {c : Char} (hletter : c.isAlpha = true) :
    isWhiteSpace c = false ∧ isDecimalDigit c = false := by
  have hbetween : ∀ first last : Char, first.val ≤ c.val → c.val ≤ last.val →
      first.toNat ≤ c.toNat ∧ c.toNat ≤ last.toNat :=
    fun _ _ hfirst hlast => ⟨UInt32.le_iff_toNat_le.mp hfirst, UInt32.le_iff_toNat_le.mp hlast⟩
  have hbounds : 65 ≤ c.toNat ∧ c.toNat ≤ 122 := by
    rcases Bool.or_eq_true_iff.mp hletter with hupper | hlower
    · obtain ⟨hfirst, hlast⟩ : 'A'.val ≤ c.val ∧ c.val ≤ 'Z'.val := of_decide_eq_true hupper
      obtain ⟨hleast, hmost⟩ := hbetween 'A' 'Z' hfirst hlast
      exact ⟨hleast, Nat.le_trans hmost (by decide)⟩
    · obtain ⟨hfirst, hlast⟩ := Bool.and_eq_true_iff.mp hlower
      obtain ⟨hleast, hmost⟩ :=
        hbetween 'a' 'z' (of_decide_eq_true hfirst) (of_decide_eq_true hlast)
      exact ⟨Nat.le_trans (by decide) hleast, hmost⟩
  have hnone : ∀ code ∈ List.range' 65 58, PropertyTable.whiteSpace.contains code = false ∧
      CategoryTable.decimalNumber.contains code = false := by
    decide
  exact hnone _ (List.mem_range'_1.mpr (by omega))

end CommandGrammar.Unicode

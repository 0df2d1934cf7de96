import Schematic.Proofs.Numerals
import Schematic.Proofs.Rounding

namespace Schematic

namespace Layout

/-- Digits that are written out: some at least, and no zero in front. -/
structure IsShortest (digits : Text) : Prop where
  isDigits : digits.IsDigits
  nonempty : digits ≠ []
  head : digits.head? ≠ some (CodePoint.char '0')

/-- The number of digits of which the first stands for `10 ^ first`. -/
def value (digits : Text) (first : ℤ) : ℚ := digits.decimal * 10 ^ (first - digits.length + 1)

variable {digits : Text}

theorem IsShortest.isWhole (h : IsShortest digits) : Json.IsWhole digits := ⟨h.isDigits, h.nonempty, .inr h.head⟩

theorem IsShortest.append (h : IsShortest digits) {more : Text} (hmore : more.IsDigits) :
    IsShortest (digits ++ more) := by
  obtain ⟨c, rest, rfl⟩ := List.exists_cons_of_ne_nil h.nonempty
  exact ⟨Text.isDigits_append.mpr ⟨h.isDigits, hmore⟩, by simp, by simpa using h.head⟩

theorem IsShortest.take (h : IsShortest digits) {n : Nat} (hn : 0 < n) : IsShortest (digits.take n) := by
  obtain ⟨c, rest, rfl⟩ := List.exists_cons_of_ne_nil h.nonempty
  obtain ⟨n, rfl⟩ := Nat.exists_eq_succ_of_ne_zero hn.ne'
  exact ⟨fun c hc => h.isDigits c (List.mem_of_mem_take hc), by simp, by simpa using h.head⟩

/-- Without an exponent a number is written as digits around a point. -/
theorem positional_plain (h : IsShortest digits) (first : ℤ) : ∃ whole fraction : Text,
    plain.positional digits first = whole ++ CodePoint.char '.' :: fraction ∧
    Json.IsWhole whole ∧ fraction.IsDigits ∧ fraction ≠ [] ∧
    ((whole ++ fraction).decimal : ℚ) * 10 ^ (-fraction.length : ℤ) = value digits first := by
  have hne : (10 : ℚ) ≠ 0 := by norm_num
  unfold positional
  split
  · rename_i hfirst
    refine ⟨[CodePoint.char '0'], zeros (-first - 1).toNat ++ digits, ?_, ?_, ?_, ?_, ?_⟩
    · simp [Text.ofString]
    · exact ⟨by decide, by simp, .inl rfl⟩
    · simp [h.isDigits]
    · simp [h.nonempty]
    · have hdecimal : Text.decimal ([CodePoint.char '0'] ++ (zeros (-first - 1).toNat ++ digits)) = digits.decimal := by
        rw [Text.decimal_append, Text.decimal_append, Text.decimal_zeros]
        simp [Text.decimal, CodePoint.digitValue, CodePoint.toNat]
      have hlength : (zeros (-first - 1).toNat ++ digits).length = (-first - 1).toNat + digits.length := by
        simp [zeros]
      rw [value, hdecimal, hlength]
      congr 2
      omega
  · rename_i hfirst
    dsimp only
    split
    · rename_i hlength
      obtain ⟨count, hcount⟩ := Nat.exists_eq_add_of_le hlength
      rw [show first.toNat + 1 - digits.length = count by omega]
      have hzeros := h.append (Text.isDigits_zeros count)
      refine ⟨digits ++ zeros count, [CodePoint.char '0'], ?_, hzeros.isWhole, by decide, by simp, ?_⟩
      · simp [plain, Text.ofString]
      · rw [value, Text.decimal_append, Text.decimal_append, Text.decimal_zeros,
          show first - digits.length + 1 = (count : ℤ) by omega, zpow_natCast]
        simp [zeros, Text.decimal, CodePoint.digitValue, CodePoint.toNat]
    · rename_i hlength
      have hsplit := List.take_append_drop (first.toNat + 1) digits
      refine ⟨digits.take (first.toNat + 1), digits.drop (first.toNat + 1), ?_, ?_, ?_, ?_, ?_⟩
      · simp [Text.ofString]
      · exact (h.take (by omega)).isWhole
      · exact fun c hc => h.isDigits c (List.mem_of_mem_drop hc)
      · simpa using not_le.mp hlength
      · rw [hsplit, value, List.length_drop]
        congr 2
        omega

theorem withExponent_eq (h : IsShortest digits) (first : ℤ) : ∃ whole fraction : Text,
    withExponent digits first = whole ++ (Json.pointed fraction ++ exponentText first) ∧
    Json.IsWhole whole ∧ fraction.IsDigits ∧
    ((whole ++ fraction).decimal : ℚ) * 10 ^ (first - fraction.length) = value digits first := by
  obtain ⟨c, rest, rfl⟩ := List.exists_cons_of_ne_nil h.nonempty
  refine ⟨[c], rest, ?_, ?_, ?_, ?_⟩
  · cases rest <;> simp [withExponent, Json.pointed, Text.ofString]
  · exact (h.take one_pos).isWhole
  · exact (Text.isDigits_cons.mp h.isDigits).2
  · rw [value, List.length_cons, List.singleton_append]
    congr 2
    push_cast
    ring

end Layout

namespace Binary64

variable {x : Binary64}

theorem not_isNaN (h : x.isFinite = true) : x.isNaN = false := by
  simp only [isFinite, isNaN] at *
  simp [of_decide_eq_true h]

theorem not_isInfinite (h : x.isFinite = true) : x.isInfinite = false := by
  simp only [isFinite, isInfinite] at *
  simp [of_decide_eq_true h]

theorem ofDecimal_zero (hzero : x.significand = 0) (e : ℤ) :
    ofDecimal x.negative 0 e = x := by
  have hexponent : x.exponent = -1074 := by
    simp only [significand, exponent] at *
    split at hzero
    · rename_i h
      simp [h]
    · simp at hzero
  conv_rhs => rw [eq_ofNat_bits x, hexponent, hzero]
  simp [ofDecimal, ofRatio]

/-- The digits of a positive number without the zeros at their end, and where the first one stands. -/
theorem shortest_digits (hpos : 0 < x.significand) :
    Layout.IsShortest (Layout.withoutTrailingZeros (Text.ofNat x.shortest.1)) ∧
    Layout.value (Layout.withoutTrailingZeros (Text.ofNat x.shortest.1))
      (x.shortest.2 + (Text.ofNat x.shortest.1).length - 1) = x.shortest.1 * 10 ^ x.shortest.2 := by
  have hn : 0 < x.shortest.1 := by
    have hq := (isNearest_shortest hpos).pos hpos
    rcases Nat.eq_zero_or_pos x.shortest.1 with hzero | hn
    · simp [hzero] at hq
    · exact hn
  obtain ⟨count, htext, hne⟩ := Text.exists_withoutTrailingZeros hn
  have hisDigits := Text.isDigits_ofNat x.shortest.1
  have hhead := Text.head?_ofNat_ne hn
  have hdecimal := Text.decimal_ofNat x.shortest.1
  have hlength := congrArg List.length htext
  generalize Layout.withoutTrailingZeros (Text.ofNat x.shortest.1) = digits at *
  rw [htext] at hisDigits hhead hdecimal
  refine ⟨⟨(Text.isDigits_append.mp hisDigits).1, hne, ?_⟩, ?_⟩
  · obtain ⟨c, rest, rfl⟩ := List.exists_cons_of_ne_nil hne
    simpa using hhead
  · have hzeros : (Layout.zeros count).length = count := List.length_replicate
    rw [Text.decimal_append, Text.decimal_zeros, hzeros, Nat.add_zero] at hdecimal
    rw [List.length_append, hzeros] at hlength
    rw [Layout.value, hlength, ← hdecimal]
    push_cast
    rw [mul_assoc, ← zpow_natCast (10 : ℚ) count, ← zpow_add₀ (by norm_num)]
    congr 2
    ring

/-- The text of a finite number is its sign, digits around a point or a digit with more after a point, and an exponent
in the second case. Both are decimals that are rounded to the number. -/
theorem text_cases (hfinite : x.isFinite = true) : ∃ whole fraction : Text, Json.IsWhole whole ∧ fraction.IsDigits ∧
    ((fraction ≠ [] ∧ x.text = Json.lead x.negative ++ (whole ++ CodePoint.char '.' :: fraction) ∧
        ofDecimal x.negative (whole ++ fraction).decimal (-fraction.length) = x) ∨
      ∃ e, x.text = Json.lead x.negative ++ (whole ++ (Json.pointed fraction ++ Layout.exponentText e)) ∧
        ofDecimal x.negative (whole ++ fraction).decimal (e - fraction.length) = x) := by
  have htext : x.text = Json.lead x.negative ++ Layout.plain.writeSize x := by
    rw [text, Layout.write, not_isNaN hfinite]
    cases x.negative <;> simp [Json.lead, Text.ofString]
  rw [htext, Layout.writeSize, not_isInfinite hfinite]
  rcases Nat.eq_zero_or_pos x.significand with hzero | hpos
  · have hisZero : x.isZero = true := by simp [isZero, hfinite, hzero]
    refine ⟨[CodePoint.char '0'], [CodePoint.char '0'], ⟨by decide, by simp, .inl rfl⟩, by decide,
      .inl ⟨by simp, ?_, ?_⟩⟩
    · simp only [hisZero, Bool.false_eq_true, if_false, if_true]
      rfl
    · rw [show Text.decimal ([CodePoint.char '0'] ++ [CodePoint.char '0']) = 0 by decide, ofDecimal_zero hzero]
  · have hnonzero : x.isZero = false := by simp [isZero, hpos.ne']
    obtain ⟨hdigits, hvalue⟩ := shortest_digits hpos
    have hnearest := isNearest_shortest hpos
    rw [← hvalue] at hnearest
    simp only [hnonzero, Bool.false_eq_true, if_false]
    generalize x.shortest.2 + ((Text.ofNat x.shortest.1).length : ℤ) - 1 = first at *
    split
    · obtain ⟨whole, fraction, heq, hwhole, hfraction, hne, hsame⟩ := Layout.positional_plain hdigits first
      exact ⟨whole, fraction, hwhole, hfraction, .inl ⟨hne, by rw [heq], ofDecimal_eq hfinite hpos (hsame ▸ hnearest)⟩⟩
    · obtain ⟨whole, fraction, heq, hwhole, hfraction, hsame⟩ := Layout.withExponent_eq hdigits first
      exact ⟨whole, fraction, hwhole, hfraction,
        .inr ⟨first, by rw [heq], ofDecimal_eq hfinite hpos (hsame ▸ hnearest)⟩⟩

end Binary64

namespace Json

/-- The text of a finite number is read back, up to where it ends. -/
theorem number_text {x : Binary64} (hfinite : x.isFinite = true) {rest : Text} (hrest : EndsNumber rest) :
    number (x.text ++ rest) = .ok (.float x, rest) := by
  obtain ⟨whole, fraction, hwhole, hfraction, ⟨hne, htext, hvalue⟩ | ⟨e, htext, hvalue⟩⟩ := x.text_cases hfinite
  · rw [htext, List.append_assoc, List.append_assoc, List.cons_append,
      number_point x.negative hwhole hfraction hne hrest, hvalue]
  · rw [htext, List.append_assoc, List.append_assoc, List.append_assoc,
      number_exponent x.negative hwhole hfraction e hrest, hvalue]

def IsNumeric (c : CodePoint) : Prop :=
  c.isDigit = true ∨ c ∈ [CodePoint.char '.', CodePoint.char 'e', CodePoint.char '+', CodePoint.char '-']

theorem isNumeric_ofInt {n : Int} (h : (Text.ofInt n).hasGap = false) : ∀ c ∈ Text.ofInt n, IsNumeric c := by
  intro c hc
  rw [Text.ofInt] at h hc
  split at hc
  · rename_i hlong
    rw [if_pos hlong] at h
    cases h
  · split at hc
    · rcases List.mem_cons.mp hc with rfl | hc
      · exact .inr (by decide)
      · exact .inl (Text.isDigits_ofNat _ c hc)
    · exact .inl (Text.isDigits_ofNat _ c hc)

theorem isNumeric_exponentText (e : ℤ) : ∀ c ∈ Layout.exponentText e, IsNumeric c := by
  have hdigits : ∀ c ∈ Text.ofNat e.natAbs, IsNumeric c := fun c hc => .inl (Text.isDigits_ofNat _ c hc)
  have hsign : ∀ c ∈ (if e < 0 then Text.ofString "-" else "+"), IsNumeric c := by
    split <;> simp [Text.ofString, IsNumeric]
  have hpadded : ∀ c ∈ (if (Text.ofNat e.natAbs).length < 2 then "0" ++ Text.ofNat e.natAbs else Text.ofNat e.natAbs),
      IsNumeric c := by
    split
    · exact List.forall_mem_append.mpr ⟨by simp [Text.ofString, IsNumeric]; decide, hdigits⟩
    · exact hdigits
  rw [Layout.exponentText]
  simp only [List.forall_mem_append]
  exact ⟨⟨by simp [Text.ofString, IsNumeric], hsign⟩, hpadded⟩

theorem isNumeric_text {x : Binary64} (hfinite : x.isFinite = true) : ∀ c ∈ x.text, IsNumeric c := by
  have hpoint : IsNumeric (CodePoint.char '.') := .inr (by decide)
  have hlead : ∀ c ∈ lead x.negative, IsNumeric c := by
    cases x.negative <;> simp [lead, Text.ofString, IsNumeric]
  obtain ⟨whole, fraction, hwhole, hfraction, ⟨-, htext, -⟩ | ⟨e, htext, -⟩⟩ := x.text_cases hfinite
  · rw [htext]
    simp only [List.forall_mem_append, List.forall_mem_cons]
    exact ⟨hlead, fun c hc => .inl (hwhole.digits c hc), hpoint, fun c hc => .inl (hfraction c hc)⟩
  · have hpointed : ∀ c ∈ pointed fraction, IsNumeric c := by
      unfold pointed
      split
      · simp
      · exact List.forall_mem_cons.mpr ⟨hpoint, fun c hc => .inl (hfraction c hc)⟩
    rw [htext]
    simp only [List.forall_mem_append]
    exact ⟨hlead, fun c hc => .inl (hwhole.digits c hc), hpointed, isNumeric_exponentText e⟩

end Json
end Schematic

import Mathlib.Data.List.TakeWhile
import Mathlib.Tactic.IntervalCases
import Mathlib.Tactic.Ring
import Schematic.Json.Reader

namespace Schematic

namespace Text

def IsDigits (t : Text) : Prop := ∀ c ∈ t, c.isDigit = true

instance (t : Text) : Decidable (IsDigits t) := inferInstanceAs (Decidable (∀ c ∈ t, c.isDigit = true))

@[simp] theorem isDigits_nil : IsDigits [] := by simp [IsDigits]

@[simp] theorem isDigits_cons {c : CodePoint} {t : Text} : IsDigits (c :: t) ↔ c.isDigit = true ∧ IsDigits t :=
  List.forall_mem_cons

@[simp] theorem isDigits_append {t u : Text} : IsDigits (t ++ u) ↔ IsDigits t ∧ IsDigits u :=
  List.forall_mem_append

@[simp] theorem isDigits_zeros (count : Nat) : IsDigits (Layout.zeros count) := by
  intro c hc
  rw [List.eq_of_mem_replicate hc]
  rfl

theorem isDigits_ofNat (n : Nat) : IsDigits (ofNat n) := by
  intro c hc
  obtain ⟨d, hd, rfl⟩ := List.mem_map.mp hc
  have hdigit := Nat.isDigit_of_mem_toDigits (by decide) (by decide) hd
  rw [Char.isDigit_iff_toNat] at hdigit
  exact Bool.and_eq_true_iff.mpr ⟨decide_eq_true hdigit.1, decide_eq_true hdigit.2⟩

theorem ofNat_ne_nil (n : Nat) : ofNat n ≠ [] := by simp [ofNat, Nat.toDigits_ne_nil]

def decimal (t : Text) : Nat := t.foldl (fun n c => n * 10 + c.digitValue) 0

theorem foldl_digits (t : Text) (n : Nat) :
    t.foldl (fun n c => n * 10 + c.digitValue) n = n * 10 ^ t.length + t.decimal := by
  induction t generalizing n with
  | nil => simp [decimal]
  | cons c t ih =>
    rw [decimal, List.foldl_cons, List.foldl_cons, ih, ih (0 * 10 + c.digitValue), List.length_cons]
    ring

theorem decimal_append (t u : Text) : (t ++ u).decimal = t.decimal * 10 ^ u.length + u.decimal := by
  rw [decimal, List.foldl_append, foldl_digits, ← decimal]

theorem decimal_zeros (count : Nat) : (Layout.zeros count).decimal = 0 := by
  induction count with
  | zero => rfl
  | succ count ih =>
    have hzeros : Layout.zeros (count + 1) = [CodePoint.char '0'] ++ Layout.zeros count := rfl
    rw [hzeros, decimal_append, ih]
    simp [decimal, CodePoint.digitValue, CodePoint.toNat]

theorem decimal_ofNat (n : Nat) : (ofNat n).decimal = n := by
  have hchars : ∀ (cs : List Char) (k : Nat),
      (cs.map CodePoint.char).foldl (fun n c => n * 10 + c.digitValue) k = Nat.ofDigitChars 10 cs k := by
    intro cs
    induction cs with
    | nil => simp [Nat.ofDigitChars_nil]
    | cons c cs ih =>
      intro k
      rw [List.map_cons, List.foldl_cons, ih, Nat.ofDigitChars_cons, Nat.mul_comm]
      rfl
  rw [decimal, ofNat, hchars]
  exact Nat.ofDigitChars_toDigits (by decide) (by decide)

theorem digits?_eq {t : Text} (h : IsDigits t) (hne : t ≠ []) : digits? t = some t.decimal := by
  have hall : t.all CodePoint.isDigit = true := List.all_eq_true.mpr h
  simp [digits?, hne, hall, decimal]

theorem length_ofNat_le {n k : Nat} (hk : 0 < k) (h : n < Nat.pow 10 k) : (ofNat n).length ≤ k := by
  rw [ofNat, List.length_map]
  exact (Nat.length_toDigits_le_iff (by decide) hk).mpr h

theorem head?_ofNat_ne {n : Nat} (h : 0 < n) : (ofNat n).head? ≠ some (CodePoint.char '0') := by
  induction n using Nat.strong_induction_on with
  | _ n ih =>
    rw [ofNat, Nat.toDigits_eq_if (by decide)]
    split
    · interval_cases n <;> decide
    · have hhigh := ih (n / 10) (by omega) (by omega)
      rw [ofNat] at hhigh
      obtain ⟨c, cs, hcs⟩ := List.exists_cons_of_ne_nil (Nat.toDigits_ne_nil (n := n / 10) (b := 10))
      rw [hcs] at hhigh ⊢
      simpa using hhigh

/-- A positive number is its digits without the zeros at their end, and these zeros. -/
theorem exists_withoutTrailingZeros {n : Nat} (h : 0 < n) : ∃ count,
    ofNat n = Layout.withoutTrailingZeros (ofNat n) ++ Layout.zeros count ∧
    Layout.withoutTrailingZeros (ofNat n) ≠ [] := by
  let isZero (c : CodePoint) : Bool := c = CodePoint.char '0'
  have hsplit := List.takeWhile_append_dropWhile (p := isZero) (l := (ofNat n).reverse)
  have hzeros : ((ofNat n).reverse.takeWhile isZero).reverse =
      Layout.zeros ((ofNat n).reverse.takeWhile isZero).length := by
    refine List.eq_replicate_iff.mpr ⟨List.length_reverse, fun c hc => ?_⟩
    exact of_decide_eq_true (List.mem_takeWhile_imp (p := isZero) (List.mem_reverse.mp hc))
  have heq : ofNat n = Layout.withoutTrailingZeros (ofNat n) ++
      Layout.zeros ((ofNat n).reverse.takeWhile isZero).length := by
    rw [← hzeros, Layout.withoutTrailingZeros, ← List.reverse_append, hsplit, List.reverse_reverse]
  refine ⟨_, heq, fun hnil => ?_⟩
  have hdecimal := congrArg decimal heq
  rw [hnil, List.nil_append, decimal_ofNat, decimal_zeros] at hdecimal
  omega

end Text

namespace Json

/-- A text that does not go on with a number. -/
def EndsNumber (t : Text) : Prop :=
  ∀ c ∈ t.head?, c.isDigit = false ∧ c ≠ CodePoint.char '.' ∧ c ≠ CodePoint.char 'e' ∧ c ≠ CodePoint.char 'E'

theorem endsNumber_nil : EndsNumber [] := by simp [EndsNumber]

/-- A text that does not begin with a digit. -/
def EndsDigits (t : Text) : Prop := ∀ c ∈ t.head?, c.isDigit = false

theorem EndsNumber.digits {t : Text} (h : EndsNumber t) : EndsDigits t := fun c hc => (h c hc).1

theorem takeWhile_digits {t rest : Text} (h : t.IsDigits) (hrest : EndsDigits rest) :
    (t ++ rest).takeWhile CodePoint.isDigit = t := by
  rw [List.takeWhile_append_of_pos h]
  cases rest with
  | nil => simp
  | cons c rest => simp [hrest c rfl]

theorem dropWhile_digits {t rest : Text} (h : t.IsDigits) (hrest : EndsDigits rest) :
    (t ++ rest).dropWhile CodePoint.isDigit = rest := by
  rw [List.dropWhile_append_of_pos h]
  cases rest with
  | nil => rfl
  | cons c rest => simp [hrest c rfl]

/-- The digits of a whole number: zero, or digits that do not begin with zero. -/
structure IsWhole (t : Text) : Prop where
  digits : t.IsDigits
  nonempty : t ≠ []
  canonical : t = [CodePoint.char '0'] ∨ t.head? ≠ some (CodePoint.char '0')

theorem isWhole_ofNat (n : Nat) : IsWhole (Text.ofNat n) := by
  refine ⟨Text.isDigits_ofNat n, Text.ofNat_ne_nil n, ?_⟩
  rcases Nat.eq_zero_or_pos n with rfl | hpos
  · exact .inl rfl
  · exact .inr (Text.head?_ofNat_ne hpos)

theorem integerPart?_append {whole rest : Text} (h : IsWhole whole) (hrest : EndsDigits rest) :
    integerPart? (whole ++ rest) = some (whole, rest) := by
  obtain ⟨c, tail, rfl⟩ := List.exists_cons_of_ne_nil h.nonempty
  by_cases hzero : c = CodePoint.char '0'
  · subst hzero
    have htail : tail = [] := by simpa using h.canonical
    simp [htail, integerPart?]
  · have hdigit : c.isDigit = true := h.digits c (by simp)
    have htake := takeWhile_digits h.digits hrest
    have hdrop := dropWhile_digits h.digits hrest
    rw [List.cons_append] at htake hdrop ⊢
    simp [integerPart?, hzero, hdigit, htake, hdrop]

theorem fractionPart_point {fraction rest : Text} (h : fraction.IsDigits) (hne : fraction ≠ [])
    (hrest : EndsDigits rest) : fractionPart (CodePoint.char '.' :: (fraction ++ rest)) = (fraction, rest) := by
  have htake := takeWhile_digits h hrest
  have hdrop := dropWhile_digits h hrest
  unfold fractionPart
  simp only [htake, hdrop]

theorem fractionPart_of_ne {t : Text} (h : ∀ c ∈ t.head?, c ≠ CodePoint.char '.') : fractionPart t = ([], t) := by
  unfold fractionPart
  split
  · exact (h _ rfl rfl).elim
  · rfl

theorem exponentPart?_of_ne {t : Text} (h : ∀ c ∈ t.head?, c ≠ CodePoint.char 'e' ∧ c ≠ CodePoint.char 'E') :
    exponentPart? t = none := by
  cases t with
  | nil => rfl
  | cons c t =>
    obtain ⟨he, hE⟩ := h c rfl
    simp [exponentPart?, he, hE]

theorem exponentPart?_exponentText (e : Int) {rest : Text} (hrest : EndsDigits rest) :
    exponentPart? (Layout.exponentText e ++ rest) = some (e, rest) := by
  let digits : Text := Text.ofNat e.natAbs
  let padded : Text := if digits.length < 2 then CodePoint.char '0' :: digits else digits
  have hpadded : padded.IsDigits ∧ padded ≠ [] ∧ padded.decimal = e.natAbs := by
    have hdigits := Text.isDigits_ofNat e.natAbs
    have hne := Text.ofNat_ne_nil e.natAbs
    have hvalue := Text.decimal_ofNat e.natAbs
    dsimp only [padded]
    split
    · refine ⟨Text.isDigits_cons.mpr ⟨by decide, hdigits⟩, by simp, ?_⟩
      rw [show CodePoint.char '0' :: digits = [CodePoint.char '0'] ++ digits from rfl, Text.decimal_append, hvalue]
      simp [Text.decimal, CodePoint.digitValue, CodePoint.toNat]
    · exact ⟨hdigits, hne, hvalue⟩
  obtain ⟨hdigits, hne, hvalue⟩ := hpadded
  have htake := takeWhile_digits hdigits hrest
  have hdrop := dropWhile_digits hdigits hrest
  have hsigned : Numeral.signed (decide (e < 0)) e.natAbs = e := by
    by_cases he : e < 0 <;> simp only [Numeral.signed, he, decide_true, decide_false, if_true] <;> grind
  have hread : exponentPart? (CodePoint.char 'e' :: CodePoint.char (if e < 0 then '-' else '+') :: (padded ++ rest)) =
      some (e, rest) := by
    by_cases he : e < 0
    all_goals
      simp [exponentPart?, Numeral.sign, he, htake, hdrop, Text.digits?_eq hdigits hne, hvalue]
      simpa [he] using hsigned
  convert hread using 2
  dsimp only [padded, digits]
  by_cases he : e < 0 <;> simp [Layout.exponentText, he, Text.ofString]

def lead (negative : Bool) : Text := if negative then "-" else []

theorem EndsNumber.exponentPart? {t : Text} (h : EndsNumber t) : exponentPart? t = none :=
  exponentPart?_of_ne fun c hc => (h c hc).2.2

theorem digitsOf_eq {t : Text} (h : t.IsDigits) : digitsOf t = t.decimal := by
  cases t with
  | nil => rfl
  | cons c t => simp [digitsOf, Text.digits?_eq h]

section Number

variable (negative : Bool) {whole fraction rest : Text}

theorem number_lead (h : IsWhole whole) :
    number (lead negative ++ (whole ++ rest)) =
      numberFrom negative (lead negative ++ (whole ++ rest)) (whole ++ rest) := by
  cases negative with
  | true => rfl
  | false =>
    obtain ⟨c, tail, rfl⟩ := List.exists_cons_of_ne_nil h.nonempty
    have hdigit : c.isDigit = true := h.digits c (by simp)
    change number (c :: tail ++ rest) = numberFrom false (c :: tail ++ rest) (c :: tail ++ rest)
    unfold number
    split
    · rename_i heq
      obtain ⟨rfl, -⟩ := List.cons.inj heq
      cases hdigit
    · rfl

/-- After the sign the digits are read, and then what follows them. -/
theorem numberFrom_append (t : Text) (h : IsWhole whole) (hrest : EndsDigits rest) :
    numberFrom negative t (whole ++ rest) =
      match exponentPart? (fractionPart rest).2 with
      | some (e, rest') =>
        .ok (.float (Binary64.ofDecimal negative (digitsOf (whole ++ (fractionPart rest).1))
          (e - (fractionPart rest).1.length)), rest')
      | none =>
        if (fractionPart rest).1.isEmpty then
          if 4300 < whole.length then .error (.tooManyDigits whole.length)
          else .ok (.int (Numeral.signed negative (digitsOf whole)), (fractionPart rest).2)
        else .ok (.float (Binary64.ofDecimal negative (digitsOf (whole ++ (fractionPart rest).1))
          (-(fractionPart rest).1.length)), (fractionPart rest).2) := by
  rewrite [numberFrom, integerPart?_append h hrest]
  rfl

theorem number_whole (h : IsWhole whole) (hsize : whole.length ≤ 4300) (hrest : EndsNumber rest) :
    number (lead negative ++ (whole ++ rest)) = .ok (.int (Numeral.signed negative whole.decimal), rest) := by
  rw [number_lead negative h, numberFrom_append negative _ h hrest.digits, fractionPart_of_ne fun c hc => (hrest c hc).2.1]
  simp [hrest.exponentPart?, hsize.not_gt, digitsOf_eq h.digits]

/-- With a point and digits after it, it is the nearest floating point number. -/
theorem number_point (h : IsWhole whole) (hfraction : fraction.IsDigits) (hne : fraction ≠ [])
    (hrest : EndsNumber rest) : number (lead negative ++ (whole ++ CodePoint.char '.' :: (fraction ++ rest))) =
      .ok (.float (Binary64.ofDecimal negative (whole ++ fraction).decimal (-fraction.length)), rest) := by
  rw [number_lead negative h, numberFrom_append negative _ h (by simp [EndsDigits]; decide),
    fractionPart_point hfraction hne hrest.digits]
  simp [hrest.exponentPart?, hne, digitsOf_eq (Text.isDigits_append.mpr ⟨h.digits, hfraction⟩)]

/-- The point and the digits after it, if there are any. -/
def pointed (fraction : Text) : Text := if fraction.isEmpty then [] else CodePoint.char '.' :: fraction

theorem fractionPart_pointed (hfraction : fraction.IsDigits) (hrest : EndsDigits rest)
    (hpoint : ∀ c ∈ rest.head?, c ≠ CodePoint.char '.') :
    fractionPart (pointed fraction ++ rest) = (fraction, rest) := by
  cases fraction with
  | nil => exact fractionPart_of_ne hpoint
  | cons c fraction => exact fractionPart_point hfraction (by simp) hrest

theorem number_exponent (h : IsWhole whole) (hfraction : fraction.IsDigits) (e : Int) (hrest : EndsNumber rest) :
    number (lead negative ++ (whole ++ (pointed fraction ++ (Layout.exponentText e ++ rest)))) =
      .ok (.float (Binary64.ofDecimal negative (whole ++ fraction).decimal (e - fraction.length)), rest) := by
  have hletter : ∀ c ∈ (Layout.exponentText e ++ rest).head?, c = CodePoint.char 'e' := by
    simp [Layout.exponentText, Text.ofString]
  have hends : EndsDigits (Layout.exponentText e ++ rest) := fun c hc => by rw [hletter c hc]; decide
  have hpart : fractionPart (pointed fraction ++ (Layout.exponentText e ++ rest)) =
      (fraction, Layout.exponentText e ++ rest) :=
    fractionPart_pointed hfraction hends fun c hc => by rw [hletter c hc]; decide
  have hwhole : EndsDigits (pointed fraction ++ (Layout.exponentText e ++ rest)) := by
    cases fraction with
    | nil => exact hends
    | cons c fraction => simp [EndsDigits, pointed]; decide
  rw [number_lead negative h, numberFrom_append negative _ h hwhole, hpart]
  simp [exponentPart?_exponentText e hrest.digits, digitsOf_eq (Text.isDigits_append.mpr ⟨h.digits, hfraction⟩)]

end Number

theorem number_ofInt {n : Int} (h : (Text.ofInt n).hasGap = false) {rest : Text} (hrest : EndsNumber rest) :
    number (Text.ofInt n ++ rest) = .ok (.int n, rest) := by
  have hbound : n.natAbs < Text.integerBound := by
    by_contra hlong
    simp [Text.ofInt, not_lt.mp hlong, Text.hasGap] at h
  have htext : Text.ofInt n = lead (decide (n < 0)) ++ Text.ofNat n.natAbs := by
    by_cases hn : n < 0 <;> simp [Text.ofInt, hbound.not_ge, hn, lead, Text.ofString]
  have hlength : (Text.ofNat n.natAbs).length ≤ 4300 := by
    unfold Text.integerBound at hbound
    generalize hk : 4300 = k at *
    exact Text.length_ofNat_le (by omega) hbound
  have hsigned : Numeral.signed (decide (n < 0)) n.natAbs = n := by
    by_cases hn : n < 0 <;> simp only [Numeral.signed, hn, decide_true, decide_false, if_true] <;> grind
  rw [htext, List.append_assoc, number_whole _ (isWhole_ofNat _) hlength hrest, Text.decimal_ofNat, hsigned]

end Json
end Schematic

import Schematic.Proofs.Cutting

/-! A signature shows texts that a schema was written with as they are: the options of an enumeration, the
operands and flags of checks, and literals. It is on a single line if and only if each of these is, as far as
it goes down. Nothing else in it can end a line: numbers have digits, and JSON has an escape for each line
end. -/
namespace Schematic

def CodePoint.EndsLine (c : CodePoint) : Prop := c = char '\n' ∨ c = char '\r'

@[simp] theorem endsLine_char {c : Char} : (CodePoint.char c).EndsLine ↔ c = '\n' ∨ c = '\r' := by
  simp [CodePoint.EndsLine]

instance : DecidablePred CodePoint.EndsLine := fun c => inferInstanceAs (Decidable (c = .char '\n' ∨ c = .char '\r'))

def Text.IsSingleLine (t : Text) : Prop := ∀ c ∈ t, ¬ c.EndsLine

instance : DecidablePred Text.IsSingleLine := fun t => inferInstanceAs (Decidable (∀ c ∈ t, ¬ c.EndsLine))

section Texts

variable {t u : Text}

@[simp] theorem isSingleLine_nil : Text.IsSingleLine [] := nofun

@[simp] theorem isSingleLine_cons {c : CodePoint} : Text.IsSingleLine (c :: t) ↔ ¬ c.EndsLine ∧ t.IsSingleLine :=
  List.forall_mem_cons

@[simp] theorem isSingleLine_append : Text.IsSingleLine (t ++ u) ↔ t.IsSingleLine ∧ u.IsSingleLine :=
  List.forall_mem_append

@[simp] theorem isSingleLine_ofString {s : String} :
    (Text.ofString s).IsSingleLine ↔ ∀ c ∈ s.toList, ¬ (CodePoint.char c).EndsLine := by
  simp [Text.IsSingleLine, Text.ofString]

@[simp] theorem isSingleLine_ite {p : Prop} [Decidable p] :
    Text.IsSingleLine (if p then t else u) ↔ (p → t.IsSingleLine) ∧ (¬ p → u.IsSingleLine) := by
  split_ifs with h <;> simp [h]

theorem Text.IsSingleLine.of_subset (h : u.IsSingleLine) (hsub : t ⊆ u) : t.IsSingleLine := fun c hc => h c (hsub hc)

theorem isSingleLine_join {separator : Text} (h : separator.IsSingleLine) {parts : List Text} :
    (Text.join separator parts).IsSingleLine ↔ ∀ t ∈ parts, t.IsSingleLine := by
  induction parts using Text.join.induct with
  | case1 => simp [Text.join]
  | case2 part => simp [Text.join]
  | case3 part next rest ih => simp [Text.join, h, ih]

end Texts

theorem isSingleLine_ofNat (n : Nat) : (Text.ofNat n).IsSingleLine := by
  intro c hc
  obtain ⟨digit, hdigit, rfl⟩ := List.mem_map.mp hc
  have hisDigit := Nat.isDigit_of_mem_toDigits (by decide) (by decide) hdigit
  rintro (hend | hend) <;>
  · rw [CodePoint.char.inj hend] at hisDigit
    exact absurd hisDigit (by decide)

theorem isSingleLine_ofInt (n : Int) : (Text.ofInt n).IsSingleLine := by
  unfold Text.ofInt
  split_ifs
  · decide
  · exact isSingleLine_cons.mpr ⟨by decide, isSingleLine_ofNat _⟩
  · exact isSingleLine_ofNat _

theorem isSingleLine_hex (width n : Nat) : (Text.hex width n).IsSingleLine := by
  induction width generalizing n with
  | zero => exact isSingleLine_nil
  | succ width ih =>
    simp [Text.hex, ih]

theorem isSingleLine_zeros (count : Nat) : (Layout.zeros count).IsSingleLine := by
  intro c hc
  rw [List.eq_of_mem_replicate hc]
  decide

theorem isSingleLine_positional (l : Layout) {digits : Text} (h : digits.IsSingleLine) (first : Int) :
    (l.positional digits first).IsSingleLine := by
  have htake : ∀ n, Text.IsSingleLine (digits.take n) := fun n => h.of_subset (List.take_subset n digits)
  have hdrop : ∀ n, Text.IsSingleLine (digits.drop n) := fun n => h.of_subset (List.drop_subset n digits)
  simp [Layout.positional, CodePoint.EndsLine, isSingleLine_zeros, h, htake, hdrop]

theorem isSingleLine_withExponent {digits : Text} (h : digits.IsSingleLine) (first : Int) :
    (Layout.withExponent digits first).IsSingleLine := by
  have htake : Text.IsSingleLine (digits.take 1) := h.of_subset (List.take_subset 1 digits)
  have htail : Text.IsSingleLine digits.tail := h.of_subset (List.tail_subset digits)
  simp [Layout.withExponent, Layout.exponentText, CodePoint.EndsLine, isSingleLine_ofNat, htake, htail]

theorem isSingleLine_withoutTrailingZeros {digits : Text} (h : digits.IsSingleLine) :
    (Layout.withoutTrailingZeros digits).IsSingleLine := by
  refine h.of_subset fun c hc => ?_
  have hmem := (List.dropWhile_sublist _).subset (List.mem_reverse.mp hc)
  exact List.mem_reverse.mp hmem

theorem isSingleLine_write (l : Layout) (x : Binary64) : (l.write x).IsSingleLine := by
  have hdigits := isSingleLine_withoutTrailingZeros (isSingleLine_ofNat x.shortest.1)
  have hsize : (l.writeSize x).IsSingleLine := by
    simp only [Layout.writeSize, isSingleLine_ite]
    refine ⟨fun _ => by decide, fun _ => ⟨fun _ => isSingleLine_positional l (by decide) 0, fun _ => ?_⟩⟩
    exact ⟨fun _ => isSingleLine_positional l hdigits _, fun _ => isSingleLine_withExponent hdigits _⟩
  simp [Layout.write, CodePoint.EndsLine, hsize]

theorem isSingleLine_token_binary (x : Binary64) : x.token.IsSingleLine := by
  unfold Binary64.token
  split
  · exact isSingleLine_ofInt _
  · exact isSingleLine_write _ x

namespace Json

theorem isSingleLine_escapeChar (c : CodePoint) : (escapeChar c).IsSingleLine := by
  unfold escapeChar
  split_ifs with _ _ hfeed hreturn
  all_goals first | decide | skip
  · simp [isSingleLine_hex]
  · simp [CodePoint.EndsLine, hfeed, hreturn]

theorem isSingleLine_writeText (t : Text) : (writeText t).IsSingleLine := by
  have hbody : Text.IsSingleLine (t.flatMap escapeChar) := by
    intro c hc
    obtain ⟨d, -, hd⟩ := List.mem_flatMap.mp hc
    exact isSingleLine_escapeChar d c hd
  simp [writeText, CodePoint.EndsLine, hbody]

mutual

theorem isSingleLine_write? : ∀ (v : Value) (t : Text), write? v = some t → t.IsSingleLine
  | .null => by
    intro t h
    obtain rfl := Option.some.inj h
    decide
  | .bool b => by
    intro t h
    obtain rfl := Option.some.inj h
    cases b <;> decide
  | .int n => by
    intro t h
    rw [write?, writeInt?] at h
    obtain rfl := Option.some.inj (Option.ite_none_left_eq_some.mp h).2
    exact isSingleLine_ofInt n
  | .float x => by
    intro t h
    rw [write?, writeFloat?] at h
    obtain rfl := Option.some.inj (Option.ite_none_right_eq_some.mp h).2
    exact isSingleLine_write _ x
  | .text u => by
    intro t h
    obtain rfl := Option.some.inj h
    exact isSingleLine_writeText u
  | .list items | .tuple items => by
    intro t h
    obtain ⟨parts, hparts, rfl⟩ := Option.map_eq_some_iff.mp h
    have hitems := isSingleLine_writeItems? items _ hparts
    simpa [isSingleLine_join] using hitems
  | .dict entries => by
    intro t h
    obtain ⟨parts, hparts, rfl⟩ := Option.map_eq_some_iff.mp h
    have hentries := isSingleLine_writeEntries? entries _ hparts
    simpa [isSingleLine_join] using hentries
  | .absent | .bytes _ | .set _ | .frozenset _ | .cyclicList _ | .cyclicDict _ | .pattern _ _ | .exotic _ | .unshown _ _
  | .callable _ _ | .foreign _ _ _ _ | .node _ => nofun

theorem isSingleLine_writeItems? :
    ∀ (vs : List Value) (parts : List Text), writeItems? vs = some parts → ∀ t ∈ parts, t.IsSingleLine
  | [] => by
    intro parts h
    obtain rfl := Option.some.inj h
    nofun
  | v :: vs => by
    intro parts h
    rw [writeItems?] at h
    split at h
    · rename_i part rest hpart hrest
      obtain rfl := Option.some.inj h
      exact List.forall_mem_cons.mpr ⟨isSingleLine_write? v _ hpart, isSingleLine_writeItems? vs _ hrest⟩
    · cases h

theorem isSingleLine_writeEntries? :
    ∀ (entries : List (Value × Value)) (parts : List Text), writeEntries? entries = some parts →
      ∀ t ∈ parts, t.IsSingleLine
  | [] => by
    intro parts h
    obtain rfl := Option.some.inj h
    nofun
  | (k, v) :: entries => by
    intro parts h
    rw [writeEntries?] at h
    split at h
    · rename_i key part rest _ hpart hrest
      obtain rfl := Option.some.inj h
      refine List.forall_mem_cons.mpr ⟨?_, isSingleLine_writeEntries? entries _ hrest⟩
      simp [isSingleLine_writeText, isSingleLine_write? v _ hpart]
    · cases h

end

end Json

/-- The texts that the token of a value shows as they are. -/
def Value.tokenTexts : Value → List Text
  | .text t => [t]
  | v => if v.valueClass = .other then [v.shown] else []

theorem isSingleLine_structured {v : Value} (hv : v.valueClass = .structured) : v.token.IsSingleLine := by
  rw [token_of_structured hv]
  cases v.itemObstacle? with
  | some why => simp [CodePoint.EndsLine]
  | none =>
    cases h : Json.write? v.setAsList with
    | none => exact (by decide : placeholder.IsSingleLine)
    | some t => exact Json.isSingleLine_write? _ _ h

theorem isSingleLine_token_iff (v : Value) : v.token.IsSingleLine ↔ ∀ t ∈ v.tokenTexts, t.IsSingleLine := by
  cases v with
  | text t => simp [Value.token, Value.tokenTexts]
  | bool b => cases b <;> simp [Value.token, Value.tokenTexts, Value.valueClass]
  | int n => simp [Value.token, Value.tokenTexts, Value.valueClass, isSingleLine_ofInt]
  | float x => simp [Value.token, Value.tokenTexts, Value.valueClass, isSingleLine_token_binary]
  | absent | null | callable =>
    simp [Value.token, Value.tokenTexts, Value.valueClass, functionToken]
  | list | tuple | set | frozenset | dict | cyclicList | cyclicDict =>
    simpa [Value.tokenTexts, Value.valueClass] using isSingleLine_structured rfl
  | bytes | pattern | exotic | unshown | foreign | node => simp [Value.token, Value.tokenTexts, Value.valueClass]

def TextOperand.texts : TextOperand → List Text
  | none | int _ => []
  | text t => [t]

/-- The texts that the line of a check shows as they are. -/
def TextCheck.texts (c : TextCheck) : List Text :=
  match c.rule with
  | .email | .url | .uuid => []
  | .regex => c.operand.texts ++ [c.flags]
  | _ => c.operand.texts

theorem isSingleLine_shown_operand_iff (operand : TextOperand) :
    operand.shown.IsSingleLine ↔ ∀ t ∈ operand.texts, t.IsSingleLine := by
  cases operand <;> simp [TextOperand.shown, TextOperand.texts, isSingleLine_ofInt]

theorem TextCheck.isSingleLine_line_iff (c : TextCheck) : c.line.IsSingleLine ↔ ∀ t ∈ c.texts, t.IsSingleLine := by
  obtain ⟨rule, operand, flags⟩ := c
  have hlabelled : ∀ {label : Text}, label.IsSingleLine →
      ((label ++ operand.shown).IsSingleLine ↔ ∀ t ∈ operand.texts, t.IsSingleLine) := fun h => by
    simp [h, isSingleLine_shown_operand_iff]
  have hquoted : ∀ {label : Text}, label.IsSingleLine →
      ((label ++ operand.shown ++ "\"").IsSingleLine ↔ ∀ t ∈ operand.texts, t.IsSingleLine) := fun h => by
    simp [h, isSingleLine_shown_operand_iff]
  have hflagged : ∀ {label : Text}, label.IsSingleLine →
      ((label ++ operand.shown ++ "/" ++ flags).IsSingleLine ↔
        ∀ t ∈ operand.texts ++ [flags], t.IsSingleLine) := fun h => by
    simp [h, isSingleLine_shown_operand_iff, or_imp, forall_and]
  cases rule with
  | min | max | length => exact hlabelled (by decide)
  | startsWith | endsWith => exact hquoted (by decide)
  | regex => exact hflagged (by decide)
  | email => exact iff_of_true (by decide : Text.IsSingleLine "Must be a valid email") nofun
  | url => exact iff_of_true (by decide : Text.IsSingleLine "Must be a valid URL") nofun
  | uuid => exact iff_of_true (by decide : Text.IsSingleLine "Must be a valid UUID") nofun

theorem isSingleLine_token_operand (operand : NumberOperand) : operand.token.IsSingleLine := by
  cases operand with
  | none => exact (by decide : Text.IsSingleLine "None")
  | int n => exact isSingleLine_ofInt n
  | float x => exact isSingleLine_token_binary x

theorem NumberCheck.isSingleLine_line (c : NumberCheck) : c.line.IsSingleLine := by
  obtain ⟨rule, operand, inclusive⟩ := c
  have hoperand := isSingleLine_token_operand operand
  have hrange : Text.IsSingleLine (if inclusive then Text.ofString " (inclusive): " else " (exclusive): ") := by
    cases inclusive <;> decide
  have hbound : ∀ {label : Text}, label.IsSingleLine →
      (NumberCheck.bound label ⟨rule, operand, inclusive⟩).IsSingleLine := fun h =>
    isSingleLine_append.mpr ⟨isSingleLine_append.mpr ⟨h, hrange⟩, hoperand⟩
  cases rule with
  | min | max => exact hbound (by decide)
  | int => exact (by decide : Text.IsSingleLine "Must be an integer")
  | multipleOf => exact isSingleLine_append.mpr ⟨by decide, hoperand⟩

theorem isSingleLine_withConstraints {name : Text} (h : name.IsSingleLine) (lines : List Text) :
    (withConstraints name lines).IsSingleLine ↔ ∀ t ∈ lines, t.IsSingleLine := by
  have hjoin : (Text.join ", " lines).IsSingleLine ↔ ∀ t ∈ lines, t.IsSingleLine := isSingleLine_join (by decide)
  cases lines with
  | nil => simp [withConstraints, h]
  | cons line lines => simpa [withConstraints, h] using hjoin

theorem isSingleLine_tuplePositions (items : List Text) (rest : Option Text) :
    (tuplePositions items rest).IsSingleLine ↔ (∀ t ∈ items, t.IsSingleLine) ∧ ∀ t ∈ rest, t.IsSingleLine := by
  have hjoin : (Text.join ", " items).IsSingleLine ↔ ∀ t ∈ items, t.IsSingleLine := isSingleLine_join (by decide)
  cases rest with
  | none => simpa [tuplePositions] using hjoin
  | some r =>
    by_cases hlisted : Text.join ", " items = []
    · have hitems : ∀ t ∈ items, t.IsSingleLine := hjoin.mp (hlisted ▸ isSingleLine_nil)
      simpa [tuplePositions, hlisted] using fun _ => hitems
    · simp [tuplePositions, hlisted, hjoin]

/-- The texts that the signature of a node shows as they are, beside the signatures of its children. -/
def Descriptor.texts (d : Descriptor) : List Text :=
  match d.body with
  | .string checks => checks.flatMap TextCheck.texts
  | .enum options => options
  | .literal v => v.tokenTexts
  | _ => []

/-- The texts that the signature of a value shows as they are. -/
def Value.texts : Value → List Text
  | .null => []
  | .node d => d.texts
  | v => [v.fallbackName]

theorem isSingleLine_signatureWith_iff {child : Value → Text} {d : Descriptor} :
    (d.signatureWith child).IsSingleLine ↔
      (∀ t ∈ d.texts, t.IsSingleLine) ∧ ∀ w ∈ d.inSignature, (child w).IsSingleLine := by
  obtain ⟨i, description, body⟩ := d
  unfold Descriptor.signatureWith Descriptor.texts Descriptor.inSignature
  cases body with
  | string checks =>
    have hlines := isSingleLine_withConstraints (by decide : Text.IsSingleLine "string") (checks.map TextCheck.line)
    have hchecks : (∀ t ∈ checks.map TextCheck.line, t.IsSingleLine) ↔
        ∀ t ∈ checks.flatMap TextCheck.texts, t.IsSingleLine := by
      simp only [List.forall_mem_map, List.forall_mem_flatMap, TextCheck.isSingleLine_line_iff]
    simp only [Descriptor.body, Descriptor.constraintLines, Body.children, hlines, hchecks, List.not_mem_nil,
      false_implies, implies_true, and_true]
  | number checks =>
    have hlines := isSingleLine_withConstraints (by decide : Text.IsSingleLine "number") (checks.map NumberCheck.line)
    simp [Descriptor.body, Descriptor.constraintLines, Body.children, hlines, NumberCheck.isSingleLine_line]
  | tuple items rest =>
    by_cases hrest : rest = .null
    · simp [Descriptor.body, hrest, Body.children, isSingleLine_tuplePositions]
    · simp [Descriptor.body, Body.mem_children_tuple, isSingleLine_tuplePositions, hrest, or_imp, forall_and]
  | primitive p => cases p <;> simp [Descriptor.body, Body.children, Primitive.tag]
  | modified m inner => cases m <;> simp [Descriptor.body, Modifier.toKind, Kind.tag]
  | _ => simp [Descriptor.body, Body.children, isSingleLine_join, isSingleLine_token_iff, Kind.tag]

/-- Going down this many levels, the signature of the first value comes to the second one. -/
inductive Value.Shows : (levels : Nat) → Value → Value → Prop
  | here (levels : Nat) (v : Value) : Shows (levels + 1) v v
  | part {levels : Nat} {d : Descriptor} {w x : Value} (child : w ∈ d.inSignature) (rest : Shows levels w x) :
      Shows (levels + 1) (.node d) x

theorem not_shows_zero {v w : Value} : ¬ v.Shows 0 w := nofun

theorem shows_node_iff {levels : Nat} {d : Descriptor} {x : Value} :
    (Value.node d).Shows (levels + 1) x ↔ x = .node d ∨ ∃ w ∈ d.inSignature, w.Shows levels x := by
  constructor
  · rintro (_ | ⟨child, rest⟩)
    · exact .inl rfl
    · exact .inr ⟨_, child, rest⟩
  · rintro (rfl | ⟨w, child, rest⟩)
    · exact .here _ _
    · exact .part child rest

theorem shows_other_iff {levels : Nat} {v x : Value} (hv : ¬ v.IsNode) : v.Shows (levels + 1) x ↔ x = v := by
  constructor
  · rintro (_ | _)
    · rfl
    · exact (hv ⟨_, rfl⟩).elim
  · rintro rfl
    exact .here _ _

/-- Level by level: the texts of the value itself, then what its parts show one level deeper. -/
theorem isSingleLine_signatureIn_iff (marker : Text) (levels : Nat) (v : Value) :
    (v.signatureIn marker levels).IsSingleLine ↔
      (v.isCutIn levels = true → marker.IsSingleLine) ∧ ∀ w, v.Shows levels w → ∀ t ∈ w.texts, t.IsSingleLine := by
  induction levels generalizing v with
  | zero =>
    cases v with
    | null => simp [Value.signatureIn, Value.isCutIn, not_shows_zero]
    | _ => simp [Value.signatureIn, Value.isCutIn, not_shows_zero]
  | succ levels ih =>
    by_cases hv : v.IsNode
    · obtain ⟨d, rfl⟩ := hv
      rw [signatureIn_node, isSingleLine_signatureWith_iff]
      simp only [ih, Value.isCutIn, List.any_eq_true, shows_node_iff]
      constructor
      · rintro ⟨htexts, hbelow⟩
        constructor
        · rintro ⟨w, hw, hcut⟩
          exact (hbelow w hw).1 hcut
        · rintro x (rfl | ⟨w, hw, hx⟩)
          · exact htexts
          · exact (hbelow w hw).2 x hx
      · rintro ⟨hmarker, hshown⟩
        refine ⟨hshown _ (.inl rfl), fun w hw => ⟨fun hcut => ?_, fun x hx => ?_⟩⟩
        · exact hmarker ⟨w, hw, hcut⟩
        · exact hshown x (.inr ⟨w, hw, hx⟩)
    · simp only [shows_other_iff hv, forall_eq]
      cases v with
      | node d => exact (hv ⟨d, rfl⟩).elim
      | null => simp [Value.signatureIn, Value.isCutIn, Value.texts]
      | _ => simp [Value.signatureIn, Value.isCutIn, Value.texts]

/-- A signature is on a single line if and only if the texts that it shows as they are, and the marker if it shows that,
are on a single line. -/
theorem isSingleLine_signature_iff (v : Value) (maxDepth : Int) (marker : Text) :
    (v.signature maxDepth marker).IsSingleLine ↔
      (v.isCutIn (Value.levels maxDepth 0) = true → marker.IsSingleLine) ∧
      ∀ w, v.Shows (Value.levels maxDepth 0) w → ∀ t ∈ w.texts, t.IsSingleLine :=
  isSingleLine_signatureIn_iff marker (Value.levels maxDepth 0) v

def brokenLiteral : Descriptor := .mk ⟨0, [], 0⟩ .null (.literal (.text "a\nb"))

def brokenListLiteral : Descriptor := .mk ⟨0, [], 0⟩ .null (.literal (.list [.text "a\nb"]))

theorem wellTyped_brokenLiteral : WellTyped [] (.node brokenLiteral) :=
  wellTyped_node ⟨.inl rfl, trivial⟩ fun w hw => by
    cases hw with
    | field child => cases child

/-- A literal with a line feed is shown as it is. In a list the same text is escaped. -/
theorem not_isSingleLine_signature_brokenLiteral : WellTyped [] (.node brokenLiteral) ∧
    Text.IsSingleLine "<truncated>" ∧
    (Value.node brokenLiteral).signature 64 "<truncated>" = "literal (\"a\nb\")" ∧
    ¬ ((Value.node brokenLiteral).signature 64 "<truncated>").IsSingleLine ∧
    (Value.node brokenListLiteral).signature 64 "<truncated>" = "literal ([\"a\\nb\"])" :=
  ⟨wellTyped_brokenLiteral, by decide, by decide, by decide, by decide⟩

end Schematic

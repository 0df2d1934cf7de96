import Schematic.Proofs.BinaryText
import Schematic.Value.Token

namespace Schematic

namespace CodePoint

theorem ofNat_of_ascii {c : CodePoint} (h : c.toNat < 0x80) : ofNat c.toNat = c := by
  cases c with
  | char c =>
    rw [toNat] at h ⊢
    simp [ofNat, show ¬ 0xD800 ≤ c.toNat by omega]
  | half offset => simp [toNat] at h; omega
  | gap => simp [toNat] at h

end CodePoint

theorem hexValue?_digitChar {n : Nat} (h : n < 16) : (CodePoint.char (Nat.digitChar n)).hexValue? = some n := by
  interval_cases n <;> decide

namespace Json

theorem hex_four (n : Nat) : Text.hex 4 n = [n / 4096, n / 256, n / 16, n].map fun m =>
    CodePoint.char (Nat.digitChar (m % 16)) := by
  simp [Text.hex, Nat.div_div_eq_div_mul]

section TextBody

variable (opening : Nat) {c : CodePoint} {rest : Text}

/-- Four hexadecimal digits that stand for no half of a pair are read by themselves, whatever follows them. -/
theorem textBody_hex4 {c₁ c₂ c₃ c₄ next : CodePoint} {n : Nat} (h : hex4? c₁ c₂ c₃ c₄ = some n)
    (hhigh : isHighHalf n = false) :
    textBody opening (CodePoint.char '\\' :: CodePoint.char 'u' :: c₁ :: c₂ :: c₃ :: c₄ :: next :: rest) =
      cons (CodePoint.ofNat n) (textBody opening (next :: rest)) := by
  rw [textBody.eq_def]
  split
  case h_3 | h_4 =>
    rename_i heq
    simp only [List.cons.injEq, true_and] at heq
    obtain ⟨rfl, rfl, rfl, rfl, rfl, rfl⟩ := heq
    simp [h, hhigh]
  case h_5 =>
    rename_i hother heq
    simp only [List.cons.injEq, true_and] at heq
    exact (hother _ _ _ _ _ _ heq.symm).elim
  case h_8 =>
    rename_i hother _ heq
    exact (hother _ _ (List.cons.inj heq).1.symm (List.cons.inj heq).2.symm).elim
  all_goals simp_all

theorem textBody_escaped {d : CodePoint} (h : escaped? c = some d) :
    textBody opening (CodePoint.char '\\' :: c :: rest) = cons d (textBody opening rest) := by
  have hu : c ≠ CodePoint.char 'u' := by
    rintro rfl
    cases h
  rw [textBody.eq_def]
  split
  case h_8 =>
    rename_i hother _ heq
    exact (hother _ _ (List.cons.inj heq).1.symm (List.cons.inj heq).2.symm).elim
  all_goals simp_all

theorem textBody_plain (hquote : c ≠ CodePoint.char '"') (hslash : c ≠ CodePoint.char '\\')
    (hcontrol : ¬ c.toNat < 0x20) : textBody opening (c :: rest) = cons c (textBody opening rest) := by
  rw [textBody.eq_def]
  split <;> simp_all

end TextBody

/-- What is written for a code point is read as that code point. -/
theorem textBody_escapeChar (opening : Nat) (c : CodePoint) {rest : Text} (hrest : rest ≠ []) :
    textBody opening (escapeChar c ++ rest) = cons c (textBody opening rest) := by
  unfold escapeChar
  split_ifs with hquote hslash hfeed hreturn htab hback hform hcontrol
  · subst hquote; exact textBody_escaped opening rfl
  · subst hslash; exact textBody_escaped opening rfl
  · subst hfeed; exact textBody_escaped opening rfl
  · subst hreturn; exact textBody_escaped opening rfl
  · subst htab; exact textBody_escaped opening rfl
  · subst hback; exact textBody_escaped opening rfl
  · subst hform; exact textBody_escaped opening rfl
  · obtain ⟨next, rest, rfl⟩ := List.exists_cons_of_ne_nil hrest
    have hread : hex4? (CodePoint.char (Nat.digitChar (c.toNat / 4096 % 16)))
        (CodePoint.char (Nat.digitChar (c.toNat / 256 % 16))) (CodePoint.char (Nat.digitChar (c.toNat / 16 % 16)))
        (CodePoint.char (Nat.digitChar (c.toNat % 16))) = some c.toNat := by
      simp only [hex4?, hexValue?_digitChar (Nat.mod_lt _ (by decide : 0 < 16))]
      congr 1
      omega
    have hhigh : isHighHalf c.toNat = false := by simp [isHighHalf]; omega
    simpa [hex_four, Text.ofString, CodePoint.ofNat_of_ascii (show c.toNat < 0x80 by omega)] using
      textBody_hex4 opening hread hhigh
  · exact textBody_plain opening hquote hslash hcontrol

theorem textBody_escaped_text (opening : Nat) (t rest : Text) :
    textBody opening (t.flatMap escapeChar ++ CodePoint.char '"' :: rest) = .ok (t, rest) := by
  induction t with
  | nil =>
    rw [List.flatMap_nil, List.nil_append, textBody]
  | cons c t ih =>
    rw [List.flatMap_cons, List.append_assoc, textBody_escapeChar opening c (by simp), ih]
    rfl

/-- The first code point is no blank, closes nothing and is no mark of the byte order. -/
def Begins (t : Text) : Prop :=
  ∃ c ∈ t.head?, isBlank c = false ∧ c ≠ CodePoint.char ']' ∧ c ≠ CodePoint.char '\x7d' ∧ c ≠ CodePoint.char '\ufeff'

theorem begins_cons {c : CodePoint} {t : Text} : Begins (c :: t) ↔ isBlank c = false ∧ c ≠ CodePoint.char ']' ∧
    c ≠ CodePoint.char '\x7d' ∧ c ≠ CodePoint.char '\ufeff' := by simp [Begins]

theorem Begins.append {t : Text} (h : Begins t) (rest : Text) : Begins (t ++ rest) := by
  obtain ⟨c, hc, h⟩ := h
  cases t with
  | nil => cases hc
  | cons d t => exact ⟨c, hc, h⟩

theorem Begins.skipBlanks {t : Text} (h : Begins t) : skipBlanks t = t := by
  cases t with
  | nil => rfl
  | cons c t => simp [Json.skipBlanks, (begins_cons.mp h).1]

theorem integerPart?_eq_some {t : Text} {r : Text × Text} (h : integerPart? t = some r) :
    ∃ c rest, t = c :: rest ∧ c.isDigit = true := by
  cases t with
  | nil => cases h
  | cons c rest =>
    refine ⟨c, rest, rfl, ?_⟩
    simp only [integerPart?] at h
    split at h
    · rename_i hzero
      rw [hzero]
      decide
    · exact (Option.ite_none_right_eq_some.mp h).1

/-- A number begins with a digit, or with a minus sign and a digit. -/
theorem head_of_number {t : Text} {r : Value × Text} (h : number t = .ok r) : ∃ c rest, c.isDigit = true ∧
    (t = c :: rest ∨ t = CodePoint.char '-' :: c :: rest) := by
  have hfrom : ∀ {negative t' body}, numberFrom negative t' body = .ok r → ∃ c rest, c.isDigit = true ∧ body = c :: rest := by
    intro negative t' body h
    unfold numberFrom at h
    split at h
    · cases h
    · rename_i whole rest hpart
      obtain ⟨c, tail, rfl, hc⟩ := integerPart?_eq_some hpart
      exact ⟨c, tail, hc, rfl⟩
  unfold number at h
  split at h
  · obtain ⟨c, tail, hc, rfl⟩ := hfrom h
    exact ⟨c, tail, hc, .inr rfl⟩
  · obtain ⟨c, tail, hc, rfl⟩ := hfrom h
    exact ⟨c, tail, hc, .inl rfl⟩

theorem ne_of_isDigit {c d : CodePoint} (hc : c.isDigit = true) (hd : d.isDigit = false) : d ≠ c := by
  rintro rfl
  rw [hc] at hd
  cases hd

theorem isBlank_of_isDigit {c : CodePoint} (h : c.isDigit = true) : isBlank c = false := by
  simp [isBlank, (ne_of_isDigit h (d := CodePoint.char ' ') (by decide)).symm,
    (ne_of_isDigit h (d := CodePoint.char '\t') (by decide)).symm,
    (ne_of_isDigit h (d := CodePoint.char '\n') (by decide)).symm,
    (ne_of_isDigit h (d := CodePoint.char '\r') (by decide)).symm]

theorem named?_of_number {t : Text} {r : Value × Text} (h : number t = .ok r) : named? t = none := by
  obtain ⟨c, rest, hc, rfl | rfl⟩ := head_of_number h
  · have hn := ne_of_isDigit hc (d := CodePoint.char 'n') (by decide)
    have ht := ne_of_isDigit hc (d := CodePoint.char 't') (by decide)
    have hf := ne_of_isDigit hc (d := CodePoint.char 'f') (by decide)
    have hN := ne_of_isDigit hc (d := CodePoint.char 'N') (by decide)
    have hI := ne_of_isDigit hc (d := CodePoint.char 'I') (by decide)
    have hm := ne_of_isDigit hc (d := CodePoint.char '-') (by decide)
    simp [named?, names, Text.after?, Text.ofString, hn, ht, hf, hN, hI, hm]
  · have hI := ne_of_isDigit hc (d := CodePoint.char 'I') (by decide)
    simp [named?, names, Text.after?, Text.ofString, hI]

theorem value_of_number {t : Text} {r : Value × Text} (h : number t = .ok r) {fuel : Nat} (hfuel : 0 < fuel) :
    value none fuel t = .ok r := by
  obtain ⟨fuel, rfl⟩ := Nat.exists_eq_succ_of_ne_zero hfuel.ne'
  have hnamed := named?_of_number h
  have hhead : ∀ c ∈ t.head?, c = CodePoint.char '-' ∨ c.isDigit = true := by
    obtain ⟨c, rest, hc, rfl | rfl⟩ := head_of_number h <;> simp [hc]
  rw [value, hnamed]
  · exact h
  all_goals
    rintro rest rfl
    exact absurd (hhead _ rfl) (by decide)

theorem begins_of_number {t : Text} {r : Value × Text} (h : number t = .ok r) : Begins t := by
  obtain ⟨c, rest, hc, rfl | rfl⟩ := head_of_number h
  · exact begins_cons.mpr ⟨isBlank_of_isDigit hc, (ne_of_isDigit hc (by decide)).symm,
      (ne_of_isDigit hc (by decide)).symm, (ne_of_isDigit hc (by decide)).symm⟩
  · exact begins_cons.mpr ⟨by decide, by decide, by decide, by decide⟩

theorem endsNumber_cons {c : CodePoint} {t : Text} : EndsNumber (c :: t) ↔ c.isDigit = false ∧ c ≠ CodePoint.char '.' ∧
    c ≠ CodePoint.char 'e' ∧ c ≠ CodePoint.char 'E' := by simp [EndsNumber]

end Json

mutual

/-- What is read from the JSON of a value: lists for tuples, texts for keys, and of entries under one key the last. -/
def Value.image : Value → Value
  | .list items | .tuple items => .list (images items)
  | .dict entries => .dict (Entries.ofList (imageEntries entries))
  | v => v

def images : List Value → List Value
  | [] => []
  | v :: vs => v.image :: images vs

def imageEntries : List (Value × Value) → List (Value × Value)
  | [] => []
  | (k, v) :: rest => (.text ((Json.key? k).getD []), v.image) :: imageEntries rest

end

namespace Json

theorem begins_write? {v : Value} {t : Text} (h : write? v = some t) : Begins t := by
  cases v with
  | null =>
    obtain rfl := Option.some.inj h
    exact begins_cons.mpr ⟨by decide, by decide, by decide, by decide⟩
  | bool b =>
    obtain rfl := Option.some.inj h
    cases b <;> exact begins_cons.mpr ⟨by decide, by decide, by decide, by decide⟩
  | int n =>
    rw [write?, writeInt?] at h
    obtain ⟨hgap, heq⟩ := Option.ite_none_left_eq_some.mp h
    obtain rfl := Option.some.inj heq
    have hread := number_ofInt (Bool.eq_false_iff.mpr hgap) endsNumber_nil
    exact begins_of_number (by simpa using hread)
  | float x =>
    rw [write?, writeFloat?] at h
    obtain ⟨hfinite, heq⟩ := Option.ite_none_right_eq_some.mp h
    obtain rfl := Option.some.inj heq
    have hread := number_text hfinite endsNumber_nil
    exact begins_of_number (by simpa using hread)
  | text u =>
    obtain rfl := Option.some.inj h
    exact begins_cons.mpr ⟨by decide, by decide, by decide, by decide⟩
  | list | tuple | dict =>
    obtain ⟨parts, -, rfl⟩ := Option.map_eq_some_iff.mp h
    exact begins_cons.mpr ⟨by decide, by decide, by decide, by decide⟩
  | _ => cases h

theorem begins_writeItems? {vs : List Value} {part : Text} {parts : List Text}
    (h : writeItems? vs = some (part :: parts)) : Begins part := by
  cases vs with
  | nil => cases h
  | cons v vs =>
    rw [writeItems?] at h
    split at h
    · rename_i hpart _
      obtain ⟨rfl, -⟩ := List.cons.inj (Option.some.inj h)
      exact begins_write? hpart
    · cases h

theorem begins_writeEntries? {entries : List (Value × Value)} {part : Text} {parts : List Text}
    (h : writeEntries? entries = some (part :: parts)) : Begins part := by
  cases entries with
  | nil => cases h
  | cons entry entries =>
    rw [writeEntries?] at h
    split at h
    · obtain ⟨rfl, -⟩ := List.cons.inj (Option.some.inj h)
      exact begins_cons.mpr ⟨by decide, by decide, by decide, by decide⟩
    · cases h

theorem Begins.length_pos {t : Text} (h : Begins t) : 0 < t.length := by
  cases t with
  | nil => simp [Begins] at h
  | cons c t => simp

section Steps

variable (fuel : Nat) {t body rest : Text} {v : Value}

theorem value_text (t rest : Text) : value none (fuel + 1) (writeText t ++ rest) = .ok (.text t, rest) := by
  have htext : writeText t ++ rest = CodePoint.char '"' :: (t.flatMap escapeChar ++ CodePoint.char '"' :: rest) := by
    simp [writeText]
  rw [htext, value, textBody_escaped_text]
  rfl

theorem value_list (h : Begins body) :
    value none (fuel + 1) (CodePoint.char '[' :: body) = (items none fuel body).map fun (vs, rest) => (.list vs, rest) := by
  have hroom : inner? none = some none := rfl
  rw [value, hroom]
  simp only [h.skipBlanks]
  split
  · exact absurd rfl (begins_cons.mp h).2.1
  · rfl

theorem value_dict (h : Begins body) : value none (fuel + 1) (CodePoint.char '\x7b' :: body) =
    (members none fuel body).map fun (entries, rest) => (.dict (Entries.ofList entries), rest) := by
  have hroom : inner? none = some none := rfl
  rw [value, hroom]
  simp only [h.skipBlanks]
  split
  · exact absurd rfl (begins_cons.mp h).2.2.1
  · rfl

theorem items_last (h : value none fuel t = .ok (v, CodePoint.char ']' :: rest)) :
    items none (fuel + 1) t = .ok ([v], rest) := by
  rw [items, h]
  rfl

theorem items_next (h : value none fuel t = .ok (v, CodePoint.char ',' :: body)) (hbody : Begins body) :
    items none (fuel + 1) t = (items none fuel body).map fun (vs, rest) => (v :: vs, rest) := by
  have hcomma : skipBlanks (CodePoint.char ',' :: body) = CodePoint.char ',' :: body := rfl
  rw [items, h]
  simp only [hcomma, hbody.skipBlanks]

theorem writeText_append_colon (key t : Text) : writeText key ++ CodePoint.char ':' :: t =
    CodePoint.char '"' :: (key.flatMap escapeChar ++ CodePoint.char '"' :: CodePoint.char ':' :: t) := by
  simp [writeText]

theorem members_last (key : Text) (hbegins : Begins t) (h : value none fuel t = .ok (v, CodePoint.char '\x7d' :: rest)) :
    members none (fuel + 1) (writeText key ++ CodePoint.char ':' :: t) = .ok ([(.text key, v)], rest) := by
  have hcolon : skipBlanks (CodePoint.char ':' :: t) = CodePoint.char ':' :: t := rfl
  have hclose : skipBlanks (CodePoint.char '\x7d' :: rest) = CodePoint.char '\x7d' :: rest := rfl
  rw [writeText_append_colon, members, textBody_escaped_text]
  simp only [hcolon, hbegins.skipBlanks, h, hclose]

theorem members_next (key : Text) (hbegins : Begins t) (h : value none fuel t = .ok (v, CodePoint.char ',' :: body))
    (hbody : Begins body) : members none (fuel + 1) (writeText key ++ CodePoint.char ':' :: t) =
      (members none fuel body).map fun (entries, rest) => ((.text key, v) :: entries, rest) := by
  have hcolon : skipBlanks (CodePoint.char ':' :: t) = CodePoint.char ':' :: t := rfl
  have hcomma : skipBlanks (CodePoint.char ',' :: body) = CodePoint.char ',' :: body := rfl
  rw [writeText_append_colon, members, textBody_escaped_text]
  simp only [hcolon, hbegins.skipBlanks, h, hcomma, hbody.skipBlanks]

/-- A list is read as its items, up to the bracket that closes it. -/
theorem value_bracketed {joined : Text} {vs : List Value} (hbegins : Begins (joined ++ CodePoint.char ']' :: rest))
    (hread : joined.length < fuel → items none fuel (joined ++ CodePoint.char ']' :: rest) = .ok (vs, rest))
    (hfuel : ("[" ++ joined ++ "]" : Text).length ≤ fuel + 1) :
    value none (fuel + 1) ("[" ++ joined ++ "]" ++ rest) = .ok (.list vs, rest) := by
  have htext : "[" ++ joined ++ "]" ++ rest = CodePoint.char '[' :: (joined ++ CodePoint.char ']' :: rest) := by
    simp [Text.ofString]
  have hlength : joined.length < fuel := by
    simp [Text.ofString] at hfuel
    omega
  rw [htext, value_list fuel hbegins, hread hlength, Except.map]

/-- An object is read as its members, up to the brace that closes it. -/
theorem value_braced {joined : Text} {entries : List (Value × Value)}
    (hbegins : Begins (joined ++ CodePoint.char '\x7d' :: rest))
    (hread : joined.length < fuel → members none fuel (joined ++ CodePoint.char '\x7d' :: rest) = .ok (entries, rest))
    (hfuel : ("\x7b" ++ joined ++ "\x7d" : Text).length ≤ fuel + 1) :
    value none (fuel + 1) ("\x7b" ++ joined ++ "\x7d" ++ rest) = .ok (.dict (Entries.ofList entries), rest) := by
  have htext : "\x7b" ++ joined ++ "\x7d" ++ rest =
      CodePoint.char '\x7b' :: (joined ++ CodePoint.char '\x7d' :: rest) := by
    simp [Text.ofString]
  have hlength : joined.length < fuel := by
    simp [Text.ofString] at hfuel
    omega
  rw [htext, value_dict fuel hbegins, hread hlength, Except.map]

end Steps

theorem writeItems?_eq_nil {vs : List Value} (h : writeItems? vs = some []) : vs = [] := by
  cases vs with
  | nil => rfl
  | cons v vs => rw [writeItems?] at h; split at h <;> cases h

theorem writeEntries?_eq_nil {entries : List (Value × Value)} (h : writeEntries? entries = some []) : entries = [] := by
  cases entries with
  | nil => rfl
  | cons entry entries => rw [writeEntries?] at h; split at h <;> cases h

/-- Parts with commas between them: the first, and what stands after it. -/
theorem join_cons_append (part : Text) (parts : List Text) (close : CodePoint) (rest : Text) :
    Text.join "," (part :: parts) ++ close :: rest = part ++ match parts with
      | [] => close :: rest
      | next :: more => CodePoint.char ',' :: (Text.join "," (next :: more) ++ close :: rest) := by
  cases parts <;> simp [Text.join, Text.ofString]

theorem length_join_cons_le (part : Text) (parts : List Text) :
    part.length ≤ (Text.join "," (part :: parts)).length ∧
    ∀ next more, parts = next :: more →
      (Text.join "," (next :: more)).length < (Text.join "," (part :: parts)).length := by
  cases parts with
  | nil => simp [Text.join]
  | cons next more =>
    refine ⟨by simp [Text.join], ?_⟩
    rintro _ _ ⟨⟩
    rw [Text.join, List.length_append, List.length_append]
    have hcomma : (Text.ofString ",").length = 1 := rfl
    omega

mutual

/-- The JSON of a value is read as its image, up to where it ends. -/
theorem value_write? : ∀ (v : Value) (t : Text), write? v = some t → ∀ (fuel : Nat) (rest : Text), t.length ≤ fuel →
    EndsNumber rest → value none fuel (t ++ rest) = .ok (v.image, rest)
  | .null => by
    intro t h fuel rest hfuel _
    obtain rfl := Option.some.inj h
    obtain ⟨fuel, rfl⟩ := Nat.exists_eq_add_of_le' (show 1 ≤ fuel from le_trans (by decide) hfuel)
    rfl
  | .bool b => by
    intro t h fuel rest hfuel _
    obtain rfl := Option.some.inj h
    obtain ⟨fuel, rfl⟩ := Nat.exists_eq_add_of_le' (show 1 ≤ fuel from le_trans (by cases b <;> decide) hfuel)
    cases b <;> rfl
  | .int n => by
    intro t h fuel rest hfuel hrest
    have hlength := (begins_write? h).length_pos
    rw [write?, writeInt?] at h
    obtain ⟨hgap, heq⟩ := Option.ite_none_left_eq_some.mp h
    obtain rfl := Option.some.inj heq
    exact value_of_number (number_ofInt (Bool.eq_false_iff.mpr hgap) hrest) (hlength.trans_le hfuel)
  | .float x => by
    intro t h fuel rest hfuel hrest
    have hlength := (begins_write? h).length_pos
    rw [write?, writeFloat?] at h
    obtain ⟨hfinite, heq⟩ := Option.ite_none_right_eq_some.mp h
    obtain rfl := Option.some.inj heq
    exact value_of_number (number_text hfinite hrest) (hlength.trans_le hfuel)
  | .text u => by
    intro t h fuel rest hfuel _
    obtain rfl := Option.some.inj h
    obtain ⟨fuel, rfl⟩ := Nat.exists_eq_add_of_le' (show 1 ≤ fuel from le_trans (by simp [writeText]) hfuel)
    exact value_text fuel u rest
  | .list vs | .tuple vs => by
    intro t h fuel rest hfuel _
    obtain ⟨parts, hparts, rfl⟩ := Option.map_eq_some_iff.mp h
    obtain ⟨fuel, rfl⟩ := Nat.exists_eq_add_of_le' (show 1 ≤ fuel from le_trans (by simp [Text.ofString]) hfuel)
    cases parts with
    | nil =>
      obtain rfl := writeItems?_eq_nil hparts
      rfl
    | cons part parts =>
      have hbegins : Begins (Text.join "," (part :: parts) ++ CodePoint.char ']' :: rest) := by
        rw [join_cons_append]
        exact (begins_writeItems? hparts).append _
      exact value_bracketed fuel hbegins (items_writeItems? vs part parts hparts fuel rest) hfuel
  | .dict entries => by
    intro t h fuel rest hfuel _
    obtain ⟨parts, hparts, rfl⟩ := Option.map_eq_some_iff.mp h
    obtain ⟨fuel, rfl⟩ := Nat.exists_eq_add_of_le' (show 1 ≤ fuel from le_trans (by simp [Text.ofString]) hfuel)
    cases parts with
    | nil =>
      obtain rfl := writeEntries?_eq_nil hparts
      rfl
    | cons part parts =>
      have hbegins : Begins (Text.join "," (part :: parts) ++ CodePoint.char '\x7d' :: rest) := by
        rw [join_cons_append]
        exact (begins_writeEntries? hparts).append _
      exact value_braced fuel hbegins (members_writeEntries? entries part parts hparts fuel rest) hfuel
  | .absent | .bytes _ | .set _ | .frozenset _ | .cyclicList _ | .cyclicDict _ | .pattern _ _ | .exotic _ | .unshown _ _
  | .callable _ _ | .foreign _ _ _ _ | .node _ => nofun

theorem items_writeItems? : ∀ (vs : List Value) (part : Text) (parts : List Text),
    writeItems? vs = some (part :: parts) → ∀ (fuel : Nat) (rest : Text),
    (Text.join "," (part :: parts)).length < fuel →
    items none fuel (Text.join "," (part :: parts) ++ CodePoint.char ']' :: rest) = .ok (images vs, rest)
  | [] => nofun
  | v :: vs => by
    intro part parts h fuel rest hfuel
    rw [writeItems?] at h
    split at h
    case h_2 => cases h
    obtain ⟨rfl, rfl⟩ := List.cons.inj (Option.some.inj h)
    rename_i part parts hpart hparts
    obtain ⟨fuel, rfl⟩ := Nat.exists_eq_add_of_le' (show 1 ≤ fuel by omega)
    obtain ⟨hlength, hnext⟩ := length_join_cons_le part parts
    rw [join_cons_append]
    cases parts with
    | nil =>
      obtain rfl := writeItems?_eq_nil hparts
      exact items_last fuel (value_write? v part hpart fuel _ (by omega) (endsNumber_cons.mpr (by decide)))
    | cons next more =>
      have hbegins : Begins (Text.join "," (next :: more) ++ CodePoint.char ']' :: rest) := by
        rw [join_cons_append]
        exact (begins_writeItems? hparts).append _
      have hread := items_writeItems? vs next more hparts fuel rest (by have := hnext next more rfl; omega)
      have hvalue := fun tail => value_write? v part hpart fuel (CodePoint.char ',' :: tail) (by omega)
        (endsNumber_cons.mpr (by decide))
      rw [items_next fuel (hvalue _) hbegins, hread]
      rfl

theorem members_writeEntries? : ∀ (entries : List (Value × Value)) (part : Text) (parts : List Text),
    writeEntries? entries = some (part :: parts) → ∀ (fuel : Nat) (rest : Text),
    (Text.join "," (part :: parts)).length < fuel →
    members none fuel (Text.join "," (part :: parts) ++ CodePoint.char '\x7d' :: rest) = .ok (imageEntries entries, rest)
  | [] => nofun
  | (k, v) :: entries => by
    intro part parts h fuel rest hfuel
    rw [writeEntries?] at h
    split at h
    case h_2 => cases h
    obtain ⟨rfl, rfl⟩ := List.cons.inj (Option.some.inj h)
    rename_i key part parts hkey hpart hparts
    obtain ⟨fuel, rfl⟩ := Nat.exists_eq_add_of_le' (show 1 ≤ fuel by omega)
    obtain ⟨hlength, hnext⟩ := length_join_cons_le (writeText key ++ ":" ++ part) parts
    have hshorter : part.length < (writeText key ++ ":" ++ part).length := by simp [writeText]; omega
    have hmember : ∀ tail : Text,
        writeText key ++ ":" ++ part ++ tail = writeText key ++ CodePoint.char ':' :: (part ++ tail) :=
      fun tail => by simp [Text.ofString]
    have himage : imageEntries ((k, v) :: entries) = (.text key, v.image) :: imageEntries entries := by
      rw [imageEntries, hkey]
      rfl
    rw [join_cons_append, hmember, himage]
    have hbegins := (begins_write? hpart).append
    cases parts with
    | nil =>
      obtain rfl := writeEntries?_eq_nil hparts
      have hvalue := value_write? v part hpart fuel (CodePoint.char '\x7d' :: rest) (by omega)
        (endsNumber_cons.mpr (by decide))
      exact members_last fuel key (hbegins _) hvalue
    | cons next more =>
      have hbody : Begins (Text.join "," (next :: more) ++ CodePoint.char '\x7d' :: rest) := by
        rw [join_cons_append]
        exact (begins_writeEntries? hparts).append _
      have hread := members_writeEntries? entries next more hparts fuel rest (by have := hnext next more rfl; omega)
      have hvalue := fun tail => value_write? v part hpart fuel (CodePoint.char ',' :: tail) (by omega)
        (endsNumber_cons.mpr (by decide))
      rw [members_next fuel key (hbegins _) (hvalue _) hbody, hread]
      rfl

end

theorem read_write? {v : Value} {t : Text} (h : write? v = some t) : read t = .ok v.image := by
  have hbegins := begins_write? h
  have hvalue := value_write? v t h (2 * t.length + 2) [] (by omega) endsNumber_nil
  rw [List.append_nil] at hvalue
  have hdocument : document none t = .ok v.image := by
    rw [document, hbegins.skipBlanks, hvalue]
    · rfl
    · rintro rest rfl
      exact (begins_cons.mp hbegins).2.2.2 rfl
  rw [read, readWithin, hdocument]
  rfl

end Json
end Schematic

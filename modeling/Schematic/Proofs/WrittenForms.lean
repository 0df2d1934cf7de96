import Schematic.Proofs.Serialization
import Schematic.Script.Literal

/-! Two values that JSON can hold have different written forms, and no written form goes on as another one, if
what follows does not go on with a number. The first code point tells the kind of a value, numbers and quoted
texts are read back, and a container is told from another by its items. -/
namespace Schematic

namespace CodePoint

theorem toNat_char_bounds (c : Char) : c.toNat < 0xD800 ∨ 0xDFFF < c.toNat ∧ c.toNat < 0x110000 := c.valid

theorem ofNat_toNat {c : CodePoint} (h : c.obstacle? = none) : c.toNat < 0x110000 ∧ ofNat c.toNat = c := by
  cases c with
  | char c =>
    have hbounds := toNat_char_bounds c
    have hnot : ¬ (0xD800 ≤ c.toNat ∧ c.toNat < 0xE000) := by omega
    refine ⟨by simp only [toNat]; omega, ?_⟩
    rw [toNat, ofNat, dif_neg hnot, Char.ofNat_toNat]
  | half k =>
    have hhalf : 0xD800 ≤ 0xD800 + k.val ∧ 0xD800 + k.val < 0xE000 := by omega
    refine ⟨by simp only [toNat]; omega, ?_⟩
    rw [toNat, ofNat, dif_pos hhalf]
    exact congrArg half (Fin.ext (Nat.add_sub_cancel_left ..))
  | gap => cases h

theorem toNat_inj {c d : CodePoint} (hc : c.obstacle? = none) (hd : d.obstacle? = none) (h : c.toNat = d.toNat) :
    c = d := by rw [← (ofNat_toNat hc).2, h, (ofNat_toNat hd).2]

end CodePoint

namespace Text

open Script.Quote (hexValue)

theorem length_hex (width n : Nat) : (hex width n).length = width := by
  induction width generalizing n with
  | zero => rfl
  | succ width ih => simp [hex, ih]

theorem hexValue_hex (width n : Nat) : hexValue (hex width n) = n % 16 ^ width := by
  induction width generalizing n with
  | zero => simp [hex, hexValue, Nat.mod_one]
  | succ width ih =>
    have hdigit := hexValue?_digitChar (Nat.mod_lt n (by decide : 0 < 16))
    have hlast : hexValue (hex (width + 1) n) = hexValue (hex width (n / 16)) * 16 + n % 16 := by
      simp [hexValue, hex, List.foldl_append, hdigit]
    rw [hlast, ih, Nat.pow_succ, Nat.mul_comm (16 ^ width) 16, Nat.mod_mul]
    omega

/-- The code point at the front of a text with escapes, and the text after it. -/
def unescape : Text → CodePoint × Text
  | [] => (default, [])
  | [c] => (c, [])
  | c :: d :: rest =>
    let numbered (width : Nat) : CodePoint × Text := (CodePoint.ofNat (hexValue (rest.take width)), rest.drop width)
    if c ≠ CodePoint.char '\\' then (c, d :: rest)
    else if d = CodePoint.char 'n' then (CodePoint.char '\n', rest)
    else if d = CodePoint.char 'r' then (CodePoint.char '\r', rest)
    else if d = CodePoint.char 't' then (CodePoint.char '\t', rest)
    else if d = CodePoint.char 'x' then numbered 2
    else if d = CodePoint.char 'u' then numbered 4
    else if d = CodePoint.char 'U' then numbered 8
    else (d, rest)

theorem unescape_plain {c : CodePoint} (h : c ≠ CodePoint.char '\\') (rest : Text) :
    unescape (c :: rest) = (c, rest) := by
  cases rest with
  | nil => rfl
  | cons d rest => simp [unescape, h]

theorem unescape_numbered {c : CodePoint} (h : c.obstacle? = none) (rest : Text) :
    unescape (numbered c.toNat ++ rest) = (c, rest) := by
  obtain ⟨hlt, hcode⟩ := CodePoint.ofNat_toNat h
  have hread : ∀ width, c.toNat < 16 ^ width →
      (CodePoint.ofNat (hexValue ((hex width c.toNat ++ rest).take width)), (hex width c.toNat ++ rest).drop width) =
        (c, rest) := fun width hwidth => by
    rw [List.take_left' (length_hex width _), List.drop_left' (length_hex width _), hexValue_hex,
      Nat.mod_eq_of_lt hwidth, hcode]
  unfold numbered
  split_ifs with hbyte hplane
  · exact hread 2 hbyte
  · exact hread 4 hplane
  · exact hread 8 (by omega)

section Quoted

variable {quote : CodePoint} {printable : CodePoint → Bool}

/-- The escape of a code point is read as that code point, whatever follows. -/
theorem unescape_escapeInQuotes (hquote : quote ∈ [CodePoint.char '\'', CodePoint.char '"']) (c : CodePoint)
    (rest : Text) : unescape (escapeInQuotes quote printable c ++ rest) = (c, rest) := by
  unfold escapeInQuotes
  split_ifs with hmark hfeed hreturn htab hprintable
  · have hmarks : c ∈ [CodePoint.char '\'', CodePoint.char '"', CodePoint.char '\\'] := by
      simp only [Bool.or_eq_true, decide_eq_true_eq] at hmark
      simp only [List.mem_cons, List.not_mem_nil, or_false] at hquote ⊢
      grind
    have hletters : ∀ c ∈ [CodePoint.char '\'', CodePoint.char '"', CodePoint.char '\\'],
        ∀ d ∈ [CodePoint.char 'n', CodePoint.char 'r', CodePoint.char 't', CodePoint.char 'x', CodePoint.char 'u',
          CodePoint.char 'U'], c ≠ d := by decide
    have hother := hletters c hmarks
    simp only [List.forall_mem_cons] at hother
    simp [unescape, hother]
  · subst hfeed; rfl
  · subst hreturn; rfl
  · subst htab; rfl
  · exact unescape_plain (by simp_all) rest
  · exact unescape_numbered (by simp_all) rest

theorem escapeInQuotes_ne (hquote : quote ∈ [CodePoint.char '\'', CodePoint.char '"']) (c : CodePoint) (r s : Text) :
    quote :: r ≠ escapeInQuotes quote printable c ++ s := by
  have hslash : quote ≠ CodePoint.char '\\' := by
    rintro rfl
    exact absurd hquote (by decide)
  intro h
  unfold escapeInQuotes numbered at h
  split_ifs at h with hmark <;> simp_all [ofString]

/-- A text with escapes ends at the quote, and is no other text. -/
theorem flatMap_escapeInQuotes_inj (hquote : quote ∈ [CodePoint.char '\'', CodePoint.char '"']) {t u r s : Text}
    (h : t.flatMap (escapeInQuotes quote printable) ++ quote :: r =
      u.flatMap (escapeInQuotes quote printable) ++ quote :: s) : t = u ∧ r = s := by
  induction t generalizing u with
  | nil =>
    cases u with
    | nil => exact ⟨rfl, (List.cons.inj h).2⟩
    | cons d u =>
      rw [List.flatMap_cons, List.append_assoc] at h
      exact (escapeInQuotes_ne hquote d r _ h).elim
  | cons c t ih =>
    rw [List.flatMap_cons, List.append_assoc] at h
    cases u with
    | nil => exact (escapeInQuotes_ne hquote c s _ h.symm).elim
    | cons d u =>
      rw [List.flatMap_cons, List.append_assoc] at h
      have hread := congrArg unescape h
      rw [unescape_escapeInQuotes hquote, unescape_escapeInQuotes hquote] at hread
      obtain ⟨rfl, hrest⟩ := Prod.mk.inj hread
      obtain ⟨rfl, hrs⟩ := ih hrest
      exact ⟨rfl, hrs⟩

end Quoted

theorem quoteFor_mem (single double : Bool) : quoteFor single double ∈ [CodePoint.char '\'', CodePoint.char '"'] := by
  cases single <;> cases double <;> decide

theorem quoted_inj {t u r s : Text} (h : quoted t ++ r = quoted u ++ s) : t = u ∧ r = s := by
  simp only [quoted, quotedBy, List.cons_append, List.append_assoc, List.nil_append,
    List.cons.injEq] at h
  obtain ⟨hquote, h⟩ := h
  rw [← hquote] at h
  exact flatMap_escapeInQuotes_inj (quoteFor_mem _ _) h

end Text

/-- What a value is by its first code point. -/
inductive Form where
  | null
  | bool (b : Bool)
  | number
  | text
  | list
  | tuple
  | dict
  | other
deriving DecidableEq

def Form.of (c : CodePoint) : Form :=
  if c.isDigit || c = CodePoint.char '-' then .number
  else match c with
    | .char 'N' => .null
    | .char 'T' => .bool true
    | .char 'F' => .bool false
    | .char '\'' | .char '"' => .text
    | .char '[' => .list
    | .char '(' => .tuple
    | .char '\x7b' => .dict
    | _ => .other

def Value.form : Value → Form
  | .null => .null
  | .bool b => .bool b
  | .int _ | .float _ => .number
  | .text _ => .text
  | .list _ => .list
  | .tuple _ => .tuple
  | .dict _ => .dict
  | _ => .other

def Value.IsHeld (v : Value) : Prop := (Json.write? v).isSome

theorem Value.IsHeld.form_ne {v : Value} (h : v.IsHeld) : v.form ≠ .other := by
  cases v <;> simp_all [Value.IsHeld, Value.form, Json.write?]

theorem number_written {v : Value} (hform : v.form = .number) (h : v.IsHeld) {rest : Text}
    (hrest : Json.EndsNumber rest) : Json.number (v.written ++ rest) = .ok (v, rest) := by
  cases v with
  | int n =>
    have hgap : (Text.ofInt n).hasGap = false := by
      by_contra hgap
      simp [Value.IsHeld, Json.write?, Json.writeInt?, hgap] at h
    exact Json.number_ofInt hgap hrest
  | float x =>
    have hfinite : x.isFinite = true := by
      by_contra hfinite
      simp [Value.IsHeld, Json.write?, Json.writeFloat?, hfinite] at h
    exact Json.number_text hfinite hrest
  | _ => cases hform

theorem writtenItems_eq_map (items : List Value) : writtenItems items = items.map Value.written := by
  induction items with
  | nil => rfl
  | cons v items ih => rw [writtenItems, ih, List.map_cons]

def writtenEntry (entry : Value × Value) : Text := entry.1.written ++ ": " ++ entry.2.written

theorem writtenEntries_eq_map (entries : List (Value × Value)) : writtenEntries entries = entries.map writtenEntry := by
  induction entries with
  | nil => rfl
  | cons entry entries ih =>
    obtain ⟨k, v⟩ := entry
    rw [writtenEntries, ih, List.map_cons, writtenEntry]

theorem head_writtenTuple (parts : List Text) : ∃ t, writtenTuple parts = CodePoint.char '(' :: t := by
  unfold writtenTuple
  split <;> exact ⟨_, rfl⟩

theorem exists_head_written {v : Value} (h : v.IsHeld) : ∃ c t, v.written = c :: t ∧ Form.of c = v.form := by
  have hnumber : v.form = .number → ∃ c t, v.written = c :: t ∧ Form.of c = v.form := fun hform => by
    have hread := number_written hform h Json.endsNumber_nil
    rw [List.append_nil] at hread
    obtain ⟨c, t, hc, hwritten | hwritten⟩ := Json.head_of_number hread
    · exact ⟨c, t, hwritten, by simp [Form.of, hc, hform]⟩
    · exact ⟨_, _, hwritten, hform.symm⟩
  cases v with
  | int n | float x => exact hnumber rfl
  | null => exact ⟨_, _, rfl, rfl⟩
  | bool b => cases b <;> exact ⟨_, _, rfl, rfl⟩
  | text t =>
    refine ⟨_, _, rfl, ?_⟩
    have hforms : ∀ q ∈ [CodePoint.char '\'', CodePoint.char '"'], Form.of q = .text := by decide
    exact hforms _ (Text.quoteFor_mem _ _)
  | list items => exact ⟨_, _, rfl, rfl⟩
  | tuple items =>
    obtain ⟨t, ht⟩ := head_writtenTuple (writtenItems items)
    exact ⟨_, t, ht, rfl⟩
  | dict entries => exact ⟨_, _, rfl, rfl⟩
  | _ => cases h

theorem form_eq_of_append {v w : Value} (hv : v.IsHeld) (hw : w.IsHeld) {r s : Text}
    (h : v.written ++ r = w.written ++ s) : v.form = w.form := by
  obtain ⟨c, t, hvc, hc⟩ := exists_head_written hv
  obtain ⟨d, u, hwd, hd⟩ := exists_head_written hw
  rw [hvc, hwd] at h
  rw [← hc, ← hd, (List.cons.inj h).1]

/-- What no held value begins with is not the beginning of one. -/
theorem ne_written {c : CodePoint} (hc : Form.of c = .other) {w : Value} (hw : w.IsHeld) (r s : Text) :
    c :: r ≠ w.written ++ s := by
  obtain ⟨d, u, hwd, hd⟩ := exists_head_written hw
  rw [hwd]
  intro h
  rw [(List.cons.inj h).1, hd] at hc
  exact hw.form_ne hc

/-- What is written for an item is told from what is written for any other, if no number goes on after it. -/
def IsTold {α : Type} (write : α → Text) (P : α → Prop) (a : α) : Prop :=
  ∀ b, P b → ∀ r s, Json.EndsNumber r → Json.EndsNumber s → write a ++ r = write b ++ s → a = b ∧ r = s

section Joined

variable {α : Type} (write : α → Text)

def tailed (closing : Text) : List α → Text
  | [] => closing
  | a :: items => ", " ++ (write a ++ tailed closing items)

theorem join_append_tailed (a : α) (items : List α) (closing : Text) :
    Text.join ", " ((a :: items).map write) ++ closing = write a ++ tailed write closing items := by
  induction items generalizing a with
  | nil => rfl
  | cons b items ih =>
    rw [List.map_cons, List.map_cons, Text.join, List.append_assoc, List.append_assoc]
    exact congrArg (fun t => write a ++ (Text.ofString ", " ++ t)) (ih b)

end Joined

section Told

variable {α : Type} {write : α → Text} {P : α → Prop} {c : CodePoint} {r s : Text}

theorem endsNumber_tailed {closing : Text} (h : Json.EndsNumber closing) (items : List α) :
    Json.EndsNumber (tailed write closing items) := by
  cases items with
  | nil => exact h
  | cons a items => exact Json.endsNumber_cons.mpr (by decide)

theorem tailed_inj (hc : ∀ t, Json.EndsNumber (c :: t)) (hcomma : c ≠ CodePoint.char ',') {as bs : List α}
    (has : ∀ a ∈ as, IsTold write P a) (hbs : ∀ b ∈ bs, P b)
    (h : tailed write (c :: r) as = tailed write (c :: s) bs) : as = bs ∧ r = s := by
  induction as generalizing bs with
  | nil =>
    cases bs with
    | nil => exact ⟨rfl, (List.cons.inj h).2⟩
    | cons b bs => exact (hcomma (List.cons.inj h).1).elim
  | cons a as ih =>
    cases bs with
    | nil => exact (hcomma (List.cons.inj h).1.symm).elim
    | cons b bs =>
      have hmore := (List.forall_mem_cons.mp hbs).2
      obtain ⟨rfl, hrest⟩ := has a List.mem_cons_self b (hbs b List.mem_cons_self) _ _ (endsNumber_tailed (hc r) as)
        (endsNumber_tailed (hc s) bs) (List.append_cancel_left h)
      obtain ⟨rfl, hrs⟩ := ih (List.forall_mem_cons.mp has).2 hmore hrest
      exact ⟨rfl, hrs⟩

/-- Items up to what closes them: `close`, or the first of them and what stands after it. -/
def contents (write : α → Text) (close : CodePoint) (after : List α → Text → Text) : (items : List α) → Text → Text
  | [], rest => close :: rest
  | a :: items, rest => write a ++ after items rest

/-- Items are told from other items, if what stands after the first is, and no item begins as what closes them. -/
theorem contents_inj {after : List α → Text → Text} (hends : ∀ items rest, Json.EndsNumber (after items rest))
    (hafter : ∀ {as bs}, (∀ a ∈ as, IsTold write P a) → (∀ b ∈ bs, P b) → after as r = after bs s → as = bs ∧ r = s)
    (hfirst : ∀ a, P a → ∀ t u, c :: t ≠ write a ++ u) {as bs : List α} (has : ∀ a ∈ as, P a) (hbs : ∀ b ∈ bs, P b)
    (htold : ∀ a ∈ as, IsTold write P a) (h : contents write c after as r = contents write c after bs s) :
    as = bs ∧ r = s := by
  cases as with
  | nil =>
    cases bs with
    | nil => exact ⟨rfl, (List.cons.inj h).2⟩
    | cons b bs => exact (hfirst b (hbs b List.mem_cons_self) r _ h).elim
  | cons a as =>
    cases bs with
    | nil => exact (hfirst a (has a List.mem_cons_self) s _ h.symm).elim
    | cons b bs =>
      have hmore := (List.forall_mem_cons.mp hbs).2
      obtain ⟨rfl, hrest⟩ := htold a List.mem_cons_self b (hbs b List.mem_cons_self) _ _ (hends as r) (hends bs s) h
      obtain ⟨rfl, hrs⟩ := hafter (List.forall_mem_cons.mp htold).2 hmore hrest
      exact ⟨rfl, hrs⟩

theorem join_append_eq_contents (write : α → Text) (items : List α) (rest : Text) :
    Text.join ", " (items.map write) ++ c :: rest =
      contents write c (fun items rest => tailed write (c :: rest) items) items rest := by
  cases items with
  | nil => rfl
  | cons a items => exact join_append_tailed write a items (c :: rest)

theorem join_inj (hc : ∀ t, Json.EndsNumber (c :: t)) (hcomma : c ≠ CodePoint.char ',') {as bs : List α}
    (hfirst : ∀ a, P a → ∀ t u, c :: t ≠ write a ++ u) (has : ∀ a ∈ as, P a) (hbs : ∀ b ∈ bs, P b)
    (htold : ∀ a ∈ as, IsTold write P a)
    (h : Text.join ", " (as.map write) ++ c :: r = Text.join ", " (bs.map write) ++ c :: s) : as = bs ∧ r = s := by
  rw [join_append_eq_contents, join_append_eq_contents] at h
  exact contents_inj (fun items rest => endsNumber_tailed (hc rest) items) (tailed_inj hc hcomma) hfirst has hbs htold h

/-- What follows the first item of a tuple: a comma, if it is the only one. -/
def afterFirst (write : α → Text) (items : List α) (rest : Text) : Text :=
  if items.isEmpty then ",)" ++ rest else tailed write (CodePoint.char ')' :: rest) items

theorem endsNumber_afterFirst (items : List α) (rest : Text) : Json.EndsNumber (afterFirst write items rest) := by
  cases items <;> exact Json.endsNumber_cons.mpr (by decide)

theorem afterFirst_inj {as bs : List α} (has : ∀ a ∈ as, IsTold write P a) (hbs : ∀ b ∈ bs, P b)
    (h : afterFirst write as r = afterFirst write bs s) : as = bs ∧ r = s := by
  cases as with
  | nil =>
    cases bs with
    | nil => exact ⟨rfl, List.append_cancel_left h⟩
    | cons b bs => simp [afterFirst, tailed, Text.ofString] at h
  | cons a as =>
    cases bs with
    | nil => simp [afterFirst, tailed, Text.ofString] at h
    | cons b bs => exact tailed_inj (fun t => Json.endsNumber_cons.mpr (by decide)) (by decide) has hbs h

theorem writtenTuple_append_eq_contents (write : α → Text) (items : List α) (rest : Text) :
    writtenTuple (items.map write) ++ rest =
      CodePoint.char '(' :: contents write (CodePoint.char ')') (afterFirst write) items rest := by
  cases items with
  | nil => rfl
  | cons a items =>
    cases items with
    | nil => simp [writtenTuple, contents, afterFirst, Text.ofString]
    | cons b items =>
      have hjoin := join_append_tailed write a (b :: items) (CodePoint.char ')' :: rest)
      simp only [List.map_cons] at hjoin ⊢
      simp [writtenTuple, contents, afterFirst, Text.ofString, ← hjoin]

theorem writtenTuple_inj {as bs : List α} (hfirst : ∀ a, P a → ∀ t u, CodePoint.char ')' :: t ≠ write a ++ u)
    (has : ∀ a ∈ as, P a) (hbs : ∀ b ∈ bs, P b) (htold : ∀ a ∈ as, IsTold write P a)
    (h : writtenTuple (as.map write) ++ r = writtenTuple (bs.map write) ++ s) : as = bs ∧ r = s := by
  rw [writtenTuple_append_eq_contents, writtenTuple_append_eq_contents] at h
  exact contents_inj endsNumber_afterFirst afterFirst_inj hfirst has hbs htold (List.cons.inj h).2

end Told

theorem isHeld_list {items : List Value} : (Value.list items).IsHeld ↔ ∀ v ∈ items, v.IsHeld := by
  simp [Value.IsHeld, Json.write?, Json.isSome_writeItems?_iff]

theorem isHeld_tuple {items : List Value} : (Value.tuple items).IsHeld ↔ ∀ v ∈ items, v.IsHeld := by
  simp [Value.IsHeld, Json.write?, Json.isSome_writeItems?_iff]

theorem Value.IsHeld.entries {entries : List (Value × Value)} (h : (Value.dict entries).IsHeld) :
    ∀ e ∈ entries, e.1.IsHeld ∧ e.2.IsHeld := by
  simp only [Value.IsHeld, Json.write?, Option.isSome_map, Json.isSome_writeEntries?_iff, Json.isSome_key?_iff] at h
  exact fun e he => ⟨(h e he).1.2, (h e he).2⟩

section Cases

variable {items : List Value}

/-- A value whose written form is the same for all of its kind. -/
theorem isTold_constant {v : Value} (hv : v.IsHeld) (hform : ∀ w : Value, v.form = w.form → v = w) :
    IsTold Value.written Value.IsHeld v := by
  intro w hw r s _ _ h
  obtain rfl := hform w (form_eq_of_append hv hw h)
  exact ⟨rfl, List.append_cancel_left h⟩

theorem isTold_number {v : Value} (hform : v.form = .number) (hv : v.IsHeld) : IsTold Value.written Value.IsHeld v := by
  intro w hw r s hr hs h
  have hread := number_written hform hv hr
  rw [h, number_written ((form_eq_of_append hv hw h).symm.trans hform) hw hs] at hread
  obtain ⟨rfl, rfl⟩ := Prod.mk.inj (Except.ok.inj hread)
  exact ⟨rfl, rfl⟩

theorem isTold_text {t : Text} (hv : (Value.text t).IsHeld) : IsTold Value.written Value.IsHeld (.text t) := by
  intro w hw r s _ _ h
  have hform := form_eq_of_append hv hw h
  cases w with
  | text u =>
    obtain ⟨rfl, hrs⟩ := Text.quoted_inj h
    exact ⟨rfl, hrs⟩
  | _ => cases hform

theorem isTold_list (hv : (Value.list items).IsHeld) (htold : ∀ v ∈ items, IsTold Value.written Value.IsHeld v) :
    IsTold Value.written Value.IsHeld (.list items) := by
  intro w hw r s _ _ h
  have hform := form_eq_of_append hv hw h
  cases w with
  | list others =>
    simp only [Value.written, writtenItems_eq_map, List.append_assoc] at h
    obtain ⟨rfl, hrs⟩ := join_inj (fun t => Json.endsNumber_cons.mpr (by decide)) (by decide)
      (fun _ ha => ne_written (by decide) ha) (isHeld_list.mp hv) (isHeld_list.mp hw) htold (List.append_cancel_left h)
    exact ⟨rfl, hrs⟩
  | _ => cases hform

theorem isTold_tuple (hv : (Value.tuple items).IsHeld) (htold : ∀ v ∈ items, IsTold Value.written Value.IsHeld v) :
    IsTold Value.written Value.IsHeld (.tuple items) := by
  intro w hw r s _ _ h
  have hform := form_eq_of_append hv hw h
  cases w with
  | tuple others =>
    simp only [Value.written, writtenItems_eq_map] at h
    obtain ⟨rfl, hrs⟩ := writtenTuple_inj (fun _ ha => ne_written (by decide) ha) (isHeld_tuple.mp hv)
      (isHeld_tuple.mp hw) htold h
    exact ⟨rfl, hrs⟩
  | _ => cases hform

theorem isTold_writtenEntry {e : Value × Value} (hkey : IsTold Value.written Value.IsHeld e.1)
    (hvalue : IsTold Value.written Value.IsHeld e.2) :
    IsTold writtenEntry (fun e => e.1.IsHeld ∧ e.2.IsHeld) e := by
  rintro ⟨k, v⟩ ⟨hk, hv⟩ r s hr hs h
  simp only [writtenEntry, List.append_assoc] at h
  have hends : ∀ t, Json.EndsNumber (Text.ofString ": " ++ t) := fun t => Json.endsNumber_cons.mpr (by decide)
  obtain ⟨rfl, hrest⟩ := hkey k hk _ _ (hends _) (hends _) h
  obtain ⟨rfl, hrs⟩ := hvalue v hv r s hr hs (List.append_cancel_left hrest)
  exact ⟨rfl, hrs⟩

theorem isTold_dict {entries : List (Value × Value)} (hv : (Value.dict entries).IsHeld)
    (htold : ∀ e ∈ entries, IsTold writtenEntry (fun e => e.1.IsHeld ∧ e.2.IsHeld) e) :
    IsTold Value.written Value.IsHeld (.dict entries) := by
  intro w hw r s _ _ h
  have hform := form_eq_of_append hv hw h
  cases w with
  | dict others =>
    simp only [Value.written, writtenEntries_eq_map, List.append_assoc] at h
    have hfirst : ∀ e : Value × Value, e.1.IsHeld ∧ e.2.IsHeld → ∀ t u,
        CodePoint.char '\x7d' :: t ≠ writtenEntry e ++ u := fun e he t u => by
      simp only [writtenEntry, List.append_assoc]
      exact ne_written (by decide) he.1 t _
    obtain ⟨rfl, hrs⟩ := join_inj (fun t => Json.endsNumber_cons.mpr (by decide)) (by decide) hfirst hv.entries
      hw.entries htold (List.append_cancel_left h)
    exact ⟨rfl, hrs⟩
  | _ => cases hform

end Cases

mutual

/-- By induction on the value: what is told of its parts is told of the container that joins them. -/
theorem isTold_written : ∀ v : Value, v.IsHeld → IsTold Value.written Value.IsHeld v
  | .null => fun hv => isTold_constant hv fun w => by cases w <;> simp [Value.form]
  | .bool b => fun hv => isTold_constant hv fun w => by cases w <;> simp [Value.form]
  | .int _ | .float _ => isTold_number rfl
  | .text _ => isTold_text
  | .list items => fun hv => isTold_list hv (isTold_items items (isHeld_list.mp hv))
  | .tuple items => fun hv => isTold_tuple hv (isTold_items items (isHeld_tuple.mp hv))
  | .dict entries => fun hv => isTold_dict hv (isTold_entries entries hv.entries)
  | .absent | .bytes _ | .set _ | .frozenset _ | .cyclicList _ | .cyclicDict _ | .pattern _ _ | .exotic _ | .unshown _ _
  | .callable _ _ | .foreign _ _ _ _ | .node _ => fun hv => (hv.form_ne rfl).elim

theorem isTold_items : ∀ items : List Value, (∀ v ∈ items, v.IsHeld) →
    ∀ v ∈ items, IsTold Value.written Value.IsHeld v
  | [] => fun _ => by simp
  | v :: items => fun h => List.forall_mem_cons.mpr
    ⟨isTold_written v (List.forall_mem_cons.mp h).1, isTold_items items (List.forall_mem_cons.mp h).2⟩

theorem isTold_entries : ∀ entries : List (Value × Value), (∀ e ∈ entries, e.1.IsHeld ∧ e.2.IsHeld) →
    ∀ e ∈ entries, IsTold writtenEntry (fun e => e.1.IsHeld ∧ e.2.IsHeld) e
  | [] => fun _ => by simp
  | (k, v) :: entries => fun h => List.forall_mem_cons.mpr
    ⟨isTold_writtenEntry (isTold_written k (List.forall_mem_cons.mp h).1.1)
        (isTold_written v (List.forall_mem_cons.mp h).1.2),
      isTold_entries entries (List.forall_mem_cons.mp h).2⟩

end

/-- Values that JSON can hold are the same if their written forms are. -/
theorem Value.IsHeld.written_inj {v w : Value} (hv : v.IsHeld) (hw : w.IsHeld) (h : v.written = w.written) : v = w :=
  (isTold_written v hv w hw [] [] Json.endsNumber_nil Json.endsNumber_nil (by rw [h])).1

end Schematic

import Mathlib.Data.List.Basic
import Schematic.Log.Registry

namespace Schematic

inductive LayoutPart where
  | plain (t : Text)
  | shown (name : Text)

namespace LayoutPart

def layout : LayoutPart → Text
  | plain t => t
  | shown name => "%(" ++ name ++ ")s"

/-- The text that a part gives in a line. -/
inductive Fills (attributes : List (Text × Attribute)) : LayoutPart → Text → Prop where
  | plain {t : Text} (h : CodePoint.char '%' ∉ t) : Fills attributes (.plain t) t
  | shown {name : Text} {a : Attribute} (hopen : CodePoint.char '(' ∉ name) (hclosed : CodePoint.char ')' ∉ name)
      (hfound : attributes.find? (·.1 = name) = some (name, a)) (hshown : a.shown.obstacle? = none) :
      Fills attributes (.shown name) a.shown

end LayoutPart

namespace Filling

variable {attributes : List (Text × Attribute)} {f : Filling}

theorem steps_append (t u : Text) :
    f.steps attributes (t ++ u) = (f.steps attributes t).bind fun next => next.steps attributes u := by
  induction t generalizing f with
  | nil => rfl
  | cons c t ih =>
    rw [List.cons_append, steps, steps]
    cases f.step attributes c with
    | error e => rfl
    | ok next => exact ih

theorem steps_plain {t : Text} (hplain : f.phase = .plain) (h : CodePoint.char '%' ∉ t) :
    f.steps attributes t = .ok { f with line := f.line ++ t, position := f.position + t.length } := by
  induction t generalizing f with
  | nil => simp [steps]
  | cons c t ih =>
    rw [List.mem_cons, not_or] at h
    have hstep : f.step attributes c = .ok { f with line := f.line ++ [c], position := f.position + 1 } := by
      simp [step, read, hplain, Ne.symm h.1, write, Except.map]
    have hrest := ih (f := { f with line := f.line ++ [c], position := f.position + 1 }) hplain h.2
    rw [steps, hstep]
    exact hrest.trans (by simp [Nat.add_assoc, Nat.add_comm 1])

theorem steps_name {done name : Text} (hphase : f.phase = .name 1 done) (hopen : CodePoint.char '(' ∉ name)
    (hclosed : CodePoint.char ')' ∉ name) :
    f.steps attributes name = .ok { f with phase := .name 1 (done ++ name), position := f.position + name.length } := by
  induction name generalizing f done with
  | nil => simp [steps, ← hphase]
  | cons c name ih =>
    rw [List.mem_cons, not_or] at hopen hclosed
    have hstep : f.step attributes c = .ok { f with phase := .name 1 (done ++ [c]), position := f.position + 1 } := by
      simp [step, read, hphase, atName, Ne.symm hopen.1, Ne.symm hclosed.1, Except.map]
    have hrest := ih (f := { f with phase := .name 1 (done ++ [c]), position := f.position + 1 }) rfl hopen.2 hclosed.2
    rw [steps, hstep]
    exact hrest.trans (by simp [Nat.add_assoc, Nat.add_comm 1])

theorem steps_opening (hplain : f.phase = .plain) :
    f.steps attributes "%(" = .ok { f with phase := .name 1 [], position := f.position + 2 } := by
  change f.steps attributes [CodePoint.char '%', CodePoint.char '('] = _
  simp [steps, step, read, hplain, Except.map]
  rfl

/-- A name that is closed and followed by the letter of the plain form gives its attribute as a text. -/
theorem steps_closing {name : Text} {a : Attribute} (hphase : f.phase = .name 1 name)
    (hfound : attributes.find? (·.1 = name) = some (name, a)) (hshown : a.shown.obstacle? = none) :
    f.steps attributes ")s" =
      .ok { line := f.line ++ a.shown, position := f.position + 2, waiting := none, phase := .plain } := by
  have hclosing : f.step attributes (CodePoint.char ')') =
      .ok { f with waiting := some a, phase := .place .flags {}, position := f.position + 1 } := by
    simp [step, read, hphase, atName, hfound, Except.map]
  have hconverts (position : Nat) : Style.convert {} (CodePoint.char 's') position a = .ok a.shown := by
    simp [Style.convert, Style.unbroken, hshown, Except.map, Style.aligned, Style.cut]
  have hletter (g : Filling) (hwaiting : g.waiting = some a) (hplace : g.phase = .place .flags {}) :
      g.step attributes (CodePoint.char 's') =
        .ok { line := g.line ++ a.shown, position := g.position + 1, waiting := none, phase := .plain } := by
    have hread : g.read attributes (CodePoint.char 's') = g.atLetter {} (CodePoint.char 's') := by
      rw [read, hplace]
      rfl
    rw [step, hread, atLetter, take, hwaiting]
    simp only [bind, Except.bind, hconverts]
    rfl
  change f.steps attributes [CodePoint.char ')', CodePoint.char 's'] = _
  rw [steps, hclosing]
  simp only [bind, Except.bind, steps, hletter]

/-- Each part adds its text to the line, wherever in the layout it stands. -/
theorem steps_part {part : LayoutPart} {t : Text} (h : part.Fills attributes t) (hplain : f.phase = .plain) :
    ∃ next, f.steps attributes part.layout = .ok next ∧ next.phase = .plain ∧ next.line = f.line ++ t := by
  cases h with
  | plain h => exact ⟨_, steps_plain hplain h, hplain, rfl⟩
  | @shown name a hopen hclosed hfound hshown =>
    have hname : steps attributes { f with phase := .name 1 [], position := f.position + 2 } name = _ :=
      steps_name rfl hopen hclosed
    refine ⟨⟨f.line ++ a.shown, f.position + 2 + name.length + 2, none, .plain⟩, ?_, rfl, rfl⟩
    rw [LayoutPart.layout, steps_append, steps_append, steps_opening hplain, Except.bind, hname]
    exact steps_closing rfl hfound hshown

theorem steps_parts {parts : List LayoutPart} {texts : List Text} (h : List.Forall₂ (LayoutPart.Fills attributes) parts texts)
    (hplain : f.phase = .plain) :
    ∃ next, f.steps attributes (parts.flatMap LayoutPart.layout) = .ok next ∧ next.phase = .plain ∧
      next.line = f.line ++ texts.flatten := by
  induction h generalizing f with
  | nil => exact ⟨f, rfl, hplain, (List.append_nil _).symm⟩
  | @cons part t parts texts hpart _ ih =>
    obtain ⟨middle, hmiddle, hphase, hline⟩ := steps_part hpart hplain
    obtain ⟨next, hnext, hphase, hrest⟩ := ih hphase
    refine ⟨next, ?_, hphase, by rw [hrest, hline, List.flatten_cons, List.append_assoc]⟩
    rw [List.flatMap_cons, steps_append, hmiddle]
    exact hnext

end Filling

/-- The line of a layout that is made of plain text and of places that show attributes. -/
theorem fillLayout_parts {attributes : List (Text × Attribute)} {parts : List LayoutPart} {texts : List Text}
    (h : List.Forall₂ (LayoutPart.Fills attributes) parts texts) :
    fillLayout attributes (parts.flatMap LayoutPart.layout) = .ok texts.flatten := by
  obtain ⟨next, hnext, hphase, hline⟩ := Filling.steps_parts (f := .start attributes) h rfl
  have hfinish : next.finish = .ok texts.flatten := by
    rw [Filling.finish, hphase, hline]
    rfl
  rw [fillLayout, hnext]
  exact hfinish

namespace LoggerConfig

def standardParts : List LayoutPart :=
  [.shown "asctime", .plain " - ", .shown "name", .plain " - ", .shown "levelname", .plain " - ", .shown "message"]

/-- The standard layout gives a line for whatever is logged. -/
theorem standard_written (s : Scene) {name : Text} {e : Entry} (htime : s.time.obstacle? = none)
    (hname : name.obstacle? = none) (hlevel : Level.isNamed e.level = true) (hmessage : e.message.obstacle? = none) :
    s.written name e (Scene.asksForTime standard.layout) standard.layout =
      s.time ++ " - " ++ name ++ " - " ++ Level.nameOf e.level ++ " - " ++ e.message ++ "\n" := by
  have hfills : List.Forall₂ (LayoutPart.Fills (s.attributes name e true)) standardParts
      [s.time, " - ", name, " - ", Level.nameOf e.level, " - ", e.message] := by
    have hdash : CodePoint.char '%' ∉ (" - " : Text) := by decide
    have hlevelname : (Level.nameOf e.level).obstacle? = none := by simpa [Level.isNamed, Text.hasGap] using hlevel
    exact .cons (.shown (a := .text s.time) (by decide) (by decide) rfl htime) <| .cons (.plain hdash) <|
      .cons (.shown (a := .text name) (by decide) (by decide) rfl hname) <| .cons (.plain hdash) <|
      .cons (.shown (a := .text (Level.nameOf e.level)) (by decide) (by decide) rfl hlevelname) <| .cons (.plain hdash) <|
      .cons (.shown (a := .text e.message) (by decide) (by decide) rfl hmessage) .nil
  have hlayout : standard.layout = standardParts.flatMap LayoutPart.layout := by decide
  have hasks : Scene.asksForTime standard.layout = true := by decide
  have hline : s.line name e true standard.layout = .ok
      (s.time ++ (" - " ++ (name ++ (" - " ++ (Level.nameOf e.level ++ (" - " ++ e.message)))))) := by
    have hnonempty : standard.layout.isEmpty = false := by decide
    rw [Scene.line, hmessage, hnonempty, hlayout]
    refine (fillLayout_parts hfills).trans ?_
    simp [List.flatten]
  rw [hasks, Scene.written, hline]
  simp

end LoggerConfig
end Schematic

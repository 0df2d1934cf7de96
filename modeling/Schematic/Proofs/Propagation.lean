import Mathlib.Data.List.Find
import Mathlib.Data.List.Induction
import Mathlib.Data.List.Nodup
import Mathlib.Data.List.Perm.Subperm
import Schematic.Proofs.Loggers

/-! What a logger writes after any history of loggers that were set up. A record that passes is written by the
logger itself and by every logger above it that has a handler. Which loggers stand above one another, and
which layout each of them writes in, is told by the history: by the order in which the names came up, and by
the first layout for each name. -/
namespace Schematic

/-- A name that is given backwards goes on with a dot after a name above it. -/
theorem exists_of_mem_namesAbove {backwards above : Text} (h : above ∈ namesAbove backwards) :
    ∃ tail, backwards.reverse = above ++ CodePoint.char '.' :: tail := by
  induction backwards using namesAbove.induct with
  | case1 => cases h
  | case2 => cases h
  | case3 d rest ih =>
    simp only [namesAbove, if_true, List.mem_cons] at h
    rcases h with rfl | h
    · exact ⟨[], by simp⟩
    · obtain ⟨tail, htail⟩ := ih h
      exact ⟨tail ++ [d, CodePoint.char '.'], by simp [htail]⟩
  | case4 c d rest hc ih =>
    rw [namesAbove, if_neg hc] at h
    obtain ⟨tail, htail⟩ := ih h
    exact ⟨tail ++ [c], by rw [List.reverse_cons, htail, List.append_assoc, List.cons_append]⟩

/-- Of the names above a name, the nearer ones are below the farther ones. -/
theorem pairwise_namesAbove (backwards : Text) :
    (namesAbove backwards).Pairwise fun near far => ∃ tail, near = far ++ CodePoint.char '.' :: tail := by
  induction backwards using namesAbove.induct with
  | case1 => exact .nil
  | case2 => exact .nil
  | case3 d rest ih =>
    simp only [namesAbove, if_true]
    refine .cons (fun far hfar => ?_) ih
    obtain ⟨tail, htail⟩ := exists_of_mem_namesAbove hfar
    exact ⟨tail ++ [d], by rw [List.reverse_cons, htail, List.append_assoc, List.cons_append]⟩
  | case4 c d rest hc ih =>
    rw [namesAbove, if_neg hc]
    exact ih

section Names

variable {name near far tail : Text}

theorem length_lt_of_below (h : near = far ++ CodePoint.char '.' :: tail) : far.length < near.length := by
  rw [h, List.length_append, List.length_cons]
  omega

theorem length_lt_of_mem_namesAbove (h : far ∈ namesAbove name.reverse) : far.length < name.length := by
  obtain ⟨tail, htail⟩ := exists_of_mem_namesAbove h
  rw [List.reverse_reverse] at htail
  exact length_lt_of_below htail

theorem isPrefixOf_of_below (h : near = far ++ CodePoint.char '.' :: tail) : far.isPrefixOf near = true := by
  rw [h, List.isPrefixOf_iff_prefix]
  exact List.prefix_append _ _

theorem not_isPrefixOf_of_below (h : near = far ++ CodePoint.char '.' :: tail) : near.isPrefixOf far = false := by
  rw [Bool.eq_false_iff, ne_eq, List.isPrefixOf_iff_prefix]
  exact fun hprefix => absurd hprefix.length_le (by have := length_lt_of_below h; omega)

theorem not_isPrefixOf_rootName (h : near = far ++ CodePoint.char '.' :: tail) :
    near.isPrefixOf Registry.rootName = false := by
  rw [Bool.eq_false_iff, ne_eq, List.isPrefixOf_iff_prefix]
  intro hprefix
  have hdot : CodePoint.char '.' ∈ Registry.rootName := hprefix.subset (by simp [h])
  revert hdot
  decide

end Names

/-- Whether a logger is passed over by one that it is the nearest above: its name begins the name of the root, and it
came up later. The names come with the last one first. -/
def isPassedOver (names : List Text) (name above : Text) : Bool :=
  above.isPrefixOf Registry.rootName && decide (names.idxOf above < names.idxOf name)

/-- The logger right above one of a name, if that is not the root. -/
def parentAmong (names : List Text) (name : Text) : Option Text :=
  ((namesAbove name.reverse).find? (names.contains ·)).filter fun above => !isPassedOver names name above

theorem mem_of_parentAmong {names : List Text} {name above : Text} (h : parentAmong names name = some above) :
    above ∈ names ∧ above ∈ namesAbove name.reverse := by
  have hfind := (Option.filter_eq_some_iff.mp h).1
  exact ⟨by simpa using List.find?_some hfind, List.mem_of_find?_eq_some hfind⟩

section Parent

variable {names above : List Text} {name new : Text}

theorem find?_contains_cons (h : new ∉ above) :
    above.find? ((new :: names).contains ·) = above.find? (names.contains ·) := by
  refine List.find?_congr fun x hx => ?_
  have hne : x ≠ new := fun heq => h (heq ▸ hx)
  simp [hne]

theorem parentAmong_of_find?_eq_none (h : (namesAbove name.reverse).find? (names.contains ·) = none) :
    parentAmong names name = none := by
  rw [parentAmong, h, Option.filter_none]

theorem parentAmong_of_find?_eq_some {far : Text} (h : (namesAbove name.reverse).find? (names.contains ·) = some far) :
    parentAmong names name = if isPassedOver names name far then none else some far := by
  rw [parentAmong, h, Option.filter_some]
  cases isPassedOver names name far <;> rfl

/-- A logger that comes up last is put below the nearest one that there is. -/
theorem parentAmong_cons_self :
    parentAmong (new :: names) new = (namesAbove new.reverse).find? (names.contains ·) := by
  have hself : new ∉ namesAbove new.reverse := fun h => absurd (length_lt_of_mem_namesAbove h) (by omega)
  rw [← find?_contains_cons hself]
  cases hfind : (namesAbove new.reverse).find? ((new :: names).contains ·) with
  | none => exact parentAmong_of_find?_eq_none hfind
  | some far =>
    have hfirst : isPassedOver (new :: names) new far = false := by simp [isPassedOver]
    rw [parentAmong_of_find?_eq_some hfind, hfirst]
    rfl

theorem isPassedOver_cons {far : Text} (hname : name ≠ new) (hfar : far ≠ new) :
    isPassedOver (new :: names) name far = isPassedOver names name far := by
  simp [isPassedOver, List.idxOf_cons_ne, Ne.symm hname, Ne.symm hfar]

theorem isPassedOver_cons_self (hname : name ≠ new) :
    isPassedOver (new :: names) name new = new.isPrefixOf Registry.rootName := by
  simp [isPassedOver, List.idxOf_cons_ne, Ne.symm hname]

theorem isPassedOver_eq_false {far : Text} (h : far.isPrefixOf Registry.rootName = false) :
    isPassedOver names name far = false := by
  rw [isPassedOver, h, Bool.false_and]

/-- A new name that is above no other leaves the logger above that as it was. -/
theorem parentAmong_cons_of_not_mem (hname : name ≠ new) (hnew : new ∉ names) (h : new ∉ namesAbove name.reverse) :
    parentAmong (new :: names) name = parentAmong names name := by
  have hfind : (namesAbove name.reverse).find? ((new :: names).contains ·) = _ := find?_contains_cons h
  cases hold : (namesAbove name.reverse).find? (names.contains ·) with
  | none => rw [parentAmong_of_find?_eq_none (hfind.trans hold), parentAmong_of_find?_eq_none hold]
  | some far =>
    have hfar : far ∈ names := by simpa using List.find?_some hold
    rw [parentAmong_of_find?_eq_some (hfind.trans hold), parentAmong_of_find?_eq_some hold,
      isPassedOver_cons hname fun heq => hnew (heq ▸ hfar)]

/-- A new name above another comes between that and the logger above it, if that does not begin with the new name. -/
theorem parentAmong_cons_of_mem (hname : name ≠ new) (hnew : new ∉ names) (h : new ∈ namesAbove name.reverse) :
    parentAmong (new :: names) name =
      if new.isPrefixOf ((parentAmong names name).getD Registry.rootName) then parentAmong names name else some new := by
  obtain ⟨before, after, habove⟩ := List.append_of_mem h
  have hpairwise := pairwise_namesAbove name.reverse
  rw [habove, List.pairwise_append] at hpairwise
  obtain ⟨-, hafter, hbefore⟩ := hpairwise
  have hbelow : ∀ near ∈ before, ∃ tail, near = new ++ CodePoint.char '.' :: tail :=
    fun near hnear => hbefore near hnear new List.mem_cons_self
  have hnotBefore : new ∉ before := fun hmem => by
    obtain ⟨tail, htail⟩ := hbelow new hmem
    exact absurd (length_lt_of_below htail) (by omega)
  cases hnear : before.find? (names.contains ·) with
  | some near =>
    -- what is nearer than the new name stays right above, for it begins with the new name and has a dot
    obtain ⟨tail, htail⟩ := hbelow near (List.mem_of_find?_eq_some hnear)
    have hold : (namesAbove name.reverse).find? (names.contains ·) = some near := by
      rw [habove, List.find?_append, hnear, Option.some_or]
    have hnow : (namesAbove name.reverse).find? ((new :: names).contains ·) = some near := by
      rw [habove, List.find?_append, find?_contains_cons hnotBefore, hnear, Option.some_or]
    have hdot := not_isPrefixOf_rootName htail
    rw [parentAmong_of_find?_eq_some hnow, parentAmong_of_find?_eq_some hold, isPassedOver_eq_false hdot,
      isPassedOver_eq_false hdot]
    simp [isPrefixOf_of_below htail]
  | none =>
    have hnow : (namesAbove name.reverse).find? ((new :: names).contains ·) = some new := by
      rw [habove, List.find?_append, find?_contains_cons hnotBefore, hnear, Option.none_or, List.find?_cons_of_pos]
      simp
    have hold : (namesAbove name.reverse).find? (names.contains ·) = after.find? (names.contains ·) := by
      rw [habove, List.find?_append, hnear, Option.none_or, List.find?_cons_of_neg]
      simpa using hnew
    rw [parentAmong_of_find?_eq_some hnow, isPassedOver_cons_self hname]
    cases hfar : after.find? (names.contains ·) with
    | none =>
      rw [parentAmong_of_find?_eq_none (hold.trans hfar)]
      rfl
    | some far =>
      obtain ⟨tail, htail⟩ := (List.pairwise_cons.mp hafter).1 far (List.mem_of_find?_eq_some hfar)
      rw [parentAmong_of_find?_eq_some (hold.trans hfar), not_isPrefixOf_rootName htail]
      cases isPassedOver names name far with
      | true => simp [not_isPrefixOf_rootName htail]
      | false => simp [not_isPrefixOf_of_below htail]

end Parent

namespace Registry

def names (r : Registry) : List Text := r.loggers.map Logger.name

/-- Each logger has a name below the root and stands below the one that the names tell. -/
structure Linked (r : Registry) : Prop where
  proper : ∀ l ∈ r.loggers, isRootName l.name = false
  parents : ∀ l ∈ r.loggers, l.parent = parentAmong r.names l.name

section Names

variable {r : Registry} {name other : Text}

theorem isSome_logger?_iff : (r.logger? name).isSome = true ↔ name ∈ r.names := by
  simp [logger?, names, List.find?_isSome]

theorem isSome_logger? (r : Registry) (name : Text) : (r.logger? name).isSome = r.names.contains name := by
  rw [Bool.eq_iff_iff, isSome_logger?_iff, List.contains_iff_mem]

@[simp] theorem settledBelow_name (new : Text) (l : Logger) : (settledBelow new l).name = l.name := by
  unfold settledBelow
  split_ifs <;> rfl

@[simp] theorem settledBelow_state (new : Text) (l : Logger) : (settledBelow new l).state = l.state := by
  unfold settledBelow
  split_ifs <;> rfl

def namesWith (names : List Text) (name : Text) : List Text :=
  if isRootName name || names.contains name then names else name :: names

theorem names_withLogger (r : Registry) (name : Text) : (r.withLogger name).names = namesWith r.names name := by
  rw [withLogger, namesWith, isSome_logger?]
  split_ifs with hold
  · rfl
  · have hsettled : Logger.name ∘ settledBelow name = Logger.name := funext (settledBelow_name name)
    simp [names, List.map_map, hsettled]

theorem Linked.withLogger (h : r.Linked) (name : Text) : (r.withLogger name).Linked := by
  have hnames := names_withLogger r name
  unfold Registry.withLogger at hnames ⊢
  split_ifs at hnames ⊢ with hold
  · exact h
  rw [isSome_logger?, Bool.or_eq_true, not_or, List.contains_iff_mem, Bool.not_eq_true] at hold
  obtain ⟨hproper, hnew⟩ := hold
  have hwith : namesWith r.names name = name :: r.names := by
    rw [namesWith, hproper, Bool.false_or, if_neg (by simpa using hnew)]
  rw [hwith] at hnames
  refine ⟨List.forall_mem_cons.mpr ⟨hproper, List.forall_mem_map.mpr fun l hl => ?_⟩,
    List.forall_mem_cons.mpr ⟨?_, List.forall_mem_map.mpr fun l hl => ?_⟩⟩
  · rw [settledBelow_name]
    exact h.proper l hl
  · rw [hnames, parentAmong_cons_self]
    simp only [isSome_logger?]
  · have hname : l.name ≠ name := fun heq => hnew (heq ▸ List.mem_map_of_mem hl)
    rw [hnames, settledBelow_name]
    by_cases habove : name ∈ namesAbove l.name.reverse
    · rw [parentAmong_cons_of_mem hname hnew habove, ← h.parents l hl, settledBelow]
      cases hprefix : name.isPrefixOf (l.parent.getD rootName) <;> simp [habove]
    · rw [parentAmong_cons_of_not_mem hname hnew habove, ← h.parents l hl, settledBelow]
      simp [habove]

theorem names_setState (r : Registry) (name : Text) (s : LoggerState) :
    (r.setState name s).names = namesWith r.names name := by
  rw [setState]
  split_ifs with hroot
  · rw [namesWith, hroot, Bool.true_or, if_pos rfl]
    rfl
  · rw [← names_withLogger]
    simp only [names, List.map_map]
    refine List.map_congr_left fun l _ => ?_
    rw [Function.comp_apply, apply_ite Logger.name, ite_self]

theorem Linked.setState (h : r.Linked) (name : Text) (s : LoggerState) : (r.setState name s).Linked := by
  have hnames := names_setState r name s
  unfold Registry.setState at hnames ⊢
  split_ifs at hnames ⊢ with hroot
  · exact ⟨h.proper, h.parents⟩
  · have hlinked := h.withLogger name
    refine ⟨List.forall_mem_map.mpr fun l hl => ?_, List.forall_mem_map.mpr fun l hl => ?_⟩
    · rw [apply_ite Logger.name, ite_self]
      exact hlinked.proper l hl
    · rw [hnames, ← names_withLogger, apply_ite Logger.parent, apply_ite Logger.name, ite_self, ite_self]
      exact hlinked.parents l hl

theorem find?_name_map {f : Logger → Logger} (hf : ∀ l, (f l).name = l.name) (loggers : List Logger) (name : Text) :
    (loggers.map f).find? (·.name = name) = (loggers.find? (·.name = name)).map f := by
  have hname : (fun l : Logger => decide (l.name = name)) ∘ f = fun l => decide (l.name = name) := by
    funext l
    rw [Function.comp_apply, hf]
  rw [List.find?_map, hname]

theorem state_withLogger (r : Registry) (name other : Text) : (r.withLogger name).state other = r.state other := by
  rw [withLogger]
  split_ifs with hold
  · rfl
  have hnew : r.logger? name = none := by
    rw [Bool.or_eq_true, not_or, Option.not_isSome_iff_eq_none] at hold
    exact hold.2
  have hstate : Logger.state ∘ settledBelow name = Logger.state := funext (settledBelow_state name)
  by_cases hother : name = other
  · subst hother
    rw [state, state, hnew]
    simp [logger?]
  · have hfind : (r.loggers.map (settledBelow name)).find? (·.name = other) =
        (r.logger? other).map (settledBelow name) := find?_name_map (settledBelow_name name) r.loggers other
    simp only [state, logger?, List.find?_cons, hother, decide_false, hfind, Option.map_map, hstate]

theorem state_setState_of_ne (s : LoggerState) (h : shownName other ≠ shownName name) :
    (r.setState name s).state other = r.state other := by
  rw [setState]
  split_ifs with hroot
  · have hother : isRootName other = false := by
      by_contra hother
      simp [shownName, hroot, hother] at h
    simp [state, hother, logger?]
  · rw [← state_withLogger r name other]
    have hname : ∀ l : Logger, l.name = other → l.name ≠ name := fun l hl heq => h (by rw [← hl, heq])
    have hfind := find?_name_map (f := fun l : Logger => if l.name = name then { l with state := s } else l)
      (fun l => by rw [apply_ite Logger.name, ite_self]) (r.withLogger name).loggers other
    simp only [state, logger?, hfind]
    cases hother : (r.withLogger name).loggers.find? (·.name = other) with
    | none => rfl
    | some l =>
      have hl : l.name = other := by simpa using List.find?_some hother
      rw [Option.map_some, if_neg (hname l hl)]

end Names
end Registry

/-- The loggers above one of a name, from the nearest on, without the root. -/
inductive Stands (names : List Text) : Text → List Text → Prop
  | last {name : Text} (hnone : parentAmong names name = none) : Stands names name []
  | step {name parent : Text} {above : List Text} (hnext : parentAmong names name = some parent)
      (hrest : Stands names parent above) : Stands names name (parent :: above)

namespace Stands

variable {names above : List Text} {name : Text}

theorem exists_above (names : List Text) (name : Text) : ∃ above, Stands names name above := by
  generalize hn : name.length = n
  induction n using Nat.strongRecOn generalizing name with
  | _ n ih =>
    cases hparent : parentAmong names name with
    | none => exact ⟨[], .last hparent⟩
    | some parent =>
      have hless : parent.length < n := hn ▸ length_lt_of_mem_namesAbove (mem_of_parentAmong hparent).2
      obtain ⟨above, habove⟩ := ih _ hless parent rfl
      exact ⟨parent :: above, .step hparent habove⟩

theorem unique {others : List Text} (h : Stands names name above) (hothers : Stands names name others) :
    above = others := by
  induction h generalizing others with
  | last hnone =>
    cases hothers with
    | last => rfl
    | step hnext => exact absurd (hnone.symm.trans hnext) (by simp)
  | step hnext _ ih =>
    cases hothers with
    | last hnone => exact absurd (hnone.symm.trans hnext) (by simp)
    | step hother hrest =>
      obtain rfl := Option.some.inj (hnext.symm.trans hother)
      rw [ih hrest]

theorem mem_names (h : Stands names name above) : ∀ parent ∈ above, parent ∈ names := by
  induction h with
  | last => simp
  | step hnext _ ih => exact List.forall_mem_cons.mpr ⟨(mem_of_parentAmong hnext).1, ih⟩

theorem length_lt (h : Stands names name above) : ∀ parent ∈ above, parent.length < name.length := by
  induction h with
  | last => simp
  | step hnext _ ih =>
    have hless := length_lt_of_mem_namesAbove (mem_of_parentAmong hnext).2
    exact List.forall_mem_cons.mpr ⟨hless, fun far hfar => (ih far hfar).trans hless⟩

theorem nodup (h : Stands names name above) : (name :: above).Nodup := by
  induction h with
  | last => simp
  | @step name parent above hnext hrest ih =>
    refine List.nodup_cons.mpr ⟨fun hmem => ?_, ih⟩
    exact absurd ((Stands.step hnext hrest).length_lt name hmem) (by omega)

/-- There are not more loggers on the way than there are loggers. -/
theorem length_le (h : Stands names name above) (hname : name ∈ names) : above.length + 1 ≤ names.length :=
  (List.subperm_of_subset h.nodup (List.cons_subset.mpr ⟨hname, h.mem_names⟩)).length_le

end Stands

namespace Registry

def upward (name : Text) (above : List Text) : List Text := if isRootName name then [] else above ++ [rootName]

theorem state_of_logger? {r : Registry} {name : Text} {l : Logger} (hproper : isRootName name = false)
    (hl : r.logger? name = some l) : r.state name = l.state := by
  rw [state, hproper, hl]
  rfl

/-- A logger that there is comes before those above the one that its name tells. -/
theorem Linked.lineageFrom_succ {r : Registry} (h : r.Linked) {name : Text} (hname : name ∈ r.names) (fuel : Nat) :
    r.lineageFrom (fuel + 1) (some name) = r.state name :: r.lineageFrom fuel (parentAmong r.names name) := by
  obtain ⟨l, hl⟩ := Option.isSome_iff_exists.mp (isSome_logger?_iff.mpr hname)
  have hmem : l ∈ r.loggers := List.mem_of_find?_eq_some hl
  obtain rfl : l.name = name := by simpa using List.find?_some hl
  rw [Registry.lineageFrom, hl, state_of_logger? (h.proper l hmem) hl, ← h.parents l hmem]

theorem Linked.lineageFrom_eq {r : Registry} (h : r.Linked) {name : Text} {above : List Text}
    (habove : Stands r.names name above) (hname : name ∈ r.names) {fuel : Nat} (hfuel : above.length + 1 ≤ fuel) :
    r.lineageFrom fuel (some name) = (name :: above).map r.state ++ [r.root] := by
  induction habove generalizing fuel with
  | last hparent =>
    obtain ⟨fuel, rfl⟩ : ∃ n, fuel = n + 1 := ⟨fuel - 1, by omega⟩
    rw [h.lineageFrom_succ hname, hparent]
    cases fuel <;> rfl
  | step hparent _ ih =>
    obtain ⟨fuel, rfl⟩ : ∃ n, fuel = n + 1 := ⟨fuel - 1, by omega⟩
    rw [h.lineageFrom_succ hname, hparent, ih (mem_of_parentAmong hparent).1 (by simpa using hfuel)]
    rfl

theorem isRootName_rootName : isRootName rootName = true := by decide

theorem state_of_isRootName {r : Registry} {name : Text} (h : isRootName name = true) : r.state name = r.root := by
  rw [state, if_pos h]

section Lineage

variable {r : Registry} {name : Text} {above : List Text}

/-- The states that count for a logger are its own and those on the way to the root. -/
theorem Linked.lineage_eq (h : r.Linked) (habove : Stands r.names name above)
    (hname : isRootName name = false → name ∈ r.names) : r.lineage name = (name :: upward name above).map r.state := by
  cases hproper : isRootName name with
  | true =>
    have hnone : r.logger? name = none := by
      rw [← Option.not_isSome_iff_eq_none, isSome_logger?_iff]
      intro hmem
      obtain ⟨l, hl, rfl⟩ := List.mem_map.mp hmem
      exact absurd (h.proper l hl) (by simp [hproper])
    rw [upward, if_pos hproper, lineage, List.map_singleton, state_of_isRootName hproper]
    cases r.loggers.length with
    | zero => rfl
    | succ fuel => rw [Registry.lineageFrom, hnone]
  | false =>
    have hlength : above.length + 1 ≤ r.loggers.length := by
      simpa [names] using habove.length_le (hname hproper)
    rw [upward, hproper, lineage, h.lineageFrom_eq habove (hname hproper) hlength]
    simp [state_of_isRootName isRootName_rootName]

/-- An open logger with a level and a handler of its own writes what passes its level, and so do those above it that
have handlers. -/
theorem Linked.written_eq (h : r.Linked) (habove : Stands r.names name above)
    (hname : isRootName name = false → name ∈ r.names) {level : Int} {own : Text}
    (hstate : r.state name = ⟨level, false, [own]⟩) (hlevel : 1 ≤ level) (scene : Scene) (e : Entry) :
    r.written scene name e =
      if level ≤ e.level ∧ Level.isNamed e.level then
        scene.writtenIn (shownName name) e false (own :: (upward name above).flatMap fun far => (r.state far).handlers)
      else [] := by
  have hlineage := h.lineage_eq habove hname
  have heffective : r.effectiveLevel name = level := by
    have hset : level ≠ 0 := by omega
    simp [effectiveLevel, hlineage, hstate, hset]
  have hadmits : r.admits name e.level = decide (level ≤ e.level) := by
    have hpositive : level ≤ e.level → 0 < e.level := fun h => by omega
    simpa [admits, hstate, heffective] using hpositive
  have hlayouts : (r.lineage name).flatMap LoggerState.handlers =
      own :: (upward name above).flatMap fun far => (r.state far).handlers := by
    simp [hlineage, hstate, List.flatMap_map]
  rw [written, hadmits, hlayouts]
  by_cases hpasses : level ≤ e.level <;> cases hnamed : Level.isNamed e.level <;> simp [hpasses]

end Lineage
end Registry

theorem Scene.writtenIn_singleton (s : Scene) (name : Text) (e : Entry) (layout : Text) :
    s.writtenIn name e false [layout] = s.written name e (asksForTime layout) layout :=
  List.append_nil _

namespace LoggerConfig

/-- The state of a logger after an attempt to set it up. -/
def attempted (c : LoggerConfig) (s : LoggerState) : LoggerState :=
  if c.enabled then
    ⟨c.level, false,
      if s.handlers.isEmpty then (if Layout.isSound c.layout then [c.layout] else []) else s.handlers⟩
  else { s with disabled := true }

/-- Whether an attempt brings a handler if there is none. -/
def brings (c : LoggerConfig) : Bool := c.enabled && Layout.isSound c.layout

theorem handlers_attempted (c : LoggerConfig) (s : LoggerState) : (c.attempted s).handlers =
    if s.handlers.isEmpty then (if c.brings then [c.layout] else []) else s.handlers := by
  unfold attempted brings
  cases henabled : c.enabled <;> cases hempty : s.handlers.isEmpty <;> simp_all

end LoggerConfig

namespace Registry

/-- Try to set up a logger. An attempt that fails at the layout has enabled the logger and set its level by then. -/
def attempt (r : Registry) (c : LoggerConfig) : Registry :=
  match r.setUp c with
  | .ok r => r
  | .error _ => r.setState c.name ⟨c.level, false, []⟩

def after (history : List LoggerConfig) : Registry := history.foldl attempt initial

/-- The names of the loggers after a history, the last one first. -/
def namesAfter (history : List LoggerConfig) : List Text :=
  history.foldl (fun names c => namesWith names c.name) []

/-- The layout of the first attempt that brings a logger a handler. -/
def firstLayout (history : List LoggerConfig) (name : Text) : Option Text :=
  (history.find? fun c => shownName c.name = shownName name && c.brings).map LoggerConfig.layout

section History

variable {r : Registry} {c : LoggerConfig} {history : List LoggerConfig} {name other : Text}

theorem attempt_eq (r : Registry) (c : LoggerConfig) :
    r.attempt c = r.setState c.name (c.attempted (r.state c.name)) := by
  rw [attempt, setUp]
  split_ifs with hfails
  · simp only [Bool.and_eq_true, Bool.not_eq_true'] at hfails
    obtain ⟨⟨henabled, hempty⟩, hunsound⟩ := hfails
    simp [LoggerConfig.attempted, henabled, hempty, hunsound]
  · rw [configure_eq]
    unfold LoggerConfig.applied LoggerConfig.attempted
    cases henabled : c.enabled <;> cases hempty : (r.state c.name).handlers.isEmpty <;>
      cases hsound : Layout.isSound c.layout <;> simp_all

theorem setUp_eq (r : Registry) (c : LoggerConfig) : r.setUp c =
    if c.enabled && (r.state c.name).handlers.isEmpty && !Layout.isSound c.layout then .error ⟨c.layout⟩
    else .ok (r.attempt c) := by
  split_ifs with hfails
  · rw [setUp, if_pos hfails]
  · rw [attempt, setUp, if_neg hfails]

theorem Linked.initial : Registry.initial.Linked := ⟨nofun, nofun⟩

theorem Linked.attempt (h : r.Linked) (c : LoggerConfig) : (r.attempt c).Linked := by
  rw [attempt_eq]
  exact h.setState _ _

theorem names_attempt (r : Registry) (c : LoggerConfig) : (r.attempt c).names = namesWith r.names c.name := by
  rw [attempt_eq, names_setState]

theorem after_concat (history : List LoggerConfig) (c : LoggerConfig) :
    after (history ++ [c]) = (after history).attempt c := by
  rw [after, List.foldl_append]
  rfl

theorem Linked.after (history : List LoggerConfig) : (Registry.after history).Linked := by
  induction history using List.reverseRecOn with
  | nil => exact .initial
  | append_singleton history c ih =>
    rw [after_concat]
    exact ih.attempt c

theorem names_after (history : List LoggerConfig) : (after history).names = namesAfter history := by
  induction history using List.reverseRecOn with
  | nil => rfl
  | append_singleton history c ih =>
    rw [after_concat, names_attempt, ih, namesAfter, namesAfter, List.foldl_append]
    rfl

theorem mem_names_attempt (r : Registry) {c : LoggerConfig} (h : isRootName c.name = false) :
    c.name ∈ (r.attempt c).names := by
  rw [names_attempt, namesWith, h, Bool.false_or]
  split_ifs with hold
  · simpa using hold
  · exact List.mem_cons_self

theorem shownName_eq_iff :
    shownName name = shownName other ↔ isRootName name && isRootName other ∨ name = other := by
  have hne : ∀ {proper : Text}, isRootName proper = false → proper ≠ rootName := by
    rintro proper hproper rfl
    exact absurd isRootName_rootName (by simp [hproper])
  cases hname : isRootName name <;> cases hother : isRootName other
  · simp [shownName, hname, hother]
  · have hdiffers : name ≠ other := fun h => by simp [h, hother] at hname
    simp [shownName, hname, hother, hne hname, hdiffers]
  · have hdiffers : name ≠ other := fun h => by simp [h, hother] at hname
    simp [shownName, hname, hother, (hne hother).symm, hdiffers]
  · simp [shownName, hname, hother]

theorem state_eq_of_shownName (h : shownName name = shownName other) : r.state name = r.state other := by
  rcases shownName_eq_iff.mp h with hroot | rfl
  · rw [Bool.and_eq_true] at hroot
    rw [state, state, hroot.1, hroot.2]
    rfl
  · rfl

theorem state_attempt_of_eq (h : shownName name = shownName c.name) :
    (r.attempt c).state name = c.attempted (r.state name) := by
  rw [state_eq_of_shownName h, attempt_eq, state_setState, ← state_eq_of_shownName h]

theorem state_attempt_of_ne (h : shownName name ≠ shownName c.name) : (r.attempt c).state name = r.state name := by
  rw [attempt_eq, state_setState_of_ne _ h]

theorem firstLayout_concat : firstLayout (history ++ [c]) name =
    (firstLayout history name).or (if shownName c.name = shownName name ∧ c.brings then some c.layout else none) := by
  rw [firstLayout, firstLayout, List.find?_append, Option.map_or, List.find?_singleton, apply_ite (Option.map _)]
  simp

theorem handlers_after (history : List LoggerConfig) (name : Text) :
    ((after history).state name).handlers = (firstLayout history name).toList := by
  induction history using List.reverseRecOn with
  | nil =>
    rw [after, List.foldl_nil, state]
    split_ifs <;> rfl
  | append_singleton history c ih =>
    rw [after_concat, firstLayout_concat]
    by_cases hname : shownName name = shownName c.name
    · rw [state_attempt_of_eq hname, LoggerConfig.handlers_attempted, ih]
      cases firstLayout history name <;> cases c.brings <;> simp [hname]
    · rw [state_attempt_of_ne hname, ih]
      simp [Ne.symm hname]

/-- Setting up a logger that is enabled fails only at a layout that it would be the first to bring. -/
theorem setUp_after_eq (history : List LoggerConfig) (henabled : c.enabled = true) :
    (after history).setUp c =
      match firstLayout (history ++ [c]) c.name with
      | none => .error ⟨c.layout⟩
      | some _ => .ok (after (history ++ [c])) := by
  rw [setUp_eq, handlers_after, henabled, firstLayout_concat, after_concat]
  cases firstLayout history c.name with
  | some layout => simp
  | none => cases hsound : Layout.isSound c.layout <;> simp [LoggerConfig.brings, henabled, hsound]

theorem state_after_concat (history : List LoggerConfig) (henabled : c.enabled = true) {own : Text}
    (hown : firstLayout (history ++ [c]) c.name = some own) :
    (after (history ++ [c])).state c.name = ⟨c.level, false, [own]⟩ := by
  have hhandlers := handlers_after (history ++ [c]) c.name
  rw [hown, after_concat, state_attempt_of_eq rfl] at hhandlers
  rw [after_concat, state_attempt_of_eq rfl]
  rw [LoggerConfig.attempted, if_pos henabled] at hhandlers ⊢
  rw [LoggerState.mk.injEq]
  exact ⟨rfl, rfl, hhandlers⟩

/-- Setting up a logger brings no handler to those above it. -/
theorem firstLayout_of_mem_upward {above : List Text} (habove : Stands (namesAfter (history ++ [c])) c.name above)
    {far : Text} (hfar : far ∈ upward c.name above) : firstLayout (history ++ [c]) far = firstLayout history far := by
  have hne : shownName c.name ≠ shownName far := by
    rw [ne_eq, shownName_eq_iff, not_or]
    rw [upward] at hfar
    split_ifs at hfar with hproper
    · cases hfar
    · refine ⟨by simp [hproper], ?_⟩
      rintro rfl
      rcases List.mem_append.mp hfar with hmem | hroot
      · exact absurd (habove.length_lt _ hmem) (by omega)
      · rw [List.mem_singleton] at hroot
        exact hproper (hroot ▸ isRootName_rootName)
  rw [firstLayout_concat, if_neg fun h => hne h.1, Option.or_none]

/-- The layouts of what is written by a logger that was set up at the end of a history. -/
def layoutsAfter (history : List LoggerConfig) (own : Text) (further : List Text) : List Text :=
  own :: further.flatMap fun far => (firstLayout history far).toList

theorem written_after (henabled : c.enabled = true) (hlevel : 1 ≤ c.level) {above : List Text}
    (habove : Stands (namesAfter (history ++ [c])) c.name above) {own : Text}
    (hown : firstLayout (history ++ [c]) c.name = some own) (scene : Scene) (e : Entry) :
    (after (history ++ [c])).written scene c.name e =
      if c.level ≤ e.level ∧ Level.isNamed e.level then
        scene.writtenIn (shownName c.name) e false (layoutsAfter history own (upward c.name above))
      else [] := by
  have hstands := habove
  rw [← names_after] at hstands
  have hnames : isRootName c.name = false → c.name ∈ (after (history ++ [c])).names := by
    rw [after_concat]
    exact mem_names_attempt _
  have hfurther : (upward c.name above).flatMap (fun far => ((after (history ++ [c])).state far).handlers) =
      (upward c.name above).flatMap fun far => (firstLayout history far).toList :=
    List.flatMap_congr fun far hfar => by rw [handlers_after, firstLayout_of_mem_upward habove hfar]
  rw [(Linked.after _).written_eq hstands hnames (state_after_concat history henabled hown) hlevel, hfurther]
  rfl

/-- A logger that is the only one writes what passes its level once, in its layout. -/
theorem setUp_initial (henabled : c.enabled = true) (hlevel : 1 ≤ c.level) (hsound : Layout.isSound c.layout = true) :
    ∃ alone, initial.setUp c = .ok alone ∧ ∀ scene e, alone.written scene c.name e =
      if c.level ≤ e.level ∧ Level.isNamed e.level then
        scene.written (shownName c.name) e (Scene.asksForTime c.layout) c.layout
      else [] := by
  obtain ⟨above, habove⟩ := Stands.exists_above (namesAfter ([] ++ [c])) c.name
  have hown : firstLayout ([] ++ [c]) c.name = some c.layout := by
    simp [firstLayout, LoggerConfig.brings, henabled, hsound]
  have hsetUp := setUp_after_eq [] henabled
  rw [hown] at hsetUp
  have hlayouts : layoutsAfter [] c.layout (upward c.name above) = [c.layout] := by
    simp [layoutsAfter, firstLayout]
  refine ⟨_, hsetUp, fun scene e => ?_⟩
  rw [written_after henabled hlevel habove hown, hlayouts, scene.writtenIn_singleton]

theorem isSound_of_firstLayout {layout : Text} (h : firstLayout history name = some layout) :
    Layout.isSound layout = true := by
  obtain ⟨c, hc, rfl⟩ := Option.map_eq_some_iff.mp h
  have hbrings := List.find?_some hc
  simp only [LoggerConfig.brings, Bool.and_eq_true, decide_eq_true_eq] at hbrings
  exact hbrings.2.2

/-- A logger that is set up at the end of a history writes what passes its own level: once in the layout that came first
for its name, and once for each logger above it that has a handler, in the layout that came first for that one. If
that is its own layout alone, it writes what it writes without the history. -/
theorem setUp_after (history : List LoggerConfig) (henabled : c.enabled = true) (hlevel : 1 ≤ c.level) :
    ∃ above, Stands (namesAfter (history ++ [c])) c.name above ∧
      (firstLayout (history ++ [c]) c.name = none → (after history).setUp c = .error ⟨c.layout⟩) ∧
      ∀ own, firstLayout (history ++ [c]) c.name = some own → ∃ r, (after history).setUp c = .ok r ∧
        (∀ scene e, r.written scene c.name e =
          if c.level ≤ e.level ∧ Level.isNamed e.level then
            scene.writtenIn (shownName c.name) e false (layoutsAfter history own (upward c.name above))
          else []) ∧
        (layoutsAfter history own (upward c.name above) = [c.layout] →
          ∃ alone, initial.setUp c = .ok alone ∧
            ∀ scene e, r.written scene c.name e = alone.written scene c.name e) := by
  obtain ⟨above, habove⟩ := Stands.exists_above (namesAfter (history ++ [c])) c.name
  have hsetUp := setUp_after_eq history henabled
  refine ⟨above, habove, fun hnone => by rw [hsetUp, hnone], fun own hown => ?_⟩
  rw [hown] at hsetUp
  have hwritten := written_after henabled hlevel habove hown
  refine ⟨_, hsetUp, hwritten, fun hlayouts => ?_⟩
  obtain rfl : own = c.layout := (List.cons.inj hlayouts).1
  obtain ⟨alone, hsetUpAlone, halone⟩ := setUp_initial henabled hlevel (isSound_of_firstLayout hown)
  refine ⟨alone, hsetUpAlone, fun scene e => ?_⟩
  rw [hwritten, hlayouts, scene.writtenIn_singleton, halone]

/-- A logger with a handler, and one below it that is not enabled. -/
def dottedHistory : List LoggerConfig := [⟨"a", true, 30, "%(levelno)4d above: %(message)s"⟩, ⟨"a.b", false, 50, ""⟩]

def dottedConfig : LoggerConfig := ⟨"a.b", true, 20, "%(message)s"⟩

/-- A record is written once more for the logger above, whose own level it does not pass. -/
theorem setUp_after_dottedHistory :
    dottedConfig.enabled = true ∧ 1 ≤ dottedConfig.level ∧
    ∃ r, (after dottedHistory).setUp dottedConfig = .ok r ∧
      r.written (.ofTime []) "a.b" ⟨25, "m"⟩ = "m\n  25 above: m\n" ∧ r.written (.ofTime []) "a.b" ⟨15, "m"⟩ = [] := by
  have henabled : dottedConfig.enabled = true := rfl
  have hlevel : 1 ≤ dottedConfig.level := by decide
  obtain ⟨above, habove, -, hafter⟩ := setUp_after dottedHistory henabled hlevel
  have hparent : parentAmong (namesAfter (dottedHistory ++ [dottedConfig])) dottedConfig.name = some "a" := by
    decide +kernel
  have hlast : parentAmong (namesAfter (dottedHistory ++ [dottedConfig])) "a" = none := by decide +kernel
  obtain rfl := habove.unique (.step hparent (.last hlast))
  have hown : firstLayout (dottedHistory ++ [dottedConfig]) dottedConfig.name = some "%(message)s" := by decide +kernel
  obtain ⟨r, hsetUp, hwritten, -⟩ := hafter _ hown
  exact ⟨henabled, hlevel, r, hsetUp, (hwritten (.ofTime []) ⟨25, "m"⟩).trans (by decide +kernel),
    (hwritten (.ofTime []) ⟨15, "m"⟩).trans (by decide +kernel)⟩

def handledConfig : LoggerConfig := ⟨"a", true, 30, "%(message)s"⟩

def belowConfig : LoggerConfig := ⟨"a.b", true, 30, "%(message)s"⟩

/-- A logger that is set up below another writes twice what it writes once when it is the only one. -/
theorem written_below_ne_alone :
    (after [handledConfig]).setUp belowConfig = .ok ((after [handledConfig]).configure belowConfig) ∧
      initial.setUp belowConfig = .ok (initial.configure belowConfig) ∧
      ((after [handledConfig]).configure belowConfig).written (.ofTime []) "a.b" ⟨30, "m"⟩ = "m\nm\n" ∧
      (initial.configure belowConfig).written (.ofTime []) "a.b" ⟨30, "m"⟩ = "m\n" := by
  refine ⟨if_neg ?_, if_neg ?_, ?_, ?_⟩ <;> decide +kernel

end History
end Registry
end Schematic

import Schematic.Proofs.Unwrapping
import Schematic.Value.Exotic

/-! Below a modifier stands what it wraps or what its getter gives. Unwrapping goes down this way and stops at
the first value that is no modifier, at a getter that raises, or at one lazy node more than its limit. Where
it stops is told here by the number of lazy nodes above, without going step by step. -/
namespace Schematic

/-- From the first value the way down comes to the second one, through wrappers and this many lazy nodes whose
getters return. New buildings are numbered from `copy` on. -/
inductive Leads (defs : Definitions) : (copy : Nat) → Value → (lazies : Nat) → Value → Prop
  | here (copy : Nat) (v : Value) : Leads defs copy v 0 v
  | wrapper {copy k : Nat} {i : Identity} {description w : Value} {m : Modifier} {inner : Descriptor}
      (below : Leads defs copy (.node inner) k w) : Leads defs copy (.node (.mk i description (.modified m inner))) k w
  | resolved {copy k : Nat} {i j : Identity} {description v w : Value} {g : Action} (call : g.call defs copy = .ok v)
      (below : Leads defs (copy + 1) v k w) : Leads defs copy (.node (.mk i description (.lazy j g))) (k + 1) w

/-- How the way down from `v` ends when at most `limit` lazy nodes may be resolved. The lazy node below `k` others
has number `k + 1`. A failure that cannot be said is the exception that saying it raises. -/
inductive WalkEnds (defs : Definitions) (limit : Int) (copy : Nat) (v : Value) :
    Except ResolutionFailure (Value × Nat) → Prop
  | arrives {k : Nat} {c : Value} (walk : Leads defs copy v k c) (within : (k : Int) ≤ max limit 0)
      (plain : c.isModifier = false) : WalkEnds defs limit copy v (.ok (c, copy + k))
  | exhausted {k : Nat} {i j : Identity} {description : Value} {g : Action} {failure : ResolutionFailure}
      (walk : Leads defs copy v k (.node (.mk i description (.lazy j g)))) (full : (k : Int) = max limit 0)
      (short : 0 ≤ limit ∨ (Text.ofInt limit).obstacle? = none) (reason : failure = .unresolved limit)
      (name : failure.className = "RecursiveDescriptorError") (depth : failure.depth? = some limit) :
      WalkEnds defs limit copy v (.error failure)
  | overlong {k : Nat} {i j : Identity} {description : Value} {g : Action} {why : Obstacle} {failure : ResolutionFailure}
      (walk : Leads defs copy v k (.node (.mk i description (.lazy j g)))) (full : k = 0) (negative : limit < 0)
      (long : (Text.ofInt limit).obstacle? = some why) (reason : failure = .unsaid why)
      (name : failure.className = why.className) : WalkEnds defs limit copy v (.error failure)
  | recursed {k : Nat} {i j : Identity} {description : Value} {g : Action} {e : Raised} {failure : ResolutionFailure}
      (walk : Leads defs copy v k (.node (.mk i description (.lazy j g)))) (within : (k + 1 : Int) ≤ limit)
      (call : g.call defs (copy + k) = .error e) (recursion : e.className = ("RecursionError" : Text))
      (reason : failure = .recursed (k + 1)) (name : failure.className = "RecursiveDescriptorError")
      (depth : failure.depth? = some (k + 1)) : WalkEnds defs limit copy v (.error failure)
  | failed {k : Nat} {i j : Identity} {description : Value} {g : Action} {e : Raised} {failure : ResolutionFailure}
      (walk : Leads defs copy v k (.node (.mk i description (.lazy j g)))) (within : (k + 1 : Int) ≤ limit)
      (call : g.call defs (copy + k) = .error e) (other : e.className ≠ ("RecursionError" : Text))
      (written : e.written.obstacle? = none) (reason : failure = .getterFailed e)
      (name : failure.className = "DescriptorResolutionError") (depth : failure.depth? = none) :
      WalkEnds defs limit copy v (.error failure)
  | unwritten {k : Nat} {i j : Identity} {description : Value} {g : Action} {e : Raised} {why : Obstacle}
      {failure : ResolutionFailure} (walk : Leads defs copy v k (.node (.mk i description (.lazy j g))))
      (within : (k + 1 : Int) ≤ limit) (call : g.call defs (copy + k) = .error e)
      (other : e.className ≠ ("RecursionError" : Text)) (gap : e.written.obstacle? = some why)
      (reason : failure = .unsaid why) (name : failure.className = why.className) :
      WalkEnds defs limit copy v (.error failure)

namespace ResolutionFailure

/-- The same failure below `lazies` more lazy nodes. -/
def below (lazies : Nat) : ResolutionFailure → ResolutionFailure
  | unresolved limit => unresolved (limit + lazies)
  | recursed resolution => recursed (resolution + lazies)
  | getterFailed e => getterFailed e
  | unsaid why => unsaid why

end ResolutionFailure

section Descent

variable {defs : Definitions} {limit : Int}

theorem unwrapFrom_lazy_zero (resolution copy : Nat) (i j : Identity) (description : Value) (g : Action) :
    unwrapFrom defs limit 0 resolution copy (.node (.mk i description (.lazy j g))) = .error (.unresolved limit) :=
  unwrapFrom.eq_1 _ _ _ _ _ _ _ _ _ rfl

/-- Each lazy node on the way uses up one resolution and one number for buildings. -/
theorem Leads.unwrapFrom_eq {copy k : Nat} {v w : Value} (h : Leads defs copy v k w) (budget resolution : Nat) :
    unwrapFrom defs limit (budget + k) resolution copy v = unwrapFrom defs limit budget (resolution + k) (copy + k) w := by
  induction h generalizing resolution with
  | here => rfl
  | wrapper _ ih => rw [unwrapFrom_wrapper, ih]
  | @resolved copy k i j description v w g call _ ih =>
    rw [← Nat.add_assoc budget k 1, unwrapFrom_lazy_succ, call]
    simp only []
    rw [ih (resolution + 1), Nat.add_right_comm resolution 1 k, Nat.add_right_comm copy 1 k]
    rfl

theorem Leads.trans {copy k l : Nat} {v w x : Value} (h : Leads defs copy v k w) (hw : Leads defs (copy + k) w l x) :
    Leads defs copy v (l + k) x := by
  induction h with
  | here => exact hw
  | wrapper _ ih => exact .wrapper (ih hw)
  | @resolved copy k i j description v w g call _ ih =>
    refine .resolved call (ih ?_)
    rwa [Nat.add_right_comm copy 1 k]

theorem Leads.unwrap_eq {copy k : Nat} {v w : Value} (walk : Leads defs copy v k w) (hk : (k : Int) ≤ max limit 0) :
    v.unwrap defs limit copy =
      (unwrapFrom defs limit (limit.toNat - k) (1 + k) (copy + k) w).mapError ResolutionFailure.said := by
  rw [← walk.unwrapFrom_eq, Nat.sub_add_cancel (by omega), Value.unwrap]

theorem Leads.unwrap_plain {copy k : Nat} {v c : Value} (walk : Leads defs copy v k c) (hk : (k : Int) ≤ max limit 0)
    (plain : c.isModifier = false) : v.unwrap defs limit copy = .ok (c, copy + k) := by
  rw [walk.unwrap_eq hk, unwrapFrom_plain plain]
  rfl

section Stops

variable {copy k : Nat} {v : Value} {i j : Identity} {description : Value} {g : Action}
  (walk : Leads defs copy v k (.node (.mk i description (.lazy j g))))

include walk

theorem Leads.unwrap_exhausted (full : (k : Int) = max limit 0) :
    v.unwrap defs limit copy = .error (ResolutionFailure.unresolved limit).said := by
  have hzero : limit.toNat - k = 0 := by omega
  rw [walk.unwrap_eq (by omega), hzero, unwrapFrom_lazy_zero]
  rfl

theorem Leads.unwrap_raised {e : Raised} (within : (k + 1 : Int) ≤ limit) (call : g.call defs (copy + k) = .error e) :
    v.unwrap defs limit copy = .error (ResolutionFailure.ofRaised (k + 1) e).said := by
  obtain ⟨budget, hbudget⟩ : ∃ b, limit.toNat - k = b + 1 := ⟨limit.toNat - k - 1, by omega⟩
  rw [walk.unwrap_eq (by omega), hbudget, unwrapFrom_lazy_succ, call, Nat.add_comm 1 k]
  rfl

end Stops

theorem WalkEnds.eq_unwrap {copy : Nat} {v : Value} {r : Except ResolutionFailure (Value × Nat)}
    (h : WalkEnds defs limit copy v r) : v.unwrap defs limit copy = r := by
  cases h with
  | arrives walk within plain => exact walk.unwrap_plain within plain
  | exhausted walk full short reason =>
    have hnone : (ResolutionFailure.unresolved limit).obstacle? = none := by
      rcases short with hlimit | hshort
      · exact if_neg (not_lt.mpr hlimit)
      · simp [ResolutionFailure.obstacle?, hshort]
    rw [walk.unwrap_exhausted full, reason, ResolutionFailure.said, hnone]
  | overlong walk full negative long reason =>
    have hsome : (ResolutionFailure.unresolved limit).obstacle? = some _ := (if_pos negative).trans long
    rw [walk.unwrap_exhausted (by omega), reason, ResolutionFailure.said, hsome]
  | recursed walk within call recursion reason =>
    rw [walk.unwrap_raised within call, reason, ResolutionFailure.ofRaised, if_pos recursion]
    rfl
  | failed walk within call other written reason =>
    rw [walk.unwrap_raised within call, reason, ResolutionFailure.ofRaised, if_neg other,
      ResolutionFailure.said_getterFailed, written]
  | unwritten walk within call other gap reason =>
    rw [walk.unwrap_raised within call, reason, ResolutionFailure.ofRaised, if_neg other,
      ResolutionFailure.said_getterFailed, gap]

/-- A higher limit changes nothing but an outcome that exceeds the lower one. -/
theorem WalkEnds.mono {limit' : Int} {copy : Nat} {v : Value} {r : Except ResolutionFailure (Value × Nat)}
    (h : WalkEnds defs limit copy v r) (hle : limit ≤ limit')
    (hr : r ≠ .error (ResolutionFailure.unresolved limit).said) : WalkEnds defs limit' copy v r := by
  cases h with
  | arrives walk within plain => exact .arrives walk (by omega) plain
  | exhausted walk full short reason name depth =>
    exact (hr ((WalkEnds.exhausted walk full short reason name depth).eq_unwrap.symm.trans
      (walk.unwrap_exhausted full))).elim
  | overlong walk full negative long reason name =>
    exact (hr ((WalkEnds.overlong walk full negative long reason name).eq_unwrap.symm.trans
      (walk.unwrap_exhausted (by omega)))).elim
  | recursed walk within call recursion reason name depth =>
    exact .recursed walk (by omega) call recursion reason name depth
  | failed walk within call other written reason name depth =>
    exact .failed walk (by omega) call other written reason name depth
  | unwritten walk within call other gap reason name =>
    exact .unwritten walk (by omega) call other gap reason name

end Descent

end Schematic

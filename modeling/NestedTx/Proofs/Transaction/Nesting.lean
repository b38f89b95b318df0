import NestedTx.Transaction.Status

namespace NestedTx

inductive ScopeStep
  | enter
  | run
  | commit
  | leave
deriving DecidableEq, Repr

namespace ScopeStep

inductive WellNested : List ScopeStep → Prop
  | nil : WellNested []
  | run {steps : List ScopeStep} (rest : WellNested steps) : WellNested (run :: steps)
  | scope {inner between steps : List ScopeStep} (hinner : WellNested inner)
    (hbetween : WellNested between) (rest : WellNested steps) :
    WellNested (enter :: inner ++ commit :: between ++ leave :: steps)

/-- The levels that are open, the innermost first; a level is true once it was committed. A commit
must find an uncommitted level, and a level must not be left without. -/
def move (levels : List Bool) : ScopeStep → Option (List Bool)
  | enter => some (false :: levels)
  | run => some levels
  | commit =>
    match levels with
    | false :: outer => some (true :: outer)
    | _ => none
  | leave =>
    match levels with
    | true :: outer => some outer
    | _ => none

def walk (levels : List Bool) : List ScopeStep → Option (List Bool)
  | [] => some levels
  | step :: steps => (move levels step).bind fun levels => walk levels steps

theorem walk_append (levels : List Bool) (steps later : List ScopeStep) :
    walk levels (steps ++ later) = (walk levels steps).bind fun levels => walk levels later := by
  induction steps generalizing levels with
  | nil => rfl
  | cons step steps ih =>
    simp only [List.cons_append, walk]
    cases move levels step with
    | none => rfl
    | some levels => exact ih levels

theorem walk_concat {levels levels' : List Bool} {steps : List ScopeStep}
    (walked : walk levels steps = some levels') (step : ScopeStep) :
    walk levels (steps ++ [step]) = move levels' step := by
  rw [walk_append, walked, Option.bind_some, walk]
  exact Option.bind_fun_some _

theorem WellNested.walk_eq {steps : List ScopeStep} (nested : WellNested steps) (levels : List Bool) :
    walk levels steps = some levels := by
  induction nested generalizing levels with
  | nil => rfl
  | run rest ih => exact ih levels
  | scope _ _ _ ihInner ihBetween ihRest =>
    simp only [List.cons_append, List.append_assoc, walk, walk_append, move, Option.bind_some,
      ihInner, ihBetween, ihRest]

def Closes : List Bool → List ScopeStep → Prop
  | [], steps => WellNested steps
  | false :: levels, steps => ∃ inner between rest,
    steps = inner ++ commit :: between ++ leave :: rest ∧ WellNested inner ∧ WellNested between ∧
      Closes levels rest
  | true :: levels, steps => ∃ between rest, steps = between ++ leave :: rest ∧
    WellNested between ∧ Closes levels rest

theorem Closes.append {levels : List Bool} {steps : List ScopeStep} (closes : Closes levels steps)
    {first : List ScopeStep} (extend : ∀ word, WellNested word → WellNested (first ++ word)) :
    Closes levels (first ++ steps) := by
  cases levels with
  | nil => exact extend steps closes
  | cons committed levels =>
    cases committed with
    | false =>
      obtain ⟨inner, between, rest, rfl, hinner, hbetween, hrest⟩ := closes
      exact ⟨first ++ inner, between, rest, by simp, extend inner hinner, hbetween, hrest⟩
    | true =>
      obtain ⟨between, rest, rfl, hbetween, hrest⟩ := closes
      exact ⟨first ++ between, rest, by simp, extend between hbetween, hrest⟩

theorem closes_of_walk {levels : List Bool} {steps : List ScopeStep}
    (walked : walk levels steps = some []) : Closes levels steps := by
  -- The first step changes what is open, so the later steps close other levels than all steps do.
  induction steps generalizing levels with
  | nil =>
    cases walked
    exact .nil
  | cons step steps ih =>
    cases step with
    | enter =>
      obtain ⟨inner, between, rest, rfl, hinner, hbetween, hrest⟩ := ih walked
      have extend (word : List ScopeStep) (nested : WellNested word) :
          WellNested ((enter :: inner ++ commit :: between ++ [leave]) ++ word) := by
        have scope := WellNested.scope hinner hbetween nested
        simpa using scope
      have whole := hrest.append extend
      simpa using whole
    | run =>
      have whole : Closes levels ([run] ++ steps) :=
        (ih walked).append fun word nested => .run nested
      exact whole
    | commit =>
      cases levels with
      | nil => cases walked
      | cons committed levels =>
        cases committed with
        | true => cases walked
        | false =>
          obtain ⟨between, rest, rfl, hbetween, hrest⟩ := ih walked
          exact ⟨[], between, rest, by simp, .nil, hbetween, hrest⟩
    | leave =>
      cases levels with
      | nil => cases walked
      | cons committed levels =>
        cases committed with
        | false => cases walked
        | true => exact ⟨[], steps, rfl, .nil, ih walked⟩

theorem wellNested_iff {steps : List ScopeStep} : WellNested steps ↔ walk [] steps = some [] :=
  ⟨fun nested => nested.walk_eq [], fun walked => closes_of_walk walked⟩

instance (steps : List ScopeStep) : Decidable (WellNested steps) :=
  decidable_of_iff _ wellNested_iff.symm

end ScopeStep

end NestedTx

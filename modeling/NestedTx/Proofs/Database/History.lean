import NestedTx.Proofs.Transaction.Mark

namespace NestedTx

inductive Holder
  | root (ref : Nat)
  | handOpened (ref : Nat)
deriving DecidableEq, Repr

inductive Event
  | alone (sql : String)
  | marked (holder : Holder) (mark : Mark)
  | takenUp (ref root : Nat)
deriving DecidableEq, Repr

def Event.isOf (holder : Holder) : Event → Bool
  | .marked other _ => other = holder
  | _ => false

def Mark.texts : List Mark → List String
  | [] => []
  | mark :: marks => extend (texts marks) mark

namespace History

def marks : Holder → List Event → List Mark
  | _, [] => []
  | holder, .alone _ :: past => marks holder past
  | holder, .marked other mark :: past =>
    if other = holder then mark :: marks holder past else marks holder past
  | holder, .takenUp ref root :: past =>
    if holder = .root root then marks (.handOpened ref) past else marks holder past

def statements (holder : Holder) (history : List Event) : List String :=
  Mark.texts (marks holder history)

def published : List Event → List String
  | [] => []
  | .alone sql :: past => published past ++ [sql]
  | .marked holder mark :: past => published past ++ Mark.publish (statements holder past) mark
  | .takenUp _ _ :: past => published past

def without (holder : Holder) (history : List Event) : List Event :=
  history.filter fun event => !event.isOf holder

inductive Orderly : List Event → Prop
  | nil : Orderly []
  | alone {sql : String} {past : List Event} (orderly : Orderly past) : Orderly (.alone sql :: past)
  | marked {holder : Holder} {mark : Mark} {past : List Event} (orderly : Orderly past)
    (unended : ∀ earlier ∈ marks holder past, earlier.isEnd = false) :
    Orderly (.marked holder mark :: past)
  | takenUp {ref root : Nat} {past : List Event} (orderly : Orderly past)
    (fresh : marks (.root root) past = []) : Orderly (.takenUp ref root :: past)

variable {holder : Holder} {past later history : List Event}

def mark? (holder : Holder) (mark : Option Mark) (history : List Event) : List Event :=
  (mark.map (.marked holder)).toList ++ history

theorem marks_mark? (holder : Holder) (mark : Option Mark) (history : List Event) :
    marks holder (mark? holder mark history) = mark.toList ++ marks holder history := by
  cases mark <;> simp [mark?, marks]

theorem statements_mark? (holder : Holder) (mark : Option Mark) (history : List Event) :
    statements holder (mark? holder mark history) = Mark.extend (statements holder history) mark := by
  rw [statements, marks_mark?]
  cases mark <;> rfl

theorem mem_mark? {mark : Mark} {mark' : Option Mark} :
    .marked holder mark ∈ mark? holder mark' history ↔
      mark' = some mark ∨ .marked holder mark ∈ history := by
  cases mark' <;> simp [mark?, eq_comm]

theorem published_mark? (holder : Holder) (mark : Option Mark) (history : List Event) :
    published (mark? holder mark history) =
      published history ++ Mark.publish (statements holder history) mark := by
  cases mark <;> simp [mark?, published, Mark.publish]

theorem exists_published_append (later past : List Event) :
    ∃ rest, published (later ++ past) = published past ++ rest := by
  induction later with
  | nil => exact ⟨[], by simp⟩
  | cons event later ih =>
    obtain ⟨rest, ih⟩ := ih
    cases event with
    | alone sql => exact ⟨rest ++ [sql], by simp [published, ih]⟩
    | marked holder mark =>
      exact ⟨rest ++ Mark.publish (statements holder (later ++ past)) mark, by simp [published, ih]⟩
    | takenUp ref root => exact ⟨rest, ih⟩

namespace Orderly

theorem of_append (orderly : Orderly (later ++ past)) : Orderly past := by
  induction later with
  | nil => exact orderly
  | cons event later ih =>
    rw [List.cons_append] at orderly
    cases orderly with
    | alone orderly => exact ih orderly
    | marked orderly => exact ih orderly
    | takenUp orderly => exact ih orderly

theorem marks_of_end {mark : Mark} (orderly : Orderly (later ++ .marked holder mark :: past))
    (isEnd : mark.isEnd = true) :
    marks holder (later ++ .marked holder mark :: past) = mark :: marks holder past := by
  induction later with
  | nil => simp [marks]
  | cons event later ih =>
    rw [List.cons_append] at orderly ⊢
    cases orderly with
    | alone orderly => exact ih orderly
    | @marked other _ _ orderly unended =>
      have hne : other ≠ holder := by
        rintro rfl
        have := unended mark (by rw [ih orderly]; exact List.mem_cons_self)
        simp [isEnd] at this
      simp only [marks, hne, if_false]
      exact ih orderly
    | @takenUp ref root _ orderly fresh =>
      have hne : holder ≠ .root root := by
        rintro rfl
        simp [ih orderly] at fresh
      simp only [marks, hne, if_false]
      exact ih orderly

theorem mem_marks_of_end {mark : Mark} (orderly : Orderly history) (isEnd : mark.isEnd = true)
    (mem : .marked holder mark ∈ history) : mark ∈ marks holder history := by
  obtain ⟨later, past, rfl⟩ := List.append_of_mem mem
  rw [orderly.marks_of_end isEnd]
  exact List.mem_cons_self

theorem unmarked_of_end {mark mark' : Mark} (orderly : Orderly (later ++ .marked holder mark :: past))
    (isEnd : mark.isEnd = true) (isEnd' : mark'.isEnd = true) :
    .marked holder mark' ∉ later ++ past := by
  intro mem
  rcases List.mem_append.mp mem with mem | mem
  · obtain ⟨latest, between, rfl⟩ := List.append_of_mem mem
    rw [List.append_assoc, List.cons_append] at orderly
    cases orderly.of_append with
    | marked orderly unended =>
      have := unended mark (orderly.mem_marks_of_end isEnd (by simp))
      simp [isEnd] at this
  · cases orderly.of_append with
    | marked orderly unended =>
      have := unended mark' (orderly.mem_marks_of_end isEnd' mem)
      simp [isEnd'] at this

end Orderly

theorem without_cons (holder : Holder) (event : Event) (past : List Event) :
    without holder (event :: past) =
      if event.isOf holder then without holder past else event :: without holder past := by
  cases h : event.isOf holder <;> simp [without, h]

theorem marks_without {other : Holder} (ne : other ≠ holder)
    (kept : ∀ ref root, holder = .handOpened ref → .takenUp ref root ∉ history) :
    marks other (without holder history) = marks other history := by
  induction history generalizing other with
  | nil => rfl
  | cons event past ih =>
    have kept' : ∀ ref root, holder = .handOpened ref → .takenUp ref root ∉ past :=
      fun ref root he hm => kept ref root he (List.mem_cons_of_mem _ hm)
    cases event with
    | alone sql => exact ih ne kept'
    | marked third mark =>
      by_cases h : third = holder
      · have hthird : third ≠ other := fun he => ne (he.symm.trans h)
        simp only [without_cons, Event.isOf, h, decide_true, if_true, ih ne kept', marks,
          if_neg ne.symm]
      · simp only [without_cons, Event.isOf, h, decide_false, Bool.false_eq_true, if_false, marks,
          ih ne kept']
    | takenUp ref root =>
      have hne : Holder.handOpened ref ≠ holder := fun he => kept ref root he.symm List.mem_cons_self
      simp only [without_cons, Event.isOf, Bool.false_eq_true, if_false, marks, ih ne kept',
        ih hne kept']

theorem published_without (uncommitted : .marked holder .committed ∉ history)
    (kept : ∀ ref root, holder = .handOpened ref → .takenUp ref root ∉ history) :
    published (without holder history) = published history := by
  induction history with
  | nil => rfl
  | cons event past ih =>
    have kept' : ∀ ref root, holder = .handOpened ref → .takenUp ref root ∉ past :=
      fun ref root he hm => kept ref root he (List.mem_cons_of_mem _ hm)
    replace ih := ih (fun hm => uncommitted (List.mem_cons_of_mem _ hm)) kept'
    rw [without_cons]
    cases event with
    | alone sql => simp only [Event.isOf, Bool.false_eq_true, if_false, published, ih]
    | marked other mark =>
      by_cases h : other = holder
      · subst other
        have hp : Mark.publish (statements holder past) mark = [] := by
          cases mark with
          | committed => simp at uncommitted
          | ran | undone => rfl
        simp only [Event.isOf, decide_true, if_true, published, hp, List.append_nil, ih]
      · simp only [Event.isOf, h, decide_false, Bool.false_eq_true, if_false, published, ih,
          statements, marks_without h kept']
    | takenUp ref root => simp only [Event.isOf, Bool.false_eq_true, if_false, published, ih]

end History

end NestedTx

import TreeMatch.Trace

/-! What a trace holds after a series of events: the last outcome of every pattern node on every
tree node. -/

namespace TreeMatch

namespace Event

/-- The event is about a pattern node and a tree node, both given by their numbers. -/
def concerns (event : Event) (id node : Nat) : Bool :=
  event.id == id && event.subject.node?.any (·.id == node)

/-- The event is about some pattern node and the tree node of a number. -/
def isOn (event : Event) (node : Nat) : Bool :=
  event.subject.node?.any (·.id == node)

def last? (events : List Event) (id node : Nat) : Option Bool :=
  (events.reverse.find? (·.concerns id node)).map Event.success

@[simp] theorem last?_nil (id node : Nat) : last? [] id node = none := rfl

theorem last?_append (front back : List Event) (id node : Nat) :
    last? (front ++ back) id node = (last? back id node).or (last? front id node) := by
  rw [last?, List.reverse_append, List.find?_append, last?, last?]
  cases back.reverse.find? (·.concerns id node) <;> rfl

theorem last?_cons (event : Event) (rest : List Event) (id node : Nat) :
    last? (event :: rest) id node =
      (last? rest id node).or (if event.concerns id node then some event.success else none) := by
  rw [← List.singleton_append, last?_append]
  congr 1
  unfold last?
  rw [List.reverse_singleton, List.find?_singleton]
  cases event.concerns id node <;> rfl

theorem last?_isSome {events : List Event} {id node : Nat} :
    (last? events id node).isSome = true ↔
      ∃ event ∈ events, event.concerns id node = true := by
  rw [last?, Option.isSome_map, List.find?_isSome]
  simp

end Event

namespace Trace

variable (trace : Trace) (event : Event) (events : List Event) (id node : Nat)

theorem outcome_record :
    (trace.record event).outcome id node =
      if event.concerns id node then some event.success else trace.outcome id node := by
  unfold record Event.concerns outcome
  cases event.subject.node? with
  | none => simp
  | some subject =>
      dsimp only [Option.any_some]
      by_cases hsame : (id, node) = (event.id, subject.id)
      · cases hsame
        simp
      · rw [lookup_putKey_of_ne hsame]
        rw [if_neg]
        intro hconcerns
        rw [Bool.and_eq_true_iff, beq_iff_eq, beq_iff_eq] at hconcerns
        exact hsame (by rw [hconcerns.1, hconcerns.2])

theorem outcome_replay :
    (trace.replay events).outcome id node =
      (Event.last? events id node).or (trace.outcome id node) := by
  induction events generalizing trace with
  | nil => rfl
  | cons event rest induction =>
      change ((trace.record event).replay rest).outcome id node = _
      rw [induction, outcome_record, Event.last?_cons]
      cases Event.last? rest id node with
      | some success => rfl
      | none => cases event.concerns id node <;> rfl

/-- A pattern node is put behind those that were tested on the tree node before, unless it is one of
them. -/
theorem examinedBy_record :
    (trace.record event).examinedBy node =
      if event.isOn node && !(trace.examinedBy node).contains event.id then
        trace.examinedBy node ++ [event.id]
      else trace.examinedBy node := by
  unfold record Event.isOn
  cases event.subject.node? with
  | none => rfl
  | some subject =>
      unfold examinedBy
      dsimp only [Option.any_some]
      by_cases hsame : node = subject.id
      · subst hsame
        simp only [lookup_putKey_self, Option.getD_some, BEq.rfl, Bool.true_and]
        cases ((trace.examined.lookup subject.id).getD []).contains event.id <;> rfl
      · have hother : (subject.id == node) = false := beq_eq_false_iff_ne.mpr (Ne.symm hsame)
        simp only [lookup_putKey_of_ne hsame, hother, Bool.false_and, Bool.false_eq_true, if_false]

theorem mem_examinedBy_record :
    id ∈ (trace.record event).examinedBy node ↔
      event.concerns id node = true ∨ id ∈ trace.examinedBy node := by
  have hconcerns : event.concerns id node = true ↔ event.id = id ∧ event.isOn node = true := by
    rw [Event.concerns, Bool.and_eq_true, beq_iff_eq]
    rfl
  rw [examinedBy_record, hconcerns]
  split
  · rename_i hnew
    rw [(Bool.and_eq_true_iff.mp hnew).1, List.mem_append, List.mem_singleton, or_comm]
    simp [eq_comm]
  · rename_i hold
    refine ⟨.inr, ?_⟩
    rintro (⟨rfl, hon⟩ | member)
    · simpa [hon] using hold
    · exact member

/-- A pattern node was examined on a tree node if an event is about the two. -/
theorem mem_examinedBy_replay :
    id ∈ (trace.replay events).examinedBy node ↔
      (∃ event ∈ events, event.concerns id node = true) ∨ id ∈ trace.examinedBy node := by
  induction events generalizing trace with
  | nil => simp [replay]
  | cons event rest induction =>
      change id ∈ ((trace.record event).replay rest).examinedBy node ↔ _
      simp only [induction, mem_examinedBy_record, List.mem_cons, exists_eq_or_imp]
      rw [or_assoc, or_left_comm]

end Trace

end TreeMatch

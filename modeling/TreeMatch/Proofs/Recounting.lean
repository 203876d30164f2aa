import Mathlib.Data.List.Induction
import Mathlib.Data.List.Nodup
import TreeMatch.Proofs.Replay

/-! A trace told from its events alone: of a pattern node, and of a pattern node on a tree node, it
holds what the last event about them says, and it holds nothing else. -/

namespace TreeMatch

theorem eraseDups_concat [BEq α] [LawfulBEq α] (values : List α) (value : α) :
    (values ++ [value]).eraseDups =
      if values.contains value then values.eraseDups else values.eraseDups ++ [value] := by
  rw [List.eraseDups_append]
  by_cases member : value ∈ values
  · simp [List.removeAll, member]
  · simp [List.removeAll, member, List.eraseDups_cons]

theorem nodup_eraseDups [BEq α] [LawfulBEq α] (values : List α) : values.eraseDups.Nodup := by
  induction values using List.reverseRecOn with
  | nil => exact List.nodup_nil
  | append_singleton values value induction =>
      rw [eraseDups_concat]
      split
      · exact induction
      · rename_i hnew
        rw [List.contains_iff_mem] at hnew
        refine induction.append (List.nodup_singleton value) ?_
        exact List.disjoint_singleton.mpr fun member => hnew (List.mem_eraseDups.mp member)

theorem keys_putKey [BEq κ] [LawfulBEq κ] (key : κ) (value : α) (entries : List (κ × α)) :
    (putKey key value entries).map Prod.fst =
      if (entries.map Prod.fst).contains key then entries.map Prod.fst
      else entries.map Prod.fst ++ [key] := by
  induction entries with
  | nil => rfl
  | cons entry rest induction =>
      obtain ⟨other, old⟩ := entry
      rw [putKey, List.map_cons, List.contains_cons]
      by_cases hkey : other = key
      · subst hkey
        simp
      · have hother : (other == key) = false := beq_eq_false_iff_ne.mpr hkey
        have hnew : (key == other) = false := beq_eq_false_iff_ne.mpr (Ne.symm hkey)
        rw [hother, if_neg Bool.false_ne_true, List.map_cons, induction]
        simp only [hnew, Bool.false_or]
        split <;> rfl

namespace Event

/-- An event is the last one of a series that meets a condition. -/
def IsLast (events : List Event) (about : Event → Bool) (event : Event) : Prop :=
  ∃ front back, events = front ++ event :: back ∧ about event = true ∧
    ∀ later ∈ back, about later = false

theorem map_find?_reverse_eq_none_iff {events : List Event} {about : Event → Bool} :
    (events.reverse.find? about).map Event.success = none ↔
      ∀ event ∈ events, about event = false := by
  simp

theorem map_find?_reverse_eq_some_iff {events : List Event} {about : Event → Bool}
    {success : Bool} :
    (events.reverse.find? about).map Event.success = some success ↔
      ∃ event, IsLast events about event ∧ event.success = success := by
  rw [Option.map_eq_some_iff]
  refine exists_congr fun event => and_congr_left fun _ => ?_
  rw [List.find?_eq_some_iff_append]
  constructor
  · rintro ⟨hevent, back, front, hevents, hback⟩
    refine ⟨front.reverse, back.reverse, ?_, hevent, fun later member => ?_⟩
    · rw [← events.reverse_reverse, hevents]
      simp
    · simpa using hback later (List.mem_reverse.mp member)
  · rintro ⟨front, back, rfl, hevent, hback⟩
    refine ⟨hevent, back.reverse, front.reverse, by simp, fun later member => ?_⟩
    simpa using hback later (List.mem_reverse.mp member)

end Event

namespace Trace

/-- What a trace holds, told from the events that were noted. -/
structure Recounts (trace : Trace) (events : List Event) : Prop where
  matched_none : ∀ id, trace.matched id = none ↔ ∀ event ∈ events, event.id ≠ id
  matched_some : ∀ id success, trace.matched id = some success ↔
    ∃ event, Event.IsLast events (·.id == id) event ∧ event.success = success
  outcome_none : ∀ id node, trace.outcome id node = none ↔
    ∀ event ∈ events, event.concerns id node = false
  outcome_some : ∀ id node success, trace.outcome id node = some success ↔
    ∃ event, Event.IsLast events (·.concerns id node) event ∧ event.success = success
  examinedBy : ∀ node,
    trace.examinedBy node = ((events.filter (·.isOn node)).map Event.id).eraseDups
  nodup_examinedBy : ∀ node, (trace.examinedBy node).Nodup
  mem_examinedBy : ∀ id node, id ∈ trace.examinedBy node ↔ trace.outcome id node ≠ none
  mem_entries : ∀ id success, (id, success) ∈ trace.entries ↔ trace.matched id = some success
  pairwise_entries : trace.entries.Pairwise (·.1 < ·.1)
  size : trace.size = (events.map Event.id).eraseDups.length

variable (trace : Trace) (event : Event) (events : List Event) (id node : Nat)

theorem replay_concat : trace.replay (events ++ [event]) = (trace.replay events).record event := by
  rw [replay, List.foldl_append]
  rfl

theorem matched_replay :
    (empty.replay events).matched id =
      (events.reverse.find? (·.id == id)).map Event.success := by
  induction events using List.reverseRecOn with
  | nil => rfl
  | append_singleton events event induction =>
      rw [replay_concat, List.reverse_concat, List.find?_cons]
      by_cases hid : id = event.id
      · rw [hid, matched_record_self, BEq.rfl]
        rfl
      · rw [matched_record_of_ne _ _ hid, induction, beq_eq_false_iff_ne.mpr (Ne.symm hid)]

theorem examinedBy_replay :
    (empty.replay events).examinedBy node =
      ((events.filter (·.isOn node)).map Event.id).eraseDups := by
  induction events using List.reverseRecOn with
  | nil => rfl
  | append_singleton events event induction =>
      rw [replay_concat, examinedBy_record, induction, List.filter_append, List.map_append]
      cases hon : event.isOn node with
      | false => simp [hon]
      | true =>
          have hevent : [event].filter (·.isOn node) = [event] := by simp [hon]
          rw [hevent, List.map_cons, List.map_nil, eraseDups_concat]
          generalize (events.filter (·.isOn node)).map Event.id = ids
          by_cases member : event.id ∈ ids <;> simp [member]

/-- The pattern nodes that a trace knows, in the order in which they first were tested. -/
theorem keys_visits_replay :
    (empty.replay events).visits.map Prod.fst = (events.map Event.id).eraseDups := by
  induction events using List.reverseRecOn with
  | nil => rfl
  | append_singleton events event induction =>
      rw [replay_concat, visits_record, keys_putKey, induction, List.map_append, List.map_cons,
        List.map_nil, eraseDups_concat]
      simp

/-- Events whose subject is no node leave no mark on what is kept by tree node. -/
theorem outcome_replay_concat (hnode : event.subject.node? = none) :
    (trace.replay (events ++ [event])).outcome id node = (trace.replay events).outcome id node := by
  rw [replay_concat, outcome_record, Event.concerns, hnode, Option.any_none, Bool.and_false,
    if_neg Bool.false_ne_true]

theorem examinedBy_replay_concat (hnode : event.subject.node? = none) :
    (trace.replay (events ++ [event])).examinedBy node = (trace.replay events).examinedBy node := by
  rw [replay_concat, examinedBy_record, Event.isOn, hnode, Option.any_none, Bool.false_and,
    if_neg Bool.false_ne_true]

theorem nodup_keys_visits_replay : ((empty.replay events).visits.map Prod.fst).Nodup := by
  rw [keys_visits_replay]
  exact nodup_eraseDups _

theorem mem_entries_replay (success : Bool) :
    (id, success) ∈ (empty.replay events).entries ↔
      (empty.replay events).matched id = some success := by
  rw [entries, List.mem_mergeSort, matched,
    lookup_eq_some_iff_of_nodup (nodup_keys_visits_replay events)]

theorem pairwise_entries_replay :
    (empty.replay events).entries.Pairwise (·.1 < ·.1) := by
  have hordered := @List.pairwise_mergeSort _ (fun a b : Nat × Bool => decide (a.1 ≤ b.1))
    (fun a b c => by simpa using Nat.le_trans) (fun a b => by simpa using Nat.le_total a.1 b.1)
    (empty.replay events).visits
  have hperm := List.mergeSort_perm (empty.replay events).visits fun a b => decide (a.1 ≤ b.1)
  have hnodup : ((empty.replay events).entries.map Prod.fst).Nodup :=
    (hperm.map Prod.fst).nodup_iff.mpr (nodup_keys_visits_replay events)
  have hdistinct := List.pairwise_map.mp hnodup
  exact (hordered.and hdistinct).imp fun ⟨hle, hne⟩ =>
    Nat.lt_of_le_of_ne (of_decide_eq_true hle) hne

/-- After any series of events a fresh trace tells of the last ones, and an event about something
that is no node has changed nothing that is kept by tree node. -/
theorem recounts_replay :
    (empty.replay events).Recounts events ∧
      ∀ event : Event, event.subject.node? = none → ∀ id node,
        (empty.replay (events ++ [event])).outcome id node =
          (empty.replay events).outcome id node ∧
        (empty.replay (events ++ [event])).examinedBy node =
          (empty.replay events).examinedBy node := by
  have houtcome (id node : Nat) :
      (empty.replay events).outcome id node = Event.last? events id node := by
    rw [outcome_replay]
    exact Option.or_none
  refine ⟨{
    matched_none := fun id => ?_
    matched_some := fun id success => ?_
    outcome_none := fun id node => ?_
    outcome_some := fun id node success => ?_
    examinedBy := fun node => examinedBy_replay events node
    nodup_examinedBy := fun node => ?_
    mem_examinedBy := fun id node => ?_
    mem_entries := fun id success => mem_entries_replay events id success
    pairwise_entries := pairwise_entries_replay events
    size := ?_ }, fun event hnode id node => ?_⟩
  · rw [matched_replay, Event.map_find?_reverse_eq_none_iff]
    exact forall₂_congr fun _ _ => beq_eq_false_iff_ne
  · rw [matched_replay, Event.map_find?_reverse_eq_some_iff]
  · rw [houtcome, Event.last?, Event.map_find?_reverse_eq_none_iff]
  · rw [houtcome, Event.last?, Event.map_find?_reverse_eq_some_iff]
  · rw [examinedBy_replay]
    exact nodup_eraseDups _
  · rw [houtcome, Option.ne_none_iff_isSome, Event.last?_isSome, mem_examinedBy_replay]
    exact or_iff_left List.not_mem_nil
  · rw [size, ← List.length_map Prod.fst, keys_visits_replay]
  · exact ⟨outcome_replay_concat _ event events id node hnode,
      examinedBy_replay_concat _ event events node hnode⟩

theorem outcome_behind_atom :
    let name : Value := .node 5 "Name" none []
    (Value.str "foo").node? = none ∧
      (empty.replay ([⟨2, name, false⟩, ⟨2, name, true⟩] ++ [⟨2, .str "foo", false⟩])).outcome
        2 5 = some true :=
  ⟨rfl, ((recounts_replay _).2 ⟨2, .str "foo", false⟩ rfl 2 5).1.trans rfl⟩

end Trace

end TreeMatch

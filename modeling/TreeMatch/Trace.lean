import TreeMatch.Test.Run
import TreeMatch.Value.Printer

/-! Traces: what a run of an instrumented test leaves behind. -/

namespace TreeMatch

/-- Puts a value under a key. A key that is there keeps its place. -/
def putKey [BEq κ] (key : κ) (value : α) : List (κ × α) → List (κ × α)
  | [] => [(key, value)]
  | (k, v) :: rest => if k == key then (k, value) :: rest else (k, v) :: putKey key value rest

@[simp] theorem lookup_putKey_self [BEq κ] [LawfulBEq κ] (key : κ) (value : α)
    (entries : List (κ × α)) : (putKey key value entries).lookup key = some value := by
  induction entries with
  | nil => simp [putKey]
  | cons entry rest ih =>
    obtain ⟨k, v⟩ := entry
    by_cases hk : k = key
    · subst hk
      simp [putKey]
    · have hk' : (key == k) = false := by simpa using Ne.symm hk
      have hkey : (k == key) = false := by simpa using hk
      simp [putKey, List.lookup_cons, hkey, hk', ih]

theorem lookup_putKey_of_ne [BEq κ] [LawfulBEq κ] {key other : κ} (h : other ≠ key) (value : α)
    (entries : List (κ × α)) : (putKey key value entries).lookup other = entries.lookup other := by
  have hother : (other == key) = false := by simpa using h
  induction entries with
  | nil => simp [putKey, List.lookup_cons, hother]
  | cons entry rest ih =>
    obtain ⟨k, v⟩ := entry
    by_cases hk : k = key
    · subst hk
      simp [putKey, List.lookup_cons, hother]
    · have hkey : (k == key) = false := by simpa using hk
      simp [putKey, List.lookup_cons, hkey, ih]

theorem lookup_eq_some_iff_of_nodup [BEq κ] [LawfulBEq κ] {entries : List (κ × α)}
    (hnodup : (entries.map Prod.fst).Nodup) {key : κ} {value : α} :
    entries.lookup key = some value ↔ (key, value) ∈ entries := by
  constructor
  · intro hlookup
    obtain ⟨before, after, hentries, -⟩ := List.lookup_eq_some_iff.mp hlookup
    rw [hentries]
    exact List.mem_append_right before List.mem_cons_self
  · intro member
    obtain ⟨before, after, rfl⟩ := List.append_of_mem member
    refine List.lookup_eq_some_iff.mpr ⟨before, after, rfl, fun entry hentry => ?_⟩
    rw [List.map_append, List.map_cons, List.nodup_append] at hnodup
    rw [bne_iff_ne]
    exact (hnodup.2.2 entry.1 (List.mem_map_of_mem hentry) key List.mem_cons_self).symm

/-- The last outcome of every pattern node that was tested, by its number, and of every such node
together with every tree node that it was tested on; and for every tree node the pattern nodes
tested on it. -/
structure Trace where
  visits : List (Nat × Bool)
  outcomes : List ((Nat × Nat) × Bool)
  examined : List (Nat × List Nat)
  deriving Repr

namespace Trace

def empty : Trace :=
  ⟨[], [], []⟩

/-- The pattern nodes tested on a tree node, in the order in which they first were. -/
def examinedBy (trace : Trace) (node : Nat) : List Nat :=
  (trace.examined.lookup node).getD []

/-- Notes an event. Only events whose subject is a node concern more than the pattern node. -/
def record (trace : Trace) (event : Event) : Trace :=
  let visits := putKey event.id event.success trace.visits
  match event.subject.node? with
  | none => { trace with visits }
  | some node =>
    let seen := trace.examinedBy node.id
    { visits
      outcomes := putKey (event.id, node.id) event.success trace.outcomes
      examined :=
        putKey node.id (if seen.contains event.id then seen else seen ++ [event.id])
          trace.examined }

theorem visits_record (trace : Trace) (event : Event) :
    (trace.record event).visits = putKey event.id event.success trace.visits := by
  unfold record
  split <;> rfl

def replay (trace : Trace) (events : List Event) : Trace :=
  events.foldl record trace

def matched (trace : Trace) (id : Nat) : Option Bool :=
  trace.visits.lookup id

theorem matched_record_self (trace : Trace) (event : Event) :
    (trace.record event).matched event.id = some event.success := by
  rw [matched, visits_record, lookup_putKey_self]

theorem matched_record_of_ne {id : Nat} (trace : Trace) (event : Event) (h : id ≠ event.id) :
    (trace.record event).matched id = trace.matched id := by
  rw [matched, visits_record, lookup_putKey_of_ne h, matched]

/-- Whether the last test of a pattern node on a tree node succeeded, if there was one. -/
def outcome (trace : Trace) (id node : Nat) : Option Bool :=
  trace.outcomes.lookup (id, node)

def entries (trace : Trace) : List (Nat × Bool) :=
  trace.visits.mergeSort fun a b => a.1 ≤ b.1

def size (trace : Trace) : Nat :=
  trace.visits.length

def exact (trace : Trace) : String :=
  let entries := trace.visits.map fun (id, success) =>
    toString id ++ ": " ++ (Value.bool success).exact
  "Trace(\x7b" ++ ", ".intercalate entries ++ "\x7d)"

end Trace

end TreeMatch

import TreeMatch.Proofs.Blueprint

/-! What a session gains when a pattern is compiled. -/

namespace TreeMatch

structure Gain where
  names : List String
  position : Nat
  slots : Nat
  loops : Nat
  nodes : List Term
  sites : List (Nat × Place)

namespace Gain

def none : Gain :=
  ⟨[], 0, 0, 0, [], []⟩

def andThen (first second : Gain) : Gain where
  names := first.names ++ second.names
  position := max first.position second.position
  slots := first.slots + second.slots
  loops := first.loops + second.loops
  nodes := first.nodes ++ second.nodes
  sites := first.sites ++ second.sites

def ofNode (key : Nat) (node : Term) (place : Place) : Gain :=
  { none with nodes := [node], sites := [(key, place)] }

def ofSlot : Gain :=
  { none with slots := 1 }

def ofLoop : Gain :=
  { none with loops := 1 }

def Covers (gain : Gain) (key count : Nat) : Prop :=
  gain.nodes.map Term.key? = (List.range' key count).map some ∧
    gain.sites.map Prod.fst = List.range' key count

theorem covers_ofSlot (key : Nat) : ofSlot.Covers key 0 :=
  ⟨rfl, rfl⟩

theorem covers_ofLoop (key : Nat) : ofLoop.Covers key 0 :=
  ⟨rfl, rfl⟩

theorem covers_ofNode {node : Term} {key : Nat} (hkey : node.key? = some key) (place : Place) :
    (ofNode key node place).Covers key 1 := by
  simp [Covers, ofNode, hkey]

end Gain

namespace Session

def noteName (names : List String) (name : String) : List String :=
  if names.contains name then names else names ++ [name]

def sitePaths (sites : List (Nat × Place)) : List (Nat × List Step) :=
  sites.filterMap fun site => site.2.path?.map (site.1, ·)

def gain (session : Session) (gained : Gain) : Session :=
  { session with
    named := gained.names.foldl noteName session.named
    positional := max session.positional gained.position
    captures := session.captures + gained.slots
    fresh := session.fresh + gained.loops
    ids := if session.recording then ⟨session.ids.nodes ++ gained.nodes⟩ else session.ids
    positions :=
      if session.recording then (sitePaths gained.sites).reverse ++ session.positions
      else session.positions }

section Gain

variable (session : Session) (first second gained : Gain)

@[simp] theorem gain_none : session.gain .none = session := by
  cases session
  simp [gain, Gain.none, sitePaths]

theorem gain_gain : (session.gain first).gain second = session.gain (first.andThen second) := by
  cases hrecording : session.recording with
  | false =>
      simp [gain, Gain.andThen, hrecording, Nat.max_assoc, Nat.add_assoc]
  | true =>
      simp [gain, Gain.andThen, hrecording, Nat.max_assoc, Nat.add_assoc, sitePaths]

@[simp] theorem recording_gain : (session.gain gained).recording = session.recording := rfl

@[simp] theorem text_gain : (session.gain gained).text = session.text := rfl

@[simp] theorem captures_gain :
    (session.gain gained).captures = session.captures + gained.slots := rfl

end Gain

def tally (session : Session) (key : Nat) : Tally :=
  ⟨session.captures, session.fresh, key⟩

@[simp] theorem key_tally (session : Session) (key : Nat) : (session.tally key).key = key := rfl

def Numbered (session : Session) (key : Nat) : Prop :=
  session.recording = true →
    session.ids.nodes.length = key ∧
      (∀ node ∈ session.ids.nodes, ∃ known < key, node.key? = some known) ∧
      ∀ entry ∈ session.positions, entry.1 < key

theorem numbered_start (text : String) (recording : Bool) :
    (start text recording).Numbered 0 := by
  intro _
  refine ⟨rfl, ?_, ?_⟩
  · intro node member
    cases member
  · intro entry member
    cases member

/-- A session that gains the nodes with the next keys is ready for the keys behind them. -/
theorem Numbered.gain {session : Session} {key count : Nat} {gained : Gain}
    (ready : session.Numbered key) (hcovers : gained.Covers key count) :
    (session.gain gained).Numbered (key + count) := by
  intro hrecording
  obtain ⟨hlength, hnodes, hpositions⟩ := ready hrecording
  obtain ⟨hkeys, hsites⟩ := hcovers
  have hrecords : session.recording = true := hrecording
  have hcount : gained.nodes.length = count := by
    simpa using congrArg List.length hkeys
  simp only [Session.gain, hrecords, if_true]
  refine ⟨?_, ?_, ?_⟩
  · rw [List.length_append, hlength, hcount]
  · intro node member
    rcases List.mem_append.mp member with hold | hnew
    · obtain ⟨known, hless, hknown⟩ := hnodes node hold
      exact ⟨known, by omega, hknown⟩
    · have hmem := List.mem_map_of_mem (f := Term.key?) hnew
      rw [hkeys, List.mem_map] at hmem
      obtain ⟨known, hrange, hknown⟩ := hmem
      have hless := (List.mem_range'_1.mp hrange).2
      exact ⟨known, hless, hknown.symm⟩
  · intro entry member
    rcases List.mem_append.mp member with hnew | hold
    · rw [List.mem_reverse, sitePaths, List.mem_filterMap] at hnew
      obtain ⟨site, hsite, hpath⟩ := hnew
      obtain ⟨path, -, rfl⟩ := Option.map_eq_some_iff.mp hpath
      have hmem := List.mem_map_of_mem (f := Prod.fst) hsite
      rw [hsites] at hmem
      exact (List.mem_range'_1.mp hmem).2
    · have hless := hpositions entry hold
      omega

/-- After a node has been entered and enrolled the session is ready for its parts. -/
theorem Numbered.enrolled {session : Session} {key : Nat} (ready : session.Numbered key)
    {node : Term} (hkey : node.key? = some key) (place : Place) :
    ((session.enter node).gain (.ofNode key node place)).Numbered (key + 1) :=
  have hentered : (session.enter node).Numbered key := ready
  hentered.gain (Gain.covers_ofNode hkey place)

end Session

namespace Pattern

def gain (place : Place) (tally : Tally) (pattern : Pattern Leaf) : Gain where
  names := pattern.names
  position := pattern.lastPosition
  slots := pattern.slots
  loops := pattern.loops
  nodes := (pattern.termFrom tally.key).walk
  sites := pattern.sites place tally

/-- What the compilation of several patterns adds, given what is particular to the way in which
they stand together. -/
def gainAll (slots key : Nat) (sites : List (Nat × Place)) (patterns : List (Pattern Leaf)) :
    Gain where
  names := namesAll patterns
  position := lastPositionAll patterns
  slots := slots
  loops := loopsAll patterns
  nodes := Term.walkAll (termsFrom key patterns)
  sites := sites

theorem covers_gain (pattern : Pattern Leaf) (place : Place) (tally : Tally) :
    (pattern.gain place tally).Covers tally.key pattern.size := by
  refine ⟨?_, keys_sites pattern place tally⟩
  have hparts : ∀ (parts : List (Pattern Leaf)) (next : Nat),
      (partTerms next parts).map Term.key? = (List.range' next parts.length).map some := by
    intro parts
    induction parts with
    | nil => intro next; rfl
    | cons part rest induction =>
        intro next
        rw [partTerms, List.map_cons, key?_termFrom, induction, List.length_cons, List.range'_succ,
          List.map_cons]
  rw [gain, walk_termFrom, hparts, size]

section Gains

variable (loc : Range) (mark : Mark) (bracket : Bracket) (quantity : Quantity)
  (inner first : Pattern Leaf) (others rest : List (Pattern Leaf)) (value : Leaf)
  (place : Place) (tally : Tally)

theorem gainAll_nil (key : Nat) : gainAll 0 key [] [] = .none := rfl

theorem gainAll_cons (slots : Nat) (sites : List (Nat × Place)) :
    gainAll (first.slots + slots) tally.key (first.sites place tally ++ sites) (first :: rest) =
      (first.gain place tally).andThen (gainAll slots (tally.key + first.size) sites rest) := by
  simp [gainAll, gain, Gain.andThen, termsFrom, Term.walkAll]

theorem gain_leaf :
    (leaf loc value).gain place tally =
      (Gain.ofNode tally.key ((leaf loc value).termFrom tally.key) place).andThen
        { Gain.none with
          names := (leaf loc value).names
          position := (leaf loc value).lastPosition } := by
  simp [gain, Gain.andThen, Gain.ofNode, Gain.none, termFrom_leaf, Term.walk, walkAll_atoms, sites,
    slots]

theorem gain_capture :
    (marked loc .capture inner).gain place tally =
      (Gain.ofNode tally.key ((marked loc .capture inner).termFrom tally.key) place).andThen
        (Gain.ofSlot.andThen (inner.gain place tally.captured)) := by
  simp [gain, Gain.andThen, Gain.ofNode, Gain.ofSlot, Gain.none, slots, sites, termFrom_marked,
    Term.walk, Term.walkAll, Tally.captured, Nat.add_comm]

theorem gain_negation :
    (marked loc .negation inner).gain place tally =
      (Gain.ofNode tally.key ((marked loc .negation inner).termFrom tally.key) place).andThen
        (inner.gain place tally.inner) := by
  simp [gain, Gain.andThen, Gain.ofNode, Gain.none, slots, sites, termFrom_marked, Term.walk,
    Term.walkAll, Tally.inner]

theorem gain_ascend :
    (marked loc .ascend inner).gain place tally =
      (Gain.ofNode tally.key ((marked loc .ascend inner).termFrom tally.key) place).andThen
        (inner.gain place.parent tally.inner) := by
  simp [gain, Gain.andThen, Gain.ofNode, Gain.none, slots, sites, termFrom_marked, Term.walk,
    Term.walkAll, Tally.inner]

theorem gain_repeated :
    (repeated loc inner quantity).gain place tally =
      (Gain.ofNode tally.key ((repeated loc inner quantity).termFrom tally.key) place).andThen
        (Gain.ofLoop.andThen (inner.gain (.element tally.elementName) tally.repeated)) := by
  simp [gain, Gain.andThen, Gain.ofNode, Gain.ofLoop, Gain.none, slots, sites, termFrom_repeated,
    Term.walk, Term.walkAll, Tally.repeated, Nat.add_comm]

/-- The gain of what stands in brackets, which differ in their slots and sites. -/
theorem gain_grouped (slots : Nat) {sites : List (Nat × Place)}
    (hslots : (grouped loc bracket first others).slots = first.slots + slots)
    (hsites : (grouped loc bracket first others).sites place tally =
      (tally.key, place) :: (first.sites place tally.inner ++ sites)) :
    (grouped loc bracket first others).gain place tally =
      (Gain.ofNode tally.key ((grouped loc bracket first others).termFrom tally.key) place).andThen
        (gainAll (first.slots + slots) tally.inner.key (first.sites place tally.inner ++ sites)
          (first :: others)) := by
  simp [gain, gainAll, Gain.andThen, Gain.ofNode, Gain.none, hslots, hsites,
    termFrom_grouped, Term.walk, termsFrom, Term.walkAll, Tally.inner]

end Gains

end Pattern

end TreeMatch

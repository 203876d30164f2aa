import TreeMatch.Proofs.Parts

/-! The test that a pattern is compiled into, and the first reason for which it is not, said
without a session. -/

namespace TreeMatch

/-- Where a pattern stands with regard to the sequences around it. -/
inductive Standing
  | outside
  | within
  /-- It is, captures aside, a term of a sequence behind the head. -/
  | term
  deriving DecidableEq, Repr

namespace Standing

def isEnclosed : Standing → Bool
  | outside => false
  | _ => true

/-- The standing of what a mark other than a capture, a union or an intersection holds. -/
def inner : Standing → Standing
  | outside => outside
  | _ => within

def handlers (standing : Standing) : Handlers :=
  if standing.isEnclosed then .sequence else .node

@[simp] theorem handlers_inner (standing : Standing) :
    standing.inner.handlers = standing.handlers := by
  cases standing <;> rfl

theorem inner_ne_term (standing : Standing) : standing.inner ≠ .term := by
  cases standing <;> decide

def under (standing : Standing) : Mark → Standing
  | .capture => standing
  | _ => standing.inner

end Standing

abbrev Rejection := CompileCause × Range

namespace Leaf

def predicateTest? (place : Place) (name : String) : Option Test :=
  match Compile.predicateKinds.lookup name, Compile.typeOfPredicate? name with
  | some kind, _ => some (.isKind place kind)
  | none, some type => some (Compile.typeTest place (.atom (.str type)))
  | none, none => none

def isReservedName (name : String) : Bool :=
  Script.isShadowing name || name.startsWith "_" || Script.isKeyword name

def test (place : Place) : Leaf → Test
  | rest => .always
  | wildcard _ => .always
  | nil => .isKind place .absent
  | symbol name => .equalsSymbol place (.atom (.str name))
  | int value => .equals place (.atom (.int value))
  | float value => .equals place (.atom (.float value))
  | string value => .equals place (.atom (.str value))
  | position index => .accepts place (Session.positionName index)
  | named name => .accepts place name
  | predicate name => (predicateTest? place name).getD .never
  | nodeType name => Compile.typeTest place (.atom (.str name))

def cause? (standing : Standing) : Leaf → Option CompileCause
  | rest =>
    match standing with
    | .outside => some (.unsupported "rest")
    | .within => some (.variadicOutsideSequence "...")
    | .term => none
  | position 0 => some .positionBelowOne
  | named name => if isReservedName name then some (.reservedName name) else none
  | predicate name =>
    if (predicateTest? .root name).isNone then some (.unknownPredicate name) else none
  | _ => none

end Leaf

namespace Pattern

def crowding? (terms : List (Pattern Leaf)) : Option Rejection :=
  match terms.filter isVariadic with
  | _ :: second :: _ => some (.multipleVariadic, second.loc)
  | _ => none

/-! The first reason to reject a pattern, in the order in which its parts are compiled. -/

mutual

def rejection? (standing : Standing) : Pattern Leaf → Option Rejection
  | leaf loc value => (value.cause? standing).map (·, loc)
  | marked _ mark inner => rejection? (standing.under mark) inner
  | repeated loc inner quantity =>
    match standing with
    | .outside => some (.unsupported "repetition", loc)
    | .within =>
      some (.variadicOutsideSequence (String.singleton quantity.char ++ " repetition"), loc)
    | .term =>
      if inner.walk.any isCapture then some (.captureInRepetition, loc)
      else rejection? .within inner
  | grouped loc .union first others =>
    ((rejection? standing.inner first).or (rejectionAmong? standing.inner others)).or
      (if others.all fun other => other.slots == first.slots then none
      else some (.unbalancedCaptures ((first :: others).map slots), loc))
  | grouped _ .intersection first others =>
    (rejection? standing.inner first).or (rejectionAmong? standing.inner others)
  | grouped _ .sequence first others =>
    (crowding? others).or ((rejection? .within first).or (rejectionAmong? .term others))
termination_by structural pattern => pattern

def rejectionAmong? (standing : Standing) : List (Pattern Leaf) → Option Rejection
  | [] => none
  | pattern :: rest => (rejection? standing pattern).or (rejectionAmong? standing rest)
termination_by structural patterns => patterns

end

end Pattern

structure Tally where
  slot : Nat
  loop : Nat
  key : Nat
  deriving DecidableEq, Repr

namespace Tally

def inner (tally : Tally) : Tally :=
  { tally with key := tally.key + 1 }

def captured (tally : Tally) : Tally :=
  { tally with slot := tally.slot + 1, key := tally.key + 1 }

/-- Behind the key of a repetition and the name of its elements. -/
def repeated (tally : Tally) : Tally :=
  { tally with loop := tally.loop + 1, key := tally.key + 1 }

def after (tally : Tally) (pattern : Pattern α) : Tally :=
  ⟨tally.slot + pattern.slots, tally.loop + pattern.loops, tally.key + pattern.size⟩

/-- Behind a branch of a union, which leaves its slots to the next branch. -/
def beside (tally : Tally) (pattern : Pattern α) : Tally :=
  { tally.after pattern with slot := tally.slot }

def elementName (tally : Tally) : String :=
  "_e" ++ toString (tally.loop + 1)

end Tally

namespace Pattern

/-- How many children a node needs for the terms behind the head. -/
def countOf (terms : List (Pattern Leaf)) : Count :=
  match terms.find? isVariadic with
  | none => .exactly terms.length
  | some variadic => Compile.countFor (terms.length - 1) variadic.arity

def placesOf (place : Place) (terms : List (Pattern Leaf)) : List Place :=
  Compile.termPlaces place terms.length (terms.findIdx? isVariadic)

/-- A test, with marks around it if the matcher records. -/
def framed (recording : Bool) (key : Nat) (place : Place) (test : Test) : Test :=
  if recording then Compile.traced key place test else test

mutual

def test (recording : Bool) (place : Place) (tally : Tally) : Pattern Leaf → Test
  | leaf _ value => framed recording tally.key place (value.test place)
  | marked _ .capture inner =>
    framed recording tally.key place
      (.allOf [test recording place tally.captured inner, .capture tally.slot place])
  | marked _ .negation inner =>
    framed recording tally.key place (.not (test recording place tally.inner inner))
  | marked _ .ascend inner =>
    framed recording tally.key place
      (.allOf [.isNode place, test recording place.parent tally.inner inner])
  | repeated _ inner _ =>
    framed recording tally.key place
      (.every tally.elementName place
        (test recording (.element tally.elementName) tally.repeated inner))
  | grouped _ .union first others =>
    framed recording tally.key place
      (.anyOf (test recording place tally.inner first ::
        branchTests recording place (tally.inner.beside first) others))
  | grouped _ .intersection first others =>
    framed recording tally.key place
      (.allOf (test recording place tally.inner first ::
        memberTests recording place (tally.inner.after first) others))
  | grouped _ .sequence first others =>
    framed recording tally.key place
      (.allOf (.isNode place :: test recording place tally.inner first ::
        .hasCount place (countOf others) ::
        termTests recording (placesOf place others) (tally.inner.after first) others))
termination_by structural pattern => pattern

def branchTests (recording : Bool) (place : Place) (tally : Tally) :
    List (Pattern Leaf) → List Test
  | [] => []
  | pattern :: rest =>
    test recording place tally pattern :: branchTests recording place (tally.beside pattern) rest
termination_by structural patterns => patterns

def memberTests (recording : Bool) (place : Place) (tally : Tally) :
    List (Pattern Leaf) → List Test
  | [] => []
  | pattern :: rest =>
    test recording place tally pattern :: memberTests recording place (tally.after pattern) rest
termination_by structural patterns => patterns

def termTests (recording : Bool) (places : List Place) (tally : Tally) :
    List (Pattern Leaf) → List Test
  | [] => []
  | pattern :: rest =>
    test recording (places.headD .root) tally pattern ::
      termTests recording places.tail (tally.after pattern) rest
termination_by structural patterns => patterns

end

theorem test_leaf (recording : Bool) (place : Place) (tally : Tally) (loc : Range) (value : Leaf) :
    (leaf loc value).test recording place tally =
      framed recording tally.key place (value.test place) := by
  rw [test]

mutual

def sites (place : Place) (tally : Tally) : Pattern Leaf → List (Nat × Place)
  | leaf .. => [(tally.key, place)]
  | marked _ .capture inner => (tally.key, place) :: sites place tally.captured inner
  | marked _ .negation inner => (tally.key, place) :: sites place tally.inner inner
  | marked _ .ascend inner => (tally.key, place) :: sites place.parent tally.inner inner
  | repeated _ inner _ =>
    (tally.key, place) :: sites (.element tally.elementName) tally.repeated inner
  | grouped _ .sequence first others =>
    (tally.key, place) :: (sites place tally.inner first ++
      termSites (placesOf place others) (tally.inner.after first) others)
  | grouped _ _ first others =>
    (tally.key, place) :: (sites place tally.inner first ++
      memberSites place (tally.inner.after first) others)
termination_by structural pattern => pattern

def memberSites (place : Place) (tally : Tally) : List (Pattern Leaf) → List (Nat × Place)
  | [] => []
  | pattern :: rest =>
    sites place tally pattern ++ memberSites place (tally.after pattern) rest
termination_by structural patterns => patterns

def termSites (places : List Place) (tally : Tally) : List (Pattern Leaf) → List (Nat × Place)
  | [] => []
  | pattern :: rest =>
    sites (places.headD .root) tally pattern ++
      termSites places.tail (tally.after pattern) rest
termination_by structural patterns => patterns

end

/-! Every part has one site, in the order of `walk`. -/

theorem keys_memberSites {patterns : List (Pattern Leaf)}
    (each : ∀ pattern ∈ patterns, ∀ place tally,
      (sites place tally pattern).map Prod.fst = List.range' tally.key pattern.size)
    (place : Place) (tally : Tally) :
    (memberSites place tally patterns).map Prod.fst =
      List.range' tally.key (sizeAll patterns) := by
  induction patterns generalizing tally with
  | nil => rfl
  | cons pattern rest induction =>
      rw [memberSites, List.map_append, each pattern (by simp),
        induction (fun other member => each other (by simp [member])), sizeAll_cons]
      exact List.range'_append_1

theorem keys_termSites {patterns : List (Pattern Leaf)}
    (each : ∀ pattern ∈ patterns, ∀ place tally,
      (sites place tally pattern).map Prod.fst = List.range' tally.key pattern.size)
    (places : List Place) (tally : Tally) :
    (termSites places tally patterns).map Prod.fst =
      List.range' tally.key (sizeAll patterns) := by
  induction patterns generalizing places tally with
  | nil => rfl
  | cons pattern rest induction =>
      rw [termSites, List.map_append, each pattern (by simp),
        induction (fun other member => each other (by simp [member])), sizeAll_cons]
      exact List.range'_append_1

theorem keys_sites (pattern : Pattern Leaf) (place : Place) (tally : Tally) :
    (sites place tally pattern).map Prod.fst = List.range' tally.key pattern.size := by
  induction pattern using induct generalizing place tally with
  | leaf loc value => rfl
  | marked loc mark inner induction =>
      cases mark <;> simp [sites, induction, List.range'_succ, Tally.captured, Tally.inner]
  | repeated loc inner quantity induction =>
      simp [sites, induction, List.range'_succ, Tally.repeated]
  | grouped loc bracket first others firstHolds othersHold =>
      have hmembers := keys_memberSites othersHold place (tally.inner.after first)
      have hterms := keys_termSites othersHold (placesOf place others) (tally.inner.after first)
      have happend : List.range' tally.inner.key first.size ++
          List.range' (tally.inner.after first).key (sizeAll others) =
          List.range' tally.inner.key (first.size + sizeAll others) :=
        List.range'_append_1
      rw [size_grouped, List.range'_succ]
      cases bracket with
      | sequence =>
          rw [sites, List.map_cons, List.map_append, firstHolds, hterms, happend]
          rfl
      | union | intersection =>
          rw [sites, List.map_cons, List.map_append, firstHolds, hmembers, happend]
          · rfl
          · exact fun h => Bracket.noConfusion h

/-! The slots that are given out make no difference to the sites. -/

theorem memberSites_congr {patterns : List (Pattern Leaf)}
    (each : ∀ pattern ∈ patterns, ∀ place (tally other : Tally), tally.loop = other.loop →
      tally.key = other.key → sites place tally pattern = sites place other pattern)
    (place : Place) {tally other : Tally} (hloop : tally.loop = other.loop)
    (hkey : tally.key = other.key) :
    memberSites place tally patterns = memberSites place other patterns := by
  induction patterns generalizing tally other with
  | nil => rfl
  | cons pattern rest induction =>
      have hlater : memberSites place (tally.after pattern) rest =
          memberSites place (other.after pattern) rest := by
        apply induction fun later member => each later (by simp [member])
        · rw [Tally.after, Tally.after, hloop]
        · rw [Tally.after, Tally.after, hkey]
      rw [memberSites, memberSites, each pattern (by simp) place tally other hloop hkey, hlater]

theorem termSites_congr {patterns : List (Pattern Leaf)}
    (each : ∀ pattern ∈ patterns, ∀ place (tally other : Tally), tally.loop = other.loop →
      tally.key = other.key → sites place tally pattern = sites place other pattern)
    (places : List Place) {tally other : Tally} (hloop : tally.loop = other.loop)
    (hkey : tally.key = other.key) :
    termSites places tally patterns = termSites places other patterns := by
  induction patterns generalizing places tally other with
  | nil => rfl
  | cons pattern rest induction =>
      have hlater : termSites places.tail (tally.after pattern) rest =
          termSites places.tail (other.after pattern) rest := by
        apply induction fun later member => each later (by simp [member])
        · rw [Tally.after, Tally.after, hloop]
        · rw [Tally.after, Tally.after, hkey]
      rw [termSites, termSites, each pattern (by simp) _ tally other hloop hkey, hlater]

theorem sites_congr (pattern : Pattern Leaf) (place : Place) (tally other : Tally)
    (hloop : tally.loop = other.loop) (hkey : tally.key = other.key) :
    sites place tally pattern = sites place other pattern := by
  induction pattern using induct generalizing place tally other with
  | leaf loc value => rw [sites, sites, hkey]
  | marked loc mark inner induction =>
      have hinner : tally.key + 1 = other.key + 1 := congrArg (· + 1) hkey
      cases mark with
      | capture =>
          rw [sites, sites, hkey, induction place tally.captured other.captured hloop hinner]
      | negation => rw [sites, sites, hkey, induction place tally.inner other.inner hloop hinner]
      | ascend =>
          rw [sites, sites, hkey, induction place.parent tally.inner other.inner hloop hinner]
  | repeated loc inner quantity induction =>
      rw [sites, sites, hkey, Tally.elementName, Tally.elementName, hloop,
        induction _ tally.repeated other.repeated (congrArg (· + 1) hloop) (congrArg (· + 1) hkey)]
  | grouped loc bracket first others firstHolds othersHold =>
      have hinner : tally.inner.key = other.inner.key := congrArg (· + 1) hkey
      have hloops : (tally.inner.after first).loop = (other.inner.after first).loop :=
        congrArg (· + first.loops) hloop
      have hkeys : (tally.inner.after first).key = (other.inner.after first).key :=
        congrArg (· + first.size) hinner
      have hfirst := firstHolds place tally.inner other.inner hloop hinner
      have hmembers := memberSites_congr othersHold place hloops hkeys
      have hterms := termSites_congr othersHold (placesOf place others) hloops hkeys
      cases bracket <;> simp only [sites, hkey, hfirst, hmembers, hterms]

end Pattern

end TreeMatch

import TreeMatch.Matcher
import TreeMatch.Proofs.Layout
import TreeMatch.Proofs.Settling

/-! The term of a pattern compiles into the test of the pattern, or is rejected for the first
reason there is. -/

namespace TreeMatch

namespace Compile

/-- All tags but those of the variadic constructs find the same handler everywhere. -/
theorem resolve?_eq_node (standing : Standing) {tag : String} (hrest : tag ≠ "rest")
    (hrepetition : tag ≠ "repetition") :
    standing.handlers.resolve? tag = Handlers.node.resolve? tag := by
  cases standing with
  | outside => rfl
  | within | term =>
      change Handlers.sequence.resolve? tag = _
      rw [Handlers.sequence, Registry.resolve?_register_of_ne hrepetition,
        Registry.resolve?_register_of_ne hrest]

theorem resolve?_handlers (standing : Standing) (tag : String) {handler : Handler}
    (hnode : Handlers.node.resolve? tag = some handler) (hrest : tag ≠ "rest")
    (hrepetition : tag ≠ "repetition") :
    standing.handlers.resolve? tag = some handler :=
  (resolve?_eq_node standing hrest hrepetition).trans hnode

theorem settles_plain (value : α) (session : Session) :
    Settles (pure value) session none value (session.gain .none) := by
  rw [Session.gain_none]
  exact Settles.pure value session

theorem useName_eq_gain (session : Session) (name : String) :
    session.useName name = session.gain { Gain.none with names := [name] } := by
  cases session
  simp only [Session.useName, Session.gain, Gain.none, List.foldl, Session.noteName,
    Session.sitePaths]
  split <;> simp

theorem usePosition_eq_gain (session : Session) (index : Nat) :
    session.usePosition index = session.gain { Gain.none with position := max index 0 } := by
  cases session
  simp [Session.usePosition, Session.gain, Gain.none, Session.sitePaths]

theorem settles_noting {change : Session → Session} {gained : Gain} (value : α)
    (hchange : ∀ session, change session = session.gain gained) (session : Session) :
    Settles (do modify change; return value) session none value (session.gain gained) := by
  refine ⟨rfl, ?_⟩
  rw [← hchange]
  rfl

theorem settles_requireSlice (place : Place) {tag label : String} {key : Nat} {loc : Range}
    {children : List Term} {session last : Session} {value : α}
    {next : Compile α} {rejection : Option Rejection}
    (hlabel : ∀ session, variadicLabel (.node key tag (some loc) children) session =
      (.ok label, session))
    (hnext : Settles next session rejection value last) :
    Settles (do requireSlice (.node key tag (some loc) children) place; next) session
      (if place.isSlice then rejection else some (.variadicOutsideSequence label, loc)) value
      last := by
  cases hslice : place.isSlice with
  | true =>
      have hrun : requireSlice (.node key tag (some loc) children) place session =
          (.ok (), session) := by
        rw [requireSlice, hslice]
        rfl
      exact Settles.of_ok hrun rfl hnext
  | false =>
      have hrun : requireSlice (.node key tag (some loc) children) place session =
          (.error (.rejected (.variadicOutsideSequence label) (some loc)), session) := by
        rw [requireSlice, hslice]
        change (variadicLabel _ >>= _) session = _
        rw [run_bind, hlabel]
        rfl
      refine ⟨hnext.1, session, ?_, rfl⟩
      rw [run_bind, hrun]

theorem isNone_predicateTest? (place other : Place) (name : String) :
    (Leaf.predicateTest? place name).isNone = (Leaf.predicateTest? other name).isNone := by
  unfold Leaf.predicateTest?
  cases predicateKinds.lookup name with
  | some kind => rfl
  | none => cases typeOfPredicate? name <;> rfl

theorem predicate_eq {term : Term} {name : String}
    (hpayload : term.payload = .atom (.str name)) (place : Place) :
    predicate term place =
      match Leaf.predicateTest? place name with
      | some test => pure test
      | none => reject (.unknownPredicate name) term := by
  unfold predicate Leaf.predicateTest?
  rw [hpayload]
  dsimp only
  cases predicateKinds.lookup name with
  | some kind => rfl
  | none => cases typeOfPredicate? name <;> rfl

theorem settles_predicate (key : Nat) (loc : Range) (name : String) (place : Place)
    (session : Session) :
    Settles (predicate (.node key "predicate" (some loc) [.atom (.str name)]) place) session
      (if (Leaf.predicateTest? .root name).isNone then some (.unknownPredicate name, loc)
      else none)
      ((Leaf.predicateTest? place name).getD .never) (session.gain .none) := by
  rw [isNone_predicateTest? .root place, predicate_eq rfl]
  cases Leaf.predicateTest? place name with
  | some test => exact settles_plain test session
  | none => exact Settles.reject (.unknownPredicate name) _ loc rfl _ _ _ rfl

theorem settles_leaf (loc : Range) (value : Leaf) (standing : Standing) (place : Place)
    {session : Session} {key : Nat}
    (hplace : place.isSlice = (standing == .term && (Pattern.leaf loc value).isVariadic))
    (ready : session.Numbered key) :
    Settles (compile standing.handlers place ((Pattern.leaf loc value).termFrom key)) session
      ((Pattern.leaf loc value).rejection? standing)
      ((Pattern.leaf loc value).test session.recording place (session.tally key))
      (session.gain ((Pattern.leaf loc value).gain place (session.tally key))) := by
  rw [Pattern.gain_leaf, Pattern.termFrom_leaf]
  cases value with
  | rest =>
      cases standing with
      | outside =>
          have hres : Handlers.node.resolve? "rest" = some .unsupported := rfl
          change Settles (compile .node place (.node key "rest" (some loc) _)) _ _ _ _
          rw [compile, hres]
          exact settles_node rfl ready (Settles.reject (.unsupported "rest") _ loc rfl _ _ _ rfl)
      -- The handler of a rest asks for a slice, which only a term of a sequence stands at.
      | within | term =>
          have hres : Handlers.sequence.resolve? "rest" = some .rest := rfl
          change Settles (compile .sequence place (.node key "rest" (some loc) _)) _ _ _ _
          rw [compile, hres]
          apply settles_node rfl ready
          have hlabel : ∀ session, variadicLabel (.node key "rest" (some loc) []) session =
              (.ok "...", session) := fun _ => rfl
          have hsettles := fun session =>
            settles_requireSlice place hlabel (settles_plain Test.always session)
          rw [hplace] at hsettles
          exact hsettles _
  | wildcard name | nil | symbol name | int value | float value | string value | nodeType name =>
      dsimp only [Leaf.kind, TokenKind.name]
      rw [compile, resolve?_eq_node standing]
      · exact settles_node rfl ready (settles_plain _ _)
      · decide
      · decide
  | position index =>
      have hres := resolve?_handlers standing "param" rfl (by decide) (by decide)
      change Settles (compile standing.handlers place (.node key "param" (some loc) _)) _ _ _ _
      rw [compile, hres]
      apply settles_node rfl ready
      cases index with
      | zero => exact Settles.reject .positionBelowOne _ loc rfl _ _ _ rfl
      | succ index =>
          have hpositive : ¬ ((index + 1 : Nat) : Int) < 1 := by omega
          change Settles (positional _ place ((index + 1 : Nat) : Int) _) _ _ _ _
          rw [positional, if_neg hpositive]
          exact settles_noting _ (usePosition_eq_gain · (index + 1)) _
  | named name =>
      have hres := resolve?_handlers standing "param" rfl (by decide) (by decide)
      change Settles (compile standing.handlers place (.node key "param" (some loc) _)) _ _ _ _
      rw [compile, hres]
      apply settles_node rfl ready
      have hrejection : (Pattern.leaf loc (.named name)).rejection? standing =
          if Leaf.isReservedName name then some (.reservedName name, loc) else none := by
        simp only [Pattern.rejection?, Leaf.cause?]
        split <;> rfl
      change Settles (if Leaf.isReservedName name = true then _ else _) _ _ _ _
      rw [hrejection]
      split
      · exact Settles.reject (.reservedName name) _ loc rfl _ _ _ rfl
      · exact settles_noting _ (useName_eq_gain · name) _
  | predicate name =>
      have hres := resolve?_handlers standing "predicate" rfl (by decide) (by decide)
      change Settles (compile standing.handlers place (.node key "predicate" (some loc) _)) _ _ _ _
      rw [compile, hres]
      apply settles_node rfl ready
      have hrejection : (Pattern.leaf loc (.predicate name)).rejection? standing =
          if (Leaf.predicateTest? .root name).isNone then some (.unknownPredicate name, loc)
          else none := by
        simp only [Pattern.rejection?, Leaf.cause?]
        split <;> rfl
      rw [hrejection]
      exact settles_predicate key loc name place _

/-! The variadic terms of a sequence. -/

theorem isVariadic_termFrom (pattern : Pattern Leaf) (key : Nat) (session : Session) :
    isVariadic (pattern.termFrom key) session = (.ok pattern.isVariadic, session) := by
  induction pattern using Pattern.induct generalizing key with
  | leaf loc value =>
      cases value with
      | wildcard name =>
          rw [Pattern.termFrom_leaf, Leaf.atoms]
          split <;> rfl
      | _ => rfl
  | repeated loc inner quantity induction => rfl
  | grouped loc bracket first others firstHolds othersHold =>
      rw [Pattern.termFrom_grouped]
      cases bracket <;> rfl
  | marked loc mark inner induction =>
      cases mark with
      | capture => exact induction (key + 1)
      | negation | ascend => rfl

theorem arity_termFrom {pattern : Pattern Leaf} (hvariadic : pattern.isVariadic = true)
    (key : Nat) (session : Session) :
    arity (pattern.termFrom key) session = (.ok pattern.arity, session) := by
  induction pattern using Pattern.induct generalizing key with
  | leaf loc value =>
      cases value with
      | rest => rfl
      | _ => cases hvariadic
  | repeated loc inner quantity induction => cases quantity <;> rfl
  | grouped loc bracket first others firstHolds othersHold => cases hvariadic
  | marked loc mark inner induction =>
      cases mark with
      | capture => exact induction hvariadic (key + 1)
      | negation | ascend => cases hvariadic

def variadicPlaces (index : Nat) : List (Pattern Leaf) → List Nat
  | [] => []
  | pattern :: rest =>
    if pattern.isVariadic then index :: variadicPlaces (index + 1) rest
    else variadicPlaces (index + 1) rest

theorem variadicIndices_termsFrom (patterns : List (Pattern Leaf)) (index key : Nat)
    (session : Session) :
    variadicIndices index (Pattern.termsFrom key patterns) session =
      (.ok (variadicPlaces index patterns), session) := by
  induction patterns generalizing index key with
  | nil => rfl
  | cons pattern rest induction =>
      rw [Pattern.termsFrom, variadicIndices, run_bind, isVariadic_termFrom]
      dsimp only
      rw [run_bind, induction, variadicPlaces]
      cases pattern.isVariadic <;> rfl

theorem variadicPlaces_fixed {patterns : List (Pattern Leaf)}
    (hfixed : ∀ pattern ∈ patterns, pattern.isVariadic = false) (index : Nat) :
    variadicPlaces index patterns = [] := by
  induction patterns generalizing index with
  | nil => rfl
  | cons pattern rest induction =>
      rw [variadicPlaces, hfixed pattern (by simp), if_neg Bool.false_ne_true]
      exact induction (fun other member => hfixed other (by simp [member])) (index + 1)

/-- The place of the first variadic pattern comes before those of the patterns behind it. -/
theorem variadicPlaces_append {before : List (Pattern Leaf)}
    (hbefore : ∀ pattern ∈ before, pattern.isVariadic = false) {middle : Pattern Leaf}
    (hmiddle : middle.isVariadic = true) (behind : List (Pattern Leaf)) (index : Nat) :
    variadicPlaces index (before ++ middle :: behind) =
      (index + before.length) :: variadicPlaces (index + before.length + 1) behind := by
  induction before generalizing index with
  | nil => simp [variadicPlaces, hmiddle]
  | cons pattern rest induction =>
      rw [List.cons_append, variadicPlaces, hbefore pattern (by simp),
        if_neg Bool.false_ne_true, induction (fun other member => hbefore other (by simp [member])),
        List.length_cons, show index + 1 + rest.length = index + (rest.length + 1) by omega]

theorem getElem?_termsFrom (before : List (Pattern Leaf)) (pattern : Pattern Leaf)
    (behind : List (Pattern Leaf)) (key : Nat) :
    (Pattern.termsFrom key (before ++ pattern :: behind))[before.length]? =
      some (pattern.termFrom (key + Pattern.sizeAll before)) := by
  induction before generalizing key with
  | nil => rfl
  | cons other rest induction =>
      rw [List.cons_append, Pattern.termsFrom, List.length_cons, List.getElem?_cons_succ, induction,
        Pattern.sizeAll_cons, Nat.add_assoc]

theorem settles_variadicIndex (patterns : List (Pattern Leaf)) (key : Nat) (session : Session) :
    Settles (variadicIndex (Pattern.termsFrom key patterns)) session
      (Pattern.crowding? patterns) (patterns.findIdx? Pattern.isVariadic) session := by
  apply Settles.of_ok (variadicIndices_termsFrom patterns 0 key session) rfl
  rcases Pattern.layout_or_second patterns with layout | ⟨single, second, rest, hsecond⟩
  · rw [Pattern.crowding?_of_layout layout]
    cases layout with
    | fixed _ hfixed =>
        rw [variadicPlaces_fixed hfixed, Pattern.findIdx?_fixed hfixed]
        exact Settles.pure none session
    | split before middle after hbefore hmiddle hafter =>
        rw [variadicPlaces_append hbefore hmiddle, variadicPlaces_fixed hafter,
          Pattern.findIdx?_split after hbefore hmiddle, Nat.zero_add]
        exact Settles.pure (some before.length) session
  · obtain ⟨before, behind, rfl, hbefore, hsingle, hbehind⟩ := List.filter_eq_cons_iff.mp hsecond
    obtain ⟨between, after, rfl, hbetween, hvariadic, -⟩ := List.filter_eq_cons_iff.mp hbehind
    have hfront : ∀ pattern ∈ before, pattern.isVariadic = false := by
      intro pattern member
      simpa using hbefore pattern member
    have hmiddle : ∀ pattern ∈ between, pattern.isVariadic = false := by
      intro pattern member
      simpa using hbetween pattern member
    have hlength :
        0 + before.length + 1 + between.length = (before ++ single :: between).length := by
      rw [List.length_append, List.length_cons]
      omega
    have hterm := getElem?_termsFrom (before ++ single :: between) second after key
    rw [List.append_assoc, List.cons_append] at hterm
    rw [Pattern.crowding?_of_second hsecond, variadicPlaces_append hfront hsingle,
      variadicPlaces_append hmiddle hvariadic, hlength]
    refine Settles.reject .multipleVariadic _ second.loc ?_ _ _ _ rfl
    rw [hterm]
    exact Pattern.loc?_termFrom _ _

theorem sequenceCount_termsFrom {patterns : List (Pattern Leaf)}
    (layout : Pattern.Layout patterns) (key : Nat) (session : Session) :
    sequenceCount (Pattern.termsFrom key patterns) (patterns.findIdx? Pattern.isVariadic) session =
      (.ok (Pattern.countOf patterns), session) := by
  cases layout with
  | fixed _ hfixed =>
      rw [Pattern.findIdx?_fixed hfixed, Pattern.countOf_fixed hfixed, sequenceCount,
        Pattern.length_termsFrom]
      rfl
  | split before middle after hbefore hmiddle hafter =>
      have hlength : (before ++ middle :: after).length - 1 = before.length + after.length := by
        simp
      rw [Pattern.findIdx?_split after hbefore hmiddle, Pattern.countOf_split after hbefore hmiddle,
        sequenceCount, getElem?_termsFrom, Option.getD_some, run_bind, arity_termFrom hmiddle,
        Pattern.length_termsFrom, hlength]
      rfl

theorem hasTag_capture_termFrom (pattern : Pattern Leaf) (key : Nat) :
    hasTag "capture" (pattern.termFrom key) = pattern.isCapture := by
  cases pattern with
  | leaf loc value => cases value <;> rfl
  | marked loc mark inner => cases mark <;> rfl
  | repeated loc inner quantity => rfl
  | grouped loc bracket first others =>
      rw [Pattern.termFrom_grouped]
      cases bracket <;> rfl

theorem any_capture_termFrom (pattern : Pattern Leaf) (key : Nat) :
    (pattern.termFrom key).walk.any (hasTag "capture") = pattern.walk.any Pattern.isCapture := by
  have hparts : ∀ (parts : List (Pattern Leaf)) (next : Nat),
      (Pattern.partTerms next parts).any (hasTag "capture") = parts.any Pattern.isCapture := by
    intro parts
    induction parts with
    | nil => intro next; rfl
    | cons part rest induction =>
        intro next
        rw [Pattern.partTerms, List.any_cons, List.any_cons, hasTag_capture_termFrom, induction]
  rw [Pattern.walk_termFrom, hparts]

/-! The constructs, given that their parts are compiled as told. -/

/-- A pattern is compiled into its test, or rejected for its first fault, wherever it stands. -/
def Compiles (pattern : Pattern Leaf) : Prop :=
  ∀ (standing : Standing) (place : Place) (session : Session) (key : Nat),
    place.isSlice = (standing == .term && pattern.isVariadic) → session.Numbered key →
    Settles (compile standing.handlers place (pattern.termFrom key)) session
      (pattern.rejection? standing)
      (pattern.test session.recording place (session.tally key))
      (session.gain (pattern.gain place (session.tally key)))

section Constructs

variable {inner first : Pattern Leaf} {others : List (Pattern Leaf)} (loc : Range)

theorem compiles_capture (hinner : Compiles inner) : Compiles (.marked loc .capture inner) := by
  intro standing place session key hplace ready
  have hres := resolve?_handlers standing "capture" rfl (by decide) (by decide)
  rw [Pattern.gain_capture, Pattern.termFrom_marked, Mark.tag, compile, hres]
  refine settles_node rfl ready (Settles.of_ok (nextCapture_run _) rfl ?_)
  have henrolled := ready.enrolled ((Pattern.marked loc .capture inner).key?_termFrom key) place
  have hready := henrolled.gain (Gain.covers_ofSlot _)
  rw [← Session.gain_gain]
  exact (hinner standing place _ (key + 1) hplace hready).bind_pure

theorem compiles_negation (hinner : Compiles inner) : Compiles (.marked loc .negation inner) := by
  intro standing place session key hplace ready
  have hres := resolve?_handlers standing "negation" rfl (by decide) (by decide)
  have hsingle : place.isSlice = (standing.inner == .term && inner.isVariadic) := by
    rw [hplace, beq_false_of_ne standing.inner_ne_term]
    exact Bool.and_false _
  have hready := ready.enrolled ((Pattern.marked loc .negation inner).key?_termFrom key) place
  have hsettles := hinner standing.inner place _ (key + 1) hsingle hready
  rw [Standing.handlers_inner] at hsettles
  rw [Pattern.gain_negation, Pattern.termFrom_marked, Mark.tag, compile, hres]
  exact settles_node rfl ready hsettles.bind_pure

theorem compiles_ascend (hinner : Compiles inner) : Compiles (.marked loc .ascend inner) := by
  intro standing place session key hplace ready
  have hres := resolve?_handlers standing "ascend" rfl (by decide) (by decide)
  have hsingle : place.parent.isSlice = (standing.inner == .term && inner.isVariadic) := by
    rw [beq_false_of_ne standing.inner_ne_term]
    rfl
  have hready := ready.enrolled ((Pattern.marked loc .ascend inner).key?_termFrom key) place
  have hsettles := hinner standing.inner place.parent _ (key + 1) hsingle hready
  rw [Standing.handlers_inner] at hsettles
  rw [Pattern.gain_ascend, Pattern.termFrom_marked, Mark.tag, compile, hres]
  exact settles_node rfl ready hsettles.bind_pure

/-- The content of a repetition: no captures, a name for the elements, and the test of each. -/
theorem settles_elements (quantity : Quantity) (hinner : Compiles inner) (place : Place)
    {session : Session} {key : Nat} (ready : session.Numbered (key + 1)) :
    Settles
      (if (inner.termFrom (key + 1)).walk.any (hasTag "capture") then
        reject .captureInRepetition ((Pattern.repeated loc inner quantity).termFrom key)
      else do
        let name ← freshName "e"
        let body ← compile .sequence (.element name) (inner.termFrom (key + 1))
        return Test.every name place body)
      session
      (if inner.walk.any Pattern.isCapture then some (.captureInRepetition, loc)
      else inner.rejection? .within)
      (Test.every (session.tally key).elementName place
        (inner.test session.recording (.element (session.tally key).elementName)
          (session.tally key).repeated))
      (session.gain (Gain.ofLoop.andThen
        (inner.gain (.element (session.tally key).elementName) (session.tally key).repeated))) := by
  rw [any_capture_termFrom]
  split
  · exact Settles.reject .captureInRepetition _ loc (Pattern.loc?_termFrom _ _) _ _ _ rfl
  · have hready := ready.gain (Gain.covers_ofLoop (key + 1))
    rw [← Session.gain_gain]
    apply Settles.of_ok (freshName_run "e" session) rfl
    exact (hinner .within (.element (session.tally key).elementName) _ (key + 1) rfl
      hready).bind_pure

theorem compiles_repeated (quantity : Quantity) (hinner : Compiles inner) :
    Compiles (.repeated loc inner quantity) := by
  intro standing place session key hplace ready
  rw [Pattern.gain_repeated]
  cases standing with
  | outside =>
      have hres : Handlers.node.resolve? "repetition" = some .unsupported := rfl
      change Settles (compile .node place _) _ _ _ _
      rw [Pattern.termFrom_repeated, compile, hres]
      exact settles_node rfl ready (Settles.reject (.unsupported "repetition") _ loc rfl _ _ _ rfl)
  | within | term =>
      have hres : Handlers.sequence.resolve? "repetition" = some .repetition := rfl
      have hready := ready.enrolled ((Pattern.repeated loc inner quantity).key?_termFrom key) place
      have helements := settles_elements loc quantity hinner place hready
      have hlabel : ∀ session, variadicLabel ((Pattern.repeated loc inner quantity).termFrom key)
          session = (.ok (String.singleton quantity.char ++ " repetition"), session) :=
        fun _ => rfl
      have hsettles := settles_requireSlice place hlabel helements
      rw [hplace] at hsettles
      change Settles (compile .sequence place _) _ _ _ _
      rw [Pattern.termFrom_repeated, compile, hres]
      exact settles_node rfl ready hsettles

end Constructs

/-! Lists of patterns. -/

theorem compileEach_cons (handlers : Handlers) (place : Place) (pattern : Pattern Leaf)
    (key : Nat) (rest : List Term) :
    compileEach handlers place (pattern.termFrom key :: rest) = do
      let test ← compile handlers place (pattern.termFrom key)
      let tests ← compileEach handlers place rest
      return test :: tests := by
  cases pattern <;> rfl

theorem compileChild_cons (handlers : Handlers) (place : Place) (pattern : Pattern Leaf)
    (key : Nat) (rest : List Term) :
    compileChild handlers place (pattern.termFrom key :: rest) =
      compile handlers place (pattern.termFrom key) := by
  cases pattern <;> rfl

theorem compileAfterHead_cons (places : List Place) (pattern : Pattern Leaf) (key : Nat)
    (rest : List Term) :
    compileAfterHead places (pattern.termFrom key :: rest) = compileTerms places rest := by
  cases pattern <;> rfl

theorem compileTerms_cons (places : List Place) (pattern : Pattern Leaf) (key : Nat)
    (rest : List Term) :
    compileTerms places (pattern.termFrom key :: rest) = do
      let test ← compile .sequence (places.headD .root) (pattern.termFrom key)
      let tests ← compileTerms places.tail rest
      return test :: tests := by
  cases pattern <;> rfl

theorem compileBranches_cons (handlers : Handlers) (place : Place) (base : Nat)
    (pattern : Pattern Leaf) (key : Nat) (rest : List Term) :
    compileBranches handlers place base (pattern.termFrom key :: rest) = do
      modify fun session => { session with captures := base }
      let test ← compile handlers place (pattern.termFrom key)
      let count := (← get).captures - base
      let branches ← compileBranches handlers place base rest
      return (test, count) :: branches := by
  cases pattern <;> rfl

section Lists

variable {patterns : List (Pattern Leaf)} (each : ∀ pattern ∈ patterns, Compiles pattern)
include each

theorem settles_each {standing : Standing} (hstanding : standing ≠ .term) {place : Place}
    (hplace : place.isSlice = false) {session : Session} {key : Nat}
    (ready : session.Numbered key) :
    Settles (compileEach standing.handlers place (Pattern.termsFrom key patterns)) session
      (Pattern.rejectionAmong? standing patterns)
      (Pattern.memberTests session.recording place (session.tally key) patterns)
      (session.gain (Pattern.gainAll (Pattern.slotsAll patterns) key
        (Pattern.memberSites place (session.tally key) patterns) patterns)) := by
  induction patterns generalizing session key with
  | nil => exact settles_plain _ _
  | cons pattern rest induction =>
      have hsingle : place.isSlice = (standing == .term && pattern.isVariadic) := by
        rw [hplace, beq_false_of_ne hstanding]
        rfl
      have hgain := Pattern.gainAll_cons pattern rest place (session.tally key)
        (Pattern.slotsAll rest)
        (Pattern.memberSites place ((session.tally key).after pattern) rest)
      change Pattern.gainAll _ key _ _ = _ at hgain
      have hlater := induction (fun other member => each other (by simp [member]))
        (ready.gain (pattern.covers_gain place (session.tally key)))
      rw [Pattern.termsFrom, compileEach_cons, Pattern.rejectionAmong?, Pattern.memberTests,
        Pattern.memberSites, Pattern.slotsAll, hgain, ← Session.gain_gain]
      exact (each pattern (by simp) standing place session key hsingle ready).bind hlater.bind_pure

theorem settles_terms {places : List Place}
    (fits : List.Forall₂ Pattern.Fits places patterns) {session : Session} {key : Nat}
    (ready : session.Numbered key) :
    Settles (compileTerms places (Pattern.termsFrom key patterns)) session
      (Pattern.rejectionAmong? .term patterns)
      (Pattern.termTests session.recording places (session.tally key) patterns)
      (session.gain (Pattern.gainAll (Pattern.slotsAll patterns) key
        (Pattern.termSites places (session.tally key) patterns) patterns)) := by
  induction fits generalizing session key with
  | nil => exact settles_plain _ _
  | @cons place pattern places rest hfits _ induction =>
      have hgain := Pattern.gainAll_cons pattern rest place (session.tally key)
        (Pattern.slotsAll rest)
        (Pattern.termSites places ((session.tally key).after pattern) rest)
      change Pattern.gainAll _ key _ _ = _ at hgain
      have hlater := induction (fun other member => each other (by simp [member]))
        (ready.gain (pattern.covers_gain place (session.tally key)))
      rw [Pattern.termsFrom, compileTerms_cons, Pattern.rejectionAmong?, Pattern.termTests,
        Pattern.termSites, Pattern.slotsAll, List.headD_cons, List.tail_cons, hgain,
        ← Session.gain_gain]
      exact (each pattern (by simp) .term place session key hfits ready).bind hlater.bind_pure

/-- The session after the branches of a union, each of which starts with the slot `base`. -/
def afterBranches (base : Nat) (place : Place) (session : Session) (key : Nat) :
    List (Pattern Leaf) → Session
  | [] => session
  | pattern :: rest =>
    afterBranches base place
      (({ session with captures := base }).gain
        (pattern.gain place ⟨base, session.fresh, key⟩))
      (key + pattern.size) rest

theorem settles_branches {standing : Standing} (hstanding : standing ≠ .term) {place : Place}
    (hplace : place.isSlice = false) (base : Nat) {session : Session} {key : Nat}
    (ready : session.Numbered key) :
    Settles (compileBranches standing.handlers place base (Pattern.termsFrom key patterns)) session
      (Pattern.rejectionAmong? standing patterns)
      ((Pattern.branchTests session.recording place ⟨base, session.fresh, key⟩ patterns).zip
        (patterns.map Pattern.slots))
      (afterBranches base place session key patterns) := by
  induction patterns generalizing session key with
  | nil => exact Settles.pure _ _
  | cons pattern rest induction =>
      have hsingle : place.isSlice = (standing == .term && pattern.isVariadic) := by
        rw [hplace, beq_false_of_ne hstanding]
        rfl
      have hready : ({ session with captures := base } : Session).Numbered key := ready
      have hfirst := each pattern (by simp) standing place _ key hsingle hready
      have hlater := induction (fun other member => each other (by simp [member]))
        (hready.gain (pattern.covers_gain place ⟨base, session.fresh, key⟩))
      rw [Pattern.termsFrom, compileBranches_cons, Pattern.rejectionAmong?, Pattern.branchTests,
        List.map_cons, List.zip_cons_cons, afterBranches]
      refine Settles.of_ok rfl rfl (hfirst.bind (Settles.of_ok rfl rfl ?_))
      rw [← Nat.add_sub_cancel_left base pattern.slots]
      exact hlater.bind_pure

end Lists

/-- With the slots set to one number the session has gained what the branches gain, slots
aside. -/
theorem captures_afterBranches (base count : Nat) (place : Place) (session : Session)
    (key : Nat) (patterns : List (Pattern Leaf)) :
    { afterBranches base place session key patterns with captures := count } =
      ({ session with captures := count } : Session).gain
        (Pattern.gainAll 0 key (Pattern.memberSites place (session.tally key) patterns)
          patterns) := by
  induction patterns generalizing session key with
  | nil =>
      rw [Pattern.memberSites, Pattern.gainAll_nil, Session.gain_none]
      rfl
  | cons pattern rest induction =>
      have hsites := Pattern.sites_congr pattern place ⟨base, session.fresh, key⟩
        (session.tally key) rfl rfl
      have hlater : Pattern.memberSites place
          ((({ session with captures := base } : Session).gain
            (pattern.gain place ⟨base, session.fresh, key⟩)).tally (key + pattern.size)) rest =
          Pattern.memberSites place ((session.tally key).after pattern) rest :=
        Pattern.memberSites_congr (fun other _ => Pattern.sites_congr other) place rfl rfl
      have hfirst : { ({ session with captures := base } : Session).gain
            (pattern.gain place ⟨base, session.fresh, key⟩) with captures := count } =
          ({ session with captures := count } : Session).gain
            { pattern.gain place (session.tally key) with slots := 0 } := by
        rw [Pattern.gain, hsites]
        rfl
      have hboth : Gain.andThen { pattern.gain place (session.tally key) with slots := 0 }
            (Pattern.gainAll 0 (key + pattern.size)
              (Pattern.memberSites place ((session.tally key).after pattern) rest) rest) =
          Pattern.gainAll 0 key (Pattern.memberSites place (session.tally key) (pattern :: rest))
            (pattern :: rest) := by
        simp [Pattern.gainAll, Pattern.gain, Gain.andThen, Pattern.termsFrom, Term.walkAll,
          Pattern.memberSites]
      rw [afterBranches, induction, hlater, hfirst, Session.gain_gain, hboth]

theorem length_branchTests (recording : Bool) (place : Place) (tally : Tally)
    (patterns : List (Pattern Leaf)) :
    (Pattern.branchTests recording place tally patterns).length = patterns.length := by
  induction patterns generalizing tally with
  | nil => rfl
  | cons pattern rest induction =>
      rw [Pattern.branchTests, List.length_cons, induction, List.length_cons]

theorem settles_balance {node : Term} {loc : Range} (hloc : node.loc? = some loc)
    {first : Pattern Leaf} {others : List (Pattern Leaf)} (test : Test) {tests : List Test}
    (hlength : tests.length = others.length) (base : Nat) {session last : Session}
    (hlast : { session with captures := base + first.slots } = last) :
    Settles
      (match (test :: tests).zip ((first :: others).map Pattern.slots) with
      | [] => malformed .noBranch
      | (_, count) :: rest =>
        if rest.all fun branch => branch.2 == count then do
          modify fun session => { session with captures := base + count }
          return Test.anyOf
            (((test :: tests).zip ((first :: others).map Pattern.slots)).map Prod.fst)
        else
          reject (.unbalancedCaptures
            (((test :: tests).zip ((first :: others).map Pattern.slots)).map Prod.snd)) node)
      session
      (if others.all fun other => other.slots == first.slots then none
      else some (.unbalancedCaptures ((first :: others).map Pattern.slots), loc))
      (Test.anyOf (test :: tests)) last := by
  have hfst : ((test :: tests).zip ((first :: others).map Pattern.slots)).map Prod.fst =
      test :: tests := List.map_fst_zip (by simp [hlength])
  have hsnd : ((test :: tests).zip ((first :: others).map Pattern.slots)).map Prod.snd =
      (first :: others).map Pattern.slots := List.map_snd_zip (by simp [hlength])
  have hrest : (tests.zip (others.map Pattern.slots)).map Prod.snd = others.map Pattern.slots :=
    List.map_snd_zip (by simp [hlength])
  have hall : (tests.zip (others.map Pattern.slots)).all (fun branch => branch.2 == first.slots) =
      others.all fun other => other.slots == first.slots := by
    have hmapped := congrArg (List.all · (· == first.slots)) hrest
    simpa only [List.all_map, Function.comp_def] using hmapped
  -- The branches are zipped with their slots; taken apart again, both lists are the given ones.
  rw [hfst, hsnd, List.map_cons, List.zip_cons_cons]
  dsimp only
  rw [hall, ← hlast]
  split
  · exact Settles.of_ok rfl rfl (Settles.pure _ _)
  · exact Settles.reject _ _ loc hloc _ _ _ rfl

section Brackets

variable {first : Pattern Leaf} {others : List (Pattern Leaf)} (loc : Range)
  (hfirst : Compiles first) (hothers : ∀ other ∈ others, Compiles other)
include hfirst hothers

theorem compiles_intersection : Compiles (.grouped loc .intersection first others) := by
  intro standing place session key hplace ready
  have hres := resolve?_handlers standing "intersection" rfl (by decide) (by decide)
  have hsingle : place.isSlice = false := hplace.trans (Bool.and_false _)
  have hstanding : standing.inner ≠ .term := by cases standing <;> exact Standing.noConfusion
  have hready := ready.enrolled
    ((Pattern.grouped loc .intersection first others).key?_termFrom key) place
  have hall : ∀ pattern ∈ first :: others, Compiles pattern := by simpa using ⟨hfirst, hothers⟩
  have hmembers := settles_each hall hstanding hsingle hready
  rw [Standing.handlers_inner] at hmembers
  rw [Pattern.gain_grouped loc .intersection first others place (session.tally key)
    (Pattern.slotsAll others) rfl rfl, Session.key_tally, Pattern.termFrom_grouped, Bracket.tag,
    compile, hres]
  rw [Pattern.termFrom_grouped] at hmembers
  exact settles_node rfl ready hmembers.bind_pure

theorem compiles_union : Compiles (.grouped loc .union first others) := by
  intro standing place session key hplace ready
  have hres := resolve?_handlers standing "union" rfl (by decide) (by decide)
  have hsingle : place.isSlice = false := hplace.trans (Bool.and_false _)
  have hstanding : standing.inner ≠ .term := by cases standing <;> exact Standing.noConfusion
  have hready := ready.enrolled ((Pattern.grouped loc .union first others).key?_termFrom key) place
  have hall : ∀ pattern ∈ first :: others, Compiles pattern := by simpa using ⟨hfirst, hothers⟩
  have hbranches := settles_branches hall hstanding hsingle session.captures hready
  rw [Standing.handlers_inner] at hbranches
  rw [Pattern.gain_grouped loc .union first others place (session.tally key) 0 rfl rfl,
    Session.key_tally, Pattern.termFrom_grouped, Bracket.tag, compile, hres]
  rw [Pattern.termFrom_grouped] at hbranches
  refine settles_node rfl ready (Settles.of_ok rfl rfl (hbranches.bind ?_))
  have hlength := length_branchTests session.recording place
    ((session.tally key).inner.beside first) others
  apply settles_balance (by rfl) _ hlength session.captures
  exact captures_afterBranches _ _ _ _ _ _

theorem compiles_sequence : Compiles (.grouped loc .sequence first others) := by
  intro standing place session key hplace ready
  have hres := resolve?_handlers standing "sequence" rfl (by decide) (by decide)
  have hready := ready.enrolled
    ((Pattern.grouped loc .sequence first others).key?_termFrom key) place
  have hchildren : (Term.node key "sequence" (some loc)
      (first.termFrom (key + 1) :: Pattern.termsFrom (key + 1 + first.size) others)).childNodes =
      first.termFrom (key + 1) :: Pattern.termsFrom (key + 1 + first.size) others := by
    simp [Term.childNodes, Term.children]
  have hsplit := settles_variadicIndex others (key + 1 + first.size)
  rw [Pattern.gain_grouped loc .sequence first others place (session.tally key)
    (Pattern.slotsAll others) rfl rfl, Session.key_tally, Pattern.termFrom_grouped, Bracket.tag,
    compile, hres]
  rw [Pattern.termFrom_grouped] at hready
  apply settles_node rfl ready
  rw [hchildren]
  dsimp only
  rw [compileChild_cons, Pattern.length_termsFrom]
  simp only [compileAfterHead_cons]
  -- With a second variadic term nothing is compiled, not even the head.
  rcases Pattern.layout_or_second others with layout | ⟨single, second, rest, hsecond⟩
  · have hhead := hfirst .within place _ (key + 1) (hplace.trans (Bool.and_false _)) hready
    have hterms := settles_terms hothers (Pattern.fits_placesOf place layout)
      (hready.gain (first.covers_gain place (session.tally key).inner))
    have hgain :
        Pattern.gainAll (first.slots + Pattern.slotsAll others) (session.tally key).inner.key
          (first.sites place (session.tally key).inner ++ Pattern.termSites
            (Pattern.placesOf place others) ((session.tally key).inner.after first) others)
          (first :: others) = _ :=
      Pattern.gainAll_cons first others place (session.tally key).inner _ _
    rw [Pattern.rejection?, hgain, ← Session.gain_gain]
    exact (hsplit _).bind (hhead.bind
      (Settles.of_ok (sequenceCount_termsFrom layout _ _) rfl hterms.bind_pure))
  · have hcrowded := Pattern.crowding?_of_second hsecond
    have hstop := hsplit
      ((session.enter ((Pattern.grouped loc .sequence first others).termFrom key)).gain
        (.ofNode key ((Pattern.grouped loc .sequence first others).termFrom key) place))
    rw [hcrowded, Pattern.termFrom_grouped] at hstop
    rw [Pattern.rejection?, hcrowded]
    exact hstop.stop rfl

end Brackets

/-- Every pattern is compiled into its test, or rejected for its first fault. -/
theorem compiles (pattern : Pattern Leaf) : Compiles pattern := by
  induction pattern using Pattern.induct with
  | leaf loc value =>
      intro standing place session key hplace ready
      exact settles_leaf loc value standing place hplace ready
  | marked loc mark inner induction =>
      cases mark with
      | capture => exact compiles_capture loc induction
      | negation => exact compiles_negation loc induction
      | ascend => exact compiles_ascend loc induction
  | repeated loc inner quantity induction => exact compiles_repeated loc quantity induction
  | grouped loc bracket first others firstHolds othersHold =>
      cases bracket with
      | sequence => exact compiles_sequence loc firstHolds othersHold
      | union => exact compiles_union loc firstHolds othersHold
      | intersection => exact compiles_intersection loc firstHolds othersHold

end Compile

namespace Tally

def start : Tally :=
  ⟨0, 0, 0⟩

end Tally

namespace Matcher

def ofPattern (text : String) (pattern : Pattern Leaf) (recording : Bool) (name : String) :
    Matcher :=
  ofSession text pattern.toTerm (Script.functionName name) (pattern.test recording .root .start)
    ((Session.start text recording).gain (pattern.gain .root .start))

section Fields

variable (text : String) (pattern : Pattern Leaf) (recording : Bool) (name : String)

@[simp] theorem test_ofPattern :
    (ofPattern text pattern recording name).test = pattern.test recording .root .start := rfl

@[simp] theorem slots_ofPattern :
    (ofPattern text pattern recording name).slots = pattern.slots :=
  Nat.zero_add _

@[simp] theorem positional_ofPattern :
    (ofPattern text pattern recording name).positional =
      (List.range' 1 pattern.lastPosition).map fun (number : Nat) =>
        Session.positionName number := by
  change (List.range' 1 (max 0 pattern.lastPosition)).map _ = _
  rw [Nat.zero_max]

@[simp] theorem named_ofPattern :
    (ofPattern text pattern recording name).named =
      pattern.names.foldl Session.noteName [] := rfl

@[simp] theorem recording_ofPattern :
    (ofPattern text pattern recording name).recording = recording := rfl

theorem functionName_ofPattern :
    (ofPattern text pattern recording name).functionName = Script.functionName name := by
  dsimp only [ofPattern, ofSession]

theorem keywordParameters_ofPattern :
    (ofPattern text pattern recording name).keywordParameters =
      pattern.names.foldl Session.noteName [] ++ if recording then [traceName] else [] := rfl

theorem label_ofPattern (htext : text ≠ "") :
    (ofPattern text pattern recording name).label = text :=
  if_neg htext

theorem scriptFault?_ofPattern (htext : text ≠ "") :
    (ofPattern text pattern recording name).scriptFault? =
      if text.toList.contains '\x00' then some .nullCharacter
      else if (pattern.names.foldl Session.noteName []).all Text.isIdentifier then
        (labelFault? text).or (parameterFault? (rootName ::
          (ofPattern text pattern recording name).keywordParameters))
      else some .illFormed := by
  unfold scriptFault?
  rw [label_ofPattern _ _ _ _ htext]
  rfl

end Fields

def rejectionFailure (text : String) (rejection : Rejection) : Failure :=
  .reported (Diagnostic.make rejection.1.subject rejection.1.message (some rejection.1.code)
    (if text = "" then none else some (Span.ofRange text.toList rejection.2)) text "")

theorem ofTerm_toTerm (text : String) (pattern : Pattern Leaf) (recording : Bool)
    (name : String) :
    ofTerm .node text pattern.toTerm recording name =
      match pattern.rejection? .outside with
      | none => .ok (ofPattern text pattern recording name)
      | some rejection => .error (rejectionFailure text rejection) := by
  have hcompiles := Compile.compiles pattern .outside .root (Session.start text recording) 0 rfl
    (Session.numbered_start text recording)
  obtain ⟨-, hrun⟩ := hcompiles
  rw [ofTerm]
  cases hrejection : pattern.rejection? .outside with
  | none =>
      rw [hrejection] at hrun
      change Compile.compile .node .root pattern.toTerm _ = _ at hrun
      rw [hrun]
      rfl
  | some rejection =>
      rw [hrejection] at hrun
      obtain ⟨stopped, hstopped, htext⟩ := hrun
      change Compile.compile .node .root pattern.toTerm _ = _ at hstopped
      have hsame : stopped.text = text := htext
      rw [hstopped]
      simp only [Failure.ofCompileFault, rejectionFailure, Session.diagnostic, Session.spanOf,
        hsame,
        Option.map_some]

end Matcher

end TreeMatch

import TreeMatch.Proofs.Conduct
import TreeMatch.Proofs.Parts
import TreeMatch.Proofs.Settling
import TreeMatch.Proofs.Treatments

/-! The context of a compilation: the stack of the nodes being compiled is restored however the
compilation of a node ends, and its top is the node whose handler acts. -/

namespace TreeMatch

namespace Compile

def KeepsStack (step : Compile α) : Prop :=
  ∀ session, (step session).2.stack = session.stack

theorem keepsStack_pure (value : α) : KeepsStack (pure value : Compile α) := fun _ => rfl

theorem keepsStack_get : KeepsStack (get : Compile Session) := fun _ => rfl

theorem keepsStack_reject (cause : CompileCause) (term : Term) :
    KeepsStack (reject cause term : Compile α) := fun _ => rfl

theorem keepsStack_malformed (cause : MalformedTerm) :
    KeepsStack (malformed cause : Compile α) := fun _ => rfl

theorem keepsStack_modify {change : Session → Session}
    (hchange : ∀ session, (change session).stack = session.stack) :
    KeepsStack (modify change : Compile Unit) := hchange

theorem keepsStack_nextCapture : KeepsStack nextCapture := fun _ => rfl

theorem keepsStack_freshName (stem : String) : KeepsStack (freshName stem) := fun _ => rfl

theorem keepsStack_enroll (term : Term) (place : Place) : KeepsStack (enroll term place) := by
  intro session
  unfold enroll
  cases place.path? <;> rfl

theorem KeepsStack.bind {step : Compile α} {next : α → Compile β} (hstep : KeepsStack step)
    (hnext : ∀ value, KeepsStack (next value)) : KeepsStack (step >>= next) := by
  intro session
  rw [run_bind]
  have hkept := hstep session
  rcases hrun : step session with ⟨fault | value, middle⟩
  · rw [hrun] at hkept
    exact hkept
  · rw [hrun] at hkept
    exact (hnext value middle).trans hkept

theorem keepsStack_belowCaptures (term : Term) : KeepsStack (belowCaptures term) := by
  induction term using Term.induct with
  | atom value => exact keepsStack_malformed _
  | node key tag loc children each =>
      cases children with
      | nil =>
          rw [belowCaptures]
          split
          · exact keepsStack_malformed _
          · exact keepsStack_pure _
      | cons first rest =>
          rw [belowCaptures]
          split
          · exact each first (.head _)
          · exact keepsStack_pure _

theorem keepsStack_isVariadic (term : Term) : KeepsStack (isVariadic term) :=
  (keepsStack_belowCaptures term).bind fun _ => keepsStack_pure _

theorem keepsStack_variadicIndices (index : Nat) (terms : List Term) :
    KeepsStack (variadicIndices index terms) := by
  induction terms generalizing index with
  | nil => exact keepsStack_pure _
  | cons term rest induction =>
      exact (keepsStack_isVariadic term).bind fun _ =>
        (induction (index + 1)).bind fun _ => keepsStack_pure _

theorem keepsStack_variadicIndex (terms : List Term) : KeepsStack (variadicIndex terms) := by
  refine (keepsStack_variadicIndices 0 terms).bind fun indices => ?_
  match indices with
  | [] => exact keepsStack_pure _
  | [single] => exact keepsStack_pure _
  | _ :: _ :: _ => exact keepsStack_reject _ _

theorem keepsStack_operatorOf (term : Term) : KeepsStack (operatorOf term) := by
  rw [operatorOf]
  split
  · exact keepsStack_pure _
  · exact keepsStack_malformed _

theorem keepsStack_arity (term : Term) : KeepsStack (arity term) := by
  refine (keepsStack_belowCaptures term).bind fun inner => ?_
  by_cases hrest : hasTag "rest" inner = true
  · rw [if_pos hrest]
    exact keepsStack_pure _
  · rw [if_neg hrest]
    refine (keepsStack_operatorOf inner).bind fun operator => ?_
    split <;> first | exact keepsStack_pure _ | exact keepsStack_malformed _

theorem keepsStack_sequenceCount (terms : List Term) (split : Option Nat) :
    KeepsStack (sequenceCount terms split) := by
  cases split with
  | none => exact keepsStack_pure _
  | some split => exact (keepsStack_arity _).bind fun _ => keepsStack_pure _

theorem keepsStack_requireSlice (term : Term) (place : Place) :
    KeepsStack (requireSlice term place) := by
  have hlabel : KeepsStack (variadicLabel term) := by
    rw [variadicLabel]
    split
    · exact keepsStack_pure _
    · exact (keepsStack_operatorOf term).bind fun _ => keepsStack_pure _
  rw [requireSlice]
  split
  · exact keepsStack_pure _
  · exact hlabel.bind fun _ => keepsStack_reject _ _

theorem keepsStack_predicate (term : Term) (place : Place) :
    KeepsStack (predicate term place) := by
  rw [predicate]
  split
  · split <;> first | exact keepsStack_pure _ | exact keepsStack_reject _ _
  · exact keepsStack_malformed _

theorem keepsStack_positional (term : Term) (place : Place) (index : Int) (name : String) :
    KeepsStack (positional term place index name) := by
  rw [positional]
  split
  · exact keepsStack_reject _ _
  · exact fun _ => rfl

theorem keepsStack_param (term : Term) (place : Place) : KeepsStack (param term place) := by
  rw [param]
  split
  · exact keepsStack_positional _ _ _ _
  · exact keepsStack_positional _ _ _ _
  · exact keepsStack_positional _ _ _ _
  · split
    · exact keepsStack_reject _ _
    · refine KeepsStack.bind (keepsStack_modify fun session => ?_) fun _ => keepsStack_pure _
      rw [Session.useName]
      split <;> rfl
  · exact keepsStack_malformed _

end Compile

inductive Role
  | own
  | terms

namespace Conduct

open Compile (malformed hasTag requireSlice reject freshName nextCapture typeTest variadicIndex
  sequenceCount termPlaces)

def first (role : Role) (place : Place) : List Term → Conduct Role Test
  | [] => lift (malformed .notNode)
  | term :: _ => call role place term

def child (role : Role) (place : Place) : List Term → Conduct Role Test
  | [] => lift (malformed .noChild)
  | term :: rest => if term.isNode then call role place term else child role place rest

/-- Compiles every child node for one and the same value. -/
def each (role : Role) (place : Place) : List Term → Conduct Role (List Test)
  | [] => return []
  | term :: rest =>
    if term.isNode then do
      let test ← call role place term
      let tests ← each role place rest
      return test :: tests
    else each role place rest

/-- Compiles the branches of a union with the number of captures in each. -/
def branches (role : Role) (place : Place) (base : Nat) :
    List Term → Conduct Role (List (Test × Nat))
  | [] => return []
  | term :: rest =>
    if term.isNode then do
      lift (modify fun session => { session with captures := base })
      let test ← call role place term
      let count := (← lift get).captures - base
      let others ← branches role place base rest
      return (test, count) :: others
    else branches role place base rest

def terms (places : List Place) : List Term → Conduct Role (List Test)
  | [] => return []
  | term :: rest =>
    if term.isNode then do
      let test ← call .terms (places.headD .root) term
      let tests ← terms places.tail rest
      return test :: tests
    else terms places rest

/-- Compiles the child nodes after the first, each for a place of its own. -/
def afterHead (places : List Place) : List Term → Conduct Role (List Test)
  | [] => return []
  | term :: rest => if term.isNode then terms places rest else afterHead places rest

end Conduct

open Conduct Compile in
/-- What a handler of the pattern language does as part of a compiler. -/
def Handler.conduct (role : Role) : Handler → Term → Place → Conduct Role Test
  | nodeType => fun term place => return typeTest place term.payload
  | wildcard => fun _ _ => return .always
  | rest => fun term place => do
    lift (requireSlice term place)
    return .always
  | repetition => fun term place => do
    lift (requireSlice term place)
    if term.payload.walk.any (hasTag "capture") then
      lift (reject .captureInRepetition term)
    else
      let name ← lift (freshName "e")
      let body ← first role (.element name) term.children
      return .every name place body
  | capture => fun term place => do
    let slot ← lift nextCapture
    let inner ← first role place term.children
    return .allOf [inner, .capture slot place]
  | negation => fun term place => do
    let inner ← first role place term.children
    return .not inner
  | ascend => fun term place => do
    let inner ← first role place.parent term.children
    return .allOf [.isNode place, inner]
  | union => fun term place => do
    let base := (← lift get).captures
    let branches ← branches role place base term.children
    match branches with
    | [] => lift (malformed .noBranch)
    | (_, count) :: others =>
      if others.all fun branch => branch.2 == count then
        lift (modify fun session => { session with captures := base + count })
        return .anyOf (branches.map Prod.fst)
      else
        lift (reject (.unbalancedCaptures (branches.map Prod.snd)) term)
  | intersection => fun term place => do
    return .allOf (← each role place term.children)
  | symbol => fun term place => return .equalsSymbol place term.payload
  | literal => fun term place => return .equals place term.payload
  | nil => fun _ place => return .isKind place .absent
  | predicate => fun term place => lift (Compile.predicate term place)
  | param => fun term place => lift (Compile.param term place)
  | sequence => fun term place => do
    match term.childNodes with
    | [] => lift (malformed .noHead)
    | _ :: inner =>
      let split ← lift (variadicIndex inner)
      let head ← child .terms place term.children
      let count ← lift (sequenceCount inner split)
      let tests ← afterHead (termPlaces place inner.length split) term.children
      return .allOf (.isNode place :: head :: .hasCount place count :: tests)
  | unsupported => fun term _ => lift (reject (.unsupported term.tag) term)
  | custom .always => fun _ _ => return .always
  | custom .never => fun _ _ => return .never
  | custom .child => fun term place => child role place term.children
  | custom .notChild => fun term place => do
    let inner ← child role place term.children
    return .not inner
  | custom .isAbsent => fun _ place => return .isKind place .absent

namespace Handlers

/-- The handlers of each compiler when the one that patterns are given to has these. -/
def ofRole (handlers : Handlers) : Role → Handlers
  | .own => handlers
  | .terms => Handlers.sequence

def dispatchers (handlers : Handlers) (role : Role) : Dispatcher Role :=
  (handlers.ofRole role).map (Handler.conduct role)

end Handlers

namespace Conduct

open Compile (KeepsStack)

section Realization

variable {compilers : ι → Dispatcher ι}

def Realizes (compilers : ι → Dispatcher ι) (conduct : Conduct ι α) (step : Compile α) : Prop :=
  ∀ session, Runs compilers conduct session (step session).1 (step session).2

theorem realizes_ofExcept (result : Except CompileFault α) (session : Session) :
    Runs compilers (ofExcept result) session result session := by
  cases result with
  | ok value => exact .done value session
  | error fault => exact .fail fault session

theorem realizes_pure (value : α) :
    Realizes compilers (pure value : Conduct ι α) (pure value) :=
  fun session => .done value session

theorem realizes_lift {step : Compile α} (hkeeps : KeepsStack step) :
    Realizes compilers (lift step) step := by
  intro session
  refine .act ?_
  rw [Session.keepStack_of_stack_eq (hkeeps session)]
  exact realizes_ofExcept _ _

theorem Realizes.bind {conduct : Conduct ι α} {rest : α → Conduct ι β} {step : Compile α}
    {next : α → Compile β} (hstep : Realizes compilers conduct step)
    (hnext : ∀ value, Realizes compilers (rest value) (next value)) :
    Realizes compilers (conduct >>= rest) (step >>= next) := by
  intro session
  rw [Compile.run_bind]
  have hruns := hstep session
  rcases hrun : step session with ⟨fault | value, middle⟩
  · rw [hrun] at hruns
    exact hruns.bind_error
  · rw [hrun] at hruns
    exact hruns.bind_ok (hnext value middle)

theorem realizes_instrumented {conduct : Conduct ι Test} {step : Compile Test}
    (hstep : Realizes compilers conduct step) (term : Term) (place : Place) :
    Realizes compilers (instrumented term place conduct)
      (Compile.instrumented term place step) := by
  refine (realizes_lift Compile.keepsStack_get).bind fun session => ?_
  split
  · exact (realizes_lift (Compile.keepsStack_enroll term place)).bind fun id =>
      hstep.bind fun test => realizes_pure _
  · exact hstep

theorem realizes_call {compiler : ι} {place : Place} {term : Term} {conduct : Conduct ι Test}
    {step : Compile Test}
    (dispatches : dispatch (compilers compiler) place term = .ok (instrumented term place conduct))
    (hstep : Realizes compilers conduct step) :
    Realizes compilers (call compiler place term)
      (Compile.visiting term (Compile.instrumented term place step)) := fun session =>
  .handled dispatches (realizes_instrumented hstep term place (session.enter term))
    (realizes_ofExcept _ _)

end Realization

section Children

variable {handlers : Handlers} {children : List Term}
  (realized : ∀ child ∈ children, ∀ role place,
    Realizes handlers.dispatchers (call role place child)
      (Compile.compile (handlers.ofRole role) place child))
include realized

theorem realizes_first (role : Role) (place : Place) :
    Realizes handlers.dispatchers (first role place children)
      (Compile.compileFirst (handlers.ofRole role) place children) := by
  cases children with
  | nil => exact realizes_lift (Compile.keepsStack_malformed _)
  | cons term rest => exact realized term (.head _) role place

theorem realizes_child (role : Role) (place : Place) :
    Realizes handlers.dispatchers (child role place children)
      (Compile.compileChild (handlers.ofRole role) place children) := by
  induction children with
  | nil => exact realizes_lift (Compile.keepsStack_malformed _)
  | cons term rest induction =>
      obtain ⟨hterm, hrest⟩ := List.forall_mem_cons.mp realized
      cases term with
      | atom value => exact induction hrest
      | node key tag loc inner => exact hterm role place

theorem realizes_each (role : Role) (place : Place) :
    Realizes handlers.dispatchers (each role place children)
      (Compile.compileEach (handlers.ofRole role) place children) := by
  induction children with
  | nil => exact realizes_pure _
  | cons term rest induction =>
      obtain ⟨hterm, hrest⟩ := List.forall_mem_cons.mp realized
      cases term with
      | atom value => exact induction hrest
      | node key tag loc inner =>
          exact (hterm role place).bind fun test => (induction hrest).bind fun tests =>
            realizes_pure _

theorem realizes_branches (role : Role) (place : Place) (base : Nat) :
    Realizes handlers.dispatchers (branches role place base children)
      (Compile.compileBranches (handlers.ofRole role) place base children) := by
  induction children with
  | nil => exact realizes_pure _
  | cons term rest induction =>
      obtain ⟨hterm, hrest⟩ := List.forall_mem_cons.mp realized
      cases term with
      | atom value => exact induction hrest
      | node key tag loc inner =>
          refine (realizes_lift (Compile.keepsStack_modify ?_)).bind fun _ => ?_
          · exact fun session => rfl
          · exact (hterm role place).bind fun test =>
              (realizes_lift Compile.keepsStack_get).bind fun session =>
                (induction hrest).bind fun others => realizes_pure _

theorem realizes_terms (places : List Place) :
    Realizes handlers.dispatchers (terms places children)
      (Compile.compileTerms places children) := by
  induction children generalizing places with
  | nil => exact realizes_pure _
  | cons term rest induction =>
      obtain ⟨hterm, hrest⟩ := List.forall_mem_cons.mp realized
      cases term with
      | atom value => exact induction hrest places
      | node key tag loc inner =>
          exact (hterm .terms _).bind fun test => (induction hrest places.tail).bind fun tests =>
            realizes_pure _

theorem realizes_afterHead (places : List Place) :
    Realizes handlers.dispatchers (afterHead places children)
      (Compile.compileAfterHead places children) := by
  induction children with
  | nil => exact realizes_pure _
  | cons term rest induction =>
      obtain ⟨hterm, hrest⟩ := List.forall_mem_cons.mp realized
      cases term with
      | atom value => exact induction hrest
      | node key tag loc inner => exact realizes_terms hrest places

end Children

theorem dispatch_eq_ok {handlers : Handlers} {role : Role} {handler : Handler} {tag : String}
    (hhandler : (handlers.ofRole role).resolve? tag = some handler) (place : Place) (key : Nat)
    (loc : Option Range) (children : List Term) :
    dispatch (handlers.dispatchers role) place (.node key tag loc children) =
      .ok (instrumented (.node key tag loc children) place
        (handler.conduct role (.node key tag loc children) place)) := by
  have hresolve : (handlers.dispatchers role).resolve? tag =
      ((handlers.ofRole role).resolve? tag).map (Handler.conduct role) :=
    Registry.resolve?_map _ _ _
  rw [dispatch, hresolve, hhandler]
  rfl

/-- What the handler of a node does comes to what the compiler makes of the node. -/
theorem realizes_compile (handlers : Handlers) (role : Role) (place : Place) (term : Term) :
    Realizes handlers.dispatchers (call role place term)
      (Compile.compile (handlers.ofRole role) place term) := by
  induction term using Term.induct generalizing role place with
  | atom value => exact fun session => .refused rfl (.fail _ session)
  | node key tag loc children each =>
      have realized : ∀ child ∈ children, ∀ role place,
          Realizes handlers.dispatchers (call role place child)
            (Compile.compile (handlers.ofRole role) place child) :=
        fun child member role place => each child member role place
      rw [Compile.compile]
      cases hhandler : (handlers.ofRole role).resolve? tag with
      | none =>
          have hresolve : (handlers.dispatchers role).resolve? tag =
              ((handlers.ofRole role).resolve? tag).map (Handler.conduct role) :=
            Registry.resolve?_map _ _ _
          rw [hhandler] at hresolve
          exact fun session => .refused (by rw [dispatch, hresolve]; rfl) (.fail _ session)
      | some handler =>
          refine realizes_call (dispatch_eq_ok hhandler place key loc children) ?_
          -- Handlers call the compiler on children, and do nothing else that touches the stack.
          cases handler with
          | nodeType | wildcard | symbol | literal | nil => exact realizes_pure _
          | rest =>
              exact (realizes_lift (Compile.keepsStack_requireSlice _ _)).bind fun _ =>
                realizes_pure _
          | repetition =>
              refine (realizes_lift (Compile.keepsStack_requireSlice _ _)).bind fun _ => ?_
              split
              · exact realizes_lift (Compile.keepsStack_reject _ _)
              · exact (realizes_lift (Compile.keepsStack_freshName _)).bind fun name =>
                  (realizes_first realized role _).bind fun body => realizes_pure _
          | capture =>
              exact (realizes_lift Compile.keepsStack_nextCapture).bind fun slot =>
                (realizes_first realized role place).bind fun inner => realizes_pure _
          | negation | ascend =>
              exact (realizes_first realized role _).bind fun inner => realizes_pure _
          | union =>
              refine (realizes_lift Compile.keepsStack_get).bind fun session =>
                (realizes_branches realized role place _).bind fun branches => ?_
              rcases branches with _ | ⟨⟨test, count⟩, others⟩
              · exact realizes_lift (Compile.keepsStack_malformed _)
              · dsimp only
                split
                · refine (realizes_lift (Compile.keepsStack_modify ?_)).bind fun _ =>
                    realizes_pure _
                  exact fun _ => rfl
                · exact realizes_lift (Compile.keepsStack_reject _ _)
          | intersection =>
              exact (realizes_each realized role place).bind fun tests => realizes_pure _
          | predicate => exact realizes_lift (Compile.keepsStack_predicate _ _)
          | param => exact realizes_lift (Compile.keepsStack_param _ _)
          | sequence =>
              dsimp only [Handler.conduct]
              generalize (Term.node key tag loc children).childNodes = nodes
              cases nodes with
              | nil => exact realizes_lift (Compile.keepsStack_malformed _)
              | cons head inner =>
                  exact (realizes_lift (Compile.keepsStack_variadicIndex inner)).bind fun split =>
                    (realizes_child realized .terms place).bind fun head =>
                      (realizes_lift (Compile.keepsStack_sequenceCount inner split)).bind fun _ =>
                        (realizes_afterHead realized _).bind fun tests => realizes_pure _
          | unsupported => exact realizes_lift (Compile.keepsStack_reject _ _)
          | custom fragment =>
              cases fragment with
              | always | never | isAbsent => exact realizes_pure _
              | child => exact realizes_child realized role place
              | notChild =>
                  exact (realizes_child realized role place).bind fun inner => realizes_pure _

/-- The context of a compilation. A compiler leaves the stack as it was, whatever it is given and
however it ends; so do all compilers whose handlers act as they like. While the handler of a node
acts, that node is the current one. The compilers of the pattern language are among these. -/
theorem compile_restores_context :
    (∀ (handlers : Handlers) (place : Place) (term : Term) (session : Session),
      (Compile.compile handlers place term session).2.stack = session.stack) ∧
    (∀ (ι : Type) (compilers : ι → Dispatcher ι) (compiler : ι) (place : Place) (term : Term)
      (session last : Session) (result : Except CompileFault Test),
      Compiles compilers compiler place term session result last →
        last.stack = session.stack) ∧
    (∀ (ι : Type) (compilers : ι → Dispatcher ι) (compiler : ι) (place : Place)
      (term node : Term) (conduct : Conduct ι Test) (session moment : Session),
      dispatch (compilers compiler) place term = .ok conduct →
        ActsDuring compilers term conduct (session.enter term) node moment →
          moment.current = some node) ∧
    ∀ (handlers : Handlers) (role : Role) (place : Place) (term : Term) (session last : Session)
      (result : Except CompileFault Test),
      Compiles handlers.dispatchers role place term session result last ↔
        Compile.compile (handlers.ofRole role) place term session = (result, last) := by
  refine ⟨fun handlers place term session => ?_, fun ι compilers compiler place term session last
    result compiles => compiles.stack_eq, fun ι compilers compiler place term node conduct session
    moment _ acts => acts.current_eq rfl, fun handlers role place term session last result => ?_⟩
  · exact (realizes_compile handlers .own place term session).stack_eq
  · have realizes := realizes_compile handlers role place term session
    constructor
    · intro compiles
      obtain ⟨rfl, rfl⟩ := realizes.unique compiles
      rfl
    · intro hcompile
      rw [hcompile] at realizes
      exact realizes

def lenient : Unit → Dispatcher Unit := fun _ =>
  .ofList
    [("maybe", fun term place => nested () place term.payload fun
        | .ok test => done test
        | .error _ => done .never),
      ("just", fun term place => call () place term.payload)]
    none

theorem compile_restores_context_lenient :
    let outer := Term.node 0 "just" none []
    let bad := Term.node 1 "just" none [.node 2 "bogus" none []]
    let term := Term.node 3 "maybe" none [bad]
    let session := (Session.start "" false).enter outer
    ∃ last, Compiles lenient () .root term session (.ok .never) last ∧
      last.stack = [outer] ∧
      ∃ conduct moment, dispatch (lenient ()) .root term = .ok conduct ∧
        ActsDuring lenient term conduct (session.enter term) bad moment ∧
        moment.current = some bad := by
  intro outer bad term session
  have fails : Runs lenient (call () .root bad) (session.enter term)
      (.error (.unhandled "bogus")) (session.enter term) :=
    .handled rfl (.act (.refused rfl (.fail _ _))) (.fail _ _)
  have compiles : Compiles lenient () .root term session (.ok .never) session :=
    .handled rfl (.act (.handled rfl (.act (.refused rfl (.fail _ _))) (.done _ _))) (.done _ _)
  refine ⟨session, compiles, ?_, _, _, rfl, .later (.within rfl (.now _ _ _)), ?_⟩
  · exact compile_restores_context.2.1 _ _ _ _ _ _ _ _ compiles
  · exact compile_restores_context.2.2.1 _ lenient () .root term bad _ session _ rfl
      (.later (.within rfl (.now _ _ _)))

end Conduct

end TreeMatch

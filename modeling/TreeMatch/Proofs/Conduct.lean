import TreeMatch.Matcher

/-! What handlers do, told as courses of action. Several compilers share one session: a handler of
one of them may have any other compile any node, and may go on when that fails. The only thing
that a handler cannot do is to change the stack of the nodes being compiled. -/

namespace TreeMatch

def Session.keepStack (session other : Session) : Session :=
  { other with stack := session.stack }

@[simp] theorem Session.stack_keepStack (session other : Session) :
    (session.keepStack other).stack = session.stack := rfl

theorem Session.keepStack_of_stack_eq {session other : Session}
    (hstack : other.stack = session.stack) : session.keepStack other = other := by
  rw [keepStack, ← hstack]

/-- A course of action that ends with a value or a fault. The compilers have names in `ι`. -/
inductive Conduct (ι α : Type)
  | done (value : α)
  | fail (fault : CompileFault)
  /-- Changes the session in some way, and goes on according to how it was found. -/
  | act (change : Session → Session) (next : Session → Conduct ι α)
  /-- Has a compiler compile a term, and goes on with what comes of it, be it a fault. -/
  | nested (compiler : ι) (place : Place) (term : Term)
      (next : Except CompileFault Test → Conduct ι α)

/-- A compiler, by what each of its handlers does with a node at a place. -/
abbrev Dispatcher (ι : Type) := Registry (Term → Place → Conduct ι Test)

namespace Conduct

open Compile (enroll traced)

def bind : Conduct ι α → (α → Conduct ι β) → Conduct ι β
  | done value, rest => rest value
  | fail fault, _ => fail fault
  | act change next, rest => act change fun session => (next session).bind rest
  | nested compiler place term next, rest =>
    nested compiler place term fun result => (next result).bind rest

instance : Monad (Conduct ι) where
  pure := done
  bind := bind

def ofExcept : Except CompileFault α → Conduct ι α
  | .ok value => done value
  | .error fault => fail fault

def lift (step : Compile α) : Conduct ι α :=
  act (fun session => (step session).2) fun session => ofExcept (step session).1

/-- Has a compiler compile a term, and fails if that fails. -/
def call (compiler : ι) (place : Place) (term : Term) : Conduct ι Test :=
  nested compiler place term ofExcept

def instrumented (term : Term) (place : Place) (conduct : Conduct ι Test) : Conduct ι Test := do
  if (← lift get).recording then
    let id ← lift (enroll term place)
    let test ← conduct
    return traced id place test
  else conduct

/-- What a compiler sets about when it is to compile a term: that of the handler of its tag. -/
def dispatch (dispatcher : Dispatcher ι) (place : Place) :
    Term → Except CompileFault (Conduct ι Test)
  | .atom _ => .error (.malformed .notNode)
  | .node key tag loc children =>
    match dispatcher.resolve? tag with
    | none => .error (.unhandled tag)
    | some handler =>
      .ok (instrumented (.node key tag loc children) place
        (handler (.node key tag loc children) place))

section Running

variable (compilers : ι → Dispatcher ι)

inductive Runs : {α : Type} → Conduct ι α → Session → Except CompileFault α → Session → Prop
  | done {α : Type} (value : α) (session : Session) :
    Runs (done value) session (.ok value) session
  | fail {α : Type} (fault : CompileFault) (session : Session) :
    Runs (α := α) (fail fault) session (.error fault) session
  | act {α : Type} {change : Session → Session} {next : Session → Conduct ι α}
      {session last : Session} {result : Except CompileFault α}
      (rest : Runs (next session) (session.keepStack (change session)) result last) :
    Runs (act change next) session result last
  | refused {α : Type} {compiler : ι} {place : Place} {term : Term}
      {next : Except CompileFault Test → Conduct ι α} {session last : Session}
      {fault : CompileFault} {result : Except CompileFault α}
      (refuses : dispatch (compilers compiler) place term = .error fault)
      (rest : Runs (next (.error fault)) session result last) :
    Runs (nested compiler place term next) session result last
  | handled {α : Type} {compiler : ι} {place : Place} {term : Term}
      {next : Except CompileFault Test → Conduct ι α} {session middle last : Session}
      {conduct : Conduct ι Test} {inner : Except CompileFault Test} {result : Except CompileFault α}
      (dispatches : dispatch (compilers compiler) place term = .ok conduct)
      (handles : Runs conduct (session.enter term) inner middle)
      (rest : Runs (next inner) middle.leave result last) :
    Runs (nested compiler place term next) session result last

def Compiles (compiler : ι) (place : Place) (term : Term) (session : Session)
    (result : Except CompileFault Test) (last : Session) : Prop :=
  Runs compilers (call compiler place term) session result last

/-- In the course of what is done for a node, the handler of a node acts on a session, be it that
of the first node or that of one nested in it. -/
inductive ActsDuring :
    {α : Type} → Term → Conduct ι α → Session → (node : Term) → (moment : Session) → Prop
  | now {α : Type} (owner : Term) (conduct : Conduct ι α) (session : Session) :
    ActsDuring owner conduct session owner session
  | later {α : Type} {owner node : Term} {change : Session → Session}
      {next : Session → Conduct ι α} {session moment : Session}
      (rest : ActsDuring owner (next session) (session.keepStack (change session)) node moment) :
    ActsDuring owner (act change next) session node moment
  | refused {α : Type} {owner node : Term} {compiler : ι} {place : Place} {term : Term}
      {next : Except CompileFault Test → Conduct ι α} {session moment : Session}
      {fault : CompileFault} (refuses : dispatch (compilers compiler) place term = .error fault)
      (rest : ActsDuring owner (next (.error fault)) session node moment) :
    ActsDuring owner (nested compiler place term next) session node moment
  | within {α : Type} {owner node : Term} {compiler : ι} {place : Place} {term : Term}
      {next : Except CompileFault Test → Conduct ι α} {session moment : Session}
      {conduct : Conduct ι Test}
      (dispatches : dispatch (compilers compiler) place term = .ok conduct)
      (handles : ActsDuring term conduct (session.enter term) node moment) :
    ActsDuring owner (nested compiler place term next) session node moment
  | after {α : Type} {owner node : Term} {compiler : ι} {place : Place} {term : Term}
      {next : Except CompileFault Test → Conduct ι α} {session middle moment : Session}
      {conduct : Conduct ι Test} {inner : Except CompileFault Test}
      (dispatches : dispatch (compilers compiler) place term = .ok conduct)
      (handles : Runs compilers conduct (session.enter term) inner middle)
      (rest : ActsDuring owner (next inner) middle.leave node moment) :
    ActsDuring owner (nested compiler place term next) session node moment

end Running

section Laws

variable {compilers : ι → Dispatcher ι}

theorem Runs.stack_eq {conduct : Conduct ι α} {session last : Session}
    {result : Except CompileFault α} (runs : Runs compilers conduct session result last) :
    last.stack = session.stack := by
  induction runs with
  | done value session => rfl
  | fail fault session => rfl
  | act rest after => exact after
  | refused refuses rest after => exact after
  | @handled α compiler place term next session middle last conduct inner result dispatches
      handles rest within after =>
      calc last.stack = middle.leave.stack := after
        _ = middle.stack.tail := rfl
        _ = (session.enter term).stack.tail := by rw [within]
        _ = session.stack := rfl

theorem Runs.unique {conduct : Conduct ι α} {session last other : Session}
    {result again : Except CompileFault α} (runs : Runs compilers conduct session result last)
    (reruns : Runs compilers conduct session again other) : again = result ∧ other = last := by
  induction runs generalizing other with
  | done value session => cases reruns with | done => exact ⟨rfl, rfl⟩
  | fail fault session => cases reruns with | fail => exact ⟨rfl, rfl⟩
  | act rest after => cases reruns with | act reruns => exact after reruns
  | refused refuses rest after =>
      cases reruns with
      | refused refuses' reruns =>
          cases refuses.symm.trans refuses'
          exact after reruns
      | handled dispatches' => cases refuses.symm.trans dispatches'
  | handled dispatches handles rest within after =>
      cases reruns with
      | refused refuses' => cases dispatches.symm.trans refuses'
      | handled dispatches' handles' reruns =>
          cases dispatches.symm.trans dispatches'
          obtain ⟨rfl, rfl⟩ := within handles'
          exact after reruns

theorem ActsDuring.current_eq {owner node : Term} {conduct : Conduct ι α}
    {session moment : Session} (acts : ActsDuring compilers owner conduct session node moment)
    (hcurrent : session.current = some owner) : moment.current = some node := by
  induction acts with
  | now owner conduct session => exact hcurrent
  | later rest after => exact after hcurrent
  | refused refuses rest after => exact after hcurrent
  | within dispatches handles inside => exact inside rfl
  | @after α owner node compiler place term next session middle moment conduct inner dispatches
      handles rest later =>
      apply later
      calc middle.leave.current = middle.stack.tail.head? := rfl
        _ = (session.enter term).stack.tail.head? := by rw [handles.stack_eq]
        _ = some owner := hcurrent

theorem Runs.bind_ok {conduct : Conduct ι α} {rest : α → Conduct ι β} {value : α}
    {session middle last : Session} {result : Except CompileFault β}
    (runs : Runs compilers conduct session (.ok value) middle)
    (goes_on : Runs compilers (rest value) middle result last) :
    Runs compilers (conduct >>= rest) session result last := by
  generalize hresult : Except.ok (ε := CompileFault) value = first at runs
  induction runs with
  | done other session => cases hresult; exact goes_on
  | fail fault session => cases hresult
  | act _ after => exact .act (after goes_on hresult)
  | refused refuses _ after => exact .refused refuses (after goes_on hresult)
  | handled dispatches handles _ _ after =>
      exact .handled dispatches handles (after goes_on hresult)

theorem Runs.bind_error {conduct : Conduct ι α} {rest : α → Conduct ι β} {fault : CompileFault}
    {session last : Session} (runs : Runs compilers conduct session (.error fault) last) :
    Runs compilers (conduct >>= rest) session (.error fault) last := by
  generalize hresult : Except.error (α := α) fault = first at runs
  induction runs with
  | done value session => cases hresult
  | fail other session => cases hresult; exact .fail fault session
  | act _ after => exact .act (after hresult)
  | refused refuses _ after => exact .refused refuses (after hresult)
  | handled dispatches handles _ _ after => exact .handled dispatches handles (after hresult)

end Laws

end Conduct

end TreeMatch

import TreeMatch.Proofs.Treatments

/-! What a compilation depends on: of all handlers of a compiler only those of the nodes outside
sequences count. Compilers derived from one another keep to themselves. -/

namespace TreeMatch

namespace Term

mutual

/-- The nodes of a term that no sequence stands above. -/
def outer : Term → List Term
  | .atom _ => []
  | .node key tag loc children =>
    .node key tag loc children :: if tag = "sequence" then [] else outerAll children
termination_by structural term => term

def outerAll : List Term → List Term
  | [] => []
  | child :: rest => outer child ++ outerAll rest
termination_by structural terms => terms

end

theorem mem_outerAll {node : Term} {terms : List Term} :
    node ∈ outerAll terms ↔ ∃ term ∈ terms, node ∈ term.outer := by
  induction terms with
  | nil => simp [outerAll]
  | cons head rest induction => simp [outerAll, induction]

end Term

namespace Compile

section Agreement

variable {first second : Treatments}

structure Alike (first second : Treatments) (term : Term) : Prop where
  compiles : ∀ place, compileBy first place term = compileBy second place term
  shows : term.tag ≠ "sequence" →
    childrenBy first term.children = childrenBy second term.children

theorem childrenBy_congr {children : List Term}
    (each : ∀ child ∈ children, Alike first second child) :
    childrenBy first children = childrenBy second children := by
  induction children with
  | nil => rfl
  | cons child rest induction =>
      have later := induction fun other member => each other (.tail _ member)
      cases child with
      | atom value => rw [childrenBy, childrenBy, later]
      | node key tag loc children =>
          have alike := each _ (.head _)
          have hcompiles : (fun place => compileBy first place (.node key tag loc children)) =
              fun place => compileBy second place (.node key tag loc children) :=
            funext alike.compiles
          have hbelow : (if tag = "sequence" then [] else childrenBy first children) =
              if tag = "sequence" then [] else childrenBy second children := by
            split
            · rfl
            · rename_i hother
              exact alike.shows hother
          rw [childrenBy, childrenBy, hcompiles, hbelow, later]

/-- The standard handler of sequences uses nothing that the compiler shows it. -/
theorem treat_sequence (term : Term) (place : Place) (shown other : List Child) :
    Handler.sequence.treat term place shown = Handler.sequence.treat term place other := rfl

theorem alike_of_outer (hstandard : first.resolve? "sequence" = some Handler.sequence.treat)
    (term : Term)
    (hagrees : ∀ node ∈ term.outer, first.resolve? node.tag = second.resolve? node.tag) :
    Alike first second term := by
  induction term using Term.induct with
  | atom value => exact ⟨fun place => rfl, fun _ => rfl⟩
  | node key tag loc children each =>
      have hresolve : first.resolve? tag = second.resolve? tag := hagrees _ (.head _)
      have hshows : tag ≠ "sequence" → childrenBy first children = childrenBy second children := by
        intro hother
        refine childrenBy_congr fun child member => each child member fun node hnode => ?_
        apply hagrees
        rw [Term.outer, if_neg hother]
        exact .tail _ (Term.mem_outerAll.mpr ⟨child, member, hnode⟩)
      refine ⟨fun place => ?_, hshows⟩
      rw [compileBy, compileBy, ← hresolve]
      by_cases hsequence : tag = "sequence"
      · rw [hsequence, hstandard]
        dsimp only
        rw [treat_sequence _ place (childrenBy first children) (childrenBy second children)]
      · rw [hshows hsequence]

end Agreement

end Compile

namespace Registry

/-- The handlers of a derived compiler: those of its parent as they are now, others put in under
their tags, and perhaps another one for all tags without a handler. -/
def derive (registry : Registry α) (added : List (String × α)) (missing : Option α) :
    Registry α :=
  let extended := added.foldl (fun registry (tag, handler) => registry.register tag handler) registry
  { extended with fallback := missing.or extended.fallback }

theorem resolve?_derive {registry : Registry α} {added : List (String × α)} {tag : String}
    (hother : tag ∉ added.map Prod.fst) :
    (registry.derive added none).resolve? tag = registry.resolve? tag := by
  change (added.foldl _ registry).resolve? tag = _
  induction added generalizing registry with
  | nil => rfl
  | cons entry rest induction =>
      rw [List.map_cons, List.mem_cons, not_or] at hother
      rw [List.foldl_cons, induction hother.2, resolve?_register_of_ne hother.1]

inductive Change (α : Type)
  | derive (parent : Nat) (added : List (String × α)) (missing : Option α)
  | register (index : Nat) (tag : String) (handler : α)

namespace Change

/-- The compilers after a change, each under its number. -/
def apply (compilers : List (Registry α)) : Change α → List (Registry α)
  | derive parent added missing =>
    compilers ++ (compilers[parent]?.map fun registry => registry.derive added missing).toList
  | register index tag handler => compilers.modify index fun registry => registry.register tag handler

/-- The change gives the compiler with the number another handler. -/
def Amends (index : Nat) : Change α → Prop
  | derive .. => False
  | register amended .. => amended = index

theorem getElem?_apply {compilers : List (Registry α)} {change : Change α} {index : Nat}
    (hinside : index < compilers.length) (hother : ¬ change.Amends index) :
    (apply compilers change)[index]? = compilers[index]? ∧
      compilers.length ≤ (apply compilers change).length := by
  cases change with
  | derive parent added missing =>
      rw [apply, List.length_append]
      exact ⟨List.getElem?_append_left hinside, Nat.le_add_right _ _⟩
  | register amended tag handler =>
      rw [apply, List.length_modify]
      exact ⟨List.getElem?_modify_ne _ _ hother, Nat.le_refl _⟩

/-- Whatever is derived from a compiler, and whatever becomes of the others, it stays as it is. -/
theorem getElem?_foldl_apply {compilers : List (Registry α)} {changes : List (Change α)}
    {index : Nat} (hinside : index < compilers.length)
    (hothers : ∀ change ∈ changes, ¬ change.Amends index) :
    (changes.foldl apply compilers)[index]? = compilers[index]? := by
  induction changes generalizing compilers with
  | nil => rfl
  | cons change rest induction =>
      obtain ⟨hchange, hrest⟩ := List.forall_mem_cons.mp hothers
      obtain ⟨hsame, hlength⟩ := getElem?_apply hinside hchange
      rw [List.foldl_cons, induction (Nat.lt_of_lt_of_le hinside hlength) hrest, hsame]

end Change

end Registry

theorem Handlers.treatments_register (handlers : Handlers) (tag : String) (handler : Handler) :
    Handlers.treatments (handlers.register tag handler) =
      handlers.treatments.register tag handler.treat := by
  unfold Handlers.treatments Registry.map Registry.register
  simp only [List.map_cons, List.filter_map]
  rfl

/-- The compilers that the program derives are derived in the general way. -/
theorem Handlers.treatments_extend (handlers : Handlers) (added : List (String × Fragment))
    (missing : Option Fragment) :
    Handlers.treatments (handlers.extend added missing) =
      handlers.treatments.derive (added.map fun entry => (entry.1, (Handler.custom entry.2).treat))
        (missing.map fun fragment => (Handler.custom fragment).treat) := by
  have hfold : Handlers.treatments
      (added.foldl (fun registry entry => registry.register entry.1 (.custom entry.2)) handlers) =
      (added.map fun entry => (entry.1, (Handler.custom entry.2).treat)).foldl
        (fun registry entry => registry.register entry.1 entry.2) handlers.treatments := by
    induction added generalizing handlers with
    | nil => rfl
    | cons entry rest induction =>
        rw [List.foldl_cons, List.map_cons, List.foldl_cons, induction, treatments_register]
  cases missing with
  | none => exact hfold
  | some fragment =>
      exact congrArg (fun treatments : Compile.Treatments =>
        { treatments with fallback := some (Handler.custom fragment).treat }) hfold

namespace Matcher

open TreeMatch.Compile (Treatment Treatments compileBy)

/-- Compiles the term of a pattern with any handlers whatever. -/
def ofTermBy (treatments : Treatments) (text : String) (term : Term) (recording : Bool)
    (name : String) : Except Failure Matcher :=
  let outcome := compileBy treatments .root term (Session.start text recording)
  (outcome.1.map fun test => ofSession text term (Script.functionName name) test outcome.2).mapError
    (Failure.ofCompileFault outcome.2)

theorem ofTerm_eq_ofTermBy (handlers : Handlers) (text : String) (term : Term) (recording : Bool)
    (name : String) :
    ofTerm handlers text term recording name =
      ofTermBy handlers.treatments text term recording name := by
  rw [ofTerm, ofTermBy, TreeMatch.Compile.compile_eq_compileBy]
  rcases compileBy handlers.treatments .root term (Session.start text recording) with
    ⟨fault | test, session⟩ <;> rfl

theorem ofTermBy_congr {first second : Treatments} {term : Term}
    (hstandard : first.resolve? "sequence" = some Handler.sequence.treat)
    (hagrees : ∀ node ∈ term.outer, first.resolve? node.tag = second.resolve? node.tag)
    (text : String) (recording : Bool) (name : String) :
    ofTermBy first text term recording name = ofTermBy second text term recording name := by
  rw [ofTermBy, ofTermBy, (TreeMatch.Compile.alike_of_outer hstandard term hagrees).compiles]

end Matcher

end TreeMatch

import TreeMatch.Build
import TreeMatch.Sexp.Reader

/-! Building the tree of an s-expression node by node, each after its children. -/

namespace TreeMatch.Sexp

mutual

def make (chart : Text.CodeChart) : Sexp → Except AtomFault (Build Value)
  | atom kind text => do
    let value ← kind.decode chart text
    return pure value
  | list loc head items => do
    let children ← makeAll chart items
    return do Build.make (String.ofList head) (some loc) (← children)
termination_by structural sexp => sexp

def makeAll (chart : Text.CodeChart) : List Sexp → Except AtomFault (Build (List Value))
  | [] => .ok (pure [])
  | item :: rest => do
    let first ← make chart item
    let others ← makeAll chart rest
    return do
      let value ← first
      let values ← others
      return value :: values
termination_by structural sexps => sexps

end

def build (chart : Text.CodeChart) (text : String) : Except Fault Document := do
  let sexp ← (SexpText.document.readAll text.toList).mapError .unreadable
  let action ← (sexp.make chart).mapError .atom
  let (value, made) := action.after []
  match value.node? with
  | some root => return Document.ofMade root made text
  | none => throw .notList

end TreeMatch.Sexp

import TreeMatch.Term
import TreeMatch.Value.Equality

/-! Equality of terms by form: tags, shape and atoms count, ranges and keys do not. -/

namespace TreeMatch.Term

mutual

def equal : Term → Term → Bool
  | atom a, atom b => Value.sameUndefined a b || Value.equal a b
  | node _ tag _ children, node _ tag' _ children' => tag == tag' && equalAll children children'
  | _, _ => false
termination_by structural term => term

def equalAll : List Term → List Term → Bool
  | [], [] => true
  | a :: as, b :: bs => equal a b && equalAll as bs
  | _, _ => false
termination_by structural terms => terms

end

end TreeMatch.Term

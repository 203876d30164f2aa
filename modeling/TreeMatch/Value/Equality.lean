import TreeMatch.Value

/-! When two values are equal. Numbers compare across their types and a truth value counts as one
or zero; nodes are equal only to themselves; an undefined number equals nothing. -/

namespace TreeMatch.Value

def asInt? : Value → Option Int
  | bool b => some (if b then 1 else 0)
  | int i => some i
  | _ => none

def numberEqual (a b : Value) : Bool :=
  match a, b with
  | float x, float y => x.equal y
  | float x, b => (b.asInt?.map x.equalsInt).getD false
  | a, float y => (a.asInt?.map y.equalsInt).getD false
  | a, b =>
    match a.asInt?, b.asInt? with
    | some i, some j => i == j
    | _, _ => false

def sameUndefined : Value → Value → Bool
  | float (.nan i), float (.nan j) => i == j
  | _, _ => false

mutual

def equal : Value → Value → Bool
  | absent, absent => true
  | str a, str b => a == b
  | sym a, sym b => a == b
  | list a, list b => equalAll a b
  | tuple a, tuple b => equalAll a b
  | foreign kind text, foreign kind' text' => kind == kind' && text == text'
  | node i _ _ _, node j _ _ _ => i == j
  | a, b => numberEqual a b

/-- Members compare as equal also if they are one and the same datum. -/
def equalAll : List Value → List Value → Bool
  | [], [] => true
  | a :: as, b :: bs => (sameUndefined a b || equal a b) && equalAll as bs
  | _, _ => false

end

def sameType : Value → Value → Bool
  | absent, absent => true
  | bool _, bool _ => true
  | int _, int _ => true
  | float _, float _ => true
  | str _, str _ => true
  | sym _, sym _ => true
  | list _, list _ => true
  | tuple _, tuple _ => true
  | foreign kind _, foreign kind' _ => kind == kind'
  | node .., node .. => true
  | _, _ => false

/-- Equal and of one type: a truth value is then no integer, and an integer no floating point
number. -/
def identicalTo (value expected : Value) : Bool :=
  sameType value expected && equal value expected

mutual

def hashable : Value → Bool
  | list _ => false
  | tuple items => hashableAll items
  | _ => true

def hashableAll : List Value → Bool
  | [] => true
  | item :: rest => hashable item && hashableAll rest

end

def memberOf (value : Value) (elements : List Value) : Bool :=
  value.hashable && elements.any fun e => sameUndefined value e || equal value e

end TreeMatch.Value

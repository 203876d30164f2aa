import TreeMatch.Proofs.Lockstep
import TreeMatch.Proofs.Portrait
import TreeMatch.Proofs.Verdict

/-! Matching looks only at structure. On two trees of one structure a matcher without parameters,
whose pattern never goes to a parent, gives the same answer and captures values of one structure,
wherever the trees come from and whatever nodes they are made of. -/

namespace TreeMatch

variable {chart : Text.CodeChart}

theorem Number.Binary64.equal_congr {first second : Number.Binary64}
    (hequal : first.equal second = true) (third : Number.Binary64) :
    first.equal third = second.equal third := by
  cases first with
  | nan label => cases second <;> cases hequal
  | infinite negative =>
      cases second with
      | infinite other =>
          cases beq_iff_eq.mp hequal
          rfl
      | finite _ _ _ | nan _ => cases hequal
  | finite negative mantissa exponent =>
      cases second with
      | infinite _ | nan _ => cases hequal
      | finite other digits power =>
          simp only [equal, Bool.or_eq_true, Bool.and_eq_true, beq_iff_eq] at hequal
          rcases hequal with ⟨rfl, rfl⟩ | ⟨⟨rfl, rfl⟩, rfl⟩
          · cases third with
            | infinite _ | nan _ => rfl
            | finite _ last _ =>
                -- Two zeros differ in sign and exponent only, and no third zero tells them apart.
                cases last with
                | zero => rfl
                | succ last => simp [equal]
          · rfl

namespace Value

/-- Atoms that are equal and of one type: one atom, two forms of a number, or two series. -/
inductive SameAtom : Value → Value → Prop
  | same (value : Value) : SameAtom value value
  | float {x y : Number.Binary64} (hequal : x.equal y = true) : SameAtom (.float x) (.float y)
  | list (items others : List Value) : SameAtom (.list items) (.list others)
  | tuple (items others : List Value) : SameAtom (.tuple items) (.tuple others)

theorem sameAtom_of_identicalTo {value other : Value} (hatom : value.isNode = false)
    (hidentical : value.identicalTo other = true) : SameAtom value other := by
  obtain ⟨htype, hequal⟩ := Bool.and_eq_true_iff.mp hidentical
  cases value with
  | node id type loc children => cases hatom
  | float x => cases other <;> first | exact .float hequal | cases htype
  | list items => cases other <;> first | exact .list .. | cases htype
  | tuple items => cases other <;> first | exact .tuple .. | cases htype
  | absent => cases other <;> first | exact .same _ | cases htype
  | bool b =>
      cases other with
      | bool c => cases b <;> cases c <;> first | exact .same _ | cases hequal
      | _ => cases htype
  | int i =>
      cases other with
      | int j =>
          cases beq_iff_eq.mp hequal
          exact .same _
      | _ => cases htype
  | str s =>
      cases other with
      | str t =>
          cases beq_iff_eq.mp hequal
          exact .same _
      | _ => cases htype
  | sym name =>
      cases other with
      | sym found =>
          cases beq_iff_eq.mp hequal
          exact .same _
      | _ => cases htype
  | foreign kind text =>
      cases other with
      | foreign sort found =>
          obtain ⟨hkind, htext⟩ := Bool.and_eq_true_iff.mp hequal
          cases beq_iff_eq.mp hkind
          cases beq_iff_eq.mp htext
          exact .same _
      | _ => cases htype

/-- Of one structure: nodes of one type whose children are of one structure in turn, lists of
such, and other values that are equal and of one type. -/
inductive Resembles : Value → Value → Prop
  | node {id other : Nat} {type : String} {loc range : Option Range} {children others : List Value}
      (hchildren : List.Forall₂ Resembles children others) :
      Resembles (.node id type loc children) (.node other type range others)
  | list {items others : List Value} (hitems : List.Forall₂ Resembles items others) :
      Resembles (.list items) (.list others)
  | atom {value other : Value} (hatom : value.isNode = false)
      (hidentical : value.identicalTo other = true) : Resembles value other
  | same (value : Value) : Resembles value value

namespace Resembles

theorem isCongruence : IsCongruence Resembles where
  node := by
    intro value other resembles
    cases resembles with
    | node hchildren => exact .some hchildren
    | list hitems => exact .none
    | @atom value other hatom hidentical =>
        cases value with
        | node id type loc children => cases hatom
        | _ => cases other <;> first | exact .none | cases hidentical
    | same =>
        cases value.node? with
        | none => exact .none
        | some node => exact .some (List.forall₂_same.mpr fun child _ => .same child)
  list := .list

end Resembles

theorem resembles_of_alike {value other : Value} (same : value.alike other = true) :
    other.Resembles value := by
  induction value using induct generalizing other with
  | node id type loc children induction =>
      cases other with
      | node twin type' range others =>
          rw [alike, Bool.and_eq_true, beq_iff_eq] at same
          obtain ⟨rfl, hall⟩ := same
          refine .node ?_
          induction children generalizing others with
          | nil =>
              cases others with
              | nil => exact .nil
              | cons other rest => cases hall
          | cons child children induction' =>
              cases others with
              | nil => cases hall
              | cons other rest =>
                  rw [alikeAll, Bool.and_eq_true] at hall
                  exact .cons (induction child (.head _) hall.1)
                    (induction' (fun later member => induction later (.tail _ member)) rest hall.2)
      | _ => cases same
  | _ =>
      cases other with
      | node twin type range others => cases same
      | _ => exact .atom rfl same

end Value

namespace Leaf

/-- The leaf asks for no argument. -/
def IsClosed : Leaf → Prop
  | position _ => False
  | named _ => False
  | _ => True

theorem holds_sameAtom {value other : Value} (same : value.SameAtom other) {leaf : Leaf}
    (closed : leaf.IsClosed) (scene twin : Scene) :
    leaf.holds scene value = leaf.holds twin other := by
  cases leaf with
  | position index | named name => exact closed.elim
  | float expected =>
      cases same with
      | float hequal => exact Number.Binary64.equal_congr hequal expected
      | _ => rfl
  | _ => cases same <;> rfl

theorem answer_resembles {value other : Value} (resembles : value.Resembles other) {leaf : Leaf}
    (closed : leaf.IsClosed) (scene twin : Scene) :
    leaf.answer scene value = leaf.answer twin other := by
  have hprovided : leaf.isProvided scene = leaf.isProvided twin := by
    cases leaf with
    | position index | named name => exact closed.elim
    | _ => rfl
  have hholds : leaf.holds scene value = leaf.holds twin other := by
    cases resembles with
    | node hchildren =>
        cases leaf with
        | position index | named name => exact closed.elim
        | _ => rfl
    | list hitems => exact holds_sameAtom (.list ..) closed scene twin
    | atom hatom hidentical =>
        exact holds_sameAtom (Value.sameAtom_of_identicalTo hatom hidentical) closed scene twin
    | same => exact holds_sameAtom (.same _) closed scene twin
  rw [answer, answer, hprovided, hholds]

end Leaf

namespace Matcher

/-- What a call returns for an answer of the test and the slots that it leaves. -/
def conclusion (slots : List Value) : Except RunFault Bool → Except Failure Value
  | .ok true => .ok (resultOf slots)
  | .ok false => .ok .absent
  | .error fault => .error (.run fault)

structure Concludes (matcher : Matcher) (document : Document) (subject : Value)
    (arguments : Arguments) (answer : Except RunFault Bool) (slots : List Value) : Prop where
  answers : (matcher.test.run ⟨document, subject, matcher.bind arguments, []⟩
    ⟨List.replicate matcher.slots .absent, []⟩).1 = answer
  leaves : matcher.slotsAfter document subject arguments = slots
  returns : (matcher.call document subject arguments).returned = conclusion slots answer

theorem concludes_of_run {matcher : Matcher} {arguments : Arguments}
    (accepts : matcher.Accepts arguments)
    (htraced : matcher.recording = true → arguments.keywords.lookup traceName = some .recorder)
    {document : Document} {subject : Value} {result : RunResult}
    (hrun : matcher.test.run ⟨document, subject, matcher.bind arguments, []⟩
      ⟨List.replicate matcher.slots .absent, []⟩ = result) :
    matcher.Concludes document subject arguments result.1 result.2.slots := by
  refine ⟨by rw [hrun], by rw [slotsAfter, hrun], ?_⟩
  rw [call_of_accepts accepts htraced, execute, hrun]
  obtain ⟨answer, state⟩ := result
  rcases answer with fault | _ | _ <;> rfl

end Matcher

end TreeMatch

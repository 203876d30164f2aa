import TreeMatch.Proofs.Identity
import TreeMatch.Term.Equality
import TreeMatch.Term.Printer

/-! Patterns apart from the places where they stand. -/

namespace TreeMatch

variable {chart : Text.CodeChart}

namespace Range

def moved (distance : Nat) (range : Range) : Range :=
  ⟨range.start + distance, range.size⟩

def back (distance : Nat) (range : Range) : Range :=
  ⟨range.start - distance, range.size⟩

theorem moved_back {distance : Nat} {range : Range} (hstart : distance ≤ range.start) :
    (range.back distance).moved distance = range := by
  unfold back moved
  rw [Nat.sub_add_cancel hstart]

theorem between_back {distance start : Nat} (hstart : distance ≤ start) (stop : Nat) :
    between (start - distance) (stop - distance) = (between start stop).back distance := by
  unfold between back
  rw [show stop - distance - (start - distance) = stop - start by omega]

end Range

namespace Pattern

mutual

def relocated (move : Range → Range) : Pattern α → Pattern α
  | leaf loc value => leaf (move loc) value
  | marked loc mark inner => marked (move loc) mark (relocated move inner)
  | repeated loc inner quantity => repeated (move loc) (relocated move inner) quantity
  | grouped loc bracket first others =>
    grouped (move loc) bracket (relocated move first) (relocatedAll move others)
termination_by structural pattern => pattern

def relocatedAll (move : Range → Range) : List (Pattern α) → List (Pattern α)
  | [] => []
  | pattern :: rest => relocated move pattern :: relocatedAll move rest
termination_by structural patterns => patterns

end

def unplaced (pattern : Pattern α) : Pattern α :=
  pattern.relocated fun _ => ⟨0, 0⟩

section Relocation

variable {move : Range → Range}

@[simp] theorem loc_relocated (pattern : Pattern α) :
    (pattern.relocated move).loc = move pattern.loc := by
  cases pattern <;> rfl

theorem walkAll_relocatedAll {patterns : List (Pattern α)}
    (each : ∀ pattern ∈ patterns,
      (pattern.relocated move).walk = pattern.walk.map (relocated move)) :
    walkAll (relocatedAll move patterns) = (walkAll patterns).map (relocated move) := by
  induction patterns with
  | nil => rfl
  | cons pattern rest induction =>
      have later := induction fun other member => each other (by simp [member])
      rw [relocatedAll, walkAll, walkAll, each pattern (by simp), later, List.map_append]

theorem walk_relocated (pattern : Pattern α) :
    (pattern.relocated move).walk = pattern.walk.map (relocated move) := by
  induction pattern using induct with
  | leaf loc value => rfl
  | marked loc mark inner induction => rw [relocated, walk, walk, induction]; rfl
  | repeated loc inner quantity induction => rw [relocated, walk, walk, induction]; rfl
  | grouped loc bracket first others firstHolds othersHold =>
      rw [relocated, walk, walk, firstHolds, walkAll_relocatedAll othersHold, ← List.map_append]
      rfl

/-- Decoding that takes ranges for its reports only goes the same way at other places. -/
theorem decodeLeaves_relocated {decode : Range → α → Except ε β}
    (hdecode : ∀ loc other value found, decode loc value = .ok found →
      decode other value = .ok found)
    {pattern : Pattern α} {found : Pattern β} (hfound : pattern.decodeLeaves decode = .ok found) :
    (pattern.relocated move).decodeLeaves decode = .ok (found.relocated move) := by
  induction pattern using induct generalizing found with
  | leaf loc value =>
      obtain ⟨result, hresult, hdone⟩ := bind_ok hfound
      cases hdone
      rw [relocated, decodeLeaves, hdecode loc (move loc) value result hresult]
      rfl
  | marked loc mark inner induction =>
      obtain ⟨result, hresult, hdone⟩ := bind_ok hfound
      cases hdone
      rw [relocated, decodeLeaves, induction hresult]
      rfl
  | repeated loc inner quantity induction =>
      obtain ⟨result, hresult, hdone⟩ := bind_ok hfound
      cases hdone
      rw [relocated, decodeLeaves, induction hresult]
      rfl
  | grouped loc bracket first others firstHolds othersHold =>
      obtain ⟨head, hhead, hrest⟩ := bind_ok hfound
      obtain ⟨tail, htail, hdone⟩ := bind_ok hrest
      cases hdone
      have hothers : decodeLeavesAll decode (relocatedAll move others) =
          .ok (relocatedAll move tail) := by
        -- These speak of the whole list, and the induction is on it.
        clear hrest hfound firstHolds hhead
        induction others generalizing tail with
        | nil =>
            cases htail
            rfl
        | cons other rest induction =>
            obtain ⟨early, hearly, hlater⟩ := bind_ok htail
            obtain ⟨late, hlate, hboth⟩ := bind_ok hlater
            cases hboth
            have later := induction (fun another member => othersHold another (by simp [member]))
              late hlate
            rw [relocatedAll, decodeLeavesAll, othersHold other (by simp) hearly, ok_bind, later]
            rfl
      rw [relocated, decodeLeaves, firstHolds hhead, ok_bind, hothers]
      rfl

end Relocation

end Pattern

theorem Leaf.decode_elsewhere (loc other : Range) (lexed : Lexed) (value : Leaf)
    (hdecode : decode chart loc lexed = .ok value) : decode chart other lexed = .ok value := by
  obtain ⟨kind, taken⟩ := lexed
  cases kind with
  | string =>
      change decodeString chart loc taken = _ at hdecode
      change decodeString chart other taken = _
      unfold decodeString at hdecode ⊢
      split at hdecode
      · exact hdecode
      · cases hdecode
  | rest | wildcard | nil | symbol | number | param | predicate | nodeType | punct => exact hdecode

namespace Term

mutual

def unplaced : Term → Term
  | atom value => atom value
  | node _ tag _ children => node 0 tag none (unplacedAll children)
termination_by structural term => term

def unplacedAll : List Term → List Term
  | [] => []
  | child :: rest => unplaced child :: unplacedAll rest
termination_by structural terms => terms

end

@[simp] theorem pretty_unplaced (term : Term) : term.unplaced.pretty = term.pretty := by
  induction term using induct with
  | atom value => rfl
  | node key tag loc children each =>
      have hall : prettyAll (unplacedAll children) = prettyAll children := by
        induction children with
        | nil => rfl
        | cons child rest induction =>
            have later := induction fun other member => each other (by simp [member])
            rw [unplacedAll, prettyAll, prettyAll, each child (by simp), later]
      rw [unplaced, pretty, pretty, hall]

theorem equal_unplaced (first second : Term) :
    equal first.unplaced second.unplaced = equal first second := by
  induction first using induct generalizing second with
  | atom value => cases second <;> rfl
  | node key tag loc children each =>
      cases second with
      | atom value => rfl
      | node key' tag' loc' children' =>
          have hall : equalAll (unplacedAll children) (unplacedAll children') =
              equalAll children children' := by
            clear key' loc'
            induction children generalizing children' with
            | nil => cases children' <;> rfl
            | cons child rest induction =>
                cases children' with
                | nil => rfl
                | cons child' rest' =>
                    have later := induction (fun other member => each other (by simp [member]))
                      rest'
                    rw [unplacedAll, unplacedAll, equalAll, equalAll, each child (by simp), later]
          rw [unplaced, unplaced, equal, equal, hall]

theorem same_self (value : Value) :
    (value.sameUndefined value || value.equal value) = true := by
  induction value using Value.induct with
  | absent => rfl
  | bool b => simp [Value.equal, Value.numberEqual, Value.asInt?]
  | int i => simp [Value.equal, Value.numberEqual, Value.asInt?]
  | float x =>
      cases x with
      | finite negative mantissa exponent =>
          simp [Value.equal, Value.numberEqual, Number.Binary64.equal]
      | infinite negative => simp [Value.equal, Value.numberEqual, Number.Binary64.equal]
      | nan label => simp [Value.sameUndefined]
  | str s => simp [Value.equal]
  | sym name => simp [Value.equal]
  | foreign kind text => simp [Value.equal]
  | node id type loc children each => simp [Value.equal]
  | list items each | tuple items each =>
      have hall : Value.equalAll items items = true := by
        induction items with
        | nil => rfl
        | cons item rest induction =>
            have later := induction fun other member => each other (by simp [member])
            rw [Value.equalAll, each item (by simp), later]
            rfl
      rw [Value.equal, hall, Bool.or_true]

theorem equal_self (term : Term) : equal term term = true := by
  induction term using induct with
  | atom value => exact same_self value
  | node key tag loc children each =>
      have hall : equalAll children children = true := by
        induction children with
        | nil => rfl
        | cons child rest induction =>
            have later := induction fun other member => each other (by simp [member])
            rw [equalAll, each child (by simp), later]
            rfl
      rw [equal, hall, beq_self_eq_true]
      rfl

theorem equal_of_unplaced {first second : Term} (hsame : first.unplaced = second.unplaced) :
    equal first second = true := by
  rw [← equal_unplaced, hsame, equal_self]

theorem pretty_of_unplaced {first second : Term} (hsame : first.unplaced = second.unplaced) :
    first.pretty = second.pretty := by
  rw [← pretty_unplaced, hsame, pretty_unplaced]

end Term

theorem Pattern.unplaced_termFrom (pattern : Pattern Leaf) (move : Range → Range)
    (next next' : Nat) :
    ((pattern.relocated move).termFrom next).unplaced = (pattern.termFrom next').unplaced := by
  have among : ∀ {patterns : List (Pattern Leaf)},
      (∀ pattern ∈ patterns, ∀ next next',
        ((pattern.relocated move).termFrom next).unplaced = (pattern.termFrom next').unplaced) →
      ∀ next next', Term.unplacedAll (termsFrom next (relocatedAll move patterns)) =
        Term.unplacedAll (termsFrom next' patterns) := by
    intro patterns each
    induction patterns with
    | nil => exact fun _ _ => rfl
    | cons pattern rest induction =>
        intro next next'
        have later := induction fun other member => each other (by simp [member])
        rw [relocatedAll, termsFrom, termsFrom, Term.unplacedAll, Term.unplacedAll,
          each pattern (by simp) next next', later _ (next' + pattern.size)]
  induction pattern using induct generalizing next next' with
  | leaf loc value => rfl
  | marked loc mark inner induction =>
      simp only [relocated, termFrom_marked, Term.unplaced, Term.unplacedAll,
        induction (next + 1) (next' + 1)]
  | repeated loc inner quantity induction =>
      simp only [relocated, termFrom_repeated, Term.unplaced, Term.unplacedAll,
        induction (next + 1) (next' + 1)]
  | grouped loc bracket first others firstHolds othersHold =>
      rw [relocated, termFrom_grouped, termFrom_grouped, Term.unplaced, Term.unplaced,
        Term.unplacedAll, Term.unplacedAll, firstHolds (next + 1) (next' + 1),
        among othersHold _ (next' + 1 + first.size)]

end TreeMatch

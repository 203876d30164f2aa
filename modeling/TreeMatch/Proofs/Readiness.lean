import TreeMatch.Proofs.Execution

/-! When a pattern is ready to be executed on values: it is not rejected, the values suit it, and
there are slots for its captures. Its parts are then ready for what they are executed on. -/

namespace TreeMatch

namespace Pattern

theorem standing_of_isVariadic {pattern : Pattern Leaf} {standing : Standing}
    (hnone : pattern.rejection? standing = none) (hvariadic : pattern.isVariadic = true) :
    standing = .term := by
  induction pattern using induct with
  | leaf loc value =>
      cases value with
      | rest =>
          cases standing with
          | term => rfl
          | outside | within => cases hnone
      | _ => cases hvariadic
  | marked loc mark inner induction =>
      cases mark with
      | capture => exact induction hnone hvariadic
      | negation | ascend => cases hvariadic
  | repeated loc inner quantity induction =>
      cases standing with
      | term => rfl
      | outside | within => cases hnone
  | grouped loc bracket first others firstHolds othersHold => cases hvariadic

structure Suits (pattern : Pattern Leaf) (values : List Value) : Prop where
  single : pattern.isVariadic = false → ∃ subject, values = [subject]
  arity : pattern.isVariadic = true → pattern.arity.1 ≤ values.length ∧
    ∀ most, pattern.arity.2 = some most → values.length ≤ most

theorem suits_single {pattern : Pattern Leaf} (hfixed : pattern.isVariadic = false)
    (subject : Value) : pattern.Suits [subject] :=
  ⟨fun _ => ⟨subject, rfl⟩,
    fun hvariadic => absurd (hfixed.symm.trans hvariadic) Bool.false_ne_true⟩

theorem captured_eq_kept {pattern : Pattern Leaf} {values : List Value}
    (suits : pattern.Suits values) :
    pattern.captured values = some (pattern.kept (pattern.subjectOf values)) := by
  unfold captured kept subjectOf
  cases hvariadic : pattern.isVariadic with
  | true => rfl
  | false =>
      obtain ⟨subject, rfl⟩ := suits.single hvariadic
      rfl

theorem not_isVariadic {pattern : Pattern Leaf} {standing : Standing}
    (hnone : pattern.rejection? standing = none) (hstanding : standing ≠ .term) :
    pattern.isVariadic = false := by
  cases hvariadic : pattern.isVariadic with
  | true => exact absurd (standing_of_isVariadic hnone hvariadic) hstanding
  | false => rfl

theorem subjectOf_single {pattern : Pattern Leaf} (hfixed : pattern.isVariadic = false)
    (subject : Value) : pattern.subjectOf [subject] = subject := by
  rw [subjectOf, hfixed]
  rfl

theorem slots_of_uncaptured {pattern : Pattern Leaf}
    (huncaptured : pattern.walk.any isCapture = false) : pattern.slots = 0 := by
  induction pattern using induct with
  | leaf loc value => rfl
  | marked loc mark inner induction =>
      rw [walk, List.any_cons, Bool.or_eq_false_iff] at huncaptured
      cases mark with
      | capture => cases huncaptured.1
      | negation | ascend => exact induction huncaptured.2
  | repeated loc inner quantity induction =>
      rw [walk, List.any_cons, Bool.or_eq_false_iff] at huncaptured
      exact induction huncaptured.2
  | grouped loc bracket first others firstHolds othersHold =>
      rw [walk, List.any_cons, Bool.or_eq_false_iff, List.any_append,
        Bool.or_eq_false_iff] at huncaptured
      obtain ⟨-, hfirst, hothers⟩ := huncaptured
      have hall : slotsAll others = 0 := by
        induction others with
        | nil => rfl
        | cons other rest induction =>
            rw [walkAll, List.any_append, Bool.or_eq_false_iff] at hothers
            rw [slotsAll, othersHold other (by simp) hothers.1,
              induction (fun later member => othersHold later (by simp [member])) hothers.2]
      cases bracket with
      | union => exact firstHolds hfirst
      | sequence | intersection =>
          change first.slots + slotsAll others = 0
          rw [firstHolds hfirst, hall]

def Suited : List (Pattern Leaf) → List Value → Prop
  | [], children => children = []
  | term :: rest, children =>
    term.Suits (children.take (term.share rest.length children.length)) ∧
      Suited rest (children.drop (term.share rest.length children.length))

theorem suited_append {before rest : List (Pattern Leaf)}
    (hfixed : ∀ term ∈ before, term.isVariadic = false) {children : List Value}
    (hroom : before.length ≤ children.length)
    (hrest : Suited rest (children.drop before.length)) : Suited (before ++ rest) children := by
  induction before generalizing children with
  | nil => exact hrest
  | cons term before induction =>
      have hterm := hfixed term (by simp)
      cases children with
      | nil => cases hroom
      | cons child children =>
          refine ⟨?_, ?_⟩
          · rw [share_fixed hterm]
            exact suits_single hterm child
          · rw [share_fixed hterm]
            exact induction (fun other member => hfixed other (by simp [member]))
              (Nat.le_of_succ_le_succ hroom) hrest

theorem suited_of_countOf {terms : List (Pattern Leaf)} (layout : Layout terms)
    {children : List Value} (hcount : (countOf terms).holds children.length = true) :
    Suited terms children := by
  cases layout with
  | fixed _ hfixed =>
      rw [countOf_fixed hfixed, Count.holds, beq_iff_eq] at hcount
      have hnone : Suited [] (children.drop terms.length) := List.drop_eq_nil_of_le (by omega)
      have hsuited := suited_append hfixed (by omega) hnone
      rwa [List.append_nil] at hsuited
  | split before middle after hbefore hmiddle hafter =>
      rw [countOf_split after hbefore hmiddle, holds_countFor] at hcount
      obtain ⟨hleast, hmost⟩ := hcount
      refine suited_append hbefore (by omega) ⟨⟨?_, ?_⟩, ?_⟩
      · intro hfixed
        rw [hfixed] at hmiddle
        cases hmiddle
      · intro _
        rw [share_variadic hmiddle, List.length_take, List.length_drop]
        refine ⟨by omega, fun most harity => ?_⟩
        have hupper := hmost most harity
        omega
      · rw [share_variadic hmiddle, List.length_drop, List.drop_drop]
        have hlength : (children.drop
            (before.length + (children.length - before.length - after.length))).length =
              after.length := by
          rw [List.length_drop]
          omega
        have hnone : Suited [] ((children.drop
            (before.length + (children.length - before.length - after.length))).drop
              after.length) := List.drop_eq_nil_of_le (Nat.le_of_eq hlength)
        have hsuited := suited_append hafter (Nat.le_of_eq hlength.symm) hnone
        rwa [List.append_nil] at hsuited

structure Ready (standing : Standing) (tally : Tally) (room : Nat) (pattern : Pattern Leaf)
    (values : List Value) : Prop where
  unrejected : pattern.rejection? standing = none
  suits : pattern.Suits values
  fits : tally.slot + pattern.slots ≤ room

def ReadyAny (standing : Standing) (tally : Tally) (room : Nat) :
    List (Pattern Leaf) → Value → Prop
  | [], _ => True
  | pattern :: rest, subject =>
    Ready standing tally room pattern [subject] ∧
      ReadyAny standing (tally.beside pattern) room rest subject

def ReadyEach (standing : Standing) (tally : Tally) (room : Nat) :
    List (Pattern Leaf) → Value → Prop
  | [], _ => True
  | pattern :: rest, subject =>
    Ready standing tally room pattern [subject] ∧
      ReadyEach standing (tally.after pattern) room rest subject

def ReadyTerms (tally : Tally) (room : Nat) : List (Pattern Leaf) → List Value → Prop
  | [], children => children = []
  | term :: rest, children =>
    Ready .term tally room term (children.take (term.share rest.length children.length)) ∧
      ReadyTerms (tally.after term) room rest
        (children.drop (term.share rest.length children.length))

theorem readyAny_of_unrejected {standing : Standing} (hstanding : standing ≠ .term)
    {patterns : List (Pattern Leaf)} (hnone : rejectionAmong? standing patterns = none)
    {width : Nat} (hwidth : ∀ pattern ∈ patterns, pattern.slots = width) {tally : Tally}
    {room : Nat} (hroom : tally.slot + width ≤ room) (subject : Value) :
    ReadyAny standing tally room patterns subject := by
  induction patterns generalizing tally with
  | nil => trivial
  | cons pattern rest induction =>
      rw [rejectionAmong?, Option.or_eq_none_iff] at hnone
      have hfixed := not_isVariadic hnone.1 hstanding
      refine ⟨⟨hnone.1, suits_single hfixed subject, ?_⟩, ?_⟩
      · rw [hwidth pattern (by simp)]
        exact hroom
      · exact induction hnone.2 (fun other member => hwidth other (by simp [member])) hroom

theorem readyEach_of_unrejected {standing : Standing} (hstanding : standing ≠ .term)
    {patterns : List (Pattern Leaf)} (hnone : rejectionAmong? standing patterns = none)
    {tally : Tally} {room : Nat} (hroom : tally.slot + slotsAll patterns ≤ room)
    (subject : Value) : ReadyEach standing tally room patterns subject := by
  induction patterns generalizing tally with
  | nil => trivial
  | cons pattern rest induction =>
      rw [rejectionAmong?, Option.or_eq_none_iff] at hnone
      rw [slotsAll, ← Nat.add_assoc] at hroom
      have hfixed := not_isVariadic hnone.1 hstanding
      exact ⟨⟨hnone.1, suits_single hfixed subject, by omega⟩, induction hnone.2 hroom⟩

theorem readyTerms_of_suited {terms : List (Pattern Leaf)}
    (hnone : rejectionAmong? .term terms = none) {children : List Value}
    (hsuited : Suited terms children) {tally : Tally} {room : Nat}
    (hroom : tally.slot + slotsAll terms ≤ room) : ReadyTerms tally room terms children := by
  induction terms generalizing tally children with
  | nil => exact hsuited
  | cons term rest induction =>
      rw [rejectionAmong?, Option.or_eq_none_iff] at hnone
      rw [slotsAll, ← Nat.add_assoc] at hroom
      exact ⟨⟨hnone.1, hsuited.1, by omega⟩, induction hnone.2 hsuited.2 hroom⟩

namespace Ready

variable {standing : Standing} {tally : Tally} {room : Nat} {pattern inner first : Pattern Leaf}
  {others : List (Pattern Leaf)} {values : List Value} {subject : Value} {loc : Range}
  {quantity : Quantity}

theorem fixed (ready : Ready standing tally room pattern values) (hstanding : standing ≠ .term) :
    pattern.isVariadic = false :=
  not_isVariadic ready.unrejected hstanding

theorem captured (ready : Ready standing tally room (marked loc .capture inner) values) :
    Ready standing tally.captured room inner values := by
  have hroom : tally.slot + (inner.slots + 1) ≤ room := ready.fits
  refine ⟨ready.unrejected, ⟨ready.suits.single, ready.suits.arity⟩, ?_⟩
  change tally.slot + 1 + inner.slots ≤ room
  omega

theorem negated (ready : Ready standing tally room (marked loc .negation inner) [subject]) :
    Ready standing.inner tally.inner room inner [subject] :=
  have hnone : inner.rejection? standing.inner = none := ready.unrejected
  ⟨hnone, suits_single (not_isVariadic hnone standing.inner_ne_term) subject, ready.fits⟩

theorem above (ready : Ready standing tally room (marked loc .ascend inner) values)
    (above : Value) : Ready standing.inner tally.inner room inner [above] :=
  have hnone : inner.rejection? standing.inner = none := ready.unrejected
  ⟨hnone, suits_single (not_isVariadic hnone standing.inner_ne_term) above, ready.fits⟩

/-- The body of a repetition takes no slot, and the repetition is allowed on the values. -/
theorem element (ready : Ready standing tally room (repeated loc inner quantity) values) :
    inner.slots = 0 ∧ quantity.allows values.length = true ∧
      ∀ value, Ready .within tally.repeated room inner [value] := by
  have hnone := ready.unrejected
  have hroom : tally.slot + inner.slots ≤ room := ready.fits
  cases standing with
  | outside | within => cases hnone
  | term =>
      rw [rejection?] at hnone
      split at hnone
      · cases hnone
      · rename_i hcaptures
        have hfixed := not_isVariadic hnone Standing.noConfusion
        refine ⟨slots_of_uncaptured (Bool.eq_false_iff.mpr hcaptures), ?_, ?_⟩
        · obtain ⟨hleast, hmost⟩ := ready.suits.arity rfl
          cases quantity with
          | any => rfl
          | atLeastOnce => exact decide_eq_true hleast
          | atMostOnce => exact decide_eq_true (hmost 1 rfl)
        · exact fun value => ⟨hnone, suits_single hfixed value, hroom⟩

theorem branches (ready : Ready standing tally room (grouped loc .union first others) values) :
    (∀ pattern ∈ first :: others, pattern.slots = first.slots) ∧
      ∀ subject, ReadyAny standing.inner tally.inner room (first :: others) subject := by
  have hnone := ready.unrejected
  rw [rejection?, Option.or_eq_none_iff] at hnone
  obtain ⟨hbranches, hbalance⟩ := hnone
  have hslots : ∀ pattern ∈ first :: others, pattern.slots = first.slots := by
    intro pattern member
    split at hbalance
    · rename_i hall
      cases member with
      | head => rfl
      | tail _ inOthers => exact beq_iff_eq.mp (List.all_eq_true.mp hall pattern inOthers)
    · cases hbalance
  have hall : rejectionAmong? standing.inner (first :: others) = none := hbranches
  have hroom : tally.inner.slot + first.slots ≤ room := ready.fits
  exact ⟨hslots, readyAny_of_unrejected standing.inner_ne_term hall hslots hroom⟩

theorem members (ready : Ready standing tally room (grouped loc .intersection first others) values)
    (subject : Value) : ReadyEach standing.inner tally.inner room (first :: others) subject := by
  have hall : rejectionAmong? standing.inner (first :: others) = none := ready.unrejected
  have hroom : tally.inner.slot + slotsAll (first :: others) ≤ room := ready.fits
  exact readyEach_of_unrejected standing.inner_ne_term hall hroom subject

/-- The head of a sequence can be executed on a node, and its terms on as many children as they
ask for. -/
theorem terms (ready : Ready standing tally room (grouped loc .sequence first others) [subject]) :
    Layout others ∧ Ready .within tally.inner room first [subject] ∧
      ∀ children : List Value, (countOf others).holds children.length = true →
        ReadyTerms (tally.inner.after first) room others children := by
  have hnone := ready.unrejected
  have hroom : tally.slot + (first.slots + slotsAll others) ≤ room := ready.fits
  rw [rejection?, Option.or_eq_none_iff, Option.or_eq_none_iff] at hnone
  obtain ⟨hcrowded, hhead, hterms⟩ := hnone
  have layout := layout_of_crowding? hcrowded
  have hfixed := not_isVariadic hhead Standing.noConfusion
  refine ⟨layout, ⟨hhead, suits_single hfixed subject, ?_⟩, fun children hcount => ?_⟩
  · change tally.slot + first.slots ≤ room
    omega
  · apply readyTerms_of_suited hterms (suited_of_countOf layout hcount)
    change tally.slot + first.slots + slotsAll others ≤ room
    omega

end Ready

end Pattern

end TreeMatch

import TreeMatch.Pattern.Reader
import TreeMatch.Proofs.Parts

/-! What the leaves of a pattern that was read from a text look like. -/

namespace TreeMatch

variable {chart : Text.CodeChart}

namespace Grammar.Rule

def Yields (rule : Rule α) (property : α → Prop) : Prop :=
  ∀ cursor misses value next, rule cursor = ⟨misses, some (value, next)⟩ → property value

namespace Yields

theorem any (rule : Rule α) : rule.Yields fun _ => True :=
  fun _ _ _ _ _ => trivial

theorem pure {property : α → Prop} {value : α} (hvalue : property value) :
    Rule.Yields (Pure.pure value) property := by
  intro cursor misses found next hread
  cases hread
  exact hvalue

theorem bind {rule : Rule α} {next : α → Rule β} {first : α → Prop} {property : β → Prop}
    (hrule : rule.Yields first) (hnext : ∀ value, first value → (next value).Yields property) :
    Rule.Yields (rule >>= next) property := by
  intro cursor misses found last hread
  change Rule.andThen rule next cursor = _ at hread
  unfold Rule.andThen at hread
  split at hread
  · cases hread
  · rename_i before value behind hfirst
    have hvalue := hrule cursor before value behind hfirst
    exact hnext value hvalue behind (next value behind).misses found last
      (by rw [← (Outcome.mk.inj hread).2])

theorem named {rule : Rule α} {property : α → Prop} (hrule : rule.Yields property) :
    (Rule.named rule).Yields property := by
  intro cursor misses value next hread
  unfold Rule.named at hread
  split at hread
  · cases hread
  · exact hrule cursor misses value next hread

theorem orElse {first second : Rule α} {property : α → Prop} (hfirst : first.Yields property)
    (hsecond : second.Yields property) : (Rule.orElse first second).Yields property := by
  intro cursor misses value next hread
  unfold Rule.orElse at hread
  split at hread
  · rename_i before result hresult
    cases hread
    exact hfirst cursor _ value next hresult
  · exact hsecond cursor (second cursor).misses value next (by rw [← (Outcome.mk.inj hread).2])

theorem choice {first : Rule α} {others : List (Rule α)} {property : α → Prop}
    (hfirst : first.Yields property) (hothers : ∀ other ∈ others, other.Yields property) :
    (Rule.choice first others).Yields property := by
  unfold Rule.choice
  induction others generalizing first with
  | nil => exact hfirst
  | cons other rest induction =>
      exact induction (hfirst.orElse (hothers other (by simp)))
        (fun later member => hothers later (by simp [member]))

theorem manyWithin {rule : Rule α} {property : α → Prop} (hrule : rule.Yields property)
    (fuel : Nat) :
    (Rule.manyWithin rule fuel).Yields fun values => ∀ value ∈ values, property value := by
  induction fuel with
  | zero =>
      intro cursor misses values next hread
      cases hread
      simp
  | succ fuel induction =>
      intro cursor misses values next hread
      unfold Rule.manyWithin at hread
      split at hread
      · cases hread
        simp
      · split at hread
        · cases hread
          simp
        · rename_i before value behind hfirst
          have hvalue := hrule cursor before value behind hfirst
          split at hread
          · cases hread
            simpa using hvalue
          · split at hread
            · rename_i more others last hothers
              cases hread
              have hrest := induction behind more others next hothers
              simpa using ⟨hvalue, hrest⟩
            · cases hread

theorem many {rule : Rule α} {property : α → Prop} (hrule : rule.Yields property) :
    (Rule.many rule).Yields fun values => ∀ value ∈ values, property value :=
  fun cursor => manyWithin hrule cursor.rest.length cursor

theorem lexeme (take : List Char → Option (List Char × List Char)) :
    (Rule.lexeme take).Yields fun taken => ∃ text rest, take text = some (taken, rest) := by
  intro cursor misses taken next hread
  unfold Rule.lexeme at hread
  split at hread
  · cases hread
  · rename_i found rest htake
    cases hread
    exact ⟨cursor.rest, rest, htake⟩

end Yields

theorem readAll_yields {rule : Rule α} {property : α → Prop} (hrule : rule.Yields property)
    {text : List Char} {value : α} (hread : rule.readAll text = .ok value) : property value := by
  unfold Rule.readAll at hread
  split at hread
  · cases hread
  · rename_i misses found cursor hfound
    split at hread
    · cases hread
      exact hrule _ misses value cursor hfound
    · cases hread

end Grammar.Rule

namespace PatternText

open Grammar

def IsTaken (lexed : Lexed) : Prop :=
  ∃ text rest, lexed.kind.take text = some (lexed.text, rest)

section Rules

variable {term : Rule (Pattern Lexed)}

theorem yields_leaf (kind : TokenKind) : (leaf kind).Yields (Pattern.EachLeaf IsTaken) := by
  have htoken : (token kind).Yields fun token =>
      ∃ text rest, kind.take text = some (token.text, rest) := by
    refine Rule.Yields.named (Rule.Yields.bind (Rule.Yields.any _) fun start _ => ?_)
    exact Rule.Yields.bind (Rule.Yields.lexeme _) fun text htext => Rule.Yields.pure htext
  refine Rule.Yields.bind htoken fun token htaken => Rule.Yields.pure ?_
  rw [Pattern.eachLeaf_leaf]
  exact htaken

theorem yields_spanned (property : α → Prop) {rule : Rule α} (hrule : rule.Yields property) :
    (spanned rule).Yields fun found => property found.2 := by
  refine Rule.Yields.bind (Rule.Yields.any _) fun start _ => ?_
  refine Rule.Yields.bind hrule fun value hvalue => ?_
  exact Rule.Yields.bind (Rule.Yields.any _) fun stop _ => Rule.Yields.pure hvalue

variable (hterm : term.Yields (Pattern.EachLeaf IsTaken))
include hterm

theorem yields_marked (mark : Mark) : (marked mark term).Yields (Pattern.EachLeaf IsTaken) := by
  refine Rule.Yields.named (Rule.Yields.bind
    (yields_spanned (Pattern.EachLeaf IsTaken) ?_) fun found hfound => ?_)
  · exact Rule.Yields.bind (Rule.Yields.any _) fun _ _ => hterm
  · exact Rule.Yields.pure ((Pattern.eachLeaf_marked _ _ _).mpr hfound)

theorem yields_grouped (bracket : Bracket) :
    (grouped bracket term).Yields (Pattern.EachLeaf IsTaken) := by
  have hothers : (Rule.many do blanks; term).Yields fun others =>
      ∀ other ∈ others, Pattern.EachLeaf IsTaken other :=
    Rule.Yields.many (Rule.Yields.bind (Rule.Yields.any _) fun _ _ => hterm)
  refine Rule.Yields.named (Rule.Yields.bind (yields_spanned (fun parts =>
    Pattern.EachLeaf IsTaken parts.1 ∧ ∀ other ∈ parts.2, Pattern.EachLeaf IsTaken other) ?_)
    fun found hfound => Rule.Yields.pure ((Pattern.eachLeaf_grouped _ _ _ _).mpr hfound))
  refine Rule.Yields.bind (Rule.Yields.any _) fun _ _ => ?_
  refine Rule.Yields.bind (Rule.Yields.any _) fun _ _ => ?_
  refine Rule.Yields.bind hterm fun first hfirst => Rule.Yields.bind hothers fun others hall => ?_
  refine Rule.Yields.bind (Rule.Yields.any _) fun _ _ => ?_
  exact Rule.Yields.bind (Rule.Yields.any _) fun _ _ => Rule.Yields.pure ⟨hfirst, hall⟩

theorem yields_atom : (atom term).Yields (Pattern.EachLeaf IsTaken) := by
  have hliteral : literal.Yields (Pattern.EachLeaf IsTaken) := by
    refine Rule.Yields.named (Rule.Yields.choice (yields_leaf _) ?_)
    simp [yields_leaf]
  refine Rule.Yields.named (Rule.Yields.choice (yields_grouped hterm _) ?_)
  simp [yields_grouped hterm, yields_leaf, hliteral]

theorem yields_repeated : (repeated term).Yields (Pattern.EachLeaf IsTaken) := by
  refine Rule.Yields.named (Rule.Yields.bind (yields_spanned (fun parts =>
    Pattern.EachLeaf IsTaken parts.1) ?_) fun found hfound => ?_)
  · refine Rule.Yields.bind (yields_atom hterm) fun inner hinner => ?_
    exact Rule.Yields.bind (Rule.Yields.any _) fun _ _ => Rule.Yields.pure hinner
  · obtain ⟨loc, inner, times⟩ := found
    cases times with
    | none => exact Rule.Yields.pure hfound
    | some times => exact Rule.Yields.pure ((Pattern.eachLeaf_repeated _ _ _).mpr hfound)

end Rules

theorem yields_termWithin (depth : Nat) :
    Rule.Yields (termWithin depth) (Pattern.EachLeaf IsTaken) := by
  induction depth with
  | zero =>
      intro cursor misses value next hread
      cases hread
  | succ depth induction =>
      refine Rule.Yields.named (Rule.Yields.choice (yields_marked induction _) ?_)
      simp [yields_marked induction, yields_repeated induction]

theorem yields_pattern : pattern.Yields (Pattern.EachLeaf IsTaken) := by
  have hwithin : Rule.Yields (fun cursor => termWithin (cursor.rest.length + 1) cursor)
      (Pattern.EachLeaf IsTaken) :=
    fun cursor => yields_termWithin (cursor.rest.length + 1) cursor
  refine Rule.Yields.bind (Rule.Yields.any _) fun _ _ => ?_
  refine Rule.Yields.bind hwithin fun found hfound => ?_
  exact Rule.Yields.bind (Rule.Yields.any _) fun _ _ => Rule.Yields.pure hfound

end PatternText

theorem ok_bind (value : α) (next : α → Except ε β) : (Except.ok value >>= next) = next value :=
  rfl

theorem bind_ok {step : Except ε α} {next : α → Except ε β} {result : β}
    (hrun : step >>= next = .ok result) : ∃ value, step = .ok value ∧ next value = .ok result := by
  cases step with
  | error fault => cases hrun
  | ok value => exact ⟨value, rfl, hrun⟩

theorem bind_error {step : Except ε α} {next : α → Except ε β} {fault : ε}
    (hrun : step >>= next = .error fault) :
    step = .error fault ∨ ∃ value, step = .ok value ∧ next value = .error fault := by
  cases step with
  | error other =>
      cases hrun
      exact .inl rfl
  | ok value => exact .inr ⟨value, rfl, hrun⟩

namespace Pattern

section Decoding

variable {decode : Range → α → Except ε β} {property : α → Prop} {decoded : β → Prop}

theorem eachLeaf_decodeLeavesAll {patterns : List (Pattern α)}
    (each : ∀ pattern ∈ patterns, ∀ found, pattern.decodeLeaves decode = .ok found →
      pattern.EachLeaf property → found.EachLeaf decoded)
    {found : List (Pattern β)} (hfound : decodeLeavesAll decode patterns = .ok found)
    (hleaves : ∀ pattern ∈ patterns, pattern.EachLeaf property) :
    ∀ pattern ∈ found, pattern.EachLeaf decoded := by
  induction patterns generalizing found with
  | nil =>
      cases hfound
      simp
  | cons pattern rest induction =>
      obtain ⟨head, hhead, hrest⟩ := bind_ok hfound
      obtain ⟨tail, htail, hboth⟩ := bind_ok hrest
      cases hboth
      have hlater := induction (fun other member => each other (by simp [member])) htail
        (fun other member => hleaves other (by simp [member]))
      simpa using ⟨each pattern (by simp) head hhead (hleaves pattern (by simp)), hlater⟩

theorem eachLeaf_decodeLeaves
    (hdecode : ∀ loc value found, decode loc value = .ok found → property value → decoded found)
    (pattern : Pattern α) (found : Pattern β)
    (hfound : pattern.decodeLeaves decode = .ok found) (hleaves : pattern.EachLeaf property) :
    found.EachLeaf decoded := by
  induction pattern using induct generalizing found with
  | leaf loc value =>
      obtain ⟨result, hresult, hdone⟩ := bind_ok hfound
      cases hdone
      rw [eachLeaf_leaf] at hleaves ⊢
      exact hdecode loc value result hresult hleaves
  | marked loc mark inner induction =>
      obtain ⟨result, hresult, hdone⟩ := bind_ok hfound
      cases hdone
      rw [eachLeaf_marked] at hleaves ⊢
      exact induction result hresult hleaves
  | repeated loc inner quantity induction =>
      obtain ⟨result, hresult, hdone⟩ := bind_ok hfound
      cases hdone
      rw [eachLeaf_repeated] at hleaves ⊢
      exact induction result hresult hleaves
  | grouped loc bracket first others firstHolds othersHold =>
      obtain ⟨head, hhead, hrest⟩ := bind_ok hfound
      obtain ⟨tail, htail, hdone⟩ := bind_ok hrest
      cases hdone
      rw [eachLeaf_grouped] at hleaves ⊢
      exact ⟨firstHolds head hhead hleaves.1,
        eachLeaf_decodeLeavesAll othersHold htail hleaves.2⟩

end Decoding

end Pattern

namespace Leaf

def EndsInQuery : Leaf → Prop
  | predicate name => name.toList.getLast? = some '?'
  | _ => True

theorem endsInQuery_decode (loc : Range) (lexed : Lexed) (value : Leaf)
    (hdecode : decode chart loc lexed = .ok value) (htaken : PatternText.IsTaken lexed) :
    value.EndsInQuery := by
  obtain ⟨kind, taken⟩ := lexed
  obtain ⟨text, rest, htake⟩ := htaken
  cases kind with
  | predicate =>
      cases hdecode
      change Grammar.Lexeme.followedBy '?' _ = _ at htake
      unfold Grammar.Lexeme.followedBy at htake
      split at htake
      · split at htake
        · rename_i hquery
          cases htake
          simp [EndsInQuery, hquery]
        · cases htake
      · cases htake
  | number =>
      change decodeNumber taken = _ at hdecode
      unfold decodeNumber at hdecode
      split at hdecode
      · cases hdecode
        trivial
      · split at hdecode <;> cases hdecode
        trivial
  | string =>
      change decodeString chart loc taken = _ at hdecode
      unfold decodeString at hdecode
      split at hdecode <;> cases hdecode
      trivial
  | param =>
      change decodeParam (taken.drop 1) = _ at hdecode
      unfold decodeParam at hdecode
      split at hdecode
      · split at hdecode <;> cases hdecode
        trivial
      · cases hdecode
        trivial
  | rest | symbol | wildcard | nil | nodeType | punct =>
      cases hdecode
      trivial

end Leaf

theorem mapError_eq_ok {step : Except ε α} {f : ε → δ} {value : α} :
    step.mapError f = .ok value ↔ step = .ok value := by
  cases step with
  | ok other => constructor <;> intro hsame <;> cases hsame <;> rfl
  | error fault => constructor <;> intro hfault <;> cases hfault

theorem mapError_eq_error {step : Except ε α} {f : ε → δ} {fault : δ} :
    step.mapError f = .error fault ↔ ∃ cause, step = .error cause ∧ f cause = fault := by
  cases step with
  | ok value =>
      constructor
      · intro hfault
        cases hfault
      · rintro ⟨cause, hcause, -⟩
        cases hcause
  | error cause =>
      constructor
      · intro hfault
        cases hfault
        exact ⟨cause, rfl, rfl⟩
      · rintro ⟨_, hcause, rfl⟩
        cases hcause
        rfl

theorem Pattern.lexed_of_read {text : List Char} {pattern : Pattern Leaf}
    (hread : Pattern.read chart text = .ok pattern) :
    ∃ lexed, PatternText.pattern.readAll text = .ok lexed ∧
      lexed.decodeLeaves (Leaf.decode chart) = .ok pattern := by
  obtain ⟨lexed, hlexed, hdecoded⟩ := bind_ok hread
  exact ⟨lexed, mapError_eq_ok.mp hlexed, mapError_eq_ok.mp hdecoded⟩

theorem Pattern.readAll_of_unreadable {text : List Char} {fault : Grammar.ReadFault}
    (hread : Pattern.read chart text = .error (.unreadable fault)) :
    PatternText.pattern.readAll text = .error fault := by
  rcases bind_error hread with hlexed | ⟨lexed, -, hlater⟩
  · obtain ⟨found, hfound, hsame⟩ := mapError_eq_error.mp hlexed
    cases hsame
    exact hfound
  · obtain ⟨cause, -, hcause⟩ := mapError_eq_error.mp hlater
    cases hcause

theorem Pattern.endsInQuery_of_read {text : List Char} {pattern : Pattern Leaf}
    (hread : Pattern.read chart text = .ok pattern) : pattern.EachLeaf Leaf.EndsInQuery := by
  obtain ⟨lexed, hlexed, hdecoded⟩ := lexed_of_read hread
  have hleaves := Grammar.Rule.readAll_yields PatternText.yields_pattern hlexed
  exact eachLeaf_decodeLeaves Leaf.endsInQuery_decode lexed pattern hdecoded hleaves

theorem Compile.typeOfPredicate?_eq_some {name type : String}
    (hquery : name.toList.getLast? = some '?') :
    typeOfPredicate? name = some type ↔
      name = type ++ "_type?" ∧ ∃ first rest, type.toList = first :: rest ∧
        Text.isAsciiLower first = true ∧ ∀ c ∈ rest, Text.isAlphanumeric c = true := by
  have hplain : (if name.toList.getLast? = some '\n' then name.toList.dropLast else name.toList) =
      name.toList := by
    rw [hquery]
    rfl
  unfold typeOfPredicate?
  simp only [hplain]
  constructor
  · intro hsome
    split at hsome
    · rename_i hsuffix
      obtain ⟨front, hfront⟩ := List.isSuffixOf_iff_suffix.mp hsuffix
      rw [← hfront, List.length_append, Nat.add_sub_cancel, List.take_left] at hsome
      split at hsome
      · rename_i first rest
        split at hsome
        · rename_i hletters
          rw [Bool.and_eq_true, List.all_eq_true] at hletters
          cases hsome
          refine ⟨?_, first, rest, String.toList_ofList, hletters.1, hletters.2⟩
          rw [← String.toList_inj, String.toList_append, String.toList_ofList, hfront]
        · cases hsome
      · cases hsome
    · cases hsome
  · rintro ⟨rfl, first, rest, htype, hfirst, hrest⟩
    have hletters : (Text.isAsciiLower first && rest.all Text.isAlphanumeric) = true := by
      rw [Bool.and_eq_true, List.all_eq_true]
      exact ⟨hfirst, hrest⟩
    have hsuffix : "_type?".toList.isSuffixOf (type ++ "_type?").toList = true := by
      rw [List.isSuffixOf_iff_suffix, String.toList_append]
      exact List.suffix_append _ _
    rw [if_pos hsuffix, String.toList_append, List.length_append, Nat.add_sub_cancel,
      List.take_left, htype]
    simp only [hletters, if_true, ← htype, String.ofList_toList]

theorem Pattern.read_nil (pattern : Pattern Leaf) : Pattern.read chart [] ≠ .ok pattern := by
  intro hread
  have hfails : Pattern.read chart [] = .error (.unreadable (.unexpected 0)) := rfl
  rw [hfails] at hread
  cases hread

end TreeMatch

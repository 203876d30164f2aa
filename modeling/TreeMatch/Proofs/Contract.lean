import Mathlib.Data.List.Induction
import TreeMatch.Proofs.Recounting
import TreeMatch.Proofs.Supply

/-! What a matcher asks of its callers: which parameters it has, which calls it refuses and with
what report, and what its function is given by all others. -/

namespace TreeMatch

variable {chart : Text.CodeChart}

namespace Term

/-- What stands for the parameter that a node asks for: its name, or its number. -/
def parameter? : Term → Option Value
  | node _ tag _ [atom value] => if tag = TokenKind.param.name then some value else none
  | _ => none

def parameterName? (term : Term) : Option String :=
  match term.parameter? with
  | some (.str name) => some name
  | _ => none

def parameterPosition? (term : Term) : Option Nat :=
  match term.parameter? with
  | some (.int index) => some index.toNat
  | _ => none

end Term

namespace Pattern

theorem parameter?_termFrom (pattern : Pattern Leaf) (next : Nat) :
    (pattern.termFrom next).parameter? =
      match pattern with
      | leaf _ (.position index) => some (.int index)
      | leaf _ (.named name) => some (.str name)
      | _ => none := by
  have hnode : ∀ (inner : Pattern Leaf) (next key : Nat) (tag : String) (loc : Option Range)
      (others : List Term),
      (Term.node key tag loc (inner.termFrom next :: others)).parameter? = none := by
    intro inner next key tag loc others
    cases hinner : inner.termFrom next with
    | atom value => cases hinner ▸ isNode_termFrom inner next
    | node key tag place children => rfl
  cases pattern with
  | leaf loc value =>
      cases value with
      | wildcard name =>
          rw [termFrom_leaf, Leaf.atoms]
          split <;> rfl
      | _ => rfl
  | marked loc mark inner => exact hnode inner ..
  | repeated loc inner quantity => exact hnode inner ..
  | grouped loc bracket first others =>
      rw [termFrom_grouped]
      exact hnode first ..

theorem parameterName?_termFrom (pattern : Pattern Leaf) (next : Nat) :
    (pattern.termFrom next).parameterName? = pattern.parameterName? := by
  rw [Term.parameterName?, parameter?_termFrom]
  cases pattern with
  | leaf loc value => cases value <;> rfl
  | _ => rfl

theorem parameterPosition?_termFrom (pattern : Pattern Leaf) (next : Nat) :
    (pattern.termFrom next).parameterPosition? = pattern.parameterPosition? := by
  rw [Term.parameterPosition?, parameter?_termFrom]
  cases pattern with
  | leaf loc value => cases value <;> rfl
  | _ => rfl

/-- What is told of the parts of a pattern is told of the nodes of its term. -/
theorem filterMap_walk_termFrom {f : Term → Option β} {g : Pattern Leaf → Option β}
    (hsame : ∀ part next, f (part.termFrom next) = g part) (pattern : Pattern Leaf) (next : Nat) :
    (pattern.termFrom next).walk.filterMap f = pattern.walk.filterMap g := by
  rw [walk_termFrom]
  induction pattern.walk generalizing next with
  | nil => rfl
  | cons part rest induction =>
      rw [partTerms, List.filterMap_cons, List.filterMap_cons, hsame, induction]

end Pattern

namespace Session

theorem foldl_noteName_eq_eraseDups (names : List String) :
    names.foldl noteName [] = names.eraseDups := by
  induction names using List.reverseRecOn with
  | nil => rfl
  | append_singleton names name induction =>
      rw [List.foldl_append, induction, eraseDups_concat, List.foldl_cons, List.foldl_nil,
        noteName]
      by_cases member : name ∈ names <;> simp [member]

end Session

namespace Matcher

/-- The parameters are those of the pattern: as many without names as the greatest number asks for,
and the others in the order in which they are first met. -/
structure Declares (matcher : Matcher) : Prop where
  positional : matcher.positional =
    (List.range' 1 ((matcher.term.walk.filterMap Term.parameterPosition?).foldr max 0)).map
      fun (number : Nat) => "_p" ++ toString number
  named : matcher.named = (matcher.term.walk.filterMap Term.parameterName?).eraseDups

/-- Nothing is given for a parameter with a name, or no trace is. -/
def misses (matcher : Matcher) (arguments : Arguments) (name : String) : Bool :=
  if matcher.instrumented.contains name then isUnset (arguments.keywords.lookup name)
  else (arguments.keywords.lookup name).isNone

/-- The parameters with names that nothing is given for, in the order of the signature. -/
def missing (matcher : Matcher) (arguments : Arguments) : List String :=
  matcher.keywordParameters.filter (matcher.misses arguments)

structure Fits (matcher : Matcher) (arguments : Arguments) : Prop where
  positional : arguments.positional.length = matcher.positional.length
  given : matcher.missing arguments = []
  declared : ∀ keyword ∈ arguments.keywords, keyword.1 ∈ matcher.keywordParameters

structure AreUnexpected (matcher : Matcher) (arguments : Arguments) (names : List String) :
    Prop where
  sorted : names.Pairwise (· < ·)
  mem_iff : ∀ name, name ∈ names ↔
    (∃ keyword ∈ arguments.keywords, keyword.1 = name) ∧ name ∉ matcher.keywordParameters

/-- The call is reported as one with wrong arguments, before anything is run. -/
def Refuses (result : CallResult) (code : ErrorCode) (names : List String) : Prop :=
  result.log = [] ∧ ∃ diagnostic, result.returned = .error (.reported diagnostic) ∧
    diagnostic.code = code ∧ diagnostic.subject = .arguments names

/-- What a call comes to by its arguments. The answer is that of the function, by the values of the
parameters. -/
structure Meets (matcher : Matcher) (arguments : Arguments)
    (answer : List (String × Argument) → CallResult) (result : CallResult) : Prop where
  few : arguments.positional.length < matcher.positional.length →
    Refuses result .missingParameter (matcher.positional.drop arguments.positional.length)
  many : matcher.positional.length < arguments.positional.length →
    Refuses result .unexpectedParameter []
  missing : arguments.positional.length = matcher.positional.length →
    matcher.missing arguments ≠ [] →
      Refuses result .missingParameter (matcher.missing arguments)
  unexpected : arguments.positional.length = matcher.positional.length →
    matcher.missing arguments = [] →
      (∃ keyword ∈ arguments.keywords, keyword.1 ∉ matcher.keywordParameters) →
        ∃ names, matcher.AreUnexpected arguments names ∧
          Refuses result .unexpectedParameter names
  refused_iff : (∃ code names, Refuses result code names) ↔ ¬ matcher.Fits arguments
  renamed : matcher.Fits arguments → (∃ name ∈ matcher.named, Text.isCompatible name = false) →
    result = ⟨.error (.call .unknownKeyword), []⟩
  untraced : matcher.Fits arguments → (∀ name ∈ matcher.named, Text.isCompatible name = true) →
    matcher.recording = true → arguments.keywords.lookup traceName ≠ some .recorder →
      result = ⟨.error (.call .notTrace), []⟩
  received : matcher.Fits arguments → (∀ name ∈ matcher.named, Text.isCompatible name = true) →
    (matcher.recording = true → arguments.keywords.lookup traceName = some .recorder) →
      ∃ bindings, matcher.Receives (matcher.settled arguments) bindings ∧
        result = answer bindings

section Settled

variable {matcher : Matcher} {arguments : Arguments}

theorem map_fst_settled :
    (matcher.settled arguments).keywords.map Prod.fst = arguments.keywords.map Prod.fst := by
  rw [settled, List.map_map]
  rfl

/-- A keyword for a parameter of the pattern is made an argument; a trace is left as it is. -/
theorem lookup_settled (name : String) :
    (matcher.settled arguments).keywords.lookup name =
      (arguments.keywords.lookup name).map fun keyword =>
        if matcher.instrumented.contains name then keyword else keyword.plain := by
  unfold settled
  dsimp only
  induction arguments.keywords with
  | nil => rfl
  | cons entry rest induction =>
      rw [List.map_cons, List.lookup_cons, List.lookup_cons, induction]
      cases hsame : name == entry.1 with
      | true => rw [eq_of_beq hsame]; rfl
      | false => rfl

theorem not_instrumented_of_named (hnodup : matcher.parameters.Nodup) {name : String}
    (member : name ∈ matcher.named) : ¬ matcher.instrumented.contains name = true := by
  intro hcontains
  have hkeywords := (List.nodup_append.mp hnodup).2.1
  exact (List.nodup_append.mp hkeywords).2.2 name member name
    (List.contains_iff_mem.mp hcontains) rfl

theorem isNone_lookup_settled (name : String) :
    ((matcher.settled arguments).keywords.lookup name).isNone =
      (arguments.keywords.lookup name).isNone := by
  rw [lookup_settled, Option.isNone_map]

theorem lookup_settled_traced (hrecording : matcher.recording = true) :
    (matcher.settled arguments).keywords.lookup traceName =
      arguments.keywords.lookup traceName := by
  have htrace : matcher.instrumented.contains traceName = true := by
    rw [instrumented, if_pos hrecording]
    rfl
  rw [lookup_settled, htrace]
  exact Option.map_id'

theorem unexpectedKeywordsOf_settled :
    matcher.unexpectedKeywordsOf (matcher.settled arguments).keywords =
      matcher.unexpectedKeywordsOf arguments.keywords := by
  rw [unexpectedKeywordsOf, unexpectedKeywordsOf, map_fst_settled]

theorem missingKeywordsOf_settled (hnodup : matcher.parameters.Nodup) :
    matcher.missingKeywordsOf (matcher.settled arguments).keywords = matcher.missing arguments := by
  rw [missingKeywordsOf, missing, keywordParameters, List.filter_append]
  congr 1
  · refine List.filter_congr fun name member => ?_
    rw [misses, if_neg (not_instrumented_of_named hnodup member), isNone_lookup_settled]
  · refine List.filter_congr fun name member => ?_
    rw [misses, if_pos (List.contains_iff_mem.mpr member), plain_instrumented name member,
      lookup_settled_traced (recording_of_instrumented member)]

/-- The keywords that the check reports are those without a parameter, each once and in order. -/
theorem areUnexpected_unexpectedKeywordsOf (hkeys : (arguments.keywords.map Prod.fst).Nodup) :
    matcher.AreUnexpected arguments (matcher.unexpectedKeywordsOf arguments.keywords) := by
  have hperm := List.mergeSort_perm ((arguments.keywords.map Prod.fst).filter
    fun name => !matcher.keywordParameters.contains name) fun a b => decide (a ≤ b)
  constructor
  · have hordered := @List.pairwise_mergeSort String (fun a b => decide (a ≤ b))
      (by simpa using fun a b c => String.le_trans) (by simpa using String.le_total)
      ((arguments.keywords.map Prod.fst).filter
        fun name => !matcher.keywordParameters.contains name)
    have hdistinct := hperm.nodup_iff.mpr (hkeys.filter _)
    refine (hordered.and hdistinct).imp ?_
    rintro a b ⟨hle, hne⟩
    exact Std.lt_of_le_of_ne (of_decide_eq_true hle) hne
  · intro name
    rw [unexpectedKeywordsOf, hperm.mem_iff, List.mem_filter, List.mem_map]
    simp

end Settled

section Called

variable {matcher : Matcher} {arguments : Arguments} {fault : ArgumentFault}
  {document : Document} {subject : Value}

theorem respond_of_not_run {result : CallResult}
    (hcall : matcher.call document subject arguments = result) (hnot : result.isRun = false) :
    matcher.respond document subject arguments = result := by
  rw [respond, hcall]
  exact if_neg fun hrun => Bool.false_ne_true (hnot.symm.trans hrun.2)

theorem serve_of_respond {result : CallResult}
    (hrespond : matcher.respond document subject (matcher.settled arguments) = result) :
    matcher.serve document subject arguments =
      if isRefused result.returned || matcher.isServable then result
      else ⟨.error (.call .unknownKeyword), []⟩ := by
  rw [serve, hrespond]

theorem free_settled
    (hfree : (arguments.keywords.any fun keyword => callNames.contains keyword.1) = false) :
    ((matcher.settled arguments).keywords.any
      fun keyword => callNames.contains keyword.1) = false := by
  rw [← hfree, settled, List.any_map]
  rfl

theorem refuses_of_fault
    (hfree : (arguments.keywords.any fun keyword => callNames.contains keyword.1) = false)
    (hfault : matcher.checkArguments (matcher.settled arguments) = .error fault) :
    Refuses (matcher.serve document subject arguments) fault.code fault.parameters := by
  have hcall : matcher.call document subject (matcher.settled arguments) =
      ⟨.error (.reported fault.diagnostic), []⟩ := by
    rw [call, free_settled hfree, hfault]
    rfl
  rw [serve_of_respond (respond_of_not_run hcall rfl)]
  exact ⟨rfl, _, rfl, rfl, rfl⟩

theorem checkArguments_few (hfew : arguments.positional.length < matcher.positional.length) :
    matcher.checkArguments arguments =
      .error (.missingPositional (matcher.positional.drop arguments.positional.length)) :=
  if_pos hfew

theorem checkArguments_many (hmany : matcher.positional.length < arguments.positional.length) :
    matcher.checkArguments arguments =
      .error (.tooManyPositional matcher.positional.length arguments.positional.length) := by
  rw [checkArguments]
  exact (if_neg (Nat.lt_asymm hmany)).trans (if_pos hmany)

theorem checkArguments_missing
    (hlength : arguments.positional.length = matcher.positional.length)
    (hmissing : matcher.missingKeywordsOf arguments.keywords ≠ []) :
    matcher.checkArguments arguments =
      .error (.missingKeywords (matcher.missingKeywordsOf arguments.keywords)) := by
  simp only [checkArguments, hlength, Nat.lt_irrefl, if_false]
  cases hnames : matcher.missingKeywordsOf arguments.keywords with
  | nil => exact absurd hnames hmissing
  | cons name names => rfl

theorem checkArguments_unexpected
    (hlength : arguments.positional.length = matcher.positional.length)
    (hmissing : matcher.missingKeywordsOf arguments.keywords = [])
    (hunexpected : matcher.unexpectedKeywordsOf arguments.keywords ≠ []) :
    matcher.checkArguments arguments =
      .error (.unexpectedKeywords (matcher.unexpectedKeywordsOf arguments.keywords)) := by
  simp only [checkArguments, hlength, Nat.lt_irrefl, if_false, hmissing]

theorem not_refuses_answer (bindings : List (String × Argument)) (code : ErrorCode)
    (names : List String) : ¬ Refuses (matcher.answer document subject bindings) code names := by
  rintro ⟨-, diagnostic, hreturned, -⟩
  unfold answer execute executeSevered at hreturned
  dsimp only at hreturned
  split at hreturned <;> split at hreturned <;> cases hreturned

theorem not_refuses_of_call {fault : CallFault} {log : List Event} (code : ErrorCode)
    (names : List String) : ¬ Refuses ⟨.error (.call fault), log⟩ code names := by
  rintro ⟨-, diagnostic, hreturned, -⟩
  cases hreturned

theorem isRefused_answer (bindings : List (String × Argument)) :
    isRefused (matcher.answer document subject bindings).returned = false := by
  unfold answer execute executeSevered
  dsimp only
  split <;> split <;> rfl

theorem exists_of_not_misses {name : String} (hgiven : matcher.misses arguments name = false) :
    ∃ keyword, arguments.keywords.lookup name = some keyword := by
  cases hlookup : arguments.keywords.lookup name with
  | none =>
      rw [misses, hlookup] at hgiven
      split at hgiven <;> cases hgiven
  | some keyword => exact ⟨keyword, rfl⟩

theorem Fits.exists_lookup (fits : matcher.Fits arguments) {name : String}
    (member : name ∈ matcher.keywordParameters) :
    ∃ keyword, arguments.keywords.lookup name = some keyword :=
  exists_of_not_misses (Bool.eq_false_iff.mpr (List.filter_eq_nil_iff.mp fits.given name member))

section Fitting

variable (hnodup : matcher.parameters.Nodup) (fits : matcher.Fits arguments)

include hnodup fits

theorem checkArguments_of_fits : matcher.checkArguments (matcher.settled arguments) = .ok () := by
  refine checkArguments_eq_ok.mpr ⟨fits.positional, ?_, fun keyword member => ?_⟩
  · rw [missingKeywordsOf_settled hnodup, fits.given]
  · have hname := List.mem_map_of_mem (f := Prod.fst) member
    rw [map_fst_settled, List.mem_map] at hname
    obtain ⟨given, hgiven, hsame⟩ := hname
    exact hsame ▸ fits.declared given hgiven

theorem accepts_of_fits
    (hfree : (arguments.keywords.any fun keyword => callNames.contains keyword.1) = false) :
    matcher.Accepts (matcher.settled arguments) :=
  ⟨free_settled hfree, checkArguments_of_fits hnodup fits⟩

theorem provides_of_fits (hkeys : (arguments.keywords.map Prod.fst).Nodup)
    (htraced : matcher.recording = true → arguments.keywords.lookup traceName = some .recorder) :
    matcher.Provides (matcher.settled arguments) := by
  refine ⟨fits.positional, ?_, fun name member => ?_, fun hrecording => ?_⟩
  · rw [map_fst_settled]
    refine (List.perm_ext_iff_of_nodup hkeys (List.nodup_append.mp hnodup).2.1).mpr fun name =>
      ⟨fun member => ?_, fun member => ?_⟩
    · obtain ⟨keyword, hkeyword, rfl⟩ := List.mem_map.mp member
      exact fits.declared keyword hkeyword
    · obtain ⟨keyword, hkeyword⟩ := fits.exists_lookup member
      exact List.mem_map_of_mem ((lookup_eq_some_iff_of_nodup hkeys).mp hkeyword)
  · obtain ⟨keyword, hkeyword⟩ := fits.exists_lookup (List.mem_append_left _ member)
    rw [lookup_settled, hkeyword, Option.map_some,
      if_neg (not_instrumented_of_named hnodup member)]
    cases keyword with
    | argument given => exact ⟨given, rfl⟩
    | recorder => exact ⟨.set [], rfl⟩
  · rw [lookup_settled_traced hrecording, htraced hrecording]

theorem respond_of_fits
    (hfree : (arguments.keywords.any fun keyword => callNames.contains keyword.1) = false)
    (htraced : matcher.recording = true → arguments.keywords.lookup traceName = some .recorder) :
    matcher.respond document subject (matcher.settled arguments) =
      matcher.answer document subject (matcher.bind (matcher.settled arguments)) := by
  have hcall := call_of_accepts (accepts_of_fits hnodup fits hfree)
    (fun hrecording => (lookup_settled_traced hrecording).trans (htraced hrecording))
    document subject
  rw [respond, hcall, isRun_execute]
  simp only [and_true]
  rfl

theorem respond_of_untraced
    (hfree : (arguments.keywords.any fun keyword => callNames.contains keyword.1) = false)
    (hrecording : matcher.recording = true)
    (huntraced : arguments.keywords.lookup traceName ≠ some .recorder) :
    matcher.respond document subject (matcher.settled arguments) =
      ⟨.error (.call .notTrace), []⟩ := by
  have hcall : matcher.call document subject (matcher.settled arguments) =
      ⟨.error (.call .notTrace), []⟩ := by
    have member : traceName ∈ matcher.keywordParameters := by
      rw [keywordParameters, instrumented, if_pos hrecording]
      exact List.mem_append_right _ (List.mem_singleton_self _)
    obtain ⟨keyword, hkeyword⟩ := fits.exists_lookup member
    rw [call, free_settled hfree, checkArguments_of_fits hnodup fits, hrecording,
      lookup_settled_traced hrecording, hkeyword]
    cases keyword with
    | argument given => rfl
    | recorder => exact absurd hkeyword huntraced
  exact respond_of_not_run hcall rfl

end Fitting

/-- A call whose arguments fit gets to the function: it finds a trace that is none, or answers. -/
theorem respond_cases_of_fits (hnodup : matcher.parameters.Nodup) (fits : matcher.Fits arguments)
    (hfree : (arguments.keywords.any fun keyword => callNames.contains keyword.1) = false) :
    matcher.respond document subject (matcher.settled arguments) =
        ⟨.error (.call .notTrace), []⟩ ∨
      ∃ bindings, matcher.respond document subject (matcher.settled arguments) =
        matcher.answer document subject bindings := by
  by_cases htraced :
      matcher.recording = true → arguments.keywords.lookup traceName = some .recorder
  · exact .inr ⟨_, respond_of_fits hnodup fits hfree htraced⟩
  · obtain ⟨hrecording, huntraced⟩ := Classical.not_imp.mp htraced
    exact .inl (respond_of_untraced hnodup fits hfree hrecording huntraced)

theorem serve_of_fits (hnodup : matcher.parameters.Nodup) (fits : matcher.Fits arguments)
    (hfree : (arguments.keywords.any fun keyword => callNames.contains keyword.1) = false) :
    matcher.serve document subject arguments =
      if matcher.isServable then matcher.respond document subject (matcher.settled arguments)
      else ⟨.error (.call .unknownKeyword), []⟩ := by
  have hreached : isRefused
      (matcher.respond document subject (matcher.settled arguments)).returned = false := by
    rcases respond_cases_of_fits hnodup fits hfree with huntraced | ⟨bindings, hanswer⟩
    · rw [huntraced]
      rfl
    · rw [hanswer, isRefused_answer]
  rw [serve_of_respond rfl, hreached, Bool.false_or]

theorem not_refuses_of_fits (hnodup : matcher.parameters.Nodup) (fits : matcher.Fits arguments)
    (hfree : (arguments.keywords.any fun keyword => callNames.contains keyword.1) = false)
    (code : ErrorCode) (names : List String) :
    ¬ Refuses (matcher.serve document subject arguments) code names := by
  rw [serve_of_fits hnodup fits hfree]
  split
  · rcases respond_cases_of_fits hnodup fits hfree with huntraced | ⟨bindings, hanswer⟩
    · rw [huntraced]
      exact not_refuses_of_call code names
    · rw [hanswer]
      exact not_refuses_answer bindings code names
  · exact not_refuses_of_call code names

theorem isServable_iff :
    matcher.isServable = true ↔ ∀ name ∈ matcher.named, Text.isCompatible name = true := by
  rw [isServable, List.all_eq_true]

theorem not_isServable_of {name : String} (member : name ∈ matcher.named)
    (hname : Text.isCompatible name = false) : ¬ matcher.isServable = true := fun hservable =>
  Bool.false_ne_true (hname.symm.trans (isServable_iff.mp hservable name member))

section Refused

variable (hfree : (arguments.keywords.any fun keyword => callNames.contains keyword.1) = false)

include hfree

theorem refuses_few (hfew : arguments.positional.length < matcher.positional.length) :
    Refuses (matcher.serve document subject arguments) .missingParameter
      (matcher.positional.drop arguments.positional.length) :=
  refuses_of_fault hfree (checkArguments_few hfew)

theorem refuses_many (hmany : matcher.positional.length < arguments.positional.length) :
    Refuses (matcher.serve document subject arguments) .unexpectedParameter [] :=
  refuses_of_fault hfree (checkArguments_many hmany)

theorem refuses_missing (hnodup : matcher.parameters.Nodup)
    (hlength : arguments.positional.length = matcher.positional.length)
    (hsome : matcher.missing arguments ≠ []) :
    Refuses (matcher.serve document subject arguments) .missingParameter
      (matcher.missing arguments) := by
  rw [← missingKeywordsOf_settled hnodup] at hsome ⊢
  exact refuses_of_fault hfree (checkArguments_missing hlength hsome)

theorem refuses_unexpected (hnodup : matcher.parameters.Nodup)
    (hkeys : (arguments.keywords.map Prod.fst).Nodup)
    (hlength : arguments.positional.length = matcher.positional.length)
    (hnone : matcher.missing arguments = [])
    (hother : ∃ keyword ∈ arguments.keywords, keyword.1 ∉ matcher.keywordParameters) :
    ∃ names, matcher.AreUnexpected arguments names ∧
      Refuses (matcher.serve document subject arguments) .unexpectedParameter names := by
  have hsome : matcher.unexpectedKeywordsOf arguments.keywords ≠ [] := by
    intro hempty
    obtain ⟨keyword, member, hnot⟩ := hother
    exact hnot (unexpectedKeywordsOf_eq_nil.mp hempty keyword member)
  refine ⟨_, areUnexpected_unexpectedKeywordsOf hkeys, ?_⟩
  rw [← unexpectedKeywordsOf_settled] at hsome ⊢
  rw [← missingKeywordsOf_settled hnodup] at hnone
  exact refuses_of_fault hfree (checkArguments_unexpected hlength hnone hsome)

theorem exists_refuses_of_not_fits (hnodup : matcher.parameters.Nodup)
    (hkeys : (arguments.keywords.map Prod.fst).Nodup) (hunfit : ¬ matcher.Fits arguments) :
    ∃ code names, Refuses (matcher.serve document subject arguments) code names := by
  rcases Nat.lt_trichotomy arguments.positional.length matcher.positional.length with
    hfew | hlength | hmany
  · exact ⟨_, _, refuses_few hfree hfew⟩
  · by_cases hnone : matcher.missing arguments = []
    · by_cases hother : ∃ keyword ∈ arguments.keywords, keyword.1 ∉ matcher.keywordParameters
      · obtain ⟨names, -, refuses⟩ := refuses_unexpected hfree hnodup hkeys hlength hnone hother
        exact ⟨_, names, refuses⟩
      · exact absurd ⟨hlength, hnone, by simpa using hother⟩ hunfit
    · exact ⟨_, _, refuses_missing hfree hnodup hlength hnone⟩
  · exact ⟨_, _, refuses_many hfree hmany⟩

end Refused

theorem meets_serve (hnodup : matcher.parameters.Nodup)
    (hkeys : (arguments.keywords.map Prod.fst).Nodup)
    (hfree : (arguments.keywords.any fun keyword => callNames.contains keyword.1) = false) :
    matcher.Meets arguments (matcher.answer document subject)
      (matcher.serve document subject arguments) where
  few := refuses_few hfree
  many := refuses_many hfree
  missing := refuses_missing hfree hnodup
  unexpected := refuses_unexpected hfree hnodup hkeys
  refused_iff := by
    refine ⟨?_, exists_refuses_of_not_fits hfree hnodup hkeys⟩
    rintro ⟨code, names, refuses⟩ fits
    exact not_refuses_of_fits hnodup fits hfree code names refuses
  renamed := by
    rintro fits ⟨name, member, hname⟩
    rw [serve_of_fits hnodup fits hfree, if_neg (not_isServable_of member hname)]
  untraced := by
    intro fits hcompatible hrecording huntraced
    rw [serve_of_fits hnodup fits hfree, if_pos (isServable_iff.mpr hcompatible),
      respond_of_untraced hnodup fits hfree hrecording huntraced]
  received := by
    intro fits hcompatible htraced
    refine ⟨_, (provides_of_fits hnodup fits hkeys htraced).receives_bind hnodup, ?_⟩
    rw [serve_of_fits hnodup fits hfree, if_pos (isServable_iff.mpr hcompatible),
      respond_of_fits hnodup fits hfree htraced]

end Called

theorem declares_ofPattern (text : String) (pattern : Pattern Leaf) (recording : Bool)
    (name : String) : (ofPattern text pattern recording name).Declares := by
  have hterm : (ofPattern text pattern recording name).term = pattern.termFrom 0 := rfl
  constructor
  · rw [positional_ofPattern, hterm,
      Pattern.filterMap_walk_termFrom Pattern.parameterPosition?_termFrom]
    rfl
  · rw [named_ofPattern, hterm, Session.foldl_noteName_eq_eraseDups,
      Pattern.filterMap_walk_termFrom Pattern.parameterName?_termFrom]
    rfl

/-- The name of the parameter is not its own compatible form. -/
def renamed : Pattern Leaf :=
  .grouped ⟨0, 7⟩ .sequence (.leaf ⟨1, 1⟩ (.nodeType "a")) [.leaf ⟨3, 3⟩ (.named "xª")]

theorem read_renamed : Pattern.read Text.basicLatin "(a %xª)".toList = .ok renamed := by
  decide +kernel

theorem compile_renamed :
    compile Text.basicLatin .node (.text "(a %xª)") false "matcher" =
      .ok (ofPattern "(a %xª)" renamed false "matcher") := by
  have hnone : renamed.rejection? .outside = none := by decide +kernel
  exact compile_text_eq_ok read_renamed hnone (by cbv) (by decide +kernel) (by cbv) false "matcher"

theorem named_renamed : (ofPattern "(a %xª)" renamed false "matcher").named = ["xª"] := by
  rw [named_ofPattern]
  rfl

theorem not_isServable_renamed :
    ¬ (ofPattern "(a %xª)" renamed false "matcher").isServable = true :=
  not_isServable_of (named_renamed ▸ List.mem_singleton_self "xª") (by decide +kernel)

end Matcher

end TreeMatch

import Mathlib.Data.List.Perm.Basic
import TreeMatch.Proofs.Hygiene
import TreeMatch.Proofs.Numbering
import TreeMatch.Proofs.Verdict

/-! Giving a matcher one value for each of its parameters: whether the call hands them on, and to
which parameters. -/

namespace TreeMatch

variable {chart : Text.CodeChart}

namespace Matcher

/-- Every parameter of the matcher, and nothing else, is given a value. The names are their own
compatible forms: those are what a script knows its parameters by. -/
structure Supplies (matcher : Matcher) (arguments : Arguments) : Prop where
  positional : arguments.positional.length = matcher.positional.length
  keywords : (arguments.keywords.map Prod.fst).Perm matcher.keywordParameters
  named : ∀ name ∈ matcher.named,
    ∃ argument, arguments.keywords.lookup name = some (.argument argument)
  traced : matcher.recording = true → arguments.keywords.lookup traceName = some .recorder
  written : ∀ name ∈ matcher.named, Text.isCompatible name = true

structure Provides (matcher : Matcher) (arguments : Arguments) : Prop where
  positional : arguments.positional.length = matcher.positional.length
  keywords : (arguments.keywords.map Prod.fst).Perm matcher.keywordParameters
  named : ∀ name ∈ matcher.named,
    ∃ argument, arguments.keywords.lookup name = some (.argument argument)
  traced : matcher.recording = true → arguments.keywords.lookup traceName = some .recorder

theorem Supplies.provides {matcher : Matcher} {arguments : Arguments}
    (supplies : matcher.Supplies arguments) : matcher.Provides arguments :=
  ⟨supplies.positional, supplies.keywords, supplies.named, supplies.traced⟩

/-- The parameters, apart from the node and the trace, are bound to exactly the values given. -/
structure Receives (matcher : Matcher) (arguments : Arguments)
    (bindings : List (String × Argument)) : Prop where
  names : (bindings.map Prod.fst).Perm (matcher.positional ++ matcher.named)
  positional : ∀ (index : Nat) (name : String), matcher.positional[index]? = some name →
    bindings.lookup name = arguments.positional[index]?
  named : ∀ name ∈ matcher.named, ∀ argument,
    arguments.keywords.lookup name = some (.argument argument) →
      bindings.lookup name = some argument

/-- What the matcher's function answers to the values of its parameters. -/
def answer (matcher : Matcher) (document : Document) (subject : Value)
    (bindings : List (String × Argument)) : CallResult :=
  if matcher.functionName = Script.builtinsName then
    matcher.executeSevered document subject bindings
  else matcher.execute document subject bindings

theorem isRun_execute (matcher : Matcher) (document : Document) (subject : Value)
    (bindings : List (String × Argument)) :
    (matcher.execute document subject bindings).isRun = true := by
  unfold execute
  dsimp only
  split <;> rfl

theorem mem_named {arguments : Arguments} {name : String} {argument : Argument} :
    (name, argument) ∈ arguments.named ↔ (name, .argument argument) ∈ arguments.keywords := by
  rw [Arguments.named, List.mem_filterMap]
  constructor
  · rintro ⟨⟨other, keyword⟩, member, hkeyword⟩
    cases keyword with
    | argument given =>
        cases hkeyword
        exact member
    | recorder => cases hkeyword
  · exact fun member => ⟨_, member, rfl⟩

theorem sublist_named (arguments : Arguments) :
    (arguments.named.map Prod.fst).Sublist (arguments.keywords.map Prod.fst) := by
  obtain ⟨positional, keywords⟩ := arguments
  unfold Arguments.named
  induction keywords with
  | nil => exact .slnil
  | cons entry rest induction =>
      obtain ⟨name, keyword⟩ := entry
      cases keyword with
      | argument given => exact induction.cons_cons name
      | recorder => exact induction.cons name

theorem recording_of_instrumented {matcher : Matcher} {parameter : String}
    (member : parameter ∈ matcher.instrumented) : matcher.recording = true := by
  by_contra hplain
  rw [instrumented, if_neg hplain] at member
  cases member

/-- Arguments among which no parameter is given a trace, but the one that asks for it, are settled
already. -/
theorem settled_eq_self {matcher : Matcher} {arguments : Arguments}
    (hkeys : (arguments.keywords.map Prod.fst).Nodup)
    (hdeclared : ∀ keyword ∈ arguments.keywords, keyword.1 ∈ matcher.keywordParameters)
    (hnamed : ∀ name ∈ matcher.named,
      ∃ argument, arguments.keywords.lookup name = some (.argument argument)) :
    matcher.settled arguments = arguments := by
  have hentry : ∀ entry ∈ arguments.keywords, (entry.1,
      if matcher.instrumented.contains entry.1 then entry.2 else entry.2.plain) = entry := by
    rintro ⟨name, keyword⟩ member
    by_cases htrace : matcher.instrumented.contains name = true
    · rw [if_pos htrace]
    · have hparameter := (List.mem_append.mp (hdeclared _ member)).resolve_right
        fun hmem => htrace (List.contains_iff_mem.mpr hmem)
      obtain ⟨argument, hgiven⟩ := hnamed name hparameter
      rw [(lookup_eq_some_iff_of_nodup hkeys).mpr member] at hgiven
      cases hgiven
      rw [if_neg htrace]
      rfl
  exact congrArg (Arguments.mk arguments.positional)
    ((List.map_congr_left hentry).trans (List.map_id _))

theorem serve_of_servable {matcher : Matcher} (hservable : matcher.isServable = true)
    (document : Document) (subject : Value) (arguments : Arguments) :
    matcher.serve document subject arguments =
      matcher.respond document subject (matcher.settled arguments) := by
  rw [serve, hservable, Bool.or_true]
  rfl

section Supplied

variable {matcher : Matcher} {arguments : Arguments}
  (hnodup : matcher.parameters.Nodup) (supplies : matcher.Supplies arguments)

section

include supplies

theorem Supplies.isServable : matcher.isServable = true :=
  List.all_eq_true.mpr supplies.written

theorem mem_keywords_iff {keyword : String} :
    (∃ given ∈ arguments.keywords, given.1 = keyword) ↔ keyword ∈ matcher.keywordParameters := by
  rw [← supplies.keywords.mem_iff, List.mem_map]

theorem fits_of_supplies : matcher.checkArguments arguments = .ok () := by
  refine checkArguments_eq_ok.mpr ⟨supplies.positional, ?_, ?_⟩
  · rw [missingKeywordsOf, List.append_eq_nil_iff, List.filter_eq_nil_iff, List.filter_eq_nil_iff]
    constructor
    · intro parameter member
      obtain ⟨argument, hgiven⟩ := supplies.named parameter member
      rw [hgiven]
      exact Bool.false_ne_true
    · intro parameter member
      rw [plain_instrumented parameter member, supplies.traced (recording_of_instrumented member)]
      exact Bool.false_ne_true
  · exact fun keyword member => (mem_keywords_iff supplies).mp ⟨keyword, member, rfl⟩

end

section

include hnodup

theorem nodup_named_of_parameters : matcher.named.Nodup :=
  (List.nodup_append.mp (List.nodup_append.mp hnodup).2.1).1

theorem rootName_not_mem_keywordParameters : rootName ∉ matcher.keywordParameters :=
  fun member => (List.nodup_append.mp hnodup).2.2 rootName List.mem_cons_self rootName member rfl

end

include hnodup supplies

theorem any_callNames_iff :
    (arguments.keywords.any fun keyword => callNames.contains keyword.1) = true ↔
      "self" ∈ matcher.named := by
  have hself : "self" ∈ matcher.keywordParameters ↔ "self" ∈ matcher.named := by
    rw [keywordParameters, List.mem_append]
    exact or_iff_left fun member => absurd (plain_instrumented "self" member) (by decide)
  rw [← hself, ← mem_keywords_iff supplies, List.any_eq_true]
  refine exists_congr fun given => and_congr_right fun member => ?_
  have hother : given.1 ≠ rootName := by
    intro hname
    exact rootName_not_mem_keywordParameters hnodup
      ((mem_keywords_iff supplies).mp ⟨given, member, hname⟩)
  simp [callNames, hother]

/-- Such a call is handed on, unless a parameter has the name under which the matcher knows
itself. -/
theorem call_of_supplies (document : Document) (subject : Value) :
    matcher.call document subject arguments =
      if "self" ∈ matcher.named then ⟨.error (.call .givenTwice), []⟩
      else matcher.execute document subject (matcher.bind arguments) := by
  have hself := any_callNames_iff hnodup supplies
  split
  · rename_i hnamed
    rw [call, if_pos (hself.mpr hnamed)]
  · rename_i hnamed
    have hfree := Bool.eq_false_iff.mpr fun hany => hnamed (hself.mp hany)
    exact call_of_accepts ⟨hfree, fits_of_supplies supplies⟩ supplies.traced document subject

theorem respond_of_supplies (document : Document) (subject : Value) :
    matcher.respond document subject arguments =
      if "self" ∈ matcher.named then ⟨.error (.call .givenTwice), []⟩
      else matcher.answer document subject (matcher.bind arguments) := by
  rw [respond, call_of_supplies hnodup supplies]
  by_cases hself : "self" ∈ matcher.named
  · simp only [hself, if_true]
    exact if_neg fun hrun => Bool.false_ne_true hrun.2
  · simp only [hself, if_false, isRun_execute, and_true]
    rfl

theorem nodup_keywords : (arguments.keywords.map Prod.fst).Nodup :=
  supplies.keywords.nodup_iff.mpr (List.nodup_append.mp hnodup).2.1

theorem serve_of_supplies (document : Document) (subject : Value) :
    matcher.serve document subject arguments =
      if "self" ∈ matcher.named then ⟨.error (.call .givenTwice), []⟩
      else matcher.answer document subject (matcher.bind arguments) := by
  have hsettled : matcher.settled arguments = arguments :=
    settled_eq_self (nodup_keywords hnodup supplies)
      (fun keyword member => (mem_keywords_iff supplies).mp ⟨keyword, member, rfl⟩) supplies.named
  rw [serve_of_servable supplies.isServable, hsettled, respond_of_supplies hnodup supplies]

end Supplied

section Provided

variable {matcher : Matcher} {arguments : Arguments}
  (hnodup : matcher.parameters.Nodup) (provides : matcher.Provides arguments)

include hnodup provides

theorem Provides.nodup_keywords : (arguments.keywords.map Prod.fst).Nodup :=
  provides.keywords.nodup_iff.mpr (List.nodup_append.mp hnodup).2.1

/-- What is given by name, the trace apart, is given to the named parameters. -/
theorem Provides.perm_named : (arguments.named.map Prod.fst).Perm matcher.named := by
  have hkeys := provides.nodup_keywords hnodup
  refine (List.perm_ext_iff_of_nodup ((sublist_named arguments).nodup hkeys)
    (nodup_named_of_parameters hnodup)).mpr fun parameter => ⟨fun member => ?_, fun member => ?_⟩
  · obtain ⟨⟨_, argument⟩, hentry, rfl⟩ := List.mem_map.mp member
    have hgiven := mem_named.mp hentry
    have hkeyword := provides.keywords.mem_iff.mp (List.mem_map_of_mem hgiven)
    refine (List.mem_append.mp hkeyword).resolve_right fun htrace => ?_
    -- A trace is no argument.
    have hlookup := provides.traced (recording_of_instrumented htrace)
    rw [← plain_instrumented _ htrace, (lookup_eq_some_iff_of_nodup hkeys).mpr hgiven] at hlookup
    cases hlookup
  · obtain ⟨argument, hgiven⟩ := provides.named parameter member
    have hentry := mem_named.mpr ((lookup_eq_some_iff_of_nodup hkeys).mp hgiven)
    exact List.mem_map_of_mem hentry

theorem Provides.receives_bind : matcher.Receives arguments (matcher.bind arguments) := by
  have hnames : ((matcher.bind arguments).map Prod.fst).Perm
      (matcher.positional ++ matcher.named) := by
    rw [bind, List.map_append, List.map_fst_zip (Nat.le_of_eq provides.positional.symm)]
    exact (provides.perm_named hnodup).append_left _
  have hsublist : (matcher.positional ++ matcher.named).Sublist matcher.parameters :=
    (List.sublist_cons_self rootName _).append (List.sublist_append_left _ _)
  have hbound := hnames.nodup_iff.mpr (hsublist.nodup hnodup)
  refine ⟨hnames, ?_, ?_⟩
  · intro index parameter hparameter
    obtain ⟨hindex, -⟩ := List.getElem?_eq_some_iff.mp hparameter
    rw [← provides.positional] at hindex
    have hgiven := List.getElem?_eq_getElem hindex
    have hzip : (matcher.positional.zip arguments.positional)[index]? =
        some (parameter, arguments.positional[index]) :=
      List.getElem?_zip_eq_some.mpr ⟨hparameter, hgiven⟩
    rw [hgiven, lookup_eq_some_iff_of_nodup hbound]
    exact List.mem_append_left _ (List.mem_of_getElem? hzip)
  · intro parameter member argument hgiven
    rw [lookup_eq_some_iff_of_nodup hbound]
    refine List.mem_append_right _ (mem_named.mpr ?_)
    exact (lookup_eq_some_iff_of_nodup (provides.nodup_keywords hnodup)).mp hgiven

end Provided

theorem receives_bind {matcher : Matcher} {arguments : Arguments}
    (hnodup : matcher.parameters.Nodup) (supplies : matcher.Supplies arguments) :
    matcher.Receives arguments (matcher.bind arguments) :=
  supplies.provides.receives_bind hnodup

end Matcher

namespace Painting

open Matcher

theorem serve_of_servable {matcher : Matcher} (hservable : matcher.isServable = true)
    (document : Document) (root : Node) (arguments : Arguments) :
    serve matcher document root arguments = run matcher document root arguments := by
  rw [serve, hservable, Bool.or_true]
  rfl

def traced (arguments : Arguments) : Arguments :=
  { arguments with keywords := (traceName, .recorder) :: arguments.keywords }

section Supplied

variable {matcher : Matcher} {arguments : Arguments}
  (hnodup : matcher.parameters.Nodup) (supplies : matcher.Supplies (traced arguments))

include supplies in
theorem traceName_not_mem_named : traceName ∉ matcher.named := by
  intro member
  obtain ⟨argument, hgiven⟩ := supplies.named traceName member
  cases hgiven

include hnodup supplies

theorem mem_keywords_traced_iff {keyword : String} :
    (∃ given ∈ arguments.keywords, given.1 = keyword) ↔ keyword ∈ matcher.named := by
  have hnew : ∀ given ∈ arguments.keywords, given.1 ≠ traceName := by
    intro given member hname
    exact (List.nodup_cons.mp (nodup_keywords hnodup supplies)).1
      (List.mem_map.mpr ⟨given, member, hname⟩)
  constructor
  · rintro ⟨given, member, rfl⟩
    have hkeyword := (mem_keywords_iff supplies).mp ⟨given, List.mem_cons_of_mem _ member, rfl⟩
    exact (List.mem_append.mp hkeyword).resolve_right fun htrace =>
      hnew given member (plain_instrumented _ htrace)
  · intro member
    obtain ⟨given, hgiven, rfl⟩ := (mem_keywords_iff supplies).mpr (List.mem_append_left _ member)
    rcases List.mem_cons.mp hgiven with rfl | hlater
    · exact absurd member (traceName_not_mem_named supplies)
    · exact ⟨given, hlater, rfl⟩

theorem any_runNames_iff :
    (arguments.keywords.any fun keyword => runNames.contains keyword.1) = true ↔
      "self" ∈ matcher.named ∨ "source" ∈ matcher.named := by
  have htrace := traceName_not_mem_named supplies
  simp only [← mem_keywords_traced_iff hnodup supplies] at htrace ⊢
  rw [List.any_eq_true, ← exists_or]
  refine exists_congr fun given => ?_
  rw [← and_or_left]
  refine and_congr_right fun member => ?_
  have hother : given.1 ≠ traceName := fun hname => htrace ⟨given, member, hname⟩
  simp [runNames, hother]

theorem passed_eq_traced (hform : "syntax" ∉ matcher.named) :
    passed arguments = traced arguments := by
  rw [passed, traced, List.filter_eq_self.mpr]
  intro given member
  rw [bne_iff_ne]
  intro hname
  exact hform ((mem_keywords_traced_iff hnodup supplies).mp ⟨given, member, hname⟩)

theorem missingKeywordsOf_passed (hform : "syntax" ∈ matcher.named) :
    matcher.missingKeywordsOf (passed arguments).keywords = ["syntax"] := by
  have hmissing : ∀ parameter ∈ matcher.named,
      ((passed arguments).keywords.lookup parameter).isNone = (parameter == "syntax") := by
    intro parameter member
    have hother : (parameter == traceName) = false :=
      beq_eq_false_iff_ne.mpr (ne_of_mem_of_not_mem member (traceName_not_mem_named supplies))
    obtain ⟨argument, hgiven⟩ := supplies.named parameter member
    rw [traced, List.lookup_cons, hother] at hgiven
    change arguments.keywords.lookup parameter = _ at hgiven
    have hkept : (passed arguments).keywords.lookup parameter =
        (arguments.keywords.filter fun keyword => keyword.1 != "syntax").lookup parameter := by
      rw [passed, List.lookup_cons, hother]
    by_cases hname : parameter = "syntax"
    · have hnone : (arguments.keywords.filter fun keyword => keyword.1 != "syntax").lookup
          parameter = none := by
        refine List.lookup_eq_none_iff.mpr fun keyword member => ?_
        rw [hname, bne_comm]
        exact (List.mem_filter.mp member).2
      rw [hkept, hnone, hname, BEq.rfl]
      rfl
    · rw [hkept, Registry.lookup_filter_of_ne hname, hgiven, beq_eq_false_iff_ne.mpr hname]
      rfl
  have hinstrumented : matcher.instrumented.filter
      (fun parameter => isUnset ((passed arguments).keywords.lookup parameter)) = [] := by
    refine List.filter_eq_nil_iff.mpr fun parameter member => ?_
    rw [plain_instrumented parameter member]
    exact Bool.false_ne_true
  rw [missingKeywordsOf, hinstrumented, List.append_nil, List.filter_congr hmissing,
    List.filter_beq, List.count_eq_one_of_mem (nodup_named_of_parameters hnodup) hform]
  rfl

theorem call_passed (hself : "self" ∉ matcher.named) (hform : "syntax" ∈ matcher.named)
    (document : Document) (subject : Value) :
    matcher.call document subject (passed arguments) =
      ⟨.error (.reported (ArgumentFault.missingKeywords ["syntax"]).diagnostic), []⟩ := by
  have hfree : ((passed arguments).keywords.any
      fun keyword => callNames.contains keyword.1) = false := by
    have hall := Bool.eq_false_iff.mpr
      fun hany => hself ((any_callNames_iff hnodup supplies).mp hany)
    rw [List.any_eq_false] at hall ⊢
    intro given member
    refine hall given ?_
    rcases List.mem_cons.mp member with rfl | hgiven
    · exact List.mem_cons_self
    · exact List.mem_cons_of_mem _ (List.mem_filter.mp hgiven).1
  have hchecked : matcher.checkArguments (passed arguments) =
      .error (.missingKeywords ["syntax"]) := by
    have hlength : (passed arguments).positional.length = matcher.positional.length :=
      supplies.positional
    rw [checkArguments, missingKeywordsOf_passed hnodup supplies hform, hlength]
    simp only [Nat.lt_irrefl, if_false]
  rw [call, hfree, hchecked]
  rfl

/-- A run hands its arguments on, unless a parameter has the name of one of its own. -/
theorem run_of_supplies (document : Document) (root : Node) :
    run matcher document root arguments =
      if "self" ∈ matcher.named ∨ "source" ∈ matcher.named then .error (.call .givenTwice)
      else if "syntax" ∈ matcher.named then
        .error (.reported (ArgumentFault.missingKeywords ["syntax"]).diagnostic)
      else ofCall matcher document root
        (matcher.execute document root.toValue (matcher.bind arguments)) := by
  rw [run_eq]
  simp only [any_runNames_iff hnodup supplies]
  by_cases hown : "self" ∈ matcher.named ∨ "source" ∈ matcher.named
  · rw [if_pos hown, if_pos hown]
  · rw [if_neg hown, if_neg hown]
    have hself := (not_or.mp hown).1
    by_cases hform : "syntax" ∈ matcher.named
    · rw [if_pos hform, call_passed hnodup supplies hself hform]
      rfl
    · rw [if_neg hform, passed_eq_traced hnodup supplies hform,
        call_of_supplies hnodup supplies, if_neg hself]
      rfl

end Supplied

end Painting

namespace Matcher

end Matcher

end TreeMatch

import TreeMatch.Proofs.Compiled

/-! The names that a script makes up: that of its function, from whatever was asked for, and the
numbered ones of positional parameters and of the elements of repetitions. -/

namespace TreeMatch

namespace Script

/-- A letter, a digit or an underscore of the ASCII block. -/
def isAsciiWord (c : Char) : Bool :=
  Text.isAsciiLetter c || Text.isAsciiDigit c || c == '_'

structure IsAsciiIdentifier (name : String) : Prop where
  word : ∀ c ∈ name.toList, isAsciiWord c = true
  starts : ∃ first rest, name.toList = first :: rest ∧ Text.isAsciiDigit first = false

theorem IsAsciiIdentifier.append {name : String} (identifier : IsAsciiIdentifier name)
    {back : String} (hback : ∀ c ∈ back.toList, isAsciiWord c = true) :
    IsAsciiIdentifier (name ++ back) := by
  obtain ⟨first, rest, hname, hfirst⟩ := identifier.starts
  refine ⟨?_, first, rest ++ back.toList, ?_, hfirst⟩
  · rw [String.toList_append]
    exact List.forall_mem_append.mpr ⟨identifier.word, hback⟩
  · rw [String.toList_append, hname, List.cons_append]

theorem isAsciiIdentifier_ofList {first : Char} {rest : List Char}
    (hword : ∀ c ∈ first :: rest, isAsciiWord c = true)
    (hfirst : Text.isAsciiDigit first = false) :
    IsAsciiIdentifier (String.ofList (first :: rest)) := by
  refine ⟨?_, first, rest, String.toList_ofList, hfirst⟩
  rw [String.toList_ofList]
  exact hword

theorem isAsciiIdentifier_iff {name : String} :
    IsAsciiIdentifier name ↔ name.toList.all isAsciiWord = true ∧
      name.toList.head?.any (fun c => !Text.isAsciiDigit c) = true := by
  rw [List.all_eq_true, Option.any_eq_true]
  constructor
  · rintro ⟨hword, first, rest, hname, hfirst⟩
    rw [hname, List.head?_cons]
    refine ⟨hname ▸ hword, first, rfl, ?_⟩
    rw [hfirst, Bool.not_false]
  · rintro ⟨hword, first, hhead, hfirst⟩
    obtain ⟨rest, hname⟩ := List.head?_eq_some_iff.mp hhead
    rw [Bool.not_eq_true'] at hfirst
    exact ⟨hword, first, rest, hname, hfirst⟩

instance (name : String) : Decidable (IsAsciiIdentifier name) :=
  decidable_of_iff _ isAsciiIdentifier_iff.symm

theorem keywords_end : ∀ keyword ∈ keywords, keyword.toList.getLast? ≠ some '_' := by
  decide

/-- An underscore behind a keyword makes it a name, and so is one that stands for nothing. -/
theorem isAsciiIdentifier_rescued {name : String} (hname : name = "" ∨ IsAsciiIdentifier name) :
    IsAsciiIdentifier
        (if isKeyword name then name ++ "_" else if name = "" then "_unnamed" else name) ∧
      isKeyword (if isKeyword name then name ++ "_" else if name = "" then "_unnamed" else name) =
        false := by
  rcases hname with rfl | identifier
  · exact ⟨by decide, by decide⟩
  have hsome : name ≠ "" := by
    rintro rfl
    obtain ⟨first, rest, hcons, -⟩ := identifier.starts
    cases hcons
  rw [if_neg hsome]
  split
  · refine ⟨identifier.append (List.all_eq_true.mp (by decide)), ?_⟩
    rw [isKeyword, List.contains_eq_mem, decide_eq_false_iff_not]
    intro member
    apply keywords_end _ member
    rw [String.toList_append]
    exact List.getLast?_concat
  · exact ⟨identifier, Bool.eq_false_iff.mpr ‹_›⟩

theorem isAsciiIdentifier_identifierOf (requested : String) :
    IsAsciiIdentifier (identifierOf requested) ∧ isKeyword (identifierOf requested) = false := by
  unfold identifierOf
  generalize hfilter : ((requested.toList.map fun c => if c = '-' then '_' else c).filter fun c =>
    Text.isAsciiLetter c || Text.isAsciiDigit c || c == '_') = kept
  have hkept : ∀ c ∈ kept, isAsciiWord c = true := by
    intro c member
    rw [← hfilter] at member
    exact (List.mem_filter.mp member).2
  apply isAsciiIdentifier_rescued
  cases kept with
  | nil => exact .inl rfl
  | cons first rest =>
      dsimp only
      split
      · exact .inr (isAsciiIdentifier_ofList (List.forall_mem_cons.mpr ⟨by decide, hkept⟩)
          (by decide))
      · exact .inr (isAsciiIdentifier_ofList hkept (Bool.eq_false_iff.mpr ‹_›))

theorem identifierOf_eq {name : String} (identifier : IsAsciiIdentifier name)
    (hkeyword : isKeyword name = false) : identifierOf name = name := by
  obtain ⟨first, rest, hname, hfirst⟩ := identifier.starts
  have hsome : name ≠ "" := by
    rintro rfl
    cases hname
  have hmapped : name.toList.map (fun c => if c = '-' then '_' else c) = name.toList := by
    refine (List.map_congr_left fun c member => if_neg ?_).trans (List.map_id' _)
    rintro rfl
    exact absurd (identifier.word '-' member) (by decide)
  have hkept : (name.toList.map fun c => if c = '-' then '_' else c).filter (fun c =>
      Text.isAsciiLetter c || Text.isAsciiDigit c || c == '_') = first :: rest := by
    rw [hmapped, ← hname]
    exact List.filter_eq_self.mpr identifier.word
  simp only [identifierOf, hkept, hfirst, Bool.false_eq_true, if_false]
  rw [← hname, String.ofList_toList, hkeyword, if_neg Bool.false_ne_true, if_neg hsome]

theorem functionName_eq {name : String} (identifier : IsAsciiIdentifier name)
    (hkeyword : isKeyword name = false) (hshadowing : isShadowing name = false) :
    functionName name = name := by
  rw [functionName, identifierOf_eq identifier hkeyword, hshadowing]
  exact if_neg Bool.false_ne_true

/-- The name of a function is an identifier that hides nothing a script relies on. -/
theorem functionName_free (requested : String) :
    IsAsciiIdentifier (functionName requested) ∧ functionName requested ∉ keywords ∧
      functionName requested ∉ reservedNames ∧ functionName requested ∉ helperNames ∧
      functionName requested ∉ builtinNames := by
  have hfree : IsAsciiIdentifier (functionName requested) ∧
      isKeyword (functionName requested) = false ∧
      isShadowing (functionName requested) = false := by
    unfold functionName
    dsimp only
    split
    · exact ⟨by decide, by decide, by decide⟩
    · obtain ⟨identifier, hkeyword⟩ := isAsciiIdentifier_identifierOf requested
      exact ⟨identifier, hkeyword, Bool.eq_false_iff.mpr ‹_›⟩
  obtain ⟨identifier, hkeyword, hshadowing⟩ := hfree
  simp only [isShadowing, Bool.or_eq_false_iff, List.contains_eq_mem, decide_eq_false_iff_not]
    at hshadowing
  rw [isKeyword, List.contains_eq_mem, decide_eq_false_iff_not] at hkeyword
  exact ⟨identifier, hkeyword, hshadowing.1.1.1, hshadowing.1.1.2, hshadowing.1.2⟩

end Script

end TreeMatch

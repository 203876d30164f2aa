import TreeMatch.Proofs.Grafting
import TreeMatch.Proofs.Occupancy

/-! Which parenthesis closes which, found by a scan that knows of comments and strings and of
nothing else. It agrees with the reader: a list ends with the parenthesis that closes it. -/

namespace TreeMatch

open Grammar

inductive Zone
  | plain
  | comment
  | string
  /-- In a string, behind a backslash. -/
  | escape
  deriving DecidableEq, Repr

namespace Zone

def behind : Zone → Char → Zone
  | plain, c => if c = ';' then comment else if c = '"' then string else plain
  | comment, c => if c = '\n' then plain else comment
  | string, c => if c = '"' then plain else if c = '\\' then escape else string
  | escape, _ => string

def depthBehind : Zone → Nat → Char → Nat
  | plain, depth, c => if c = '(' then depth + 1 else if c = ')' then depth - 1 else depth
  | _, depth, _ => depth

/-- How many characters there are up to the one behind which no parenthesis is open. -/
def closing (zone : Zone) (depth : Nat) : List Char → Option Nat
  | [] => none
  | c :: rest =>
    if zone.depthBehind depth c = 0 then some 1
    else (closing (zone.behind c) (zone.depthBehind depth c) rest).map (· + 1)

/-- The characters lead from one zone to another and close what they open: behind them a scan goes
on as it would have in front of them. -/
def Balanced (zone : Zone) (taken : List Char) (zone' : Zone) : Prop :=
  ∀ depth other, zone.closing (depth + 1) (taken ++ other) =
    (zone'.closing (depth + 1) other).map (· + taken.length)

variable {zone zone' zone'' : Zone} {c : Char} {taken more rest text : List Char}

namespace Balanced

theorem nil (zone : Zone) : Balanced zone [] zone := by
  intro depth other
  rw [List.nil_append]
  cases zone.closing (depth + 1) other <;> rfl

theorem cons (hdepth : ∀ depth, zone.depthBehind depth c = depth)
    (later : Balanced (zone.behind c) taken zone') : Balanced zone (c :: taken) zone' := by
  intro depth other
  rw [List.cons_append, closing, hdepth, if_neg (Nat.succ_ne_zero depth), later, Option.map_map]
  rfl

theorem append (first : Balanced zone taken zone') (second : Balanced zone' more zone'') :
    Balanced zone (taken ++ more) zone'' := by
  intro depth other
  rw [List.append_assoc, first, second, Option.map_map]
  congr 1
  funext count
  simp only [Function.comp_apply, List.length_append]
  omega

theorem enclosed (inside : Balanced plain taken plain) :
    Balanced plain ('(' :: (taken ++ [')'])) plain := by
  intro depth other
  have hleft : plain.closing (depth + 1) ('(' :: (taken ++ ')' :: other)) =
      (plain.closing (depth + 2) (taken ++ ')' :: other)).map (· + 1) := rfl
  have hright : plain.closing (depth + 2) (')' :: other) =
      (plain.closing (depth + 1) other).map (· + 1) := rfl
  rw [List.cons_append, List.append_assoc, List.singleton_append, hleft, inside, hright,
    Option.map_map, Option.map_map]
  congr 1
  funext count
  simp only [Function.comp_apply, List.length_cons, List.length_append, List.length_nil]
  omega

end Balanced

/-- The last parenthesis closes the first, if what they enclose is balanced. -/
theorem closing_enclosed (inside : Balanced plain taken plain) :
    plain.closing 0 ('(' :: (taken ++ [')'])) = some (taken.length + 2) := by
  have hleft : plain.closing 0 ('(' :: (taken ++ [')'])) =
      (plain.closing 1 (taken ++ [')'])).map (· + 1) := rfl
  have hright : plain.closing 1 [')'] = some 1 := rfl
  rw [hleft, inside 0 [')'], hright, Option.map_some, Option.map_some, Nat.add_comm 1]

def signs : List Char :=
  ['(', ')', ';', '"']

def Inert (c : Char) : Prop :=
  c ∉ signs

instance : DecidablePred Inert := fun c =>
  inferInstanceAs (Decidable (c ∉ signs))

theorem inert_of_test {test : Char → Bool} (htest : test c = true)
    (hnone : signs.any test = false) : Inert c :=
  fun member => Bool.eq_false_iff.mp hnone (List.any_eq_true.mpr ⟨c, member, htest⟩)

theorem inert_of_all (hall : (taken.all fun c => decide (Inert c)) = true) :
    ∀ c ∈ taken, Inert c :=
  fun c member => of_decide_eq_true (List.all_eq_true.mp hall c member)

theorem Balanced.inert (hinert : Inert c) (later : Balanced plain taken plain) :
    Balanced plain (c :: taken) plain := by
  simp only [Inert, signs, List.mem_cons, List.not_mem_nil, or_false, not_or] at hinert
  obtain ⟨hleft, hright, hcomment, hquote⟩ := hinert
  refine .cons (fun depth => ?_) ?_
  · rw [depthBehind, if_neg hleft, if_neg hright]
  · rw [behind, if_neg hcomment, if_neg hquote]
    exact later

theorem balanced_of_inert (hinert : ∀ c ∈ taken, Inert c) : Balanced plain taken plain := by
  induction taken with
  | nil => exact .nil plain
  | cons c taken induction =>
      obtain ⟨hfirst, hrest⟩ := List.forall_mem_cons.mp hinert
      exact (induction hrest).inert hfirst

/-- Comments are balanced, whatever stands in them, if they end before the text does. -/
theorem balanced_of_dropBlanks {comment : Bool}
    (hdrop : Lexeme.dropBlanks ';' comment (taken ++ c :: rest) = c :: rest) :
    Balanced (if comment then Zone.comment else plain) taken plain := by
  induction taken generalizing comment with
  | nil =>
      cases comment with
      | true => exact absurd hdrop (Lexeme.dropBlanks_comment_ne c rest)
      | false => exact .nil plain
  | cons d taken induction =>
      cases comment with
      | true =>
          have later := @induction (decide (d ≠ '\n')) hdrop
          refine .cons (fun depth => rfl) ?_
          change Balanced (if d = '\n' then plain else Zone.comment) taken plain
          simpa using later
      | false =>
          rw [List.cons_append, Lexeme.dropBlanks] at hdrop
          split at hdrop
          · rename_i hblank
            exact (induction hdrop).inert (inert_of_test hblank (by decide))
          · split at hdrop
            · rename_i hmark
              subst hmark
              exact .cons (fun depth => rfl) (@induction true hdrop)
            · have hlength := congrArg List.length hdrop
              simp only [List.length_cons, List.length_append] at hlength
              omega

theorem balanced_of_stringTail (htake : Lexeme.stringTail text = some (taken, rest)) :
    Balanced string taken plain := by
  induction text using Lexeme.stringTail.induct generalizing taken with
  | case1 => cases htake
  | case2 behind =>
      cases htake
      exact .cons (fun depth => rfl) (.nil plain)
  | case3 behind =>
      rw [Lexeme.stringTail, if_pos rfl] at htake
      cases htake
  | case4 c behind hplain induction =>
      rw [Lexeme.stringTail, if_neg hplain] at htake
      obtain ⟨hidden, hhidden, rfl⟩ := Lexeme.cons_eq_some htake
      obtain ⟨later, hlater, rfl⟩ := Lexeme.cons_eq_some hhidden
      exact .cons (fun depth => rfl) (.cons (fun depth => rfl) (induction hlater))
  | case5 behind hquote hlast =>
      rw [Lexeme.stringTail, if_pos rfl] at htake
      · cases htake
      · exact hquote
      · exact hlast
  | case6 c rest hquote hhidden hplain induction =>
      rw [Lexeme.stringTail, if_neg hplain] at htake
      · obtain ⟨later, hlater, rfl⟩ := Lexeme.cons_eq_some htake
        refine .cons (fun depth => rfl) ?_
        have hother : c ≠ '"' := fun hsame => hquote hsame
        rw [behind, if_neg hother, if_neg hplain]
        exact induction hlater
      · exact hquote
      · exact hhidden

section Atoms

theorem inert_of_run {first follow : Char → Bool} (hfirst : signs.any first = false)
    (hfollow : signs.any follow = false)
    (htake : Lexeme.run first follow text = some (taken, rest)) : ∀ c ∈ taken, Inert c := by
  obtain ⟨c, word, rfl, -, hstart, hword, -⟩ := Lexeme.run_eq_some_iff.mp htake
  refine List.forall_mem_cons.mpr ⟨inert_of_test hstart hfirst, fun d member => ?_⟩
  exact inert_of_test (hword d member) hfollow

theorem inert_of_symbolName (htake : Lexeme.symbolName text = some (taken, rest)) :
    ∀ c ∈ taken, Inert c := by
  cases Lexeme.nameForm_of_symbolName htake with
  | marked hword hmark =>
      refine List.forall_mem_append.mpr ⟨inert_of_run (by decide) (by decide) hword, ?_⟩
      exact List.forall_mem_singleton.mpr (inert_of_test hmark (by decide))
  | plain hword hmark => exact inert_of_run (by decide) (by decide) hword
  | operator hword hoperator => exact inert_of_run (by decide) (by decide) hoperator
  | assignment htext | element htext hplain => exact inert_of_all (by decide)

theorem inert_of_number (hnumber : ∀ c ∈ taken, c = '-' ∨ c = '.' ∨ Text.isDigit c = true) :
    ∀ c ∈ taken, Inert c := by
  intro c member
  rcases hnumber c member with rfl | rfl | hdigit
  · decide
  · decide
  · exact inert_of_test hdigit (by decide)

theorem balanced_of_take {kind : AtomKind} (htake : kind.take text = some (taken, rest)) :
    Balanced plain taken plain := by
  cases kind with
  | nil | «true» | «false» =>
      obtain ⟨rfl, -⟩ := Lexeme.literal_eq_some (Lexeme.notBefore_eq_some htake)
      exact balanced_of_inert (inert_of_all (by decide))
  | symbol =>
      change Lexeme.symbol text = _ at htake
      unfold Lexeme.symbol at htake
      split at htake
      · obtain ⟨name, hname, rfl⟩ := Lexeme.cons_eq_some htake
        exact (balanced_of_inert (inert_of_symbolName hname)).inert (by decide)
      · cases htake
  | float => exact balanced_of_inert (inert_of_number (Number.mem_decimal htake))
  | integer =>
      obtain ⟨negative, digits, rfl, -, hdigits⟩ := Number.signed_of_integer htake
      refine balanced_of_inert (inert_of_number fun c member => ?_)
      exact (Number.mem_signed member).imp_right fun hmem => .inr (hdigits c hmem)
  | string =>
      change Lexeme.string text = _ at htake
      unfold Lexeme.string at htake
      split at htake
      · obtain ⟨tail, htail, rfl⟩ := Lexeme.cons_eq_some htake
        exact .cons (fun depth => rfl) (balanced_of_stringTail htail)
      · cases htake

theorem balanced_of_takeHead (htake : Sexp.takeHead text = some (taken, rest)) :
    Balanced plain taken plain :=
  balanced_of_inert (inert_of_run (by decide) (by decide) htake)

end Atoms

end Zone

namespace Sexp

open Zone (plain Balanced)

variable {sexp : Sexp} {items : List Sexp} {cursor middle next last : Cursor} {loc : Range}
  {head : List Char}

def BalancedBetween (cursor next : Cursor) : Prop :=
  ∃ taken, cursor.rest = taken ++ next.rest ∧ Balanced plain taken plain

theorem BalancedBetween.refl (cursor : Cursor) : BalancedBetween cursor cursor :=
  ⟨[], rfl, .nil plain⟩

theorem BalancedBetween.trans (first : BalancedBetween cursor middle)
    (second : BalancedBetween middle next) : BalancedBetween cursor next := by
  obtain ⟨front, hfront, hbalanced⟩ := first
  obtain ⟨back, hback, hbalanced'⟩ := second
  exact ⟨front ++ back, by rw [hfront, hback, List.append_assoc], hbalanced.append hbalanced'⟩

theorem balancedBetween_skip {c : Char} {rest : List Char}
    (hrest : (cursor.skip ';').rest = c :: rest) :
    BalancedBetween cursor (cursor.skip ';') := by
  obtain ⟨skipped, hsplit, -, hdrop⟩ := Cursor.exists_skipped ';' cursor
  refine ⟨skipped, hsplit, ?_⟩
  rw [hrest] at hdrop
  exact Zone.balanced_of_dropBlanks hdrop

theorem balancedBetween_all (each : ∀ item ∈ items, ∀ {cursor next : Cursor},
      item.Occupies cursor next → BalancedBetween cursor next)
    (occupy : OccupyAll items cursor last) : BalancedBetween cursor last := by
  induction items generalizing cursor with
  | nil =>
      cases occupy
      exact .refl _
  | cons item rest induction =>
      obtain ⟨hitem, hothers⟩ := List.forall_mem_cons.mp each
      obtain ⟨next, hfirst, -, hrest⟩ := occupy
      obtain ⟨c, text, hopening, -⟩ := opens_of_occupies hfirst
      exact ((balancedBetween_skip hopening).trans (hitem hfirst)).trans (induction hothers hrest)

theorem exists_inside (each : ∀ item ∈ items, ∀ {cursor next : Cursor},
      item.Occupies cursor next → BalancedBetween cursor next)
    (occupies : (list loc head items).Occupies cursor next) :
    ∃ inside, cursor.rest = '(' :: (inside ++ [')']) ++ next.rest ∧
      Balanced plain inside plain := by
  obtain ⟨rest, opened, named, last, hleft, rfl, hhead, -, hitems, hright, -, -⟩ := occupies
  obtain ⟨hword, c, word, rfl, -⟩ := Lexeme.run_eq_some hhead
  have hbetween := (balancedBetween_all each hitems).trans (balancedBetween_skip hright)
  have hnamed : BalancedBetween (Cursor.skip ';' ⟨cursor.offset + 1, rest⟩) named :=
    ⟨c :: word, hword, Zone.balanced_of_takeHead hhead⟩
  obtain ⟨inside, hinside, hbalanced⟩ :=
    ((balancedBetween_skip hword).trans hnamed).trans hbetween
  refine ⟨inside, ?_, hbalanced⟩
  rw [hright] at hinside
  rw [hleft, show rest = _ from hinside]
  simp

theorem balancedBetween_of_occupies (occupies : sexp.Occupies cursor next) :
    BalancedBetween cursor next := by
  induction sexp using induct generalizing cursor next with
  | atom kind text =>
      have htake := AtomKind.takeFirst_eq_some occupies.1
      exact ⟨text, (AtomKind.take_eq_some htake).1, Zone.balanced_of_take htake⟩
  | list loc head items each =>
      obtain ⟨inside, hinside, hbalanced⟩ :=
        exists_inside (fun item member _ _ hitem => each item member hitem) occupies
      exact ⟨_, hinside, hbalanced.enclosed⟩

/-- The characters of a list start with a parenthesis, and end with the one that closes it. -/
theorem enclosed_of_occupies {taken : List Char}
    (occupies : (list loc head items).Occupies cursor next)
    (htaken : cursor.rest = taken ++ next.rest) :
    taken.head? = some '(' ∧ taken.getLast? = some ')' ∧
      plain.closing 0 taken = some taken.length := by
  obtain ⟨inside, hinside, hbalanced⟩ :=
    exists_inside (fun item _ _ _ hitem => balancedBetween_of_occupies hitem) occupies
  obtain rfl := List.append_cancel_right (htaken.symm.trans hinside)
  refine ⟨rfl, ?_, ?_⟩
  · rw [← List.cons_append, List.getLast?_append]
    rfl
  · rw [Zone.closing_enclosed hbalanced, List.length_cons, List.length_append]
    rfl

end Sexp

end TreeMatch

import TreeMatch.Proofs.Coloring

/-! Colored text is written run by run: the characters of a run have one status, and stand between
the code of that status and a reset. -/

namespace TreeMatch

/-- Characters, each with its status, as they stand one behind the other. -/
abbrev Cells := List (Char × MatchStatus)

structure Run where
  status : MatchStatus
  first : Char
  others : List Char

namespace Run

def chars (run : Run) : List Char :=
  run.first :: run.others

def cells (run : Run) : Cells :=
  run.chars.map fun c => (c, run.status)

/-- A run as it is shown: its text between the code of its status and a reset. -/
def shown (scheme : ColorScheme) (run : Run) : String :=
  scheme.code run.status ++ String.ofList run.chars ++ scheme.reset

/-- The runs are the text, and none of them could be longer. -/
structure Spell (runs : List Run) (colors : Cells) : Prop where
  covers : runs.flatMap cells = colors
  apart : runs.IsChain fun run next => run.status ≠ next.status

def leading (own : MatchStatus) : List Run → List Char × List Run
  | [] => ([], [])
  | next :: later => if next.status = own then (next.chars, later) else ([], next :: later)

def extend (c : Char) (own : MatchStatus) (runs : List Run) : List Run :=
  ⟨own, c, (leading own runs).1⟩ :: (leading own runs).2

def ofCells : Cells → List Run
  | [] => []
  | (c, own) :: rest => extend c own (ofCells rest)

variable {runs : List Run} {colors : Cells} {c : Char} {own : MatchStatus}

theorem spell_extend (spell : Spell runs colors) (c : Char) (own : MatchStatus) :
    Spell (extend c own runs) ((c, own) :: colors) := by
  obtain ⟨rfl, hapart⟩ := spell
  cases runs with
  | nil => exact ⟨rfl, .singleton _⟩
  | cons next later =>
      by_cases hsame : next.status = own
      · subst hsame
        rw [extend, leading, if_pos rfl]
        refine ⟨rfl, ?_⟩
        cases later with
        | nil => exact .singleton _
        | cons run later =>
            obtain ⟨hnext, hlater⟩ := List.isChain_cons_cons.mp hapart
            exact List.isChain_cons_cons.mpr ⟨hnext, hlater⟩
      · rw [extend, leading, if_neg hsame]
        exact ⟨rfl, List.isChain_cons_cons.mpr ⟨Ne.symm hsame, hapart⟩⟩

theorem spell_ofCells (colors : Cells) : Spell (ofCells colors) colors := by
  induction colors with
  | nil => exact ⟨rfl, .nil⟩
  | cons cell rest induction => exact spell_extend induction cell.1 cell.2

/-- Runs that spell characters are made of the first one and of runs that spell the others. -/
theorem exists_extend (spell : Spell runs ((c, own) :: colors)) :
    ∃ behind, Spell behind colors ∧ runs = extend c own behind := by
  obtain ⟨hcovers, hapart⟩ := spell
  cases runs with
  | nil => cases hcovers
  | cons run later =>
      obtain ⟨shared, first, others⟩ := run
      obtain ⟨hfirst, hbehind⟩ := List.cons.inj hcovers
      cases hfirst
      cases others with
      | nil =>
          refine ⟨later, ⟨hbehind, hapart.of_cons⟩, ?_⟩
          cases later with
          | nil => rfl
          | cons next later =>
              have hother := (List.isChain_cons_cons.mp hapart).1
              rw [extend, leading, if_neg (Ne.symm hother)]
      | cons second others =>
          refine ⟨⟨shared, second, others⟩ :: later, ⟨hbehind, ?_⟩, ?_⟩
          · cases later with
            | nil => exact .singleton _
            | cons next later =>
                obtain ⟨hnext, hlater⟩ := List.isChain_cons_cons.mp hapart
                exact List.isChain_cons_cons.mpr ⟨hnext, hlater⟩
          · rw [extend, leading, if_pos rfl]
            rfl

theorem spell_iff : Spell runs colors ↔ runs = ofCells colors := by
  refine ⟨fun spell => ?_, fun hruns => hruns ▸ spell_ofCells colors⟩
  induction colors generalizing runs with
  | nil =>
      cases runs with
      | nil => rfl
      | cons run later => cases spell.covers
  | cons cell rest induction =>
      obtain ⟨behind, hbehind, rfl⟩ := exists_extend spell
      rw [induction hbehind]
      rfl

theorem flatMap_chars_of_spell (spell : Spell runs colors) :
    runs.flatMap chars = colors.map Prod.fst := by
  have hchars : ∀ run : Run, run.cells.map Prod.fst = run.chars := by
    intro run
    rw [cells, List.map_map]
    exact List.map_id _
  rw [← spell.covers, List.map_flatMap]
  simp only [hchars]

theorem join_shown_plain (runs : List Run) :
    String.join (runs.map (shown .plain)) = String.ofList (runs.flatMap chars) := by
  induction runs with
  | nil => rfl
  | cons run later induction =>
      have hrun : run.shown .plain = String.ofList run.chars := by
        obtain ⟨own, first, others⟩ := run
        cases own <;> exact String.append_empty.trans String.empty_append
      rw [List.map_cons, String.join_cons, hrun, induction, List.flatMap_cons, String.ofList_append]

end Run

namespace Painting

variable {painting : Painting} {text : List Char}

/-- Behind a character its run goes on, and is closed before the next one is shown. -/
theorem colorRuns_some (scheme : ColorScheme) (own : MatchStatus) (colors : Cells) :
    colorRuns scheme (some own) colors =
      String.ofList (Run.leading own (Run.ofCells colors)).1 ++ scheme.reset ++
        String.join ((Run.leading own (Run.ofCells colors)).2.map (Run.shown scheme)) := by
  induction colors generalizing own with
  | nil => exact String.append_empty.symm
  | cons cell rest induction =>
      obtain ⟨c, status⟩ := cell
      rw [colorRuns, induction status, Run.ofCells, Run.extend, Run.leading]
      by_cases hsame : own = status
      · subst hsame
        simp only [if_pos, Run.chars, String.ofList_cons, String.empty_append, String.append_assoc]
      · simp only [if_neg hsame, if_neg (Ne.symm hsame), List.map_cons, String.join_cons, Run.shown,
          Run.chars, String.ofList_cons, String.ofList_nil, String.empty_append,
          String.append_assoc]

theorem colorRuns_none (scheme : ColorScheme) (colors : Cells) :
    colorRuns scheme none colors =
      String.join ((Run.ofCells colors).map (Run.shown scheme)) := by
  cases colors with
  | nil => rfl
  | cons cell rest =>
      obtain ⟨c, status⟩ := cell
      rw [colorRuns, colorRuns_some, Run.ofCells, Run.extend]
      simp only [List.map_cons, String.join_cons, Run.shown, Run.chars, String.ofList_cons,
        String.append_assoc]

theorem size_paint (colors : Array MatchStatus) (entry : Node × MatchStatus) :
    (paint colors entry).size = colors.size := by
  have hfold : ∀ (offsets : List Nat) (colors : Array MatchStatus),
      (offsets.foldl (fun colors offset => colors.setIfInBounds offset entry.2) colors).size =
        colors.size := by
    intro offsets
    induction offsets with
    | nil => exact fun _ => rfl
    | cons offset rest induction =>
        intro colors
        rw [List.foldl_cons, induction, Array.size_setIfInBounds]
  unfold paint
  split
  · exact hfold _ colors
  · rfl

/-- Every character of the text has its status, and no other character is colored. -/
theorem colorMap_covers (hsource : painting.source = .ok text) :
    ∃ colors, painting.colorMap = .ok colors ∧ colors.map Prod.fst = text := by
  have hsize : ∀ (entries : List (Node × MatchStatus)) (colors : Array MatchStatus),
      (entries.foldl paint colors).size = colors.size := by
    intro entries
    induction entries with
    | nil => exact fun _ => rfl
    | cons entry rest induction =>
        intro colors
        rw [List.foldl_cons, induction, size_paint]
  refine ⟨_, by rw [colorMap, hsource]; rfl, List.map_fst_zip (Nat.le_of_eq ?_)⟩
  exact ((hsize painting.matchMap _).trans Array.size_replicate).symm

/-- A text is colored run by run: it falls into longest runs of one status in one way only, and each
is shown between the code of its status and a reset. No character gets lost, and none is added or
moved. -/
theorem colorize_shows_runs (scheme : ColorScheme) (hsource : painting.source = .ok text) :
    ∃ colors runs, painting.colorMap = .ok colors ∧ colors.map Prod.fst = text ∧
      (∀ others, Run.Spell others colors ↔ others = runs) ∧
      painting.colorize scheme = .ok (String.join (runs.map (Run.shown scheme))) ∧
      runs.flatMap Run.chars = text ∧ painting.colorize .plain = .ok (String.ofList text) := by
  obtain ⟨colors, hcolors, htext⟩ := colorMap_covers hsource
  have hcolorize : ∀ scheme, painting.colorize scheme =
      .ok (String.join ((Run.ofCells colors).map (Run.shown scheme))) := by
    intro scheme
    rw [colorize, hcolors]
    exact congrArg Except.ok (colorRuns_none scheme colors)
  have hchars : (Run.ofCells colors).flatMap Run.chars = text :=
    (Run.flatMap_chars_of_spell (Run.spell_ofCells colors)).trans htext
  refine ⟨colors, Run.ofCells colors, hcolors, htext, fun _ => Run.spell_iff, hcolorize scheme,
    hchars, ?_⟩
  rw [hcolorize, Run.join_shown_plain, hchars]

/-- A blank, and a list in a list that no part of the pattern reaches: the code of the outer list is
written again behind the inner one. -/
theorem colorize_shows_runs_nested :
    let document := Document.ofNode ⟨0, "a", some ⟨1, 7⟩, [.node 0 "b" (some ⟨4, 3⟩) []]⟩ " (a (b))"
    let painting : Painting := ⟨Matcher.ofPattern "_" (.leaf ⟨0, 1⟩ (.wildcard "")) true "m",
      document, document.root, Trace.empty, .absent⟩
    painting.source = .ok " (a (b))".toList ∧
      painting.colorize .standard =
        .ok "\x1b[36m \x1b[0m\x1b[33m(a \x1b[0m\x1b[36m(b)\x1b[0m\x1b[33m)\x1b[0m" := by
  intro document painting
  have hsource : painting.source = .ok " (a (b))".toList := by cbv
  obtain ⟨colors, runs, hcolors, -, hunique, hcolorize, -⟩ :=
    colorize_shows_runs .standard hsource
  have hmap : painting.colorMap = .ok
      [(' ', .notVisitable), ('(', .notVisited), ('a', .notVisited), (' ', .notVisited),
        ('(', .notVisitable), ('b', .notVisitable), (')', .notVisitable), (')', .notVisited)] :=
    colorMap_eq hsource (by decide)
  cases hmap.symm.trans hcolors
  cases (hunique _).mp (Run.spell_ofCells _)
  exact ⟨hsource, hcolorize⟩

end Painting

end TreeMatch

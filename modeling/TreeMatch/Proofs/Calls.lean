import TreeMatch.Proofs.Identity
import TreeMatch.Proofs.Syntax

/-! Calls in the trees of programs: every call that is kept becomes a node of its own, which sends a
message and covers the range of the call. -/

namespace TreeMatch

variable {loc : Range}

def Value.Sends (loc : Range) (value : Value) : Prop :=
  ∃ node ∈ value.eachNode, node.type = "send" ∧ node.loc = some loc

namespace Value

theorem mem_eachNodeAmong {node : Node} {values : List Value} :
    node ∈ eachNodeAmong values ↔ ∃ value ∈ values, node ∈ value.eachNode := by
  induction values with
  | nil => simp [eachNodeAmong]
  | cons value rest induction => simp [eachNodeAmong, induction]

theorem sends_node {id : Nat} {type : String} {own : Option Range} {children : List Value} :
    (node id type own children).Sends loc ↔
      type = "send" ∧ own = some loc ∨ ∃ child ∈ children, child.Sends loc := by
  unfold Sends
  simp only [eachNode, List.mem_cons, mem_eachNodeAmong]
  constructor
  · rintro ⟨found, rfl | ⟨child, member, hfound⟩, hsend⟩
    · exact .inl hsend
    · exact .inr ⟨child, member, found, hfound, hsend⟩
  · rintro (hsend | ⟨child, member, found, hfound, hsend⟩)
    · exact ⟨_, .inl rfl, hsend⟩
    · exact ⟨found, .inr ⟨child, member, hfound⟩, hsend⟩

theorem Sends.child {child : Value} (sends : child.Sends loc) {id : Nat} {type : String}
    {own : Option Range} {children : List Value} (member : child ∈ children) :
    (node id type own children).Sends loc :=
  sends_node.mpr (.inr ⟨child, member, sends⟩)

theorem Sends.exists_node {value : Value} (sends : value.Sends loc) :
    ∃ id type own children, value = node id type own children := by
  obtain ⟨found, member, -⟩ := sends
  cases value with
  | node id type own children => exact ⟨id, type, own, children, rfl⟩
  | _ => cases member

theorem Sends.numbered {value : Value} (sends : value.Sends loc) (next : Nat) :
    (value.numbered next).1.Sends loc := by
  have among : ∀ {children : List Value},
      (∀ child ∈ children, child.Sends loc → ∀ next, (child.numbered next).1.Sends loc) →
      ∀ next, (∃ child ∈ children, child.Sends loc) →
        ∃ child ∈ (numberedAll next children).1, child.Sends loc := by
    intro children each
    induction children with
    | nil => exact fun _ hnone => hnone
    | cons child rest induction =>
        obtain ⟨first, later⟩ := List.forall_mem_cons.mp each
        rintro next ⟨found, member, hfound⟩
        rw [numberedAll]
        rcases List.mem_cons.mp member with rfl | hrest
        · exact ⟨_, List.mem_cons_self, first hfound next⟩
        · obtain ⟨other, hother, hsends⟩ := induction later _ ⟨found, hrest, hfound⟩
          exact ⟨other, List.mem_cons_of_mem _ hother, hsends⟩
  induction value using induct generalizing next with
  | node id type own children each =>
      rw [Value.numbered]
      exact sends_node.mpr ((sends_node.mp sends).imp_right (among each next))
  | _ =>
      obtain ⟨id, type, own, children, hnode⟩ := sends.exists_node
      cases hnode

end Value

namespace Reading

/-- A reading shows a message that is sent at a range, whatever the construct around it takes of
it. -/
structure Shows (loc : Range) (reading : Reading) : Prop where
  value : reading.value.Sends loc
  /-- The construct is an assignment's target. -/
  target : ∀ own values, (reading.target own values).Sends loc
  /-- The construct gives way to the value that it holds. -/
  inner : reading.className = "Attribute" ∨ reading.className = "Starred" ∨
    reading.className = "keyword" → (reading.fields.get "value").value.Sends loc
  named : reading.className ≠ "Name"
  computed : reading.className ≠ "Constant"
  isNode : ∃ className position names parts,
    reading.construct = .node className position names parts

theorem Shows.present {reading : Reading} (shows : reading.Shows loc) :
    reading.isAbsent = false := by
  obtain ⟨className, position, names, parts, hnode⟩ := shows.isNode
  rw [isAbsent, hnode]
  rfl

def Carries (reading : Reading) : Prop :=
  ∀ (loc : Range) (own : Option Range) (value : Value), value.Sends loc →
    (reading.target own (Program.assigned value)).Sends loc

end Reading

namespace Program

open Value (Sends)

variable {own : Option Range} {fields : Fields}

theorem assigned_of_sends {value : Value} (sends : value.Sends loc) : assigned value = [value] := by
  obtain ⟨id, type, own, children, rfl⟩ := sends.exists_node
  rfl

theorem sends_body {statements item : Reading} (member : item ∈ statements.items)
    (shows : item.Shows loc) : (body statements).Sends loc := by
  have hvalue : item.value ∈ statements.items.map Reading.value := List.mem_map_of_mem member
  unfold body
  split
  · rename_i hnone
    rw [hnone] at hvalue
    cases hvalue
  · rename_i single hsingle
    rw [hsingle, List.mem_singleton] at hvalue
    rw [← hvalue]
    exact shows.value
  · exact shows.value.child hvalue

theorem mem_of_lookup {α : Type} {entries : List (String × α)} {name : String} {found : α}
    (hlookup : entries.lookup name = some found) : (name, found) ∈ entries := by
  obtain ⟨before, after, hentries, -⟩ := List.lookup_eq_some_iff.mp hlookup
  rw [hentries]
  exact List.mem_append_right _ List.mem_cons_self

theorem mem_get {name : String} (hpresent : (fields.get name).isAbsent = false) :
    (name, fields.get name) ∈ fields := by
  cases hlookup : fields.lookup name with
  | none =>
      have habsent : fields.get name = .absent := by
        rw [Fields.get, hlookup]
        rfl
      rw [habsent] at hpresent
      cases hpresent
  | some reading =>
      have hget : fields.get name = reading := by
        rw [Fields.get, hlookup]
        rfl
      rw [hget]
      exact mem_of_lookup hlookup

theorem list_of_mem_items {reading item : Reading} (member : item ∈ reading.items) :
    ∃ items, reading.construct = .list items ∧ item ∈ reading.parts := by
  unfold Reading.items at member
  split at member
  · exact ⟨_, ‹_›, member⟩
  · cases member

def Holds (loc : Range) (reading : Reading) : FieldKind → Prop
  | .one => reading.Shows loc
  | .many => ∃ item ∈ reading.items, item.Shows loc
  | .first => ∃ item rest, reading.items = item :: rest ∧ item.Shows loc
  | .any => reading.Shows loc ∨ ∃ item ∈ reading.items, item.Shows loc
  | .plain => False
  | .lost => False

def HoldsAmong (loc : Range) (fields : Fields) : List (String × FieldKind) → Prop
  | [] => False
  | [(name, kind)] => Holds loc (fields.get name) kind
  | (name, kind) :: next :: rest =>
    Holds loc (fields.get name) kind ∨ HoldsAmong loc fields (next :: rest)

theorem holdsAmong_of_mem {name : String} {kind : FieldKind} {entry : List (String × FieldKind)}
    (member : (name, kind) ∈ entry) (holds : Holds loc (fields.get name) kind) :
    HoldsAmong loc fields entry := by
  induction entry with
  | nil => cases member
  | cons field rest induction =>
      cases rest with
      | nil =>
          rw [← List.mem_singleton.mp member]
          exact holds
      | cons next rest =>
          rcases List.mem_cons.mp member with rfl | hrest
          · exact .inl holds
          · exact .inr (induction hrest)

/-- A construct with a place in the grammar holds what it does in the fields that stand there and
are not lost. -/
theorem holdsAmong {className name : String} {entry : List (String × FieldKind)}
    (hentry : Construct.grammar.lookup className = some entry)
    (holds : Holds loc (fields.get name) (Construct.fieldKind className name)) :
    HoldsAmong loc fields (entry.filter fun field => field.2 != .lost) := by
  rw [Construct.fieldKind, hentry] at holds
  dsimp only at holds
  cases hname : entry.lookup name with
  | none =>
      rw [hname] at holds
      cases holds
  | some kind =>
      rw [hname] at holds
      refine holdsAmong_of_mem (List.mem_filter.mpr ⟨mem_of_lookup hname, ?_⟩) holds
      cases kind with
      | lost => cases holds
      | _ => rfl

theorem shows_only {className name field : String}
    (hentry : Construct.grammar.lookup className = some [(field, .one)])
    (holds : Holds loc (fields.get name) (Construct.fieldKind className name)) :
    (fields.get field).Shows loc :=
  holdsAmong hentry holds

theorem exists_only {className name field : String}
    (hentry : Construct.grammar.lookup className = some [(field, .many)])
    (holds : Holds loc (fields.get name) (Construct.fieldKind className name)) :
    ∃ item ∈ (fields.get field).items, item.Shows loc :=
  holdsAmong hentry holds

/-- A construct without a place in the common vocabulary keeps all its fields but those that are
hidden. -/
theorem sends_genericChildren {name : String} (hhidden : hiddenFields.contains name = false)
    {kind : FieldKind} (holds : Holds loc (fields.get name) kind) :
    ∃ child ∈ genericChildren fields, child.Sends loc := by
  have hone : (fields.get name).Shows loc → ∃ child ∈ genericChildren fields, child.Sends loc := by
    intro shows
    obtain ⟨className, position, names, parts, hnode⟩ := shows.isNode
    refine ⟨_, List.mem_flatMap.mpr ⟨_, mem_get shows.present, ?_⟩, shows.value⟩
    dsimp only
    rw [hhidden, if_neg Bool.false_ne_true, hnode]
    exact List.mem_singleton_self _
  have hmany : ∀ item ∈ (fields.get name).items, item.Shows loc →
      ∃ child ∈ genericChildren fields, child.Sends loc := by
    intro item member shows
    obtain ⟨items, hlist, hpart⟩ := list_of_mem_items member
    have hpresent : (fields.get name).isAbsent = false := by
      rw [Reading.isAbsent, hlist]
      rfl
    refine ⟨_, List.mem_flatMap.mpr ⟨_, mem_get hpresent, ?_⟩, shows.value⟩
    dsimp only
    rw [hhidden, if_neg Bool.false_ne_true, hlist]
    exact List.mem_map_of_mem hpart
  cases kind with
  | one => exact hone holds
  | many =>
      obtain ⟨item, member, shows⟩ := holds
      exact hmany item member shows
  | first =>
      obtain ⟨item, rest, hitems, shows⟩ := holds
      exact hmany item (hitems ▸ List.mem_cons_self) shows
  | any =>
      rcases holds with shows | ⟨item, member, shows⟩
      · exact hone shows
      · exact hmany item member shows
  | plain => cases holds
  | lost => cases holds

theorem grammar_open : ∀ entry ∈ Construct.grammar, Construct.isMark entry.1 = false ∧
    ∀ field ∈ entry.2, hiddenFields.contains field.1 = false := by
  decide +kernel

theorem open_of_holds {className name : String}
    (holds : Holds loc (fields.get name) (Construct.fieldKind className name)) :
    Construct.isMark className = false ∧ hiddenFields.contains name = false := by
  rw [Construct.fieldKind] at holds
  cases hentry : Construct.grammar.lookup className with
  | some entry =>
      rw [hentry] at holds
      dsimp only at holds
      obtain ⟨hmark, hhidden⟩ := grammar_open _ (mem_of_lookup hentry)
      cases hname : entry.lookup name with
      | none =>
          rw [hname] at holds
          cases holds
      | some kind => exact ⟨hmark, hhidden _ (mem_of_lookup hname)⟩
  | none =>
      rw [hentry] at holds
      dsimp only at holds
      split at holds
      · cases holds
      · rename_i hopen
        rwa [Bool.or_eq_true, not_or, Bool.not_eq_true, Bool.not_eq_true] at hopen

theorem sends_generic {className name : String}
    (holds : Holds loc (fields.get name) (Construct.fieldKind className name)) :
    (generic className own fields).Sends loc := by
  obtain ⟨hmark, hhidden⟩ := open_of_holds holds
  rw [Construct.isMark, Bool.or_eq_false_iff, Option.isSome_eq_false_iff, Option.isNone_iff_eq_none]
    at hmark
  obtain ⟨child, member, sends⟩ := sends_genericChildren hhidden holds
  rw [generic, hmark.1, hmark.2]
  exact sends.child member

theorem sends_function {item : Reading} (member : item ∈ (fields.get "body").items)
    (shows : item.Shows loc) : (function own fields).Sends loc :=
  (sends_body member shows).child (by simp)

theorem sends_classDefinition_body {item : Reading} (member : item ∈ (fields.get "body").items)
    (shows : item.Shows loc) : (classDefinition own fields).Sends loc :=
  (sends_body member shows).child (by simp)

theorem sends_classDefinition_base {first : Reading} {rest : List Reading}
    (hbases : (fields.get "bases").items = first :: rest) (shows : first.Shows loc) :
    (classDefinition own fields).Sends loc := by
  rw [classDefinition, hbases]
  exact shows.value.child (by simp)

theorem sends_argument {argument : Reading} (shows : argument.Shows loc) :
    (Program.argument argument).Sends loc := by
  unfold Program.argument
  split
  · rename_i hstarred
    exact (shows.inner (.inr (.inl hstarred))).child List.mem_cons_self
  · exact shows.value

theorem sends_keywordArgument {keyword : Reading} (hkeyword : keyword.className = "keyword")
    (shows : keyword.Shows loc) : (keywordArgument keyword).Sends loc := by
  have hvalue := shows.inner (.inr (.inr hkeyword))
  unfold keywordArgument
  dsimp only
  split
  · exact hvalue.child List.mem_cons_self
  · exact hvalue.child (by simp)

theorem sends_call_argument {argument : Reading} (member : argument ∈ (fields.get "args").items)
    (shows : argument.Shows loc) : (call own fields).Sends loc := by
  refine (sends_argument shows).child (List.mem_append_right _ (List.mem_append_left _ ?_))
  exact List.mem_map_of_mem member

theorem sends_call_keyword {keyword : Reading} (member : keyword ∈ (fields.get "keywords").items)
    (hkeyword : keyword.className = "keyword") (shows : keyword.Shows loc) :
    (call own fields).Sends loc := by
  let pairs := (fields.get "keywords").items.map keywordArgument
  have hpair : keywordArgument keyword ∈ pairs := List.mem_map_of_mem member
  have hhash : (node "hash" (span pairs) pairs).Sends loc :=
    (sends_keywordArgument hkeyword shows).child hpair
  have hsome : pairs.isEmpty = false := by
    rw [List.isEmpty_eq_false_iff_exists_mem]
    exact ⟨_, hpair⟩
  have harguments : node "hash" (span pairs) pairs ∈ arguments fields := by
    refine List.mem_append_right _ ?_
    change _ ∈ if pairs.isEmpty = true then [] else [node "hash" (span pairs) pairs]
    rw [hsome]
    exact List.mem_cons_self
  exact hhash.child (List.mem_append_right _ harguments)

theorem sends_call_function (shows : (fields.get "func").Shows loc) :
    (call own fields).Sends loc := by
  have hhead : ∃ child ∈ (if (fields.get "func").className = "Name" then
      [.absent, (fields.get "func").fields.symbol "id" ""]
    else if (fields.get "func").className = "Attribute" then
      [((fields.get "func").fields.get "value").value, (fields.get "func").fields.symbol "attr" ""]
    else [(fields.get "func").value, .sym "call"]), child.Sends loc := by
    rw [if_neg shows.named]
    split
    · exact ⟨_, List.mem_cons_self, shows.inner (.inl ‹_›)⟩
    · exact ⟨_, List.mem_cons_self, shows.value⟩
  obtain ⟨child, member, sends⟩ := hhead
  exact sends.child (List.mem_append_left _ member)

theorem sends_assign_value
    (hcarries : ∀ target ∈ (fields.get "targets").items, target.Carries)
    (shows : (fields.get "value").Shows loc) : (assign own fields).Sends loc := by
  unfold assign
  generalize (fields.get "targets").items = targets at hcarries
  induction targets with
  | nil => exact shows.value
  | cons target rest induction =>
      obtain ⟨first, later⟩ := List.forall_mem_cons.mp hcarries
      exact first loc own _ (induction later)

theorem sends_assign_target
    (hcarries : ∀ target ∈ (fields.get "targets").items, target.Carries)
    {target : Reading} (member : target ∈ (fields.get "targets").items)
    (shows : target.Shows loc) : (assign own fields).Sends loc := by
  unfold assign
  generalize (fields.get "targets").items = targets at hcarries member
  induction targets with
  | nil => cases member
  | cons first rest induction =>
      obtain ⟨carries, later⟩ := List.forall_mem_cons.mp hcarries
      rcases List.mem_cons.mp member with rfl | hrest
      · exact shows.target own _
      · exact carries loc own _ (induction later hrest)

theorem sends_unary (shows : (fields.get "operand").Shows loc) :
    (unary own fields).Sends loc := by
  unfold unary
  dsimp only
  rw [if_neg fun hconstant => shows.computed hconstant.2]
  exact shows.value.child List.mem_cons_self

theorem sends_compare {name : String}
    (holds : Holds loc (fields.get name) (Construct.fieldKind "Compare" name))
    (hlength : (fields.get "ops").items.length = (fields.get "comparators").items.length)
    (alone : Value) : (convert "Compare" own fields alone).Sends loc := by
  rw [convert_compare]
  split
  · rename_i op other more hops hcomparators
    rcases holdsAmong rfl holds with shows | ⟨operand, member, shows⟩
    · exact shows.value.child List.mem_cons_self
    · rw [hops, hcomparators, List.length_singleton, List.length_cons] at hlength
      have hnone : more = [] := List.eq_nil_of_length_eq_zero (by omega)
      rw [hcomparators, hnone, List.mem_singleton] at member
      exact (member ▸ shows.value).child (by simp)
  · exact sends_generic holds

theorem sends_display (holds : ∃ item ∈ (fields.get "elts").items, item.Shows loc)
    {alone : Value} (halone : alone.Sends loc) :
    (if isLoaded fields then node "array" own ((fields.get "elts").items.map Reading.value)
      else alone).Sends loc := by
  obtain ⟨item, member, shows⟩ := holds
  split
  · exact shows.value.child (List.mem_map_of_mem member)
  · exact halone

theorem sends_dictEntry_key {key value : Reading} (shows : key.Shows loc) :
    (dictEntry key value).Sends loc := by
  rw [dictEntry, shows.present, if_neg Bool.false_ne_true]
  exact shows.value.child List.mem_cons_self

theorem sends_dictEntry_value {key value : Reading} (shows : value.Shows loc) :
    (dictEntry key value).Sends loc := by
  unfold dictEntry
  split
  · exact shows.value.child List.mem_cons_self
  · exact shows.value.child (by simp)

theorem mem_zip_left {α β : Type} {firsts : List α} {seconds : List β}
    (hlength : firsts.length = seconds.length) {first : α} (member : first ∈ firsts) :
    ∃ second, (first, second) ∈ firsts.zip seconds := by
  rw [← List.map_fst_zip (Nat.le_of_eq hlength)] at member
  obtain ⟨⟨_, second⟩, hpair, rfl⟩ := List.mem_map.mp member
  exact ⟨second, hpair⟩

theorem mem_zip_right {α β : Type} {firsts : List α} {seconds : List β}
    (hlength : firsts.length = seconds.length) {second : β} (member : second ∈ seconds) :
    ∃ first, (first, second) ∈ firsts.zip seconds := by
  rw [← List.map_snd_zip (Nat.le_of_eq hlength.symm)] at member
  obtain ⟨⟨first, _⟩, hpair, rfl⟩ := List.mem_map.mp member
  exact ⟨first, hpair⟩

section Entries

variable (hlength : (fields.get "keys").items.length = (fields.get "values").items.length)
include hlength

theorem sends_dict_key {key : Reading} (member : key ∈ (fields.get "keys").items)
    (shows : key.Shows loc) : (dict own fields).Sends loc := by
  obtain ⟨value, hpair⟩ := mem_zip_left hlength member
  exact (sends_dictEntry_key shows).child (List.mem_map_of_mem hpair)

theorem sends_dict_value {value : Reading} (member : value ∈ (fields.get "values").items)
    (shows : value.Shows loc) : (dict own fields).Sends loc := by
  obtain ⟨key, hpair⟩ := mem_zip_right hlength member
  exact (sends_dictEntry_value shows).child (List.mem_map_of_mem hpair)

end Entries

theorem sends_target {className name : String}
    (holds : Holds loc (fields.get name) (Construct.fieldKind className name))
    {value : Value} (sends : value.Sends loc) (at' : Option Range) (values : List Value) :
    ((target? className own fields at' values).getD (node "asgn" at' (value :: values))).Sends
      loc := by
  unfold target?
  split
  · rename_i hname
    rw [hname] at holds
    cases holdsAmong rfl holds
  split
  · rename_i hattribute
    rw [hattribute] at holds
    exact (shows_only rfl holds).value.child List.mem_cons_self
  split
  · rename_i hsubscript
    rw [hsubscript] at holds
    rcases holdsAmong rfl holds with shows | shows
    · exact shows.value.child List.mem_cons_self
    · exact shows.value.child (by simp)
  split
  · rename_i hdisplay
    have helement : ∃ item ∈ (fields.get "elts").items, item.Shows loc := by
      rcases hdisplay with rfl | rfl <;> exact exists_only rfl holds
    obtain ⟨item, member, shows⟩ := helement
    have hleft : (node "mlhs" own ((fields.get "elts").items.map targetAlone)).Sends loc :=
      (shows.target item.loc []).child (List.mem_map_of_mem member)
    exact hleft.child List.mem_cons_self
  · exact sends.child List.mem_cons_self

theorem sends_target_values (className : String) {value : Value} (sends : value.Sends loc)
    {values : List Value} (member : value ∈ values) (at' : Option Range) (other : Value) :
    ((target? className own fields at' values).getD (node "asgn" at' (other :: values))).Sends
      loc := by
  unfold target?
  split
  · exact sends.child (List.mem_cons_of_mem _ member)
  split
  · exact sends.child (by simp [member])
  split
  · exact sends.child (by simp [member])
  split
  · exact sends.child (List.mem_cons_of_mem _ member)
  · exact sends.child (List.mem_cons_of_mem _ member)

structure Agrees (className : String) (fields : Fields) : Prop where
  targets : ∀ target ∈ (fields.get "targets").items, target.Carries
  keywords : className = "Call" →
    ∀ keyword ∈ (fields.get "keywords").items, keyword.className = "keyword"
  operands : className = "Compare" →
    (fields.get "ops").items.length = (fields.get "comparators").items.length
  entries : className = "Dict" →
    (fields.get "keys").items.length = (fields.get "values").items.length

theorem sends_convert {className name : String}
    (holds : Holds loc (fields.get name) (Construct.fieldKind className name))
    (agrees : Agrees className fields) {alone : Value}
    (halone : className = "List" ∨ className = "Tuple" → alone.Sends loc) :
    (convert className own fields alone).Sends loc := by
  -- The cases are those of the conversion: statements, expressions, and the rest.
  unfold convert
  split
  · obtain ⟨item, member, shows⟩ := exists_only rfl holds
    exact sends_body member shows
  · obtain ⟨item, member, shows⟩ := exists_only rfl holds
    exact sends_body member shows
  · exact (shows_only rfl holds).value
  · exact (shows_only rfl holds).value
  · rcases holdsAmong rfl holds with ⟨target, member, shows⟩ | shows
    · exact sends_assign_target agrees.targets member shows
    · exact sends_assign_value agrees.targets shows
  · rcases holdsAmong rfl holds with shows | shows
    · exact (shows.target _ []).child List.mem_cons_self
    · exact shows.value.child (by simp)
  · obtain ⟨item, member, shows⟩ := holdsAmong rfl holds
    exact sends_function member shows
  · obtain ⟨item, member, shows⟩ := holdsAmong rfl holds
    exact sends_function member shows
  · rcases holdsAmong rfl holds with ⟨first, rest, hbases, shows⟩ | ⟨item, member, shows⟩
    · exact sends_classDefinition_base hbases shows
    · exact sends_classDefinition_body member shows
  · have shows := shows_only rfl holds
    rw [shows.present, if_neg Bool.false_ne_true]
    exact shows.value.child List.mem_cons_self
  · rcases holdsAmong rfl holds with shows | ⟨item, member, shows⟩ | ⟨item, member, shows⟩
    · exact shows.value.child List.mem_cons_self
    · exact (sends_body member shows).child (by simp)
    · exact (sends_body member shows).child (by simp)
  · rcases holdsAmong rfl holds with shows | ⟨item, member, shows⟩
    · exact shows.value.child List.mem_cons_self
    · exact (sends_body member shows).child (by simp)
  · rcases holdsAmong rfl holds with shows | shows | ⟨item, member, shows⟩
    · exact (shows.target _ []).child List.mem_cons_self
    · exact shows.value.child (by simp)
    · exact (sends_body member shows).child (by simp)
  · rcases holdsAmong rfl holds with shows | ⟨item, member, shows⟩ | ⟨item, member, shows⟩
    · exact sends_call_function shows
    · exact sends_call_argument member shows
    · exact sends_call_keyword member (agrees.keywords rfl item member) shows
  · exact (shows_only rfl holds).value.child List.mem_cons_self
  · rcases holdsAmong rfl holds with shows | shows
    · exact shows.value.child List.mem_cons_self
    · exact shows.value.child (by simp)
  · cases holdsAmong rfl holds
  · cases holdsAmong rfl holds
  · rcases holdsAmong rfl holds with shows | shows
    · exact shows.value.child List.mem_cons_self
    · exact shows.value.child (by simp)
  · exact sends_compare holds (agrees.operands rfl) alone
  · obtain ⟨item, member, shows⟩ := exists_only rfl holds
    exact shows.value.child (List.mem_map_of_mem member)
  · exact sends_unary (shows_only rfl holds)
  · exact sends_display (exists_only rfl holds) (halone (.inl rfl))
  · exact sends_display (exists_only rfl holds) (halone (.inr rfl))
  · rcases holdsAmong rfl holds with ⟨key, member, shows⟩ | ⟨value, member, shows⟩
    · exact sends_dict_key (agrees.entries rfl) member shows
    · exact sends_dict_value (agrees.entries rfl) member shows
  · exact sends_generic holds

section Read

variable (index : LineIndex)

theorem readAll_eq_map (constructs : List Construct) :
    readAll index constructs = constructs.map (read index) := by
  induction constructs with
  | nil => rfl
  | cons construct rest induction => rw [readAll, induction, List.map_cons]

theorem construct_read (construct : Construct) : (read index construct).construct = construct := by
  cases construct <;> rfl

theorem items_read (items : List Construct) :
    (read index (.list items)).items = items.map (read index) :=
  readAll_eq_map index items

theorem items_of_isList {construct : Construct} (hlist : construct.isList = false) :
    (read index construct).items = [] := by
  cases construct with
  | list items => cases hlist
  | _ => rfl

theorem isNode_of_shows {construct : Construct} (shows : (read index construct).Shows loc) :
    construct.isList = false := by
  obtain ⟨className, position, names, parts, hnode⟩ := shows.isNode
  rw [construct_read] at hnode
  rw [hnode]
  rfl

theorem get_read (name : String) (names : List String) (constructs : List Construct) :
    Fields.get (names.zip (constructs.map (read index))) name =
      (((names.zip constructs).lookup name).map (read index)).getD .absent := by
  induction names generalizing constructs with
  | nil => rfl
  | cons first rest induction =>
      cases constructs with
      | nil => rfl
      | cons construct constructs =>
          have hrest := induction constructs
          rw [Fields.get] at hrest ⊢
          rw [List.map_cons, List.zip_cons_cons, List.zip_cons_cons, List.lookup_cons,
            List.lookup_cons]
          cases name == first with
          | false => exact hrest
          | true => rfl

theorem lookup_of_mem {name : String} {construct : Construct} {names : List String}
    {constructs : List Construct} (hnodup : names.Nodup)
    (member : (name, construct) ∈ names.zip constructs) :
    (names.zip constructs).lookup name = some construct := by
  induction names generalizing constructs with
  | nil => cases member
  | cons first rest induction =>
      cases constructs with
      | nil => cases member
      | cons found others =>
          rw [List.zip_cons_cons] at member ⊢
          obtain ⟨hnew, hrest⟩ := List.nodup_cons.mp hnodup
          rcases List.mem_cons.mp member with hsame | hother
          · cases hsame
            rw [List.lookup_cons, BEq.rfl]
          · have hname : (name == first) = false := by
              rw [beq_eq_false_iff_ne]
              rintro rfl
              exact hnew (List.of_mem_zip hother).1
            rw [List.lookup_cons, hname]
            exact induction hrest hother

theorem items_get_read (name : String) (names : List String) (constructs : List Construct) :
    (Fields.get (names.zip (constructs.map (read index))) name).items =
      (Construct.itemsOf (names.zip constructs) name).map (read index) := by
  rw [get_read, Construct.itemsOf]
  cases (names.zip constructs).lookup name with
  | none => rfl
  | some construct =>
      cases construct with
      | list items => exact items_read index items
      | _ => rfl

theorem carries_read (construct : Construct) : (read index construct).Carries := by
  intro loc own value sends
  rw [assigned_of_sends sends]
  cases construct with
  | node className position names fields =>
      exact sends_target_values className sends (List.mem_singleton_self value) own _
  | _ => exact sends.child (by simp)

theorem agrees_read {className : String} {names : List String} {constructs : List Construct}
    (hagrees : Construct.agrees className (names.zip constructs) = true) :
    Agrees className (names.zip (constructs.map (read index))) := by
  refine ⟨?_, ?_, ?_, ?_⟩
  · rw [items_get_read]
    exact List.forall_mem_map.mpr fun construct _ => carries_read index construct
  · rintro rfl
    rw [items_get_read]
    refine List.forall_mem_map.mpr fun construct member => ?_
    have hkeyword := List.all_eq_true.mp hagrees construct member
    rw [Reading.className, construct_read]
    exact eq_of_beq hkeyword
  · rintro rfl
    rw [items_get_read, items_get_read, List.length_map, List.length_map]
    exact eq_of_beq hagrees
  · rintro rfl
    rw [items_get_read, items_get_read, List.length_map, List.length_map]
    exact eq_of_beq hagrees

/-- A call becomes a node that sends a message and covers the range of the call. -/
theorem shows_call (position : Position) (names : List String) (constructs : List Construct) :
    (read index (.node "Call" (some position) names constructs)).Shows
      (index.rangeOf position) := by
  have hvalue : (read index (.node "Call" (some position) names constructs)).value.Sends
      (index.rangeOf position) := Value.sends_node.mpr (.inl ⟨rfl, rfl⟩)
  have hclass : (read index (.node "Call" (some position) names constructs)).className = "Call" :=
    rfl
  refine ⟨hvalue, fun own values => hvalue.child List.mem_cons_self, ?_, ?_, ?_, ⟨_, _, _, _, rfl⟩⟩
  · rw [hclass]
    exact fun hname => absurd hname (by decide)
  · rw [hclass]
    decide
  · rw [hclass]
    decide

theorem read_node (className : String) (position : Option Position) (names : List String)
    (constructs : List Construct) :
    read index (.node className position names constructs) =
      readNode (.node className position names constructs) className (position.map index.rangeOf)
        names (constructs.map (read index)) := by
  rw [← readAll_eq_map]
  rfl

theorem sends_alone {className name : String}
    (holds : Holds loc (fields.get name) (Construct.fieldKind className name))
    (hdisplay : className = "List" ∨ className = "Tuple") :
    ((target? className own fields own []).getD .absent).Sends loc := by
  have hsome : (target? className own fields own []).isSome = true := by
    rcases hdisplay with rfl | rfl <;> rfl
  obtain ⟨target, htarget⟩ := Option.isSome_iff_exists.mp hsome
  -- The value of the display makes no difference, for it is not shown in its target.
  have sends : (node "send" (some loc) []).Sends loc := Value.sends_node.mpr (.inl ⟨rfl, rfl⟩)
  have hkept : ((target? className own fields own []).getD
      (node "asgn" own [node "send" (some loc) []])).Sends loc := sends_target holds sends own []
  rw [htarget] at hkept ⊢
  exact hkept

theorem shows_node {className name : String} {position : Option Position} {names : List String}
    {constructs : List Construct} (regular : Construct.IsRegular className names constructs)
    (holds : Holds loc (Fields.get (names.zip (constructs.map (read index))) name)
      (Construct.fieldKind className name)) :
    (read index (.node className position names constructs)).Shows loc := by
  have agrees := agrees_read index regular.agrees
  rw [read_node]
  let own := position.map index.rangeOf
  let fields : Fields := names.zip (constructs.map (read index))
  have hvalue : (convert className own fields
      ((target? className own fields own []).getD .absent)).Sends loc :=
    sends_convert holds agrees (sends_alone holds)
  refine ⟨hvalue, sends_target holds hvalue, ?_, ?_, ?_, ⟨_, _, _, _, rfl⟩⟩
  · rintro (rfl | rfl | rfl) <;> exact (shows_only rfl holds).value
  · rintro rfl
    cases holdsAmong rfl holds
  · rintro rfl
    cases holdsAmong rfl holds

theorem shows_of_any {construct : Construct} (hsingle : construct.isList = false)
    (holds : Holds loc (read index construct) .any) : (read index construct).Shows loc := by
  rcases holds with shows | ⟨item, hitem, -⟩
  · exact shows
  · rw [items_of_isList index hsingle] at hitem
    cases hitem

theorem holds_of_any {construct : Construct} {kind : FieldKind}
    (hfits : construct.fits kind = true) (hcall : construct.isCallFree = false)
    (hlost : kind ≠ .lost) (hfirst : kind ≠ .first)
    (holds : Holds loc (read index construct) .any) : Holds loc (read index construct) kind := by
  cases kind with
  | one =>
      rw [Construct.fits, Bool.not_eq_true'] at hfits
      exact shows_of_any index hfits holds
  | many =>
      rcases holds with shows | hitem
      · rw [Construct.fits, isNode_of_shows index shows] at hfits
        cases hfits
      · exact hitem
  | any => exact holds
  | plain =>
      rw [Construct.fits, hcall] at hfits
      cases hfits
  | first => exact absurd rfl hfirst
  | lost => exact absurd rfl hlost

theorem holds_kept {position : Position} {names : List String} {constructs : List Construct}
    {whole : Construct}
    (kept : Construct.Kept (.node "Call" (some position) names constructs) whole)
    (hwellFormed : whole.isWellFormed = true) :
    Holds (index.rangeOf position) (read index whole) .any := by
  induction kept with
  | self => exact .inl (shows_call index position names constructs)
  | @item items item member within induction =>
      obtain ⟨hitem, hsingle⟩ := Construct.isWellFormed_item hwellFormed member
      refine .inr ⟨read index item, ?_, shows_of_any index hsingle (induction hitem)⟩
      rw [items_read]
      exact List.mem_map_of_mem member
  | @field className place names fields name field member hlost hfirst within induction =>
      have regular := Construct.isRegular_node hwellFormed
      have hcall := Construct.isCallFree_of_kept within rfl
      have holds := induction (regular.fields _ (List.of_mem_zip member).2)
      have hfield := holds_of_any index (regular.fits _ _ member) hcall hlost hfirst holds
      have hshown : Holds (index.rangeOf position)
          (Fields.get (names.zip (fields.map (read index))) name)
          (Construct.fieldKind className name) := by
        rw [get_read, lookup_of_mem regular.nodup member]
        exact hfield
      exact .inl (shows_node index regular hshown)
  | @first className place names fields name first rest member hfirst within induction =>
      have regular := Construct.isRegular_node hwellFormed
      obtain ⟨hitem, hsingle⟩ := Construct.isWellFormed_item
        (regular.fields _ (List.of_mem_zip member).2) List.mem_cons_self
      have shows := shows_of_any index hsingle (induction hitem)
      have hshown : Holds (index.rangeOf position)
          (Fields.get (names.zip (fields.map (read index))) name)
          (Construct.fieldKind className name) := by
        rw [get_read, lookup_of_mem regular.nodup member, hfirst]
        exact ⟨read index first, rest.map (read index), items_read index (first :: rest), shows⟩
      exact .inl (shows_node index regular hshown)

end Read

/-- Every call of a module that is kept has a node of its own in the document: a message is sent,
and the range of the node is that of the call. -/
theorem readDocument_sends {program : Construct} (hmodule : program.className = "Module")
    (hwellFormed : program.isWellFormed = true) {position : Position} {names : List String}
    {constructs : List Construct}
    (kept : Construct.Kept (.node "Call" (some position) names constructs) program)
    (source : String) :
    ∃ document, readDocument source (.ok program) = .ok document ∧
      ∃ node ∈ document.root.eachNode, node.type = "send" ∧
        node.loc = some ((LineIndex.ofText source.toList).rangeOf position) := by
  refine ⟨_, rfl, ?_⟩
  have shows : (read (LineIndex.ofText source.toList) program).value.Sends
      ((LineIndex.ofText source.toList).rangeOf position) := by
    have hsingle : program.isList = false := by
      cases program with
      | list items => exact absurd hmodule (by simp [Construct.className])
      | _ => rfl
    exact (shows_of_any _ hsingle (holds_kept _ kept hwellFormed)).value
  obtain ⟨id, type, own, children, hnode⟩ := shows.exists_node
  have htree : (toTree source program).toValue.Sends
      ((LineIndex.ofText source.toList).rangeOf position) := by
    rw [hnode] at shows
    rw [toTree, hnode]
    exact shows
  have hnumbered := htree.numbered 0
  obtain ⟨root, above, range, below, hroot⟩ := hnumbered.exists_node
  rw [hroot] at hnumbered
  change ∃ node ∈ (Document.ofNode (toTree source program) source).root.eachNode, _
  rw [Document.ofNode, hroot]
  exact hnumbered

/-- The argument of a call, a call itself, is kept in the branch that is taken otherwise. -/
theorem readDocument_sends_orelse :
    let load : Construct := .node "Load" none [] []
    let inner : Construct := .node "Call" (some ⟨4, 6, 4, 9⟩) ["func", "args", "keywords"]
      [.node "Name" (some ⟨4, 6, 4, 7⟩) ["id", "ctx"] [.str "g", load], .list [], .list []]
    let outer : Construct := .node "Call" (some ⟨4, 4, 4, 10⟩) ["func", "args", "keywords"]
      [.node "Name" (some ⟨4, 4, 4, 5⟩) ["id", "ctx"] [.str "f", load], .list [inner], .list []]
    let program : Construct := .node "Module" none ["body", "type_ignores"]
      [.list [.node "If" (some ⟨1, 0, 4, 10⟩) ["test", "body", "orelse"]
        [.node "Name" (some ⟨1, 3, 1, 4⟩) ["id", "ctx"] [.str "x", load],
          .list [.node "Pass" (some ⟨2, 4, 2, 8⟩) [] []],
          .list [.node "Expr" (some ⟨4, 4, 4, 10⟩) ["value"] [outer]]]], .list []]
    program.isWellFormed = true ∧
      ∃ document, readDocument "if x:\n    pass\nelse:\n    f(g())\n" (.ok program) = .ok document ∧
        ∃ node ∈ document.root.eachNode, node.type = "send" ∧ node.loc = some ⟨27, 3⟩ := by
  intro load inner outer program
  have hwellFormed : program.isWellFormed = true := by decide +kernel
  have hargument : Construct.Kept inner outer := by
    refine .field (.tail _ (.head _)) (by decide) (by decide) ?_
    exact .item List.mem_cons_self .self
  have hstatement : Construct.Kept inner program := by
    refine .field (.head _) (by decide) (by decide) (.item (.head _) ?_)
    refine .field (.tail _ (.tail _ (.head _))) (by decide) (by decide) ?_
    refine .item (.head _) (.field (.head _) (by decide) (by decide) ?_)
    exact hargument
  refine ⟨hwellFormed, ?_⟩
  have hrange : (LineIndex.ofText "if x:\n    pass\nelse:\n    f(g())\n".toList).rangeOf
      ⟨4, 6, 4, 9⟩ = ⟨27, 3⟩ := by decide +kernel
  rw [← hrange]
  exact readDocument_sends rfl hwellFormed hstatement _

/-- A loop does not keep the branch that is taken when it ends, and a call in it is lost. -/
theorem readDocument_silent :
    let load : Construct := .node "Load" none [] []
    let call : Construct := .node "Call" (some ⟨4, 4, 4, 7⟩) ["func", "args", "keywords"]
      [.node "Name" (some ⟨4, 4, 4, 5⟩) ["id", "ctx"] [.str "f", load], .list [], .list []]
    let program : Construct := .node "Module" none ["body", "type_ignores"]
      [.list [.node "While" (some ⟨1, 0, 4, 7⟩) ["test", "body", "orelse"]
        [.node "Name" (some ⟨1, 6, 1, 7⟩) ["id", "ctx"] [.str "x", load],
          .list [.node "Break" (some ⟨2, 4, 2, 9⟩) [] []],
          .list [.node "Expr" (some ⟨4, 4, 4, 7⟩) ["value"] [call]]]], .list []]
    program.isWellFormed = true ∧
      ∃ document,
        readDocument "while x:\n    break\nelse:\n    f()\n" (.ok program) = .ok document ∧
        ∀ node ∈ document.root.eachNode, node.type ≠ "send" := by
  intro load call program
  refine ⟨by decide +kernel, _, rfl, ?_⟩
  decide +kernel

end Program

end TreeMatch

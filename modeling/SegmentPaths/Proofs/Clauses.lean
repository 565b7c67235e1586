/-
Clauses and branches among the items of a statement.  Expressions leave no comma,
no UNION and no keyword of a clause on their level, so lists, clauses and branches
are found again where they were printed, and reading the items of a query gives
the query back.
-/
import SegmentPaths.Proofs.Levels

namespace SegmentPaths

/-- Whether an item can stand inside a clause. -/
def Item.isBody (item : Item) : Bool :=
  !item.isKeyword .UNION && (Clause.start? item).isNone

/-- Whether an item can stand on the level of an expression. -/
def Item.isInner (item : Item) : Bool := !item.isComma && item.isBody

theorem Item.isBody_of_isInner {item : Item} (h : item.isInner = true) : item.isBody = true :=
  (Bool.and_eq_true_iff.mp h).2

/-- Whether an operand starts at an item. -/
def Item.isOperand : Item → Bool
  | .lexeme (.name _) | .lexeme (.int _) | .lexeme (.text _) | .lexeme (.param _) | .exprs _ => true
  | _ => false

namespace Expr

theorem operandItems_cases (op : BinaryOp) (expr : Expr) :
    operandItems op expr expr.items = expr.items ∨
      operandItems op expr expr.items = [.exprs [expr.leftAssociated]] := by
  unfold operandItems
  split
  · exact Or.inr rfl
  · exact Or.inl rfl

theorem items_inner : (expr : Expr) → ∀ item ∈ expr.items, item.isInner = true
  | .column none _ | .column (some _) _ | .int _ | .text _ | .param _ => by
      simp [items, Item.ofTokens, Token.lexemes, Item.isInner, Item.isBody, Item.isComma,
        Item.isKeyword, Clause.start?]
  | .binary op left right => by
      have hoperand : ∀ expr : Expr, (∀ item ∈ expr.items, item.isInner = true) →
          ∀ item ∈ operandItems op expr expr.items, item.isInner = true := by
        intro expr hexpr
        rcases operandItems_cases op expr with hitems | hitems
        · rwa [hitems]
        · rw [hitems]
          intro item hitem
          cases List.mem_singleton.mp hitem
          rfl
      rw [items]
      simp only [List.forall_mem_append]
      exact ⟨⟨hoperand left (items_inner left), by cases op <;> decide⟩,
        hoperand right (items_inner right)⟩
  | .likeEscaped subject pattern => by
      rw [items]
      simp only [List.forall_mem_append]
      exact ⟨⟨⟨items_inner subject, by decide⟩, items_inner pattern⟩, by decide⟩
  | .inList subject values => by
      rw [items]
      simp only [List.forall_mem_append]
      refine ⟨⟨items_inner subject, by decide⟩, fun item hitem => ?_⟩
      cases List.mem_singleton.mp hitem
      rfl
  | .inQuery subject query negated => by
      rw [items]
      simp only [List.forall_mem_append]
      refine ⟨⟨⟨items_inner subject, by cases negated <;> decide⟩, by decide⟩,
        fun item hitem => ?_⟩
      cases List.mem_singleton.mp hitem
      rfl
  | .notNull subject => by
      rw [items]
      simp only [List.forall_mem_append]
      exact ⟨items_inner subject, by decide⟩

/-- Every expression starts with an operand. -/
theorem items_head : (expr : Expr) →
    ∃ first rest, expr.items = first :: rest ∧ first.isOperand = true
  | .column none _ | .column (some _) _ | .int _ | .text _ | .param _ => ⟨_, _, rfl, rfl⟩
  | .binary op left right => by
      obtain ⟨first, rest, hleft, hfirst⟩ := items_head left
      rw [items]
      rcases operandItems_cases op left with hitems | hitems
      · rw [hitems, hleft]
        exact ⟨first, _, rfl, hfirst⟩
      · rw [hitems]
        exact ⟨_, _, rfl, rfl⟩
  | .likeEscaped subject _ | .inList subject _ | .inQuery subject _ _ | .notNull subject => by
      obtain ⟨first, rest, hsubject, hfirst⟩ := items_head subject
      rw [items, hsubject]
      exact ⟨first, _, rfl, hfirst⟩

end Expr

/-- Splitting at separators gives what stands between them. -/
theorem splitOnP_flatMap {α β : Type} {p : β → Bool} {sep : β} (hsep : p sep = true)
    {front : List β} (hfront : ∀ y ∈ front, p y = false) {f : α → List β} {xs : List α}
    (hxs : ∀ x ∈ xs, ∀ y ∈ f x, p y = false) :
    (front ++ xs.flatMap (fun x => sep :: f x)).splitOnP p = front :: xs.map f := by
  induction xs generalizing front with
  | nil =>
      rw [List.flatMap_nil, List.append_nil, List.splitOnP_eq_singleton hfront, List.map_nil]
  | cons x xs ih =>
      rw [List.flatMap_cons, List.cons_append,
        List.splitOnP_append_cons_of_forall_mem hfront sep hsep,
        ih (hxs x List.mem_cons_self) (fun y hy => hxs y (List.mem_cons_of_mem x hy)),
        List.map_cons]

namespace Expr

/-- Reading the items of a list gives its expressions back. -/
theorem listOfItems?_listItems {first : Expr} {rest : List Expr}
    (hplain : allPlain (first :: rest) = true) :
    listOfItems? (listItems (first :: rest)) = some (allLeftAssociated (first :: rest)) := by
  rw [allPlain_eq_all, List.all_eq_true] at hplain
  have hcomma : ∀ expr : Expr, ∀ item ∈ expr.items, item.isComma = false := by
    intro expr item hitem
    have hinner := items_inner expr item hitem
    simp only [Item.isInner, Bool.and_eq_true, Bool.not_eq_true'] at hinner
    exact hinner.1
  rw [listOfItems?, listItems, splitOnP_flatMap rfl (hcomma first) (fun expr _ => hcomma expr),
    ← List.map_cons, mapM_map_eq_some (fun expr hexpr => ofItems?_items (hplain expr hexpr)),
    allLeftAssociated_eq_map]

end Expr

namespace Clause

/-- A clause that is found again among others: it starts at its keyword and
nowhere else. -/
def IsWhole (clause : Clause) : Prop :=
  starts clause.1 = true ∧ ∀ item ∈ clause.2, item.isBody = true

theorem start?_of_isBody {item : Item} (h : item.isBody = true) : start? item = none := by
  simp only [Item.isBody, Bool.and_eq_true, Option.isNone_iff_eq_none] at h
  exact h.2

theorem split_append {body : List Item} (hbody : ∀ item ∈ body, start? item = none)
    (rest : List Item) : split (body ++ rest) = (body ++ (split rest).1, (split rest).2) := by
  induction body with
  | nil => rfl
  | cons item body ih =>
      have hrest := ih (fun other hother => hbody other (List.mem_cons_of_mem item hother))
      rw [List.cons_append, split, hbody item List.mem_cons_self, hrest]
      rfl

theorem split_items {clauses : List Clause} (h : ∀ clause ∈ clauses, clause.IsWhole) :
    split (items clauses) = ([], clauses) := by
  induction clauses with
  | nil => rfl
  | cons clause clauses ih =>
      obtain ⟨hword, hbody⟩ := h clause List.mem_cons_self
      have hrest := ih (fun other hother => h other (List.mem_cons_of_mem clause hother))
      have hstart : start? (.lexeme (.keyword clause.1)) = some clause.1 := if_pos hword
      have hsplit := split_append (fun item hitem => start?_of_isBody (hbody item hitem))
        (items clauses)
      rw [hrest, List.append_nil] at hsplit
      rw [items, List.flatMap_cons, List.cons_append, split, hstart]
      change ([], (clause.1, (split (clause.2 ++ items clauses)).1) ::
        (split (clause.2 ++ items clauses)).2) = _
      rw [hsplit]

end Clause

namespace Expr

theorem listItems_body (exprs : List Expr) :
    ∀ item ∈ listItems exprs, item.isBody = true := by
  cases exprs with
  | nil => intro item hitem; cases hitem
  | cons first rest =>
      intro item hitem
      rcases List.mem_append.mp hitem with hitem | hitem
      · exact Item.isBody_of_isInner (items_inner first item hitem)
      · obtain ⟨expr, -, hitem⟩ := List.mem_flatMap.mp hitem
        rcases List.mem_cons.mp hitem with rfl | hitem
        · rfl
        · exact Item.isBody_of_isInner (items_inner expr item hitem)

end Expr

namespace Source

theorem ofItems?_items (source : Source) : ofItems? source.items = some source.leftAssociated := by
  cases source with
  | table name aliasName => cases aliasName <;> rfl
  | derived query aliasName => rfl

theorem items_body (source : Source) : ∀ item ∈ source.items, item.isBody = true := by
  cases source with
  | table name aliasName =>
      cases aliasName <;>
        simp [items, aliasTokens, Token.spaced, Item.ofTokens, Token.lexemes, Item.isBody,
          Item.isKeyword, Clause.start?]
  | derived query aliasName =>
      simp [items, Item.ofTokens, Token.lexemes, Item.isBody, Item.isKeyword, Clause.start?]

end Source

namespace Join

theorem clauses_whole (join : Join) : ∀ clause ∈ join.clauses, clause.IsWhole := by
  obtain ⟨kind, source, condition⟩ := join
  have htable : ∀ item ∈ Item.ofTokens [.keyword .JOIN] ++ source.items, item.isBody = true := by
    rw [List.forall_mem_append]
    exact ⟨by decide, source.items_body⟩
  intro clause hclause
  simp only [clauses, List.mem_cons, List.not_mem_nil, or_false] at hclause
  rcases hclause with rfl | rfl
  · exact ⟨by cases kind <;> rfl, htable⟩
  · exact ⟨rfl, fun item hitem =>
      Item.isBody_of_isInner (condition.items_inner item hitem)⟩

/-- Reading the clauses of joins gives the joins back, up to a clause that starts none. -/
theorem ofClauses?_append {joins : List Join} (hplain : allPlain joins = true)
    {behind : List Clause} (hbehind : ofClauses? behind = some ([], behind)) :
    ofClauses? (joins.flatMap clauses ++ behind) = some (allLeftAssociated joins, behind) := by
  induction joins with
  | nil => exact hbehind
  | cons join joins ih =>
      obtain ⟨kind, source, condition⟩ := join
      rw [allPlain, Join.plain] at hplain
      simp only [Bool.and_eq_true] at hplain
      have hkind : JoinKind.ofKeyword? kind.keyword = some kind := by cases kind <;> rfl
      rw [List.flatMap_cons, List.append_assoc]
      change ofClauses? ((kind.keyword, .lexeme (.keyword .JOIN) :: source.items) ::
        (.ON, condition.items) :: (joins.flatMap clauses ++ behind)) = _
      rw [ofClauses?, hkind, Source.ofItems?_items, Expr.ofItems?_items hplain.1.2, ih hplain.2]
      rfl

end Join

namespace Query

theorem clauses_whole (columns : List Expr) (source : Option Source) (joins : List Join)
    (condition : Option Expr) :
    ∀ clause ∈ clauses columns source joins condition, clause.IsWhole := by
  intro clause hclause
  simp only [clauses, List.mem_cons, List.mem_append, List.mem_map, Option.mem_toList,
    List.mem_flatMap] at hclause
  rcases hclause with rfl | ⟨source, -, rfl⟩ | ⟨join, -, hclause⟩ | ⟨condition, -, rfl⟩
  · exact ⟨rfl, Expr.listItems_body columns⟩
  · exact ⟨rfl, source.items_body⟩
  · exact join.clauses_whole clause hclause
  · exact ⟨rfl, fun item hitem =>
      Item.isBody_of_isInner (condition.items_inner item hitem)⟩

theorem columns?_listItems {columns : List Expr} (hplain : Expr.allPlain columns = true) :
    columns? (Expr.listItems columns) = some (Expr.allLeftAssociated columns) := by
  cases columns with
  | nil => rfl
  | cons first rest =>
      obtain ⟨head, tail, hitems, -⟩ := first.items_head
      have hsome : (Expr.listItems (first :: rest)).isEmpty = false := by
        rw [Expr.listItems, hitems]
        rfl
      rw [columns?, hsome, if_neg Bool.false_ne_true, Expr.listOfItems?_listItems hplain]

theorem source?_append (source : Option Source) {behind : List Clause}
    (hbehind : ∀ table rest, behind ≠ (.FROM, table) :: rest) :
    source? (source.toList.map (fun source => (.FROM, source.items)) ++ behind) =
      some (source.map Source.leftAssociated, behind) := by
  cases source with
  | none =>
      change source? behind = _
      rw [source?]
      · rfl
      · exact hbehind
  | some source =>
      change (Source.ofItems? source.items).map (fun source => (some source, behind)) = _
      rw [source.ofItems?_items]
      rfl

/-- The clauses behind the joins start none. -/
theorem ofClauses?_condition (condition : Option Expr) :
    Join.ofClauses? (condition.toList.map (fun condition => (.WHERE, condition.items))) =
      some ([], condition.toList.map (fun condition => (.WHERE, condition.items))) := by
  cases condition with
  | none => rfl
  | some condition => simp [Join.ofClauses?]

theorem condition?_items {condition : Option Expr} (hplain : condition.all Expr.plain = true) :
    condition? (condition.toList.map (fun condition => (.WHERE, condition.items))) =
      some (condition.map Expr.leftAssociated) := by
  cases condition with
  | none => rfl
  | some condition =>
      change (Expr.ofItems? condition.items).map some = _
      rw [Expr.ofItems?_items hplain]
      rfl

/-- Reading the items of a plain SELECT gives it back. -/
theorem ofSelect?_items {columns : List Expr} {source : Option Source} {joins : List Join}
    {condition : Option Expr}
    (hplain : (Query.select columns source joins condition).plain = true) :
    ofSelect? (Clause.items (clauses columns source joins condition)) =
      some (Query.select columns source joins condition).leftAssociated := by
  rw [plain_select] at hplain
  simp only [Bool.and_eq_true] at hplain
  obtain ⟨⟨⟨hcolumns, -⟩, hjoins⟩, hcondition⟩ := hplain
  have hread := Join.ofClauses?_append hjoins (ofClauses?_condition condition)
  have hbehind : ∀ table rest, joins.flatMap Join.clauses ++
      condition.toList.map (fun condition => (.WHERE, condition.items)) ≠
        (.FROM, table) :: rest := by
    intro table rest hfrom
    cases joins with
    | nil => cases condition <;> cases hfrom
    | cons join joins =>
        obtain ⟨kind, joined, on⟩ := join
        cases kind <;> cases hfrom
  rw [ofSelect?, Clause.split_items (clauses_whole columns source joins condition), clauses,
    leftAssociated_select]
  simp only [columns?_listItems hcolumns, source?_append source hbehind, hread,
    condition?_items hcondition, Option.bind_eq_bind, Option.bind_some]

/-- Reading the items of a branch gives the branch back. -/
theorem ofBranch?_branchItems {query : Query} (hplain : query.plain = true) :
    ofBranch? query.branchItems = some query.leftAssociated := by
  cases query with
  | select columns source joins condition => exact ofSelect?_items hplain
  | unionAll first second rest => rfl

theorem branchItems_union (query : Query) :
    ∀ item ∈ query.branchItems, item.isKeyword .UNION = false := by
  cases query with
  | select columns source joins condition =>
      intro item hitem
      obtain ⟨clause, hclause, hitem⟩ := List.mem_flatMap.mp hitem
      obtain ⟨hstarts, hbody⟩ := clauses_whole columns source joins condition clause hclause
      rcases List.mem_cons.mp hitem with rfl | hitem
      · obtain ⟨word, body⟩ := clause
        cases word <;> first | rfl | cases hstarts
      · have hnone := hbody item hitem
        simp only [Item.isBody, Bool.and_eq_true, Bool.not_eq_true'] at hnone
        exact hnone.1
  | unionAll first second rest => simp [branchItems, Item.isKeyword]

/-- Reading the items of a query gives the query back, grouped to the left. -/
theorem ofItems?_items {query : Query} (hplain : query.plain = true) :
    ofItems? query.items = some query.leftAssociated := by
  cases query with
  | select columns source joins condition =>
      have hsplit : (Query.select columns source joins condition).items.splitOnP
          (Item.isKeyword .UNION) = [branchItems (.select columns source joins condition)] :=
        List.splitOnP_eq_singleton (branchItems_union (.select columns source joins condition))
      rw [ofItems?, hsplit]
      simp only [ofBranch?_branchItems hplain, List.mapM_nil, Option.bind_eq_bind,
        Option.bind_some]
      rfl
  | unionAll first second rest =>
      rw [plain, Bool.and_eq_true, Bool.and_eq_true, allPlain_eq_all, List.all_eq_true] at hplain
      obtain ⟨⟨hfirst, hsecond⟩, hrest⟩ := hplain
      have hnext : ∀ query ∈ second :: rest,
          ofNextBranch? (.lexeme (.keyword .ALL) :: query.branchItems) =
            some query.leftAssociated := by
        intro query hquery
        rcases List.mem_cons.mp hquery with rfl | hquery
        · exact ofBranch?_branchItems hsecond
        · exact ofBranch?_branchItems (hrest query hquery)
      have hsplit : (Query.unionAll first second rest).items.splitOnP (Item.isKeyword .UNION) =
          first.branchItems ::
            (second :: rest).map (fun query => .lexeme (.keyword .ALL) :: query.branchItems) := by
        refine splitOnP_flatMap rfl (branchItems_union first) (fun query _ item hitem => ?_)
        rcases List.mem_cons.mp hitem with rfl | hitem
        · rfl
        · exact branchItems_union query item hitem
      rw [ofItems?, hsplit]
      simp only [ofBranch?_branchItems hfirst, mapM_map_eq_some hnext, Option.bind_eq_bind,
        Option.bind_some]
      rw [leftAssociated, allLeftAssociated_eq_map]
      rfl

end Query

namespace Item

/-- A group with a query in it is read as the query. -/
theorem ofGroup?_query {query : Query} (hplain : query.plain = true) :
    ofGroup? query.items = some (.query query.leftAssociated) := by
  have hread := Query.ofItems?_items hplain
  have hquery : ofGroup? query.items = (Query.ofItems? query.items).map .query := by
    cases query with
    | select columns source joins condition => rfl
    | unionAll first second rest => cases first <;> rfl
  rw [hquery, hread]
  rfl

/-- A group that starts with an operand is read as expressions. -/
theorem ofGroup?_exprs {first : Expr} {rest : List Expr}
    (hplain : Expr.allPlain (first :: rest) = true) :
    ofGroup? (Expr.listItems (first :: rest)) =
      some (.exprs (Expr.allLeftAssociated (first :: rest))) := by
  have hread := Expr.listOfItems?_listItems hplain
  obtain ⟨head, tail, hitems, hhead⟩ := first.items_head
  have hexprs : ofGroup? (Expr.listItems (first :: rest)) =
      (Expr.listOfItems? (Expr.listItems (first :: rest))).map .exprs := by
    rw [Expr.listItems, hitems, List.cons_append]
    cases head with
    | lexeme lexeme => cases lexeme <;> first | rfl | cases hhead
    | query query => cases hhead
    | exprs exprs => rfl
  rw [hexprs, hread]
  rfl

end Item

end SegmentPaths

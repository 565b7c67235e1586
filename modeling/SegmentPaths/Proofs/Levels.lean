/-
The levels of printed statements.  For each expression and each query there are
the items that its text leaves on one level, with everything between parentheses
already read.  Reading the items of a condition gives the condition back, grouped
to the left.
-/
import SegmentPaths.Proofs.Reading

namespace SegmentPaths

/-- Columns, literals and placeholders. -/
def Expr.isAtom : Expr → Bool
  | .column _ _ | .int _ | .text _ | .param _ => true
  | _ => false

mutual

/-- Whether only ANDs and ORs have operands other than columns, literals and
placeholders, and no list behind an IN is empty. -/
def Expr.plain : Expr → Bool
  | .column _ _ | .int _ | .text _ | .param _ => true
  | .binary op left right =>
    if op.isConnective then left.plain && right.plain else left.isAtom && right.isAtom
  | .likeEscaped subject pattern => subject.isAtom && pattern.isAtom
  | .inList subject values => subject.isAtom && !values.isEmpty && values.all Expr.isAtom
  | .inQuery subject query _ => subject.isAtom && query.plain
  | .notNull subject => subject.isAtom

def Expr.allPlain : List Expr → Bool
  | [] => true
  | expr :: rest => expr.plain && Expr.allPlain rest

def Query.plain : Query → Bool
  | .select columns source joins condition =>
    Expr.allPlain columns &&
      (match source with
        | none => true
        | some source => source.plain) &&
      Join.allPlain joins &&
      (match condition with
        | none => true
        | some condition => condition.plain)
  | .unionAll first second rest => first.plain && second.plain && Query.allPlain rest

def Query.allPlain : List Query → Bool
  | [] => true
  | query :: rest => query.plain && Query.allPlain rest

def Source.plain : Source → Bool
  | .table _ _ => true
  | .derived query _ => query.plain

def Join.plain : Join → Bool
  | .on _ source condition => source.plain && condition.plain

def Join.allPlain : List Join → Bool
  | [] => true
  | join :: rest => join.plain && Join.allPlain rest

end

theorem Expr.allPlain_eq_all (exprs : List Expr) : Expr.allPlain exprs = exprs.all Expr.plain := by
  induction exprs with
  | nil => rfl
  | cons expr rest ih => rw [Expr.allPlain, ih, List.all_cons]

theorem Query.allPlain_eq_all (queries : List Query) :
    Query.allPlain queries = queries.all Query.plain := by
  induction queries with
  | nil => rfl
  | cons query rest ih => rw [Query.allPlain, ih, List.all_cons]

theorem Join.allPlain_eq_all (joins : List Join) : Join.allPlain joins = joins.all Join.plain := by
  induction joins with
  | nil => rfl
  | cons join rest ih => rw [Join.allPlain, ih, List.all_cons]

theorem Query.plain_select (columns : List Expr) (source : Option Source) (joins : List Join)
    (condition : Option Expr) :
    (Query.select columns source joins condition).plain =
      (Expr.allPlain columns && source.all Source.plain && Join.allPlain joins &&
        condition.all Expr.plain) := by
  cases source <;> cases condition <;> rw [Query.plain] <;> rfl

/-- The items of tokens that hold no parenthesis. -/
def Item.ofTokens (tokens : List Token) : List Item :=
  (tokens.flatMap Token.lexemes).map .lexeme

namespace Expr

/-- The items of an operand: an OR under an AND is a group. -/
def operandItems (op : BinaryOp) (expr : Expr) (items : List Item) : List Item :=
  if op = .and ∧ expr.isOr = true then [.exprs [expr.leftAssociated]] else items

def items : Expr → List Item
  | .column none name => Item.ofTokens [.name name]
  | .column (some table) name => Item.ofTokens [.name table, .mark .dot, .name name]
  | .int value => Item.ofTokens [.int value]
  | .text value => Item.ofTokens [.text value]
  | .param name => Item.ofTokens [.param name]
  | .binary op left right =>
    operandItems op left left.items ++ Item.ofTokens [op.token] ++
      operandItems op right right.items
  | .likeEscaped subject pattern =>
    subject.items ++ Item.ofTokens [BinaryOp.like.token] ++ pattern.items ++
      Item.ofTokens [.keyword .ESCAPE, .text (String.ofList [patternEscape])]
  | .inList subject values =>
    subject.items ++ Item.ofTokens [.keyword .IN] ++ [.exprs (allLeftAssociated values)]
  | .inQuery subject query negated =>
    subject.items ++ Item.ofTokens (if negated then Token.spaced (.keyword .NOT) else []) ++
      Item.ofTokens [.keyword .IN] ++ [.query query.leftAssociated]
  | .notNull subject => subject.items ++ Item.ofTokens [.keyword .ISNOTNULL]

/-- The items of expressions with commas between them. -/
def listItems : List Expr → List Item
  | [] => []
  | first :: rest =>
    first.items ++ rest.flatMap (fun expr => .lexeme (.mark .comma) :: expr.items)

end Expr

def Source.items : Source → List Item
  | .table name aliasName => Item.ofTokens (.name name :: aliasTokens aliasName)
  | .derived query aliasName => .query query.leftAssociated :: Item.ofTokens [.name aliasName]

def Join.clauses : Join → List Clause
  | .on kind source condition =>
    [(kind.keyword, Item.ofTokens [.keyword .JOIN] ++ source.items), (.ON, condition.items)]

/-- The items of clauses, each behind its keyword. -/
def Clause.items (clauses : List Clause) : List Item :=
  clauses.flatMap (fun clause => .lexeme (.keyword clause.1) :: clause.2)

namespace Query

/-- The clauses of a plain SELECT. -/
def clauses (columns : List Expr) (source : Option Source) (joins : List Join)
    (condition : Option Expr) : List Clause :=
  (.SELECT, Expr.listItems columns) ::
    (source.toList.map (fun source => (.FROM, source.items)) ++
      (joins.flatMap Join.clauses ++
        condition.toList.map (fun condition => (.WHERE, condition.items))))

/-- The items of a branch of a union: a union in it is a group. -/
def branchItems : Query → List Item
  | .select columns source joins condition =>
    Clause.items (clauses columns source joins condition)
  | .unionAll first second rest => [.query (Query.unionAll first second rest).leftAssociated]

def items : Query → List Item
  | .select columns source joins condition =>
    Clause.items (clauses columns source joins condition)
  | .unionAll first second rest =>
    first.branchItems ++
      (second :: rest).flatMap
        (fun query => Item.ofTokens [.keyword .UNION, .keyword .ALL] ++ query.branchItems)

end Query

namespace Expr

/-- Whether no run of ANDs and no run of ORs stands at the top. -/
def isLeaf : Expr → Bool
  | .binary op _ _ => !op.isConnective
  | _ => true

theorem leftAssociated_of_isAtom {atom : Expr} (h : atom.isAtom = true) :
    atom.leftAssociated = atom := by
  cases atom with
  | column _ _ | int _ | text _ | param _ => rfl
  | _ => cases h

theorem operandItems_of_ne {op : BinaryOp} (h : op ≠ .and) (expr : Expr) (items : List Item) :
    operandItems op expr items = items :=
  if_neg (fun hand => h hand.1)

end Expr

namespace Item

/-- An atom is read in front of whatever is no dot. -/
theorem operand?_atom {atom : Expr} (hatom : atom.isAtom = true) {rest : List Item}
    (hrest : ∀ behind, rest ≠ .lexeme (.mark .dot) :: behind) :
    operand? (atom.items ++ rest) = some (atom, rest) := by
  cases atom with
  | column table name =>
      cases table with
      | none =>
          change operand? (.lexeme (.name name) :: rest) = _
          rw [operand?]
          intro column behind hdot
          exact hrest _ hdot
      | some table => rfl
  | int value => rfl
  | text value => rfl
  | param name => rfl
  | _ => cases hatom

theorem operand?_last {atom : Expr} (hatom : atom.isAtom = true) :
    operand? atom.items = some (atom, []) := by
  have hread : operand? (atom.items ++ []) = some (atom, []) :=
    operand?_atom hatom (fun _ hdot => by cases hdot)
  rwa [List.append_nil] at hread

/-- What is said of an atom is read from the items behind it. -/
theorem predicate?_append {subject : Expr} (hsubject : subject.isAtom = true)
    {rest : List Item} (hrest : ∀ behind, rest ≠ .lexeme (.mark .dot) :: behind) :
    predicate? (subject.items ++ rest) = statement? subject rest := by
  rw [predicate?, operand?_atom hsubject hrest]
  rfl

/-- An operator is read with the operand behind it. -/
theorem statement?_operator {op : BinaryOp} (hop : op.isConnective = false) (subject : Expr)
    (rest : List Item) :
    statement? subject (ofTokens [op.token] ++ rest) =
      (operand? rest).bind (comparison? subject op) := by
  cases op with
  | and => cases hop
  | or => cases hop
  | _ => rfl

theorem ofTokens_operator_ne_dot (op : BinaryOp) (rest behind : List Item) :
    ofTokens [op.token] ++ rest ≠ .lexeme (.mark .dot) :: behind := by
  intro hdot
  cases op <;> cases hdot

theorem predicate?_leaf {expr : Expr} (hplain : expr.plain = true) (hleaf : expr.isLeaf = true) :
    predicate? expr.items = some expr.leftAssociated := by
  cases expr with
  | column _ _ | int _ | text _ | param _ =>
      rw [predicate?, operand?_last (by rfl)]
      rfl
  | binary op left right =>
      have hop : op.isConnective = false := by simpa [Expr.isLeaf] using hleaf
      have hne : op ≠ .and := by
        intro hand
        subst hand
        cases hop
      rw [Expr.plain, if_neg (by simp [hop])] at hplain
      obtain ⟨hleft, hright⟩ := Bool.and_eq_true_iff.mp hplain
      rw [Expr.items, Expr.operandItems_of_ne hne, Expr.operandItems_of_ne hne, List.append_assoc,
        predicate?_append hleft (ofTokens_operator_ne_dot op _), statement?_operator hop,
        operand?_last hright, Expr.leftAssociated, if_neg (by simp [hop]),
        Expr.leftAssociated_of_isAtom hleft, Expr.leftAssociated_of_isAtom hright]
      rfl
  | likeEscaped subject pattern =>
      rw [Expr.plain] at hplain
      obtain ⟨hsubject, hpattern⟩ := Bool.and_eq_true_iff.mp hplain
      rw [Expr.items, List.append_assoc, List.append_assoc,
        predicate?_append hsubject (ofTokens_operator_ne_dot .like _), statement?_operator rfl,
        operand?_atom hpattern (fun _ hdot => by cases hdot), Expr.leftAssociated,
        Expr.leftAssociated_of_isAtom hsubject, Expr.leftAssociated_of_isAtom hpattern]
      rfl
  | inList subject values =>
      rw [Expr.plain] at hplain
      simp only [Bool.and_eq_true] at hplain
      obtain ⟨⟨hsubject, -⟩, -⟩ := hplain
      rw [Expr.items, List.append_assoc, predicate?_append hsubject (fun _ hdot => by cases hdot),
        Expr.leftAssociated, Expr.leftAssociated_of_isAtom hsubject]
      rfl
  | inQuery subject query negated =>
      rw [Expr.plain] at hplain
      obtain ⟨hsubject, -⟩ := Bool.and_eq_true_iff.mp hplain
      rw [Expr.items, List.append_assoc, List.append_assoc,
        predicate?_append hsubject (fun _ hdot => by cases negated <;> cases hdot),
        Expr.leftAssociated, Expr.leftAssociated_of_isAtom hsubject]
      cases negated <;> rfl
  | notNull subject =>
      rw [Expr.items, predicate?_append hplain (fun _ hdot => by cases hdot),
        Expr.leftAssociated, Expr.leftAssociated_of_isAtom hplain]
      rfl

end Item

theorem mapM_map_eq_some {α β γ : Type} {f : α → β} {read? : β → Option γ} {g : α → γ}
    {xs : List α} (h : ∀ x ∈ xs, read? (f x) = some (g x)) :
    (xs.map f).mapM read? = some (xs.map g) := by
  induction xs with
  | nil => rfl
  | cons x xs ih =>
      have hrest := ih (fun y hy => h y (List.mem_cons_of_mem x hy))
      rw [List.map_cons, List.mapM_cons, h x List.mem_cons_self, hrest]
      rfl

namespace Item

/-- Whether an item is an AND or an OR. -/
def isConnective (item : Item) : Bool := item.isKeyword .AND || item.isKeyword .OR

theorem isKeyword_of_isConnective {item : Item} (hitem : item.isConnective = false)
    {op : BinaryOp} (hop : op.isConnective = true) {word : Keyword}
    (hword : op.token = .keyword word) : item.isKeyword word = false := by
  rw [isConnective, Bool.or_eq_false_iff] at hitem
  cases op with
  | and =>
      cases hword
      exact hitem.1
  | or =>
      cases hword
      exact hitem.2
  | _ => cases hop

end Item

namespace Expr

theorem items_atom {atom : Expr} (hatom : atom.isAtom = true) :
    ∀ item ∈ atom.items, item.isConnective = false := by
  cases atom with
  | column table name =>
      cases table with
      | none => simp [items, Item.ofTokens, Token.lexemes, Item.isConnective, Item.isKeyword]
      | some table => simp [items, Item.ofTokens, Token.lexemes, Item.isConnective, Item.isKeyword]
  | int _ | text _ | param _ =>
      simp [items, Item.ofTokens, Token.lexemes, Item.isConnective, Item.isKeyword]
  | _ => cases hatom

/-- Neither AND nor OR is left on the level of a condition without them. -/
theorem items_leaf {expr : Expr} (hplain : expr.plain = true) (hleaf : expr.isLeaf = true) :
    ∀ item ∈ expr.items, item.isConnective = false := by
  cases expr with
  | column _ _ | int _ | text _ | param _ => exact items_atom rfl
  | binary op left right =>
      have hop : op.isConnective = false := by simpa [isLeaf] using hleaf
      rw [plain, if_neg (by simp [hop])] at hplain
      obtain ⟨hleft, hright⟩ := Bool.and_eq_true_iff.mp hplain
      have hne : op ≠ .and := by
        intro hand
        subst hand
        cases hop
      have htoken : ∀ item ∈ Item.ofTokens [op.token], item.isConnective = false := by
        cases op <;> first | decide | cases hop
      rw [items, operandItems_of_ne hne, operandItems_of_ne hne]
      simp only [List.forall_mem_append]
      exact ⟨⟨items_atom hleft, htoken⟩, items_atom hright⟩
  | likeEscaped subject pattern =>
      rw [plain] at hplain
      obtain ⟨hsubject, hpattern⟩ := Bool.and_eq_true_iff.mp hplain
      rw [items]
      simp only [List.forall_mem_append]
      exact ⟨⟨⟨items_atom hsubject, by decide⟩, items_atom hpattern⟩, by decide⟩
  | inList subject values =>
      rw [plain] at hplain
      simp only [Bool.and_eq_true] at hplain
      rw [items]
      simp only [List.forall_mem_append]
      exact ⟨⟨items_atom hplain.1.1, by decide⟩, by simp [Item.isConnective, Item.isKeyword]⟩
  | inQuery subject query negated =>
      rw [plain] at hplain
      obtain ⟨hsubject, -⟩ := Bool.and_eq_true_iff.mp hplain
      rw [items]
      simp only [List.forall_mem_append]
      exact ⟨⟨⟨items_atom hsubject, by cases negated <;> decide⟩, by decide⟩,
        by simp [Item.isConnective, Item.isKeyword]⟩
  | notNull subject =>
      rw [items]
      simp only [List.forall_mem_append]
      exact ⟨items_atom hplain, by decide⟩

/-- Induction over the ANDs and ORs at the top of a condition. -/
theorem connective_induction {P : Expr → Prop} (leaf : ∀ expr, expr.isLeaf = true → P expr)
    (binary : ∀ op left right, op.isConnective = true → P left → P right →
      P (.binary op left right)) : (expr : Expr) → P expr
  | .binary op left right => by
      cases hop : op.isConnective with
      | true =>
          exact binary op left right hop (connective_induction leaf binary left)
            (connective_induction leaf binary right)
      | false => exact leaf _ (by simp [isLeaf, hop])
  | .column _ _ | .int _ | .text _ | .param _ | .likeEscaped _ _ | .inList _ _ | .inQuery _ _ _
  | .notNull _ => leaf _ rfl

theorem plain_binary {op : BinaryOp} (hop : op.isConnective = true) {left right : Expr}
    (hplain : (binary op left right).plain = true) :
    left.plain = true ∧ right.plain = true := by
  rw [plain, if_pos hop] at hplain
  exact Bool.and_eq_true_iff.mp hplain

theorem isOr_of_isLeaf {expr : Expr} (hleaf : expr.isLeaf = true) : expr.isOr = false := by
  cases expr with
  | binary op left right => cases op <;> first | rfl | cases hleaf
  | _ => rfl

theorem isLeaf_of_not_isBinary {expr : Expr} (hand : expr.isBinary .and = false)
    (hor : expr.isOr = false) : expr.isLeaf = true := by
  cases expr with
  | binary op left right =>
      cases op with
      | and => cases hand
      | or => cases hor
      | _ => rfl
  | _ => rfl

theorem isOr_eq_isBinary (expr : Expr) : expr.isOr = expr.isBinary .or := by
  cases expr with
  | binary op left right => cases op <;> rfl
  | _ => rfl

theorem parts_of_isLeaf {op : BinaryOp} (hop : op.isConnective = true) {expr : Expr}
    (hleaf : expr.isLeaf = true) : expr.parts op = [expr] := by
  cases expr with
  | binary other left right =>
      rw [parts, if_neg]
      intro hother
      rw [isLeaf, hother, hop] at hleaf
      cases hleaf
  | _ => rfl

/-- No OR is left on the level of an operand of an AND. -/
theorem operandItems_and {expr : Expr} (hplain : expr.plain = true) :
    ∀ item ∈ operandItems .and expr expr.items, item.isKeyword .OR = false := by
  induction expr using connective_induction with
  | leaf expr hleaf =>
      intro item hitem
      rw [operandItems, isOr_of_isLeaf hleaf] at hitem
      exact Item.isKeyword_of_isConnective (items_leaf hplain hleaf item hitem) rfl
        (show BinaryOp.or.token = _ from rfl)
  | binary op left right hop ihleft ihright =>
      obtain ⟨hleft, hright⟩ := plain_binary hop hplain
      cases op with
      | or => simp [operandItems, isOr, Item.isKeyword]
      | and =>
          change ∀ item ∈ items (.binary .and left right), item.isKeyword .OR = false
          rw [items]
          simp only [List.forall_mem_append]
          exact ⟨⟨ihleft hleft, by decide⟩, ihright hright⟩
      | _ => cases hop

/-- Splitting a level at the keyword of a run gives the items of its operands. -/
theorem splitOnP_operandItems {op : BinaryOp} (hop : op.isConnective = true) {word : Keyword}
    (hword : op.token = .keyword word) {expr : Expr} (hplain : expr.plain = true) :
    (operandItems op expr expr.items).splitOnP (Item.isKeyword word) =
      (expr.parts op).map (fun part => operandItems op part part.items) := by
  induction expr using connective_induction with
  | leaf expr hleaf =>
      rw [parts_of_isLeaf hop hleaf, List.splitOnP_eq_singleton]
      · rfl
      · intro item hitem
        rw [operandItems, isOr_of_isLeaf hleaf, if_neg (by simp)] at hitem
        exact Item.isKeyword_of_isConnective (items_leaf hplain hleaf item hitem) hop hword
  | binary other left right hother ihleft ihright =>
      obtain ⟨hleft, hright⟩ := plain_binary hother hplain
      by_cases hsame : other = op
      · subst hsame
        have hitems : operandItems other (binary other left right) (binary other left right).items =
            operandItems other left left.items ++
              .lexeme (.keyword word) :: operandItems other right right.items := by
          cases other with
          | and | or =>
              cases hword
              change items _ = _
              rw [items, List.append_assoc]
              rfl
          | _ => cases hop
        rw [hitems, List.splitOnP_append_cons _ _ (by simp [Item.isKeyword]), ihleft hleft,
          ihright hright, parts, if_pos rfl, List.map_append]
      · rw [parts, if_neg hsame, List.splitOnP_eq_singleton]
        · rfl
        · cases op with
          | and =>
              cases other with
              | or =>
                  cases hword
                  simp [operandItems, isOr, Item.isKeyword]
              | and => exact absurd rfl hsame
              | _ => cases hother
          | or =>
              cases other with
              | and =>
                  cases hword
                  exact operandItems_and hplain
              | or => exact absurd rfl hsame
              | _ => cases hother
          | _ => cases hop

theorem plain_of_mem_parts {op : BinaryOp} (hop : op.isConnective = true) {expr : Expr}
    (hplain : expr.plain = true) : ∀ part ∈ expr.parts op, part.plain = true := by
  induction expr using connective_induction with
  | leaf expr hleaf =>
      intro part hpart
      rw [parts_of_isLeaf hop hleaf] at hpart
      cases List.mem_singleton.mp hpart
      exact hplain
  | binary other left right hother ihleft ihright =>
      obtain ⟨hleft, hright⟩ := plain_binary hother hplain
      intro part hpart
      rw [parts] at hpart
      split at hpart
      · rcases List.mem_append.mp hpart with hpart | hpart
        · exact ihleft hleft part hpart
        · exact ihright hright part hpart
      · cases List.mem_singleton.mp hpart
        exact hplain

/-- A run is read if its operands are. -/
theorem ofParts?_operandItems {op : BinaryOp} (hop : op.isConnective = true) {word : Keyword}
    (hword : op.token = .keyword word) {part? : List Item → Option Expr} {expr : Expr}
    (hplain : expr.plain = true)
    (hpart : ∀ part ∈ expr.parts op,
      part? (operandItems op part part.items) = some part.leftAssociated) :
    ofParts? op word part? (operandItems op expr expr.items) = some expr.leftAssociated := by
  rw [ofParts?, splitOnP_operandItems hop hword hplain, mapM_map_eq_some hpart,
    Option.bind_some, joined_parts hop]

theorem ofConjunction?_operandItems {expr : Expr} (hplain : expr.plain = true) :
    ofConjunction? (operandItems .and expr expr.items) = some expr.leftAssociated := by
  refine ofParts?_operandItems rfl rfl hplain (fun part hpart => ?_)
  have hplainPart := plain_of_mem_parts rfl hplain part hpart
  have hand := isBinary_of_mem_parts .and expr part hpart
  cases hor : part.isOr with
  | true =>
      rw [operandItems, if_pos ⟨rfl, hor⟩]
      rfl
  | false =>
      rw [operandItems, if_neg (by simp [hor])]
      exact Item.predicate?_leaf hplainPart (isLeaf_of_not_isBinary hand hor)

/-- Reading the items of a condition gives the condition back, grouped to the left. -/
theorem ofItems?_items {expr : Expr} (hplain : expr.plain = true) :
    ofItems? expr.items = some expr.leftAssociated := by
  have hread : ofItems? (operandItems .or expr expr.items) = some expr.leftAssociated := by
    refine ofParts?_operandItems rfl rfl hplain (fun part hpart => ?_)
    have hor : part.isOr = false := by
      rw [isOr_eq_isBinary]
      exact isBinary_of_mem_parts .or expr part hpart
    have hconjunction := ofConjunction?_operandItems (plain_of_mem_parts rfl hplain part hpart)
    rwa [operandItems, if_neg (by simp [hor])] at hconjunction
  exact hread

end Expr

end SegmentPaths

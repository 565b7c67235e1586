/-
Conditions regrouped to the left.  A run of ANDs or of ORs without parentheses
groups to the left when it is read, so a query and what is read from its text
may differ in where the brackets of such a run stand, and in nothing else.
-/
import SegmentPaths.Sql.Query
import Mathlib.Data.List.Forall2

namespace SegmentPaths

/-- The operators whose runs are written without parentheses. -/
def BinaryOp.isConnective : BinaryOp → Bool
  | .and | .or => true
  | _ => false

mutual

/-- The second expression is the first one with operands of nested ANDs or of
nested ORs moved to the left. -/
inductive Expr.Reassociated : Expr → Expr → Prop
  | refl (expr : Expr) : Expr.Reassociated expr expr
  | trans {first second third : Expr} : Expr.Reassociated first second →
      Expr.Reassociated second third → Expr.Reassociated first third
  | assoc {op : BinaryOp} (left middle right : Expr) : op.isConnective = true →
      Expr.Reassociated (.binary op left (.binary op middle right))
        (.binary op (.binary op left middle) right)
  | binary (op : BinaryOp) {left left' right right' : Expr} :
      Expr.Reassociated left left' → Expr.Reassociated right right' →
      Expr.Reassociated (.binary op left right) (.binary op left' right')
  | likeEscaped {subject subject' pattern pattern' : Expr} :
      Expr.Reassociated subject subject' → Expr.Reassociated pattern pattern' →
      Expr.Reassociated (.likeEscaped subject pattern) (.likeEscaped subject' pattern')
  | inList {subject subject' : Expr} {values values' : List Expr} :
      Expr.Reassociated subject subject' → List.Forall₂ Expr.Reassociated values values' →
      Expr.Reassociated (.inList subject values) (.inList subject' values')
  | inQuery {subject subject' : Expr} {query query' : Query} (negated : Bool) :
      Expr.Reassociated subject subject' → Query.Reassociated query query' →
      Expr.Reassociated (.inQuery subject query negated) (.inQuery subject' query' negated)
  | notNull {subject subject' : Expr} : Expr.Reassociated subject subject' →
      Expr.Reassociated (.notNull subject) (.notNull subject')

/-- The same for queries: clause by clause and branch by branch. -/
inductive Query.Reassociated : Query → Query → Prop
  | select {columns columns' : List Expr} {source source' : Option Source}
      {joins joins' : List Join} {condition condition' : Option Expr} :
      List.Forall₂ Expr.Reassociated columns columns' →
      Option.Rel Source.Reassociated source source' →
      List.Forall₂ Join.Reassociated joins joins' →
      Option.Rel Expr.Reassociated condition condition' →
      Query.Reassociated (.select columns source joins condition)
        (.select columns' source' joins' condition')
  | unionAll {first first' second second' : Query} {rest rest' : List Query} :
      Query.Reassociated first first' → Query.Reassociated second second' →
      List.Forall₂ Query.Reassociated rest rest' →
      Query.Reassociated (.unionAll first second rest) (.unionAll first' second' rest')

inductive Source.Reassociated : Source → Source → Prop
  | table (name : String) (aliasName : Option String) :
      Source.Reassociated (.table name aliasName) (.table name aliasName)
  | derived {query query' : Query} (aliasName : String) : Query.Reassociated query query' →
      Source.Reassociated (.derived query aliasName) (.derived query' aliasName)

inductive Join.Reassociated : Join → Join → Prop
  | on (kind : JoinKind) {source source' : Source} {condition condition' : Expr} :
      Source.Reassociated source source' → Expr.Reassociated condition condition' →
      Join.Reassociated (.on kind source condition) (.on kind source' condition')

end

/-- An operator between two expressions, with the operands on the right moved to
the left where they are a run of the same operator. -/
def Expr.attach (op : BinaryOp) (left : Expr) : Expr → Expr
  | .binary other first second =>
    if other = op then .binary op (Expr.attach op left first) second
    else .binary op left (.binary other first second)
  | right => .binary op left right

mutual

/-- An expression with every run of ANDs and of ORs grouped to the left. -/
def Expr.leftAssociated : Expr → Expr
  | .binary op left right =>
    if op.isConnective then Expr.attach op left.leftAssociated right.leftAssociated
    else .binary op left.leftAssociated right.leftAssociated
  | .likeEscaped subject pattern => .likeEscaped subject.leftAssociated pattern.leftAssociated
  | .inList subject values => .inList subject.leftAssociated (Expr.allLeftAssociated values)
  | .inQuery subject query negated =>
    .inQuery subject.leftAssociated query.leftAssociated negated
  | .notNull subject => .notNull subject.leftAssociated
  | .column table name => .column table name
  | .int value => .int value
  | .text value => .text value
  | .param name => .param name

def Expr.allLeftAssociated : List Expr → List Expr
  | [] => []
  | expr :: rest => expr.leftAssociated :: Expr.allLeftAssociated rest

def Query.leftAssociated : Query → Query
  | .select columns source joins condition =>
    .select (Expr.allLeftAssociated columns)
      (match source with
        | none => none
        | some source => some source.leftAssociated)
      (Join.allLeftAssociated joins)
      (match condition with
        | none => none
        | some condition => some condition.leftAssociated)
  | .unionAll first second rest =>
    .unionAll first.leftAssociated second.leftAssociated (Query.allLeftAssociated rest)

def Query.allLeftAssociated : List Query → List Query
  | [] => []
  | query :: rest => query.leftAssociated :: Query.allLeftAssociated rest

def Source.leftAssociated : Source → Source
  | .table name aliasName => .table name aliasName
  | .derived query aliasName => .derived query.leftAssociated aliasName

def Join.leftAssociated : Join → Join
  | .on kind source condition => .on kind source.leftAssociated condition.leftAssociated

def Join.allLeftAssociated : List Join → List Join
  | [] => []
  | join :: rest => join.leftAssociated :: Join.allLeftAssociated rest

end

theorem Expr.allLeftAssociated_eq_map (exprs : List Expr) :
    Expr.allLeftAssociated exprs = exprs.map Expr.leftAssociated := by
  induction exprs with
  | nil => rfl
  | cons expr rest ih => rw [Expr.allLeftAssociated, ih, List.map_cons]

theorem Query.allLeftAssociated_eq_map (queries : List Query) :
    Query.allLeftAssociated queries = queries.map Query.leftAssociated := by
  induction queries with
  | nil => rfl
  | cons query rest ih => rw [Query.allLeftAssociated, ih, List.map_cons]

theorem Join.allLeftAssociated_eq_map (joins : List Join) :
    Join.allLeftAssociated joins = joins.map Join.leftAssociated := by
  induction joins with
  | nil => rfl
  | cons join rest ih => rw [Join.allLeftAssociated, ih, List.map_cons]

theorem Query.leftAssociated_select (columns : List Expr) (source : Option Source)
    (joins : List Join) (condition : Option Expr) :
    (Query.select columns source joins condition).leftAssociated =
      .select (Expr.allLeftAssociated columns) (source.map Source.leftAssociated)
        (Join.allLeftAssociated joins) (condition.map Expr.leftAssociated) := by
  cases source <;> cases condition <;> rw [Query.leftAssociated] <;> rfl

theorem Expr.Reassociated.attach {op : BinaryOp} (hop : op.isConnective = true) (left : Expr) :
    (right : Expr) → Expr.Reassociated (.binary op left right) (Expr.attach op left right)
  | .binary other first second => by
      rw [Expr.attach]
      split
      · rename_i hother
        subst hother
        exact .trans (.assoc left first second hop)
          (.binary other (Expr.Reassociated.attach hop left first) (.refl second))
      · exact .refl _
  | .column _ _ | .int _ | .text _ | .param _ | .likeEscaped _ _ | .inList _ _ | .inQuery _ _ _
  | .notNull _ => .refl _

mutual

theorem Expr.reassociated : (expr : Expr) → expr.Reassociated expr.leftAssociated
  | .binary op left right => by
      have hboth := Expr.Reassociated.binary op left.reassociated right.reassociated
      rw [Expr.leftAssociated]
      split
      · rename_i hop
        exact .trans hboth (.attach hop _ _)
      · exact hboth
  | .likeEscaped subject pattern => .likeEscaped subject.reassociated pattern.reassociated
  | .inList subject values => .inList subject.reassociated (Expr.all_reassociated values)
  | .inQuery subject query negated =>
      .inQuery negated subject.reassociated query.reassociated
  | .notNull subject => .notNull subject.reassociated
  | .column _ _ | .int _ | .text _ | .param _ => .refl _

theorem Expr.all_reassociated : (exprs : List Expr) →
    List.Forall₂ Expr.Reassociated exprs (Expr.allLeftAssociated exprs)
  | [] => .nil
  | expr :: rest => .cons expr.reassociated (Expr.all_reassociated rest)

/-- A query grouped to the left is the query up to the grouping. -/
theorem Query.reassociated : (query : Query) → query.Reassociated query.leftAssociated
  | .select columns source joins condition => by
      rw [Query.leftAssociated_select]
      refine .select (Expr.all_reassociated columns) ?_ (Join.all_reassociated joins) ?_
      · cases source with
        | none => exact .none
        | some source => exact .some source.reassociated
      · cases condition with
        | none => exact .none
        | some condition => exact .some condition.reassociated
  | .unionAll first second rest =>
      .unionAll first.reassociated second.reassociated (Query.all_reassociated rest)

theorem Query.all_reassociated : (queries : List Query) →
    List.Forall₂ Query.Reassociated queries (Query.allLeftAssociated queries)
  | [] => .nil
  | query :: rest => .cons query.reassociated (Query.all_reassociated rest)

theorem Source.reassociated : (source : Source) → source.Reassociated source.leftAssociated
  | .table name aliasName => .table name aliasName
  | .derived query aliasName => .derived aliasName query.reassociated

theorem Join.reassociated : (join : Join) → join.Reassociated join.leftAssociated
  | .on kind source condition => .on kind source.reassociated condition.reassociated

theorem Join.all_reassociated : (joins : List Join) →
    List.Forall₂ Join.Reassociated joins (Join.allLeftAssociated joins)
  | [] => .nil
  | join :: rest => .cons join.reassociated (Join.all_reassociated rest)

end

namespace Expr

/-- Whether an operator stands at the top of an expression. -/
def isBinary (op : BinaryOp) : Expr → Bool
  | .binary other _ _ => other == op
  | _ => false

/-- The operands of a run of one operator, from left to right. -/
def parts (op : BinaryOp) : Expr → List Expr
  | .binary other left right =>
    if other = op then parts op left ++ parts op right else [.binary other left right]
  | expr => [expr]

/-- An operator between operands, grouped to the left. -/
def joined (op : BinaryOp) : List Expr → Option Expr
  | [] => none
  | first :: rest => some (rest.foldl (.binary op) first)

theorem attach_of_not_isBinary {op : BinaryOp} {right : Expr} (h : right.isBinary op = false)
    (left : Expr) : attach op left right = .binary op left right := by
  cases right with
  | binary other first second =>
      have hne : other ≠ op := by simpa [isBinary] using h
      rw [attach, if_neg hne]
  | _ => rfl

theorem attach_foldl (op : BinaryOp) (left first : Expr) (rest : List Expr) :
    attach op left (rest.foldl (.binary op) first) =
      rest.foldl (.binary op) (attach op left first) := by
  induction rest generalizing first with
  | nil => rfl
  | cons next rest ih => rw [List.foldl_cons, ih, attach, if_pos rfl, List.foldl_cons]

/-- Attaching one run to another puts the operands of both in a row. -/
theorem joined_append {op : BinaryOp} {left right : Expr} {front back : List Expr}
    (hfront : joined op front = some left) (hback : joined op back = some right)
    (hhead : ∀ first ∈ back.head?, first.isBinary op = false) :
    joined op (front ++ back) = some (attach op left right) := by
  cases front with
  | nil => cases hfront
  | cons first front =>
      cases back with
      | nil => cases hback
      | cons next back =>
          cases hfront
          cases hback
          rw [attach_foldl, attach_of_not_isBinary (hhead next rfl), List.cons_append, joined,
            List.foldl_append, List.foldl_cons]

theorem isBinary_attach (op other : BinaryOp) (left right : Expr) :
    (attach op left right).isBinary other = (op == other) := by
  unfold attach
  split
  · split <;> rfl
  · rfl

/-- Grouping keeps the operator at the top. -/
theorem isBinary_leftAssociated (op : BinaryOp) (expr : Expr) :
    expr.leftAssociated.isBinary op = expr.isBinary op := by
  cases expr with
  | binary other left right =>
      rw [leftAssociated]
      split
      · exact isBinary_attach other op _ _
      · rfl
  | column _ _ | int _ | text _ | param _ | likeEscaped _ _ | inList _ _ | inQuery _ _ _
  | notNull _ => rfl

theorem isBinary_of_mem_parts (op : BinaryOp) :
    (expr : Expr) → ∀ part ∈ expr.parts op, part.isBinary op = false
  | .binary other left right => by
      intro part hpart
      rw [parts] at hpart
      split at hpart
      · rcases List.mem_append.mp hpart with hpart | hpart
        · exact isBinary_of_mem_parts op left part hpart
        · exact isBinary_of_mem_parts op right part hpart
      · rename_i hne
        cases List.mem_singleton.mp hpart
        simpa [isBinary] using hne
  | .column _ _ | .int _ | .text _ | .param _ | .likeEscaped _ _ | .inList _ _ | .inQuery _ _ _
  | .notNull _ => by
      intro part hpart
      cases List.mem_singleton.mp hpart
      rfl

/-- An expression is its operands in a row, grouped to the left. -/
theorem joined_parts {op : BinaryOp} (hop : op.isConnective = true) :
    (expr : Expr) → joined op ((expr.parts op).map leftAssociated) = some expr.leftAssociated
  | .binary other left right => by
      rw [parts]
      split
      · rename_i hother
        subst hother
        have hhead : ∀ first ∈ ((right.parts other).map leftAssociated).head?,
            first.isBinary other = false := by
          intro first hfirst
          obtain ⟨part, hpart, rfl⟩ := List.mem_map.mp (List.mem_of_mem_head? hfirst)
          rw [isBinary_leftAssociated]
          exact isBinary_of_mem_parts other right part hpart
        rw [List.map_append, joined_append (joined_parts hop left) (joined_parts hop right) hhead,
          leftAssociated, if_pos hop]
      · rfl
  | .column _ _ | .int _ | .text _ | .param _ | .likeEscaped _ _ | .inList _ _ | .inQuery _ _ _
  | .notNull _ => rfl

end Expr

end SegmentPaths

/-
The text of compiled filters, byte for byte.  A fragment is one SELECT that joins the
links of its path in order, each at the column where the hop before it ended, and a
compiled filter is its fragments with UNION ALL between them and no parentheses.
-/
import SegmentPaths.Proofs.Catalogs
import SegmentPaths.Proofs.NoFaults

namespace SegmentPaths

section Tokens

variable (dialect : Dialect) (rest : List Token)

@[simp]
theorem tokenText_nil : tokenText dialect [] = "" := rfl

theorem tokenText_append (front back : List Token) :
    tokenText dialect (front ++ back) = tokenText dialect front ++ tokenText dialect back := by
  rw [tokenText, tokenChars_append, String.ofList_append]
  rfl

theorem tokenText_cons (token : Token) :
    tokenText dialect (token :: rest) =
      String.ofList (token.chars dialect) ++ tokenText dialect rest := by
  rw [tokenText, tokenChars, List.flatMap_cons, String.ofList_append]
  rfl

theorem tokenText_mark (sign : Mark) :
    tokenText dialect (.mark sign :: rest) = sign.text ++ tokenText dialect rest := by
  rw [tokenText_cons, Token.chars, String.ofList_toList]

theorem tokenText_space :
    tokenText dialect (.space :: rest) = " " ++ tokenText dialect rest :=
  tokenText_cons dialect rest .space

theorem tokenText_name (ident : String) :
    tokenText dialect (.name ident :: rest) =
      dialect.formatName ident ++ tokenText dialect rest :=
  tokenText_cons dialect rest (.name ident)

theorem tokenText_param (ident : String) :
    tokenText dialect (.param ident :: rest) =
      dialect.formatParam ident ++ tokenText dialect rest :=
  tokenText_cons dialect rest (.param ident)

end Tokens

/-- The columns that compiled statements are about. -/
def fixedColumns : List String :=
  ["contact_id", "custom_item_id", "id", "custom_field_id", "custom_object_id",
   "custom_item_id_lower", "custom_item_id_higher"]

/-- The columns are written as they are. -/
theorem formatName_fixedColumn (dialect : Dialect) {column : String}
    (h : column ∈ fixedColumns) : dialect.formatName column = column := by
  have hbare : ∀ column ∈ fixedColumns, isBareName column = true := by decide
  rw [Dialect.formatName, Dialect.nameChars, if_pos (hbare column h), String.ofList_toList]

namespace Fragment

section Template

variable (dialect : Dialect)

/-- A table under an alias. -/
def tableText (table aliasName : String) : String :=
  dialect.formatName table ++ " " ++ dialect.formatName aliasName

/-- A column of the table under an alias. -/
def columnText (aliasName column : String) : String :=
  dialect.formatName aliasName ++ "." ++ column

/-- The alias of the table that a hop joins, counted from one. -/
def hopAlias (seed : String) (hop : Nat) : String := seed ++ "_item_xref_" ++ toString hop

/-- The column that a path has come to behind the hops it has crossed: the one it starts
at, or the one that the last hop leads to. -/
def endText (start seed : String) (crossed : RelationshipPath) : String :=
  match crossed.getLast? with
  | none => start
  | some direction => columnText dialect (hopAlias seed crossed.length) direction.toColumn

/-- The join of the next hop behind the crossed ones. -/
def hopText (links start seed : String) (crossed : RelationshipPath) (direction : Direction) :
    String :=
  " INNER JOIN " ++ tableText dialect links (hopAlias seed (crossed.length + 1)) ++ " ON " ++
    columnText dialect (hopAlias seed (crossed.length + 1)) direction.fromColumn ++ " = " ++
    endText dialect start seed crossed

/-- The join of the contacts at the column where a path ends. -/
def contactText (contacts seed last : String) : String :=
  " INNER JOIN " ++ tableText dialect contacts (seed ++ "_contact") ++ " ON " ++ last ++ " = " ++
    columnText dialect (seed ++ "_contact") "custom_item_id"

/-- A fragment from a table under an alias, told by the columns of the item and of the id. -/
def textFrom (tables : TableNames) (path : RelationshipPath)
    (seed table source itemColumn idColumn : String) : String :=
  "SELECT contact_id FROM " ++ tableText dialect table source ++
    String.join (path.zipIdx.map fun hop =>
      hopText dialect tables.itemItem (columnText dialect source itemColumn) seed
        (path.take hop.2) hop.1) ++
    contactText dialect tables.itemContact seed
      (endText dialect (columnText dialect source itemColumn) seed path) ++
    " WHERE " ++ columnText dialect source idColumn ++ " = " ++
    dialect.formatParam (seed ++ "_" ++ idColumn)

/-- What a fragment reads as text. -/
def template (tables : TableNames) (path : RelationshipPath) (seed : String) :
    PathSource → String
  | .fieldValue table _ =>
    textFrom dialect tables path seed table (seed ++ "_value") "custom_item_id" "custom_field_id"
  | .objectItem _ =>
    textFrom dialect tables path seed tables.items (seed ++ "_item") "id" "custom_object_id"

end Template

theorem linkAlias_eq_hopAlias (seed : String) (hop : Nat) :
    linkAlias seed hop = hopAlias seed hop := by
  have hword : "_" ++ "item_xref_" = "_item_xref_" := by decide
  calc linkAlias seed hop
      = seed ++ ("_" ++ "item_xref_") ++ Decimal.natText hop := by
        simp only [linkAlias, seedName, String.append_assoc]
    _ = hopAlias seed hop := by
        rw [hword]
        rfl

theorem tokenText_tableColumn (dialect : Dialect) (aliasName : String) {column : String}
    (h : column ∈ fixedColumns) :
    tokenText dialect (Expr.tableColumn aliasName column).tokens =
      columnText dialect aliasName column := by
  rw [Expr.tableColumn, Expr.tokens, tokenText_name, tokenText_mark, tokenText_name,
    tokenText_nil, formatName_fixedColumn dialect h, String.append_empty, columnText,
    String.append_assoc]
  rfl

theorem tokenText_equal (dialect : Dialect) (left right : Expr) :
    tokenText dialect (Expr.binary .equal left right).tokens =
      tokenText dialect left.tokens ++ " = " ++ tokenText dialect right.tokens := by
  have hleft : ∀ expr tokens, Expr.operand .equal expr tokens = tokens :=
    fun expr tokens => if_neg (fun h => nomatch h.1)
  have hmark : tokenText dialect [.space, .mark .equal, .space] = " = " := by
    cases dialect <;> decide
  rw [Expr.tokens, hleft, hleft, tokenText_append, tokenText_append]
  exact congrArg (fun text => _ ++ text ++ _) hmark

theorem tokenText_table (dialect : Dialect) (table aliasName : String) :
    tokenText dialect (Source.table table (some aliasName)).tokens =
      tableText dialect table aliasName := by
  rw [Source.tokens, aliasTokens, Token.spaced, tokenText_name, tokenText_space, tokenText_name,
    tokenText_nil, String.append_empty, tableText, String.append_assoc]

theorem tokenText_join (dialect : Dialect) (table aliasName : String) (left right : Expr) :
    tokenText dialect (.space :: (Join.on .inner (.table table (some aliasName))
      (.binary .equal left right)).tokens) =
      " INNER JOIN " ++ tableText dialect table aliasName ++ " ON " ++
        tokenText dialect left.tokens ++ " = " ++ tokenText dialect right.tokens := by
  have hjoin : tokenText dialect
      [.space, .keyword .INNER, .space, .keyword .JOIN, .space] = " INNER JOIN " := by
    cases dialect <;> decide
  have hon : tokenText dialect [.space, .keyword .ON, .space] = " ON " := by
    cases dialect <;> decide
  have htokens : .space :: (Join.on .inner (.table table (some aliasName))
      (.binary .equal left right)).tokens =
      [.space, .keyword .INNER, .space, .keyword .JOIN, .space] ++
        (Source.table table (some aliasName)).tokens ++ [.space, .keyword .ON, .space] ++
        (Expr.binary .equal left right).tokens := by
    simp [Join.tokens, JoinKind.keyword]
  rw [htokens, tokenText_append, tokenText_append, tokenText_append, hjoin, tokenText_table,
    hon, tokenText_equal]
  simp only [String.append_assoc]

/-- The column that a path has come to behind the hops it has crossed. -/
def endColumn (start : Expr) (seed : String) (crossed : RelationshipPath) : Expr :=
  match crossed.getLast? with
  | none => start
  | some direction => .tableColumn (linkAlias seed crossed.length) direction.toColumn

theorem fromColumn_mem (direction : Direction) : direction.fromColumn ∈ fixedColumns := by
  cases direction <;> decide

theorem toColumn_mem (direction : Direction) : direction.toColumn ∈ fixedColumns := by
  cases direction <;> decide

theorem tokenText_endColumn (dialect : Dialect) (start : Expr) (seed : String)
    (crossed : RelationshipPath) :
    tokenText dialect (endColumn start seed crossed).tokens =
      endText dialect (tokenText dialect start.tokens) seed crossed := by
  unfold endColumn endText
  split
  · rfl
  · rename_i direction hlast
    rw [tokenText_tableColumn dialect _ (toColumn_mem direction), linkAlias_eq_hopAlias]

/-- The joins of the hops behind the crossed ones: each starts where the hop before it
ended, and so does whatever stands behind them. -/
theorem linkJoins_behind (dialect : Dialect) (links seed : String) (start : Expr)
    (crossed rest : RelationshipPath) :
    (linkJoins links seed (crossed.length + 1) rest (endColumn start seed crossed)).2 =
        endColumn start seed (crossed ++ rest) ∧
      tokenText dialect (Join.listTokens
          (linkJoins links seed (crossed.length + 1) rest (endColumn start seed crossed)).1) =
        String.join ((rest.zipIdx crossed.length).map fun hop =>
          hopText dialect links (tokenText dialect start.tokens) seed
            ((crossed ++ rest).take hop.2) hop.1) := by
  induction rest generalizing crossed with
  | nil =>
      rw [List.append_nil]
      exact ⟨rfl, rfl⟩
  | cons direction rest ih =>
      have hend : endColumn start seed (crossed ++ [direction]) =
          .tableColumn (linkAlias seed (crossed.length + 1)) direction.toColumn := by
        simp [endColumn]
      obtain ⟨hlast, htext⟩ := ih (crossed ++ [direction])
      rw [hend, List.length_append, List.length_singleton, List.append_assoc,
        List.singleton_append] at hlast htext
      refine ⟨hlast, ?_⟩
      rw [linkJoins, Join.listTokens, List.zipIdx_cons, List.map_cons, String.join_cons,
        List.take_left, tokenText_append, tokenText_join, htext,
        tokenText_tableColumn dialect _ (fromColumn_mem direction), tokenText_endColumn,
        linkAlias_eq_hopAlias]
      delta hopText
      rfl

theorem listTokens_append (front back : List Join) :
    Join.listTokens (front ++ back) = Join.listTokens front ++ Join.listTokens back := by
  induction front with
  | nil => rfl
  | cons join rest ih => rw [List.cons_append, Join.listTokens, Join.listTokens, ih,
      List.append_assoc]

theorem template_eq (dialect : Dialect) (tables : TableNames) (path : RelationshipPath)
    (seed : String) (source : PathSource) :
    template dialect tables path seed source =
      textFrom dialect tables path seed (source.table tables)
        (seedName seed source.aliasSuffix) source.itemColumn source.idColumn := by
  have hvalue : seedName seed "value" = seed ++ "_value" := by
    rw [seedName, String.append_assoc]
    rfl
  have hitem : seedName seed "item" = seed ++ "_item" := by
    rw [seedName, String.append_assoc]
    rfl
  cases source with
  | fieldValue table field => rw [PathSource.aliasSuffix, hvalue, template]; rfl
  | objectItem object => rw [PathSource.aliasSuffix, hitem, template]; rfl

theorem itemColumn_mem (source : PathSource) : source.itemColumn ∈ fixedColumns := by
  cases source <;> simp [PathSource.itemColumn, fixedColumns]

theorem idColumn_mem (source : PathSource) : source.idColumn ∈ fixedColumns := by
  cases source <;> simp [PathSource.idColumn, fixedColumns]

/-- A plain SELECT is written clause by clause. -/
theorem sql_select (dialect : Dialect) (column : String) (source : Source) (joins : List Join)
    (condition : Expr) :
    (Query.select [.column none column] (some source) joins (some condition)).sql dialect =
      "SELECT " ++ dialect.formatName column ++ " FROM " ++ tokenText dialect source.tokens ++
        tokenText dialect (Join.listTokens joins) ++ " WHERE " ++
        tokenText dialect condition.tokens := by
  have hselect : tokenText dialect [.keyword .SELECT, .space] = "SELECT " := by
    cases dialect <;> decide
  have hcolumn : tokenText dialect [.name column] = dialect.formatName column := by
    rw [tokenText_name, tokenText_nil, String.append_empty]
  have hfrom : tokenText dialect [.space, .keyword .FROM, .space] = " FROM " := by
    cases dialect <;> decide
  have hwhere : tokenText dialect [.space, .keyword .WHERE, .space] = " WHERE " := by
    cases dialect <;> decide
  have htokens : (Query.select [.column none column] (some source) joins (some condition)).tokens =
      [.keyword .SELECT, .space] ++ [.name column] ++ [.space, .keyword .FROM, .space] ++
        source.tokens ++ Join.listTokens joins ++ [.space, .keyword .WHERE, .space] ++
        condition.tokens := by
    simp [Query.tokens, Expr.listTokens, Expr.tokens]
  rw [Query.sql, htokens]
  simp only [tokenText_append, hselect, hcolumn, hfrom, hwhere]

theorem tokenText_contactJoin (dialect : Dialect) (contacts seed : String) (last : Expr) :
    tokenText dialect (Join.listTokens [.on .inner (.table contacts (some (contactAliasOf seed)))
      (.binary .equal last (.tableColumn (contactAliasOf seed) "custom_item_id"))]) =
      contactText dialect contacts seed (tokenText dialect last.tokens) := by
  have hcontact : contactAliasOf seed = seed ++ "_contact" := by
    have hword : "_" ++ "contact" = "_contact" := by decide
    rw [contactAliasOf, seedName, String.append_assoc, hword]
  rw [Join.listTokens, Join.listTokens, List.append_nil, tokenText_join,
    tokenText_tableColumn dialect _ (by decide), hcontact]
  delta contactText
  rfl

theorem tokenText_routeJoins (dialect : Dialect) (tables : TableNames) (path : RelationshipPath)
    (source : PathSource) (seed : String) :
    tokenText dialect (Join.listTokens (routeJoins tables path source seed)) =
      String.join (path.zipIdx.map fun hop =>
        hopText dialect tables.itemItem
          (columnText dialect (seedName seed source.aliasSuffix) source.itemColumn) seed
          (path.take hop.2) hop.1) ++
      contactText dialect tables.itemContact seed
        (endText dialect (columnText dialect (seedName seed source.aliasSuffix)
          source.itemColumn) seed path) := by
  have hstart := tokenText_tableColumn dialect (seedName seed source.aliasSuffix)
    (itemColumn_mem source)
  obtain ⟨hlast, hjoins⟩ := linkJoins_behind dialect tables.itemItem seed
    (.tableColumn (seedName seed source.aliasSuffix) source.itemColumn) [] path
  rw [hstart] at hjoins
  rw [routeJoins, listTokens_append, tokenText_append, tokenText_contactJoin, ← hstart,
    ← tokenText_endColumn, hstart]
  exact congrArg₂ _ hjoins (congrArg _ (congrArg _ (congrArg Expr.tokens hlast)))

/-- The text of a fragment is the template, filled in with its path. -/
theorem sql_build (dialect : Dialect) (tables : TableNames) (path : RelationshipPath)
    (source : PathSource) (seed : String) :
    (build tables path source seed).query.sql dialect =
      template dialect tables path seed source := by
  have hopening : "SELECT " ++ "contact_id" ++ " FROM " = "SELECT contact_id FROM " := by decide
  have hparam : tokenText dialect (Expr.param (seedName seed source.idColumn)).tokens =
      dialect.formatParam (seedName seed source.idColumn) := by
    rw [Expr.tokens, tokenText_param, tokenText_nil, String.append_empty]
  have hquery : (build tables path source seed).query =
      .select [.column none "contact_id"] (some (routeStart tables source seed))
        (routeJoins tables path source seed)
        (some (.binary .equal (.tableColumn (seedName seed source.aliasSuffix) source.idColumn)
          (.param (seedName seed source.idColumn)))) := rfl
  rw [hquery, sql_select, routeStart, tokenText_table, tokenText_routeJoins, tokenText_equal,
    tokenText_tableColumn dialect _ (idColumn_mem source), hparam,
    formatName_fixedColumn dialect (by decide), hopening, template_eq]
  delta textFrom
  simp only [seedName, String.append_assoc]

end Fragment

theorem intercalate_cons (separator first : String) (rest : List String) :
    separator.intercalate (first :: rest) = first ++ String.join (rest.map (separator ++ ·)) := by
  induction rest generalizing first with
  | nil => simp
  | cons next rest ih =>
      rw [String.intercalate_cons_cons, ih, List.map_cons, String.join_cons]
      simp only [String.append_assoc]

namespace Query

variable (dialect : Dialect)

theorem tokenText_branch {query : Query} (hplain : query.isUnion = false) :
    tokenText dialect (branch query query.tokens) = query.sql dialect := by
  rw [branch, hplain]
  rfl

/-- Branches behind the second one are written with UNION ALL in front. -/
theorem tokenText_restTokens {queries : List Query}
    (hplain : ∀ query ∈ queries, query.isUnion = false) :
    tokenText dialect (restTokens queries) =
      String.join (queries.map fun query => " UNION ALL " ++ query.sql dialect) := by
  have hunion : tokenText dialect unionTokens = " UNION ALL " := by cases dialect <;> decide
  induction queries with
  | nil => rfl
  | cons query rest ih =>
      obtain ⟨hquery, hrest⟩ := List.forall_mem_cons.mp hplain
      rw [restTokens, tokenText_append, tokenText_append, hunion, tokenText_branch dialect hquery,
        ih hrest, List.map_cons, String.join_cons]

/-- Plain SELECTs are written one after the other, with UNION ALL between them and nothing
around them. -/
theorem sql_ofBranches? {queries : List Query}
    (hplain : ∀ query ∈ queries, query.isUnion = false) {query : Query}
    (h : ofBranches? queries = some query) :
    query.sql dialect = " UNION ALL ".intercalate (queries.map (sql dialect)) := by
  match queries with
  | [] => cases h
  | [only] =>
      cases h
      rw [List.map_singleton, String.intercalate_singleton]
  | first :: second :: rest =>
      cases h
      obtain ⟨hfirst, hbehind⟩ := List.forall_mem_cons.mp hplain
      have htokens : (Query.unionAll first second rest).tokens =
          branch first first.tokens ++ restTokens (second :: rest) := by
        simp [tokens, restTokens]
      rw [List.map_cons, intercalate_cons, List.map_map, sql, htokens, tokenText_append,
        tokenText_branch dialect hfirst, tokenText_restTokens dialect hbehind]
      rfl

end Query

namespace FragmentUnion

/-- The text of a fragment is its template, byte for byte, and the text of a compiled filter
is that of its fragments in order, with UNION ALL between them. -/
theorem text_follows_template (dialect : Dialect) :
    (∀ (tables : TableNames) (path : RelationshipPath) (source : PathSource) (seed : String),
      (Fragment.build tables path source seed).query.sql dialect =
        Fragment.template dialect tables path seed source) ∧
    ∀ (dispatcher : Dispatcher) (filter : SegmentFilter) (seed : String)
      (restriction : ContactRestriction) (union : FragmentUnion),
      dispatcher.build filter seed restriction = .ok union →
      ∃ params, union.render dialect = .ok (" UNION ALL ".intercalate
        (union.fragments.map fun fragment => fragment.query.sql dialect), params) := by
  refine ⟨Fragment.sql_build dialect, ?_⟩
  intro dispatcher filter seed restriction union hbuild
  obtain ⟨built, _, rfl⟩ :=
    BuiltFilter.exists_of_build ⟨filter, "", seed, restriction⟩ hbuild
  have hplain : ∀ query ∈ built.union.fragments.map Fragment.query, query.isUnion = false := by
    intro query hquery
    obtain ⟨fragment, hfragment, rfl⟩ := List.mem_map.mp hquery
    obtain ⟨path, index, rfl⟩ := built.eq_fragment_of_mem hfragment
    rfl
  refine ⟨built.params, ?_⟩
  rw [built.render_union, Query.sql_ofBranches? dialect hplain (ofBranches_of_query built.hasQuery),
    List.map_map]
  rfl

end FragmentUnion

example : Fragment.hopText .mysql "Links" "f_item.id" "f" [.lowerToHigher] .higherToLower =
    " INNER JOIN \x60Links\x60 f_item_xref_2 ON f_item_xref_2.custom_item_id_higher = " ++
      "f_item_xref_1.custom_item_id_higher" := by
  decide +kernel

namespace Products

/-- Builds filters over direct paths and over up to two links. -/
def linkDispatcher : Dispatcher :=
  ⟨⟨catalog.metadata, .standard, .perFragment⟩, none⟩

/-- The seven fragments for a price of 5, for one contact. -/
theorem price_text :
    ∃ union params, linkDispatcher.build (.customField .and ⟨3, some ⟨.eq, .single (.int 5)⟩⟩) "f"
        (.contact 7) = .ok union ∧ union.count = 7 ∧
      union.render .duckdb = .ok (" UNION ALL ".intercalate
        (union.fragments.map fun fragment => fragment.query.sql .duckdb), params) := by
  obtain ⟨union, hbuild, hcount⟩ : ∃ union, linkDispatcher.build
      (.customField .and ⟨3, some ⟨.eq, .single (.int 5)⟩⟩) "f" (.contact 7) = .ok union ∧
        union.count = 7 := ⟨_, rfl, rfl⟩
  obtain ⟨params, hrender⟩ :=
    (FragmentUnion.text_follows_template .duckdb).2 _ _ _ _ union hbuild
  exact ⟨union, params, hbuild, hcount, hrender⟩

end Products

end SegmentPaths

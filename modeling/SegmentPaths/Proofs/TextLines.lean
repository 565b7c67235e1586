/-
The lines of texts.  The names that a compiled filter makes stay on one line, and with
a table prefix that does so the whole statement stays on one line, whatever its values.
-/
import SegmentPaths.Proofs.FragmentText
import SegmentPaths.CommandLine.Run

namespace SegmentPaths

/-- The lines of a text: what stands between its line ends. -/
def lines (text : String) : List String := (text.toList.splitOn '\n').map String.ofList

/-- Whether a text has no line end. -/
def OneLine (text : String) : Prop := '\n' ∉ text.toList

theorem lines_of_oneLine {text : String} (h : OneLine text) : lines text = [text] := by
  rw [lines, List.splitOn_eq_singleton h, List.map_singleton, String.ofList_toList]

/-- A line end separates what stands on both sides of it. -/
theorem lines_append_newline (front back : String) :
    lines (front ++ "\n" ++ back) = lines front ++ lines back := by
  have hchars : (front ++ "\n" ++ back).toList = front.toList ++ '\n' :: back.toList := by
    simp
  rw [lines, hchars, List.splitOn_append_cons_self, List.map_append]
  rfl

/-- Each text adds its lines, and nothing stands behind the last line end. -/
theorem lines_unlines (texts : List String) :
    lines (unlines texts) = texts.flatMap lines ++ [""] := by
  induction texts with
  | nil => rfl
  | cons text rest ih =>
      have hcons : unlines (text :: rest) = text ++ "\n" ++ unlines rest := by
        rw [unlines, List.map_cons, String.join_cons]
        rfl
      rw [hcons, lines_append_newline, ih, List.flatMap_cons, List.append_assoc]

/-- What stands on one line goes on in the first line of what follows. -/
theorem lines_append_of_oneLine {front : String} (h : OneLine front) (back : String) :
    lines (front ++ back) = (front ++ (lines back).headD "") :: (lines back).tail := by
  obtain ⟨first, rest, hsplit⟩ := List.exists_cons_of_ne_nil (List.splitOn_ne_nil '\n' back.toList)
  have hfront : ∀ cs : List Char, '\n' ∉ cs →
      (cs ++ back.toList).splitOn '\n' = (cs ++ first) :: rest := by
    intro cs hcs
    induction cs with
    | nil => exact hsplit
    | cons c cs ih =>
        obtain ⟨hc, hcs⟩ := List.ne_and_not_mem_of_not_mem_cons hcs
        have hsep : (c == '\n') = false := beq_false_of_ne hc.symm
        rw [List.cons_append, List.splitOn_eq_splitOnP, List.splitOnP_cons_eq_if_modifyHead, hsep,
          ← List.splitOn_eq_splitOnP, ih hcs]
        rfl
  rw [lines, lines, hsplit, String.toList_append, hfront _ h]
  simp [String.ofList_append]

namespace OneLine

instance (text : String) : Decidable (OneLine text) :=
  inferInstanceAs (Decidable ('\n' ∉ text.toList))

@[simp]
theorem append_iff {left right : String} :
    OneLine (left ++ right) ↔ OneLine left ∧ OneLine right := by
  rw [OneLine, String.toList_append, List.mem_append, not_or]
  exact Iff.rfl

theorem of_forall {text : String} {allowed : Char → Bool}
    (hall : text.toList.all allowed = true) (hend : allowed '\n' = false) : OneLine text := by
  intro hmem
  rw [List.all_eq_true.mp hall _ hmem] at hend
  cases hend

@[simp]
theorem natText (n : Nat) : OneLine (Decimal.natText n) :=
  of_forall (List.all_eq_true.mpr fun c hc =>
    Nat.isDigit_of_mem_toDigits (by decide) (by decide) (Names.toList_natText n ▸ hc)) rfl

theorem of_isSeed {seed : String} (h : isSeed seed = true) : OneLine seed := by
  unfold isSeed at h
  split at h
  · cases h
  · rename_i first rest hseed
    obtain ⟨hfirst, hrest⟩ := Bool.and_eq_true_iff.mp h
    have hstart : first ≠ '\n' := by
      rintro rfl
      exact absurd hfirst (by decide)
    have hmore : '\n' ∉ rest := fun hmem =>
      absurd (List.all_eq_true.mp hrest _ hmem) (by decide)
    rw [OneLine, hseed, List.mem_cons, not_or]
    exact ⟨hstart.symm, hmore⟩

theorem tagText (tag : Tag) : OneLine tag.text := by
  have hword : ∀ word : TagWord, OneLine word.text := by
    intro word
    cases word <;> decide
  have hmark : OneLine "_" := by decide
  obtain ⟨word, index⟩ := tag
  cases index <;> simp [Tag.text, hword, hmark]

/-- The names under a seed stay on one line with it. -/
theorem under {seed : String} (h : OneLine seed) (tag : Tag) : OneLine (tag.under seed) := by
  have hmark : OneLine "_" := by decide
  simp [Tag.under, seedName, h, hmark, tagText tag]

theorem seedFor {seed : String} (h : OneLine seed) (scope : AliasScope) (index : Nat) :
    OneLine (scope.seedFor seed index) := by
  have hmark : OneLine "_" := by decide
  cases scope with
  | perFragment =>
      rw [AliasScope.seedFor]
      split
      · simp [seedName, h, hmark]
      · exact h
  | shared => exact h

theorem of_mem_fixedColumns {column : String} (h : column ∈ fixedColumns) : OneLine column := by
  have hall : ∀ column ∈ fixedColumns, OneLine column := by decide
  exact hall column h

theorem table {tables : TableNames} (h : OneLine tables.tablePrefix) {name : String}
    (hname : OneLine name) : OneLine (tables.table name) :=
  append_iff.mpr ⟨h, hname⟩

/-- Every table with values stays on one line with the prefix. -/
theorem valueTable {tables : TableNames} (h : OneLine tables.tablePrefix) {typeKey name : String}
    (htable : tables.valueTable typeKey = .ok name) : OneLine name := by
  obtain ⟨type, _, rfl⟩ := exists_of_map_ok htable
  refine table h ?_
  cases type.valueKind <;> decide

end OneLine

namespace Token

/-- The text that a token is made from; the other tokens are always spelled the same. -/
def given? : Token → Option String
  | .name ident | .param ident => some ident
  | .text value => some value
  | .keyword _ | .mark _ | .space | .int _ => none

/-- Whether a token stays on one line. -/
def OneLine (token : Token) : Prop := ∀ text ∈ token.given?, SegmentPaths.OneLine text

theorem newline_notMem_doubled {mark : Char} {cs : List Char} (h : '\n' ∉ cs) :
    '\n' ∉ doubled mark cs := by
  induction cs with
  | nil => exact h
  | cons c rest ih =>
      obtain ⟨hc, hrest⟩ := List.ne_and_not_mem_of_not_mem_cons h
      unfold doubled
      split <;> simp [hc, ih hrest]

theorem newline_notMem_enclosed {mark : Char} {cs : List Char} (hmark : mark ≠ '\n')
    (h : '\n' ∉ cs) : '\n' ∉ enclosed mark cs := by
  simp [enclosed, hmark.symm, newline_notMem_doubled h]

theorem newline_notMem_chars (dialect : Dialect) {token : Token} (h : token.OneLine) :
    '\n' ∉ token.chars dialect := by
  cases token with
  | keyword word => cases word <;> cases dialect <;> decide
  | mark sign => cases sign <;> cases dialect <;> decide
  | space => simp [chars]
  | name ident =>
      have hident : '\n' ∉ ident.toList := h ident rfl
      rw [chars, Dialect.nameChars]
      split
      · exact hident
      · exact newline_notMem_enclosed (by cases dialect <;> decide) hident
  | param ident =>
      have hmark : '\n' ≠ dialect.paramMark := by cases dialect <;> decide
      exact List.not_mem_cons_of_ne_of_not_mem hmark (h ident rfl)
  | int value =>
      have hdigit : ∀ n, '\n' ∉ Nat.toDigits 10 n := fun n hmem =>
        absurd (Nat.isDigit_of_mem_toDigits (by decide) (by decide) hmem) (by decide)
      rw [chars, Decimal.chars]
      split
      · exact List.not_mem_cons_of_ne_of_not_mem (by decide) (hdigit _)
      · exact hdigit _
  | text value =>
      have hvalue : '\n' ∉ value.toList := h value rfl
      cases dialect with
      | mysql => exact newline_notMem_enclosed (by decide) (newline_notMem_doubled hvalue)
      | postgres | duckdb => exact newline_notMem_enclosed (by decide) hvalue

end Token

/-- Tokens that stay on one line are written on one line. -/
theorem oneLine_tokenText (dialect : Dialect) {tokens : List Token}
    (h : ∀ token ∈ tokens, token.OneLine) : OneLine (tokenText dialect tokens) := by
  rw [OneLine, tokenText, String.toList_ofList, tokenChars, List.mem_flatMap]
  rintro ⟨token, htoken, hend⟩
  exact Token.newline_notMem_chars dialect (h token htoken) hend

namespace Expr

/-- Whether an expression is written on one line. -/
def OneLine (expr : Expr) : Prop := ∀ token ∈ expr.tokens, token.OneLine

@[simp]
theorem oneLine_tableColumn (table name : String) :
    (tableColumn table name).OneLine ↔
      SegmentPaths.OneLine table ∧ SegmentPaths.OneLine name := by
  simp [OneLine, tableColumn, tokens, Token.OneLine, Token.given?]

@[simp]
theorem oneLine_param (name : String) : (param name).OneLine ↔ SegmentPaths.OneLine name := by
  simp [OneLine, tokens, Token.OneLine, Token.given?]

@[simp]
theorem oneLine_text (value : String) : (text value).OneLine ↔ SegmentPaths.OneLine value := by
  simp [OneLine, tokens, Token.OneLine, Token.given?]

theorem oneLine_operand (op : BinaryOp) (expr : Expr) :
    (∀ token ∈ operand op expr expr.tokens, token.OneLine) ↔ expr.OneLine := by
  unfold operand OneLine
  split <;> simp [Token.parenthesized, Token.OneLine, Token.given?, or_imp, forall_and]

@[simp]
theorem oneLine_binary (op : BinaryOp) (left right : Expr) :
    (binary op left right).OneLine ↔ left.OneLine ∧ right.OneLine := by
  have hop : op.token.OneLine := by
    cases op <;> simp [BinaryOp.token, Token.OneLine, Token.given?]
  have hspace : Token.space.OneLine := fun text h => nomatch h
  rw [← oneLine_operand op left, ← oneLine_operand op right]
  simp [OneLine, tokens, or_imp, forall_and, hop, hspace]

@[simp]
theorem oneLine_notNull (subject : Expr) : (notNull subject).OneLine ↔ subject.OneLine := by
  simp [OneLine, tokens, Token.spaced, Token.OneLine, Token.given?, or_imp, forall_and]

@[simp]
theorem oneLine_likeEscaped (subject pattern : Expr) :
    (likeEscaped subject pattern).OneLine ↔ subject.OneLine ∧ pattern.OneLine := by
  have hescape : SegmentPaths.OneLine (String.singleton patternEscape) := by decide
  simp [OneLine, tokens, Token.OneLine, Token.given?, or_imp, forall_and, hescape]

theorem oneLine_listTokens (exprs : List Expr) :
    (∀ token ∈ listTokens exprs, token.OneLine) ↔ ∀ expr ∈ exprs, expr.OneLine := by
  induction exprs with
  | nil => simp [listTokens]
  | cons expr rest ih =>
      cases rest with
      | nil => simp [listTokens, OneLine]
      | cons next rest =>
          have hbetween : ∀ token ∈ [Token.mark .comma, .space], token.OneLine := by
            simp [Token.OneLine, Token.given?]
          rw [listTokens, List.forall_mem_append, List.forall_mem_append, ih,
            iff_true_intro hbetween, and_true]
          exact (List.forall_mem_cons (p := OneLine)).symm

@[simp]
theorem oneLine_inList (subject : Expr) (values : List Expr) :
    (inList subject values).OneLine ↔ subject.OneLine ∧ ∀ value ∈ values, value.OneLine := by
  rw [← oneLine_listTokens]
  simp [OneLine, tokens, Token.parenthesized, Token.OneLine, Token.given?, or_imp, forall_and]

theorem oneLine_foldl (op : BinaryOp) (first : Expr) (rest : List Expr) :
    (rest.foldl (Expr.binary op) first).OneLine ↔
      first.OneLine ∧ ∀ expr ∈ rest, expr.OneLine := by
  induction rest generalizing first with
  | nil => simp
  | cons next rest ih => simp [ih, and_assoc]

end Expr

/-- The condition of an operator is written on one line if its column and its names are. -/
theorem Operator.oneLine_form {op : Operator} {count : Nat} (type : FieldType)
    (htakes : op.Takes count) {column : Expr} (hcolumn : column.OneLine) {stem : String}
    (hstem : OneLine stem) : (op.form type column stem count).OneLine := by
  have hempty : OneLine "" := by decide
  have hmark : OneLine "_" := by decide
  rcases form_cases type htakes column stem .value with
    ⟨_, hform | hform⟩ | ⟨_, _, hform⟩ | ⟨_, hform | ⟨comparison, hform⟩⟩
  · simpa [hform] using hcolumn
  · simpa [hform, hempty] using hcolumn
  · simp [hform, hcolumn, ValueCondition.listName, hstem, hmark]
  · simpa [hform, hstem] using hcolumn
  · simpa [hform, hstem] using hcolumn

theorem Target.oneLine_demand {target : Target} (hfits : target.Fits)
    (restriction : ContactRestriction) {seed : String} (hseed : OneLine seed) :
    (target.demand restriction seed).OneLine := by
  have hid := OneLine.of_mem_fixedColumns (Fragment.idColumn_mem target.source)
  have hcompared : OneLine target.source.comparedColumn := by
    cases target.source <;> simp only [PathSource.comparedColumn] <;> decide
  have hcontact : OneLine "contact_id" := by decide
  rw [demand, Expr.oneLine_foldl, PathSource.seedName_aliasSuffix, PathSource.seedName_idColumn]
  refine ⟨by simp [hseed.under, hid], ?_⟩
  intro expr hexpr
  rcases List.mem_append.mp hexpr with hexpr | hexpr
  · rcases conditionDemands_cases seed hfits with
      ⟨hdemands, _⟩ | ⟨op, type, htakes, hdemands, _⟩
    · rw [hdemands] at hexpr
      cases hexpr
    · rw [hdemands, List.mem_singleton] at hexpr
      rw [hexpr, PathSource.seedName_aliasSuffix]
      refine Operator.oneLine_form type htakes ?_ (hseed.under _)
      simp [hseed.under, hcompared]
  · cases restriction with
    | allContacts => cases hexpr
    | contact id =>
        rw [List.mem_singleton.mp hexpr, Fragment.contactAliasOf_eq_under,
          Fragment.seedName_contactId]
        simp [hseed.under, hcontact]

/-- Whether a join is written on one line. -/
def Join.OneLine (join : Join) : Prop := ∀ token ∈ join.tokens, token.OneLine

theorem Source.oneLine_table {name aliasName : String} (hname : OneLine name)
    (halias : OneLine aliasName) :
    ∀ token ∈ (Source.table name (some aliasName)).tokens, token.OneLine := by
  simp [tokens, aliasTokens, Token.spaced, Token.OneLine, Token.given?, hname, halias]

theorem oneLine_tableJoin (kind : JoinKind) {name aliasName : String} (hname : OneLine name)
    (halias : OneLine aliasName) {condition : Expr} (hcondition : condition.OneLine) :
    (Join.on kind (.table name (some aliasName)) condition).OneLine := by
  have hfixed : ∀ word, (Token.keyword word).OneLine := fun word text htext => nomatch htext
  have hspace : Token.space.OneLine := fun text htext => nomatch htext
  intro token htoken
  simp only [Join.tokens, List.mem_append, List.mem_cons, List.not_mem_nil, or_false,
    or_assoc] at htoken
  rcases htoken with rfl | rfl | rfl | rfl | htoken | rfl | rfl | rfl | htoken
  case inr.inr.inr.inr.inl => exact Source.oneLine_table hname halias token htoken
  case inr.inr.inr.inr.inr.inr.inr.inr => exact hcondition token htoken
  all_goals simp [hfixed, hspace]

theorem oneLine_joinTokens {joins : List Join} (h : ∀ join ∈ joins, join.OneLine) :
    ∀ token ∈ Join.listTokens joins, token.OneLine := by
  induction joins with
  | nil => simp [Join.listTokens]
  | cons join rest ih =>
      obtain ⟨hjoin, hrest⟩ := List.forall_mem_cons.mp h
      intro token htoken
      simp only [Join.listTokens, List.cons_append, List.mem_cons, List.mem_append] at htoken
      rcases htoken with rfl | htoken | htoken
      · exact fun text htext => nomatch htext
      · exact hjoin token htoken
      · exact ih hrest token htoken

namespace Fragment

/-- Each hop is joined on one line, and so is what ends at the column behind the last. -/
theorem oneLine_linkJoins {links seed : String} (hlinks : OneLine links) (hseed : OneLine seed)
    (index : Nat) (path : RelationshipPath) {previous : Expr} (hprevious : previous.OneLine) :
    (∀ join ∈ (linkJoins links seed index path previous).1, join.OneLine) ∧
      (linkJoins links seed index path previous).2.OneLine := by
  induction path generalizing index previous with
  | nil => exact ⟨List.forall_mem_nil _, hprevious⟩
  | cons direction rest ih =>
      have hfrom := OneLine.of_mem_fixedColumns (fromColumn_mem direction)
      have hto := OneLine.of_mem_fixedColumns (toColumn_mem direction)
      have halias : OneLine (linkAlias seed index) := linkAlias_eq_under seed index ▸ hseed.under _
      have hend : (Expr.tableColumn (linkAlias seed index) direction.toColumn).OneLine := by
        simp [halias, hto]
      obtain ⟨hjoins, hlast⟩ := ih (index + 1) hend
      refine ⟨List.forall_mem_cons.mpr ⟨?_, hjoins⟩, hlast⟩
      exact oneLine_tableJoin .inner hlinks halias (by simp [halias, hfrom, hprevious])

theorem oneLine_routeJoins {tables : TableNames} (htables : OneLine tables.tablePrefix)
    (path : RelationshipPath) (source : PathSource) {seed : String} (hseed : OneLine seed) :
    ∀ join ∈ routeJoins tables path source seed, join.OneLine := by
  have hitem := OneLine.of_mem_fixedColumns (itemColumn_mem source)
  have hcontact := contactAliasOf_eq_under seed ▸ hseed.under ⟨.contact, none⟩
  have hcolumn : OneLine "custom_item_id" := by decide
  have hlinks : OneLine tables.itemItem := htables.table (by decide)
  have hcontacts : OneLine tables.itemContact := htables.table (by decide)
  have hstart : (Expr.tableColumn (seedName seed source.aliasSuffix) source.itemColumn).OneLine := by
    simp [source.seedName_aliasSuffix, hseed.under, hitem]
  obtain ⟨hjoins, hlast⟩ := oneLine_linkJoins hlinks hseed 1 path hstart
  intro join hjoin
  rcases List.mem_append.mp hjoin with hjoin | hjoin
  · exact hjoins join hjoin
  · rw [List.mem_singleton.mp hjoin]
    exact oneLine_tableJoin .inner hcontacts hcontact (by simp [hlast, hcontact, hcolumn])

end Fragment

/-- A fragment is written on one line, behind its first keyword. -/
theorem Target.fragment_sql {target : Target} (hfits : target.Fits) {tables : TableNames}
    (htables : OneLine tables.tablePrefix) (htable : OneLine (target.source.table tables))
    (restriction : ContactRestriction) {seed : String} (hseed : OneLine seed)
    (path : RelationshipPath) (dialect : Dialect) :
    ∃ rest, OneLine rest ∧
      (target.fragment tables restriction seed path).query.sql dialect = "SELECT " ++ rest := by
  have hsource := oneLine_tokenText dialect (Source.oneLine_table htable
    (target.source.seedName_aliasSuffix seed ▸ hseed.under target.source.aliasTag))
  have hjoins := oneLine_tokenText dialect
    (oneLine_joinTokens (Fragment.oneLine_routeJoins htables path target.source hseed))
  have hdemand := oneLine_tokenText dialect (oneLine_demand hfits restriction hseed)
  have hcolumn : OneLine (dialect.formatName "contact_id") := by cases dialect <;> decide
  have hfrom : OneLine " FROM " := by decide
  have hwhere : OneLine " WHERE " := by decide
  have hsql := Fragment.sql_select dialect "contact_id"
    (Fragment.routeStart tables target.source seed)
    (Fragment.routeJoins tables path target.source seed) (target.demand restriction seed)
  simp only [String.append_assoc] at hsql
  refine ⟨_, ?_, hsql⟩
  simp only [OneLine.append_iff]
  exact ⟨hcolumn, hfrom, hsource, hjoins, hwhere, hdemand⟩

theorem OneLine.join {texts : List String} (h : ∀ text ∈ texts, OneLine text) :
    OneLine (String.join texts) := by
  induction texts with
  | nil => decide
  | cons text rest ih =>
      obtain ⟨htext, hrest⟩ := List.forall_mem_cons.mp h
      rw [String.join_cons, append_iff]
      exact ⟨htext, ih hrest⟩

namespace BuiltFilter

variable {dispatcher : Dispatcher} (built : BuiltFilter dispatcher)

/-- The statement of a filter is written on one line, behind its first keyword, if its seed
and the tables it reads are. -/
theorem sql_eq (hseed : OneLine built.seed)
    (htables : OneLine dispatcher.compiler.metadata.tables.tablePrefix)
    (htable : OneLine (built.target.source.table dispatcher.compiler.metadata.tables))
    (dialect : Dialect) :
    ∃ rest, OneLine rest ∧ built.query.sql dialect = "SELECT " ++ rest := by
  have hfragment : ∀ query ∈ built.union.fragments.map Fragment.query, query.isUnion = false ∧
      ∃ rest, OneLine rest ∧ query.sql dialect = "SELECT " ++ rest := by
    intro query hquery
    obtain ⟨fragment, hmem, rfl⟩ := List.mem_map.mp hquery
    obtain ⟨path, index, rfl⟩ := built.eq_fragment_of_mem hmem
    exact ⟨rfl, Target.fragment_sql built.fits htables htable built.restriction
      (hseed.seedFor _ index) path dialect⟩
  have hbranches := FragmentUnion.ofBranches_of_query built.hasQuery
  rw [Query.sql_ofBranches? dialect (fun query hquery => (hfragment query hquery).1) hbranches]
  generalize built.union.fragments.map Fragment.query = queries at hfragment hbranches
  cases queries with
  | nil => cases hbranches
  | cons first others =>
      obtain ⟨⟨_, rest, hrest, hfirst⟩, hothers⟩ := List.forall_mem_cons.mp hfragment
      rw [List.map_cons, intercalate_cons, hfirst, String.append_assoc]
      refine ⟨_, OneLine.append_iff.mpr ⟨hrest, OneLine.join ?_⟩, rfl⟩
      intro text htext
      obtain ⟨sql, hsql, rfl⟩ := List.mem_map.mp htext
      obtain ⟨query, hquery, rfl⟩ := List.mem_map.mp hsql
      obtain ⟨_, behind, hbehind, hquery⟩ := hothers query hquery
      rw [hquery]
      exact OneLine.append_iff.mpr ⟨by decide, OneLine.append_iff.mpr ⟨by decide, hbehind⟩⟩

/-- The names that a filter binds stay on one line with its seed. -/
theorem oneLine_name (hseed : OneLine built.seed) {name : String}
    (h : name ∈ built.params.keys) : OneLine name := by
  obtain ⟨index, tag, rfl⟩ := built.owns_of_mem_keys h
  exact (hseed.seedFor _ index).under tag

end BuiltFilter

end SegmentPaths

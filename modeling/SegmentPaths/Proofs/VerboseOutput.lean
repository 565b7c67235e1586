/-
The verbose output of the program, as a client reads it that passes over blank lines and
comments.  All that stands in front of the statement is meant as a comment, but a value is
printed as it is, so that its lines behind the first one are none.
-/
import SegmentPaths.Proofs.CatalogLookups
import SegmentPaths.Proofs.TextLines

namespace SegmentPaths

/-- Whether a line is a comment. -/
def isComment (line : String) : Bool := ['-', '-'].isPrefixOf line.toList

/-- Whether a client passes over a line: an empty one, or a comment. -/
def isIgnored (line : String) : Bool := line.isEmpty || isComment line

/-- The lines that a client reads of a text. -/
def statementLines (text : String) : List String :=
  (lines text).filter fun line => !isIgnored line

/-- What a client reads of a value that is printed in a comment. -/
def ParamValue.spilled (value : ParamValue) : List String :=
  (lines value.display).tail.filter fun line => !isIgnored line

section Comments

variable {front rest : String}

theorem isIgnored_append (h : isComment front = true) (rest : String) :
    isIgnored (front ++ rest) = true := by
  have hfront : ['-', '-'] <+: (front ++ rest).toList := by
    rw [String.toList_append]
    exact (List.isPrefixOf_iff_prefix.mp h).trans (List.prefix_append _ _)
  rw [isIgnored, isComment, List.isPrefixOf_iff_prefix.mpr hfront, Bool.or_true]

theorem isIgnored_select (rest : String) : isIgnored ("SELECT " ++ rest) = false := by
  have hfull : ("SELECT " ++ rest).isEmpty = false := by
    simp [String.append_eq_empty_iff]
  rw [isIgnored, hfull, isComment, String.toList_append]
  rfl

/-- Nothing is read of a comment that stays on its line. -/
theorem statementLines_comment (h : isComment front = true) (hfront : OneLine front)
    (hrest : OneLine rest) : statementLines (front ++ rest) = [] := by
  rw [statementLines, lines_of_oneLine (OneLine.append_iff.mpr ⟨hfront, hrest⟩)]
  simp [isIgnored_append h]

/-- A comment holds the first line of a value only. -/
theorem statementLines_value (h : isComment front = true) (hfront : OneLine front)
    (value : ParamValue) : statementLines (front ++ value.display) = value.spilled := by
  have hfirst := isIgnored_append h ((lines value.display).headD "")
  rw [statementLines, lines_append_of_oneLine hfront, List.filter_cons_of_neg (by rw [hfirst]; decide)]
  rfl

end Comments

namespace CompiledFilter

variable {compiled : CompiledFilter}

/-- What a client reads of the lines in front of a statement: the lines of the values that
the comments do not hold. -/
theorem statementLines_header (hnames : ∀ name ∈ compiled.params.keys, OneLine name) :
    compiled.header.flatMap statementLines =
      compiled.params.toList.flatMap fun bound => bound.2.spilled := by
  have hdialect : statementLines ("-- Dialect: " ++ compiled.dialect.name) = [] :=
    statementLines_comment (by decide) (by decide) (by cases compiled.dialect <;> decide)
  have hcount : statementLines ("-- Fragments: " ++ Decimal.natText compiled.fragments) = [] :=
    statementLines_comment (by decide) (by decide) (OneLine.natText _)
  have hnegated : statementLines "-- Negated: splice with NOT IN" = [] := by decide +kernel
  have hblank : statementLines "" = [] := by decide +kernel
  have hheader : compiled.header =
      ["-- Dialect: " ++ compiled.dialect.name,
        "-- Fragments: " ++ Decimal.natText compiled.fragments] ++
        (if compiled.negated then ["-- Negated: splice with NOT IN"] else []) ++
        compiled.params.toList.map
          (fun bound => "-- :" ++ bound.1 ++ " = " ++ bound.2.display) ++ [""] := rfl
  have hvalues : (compiled.params.toList.map fun bound =>
      "-- :" ++ bound.1 ++ " = " ++ bound.2.display).flatMap statementLines =
      compiled.params.toList.flatMap fun bound => bound.2.spilled := by
    rw [List.flatMap_map]
    apply List.flatMap_congr
    intro bound hbound
    have hname := hnames bound.1 (List.mem_map_of_mem hbound)
    have hopening : isComment ("-- :" ++ bound.1 ++ " = ") = true := by
      rw [isComment, String.toList_append, String.toList_append]
      rfl
    refine statementLines_value hopening ?_ bound.2
    exact OneLine.append_iff.mpr ⟨OneLine.append_iff.mpr ⟨by decide, hname⟩, by decide⟩
  simp only [hheader, List.flatMap_append, List.flatMap_cons, List.flatMap_nil, hdialect, hcount,
    hvalues, hblank, List.append_nil, List.nil_append]
  split <;> simp [hnegated]

/-- The lines of the verbose form of a statement on one line. -/
theorem lines_shown (hsql : OneLine compiled.sql) :
    lines (compiled.shown .verbose) = compiled.header.flatMap lines ++ [compiled.sql, ""] := by
  rw [shown, lines_unlines, List.flatMap_append, List.flatMap_singleton, lines_of_oneLine hsql,
    List.append_assoc]
  rfl

end CompiledFilter

section Settings

variable {settings : Settings}

theorem Settings.oneLine_ofSections {objects : ObjectSection} {sql : SqlSection}
    {path : Option String} (h : ofSections objects sql path = .ok settings) :
    OneLine settings.tablePrefix := by
  obtain ⟨depth, _, hrest⟩ := bind_eq_ok h
  split at hrest
  · rename_i htables
    cases hrest
    exact OneLine.of_forall htables (by decide)
  · cases hrest

theorem Settings.oneLine_read {source : String} (h : read source = .ok settings) :
    OneLine settings.tablePrefix := by
  unfold read at h
  split at h
  · cases h
  · rename_i objects sql path _
    cases hsections : ofSections objects sql path with
    | error problem =>
        rw [hsections] at h
        cases h
    | ok found =>
        rw [hsections] at h
        cases h
        exact oneLine_ofSections hsections

theorem Settings.oneLine_ofText {path : String} {text : FileText}
    (h : ofText path text = .ok settings) : OneLine settings.tablePrefix := by
  unfold ofText at h
  split at h
  · cases h
  · cases h
  · exact oneLine_read h

theorem Settings.oneLine_firstOf (host : Host Id) {paths : List String}
    (h : Id.run (firstOf host paths) = .ok settings) : OneLine settings.tablePrefix := by
  induction paths with
  | nil =>
      cases h
      decide
  | cons path rest ih =>
      rw [firstOf] at h
      generalize host.file path = text at h
      rcases text with (reason | reason) | source
      · exact ih h
      · exact oneLine_ofText (show ofText path (.error (.unreadable reason)) = _ from h)
      · exact oneLine_ofText (show ofText path (.ok source) = _ from h)

/-- However settings are found, their prefix stays on one line. -/
theorem Settings.oneLine_tablePrefix (host : Host Id) {config : Option String}
    (h : Id.run (ofPathOrLoad host config) = .ok settings) : OneLine settings.tablePrefix := by
  cases config with
  | some path => exact oneLine_ofText h
  | none =>
      rw [ofPathOrLoad, load] at h
      generalize host.setting "CUSTOM_OBJECTS_CONFIG" = named at h
      cases named with
      | some path => exact oneLine_ofText h
      | none => exact oneLine_firstOf host h

end Settings

/-- A catalog that is loaded has the tables of the settings. -/
theorem Catalog.tables_of_ofText {tables : TableNames} {path : String} {text : FileText}
    {catalog : Catalog} (h : ofText tables path text = .ok catalog) :
    catalog.tables = tables := by
  unfold ofText at h
  split at h
  · cases h
  · cases h
  · rename_i source
    unfold read at h
    split at h
    · cases h
    · rename_i objects _
      cases hnew : Catalog.new objects tables with
      | error problem =>
          rw [hnew] at h
          cases h
      | ok found =>
          rw [hnew] at h
          cases h
          exact (lists_of_new hnew).2

/-- A filter is built under a seed that is a name only. -/
theorem BuiltFilter.isSeed_seed {dispatcher : Dispatcher} (built : BuiltFilter dispatcher) :
    isSeed built.seed = true := by
  have hchecked : ∃ checked, checkSeed built.seed = .ok checked := by
    obtain ⟨union, hcompile, _⟩ := bind_eq_ok built.built
    cases hfilter : built.filter with
    | customField glue filter =>
        rw [hfilter] at hcompile
        obtain ⟨checked, hseed, _⟩ := bind_eq_ok hcompile
        exact ⟨checked, hseed⟩
    | customItem glue filter =>
        rw [hfilter] at hcompile
        obtain ⟨checked, hseed, _⟩ := bind_eq_ok hcompile
        exact ⟨checked, hseed⟩
    | native raw =>
        rw [hfilter] at hcompile
        cases hcompile
  obtain ⟨checked, hseed⟩ := hchecked
  unfold checkSeed at hseed
  split at hseed
  · assumption
  · cases hseed

theorem BuiltFilter.known {dispatcher : Dispatcher} (built : BuiltFilter dispatcher) :
    built.target.source.KnownTo dispatcher.compiler.metadata := by
  obtain ⟨target, htarget, hfollows⟩ := Dispatcher.build_follows built.built
  rw [built.hasTarget] at htarget
  cases htarget
  exact hfollows.known

/-- Under a prefix that stays on one line, so does a compiled statement, whatever its values:
it starts as one, and the names of its values stay on one line too. -/
theorem compiled_on_one_line {catalog : Catalog} (htables : OneLine catalog.tables.tablePrefix)
    {source : String} {options : CompileOptions} {compiled : CompiledFilter}
    (h : compileFilterText source catalog.metadata options = .ok compiled) :
    (∃ rest, OneLine rest ∧ compiled.sql = "SELECT " ++ rest) ∧
      ∀ name ∈ compiled.params.keys, OneLine name := by
  unfold compileFilterText at h
  split at h
  · cases h
  · rename_i raw _
    rcases compileFilter_cases raw catalog.metadata options with
      ⟨error, herror⟩ | ⟨built, _, _, _, hcompiled⟩
    · rw [herror] at h
      cases h
    · rw [hcompiled] at h
      cases h
      have hseed := OneLine.of_isSeed built.isSeed_seed
      refine ⟨built.sql_eq hseed htables ?_ options.dialect, fun name => built.oneLine_name hseed⟩
      have hknown := built.known
      cases hsource : built.target.source with
      | fieldValue table field =>
          rw [hsource] at hknown
          obtain ⟨typeKey, htable⟩ := hknown
          exact OneLine.valueTable htables htable
      | objectItem object => exact OneLine.table htables (by decide)

/-- Whether a command compiles to a statement, under the settings of a machine, with the
catalog and the filter that stand there. -/
def CompileCommand.Compiles (command : CompileCommand) (host : Host Id) (config : Option String)
    (compiled : CompiledFilter) : Prop :=
  ∃ settings options catalog source,
    Id.run (Settings.ofPathOrLoad host config) = .ok settings ∧
    Command.options settings command = .ok options ∧
    Id.run (Command.catalog host settings command.catalog) = .ok catalog ∧
    Id.run (Command.filterText host command.filter) = .ok source ∧
    compileFilterText source catalog.metadata options = .ok compiled

namespace Command

/-- Options that cannot be had end a run with a failure. -/
theorem options_cases (settings : Settings) (command : CompileCommand) :
    (∃ message, options settings command = .error (.failed message)) ∨
      ∃ chosen, options settings command = .ok chosen := by
  have hdepth : (∃ message, depthOr settings.depth command.depth = .error (.failed message)) ∨
      ∃ limit, depthOr settings.depth command.depth = .ok limit := by
    unfold depthOr
    split
    · exact Or.inr ⟨_, rfl⟩
    · split
      · exact Or.inr ⟨_, rfl⟩
      · exact Or.inl ⟨_, rfl⟩
  unfold options
  rcases hdepth with ⟨message, hdepth⟩ | ⟨limit, hdepth⟩
  · exact Or.inl ⟨message, by rw [hdepth]; rfl⟩
  · exact Or.inr ⟨_, by rw [hdepth]; rfl⟩

/-- A catalog that cannot be had ends a run with a failure, and one that is loaded has the
tables of the settings. -/
theorem catalog_cases (host : Host Id) (settings : Settings) (given : Option String) :
    (∃ message, Id.run (catalog host settings given) = .error (.failed message)) ∨
      ∃ loaded, Id.run (catalog host settings given) = .ok loaded ∧
        loaded.tables = settings.tables := by
  have hfile : ∀ path,
      let loaded := (Catalog.ofText settings.tables path (Id.run (host.file path))).mapError
        fun error => Outcome.failed
          ("Error loading catalog '" ++ path ++ "': " ++ error.message)
      (∃ message, loaded = .error (.failed message)) ∨
        ∃ catalog, loaded = .ok catalog ∧ catalog.tables = settings.tables := by
    intro path
    cases htext : Catalog.ofText settings.tables path (Id.run (host.file path)) with
    | error error => exact Or.inl ⟨_, rfl⟩
    | ok found => exact Or.inr ⟨found, rfl, Catalog.tables_of_ofText htext⟩
  cases given with
  | some path => exact hfile path
  | none =>
      rw [catalog]
      generalize settings.catalogFile host = found
      rcases found with error | _ | path
      · exact Or.inl ⟨_, rfl⟩
      · exact Or.inl ⟨_, rfl⟩
      · exact hfile path

section Runs

variable {host : Host Id} {settings : Settings} {command : CompileCommand}
  {chosen : CompileOptions}

theorem runCompile_failed {message : String} (hoptions : options settings command = .ok chosen)
    (hcatalog : Id.run (catalog host settings command.catalog) = .error (.failed message)) :
    Id.run (runCompile host settings command) = .failed message := by
  have hfound : catalog host settings command.catalog = pure (.error (.failed message)) := hcatalog
  rw [runCompile, hoptions]
  simp only [hfound]
  rfl

variable {loaded : Catalog}

theorem runCompile_unread {failure : FileFailure}
    (hoptions : options settings command = .ok chosen)
    (hcatalog : Id.run (catalog host settings command.catalog) = .ok loaded)
    (hsource : Id.run (filterText host command.filter) = .error failure) :
    Id.run (runCompile host settings command) =
      .failed ("Error reading filter '" ++ command.filter ++ "': " ++ failure.reason) := by
  have hfound : catalog host settings command.catalog = pure (.ok loaded) := hcatalog
  have htext : filterText host command.filter = pure (.error failure) := hsource
  rw [runCompile, hoptions]
  simp only [hfound, htext]
  rfl

/-- What a command to compile ends with once it has its options, its catalog and its filter. -/
theorem runCompile_eq {source : String} (hoptions : options settings command = .ok chosen)
    (hcatalog : Id.run (catalog host settings command.catalog) = .ok loaded)
    (hsource : Id.run (filterText host command.filter) = .ok source) :
    Id.run (runCompile host settings command) =
      compiled loaded chosen command.output source := by
  have hfound : catalog host settings command.catalog = pure (.ok loaded) := hcatalog
  have htext : filterText host command.filter = pure (.ok source) := hsource
  rw [runCompile, hoptions]
  simp only [hfound, htext]
  rfl

end Runs

end Command

namespace Invocation

variable {host : Host Id} {arguments : List String} {config : Option String}
  {command : CompileCommand}

theorem run_failed {error : SettingsError} (hread : read arguments = .ok ⟨config, .compile command⟩)
    (hsettings : Id.run (Settings.ofPathOrLoad host config) = .error error) :
    Id.run (run host arguments) = Command.configurationFailure error := by
  have hfound : Settings.ofPathOrLoad host config = pure (.error error) := hsettings
  rw [run, hread]
  simp only [hfound]
  rfl

theorem run_eq {settings : Settings} (hread : read arguments = .ok ⟨config, .compile command⟩)
    (hsettings : Id.run (Settings.ofPathOrLoad host config) = .ok settings) :
    Id.run (run host arguments) = Id.run (Command.runCompile host settings command) := by
  have hfound : Settings.ofPathOrLoad host config = pure (.ok settings) := hsettings
  rw [run, hread]
  simp only [hfound]
  rfl

/-- A run that compiles and ends well prints what its command compiles to. -/
theorem run_compile (hread : read arguments = .ok ⟨config, .compile command⟩)
    (hcode : (Id.run (run host arguments)).code = 0) :
    ∃ compiled, command.Compiles host config compiled ∧
      Id.run (run host arguments) = .printed (compiled.shown command.output) := by
  cases hsettings : Id.run (Settings.ofPathOrLoad host config) with
  | error error =>
      rw [run_failed hread hsettings] at hcode
      cases hcode
  | ok settings =>
      rw [run_eq hread hsettings] at hcode ⊢
      rcases Command.options_cases settings command with ⟨message, hoptions⟩ | ⟨options, hoptions⟩
      · rw [Command.runCompile, hoptions] at hcode
        cases hcode
      rcases Command.catalog_cases host settings command.catalog with
        ⟨message, hcatalog⟩ | ⟨catalog, hcatalog, _⟩
      · rw [Command.runCompile_failed hoptions hcatalog] at hcode
        cases hcode
      cases hsource : Id.run (Command.filterText host command.filter) with
      | error failure =>
          rw [Command.runCompile_unread hoptions hcatalog hsource] at hcode
          cases hcode
      | ok source =>
          rw [Command.runCompile_eq hoptions hcatalog hsource] at hcode ⊢
          simp only [Command.compiled] at hcode ⊢
          cases hcompiled : compileFilterText source catalog.metadata options with
          | error error =>
              rw [hcompiled] at hcode
              cases hcode
          | ok compiled =>
              exact ⟨compiled,
                ⟨settings, options, catalog, source, hsettings, hoptions, hcatalog, hsource,
                  hcompiled⟩, rfl⟩

/-- What a client reads of the verbose output of a run that ends well: the lines of the
values that the comments in front of the statement do not hold, and the statement.  It reads
just the statement if and only if every line in front of it is empty or a comment, which
is so if and only if no value has another line behind its first one. -/
theorem verbose_output_read (hread : read arguments = .ok ⟨config, .compile command⟩)
    (hverbose : command.output = .verbose)
    (hcode : (Id.run (run host arguments)).code = 0) :
    ∃ compiled before, command.Compiles host config compiled ∧
      lines (Id.run (run host arguments)).output = before ++ [compiled.sql, ""] ∧
      statementLines (Id.run (run host arguments)).output =
        compiled.params.toList.flatMap (fun bound => bound.2.spilled) ++ [compiled.sql] ∧
      (statementLines (Id.run (run host arguments)).output = [compiled.sql] ↔
        ∀ line ∈ before, isIgnored line = true) ∧
      ((∀ line ∈ before, isIgnored line = true) ↔
        ∀ name value, (name, value) ∈ compiled.params.toList →
          ∀ line ∈ (lines value.display).tail, isIgnored line = true) := by
  obtain ⟨compiled, hcompiles, houtcome⟩ := run_compile hread hcode
  obtain ⟨settings, options, catalog, source, hsettings, _, hcatalog, _, hcompiled⟩ := id hcompiles
  have htables : OneLine catalog.tables.tablePrefix := by
    rcases Command.catalog_cases host settings command.catalog with
      ⟨message, herror⟩ | ⟨loaded, hloaded, htables⟩
    · rw [herror] at hcatalog
      cases hcatalog
    · rw [hloaded] at hcatalog
      cases hcatalog
      rw [htables]
      exact Settings.oneLine_tablePrefix host hsettings
  obtain ⟨⟨rest, hrest, hsql⟩, hnames⟩ := compiled_on_one_line htables hcompiled
  have honeLine : OneLine compiled.sql := by
    rw [hsql]
    exact OneLine.append_iff.mpr ⟨by decide, hrest⟩
  have hlines : lines (Id.run (run host arguments)).output =
      compiled.header.flatMap lines ++ [compiled.sql, ""] := by
    rw [houtcome, hverbose]
    exact CompiledFilter.lines_shown honeLine
  have hheader : (compiled.header.flatMap lines).filter (fun line => !isIgnored line) =
      compiled.params.toList.flatMap fun bound => bound.2.spilled := by
    rw [List.filter_flatMap]
    exact CompiledFilter.statementLines_header hnames
  have hstatement : statementLines (Id.run (run host arguments)).output =
      compiled.params.toList.flatMap (fun bound => bound.2.spilled) ++ [compiled.sql] := by
    have hselect : isIgnored compiled.sql = false := hsql ▸ isIgnored_select rest
    have hend : isIgnored "" = true := rfl
    rw [statementLines, hlines, List.filter_append, hheader]
    simp [hselect, hend]
  have hignored : compiled.params.toList.flatMap (fun bound => bound.2.spilled) = [] ↔
      ∀ line ∈ compiled.header.flatMap lines, isIgnored line = true := by
    rw [← hheader, List.filter_eq_nil_iff]
    simp
  refine ⟨compiled, compiled.header.flatMap lines, hcompiles, hlines, hstatement, ?_, ?_⟩
  · rw [hstatement, List.append_left_eq_self, hignored]
  · rw [← hignored, List.flatMap_eq_nil_iff]
    simp [ParamValue.spilled]

end Invocation

namespace Products

/-- A machine with a catalog of colored products, and with a filter. -/
def colorHost (filter : String) : Host Id where
  file path :=
    if path = "catalog.toml" then
      .ok ("[[objects]]\nid=1\nalias=\"product\"\nname_singular=\"Product\"\n" ++
        "[[objects.fields]]\nid=11\nlabel=\"Color\"\nalias=\"color\"\ntype=\"text\"\n")
    else if path = "filter.json" then .ok filter
    else .error (.missing "No such file or directory (os error 2)")
  input := .ok ""
  setting _ := none

/-- The stored filter for the products of one color. -/
def storedColorFilter (color : String) : String :=
  "\x7b\"field\":\"cmf_11\",\"object\":\"custom_object\",\"operator\":\"eq\",\"filter\":\"" ++
    color ++ "\"\x7d"

def verboseArguments : List String :=
  ["compile", "filter.json", "--catalog=catalog.toml", "-overbose", "--depth=1", "--alias=f"]

def verboseCommand : CompileCommand where
  filter := "filter.json"
  catalog := some "catalog.toml"
  dialect := none
  depth := some 1
  sharedAliases := false
  contact := none
  seed := "f"
  output := .verbose

/-- The output for one plain color. -/
theorem red_output_read :
    ∃ compiled, verboseCommand.Compiles (colorHost (storedColorFilter "red")) none compiled ∧
      statementLines
        (Id.run (Invocation.run (colorHost (storedColorFilter "red")) verboseArguments)).output =
          compiled.params.toList.flatMap (fun bound => bound.2.spilled) ++ [compiled.sql] := by
  have hread : Invocation.read verboseArguments = .ok ⟨none, .compile verboseCommand⟩ := by
    decide +kernel
  have hcode : (Id.run
      (Invocation.run (colorHost (storedColorFilter "red")) verboseArguments)).code = 0 := by
    rw [Invocation.run, hread]
    decide +kernel
  obtain ⟨compiled, _, hcompiles, _, hstatement, _⟩ :=
    Invocation.verbose_output_read hread rfl hcode
  exact ⟨compiled, hcompiles, hstatement⟩

/-- A line end in a value ends the comment that the value is printed in, so that a client
reads a statement of the author of the filter. -/
theorem second_line_printed :
    (Id.run (Invocation.run (colorHost (storedColorFilter "red\\nDROP TABLE leads;"))
      verboseArguments)).code = 0 ∧
    (Id.run (Invocation.run (colorHost (storedColorFilter "red\\nDROP TABLE leads;"))
      verboseArguments)).output =
        unlines
          ["-- Dialect: mysql", "-- Fragments: 1", "-- :f_custom_field_id = 11",
           "-- :f_value = red", "DROP TABLE leads;", "",
           "SELECT contact_id FROM custom_field_value_text f_value " ++
             "INNER JOIN custom_item_xref_contact f_contact " ++
             "ON f_value.custom_item_id = f_contact.custom_item_id " ++
             "WHERE f_value.custom_field_id = :f_custom_field_id " ++
             "AND f_value.value = :f_value"] ∧
    isIgnored "DROP TABLE leads;" = false := by
  have hrun : Id.run (Invocation.run (colorHost (storedColorFilter "red\\nDROP TABLE leads;"))
      verboseArguments) = .printed (unlines
        ["-- Dialect: mysql", "-- Fragments: 1", "-- :f_custom_field_id = 11",
         "-- :f_value = red", "DROP TABLE leads;", "",
         "SELECT contact_id FROM custom_field_value_text f_value " ++
           "INNER JOIN custom_item_xref_contact f_contact " ++
           "ON f_value.custom_item_id = f_contact.custom_item_id " ++
           "WHERE f_value.custom_field_id = :f_custom_field_id " ++
           "AND f_value.value = :f_value"]) := by
    decide +kernel
  rw [hrun]
  exact ⟨rfl, rfl, by decide⟩

end Products

end SegmentPaths

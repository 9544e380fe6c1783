import ScriptAdvisor.Parse.Load
import ScriptAdvisor.Proofs.Analysis.Injection
import ScriptAdvisor.Proofs.Parse.Document

/-! # Files without a syntax tree

A source whose syntax tree is missing or unusable is analysed with the tree of a program without
statements. What is lost are the findings of the rules that read the tree, and what belongs to them;
what the rules find that read the text is found all the same.

* `Rule.ReadsText` and `Rule.NeedsTree` are the two kinds of rule, and `Catalogue.hasKind_of_mem`
  says of which kind the rules of the catalogue are. Late rules stay of their kind.
* `ParseResult.ReadFrom` lists the results that reading a source can come to, and
  `ParseResult.LacksTree` says that the tree was missing or unusable.
* `Engine.analyze_of_lacksTree` compares the analyses with the tree and without. -/

namespace ScriptAdvisor

/-! ## Two kinds of rule -/

namespace Rule

/-- The rule does not look at the tree. -/
def ReadsText (rule : Rule) : Prop :=
  ∀ (context : CheckContext) (tree : Tree), rule.check { context with tree } = rule.check context

/-- The rule finds nothing in a program without statements, whatever its options. It may fail. -/
def NeedsTree (rule : Rule) : Prop :=
  ∀ (context : CheckContext) (violations : List Violation),
    rule.check { context with tree := .empty } = .found violations → violations = []

theorem needsTree_of_found {info : RuleInfo} {check : CheckContext → List Violation}
    (h : ∀ context : CheckContext, check { context with tree := .empty } = []) :
    NeedsTree { info, check := fun context => .found (check context) } := by
  intro context violations hfound
  rw [← CheckOutcome.found.inj hfound]
  exact h context

theorem needsTree_of_ofExcept {info : RuleInfo}
    {check : CheckContext → Except Fault (List Violation)}
    (h : ∀ (context : CheckContext) (violations : List Violation),
      check { context with tree := .empty } = .ok violations → violations = []) :
    NeedsTree { info, check := fun context => .ofExcept (check context) } := by
  intro context violations hfound
  simp only [CheckOutcome.ofExcept] at hfound
  cases hcheck : check { context with tree := .empty } with
  | error fault =>
      rw [hcheck] at hfound
      exact absurd hfound (by simp)
  | ok reported =>
      rw [hcheck] at hfound
      rw [← CheckOutcome.found.inj hfound]
      exact h context reported hcheck

/-- A rule that reads the text comes to the same outcome whatever the tree. -/
theorem ReadsText.outcomeWith_eq {rule : Rule} (h : rule.ReadsText) (config : RuleConfig)
    (context : CheckContext) (tree : Tree) :
    rule.outcomeWith config { context with tree } = rule.outcomeWith config context :=
  h { context with options := config.options } tree

theorem ReadsText.delayed {rule : Rule} (h : rule.ReadsText) (late : List String) :
    (rule.delayed late).ReadsText := by
  intro context tree
  simp only [Rule.delayed]
  rw [h]

theorem NeedsTree.delayed {rule : Rule} (h : rule.NeedsTree) (late : List String) :
    (rule.delayed late).NeedsTree :=
  fun context violations hfound => h context violations (eq_found_of_delayed hfound)

/-- A rule that needs the tree is recorded without violations if there is none. -/
theorem NeedsTree.record_violations {rule : Rule} (h : rule.NeedsTree) (limits : RunLimits)
    (config : RuleConfig) (context : CheckContext) :
    (rule.record config (limits.judge
      (rule.outcomeWith config { context with tree := .empty }))).violations = [] := by
  cases houtcome : limits.judge (rule.outcomeWith config { context with tree := .empty }) with
  | found violations =>
      have hnone : violations = [] :=
        h { context with options := config.options } violations
          (RunLimits.eq_found_of_judge houtcome)
      rw [hnone]
      rfl
  | nothing => rfl
  | failed fault => rfl
  | overrun => rfl

end Rule

/-- The only node of a program without statements is the program. -/
theorem Tree.visits_empty : Tree.empty.visits = [⟨0, Tree.empty.root, none⟩] := by
  rw [visits, Node.walk, walkStack]
  show _ :: walkStack 1 [] = _
  rw [walkStack]

theorem NestedQuery.needsTree : NestedQuery.rule.NeedsTree := by
  refine Rule.needsTree_of_found fun context => ?_
  rw [check, queriesInLoops, Tree.visits_empty]
  rfl

theorem UnconditionedQuery.needsTree : UnconditionedQuery.rule.NeedsTree := by
  refine Rule.needsTree_of_found fun context => ?_
  simp only [check, Tree.visits_empty]
  rfl

theorem LoggedError.needsTree : LoggedError.rule.NeedsTree := by
  refine Rule.needsTree_of_ofExcept fun context violations hcheck => ?_
  rw [check, logCalls, Tree.visits_empty] at hcheck
  exact (Except.ok.inj hcheck).symm

theorem MissingReturnType.needsTree : MissingReturnType.rule.NeedsTree := by
  refine Rule.needsTree_of_ofExcept fun context violations hcheck => ?_
  rw [check, Tree.visits_empty] at hcheck
  exact (Except.ok.inj hcheck).symm

theorem UnusedImport.needsTree : UnusedImport.rule.NeedsTree := by
  refine Rule.needsTree_of_ofExcept fun context violations hcheck => ?_
  have himports : imports Tree.empty = [] := by
    rw [imports, Tree.visits_empty]
    rfl
  simp only [check, himports] at hcheck
  exact (Except.ok.inj hcheck).symm

theorem NestedLoop.needsTree : NestedLoop.rule.NeedsTree := by
  refine Rule.needsTree_of_ofExcept fun context violations hcheck => ?_
  -- an option that is no number is a fault, and any number leaves nothing to report
  obtain ⟨limit, _, rfl⟩ := Except.map_eq_ok_iff.mp hcheck
  have hloops : loopsWithDepth Tree.empty = [] := by
    rw [loopsWithDepth, loopStack]
    show loopStack 1 [] = _
    rw [loopStack]
  rw [deepLoops, hloops]
  rfl

namespace Catalogue

/-- The rules that read the text of a file. -/
def textRuleIds : List String := ["glide-deprecated-ajax", "glide-hardcoded-values", "ts-no-any"]

/-- The kind of rule that an identifier stands for in the catalogue. -/
def HasKind (rule : Rule) : Prop :=
  if textRuleIds.contains rule.info.id then rule.ReadsText else rule.NeedsTree

theorem HasKind.delayed {rule : Rule} (h : HasKind rule) (late : List String) :
    HasKind (rule.delayed late) := by
  rw [HasKind] at h ⊢
  rw [Rule.info_delayed]
  split
  · rename_i htext
    rw [if_pos htext] at h
    exact h.delayed late
  · rename_i htree
    rw [if_neg htree] at h
    exact h.delayed late

/-- Of which kind the rules of the catalogue are. -/
theorem hasKind_of_mem : ∀ rule ∈ rules, HasKind rule := by
  simp only [rules, List.forall_mem_cons]
  exact ⟨NestedQuery.needsTree, UnconditionedQuery.needsTree, fun context tree => rfl,
    LoggedError.needsTree, fun context tree => rfl, fun context tree => rfl,
    MissingReturnType.needsTree, UnusedImport.needsTree, NestedLoop.needsTree,
    List.forall_mem_nil _⟩

end Catalogue

/-! ## Reading a source -/

namespace ParseResult

/-- The results that reading a source can come to, with a document at hand or with one that is
looked for among files, however many calls are left for that. -/
inductive ReadFrom (source fileName : String) : ParseResult → Prop
  /-- The document is at hand. -/
  | document {document : Json} {limits : CallLimits} {result : ParseResult}
      (h : ofDocument document source fileName limits = .ok result) :
      ReadFrom source fileName result
  /-- The document is looked for. -/
  | files {files : FileTree} {path : Option Path} {limits : CallLimits} {result : ParseResult}
      (h : load files path source fileName limits = .ok result) : ReadFrom source fileName result

/-- The tree was missing or unusable: in its place stands a program without statements, and an error
says so. -/
structure LacksTree (result : ParseResult) : Prop where
  /-- The tree is that of a program without statements. -/
  tree_eq : result.tree = some .empty
  /-- There is an error. -/
  hasErrors : result.hasErrors = true

/-- A document comes to a result for the source it is read with. -/
theorem exists_make_of_ofDocument {document : Json} {source fileName : String}
    {limits : CallLimits} {result : ParseResult}
    (h : ofDocument document source fileName limits = .ok result) :
    ∃ tree errors, result = make tree source fileName errors := by
  rw [ofDocument_eq] at h
  cases hstop : stop? limits document with
  | some fault =>
      rw [hstop] at h
      exact absurd h (by simp)
  | none =>
      rw [hstop] at h
      exact ⟨_, _, (Except.ok.inj h).symm⟩

/-- Reading a source does not change it, nor the name and the language of the file. -/
theorem ReadFrom.exists_make {source fileName : String} {result : ParseResult}
    (h : ReadFrom source fileName result) :
    ∃ tree errors, result = make tree source fileName errors := by
  cases h with
  | document h => exact exists_make_of_ofDocument h
  | files h =>
      rw [load] at h
      split at h
      · split at h
        · exact ⟨_, _, (Except.ok.inj h).symm⟩
        · split at h
          · split at h
            · exact absurd h (by simp)
            · exact ⟨_, _, (Except.ok.inj h).symm⟩
          · exact exists_make_of_ofDocument h
      · exact ⟨_, _, (Except.ok.inj h).symm⟩

/-- A source without a document lacks its tree. -/
theorem lacksTree_failed (source fileName : String) (error : ParseError) :
    (failed source fileName error).LacksTree :=
  ⟨rfl, rfl⟩

end ParseResult

/-! ## What is found without the tree -/

/-- Without the tree, rules as those of the catalogue find what the rules find that read the
text. -/
theorem Settings.foundBy_empty_violations (settings : Settings) {rules : List (Rule × RuleConfig)}
    (hkinds : ∀ pair ∈ rules, Catalogue.HasKind pair.1)
    (howns : ∀ pair ∈ rules, pair.1.OwnsFindings) {parse lost : ParseResult}
    (hsource : lost.source = parse.source) (hname : lost.fileName = parse.fileName) (tree : Tree) :
    (settings.foundBy rules lost .empty).violations
      = (settings.foundBy rules parse tree).violations.filter fun violation =>
          Catalogue.textRuleIds.contains violation.ruleId := by
  simp only [foundBy, RuleReport.violations, List.flatMap_map, List.filter_flatMap, hsource, hname]
  refine List.flatMap_congr fun pair hpair => ?_
  obtain ⟨rule, config⟩ := pair
  set limits : RunLimits := { (default : RunLimits) with time := settings.rules.timeLimit }
  set context : CheckContext := { tree, source := parse.source, fileName := parse.fileName }
  have hkind : Catalogue.HasKind rule := hkinds _ hpair
  -- the findings of a rule carry its name, so they are kept or left out together
  have hnamed : ∀ violation ∈
      (rule.record config (limits.judge (rule.outcomeWith config context))).violations,
      Catalogue.textRuleIds.contains violation.ruleId
        = Catalogue.textRuleIds.contains rule.info.id := by
    intro violation hviolation
    rw [Rule.OwnsFindings.record_ruleId (howns _ hpair) _ _ _ violation hviolation]
  show (rule.record config (limits.judge
    (rule.outcomeWith config { context with tree := .empty }))).violations = _
  rw [filter_eq_ite hnamed]
  rw [Catalogue.HasKind] at hkind
  split at hkind
  · rename_i htext
    rw [if_pos htext, hkind.outcomeWith_eq config context .empty]
  · rename_i htree
    rw [if_neg htree, hkind.record_violations limits config context]

/-- The rules of an engine are each of the kind that its identifier stands for, whatever the
settings and whichever of them are late. -/
theorem Engine.hasKind_of_mem_delayed (settings : Settings) (late : List String)
    (providers : Option ProviderRegistry) :
    ∀ rule ∈ ((Engine.create settings none providers).delayed late).rules.list,
      Catalogue.HasKind rule := by
  intro rule hrule
  rw [delayed, RuleRegistry.list_delayed] at hrule
  obtain ⟨original, horiginal, rfl⟩ := List.mem_map.mp hrule
  exact (Catalogue.hasKind_of_mem original
    (mem_catalogue_of_mem_list_create settings providers original horiginal)).delayed late

/-- An advisor does not look at the tree, as long as there is one. -/
theorem Advisor.advise_congr (advisor : Advisor) {parse lost : ParseResult} {tree tree' : Tree}
    (htree : parse.tree = some tree) (htree' : lost.tree = some tree')
    (hsource : lost.source = parse.source) (hlanguage : lost.language = parse.language)
    {fileName : String} (hname : fileName ≠ "") (violations : List Violation) :
    advisor.advise (some lost) violations fileName
      = advisor.advise (some parse) violations fileName := by
  rw [advise_eq advisor htree hname, advise_eq advisor htree' hname, hsource,
    ParseResult.languageOf, ParseResult.languageOf, hlanguage]

/-- An analysis for which the tree was missing or unusable reports those issues and suggestions of
the analysis with the tree that belong to rules which read the text, in the same order. In both
analyses the same rules are late. -/
theorem Engine.analyze_of_lacksTree (settings : Settings) (late : List String)
    (source fileName : String) (parse lost : ParseResult)
    (hparse : ParseResult.ReadFrom source fileName parse)
    (hlost : ParseResult.ReadFrom source fileName lost) (hlacks : lost.LacksTree)
    (report : Report)
    (h : ((create settings none none).delayed late).analyze (some parse) = .ok report) :
    ∃ rest, ((create settings none none).delayed late).analyze (some lost) = .ok rest
      ∧ rest.issues = report.issues.filter (fun issue =>
          Catalogue.textRuleIds.contains issue.ruleId)
      ∧ rest.suggestions = report.suggestions.filter (fun suggestion =>
          Catalogue.textRuleIds.contains suggestion.ruleId) := by
  obtain ⟨tree, errors, rfl⟩ := hparse.exists_make
  obtain ⟨tree', errors', rfl⟩ := hlost.exists_make
  obtain rfl : tree' = .empty := Option.some.inj hlacks.tree_eq
  set parse := ParseResult.make tree source fileName errors
  set lost := ParseResult.make .empty source fileName errors'
  have htree : parse.tree = some tree := rfl
  set engine := (create settings none none).delayed late
  -- the two stages of the analysis with the tree
  obtain ⟨_, found, advice, -, hname, hfound, hadvice, rfl⟩ := exists_stages_of_analyze h
  have hwell : engine.rules.WellFormed := (wellFormed_create settings none).delayed late
  have hran : found = _ :=
    Except.ok.inj (hfound.symm.trans (execute_eq_foundBy settings hwell htree hname))
  -- and those of the analysis without it
  have hfound' : engine.rules.execute engine.limits (some lost) fileName = _ :=
    execute_eq_foundBy settings hwell hlacks.tree_eq hname
  set found' := settings.foundBy _ lost .empty
  have hviolations : found'.violations = found.violations.filter fun violation =>
      Catalogue.textRuleIds.contains violation.ruleId := by
    rw [hran]
    refine settings.foundBy_empty_violations (fun pair hpair => ?_) (fun pair hpair => ?_) rfl rfl
      tree
    · obtain ⟨rule, hrule, rfl⟩ := List.mem_map.mp hpair
      exact hasKind_of_mem_delayed settings late none rule (List.mem_filter.mp hrule).1
    · obtain ⟨rule, hrule, rfl⟩ := List.mem_map.mp hpair
      exact ownsFindings_delayed settings late none rule (List.mem_filter.mp hrule).1
  have hsame : engine.advisor.advise (some lost) found'.violations fileName
      = engine.advisor.advise (some parse) found'.violations fileName := by
    refine Advisor.advise_congr _ htree hlacks.tree_eq ?_ ?_ hname _
    · rfl
    · rfl
  have hadvice' := engine.advisor.advise_filter (fun id => Catalogue.textRuleIds.contains id)
    (ownsAdvice_create settings none) hadvice
  rw [← hviolations] at hadvice'
  refine ⟨_, analyze_eq hfound' (hsame.trans hadvice'), ?_, ?_⟩
  · refine RuleReport.issues_eq_filter (fun id => Catalogue.textRuleIds.contains id) ?_ hviolations
    rw [hran]
    rfl
  · rfl

/-- A file with an annotation `any` and an import that is not used: with its document both are
found, and with no document among the files only the annotation. -/
theorem Engine.analyze_of_lacksTree_unused_import :
    let source := "import { a } from 'm';\nlet x: any;"
    let name := Json.obj [("type", .str "Identifier"), ("name", .str "a")]
    let specifier := Json.obj [("type", .str "ImportSpecifier"), ("local", name)]
    let document := Json.obj
      [("type", .str "Program"),
        ("body", .arr
          [.obj [("type", .str "ImportDeclaration"), ("specifiers", .arr [specifier])]])]
    ∃ parse report lost rest, ParseResult.ofDocument document source "x.ts" = .ok parse
      ∧ (create {} none none).analyze (some parse) = .ok report
      ∧ report.issues.map (·.ruleId) = ["ts-no-any", "ts-unused-imports"]
      ∧ ParseResult.load default none source "x.ts" = .ok lost
      ∧ (create {} none none).analyze (some lost) = .ok rest
      ∧ rest.issues.map (·.ruleId) = ["ts-no-any"] := by
  intro source name specifier document
  have hrun : ((ParseResult.ofDocument document source "x.ts").toOption.bind fun parse =>
        ((create {} none none).analyze (some parse)).toOption).map
          (fun report => report.issues.map (·.ruleId))
      = some ["ts-no-any", "ts-unused-imports"] := by
    decide +kernel
  obtain ⟨report, hreport, hids⟩ := Option.map_eq_some_iff.mp hrun
  obtain ⟨parse, hparse, hreport⟩ := Option.bind_eq_some_iff.mp hreport
  rw [Except.toOption_eq_some_iff] at hparse hreport
  have hload : ParseResult.load default none source "x.ts"
      = .ok (.failed source "x.ts" { message := "No syntax tree available for " ++ "x.ts" }) := by
    rw [ParseResult.load, if_neg (by decide +kernel)]
  have hlate : ((create {} none none).delayed []).analyze (some parse) = .ok report := by
    rw [delayed_nil, hreport]
  obtain ⟨rest, hrest, hissues, -⟩ := analyze_of_lacksTree {} [] source "x.ts" parse _
    (.document hparse) (.files hload) (ParseResult.lacksTree_failed _ _ _) report hlate
  rw [delayed_nil] at hrest
  refine ⟨parse, report, _, rest, hparse, hreport, hids, hload, hrest, ?_⟩
  have hleft : rest.issues.map (·.ruleId)
      = (report.issues.map (·.ruleId)).filter Catalogue.textRuleIds.contains := by
    rw [hissues, List.filter_map]
    rfl
  rw [hleft, hids]
  decide

end ScriptAdvisor

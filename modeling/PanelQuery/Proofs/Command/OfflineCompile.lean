import PanelQuery.Proofs.Command.CompiledInOrder
import PanelQuery.Proofs.FirstFault
import PanelQuery.Proofs.Files.Extension
import PanelQuery.Proofs.Json.Decoder
import PanelQuery.Proofs.Settings.Precedence

/-!
# Command line - compiling a file of targets

The targets of a file are compiled without the service.  First all documents of the file are read as
targets, and the first one that is none ends the run before anything is printed.  Then the targets
are compiled in order, hidden ones like all others.

Main results:

- `Target.decodeAll_eq_ok_iff` and `Target.reportsFirst_decodeAll`: documents are read all together,
  or fail with the first one that is no target.
- `Command.compile_prints_until_fault`: what a run over a file of targets prints, and how it ends.
-/

namespace PanelQuery

open Template

theorem eq_ok_of_toOption {ε α : Type} {x : Except ε α} {a : α} (h : x.toOption = some a) :
    x = .ok a := by
  cases x with
  | error fault => cases h
  | ok b => exact congrArg Except.ok (Option.some.inj h)

/-! ## Documents of targets -/

/-- The documents of a file: the items of a list, or the one document that it is. -/
def documentsOf : Json → List Json
  | .array documents => documents
  | document => [document]

namespace Target

/-- Documents are read as one target each, in their order. -/
theorem decodeAll_eq_ok_iff {documents : List Json} {targets : List Target} :
    decodeAll documents = .ok targets ↔
      List.Forall₂ (fun d t => decode d = .ok t) documents targets := by
  induction documents generalizing targets with
  | nil => simp [decodeAll, eq_comm]
  | cons d documents ih =>
      simp only [decodeAll, bind_eq_ok_iff, pure_eq_ok_iff, List.forall₂_cons_left_iff]
      constructor
      · rintro ⟨t, ht, rest, hrest, rfl⟩
        exact ⟨t, rest, ht, ih.1 hrest, rfl⟩
      · rintro ⟨t, rest, ht, hrest, rfl⟩
        exact ⟨t, ht, rest, ih.2 hrest, rfl⟩

/-- Documents fail with the fault of the first one that is no target. -/
theorem reportsFirst_decodeAll (documents : List Json) :
    ReportsFirst (fun d fault => decode d = .error fault) documents (decodeAll documents) := by
  induction documents with
  | nil => exact ReportsFirst.ok []
  | cons d documents ih =>
      have hfirst : ReportsFirst (fun d fault => decode d = .error fault) [d] (decode d) :=
        ReportsFirst.single fun _ => Iff.rfl
      exact hfirst.bind fun t _ => ih.bind_pure

end Target

namespace Command

/-! ## Loading the file -/

variable {s : Surroundings} {arguments : List String} {path text : String} {c : Common}
  {settings : Settings} {files files' : FileTree} {dashboard : Dashboard} {document : Json}
  {targets : List Target}

theorem targetsOf_eq (document : Json) :
    targetsOf document = Target.decodeAll (documentsOf document) := by
  cases document <;> rfl

theorem loadTargets_of_decoded (hread : files.read path = .ok text)
    (hparse : Json.parse? text = some document)
    (h : Target.decodeAll (documentsOf document) = .ok targets) :
    loadTargets files path = .ok targets := by
  simp only [loadTargets, hread, hparse, targetsOf_eq, h]

theorem loadTargets_of_fault {fault : Target.Fault} (hread : files.read path = .ok text)
    (hparse : Json.parse? text = some document)
    (h : Target.decodeAll (documentsOf document) = .error fault) :
    loadTargets files path = .error (.target fault) := by
  simp only [loadTargets, hread, hparse, targetsOf_eq, h]

theorem extends_openLog {log : Option String} (h : openLog files log = .ok files') :
    files.Extends files' := by
  unfold openLog at h
  split at h
  · cases h
    exact FileTree.Extends.refl files
  · split at h
    · cases h
      exact FileTree.extends_openAtEnd ‹_›
    · cases h

theorem loadState_of_extends (h : files.Extends files')
    (hstate : loadState files c.variablesPath = .ok dashboard) :
    loadState files' c.variablesPath = .ok dashboard := by
  unfold loadState at hstate ⊢
  cases hpath : c.variablesPath with
  | none => simpa [hpath] using hstate
  | some path =>
      simp only [hpath] at hstate ⊢
      cases hread : files.read path with
      | ok text =>
          rw [hread] at hstate
          rw [h.read hread]
          exact hstate
      | error fault => simp [hread, Dashboard.load] at hstate

/-! ## Runs -/

/-- Without a file of settings and a URL on the command line, the settings are those of the places
where they are looked for. -/
theorem settingsOf_of_loadDefault (hpath : c.settingsPath = none) (hurl : c.url = none)
    (h : Settings.loadDefault s.files.read s.environment = settings) :
    settingsOf s c = .ok settings := by
  have hresolve : Settings.resolve s.files.read s.environment c.settingsPath = .ok settings := by
    simp only [hpath, Settings.resolve, h]
  have hwithUrl : settings.withUrl c.url = settings := by
    rw [hurl]
    rfl
  exact (settingsOf_of_resolve hresolve).trans (congrArg Except.ok hwithUrl)

theorem run_of_openLog (hparse : Invocation.parse arguments = .ok ⟨.compile (.file path), c⟩)
    (hsettings : settingsOf s c = .ok settings)
    (hlog : openLog s.files settings.log.file = .ok files) :
    run s arguments = .ofTask s ⟨.compile (.file path), c⟩ settings files := by
  simp only [run, hparse, Report.ofInvocation, hsettings, hlog]

theorem run_of_openLog_fault {fault : Fault}
    (hparse : Invocation.parse arguments = .ok ⟨.compile (.file path), c⟩)
    (hsettings : settingsOf s c = .ok settings)
    (hlog : openLog s.files settings.log.file = .error fault) :
    run s arguments = .failed fault s.files := by
  simp only [run, hparse, Report.ofInvocation, hsettings, hlog]

/-- What a task works with when everything has been loaded. -/
def setupOf (s : Surroundings) (c : Common) (settings : Settings) (files : FileTree)
    (dashboard : Dashboard) : Setup where
  settings := settings
  files := files
  datasource := {
    name := settings.service.name, dashboard, credentials := settings.service.credentials }
  transport := (Service.Client.ofUrl settings.service.url).transport s.network
  now := s.now
  asJson := c.printsJson

theorem ofTask_eq_ofWork {task : Task} (hstate : loadState files c.variablesPath = .ok dashboard) :
    Report.ofTask s ⟨task, c⟩ settings files =
      .ofWork settings files ((setupOf s c settings files dashboard).carryOut task) := by
  simp only [Report.ofTask, hstate]
  rfl

theorem carryOut_compile_of_targets {setup : Setup}
    (hload : loadTargets setup.files path = .ok targets) :
    setup.carryOut (.compile (.file path)) = compileWork setup targets := by
  simp only [Setup.carryOut, compileSourceWork, hload]

theorem carryOut_compile_of_fault {setup : Setup} {fault : Fault}
    (hload : loadTargets setup.files path = .error fault) :
    setup.carryOut (.compile (.file path)) = .failed fault := by
  simp only [Setup.carryOut, compileSourceWork, hload]

/-- What a run over a readable file of targets prints, under settings and a dashboard that can be
loaded.  If the log of the settings cannot be opened, the run fails before anything else.  Otherwise
the first document that is no target fails it, and nothing is printed.  If all documents are
targets, hidden ones among them, the queries of the longest prefix that can be compiled are printed
in their order, and the run fails exactly if a target comes after that, with what is wrong with it.
No message goes over the network. -/
theorem compile_prints_until_fault
    (hparse : Invocation.parse arguments = .ok ⟨.compile (.file path), c⟩)
    (hsettings : settingsOf s c = .ok settings)
    (hstate : loadState s.files c.variablesPath = .ok dashboard)
    (hread : s.files.read path = .ok text) (hdocument : Json.parse? text = some document) :
    (∀ fault, openLog s.files settings.log.file = .error fault →
      run s arguments = ⟨.failure fault, "", [], s.files⟩) ∧
    ∀ files, openLog s.files settings.log.file = .ok files →
      ((∃ d ∈ documentsOf document, ∀ t, Target.decode d ≠ .ok t) →
        ∃ fault,
          IsFirstFault (fun d fault => Target.decode d = .error fault) (documentsOf document)
            fault ∧
          run s arguments = ⟨.failure (.target fault), "", [], files⟩) ∧
      ((∀ d ∈ documentsOf document, ∃ t, Target.decode d = .ok t) →
        ∃ targets front queries,
          List.Forall₂ (fun d t => Target.decode d = .ok t) (documentsOf document) targets ∧
          (run s arguments).CompilesInOrder (fun t => t.compile dashboard settings.service.name [])
            c.format targets front queries ∧
          (run s arguments).files = files) := by
  refine ⟨fun fault hlog => run_of_openLog_fault hparse hsettings hlog, ?_⟩
  intro files hlog
  -- Opening the log may have made its file, so everything is read from an extension of the tree.
  have hextends := extends_openLog hlog
  have hread' := hextends.read hread
  have hrun : run s arguments = .ofWork settings files
      ((setupOf s c settings files dashboard).carryOut (.compile (.file path))) :=
    (run_of_openLog hparse hsettings hlog).trans
      (ofTask_eq_ofWork (loadState_of_extends hextends hstate))
  rw [hrun]
  constructor
  · rintro ⟨d, hd, hnone⟩
    cases hdecode : Target.decodeAll (documentsOf document) with
    | ok targets =>
        obtain ⟨t, -, ht⟩ := exists_right_of_forall₂ (Target.decodeAll_eq_ok_iff.1 hdecode) hd
        exact absurd ht (hnone t)
    | error fault =>
        have hload := loadTargets_of_fault hread' hdocument hdecode
        have hwork : (setupOf s c settings files dashboard).carryOut (.compile (.file path)) =
            .failed (.target fault) := carryOut_compile_of_fault hload
        refine ⟨fault, (Target.reportsFirst_decodeAll _ fault).1 hdecode, ?_⟩
        rw [hwork]
        rfl
  · intro hall
    obtain ⟨targets, htargets⟩ := exists_forall₂_iff.2 hall
    have hload := loadTargets_of_decoded hread' hdocument (Target.decodeAll_eq_ok_iff.2 htargets)
    have hwork : (setupOf s c settings files dashboard).carryOut (.compile (.file path)) =
        compileWork (setupOf s c settings files dashboard) targets :=
      carryOut_compile_of_targets hload
    obtain ⟨front, queries, hcompiles⟩ := exists_compilesInOrder_ofWork settings files
      (setupOf s c settings files dashboard) rfl targets
    rw [hwork]
    exact ⟨targets, front, queries, htargets, hcompiles, rfl⟩

/-- The documents of a hidden target, a raw one without a text, and one without anything given. -/
def rowDocuments : Json :=
  .array [
    .object [("hide", .bool true), ("series", .string "$s"),
      ("metricValues_array", .array [.string "in"]), ("aggregator", .array [.string "max"]),
      ("metricValueAliases", .array [.string "m"])],
    .object [("rawQuery", .bool true)],
    .object []]

/-- The documents of two targets with something between them that is none. -/
def draftDocuments : Json :=
  .array [.object [], .null, .object []]

/-- A project with settings, the state of a dashboard, and two files of targets. -/
def flowsProject : Surroundings where
  files := {
    nodes := [
      (["work", "config.toml"], .text "[logging]\nfile = \"run.log\""),
      (["work", "state.json"], .text (Json.object [("variables", .array [
        .object [("name", .string "s"), ("current", .string "links")]])]).write),
      (["work", "rows.json"], .text rowDocuments.write),
      (["work", "drafts.json"], .text draftDocuments.write)]
    workingFolder := ["work"] }
  environment name := if name = "TSDS_DATASOURCE_NAME" then some "flows" else none
  now := ⟨0, 0⟩
  network _ := .broken ⟨false, true, ""⟩

/-- The settings of the project. -/
def flowsSettings : Settings :=
  ⟨⟨"http://localhost:8080", "flows", none, false, 30⟩, ⟨"info", "pretty", some "run.log"⟩⟩

/-- The state of the dashboard of the project. -/
def flowsDashboard : Dashboard where
  declarations := [⟨"s", "custom", some (.single "links")⟩]

theorem settingsOf_flowsProject {c : Common} (hpath : c.settingsPath = none) (hurl : c.url = none) :
    settingsOf flowsProject c = .ok flowsSettings :=
  settingsOf_of_loadDefault hpath hurl (by decide +kernel)

/-- The files of the project with its log. -/
def flowsFiles : FileTree :=
  flowsProject.files.place ["work", "run.log"] (.text "")

theorem openLog_flowsProject :
    openLog flowsProject.files flowsSettings.log.file = .ok flowsFiles :=
  rfl

theorem compile_prints_until_fault_flowsProject :
    (∃ r, run flowsProject ["compile", "--target", "rows.json", "--vars=state.json"] = r ∧
      r.ending = .failure (.compile .emptyRawQuery) ∧
      r.output = "get aggregate(values.in, $quantify, max) between ($START,$END) from links\n" ++
        "  aggregate(values.in, $quantify, max) => m\n" ∧
      r.messages = [] ∧ r.files = flowsFiles) ∧
    ∃ fault, run flowsProject ["compile", "-t", "drafts.json"] =
      ⟨.failure (.target fault), "", [], flowsFiles⟩ := by
  constructor
  · have hparse : Invocation.parse ["compile", "--target", "rows.json", "--vars=state.json"] =
        .ok ⟨.compile (.file "rows.json"), { variablesPath := some "state.json" }⟩ := by
      decide +kernel
    have hload : Dashboard.load "state.json" (flowsProject.files.read "state.json") =
        .ok flowsDashboard := by
      decide +kernel
    have hstate : loadState flowsProject.files (some "state.json") = .ok flowsDashboard := by
      simp only [loadState, hload]
    have hread : flowsProject.files.read "rows.json" = .ok rowDocuments.write := by
      decide +kernel
    have houtcomes : ((Json.parse? rowDocuments.write).bind fun document =>
        (Target.decodeAll (documentsOf document)).toOption).map
          (List.map fun t => (t.compile flowsDashboard "flows" []).toOption) =
        some [
          some ⟨"get aggregate(values.in, $quantify, max) between ($START,$END) from links",
            [("aggregate(values.in, $quantify, max)", "m")]⟩,
          none,
          some ⟨"get  between ($START,$END) from ", []⟩] := by
      decide +kernel
    obtain ⟨rows, hrows, hcompiled⟩ := Option.map_eq_some_iff.1 houtcomes
    obtain ⟨document, hdocument, hdecoded⟩ := Option.bind_eq_some_iff.1 hrows
    have hdecode := eq_ok_of_toOption hdecoded
    have hall : ∀ d ∈ documentsOf document, ∃ t, Target.decode d = .ok t := fun d hd =>
      (exists_right_of_forall₂ (Target.decodeAll_eq_ok_iff.1 hdecode) hd).imp fun _ => And.right
    obtain ⟨targets, front, queries, htargets, hreport, hfiles⟩ := ((compile_prints_until_fault
      hparse (settingsOf_flowsProject rfl rfl) hstate hread hdocument).2 _
        openLog_flowsProject).2 hall
    obtain rfl : targets = rows :=
      Except.ok.inj ((Target.decodeAll_eq_ok_iff.2 htargets).symm.trans hdecode)
    -- The raw target ends the run, so the third query is not printed, although there is one.
    obtain ⟨hiddenRow, rest, rfl, hhidden, hrest⟩ := List.map_eq_cons_iff.1 hcompiled
    obtain ⟨rawRow, rest, rfl, hraw, -⟩ := List.map_eq_cons_iff.1 hrest
    have hfault : rawRow.compile flowsDashboard "flows" [] = .error .emptyRawQuery := by
      cases hresult : rawRow.compile flowsDashboard "flows" [] with
      | error fault => cases fault; rfl
      | ok q => simp [hresult, Except.toOption] at hraw
    have hsplit : hiddenRow :: rawRow :: rest = [hiddenRow] ++ rawRow :: rest := rfl
    obtain ⟨hqueries, hending⟩ :=
      hreport.unique_of_fault hsplit (.cons (eq_ok_of_toOption hhidden) .nil) hfault
    have houtput := hreport.shown.table (by decide)
    rw [hqueries] at houtput
    refine ⟨_, rfl, hending, houtput.trans ?_, hreport.messages, hfiles⟩
    decide +kernel
  · have hparse : Invocation.parse ["compile", "-t", "drafts.json"] =
        .ok ⟨.compile (.file "drafts.json"), {}⟩ := by
      decide +kernel
    have hread : flowsProject.files.read "drafts.json" = .ok draftDocuments.write := by
      decide +kernel
    have hdraft : (Json.parse? draftDocuments.write).map (fun document =>
        (documentsOf document).any fun d => (Target.decode d).toOption.isNone) = some true := by
      decide +kernel
    obtain ⟨document, hdocument, hany⟩ := Option.map_eq_some_iff.1 hdraft
    obtain ⟨d, hd, hnone⟩ := List.any_eq_true.1 hany
    have hstate : loadState flowsProject.files none = .ok .empty := rfl
    obtain ⟨fault, -, hrun⟩ := ((compile_prints_until_fault hparse (settingsOf_flowsProject rfl rfl)
      hstate hread hdocument).2 _ openLog_flowsProject).1
        ⟨d, hd, fun t ht => by simp [ht, Except.toOption] at hnone⟩
    exact ⟨fault, hrun⟩

/-- A project with a good target, whose log is to lie in a folder that is not there. -/
def unloggedProject : Surroundings where
  files := {
    nodes := [
      (["work", "config.toml"], .text "[logging]\nfile = \"logs/run.log\""),
      (["work", "rows.json"], .text (Json.object [("series", .string "interface"),
        ("metric_array", .array [.string "node"])]).write)]
    workingFolder := ["work"] }
  environment _ := none
  now := ⟨0, 0⟩
  network _ := .broken ⟨false, true, ""⟩

/-- A log that cannot be opened keeps good targets from being compiled. -/
theorem not_compilesInOrder_of_unopened_log :
    ¬ ∀ (s : Surroundings) (arguments : List String) (path text : String) (c : Common)
      (settings : Settings) (dashboard : Dashboard) (document : Json),
      Invocation.parse arguments = .ok ⟨.compile (.file path), c⟩ →
      settingsOf s c = .ok settings → loadState s.files c.variablesPath = .ok dashboard →
      s.files.read path = .ok text → Json.parse? text = some document →
      (∀ d ∈ documentsOf document, ∃ t, Target.decode d = .ok t) →
        ∃ targets front queries,
          List.Forall₂ (fun d t => Target.decode d = .ok t) (documentsOf document) targets ∧
          (run s arguments).CompilesInOrder (fun t => t.compile dashboard settings.service.name [])
            c.format targets front queries := by
  intro hclaim
  have hparse : Invocation.parse ["compile", "--target", "rows.json"] =
      .ok ⟨.compile (.file "rows.json"), {}⟩ := by
    decide +kernel
  have hsettings : settingsOf unloggedProject {} = .ok ⟨{}, { file := some "logs/run.log" }⟩ :=
    settingsOf_of_loadDefault rfl rfl (by decide +kernel)
  have hdecoded : ((Json.parse? (Json.object [("series", .string "interface"),
      ("metric_array", .array [.string "node"])]).write).map fun document =>
        (documentsOf document).all fun d => (Target.decode d).toOption.isSome) = some true := by
    decide +kernel
  obtain ⟨document, hdocument, hall⟩ := Option.map_eq_some_iff.1 hdecoded
  obtain ⟨targets, front, queries, -, hreport⟩ := hclaim unloggedProject _ _ _ {} _ .empty document
    hparse hsettings rfl rfl hdocument fun d hd =>
      (Option.isSome_iff_exists.1 (List.all_eq_true.1 hall d hd)).imp fun _ => eq_ok_of_toOption
  have hrun : run unloggedProject ["compile", "--target", "rows.json"] =
      .failed (.log "logs/run.log") unloggedProject.files :=
    run_of_openLog_fault hparse hsettings rfl
  rw [hrun] at hreport
  -- The log is at fault, and no target.
  rcases hreport.ending_cases with hending | ⟨fault, hending⟩
  · cases hending
  · cases hending

end Command
end PanelQuery

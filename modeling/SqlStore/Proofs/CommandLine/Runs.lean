import SqlStore.CommandLine.Report
import SqlStore.Proofs.Execution.Script
import SqlStore.Proofs.Sql.Malformed
import SqlStore.Proofs.Text.Split

/-!
# Runs over a file

A run reports the same whether its statements are arguments or lines of its input. Statements that
all succeed give the same output and file in one run as in several over the same file.
-/

namespace SqlStore.CommandLine

open Sql (Statement)

/-! ## Lines -/

def isBlankLine (line : List Char) : Bool :=
  line.all Text.isBlank

theorem dropReturn_cases (line : List Char) :
    dropReturn line = line ∨ dropReturn line ++ ['\r'] = line := by
  rw [dropReturn]
  split
  · rename_i last
    exact .inr (List.dropLast_append_getLast? _ last)
  · exact .inl rfl

theorem isBlankLine_dropReturn (line : List Char) :
    isBlankLine (dropReturn line) = isBlankLine line := by
  rcases dropReturn_cases line with same | ended
  · rw [same]
  · have blank : Text.isBlank '\r' := by decide
    rw [← ended, isBlankLine, isBlankLine, List.all_append, ended]
    simp [blank]

theorem parse_dropReturn (line : List Char) :
    Statement.parse (String.ofList (dropReturn line)) = Statement.parse (String.ofList line) := by
  rcases dropReturn_cases line with same | ended
  · rw [same]
  · have blank : Text.isBlank '\r' := by decide
    have parsed := Statement.parse_append_blank blank (dropReturn line)
    rw [ended] at parsed
    exact parsed.symm

theorem parse_map_dropReturn (lines : List (List Char)) :
    ((lines.map dropReturn).filter (!isBlankLine ·)).map (Statement.parse ∘ String.ofList) =
      (lines.filter (!isBlankLine ·)).map (Statement.parse ∘ String.ofList) := by
  have blank : ((!isBlankLine ·) ∘ dropReturn) = (!isBlankLine ·) :=
    funext fun line => congrArg (!·) (isBlankLine_dropReturn line)
  have parsed : (Statement.parse ∘ String.ofList) ∘ dropReturn = Statement.parse ∘ String.ofList :=
    funext parse_dropReturn
  rw [List.filter_map, List.map_map, blank, parsed]

theorem dropLast_append_getLast {α : Type} (xs : List α) :
    xs.dropLast ++ xs.getLast?.toList = xs := by
  cases last : xs.getLast? with
  | none => rw [List.getLast?_eq_none_iff.1 last]; rfl
  | some x => exact List.dropLast_append_getLast? x last

theorem parse_statementsOfLines (text : String) :
    (statementsOfLines text).map Statement.parse =
      ((Text.splitAt '\n' text.toList).filter (!isBlankLine ·)).map
        (Statement.parse ∘ String.ofList) := by
  have kept (parts : List (List Char)) :
      ((parts.dropLast.map dropReturn ++ parts.getLast?.toList).filter (!isBlankLine ·)).map
        (Statement.parse ∘ String.ofList) =
      (parts.filter (!isBlankLine ·)).map (Statement.parse ∘ String.ofList) := by
    rw [List.filter_append, List.map_append, parse_map_dropReturn, ← List.map_append,
      ← List.filter_append, dropLast_append_getLast]
  rw [statementsOfLines, List.map_map]
  exact kept _

theorem parse_lines {lines : List String} (whole : ∀ line ∈ lines, '\n' ∉ line.toList) :
    (statementsOfLines ("\n".intercalate lines)).map Statement.parse =
      (lines.filter fun line => !isBlankLine line.toList).map Statement.parse := by
  rw [parse_statementsOfLines, String.toList_intercalate]
  by_cases empty : lines = []
  · rw [empty]
    rfl
  · have parts : Text.splitAt '\n' ("\n".toList.intercalate (lines.map String.toList)) =
        lines.map String.toList := by
      refine Text.splitAt_intercalate (by simpa using empty) ?_
      simpa using whole
    have back : (Statement.parse ∘ String.ofList) ∘ String.toList = Statement.parse :=
      funext fun line => congrArg Statement.parse String.ofList_toList
    rw [parts, List.filter_map, List.map_map, back]
    rfl

/-- Statements as arguments, or as lines of the input with blank lines in between. -/
inductive Fed (sqls : List String) : List String → String → Prop
  | arguments (given : sqls ≠ []) (input : String) : Fed sqls sqls input
  | lines (lines : List String) (whole : ∀ line ∈ lines, '\n' ∉ line.toList)
      (kept : (lines.filter fun line => !isBlankLine line.toList) = sqls) :
      Fed sqls [] ("\n".intercalate lines)

namespace Options

theorem parse_statementsWith {sqls args : List String} {input : String} (fed : Fed sqls args input)
    (o : Options) : (statementsWith { o with statements := args } input).map Statement.parse =
      sqls.map Statement.parse := by
  cases fed with
  | arguments given input =>
      have some : ¬ sqls.isEmpty := fun empty => given (List.isEmpty_iff.1 empty)
      rw [statementsWith, if_neg some]
  | lines lines whole kept =>
      rw [← kept]
      exact parse_lines whole

/-! ## One run -/

def connection (o : Options) (config : Config) : Connection :=
  ⟨o.database?.getD defaultDatabase, config⟩

variable {o : Options} {configText? : Option String} {config : Config} {path : String}

theorem run_eq (file : o.file? = some path) (configured : o.configWith? configText? = some config)
    {sqls args : List String} {input : String} (fed : Fed sqls args input) (place : Place) :
    run { o with statements := args } configText? place input =
      report FileStore.place ((o.connection config).executeAll (.openAt place) sqls) := by
  have same := (o.connection config).executeAll_congr (FileStore.openAt place)
    (parse_statementsWith fed o)
  rw [← same, run]
  have configured' : configWith? { o with statements := args } configText? = some config :=
    configured
  rw [configured']
  simp only [file]
  rfl

/-! ## Several runs -/

/-- Runs one after another over one file, each with arguments and an input of its own. -/
def runEach (o : Options) (configText? : Option String) (place : Place) :
    List (List String × String) → List Report × Place
  | [] => ([], place)
  | (args, input) :: rest =>
    let first := run { o with statements := args } configText? place input
    let later := o.runEach configText? first.place rest
    (first :: later.1, later.2)

theorem runEach_of_succeeds (file : o.file? = some path)
    (configured : o.configWith? configText? = some config) {pieces : List (List String)}
    {feeds : List (List String × String)}
    (fed : List.Forall₂ (fun piece given => Fed piece given.1 given.2) pieces feeds)
    {place : Place} {answers : List Answer} {s : FileStore}
    (all : (o.connection config).Succeeds (.openAt place) pieces.flatten answers s) :
    (∀ r ∈ (o.runEach configText? place feeds).1, r.status = 0) ∧
      (o.runEach configText? place feeds).1.flatMap Report.output = answers.map Answer.line ∧
      (o.runEach configText? place feeds).2 = s.place := by
  induction fed generalizing place answers with
  | nil =>
      cases all
      exact ⟨nofun, rfl, rfl⟩
  | cons first _ ih =>
      obtain ⟨as, s', bs, done, later, rfl⟩ := Connection.Succeeds.split all
      -- The first run leaves in the file all that it knows, so the next one goes on from there.
      have reopened := ((FileStore.openAt_synced place).of_succeeds done).openAt_place
      rw [← reopened] at later
      obtain ⟨sound, output, last⟩ := ih later
      have reported := run_eq file configured first place
      rw [done.executeAll_eq] at reported
      have place' := congrArg Report.place reported
      change _ = s'.place at place'
      rw [runEach]
      dsimp only
      rw [place']
      refine ⟨List.forall_mem_cons.2 ⟨?_, sound⟩, ?_, last⟩
      · rw [reported]
        rfl
      · rw [List.flatMap_cons, output, reported, List.map_append]
        rfl

/-- A run over a file prints the answers of the statements before the first that fails, and leaves
the file as it is after them; it fails if there is one that does. It reports the same however the
statements are given to it. If none fails, several runs over the file, each with a piece of the
statements, print together what it prints and leave the file as it does. -/
theorem run_statements (file : o.file? = some path)
    (configured : o.configWith? configText? = some config) {sqls : List String}
    (given : sqls ≠ []) (place : Place) :
    let c := o.connection config
    let whole := run { o with statements := sqls } configText? place ""
    (∃ done answers s, c.Succeeds (FileStore.openAt place) done answers s ∧
      whole.output = answers.map Answer.line ∧ whole.place = s.place ∧
      (done = sqls ∧ whole.status = 0 ∨ ∃ sql rest e, sqls = done ++ sql :: rest ∧
        c.execute s sql = (.error e, s) ∧ whole.error? = some (errorMessage e.message) ∧
        whole.status = 1)) ∧
    (∀ args input, Fed sqls args input →
      run { o with statements := args } configText? place input = whole) ∧
    (whole.status = 0 → ∀ pieces feeds, pieces.flatten = sqls →
      List.Forall₂ (fun piece (given : List String × String) => Fed piece given.1 given.2)
        pieces feeds →
      let runs := o.runEach configText? place feeds
      (∀ r ∈ runs.1, r.status = 0) ∧ runs.1.flatMap Report.output = whole.output ∧
        runs.2 = whole.place) := by
  intro c whole
  have report : whole = report FileStore.place (c.executeAll (.openAt place) sqls) :=
    run_eq file configured (.arguments given "") place
  obtain ⟨done, answers, s, succeeds, ends⟩ := c.executeAll_cases (FileStore.openAt place) sqls
  refine ⟨⟨done, answers, s, succeeds, ?_⟩, fun args input fed => ?_, ?_⟩
  · rcases ends with ⟨rfl, eq⟩ | ⟨sql, rest, e, rfl, failed, eq⟩
    · rw [eq] at report
      rw [report]
      exact ⟨rfl, rfl, .inl ⟨rfl, rfl⟩⟩
    · rw [FileStore.execute_error failed] at eq
      rw [eq] at report
      rw [report]
      refine ⟨rfl, rfl, .inr ⟨sql, rest, e, rfl, Prod.ext failed ?_, rfl, rfl⟩⟩
      exact FileStore.execute_error failed
  · exact (run_eq file configured fed place).trans report.symm
  · intro sound pieces feeds cut fed runs
    rcases ends with ⟨rfl, eq⟩ | ⟨sql, rest, e, rfl, failed, eq⟩
    · rw [eq] at report
      rw [report]
      rw [← cut] at succeeds
      exact runEach_of_succeeds file configured fed succeeds
    · rw [eq] at report
      rw [report] at sound
      cases sound

theorem run_statements_two :
    let o : Options := { Options.none with file? := some "data.json" }
    let drop := "DROP TABLE IF EXISTS \"t\""
    let create := "CREATE TABLE \"t\" (\"a\" \"INT\")"
    let place : Place := ⟨.none, true⟩
    let whole := run { o with statements := [drop, create] } .none place ""
    let runs := o.runEach .none place [([drop], ""), ([], create)]
    whole.status = 0 ∧ whole.place ≠ place ∧
      run { o with statements := [] } .none place (drop ++ "\n \n" ++ create) = whole ∧
      runs.1.flatMap Report.output = whole.output ∧ runs.2 = whole.place := by
  intro o drop create place whole runs
  let c := o.connection .default
  have parses {s : Statement} (writable : s.Writable) (plain : s.Plain) :
      Statement.parse s.print = .ok s := by
    rw [Statement.parse, Statement.print, String.toList_ofList, Sql.scan_spelled plain]
    exact Sql.TokenStream.parse_eq_ok.2 ⟨[], Sql.Parser.run_wholeStatement writable plain⟩
  have skips : c.execute (FileStore.openAt place) drop =
      (.ok (.changed (.dropped ⟨.none, "t"⟩)), FileStore.openAt place) := by
    let s : Statement := .dropTable "t" true
    have writable : s.Writable := trivial
    have plain : s.Plain := by
      unfold Statement.Plain
      decide
    have printed : drop = s.print := by decide
    rw [Connection.execute, Connection.run, printed, parses writable plain]
    rfl
  obtain ⟨s, makes, changed⟩ : ∃ s, c.execute (FileStore.openAt place) create =
      (.ok (.changed (.created ⟨.none, "t"⟩)), s) ∧ s.place.text? ≠ .none := by
    let s : Statement := .createTable "t" [⟨"a", "INT", []⟩]
    have writable : s.Writable := List.cons_ne_nil _ _
    have plain : s.Plain := by
      unfold Statement.Plain
      decide
    have printed : create = s.print := by decide
    have runs : c.execute (FileStore.openAt place) create =
        (c.runStatement (Storage.get? (FileStore.openAt place)) s).commit (.openAt place) := by
      rw [Connection.execute, Connection.run, printed, parses writable plain]
    exact ⟨_, runs.trans rfl, Option.some_ne_none _⟩
  have report : whole = report FileStore.place (c.executeAll (.openAt place) [drop, create]) :=
    run_eq rfl rfl (.arguments (List.cons_ne_nil _ _) "") place
  rw [(Connection.Succeeds.next skips (.next makes (.none _))).executeAll_eq] at report
  obtain ⟨-, alike, cut⟩ := @run_statements o .none .default "data.json" rfl rfl [drop, create]
    (List.cons_ne_nil _ _) place
  have sound : whole.status = 0 := by
    rw [report]
    rfl
  have fed : Fed [drop, create] [] (drop ++ "\n \n" ++ create) :=
    .lines [drop, " ", create] (by decide) (by decide)
  have pieces : List.Forall₂ (fun piece (given : List String × String) => Fed piece given.1 given.2)
      [[drop], [create]] [([drop], ""), ([], create)] :=
    .cons (.arguments (List.cons_ne_nil _ _) "")
      (.cons (.lines [create] (by decide) (by decide)) .nil)
  refine ⟨sound, fun same => changed ?_, alike [] _ fed, (cut sound _ _ rfl pieces).2⟩
  rw [report] at same
  exact congrArg Place.text? same

end Options

end SqlStore.CommandLine

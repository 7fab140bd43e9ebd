import LoopScript.Program
import LoopScript.Proofs.Files.Reading

/-! Runs over many sources. Every source gets the report that it gets in a run of its own. -/
namespace LoopScript

theorem Input.sources_path (disk : Disk) (path : String) :
    Input.sources disk ⟨some path, none⟩ = Source.readAny disk path := rfl

theorem Outcome.ofReports_singleton (report : String × Bool) :
    Outcome.ofReports [report] = ⟨report.1, if report.2 then 0 else 1, none⟩ := by
  simp [ofReports]

theorem Outcome.ofReports_eq (reports : List (String × Bool)) :
    Outcome.ofReports reports =
      ⟨String.join (reports.map fun report => (ofReports [report]).stdout),
        if ∀ report ∈ reports, (ofReports [report]).exitCode = 0 then 0 else 1, none⟩ := by
  have hstdout : ∀ report : String × Bool, (ofReports [report]).stdout = report.1 := by
    simp [ofReports_singleton]
  have hexit : ∀ report : String × Bool, (ofReports [report]).exitCode = 0 ↔ report.2 = true := by
    simp [ofReports_singleton]
  simp only [hstdout, hexit]
  simp only [ofReports, List.all_eq_true]

/-- A command that reports on the sources of an input, without the input. -/
inductive Batch
  | tokens (format : Format)
  | check (rule : Rule) (format : Format)

namespace Batch

open FileTree Source

def command : Batch → Input → Command
  | tokens format, input => .tokens input format
  | check rule format, input => .check input rule format

def report : Batch → Source → String × Bool
  | tokens format => listSource format
  | check rule format => checkSource rule format

/-- Whether text is good: listing takes all that can be tokenized, checking what matches. -/
def accepts : Batch → String → Bool
  | tokens _, text => (tokenize text).isOk
  | check rule _, text => (rule.validateWhole text).isOk

/-- The run on one file with the name and the content of a source. -/
def alone (batch : Batch) (source : Source) : Outcome :=
  (batch.command ⟨some source.name, none⟩).run (.filled source.content.toUTF8)

variable {disk : Disk} {input : Input} {sources : List Source}

theorem run_command (batch : Batch) (disk : Disk) (input : Input) :
    (batch.command input).run disk = runBatch disk input batch.report := by
  cases batch <;> rfl

theorem report_snd (batch : Batch) (source : Source) :
    (batch.report source).2 = batch.accepts source.content := by
  cases batch with
  | tokens format =>
    change ((tokenize source.content).mapError Failure.lexical).isOk =
      (tokenize source.content).isOk
    cases tokenize source.content <;> rfl
  | check rule format => rfl

theorem run_of_error (batch : Batch) {error : ReadError} (h : input.sources disk = .error error) :
    (batch.command input).run disk = .ofReadError error := by
  rw [run_command, runBatch, h]

theorem run_of_ok (batch : Batch) (h : input.sources disk = .ok sources) :
    (batch.command input).run disk = .ofReports (sources.map batch.report) := by
  rw [run_command, runBatch, h]

theorem run_file (batch : Batch) {path : String} {source : Source}
    (hkind : disk.kind? path = some .file) (hread : readOne disk path = .ok source) :
    (batch.command ⟨some path, none⟩).run disk = .ofReports [batch.report source] := by
  have hsources : Input.sources disk ⟨some path, none⟩ = .ok [source] := by
    rw [Input.sources_path, readAny_of_file hkind, hread, Except.map]
  exact batch.run_of_ok hsources

theorem alone_eq_ofReports (batch : Batch) (source : Source) :
    batch.alone source = .ofReports [batch.report source] :=
  batch.run_file rfl (ofFile_toUTF8 source.name source.content)

theorem alone_eq (batch : Batch) (source : Source) :
    batch.alone source =
      ⟨(batch.report source).1, if batch.accepts source.content then 0 else 1, none⟩ := by
  rw [alone_eq_ofReports, Outcome.ofReports_singleton, report_snd]

theorem exitCode_alone (batch : Batch) (source : Source) :
    (batch.alone source).exitCode = 0 ↔ batch.accepts source.content := by
  rw [alone_eq]
  simp

theorem run_eq_alone (batch : Batch) (h : input.sources disk = .ok sources) :
    (batch.command input).run disk =
      ⟨String.join (sources.map fun source => (batch.alone source).stdout),
        if ∀ source ∈ sources, batch.accepts source.content then 0 else 1, none⟩ := by
  rw [batch.run_of_ok h, Outcome.ofReports_eq]
  simp only [List.map_map, List.forall_mem_map, ← exitCode_alone, alone_eq_ofReports]
  rfl

/-! ### Directories -/

def runOn (batch : Batch) (disk : Disk) (path : String) : Outcome :=
  (batch.command ⟨some path, none⟩).run disk

variable {path : String} {names : List String}

theorem runOn_directory (batch : Batch) (hpath : disk.kind? path = some .directory)
    (hnames : disk.names path = .ok names)
    (hread : ∀ name ∈ scripts disk path names,
      ∃ source, readOne disk (join path name) = .ok source) :
    batch.runOn disk path =
      let outcomes := (scripts disk path names).map fun name => batch.runOn disk (join path name)
      ⟨String.join (outcomes.map (·.stdout)),
        if ∀ outcome ∈ outcomes, outcome.exitCode = 0 then 0 else 1, none⟩ := by
  let source (name : String) : Source :=
    (readOne disk (join path name)).toOption.getD ⟨join path name, ""⟩
  have hfile : ∀ name ∈ scripts disk path names,
      readOne disk (join path name) = .ok (source name) := by
    intro name hname
    obtain ⟨found, hfound⟩ := hread name hname
    simp only [source, hfound, Except.toOption, Option.getD_some]
  have halone : ∀ name ∈ scripts disk path names,
      batch.runOn disk (join path name) = .ofReports [batch.report (source name)] := by
    intro name hname
    obtain ⟨-, hscript⟩ := mem_scripts.mp hname
    rw [isScriptIn, Bool.and_eq_true, decide_eq_true_eq] at hscript
    exact batch.run_file hscript.2 (hfile name hname)
  have hsources : Input.sources disk ⟨some path, none⟩ =
      .ok ((scripts disk path names).map source) := by
    rw [Input.sources_path, readAny_of_directory hpath, readScripts_of_names hnames]
    exact mapM_readOne hfile
  have hrun := batch.run_of_ok hsources
  rw [runOn, hrun, Outcome.ofReports_eq, List.map_congr_left halone]
  simp only [List.map_map, List.forall_mem_map]
  rfl

/-- All the scripts among the names, each once and in order. -/
structure AreScripts (disk : Disk) (path : String) (names scripts : List String) : Prop where
  ascending : scripts.Pairwise fun a b => nameBytes a < nameBytes b
  mem_iff : ∀ name, name ∈ scripts ↔ name ∈ names ∧ disk.kind? (join path name) = some .file ∧
    ∃ base, base ≠ "" ∧ name = base ++ ".js"

theorem areScripts_scripts (disk : Disk) (path : String) (hnodup : names.Nodup) :
    AreScripts disk path names (scripts disk path names) where
  ascending := pairwise_scripts disk path hnodup
  mem_iff name := by
    rw [mem_scripts, isScriptIn, Bool.and_eq_true, isScriptName_iff, decide_eq_true_eq,
      and_comm (a := ∃ _, _)]

theorem AreScripts.unique {scripts scripts' : List String} (h : AreScripts disk path names scripts)
    (h' : AreScripts disk path names scripts') : scripts = scripts' :=
  eq_of_ascending h.ascending h'.ascending fun name => (h.mem_iff name).trans (h'.mem_iff name).symm

/-- A run stops before it prints anything when its sources cannot be loaded. Otherwise every source
gets the report of a run of its own, in the order of loading, whatever becomes of the others, and
all sources have to be good. So a run on a directory of readable scripts is one run on each of them
after another. -/
theorem run_isolates (batch : Batch) :
    (∀ source, batch.alone source =
      ⟨(batch.report source).1, if batch.accepts source.content then 0 else 1, none⟩) ∧
    (∀ (disk : Disk) (input : Input),
      match input.sources disk with
      | .error error =>
        (batch.command input).run disk = ⟨"", 1, some ("Error: " ++ error.message)⟩
      | .ok sources =>
        (batch.command input).run disk =
          ⟨String.join (sources.map fun source => (batch.alone source).stdout),
            if ∀ source ∈ sources, batch.accepts source.content then 0 else 1, none⟩) ∧
    ∀ (disk : Disk) (path : String) (names : List String),
      disk.kind? path = some .directory → disk.names path = .ok names → names.Nodup →
      (∀ name ∈ names, isScriptIn disk path name →
        ∃ text, disk.contents (join path name) = .ok (String.toUTF8 text)) →
      ∃ scripts, AreScripts disk path names scripts ∧
        batch.runOn disk path =
          ⟨String.join (scripts.map fun name => (batch.runOn disk (join path name)).stdout),
            if ∀ name ∈ scripts, (batch.runOn disk (join path name)).exitCode = 0 then 0 else 1,
            none⟩ := by
  refine ⟨batch.alone_eq, ?_, ?_⟩
  · intro disk input
    split
    next error herror => exact batch.run_of_error herror
    next sources hsources => exact batch.run_eq_alone hsources
  · intro disk path names hpath hnames hnodup hread
    have hreadable : ∀ name ∈ scripts disk path names,
        ∃ source, readOne disk (join path name) = .ok source := by
      intro name hname
      obtain ⟨hmem, hscript⟩ := mem_scripts.mp hname
      obtain ⟨text, hcontents⟩ := hread name hmem hscript
      exact ⟨_, (readOne_of_contents hcontents).trans (ofFile_toUTF8 _ _)⟩
    refine ⟨_, areScripts_scripts disk path hnodup, ?_⟩
    rw [batch.runOn_directory hpath hnames hreadable]
    simp only [List.map_map, List.forall_mem_map]
    rfl

/-- Two scripts next to a file of another kind, of which one has an open string. -/
theorem run_isolates_two_scripts :
    let texts := [("b.js", "x = \""), ("a.js", "x = 1"), ("c.txt", "x")]
    let names := texts.map (·.1)
    let entries := texts.map fun script => (script.1, FileTree.file script.2.toUTF8)
    let disk := FileSystem.disk ⟨.directory entries, []⟩
    let batch := Batch.check .statement .text
    disk.kind? "/" = some .directory ∧ disk.names "/" = .ok names ∧ names.Nodup ∧
      (∀ name ∈ names, isScriptIn disk "/" name →
        ∃ text, disk.contents (join "/" name) = .ok (String.toUTF8 text)) ∧
      AreScripts disk "/" names ["a.js", "b.js"] ∧
      batch.runOn disk "/" =
        ⟨"/a.js: statement: Ok\n" ++
            "/b.js: statement: Error\n  Unterminated string literal. Character: end of input." ++
              " Statement: \\\"\n", 1, none⟩ := by
  intro texts names entries disk batch
  have hentries : FileTree.AreEntries entries := ⟨by decide, by decide⟩
  have hfind : FileSystem.find ⟨.directory entries, []⟩ "/" = .ok (.directory entries) :=
    FileSystem.find_eq_ok_iff.mpr ⟨by decide, by decide, by decide, rfl⟩
  have hsize : ∀ script ∈ texts, (join "/" script.1).utf8ByteSize ≤ FileTree.maxPath := by decide
  have hfile : ∀ script ∈ texts, disk.kind? (join "/" script.1) = some .file ∧
      disk.contents (join "/" script.1) = .ok script.2.toUTF8 := by
    intro script hmem
    have hentry : (script.1, FileTree.file script.2.toUTF8) ∈ entries :=
      List.mem_map_of_mem (f := fun script : String × String =>
        (script.1, FileTree.file script.2.toUTF8)) hmem
    exact FileSystem.of_find_file
      (FileSystem.find_join hentries hfind hentry (hsize script hmem))
  have hkind : disk.kind? "/" = some .directory := FileSystem.kind?_of_find_directory hfind
  have hnames : disk.names "/" = .ok names := FileSystem.names_of_find hfind
  have hnodup : names.Nodup := by decide
  have hread : ∀ name ∈ names, isScriptIn disk "/" name →
      ∃ text, disk.contents (join "/" name) = .ok (String.toUTF8 text) := by
    intro name hname _
    obtain ⟨script, hmem, rfl⟩ := List.mem_map.mp hname
    exact ⟨script.2, (hfile script hmem).2⟩
  have hscripts : AreScripts disk "/" names ["a.js", "b.js"] := by
    refine ⟨by decide, fun name => ?_⟩
    constructor
    · intro hname
      have hname : name = "a.js" ∨ name = "b.js" := by simpa using hname
      rcases hname with rfl | rfl
      · exact ⟨by decide, (hfile ("a.js", "x = 1") (by decide)).1, "a", by decide, rfl⟩
      · exact ⟨by decide, (hfile ("b.js", "x = \"") (by decide)).1, "b", by decide, rfl⟩
    · rintro ⟨hname, -, hnamed⟩
      have hall : ∀ name ∈ names, isScriptName name = true → name ∈ ["a.js", "b.js"] := by decide
      exact hall name hname ((isScriptName_iff name).mpr hnamed)
  have halone (name text : String) (hmem : (name, text) ∈ texts) :
      batch.runOn disk (join "/" name) = .ofReports [batch.report ⟨join "/" name, text⟩] := by
    obtain ⟨hkind, hcontents⟩ := hfile (name, text) hmem
    exact batch.run_file hkind ((readOne_of_contents hcontents).trans (ofFile_toUTF8 _ _))
  obtain ⟨scripts, hfound, hrun⟩ := (run_isolates batch).2.2 disk "/" names hkind hnames hnodup hread
  obtain rfl := hfound.unique hscripts
  refine ⟨hkind, hnames, hnodup, hread, hscripts, hrun.trans ?_⟩
  simp only [List.map_cons, List.map_nil, List.forall_mem_cons, halone "a.js" "x = 1" (by decide),
    halone "b.js" "x = \"" (by decide)]
  rfl

end Batch

end LoopScript

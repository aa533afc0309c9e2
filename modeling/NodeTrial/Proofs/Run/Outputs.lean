import NodeTrial.Machine.Session
import NodeTrial.Proofs.Dialogue.Determined
import NodeTrial.Proofs.FileTree.Replacement
import NodeTrial.Proofs.Run.Ending
import NodeTrial.Proofs.Run.Storing

namespace NodeTrial

open Dialogue

/-- The answer to a change of files, and the files after it. -/
def changed (files : FileTree) : Except FileError FileTree → Except FileError Unit × FileTree
  | .ok files' => (.ok (), files')
  | .error e => (.error e, files)

/-- Directories on the way to a path were created one after the other, but not all of them. -/
def FileTree.CreatedInPart (here : Place) (path : String) (t t' : FileTree) : Prop :=
  ∃ n, t.createDirectoriesAt (origin here path)
    (((Path.parts path).filter (· != ".")).reverse.drop (n + 1)) = (t', .ok ())

/-- A world of which only the files are told, which are seen from `here`. A change may fail for
reasons that the files do not show, such as a full disk, and then it may have been made in part. Lines
that are shown leave the files as they are, and whatever else is asked may change them at will. -/
def fileWorld (here : Place) : World Request Request.Answer FileTree
  | .isFile path, files, a, files' => a = files.isFile here path ∧ files' = files
  | .createDirectories path, files, a, files' =>
    files.createDirectories here path = (files', a) ∨
      (∃ e, a = .error e) ∧ files.CreatedInPart here path files'
  | .writeFile path text, files, a, files' =>
    (∃ room, files.write here path (Utf8.encode text.toList) room = (files', a)) ∨
      (∃ e, a = .error e) ∧ files' = files
  | .moveFile source target, files, a, files' =>
    changed files (files.move here source target) = (a, files') ∨
      (∃ e, a = .error e) ∧ files' = files
  | .tell _, files, _, files' => files' = files
  | _, _, _, _ => True

theorem Machine.serve_fileWorld (limits : Machine.ToolLimits) (q : Request) (m : Machine) :
    fileWorld m.directory q m.files (((Machine.serve limits q).run m).1)
      (((Machine.serve limits q).run m).2).files := by
  cases q with
  | isFile path => exact ⟨rfl, rfl⟩
  | createDirectories path => exact .inl rfl
  | writeFile path text => exact .inl ⟨.ample, rfl⟩
  | moveFile source target =>
      left
      cases h : m.files.move m.directory source target <;>
        simp only [serve, h, changed, StateT.run] <;> rfl
  | tell line => rfl
  | _ => trivial

variable {here : Place} {files files' : FileTree}

section Answers

variable {path source target text : String} {e : FileError}

theorem fileWorld_written (h : fileWorld here (.writeFile path text) files (.ok ()) files') :
    files.overwrite here path (Utf8.encode text.toList) = .ok files' := by
  obtain ⟨room, hwrite⟩ | ⟨⟨e, he⟩, -⟩ := h
  · exact FileTree.overwrite_of_write hwrite
  · cases he

theorem fileWorld_unwritten (h : fileWorld here (.writeFile path text) files (.error e) files') :
    files' = files ∨ ∃ n < (Utf8.encode text.toList).length,
      files.overwrite here path ((Utf8.encode text.toList).take n) = .ok files' := by
  obtain ⟨room, hwrite⟩ | ⟨-, hsame⟩ := h
  · exact FileTree.write_error_cases hwrite
  · exact .inl hsame

theorem fileWorld_moved (h : fileWorld here (.moveFile source target) files (.ok ()) files') :
    files.move here source target = .ok files' := by
  obtain hchanged | ⟨⟨e, he⟩, -⟩ := h
  · cases hmove : files.move here source target with
    | error e =>
        rw [hmove] at hchanged
        cases hchanged
    | ok moved =>
        rw [hmove] at hchanged
        cases hchanged
        rfl
  · cases he

theorem fileWorld_unmoved (h : fileWorld here (.moveFile source target) files (.error e) files') :
    files' = files := by
  obtain hchanged | ⟨-, hsame⟩ := h
  · cases hmove : files.move here source target with
    | error e =>
        rw [hmove] at hchanged
        cases hchanged
        rfl
    | ok moved =>
        rw [hmove] at hchanged
        cases hchanged
  · exact hsame

end Answers

theorem Report.store_plays {path text : String}
    (h : (store path text).Plays (fileWorld here) files (.ok ()) files') :
    files'.readText here path = .ok text := by
  obtain ⟨t, hleads, hfollows⟩ := h
  obtain ⟨front, rfl⟩ := store_ok hleads
  obtain ⟨m, -, written, hwrite, moved, hmove, rfl⟩ := follows_append.mp hfollows
  exact FileTree.readText_of_replaced (u := ".tmp") (by decide) (by decide)
    (fileWorld_written hwrite) (fileWorld_moved hmove)

theorem Run.tellAll_plays {s : Setting} {lines : List String} {u : Unit}
    (h : (tellAll s lines).Plays (fileWorld here) files u files') : files' = files := by
  obtain ⟨t, hleads, hfollows⟩ := h
  have htell (line : String) : (s.tell line).Asks fun q => q.isTell = true := by
    unfold Setting.tell
    split
    · exact ⟨rfl, fun _ => trivial⟩
    · trivial
  have hasks : (tellAll s lines).Asks fun q => q.isTell = true := tellAll_asks s htell lines
  refine Follows.preserves (P := fun q => q.isTell = true) (fun m => m = files) ?_
    (hasks.of_leads hleads) rfl hfollows
  rintro q m a m' hq hm rfl
  cases q with
  | tell line => exact hm
  | _ => cases hq

/-- A report that could be stored leads to the result that it tells of. -/
theorem Run.report_plays {s : Setting} {l : Ledger} {r : RunResult}
    (h : (report s l).Plays (fileWorld here) files (.ok r) files') :
    r.records = l.records ∧ r.tally = l.tally ∧
      ∃ facts, files'.readText here r.reportPath = .ok (Report.render l.records l.tally facts) := by
  obtain ⟨facts, m₁, -, h⟩ := plays_bind_iff.mp h
  obtain ⟨stored, m₂, hstore, h⟩ := plays_bind_iff.mp h
  cases stored with
  | error e => exact nomatch (plays_pure_iff.mp h).1
  | ok _ =>
      obtain ⟨_, m₃, htell, h⟩ := plays_bind_iff.mp h
      obtain ⟨hr, rfl⟩ := plays_pure_iff.mp h
      obtain rfl := Except.ok.inj hr
      obtain rfl := tellAll_plays htell
      exact ⟨rfl, rfl, facts, Report.store_plays hstore⟩

def Report.countLine (name : String) (n : Nat) : String :=
  "| " ++ name ++ " | " ++ toString n ++ " |"

/-- The lines in which a report sums its records up. -/
def Report.summaryLines (rs : List Record) : List String :=
  [countLine "Total" rs.length,
    countLine "Passed" (countOf .pass rs),
    countLine "Failed" (countOf .fail rs),
    countLine "Skipped" (countOf .skip rs), "",
    if countOf .fail rs = 0 then
      "✅ **All executed checks passed** (" ++ toString (countOf .skip rs) ++ " skipped)"
    else
      "❌ **" ++ toString (countOf .fail rs) ++ " of " ++ toString rs.length ++ " checks failed**"]

theorem Report.row_count (name : String) (n : Nat) : row [name, toString n] = countLine name n := by
  rw [row, countLine, String.intercalate_cons_cons, String.intercalate_singleton]
  simp only [String.append_assoc]

theorem Report.headLines_summary (rs : List Record) (f : Facts) :
    ∃ front back, front.length = 9 ∧
      headLines (.ofRecords rs) f = front ++ summaryLines rs ++ back := by
  refine ⟨(headLines (.ofRecords rs) f).take 9, (headLines (.ofRecords rs) f).drop 15, rfl, ?_⟩
  rw [Tally.ofRecords_eq]
  simp [headLines, summaryLines, ← row_count, verdict, Tally.allPassed]

/-- The result of a run, its exit code and its report agree, for every setting, whatever the run was
answered and whatever became of the files meanwhile. -/
theorem Run.outputs_agree {s : Setting} {r : RunResult}
    (h : (Run.all s).Plays (fileWorld here) files (.ok r) files') :
    r.tally = Tally.ofRecords r.records ∧
      r.tally.total = r.tally.passed + r.tally.failed + r.tally.skipped ∧
      (r.exitCode = 0 ↔ ∀ record ∈ r.records, record.outcome ≠ .fail) ∧
      (r.exitCode = 0 ∨ r.exitCode = 1) ∧
      ∃ facts front back, front.length = 9 ∧
        files'.readText here r.reportPath = .ok (Report.render r.records r.tally facts) ∧
        Report.render r.records r.tally facts =
          "\n".intercalate (front ++ Report.summaryLines r.records ++ back) := by
  obtain ⟨st, m₁, ⟨t, hchecks, -⟩, h⟩ := plays_bind_iff.mp h
  obtain ⟨_, m₂, -, h⟩ := plays_bind_iff.mp h
  obtain ⟨st', m₃, hstop, hreport⟩ := plays_bind_iff.mp h
  obtain ⟨_, m₄, -, hdone⟩ := plays_bind_iff.mp hstop
  obtain ⟨rfl, rfl⟩ := plays_pure_iff.mp hdone
  obtain ⟨c, -, hledger⟩ := checks_leads hchecks
  have hrecorded : st.ledger.Recorded := by
    rw [hledger]
    exact Ledger.Recorded.empty.enterAll c.findings
  obtain ⟨hrecords, htally, facts, hread⟩ := report_plays hreport
  have hcounts : r.tally = Tally.ofRecords r.records := by
    rw [hrecords, htally]
    exact hrecorded.tally_eq
  obtain ⟨front, back, hfront, hhead⟩ := Report.headLines_summary r.records facts
  refine ⟨hcounts, ?_, ?_, r.tally.exitCode_eq, facts, front,
    back ++ r.records.map Report.resultRow ++ Report.causeLines (Report.breakdown r.records) ++
      Report.factLines facts, hfront, ?_, ?_⟩
  · rw [hcounts, Tally.ofRecords_eq]
    exact length_eq_countOf r.records
  · rw [← countOf_eq_zero_iff, RunResult.exitCode, Tally.exitCode, hcounts, Tally.ofRecords_eq]
    simp [Tally.allPassed]
  · rw [hrecords, htally]
    exact hread
  · rw [Report.render, hcounts, hhead]
    simp only [List.append_assoc]

def fileAnswer (here : Place) : (q : Request) → FileTree → q.Answer × FileTree
  | .isFile path, files => (files.isFile here path, files)
  | .createDirectories path, files =>
    ((files.createDirectories here path).2, (files.createDirectories here path).1)
  | .writeFile path text, files =>
    ((files.write here path (Utf8.encode text.toList) .ample).2,
      (files.write here path (Utf8.encode text.toList) .ample).1)
  | .moveFile source target, files => changed files (files.move here source target)
  | q, files => (Run.barren q, files)

theorem fileWorld_of_fileAnswer (q : Request) (files : FileTree) (a : q.Answer) (files' : FileTree)
    (h : functional (fileAnswer here) q files a files') : fileWorld here q files a files' := by
  cases q with
  | isFile path =>
      obtain ⟨rfl, rfl⟩ := Prod.mk.inj h
      exact ⟨rfl, rfl⟩
  | createDirectories path =>
      obtain ⟨rfl, rfl⟩ := Prod.mk.inj h
      exact .inl rfl
  | writeFile path text =>
      obtain ⟨rfl, rfl⟩ := Prod.mk.inj h
      exact .inl ⟨.ample, rfl⟩
  | moveFile source target => exact .inl h
  | tell line => exact (congrArg Prod.snd h).symm
  | _ => trivial

theorem unchanged_of_not_stores {α : Type} {d : Trial α} {a : α}
    (hd : d.Asks fun q => q.stores = false)
    (h : d.Plays (functional (fileAnswer here)) files a files') : files' = files := by
  obtain ⟨t, hleads, hfollows⟩ := h
  refine Follows.preserves (P := fun q => q.stores = false) (fun m => m = files) ?_
    (hd.of_leads hleads) rfl hfollows
  rintro q m a m' hq hm rfl
  cases q with
  | createDirectories path => cases hq
  | writeFile path text => cases hq
  | moveFile source target => cases hq
  | _ => exact (congrArg Prod.snd hm).symm

theorem Report.stored_in_empty {text : String} {stored : Except StoreError Unit}
    (h : (store "/project/TEST_REPORT.md" text).Plays (functional (fileAnswer []))
      .empty stored files) : stored = .ok () := by
  obtain ⟨prepared, m₁, hprepare, h⟩ := plays_bind_iff.mp h
  obtain ⟨created, m₂, hcreate, hprepared⟩ := plays_bind_iff.mp hprepare
  obtain ⟨rfl, rfl⟩ := plays_pure_iff.mp hprepared
  obtain ⟨rfl, rfl⟩ := Prod.mk.inj (plays_question_iff.mp hcreate)
  obtain ⟨written, m₃, hwrite, h⟩ := plays_bind_iff.mp h
  obtain ⟨rfl, rfl⟩ := Prod.mk.inj (plays_question_iff.mp hwrite)
  obtain ⟨moved, m₄, hmove, h⟩ := plays_bind_iff.mp h
  obtain ⟨rfl, rfl⟩ := Prod.mk.inj (plays_question_iff.mp hmove)
  exact (plays_pure_iff.mp h).1

theorem Run.outputs_agree_alone :
    ∃ r files, (Run.all sharedAddress).Plays (fileWorld []) .empty (.ok r) files ∧
      r.tally = Tally.ofRecords r.records ∧
      r.tally.total = r.tally.passed + r.tally.failed + r.tally.skipped ∧
      (r.exitCode = 0 ↔ ∀ record ∈ r.records, record.outcome ≠ .fail) ∧
      (r.exitCode = 0 ∨ r.exitCode = 1) ∧
      ∃ facts front back, front.length = 9 ∧
        files.readText [] r.reportPath = .ok (Report.render r.records r.tally facts) ∧
        Report.render r.records r.tally facts =
          "\n".intercalate (front ++ Report.summaryLines r.records ++ back) := by
  obtain ⟨t, result, files, hleads, hfollows⟩ :=
    exists_follows_functional (fileAnswer []) (Run.all sharedAddress) .empty
  have hplays := Plays.mono ⟨t, hleads, hfollows⟩ fileWorld_of_fileAnswer
  obtain ⟨st, m₁, hchecks, h⟩ := plays_bind_iff.mp ⟨t, hleads, hfollows⟩
  obtain rfl := unchanged_of_not_stores (checks_not_stores sharedAddress .initial) hchecks
  obtain ⟨_, m₂, htell, h⟩ := plays_bind_iff.mp h
  obtain ⟨rfl, rfl⟩ := plays_pure_iff.mp htell
  obtain ⟨st', m₃, hstop, hreport⟩ := plays_bind_iff.mp h
  obtain ⟨_, m₄, hstopped, hdone⟩ := plays_bind_iff.mp hstop
  obtain ⟨rfl, rfl⟩ := plays_pure_iff.mp hdone
  obtain rfl := congrArg Prod.snd (plays_question_iff.mp hstopped)
  obtain ⟨facts, m₅, hcollect, hreport⟩ := plays_bind_iff.mp hreport
  have hsurveys := Report.collect_asks sharedAddress.root sharedAddress.config
  obtain rfl := unchanged_of_not_stores (hsurveys.mono fun q hq => hq.stores) hcollect
  obtain ⟨stored, m₆, hstore, hreport⟩ := plays_bind_iff.mp hreport
  obtain rfl := Report.stored_in_empty hstore
  obtain ⟨_, m₇, -, hreport⟩ := plays_bind_iff.mp hreport
  obtain ⟨rfl, rfl⟩ := plays_pure_iff.mp hreport
  exact ⟨_, _, hplays, outputs_agree hplays⟩

end NodeTrial

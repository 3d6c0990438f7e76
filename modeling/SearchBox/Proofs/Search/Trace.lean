import SearchBox.Proofs.Operator.Discarded
import SearchBox.Proofs.Plan.Jobs
import SearchBox.Proofs.Plan.Pulling
import SearchBox.Search

/-!
This module contains what a search writes to the log. The stages of a search report on their own,
and the main statement is that all their records together tell what the search was made of and how
far it was followed.
-/

namespace SearchBox

namespace Journal

/--
A report as it stands in the log.
-/
structure Record where
  logger : String
  level : Level
  message : String
  deriving DecidableEq, Repr

def Report.record (report : Report) : Record :=
  ⟨report.logger, report.level, report.message⟩

/--
What is in a log that takes reports from this level on.
-/
def Logged.recordsFrom {α : Type} (level : Level) (x : Logged α) : List Record :=
  (x.reportsFrom level).map Report.record

theorem Logged.recordsFrom_debug {α : Type} (x : Logged α)
    : x.recordsFrom .debug = x.reports.map Report.record := by
  unfold recordsFrom reportsFrom
  rw [List.filter_eq_self.2]
  intro report _
  cases report <;> rfl

theorem Logged.recordsFrom_eq_filter {α : Type} (level : Level) (x : Logged α)
    : x.recordsFrom level
      = (x.recordsFrom .debug).filter (fun record => level.rank ≤ record.level.rank) := by
  rw [recordsFrom_debug, List.filter_map]
  rfl

theorem Logged.recordsFrom_warning {α : Type} (x : Logged α) : x.recordsFrom .warning = [] := by
  unfold recordsFrom reportsFrom
  rw [List.map_eq_nil_iff, List.filter_eq_nil_iff]
  intro report _
  cases report <;> exact Bool.false_ne_true

end Journal

open Journal

theorem Query.reports_operators (base : Options) (query : String)
    : (operators base query).reports
      = (tokens query).reports
        ++ [.parsed (Token.tokenize query).length (Filter.ofQuery query).length]
        ++ ((Filter.unusedTypes (Filter.ofQuery query)).map .discarded
          ++ [.compiled (Operator.ofQuery base query).length (Filter.ofQuery query).length]) := by
  rw [← value_tokens, ← Compile.discarded_filterSteps base]
  rfl

namespace Search

/--
The record for a filter that has no effect on the search.
-/
def discardedRecord (objectType : String) : Record :=
  ⟨"aml_search.search.operators", .info,
    s!"discarding {objectType} filter with no search text after it"⟩

/--
The records of a search for as many jobs as are taken, or for all of them.
-/
def trace (base : Options) (query : String) (source : FileSource) (id : Int) (take : Option Nat)
    : List Record :=
  let tokens := Token.tokenize query
  let filters := Filter.ofQuery query
  let ops := Operator.ofQuery base query
  let files := (Plan.keysOf source).eraseDups
  let jobs := (Plan.ofSource source ops id).jobs
  (if query.toList.all Text.isBlank then
      []
    else
      [⟨"aml_search.search.tokenizer", .debug,
        s!"tokenized {query.length} chars into {tokens.length} tokens"⟩])
    ++ [⟨"aml_search.search.filters", .debug,
      s!"parsed {tokens.length} tokens into {filters.length} filters"⟩]
    ++ (Filter.unusedTypes filters).map discardedRecord
    ++ [⟨"aml_search.search.operators", .debug,
      s!"built {ops.length} operators from {filters.length} filters"⟩]
    ++ (if ∀ n ∈ take, jobs.length < n then
      -- the end is found by who asks for one more job
      [⟨"aml_search.search.dispatch", .debug,
        s!"split search {id} over {files.length} files and {ops.length} operators"⟩]
    else
      [])

theorem map_record_tokens (query : String)
    : (Query.tokens query).reports.map Report.record
      = if query.toList.all Text.isBlank then
          []
        else
          [⟨"aml_search.search.tokenizer", .debug,
            s!"tokenized {query.length} chars into {(Token.tokenize query).length} tokens"⟩] := by
  unfold Query.tokens
  split
  . rfl
  . rfl

theorem value_ofQuery (base : Options) (query : String) (source : FileSource) (id : Int)
    (take : Option Nat)
    : (ofQuery base query source id take).value
      = ((Plan.ofSource source (Operator.ofQuery base query) id).run take).value := rfl

theorem reports_ofQuery (base : Options) (query : String) (source : FileSource) (id : Int)
    (take : Option Nat)
    : (ofQuery base query source id take).reports
      = (Query.operators base query).reports
        ++ ((Plan.ofSource source (Operator.ofQuery base query) id).run take).reports := rfl

theorem recordsFrom_debug_ofQuery (base : Options) (query : String) (source : FileSource) (id : Int)
    (take : Option Nat)
    : (ofQuery base query source id take).recordsFrom .debug
      = trace base query source id take := by
  rw [Logged.recordsFrom_debug, reports_ofQuery, Query.reports_operators, Plan.run_eq,
    Plan.size_files_ofSource]
  simp only [List.map_append, map_record_tokens, List.map_map, apply_ite (List.map Report.record)]
  unfold trace
  simp only [List.append_assoc]
  rfl

theorem filter_trace_info (base : Options) (query : String) (source : FileSource) (id : Int)
    (take : Option Nat)
    : (trace base query source id take).filter
        (fun record => Level.info.rank ≤ record.level.rank)
      = (Filter.unusedTypes (Filter.ofQuery query)).map discardedRecord := by
  have hinfo : ∀ record ∈ (Filter.unusedTypes (Filter.ofQuery query)).map discardedRecord,
      decide (Level.info.rank ≤ record.level.rank) = true := by
    intro record hrecord
    obtain ⟨objectType, _, rfl⟩ := List.mem_map.1 hrecord
    rfl
  unfold trace
  simp only [List.filter_append, List.filter_eq_self.2 hinfo, apply_ite (List.filter _)]
  simp [Level.rank]

/--
What is written to the log when jobs are taken from a search for a query.
-/
structure Traced (base : Options) (query : String) (source : FileSource) (id : Int)
    (take : Option Nat) : Prop where
  recordsFrom_debug : (ofQuery base query source id take).recordsFrom .debug
    = trace base query source id take
  recordsFrom_eq_filter : ∀ level,
    (ofQuery base query source id take).recordsFrom level
      = (trace base query source id take).filter (fun record => level.rank ≤ record.level.rank)
  recordsFrom_info : (ofQuery base query source id take).recordsFrom .info
    = (Filter.unusedTypes (Filter.ofQuery query)).map discardedRecord
  recordsFrom_warning : (ofQuery base query source id take).recordsFrom .warning = []
  value_eq :
    let jobs := (Plan.ofSource source (Operator.ofQuery base query) id).jobs
    (ofQuery base query source id take).value
      = jobs.take (min (take.getD jobs.length) jobs.length)
  /--
  The jobs are found one by one, as they are asked for.
  -/
  eq_pull : ofQuery base query source id take
    = do
      let plan := Plan.ofSource source (← Query.operators base query) id
      plan.pull (take.getD (plan.jobs.length + 1)) plan.pairs
  length_filters : (Filter.ofQuery query).length
    = (Operator.ofQuery base query).length
      + ((ofQuery base query source id take).recordsFrom .info).length
      + (Filter.takenTexts (Filter.ofQuery query)).length

theorem traced_ofQuery (base : Options) (query : String) (source : FileSource) (id : Int)
    (take : Option Nat) : Traced base query source id take := by
  have hdebug := recordsFrom_debug_ofQuery base query source id take
  have hlevel : ∀ level, (ofQuery base query source id take).recordsFrom level
      = (trace base query source id take).filter
          (fun record => level.rank ≤ record.level.rank) := by
    intro level
    rw [Logged.recordsFrom_eq_filter, hdebug]
  have hinfo : (ofQuery base query source id take).recordsFrom .info
      = (Filter.unusedTypes (Filter.ofQuery query)).map discardedRecord := by
    rw [hlevel, filter_trace_info]
  constructor
  . exact hdebug
  . exact hlevel
  . exact hinfo
  . exact Logged.recordsFrom_warning _
  . rw [value_ofQuery, Plan.run_eq]
    exact List.take_eq_take_min
  . unfold ofQuery run
    simp only [Plan.run_eq_pull]
  . rw [hinfo, List.length_map, Operator.ofQuery_eq]
    exact Operator.length_filters_eq base (Filter.ofQuery query)

example : (ofQuery {} "type:metric type:dimension sum" (.list []) 7 (some 0)).recordsFrom .info
    = [⟨"aml_search.search.operators", .info,
        "discarding metric filter with no search text after it"⟩] := by
  decide +kernel

end Search

end SearchBox

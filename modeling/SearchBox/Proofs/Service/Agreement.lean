import SearchBox.Proofs.Plan.Jobs
import SearchBox.Proofs.Service.CommandLine
import SearchBox.Proofs.Service.Session
import SearchBox.Service.Tools

/-!
This module contains the agreement of the services: over HTTP, as tools and on the command line,
the same query has the same filters, and under the same settings and modes the same operators. A
plan pairs the paths of its files with these operators.
-/

namespace SearchBox

namespace Http

variable {members : List (String × Json)} {query : String}

end Http

namespace Tools

/--
One unit for each path and each operator that is for files of any type or of the type of that path.
-/
def units (paths : List String) (ops : List Operator) : List Json :=
  paths.flatMap (fun path =>
    let fileType := Path.fileType? path
    (ops.filter (fun op => op.options.fileType = none ∨ op.options.fileType = fileType)).map
      (fun op => .object [("path", .string path), ("operator", op.toJson)]))

theorem map_path_filesOf (files : List (String × String))
    : (filesOf files).map File.path = (files.map Prod.fst).eraseDups := by
  rw [filesOf, List.map_map, ← OrderedMap.map_key_lastBy, ← OrderedMap.toList_ofList]
  rfl

theorem jobs_filesOf (files : List (String × String)) (ops : List Operator) (number : Int)
    : (Plan.ofSource (.list (filesOf files)) ops number).jobs
      = (filesOf files).flatMap (Plan.jobsFor ops number) := by
  have hnodup : ((filesOf files).map File.path).Nodup := by
    rw [filesOf, List.map_map]
    exact (OrderedMap.ofList files).nodup_keys
  rw [Plan.jobs_ofSource_eq_flatMap, Plan.values_toMap_list, OrderedMap.lastBy_of_nodup hnodup]

theorem map_unit_jobs_filesOf (files : List (String × String)) (ops : List Operator) (number : Int)
    : (Plan.ofSource (.list (filesOf files)) ops number).jobs.map (fun job =>
        Json.object [("path", .string job.file.path), ("operator", job.op.toJson)])
      = units (files.map Prod.fst).eraseDups ops := by
  rw [jobs_filesOf, List.map_flatMap, units, ← map_path_filesOf, List.flatMap_map]
  simp only [Plan.jobsFor, List.map_map]
  rfl

theorem planAnswer_eq_ok {id : Json} {number : Int} (h : Json.readSearchId id = .ok number)
    (options : Options) (query : String) (files : List (String × String))
    : planAnswer options query files id
      = .ok (.object [("search_id", id),
          ("count", .ofNat (units (files.map Prod.fst).eraseDups
            (Operator.ofQuery options query)).length),
          ("units", .array (units (files.map Prod.fst).eraseDups
            (Operator.ofQuery options query)))]) := by
  rw [planAnswer, h, ← map_unit_jobs_filesOf files _ number, List.length_map]
  rfl

end Tools

namespace Answer

end Answer

end SearchBox

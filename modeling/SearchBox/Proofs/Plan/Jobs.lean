import SearchBox.Plan
import SearchBox.Proofs.OrderedMap

/-!
This module contains the jobs of a plan: which files they are for, which operators each file gets,
and in which order they come. Neither a file nor an operator is lost on the way, and none is there
twice unless it was given twice.
-/

namespace SearchBox

open OrderedMap

theorem Operator.appliesTo_iff {op : Operator} {fileType : Option String}
    : op.appliesTo fileType = true
      ↔ op.options.fileType = none ∨ op.options.fileType = fileType := by
  simp [appliesTo]

namespace Plan

/--
One job for each operator that is for files of any type or of the type of this file.
-/
def jobsFor (ops : List Operator) (id : Int) (file : File) : List Job :=
  let fileType := Path.fileType? file.path
  (ops.filter (fun op => op.options.fileType = none ∨ op.options.fileType = fileType)).map
    (⟨file, ·, id⟩)

theorem jobsOf_eq_jobsFor (plan : Plan) (file : File)
    : plan.jobsOf file = jobsFor plan.operators plan.id file := by
  rw [jobsOf, jobsFor, List.filter_congr]
  intro op _
  rw [Bool.eq_iff_iff, Operator.appliesTo_iff, decide_eq_true_iff]

theorem jobs_ofSource_eq_flatMap (source : FileSource) (ops : List Operator) (id : Int)
    : (ofSource source ops id).jobs = source.toMap.values.flatMap (jobsFor ops id) := by
  rw [jobs, List.flatMap_congr fun file _ => jobsOf_eq_jobsFor _ file]
  rfl

/--
The keys under which the files are given, those of a list with their repetitions.
-/
def keysOf : FileSource → List String
  | .list files => files.map File.path
  | .map files => files.toList.map Prod.fst

theorem size_files_ofSource (source : FileSource) (ops : List Operator) (id : Int)
    : (ofSource source ops id).files.size = (keysOf source).eraseDups.length := by
  cases source with
  | list files =>
    unfold ofSource FileSource.toMap size keysOf
    rw [toList_ofList, lastBy_map, List.length_map, ← map_key_lastBy, List.length_map]
  | map files =>
    unfold keysOf
    rw [← map_key_lastBy, lastBy_of_nodup files.nodup_keys, List.length_map]
    rfl

theorem values_toMap_list (files : List File)
    : (FileSource.list files).toMap.values = lastBy File.path files := by
  rw [FileSource.toMap, values, toList_ofList, lastBy_map, List.map_map]
  exact List.map_id _

theorem values_toMap_map (entries : List (String × File))
    : (FileSource.map (.ofList entries)).toMap.values
      = (lastBy Prod.fst entries).map Prod.snd := by
  rw [FileSource.toMap, values, toList_ofList]

/--
The jobs go through the files in the order in which their paths or keys come first, and take the
last file for each. A file gets the operators for its path in their order. The files of a plan make
the same plan again.
-/
theorem jobs_ofSource (ops : List Operator) (id : Int)
    : (∀ files : List File,
        (ofSource (.list files) ops id).jobs = (lastBy File.path files).flatMap (jobsFor ops id)
          ∧ (lastBy File.path files).map File.path = (files.map File.path).eraseDups)
      ∧ (∀ entries : List (String × File),
        (ofSource (.map (.ofList entries)) ops id).jobs
            = (lastBy Prod.fst entries).flatMap (fun entry => jobsFor ops id entry.2)
          ∧ (lastBy Prod.fst entries).map Prod.fst = (entries.map Prod.fst).eraseDups)
      ∧ ∀ source : FileSource,
        ofSource (.map (.ofList (ofSource source ops id).files.toList)) ops id
          = ofSource source ops id := by
  refine ⟨?_, ?_, ?_⟩
  . intro files
    refine ⟨?_, map_key_lastBy File.path files⟩
    rw [jobs_ofSource_eq_flatMap, values_toMap_list]
  . intro entries
    refine ⟨?_, map_key_lastBy Prod.fst entries⟩
    rw [jobs_ofSource_eq_flatMap, values_toMap_map, List.flatMap_map]
  . intro source
    rw [ofList_toList]
    rfl

end Plan

end SearchBox

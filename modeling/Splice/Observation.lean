import Splice.Command

/-!
# Observations

How a run meets a file system that is too large to be held as a value. What has been observed of
some paths makes a snapshot in which all other paths lead nowhere. A run over it tells which paths
it looks up; once all of them have been observed, the run is the same as over the whole file
system, as it never asks about any other path.
-/

namespace Splice

/-- What has been seen of one path. -/
structure Observation where
  /-- The path. -/
  path : Path
  /-- The canonical path of what it leads to. -/
  canonical? : Option Path
  /-- What opening it yields. -/
  source : Except Fault Source

namespace Snapshot

/-- What has been observed of a path. -/
def observation? (observed : List Observation) (path : Path) : Option Observation :=
  observed.find? fun observation => observation.path = path

/-- The snapshot that holds what has been observed. -/
def ofObservations (observed : List Observation) : Snapshot where
  canonical? path := (observation? observed path).bind Observation.canonical?
  source path :=
    match observation? observed path with
    | some observation => observation.source
    | none => .error .notFound
  identities := observed.map fun observation =>
    (observation.canonical?.getD observation.path).components
  known := by
    intro path content opened
    cases seen : observation? observed path with
    | none => simp [seen] at opened
    | some observation =>
      have isIn := List.mem_of_find?_eq_some seen
      have same : observation.path = path := by
        have := List.find?_some seen
        simpa using this
      refine List.mem_map.2 ⟨observation, isIn, ?_⟩
      simp [same]

end Snapshot

namespace Trace

/-- The path that a step of a parse looks up. -/
def lookup? : Trace → Option Path
  | .including _ target => some target
  | .reading .. | .recorded _ => none

end Trace

namespace Command

/-- The paths that parsing a file looks up. -/
def fileLookups (surroundings : Surroundings) (settings : Settings) (file : Path) : List Path :=
  let root := match surroundings.homes.resolve file with
    | .ok path => [path]
    | .error _ => []
  let progress :=
    parse surroundings.snapshot settings Handler.discard surroundings.homes file ()
  root ++ progress.trace.toList.filterMap Trace.lookup?

/-- The paths that a run looks up. -/
def lookups (surroundings : Surroundings) (options : Options) : List Path :=
  let presets := match Configuration.presetsPath options surroundings.homes.own with
    | .ok path => [path]
    | .error _ => []
  let configuration :=
    Configuration.resolve (content surroundings.snapshot) surroundings.homes.own options
  match configuration, filesFor surroundings options with
  | .ok configuration, .ok (files, _) =>
    presets ++ files.flatMap (fileLookups surroundings configuration.settings)
  | _, _ => presets

end Command

end Splice

import UrbanFlow.Core.Text
import UrbanFlow.Library.FileSystem

/-!
# The model registry

Trained models are kept in a directory, one directory a version, with an index of the
versions of each name and of their stages. The index is replaced by a rename; a version's
directory and metadata are written in place. Each operation is the file operations it
performs.
-/

namespace UrbanFlow

open FileProgram

/-- `STAGES`. -/
inductive ModelStage
  | none
  | staging
  | production
  | archived
  deriving DecidableEq, Repr

namespace ModelStage

/-- The stage as the index writes it. -/
def text : ModelStage → String
  | .none => "none"
  | .staging => "staging"
  | .production => "production"
  | .archived => "archived"

/-- A text that is one of `STAGES`. -/
def ofText? (text : String) : Option ModelStage :=
  [ModelStage.none, .staging, .production, .archived].find? fun stage => stage.text = text

end ModelStage

/-- `meta.json` of a version. -/
structure ModelMetadata (Value : Type) where
  name : String
  version : Nat
  algo : String
  metrics : List (String × Value) := []
  tags : List (String × String) := []
  runId : Option String := none
  registeredAt : String
  deriving DecidableEq

inductive PromotionNote (Value : Type)
  | text (note : String)
  | compared (metric : String) (candidate incumbent : Option Value)
  deriving DecidableEq

/-- A row of the history of a name. -/
structure PromotionRow (Value : Type) where
  version : Int
  stage : String
  note : PromotionNote Value
  time : String
  deriving DecidableEq

/-- The entry of a name. The keys of `stages` are written as decimals. -/
structure ModelEntry (Value : Type) where
  versions : List Nat := []
  stages : List (Int × ModelStage) := []
  history : List (PromotionRow Value) := []
  deriving DecidableEq

/-- `index.json`. -/
abbrev ModelIndex (Value : Type) := List (String × ModelEntry Value)

/-- The contents of files: a saved model, the index, the metadata of a version, and a file
that is open for writing. -/
inductive RegistryFile (Data Value : Type)
  | model (data : Data)
  | index (index : ModelIndex Value)
  | metadata (metadata : ModelMetadata Value)
  | truncated
  deriving DecidableEq

/-- What the registry raises. -/
inductive ModelError
  | os (error : OsError)
  | json
  | key (message : List (MessagePart String))
  | value (message : List (MessagePart String))
  deriving DecidableEq, Repr

/-- `dict[key] = value`. -/
def setKey {Key Value : Type} [DecidableEq Key] (key : Key) (value : Value) :
    List (Key × Value) → List (Key × Value)
  | [] => [(key, value)]
  | item :: items => if item.1 = key then (key, value) :: items else item :: setKey key value items

/-- The components of `Path(name)`. -/
def nameParts (name : String) : List String :=
  ((name.toList.splitOn '/').map String.ofList).filter fun part => part ≠ "" ∧ part ≠ "."

/-- A name whose directory lies in the registry's: it is relative and does not lead
upwards. -/
structure ModelName where
  text : String
  relative : text.toList.head? ≠ some '/'
  inside : ".." ∉ nameParts text
  deriving DecidableEq

namespace ModelRegistry

/-- `root / name`. -/
def directory (root : FsPath) (name : ModelName) : FsPath := (nameParts name.text).reverse ++ root

section

variable (root : FsPath) (name : ModelName) (version : Int)

/-- `root / name / f"v{version}"`. -/
def versionDirectory : FsPath := ("v" ++ toString version) :: directory root name

/-- The model of a version. -/
def modelPath : FsPath := "model.zip" :: versionDirectory root name version

/-- The metadata of a version. -/
def metaPath : FsPath := "meta.json" :: versionDirectory root name version

end

def indexPath (root : FsPath) : FsPath := "index.json" :: root

/-- `_index_path.with_suffix(".tmp")`. -/
def temporaryPath (root : FsPath) : FsPath := "index.tmp" :: root

variable {Data Value : Type}

/-- The programs of the registry. -/
abbrev Operation (Data Value Result : Type) :=
  FileProgram (RegistryFile Data Value) ModelError Result

section

variable (root : FsPath)

def load : Operation Data Value (ModelIndex Value) := .read fun fs =>
    match fs (indexPath root) with
    | none => .ok []
    | some .directory => .error (.os .isADirectory)
    | some (.file (.index index)) => .ok index
    | some (.file _) => .error .json

/-- A file is opened for writing and written. -/
def writeFile (path : FsPath) (content : RegistryFile Data Value) : Operation Data Value Unit := do
  perform .os (.truncate path .truncated)
  perform .os (.write path content)

def save (index : ModelIndex Value) : Operation Data Value Unit := do
  writeFile (temporaryPath root) (.index index)
  perform .os (.replace (temporaryPath root) (indexPath root))

/-- The entry of a name, or the one `setdefault` makes. -/
def entryOf (index : ModelIndex Value) (name : ModelName) : ModelEntry Value :=
  (index.lookup name.text).getD {}

def notRegistered (name : ModelName) (version : Int) : ModelError :=
  .key [.str name.text, .text " v", .count version, .text " is not registered"]

/-- `register`: the model is copied in as the next version. The source is what
`model_path` holds, if it is a file. -/
def register (name : ModelName) (source : Option Data) (algo : String)
    (metrics : List (String × Value))
    (tags : List (String × String))
    (runId : Option String)
    (now : String) : Operation Data Value Nat := do
  match source with
  | none => raise (.os .fileNotFound)
  | some data =>
    let index ← load root
    let entry := entryOf index name
    let version := entry.versions.length + 1
    mkdirs .os (versionDirectory root name version) false
    writeFile (modelPath root name version) (.model data)
    writeFile (metaPath root name version) (.metadata
        { name := name.text
          version := version
          algo := algo
          metrics := metrics
          tags := tags
          runId := runId
          registeredAt := now })
    save root (setKey name.text { entry with
          versions := entry.versions ++ [version]
          stages := setKey (version : Int) .none entry.stages }
        index)
    return version

/-- The stages of an entry after a version moves to a stage: one production version per
model. -/
def restaged (version : Int) (stage : ModelStage)
    (stages : List (Int × ModelStage)) : List (Int × ModelStage) :=
  let demoted := if stage = .production then stages.map fun item =>
        if item.2 = .production then (item.1, ModelStage.archived) else item
    else stages
  setKey version stage demoted

def setStage (name : ModelName) (version : Int) (stage : String) : Operation Data Value Unit := do
  match ModelStage.ofText? stage with
  | none =>
    raise (.value
      [.text "stage must be one of ('none', 'staging', 'production', 'archived')"])
  | some stage =>
    let index ← load root
    match index.lookup name.text with
    | none => raise (notRegistered name version)
    | some entry =>
      if (entry.stages.lookup version).isSome then save root (setKey name.text
            { entry with stages := restaged version stage entry.stages } index)
      else raise (notRegistered name version)

end

def versions (root : FsPath) (name : ModelName) : Operation Data Value (List Nat) := do
  let index ← load root
  return (entryOf index name).versions

/-- What a caller asks `resolve` for. -/
inductive Wanted
  | latest
  | version (version : Int)
  | stage (stage : String)
  deriving DecidableEq, Repr

/-- The greatest of the versions in a stage. -/
def latestIn (stage : String) (stages : List (Int × ModelStage)) : Option Int :=
  ((stages.filter fun item => item.2.text = stage).map Prod.fst).max?

/-- `resolve`: the model file of a version number, of a stage or of the latest version. -/
def resolve (root : FsPath) (name : ModelName) (wanted : Wanted) : Operation Data Value FsPath := do
  let index ← load root
  match (entryOf index name).versions.getLast? with
  | none => raise (.key [.text "no model registered as ", .repr name.text])
  | some last =>
    let version ← match wanted with
      | .latest => pure (last : Int)
      | .version version => pure version
      | .stage stage =>
        match latestIn stage (entryOf index name).stages with
        | some version => pure version
        | none =>
          raise (.key [.str name.text, .text " has no version in stage ", .repr stage])
    read fun fs =>
      match fs (modelPath root name version) with
      | some (.file _) => .ok (modelPath root name version)
      | _ => .error (notRegistered name version)

def metadata (root : FsPath) (name : ModelName) (version : Int) :
    Operation Data Value (ModelMetadata Value) :=
  .read fun fs =>
    match fs.content (metaPath root name version) with
    | .ok (.metadata metadata) => .ok metadata
    | .ok _ => .error .json
    | .error error => .error (.os error)

section

variable (root : FsPath) (name : ModelName)

def stageVersion (stage : String) : Operation Data Value (Option Int) := do
  let index ← load root
  return latestIn stage (entryOf index name).stages

def updateMetrics (version : Int)
    (metrics : List (String × Value)) : Operation Data Value Unit := do
  let data ← metadata root name version
  writeFile (metaPath root name version) (.metadata { data with
        metrics := metrics.foldl (fun merged item => setKey item.1 item.2 merged) data.metrics })

def promote (version : Int) (stage : String) (note : PromotionNote Value)
    (now : String) : Operation Data Value Unit := do
  setStage root name version stage
  let index ← load root
  match index.lookup name.text with
  | none => raise (.key [.repr name.text])
  | some entry =>
    save root (setKey name.text { entry with
          history := entry.history ++
            [{ version := version, stage := stage, note := note, time := now }] }
        index)

end

/-- What `promote_if_better` returns. -/
structure PromotionResult (Value : Type) where
  promoted : Bool
  reason : String
  candidate : Option Value
  incumbent : Option Value
  deriving DecidableEq

/-- One stored metric is strictly better than another. -/
def Better [LT Value] (lowerIsBetter : Bool) (candidate incumbent : Value) : Prop :=
  if lowerIsBetter then candidate < incumbent else incumbent < candidate

instance [LT Value] [DecidableLT Value] (lowerIsBetter : Bool) (candidate incumbent : Value) :
    Decidable (Better lowerIsBetter candidate incumbent) := by
  unfold Better
  infer_instance

/-- The metric of the version in a stage, if there is one. -/
def heldMetric (root : FsPath) (name : ModelName)
    (metric : String) : Option Int → Operation Data Value (Option Value)
  | none => return none
  | some version => do
    let data ← metadata root name version
    return data.metrics.lookup metric

section

variable [LT Value] [DecidableLT Value] (root : FsPath) (name : ModelName) (version : Int)
  (metric : String) (lowerIsBetter : Bool) (stage now : String)

/-- `promote_if_better`, once the metrics are read. -/
def promoteOver (candidate : Option Value) (held : Option Int)
    (incumbent : Option Value) : Operation Data Value (PromotionResult Value) :=
  if held = some version then
    return { promoted := false, reason := "already in stage", candidate, incumbent }
  else match candidate, held, incumbent with
    | none, _, _ =>
      return { promoted := false, reason := "candidate has no " ++ metric,
               candidate := none, incumbent }
    | some _, none, _ => do
      promote root name version stage (.compared metric candidate incumbent) now
      return { promoted := true, reason := "no incumbent", candidate, incumbent }
    | some _, some _, none =>
      return { promoted := false, reason := "incumbent has no " ++ metric, candidate,
               incumbent := none }
    | some better, some _, some worse =>
      if Better lowerIsBetter better worse then do
        promote root name version stage (.compared metric candidate incumbent) now
        return { promoted := true, reason := "better than incumbent", candidate,
                 incumbent }
      else
        return { promoted := false, reason := "not better than incumbent", candidate,
                 incumbent }

def promoteIfBetter : Operation Data Value (PromotionResult Value) := do
  let data ← metadata root name version
  let held ← stageVersion root name stage
  let incumbent ← heldMetric root name metric held
  promoteOver root name version metric lowerIsBetter stage now
    (data.metrics.lookup metric) held incumbent

end

end ModelRegistry
end UrbanFlow

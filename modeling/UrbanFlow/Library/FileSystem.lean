import Mathlib.Data.List.Infix

/-!
# File operations that may be cut off

A file system takes a path to a directory or to a file with its content. A program
performs file operations one after another and returns or raises. Cut off after some of
its operations, it leaves the file system that these leave.
-/

/-- What a path leads to. -/
inductive FsNode (Content : Type)
  | directory
  | file (content : Content)
  deriving DecidableEq

/-- A path: its last component comes first. -/
abbrev FsPath := List String

abbrev FileSystem (Content : Type) := FsPath → Option (FsNode Content)

inductive OsError
  | fileNotFound
  | fileExists
  | notADirectory
  | isADirectory
  deriving DecidableEq, Repr

/-- A file operation. Opening a file for writing leaves it with a content of its own,
until something is written. -/
inductive FileOp (Content : Type)
  | mkdir (path : FsPath)
  | truncate (path : FsPath) (content : Content)
  | write (path : FsPath) (content : Content)
  | replace (source target : FsPath)
  deriving DecidableEq

namespace FileSystem

variable {Content : Type} {fs : FileSystem Content}

variable {path other : FsPath}

/-- Every path that leads to something lies in a directory. -/
def WellFormed (fs : FileSystem Content) : Prop :=
  ∀ name parent, fs (name :: parent) ≠ none → fs parent = some .directory

/-- The error of a path that leads to nothing: it lies in a file, or in nothing. -/
def missing (fs : FileSystem Content) : FsPath → OsError
  | [] => .fileNotFound
  | _ :: parent =>
    match fs parent with
    | some .directory => .fileNotFound
    | some (.file _) => .notADirectory
    | none => missing fs parent

/-- What is in the way of a new entry of a directory. -/
def checkParent (fs : FileSystem Content) (path : FsPath) : Except OsError Unit := match path with
  | [] => .error .fileExists
  | _ :: parent =>
    match fs parent with
    | some .directory => .ok ()
    | _ => .error (fs.missing path)

/-- The content of a file that is opened for reading. -/
def content (fs : FileSystem Content) (path : FsPath) : Except OsError Content := match fs path with
  | some (.file content) => .ok content
  | some .directory => .error .isADirectory
  | none => .error (fs.missing path)

/-- The file system with a path and all that it lies in as directories. -/
def fill (path : FsPath) (fs : FileSystem Content) : FileSystem Content :=
  fun other => if other <:+ path then some .directory else fs other

theorem fill_of_suffix (isSuffix : other <:+ path) : fill path fs other = some .directory := by
  rw [fill, if_pos isSuffix]

theorem fill_of_not_suffix (notSuffix : ¬ other <:+ path) : fill path fs other = fs other := by
  rw [fill, if_neg notSuffix]

/-- Nothing a path lies in, nor the path itself, is a file. -/
def Clear (path : FsPath) (fs : FileSystem Content) : Prop :=
  ∀ other, other <:+ path → ∀ content, fs other ≠ some (.file content)

theorem Clear.of_suffix (clear : fs.Clear path) (isSuffix : other <:+ path) : fs.Clear other :=
  fun further isFurther => clear further (isFurther.trans isSuffix)

theorem missing_of_clear (clear : fs.Clear path) : fs.missing path = .fileNotFound := by
  induction path with
  | nil => rfl
  | cons name parent ih =>
    have clearParent := clear.of_suffix (List.suffix_cons name parent)
    unfold missing
    cases there : fs parent with
    | none => exact ih clearParent
    | some node =>
      cases node with
      | directory => rfl
      | file content => exact absurd there (clearParent _ (List.suffix_refl _) content)

theorem WellFormed.directory_of_suffix (well : fs.WellFormed)
    (isDirectory : fs path = some .directory) (isSuffix : other <:+ path) :
    fs other = some .directory := by
  induction path with
  | nil =>
    rw [List.suffix_nil.mp isSuffix]
    exact isDirectory
  | cons name parent ih =>
    rcases List.suffix_cons_iff.mp isSuffix with same | isSuffix
    · rw [same]
      exact isDirectory
    · exact ih (well name parent (by simp [isDirectory])) isSuffix

theorem fill_of_directory (well : fs.WellFormed) (isDirectory : fs path = some .directory) :
    fill path fs = fs := by
  funext other
  by_cases isSuffix : other <:+ path
  · rw [fill_of_suffix isSuffix, well.directory_of_suffix isDirectory isSuffix]
  · exact fill_of_not_suffix isSuffix

theorem fill_cons (name : String) (parent : FsPath) (fs : FileSystem Content) :
    fill (name :: parent) fs =
      Function.update (fill parent fs) (name :: parent) (some .directory) := by
  funext other
  by_cases same : other = name :: parent
  · rw [same, Function.update_self, fill_of_suffix (List.suffix_refl _)]
  · rw [Function.update_of_ne same]
    simp only [fill, List.suffix_cons_iff, same, false_or]

theorem WellFormed.fill (well : fs.WellFormed) (path : FsPath) :
    (FileSystem.fill path fs).WellFormed := by
  intro name parent isThere
  by_cases isSuffix : name :: parent <:+ path
  · exact fill_of_suffix ((List.suffix_cons name parent).trans isSuffix)
  · rw [fill_of_not_suffix isSuffix] at isThere
    by_cases isParent : parent <:+ path
    · exact fill_of_suffix isParent
    · rw [fill_of_not_suffix isParent]
      exact well name parent isThere

/-- A path does not lie in what it holds. -/
theorem not_cons_suffix (name : String) (parent : FsPath) : ¬ name :: parent <:+ parent := by
  intro isSuffix
  have isLonger := isSuffix.length_le
  rw [List.length_cons] at isLonger
  omega

end FileSystem

/-- An entry of a directory is not the directory. -/
theorem FsPath.cons_ne (name : String) (parent : FsPath) : name :: parent ≠ parent := by
  intro same
  have sameLength := congrArg List.length same
  rw [List.length_cons] at sameLength
  omega

namespace FileOp

variable {Content : Type}

/-- The error that an operation raises, if any. -/
def check (fs : FileSystem Content) : FileOp Content → Except OsError Unit
  | .mkdir path =>
    match fs path with
    | some _ => .error .fileExists
    | none => fs.checkParent path
  | .truncate path _ =>
    match fs path with
    | some .directory => .error .isADirectory
    | some (.file _) => .ok ()
    | none => fs.checkParent path
  | .write _ _ => .ok ()
  | .replace source target =>
    match fs source, fs target with
    | none, _ => .error .fileNotFound
    | _, some .directory => .error .isADirectory
    | _, _ => .ok ()

/-- The file system that an operation leaves. -/
def apply (fs : FileSystem Content) : FileOp Content → FileSystem Content
  | .mkdir path => Function.update fs path (some .directory)
  | .truncate path content => Function.update fs path (some (.file content))
  | .write path content => Function.update fs path (some (.file content))
  | .replace source target => Function.update (Function.update fs target (fs source)) source none

/-- The file system that operations leave. -/
def applyAll (ops : List (FileOp Content)) (fs : FileSystem Content) : FileSystem Content :=
  ops.foldl apply fs

variable (fs : FileSystem Content)

@[simp] theorem applyAll_nil : applyAll [] fs = fs := rfl

@[simp] theorem applyAll_cons (op : FileOp Content) (ops : List (FileOp Content)) :
    applyAll (op :: ops) fs = applyAll ops (op.apply fs) := rfl

@[simp] theorem applyAll_append (first second : List (FileOp Content)) :
    applyAll (first ++ second) fs = applyAll second (applyAll first fs) :=
  List.foldl_append

end FileOp

/-- A program: the operations it performs on a file system, and how it ends. -/
structure FileProgram (Content Error Value : Type) where
  run : FileSystem Content → List (FileOp Content) × Except Error Value

namespace FileProgram

variable {Content Error Value Other : Type}

/-- Returning a value. -/
def give (value : Value) : FileProgram Content Error Value where
  run _ := ([], .ok value)

/-- One program after another; an exception of the first ends both. -/
def andThen (first : FileProgram Content Error Value)
    (next : Value → FileProgram Content Error Other) : FileProgram Content Error Other where
  run fs := match first.run fs with
    | (ops, .error error) => (ops, .error error)
    | (ops, .ok value) =>
      (ops ++ ((next value).run (FileOp.applyAll ops fs)).1,
        ((next value).run (FileOp.applyAll ops fs)).2)

instance : Monad (FileProgram Content Error) where
  pure := give
  bind := andThen

/-- Raising an exception. -/
def raise (error : Error) : FileProgram Content Error Value where
  run _ := ([], .error error)

def read (view : FileSystem Content → Except Error Value) : FileProgram Content Error Value where
  run fs := ([], view fs)

/-- One operation. -/
def perform (raises : OsError → Error) (op : FileOp Content) : FileProgram Content Error Unit where
  run fs := match op.check fs with
    | .error error => ([], .error (raises error))
    | .ok () => ([op], .ok ())

/-- The file system that a program leaves when it is cut off after some operations. -/
def cutOff (program : FileProgram Content Error Value) (count : Nat)
    (fs : FileSystem Content) : FileSystem Content :=
  FileOp.applyAll ((program.run fs).1.take count) fs

theorem pure_run (value : Value) (fs : FileSystem Content) :
    (pure value : FileProgram Content Error Value).run fs = ([], .ok value) := rfl

section

variable {first : FileProgram Content Error Value}
  {next : Value → FileProgram Content Error Other} {fs : FileSystem Content}
  {ops : List (FileOp Content)}

theorem bind_run {value : Value} (returns : first.run fs = (ops, .ok value)) :
    (first >>= next).run fs = (ops ++ ((next value).run (FileOp.applyAll ops fs)).1,
        ((next value).run (FileOp.applyAll ops fs)).2) := by
  change (andThen first next).run fs = _
  dsimp only [andThen]
  rw [returns]

theorem bind_raise {error : Error} (raises : first.run fs = (ops, .error error)) :
    (first >>= next).run fs = (ops, .error error) := by
  change (andThen first next).run fs = _
  dsimp only [andThen]
  rw [raises]

end

/-- A returned value adds no operation. -/
theorem bind_pure_ops (program : FileProgram Content Error Value) (value : Other)
    (fs : FileSystem Content) :
    ((program >>= fun _ => pure value).run fs).1 = (program.run fs).1 := by
  cases ran : program.run fs with
  | mk ops result =>
    cases result with
    | error => rw [bind_raise ran]
    | ok _ =>
      rw [bind_run ran, pure_run]
      exact List.append_nil ops

theorem perform_run (raises : OsError → Error) {op : FileOp Content} {fs : FileSystem Content}
    (passes : op.check fs = .ok ()) : (perform raises op).run fs = ([op], .ok ()) := by
  dsimp only [perform]
  rw [passes]

/-- `Path.mkdir` without its parents. -/
def mkdirOne (raises : OsError → Error) (path : FsPath) (existOk : Bool) :
    FileProgram Content Error Unit where
  run fs := match (FileOp.mkdir path).check fs with
    | .ok () => ([.mkdir path], .ok ())
    | .error .fileNotFound => ([], .error (raises .fileNotFound))
    | .error error =>
      match existOk, fs path with
      | true, some .directory => ([], .ok ())
      | _, _ => ([], .error (raises error))

/-- `Path.mkdir` with its parents. -/
def mkdirs (raises : OsError → Error) : FsPath → Bool → FileProgram Content Error Unit
  | [], existOk => mkdirOne raises [] existOk
  | name :: parent, existOk =>
    { run := fun fs =>
        match (FileOp.mkdir (name :: parent)).check fs with
        | .error .fileNotFound =>
          (mkdirs raises parent true >>= fun _ => mkdirOne raises (name :: parent) existOk).run fs
        | _ => (mkdirOne raises (name :: parent) existOk).run fs }

/-- What making a directory and its parents performs: one directory after another, until
all that the path lies in are there. -/
structure Fills (path : FsPath) (fs : FileSystem Content) (ops : List (FileOp Content)) : Prop where
  cut : ∀ count, ∃ other, other <:+ path ∧
    FileOp.applyAll (ops.take count) fs = FileSystem.fill other fs
  all : FileOp.applyAll ops fs = FileSystem.fill path fs

section

variable {fs : FileSystem Content} (raises : OsError → Error) (well : fs.WellFormed)
  (root : fs [] = some .directory)

theorem Fills.nothing {fs : FileSystem Content} (well : fs.WellFormed) {path : FsPath}
    (isDirectory : fs path = some .directory) : Fills path fs [] := by
  have same := FileSystem.fill_of_directory well isDirectory
  refine ⟨fun count => ⟨path, List.suffix_refl _, ?_⟩, same.symm⟩
  rw [List.take_nil, same]
  rfl

/-- One directory more. -/
theorem Fills.mkdir {fs : FileSystem Content} {name : String} {parent : FsPath}
    {ops : List (FileOp Content)} (fills : Fills parent fs ops) :
    Fills (name :: parent) fs (ops ++ [.mkdir (name :: parent)]) := by
  have all : FileOp.applyAll (ops ++ [.mkdir (name :: parent)]) fs =
      FileSystem.fill (name :: parent) fs := by
    rw [FileOp.applyAll_append, fills.all, FileSystem.fill_cons]
    rfl
  refine ⟨fun count => ?_, all⟩
  rcases Nat.lt_or_ge ops.length count with isAll | isCut
  · refine ⟨name :: parent, List.suffix_refl _, ?_⟩
    rw [List.take_of_length_le (by rw [List.length_append, List.length_singleton]; omega)]
    exact all
  · obtain ⟨other, isSuffix, same⟩ := fills.cut count
    refine ⟨other, isSuffix.trans (List.suffix_cons name parent), ?_⟩
    rw [List.take_append_of_le_length isCut, same]

theorem mkdirOne_run {name : String} {parent : FsPath} (isNew : fs (name :: parent) = none)
    (isParent : fs parent = some .directory) (existOk : Bool) :
    (mkdirOne raises (name :: parent) existOk).run fs = ([.mkdir (name :: parent)], .ok ()) := by
  have passes : (FileOp.mkdir (name :: parent)).check fs = .ok () := by
    simp only [FileOp.check, isNew, FileSystem.checkParent, isParent]
  dsimp only [mkdirOne]
  rw [passes]

include well in
/-- A directory that is not there is made after its parents. -/
theorem mkdirs_new {name : String} {parent : FsPath} (clear : fs.Clear parent)
    (isNew : fs (name :: parent) = none) (existOk : Bool)
    (parents : ∃ ops, (mkdirs raises parent true).run fs = (ops, .ok ()) ∧ Fills parent fs ops) :
    ∃ ops, (mkdirs raises (name :: parent) existOk).run fs =
        (ops ++ [.mkdir (name :: parent)], .ok ()) ∧ Fills parent fs ops := by
  unfold mkdirs
  cases there : fs parent with
  | none =>
    have missing : (FileOp.mkdir (name :: parent)).check fs = .error .fileNotFound := by
      simp only [FileOp.check, isNew, FileSystem.checkParent, there, FileSystem.missing,
        FileSystem.missing_of_clear clear]
    obtain ⟨ops, run, fills⟩ := parents
    refine ⟨ops, ?_, fills⟩
    dsimp only
    rw [missing]
    dsimp only
    rw [bind_run run, fills.all, mkdirOne_run raises ?_ ?_ existOk]
    · rw [FileSystem.fill_of_not_suffix (FileSystem.not_cons_suffix name parent)]
      exact isNew
    · exact FileSystem.fill_of_suffix (List.suffix_refl _)
  | some node =>
    cases node with
    | file content => exact absurd there (clear parent (List.suffix_refl _) content)
    | directory =>
      have passes : (FileOp.mkdir (name :: parent)).check fs = .ok () := by
        simp only [FileOp.check, isNew, FileSystem.checkParent, there]
      refine ⟨[], ?_, Fills.nothing well there⟩
      dsimp only
      rw [passes]
      exact mkdirOne_run raises isNew there existOk

include well root in
/-- Where no file is in the way, a directory is there after it is made with its
parents. -/
theorem mkdirs_run {path : FsPath} (clear : fs.Clear path) :
    ∃ ops, (mkdirs raises path true).run fs = (ops, .ok ()) ∧ Fills path fs ops := by
  induction path with
  | nil =>
    refine ⟨[], ?_, Fills.nothing well root⟩
    simp only [mkdirs, mkdirOne, FileOp.check, root]
  | cons name parent ih =>
    have clearParent := clear.of_suffix (List.suffix_cons name parent)
    cases there : fs (name :: parent) with
    | none =>
      obtain ⟨ops, run, fills⟩ := mkdirs_new raises well clearParent there true (ih clearParent)
      exact ⟨_, run, fills.mkdir⟩
    | some node =>
      cases node with
      | file content => exact absurd there (clear _ (List.suffix_refl _) content)
      | directory =>
        refine ⟨[], ?_, Fills.nothing well there⟩
        simp only [mkdirs, mkdirOne, FileOp.check, there]

end

end FileProgram
